import Tvl.Targets.Model.Registration

/-!
# One registry for all model classes

`MetaModel.__new__` resolves every handler through the new class's own MRO, but registers it
on the dispatcher stored in the base class, which every model class shares. A class defined
later therefore changes the handlers that instances of the earlier classes run: a test-only
subclass of `L2API` that overrides `ts_l2_get_info` redirects `L2API` instances to the
override.
-/

namespace Tvl.Targets.Model.SharedRegistry

open MetaModel Registration

variable {Ty : Type} [DecidableEq Ty]

/-! ## Dispatch per class -/

/-- The classes a handler attribute is registered for: its explicit types, or its
annotation. -/
def handledTypes : Attr Ty → List Ty
  | .overload _ (some types) _ => types
  | attr => attr.method.annotation.toList

/-- The names of the handlers of `api` defined in `cls` or one of its ancestors. -/
def handlerNames (world : World Ty) (cls : Nat) (api : String) : List String :=
  (world.classAt cls).mro.flatMap fun owner =>
    (world.classAt owner).dict.filterMap fun (name, attr) =>
      match attr with
      | .overload other _ _ => if other = api then some name else none
      | _ => none

/-- The function an instance of `cls` would run if dispatch followed its own MRO: among the
handlers `cls` and its ancestors define for the base method, each at its most derived
definition, the one registered for the first class of the request's `__mro__`, else the
base method. -/
def ownHandler (mro : Ty → List Ty) (world : World Ty) (cls : Nat) (name : String)
    (request : Ty) : Option (Method Ty) :=
  match world.getattr cls name with
  | some (.base api _ method) =>
      let handlers := (handlerNames world cls api).filterMap (world.getattr cls)
      some (((mro request).findSome? fun type =>
        (handlers.find? fun handler => (handledTypes handler).contains type).map Attr.method).getD
          method)
  | some attr => some attr.method
  | none => none

/-! ## A subclass that overrides a handler -/

/-- The request classes of the scenario. -/
inductive Request where
  | object
  | l2Request
  | getInfoRequest
  deriving DecidableEq, Repr

/-- Their `__mro__`. -/
def Request.mro : Request → List Request
  | .object => [.object]
  | .l2Request => [.l2Request, .object]
  | .getInfoRequest => [.getInfoRequest, .l2Request, .object]

/-- `class BaseModel(metaclass=MetaModel)` with its `@base("l2_api")` method. -/
def baseModel : ClassDef Request :=
  ⟨[], [("process_l2_request",
    .base "l2_api" ⟨"BaseModel.process_l2_request", some .l2Request⟩)]⟩

/-- `L2API.ts_l2_get_info`. -/
def l2GetInfo : Method Request := ⟨"L2API.ts_l2_get_info", some .getInfoRequest⟩

/-- `class L2API(BaseModel)` with its `@api("l2_api")` handler of `TsL2GetInfoRequest`. -/
def l2Api : ClassDef Request :=
  ⟨[0], [("ts_l2_get_info", .overload "l2_api" none l2GetInfo)]⟩

/-- The override of a subclass that injects a fault. -/
def faultyGetInfo : Method Request := ⟨"FaultyModel.ts_l2_get_info", some .getInfoRequest⟩

/-- `class FaultyModel(L2API)` overriding `ts_l2_get_info`. -/
def faultyModel : ClassDef Request :=
  ⟨[1, 0], [("ts_l2_get_info", .overload "l2_api" none faultyGetInfo)]⟩

/-- An `L2API` instance runs `L2API.ts_l2_get_info` until `FaultyModel` is defined, and
`FaultyModel.ts_l2_get_info` afterwards, although its own MRO still provides the first;
whatever order a `set` of names comes out in. -/
theorem faulty_subclass_redirects_l2api (setOrder : List String → List String) :
    (createClasses .object setOrder (World.empty Request) [baseModel, l2Api]).map
        (fun world => callMethod Request.mro world 1 "process_l2_request" .getInfoRequest) =
      .ok (some l2GetInfo) ∧
    (createClasses .object setOrder (World.empty Request) [baseModel, l2Api, faultyModel]).map
        (fun world => callMethod Request.mro world 1 "process_l2_request" .getInfoRequest) =
      .ok (some faultyGetInfo) ∧
    (createClasses .object setOrder (World.empty Request) [baseModel, l2Api, faultyModel]).map
        (fun world => ownHandler Request.mro world 1 "process_l2_request" .getInfoRequest) =
      .ok (some l2GetInfo) :=
  ⟨rfl, rfl, rfl⟩

/-- The classes once `BaseModel` and `L2API` exist. -/
def l2World : World Request :=
  (createClasses .object id (World.empty Request) [baseModel, l2Api]).toOption.getD
    (World.empty Request)

/-- The classes once `FaultyModel` exists too. -/
def faultyWorld : World Request :=
  (metaModelNew .object id l2World faultyModel).toOption.getD l2World

/-! ## Every class runs what the last class registered -/

/-- After a class is created, an instance of any class whose base method `name` uses a
dispatcher runs, for the first class of the request's `__mro__` that has an entry, the function
the new class registered last for it, else the one the dispatcher held before: which class the
instance belongs to plays no part. -/
theorem created_class_rewrites_shared_dispatch {object : Ty}
    {setOrder : List String → List String} {world after : World Ty} {cls : ClassDef Ty}
    (made : metaModelNew object setOrder world cls = .ok after) (mro : Ty → List Ty)
    {owner : Nat} {name api : String} {dispatcher : Nat} {method : Method Ty}
    (inherits : after.getattr owner name = some (.base api dispatcher method)) (request : Ty) :
    let allocated := world.allocate object cls
    let created := world.classes.length
    callMethod mro after owner name request =
      (mro request).findSome? fun type =>
        (lastRegistration (registrations setOrder allocated created (collect allocated created))
          dispatcher type).orElse fun _ => allocated.registries dispatcher type := by
  intro allocated created
  have registered := (metaModelNew_registrations made).2 dispatcher
  simp only [callMethod, inherits, dispatch]
  exact congrArg (List.findSome? · (mro request)) (funext registered)

theorem l2api_runs_faulty_registration :
    metaModelNew .object id l2World faultyModel = .ok faultyWorld ∧
      faultyWorld.getattr 1 "process_l2_request" =
        some (.base "l2_api" 0 ⟨"BaseModel.process_l2_request", some .l2Request⟩) ∧
      callMethod Request.mro faultyWorld 1 "process_l2_request" .getInfoRequest =
        some faultyGetInfo :=
  have made : metaModelNew .object id l2World faultyModel = .ok faultyWorld := rfl
  have inherits : faultyWorld.getattr 1 "process_l2_request" =
      some (.base "l2_api" 0 ⟨"BaseModel.process_l2_request", some .l2Request⟩) := rfl
  ⟨made, inherits,
    (created_class_rewrites_shared_dispatch made Request.mro inherits .getInfoRequest).trans rfl⟩

end Tvl.Targets.Model.SharedRegistry
