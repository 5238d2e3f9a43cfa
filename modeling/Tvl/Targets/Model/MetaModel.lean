import Mathlib.Data.List.Basic

/-!
# `MetaModel`: registering the API handlers of model classes

`base(id)` wraps a method of a model class in a `singledispatchmethod`, a dispatcher with a
registry from request classes to functions that starts with the method itself for `object`.
`api(id)` marks a handler of that method. When a model class is created, `MetaModel.__new__`
walks the class's MRO from `object` down, collects the base methods by identifier
(`api_bases`), the names of the handlers (`api_over`) and their explicit types
(`api_types`), and registers every handler, as the new class resolves the name, on the
dispatcher of its base method; the handler is then set on the new class. Calling the base
method on an instance looks the method up through the instance's class, and dispatches on the
class of the request.

Classes are numbered in creation order. Request classes form any type `Ty` with its
`__mro__`; the iteration order of a Python `set` of names is the parameter `setOrder`.
-/

namespace Tvl.Targets.Model.MetaModel

/-- A function as the registration sees it: what it is (its qualified name) and the class
`get_type_hints` lists first, the annotation of its request. -/
structure Method (Ty : Type) where
  qualname : String
  annotation : Option Ty
  deriving DecidableEq, Repr

/-- An entry of a class body, before the class exists. -/
inductive Decl (Ty : Type) where
  /-- A method decorated with `base(api)`. -/
  | base (api : String) (method : Method Ty)
  /-- A function decorated with `api(api)`, or `api(api, types)`. -/
  | overload (api : String) (types : Option (List Ty)) (method : Method Ty)
  /-- Any other function. -/
  | plain (method : Method Ty)
  deriving DecidableEq, Repr

/-- A value of a class `__dict__`; a base method holds the number of its dispatcher. -/
inductive Attr (Ty : Type) where
  | base (api : String) (dispatcher : Nat) (method : Method Ty)
  | overload (api : String) (types : Option (List Ty)) (method : Method Ty)
  | plain (method : Method Ty)
  deriving DecidableEq, Repr

/-- The function an attribute calls. -/
def Attr.method {Ty : Type} : Attr Ty → Method Ty
  | .base _ _ method => method
  | .overload _ _ method => method
  | .plain method => method

/-- The function a declaration defines. -/
def Decl.method {Ty : Type} : Decl Ty → Method Ty
  | .base _ method => method
  | .overload _ _ method => method
  | .plain method => method

/-- The declaration an attribute stands for: the attribute without its dispatcher. -/
def Attr.decl {Ty : Type} : Attr Ty → Decl Ty
  | .base api _ method => .base api method
  | .overload api types method => .overload api types method
  | .plain method => .plain method

@[simp] theorem Attr.method_decl {Ty : Type} (attr : Attr Ty) : attr.decl.method = attr.method := by
  cases attr <;> rfl

/-- A class statement: the ancestors in the order of the MRO `type.__new__` computes from
the bases, without `object`, and the body. -/
structure ClassDef (Ty : Type) where
  ancestors : List Nat
  body : List (String × Decl Ty)

/-- A class object: its `__mro__` without `object`, the class itself first, and `__dict__`. -/
structure ClassObject (Ty : Type) where
  mro : List Nat
  dict : List (String × Attr Ty)

/-- A `singledispatch` registry. -/
def Registry (Ty : Type) := Ty → Option (Method Ty)

/-- The classes created so far, and the registries of the dispatchers created so far,
numbered from zero. -/
structure World (Ty : Type) where
  classes : List (ClassObject Ty)
  registries : Nat → Registry Ty
  dispatchers : Nat

/-- The world before the first class statement. -/
def World.empty (Ty : Type) : World Ty :=
  ⟨[], fun _ _ => none, 0⟩

/-- `MetaModel.__new__` fails only where `singledispatch.register` raises `TypeError`. -/
structure TypeError where
  message : String
  deriving DecidableEq, Repr

/-- `d[key] = value` on a dictionary: an existing key keeps its place. -/
def dictSet {α : Type} : List (String × α) → String → α → List (String × α)
  | [], key, value => [(key, value)]
  | (other, old) :: rest, key, value =>
      if other = key then (key, value) :: rest else (other, old) :: dictSet rest key value

theorem lookup_dictSet_self {α : Type} (dict : List (String × α)) (key : String) (value : α) :
    (dictSet dict key value).lookup key = some value := by
  induction dict with
  | nil => simp [dictSet, List.lookup_cons]
  | cons entry rest ih =>
      obtain ⟨other, old⟩ := entry
      by_cases same : other = key
      · simp [dictSet, List.lookup_cons, same]
      · simp [dictSet, List.lookup_cons, same, beq_false_of_ne (Ne.symm same), ih]

theorem lookup_dictSet_of_ne {α : Type} (dict : List (String × α)) {key other : String}
    (value : α) (differ : other ≠ key) :
    (dictSet dict key value).lookup other = dict.lookup other := by
  induction dict with
  | nil => simp [dictSet, List.lookup_cons, beq_false_of_ne differ]
  | cons entry rest ih =>
      obtain ⟨name, old⟩ := entry
      by_cases same : name = key
      · subst same
        simp [dictSet, List.lookup_cons, beq_false_of_ne differ]
      · simp only [dictSet, same, if_false, List.lookup_cons, ih]

variable {Ty : Type}

/-! ## Objects -/

namespace World

/-- The class with a number, or an empty class for a number never given out. -/
def classAt (world : World Ty) (cls : Nat) : ClassObject Ty :=
  world.classes.getD cls ⟨[], []⟩

/-- `getattr(cls, name)`: the first class of the MRO whose `__dict__` has the name. -/
def getattr (world : World Ty) (cls : Nat) (name : String) : Option (Attr Ty) :=
  (world.classAt cls).mro.findSome? fun owner => (world.classAt owner).dict.lookup name

/-- `setattr(cls, name, value)`. -/
def setattr (world : World Ty) (cls : Nat) (name : String) (value : Attr Ty) : World Ty :=
  let update (object : ClassObject Ty) := { object with dict := dictSet object.dict name value }
  { world with classes := world.classes.modify update cls }

@[simp] theorem registries_setattr (world : World Ty) (cls : Nat) (name : String)
    (value : Attr Ty) : (world.setattr cls name value).registries = world.registries :=
  rfl

@[simp] theorem mro_classAt_setattr (world : World Ty) (cls : Nat) (name : String)
    (value : Attr Ty) (owner : Nat) :
    ((world.setattr cls name value).classAt owner).mro = (world.classAt owner).mro := by
  simp only [classAt, setattr, List.getD_eq_getElem?_getD, List.getElem?_modify]
  cases world.classes[owner]? <;> simp only [Option.map_eq_map, Option.map_none',
    Option.map_some', Option.getD_none, Option.getD_some]
  split <;> rfl

@[simp] theorem length_classes_setattr (world : World Ty) (cls : Nat) (name : String)
    (value : Attr Ty) : (world.setattr cls name value).classes.length = world.classes.length :=
  List.length_modify _ _ _

/-- `setattr` touches no other class. -/
theorem classAt_setattr_of_ne (world : World Ty) {cls other : Nat} (name : String)
    (value : Attr Ty) (differ : other ≠ cls) :
    (world.setattr cls name value).classAt other = world.classAt other := by
  simp [classAt, setattr, List.getD_eq_getElem?_getD, List.getElem?_modify, Ne.symm differ]

/-- `setattr` writes the new class's own `__dict__`. -/
theorem dict_classAt_setattr_self {world : World Ty} {cls : Nat}
    (valid : cls < world.classes.length) (name : String) (value : Attr Ty) :
    ((world.setattr cls name value).classAt cls).dict =
      dictSet (world.classAt cls).dict name value := by
  simp [classAt, setattr, List.getD_eq_getElem?_getD, List.getElem?_modify, valid]

theorem lookup_classAt_setattr_of_ne (world : World Ty) (cls : Nat) {name other : String}
    (value : Attr Ty) (differ : other ≠ name) (owner : Nat) :
    ((world.setattr cls name value).classAt owner).dict.lookup other =
      (world.classAt owner).dict.lookup other := by
  simp only [classAt, setattr, List.getD_eq_getElem?_getD, List.getElem?_modify]
  cases world.classes[owner]? <;> simp only [Option.map_eq_map, Option.map_none',
    Option.map_some', Option.getD_none, Option.getD_some]
  split
  · exact lookup_dictSet_of_ne _ value differ
  · rfl

end World

variable [DecidableEq Ty]

/-- `registry[type] = method`. -/
def Registry.update (registry : Registry Ty) (type : Ty) (method : Method Ty) : Registry Ty :=
  fun other => if other = type then some method else registry other

namespace World

/-- `dispatcher.register(type, method)`. -/
def register (world : World Ty) (dispatcher : Nat) (type : Ty) (method : Method Ty) :
    World Ty :=
  { world with registries := fun other =>
      if other = dispatcher then (world.registries other).update type method
      else world.registries other }

@[simp] theorem classes_register (world : World Ty) (dispatcher : Nat) (type : Ty)
    (method : Method Ty) : (world.register dispatcher type method).classes = world.classes :=
  rfl

theorem registries_register (world : World Ty) (dispatcher : Nat) (type : Ty) (method : Method Ty)
    (other : Nat) (otherType : Ty) :
    (world.register dispatcher type method).registries other otherType =
      if dispatcher = other ∧ type = otherType then some method
      else world.registries other otherType := by
  by_cases same : dispatcher = other
  · subst same
    by_cases sameType : type = otherType
    · simp [register, Registry.update, sameType]
    · simp [register, Registry.update, sameType, Ne.symm sameType]
  · simp [register, same, Ne.symm same]

end World

/-- A fresh dispatcher of `singledispatchmethod(method)`: the method serves `object`. -/
def freshRegistry (object : Ty) (method : Method Ty) : Registry Ty :=
  fun type => if type = object then some method else none

/-- What `type.__new__` has made of a class body so far: the registries with the new
dispatchers, their count, and the `__dict__`. -/
structure Allocation (Ty : Type) where
  registries : Nat → Registry Ty
  dispatchers : Nat
  dict : List (String × Attr Ty)

/-- One entry of a class body: a base method gets the next dispatcher. -/
def allocateEntry (object : Ty) (made : Allocation Ty) : String × Decl Ty → Allocation Ty
  | (name, .base api method) =>
      { registries := fun other =>
          if other = made.dispatchers then freshRegistry object method else made.registries other
        dispatchers := made.dispatchers + 1
        dict := dictSet made.dict name (.base api made.dispatchers method) }
  | (name, .overload api types method) =>
      { made with dict := dictSet made.dict name (.overload api types method) }
  | (name, .plain method) => { made with dict := dictSet made.dict name (.plain method) }

/-- `type.__new__`: the new class, numbered after the others, with a fresh dispatcher for
each base method of its body. -/
def World.allocate (object : Ty) (world : World Ty) (cls : ClassDef Ty) : World Ty :=
  let made := cls.body.foldl (allocateEntry object) ⟨world.registries, world.dispatchers, []⟩
  ⟨world.classes ++ [⟨world.classes.length :: cls.ancestors, made.dict⟩], made.registries,
    made.dispatchers⟩

/-- The new class is numbered after the others, and comes first in its own MRO. -/
theorem World.mro_classAt_allocate (object : Ty) (world : World Ty) (cls : ClassDef Ty) :
    ((world.allocate object cls).classAt world.classes.length).mro =
      world.classes.length :: cls.ancestors := by
  simp [World.allocate, World.classAt, List.getD_eq_getElem?_getD]

theorem World.head_mro_allocate (object : Ty) (world : World Ty) (cls : ClassDef Ty) :
    ((world.allocate object cls).classAt world.classes.length).mro.head? =
      some world.classes.length := by
  rw [World.mro_classAt_allocate, List.head?_cons]

/-- `type.__new__` leaves the classes made before alone. -/
theorem World.classAt_allocate_of_lt (object : Ty) (world : World Ty) (cls : ClassDef Ty)
    {other : Nat} (earlier : other < world.classes.length) :
    (world.allocate object cls).classAt other = world.classAt other := by
  simp [World.allocate, World.classAt, List.getD_eq_getElem?_getD,
    List.getElem?_append_left earlier]

@[simp] theorem World.length_classes_allocate (object : Ty) (world : World Ty) (cls : ClassDef Ty) :
    (world.allocate object cls).classes.length = world.classes.length + 1 := by
  simp [World.allocate]

/-! ## `MetaModel.__new__` -/

/-- `api_bases`, `api_over` and `api_types`. -/
structure Collected (Ty : Type) where
  bases : List (String × Nat)
  over : List (String × List String)
  types : List (String × Option (List Ty))

/-- One entry of a class `__dict__` seen by the walk. -/
def collectAttr (collected : Collected Ty) : String × Attr Ty → Collected Ty
  | (_, .base api dispatcher _) =>
      { collected with bases := dictSet collected.bases api dispatcher }
  | (name, .overload api types _) =>
      { collected with
        over := dictSet collected.over api
          (let names := (collected.over.lookup api).getD []
           if names.contains name then names else names ++ [name])
        types := dictSet collected.types name types }
  | (_, .plain _) => collected

/-- The walk over `reversed(new_cls.__mro__[:-1])`. -/
def collect (world : World Ty) (cls : Nat) : Collected Ty :=
  (world.classAt cls).mro.reverse.foldl
    (fun collected owner => (world.classAt owner).dict.foldl collectAttr collected) ⟨[], [], []⟩

/-- A call `dispatcher.register(type, method)`. -/
structure Registration (Ty : Type) where
  dispatcher : Nat
  type : Ty
  method : Method Ty
  deriving DecidableEq, Repr

/-- Registrations made in order. -/
def World.registerEach (world : World Ty) (registrations : List (Registration Ty)) : World Ty :=
  registrations.foldl (fun world entry => world.register entry.dispatcher entry.type entry.method)
    world

/-- The function registered last for a class on a dispatcher, if any. -/
def lastRegistration (registrations : List (Registration Ty)) (dispatcher : Nat) (type : Ty) :
    Option (Method Ty) :=
  (registrations.reverse.find? fun entry =>
    entry.dispatcher = dispatcher ∧ entry.type = type).map Registration.method

namespace World

@[simp] theorem classes_registerEach (world : World Ty) (registrations : List (Registration Ty)) :
    (world.registerEach registrations).classes = world.classes := by
  induction registrations generalizing world with
  | nil => rfl
  | cons entry rest ih => exact ih _

@[simp] theorem classAt_registerEach (world : World Ty) (registrations : List (Registration Ty))
    (cls : Nat) : (world.registerEach registrations).classAt cls = world.classAt cls := by
  simp [classAt]

@[simp] theorem getattr_registerEach (world : World Ty) (registrations : List (Registration Ty)) :
    (world.registerEach registrations).getattr = world.getattr := by
  funext cls name
  simp [getattr]

theorem registries_registerEach_congr {world other : World Ty}
    (same : world.registries = other.registries) (registrations : List (Registration Ty)) :
    (world.registerEach registrations).registries =
      (other.registerEach registrations).registries := by
  induction registrations generalizing world other with
  | nil => exact same
  | cons entry rest ih =>
      exact ih (by funext dispatcher type; simp only [registries_register, same])

theorem registerEach_append (world : World Ty) (first second : List (Registration Ty)) :
    world.registerEach (first ++ second) = (world.registerEach first).registerEach second :=
  List.foldl_append _ _ _ _

theorem lastRegistration_cons (entry : Registration Ty) (rest : List (Registration Ty))
    (dispatcher : Nat) (type : Ty) :
    lastRegistration (entry :: rest) dispatcher type =
      (lastRegistration rest dispatcher type).orElse fun _ =>
        if entry.dispatcher = dispatcher ∧ entry.type = type then some entry.method else none := by
  unfold lastRegistration
  rw [List.reverse_cons, List.find?_append]
  cases rest.reverse.find? fun entry => entry.dispatcher = dispatcher ∧ entry.type = type with
  | some found => rfl
  | none => by_cases hit : entry.dispatcher = dispatcher ∧ entry.type = type <;> simp [hit]

/-- A dispatcher's registry holds, for each class, the function registered for it last. -/
theorem registries_registerEach (world : World Ty) (registrations : List (Registration Ty))
    (dispatcher : Nat) (type : Ty) :
    (world.registerEach registrations).registries dispatcher type =
      (lastRegistration registrations dispatcher type).orElse
        fun _ => world.registries dispatcher type := by
  induction registrations generalizing world with
  | nil => rfl
  | cons entry rest ih =>
      show ((world.register entry.dispatcher entry.type entry.method).registerEach rest).registries
        dispatcher type = _
      rw [ih, registries_register, lastRegistration_cons]
      cases lastRegistration rest dispatcher type <;>
        by_cases hit : entry.dispatcher = dispatcher ∧ entry.type = type <;> simp [hit]

end World

/-- `getattr(new_cls, over_name)`, and the classes `register` files it under: the handler's
explicit types, or its annotation. -/
def resolveHandler (world : World Ty) (cls : Nat) (types : Option (List Ty)) (name : String) :
    Except TypeError (Attr Ty × List Ty) :=
  match world.getattr cls name with
  | none => .error ⟨"no attribute " ++ name⟩
  | some (.base ..) => .error ⟨"a handler name resolves to a base method"⟩
  | some over =>
      match types.orElse fun _ => over.method.annotation.map ([·]) with
      | some types => .ok (over, types)
      | none => .error ⟨"Invalid first argument to register()"⟩

/-- The registrations of a resolved handler on a dispatcher. -/
def handlerRegistrations (dispatcher : Nat) (over : Attr Ty) (types : List Ty) :
    List (Registration Ty) :=
  types.map fun type => ⟨dispatcher, type, over.method⟩

/-- One handler: `getattr(new_cls, over_name)` registered for each of its types, then set on
the new class. -/
def registerHandler (world : World Ty) (cls dispatcher : Nat)
    (types : Option (List Ty)) (name : String) : Except TypeError (World Ty) :=
  (resolveHandler world cls types name).map fun (over, types) =>
    (world.registerEach (handlerRegistrations dispatcher over types)).setattr cls name over

/-- A handler is registered exactly when it resolves; it is then registered for each of its
types and set on the new class. -/
theorem registerHandler_eq_ok {world next : World Ty} {cls dispatcher : Nat}
    {types : Option (List Ty)} {name : String} :
    registerHandler world cls dispatcher types name = .ok next ↔
      ∃ over handled, resolveHandler world cls types name = .ok (over, handled) ∧
        (world.registerEach (handlerRegistrations dispatcher over handled)).setattr cls name over =
          next := by
  unfold registerHandler
  cases resolveHandler world cls types name with
  | error message =>
      exact ⟨fun done => (nomatch done), fun ⟨_, _, resolved, _⟩ => (nomatch resolved)⟩
  | ok pair =>
      exact ⟨fun done => ⟨pair.1, pair.2, rfl, Except.ok.inj done⟩,
        fun ⟨_, _, resolved, built⟩ => by cases resolved; exact congrArg Except.ok built⟩

/-- `for name in names` over a Python `set`, given in insertion order: a set of two or more
strings comes out in an order fixed by their hashes, which `setOrder` stands for. -/
def iterateSet (setOrder : List String → List String) (names : List String) : List String :=
  if names.length ≤ 1 then names else setOrder names

/-- `for over_name in api_over[_id]`: the handlers of one base method. -/
def registerApi (setOrder : List String → List String) (cls : Nat) (collected : Collected Ty)
    (world : World Ty) : String × Nat → Except TypeError (World Ty)
  | (api, dispatcher) =>
      (iterateSet setOrder ((collected.over.lookup api).getD [])).foldlM (fun world name =>
          registerHandler world cls dispatcher ((collected.types.lookup name).join) name)
        world

/-- The registration loop of `MetaModel.__new__`, over `api_bases`. -/
def registerAll (setOrder : List String → List String) (world : World Ty) (cls : Nat)
    (collected : Collected Ty) : Except TypeError (World Ty) :=
  collected.bases.foldlM (registerApi setOrder cls collected) world

/-- `MetaModel.__new__(name, bases, namespace)`. -/
def metaModelNew (object : Ty) (setOrder : List String → List String) (world : World Ty)
    (cls : ClassDef Ty) : Except TypeError (World Ty) :=
  let world := world.allocate object cls
  let created := world.classes.length - 1
  registerAll setOrder world created (collect world created)

/-- `MetaModel.__new__` runs the loop on the class `type.__new__` made, numbered after the
others. -/
theorem metaModelNew_eq (object : Ty) (setOrder : List String → List String) (world : World Ty)
    (cls : ClassDef Ty) :
    metaModelNew object setOrder world cls =
      registerAll setOrder (world.allocate object cls) world.classes.length
        (collect (world.allocate object cls) world.classes.length) := by
  simp only [metaModelNew, World.length_classes_allocate, Nat.add_sub_cancel]

/-- The classes of a program, created one after the other. -/
def createClasses (object : Ty) (setOrder : List String → List String) (world : World Ty) :
    List (ClassDef Ty) → Except TypeError (World Ty)
  | [] => .ok world
  | cls :: rest => do
      let world ← metaModelNew object setOrder world cls
      createClasses object setOrder world rest

/-! ## Calling a base method -/

/-- `_find_impl`: the function registered for the first class of the request's `__mro__`
that the registry holds. -/
def dispatch (registry : Registry Ty) (requestMro : List Ty) : Option (Method Ty) :=
  requestMro.findSome? registry

/-- `instance.name(request)` for an instance of `cls`: the function that runs. -/
def callMethod (mro : Ty → List Ty) (world : World Ty) (cls : Nat) (name : String)
    (request : Ty) : Option (Method Ty) :=
  match world.getattr cls name with
  | some (.base _ dispatcher _) => dispatch (world.registries dispatcher) (mro request)
  | some attr => some attr.method
  | none => none

omit [DecidableEq Ty] in
/-- Calling a method depends on the class only through how it resolves names, and on the world
only through that and the registries. -/
theorem callMethod_congr (mro : Ty → List Ty) {world other : World Ty} {cls : Nat}
    (sameNames : world.getattr cls = other.getattr cls)
    (sameRegistries : world.registries = other.registries) (name : String) (request : Ty) :
    callMethod mro world cls name request = callMethod mro other cls name request := by
  simp only [callMethod, sameNames, sameRegistries]

end Tvl.Targets.Model.MetaModel
