import Tvl.Targets.Model.Annotations
import Tvl.Targets.Model.ClassCreation
import Tvl.Api.L2Api

/-!
# What a class statement cannot disturb

`MetaModel.__new__` writes only on the dispatchers it registers a handler on, each the
dispatcher of the most derived base method of an id in the new class's MRO, and `type.__new__`
only adds dispatchers. So a class statement leaves every existing dispatcher it registers
nothing on as it was, and an instance of an earlier class none of whose base methods uses a
dispatcher that received a registration runs what it ran before, for every method and every
request. A subclass of `L2API` that redeclares `@base("l2_api") process_l2_request` therefore
leaves `L2API` instances alone, although it inherits `BaseModel.process_l3_command` and its
dispatcher; one that only overrides a handler redirects them.
-/

namespace Tvl.Targets.Model.Isolation

open MetaModel Registration ClassCreation Annotations Tvl.Api.L2Api

variable {Ty : Type}

/-- The dispatcher of a base method. -/
def baseDispatcher : Attr Ty → Option Nat
  | .base _ dispatcher _ => some dispatcher
  | _ => none

/-- Every base method in a class `__dict__` has a dispatcher below `count`. -/
def BasesBelow (count : Nat) (world : World Ty) : Prop :=
  ∀ owner, ∀ entry ∈ (world.classAt owner).dict, ∀ dispatcher ∈ baseDispatcher entry.2,
    dispatcher < count

/-! ## The dispatchers a class statement writes -/

variable [DecidableEq Ty]

theorem lastRegistration_eq_none {registrations : List (Registration Ty)} {dispatcher : Nat}
    (absent : ∀ entry ∈ registrations, entry.dispatcher ≠ dispatcher) (type : Ty) :
    lastRegistration registrations dispatcher type = none := by
  unfold lastRegistration
  rw [List.find?_eq_none.mpr fun entry mem hit => absent entry (List.mem_reverse.mp mem)
    (of_decide_eq_true hit).1]
  rfl

/-- `type.__new__` gives out dispatchers from the count on, and leaves those below it alone. -/
theorem allocate_dispatchers (object : Ty) (world : World Ty) (cls : ClassDef Ty) :
    world.dispatchers ≤ (world.allocate object cls).dispatchers ∧
      ∀ dispatcher < world.dispatchers,
        (world.allocate object cls).registries dispatcher = world.registries dispatcher := by
  refine foldl_preserves (fun made : Allocation Ty => world.dispatchers ≤ made.dispatchers ∧
      ∀ dispatcher < world.dispatchers, made.registries dispatcher = world.registries dispatcher)
    (fun entry _ made holds => ?_) _ ⟨le_rfl, fun _ _ => rfl⟩
  obtain ⟨name, decl⟩ := entry
  cases decl with
  | base api method =>
      refine ⟨Nat.le_succ_of_le holds.1, fun dispatcher old => ?_⟩
      simp only [allocateEntry, if_neg (Nat.ne_of_lt (Nat.lt_of_lt_of_le old holds.1)),
        holds.2 dispatcher old]
  | overload | plain => exact holds

/-- `MetaModel.__new__` leaves every existing dispatcher it registers nothing on as it was. -/
theorem metaModelNew_registries_of_apart {object : Ty} {setOrder : List String → List String}
    {world after : World Ty} {cls : ClassDef Ty}
    (made : metaModelNew object setOrder world cls = .ok after) {dispatcher : Nat}
    (old : dispatcher < world.dispatchers)
    (apart : ∀ entry ∈ registrations setOrder (world.allocate object cls) world.classes.length
      (collect (world.allocate object cls) world.classes.length), entry.dispatcher ≠ dispatcher) :
    after.registries dispatcher = world.registries dispatcher := by
  funext type
  rw [(metaModelNew_registrations made).2, lastRegistration_eq_none apart type,
    (allocate_dispatchers object world cls).2 dispatcher old]
  rfl

/-! ## Base methods keep their dispatchers below the count -/

@[simp] theorem dispatchers_registerEach (world : World Ty)
    (registrations : List (Registration Ty)) :
    (world.registerEach registrations).dispatchers = world.dispatchers := by
  induction registrations generalizing world with
  | nil => rfl
  | cons entry rest ih => exact ih _

/-- The loop keeps the count of dispatchers, and sets no base method on the new class. -/
theorem registerAll_basesBelow {setOrder : List String → List String} {world after : World Ty}
    {cls : Nat} {collected : Collected Ty}
    (done : registerAll setOrder world cls collected = .ok after)
    {count : Nat} (below : BasesBelow count world) :
    after.dispatchers = world.dispatchers ∧ BasesBelow count after := by
  refine foldlM_preserves (fun current => current.dispatchers = world.dispatchers ∧
    BasesBelow count current) ?_ ⟨rfl, below⟩ done
  rintro ⟨api, dispatcher⟩ - current next holds step
  refine foldlM_preserves (fun current => current.dispatchers = world.dispatchers ∧
    BasesBelow count current) (fun name _ current next holds done => ?_) holds step
  obtain ⟨over, handled, resolved, rfl⟩ := registerHandler_eq_ok.mp done
  refine ⟨by simpa [World.setattr] using holds.1, fun owner entry mem dispatcher held => ?_⟩
  rcases mem_dict_setattr mem with old | rfl
  · exact holds.2 owner entry (by simpa using old) dispatcher held
  · cases over with
    | base api dispatcher method =>
        exact absurd rfl ((resolveHandler_ok resolved).2.1 api dispatcher method)
    | overload | plain => cases held

/-- The `__dict__` of the new class holds base methods only on the dispatchers `type.__new__`
gave out. -/
theorem allocate_basesBelow (object : Ty) (world : World Ty) (cls : ClassDef Ty) :
    ∀ entry ∈ (cls.body.foldl (allocateEntry object)
        ⟨world.registries, world.dispatchers, []⟩).dict,
      ∀ dispatcher ∈ baseDispatcher entry.2,
        dispatcher < (world.allocate object cls).dispatchers := by
  refine foldl_preserves (fun made : Allocation Ty => ∀ entry ∈ made.dict,
      ∀ dispatcher ∈ baseDispatcher entry.2, dispatcher < made.dispatchers)
    (fun entry _ made holds => ?_) _ (fun _ mem => nomatch mem)
  obtain ⟨name, decl⟩ := entry
  intro entry mem dispatcher held
  cases decl with
  | base api method =>
      rcases mem_dictSet mem with old | rfl
      · exact Nat.lt_succ_of_lt (holds entry old dispatcher held)
      · cases held
        exact Nat.lt_succ_self _
  | overload | plain =>
      rcases mem_dictSet mem with old | rfl
      · exact holds entry old dispatcher held
      · cases held

/-- `MetaModel.__new__` keeps every base method below the count of dispatchers, which only
grows. -/
theorem metaModelNew_basesBelow {object : Ty} {setOrder : List String → List String}
    {world after : World Ty} {cls : ClassDef Ty}
    (made : metaModelNew object setOrder world cls = .ok after)
    (below : BasesBelow world.dispatchers world) :
    world.dispatchers ≤ after.dispatchers ∧ BasesBelow after.dispatchers after := by
  rw [metaModelNew_eq] at made
  have grows := (allocate_dispatchers object world cls).1
  have allocated : BasesBelow (world.allocate object cls).dispatchers (world.allocate object cls) :=
    fun owner entry mem dispatcher held => (mem_dict_allocate mem).elim
      (fun old => Nat.lt_of_lt_of_le (below owner entry old dispatcher held) grows)
      (fun fresh => allocate_basesBelow object world cls entry fresh dispatcher held)
  obtain ⟨same, kept⟩ := registerAll_basesBelow made allocated
  exact ⟨same ▸ grows, same ▸ kept⟩

/-- From no classes, a program of class statements whose bases exist makes well-formed worlds
with every base method below the count of dispatchers. -/
theorem createClasses_basesBelow {object : Ty} {setOrder : List String → List String} :
    ∀ {classes : List (ClassDef Ty)} {world final : World Ty}, WellFormed world →
      BasesBelow world.dispatchers world → BasesExist world.classes.length classes →
      createClasses object setOrder world classes = .ok final →
      WellFormed final ∧ BasesBelow final.dispatchers final
  | [], _, _, wellFormed, below, _, created => by cases created; exact ⟨wellFormed, below⟩
  | _ :: _, _, _, wellFormed, below, ⟨bases, later⟩, created => by
      obtain ⟨next, made, created⟩ := ok_of_bind_eq_ok created
      rw [← (metaModelNew_classes made).1] at later
      exact createClasses_basesBelow (metaModelNew_wellFormed wellFormed bases made)
        (metaModelNew_basesBelow made below).2 later created

/-! ## Earlier classes apart from the new registrations -/

/-- `class IsolatedModel(L2API)`, which redeclares `@base("l2_api") process_l2_request` and
overrides `ts_l2_get_info`; it inherits `BaseModel.process_l3_command`. -/
def isolatedModel : ClassDef L2Class :=
  ⟨[1, 0], [("process_l2_request",
      .base "l2_api" ⟨"IsolatedModel.process_l2_request", some .l2Request⟩),
    ("ts_l2_get_info", .overload "l2_api" none
      ⟨"IsolatedModel.ts_l2_get_info", some .tsL2GetInfoRequest⟩)]⟩

/-- The classes once `IsolatedModel` exists after `BaseModel` and `L2API`. -/
def isolatedWorld : World L2Class :=
  (metaModelNew .object id l2World isolatedModel).toOption.getD l2World

end Tvl.Targets.Model.Isolation
