import Tvl.Targets.Model.MetaModel

/-!
# What `MetaModel.__new__` registers

The registration loop reads the new class with `getattr` while it writes to it with `setattr`,
and it writes to dispatchers that other classes share. Neither write disturbs the reads:
`setattr` stores the value `getattr` has just returned, and `register` touches no class. So
the loop makes the registrations of the handlers as the class stood when `type.__new__`
returned, in the order of `api_bases` and of each set of names, and every dispatcher ends up
holding, for each request class, the function registered for it last.
-/

namespace Tvl.Targets.Model.Registration

open MetaModel

variable {Ty : Type}

/-! ## The registrations -/

/-- The registrations of a handler name, as class `cls` of `world` resolves it. -/
def nameRegistrations (world : World Ty) (cls dispatcher : Nat) (types : Option (List Ty))
    (name : String) : List (Registration Ty) :=
  match resolveHandler world cls types name with
  | .ok (over, types) => handlerRegistrations dispatcher over types
  | .error _ => []

/-- The registrations on the dispatcher of one base method. -/
def apiRegistrations (setOrder : List String → List String) (world : World Ty) (cls : Nat)
    (collected : Collected Ty) : String × Nat → List (Registration Ty)
  | (api, dispatcher) =>
      (iterateSet setOrder ((collected.over.lookup api).getD [])).flatMap fun name =>
        nameRegistrations world cls dispatcher ((collected.types.lookup name).join) name

/-- Every registration of the loop, in order. -/
def registrations (setOrder : List String → List String) (world : World Ty) (cls : Nat)
    (collected : Collected Ty) : List (Registration Ty) :=
  collected.bases.flatMap (apiRegistrations setOrder world cls collected)

/-! ## What the loop reads and writes -/

/-- Class `cls` has the same MRO in both worlds and resolves every name alike. -/
def Agrees (cls : Nat) (world other : World Ty) : Prop :=
  (world.classAt cls).mro = (other.classAt cls).mro ∧ world.getattr cls = other.getattr cls

theorem Agrees.trans {cls : Nat} {first second third : World Ty} (near : Agrees cls first second)
    (far : Agrees cls second third) : Agrees cls first third :=
  ⟨near.1.trans far.1, near.2.trans far.2⟩

/-- `after` has as many classes as `world`, and the same class under every number but `cls`. -/
def Frame (cls : Nat) (world after : World Ty) : Prop :=
  after.classes.length = world.classes.length ∧
    ∀ other, other ≠ cls → after.classAt other = world.classAt other

theorem Frame.trans {cls : Nat} {first second third : World Ty} (near : Frame cls first second)
    (far : Frame cls second third) : Frame cls first third :=
  ⟨far.1.trans near.1, fun other differ => (far.2 other differ).trans (near.2 other differ)⟩

theorem ok_of_bind_eq_ok {ε α β : Type} {first : Except ε α} {next : α → Except ε β}
    {result : β} (done : first >>= next = .ok result) :
    ∃ middle, first = .ok middle ∧ next middle = .ok result := by
  cases first with
  | error => cases done
  | ok middle => exact ⟨middle, rfl, done⟩

/-- A property of the world that every step of a loop keeps holds after the loop. -/
theorem foldlM_preserves {α : Type} {step : World Ty → α → Except TypeError (World Ty)}
    (P : World Ty → Prop) :
    ∀ {items : List α}, (∀ item ∈ items, ∀ current next, P current →
      step current item = .ok next → P next) →
      ∀ {current after : World Ty}, P current → items.foldlM step current = .ok after → P after
  | [], _, _, _, holds, done => by cases done; exact holds
  | item :: _, each, _, _, holds, done => by
      obtain ⟨next, first, rest⟩ := ok_of_bind_eq_ok done
      exact foldlM_preserves P (fun other mem => each other (List.mem_cons_of_mem _ mem))
        (each item (List.mem_cons_self _ _) _ _ holds first) rest

/-- A class comes first in its own MRO only if it exists. -/
theorem lt_length_of_mro_head {world : World Ty} {cls : Nat}
    (head : (world.classAt cls).mro.head? = some cls) : cls < world.classes.length := by
  by_contra outside
  simp [World.classAt, List.getD_eq_getElem?_getD, List.getElem?_eq_none (not_lt.mp outside)]
    at head

/-- Setting on a class the value a name resolves to there changes no resolution in it. -/
theorem getattr_setattr_resolved {world : World Ty} {cls : Nat} {name : String} {over : Attr Ty}
    (head : (world.classAt cls).mro.head? = some cls)
    (resolved : world.getattr cls name = some over) :
    (world.setattr cls name over).getattr cls = world.getattr cls := by
  obtain ⟨rest, mro⟩ : ∃ rest, (world.classAt cls).mro = cls :: rest := by
    cases listed : (world.classAt cls).mro with
    | nil => simp [listed] at head
    | cons first rest =>
        simp only [listed, List.head?_cons, Option.some.injEq] at head
        exact ⟨rest, by rw [head]⟩
  funext other
  by_cases same : other = name
  · subst same
    rw [resolved]
    simp [World.getattr, mro, World.dict_classAt_setattr_self (lt_length_of_mro_head head),
      lookup_dictSet_self]
  · simp only [World.getattr, World.mro_classAt_setattr,
      World.lookup_classAt_setattr_of_ne _ _ _ same]

theorem getattr_of_resolveHandler {world : World Ty} {cls : Nat} {types : Option (List Ty)}
    {name : String} {over : Attr Ty} {handled : List Ty}
    (resolved : resolveHandler world cls types name = .ok (over, handled)) :
    world.getattr cls name = some over := by
  unfold resolveHandler at resolved
  split at resolved
  · cases resolved
  · cases resolved
  · rename_i _ found
    split at resolved
    · cases resolved; exact found
    · cases resolved

theorem nameRegistrations_congr {world other : World Ty} {cls : Nat}
    (same : world.getattr cls = other.getattr cls) :
    nameRegistrations world cls = nameRegistrations other cls := by
  funext dispatcher types name
  simp only [nameRegistrations, resolveHandler, same]

/-! ## The loop -/

variable [DecidableEq Ty]

section Loop

variable {world : World Ty} {cls : Nat}

/-- A loop each of whose steps keeps class `cls` resolving as in `world` and makes the
registrations of its item makes the registrations of all its items, in order. -/
theorem foldlM_registers {α : Type} {step : World Ty → α → Except TypeError (World Ty)}
    {itemRegistrations : α → List (Registration Ty)}
    (each : ∀ item current next, Agrees cls current world → step current item = .ok next →
      Agrees cls next world ∧
        next.registries = (current.registerEach (itemRegistrations item)).registries) :
    ∀ {items : List α} {current after : World Ty}, Agrees cls current world →
      items.foldlM step current = .ok after →
      Agrees cls after world ∧
        after.registries = (current.registerEach (items.flatMap itemRegistrations)).registries
  | [], _, _, agree, done => by cases done; exact ⟨agree, rfl⟩
  | _ :: _, _, _, agree, done => by
      obtain ⟨next, first, rest⟩ := ok_of_bind_eq_ok done
      obtain ⟨agreeNext, registered⟩ := each _ _ _ agree first
      obtain ⟨agreeAfter, registeredAfter⟩ := foldlM_registers each agreeNext rest
      rw [registeredAfter, List.flatMap_cons, World.registerEach_append]
      exact ⟨agreeAfter, World.registries_registerEach_congr registered _⟩

variable (head : (world.classAt cls).mro.head? = some cls)
include head

/-- One handler keeps the new class resolving as before and makes its registrations. -/
theorem registerHandler_ok {dispatcher : Nat} {types : Option (List Ty)} {name : String}
    {current next : World Ty} (agree : Agrees cls current world)
    (done : registerHandler current cls dispatcher types name = .ok next) :
    Agrees cls next world ∧ next.registries =
      (current.registerEach (nameRegistrations world cls dispatcher types name)).registries := by
  rw [← nameRegistrations_congr agree.2]
  obtain ⟨over, handled, resolved, rfl⟩ := registerHandler_eq_ok.mp done
  have stays : ((current.registerEach (handlerRegistrations dispatcher over handled)).setattr
      cls name over).getattr cls = current.getattr cls := by
    rw [getattr_setattr_resolved (by simpa [agree.1] using head)
      (by simpa using getattr_of_resolveHandler resolved), World.getattr_registerEach]
  exact ⟨⟨by simpa using agree.1, stays.trans agree.2⟩, by simp [nameRegistrations, resolved]⟩

/-- The whole loop makes the registrations `registrations` computes, and leaves the new class
resolving every name as `type.__new__` made it. -/
theorem registerAll_ok {setOrder : List String → List String} {collected : Collected Ty}
    {after : World Ty} (done : registerAll setOrder world cls collected = .ok after) :
    Agrees cls after world ∧ after.registries =
      (world.registerEach (registrations setOrder world cls collected)).registries := by
  refine foldlM_registers ?_ ⟨rfl, rfl⟩ done
  rintro ⟨api, dispatcher⟩ current next agree step
  exact foldlM_registers (fun _ _ _ agree done => registerHandler_ok head agree done) agree step

end Loop

/-! ## The other classes through the loop -/

theorem registerHandler_frame {world next : World Ty} {cls dispatcher : Nat}
    {types : Option (List Ty)} {name : String}
    (done : registerHandler world cls dispatcher types name = .ok next) : Frame cls world next := by
  obtain ⟨over, handled, -, rfl⟩ := registerHandler_eq_ok.mp done
  exact ⟨by simp, fun other differ => by simp [World.classAt_setattr_of_ne _ _ _ differ]⟩

/-- The loop writes only the new class, and adds no class. -/
theorem registerAll_frame {setOrder : List String → List String} {world after : World Ty}
    {cls : Nat} {collected : Collected Ty}
    (done : registerAll setOrder world cls collected = .ok after) : Frame cls world after := by
  refine foldlM_preserves (Frame cls world) ?_ ⟨rfl, fun _ _ => rfl⟩ done
  rintro ⟨api, dispatcher⟩ - current next framed step
  exact foldlM_preserves (Frame cls world)
    (fun _ _ _ _ framed done => framed.trans (registerHandler_frame done)) framed step

/-- `MetaModel.__new__` adds one class, numbered after the others, with the MRO
`type.__new__` gave it, and leaves every earlier class as it was. -/
theorem metaModelNew_classes {object : Ty} {setOrder : List String → List String}
    {world after : World Ty} {cls : ClassDef Ty}
    (made : metaModelNew object setOrder world cls = .ok after) :
    after.classes.length = world.classes.length + 1 ∧
      (after.classAt world.classes.length).mro = world.classes.length :: cls.ancestors ∧
      ∀ other < world.classes.length, after.classAt other = world.classAt other := by
  rw [metaModelNew_eq] at made
  obtain ⟨agree, -⟩ := registerAll_ok (World.head_mro_allocate object world cls) made
  have framed := registerAll_frame made
  refine ⟨by simp [framed.1], by rw [agree.1, World.mro_classAt_allocate], fun other earlier => ?_⟩
  rw [framed.2 other (Nat.ne_of_lt earlier), World.classAt_allocate_of_lt object world cls earlier]

/-- `MetaModel.__new__` leaves each name of the new class resolving as `type.__new__` made it,
and leaves each dispatcher holding, for each class, the function the loop registered for it
last, else what it held before. -/
theorem metaModelNew_registrations {object : Ty} {setOrder : List String → List String}
    {world after : World Ty} {cls : ClassDef Ty}
    (made : metaModelNew object setOrder world cls = .ok after) :
    let allocated := world.allocate object cls
    let created := world.classes.length
    after.getattr created = allocated.getattr created ∧
      ∀ dispatcher type, after.registries dispatcher type =
        (lastRegistration (registrations setOrder allocated created (collect allocated created))
          dispatcher type).orElse fun _ => allocated.registries dispatcher type := by
  rw [metaModelNew_eq] at made
  obtain ⟨agree, registered⟩ := registerAll_ok (World.head_mro_allocate object world cls) made
  exact ⟨agree.2, fun dispatcher type => by rw [registered, World.registries_registerEach]⟩

end Tvl.Targets.Model.Registration
