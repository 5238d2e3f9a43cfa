import Tvl.Targets.Model.SharedRegistry

/-!
# Later classes leave earlier classes alone

`MetaModel.__new__` writes only the class it creates. In any program of class statements whose
bases exist, every class made before keeps its MRO and its `__dict__`, and so resolves every
name as before. What a later class changes for an earlier one is only the registry of a
dispatcher they share, which is how `FaultyModel` redirects `L2API` instances.
-/

namespace Tvl.Targets.Model.ClassCreation

open MetaModel Registration SharedRegistry

variable {Ty : Type}

/-! ## Well-formed worlds -/

/-- Every class comes first in its own MRO, and the rest of its MRO was made before it. -/
def WellFormed (world : World Ty) : Prop :=
  ∀ cls < world.classes.length,
    (world.classAt cls).mro.head? = some cls ∧ ∀ owner ∈ (world.classAt cls).mro, owner ≤ cls

instance (world : World Ty) : Decidable (WellFormed world) :=
  inferInstanceAs (Decidable (∀ cls < world.classes.length, _ ∧ _))

/-- Class statements whose bases exist when each runs, the first after `count` classes. -/
def BasesExist : Nat → List (ClassDef Ty) → Prop
  | _, [] => True
  | count, cls :: rest =>
      (∀ ancestor ∈ cls.ancestors, ancestor < count) ∧ BasesExist (count + 1) rest

instance decidableBasesExist : (count : Nat) → (classes : List (ClassDef Ty)) →
    Decidable (BasesExist count classes)
  | _, [] => isTrue trivial
  | count, _ :: rest =>
      have := decidableBasesExist (count + 1) rest
      inferInstanceAs (Decidable (_ ∧ _))

theorem findSome?_congr {α β : Type} {f g : α → Option β} :
    ∀ {list : List α}, (∀ item ∈ list, f item = g item) → list.findSome? f = list.findSome? g
  | [], _ => rfl
  | item :: rest, same => by
      simp only [List.findSome?_cons, same item (List.mem_cons_self _ _),
        findSome?_congr fun other mem => same other (List.mem_cons_of_mem _ mem)]

/-- A class resolves names only through itself and earlier classes. -/
theorem getattr_of_classAt_eq {world other : World Ty} (wellFormed : WellFormed world)
    {cls : Nat} (present : cls < world.classes.length)
    (same : ∀ owner ≤ cls, other.classAt owner = world.classAt owner) :
    other.getattr cls = world.getattr cls := by
  funext name
  simp only [World.getattr, same cls le_rfl]
  exact findSome?_congr fun owner mem => by rw [same owner ((wellFormed cls present).2 owner mem)]

/-! ## One class statement, then a program -/

variable [DecidableEq Ty] {object : Ty} {setOrder : List String → List String}

theorem metaModelNew_wellFormed {world after : World Ty} {cls : ClassDef Ty}
    (wellFormed : WellFormed world) (bases : ∀ ancestor ∈ cls.ancestors,
      ancestor < world.classes.length)
    (made : metaModelNew object setOrder world cls = .ok after) : WellFormed after := by
  obtain ⟨length, mro, kept⟩ := metaModelNew_classes made
  intro other below
  rw [length] at below
  rcases Nat.lt_succ_iff_lt_or_eq.mp below with earlier | rfl
  · rw [kept other earlier]
    exact wellFormed other earlier
  · rw [mro]
    exact ⟨rfl, fun owner mem => by
      rcases List.mem_cons.mp mem with rfl | ancestor
      · exact le_rfl
      · exact (bases owner ancestor).le⟩

/-- In any program of class statements whose bases exist, run from a well-formed world, every
class made before keeps its MRO and `__dict__` and resolves every name as before; the world
stays well formed and gains one class per statement. -/
theorem later_classes_keep_earlier_classes :
    ∀ {classes : List (ClassDef Ty)} {world final : World Ty}, WellFormed world →
      BasesExist world.classes.length classes →
      createClasses object setOrder world classes = .ok final →
      WellFormed final ∧ final.classes.length = world.classes.length + classes.length ∧
        ∀ cls < world.classes.length,
          final.classAt cls = world.classAt cls ∧ final.getattr cls = world.getattr cls
  | [], _, _, wellFormed, _, created => by
      cases created
      exact ⟨wellFormed, rfl, fun _ _ => ⟨rfl, rfl⟩⟩
  | _ :: rest, world, final, wellFormed, ⟨bases, later⟩, created => by
      obtain ⟨next, made, created⟩ := ok_of_bind_eq_ok created
      obtain ⟨length, -, kept⟩ := metaModelNew_classes made
      rw [← length] at later
      obtain ⟨wellFormedFinal, lengthFinal, keptFinal⟩ :=
        later_classes_keep_earlier_classes (metaModelNew_wellFormed wellFormed bases made) later
          created
      have same : ∀ cls < world.classes.length, final.classAt cls = world.classAt cls :=
        fun cls earlier => ((keptFinal cls (by omega)).1).trans (kept cls earlier)
      refine ⟨wellFormedFinal, by simp [lengthFinal, length]; omega, fun cls earlier =>
        ⟨same cls earlier, getattr_of_classAt_eq wellFormed earlier fun owner below => ?_⟩⟩
      exact same owner (by omega)

theorem faulty_model_keeps_l2api_class :
    WellFormed l2World ∧ BasesExist l2World.classes.length [faultyModel] ∧
      createClasses .object id l2World [faultyModel] = .ok faultyWorld ∧
      faultyWorld.getattr 1 = l2World.getattr 1 :=
  have wellFormed : WellFormed l2World := by decide
  have bases : BasesExist l2World.classes.length [faultyModel] := by decide
  have created : createClasses .object id l2World [faultyModel] = .ok faultyWorld := rfl
  ⟨wellFormed, bases, created,
    ((later_classes_keep_earlier_classes wellFormed bases created).2.2 1 (by decide)).2⟩

end Tvl.Targets.Model.ClassCreation
