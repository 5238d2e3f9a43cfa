import Tvl.Targets.Model.SharedRegistry
import Tvl.Targets.Model.SetOrder

/-!
# Handlers receive the requests they are registered for

`register` files a handler under the classes `api(id, types)` lists for its name, or else under
the class of its annotation, and a fresh `singledispatchmethod` files its base method under
`object`. The handler is whatever function the new class resolves the name to, which may be a
plain override of a decorated method, and the registries are shared by all model classes and
rewritten by every class statement. Yet every `__dict__` entry stays a declaration of the
program under its own name, `api_over` holds only names the program marks with `api`, and
`api_types` only the classes listed for that very name. So in every program of class
statements, a call of a base method hands the request to a function that the program defines
under the name of a handler, filed for a class of the request's MRO that is its annotation or
that `api(id, types)` lists for that name; or to a base method, answering for `object`.
-/

namespace Tvl.Targets.Model.Annotations

open MetaModel Registration SharedRegistry SetOrder

variable {Ty : Type}

/-! ## What a program may register -/

/-- A class statement of the program declares `decl` under `name`. -/
def DeclaredIn (program : List (ClassDef Ty)) (name : String) (decl : Decl Ty) : Prop :=
  ∃ cls ∈ program, (name, decl) ∈ cls.body

/-- `name` names a handler: a class statement of the program marks a function of that name with
`api`. -/
def HandlerIn (program : List (ClassDef Ty)) (name : String) : Prop :=
  ∃ api types method, DeclaredIn program name (.overload api types method)

/-- `api(id, types)` lists `type` on a handler named `name`. -/
def ExplicitIn (program : List (ClassDef Ty)) (name : String) (type : Ty) : Prop :=
  ∃ api types method, DeclaredIn program name (.overload api (some types) method) ∧ type ∈ types

/-- `method` is a base method of a class statement of the program. -/
def BaseIn (program : List (ClassDef Ty)) (method : Method Ty) : Prop :=
  ∃ name api, DeclaredIn program name (.base api method)

/-- A registry may file `method` under `type` when a class statement of the program defines it
under the name of a handler and `type` is its annotation or is listed by `api(id, types)` for
that name; or when it is a base method of the program and `type` is `object`. -/
def Sanctioned (object : Ty) (program : List (ClassDef Ty)) (type : Ty) (method : Method Ty) :
    Prop :=
  (∃ name decl, DeclaredIn program name decl ∧ decl.method = method ∧ HandlerIn program name ∧
    (method.annotation = some type ∨ ExplicitIn program name type)) ∨
  (type = object ∧ BaseIn program method)

/-- A `__dict__` whose entries are declarations of the program under their own names. -/
def DictDeclared (program : List (ClassDef Ty)) (dict : List (String × Attr Ty)) : Prop :=
  ∀ entry ∈ dict, DeclaredIn program entry.1 entry.2.decl

/-- Registries holding only sanctioned entries. -/
def RegistriesTyped (object : Ty) (program : List (ClassDef Ty))
    (registries : Nat → Registry Ty) : Prop :=
  ∀ dispatcher type method, registries dispatcher type = some method →
    Sanctioned object program type method

/-- The invariant of the worlds a program makes. -/
structure Typed (object : Ty) (program : List (ClassDef Ty)) (world : World Ty) : Prop where
  registries : RegistriesTyped object program world.registries
  dicts : ∀ owner, DictDeclared program (world.classAt owner).dict

/-! ## Dictionaries -/

theorem mem_of_lookup_eq_some {α : Type} {dict : List (String × α)} {key : String} {value : α}
    (found : dict.lookup key = some value) : (key, value) ∈ dict := by
  obtain ⟨_, _, rfl, -⟩ := List.lookup_eq_some_iff.mp found
  simp

/-- A name in the list a key looks up stands in some entry of the dictionary. -/
theorem mem_of_mem_lookup_getD {α : Type} {dict : List (String × List α)} {key : String}
    {item : α} (mem : item ∈ (dict.lookup key).getD []) : ∃ entry ∈ dict, item ∈ entry.2 := by
  cases found : dict.lookup key with
  | none => rw [found] at mem; cases mem
  | some items =>
      rw [found] at mem
      exact ⟨(key, items), mem_of_lookup_eq_some found, mem⟩

theorem mem_dictSet {α : Type} {entry : String × α} {key : String} {value : α} :
    ∀ {dict : List (String × α)}, entry ∈ dictSet dict key value →
      entry ∈ dict ∨ entry = (key, value)
  | [], mem => .inr (List.mem_singleton.mp mem)
  | (other, old) :: rest, mem => by
      unfold dictSet at mem
      split at mem
      · rcases List.mem_cons.mp mem with rfl | later
        · exact .inr rfl
        · exact .inl (List.mem_cons_of_mem _ later)
      · rcases List.mem_cons.mp mem with rfl | later
        · exact .inl (List.mem_cons_self _ _)
        · exact (mem_dictSet later).imp_left (List.mem_cons_of_mem _)

variable {program : List (ClassDef Ty)}

theorem DictDeclared.dictSet {dict : List (String × Attr Ty)} (declared : DictDeclared program dict)
    {name : String} {value : Attr Ty} (declaredValue : DeclaredIn program name value.decl) :
    DictDeclared program (MetaModel.dictSet dict name value) := fun entry mem =>
  (mem_dictSet mem).elim (declared entry) fun same => same ▸ declaredValue

/-- Every attribute `getattr` finds stands in some class `__dict__`. -/
theorem mem_dict_of_getattr {world : World Ty} {cls : Nat} {name : String} {attr : Attr Ty}
    (found : world.getattr cls name = some attr) :
    ∃ owner, (name, attr) ∈ (world.classAt owner).dict := by
  obtain ⟨owner, -, lookup⟩ := List.exists_of_findSome?_eq_some found
  exact ⟨owner, mem_of_lookup_eq_some lookup⟩

/-- What `getattr` finds under a name is declared under that name. -/
theorem declaredIn_of_getattr {world : World Ty}
    (dicts : ∀ owner, DictDeclared program (world.classAt owner).dict) {cls : Nat} {name : String}
    {attr : Attr Ty} (found : world.getattr cls name = some attr) :
    DeclaredIn program name attr.decl := by
  obtain ⟨owner, mem⟩ := mem_dict_of_getattr found
  exact dicts owner _ mem

/-- `setattr` adds its entry to one `__dict__`, or replaces one there, and keeps every other
entry. -/
theorem mem_dict_setattr {world : World Ty} {cls owner : Nat} {name : String} {value : Attr Ty}
    {entry : String × Attr Ty}
    (mem : entry ∈ ((world.setattr cls name value).classAt owner).dict) :
    entry ∈ (world.classAt owner).dict ∨ entry = (name, value) := by
  simp only [World.classAt, World.setattr, List.getD_eq_getElem?_getD, List.getElem?_modify]
    at mem ⊢
  revert mem
  cases world.classes[owner]? <;> simp only [Option.map_eq_map, Option.map_none',
    Option.map_some', Option.getD_none, Option.getD_some]
  · exact .inl
  · split
    · exact mem_dictSet
    · exact .inl

theorem dictDeclared_setattr {world : World Ty}
    (dicts : ∀ owner, DictDeclared program (world.classAt owner).dict) (cls : Nat) (name : String)
    {value : Attr Ty} (declaredValue : DeclaredIn program name value.decl) (owner : Nat) :
    DictDeclared program ((world.setattr cls name value).classAt owner).dict := fun entry mem =>
  (mem_dict_setattr mem).elim (dicts owner entry) fun same => same ▸ declaredValue

/-! ## One class statement -/

/-- A property kept by each step of a fold holds after it. -/
theorem foldl_preserves {α β : Type} (P : β → Prop) {step : β → α → β} :
    ∀ {items : List α}, (∀ item ∈ items, ∀ state, P state → P (step state item)) →
      ∀ state, P state → P (items.foldl step state)
  | [], _, _, holds => holds
  | item :: _, each, state, holds =>
      foldl_preserves P (fun other mem => each other (List.mem_cons_of_mem _ mem)) _
        (each item (List.mem_cons_self _ _) state holds)

/-- `api_types` holds only the classes the program lists for each name, and `api_over` only
names of handlers. -/
def CollectedTyped (program : List (ClassDef Ty)) (collected : Collected Ty) : Prop :=
  (∀ entry ∈ collected.types, ∀ listed, entry.2 = some listed →
    ∀ type ∈ listed, ExplicitIn program entry.1 type) ∧
  ∀ entry ∈ collected.over, ∀ name ∈ entry.2, HandlerIn program name

theorem CollectedTyped.handler {collected : Collected Ty} (typed : CollectedTyped program collected)
    {api name : String} (mem : name ∈ (collected.over.lookup api).getD []) :
    HandlerIn program name := by
  obtain ⟨entry, listed, named⟩ := mem_of_mem_lookup_getD mem
  exact typed.2 entry listed name named

theorem CollectedTyped.explicit {collected : Collected Ty}
    (typed : CollectedTyped program collected) {name : String} {listed : List Ty}
    (found : (collected.types.lookup name).join = some listed) :
    ∀ type ∈ listed, ExplicitIn program name type := by
  cases lookup : collected.types.lookup name with
  | none => rw [lookup] at found; cases found
  | some given =>
      rw [lookup] at found
      exact typed.1 _ (mem_of_lookup_eq_some lookup) listed found

/-- The walk collects the `__dict__` entries it reads: when they are declarations of the
program, it collects only handler names, with the classes listed for those names. -/
theorem collect_typed {world : World Ty}
    (dicts : ∀ owner, DictDeclared program (world.classAt owner).dict) (cls : Nat) :
    CollectedTyped program (collect world cls) := by
  refine foldl_preserves _ (fun owner _ collected holds => ?_) _ ⟨by simp, by simp⟩
  refine foldl_preserves _ (fun entry mem collected holds => ?_) _ holds
  obtain ⟨name, attr⟩ := entry
  cases attr with
  | overload api given method =>
      have declared : DeclaredIn program name (.overload api given method) := dicts owner _ mem
      refine ⟨fun other listedMem listed same => ?_, fun other overMem named namedMem => ?_⟩
      · rcases mem_dictSet listedMem with old | rfl
        · exact holds.1 other old listed same
        · cases same
          exact fun type mem => ⟨api, listed, method, declared, mem⟩
      · rcases mem_dictSet overMem with old | rfl
        · exact holds.2 other old named namedMem
        · dsimp only at namedMem
          split at namedMem
          · exact CollectedTyped.handler holds namedMem
          · rcases List.mem_append.mp namedMem with old | fresh
            · exact CollectedTyped.handler holds old
            · rw [List.mem_singleton.mp fresh]
              exact ⟨api, given, method, declared⟩
  | base | plain => exact holds

variable [DecidableEq Ty] {object : Ty}

omit [DecidableEq Ty] in
theorem typed_empty : Typed object program (World.empty Ty) where
  registries _ _ _ held := nomatch held
  dicts _ entry mem := by simp [World.empty, World.classAt] at mem

/-- Each entry of a class body keeps the registries and the `__dict__` being built typed: the
entry is a declaration of the program, and a base method answers for `object` in its fresh
registry. -/
theorem allocateEntry_typed {cls : ClassDef Ty} (listed : cls ∈ program)
    {entry : String × Decl Ty} (mem : entry ∈ cls.body) (made : Allocation Ty)
    (typed : RegistriesTyped object program made.registries ∧ DictDeclared program made.dict) :
    RegistriesTyped object program (allocateEntry object made entry).registries ∧
      DictDeclared program (allocateEntry object made entry).dict := by
  obtain ⟨name, decl⟩ := entry
  have declared : DeclaredIn program name decl := ⟨cls, listed, mem⟩
  cases decl with
  | base api method =>
      refine ⟨fun dispatcher type found held => ?_, typed.2.dictSet declared⟩
      dsimp only [allocateEntry] at held
      split at held
      · unfold freshRegistry at held
        split at held
        · cases held
          exact .inr ⟨by assumption, name, api, declared⟩
        · cases held
      · exact typed.1 dispatcher type found held
  | overload | plain => exact ⟨typed.1, typed.2.dictSet declared⟩

/-- The `__dict__` entries after `type.__new__` are the old ones and those of the new class. -/
theorem mem_dict_allocate {world : World Ty} {cls : ClassDef Ty} {owner : Nat}
    {entry : String × Attr Ty} (mem : entry ∈ ((world.allocate object cls).classAt owner).dict) :
    entry ∈ (world.classAt owner).dict ∨
      entry ∈ (cls.body.foldl (allocateEntry object)
        ⟨world.registries, world.dispatchers, []⟩).dict := by
  rcases lt_trichotomy owner world.classes.length with earlier | rfl | later
  · rw [World.classAt_allocate_of_lt object world cls earlier] at mem
    exact .inl mem
  · exact .inr (by simpa [World.allocate, World.classAt, List.getD_eq_getElem?_getD] using mem)
  · simp [World.allocate, World.classAt, List.getD_eq_getElem?_getD, List.getElem?_eq_none,
      Nat.succ_le_of_lt later] at mem

/-- `type.__new__` keeps the world typed when the class statement belongs to the program. -/
theorem typed_allocate {world : World Ty} {cls : ClassDef Ty} (listed : cls ∈ program)
    (typed : Typed object program world) : Typed object program (world.allocate object cls) := by
  have made := foldl_preserves _
    (fun entry mem made holds => allocateEntry_typed listed mem made holds)
    ⟨world.registries, world.dispatchers, []⟩ ⟨typed.registries, fun _ mem => nomatch mem⟩
  exact ⟨made.1, fun owner entry mem =>
    (mem_dict_allocate mem).elim (typed.dicts owner entry) (made.2 entry)⟩

/-! ## The registration loop -/

omit [DecidableEq Ty] in
/-- A handler name resolves only to a function `getattr` finds that is not a base method, and
`register` files it under its explicit types, or else under its annotation. -/
theorem resolveHandler_ok {world : World Ty} {cls : Nat} {types : Option (List Ty)}
    {name : String} {over : Attr Ty} {handled : List Ty}
    (resolved : resolveHandler world cls types name = .ok (over, handled)) :
    world.getattr cls name = some over ∧
      (∀ api dispatcher method, over ≠ .base api dispatcher method) ∧
      types.orElse (fun _ => over.method.annotation.map ([·])) = some handled := by
  unfold resolveHandler at resolved
  split at resolved
  · cases resolved
  · cases resolved
  · rename_i notBase found
    split at resolved
    · rename_i given
      cases resolved
      exact ⟨found, notBase, given⟩
    · cases resolved

omit [DecidableEq Ty] in
/-- A resolved handler name is filed under classes sanctioned for the function it resolves to. -/
theorem sanctioned_of_resolveHandler {world : World Ty}
    (dicts : ∀ owner, DictDeclared program (world.classAt owner).dict) {cls : Nat}
    {types : Option (List Ty)} {name : String} {over : Attr Ty} {handled : List Ty}
    (handler : HandlerIn program name)
    (explicit : ∀ listed, types = some listed → ∀ type ∈ listed, ExplicitIn program name type)
    (resolved : resolveHandler world cls types name = .ok (over, handled)) :
    ∀ type ∈ handled, Sanctioned object program type over.method := by
  obtain ⟨found, -, given⟩ := resolveHandler_ok resolved
  have declared := declaredIn_of_getattr dicts found
  intro type mem
  refine .inl ⟨name, over.decl, declared, Attr.method_decl over, handler, ?_⟩
  cases types with
  | some listed =>
      cases given
      exact .inr (explicit handled rfl type mem)
  | none =>
      obtain ⟨hint, annotated, rfl⟩ := Option.map_eq_some'.mp given
      rw [List.mem_singleton.mp mem]
      exact .inl annotated

theorem mem_of_lastRegistration {registrations : List (Registration Ty)} {dispatcher : Nat}
    {type : Ty} {method : Method Ty}
    (found : lastRegistration registrations dispatcher type = some method) :
    ∃ entry ∈ registrations, entry.type = type ∧ entry.method = method := by
  obtain ⟨entry, last, rfl⟩ := Option.map_eq_some'.mp found
  have hit := List.find?_some last
  simp only [decide_eq_true_eq] at hit
  exact ⟨entry, List.mem_reverse.mp (List.mem_of_find?_eq_some last), hit.2, rfl⟩

/-- One handler keeps the world typed when its name is a handler's and its explicit types are
those the program lists for that name. -/
theorem registerHandler_typed {world next : World Ty} {cls dispatcher : Nat}
    {types : Option (List Ty)} {name : String} (handler : HandlerIn program name)
    (explicit : ∀ listed, types = some listed → ∀ type ∈ listed, ExplicitIn program name type)
    (typed : Typed object program world)
    (done : registerHandler world cls dispatcher types name = .ok next) :
    Typed object program next := by
  obtain ⟨over, handled, resolved, rfl⟩ := registerHandler_eq_ok.mp done
  have declared := declaredIn_of_getattr typed.dicts (resolveHandler_ok resolved).1
  refine ⟨fun other type method held => ?_,
    dictDeclared_setattr (by simpa using typed.dicts) cls name declared⟩
  rw [World.registries_setattr, World.registries_registerEach] at held
  cases last : lastRegistration (handlerRegistrations dispatcher over handled) other type with
  | none =>
      rw [last] at held
      exact typed.registries other type method held
  | some found =>
      rw [last] at held
      cases held
      obtain ⟨entry, listed, rfl, rfl⟩ := mem_of_lastRegistration last
      obtain ⟨type, mem, rfl⟩ := List.mem_map.mp listed
      exact sanctioned_of_resolveHandler typed.dicts handler explicit resolved type mem

/-- The loop keeps the world typed, in any order of each set of names, when what it collected
is typed. -/
theorem registerAll_typed {setOrder : List String → List String}
    (perm : ∀ names, (setOrder names).Perm names) {world after : World Ty} {cls : Nat}
    {collected : Collected Ty} (collectedTyped : CollectedTyped program collected)
    (typed : Typed object program world)
    (done : registerAll setOrder world cls collected = .ok after) : Typed object program after := by
  refine foldlM_preserves (Typed object program) ?_ typed done
  rintro ⟨api, dispatcher⟩ - current next holds step
  exact foldlM_preserves (Typed object program) (fun name mem _ _ holds done =>
    registerHandler_typed (collectedTyped.handler ((iterateSet_perm perm _).mem_iff.mp mem))
      (fun _ found => collectedTyped.explicit found) holds done) holds step

/-- `MetaModel.__new__` keeps the world typed when the class statement belongs to the
program. -/
theorem metaModelNew_typed {setOrder : List String → List String}
    (perm : ∀ names, (setOrder names).Perm names) {world after : World Ty} {cls : ClassDef Ty}
    (listed : cls ∈ program) (typed : Typed object program world)
    (made : metaModelNew object setOrder world cls = .ok after) : Typed object program after := by
  rw [metaModelNew_eq] at made
  have allocated := typed_allocate listed typed
  exact registerAll_typed perm (collect_typed allocated.dicts _) allocated made

theorem createClasses_typed {setOrder : List String → List String}
    (perm : ∀ names, (setOrder names).Perm names) :
    ∀ {classes : List (ClassDef Ty)} {world final : World Ty},
      (∀ cls ∈ classes, cls ∈ program) → Typed object program world →
      createClasses object setOrder world classes = .ok final → Typed object program final
  | [], _, _, _, typed, created => by cases created; exact typed
  | cls :: _, _, _, listed, typed, created => by
      obtain ⟨next, made, created⟩ := ok_of_bind_eq_ok created
      exact createClasses_typed perm (fun other mem => listed other (List.mem_cons_of_mem _ mem))
        (metaModelNew_typed perm (listed cls (List.mem_cons_self _ _)) typed made) created

/-! ## Calls -/

omit [DecidableEq Ty] in
/-- In a typed world, a call of a base method runs a function sanctioned for a class of the
request's MRO. -/
theorem sanctioned_of_callMethod {world : World Ty} (typed : Typed object program world)
    (mro : Ty → List Ty) {cls : Nat} {name api : String} {dispatcher : Nat} {base : Method Ty}
    (inherits : world.getattr cls name = some (.base api dispatcher base)) {request : Ty}
    {method : Method Ty} (called : callMethod mro world cls name request = some method) :
    ∃ type ∈ mro request, Sanctioned object program type method := by
  simp only [callMethod, inherits, dispatch] at called
  obtain ⟨type, mem, held⟩ := List.exists_of_findSome?_eq_some called
  exact ⟨type, mem, typed.registries dispatcher type method held⟩

end Tvl.Targets.Model.Annotations
