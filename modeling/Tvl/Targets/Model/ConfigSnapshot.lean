import Tvl.Targets.Model.BaseModel

/-!
# The effective configuration is a snapshot per power cycle

`config` computes `i_config & r_config` on its first read and keeps it in `_config`; only
`power_off` clears it. Whatever happens to the two copies in between, every read of one power
cycle returns the snapshot taken at the first read of that cycle.
-/

namespace Tvl.Targets.Model.ConfigSnapshot

open Tvl.Targets.Model

variable {I : Collaborators}

/-! ## One call -/

/-- Once taken, the snapshot survives every call but `power_off`. -/
theorem step_cachedConfig_of_some {model : BaseModel I} {snapshot : I.ConfigurationObject}
    (cached : model.cachedConfig = some snapshot) {op : Op I} (kept : op ≠ .powerOff) :
    (step model op).cachedConfig = some snapshot := by
  cases op <;> simp_all [configValue]

/-- Without a read, no snapshot is taken. -/
theorem step_cachedConfig_of_none {model : BaseModel I}
    (empty : model.cachedConfig = none) {op : Op I} (unread : op ≠ .readConfig) :
    (step model op).cachedConfig = none := by
  cases op <;> simp_all

/-! ## Runs -/

theorem run_cachedConfig_of_some {model : BaseModel I} {snapshot : I.ConfigurationObject}
    (cached : model.cachedConfig = some snapshot) {ops : List (Op I)}
    (kept : ∀ op ∈ ops, op ≠ .powerOff) :
    (run model ops).cachedConfig = some snapshot := by
  induction ops generalizing model with
  | nil => exact cached
  | cons op ops ih =>
      simp only [List.mem_cons, forall_eq_or_imp] at kept
      exact ih (step_cachedConfig_of_some cached kept.1) kept.2

theorem run_cachedConfig_of_none {model : BaseModel I}
    (empty : model.cachedConfig = none) {ops : List (Op I)}
    (unread : ∀ op ∈ ops, op ≠ .readConfig) :
    (run model ops).cachedConfig = none := by
  induction ops generalizing model with
  | nil => exact empty
  | cons op ops ih =>
      simp only [List.mem_cons, forall_eq_or_imp] at unread
      exact ih (step_cachedConfig_of_none empty unread.1) unread.2

/-- After construction or a power-off nothing is cached. -/
theorem run_cachedConfig_of_cycle_start {model : BaseModel I} (empty : model.cachedConfig = none)
    {before : List (Op I)} (start : before = [] ∨ before.getLast? = some .powerOff) :
    (run model before).cachedConfig = none := by
  rcases start with rfl | last
  · exact empty
  · rw [List.getLast?_eq_some_iff] at last
    obtain ⟨earlier, rfl⟩ := last
    simp [run_append]

/-- Every read of a power cycle returns the snapshot of the copies at its first read, taken
after `between`; a read with no earlier read in its cycle is that first read. -/
theorem config_read_returns_snapshot {model : BaseModel I} {before between after : List (Op I)}
    (empty : (run model before).cachedConfig = none)
    (kept : ∀ op ∈ between ++ after, op ≠ .powerOff) (unread : ∀ op ∈ between, op ≠ .readConfig)
    (first : after = [] ∨ after.head? = some .readConfig) :
    let snapshot := run model (before ++ between)
    ∃ later, config.run (run model (before ++ between ++ after)) =
      .ok (I.and snapshot.iConfig snapshot.rConfig) later := by
  intro snapshot
  have none_yet : snapshot.cachedConfig = none := by
    simp only [snapshot, run_append]
    exact run_cachedConfig_of_none empty unread
  rcases first with rfl | head
  · exact ⟨_, by rw [List.append_nil, config_run, configValue, none_yet]; rfl⟩
  · obtain ⟨rest, rfl⟩ : ∃ rest, after = .readConfig :: rest := by
      cases after with
      | nil => cases head
      | cons op rest => cases head; exact ⟨rest, rfl⟩
    have taken : (step snapshot .readConfig).cachedConfig =
        some (I.and snapshot.iConfig snapshot.rConfig) := by
      simp [configValue, none_yet]
    have kept_rest : ∀ op ∈ rest, op ≠ .powerOff := fun op mem =>
      kept op (List.mem_append_right _ (List.mem_cons_of_mem _ mem))
    exact ⟨_, by
      rw [config_run, configValue, run_append, run_cons, run_cachedConfig_of_some taken kept_rest]
      rfl⟩

/-- From construction on, every read returns `i_config & r_config` as the copies stood at the
first read after the last power-off; so the first read of a cycle sees the current copies, and
two reads of one cycle agree. -/
theorem config_is_power_cycle_snapshot {rConfig iConfig : I.ConfigurationObject}
    {activateEncryption : Bool} {debugRandomValue : Option (List UInt8)} {session : I.Session}
    {commandBuffer : I.CommandBuffer} {spiFsm : I.SpiFsm} {model : BaseModel I}
    (built : BaseModel.init rConfig iConfig activateEncryption debugRandomValue session
      commandBuffer spiFsm = .ok model) :
    (∀ before between after : List (Op I),
      (before = [] ∨ before.getLast? = some .powerOff) →
      (∀ op ∈ between ++ after, op ≠ .powerOff) → (∀ op ∈ between, op ≠ .readConfig) →
      (after = [] ∨ after.head? = some .readConfig) →
      let snapshot := run model (before ++ between)
      ∃ later, config.run (run model (before ++ between ++ after)) =
        .ok (I.and snapshot.iConfig snapshot.rConfig) later) ∧
    (∀ before between : List (Op I), before.getLast? = some .powerOff →
      (∀ op ∈ between, op ≠ .powerOff ∧ op ≠ .readConfig) →
      let current := run model (before ++ between)
      ∃ later, config.run current = .ok (I.and current.iConfig current.rConfig) later) ∧
    (∀ first between : List (Op I), (∀ op ∈ between, op ≠ .powerOff) →
      ∃ value earlier later, config.run (run model first) = .ok value earlier ∧
        config.run (run model (first ++ .readConfig :: between)) = .ok value later) := by
  have empty : model.cachedConfig = none := by rw [BaseModel.init_ok built]
  refine ⟨fun before between after start kept unread first =>
      config_read_returns_snapshot (run_cachedConfig_of_cycle_start empty start) kept unread
        first,
    fun before between start quiet => ?_, fun first between kept => ?_⟩
  · simpa using @config_read_returns_snapshot I model before between []
      (run_cachedConfig_of_cycle_start empty (.inr start))
      (by simpa using fun op mem => (quiet op mem).1) (fun op mem => (quiet op mem).2)
      (.inl rfl)
  · have taken : (step (run model first) .readConfig).cachedConfig =
        some (configValue (run model first)) := by simp
    exact ⟨_, _, _, config_run _, by
      rw [config_run, configValue, run_append, run_cons, run_cachedConfig_of_some taken kept]
      rfl⟩

theorem config_read_ignores_later_update :
    BaseModel.init (0xFF : UInt32) (0x0F : UInt32) true none () () () = .ok freshModel ∧
      ∃ value earlier later, config.run (run freshModel []) = .ok value earlier ∧
        config.run (run freshModel [.readConfig, .setIConfig (0 : UInt32)]) = .ok value later :=
  ⟨rfl, (@config_is_power_cycle_snapshot oneRegister (0xFF : UInt32) (0x0F : UInt32) true none
    () () () freshModel rfl).2.2 [] [.setIConfig (0 : UInt32)] (by simp)⟩

end Tvl.Targets.Model.ConfigSnapshot
