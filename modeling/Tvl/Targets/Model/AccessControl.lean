import Tvl.Targets.Model.BaseModel

/-!
# User access privileges

`check_access_privileges` lets everything through when encryption is off. Otherwise the session
must hold a pairing-key slot, and bit `slot` of the register value must be set: the code tests
`value & 2 ** slot`, which for every integer, negative ones in two's complement included, is
nonzero exactly when that bit is set. Only a handshake records a slot, so after construction,
`invalidate_session` or `power_off` the check fails as "not paired" until the next handshake.
-/

namespace Tvl.Targets.Model.AccessControl

open Tvl.Targets.Model

variable {I : Collaborators}

/-! ## The bit test -/

theorem nat_and_two_pow_eq_zero (value bit : Nat) :
    value &&& 2 ^ bit = 0 ↔ value.testBit bit = false := by
  rw [Nat.and_two_pow]
  cases value.testBit bit <;> simp

theorem nat_ldiff_two_pow_eq_zero (value bit : Nat) :
    Nat.ldiff (2 ^ bit) value = 0 ↔ value.testBit bit = true := by
  constructor
  · intro zero
    simpa [Nat.testBit_two_pow_self] using congrArg (Nat.testBit · bit) zero
  · intro set
    apply Nat.eq_of_testBit_eq
    intro other
    by_cases same : bit = other
    · subst same; simp [set]
    · simp [Nat.testBit_two_pow_of_ne same]

/-- `value & 2 ** bit` is zero exactly when bit `bit` of `value` is clear. -/
theorem land_two_pow_eq_zero (value : Int) (bit : Nat) :
    Int.land value (2 ^ bit) = 0 ↔ value.testBit bit = false := by
  have pow : (2 : Int) ^ bit = ((2 ^ bit : Nat) : Int) := by push_cast; rfl
  rw [pow]
  cases value with
  | ofNat value =>
      show ((value &&& 2 ^ bit : Nat) : Int) = 0 ↔ value.testBit bit = false
      rw [Int.natCast_eq_zero, nat_and_two_pow_eq_zero]
  | negSucc value =>
      show ((Nat.ldiff (2 ^ bit) value : Nat) : Int) = 0 ↔ (!value.testBit bit) = false
      rw [Int.natCast_eq_zero, nat_ldiff_two_pow_eq_zero, Bool.not_eq_false']

/-! ## The check -/

/-- `check_access_privileges` with its bit test read as a bit. -/
theorem checkAccessPrivileges_run (name : String) (value : Int) (model : BaseModel I) :
    (checkAccessPrivileges name value).run model =
      if model.activateEncryption = false then .ok () model
      else if ¬ (0 ≤ model.pairingKeySlot ∧ model.pairingKeySlot < I.sHiPubNbSlots) then
        .error (.runtimeError "Chip not paired yet.") model
      else if value.testBit model.pairingKeySlot.toNat = false then
        .error (.unauthorized (unauthorizedMessage model.pairingKeySlot (I.upper name))) model
      else .ok () model := by
  show checkAccessPrivileges name value model = _
  simp only [checkAccessPrivileges, land_two_pow_eq_zero, Bool.not_eq_true']

/-! ## Runs -/

/-- Every call but a handshake leaves the session without a slot. -/
theorem step_pairingKeySlot {model : BaseModel I} (unpaired : model.pairingKeySlot = -1)
    {op : Op I} (notHandshake : op.isHandshake = false) :
    (step model op).pairingKeySlot = -1 := by
  cases op <;> simp_all [Op.isHandshake]

theorem run_pairingKeySlot {model : BaseModel I} (unpaired : model.pairingKeySlot = -1)
    {ops : List (Op I)} (noHandshake : ∀ op ∈ ops, op.isHandshake = false) :
    (run model ops).pairingKeySlot = -1 := by
  induction ops generalizing model with
  | nil => exact unpaired
  | cons op ops ih =>
      simp only [List.mem_cons, forall_eq_or_imp] at noHandshake
      exact ih (step_pairingKeySlot unpaired noHandshake.1) noHandshake.2

/-- After construction, `invalidate_session` or `power_off`, the session has no slot. -/
theorem run_pairingKeySlot_of_reset {model : BaseModel I} (unpaired : model.pairingKeySlot = -1)
    {before : List (Op I)}
    (reset : before = [] ∨ before.getLast? = some .invalidateSession ∨
      before.getLast? = some .powerOff) :
    (run model before).pairingKeySlot = -1 := by
  rcases reset with rfl | last | last
  all_goals try rw [List.getLast?_eq_some_iff] at last; obtain ⟨earlier, rfl⟩ := last
  all_goals simp [run_append, unpaired]

/-- What a call is meant to do to the session's pairing-key slot: a handshake that establishes
a session records its key slot; any other handshake, `invalidate_session` and `power_off`
clear it; nothing else touches it. -/
def slotAfter (slot : Int) : Op I → Int
  | .handshake pkeyIndex (some _) => pkeyIndex
  | .handshake _ none => -1
  | .invalidateSession => -1
  | .powerOff => -1
  | _ => slot

theorem step_pairingKeySlot_eq (model : BaseModel I) (op : Op I) :
    (step model op).pairingKeySlot = slotAfter model.pairingKeySlot op := by
  cases op with
  | handshake pkeyIndex established => cases established <;> simp [slotAfter]
  | _ => simp [slotAfter]

/-- Over every run the session holds the key slot of the last handshake that established a
session, unless a later handshake, `invalidate_session` or `power_off` cleared it. -/
theorem pairing_slot_follows_handshakes (model : BaseModel I) (ops : List (Op I)) :
    (run model ops).pairingKeySlot = ops.foldl slotAfter model.pairingKeySlot := by
  induction ops generalizing model with
  | nil => rfl
  | cons op ops ih => rw [run_cons, ih, step_pairingKeySlot_eq, List.foldl_cons]

/-- With encryption on, the check raises "not paired" exactly when the slot is not a
pairing-key slot, raises `Unauthorized` exactly when the slot's bit of `value` is clear, and
passes otherwise; it never changes the object; and from construction, `invalidate_session` or
`power_off` until the next handshake it raises "not paired" whatever the value. -/
theorem access_granted_by_slot_bit (name : String) (value : Int) :
    (∀ model : BaseModel I, model.activateEncryption = false →
      (checkAccessPrivileges name value).run model = .ok () model) ∧
    (∀ model : BaseModel I, model.activateEncryption = true →
      let paired := 0 ≤ model.pairingKeySlot ∧ model.pairingKeySlot < I.sHiPubNbSlots
      ((∃ message, (checkAccessPrivileges name value).run model =
          .error (.runtimeError message) model) ↔ ¬ paired) ∧
      ((∃ message, (checkAccessPrivileges name value).run model =
          .error (.unauthorized message) model) ↔
        paired ∧ value.testBit model.pairingKeySlot.toNat = false) ∧
      ((checkAccessPrivileges name value).run model = .ok () model ↔
        paired ∧ value.testBit model.pairingKeySlot.toNat = true)) ∧
    (∀ model : BaseModel I, resultState ((checkAccessPrivileges name value).run model) = model) ∧
    (∀ (rConfig iConfig : I.ConfigurationObject) (activateEncryption : Bool)
      (debugRandomValue : Option (List UInt8)) (session : I.Session)
      (commandBuffer : I.CommandBuffer) (spiFsm : I.SpiFsm) (model : BaseModel I),
      BaseModel.init rConfig iConfig activateEncryption debugRandomValue session
        commandBuffer spiFsm = .ok model →
      ∀ before after : List (Op I),
        (before = [] ∨ before.getLast? = some .invalidateSession ∨
          before.getLast? = some .powerOff) →
        (∀ op ∈ after, op.isHandshake = false) → model.activateEncryption = true →
        (checkAccessPrivileges name value).run (run model (before ++ after)) =
          .error (.runtimeError "Chip not paired yet.") (run model (before ++ after))) := by
  refine ⟨fun model disabled => by simp [checkAccessPrivileges_run, disabled],
    fun model enabled => ?_, checkAccessPrivileges_state name value,
    fun _ _ _ _ _ _ _ model built before after reset noHandshake enabled => ?_⟩
  · by_cases paired : 0 ≤ model.pairingKeySlot ∧ model.pairingKeySlot < I.sHiPubNbSlots
    · cases bit : value.testBit model.pairingKeySlot.toNat <;>
        simp [checkAccessPrivileges_run, enabled, paired, bit]
    · simp [checkAccessPrivileges_run, enabled, paired]
  · have unpaired : (run model (before ++ after)).pairingKeySlot = -1 := by
      rw [run_append]
      exact run_pairingKeySlot
        (run_pairingKeySlot_of_reset (by rw [BaseModel.init_ok built]) reset) noHandshake
    simp [checkAccessPrivileges_run, enabled, unpaired]

theorem check_unpaired_after_power_off :
    (checkAccessPrivileges "cfg_uap_pairing_key_write" 0xF).run
        (run freshModel [.handshake 0 (some ()), .powerOff, .readConfig]) =
      .error (.runtimeError "Chip not paired yet.")
        (run freshModel [.handshake 0 (some ()), .powerOff, .readConfig]) :=
  (@access_granted_by_slot_bit oneRegister "cfg_uap_pairing_key_write" 0xF).2.2.2 (0xFF : UInt32)
    (0x0F : UInt32) true none () () () freshModel rfl [.handshake 0 (some ()), .powerOff]
    [.readConfig] (by simp) (by simp [Op.isHandshake]) rfl

end Tvl.Targets.Model.AccessControl
