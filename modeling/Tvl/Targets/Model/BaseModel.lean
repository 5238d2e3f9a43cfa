import Mathlib.Data.Int.Bitwise
import Mathlib.Data.List.Basic

/-!
# `BaseModel`: the model object and its methods

The fields of `BaseModel` that its own methods read or write: the two configuration objects
and the cached effective configuration `_config`, the encryption switch, the secure-channel
session, the pairing-key slot of the session, the command buffer and the SPI state machine.
The classes of those collaborators live outside this development and enter as
`Collaborators`, with the `reset` and the session calls `BaseModel` makes. A method is an
`EStateM` computation: an exception keeps the object as the method left it, as in Python.
-/

namespace Tvl.Targets.Model

/-- The collaborators of `BaseModel` whose code is outside this development: the
configuration object with its `&`, the encrypted session, the command buffer and the SPI
state machine with their `reset`, the constants `S_HI_PUB_NB_SLOTS` and
`ENCRYPTION_TAG_LEN`, and Python's `str.upper`, whose case mapping is Unicode's. -/
structure Collaborators where
  ConfigurationObject : Type
  and : ConfigurationObject → ConfigurationObject → ConfigurationObject
  Session : Type
  sessionReset : Session → Session
  encryptResponse : Session → List UInt8 → Session × List UInt8
  decryptCommand : Session → List UInt8 → Session × Option (List UInt8)
  CommandBuffer : Type
  commandBufferReset : CommandBuffer → CommandBuffer
  SpiFsm : Type
  spiFsmReset : SpiFsm → SpiFsm
  sHiPubNbSlots : Nat
  encryptionTagLen : Nat
  upper : String → String

variable {I : Collaborators}

/-- The attributes of a `BaseModel` object that its methods use. -/
structure BaseModel (I : Collaborators) where
  rConfig : I.ConfigurationObject
  iConfig : I.ConfigurationObject
  activateEncryption : Bool
  /-- `_config`, the effective configuration computed since the last power-off. -/
  cachedConfig : Option I.ConfigurationObject
  session : I.Session
  pairingKeySlot : Int
  commandBuffer : I.CommandBuffer
  spiFsm : I.SpiFsm

/-- The exceptions the methods raise; `unauthorized` is `L3ProcessingErrorUnauthorized`. -/
inductive ModelError where
  | valueError (message : String)
  | runtimeError (message : String)
  | unauthorized (message : String)
  deriving DecidableEq, Repr

/-- The object after a method returned or raised. -/
def resultState {ε σ α : Type} : EStateM.Result ε σ α → σ
  | .ok _ state => state
  | .error _ state => state

/-- Dropping a method's return value keeps the object it leaves. -/
theorem resultState_discard {ε σ α : Type} (method : EStateM ε σ α) (state : σ) :
    resultState (discard method state) = resultState (method state) := by
  show resultState (match method state with
    | .ok _ after => EStateM.Result.ok () after
    | .error error after => .error error after) = _
  cases method state <;> rfl

/-! ## Construction and power -/

/-- `BaseModel.__init__`, given the collaborators it creates: a fresh session, an empty
command buffer and an SPI state machine. -/
def BaseModel.init (rConfig iConfig : I.ConfigurationObject) (activateEncryption : Bool)
    (debugRandomValue : Option (List UInt8)) (session : I.Session)
    (commandBuffer : I.CommandBuffer) (spiFsm : I.SpiFsm) : Except ModelError (BaseModel I) :=
  if debugRandomValue.any (·.length != 4) then
    .error (.valueError "debug_random_value has to be 4 byte long.")
  else
    .ok ⟨rConfig, iConfig, activateEncryption, none, session, -1, commandBuffer, spiFsm⟩

/-- A constructed model holds the given objects, nothing cached and no pairing-key slot. -/
theorem BaseModel.init_ok {rConfig iConfig : I.ConfigurationObject} {activateEncryption : Bool}
    {debugRandomValue : Option (List UInt8)} {session : I.Session}
    {commandBuffer : I.CommandBuffer} {spiFsm : I.SpiFsm} {model : BaseModel I}
    (built : BaseModel.init rConfig iConfig activateEncryption debugRandomValue session
      commandBuffer spiFsm = .ok model) :
    model = ⟨rConfig, iConfig, activateEncryption, none, session, -1, commandBuffer, spiFsm⟩ := by
  unfold BaseModel.init at built
  split at built <;> cases built
  rfl

/-- `BaseModel.power_on` only logs. -/
def powerOn : EStateM ModelError (BaseModel I) Unit :=
  pure ()

/-- `BaseModel.invalidate_session`. -/
def invalidateSession : EStateM ModelError (BaseModel I) Unit :=
  modify fun model =>
    { model with session := I.sessionReset model.session, pairingKeySlot := -1 }

/-- `BaseModel._process_power_off`. -/
def processPowerOff : EStateM ModelError (BaseModel I) Unit := do
  invalidateSession
  modify fun model => { model with commandBuffer := I.commandBufferReset model.commandBuffer }
  modify fun model => { model with spiFsm := I.spiFsmReset model.spiFsm }
  modify fun model => { model with cachedConfig := none }

/-- `BaseModel.power_off`. -/
def powerOff : EStateM ModelError (BaseModel I) Unit :=
  processPowerOff

/-! ## Configuration and access privileges -/

/-- The value the `config` property returns on `model`. -/
def configValue (model : BaseModel I) : I.ConfigurationObject :=
  model.cachedConfig.getD (I.and model.iConfig model.rConfig)

/-- The `config` property: `i_config & r_config`, computed on the first read after a
power-off and cached in `_config`. -/
def config : EStateM ModelError (BaseModel I) I.ConfigurationObject := fun model =>
  match model.cachedConfig with
  | some config => .ok config model
  | none =>
      let config := I.and model.iConfig model.rConfig
      .ok config { model with cachedConfig := some config }

/-- The message of `L3ProcessingErrorUnauthorized` in `check_access_privileges`. -/
def unauthorizedMessage (slot : Int) (name : String) : String :=
  "Pairing key slot #" ++ toString slot ++ " does not have access to " ++ name ++ "."

/-- `BaseModel.check_access_privileges(name, value)`: bypassed without encryption, then the
session slot must be a pairing-key slot and bit `slot` of `value` must be set. -/
def checkAccessPrivileges (name : String) (value : Int) :
    EStateM ModelError (BaseModel I) Unit := fun model =>
  if !model.activateEncryption then .ok () model
  else if ¬ (0 ≤ model.pairingKeySlot ∧ model.pairingKeySlot < I.sHiPubNbSlots) then
    .error (.runtimeError "Chip not paired yet.") model
  else if Int.land value (2 ^ model.pairingKeySlot.toNat) = 0 then
    .error (.unauthorized (unauthorizedMessage model.pairingKeySlot (I.upper name))) model
  else .ok () model

/-! ## The encryption layer -/

/-- `command[:-tag_len]`: Python drops the last `tag_len` bytes, and `[:-0]` is empty. -/
def dropTag (tagLen : Nat) (command : List UInt8) : List UInt8 :=
  if tagLen = 0 then [] else command.take (command.length - tagLen)

/-- `BaseModel.encrypt_result`. -/
def encryptResult (result : List UInt8) : EStateM ModelError (BaseModel I) (List UInt8) :=
  fun model =>
    if model.activateEncryption then
      let (session, encrypted) := I.encryptResponse model.session result
      .ok encrypted { model with session }
    else .ok (result ++ List.replicate I.encryptionTagLen 0) model

/-- `BaseModel.decrypt_command`. -/
def decryptCommand (command : List UInt8) :
    EStateM ModelError (BaseModel I) (Option (List UInt8)) := fun model =>
  if model.activateEncryption then
    let (session, decrypted) := I.decryptCommand model.session command
    .ok decrypted { model with session }
  else .ok (some (dropTag I.encryptionTagLen command)) model

/-- Modelled from the spec: the handshake handler of the concrete model is outside this
development. A fresh handshake invalidates the session; when the host's handshake verifies,
the session is the established one and the pairing-key slot is recorded. -/
def handshake (pkeyIndex : Int) (established : Option I.Session) :
    EStateM ModelError (BaseModel I) Unit := do
  invalidateSession
  match established with
  | some session => modify fun model => { model with session, pairingKeySlot := pkeyIndex }
  | none => pure ()

/-! ## Runs -/

/-- The calls a run makes on the model. `setIConfig` and `setRConfig` stand for any update
of the two configuration objects. -/
inductive Op (I : Collaborators) where
  | powerOn
  | powerOff
  | invalidateSession
  | readConfig
  | setIConfig (config : I.ConfigurationObject)
  | setRConfig (config : I.ConfigurationObject)
  | checkAccessPrivileges (name : String) (value : Int)
  | encryptResult (result : List UInt8)
  | decryptCommand (command : List UInt8)
  | handshake (pkeyIndex : Int) (established : Option I.Session)

/-- The method an operation calls, its return value dropped. -/
def call : Op I → EStateM ModelError (BaseModel I) Unit
  | .powerOn => powerOn
  | .powerOff => powerOff
  | .invalidateSession => invalidateSession
  | .readConfig => discard config
  | .setIConfig iConfig => modify fun model => { model with iConfig }
  | .setRConfig rConfig => modify fun model => { model with rConfig }
  | .checkAccessPrivileges name value => checkAccessPrivileges name value
  | .encryptResult result => discard (encryptResult result)
  | .decryptCommand command => discard (decryptCommand command)
  | .handshake pkeyIndex established => handshake pkeyIndex established

/-- Whether the operation is a handshake. -/
def Op.isHandshake : Op I → Bool
  | .handshake .. => true
  | _ => false

/-- The object after one call, whether it returned or raised. -/
def step (model : BaseModel I) (op : Op I) : BaseModel I :=
  resultState (call op model)

/-- The object after a sequence of calls. -/
def run (model : BaseModel I) (ops : List (Op I)) : BaseModel I :=
  ops.foldl step model

@[simp] theorem run_nil (model : BaseModel I) : run model [] = model := rfl

theorem run_append (model : BaseModel I) (first second : List (Op I)) :
    run model (first ++ second) = run (run model first) second :=
  List.foldl_append _ _ _ _

@[simp] theorem run_cons (model : BaseModel I) (op : Op I) (ops : List (Op I)) :
    run model (op :: ops) = run (step model op) ops := rfl

/-! ## What one call does to the object -/

/-- `check_access_privileges` only reads the object. -/
theorem checkAccessPrivileges_state (name : String) (value : Int) (model : BaseModel I) :
    resultState (checkAccessPrivileges name value model) = model := by
  unfold checkAccessPrivileges
  split_ifs <;> rfl

@[simp] theorem step_powerOn (model : BaseModel I) : step model .powerOn = model := rfl

@[simp] theorem step_powerOff (model : BaseModel I) :
    step model .powerOff =
      { model with
        session := I.sessionReset model.session
        pairingKeySlot := -1
        commandBuffer := I.commandBufferReset model.commandBuffer
        spiFsm := I.spiFsmReset model.spiFsm
        cachedConfig := none } := rfl

@[simp] theorem step_invalidateSession (model : BaseModel I) :
    step model .invalidateSession =
      { model with session := I.sessionReset model.session, pairingKeySlot := -1 } := rfl

@[simp] theorem step_readConfig (model : BaseModel I) :
    step model .readConfig = { model with cachedConfig := some (configValue model) } := by
  obtain ⟨_, _, _, cached, _, _, _, _⟩ := model
  cases cached <;> rfl

@[simp] theorem step_setIConfig (model : BaseModel I) (iConfig : I.ConfigurationObject) :
    step model (.setIConfig iConfig) = { model with iConfig } := rfl

@[simp] theorem step_setRConfig (model : BaseModel I) (rConfig : I.ConfigurationObject) :
    step model (.setRConfig rConfig) = { model with rConfig } := rfl

@[simp] theorem step_checkAccessPrivileges (model : BaseModel I) (name : String) (value : Int) :
    step model (.checkAccessPrivileges name value) = model :=
  checkAccessPrivileges_state name value model

@[simp] theorem step_encryptResult (model : BaseModel I) (result : List UInt8) :
    step model (.encryptResult result) =
      { model with session := if model.activateEncryption then
          (I.encryptResponse model.session result).1 else model.session } := by
  show resultState (discard (encryptResult result) model) = _
  rw [resultState_discard]
  obtain ⟨_, _, enabled, _, _, _, _, _⟩ := model
  cases enabled <;> rfl

@[simp] theorem step_decryptCommand (model : BaseModel I) (command : List UInt8) :
    step model (.decryptCommand command) =
      { model with session := if model.activateEncryption then
          (I.decryptCommand model.session command).1 else model.session } := by
  show resultState (discard (decryptCommand command) model) = _
  rw [resultState_discard]
  obtain ⟨_, _, enabled, _, _, _, _, _⟩ := model
  cases enabled <;> rfl

@[simp] theorem step_handshake (model : BaseModel I) (pkeyIndex : Int)
    (established : Option I.Session) :
    step model (.handshake pkeyIndex established) =
      { model with
        session := established.getD (I.sessionReset model.session)
        pairingKeySlot := if established.isSome then pkeyIndex else -1 } := by
  cases established <;> rfl

/-- The `config` property returns `configValue` and leaves the object of a `readConfig` step. -/
theorem config_run (model : BaseModel I) :
    config.run model = .ok (configValue model) (step model .readConfig) := by
  obtain ⟨_, _, _, cached, _, _, _, _⟩ := model
  cases cached <;> rfl

/-- No call turns encryption on or off. -/
@[simp] theorem step_activateEncryption (model : BaseModel I) (op : Op I) :
    (step model op).activateEncryption = model.activateEncryption := by
  cases op <;> simp

@[simp] theorem run_activateEncryption (model : BaseModel I) (ops : List (Op I)) :
    (run model ops).activateEncryption = model.activateEncryption := by
  induction ops generalizing model with
  | nil => rfl
  | cons op ops ih => simp [ih]

/-- One 32-bit configuration register and stateless collaborators, with four pairing-key slots
and a 16-byte tag: an instance to run the model on. -/
def oneRegister : Collaborators where
  ConfigurationObject := UInt32
  and := (· &&& ·)
  Session := Unit
  sessionReset := id
  encryptResponse := fun session result => (session, result)
  decryptCommand := fun session command => (session, some command)
  CommandBuffer := Unit
  commandBufferReset := id
  SpiFsm := Unit
  spiFsmReset := id
  sHiPubNbSlots := 4
  encryptionTagLen := 16
  upper := String.toUpper

/-- A model of `oneRegister` right after construction, with encryption on. -/
def freshModel : BaseModel oneRegister :=
  ⟨(0xFF : UInt32), (0x0F : UInt32), true, none, (), -1, (), ()⟩

/-! ## Frames without encryption -/

end Tvl.Targets.Model
