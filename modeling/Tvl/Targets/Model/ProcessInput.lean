import Tvl.Targets.Model.Annotations
import Tvl.Targets.Model.BaseModel

/-!
# `process_input`: from a frame to the handler

`BaseModel.process_input` is where a complete L2 frame enters the model. `_process_input`
parses it as a generic `L2Request`, answers `CRC_ERR` when the checksum is wrong, turns the
frame into the request class its id names, answering `UNKNOWN_REQ` when none does and
`CRC_ERR` when the frame does not fit the class, and calls `process_l2_request`, the base
method whose dispatcher picks the handler; an `L2ProcessingError` of the handler becomes a
response with its status. The message classes are outside this development and enter as
`L2Messages`; the handler that runs is a function of the `MetaModel` world, and what it does
is the parameter `perform`.
-/

namespace Tvl.Targets.Model.ProcessInput

open MetaModel Annotations SharedRegistry

/-- The exceptions on the path of a frame. -/
inductive PyException (Status : Type) where
  /-- `L2ProcessingError(status)`. -/
  | l2Processing (status : Status)
  /-- `SubclassNotFoundError`, raised for an id no request class has. -/
  | subclassNotFound
  /-- `NoValidSubclassError`, raised for a frame that fits no request class of its id. -/
  | noValidSubclass
  /-- `AttributeError`: the object has no such method. -/
  | attributeError (name : String)
  /-- Any other exception, such as the `NotImplementedError` of an unimplemented handler. -/
  | other (message : String)
  deriving DecidableEq, Repr

/-- `Union[L2Response, List[L2Response]]`. -/
inductive Responses (Response : Type) where
  | one (response : Response)
  | many (responses : List Response)

/-- The L2 message layer, outside this development: `L2Request.with_length(len(data))
.from_bytes(data)`, `has_valid_crc`, `id.value` and `instantiate_subclass`, the class of a
request for dispatch, `L2Response(status=...)` and `to_bytes`, and the statuses `CRC_ERR` and
`UNKNOWN_REQ` of `L2StatusEnum`. -/
structure L2Messages (Ty : Type) where
  Request : Type
  Response : Type
  Status : Type
  crcErr : Status
  unknownReq : Status
  fromBytes : List UInt8 → Except (PyException Status) Request
  hasValidCrc : Request → Bool
  id : Request → Nat
  instantiateSubclass : Nat → List UInt8 → Except (PyException Status) Request
  requestClass : Request → Ty
  response : Status → Response
  toBytes : Response → List UInt8

variable {Ty : Type} (M : L2Messages Ty)

/-- The `except` clauses around `instantiate_subclass`: the status each caught exception is
answered with. -/
def instantiateStatus : PyException M.Status → Option M.Status
  | .subclassNotFound => some M.unknownReq
  | .noValidSubclass => some M.crcErr
  | _ => none

/-- The `except L2ProcessingError` clause around `process_l2_request`. -/
def l2ProcessingStatus {Status : Type} : PyException Status → Option Status
  | .l2Processing status => some status
  | _ => none

variable {σ : Type} (mro : Ty → List Ty) (world : World Ty) (cls : Nat)
  (perform : Method Ty → M.Request → EStateM (PyException M.Status) σ (Responses M.Response))

/-- `self.process_l2_request(request)` on an instance of class `cls`: the function the base
method dispatches to, run on the request. -/
def processL2Request (request : M.Request) :
    EStateM (PyException M.Status) σ (Responses M.Response) :=
  match callMethod mro world cls "process_l2_request" (M.requestClass request) with
  | some method => perform method request
  | none => fun model => .error (.attributeError "process_l2_request") model

/-- An `except` clause: an exception it catches is answered with a response of the status it
maps to, and any other propagates. -/
def answer (caught : Option M.Status) (error : PyException M.Status) (after : σ) :
    EStateM.Result (PyException M.Status) σ (Responses M.Response) :=
  match caught with
  | some status => .ok (.one (M.response status)) after
  | none => .error error after

/-- `BaseModel._process_input(data)`. -/
def _processInput (data : List UInt8) : EStateM (PyException M.Status) σ (Responses M.Response) :=
  fun model =>
    match M.fromBytes data with
    | .error error => .error error model
    | .ok request =>
        if !M.hasValidCrc request then .ok (.one (M.response M.crcErr)) model
        else
          match M.instantiateSubclass (M.id request) data with
          | .error error => answer M (instantiateStatus M error) error model
          | .ok request =>
              match processL2Request M mro world cls perform request model with
              | .error error after => answer M (l2ProcessingStatus error) error after
              | .ok responses after => .ok responses after

/-- `BaseModel.process_input(data)`: the responses as bytes. -/
def processInput (data : List UInt8) :
    EStateM (PyException M.Status) σ (List UInt8 ⊕ List (List UInt8)) := fun model =>
  match _processInput M mro world cls perform data model with
  | .ok (.one response) after => .ok (.inl (M.toBytes response)) after
  | .ok (.many responses) after => .ok (.inr (responses.map M.toBytes)) after
  | .error error after => .error error after

/-- `process_input` called on each frame in turn, on one object: the object after the calls,
whatever each of them returned or raised. -/
def processFrames (frames : List (List UInt8)) (model : σ) : σ :=
  frames.foldl (fun model data => resultState (processInput M mro world cls perform data model))
    model

/-! ## The three outcomes of a frame -/

variable {M mro world cls perform}

@[simp] theorem resultState_answer (caught : Option M.Status) (error : PyException M.Status)
    (after : σ) : resultState (answer M caught error after) = after := by
  cases caught <;> rfl

theorem resultState_processInput (data : List UInt8) (model : σ) :
    resultState (processInput M mro world cls perform data model) =
      resultState (_processInput M mro world cls perform data model) := by
  unfold processInput
  split <;> simp_all [resultState]

section Frame

variable {data : List UInt8} {request : M.Request} (parsed : M.fromBytes data = .ok request)
  (model : σ)
include parsed

theorem _processInput_of_bad_crc (bad : M.hasValidCrc request = false) :
    _processInput M mro world cls perform data model =
      .ok (.one (M.response M.crcErr)) model := by
  simp [_processInput, parsed, bad]

theorem _processInput_of_not_instantiated (valid : M.hasValidCrc request = true)
    {error : PyException M.Status}
    (failed : M.instantiateSubclass (M.id request) data = .error error) :
    _processInput M mro world cls perform data model =
      answer M (instantiateStatus M error) error model := by
  simp [_processInput, parsed, valid, failed]

theorem _processInput_of_instantiated (valid : M.hasValidCrc request = true)
    {instantiated : M.Request}
    (made : M.instantiateSubclass (M.id request) data = .ok instantiated) :
    _processInput M mro world cls perform data model =
      match processL2Request M mro world cls perform instantiated model with
      | .error error after => answer M (l2ProcessingStatus error) error after
      | .ok responses after => .ok responses after := by
  simp [_processInput, parsed, valid, made]

end Frame

/-- `_process_input` leaves the object as it was unless it ran a handler on an instantiated
request, and then leaves it as the handler did. -/
theorem _processInput_state (data : List UInt8) (model : σ) :
    resultState (_processInput M mro world cls perform data model) = model ∨
      ∃ request instantiated method, M.fromBytes data = .ok request ∧
        M.hasValidCrc request = true ∧
        M.instantiateSubclass (M.id request) data = .ok instantiated ∧
        callMethod mro world cls "process_l2_request" (M.requestClass instantiated) =
          some method ∧
        resultState (_processInput M mro world cls perform data model) =
          resultState (perform method instantiated model) := by
  cases parsed : M.fromBytes data with
  | error error => exact .inl (by simp [_processInput, parsed, resultState])
  | ok request =>
      cases valid : M.hasValidCrc request with
      | false => exact .inl (by rw [_processInput_of_bad_crc parsed model valid]; rfl)
      | true =>
          cases made : M.instantiateSubclass (M.id request) data with
          | error error =>
              exact .inl (by simp [_processInput_of_not_instantiated parsed model valid made])
          | ok instantiated =>
              rw [_processInput_of_instantiated parsed model valid made]
              have caught :
                  ∀ result : EStateM.Result (PyException M.Status) σ (Responses M.Response),
                  resultState (match result with
                    | .error error after => answer M (l2ProcessingStatus error) error after
                    | .ok responses after => .ok responses after) = resultState result := by
                rintro (⟨_, _⟩ | ⟨error, after⟩)
                · rfl
                · exact resultState_answer _ error after
              rw [caught]
              cases called :
                  callMethod mro world cls "process_l2_request" (M.requestClass instantiated) with
              | none => exact .inl (by simp [processL2Request, called, resultState])
              | some method =>
                  exact .inr ⟨request, instantiated, method, rfl, valid, made, called,
                    by simp [processL2Request, called]⟩

/-! ## Runs of frames -/

section Keeps

variable (Inv : σ → Prop)
  (keeps : ∀ request method model,
    callMethod mro world cls "process_l2_request" (M.requestClass request) = some method →
    Inv model → Inv (resultState (perform method request model)))
include keeps

/-- One call keeps every property of the object that the function it dispatches to keeps. -/
theorem processInput_keeps (data : List UInt8) {model : σ} (holds : Inv model) :
    Inv (resultState (processInput M mro world cls perform data model)) := by
  rw [resultState_processInput]
  rcases _processInput_state data model with
    same | ⟨_, instantiated, method, -, -, -, called, state⟩
  · rwa [same]
  · rw [state]
    exact keeps instantiated method model called holds

theorem processFrames_keeps :
    ∀ (frames : List (List UInt8)) (model : σ), Inv model →
      Inv (processFrames M mro world cls perform frames model)
  | [], _, holds => holds
  | data :: rest, _, holds =>
      processFrames_keeps rest _ (processInput_keeps Inv keeps data holds)

end Keeps

/-! ## The dispatcher boundary -/

variable (M mro perform)

/-- In a world made by any program of class statements, in whatever order each `set` of handler
names is iterated, on an instance of any class whose `process_l2_request` is the base method:
every property of the object that each function the program may register keeps, on requests of
the classes it is sanctioned for, holds after any sequence of `process_input` calls, whatever
the frames and whatever each call returns or raises. Parsing, the checksum and
`instantiate_subclass` never change the object, and the dispatcher runs only functions
sanctioned for a class of the request's MRO. -/
theorem process_input_keeps_handler_invariants [DecidableEq Ty] {object : Ty}
    {setOrder : List String → List String} (perm : ∀ names, (setOrder names).Perm names)
    {program : List (ClassDef Ty)}
    (created : createClasses object setOrder (World.empty Ty) program = .ok world)
    {api : String} {dispatcher : Nat} {base : Method Ty}
    (inherits : world.getattr cls "process_l2_request" = some (.base api dispatcher base))
    (Inv : σ → Prop)
    (keeps : ∀ method request model,
      (∃ type ∈ mro (M.requestClass request), Sanctioned object program type method) →
      Inv model → Inv (resultState (perform method request model)))
    (frames : List (List UInt8)) (model : σ) (holds : Inv model) :
    Inv (processFrames M mro world cls perform frames model) :=
  have typed := createClasses_typed perm (fun _ mem => mem) typed_empty created
  processFrames_keeps Inv (fun request method model called =>
    keeps method request model (sanctioned_of_callMethod typed mro inherits called)) frames model
    holds

/-- A message layer in which every frame parses with a good checksum and the id `1` of
`TsL2GetInfoRequest`; statuses and responses are numbers. -/
def idByteFrames : L2Messages Request where
  Request := Request
  Response := Nat
  Status := Nat
  crcErr := 3
  unknownReq := 4
  fromBytes := fun _ => .ok .l2Request
  hasValidCrc := fun _ => true
  id := fun _ => 1
  instantiateSubclass := fun id _ =>
    if id = 1 then .ok .getInfoRequest else .error .subclassNotFound
  requestClass := fun request => request
  response := fun status => status
  toBytes := fun status => [UInt8.ofNat status]

/-- Handlers that answer status `0` and count the requests they served. -/
def countingHandler (_ : Method Request) (_ : Request) :
    EStateM (PyException Nat) Nat (Responses Nat) := fun served =>
  .ok (.one 0) (served + 1)

theorem faulty_world_keeps_count_positive :
    (∀ names : List String, (id names).Perm names) ∧
      createClasses .object id (World.empty Request) [baseModel, l2Api, faultyModel] =
        .ok faultyWorld ∧
      faultyWorld.getattr 1 "process_l2_request" =
        some (.base "l2_api" 0 ⟨"BaseModel.process_l2_request", some .l2Request⟩) ∧
      (∀ method request (served : Nat),
        (∃ type ∈ Request.mro (idByteFrames.requestClass request),
          Sanctioned .object [baseModel, l2Api, faultyModel] type method) →
        1 ≤ served → 1 ≤ resultState (countingHandler method request served)) ∧
      1 ≤ processFrames idByteFrames Request.mro faultyWorld 1 countingHandler [[1], [2, 3]] 1 :=
  have perm : ∀ names : List String, (id names).Perm names := fun _ => .refl _
  have created : createClasses .object id (World.empty Request) [baseModel, l2Api, faultyModel] =
      .ok faultyWorld := rfl
  have inherits : faultyWorld.getattr 1 "process_l2_request" =
      some (.base "l2_api" 0 ⟨"BaseModel.process_l2_request", some .l2Request⟩) := rfl
  have keeps : ∀ method request (served : Nat),
      (∃ type ∈ Request.mro (idByteFrames.requestClass request),
        Sanctioned .object [baseModel, l2Api, faultyModel] type method) →
      1 ≤ served → 1 ≤ resultState (countingHandler method request served) :=
    fun _ _ _ _ holds => Nat.le_succ_of_le holds
  ⟨perm, created, inherits, keeps,
    process_input_keeps_handler_invariants idByteFrames Request.mro countingHandler perm created
      inherits (1 ≤ ·) keeps [[1], [2, 3]] 1 le_rfl⟩

end Tvl.Targets.Model.ProcessInput
