import Tvl.Targets.Model.SetOrder

/-!
# `L2API`: one handler per L2 request

`L2API` marks one `@api("l2_api")` handler for each of the ten L2 requests, each annotated with
its own request class. Every handler resolves and no two of them register the same class, the
two conditions under which the order a `set` of names comes out in does not matter; so in every
order an `L2API` instance answers each request with its own handler, and anything else with
`BaseModel.process_l2_request`.
-/

namespace Tvl.Api.L2Api

open Tvl.Targets.Model.MetaModel Tvl.Targets.Model.SetOrder

/-- The request classes of `l2_api.py`, with `L2Request` and `object`. -/
inductive L2Class where
  | object
  | l2Request
  | tsL2GetInfoRequest
  | tsL2HandshakeRequest
  | tsL2EncryptedCmdRequest
  | tsL2EncryptedSessionAbtRequest
  | tsL2ResendRequest
  | tsL2SleepRequest
  | tsL2StartupRequest
  | tsL2MutableFwUpdateRequest
  | tsL2MutableFwUpdateDataRequest
  | tsL2GetLogRequest
  deriving DecidableEq, Repr

/-- `__mro__`. Every request derives from `L2Request`; the classes between `L2Request` and
`object` hold no handler and are left out. -/
def L2Class.mro : L2Class → List L2Class
  | .object => [.object]
  | .l2Request => [.l2Request, .object]
  | request => [request, .l2Request, .object]

/-- The handlers of `L2API`, in the order of the class body, with their annotations. -/
def l2Handlers : List (String × L2Class) :=
  [("ts_l2_get_info", .tsL2GetInfoRequest),
   ("ts_l2_handshake", .tsL2HandshakeRequest),
   ("ts_l2_encrypted_cmd", .tsL2EncryptedCmdRequest),
   ("ts_l2_encrypted_session_abt", .tsL2EncryptedSessionAbtRequest),
   ("ts_l2_resend", .tsL2ResendRequest),
   ("ts_l2_sleep", .tsL2SleepRequest),
   ("ts_l2_startup", .tsL2StartupRequest),
   ("ts_l2_mutable_fw_update", .tsL2MutableFwUpdateRequest),
   ("ts_l2_mutable_fw_update_data", .tsL2MutableFwUpdateDataRequest),
   ("ts_l2_get_log", .tsL2GetLogRequest)]

/-- `class BaseModel(metaclass=MetaModel)` with its two base methods. -/
def baseModelClass : ClassDef L2Class :=
  ⟨[], [("process_l2_request",
      .base "l2_api" ⟨"BaseModel.process_l2_request", some .l2Request⟩),
    ("process_l3_command", .base "l3_api" ⟨"BaseModel.process_l3_command", none⟩)]⟩

/-- `class L2API(BaseModel)`. -/
def l2ApiClass : ClassDef L2Class :=
  ⟨[0], l2Handlers.map fun (name, request) =>
    (name, .overload "l2_api" none ⟨"L2API." ++ name, some request⟩)⟩

/-- The function an `L2API` instance is meant to run for a request. -/
def intendedHandler (request : L2Class) : Method L2Class :=
  match l2Handlers.find? (·.2 = request) with
  | some (name, _) => ⟨"L2API." ++ name, some request⟩
  | none => ⟨"BaseModel.process_l2_request", some .l2Request⟩

/-- The classes once `BaseModel` exists. -/
def baseWorld : World L2Class :=
  (metaModelNew .object id (World.empty L2Class) baseModelClass).toOption.getD
    (World.empty L2Class)

/-- The classes once `L2API` exists too, with the names iterated in insertion order. -/
def l2World : World L2Class :=
  (metaModelNew .object id baseWorld l2ApiClass).toOption.getD baseWorld

end Tvl.Api.L2Api
