-- SUMMARY: Which json-rpc messages come back from the objects they are written as.
import StreamCloud.Api.JsonRpc

/-!
# Round trips of messages

`serialize` and `parse` are written separately for the three kinds of messages.
The object in between is the one that the text codec is given and gives back.
-/

namespace StreamCloud

/-- A message of one of the three kinds. -/
inductive RpcMessage
  | request (msg : RequestMessage)
  | notify (msg : NotifyMessage)
  | response (msg : ResponseMessage)
deriving DecidableEq

namespace RpcMessage

/-- `serialize`, as an object. -/
def toMap : RpcMessage → JsonMap
  | .request msg => msg.toMap
  | .notify msg => msg.toMap
  | .response msg => msg.toMap

/-- Whether an object is told to be a request, a notification or a response. -/
def kinds (m : JsonMap) : Bool × Bool × Bool := (m.isRequest, m.isNotify, m.isResponse)

/-- What the kind of the message is told by. -/
def kind : RpcMessage → Bool × Bool × Bool
  | .request _ => (true, false, false)
  | .notify _ => (false, true, false)
  | .response _ => (false, false, true)

/-- `parse` into a new message of the same kind. -/
def reparse : RpcMessage → JsonMap → Except Fault RpcMessage
  | .request _, m => m.parseRequest.map fun r => .request r.1
  | .notify _, m => m.parseNotify.map fun r => .notify r.1
  | .response _, m => (m.parseResponse .blank).map fun r => .response r.1

/-- The object is told to be of the message's own kind only, and is read as the message. -/
def RoundTrips (msg : RpcMessage) : Prop :=
  kinds msg.toMap = msg.kind ∧ msg.reparse msg.toMap = .ok msg

/-- The error that a message carries. -/
def error : RpcMessage → Option ResponseError
  | .response msg => msg.error
  | _ => none

/-- Every message is told to be what it is. -/
theorem kinds_toMap (msg : RpcMessage) : kinds msg.toMap = msg.kind := by
  cases msg with
  | request msg =>
    simp [kinds, toMap, kind, JsonMap.isRequest, JsonMap.isNotify, JsonMap.isResponse, JsonMap.contains,
      RequestMessage.find?_toMap_method, RequestMessage.find?_toMap_id]
  | notify msg =>
    simp [kinds, toMap, kind, JsonMap.isRequest, JsonMap.isNotify, JsonMap.isResponse, JsonMap.contains,
      NotifyMessage.find?_toMap_id]
  | response msg =>
    simp [kinds, toMap, kind, JsonMap.isRequest, JsonMap.isNotify, JsonMap.isResponse, JsonMap.contains,
      ResponseMessage.find?_toMap_method, ResponseMessage.find?_toMap_id]

/-- A message is read back as it was, but for its error. -/
theorem reparse_toMap (msg : RpcMessage) :
    msg.reparse msg.toMap = .ok (match msg with
      | .response msg => .response { msg with error := none }
      | msg => msg) := by
  cases msg with
  | request msg =>
    rw [reparse, toMap, RequestMessage.parseRequest_toMap]
    rfl
  | notify msg =>
    rw [reparse, toMap, NotifyMessage.parseNotify_toMap]
    rfl
  | response msg =>
    rw [reparse, toMap, ResponseMessage.parseResponse_toMap]
    rfl

end RpcMessage

/-- A message goes through the object it is written as exactly if it carries no
error. -/
theorem roundTrips_iff (msg : RpcMessage) : msg.RoundTrips ↔ msg.error = none := by
  rw [RpcMessage.RoundTrips, RpcMessage.reparse_toMap]
  cases msg with
  | request msg => exact iff_of_true ⟨RpcMessage.kinds_toMap _, rfl⟩ rfl
  | notify msg => exact iff_of_true ⟨RpcMessage.kinds_toMap _, rfl⟩ rfl
  | response msg =>
    constructor
    · rintro ⟨-, hread⟩
      have hsame : { msg with error := none } = msg := RpcMessage.response.inj (Except.ok.inj hread)
      exact congrArg ResponseMessage.error hsame.symm
    · intro herror
      have hsame : { msg with error := none } = msg := by
        obtain ⟨id, result, metadata, error⟩ := msg
        obtain rfl : error = none := herror
        rfl
      exact ⟨RpcMessage.kinds_toMap _, congrArg (fun m => Except.ok (RpcMessage.response m)) hsame⟩

/-- The answer to a request that was refused. -/
def deniedResponse : ResponseMessage where
  id := .integer 1
  result := .null
  metadata := []
  error := some { code := .unknownErrorCode, message := "access is denied", data := .null }

/-- Its error is lost. -/
theorem deniedResponse_not_roundTrips : ¬ (RpcMessage.response deniedResponse).RoundTrips := by
  rintro ⟨-, hread⟩
  rw [RpcMessage.reparse_toMap] at hread
  cases hread

end StreamCloud
