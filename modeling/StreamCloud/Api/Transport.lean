-- SUMMARY: What messages carry between actors: transports and tasks.
import StreamCloud.Api.JsonRpc
import StreamCloud.Library.Keyed

/-!
# Transports and tasks
-/

namespace StreamCloud

/-- The codes of `boost::system::error_code` that a handler tells apart. -/
inductive SocketErrorCode
  | connectionReset
  | notConnected
  | connectionRefused
  | eof
  | closed
  | other
deriving DecidableEq, Repr

/-- `web_socket`: the session it belongs to and its text. -/
structure WebSocket where
  id : String
  body : String
deriving DecidableEq, Repr

/-- `error`. -/
structure SocketError where
  id : String
  code : SocketErrorCode
deriving DecidableEq, Repr

/-- `transport`. Both kinds have the transport type of a websocket. -/
inductive Transport
  | webSocket (ws : WebSocket)
  | error (error : SocketError)
deriving DecidableEq, Repr

namespace Transport

def id : Transport → String
  | .webSocket ws => ws.id
  | .error e => e.id

/-- The cast to `web_socket`, which nothing checks. -/
def asWebSocket : Transport → Except Fault WebSocket
  | .webSocket ws => .ok ws
  | .error _ => .error .badCast

/-- The cast to `error`, which nothing checks. -/
def asError : Transport → Except Fault SocketError
  | .webSocket _ => .error .badCast
  | .error e => .ok e

@[simp] theorem asWebSocket_webSocket (ws : WebSocket) : (webSocket ws).asWebSocket = .ok ws := rfl

@[simp] theorem asWebSocket_error (e : SocketError) : (error e).asWebSocket = .error .badCast := rfl

@[simp] theorem asError_error (e : SocketError) : (error e).asError = .ok e := rfl

@[simp] theorem asError_webSocket (ws : WebSocket) : (webSocket ws).asError = .error .badCast := rfl

theorem asWebSocket_eq_ok {transport : Transport} {ws : WebSocket} :
    transport.asWebSocket = .ok ws ↔ transport = .webSocket ws := by
  cases transport <;> simp [asWebSocket]

theorem asError_eq_ok {transport : Transport} {e : SocketError} :
    transport.asError = .ok e ↔ transport = .error e := by
  cases transport <;> simp [asError]

end Transport

/-- `task`: a request, the session it came from and what the services note on it. -/
structure Task where
  request : RequestMessage
  transportId : String
  storage : StringMap String
deriving DecidableEq

namespace Task

/-- `storage[key]`, read: the empty string under a key that is not there. -/
def stored (task : Task) (key : String) : String := (task.storage.lookup key).getD ""

/-- `storage[key] = value`. -/
def store (task : Task) (key value : String) : Task :=
  { task with storage := task.storage.insert key value }

/-- `storage.emplace(key, value)`. -/
def emplace (task : Task) (key value : String) : Task :=
  { task with storage := task.storage.emplace key value }

section Storage

variable {task : Task} {key key' value : String}

@[simp] theorem request_store : (task.store key value).request = task.request := rfl

@[simp] theorem transportId_store : (task.store key value).transportId = task.transportId := rfl

@[simp] theorem request_emplace : (task.emplace key value).request = task.request := rfl

@[simp] theorem transportId_emplace : (task.emplace key value).transportId = task.transportId := rfl

@[simp] theorem stored_store_self : (task.store key value).stored key = value := by
  simp [stored, store]

theorem stored_store_ne (h : key' ≠ key) : (task.store key value).stored key' = task.stored key' := by
  simp [stored, store, AList.lookup_insert_ne h]

/-- What is emplaced is seen only under a key that was not there. -/
theorem stored_emplace_self :
    (task.emplace key value).stored key = (task.storage.lookup key).getD value := by
  simp [stored, emplace, AList.lookup_emplace_self]

theorem stored_emplace_ne (h : key' ≠ key) :
    (task.emplace key value).stored key' = task.stored key' := by
  simp [stored, emplace, AList.lookup_emplace_ne h]

end Storage

/-- The router is to dispatch the task to this handler. -/
def Names (task : Task) (serviceName methodName : String) : Prop :=
  task.stored "service.name" = serviceName ∧ task.stored "service.method" = methodName

/-- `request.params[key].as<std::string>()`. -/
def paramString (task : Task) (key : String) : Except Fault String :=
  task.request.params.stringAt key

/-- `request.metadata[key].as<std::string>()`. -/
def metadataString (task : Task) (key : String) : Except Fault String :=
  task.request.metadata.stringAt key

end Task

end StreamCloud
