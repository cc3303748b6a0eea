-- SUMMARY: The json-rpc messages: which one an object is, its reading and its writing.
import StreamCloud.Api.Json
import Mathlib.Algebra.Group.Int.Defs
import Mathlib.Algebra.Group.Nat.Defs

/-!
# json-rpc

`json-rpc.hpp` and `json-rpc.cpp`. An object is told apart by its members `id`
and `method` alone.
-/

namespace StreamCloud

/-- `error_code`. -/
inductive RpcErrorCode
  | parseError
  | invalidRequest
  | methodNotFound
  | invalidParams
  | internalError
  | serverErrorStart
  | serverErrorEnd
  | serverNotInitialized
  | unknownErrorCode
deriving DecidableEq, Repr

def RpcErrorCode.value : RpcErrorCode → Int
  | .parseError => -32700
  | .invalidRequest => -32600
  | .methodNotFound => -32601
  | .invalidParams => -32602
  | .internalError => -32603
  | .serverErrorStart => -32099
  | .serverErrorEnd => -32000
  | .serverNotInitialized => -31999
  | .unknownErrorCode => -32001

/-- `uint64_t(code)`, kept as the `int64_t` of a JSON value. -/
def RpcErrorCode.wire (code : RpcErrorCode) : Int := (code.value % 2 ^ 64).bmod (2 ^ 64)

structure RequestMessage where
  id : JsonValue
  method : String
  params : JsonValue
  metadata : JsonMap
deriving DecidableEq

structure ResponseError where
  code : RpcErrorCode
  message : String
  data : JsonValue
deriving DecidableEq

structure NotifyMessage where
  method : String
  params : JsonValue
  metadata : JsonMap
deriving DecidableEq

structure ResponseMessage where
  id : JsonValue
  result : JsonValue
  metadata : JsonMap
  error : Option ResponseError
deriving DecidableEq

/-- A response as its constructor leaves it. -/
def ResponseMessage.blank : ResponseMessage where
  id := .null
  result := .null
  metadata := []
  error := none

/-! ## Telling messages apart -/

namespace JsonMap

def isNotify (m : JsonMap) : Bool := !m.contains "id"

def isRequest (m : JsonMap) : Bool := m.contains "method" && m.contains "id"

def isResponse (m : JsonMap) : Bool := !m.contains "method" && m.contains "id"

/-- An object that is neither a request nor a response is a notification. -/
theorem isNotify_of_not {m : JsonMap} (hreq : m.isRequest = false) (hres : m.isResponse = false) :
    m.isNotify = true := by
  unfold isRequest at hreq
  unfold isResponse at hres
  unfold isNotify
  cases hmethod : m.contains "method" <;> simp_all

end JsonMap

/-! ## Reading -/

/-- `param`, and `params` where there is none. Reading `params` of an object
without it puts a null there. -/
def JsonMap.readParams (m : JsonMap) : JsonValue × JsonMap :=
  if m.contains "param" then (m.get "param", m) else (m.get "params", m.touch "params")

/-- The metadata, which is empty where there is none. -/
def JsonMap.readMetadata (m : JsonMap) : Except Fault JsonMap :=
  if m.contains "metadata" then (m.get "metadata").asMap else return []

/-- `parse(message, request)`, and what it makes of the message it reads. -/
def JsonMap.parseRequest (m : JsonMap) : Except Fault (RequestMessage × JsonMap) := do
  let m := m.touch "id"
  let method ← m.stringAt "method"
  let (params, m) := m.readParams
  let metadata ← m.readMetadata
  return ({ id := m.get "id", method, params, metadata }, m)

/-- `parse(message, notify)`. -/
def JsonMap.parseNotify (m : JsonMap) : Except Fault (NotifyMessage × JsonMap) := do
  let method ← m.stringAt "method"
  let (params, m) := m.readParams
  let metadata ← m.readMetadata
  return ({ method, params, metadata }, m)

/-- `parse(message, response)`. The error of the response that is filled stays. -/
def JsonMap.parseResponse (m : JsonMap) (response : ResponseMessage) :
    Except Fault (ResponseMessage × JsonMap) := do
  let m := (m.touch "id").touch "result"
  let metadata ← m.readMetadata
  return ({ response with id := m.get "id", result := m.get "result", metadata }, m)

namespace JsonMap

theorem contains_touch (m : JsonMap) (key key' : String) :
    (m.touch key).contains key' = (decide (key' = key) || m.contains key') := by
  unfold touch
  split
  · next h =>
    by_cases hk : key' = key
    · subst hk; simp [h]
    · simp [hk]
  · exact contains_set m key key' .null

theorem get_readParams_snd (m : JsonMap) (key : String) : m.readParams.2.get key = m.get key := by
  unfold readParams
  split
  · rfl
  · exact get_touch m "params" key

theorem readMetadata_readParams (m : JsonMap) : m.readParams.2.readMetadata = m.readMetadata := by
  have hcontains : m.readParams.2.contains "metadata" = m.contains "metadata" := by
    unfold readParams
    split
    · rfl
    · rw [contains_touch]; rfl
  simp only [readMetadata, hcontains, get_readParams_snd]

/-- The metadata of a message, where it can be read. -/
theorem readMetadata_eq_ok {m metadata : JsonMap} :
    m.readMetadata = .ok metadata ↔
      m.find? "metadata" = some (.map metadata) ∨ m.find? "metadata" = none ∧ metadata = [] := by
  cases hf : m.find? "metadata" with
  | none => simp [readMetadata, contains, hf, pure, Except.pure, eq_comm]
  | some v => simp [readMetadata, contains, get, hf, JsonValue.asMap_eq_ok]

/-- A request is read exactly when its method is a string and its metadata is an
object or missing. -/
theorem parseRequest_eq_ok {m m' : JsonMap} {request : RequestMessage} (hid : m.contains "id") :
    m.parseRequest = .ok (request, m') ↔
      m.find? "method" = some (.string request.method) ∧
      m.readMetadata = .ok request.metadata ∧
      request.id = m.get "id" ∧ request.params = m.readParams.1 ∧ m' = m.readParams.2 := by
  obtain ⟨id, method, params, metadata⟩ := request
  rw [parseRequest, touch_of_contains hid]
  simp only [Except.bind_eq_ok, stringAt_eq_ok, readMetadata_readParams, get_readParams_snd]
  constructor
  · rintro ⟨method', hmethod, metadata', hmetadata, heq⟩
    obtain ⟨h, rfl⟩ := Prod.mk.inj (Except.ok.inj heq)
    obtain ⟨rfl, rfl, rfl, rfl⟩ := RequestMessage.mk.inj h
    exact ⟨hmethod, hmetadata, rfl, rfl, rfl⟩
  · rintro ⟨hmethod, hmetadata, rfl, rfl, rfl⟩
    exact ⟨method, hmethod, metadata, hmetadata, rfl⟩

end JsonMap

/-- A text that is told to be a request, and how it is read. -/
def Codec.ReadsRequest (J : Codec) (text : String) (request : RequestMessage) : Prop :=
  ∃ message m', J.parse text = .ok message ∧ message.isRequest ∧
    message.parseRequest = .ok (request, m')

theorem Codec.ReadsRequest.unique {J : Codec} {text : String} {request request' : RequestMessage}
    (h : J.ReadsRequest text request) (h' : J.ReadsRequest text request') : request = request' := by
  obtain ⟨message, m, hparse, -, hread⟩ := h
  obtain ⟨message', m', hparse', -, hread'⟩ := h'
  obtain rfl : message = message' := Except.ok.inj (hparse.symm.trans hparse')
  exact (Prod.mk.inj (Except.ok.inj (hread.symm.trans hread'))).1

/-! ## Requests in objects -/

/-- The request that an object holds. -/
structure JsonMap.Holds (m : JsonMap) (request : RequestMessage) : Prop where
  id : request.id = m.get "id"
  method : m.find? "method" = some (.string request.method)
  params : request.params = if m.contains "param" then m.get "param" else m.get "params"
  metadata : m.find? "metadata" = some (.map request.metadata) ∨
    m.find? "metadata" = none ∧ request.metadata = []

theorem JsonMap.holds_iff {m : JsonMap} {request : RequestMessage} (hid : m.contains "id") :
    m.Holds request ↔ m.parseRequest = .ok (request, m.readParams.2) := by
  have hparams : m.readParams.1 = if m.contains "param" then m.get "param" else m.get "params" := by
    unfold readParams
    split <;> rfl
  rw [parseRequest_eq_ok hid, readMetadata_eq_ok, hparams]
  constructor
  · rintro ⟨hid, hmethod, hparams, hmetadata⟩
    exact ⟨hmethod, hmetadata, hid, hparams, rfl⟩
  · rintro ⟨hmethod, hmetadata, hid, hparams, -⟩
    exact ⟨hid, hmethod, hparams, hmetadata⟩

/-- A request that can be read is held. -/
theorem JsonMap.holds_of_parseRequest {m m' : JsonMap} {request : RequestMessage} (hid : m.contains "id")
    (h : m.parseRequest = .ok (request, m')) : m.Holds request := by
  obtain ⟨hmethod, hmetadata, hid', hparams, rfl⟩ := (parseRequest_eq_ok hid).mp h
  exact (holds_iff hid).mpr ((parseRequest_eq_ok hid).mpr ⟨hmethod, hmetadata, hid', hparams, rfl⟩)

theorem JsonMap.contains_id_of_isRequest {m : JsonMap} (h : m.isRequest) : m.contains "id" := by
  rw [isRequest, Bool.and_eq_true] at h
  exact h.2

theorem JsonMap.Holds.reads {J : Codec} {text : String} {m : JsonMap} {request : RequestMessage}
    (h : m.Holds request) (hparse : J.parse text = .ok m) (hrequest : m.isRequest) :
    J.ReadsRequest text request :=
  ⟨m, _, hparse, hrequest, (holds_iff (contains_id_of_isRequest hrequest)).mp h⟩

/-! ## Writing -/

/-- `serialize` of a request, as an object. -/
def RequestMessage.toMap (msg : RequestMessage) : JsonMap :=
  let obj := JsonMap.set (JsonMap.set [] "jsonrpc" (.string "2.0")) "method" (.string msg.method)
  let obj := if msg.params = .null then obj else obj.set "params" msg.params
  let obj := obj.set "id" msg.id
  if msg.metadata.isEmpty then obj else obj.set "metadata" (.map msg.metadata)

/-- `serialize` of a notification, as an object. -/
def NotifyMessage.toMap (msg : NotifyMessage) : JsonMap :=
  let obj := JsonMap.set (JsonMap.set [] "jsonrpc" (.string "2.0")) "method" (.string msg.method)
  let obj := if msg.params = .null then obj else obj.set "params" msg.params
  if msg.metadata.isEmpty then obj else obj.set "metadata" (.map msg.metadata)

def ResponseError.toMap (error : ResponseError) : JsonMap :=
  JsonMap.ofMembers [("code", .integer error.code.wire), ("message", .string error.message),
    ("data", error.data)]

/-- `serialize` of a response, as an object. -/
def ResponseMessage.toMap (msg : ResponseMessage) : JsonMap :=
  let obj := JsonMap.set (JsonMap.set [] "jsonrpc" (.string "2.0")) "result" msg.result
  let obj := match msg.error with
    | some error => obj.set "error" (.map error.toMap)
    | none => obj
  let obj := obj.set "id" msg.id
  if msg.metadata.isEmpty then obj else obj.set "metadata" (.map msg.metadata)

def RequestMessage.serialize (J : Codec) (msg : RequestMessage) : String := J.print msg.toMap

def NotifyMessage.serialize (J : Codec) (msg : NotifyMessage) : String := J.print msg.toMap

def ResponseMessage.serialize (J : Codec) (msg : ResponseMessage) : String := J.print msg.toMap

/-! ### Members of a written message -/

namespace RequestMessage

variable (msg : RequestMessage)

theorem find?_toMap_method : msg.toMap.find? "method" = some (.string msg.method) := by
  unfold toMap
  dsimp only
  split <;> split <;> simp [JsonMap.find?_set]

theorem find?_toMap_id : msg.toMap.find? "id" = some msg.id := by
  unfold toMap
  dsimp only
  split <;> split <;> simp [JsonMap.find?_set]

theorem find?_toMap_param : msg.toMap.find? "param" = none := by
  unfold toMap
  dsimp only
  split <;> split <;> simp [JsonMap.find?_set]

theorem get_toMap_params : msg.toMap.get "params" = msg.params := by
  unfold toMap JsonMap.get
  dsimp only
  split <;> split <;> simp_all [JsonMap.find?_set]

theorem find?_toMap_metadata :
    msg.toMap.find? "metadata" = if msg.metadata.isEmpty then none else some (.map msg.metadata) := by
  unfold toMap
  dsimp only
  split <;> split <;> simp [JsonMap.find?_set]

theorem isRequest_toMap : msg.toMap.isRequest := by
  simp [JsonMap.isRequest, JsonMap.contains, find?_toMap_method, find?_toMap_id]

theorem readMetadata_toMap : msg.toMap.readMetadata = .ok msg.metadata := by
  rw [JsonMap.readMetadata_eq_ok, find?_toMap_metadata]
  cases hempty : msg.metadata.isEmpty with
  | true => exact .inr ⟨rfl, List.isEmpty_iff.mp hempty⟩
  | false => exact .inl rfl

/-- A request that is written as an object is read in it. -/
theorem parseRequest_toMap : msg.toMap.parseRequest = .ok (msg, msg.toMap.readParams.2) := by
  have hid : msg.toMap.contains "id" := by simp [JsonMap.contains, find?_toMap_id]
  have hparam : msg.toMap.contains "param" = false := by
    simp [JsonMap.contains, find?_toMap_param]
  refine (JsonMap.parseRequest_eq_ok hid).mpr
    ⟨find?_toMap_method msg, readMetadata_toMap msg, ?_, ?_, rfl⟩
  · simp [JsonMap.get, find?_toMap_id]
  · simp [JsonMap.readParams, hparam, get_toMap_params]

end RequestMessage

namespace NotifyMessage

variable (msg : NotifyMessage)

theorem find?_toMap_method : msg.toMap.find? "method" = some (.string msg.method) := by
  unfold toMap
  dsimp only
  split <;> split <;> simp [JsonMap.find?_set]

theorem find?_toMap_id : msg.toMap.find? "id" = none := by
  unfold toMap
  dsimp only
  split <;> split <;> simp [JsonMap.find?_set]

theorem find?_toMap_param : msg.toMap.find? "param" = none := by
  unfold toMap
  dsimp only
  split <;> split <;> simp [JsonMap.find?_set]

theorem get_toMap_params : msg.toMap.get "params" = msg.params := by
  unfold toMap JsonMap.get
  dsimp only
  split <;> split <;> simp_all [JsonMap.find?_set]

theorem find?_toMap_metadata :
    msg.toMap.find? "metadata" = if msg.metadata.isEmpty then none else some (.map msg.metadata) := by
  unfold toMap
  dsimp only
  split <;> split <;> simp [JsonMap.find?_set]

theorem readMetadata_toMap : msg.toMap.readMetadata = .ok msg.metadata := by
  rw [JsonMap.readMetadata_eq_ok, find?_toMap_metadata]
  cases hempty : msg.metadata.isEmpty with
  | true => exact .inr ⟨rfl, List.isEmpty_iff.mp hempty⟩
  | false => exact .inl rfl

/-- A notification that is written as an object is read in it. -/
theorem parseNotify_toMap : msg.toMap.parseNotify = .ok (msg, msg.toMap.readParams.2) := by
  have hparam : msg.toMap.contains "param" = false := by
    simp [JsonMap.contains, find?_toMap_param]
  have hparams : msg.toMap.readParams.1 = msg.params := by
    simp [JsonMap.readParams, hparam, get_toMap_params]
  have hmethod : msg.toMap.stringAt "method" = .ok msg.method :=
    JsonMap.stringAt_eq_ok.mpr (find?_toMap_method msg)
  simp only [JsonMap.parseNotify, hmethod, Except.ok_bind', JsonMap.readMetadata_readParams,
    readMetadata_toMap, hparams]
  rfl

end NotifyMessage

namespace ResponseMessage

variable (msg : ResponseMessage)

theorem find?_toMap_method : msg.toMap.find? "method" = none := by
  unfold toMap
  dsimp only
  split <;> split <;> simp [JsonMap.find?_set]

theorem find?_toMap_id : msg.toMap.find? "id" = some msg.id := by
  unfold toMap
  dsimp only
  split <;> split <;> simp [JsonMap.find?_set]

theorem find?_toMap_metadata :
    msg.toMap.find? "metadata" = if msg.metadata.isEmpty then none else some (.map msg.metadata) := by
  unfold toMap
  dsimp only
  split <;> split <;> simp [JsonMap.find?_set]

theorem isResponse_toMap : msg.toMap.isResponse := by
  simp [JsonMap.isResponse, JsonMap.contains, find?_toMap_method, find?_toMap_id]

theorem find?_toMap_result : msg.toMap.find? "result" = some msg.result := by
  unfold toMap
  dsimp only
  split <;> split <;> simp [JsonMap.find?_set]

theorem readMetadata_toMap : msg.toMap.readMetadata = .ok msg.metadata := by
  rw [JsonMap.readMetadata_eq_ok, find?_toMap_metadata]
  cases hempty : msg.metadata.isEmpty with
  | true => exact .inr ⟨rfl, List.isEmpty_iff.mp hempty⟩
  | false => exact .inl rfl

/-- A response that is written as an object is read in it, without its error. -/
theorem parseResponse_toMap (response : ResponseMessage) :
    msg.toMap.parseResponse response = .ok ({ msg with error := response.error }, msg.toMap) := by
  have hid : msg.toMap.contains "id" := by simp [JsonMap.contains, find?_toMap_id]
  have hresult : msg.toMap.contains "result" := by simp [JsonMap.contains, find?_toMap_result]
  simp only [JsonMap.parseResponse, JsonMap.touch_of_contains hid, JsonMap.touch_of_contains hresult,
    readMetadata_toMap, Except.ok_bind', JsonMap.get, find?_toMap_id, find?_toMap_result]
  rfl

end ResponseMessage

end StreamCloud
