-- SUMMARY: The service of a device that speaks to its manager.
import StreamCloud.Core.Service

/-!
# manager

`stream-device/src/manager.cpp`.
-/

namespace StreamCloud.Device

/-- The keys of a device's configuration. -/
structure Config where
  deviceKey : String
  managerKey : String
  profileKey : String

namespace Manager

variable {α : Type}

def serviceList : List String := ["control"]

variable (J : Codec) (config : Config)

/-- A request to the manager about this device. -/
def ownRequest (method : String) (params : JsonMap) : RequestMessage where
  id := .string "0"
  method := method
  params := .map params
  metadata := [("manager-key", .string config.managerKey), ("user-key", .string config.profileKey)]

def disconnectRequest : RequestMessage :=
  ownRequest config "devices.disconnect" [("key", .string config.deviceKey)]

def connectRequest : RequestMessage :=
  ownRequest config "devices.connect" (JsonMap.ofMembers [
    ("key", .string config.deviceKey),
    ("actions", .array [.string "control.on", .string "control.off"]),
    ("variables", .array [.string "control.status"])])

/-- The task of a request. Its session is that of the client who asked, not that
of the manager. -/
def task (request : RequestMessage) (id : String) : Task :=
  { request, transportId := id, storage := ∅ }

/-- A request frame, read as a task. -/
def request (ctx : Ctx α) (message : JsonMap) : Except Fault (List (Envelope α)) := do
  -- the frame is read before the request, and throws where it has no session
  let id ← (message.get "metadata").stringAt "transport"
  let (request, _) ← message.parseRequest
  let task := task request id
  if request.metadata.contains "transport" then
    match split request.method with
    | serviceName :: methodName :: _ =>
      if serviceName ∈ serviceList then
        let service ← ctx.addresses serviceName
        if methodName ∈ ctx.messageTypes service then
          ctx.send serviceName methodName (.task task)
        else
          -- the response is put into the frame that was received, and another one is sent
          ctx.writeTo id ""
      else
        ctx.respond J task (.failed "service not found")
    -- a method without a dot is only logged
    | _ => return []
  else if request.method = "disconnect" then
    ctx.send "client" "close" (.text "")
  else
    return []

def dispatcher : Handler α Unit Transport := fun _ ctx s transport => do
  let ws ← transport.asWebSocket
  let message ← J.parse ws.body
  if message.isRequest then
    return (s, ← request J ctx message)
  else if message.contains "error" then
    return (s, ← ctx.send "client" "close" (.text ""))
  else if message.isResponse then
    return (s, ← ctx.send "client" "set_closing_message"
      (.text ((disconnectRequest config).serialize J)))
  else
    return (s, [])

def handshake : Handler α Unit Transport := fun _ ctx s transport => do
  return (s, ← ctx.send "client" "write" (.transport (.webSocket
    { id := transport.id, body := (connectRequest config).serialize J })))

def error : Handler α Unit Transport := fun _ ctx s transport => do
  let error ← transport.asError
  if error.code ∈ [.connectionReset, .notConnected, .connectionRefused, .eof, .closed] then
    return (s, ← ctx.send "client" "reconnect" (.text ""))
  else
    return (s, ← ctx.send "client" "close" (.transport (.webSocket { id := error.id, body := "" })))

/-- What `write` puts into the metadata of every frame. -/
def stamp (metadata : JsonMap) (id : String) : JsonMap :=
  (((metadata.set "transport" (.string id)).set "device-key" (.string config.deviceKey)).set
    "manager-key" (.string config.managerKey)).set "user-key" (.string config.profileKey)

/-- A frame with its new metadata. -/
def stamped (message metadata : JsonMap) (id : String) : JsonMap :=
  message.set "metadata" (.map (stamp config metadata id))

def write : Handler α Unit Transport := fun _ ctx s transport => do
  let ws ← transport.asWebSocket
  let message ← J.parse ws.body
  let metadata ← message.readMetadata
  return (s, ← ctx.send "client" "write" (.transport (.webSocket
    { id := ws.id, body := J.print (stamped config message metadata ws.id) })))

def handlers : List (String × Action α Unit) :=
  [("dispatcher", .transport (dispatcher J config)), ("handshake", .transport (handshake J config)),
    ("error", .transport error), ("write", .transport (write J config))]

/-! ## Stamped frames -/

section Stamped

variable {message metadata : JsonMap} {id : String}

theorem find?_stamped_of_ne {key : String} (h : key ≠ "metadata") :
    (stamped config message metadata id).find? key = message.find? key := JsonMap.find?_set_of_ne h

@[simp] theorem get_stamped_metadata :
    (stamped config message metadata id).get "metadata" = .map (stamp config metadata id) :=
  JsonMap.get_set_self ..

theorem find?_stamp_transport :
    (stamp config metadata id).find? "transport" = some (.string id) := by
  simp [stamp, JsonMap.find?_set]

theorem find?_stamp_deviceKey :
    (stamp config metadata id).find? "device-key" = some (.string config.deviceKey) := by
  simp [stamp, JsonMap.find?_set]

theorem find?_stamp_userKey :
    (stamp config metadata id).find? "user-key" = some (.string config.profileKey) := by
  simp [stamp]

end Stamped

/-! ## Requests -/

/-- What a request's metadata has under `transport` is read twice. -/
theorem stringAt_of_parseRequest {message m' : JsonMap} {request : RequestMessage}
    (hid : message.contains "id") (hread : message.parseRequest = .ok (request, m')) {id : String} :
    (message.get "metadata").stringAt "transport" = .ok id ↔
      request.metadata.stringAt "transport" = .ok id := by
  have hmetadata := ((JsonMap.parseRequest_eq_ok hid).mp hread).2.1
  rw [JsonValue.stringAt_eq_ok, JsonMap.stringAt_eq_ok]
  rw [JsonMap.readMetadata_eq_ok] at hmetadata
  rcases hmetadata with hfind | ⟨hfind, hempty⟩
  · simp [JsonMap.get, hfind]
  · simp [JsonMap.get, hfind, hempty]

/-- A request that the dispatcher takes goes to the control service, or has no
dot in its method. There is no websocket server to write to. -/
theorem request_cases {ctx : Ctx α} {message m' : JsonMap} {request : RequestMessage}
    {out : List (Envelope α)} (hws : ctx.contacts.lookup "ws" = none)
    (hid : message.contains "id") (hread : message.parseRequest = .ok (request, m'))
    (h : Manager.request J ctx message = .ok out) :
    ∃ id, request.metadata.stringAt "transport" = .ok id ∧
      ((split request.method).length ≤ 1 ∧ out = [] ∨
        ∃ methodName rest dest, split request.method = "control" :: methodName :: rest ∧
          ctx.contacts.lookup "control" = some dest ∧ methodName ∈ ctx.messageTypes dest ∧
          out = [{ dest, sender := ctx.self, command := methodName,
                   body := .task (task request id) }]) := by
  have hwrite (id text : String) : ctx.writeTo id text ≠ .ok out := fun hsend => by
    obtain ⟨dest, hdest, -⟩ := Ctx.writeTo_eq_ok.mp hsend
    rw [hws] at hdest
    cases hdest
  obtain ⟨id, htransport, h⟩ := Except.bind_eq_ok.mp h
  rw [stringAt_of_parseRequest hid hread] at htransport
  have hcontains : request.metadata.contains "transport" := by
    rw [JsonMap.contains, JsonMap.stringAt_eq_ok.mp htransport]
    rfl
  rw [hread, Except.ok_bind'] at h
  dsimp only at h
  rw [if_pos hcontains] at h
  refine ⟨id, htransport, ?_⟩
  split at h
  · next serviceName methodName rest hsplit =>
    split at h
    · next hlisted =>
      obtain rfl := List.mem_singleton.mp hlisted
      obtain ⟨dest, hdest, h⟩ := Except.bind_eq_ok.mp h
      rw [Ctx.addresses_eq_ok] at hdest
      split at h
      · next hmethod =>
        rw [Ctx.send_of_contact hdest] at h
        cases h
        exact .inr ⟨methodName, rest, dest, hsplit, hdest, hmethod, rfl⟩
      · exact absurd h (hwrite _ _)
    · exact absurd h (hwrite _ _)
  · next hshort =>
    cases h
    refine .inl ⟨?_, rfl⟩
    rcases hsplit : split request.method with _ | ⟨serviceName, _ | ⟨methodName, rest⟩⟩
    · simp
    · simp
    · exact absurd hsplit (hshort _ _ _)

/-- A request for the control service is given to it. -/
theorem request_of_control {ctx : Ctx α} {message m' : JsonMap} {request : RequestMessage}
    {id methodName : String} {rest : List String} {dest : α} (hid : message.contains "id")
    (hread : message.parseRequest = .ok (request, m'))
    (htransport : request.metadata.stringAt "transport" = .ok id)
    (hsplit : split request.method = "control" :: methodName :: rest)
    (hdest : ctx.contacts.lookup "control" = some dest)
    (hmethod : methodName ∈ ctx.messageTypes dest) :
    Manager.request J ctx message = .ok [{ dest, sender := ctx.self, command := methodName,
                                           body := .task (task request id) }] := by
  have hcontains : request.metadata.contains "transport" := by
    rw [JsonMap.contains, JsonMap.stringAt_eq_ok.mp htransport]
    rfl
  have hlisted : "control" ∈ serviceList := List.mem_singleton.mpr rfl
  simp only [Manager.request, (stringAt_of_parseRequest hid hread).mpr htransport, Except.ok_bind',
    hread, if_pos hcontains, hsplit, if_pos hlisted, Ctx.addresses_eq_ok.mpr hdest, if_pos hmethod,
    Ctx.send_of_contact hdest]

end Manager

end StreamCloud.Device
