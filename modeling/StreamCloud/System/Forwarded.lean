-- SUMMARY: What comes of a control request on its way to a device.
import StreamCloud.System.Fleet

/-!
# A forwarded request

A request that the manager has handed on becomes a task of the device's control
service, whose response goes back through the device's `write`, the router and
the devices service of the manager. There is no table of requests: all that is
known of the client is what the frames say.
-/

namespace StreamCloud.Fleet

variable {δ : Type}

/-- The requests that the control service of a device answers. -/
def controlActions : List String := ["control.on", "control.off", "control.status"]

theorem split_controlAction {action : String} (h : action ∈ controlActions) :
    ∃ command ∈ Device.controlMethods, split action = ["control", command] := by
  simp only [controlActions, List.mem_cons, List.not_mem_nil, or_false] at h
  rcases h with rfl | rfl | rfl
  · exact ⟨"on", by decide, by decide⟩
  · exact ⟨"off", by decide, by decide⟩
  · exact ⟨"status", by decide, by decide⟩

/-! ## The messages on the way -/

/-- A response of the device for a session. -/
structure Answers (S : Setup δ) (d : δ) (target : String) (id : JsonValue) (message : JsonMap) :
    Prop where
  sorted : message.Sorted
  isResponse : message.isResponse
  transport : (message.get "metadata").stringAt "transport" = .ok target
  device : (message.get "metadata").stringAt "device-key" = .ok (S.device d).deviceKey
  id : message.get "id" = id

/-- A notification of the device. -/
structure Announces (S : Setup δ) (d : δ) (message : JsonMap) : Prop where
  sorted : message.Sorted
  isNotify : message.isNotify
  device : (message.get "metadata").stringAt "device-key" = .ok (S.device d).deviceKey
  quiet : message.contains "error" = false

/-- A response as a client gets it. -/
structure Delivered (target : String) (id : JsonValue) (ws : WebSocket) (message : JsonMap) : Prop where
  parse : Codec.api.parse ws.body = .ok message
  isResponse : message.isResponse
  session : ws.id = target
  id : message.get "id" = id
  metadata : message.contains "metadata" = false

/-- What comes of a request with this id of this client, with the number of
handlings that may still follow. -/
inductive Descends (S : Setup δ) (d : δ) (target : String) (id : JsonValue) : ℕ → Packet δ → Prop
  | request {ws : WebSocket} {request : RequestMessage} : Codec.api.ReadsRequest ws.body request →
      request.method ∈ controlActions → request.metadata.stringAt "transport" = .ok target →
      request.id = id → Descends S d target id 8 (.device d (Device.frame ws))
  | control {command : String} {task : Task} : command ∈ Device.controlMethods →
      task.request.id = id → task.transportId = target →
      Descends S d target id 7 (.device d (Device.controlMessage command task))
  | response {task : Task} (result : JsonValue) : task.request.id = id → task.transportId = target →
      Descends S d target id 6 (.device d (Device.responseMessage Codec.api task result))
  | status {task : Task} (status : Bool) : task.transportId = target →
      Descends S d target id 6 (.device d (Device.notifyMessage Codec.api task status))
  | answer {message : JsonMap} : Answers S d target id message →
      Descends S d target id 5 (.manager (Manager.frame {
        id := S.session d, body := Codec.api.print message }))
  | announcement {message : JsonMap} : Announces S d message →
      Descends S d target id 5 (.manager (Manager.frame {
        id := S.session d, body := Codec.api.print message }))
  | relayedAnswer {message : JsonMap} : Answers S d target id message →
      Descends S d target id 4 (.manager (Manager.relayed "response" (S.session d) message))
  | relayedAnnouncement {message : JsonMap} : Announces S d message →
      Descends S d target id 4 (.manager (Manager.relayed "notify" (S.session d) message))
  | emission {session : String} {message : JsonMap} : Announces S d message →
      Descends S d target id 3 (.manager (Manager.emission session message))
  | heard {d' : δ} {ws : WebSocket} {message : JsonMap} : Codec.api.parse ws.body = .ok message →
      message.isNotify → message.contains "error" = false →
      Descends S d target id 2 (.device d' (Device.frame ws))
  | delivered {ws : WebSocket} {message : JsonMap} : Delivered target id ws message →
      Descends S d target id 1 (.written ws)
  | notified {ws : WebSocket} {message : JsonMap} : Codec.api.parse ws.body = .ok message →
      message.isNotify → Descends S d target id 1 (.written ws)

/-! ## Accounting -/

/-- A frame with an id counts, and a notification does not. -/
def textCount (text : String) : ℕ :=
  match Codec.api.parse text with
  | .ok message => if message.contains "id" then 1 else 0
  | .error _ => 0

def bodyCount {α : Type} : Body α → ℕ
  | .task _ => 1
  | .transport (.webSocket ws) => textCount ws.body
  | _ => 0

/-- How many requests or responses the packet is. -/
def Packet.count : Packet δ → ℕ
  | .manager e => bodyCount e.body
  | .device _ e => bodyCount e.body
  | .written ws => textCount ws.body

theorem textCount_of_parse {text : String} {message : JsonMap}
    (h : Codec.api.parse text = .ok message) :
    textCount text = if message.contains "id" then 1 else 0 := by
  simp only [textCount, h]

theorem textCount_print (message : JsonMap) :
    textCount (Codec.api.print message) = if message.contains "id" then 1 else 0 := by
  rw [textCount_of_parse (Codec.api_roundTrip message), JsonMap.contains_reread]

theorem textCount_of_isResponse {text : String} {message : JsonMap}
    (h : Codec.api.parse text = .ok message) (hresponse : message.isResponse) : textCount text = 1 := by
  rw [JsonMap.isResponse, Bool.and_eq_true] at hresponse
  rw [textCount_of_parse h, if_pos hresponse.2]

theorem textCount_of_isNotify {text : String} {message : JsonMap}
    (h : Codec.api.parse text = .ok message) (hnotify : message.isNotify) : textCount text = 0 := by
  have hid : message.contains "id" = false := by simpa [JsonMap.isNotify] using hnotify
  rw [textCount_of_parse h, hid]
  rfl

theorem textCount_of_reads {text : String} {request : RequestMessage}
    (h : Codec.api.ReadsRequest text request) : textCount text = 1 := by
  obtain ⟨message, -, hparse, hrequest, -⟩ := h
  rw [JsonMap.isRequest, Bool.and_eq_true] at hrequest
  rw [textCount_of_parse hparse, if_pos hrequest.2]

/-! ## Frames, read back -/

section Frames

variable {S : Setup δ} {d : δ} {target : String} {id : JsonValue} {message : JsonMap}

theorem Answers.reread (h : Answers S d target id message) (hid : id.Exact) :
    Answers S d target id message.reread where
  sorted := JsonMap.sorted_reread message
  isResponse := (JsonMap.isResponse_reread message).trans h.isResponse
  transport := (Manager.metadata_reread h.sorted).mpr h.transport
  device := (Manager.metadata_reread h.sorted).mpr h.device
  id := by rw [JsonMap.get_reread h.sorted, h.id, hid]

theorem Announces.reread (h : Announces S d message) : Announces S d message.reread where
  sorted := JsonMap.sorted_reread message
  isNotify := (JsonMap.isNotify_reread message).trans h.isNotify
  device := (Manager.metadata_reread h.sorted).mpr h.device
  quiet := (JsonMap.contains_reread message "error").trans h.quiet

theorem Answers.not_isRequest (h : Answers S d target id message) : message.isRequest = false := by
  have hresponse := h.isResponse
  rw [JsonMap.isResponse, Bool.and_eq_true, Bool.not_eq_true'] at hresponse
  rw [JsonMap.isRequest, hresponse.1, Bool.false_and]

theorem Announces.not_isRequest (h : Announces S d message) : message.isRequest = false := by
  have hid : message.contains "id" = false := by simpa [JsonMap.isNotify] using h.isNotify
  rw [JsonMap.isRequest, hid, Bool.and_false]

theorem Announces.not_isResponse (h : Announces S d message) : message.isResponse = false := by
  have hid : message.contains "id" = false := by simpa [JsonMap.isNotify] using h.isNotify
  rw [JsonMap.isResponse, hid, Bool.and_false]

/-- What `write` of the device puts into the metadata of its frames. -/
theorem stringAt_stamped {config : Device.Config} {metadata : JsonMap} {session key value : String}
    (h : (Device.Manager.stamp config metadata session).find? key = some (.string value)) :
    ((Device.Manager.stamped config message metadata session).get "metadata").stringAt key = .ok value := by
  rw [Device.Manager.get_stamped_metadata]
  exact JsonValue.stringAt_eq_ok.mpr ⟨_, rfl, h⟩

theorem contains_stamped {config : Device.Config} {metadata : JsonMap} {session key : String}
    (h : key ≠ "metadata") :
    (Device.Manager.stamped config message metadata session).contains key = message.contains key := by
  rw [JsonMap.contains, Device.Manager.find?_stamped_of_ne config h, JsonMap.contains]

theorem sorted_stamped {config : Device.Config} {metadata : JsonMap} {session : String}
    (h : message.Sorted) (hmetadata : metadata.Sorted) :
    (Device.Manager.stamped config message metadata session).Sorted := by
  have hstring (s : String) : (JsonValue.string s).Sorted := JsonValue.sorted_string s
  have hstamp : JsonMap.Sorted (Device.Manager.stamp config metadata session) :=
    (((hmetadata.set (hstring _)).set (hstring _)).set (hstring _)).set (hstring _)
  exact h.set hstamp

/-- The response of the control service, as it leaves the device. -/
theorem answers_stamped (hid : id.Exact) (result : JsonValue) :
    Answers S d target id (Device.Manager.stamped (S.device d)
      ((Reply.ok result).message id).toMap.reread [] target) where
  sorted := sorted_stamped (JsonMap.sorted_reread _) JsonMap.sorted_nil
  isResponse := by
    rw [JsonMap.isResponse, contains_stamped (by decide), contains_stamped (by decide)]
    exact (JsonMap.isResponse_reread _).trans (ResponseMessage.isResponse_toMap _)
  transport := stringAt_stamped (Device.Manager.find?_stamp_transport _)
  device := stringAt_stamped (Device.Manager.find?_stamp_deviceKey _)
  id := by
    rw [JsonMap.get, Device.Manager.find?_stamped_of_ne _ (by decide)]
    exact (ResponseMessage.get_reread_id _).trans hid

/-- The notification of the control service, as it leaves the device. -/
theorem announces_stamped (status : Bool) (session : String) :
    Announces S d (Device.Manager.stamped (S.device d)
      (Device.Control.statusNotify status).toMap.reread [] session) where
  sorted := sorted_stamped (JsonMap.sorted_reread _) JsonMap.sorted_nil
  isNotify := by
    rw [JsonMap.isNotify, contains_stamped (by decide), JsonMap.contains_reread]
    rfl
  device := stringAt_stamped (Device.Manager.find?_stamp_deviceKey _)
  quiet := by
    rw [contains_stamped (by decide), JsonMap.contains_reread]
    rfl

end Frames

/-! ## One handling -/

section Handling

variable {S : Setup δ} {d : δ} {target : String} {id : JsonValue}

/-- How the work on a packet goes on. None of it is lost while the device is
registered. -/
structure Continues (S : Setup δ) (d : δ) (target : String) (id : JsonValue) (k count : ℕ)
    (s s' : State δ) (out : List (Packet δ)) : Prop where
  wired : Setup.Wired s'
  descends : ∀ packet ∈ out, ∃ j < k, Descends S d target id j packet
  count_le : (out.map Packet.count).sum ≤ count
  count_eq : S.Registered d s → (out.map Packet.count).sum = count

variable {k : ℕ} {s : State δ} {env : Env}

/-- The packet goes on as one other packet. -/
theorem Continues.single {s' : State δ} {packet packet' : Packet δ} (hs : Setup.Wired s') {j : ℕ}
    (hj : j < k) (h : Descends S d target id j packet') (hcount : packet'.count = packet.count) :
    Continues S d target id k packet.count s s' [packet'] where
  wired := hs
  descends := fun _ he => List.mem_singleton.mp he ▸ ⟨j, hj, h⟩
  count_le := by simp [hcount]
  count_eq := fun _ => by simp [hcount]

/-- Nothing comes of the packet. -/
theorem Continues.nothing {s' : State δ} {packet : Packet δ} (hs : Setup.Wired s')
    (hcount : S.Registered d s → packet.count = 0) :
    Continues S d target id k packet.count s s' [] where
  wired := hs
  descends := fun _ he => nomatch he
  count_le := by simp
  count_eq := fun hregistered => (hcount hregistered).symm

variable [DecidableEq δ]

/-- The packet is handled, and the work on it goes on. -/
def Goes (S : Setup δ) (d : δ) (target : String) (id : JsonValue) (k : ℕ) (env : Env) (s : State δ)
    (packet : Packet δ) : Prop :=
  ∃ s' out, S.handle env s packet = .ok (s', out) ∧ Continues S d target id k packet.count s s' out

/-! ### At the device -/

theorem goes_request (hs : Setup.Wired s) {ws : WebSocket} {request : RequestMessage}
    (hreads : Codec.api.ReadsRequest ws.body request) (haction : request.method ∈ controlActions)
    (htransport : request.metadata.stringAt "transport" = .ok target) (hid : request.id = id) :
    Goes S d target id 8 env s (.device d (Device.frame ws)) := by
  obtain ⟨command, hcommand, hsplit⟩ := split_controlAction haction
  have hhandle : Device.handle Codec.api (S.device d) env (s.devices d) (Device.frame ws) = _ :=
    Device.handle_request (hs.devices d) hreads htransport hsplit hcommand
  refine ⟨_, _, Setup.handle_device hhandle, ?_⟩
  rw [List.map_singleton, Setup.fromDevice_of_dest (by decide : Device.Actor.control ≠ .client)]
  refine .single (hs.device_update (hs.devices d)) (by omega) (.control hcommand hid rfl) ?_
  exact (textCount_of_reads hreads).symm

/-- The control service sends the response, and perhaps a notification. -/
theorem goes_control (hs : Setup.Wired s) {command : String} {task : Task}
    (hcommand : command ∈ Device.controlMethods) (hid : task.request.id = id)
    (htarget : task.transportId = target) :
    Goes S d target id 7 env s (.device d (Device.controlMessage command task)) := by
  obtain ⟨n', result, rest, hn', hhandle, hrest⟩ : ∃ n' result rest, n'.contacts = Device.contacts ∧
      Device.handle Codec.api (S.device d) env (s.devices d) (Device.controlMessage command task) =
        .ok (n', Device.responseMessage Codec.api task result :: rest) ∧
      ∀ e ∈ rest, ∃ status, e = Device.notifyMessage Codec.api task status :=
    Device.handle_control (hs.devices d) hcommand
  have hroute (e : Envelope Device.Actor) (he : e ∈ Device.responseMessage Codec.api task result :: rest) :
      e.dest ≠ .client := by
    rcases List.mem_cons.mp he with rfl | he
    · exact fun h => nomatch h
    · obtain ⟨status, rfl⟩ := hrest e he
      exact fun h => nomatch h
  have hout : (Device.responseMessage Codec.api task result :: rest).map (S.fromDevice d) =
      (Device.responseMessage Codec.api task result :: rest).map (.device d) :=
    List.map_congr_left fun e he => Setup.fromDevice_of_dest (hroute e he)
  have hcount : (((Device.responseMessage Codec.api task result :: rest).map (Packet.device d)).map
      Packet.count).sum = 1 := by
    have hnone : ∀ x ∈ (rest.map (Packet.device d)).map Packet.count, x = 0 := by
      intro x hx
      simp only [List.map_map, List.mem_map, Function.comp_apply] at hx
      obtain ⟨e, he, rfl⟩ := hx
      obtain ⟨status, rfl⟩ := hrest e he
      have hid : (Device.Control.statusNotify status).toMap.contains "id" = false := rfl
      calc textCount ((Device.Control.statusNotify status).serialize Codec.api)
          = if (Device.Control.statusNotify status).toMap.contains "id" then 1 else 0 := textCount_print _
        _ = 0 := by rw [hid]; rfl
    rw [List.map_cons, List.map_cons, List.sum_cons, List.sum_eq_zero hnone, Nat.add_zero]
    exact textCount_of_isResponse (Codec.api_roundTrip _)
      ((JsonMap.isResponse_reread _).trans (ResponseMessage.isResponse_toMap _))
  refine ⟨_, _, Setup.handle_device hhandle, hs.device_update hn', ?_, ?_, ?_⟩
  · rw [hout]
    intro packet hpacket
    obtain ⟨e, he, rfl⟩ := List.mem_map.mp hpacket
    rcases List.mem_cons.mp he with rfl | he
    · exact ⟨6, by omega, .response result hid htarget⟩
    · obtain ⟨status, rfl⟩ := hrest e he
      exact ⟨6, by omega, .status status htarget⟩
  · rw [hout, hcount]
    exact le_refl 1
  · intro _
    rw [hout, hcount]
    rfl

/-- `write` of the device sends what it gets, with other metadata. -/
theorem goes_write (hs : Setup.Wired s) {ws : WebSocket} {message : JsonMap} {j : ℕ} (hj : j < k)
    (hbody : ws.body = Codec.api.print message) (hmetadata : message.contains "metadata" = false)
    (h : Descends S d target id j (.manager (Manager.frame {
      id := S.session d
      body := Codec.api.print (Device.Manager.stamped (S.device d) message.reread [] ws.id) }))) :
    Goes S d target id k env s (.device d (Device.writeMessage .control ws)) := by
  have hparse : Codec.api.parse ws.body = .ok message.reread := by
    rw [hbody]
    exact Codec.api_roundTrip message
  have hnone : message.reread.find? "metadata" = none := by
    have hcontains := (JsonMap.contains_reread message "metadata").trans hmetadata
    rwa [JsonMap.contains, Option.isSome_eq_false_iff, Option.isNone_iff_eq_none] at hcontains
  have hhandle : Device.handle Codec.api (S.device d) env (s.devices d)
      (Device.writeMessage .control ws) = _ :=
    Device.handle_write (hs.devices d) hparse (JsonMap.readMetadata_eq_ok.mpr (.inr ⟨hnone, rfl⟩))
  refine ⟨_, _, Setup.handle_device hhandle, ?_⟩
  rw [List.map_singleton, Setup.fromDevice_socket]
  refine .single (hs.device_update (hs.devices d)) hj h ?_
  show textCount (Codec.api.print _) = textCount ws.body
  rw [textCount_print, contains_stamped (by decide), textCount_of_parse hparse]

/-- A notification is not taken by the device that hears it. -/
theorem goes_heard (hs : Setup.Wired s) {d' : δ} {ws : WebSocket} {message : JsonMap}
    (hparse : Codec.api.parse ws.body = .ok message) (hnotify : message.isNotify)
    (herror : message.contains "error" = false) :
    Goes S d target id k env s (.device d' (Device.frame ws)) := by
  have hhandle : Device.handle Codec.api (S.device d') env (s.devices d') (Device.frame ws) = _ :=
    Device.handle_notification hparse hnotify herror
  exact ⟨_, _, Setup.handle_device hhandle, .nothing (hs.device_update (hs.devices d'))
    fun _ => textCount_of_isNotify hparse hnotify⟩

/-! ### At the manager -/

/-- The router hands on a frame of the device. -/
theorem goes_frame (hs : Setup.Wired s) {message : JsonMap} {command : String} {j : ℕ} (hj : j < k)
    (hrequest : message.isRequest = false)
    (hcommand : (if message.isResponse then "response" else "notify") = command)
    (h : Descends S d target id j
      (.manager (Manager.relayed command (S.session d) message.reread))) :
    Goes S d target id k env s (.manager (Manager.frame {
      id := S.session d, body := Codec.api.print message })) := by
  have hhandle : Manager.handle Codec.api S.config env s.manager
      (Manager.frameFrom .router { id := S.session d, body := Codec.api.print message }) = _ :=
    Manager.handle_handedOn hs.manager (Codec.api_roundTrip message)
      ((JsonMap.isRequest_reread message).trans hrequest)
  rw [JsonMap.isResponse_reread, hcommand] at hhandle
  refine ⟨_, _, Setup.handle_manager hhandle, ?_⟩
  rw [List.map_singleton, Setup.fromManager_of_dest (by decide : Manager.Actor.devices ≠ .ws)]
  refine .single (hs.manager_set hs.manager) hj h ?_
  show textCount (Codec.api.print _) = textCount (Codec.api.print _)
  rw [textCount_print, textCount_print, JsonMap.contains_reread]

/-- The response of a registered device is written to the client, without its metadata. -/
theorem goes_relayedAnswer (hs : Setup.Wired s) (hclient : S.owner target = none) (hid : id.Exact)
    {message : JsonMap} (h : Answers S d target id message) :
    Goes S d target id 4 env s (.manager (Manager.relayed "response" (S.session d) message)) := by
  by_cases hregistered : (S.device d).deviceKey ∈ s.manager.services.devices.devicesReg
  · have hhandle : Manager.handle Codec.api S.config env s.manager
        (Manager.relayed "response" (S.session d) message) = _ :=
      Manager.handle_relayed_response hs.manager h.sorted h.isResponse h.transport h.device hregistered
    have hread := h.reread hid
    have hcontains (key : String) (hkey : key ≠ "metadata") :
        (message.reread.erase "metadata").contains key = message.reread.contains key := by
      rw [JsonMap.contains, JsonMap.find?_erase_of_ne hkey, JsonMap.contains]
    have hresponse : (message.reread.erase "metadata").isResponse := by
      rw [JsonMap.isResponse, hcontains _ (by decide), hcontains _ (by decide)]
      exact hread.isResponse
    have hdelivered : Delivered target id
        { id := target, body := Codec.api.print (message.reread.erase "metadata") }
        (JsonMap.reread (message.reread.erase "metadata")) := by
      refine ⟨Codec.api_roundTrip _, (JsonMap.isResponse_reread _).trans hresponse, rfl, ?_, ?_⟩
      · have hget : (message.reread.erase "metadata").get "id" = id := by
          rw [JsonMap.get, JsonMap.find?_erase_of_ne (by decide), ← JsonMap.get, hread.id]
        rw [JsonMap.get_reread (hread.sorted.erase _), hget, hid]
      · rw [JsonMap.contains_reread, JsonMap.contains, JsonMap.find?_erase_self]
        rfl
    refine ⟨_, _, Setup.handle_manager hhandle, ?_⟩
    show Continues S d target id 4 _ s _ [S.deliver _]
    rw [Setup.deliver_of_client hclient]
    refine .single (hs.manager_set hs.manager) (by omega) (.delivered hdelivered) ?_
    show textCount (Codec.api.print _) = textCount (Codec.api.print _)
    rw [textCount_print, textCount_print, hcontains _ (by decide), JsonMap.contains_reread]
  · have hhandle : Manager.handle Codec.api S.config env s.manager
        (Manager.relayed "response" (S.session d) message) = _ :=
      Manager.handle_relayed_response_unregistered h.sorted h.isResponse h.transport h.device hregistered
    exact ⟨_, _, Setup.handle_manager hhandle, .nothing (hs.manager_set hs.manager)
      fun hreg => absurd hreg hregistered⟩

theorem goes_relayedAnnouncement (hs : Setup.Wired s) {message : JsonMap} (h : Announces S d message) :
    Goes S d target id 4 env s (.manager (Manager.relayed "notify" (S.session d) message)) := by
  have hcount (message : JsonMap) (hnotify : message.isNotify) :
      textCount (Codec.api.print message) = 0 :=
    textCount_of_isNotify (Codec.api_roundTrip message) ((JsonMap.isNotify_reread message).trans hnotify)
  by_cases hregistered : (S.device d).deviceKey ∈ s.manager.services.devices.devicesReg
  · have hhandle : Manager.handle Codec.api S.config env s.manager
        (Manager.relayed "notify" (S.session d) message) = _ :=
      Manager.handle_relayed_notify hs.manager h.sorted h.isNotify h.device hregistered
    refine ⟨_, _, Setup.handle_manager hhandle, ?_⟩
    rw [List.map_singleton, Setup.fromManager_of_dest (by decide : Manager.Actor.subscriptions ≠ .ws)]
    refine .single (hs.manager_set hs.manager) (by omega : 3 < 4) (.emission h.reread) ?_
    exact (hcount _ h.reread.isNotify).trans (hcount _ h.isNotify).symm
  · have hhandle : Manager.handle Codec.api S.config env s.manager
        (Manager.relayed "notify" (S.session d) message) = _ :=
      Manager.handle_relayed_notify_unregistered h.sorted h.isNotify h.device hregistered
    exact ⟨_, _, Setup.handle_manager hhandle, .nothing (hs.manager_set hs.manager)
      fun _ => hcount _ h.isNotify⟩

/-- A notification is written to whoever listens to the device. -/
theorem goes_emission (hs : Setup.Wired s) {session : String} {message : JsonMap}
    (h : Announces S d message) :
    Goes S d target id 3 env s (.manager (Manager.emission session message)) := by
  obtain ⟨metadata, hmetadata, hdevice⟩ := JsonValue.stringAt_eq_ok.mp h.device
  have hhandle : Manager.handle Codec.api S.config env s.manager (Manager.emission session message) = _ :=
    Manager.handle_emission hs.manager h.sorted hmetadata (JsonMap.stringAt_eq_ok.mpr hdevice)
  have hout : ∀ packet ∈ ((s.manager.services.subscriptions.subscribers (S.device d).deviceKey).keys.map
      (Manager.notification message.reread metadata.reread)).map S.fromManager,
      packet.count = 0 ∧ ∃ j < 3, Descends S d target id j packet := by
    intro packet hpacket
    simp only [List.map_map, List.mem_map, Function.comp_apply] at hpacket
    obtain ⟨subscribe, -, rfl⟩ := hpacket
    let text : JsonMap :=
      message.reread.set "metadata" (.map (metadata.reread.set "transport" (.string subscribe)))
    have hcontains (key : String) (hkey : key ≠ "metadata") :
        text.reread.contains key = message.contains key := by
      rw [JsonMap.contains_reread, JsonMap.contains, JsonMap.find?_set_of_ne hkey, ← JsonMap.contains,
        JsonMap.contains_reread]
    have hparse : Codec.api.parse (Codec.api.print text) = .ok text.reread := Codec.api_roundTrip text
    have hnotify : text.reread.isNotify := by
      rw [JsonMap.isNotify, hcontains _ (by decide)]
      exact h.isNotify
    show (S.deliver { id := subscribe, body := Codec.api.print text }).count = 0 ∧
      ∃ j < 3, Descends S d target id j (S.deliver { id := subscribe, body := Codec.api.print text })
    unfold Setup.deliver
    split
    · refine ⟨textCount_of_isNotify hparse hnotify, 2, by omega, .heard hparse hnotify ?_⟩
      exact (hcontains _ (by decide)).trans h.quiet
    · exact ⟨textCount_of_isNotify hparse hnotify, 1, by omega, .notified hparse hnotify⟩
  have hsum : ((((s.manager.services.subscriptions.subscribers (S.device d).deviceKey).keys.map
      (Manager.notification message.reread metadata.reread)).map S.fromManager).map Packet.count).sum
        = 0 := by
    refine List.sum_eq_zero fun x hx => ?_
    obtain ⟨packet, hpacket, rfl⟩ := List.mem_map.mp hx
    exact (hout packet hpacket).1
  have hcount : (Packet.manager (Manager.emission session message) : Packet δ).count = 0 :=
    textCount_of_isNotify (Codec.api_roundTrip message) ((JsonMap.isNotify_reread message).trans h.isNotify)
  exact ⟨_, _, Setup.handle_manager hhandle, hs.manager_set hs.manager, fun packet hp => (hout packet hp).2,
    hsum.trans_le (Nat.zero_le _), fun _ => hsum.trans hcount.symm⟩

/-- Whatever comes of the request is handled, but for what the clients have got. -/
theorem Descends.goes (hs : Setup.Wired s) (hclient : S.owner target = none) (hid : id.Exact)
    {packet : Packet δ} (h : Descends S d target id k packet) :
    (∃ ws, packet = .written ws) ∨ Goes S d target id k env s packet := by
  cases h with
  | request hreads haction htransport hrequest =>
    exact .inr (goes_request hs hreads haction htransport hrequest)
  | control hcommand htaskId htarget => exact .inr (goes_control hs hcommand htaskId htarget)
  | response result htaskId htarget =>
    subst htaskId htarget
    refine .inr (goes_write hs (by omega : 5 < 6) rfl ?_ (.answer (answers_stamped hid result)))
    rw [JsonMap.contains, ResponseMessage.find?_toMap_metadata_of_nil rfl]
    rfl
  | status status htarget =>
    exact .inr (goes_write hs (by omega : 5 < 6) rfl rfl (.announcement (announces_stamped status _)))
  | answer hanswers =>
    exact .inr (goes_frame hs (by omega : 4 < 5) hanswers.not_isRequest (if_pos hanswers.isResponse)
      (.relayedAnswer (hanswers.reread hid)))
  | announcement hannounces =>
    exact .inr (goes_frame hs (by omega : 4 < 5) hannounces.not_isRequest
      (if_neg (by simp [hannounces.not_isResponse])) (.relayedAnnouncement hannounces.reread))
  | relayedAnswer hanswers => exact .inr (goes_relayedAnswer hs hclient hid hanswers)
  | relayedAnnouncement hannounces => exact .inr (goes_relayedAnnouncement hs hannounces)
  | emission hannounces => exact .inr (goes_emission hs hannounces)
  | heard hparse hnotify herror => exact .inr (goes_heard hs hparse hnotify herror)
  | delivered _ => exact .inl ⟨_, rfl⟩
  | notified _ _ => exact .inl ⟨_, rfl⟩

end Handling

/-! ## The whole family -/

section Family

variable {S : Setup δ} {d : δ} {target : String} {id : JsonValue}
  {guard own : Env → State δ → Packet δ → Prop} {c c' : Work.Followed (State δ) (Packet δ)}

/-- A response in the session of a client. -/
def Packet.isAnswer : Packet δ → Bool
  | .written ws =>
    match Codec.api.parse ws.body with
    | .ok message => message.isResponse
    | .error _ => false
  | _ => false

/-- A response that a client has got is one of those that were delivered. -/
theorem Descends.delivered_of_isAnswer {k : ℕ} {packet : Packet δ} (h : Descends S d target id k packet)
    (hanswer : packet.isAnswer) :
    ∃ ws message, packet = .written ws ∧ Delivered target id ws message := by
  cases h with
  | delivered hdelivered => exact ⟨_, _, rfl, hdelivered⟩
  | @notified ws message hparse hnotify =>
    have hid : message.contains "id" = false := by simpa [JsonMap.isNotify] using hnotify
    have hresponse : message.isResponse := by
      simpa only [Packet.isAnswer, hparse] using hanswer
    rw [JsonMap.isResponse, hid, Bool.and_false] at hresponse
    cases hresponse
  | _ => cases hanswer

theorem count_of_isAnswer {packet : Packet δ} (h : packet.isAnswer) : packet.count = 1 := by
  cases packet with
  | written ws =>
    rw [Packet.isAnswer] at h
    split at h
    · next hparse => exact textCount_of_isResponse hparse h
    · cases h
  | _ => cases h

/-- A frame that a client has got, of those that come of a request, counts as
far as it is a response. -/
theorem Descends.count_written {k : ℕ} {ws : WebSocket} (h : Descends S d target id k (.written ws)) :
    (Packet.written ws : Packet δ).count = if (Packet.written ws : Packet δ).isAnswer then 1 else 0 := by
  cases h with
  | delivered hdelivered =>
    have hanswer : (Packet.written ws : Packet δ).isAnswer := by
      simp only [Packet.isAnswer, hdelivered.parse, hdelivered.isResponse]
    rw [count_of_isAnswer hanswer, if_pos hanswer]
  | @notified _ message hparse hnotify =>
    have hid : message.contains "id" = false := by simpa [JsonMap.isNotify] using hnotify
    have hanswer : (Packet.written ws : Packet δ).isAnswer = false := by
      simp only [Packet.isAnswer, hparse, JsonMap.isResponse, hid, Bool.and_false]
    rw [hanswer]
    exact textCount_of_isNotify hparse hnotify

theorem countP_le_count (family : List (Packet δ)) :
    family.countP Packet.isAnswer ≤ (family.map Packet.count).sum := by
  induction family with
  | nil => exact le_refl 0
  | cons packet rest ih =>
    rw [List.countP_cons, List.map_cons, List.sum_cons]
    split
    · next hanswer =>
      rw [count_of_isAnswer hanswer]
      omega
    · omega

theorem countP_eq_count {family : List (Packet δ)}
    (h : ∀ packet ∈ family, ∃ k ws, packet = .written ws ∧ Descends S d target id k packet) :
    family.countP Packet.isAnswer = (family.map Packet.count).sum := by
  induction family with
  | nil => rfl
  | cons packet rest ih =>
    obtain ⟨k, ws, rfl, hdescends⟩ := h packet List.mem_cons_self
    have hcount := hdescends.count_written
    rw [List.countP_cons, List.map_cons, List.sum_cons, hcount,
      ih fun packet' hmem => h packet' (List.mem_cons_of_mem _ hmem)]
    split <;> omega

/-- Everything is wired, and the family comes of a request of a client. -/
structure Regular (S : Setup δ) (d : δ) (target : String) (id : JsonValue)
    (c : Work.Followed (State δ) (Packet δ)) : Prop where
  wired : Setup.Wired c.state
  plain : ∀ packet ∈ c.others, packet.Plain
  descends : ∀ packet ∈ c.family, ∃ k, Descends S d target id k packet

variable [DecidableEq δ] (hclient : S.owner target = none) (hid : id.Exact)
include hclient hid

/-- What a handled member comes to. -/
theorem continues_of_handle {k : ℕ} {env : Env} {s s' : State δ} {packet : Packet δ}
    {out : List (Packet δ)} (hs : Setup.Wired s) (h : Descends S d target id k packet)
    (hhandle : S.handle env s packet = .ok (s', out)) :
    Continues S d target id k packet.count s s' out := by
  rcases h.goes hs hclient hid with ⟨ws, rfl⟩ | ⟨s₁, out₁, heq, hcontinues⟩
  · cases hhandle
  · rw [hhandle] at heq
    cases heq
    exact hcontinues

theorem Regular.follow (h : Regular S d target id c)
    (hfollow : Work.Follow S.handle S.Arrives guard own c c') : Regular S d target id c' := by
  obtain ⟨hwired, hplain, hdescends⟩ := hfollow.invariant Setup.Wired Packet.Plain
    (fun packet => ∃ k, Descends S d target id k packet) h.wired h.plain h.descends
    (fun _ => Setup.Arrives.plain) (fun _ _ _ _ _ hs hp _ => Setup.handle_plain hs hp)
    fun _ _ _ _ _ hs hp _ hhandle => by
      obtain ⟨k, hk⟩ := hp
      have hcontinues := continues_of_handle hclient hid hs hk hhandle
      exact ⟨hcontinues.wired, fun packet hpacket =>
        have ⟨j, _, hj⟩ := hcontinues.descends packet hpacket
        ⟨j, hj⟩⟩
  exact ⟨hwired, hplain, hdescends⟩

/-- No response is made twice. -/
theorem Regular.count_le (h : Regular S d target id c)
    (hfollow : Work.Follow S.handle S.Arrives guard own c c') :
    (c'.family.map Packet.count).sum ≤ (c.family.map Packet.count).sum :=
  hfollow.weight Setup.Wired (fun packet => ∃ k, Descends S d target id k packet) Packet.count (· ≤ ·)
    le_refl (fun _ _ _ => le_trans) (fun _ _ _ hle => Nat.add_le_add_left hle _)
    (fun _ hprefix => have h' := h.follow hclient hid hprefix; ⟨h'.wired, h'.descends⟩)
    fun _ _ _ _ _ hs ⟨_, hk⟩ _ hhandle => (continues_of_handle hclient hid hs hk hhandle).count_le

/-- No response is lost while the device is registered. -/
theorem Regular.count_eq (h : Regular S d target id c)
    (hown : ∀ o s packet, own o s packet → S.Registered d s)
    (hfollow : Work.Follow S.handle S.Arrives guard own c c') :
    (c'.family.map Packet.count).sum = (c.family.map Packet.count).sum :=
  hfollow.weight Setup.Wired (fun packet => ∃ k, Descends S d target id k packet) Packet.count (· = ·)
    (fun _ => rfl) (fun _ _ _ => Eq.trans) (fun _ _ _ heq => congrArg _ heq)
    (fun _ hprefix => have h' := h.follow hclient hid hprefix; ⟨h'.wired, h'.descends⟩)
    fun _ _ _ _ _ hs ⟨_, hk⟩ hg hhandle =>
      (continues_of_handle hclient hid hs hk hhandle).count_eq (hown _ _ _ hg)

/-- The work on the request comes to an end. -/
theorem Regular.dies (h : Regular S d target id c) : Work.Dies S.handle S.Arrives guard own c :=
  Work.dies_of_rank Setup.Wired Packet.Plain (Descends S d target id) (fun _ => Setup.Arrives.plain)
    (fun _ _ _ _ _ hs hp _ => Setup.handle_plain hs hp)
    (fun _ _ _ _ _ _ hs hk _ hhandle =>
      have hcontinues := continues_of_handle hclient hid hs hk hhandle
      ⟨hcontinues.wired, hcontinues.descends⟩)
    h.wired h.plain h.descends

end Family

end StreamCloud.Fleet
