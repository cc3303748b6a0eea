-- SUMMARY: To which sessions everything is written that comes of a message of the manager or of the platform.
import StreamCloud.Verification.Answers
import StreamCloud.Manager.Relay
import StreamCloud.Platform.Relay

/-!
# Addresses

A message is addressed to some sessions when everything that is written because of
it goes to them, or is a request. Which sessions these are can depend on whether the
frame has an error. Two questions are asked with it: whether what is written for one
session stays with it, and whether a session is left alone.

A request that is written to a session is one for a device. Where that session is
gone it goes up to the platform, which answers it: this is allowed for by `asks`.
Notifications go to whoever listens: they are allowed for by `hears`.
-/

namespace StreamCloud

/-- A session to which every frame may go. -/
def Admits (ids : Bool → String → Prop) (id : String) : Prop := ∀ error, ids error id

/-! ## Frames -/

namespace JsonMap

variable {ids : Bool → String → Prop} {m m' : JsonMap}

/-- The session that a frame names in its metadata is one of these, if it names one. -/
def Names (ids : Bool → String → Prop) (m : JsonMap) : Prop :=
  ∀ id, (m.get "metadata").stringAt "transport" = .ok id → ids (m.contains "error") id

/-- The metadata of a frame has none of the keys by which the platform tells requests apart. -/
def Keyless (m : JsonMap) : Prop :=
  ∀ metadata, m.readMetadata = .ok metadata →
    metadata.contains "manager-key" = false ∧ metadata.contains "profile-key" = false

theorem names_of_none (h : m.find? "metadata" = none) : m.Names ids := by
  intro id hid
  rw [get, h] at hid
  cases hid

theorem names_of_map {metadata : JsonMap} (h : m.find? "metadata" = some (.map metadata))
    (hids : ∀ id, metadata.find? "transport" = some (.string id) → ids (m.contains "error") id) :
    m.Names ids := by
  intro id hid
  obtain ⟨metadata', hmap, hfind⟩ := JsonValue.stringAt_eq_ok.mp hid
  rw [get, h] at hmap
  cases hmap
  exact hids id hfind

theorem names_reread (hm : m.Sorted) : m.reread.Names ids ↔ m.Names ids := by
  have heq (id : String) : (m.reread.get "metadata").stringAt "transport" = .ok id ↔
      (m.get "metadata").stringAt "transport" = .ok id := Manager.metadata_reread hm
  unfold Names
  rw [contains_reread]
  exact ⟨fun h id hid => h id ((heq id).mpr hid), fun h id hid => h id ((heq id).mp hid)⟩

theorem names_readParams : m.readParams.2.Names ids ↔ m.Names ids := by
  unfold Names
  rw [get_readParams_snd, contains_readParams_of_ne (by decide)]

theorem contains_set_of_ne {key key' : String} {v : JsonValue} (h : key ≠ key') :
    JsonMap.contains (m.set key' v) key = m.contains key := by
  rw [contains, find?_set_of_ne h, contains]

theorem contains_erase_of_ne {key key' : String} (h : key ≠ key') :
    JsonMap.contains (m.erase key') key = m.contains key := by
  rw [contains, find?_erase_of_ne h, contains]

theorem isRequest_erase_metadata : JsonMap.isRequest (m.erase "metadata") = m.isRequest := by
  have hmethod : ("method" : String) ≠ "metadata" := by decide
  have hid : ("id" : String) ≠ "metadata" := by decide
  simp only [isRequest, contains, find?_erase_of_ne hmethod, find?_erase_of_ne hid]

/-- A frame that is passed on without its metadata. -/
theorem contains_reread_erase {key : String} (h : key ≠ "metadata") :
    JsonMap.contains (JsonMap.reread (m.reread.erase "metadata")) key = m.contains key := by
  rw [contains_reread, contains_erase_of_ne h, contains_reread]

theorem isRequest_reread_erase :
    JsonMap.isRequest (JsonMap.reread (m.reread.erase "metadata")) = m.isRequest := by
  rw [isRequest_reread, isRequest_erase_metadata, isRequest_reread]

theorem isRequest_set_metadata {v : JsonValue} :
    JsonMap.isRequest (m.set "metadata" v) = m.isRequest := by
  have hmethod : ("method" : String) ≠ "metadata" := by decide
  have hid : ("id" : String) ≠ "metadata" := by decide
  simp only [isRequest, contains, find?_set_of_ne hmethod, find?_set_of_ne hid]

theorem not_isRequest_of_isResponse (h : m.isResponse) : m.isRequest = false := by
  unfold isResponse at h
  unfold isRequest
  cases hmethod : m.contains "method" <;> simp_all

theorem not_isRequest_of_isNotify (h : m.isNotify) : m.isRequest = false := by
  unfold isNotify at h
  unfold isRequest
  cases hid : m.contains "id" <;> simp_all

end JsonMap

/-- A response is no request, and names no session. -/
theorem Reply.parse_message {ids : Bool → String → Prop} {reply : Reply} {id : JsonValue} {m : JsonMap}
    (h : Codec.api.parse ((reply.message id).serialize Codec.api) = .ok m) :
    m.isRequest = false ∧ m.Names ids := by
  obtain rfl : (reply.message id).toMap.reread = m :=
    Except.ok.inj ((Codec.api_roundTrip _).symm.trans h)
  constructor
  · rw [JsonMap.isRequest_reread]
    exact JsonMap.not_isRequest_of_isResponse (ResponseMessage.isResponse_toMap _)
  · refine JsonMap.names_of_none ?_
    rw [JsonMap.find?_reread_of_nodup (ResponseMessage.nodup_toMap _),
      ResponseMessage.find?_toMap_metadata_of_nil rfl]
    rfl

/-- What is read of a request that was written. -/
theorem RequestMessage.parse_serialize {msg : RequestMessage} {m : JsonMap}
    (h : Codec.api.parse (msg.serialize Codec.api) = .ok m) :
    m.isRequest ∧ m.find? "metadata" =
      if msg.metadata.isEmpty then none else some (JsonValue.map msg.metadata).reread := by
  obtain rfl : msg.toMap.reread = m := Except.ok.inj ((Codec.api_roundTrip _).symm.trans h)
  constructor
  · rw [JsonMap.isRequest_reread]
    exact RequestMessage.isRequest_toMap msg
  · rw [JsonMap.find?_reread_of_nodup (RequestMessage.nodup_toMap _),
      RequestMessage.find?_toMap_metadata]
    split <;> rfl

/-! ## The manager -/

namespace Manager

variable {config : Config} {ids : Bool → String → Prop} {asks hears : Prop}

/-- A frame that comes from a session, or from the platform for one of its sessions. -/
structure Spoken (ids : Bool → String → Prop) (hears : Prop) (id : String) (m : JsonMap) : Prop where
  request : m.isRequest → Admits ids id
  response : m.isRequest = false → m.isResponse → m.Names ids
  notify : m.isRequest = false → m.isResponse = false → hears

/-- A frame that is written to a session. -/
structure Written (ids : Bool → String → Prop) (id : String) (m : JsonMap) : Prop where
  request : m.isRequest → m.Keyless
  other : m.isRequest = false → ids (m.contains "error") id ∧ m.Names ids

/-- A frame that goes up to the platform. -/
structure Upward (ids : Bool → String → Prop) (asks : Prop) (m : JsonMap) : Prop where
  request : m.isRequest → asks ∧ m.Keyless
  other : m.isRequest = false → m.Names ids

/-- A message of the manager that is addressed to these sessions. -/
inductive Addressed (ids : Bool → String → Prop) (asks hears : Prop) : Envelope Actor → Prop
  | frame {sender : Actor} {ws : WebSocket} :
      (∀ m, Codec.api.parse ws.body = .ok m → Spoken ids hears ws.id m) →
      Addressed ids asks hears (frameFrom sender ws)
  | task {dest sender : Actor} {command : String} {task : Task} : Admits ids task.transportId →
      Addressed ids asks hears { dest, sender, command, body := .task task }
  | response {id : String} {m : JsonMap} : m.Sorted → m.Names ids →
      Addressed ids asks hears (relayed "response" id m)
  | notify {id : String} {m : JsonMap} : hears → m.Sorted →
      Addressed ids asks hears (relayed "notify" id m)
  | emission {id : String} {m : JsonMap} : hears → m.Sorted → m.isNotify →
      Addressed ids asks hears (emission id m)
  | write {sender : Actor} {ws : WebSocket} :
      (∀ m, Codec.api.parse ws.body = .ok m → Written ids ws.id m) →
      Addressed ids asks hears (sessionMessage sender ws)
  | piped {ws : WebSocket} :
      (∀ m, Codec.api.parse ws.body = .ok m → Written ids ws.id m ∧ (m.isRequest → asks)) →
      Addressed ids asks hears (pipeMessage ws)
  | fromPlatform {ws : WebSocket} :
      (∀ m, Codec.api.parse ws.body = .ok m → m.isRequest → m.Names fun _ => Admits ids) →
      Addressed ids asks hears (platformFrame ws)
  | text {dest sender : Actor} {command text : String} :
      Addressed ids asks hears { dest, sender, command, body := .text text }
  | error {dest sender : Actor} {error : SocketError} :
      Addressed ids asks hears { dest, sender, command := "error", body := .transport (.error error) }
  | socket {dest sender : Actor} {command : String} {body : Body Actor} :
      dest = .ws ∨ dest = .client → command ≠ "write" →
      Addressed ids asks hears { dest, sender, command, body }

/-- What comes of an addressed message: it is addressed, or on its way to the platform. -/
def Leads (ids : Bool → String → Prop) (asks hears : Prop) (e : Envelope Actor) : Prop :=
  Addressed ids asks hears e ∨ ∃ ws, e = platformMessage ws ∧
    ∀ m, Codec.api.parse ws.body = .ok m → Upward ids asks m

/-- What the websocket server is given to write. -/
theorem Addressed.written {e : Envelope Actor} {ws : WebSocket} (h : Addressed ids asks hears e)
    (hdest : e.dest = .ws) (hcommand : e.command = "write") (hbody : e.body = .transport (.webSocket ws)) :
    ∀ m, Codec.api.parse ws.body = .ok m → Written ids ws.id m := by
  cases h with
  | write h =>
    cases hbody
    exact h
  | socket _ hne => exact absurd hcommand hne
  | task => cases hbody
  | text => cases hbody
  | error => cases hbody
  | _ => cases hdest

/-- An addressed message is not one for the platform. -/
theorem Addressed.not_up {e : Envelope Actor} {ws : WebSocket} (h : Addressed ids asks hears e)
    (hdest : e.dest = .client) (hcommand : e.command = "write") :
    e.body ≠ .transport (.webSocket ws) := by
  intro hbody
  cases h with
  | socket _ hne => exact absurd hcommand hne
  | task => cases hbody
  | text => cases hbody
  | error => cases hbody
  | _ => cases hdest

variable {env : Env} {n n' : State} {out : List (Envelope Actor)}

/-- A response of a service, as it is written to the session of its task. -/
theorem addressed_response {sender : Actor} {task : Task} {reply : Reply} (h : Admits ids task.transportId) :
    Addressed ids asks hears (sessionMessage sender
      { id := task.transportId, body := (reply.message task.request.id).serialize Codec.api }) := by
  refine .write fun m hparse => ?_
  obtain ⟨hrequest, hnames⟩ := Reply.parse_message hparse
  exact ⟨fun h => (Bool.false_ne_true (hrequest.symm.trans h)).elim, fun _ => ⟨h _, hnames⟩⟩

/-- A request for a device. -/
theorem addressed_requestDevice {sender : Actor} {session action : String} {task : Task} :
    Addressed ids asks hears (sessionMessage sender {
      id := session, body := (Devices.requestDeviceMessage task action).serialize Codec.api }) := by
  refine .write fun m hparse => ?_
  obtain ⟨hrequest, hmetadata⟩ := RequestMessage.parse_serialize hparse
  refine ⟨fun _ metadata hread => ?_, fun hnot => (Bool.false_ne_true (hnot.symm.trans hrequest)).elim⟩
  have hexact : (JsonValue.map [("transport", .string task.transportId)]).reread =
      .map [("transport", .string task.transportId)] :=
    JsonValue.exact_map.mpr (JsonMap.exact_nil.set (JsonValue.exact_string task.transportId))
  have hfind : m.find? "metadata" = some (.map [("transport", .string task.transportId)]) :=
    hmetadata.trans (congrArg some hexact)
  rcases JsonMap.readMetadata_eq_ok.mp hread with hmap | ⟨hnone, -⟩
  · rw [hfind] at hmap
    cases hmap
    exact ⟨rfl, rfl⟩
  · rw [hfind] at hnone
    cases hnone

/-- What `platform.write` makes of a frame. -/
theorem upward_routed {id : String} {m metadata : JsonMap} (hsorted : m.Sorted)
    (hmetadata : m.readMetadata = .ok metadata) (h : Written ids id m) (hasks : m.isRequest → asks) :
    Upward ids asks
      (JsonMap.reread (m.set "metadata" (.map (routedMetadata m metadata id)))) := by
  have hsortedMetadata : metadata.Sorted := hsorted.readMetadata hmetadata
  have hrouted : (routedMetadata m metadata id).Sorted := by
    unfold routedMetadata
    split
    · exact hsortedMetadata
    · exact hsortedMetadata.set (JsonValue.sorted_string id)
  have hset : JsonMap.Sorted (m.set "metadata" (.map (routedMetadata m metadata id))) :=
    hsorted.set hrouted
  have hfind : (JsonMap.reread (m.set "metadata" (.map (routedMetadata m metadata id)))).find?
      "metadata" = some (.map (routedMetadata m metadata id).reread) := by
    rw [JsonMap.find?_reread hset, JsonMap.find?_set_self]
    rfl
  have hrequest : (JsonMap.reread (m.set "metadata"
      (.map (routedMetadata m metadata id)))).isRequest = m.isRequest := by
    rw [JsonMap.isRequest_reread, JsonMap.isRequest_set_metadata]
  constructor
  · intro hreq
    rw [hrequest] at hreq
    refine ⟨hasks hreq, fun metadata' hread => ?_⟩
    obtain ⟨hmanager, hprofile⟩ := h.request hreq metadata hmetadata
    rcases JsonMap.readMetadata_eq_ok.mp hread with hmap | ⟨hnone, -⟩
    · rw [hfind] at hmap
      cases hmap
      simp only [JsonMap.contains_reread]
      unfold routedMetadata
      split
      · exact ⟨hmanager, hprofile⟩
      · simp [JsonMap.contains_set, hmanager, hprofile]
    · rw [hfind] at hnone
      cases hnone
  · intro hnot
    rw [hrequest] at hnot
    obtain ⟨hid, hnames⟩ := h.other hnot
    rw [JsonMap.names_reread hset]
    refine JsonMap.names_of_map (JsonMap.find?_set_self ..) fun id' hid' => ?_
    rw [JsonMap.contains_set_of_ne (by decide)]
    unfold routedMetadata at hid'
    split at hid'
    · -- a frame with `transport` of its own keeps its metadata
      rcases JsonMap.readMetadata_eq_ok.mp hmetadata with hmap | ⟨-, rfl⟩
      · exact hnames id' (JsonValue.stringAt_eq_ok.mpr ⟨metadata, by rw [JsonMap.get, hmap]; rfl, hid'⟩)
      · cases hid'
    · rw [JsonMap.find?_set_self] at hid'
      cases hid'
      exact hid

theorem leads_of_skip {e e' : Envelope Actor} (h : e' ∈ (program Codec.api config).skip e) :
    Leads ids asks hears e' := by
  obtain ⟨-, rfl⟩ := Program.of_mem_skip h
  exact .inl .text

section Wired

variable (hn : n.contacts = contacts)
include hn

/-- The websocket server is the contact that writes. -/
theorem ws_of_lookup {a dest : Actor}
    (h : ((program Codec.api config).ctx n a).contacts.lookup "ws" = some dest) : dest = .ws := by
  have hname := name_of_lookup hn h
  revert hname
  cases dest <;> decide

/-- What comes of a task. -/
theorem leads_of_task {dest sender : Actor} {command : String} {task : Task} (h : Admits ids task.transportId)
    (hhandle : handle Codec.api config env n { dest, sender, command, body := .task task } =
      .ok (n', out)) : ∀ e ∈ out, Leads ids asks hears e := by
  intro e he
  rcases out_of_task hn rfl hhandle with hskip | hdisposed
  · exact leads_of_skip (hskip e he)
  cases hdisposed with
  | alone halone =>
    cases halone with
    | response reply hws =>
      obtain rfl := ws_of_lookup hn hws
      rw [List.mem_singleton.mp he]
      exact .inl (addressed_response h)
    | forward name command' task' hcontact hdest hforwards =>
      rw [List.mem_singleton.mp he]
      refine .inl (.task ?_)
      rw [hforwards.transportId]
      exact h
  | relay session msg hws hhands =>
    obtain rfl := ws_of_lookup hn hws
    obtain ⟨_, action, -, -, -, rfl⟩ := hhands
    rw [List.mem_singleton.mp he]
    exact .inl addressed_requestDevice

/-- What comes of a frame at the router. -/
theorem leads_of_frame {sender : Actor} {ws : WebSocket}
    (h : ∀ m, Codec.api.parse ws.body = .ok m → Spoken ids hears ws.id m)
    (hhandle : handle Codec.api config env n (frameFrom sender ws) = .ok (n', out)) :
    ∀ e ∈ out, Leads ids asks hears e := by
  intro e he
  obtain ⟨transport, component, hbody, hrun, -⟩ :=
    Program.transport_of_handle (h := Router.dispatcher Codec.api config) (L := Services.unitLens)
      rfl hhandle
  cases hbody
  rcases Router.dispatcher_cases Codec.api hrun with
    ⟨request, ⟨message, m', hparse, hrequest, -⟩, hout⟩ | ⟨message, hparse, hrequest, hsend⟩
  · have hid : Admits ids ws.id := (h message hparse).request hrequest
    rcases hout with ⟨reply, hsend⟩ | ⟨name, command, task, -, htransport, hsend⟩
    · obtain ⟨dest, hws, rfl⟩ := Ctx.writeTo_eq_ok.mp hsend
      obtain rfl := ws_of_lookup hn hws
      rw [List.mem_singleton.mp he]
      refine .inl (.write fun m hm => ?_)
      obtain ⟨hnot, hnames⟩ := Reply.parse_message hm
      exact ⟨fun h => (Bool.false_ne_true (hnot.symm.trans h)).elim, fun _ => ⟨hid _, hnames⟩⟩
    · obtain ⟨dest, -, rfl⟩ := Ctx.send_eq_ok.mp hsend
      rw [List.mem_singleton.mp he]
      exact .inl (.task (htransport ▸ hid))
  · obtain ⟨dest, hdevices, rfl⟩ := Ctx.send_eq_ok.mp hsend
    have hdest : (contacts .router).lookup "devices" = some dest := by
      rw [← hn]
      exact hdevices
    obtain rfl : Actor.devices = dest := Option.some.inj hdest
    have hsorted := Codec.api_sorted hparse
    rw [List.mem_singleton.mp he]
    cases hresponse : message.isResponse with
    | true => exact .inl (.response hsorted ((h message hparse).response hrequest hresponse))
    | false => exact .inl (.notify ((h message hparse).notify hrequest hresponse) hsorted)

/-- What comes of a response that the router handed on. -/
theorem leads_of_response {id : String} {m : JsonMap} (hsorted : m.Sorted) (h : m.Names ids)
    (hhandle : handle Codec.api config env n (relayed "response" id m) = .ok (n', out)) :
    ∀ e ∈ out, Leads ids asks hears e := by
  intro e he
  obtain ⟨hresponse, target, device, htarget, hdevice, hregistered⟩ :=
    of_handle_relayed_response hsorted hhandle (List.ne_nil_of_mem he)
  rw [handle_relayed_response hn hsorted hresponse htarget hdevice hregistered] at hhandle
  cases hhandle
  rw [List.mem_singleton.mp he]
  refine .inl (.write fun m' hm' => ?_)
  obtain rfl : (m.reread.erase "metadata").reread = m' :=
    Except.ok.inj ((Codec.api_roundTrip _).symm.trans hm')
  have hsorted' := (JsonMap.sorted_reread m).erase "metadata"
  have hrequest : (JsonMap.reread (m.reread.erase "metadata")).isRequest = false := by
    rw [JsonMap.isRequest_reread_erase]
    exact JsonMap.not_isRequest_of_isResponse hresponse
  refine ⟨fun h => (Bool.false_ne_true (hrequest.symm.trans h)).elim, fun _ => ⟨?_, ?_⟩⟩
  · rw [JsonMap.contains_reread_erase (by decide)]
    exact h target htarget
  · rw [JsonMap.names_reread hsorted']
    exact JsonMap.names_of_none (JsonMap.find?_erase_self ..)

/-- What comes of a notification that the router handed on. -/
theorem leads_of_notify {id : String} {m : JsonMap} (hhears : hears) (hsorted : m.Sorted)
    (hhandle : handle Codec.api config env n (relayed "notify" id m) = .ok (n', out)) :
    ∀ e ∈ out, Leads ids asks hears e := by
  intro e he
  obtain ⟨hnotify, device, hdevice, hregistered⟩ :=
    of_handle_relayed_notify hsorted hhandle (List.ne_nil_of_mem he)
  rw [handle_relayed_notify hn hsorted hnotify hdevice hregistered] at hhandle
  cases hhandle
  rw [List.mem_singleton.mp he]
  exact .inl (.emission hhears (JsonMap.sorted_reread m) ((JsonMap.isNotify_reread m).trans hnotify))

/-- What comes of a notification: it is written to whoever listens to the device. -/
theorem leads_of_emission {id : String} {m : JsonMap} (hsorted : m.Sorted) (hnotify : m.isNotify)
    (hsubscribers : ∀ device, ∀ id ∈ n.services.subscriptions.subscribers device, Admits ids id)
    (hhandle : handle Codec.api config env n (emission id m) = .ok (n', out)) :
    ∀ e ∈ out, Leads ids asks hears e := by
  intro e he
  obtain ⟨transport, component, hbody, hrun, -⟩ :=
    Program.transport_of_handle (h := Subscriptions.emit Codec.api) (L := Services.subscriptionsLens)
      rfl hhandle
  cases hbody
  obtain ⟨metadata, device, hmap, hdevice⟩ : ∃ (metadata : JsonMap) (device : String),
      m.get "metadata" = .map metadata ∧ metadata.stringAt "device-key" = .ok device := by
    simp only [Subscriptions.emit, Transport.asWebSocket_webSocket, Except.ok_bind',
      Codec.api_roundTrip] at hrun
    obtain ⟨device, hdevice, -⟩ := Except.bind_eq_ok.mp hrun
    rw [metadata_reread hsorted] at hdevice
    obtain ⟨metadata, hmap, hfind⟩ := JsonValue.stringAt_eq_ok.mp hdevice
    exact ⟨metadata, device, hmap, JsonMap.stringAt_eq_ok.mpr hfind⟩
  rw [handle_emission hn hsorted hmap hdevice] at hhandle
  cases hhandle
  obtain ⟨subscribe, hsubscribe, rfl⟩ := List.mem_map.mp he
  have hid : Admits ids subscribe := hsubscribers device subscribe (AList.mem_keys.mp hsubscribe)
  refine .inl (.write fun m' hm' => ?_)
  obtain rfl := Except.ok.inj ((Codec.api_roundTrip _).symm.trans hm')
  have hrequest : (JsonMap.reread (m.reread.set "metadata"
      (.map (metadata.reread.set "transport" (.string subscribe))))).isRequest = false := by
    rw [JsonMap.isRequest_reread, JsonMap.isRequest_set_metadata, JsonMap.isRequest_reread]
    exact JsonMap.not_isRequest_of_isNotify hnotify
  refine ⟨fun h => (Bool.false_ne_true (hrequest.symm.trans h)).elim, fun _ => ⟨hid _, ?_⟩⟩
  have hmetadata : (JsonValue.map (metadata.reread.set "transport" (.string subscribe))).Sorted :=
    (JsonMap.sorted_reread metadata).set (JsonValue.sorted_string subscribe)
  rw [JsonMap.names_reread ((JsonMap.sorted_reread m).set hmetadata)]
  refine JsonMap.names_of_map (JsonMap.find?_set_self ..) fun id' hfind => ?_
  rw [JsonMap.find?_set_self] at hfind
  cases hfind
  exact hid _

/-- What comes of a frame that no session took: it goes up, and names the session. -/
theorem leads_of_piped {ws : WebSocket}
    (h : ∀ m, Codec.api.parse ws.body = .ok m → Written ids ws.id m ∧ (m.isRequest → asks))
    (hhandle : handle Codec.api config env n (pipeMessage ws) = .ok (n', out)) :
    ∀ e ∈ out, Leads ids asks hears e := by
  intro e he
  obtain ⟨transport, component, hbody, hrun, -⟩ :=
    Program.transport_of_handle (h := PlatformService.write Codec.api) (L := Services.unitLens)
      rfl hhandle
  cases hbody
  simp only [PlatformService.write, Transport.asWebSocket_webSocket, Except.ok_bind'] at hrun
  obtain ⟨m, hparse, hrun⟩ := Except.bind_eq_ok.mp hrun
  obtain ⟨metadata, hmetadata, -⟩ := Except.bind_eq_ok.mp hrun
  rw [handle_pipeMessage hn hparse hmetadata] at hhandle
  cases hhandle
  rw [List.mem_singleton.mp he]
  obtain ⟨hwritten, hasks⟩ := h m hparse
  refine .inr ⟨_, rfl, fun m' hm' => ?_⟩
  obtain rfl := Except.ok.inj ((Codec.api_roundTrip _).symm.trans hm')
  exact upward_routed (Codec.api_sorted hparse) hmetadata hwritten hasks

/-- What comes of a frame of the platform: a request for one of its sessions goes
to the router. -/
theorem leads_of_fromPlatform {ws : WebSocket}
    (h : ∀ m, Codec.api.parse ws.body = .ok m → m.isRequest → m.Names fun _ => Admits ids)
    (hhandle : handle Codec.api config env n (platformFrame ws) = .ok (n', out)) :
    ∀ e ∈ out, Leads ids asks hears e := by
  intro e he
  obtain ⟨transport, component, hbody, hrun, -⟩ :=
    Program.transport_of_handle (h := PlatformService.dispatcher Codec.api config)
      (L := Services.unitLens) rfl hhandle
  cases hbody
  have htext {command text : String} (hsend : ((program Codec.api config).ctx n .platform).send
      "client" command (.text text) = .ok out) : Leads ids asks hears e := by
    obtain ⟨dest, -, rfl⟩ := Ctx.send_eq_ok.mp hsend
    rw [List.mem_singleton.mp he]
    exact .inl .text
  rcases PlatformService.dispatcher_cases Codec.api config hrun with
    ⟨ws', ⟨m, request, m', id, hparse, hrequest, hread, -, hid, rfl⟩, hsend⟩ | ⟨-, hsend⟩ |
      ⟨text, hsend⟩ | rfl
  · obtain ⟨dest, hrouter, rfl⟩ := Ctx.send_eq_ok.mp hsend
    have hdest : (contacts .platform).lookup "router" = some dest := by
      rw [← hn]
      exact hrouter
    obtain rfl : Actor.router = dest := Option.some.inj hdest
    have hcontains : m.contains "id" := by
      rw [JsonMap.isRequest, Bool.and_eq_true] at hrequest
      exact hrequest.2
    obtain rfl : m' = m.readParams.2 := ((JsonMap.parseRequest_eq_ok hcontains).mp hread).2.2.2.2
    have hids : Admits ids id := JsonMap.names_readParams.mpr (h m hparse hrequest) id hid
    rw [List.mem_singleton.mp he]
    refine .inl (.frame fun m'' hm'' => ?_)
    obtain rfl := Except.ok.inj ((Codec.api_roundTrip _).symm.trans hm'')
    have hreq : m.readParams.2.reread.isRequest := by
      rw [JsonMap.isRequest_reread, JsonMap.isRequest_readParams]
      exact hrequest
    exact ⟨fun _ => hids, fun hnot => (Bool.false_ne_true (hnot.symm.trans hreq)).elim,
      fun hnot => (Bool.false_ne_true (hnot.symm.trans hreq)).elim⟩
  · exact htext hsend
  · exact htext hsend
  · cases he

omit hn in
/-- Only the data providers read texts, and they send nothing. -/
theorem text_of_text {dest sender : Actor} {command text : String}
    (hhandle : handle Codec.api config env n { dest, sender, command, body := .text text } =
      .ok (n', out)) : ∀ e ∈ out, ∃ text, e.body = .text text := by
  intro e he
  cases Program.handled_of_eq_ok hhandle with
  | skip =>
    obtain ⟨-, rfl⟩ := Program.of_mem_skip he
    exact ⟨_, rfl⟩
  | syncContacts => cases he
  | addChannel => cases he
  | @attached action services out _ hmem hran =>
    cases dest <;> obtain ⟨inner, hinner, rfl⟩ := mem_liftAll.mp hmem <;>
      obtain ⟨component, hinnerRan, rfl⟩ := hran.of_lift
    case client =>
      obtain rfl := WsClient.out_of_ran hinner hinnerRan
      cases he
    case http =>
      obtain rfl := HttpServer.out_of_ran hinner hinnerRan
      cases he
    all_goals
      cases hinnerRan <;> simp [Router.handlers, Users.handlers, Groups.handlers,
        Subscriptions.handlers, Connections.handlers, Devices.handlers, PlatformService.handlers,
        ManagerInfo.handlers, WsServer.handlers] at hinner

/-- An error ends a session or the connection. -/
theorem leads_of_error {dest sender : Actor} {err : SocketError}
    (hhandle : handle Codec.api config env n
      { dest, sender, command := "error", body := .transport (.error err) } = .ok (n', out)) :
    ∀ e ∈ out, Leads ids asks hears e := by
  intro e he
  cases Program.handled_of_eq_ok hhandle with
  | skip => exact leads_of_skip he
  | syncContacts => cases he
  | addChannel => cases he
  | @attached action services out _ hmem hran =>
    cases dest <;> obtain ⟨inner, hinner, rfl⟩ := mem_liftAll.mp hmem <;>
      obtain ⟨component, hinnerRan, rfl⟩ := hran.of_lift <;>
      simp [Router.handlers, Users.handlers, Groups.handlers, Subscriptions.handlers,
        Connections.handlers, Devices.handlers, PlatformService.handlers, ManagerInfo.handlers,
        WsServer.handlers, WsClient.handlers, HttpServer.handlers] at hinner
    case router =>
      subst hinner
      cases hinnerRan with | transport hrun =>
      obtain ⟨out', hout, heq⟩ := Except.bind_eq_ok.mp hrun
      cases heq
      obtain ⟨err', -, hsend⟩ := Except.bind_eq_ok.mp hout
      obtain ⟨dest, hdest, rfl⟩ := Ctx.send_eq_ok.mp hsend
      rw [List.mem_singleton.mp he]
      obtain rfl := ws_of_lookup hn hdest
      refine .inl (.socket (.inl rfl) ?_)
      split <;> decide
    case platform =>
      subst hinner
      cases hinnerRan with | transport hrun =>
      obtain ⟨err', -, hrun⟩ := Except.bind_eq_ok.mp hrun
      split at hrun
      · obtain ⟨out', hout, heq⟩ := Except.bind_eq_ok.mp hrun
        cases heq
        obtain ⟨dest, -, rfl⟩ := Ctx.send_eq_ok.mp hout
        rw [List.mem_singleton.mp he]
        exact .inl .text
      · obtain ⟨out', hout, heq⟩ := Except.bind_eq_ok.mp hrun
        cases heq
        obtain ⟨dest, hdest, rfl⟩ := Ctx.send_eq_ok.mp hout
        rw [List.mem_singleton.mp he]
        have hname := name_of_lookup hn hdest
        refine .inl (.socket (.inr ?_) (by decide))
        revert hname
        cases dest <;> decide

omit hn in
/-- A data provider sends nothing, but for the frames it has no session for. -/
theorem leads_of_socket {dest sender : Actor} {command : String} {body : Body Actor}
    (hdest : dest = .ws ∨ dest = .client) (hcommand : command ≠ "write")
    (hhandle : handle Codec.api config env n { dest, sender, command, body } = .ok (n', out)) :
    ∀ e ∈ out, Leads ids asks hears e := by
  intro e he
  cases Program.handled_of_eq_ok hhandle with
  | skip => exact leads_of_skip he
  | syncContacts => cases he
  | addChannel => cases he
  | @attached action services out _ hmem hran =>
    rcases hdest with rfl | rfl <;> obtain ⟨inner, hinner, rfl⟩ := mem_liftAll.mp hmem <;>
      obtain ⟨component, hinnerRan, rfl⟩ := hran.of_lift
    · rcases WsServer.out_of_ran hinner hinnerRan with rfl | ⟨hwrite, -⟩
      · cases he
      · exact absurd hwrite hcommand
    · obtain rfl := WsClient.out_of_ran hinner hinnerRan
      cases he

/-- Everything that comes of an addressed message is addressed, while nobody else
listens and requests find their sessions, where they are to find them. -/
theorem Addressed.leads {e : Envelope Actor} (h : Addressed ids asks hears e)
    (hsubscribers : hears → ∀ device, ∀ id ∈ n.services.subscriptions.subscribers device, Admits ids id)
    (hopen : ∀ sender ws m, e = sessionMessage sender ws → Codec.api.parse ws.body = .ok m →
      m.isRequest → env.sessions ws.id = false → asks)
    (hhandle : handle Codec.api config env n e = .ok (n', out)) :
    ∀ e' ∈ out, Leads ids asks hears e' := by
  cases h with
  | frame h => exact leads_of_frame hn h hhandle
  | task h => exact leads_of_task hn h hhandle
  | response hsorted h => exact leads_of_response hn hsorted h hhandle
  | notify hhears hsorted => exact leads_of_notify hn hhears hsorted hhandle
  | emission hhears hsorted hnotify =>
    exact leads_of_emission hn hsorted hnotify (hsubscribers hhears) hhandle
  | @write sender ws h =>
    rw [handle_sessionMessage] at hhandle
    cases hhandle
    intro e he
    split at he
    · cases he
    · next hclosed =>
      rw [List.mem_singleton.mp he]
      refine .inl (.piped fun m hparse => ⟨h m hparse, fun hrequest => ?_⟩)
      exact hopen sender ws m rfl hparse hrequest (by simpa using hclosed)
  | piped h => exact leads_of_piped hn h hhandle
  | fromPlatform h => exact leads_of_fromPlatform hn h hhandle
  | text =>
    intro e' he'
    obtain ⟨dest, sender, command, body⟩ := e'
    obtain ⟨text, rfl⟩ := text_of_text hhandle _ he'
    exact .inl .text
  | error => exact leads_of_error hn hhandle
  | socket hdest hcommand => exact leads_of_socket hdest hcommand hhandle

end Wired

end Manager

/-! ## The platform -/

namespace Platform

variable {managerKey link : String} {ids : Bool → String → Prop} {asks : Prop}

section Services

variable {α : Type} {ctx : Ctx α} {ends : String → Prop} {task : Task}

/-- What a handler of the platform sends because of a task. Some sessions can be
told to disconnect. -/
inductive Attends (ctx : Ctx α) (ends : String → Prop) (task : Task) : Envelope α → Prop
  | response (reply : Reply) {ws : α} : ctx.contacts.lookup "ws" = some ws →
      Attends ctx ends task (ctx.response Codec.api ws task reply)
  | forward {dest : α} {command : String} {task' : Task} : task'.request = task.request →
      task'.transportId = task.transportId →
      Attends ctx ends task { dest, sender := ctx.self, command, body := .task task' }
  | request {server : α} {session : String} {msg : RequestMessage} :
      ctx.contacts.lookup "ws" = some server → (task.request.metadata.Sorted → msg.metadata.Sorted) →
      msg.metadata.find? "transport" = some (.string task.transportId) →
      Attends ctx ends task {
        dest := server
        sender := ctx.self
        command := "write"
        body := .transport (.webSocket { id := session, body := msg.serialize Codec.api }) }
  | disconnect {server : α} {session : String} :
      ctx.contacts.lookup "ws" = some server → ends session →
      Attends ctx ends task {
        dest := server
        sender := ctx.self
        command := "write"
        body := .transport (.webSocket
          { id := session, body := (Managers.disconnectMessage task).serialize Codec.api }) }
  | text {dest sender : α} {command text : String} :
      Attends ctx ends task { dest, sender, command, body := .text text }

theorem Attends.mono {ends' : String → Prop} {e : Envelope α} (h : Attends ctx ends task e)
    (hends : ∀ session, ends session → ends' session) : Attends ctx ends' task e := by
  cases h with
  | response reply hws => exact .response reply hws
  | forward hrequest htransport => exact .forward hrequest htransport
  | request hws hsorted hnames => exact .request hws hsorted hnames
  | disconnect hws hsession => exact .disconnect hws (hends _ hsession)
  | text => exact .text

theorem respond_attends {σ : Type} {s : σ} {reply : Reply} :
    (do return (s, ← ctx.respond Codec.api task reply) :
      Except Fault (σ × List (Envelope α))).Ensures fun r => ∀ e ∈ r.2, Attends ctx ends task e := by
  refine Except.ensures_bind.mpr fun out hout => Except.ensures_ok.mpr fun e he => ?_
  obtain ⟨ws, hws, rfl⟩ := Ctx.writeTo_eq_ok.mp hout
  rw [List.mem_singleton.mp he]
  exact .response reply hws

theorem answer_attends {σ β : Type} {s : σ} {read : Except Fault β} {valid : β → Bool}
    {invalid : String} {body : β → Except Fault (σ × Reply)} :
    (ctx.answer Codec.api task s read valid invalid body).Ensures
      fun r => ∀ e ∈ r.2, Attends ctx ends task e := by
  unfold Ctx.answer
  exact Except.ensures_bind.mpr fun _ _ => Except.ensures_bind.mpr fun _ _ => respond_attends

theorem forward_attends {σ : Type} {s : σ} {name command : String} {task' : Task}
    (hrequest : task'.request = task.request) (htransport : task'.transportId = task.transportId) :
    (do return (s, ← ctx.send name command (.task task')) :
      Except Fault (σ × List (Envelope α))).Ensures fun r => ∀ e ∈ r.2, Attends ctx ends task e := by
  refine Except.ensures_bind.mpr fun out hout => Except.ensures_ok.mpr fun e he => ?_
  obtain ⟨dest, -, rfl⟩ := Ctx.send_eq_ok.mp hout
  rw [List.mem_singleton.mp he]
  exact .forward hrequest htransport

theorem send_text_attends {name command text : String} :
    (ctx.send name command (.text text)).Ensures fun out => ∀ e ∈ out, Attends ctx ends task e := by
  intro out hout e he
  obtain ⟨dest, -, rfl⟩ := Ctx.send_eq_ok.mp hout
  rw [List.mem_singleton.mp he]
  exact .text

theorem append_respond_attends {r : Managers × Reply × List (Envelope α)}
    (h : ∀ e ∈ r.2.2, Attends ctx ends task e) :
    (do return (r.1, r.2.2 ++ (← ctx.respond Codec.api task r.2.1)) :
      Except Fault (Managers × List (Envelope α))).Ensures fun r => ∀ e ∈ r.2, Attends ctx ends task e := by
  refine Except.ensures_bind.mpr fun out hout => Except.ensures_ok.mpr fun e he => ?_
  obtain ⟨ws, hws, rfl⟩ := Ctx.writeTo_eq_ok.mp hout
  rcases List.mem_append.mp he with he | he
  · exact h e he
  · rw [List.mem_singleton.mp he]
    exact .response r.2.1 hws

theorem Managers.add_attends (env : Env) (s : Managers) :
    (Managers.add Codec.api env ctx s task).Ensures fun r => ∀ e ∈ r.2, Attends ctx ends task e := by
  unfold Managers.add
  refine Except.ensures_bind.mpr fun name _ => ?_
  refine Except.Ensures.andThen (P := fun r => ∀ e ∈ r.2.2, Attends ctx ends task e) ?_
    fun r hr => append_respond_attends hr
  refine Except.ensures_ite (fun _ => ?_) fun _ => Except.ensures_ok.mpr (by simp)
  refine catchStd_ensures ?_ fun what => Except.ensures_ok.mpr (by simp)
  refine Except.ensures_bind.mpr fun _ _ => Except.ensures_bind.mpr fun _ _ => ?_
  refine Managers.behindResult_ensures (fun what => by simp) ?_
  exact send_text_attends.andThen fun out hout => Except.ensures_ok.mpr hout

/-- The frame for a manager that is deleted has no metadata. -/
theorem Managers.writeDisconnect_attends {s : Managers} {key : String}
    (hends : ∀ session, s.managersReg.lookup key = some session → ends session) :
    (Managers.writeDisconnect Codec.api ctx s task key).Ensures
      fun out => ∀ e ∈ out, Attends ctx ends task e := by
  unfold Managers.writeDisconnect
  split
  · intro out hout e he
    obtain ⟨ws, hws, rfl⟩ := Ctx.writeTo_eq_ok.mp hout
    rw [List.mem_singleton.mp he]
    exact .disconnect hws (hends _ ‹_›)
  · exact Except.ensures_ok.mpr (by simp)

theorem Managers.delete_attends {env : Env} {s : Managers}
    (hends : ∀ key session, task.paramString "key" = .ok key → s.managersReg.lookup key = some session →
      ends session) :
    (Managers.delete Codec.api env ctx s task).Ensures fun r => ∀ e ∈ r.2, Attends ctx ends task e := by
  unfold Managers.delete
  refine Except.ensures_bind.mpr fun key hkey => ?_
  refine Except.Ensures.andThen (P := fun r => ∀ e ∈ r.2.2, Attends ctx ends task e) ?_
    fun r hr => append_respond_attends hr
  refine Except.ensures_ite (fun _ => ?_) fun _ => Except.ensures_ok.mpr (by simp)
  refine catchStd_ensures ?_ fun what => Except.ensures_ok.mpr (by simp)
  have hsend : (ctx.send "http" "remove_trusted_url" (.text (task.stored "profile.login" ++ "/" ++ key))).Ensures
      fun out => ∀ e ∈ out, Attends ctx ends task e := send_text_attends
  refine Except.ensures_bind.mpr fun _ _ => Managers.behindResult_ensures (fun what => by simp) ?_
  refine hsend.andThen fun url hurl => Managers.behindResult_ensures (fun what => hurl) ?_
  refine (Managers.writeDisconnect_attends fun session => hends key session hkey).andThen fun out hout => Except.ensures_ok.mpr ?_
  intro e he
  rcases List.mem_append.mp he with he | he
  · exact hurl e he
  · exact hout e he

theorem Managers.request_attends (env : Env) (s : Managers) :
    (Managers.request Codec.api env ctx s task).Ensures fun r => ∀ e ∈ r.2, Attends ctx ends task e := by
  unfold Managers.request
  refine Except.ensures_bind.mpr fun managerKey _ => ?_
  dsimp only
  split
  · refine Except.ensures_bind.mpr fun out hout => Except.ensures_ok.mpr fun e he => ?_
    obtain ⟨ws, hws, rfl⟩ := Ctx.writeTo_eq_ok.mp hout
    rw [List.mem_singleton.mp he]
    refine .request hws (fun hsorted => hsorted.set (JsonValue.sorted_string _)) ?_
    rw [Task.metadata_setMetadata, JsonMap.find?_set_self]
  · exact respond_attends

/-- The session of a manager that is deleted. -/
def Managers.Ends (s : Managers) (command : String) (task : Task) (session : String) : Prop :=
  command = "delete" ∧ ∃ key, task.paramString "key" = .ok key ∧ s.managersReg.lookup key = some session

theorem Managers.attends {env : Env} {s : Managers} {command : String} {action : Action α Managers}
    {r : Managers × List (Envelope α)} (hmem : (command, action) ∈ Managers.handlers Codec.api)
    (h : Action.Ran env ctx s action (.task task) r) : ∀ e ∈ r.2, Attends ctx (s.Ends command task) task e := by
  simp only [Managers.handlers, List.mem_cons, Prod.mk.injEq, List.not_mem_nil, or_false] at hmem
  rcases hmem with ⟨rfl, rfl⟩ | ⟨rfl, rfl⟩ | ⟨rfl, rfl⟩ | ⟨rfl, rfl⟩ | ⟨rfl, rfl⟩ | ⟨rfl, rfl⟩ |
    ⟨rfl, rfl⟩
  · exact Managers.add_attends env s r h.of_task
  · exact Managers.delete_attends (fun key session hkey hsession => ⟨rfl, key, hkey, hsession⟩) r h.of_task
  · exact answer_attends r h.of_task
  · exact answer_attends r h.of_task
  · obtain ⟨key, -, h⟩ := Except.bind_eq_ok.mp h.of_task
    cases h
    exact List.forall_mem_nil _
  · exact Managers.request_attends env s r h.of_task
  · exact absurd h Action.Ran.not_transport

/-- The router answers the task that it is given back, or dispatches it. -/
theorem Router.service_attends (env : Env) (s : Unit) :
    (Router.service Codec.api env ctx s task).Ensures fun r => ∀ e ∈ r.2, Attends ctx ends task e := by
  unfold Router.service
  dsimp only
  refine Except.ensures_ite (fun _ => ?_) fun _ => respond_attends
  exact Except.ensures_bind.mpr fun _ _ => Except.ensures_ite (fun _ => forward_attends rfl rfl)
    fun _ => respond_attends

theorem Profile.auth_attends (env : Env) (s : Profile) :
    (Profile.auth Codec.api env ctx s task).Ensures fun r => ∀ e ∈ r.2, Attends ctx ends task e := by
  unfold Profile.auth
  refine Except.ensures_bind.mpr fun profileKey _ => ?_
  have hforward (s : Profile) (login : String) :
      (do return (s, ← Profile.forward ctx task login) :
        Except Fault (Profile × List (Envelope α))).Ensures fun r => ∀ e ∈ r.2, Attends ctx ends task e :=
    forward_attends rfl rfl
  refine Except.ensures_ite (fun _ => ?_) fun _ => ?_
  · exact Except.ensures_bind.mpr fun _ _ => hforward _ _
  · refine catchStd_ensures ?_ fun what => respond_attends
    refine Except.ensures_bind.mpr fun _ _ => Except.ensures_bind.mpr fun _ _ =>
      Except.ensures_bind.mpr fun _ _ => ?_
    refine Except.ensures_ite (fun _ => ?_) fun _ => respond_attends
    exact Except.ensures_bind.mpr fun _ _ => hforward _ _

theorem Profile.attends {env : Env} {s : Profile} {command : String} {action : Action α Profile}
    {r : Profile × List (Envelope α)} (hmem : (command, action) ∈ Profile.handlers Codec.api)
    (h : Action.Ran env ctx s action (.task task) r) : ∀ e ∈ r.2, Attends ctx ends task e := by
  simp only [Profile.handlers, List.mem_cons, Prod.mk.injEq, List.not_mem_nil, or_false] at hmem
  rcases hmem with ⟨rfl, rfl⟩ | ⟨rfl, rfl⟩ | ⟨rfl, rfl⟩
  · exact answer_attends r h.of_task
  · exact answer_attends r h.of_task
  · exact Profile.auth_attends env s r h.of_task

end Services

/-- A message of the platform that is addressed to these sessions. A frame of the
manager comes from `link`. -/
inductive Addressed (link : String) (ids : Bool → String → Prop) (asks : Prop) : Envelope Actor → Prop
  | frame {ws : WebSocket} :
      (∀ m, Codec.api.parse ws.body = .ok m →
        (m.isRequest → Admits ids ws.id ∨ asks ∧ ws.id = link ∧ m.Keyless) ∧
        (m.isRequest = false → m.Names ids)) →
      Addressed link ids asks (frame ws)
  | task {dest sender : Actor} {command : String} {task : Task} : task.request.metadata.Sorted →
      Admits ids task.transportId → Addressed link ids asks { dest, sender, command, body := .task task }
  | guest {dest sender : Actor} {command : String} {task : Task} : asks → task.transportId = link →
      dest = .profile ∧ command ∈ ["signup", "login"] ∨ dest = .managerInfo →
      Addressed link ids asks { dest, sender, command, body := .task task }
  | response {id : String} {m : JsonMap} : m.Sorted → m.isRequest = false → m.Names ids →
      Addressed link ids asks (relayed id m)
  | write {sender : Actor} {ws : WebSocket} :
      (∀ m, Codec.api.parse ws.body = .ok m →
        (m.isRequest → m.Names fun _ => Admits ids) ∧
          (m.isRequest = false → ids (m.contains "error") ws.id ∨ asks ∧ ws.id = link)) →
      Addressed link ids asks {
        dest := .ws, sender, command := "write", body := .transport (.webSocket ws) }
  | text {dest sender : Actor} {command text : String} :
      Addressed link ids asks { dest, sender, command, body := .text text }
  | error {dest sender : Actor} {error : SocketError} :
      Addressed link ids asks { dest, sender, command := "error", body := .transport (.error error) }
  | socket {sender : Actor} {command : String} {body : Body Actor} : command ≠ "write" →
      Addressed link ids asks { dest := .ws, sender, command, body }

/-- What the websocket server is given to write. -/
theorem Addressed.written {e : Envelope Actor} {ws : WebSocket} (h : Addressed link ids asks e)
    (hdest : e.dest = .ws) (hcommand : e.command = "write") (hbody : e.body = .transport (.webSocket ws)) :
    ∀ m, Codec.api.parse ws.body = .ok m →
      (m.isRequest → m.Names fun _ => Admits ids) ∧
          (m.isRequest = false → ids (m.contains "error") ws.id ∨ asks ∧ ws.id = link) := by
  cases h with
  | write h =>
    cases hbody
    exact h
  | socket hne => exact absurd hcommand hne
  | task => cases hbody
  | guest => cases hbody
  | text => cases hbody
  | error => cases hbody
  | _ => cases hdest

variable {env : Env} {n n' : State} {out : List (Envelope Actor)}

theorem addressed_of_skip {e e' : Envelope Actor}
    (h : e' ∈ (program Codec.api managerKey).skip e) : Addressed link ids asks e' := by
  obtain ⟨-, rfl⟩ := Program.of_mem_skip h
  exact .text

/-- A response of a service, as it is written to the session of its task. -/
theorem addressed_reply {sender : Actor} {session : String} {reply : Reply} {id : JsonValue}
    (h : Admits ids session ∨ asks ∧ session = link) :
    Addressed link ids asks {
      dest := .ws
      sender
      command := "write"
      body := .transport (.webSocket
        { id := session, body := (reply.message id).serialize Codec.api }) } := by
  refine .write fun m hparse => ?_
  obtain ⟨hrequest, -⟩ := @Reply.parse_message ids _ _ _ hparse
  exact ⟨fun h => (Bool.false_ne_true (hrequest.symm.trans h)).elim, fun _ => h.imp_left fun h => h _⟩

section Wired

variable (hn : n.contacts = contacts)
include hn

theorem name_of_lookup {a dest : Actor} {name : String}
    (h : ((program Codec.api managerKey).ctx n a).contacts.lookup name = some dest) :
    dest.name = name := by
  have hlookup : (contacts a).lookup name = some dest := by
    rw [← hn]
    exact h
  have hnamed : ∀ p ∈ contacts a, p.2.name = p.1 := by cases a <;> decide
  exact hnamed _ (Program.mem_of_lookup hlookup)

theorem ws_of_lookup {a dest : Actor}
    (h : ((program Codec.api managerKey).ctx n a).contacts.lookup "ws" = some dest) : dest = .ws := by
  have hname := name_of_lookup hn h
  revert hname
  cases dest <;> decide

/-- What is sent because of a task is addressed to its session. -/
theorem Attends.addressed {a : Actor} {task : Task} {e : Envelope Actor}
    {ends : String → Prop} (h : Attends ((program Codec.api managerKey).ctx n a) ends task e)
    (hsorted : task.request.metadata.Sorted) (hid : Admits ids task.transportId) :
    Addressed link ids asks e := by
  cases h with
  | response reply hws =>
    obtain rfl := ws_of_lookup hn hws
    exact addressed_reply (.inl hid)
  | forward hrequest htransport => exact .task (hrequest ▸ hsorted) (htransport ▸ hid)
  | @request server session msg hws hmsg htransport =>
    obtain rfl := ws_of_lookup hn hws
    refine .write fun m hparse => ?_
    obtain ⟨hrequest, hmetadata⟩ := RequestMessage.parse_serialize hparse
    refine ⟨fun _ => ?_, fun hnot => (Bool.false_ne_true (hnot.symm.trans hrequest)).elim⟩
    split at hmetadata
    · exact JsonMap.names_of_none hmetadata
    · refine JsonMap.names_of_map hmetadata fun id hfind => ?_
      have hfind' := (JsonMap.stringAt_reread (hmsg hsorted)).mp (JsonMap.stringAt_eq_ok.mpr hfind)
      cases htransport.symm.trans (JsonMap.stringAt_eq_ok.mp hfind')
      exact hid
  | @disconnect server session hws =>
    obtain rfl := ws_of_lookup hn hws
    refine .write fun m hparse => ?_
    obtain ⟨hrequest, hmetadata⟩ := RequestMessage.parse_serialize hparse
    refine ⟨fun _ => JsonMap.names_of_none hmetadata, fun hnot => ?_⟩
    exact (Bool.false_ne_true (hnot.symm.trans hrequest)).elim
  | text => exact .text

omit hn in
/-- What comes of a task. -/
theorem attends_of_task {dest sender : Actor} {command : String} {task : Task}
    (hhandle : handle Codec.api managerKey env n { dest, sender, command, body := .task task } =
      .ok (n', out)) :
    (∀ e ∈ out, e ∈ (program Codec.api managerKey).skip { dest, sender, command, body := .task task }) ∨
      ∀ e ∈ out, Attends ((program Codec.api managerKey).ctx n dest)
        (fun session => dest = .managers ∧ n.services.managers.Ends command task session) task e := by
  cases Program.handled_of_eq_ok hhandle with
  | syncContacts => exact .inl (List.forall_mem_nil _)
  | addChannel => exact .inl (List.forall_mem_nil _)
  | skip => exact .inl fun e he => he
  | @attached action services out _ hmem hran =>
    cases dest <;> obtain ⟨inner, hinner, rfl⟩ := mem_liftAll.mp hmem <;>
      obtain ⟨component, hinnerRan, rfl⟩ := hran.of_lift
    case profile => exact .inr (Profile.attends hinner hinnerRan)
    case managers =>
      exact .inr fun e he => (Managers.attends hinner hinnerRan e he).mono fun _ hends => ⟨rfl, hends⟩
    case router =>
      simp only [Router.handlers, List.mem_cons, Prod.mk.injEq, List.not_mem_nil, or_false] at hinner
      rcases hinner with ⟨-, rfl⟩ | ⟨-, rfl⟩ | ⟨-, rfl⟩
      · exact absurd hinnerRan Action.Ran.not_transport
      · exact .inr (Router.service_attends env _ _ hinnerRan.of_task)
      · exact absurd hinnerRan Action.Ran.not_transport
    case managerInfo =>
      obtain ⟨-, rfl⟩ := Prod.mk.inj (List.mem_singleton.mp hinner)
      exact .inr (respond_attends _ hinnerRan.of_task)
    case ws =>
      rcases WsServer.out_of_ran hinner hinnerRan with rfl | ⟨-, ws, hws, -⟩
      · exact .inl (List.forall_mem_nil _)
      · cases hws
    case http =>
      obtain rfl := HttpServer.out_of_ran hinner hinnerRan
      exact .inl (List.forall_mem_nil _)

/-- What comes of a frame at the router. -/
theorem addressed_of_frame {ws : WebSocket}
    (h : ∀ m, Codec.api.parse ws.body = .ok m →
      (m.isRequest → Admits ids ws.id ∨ asks ∧ ws.id = link ∧ m.Keyless) ∧
      (m.isRequest = false → m.Names ids))
    (hhandle : handle Codec.api managerKey env n (frame ws) = .ok (n', out)) :
    ∀ e ∈ out, Addressed link ids asks e := by
  intro e he
  obtain ⟨transport, component, hbody, hrun, -⟩ :=
    Program.transport_of_handle (h := Router.dispatcher Codec.api) (L := Services.unitLens) rfl hhandle
  cases hbody
  rcases Router.dispatcher_cases Codec.api hrun with
    ⟨request, ⟨message, m', hparse, hrequest, hread⟩, hout⟩ | ⟨message, hparse, hrequest, hsend⟩
  · have hwhose := (h message hparse).1 hrequest
    have hcontains : message.contains "id" := by
      rw [JsonMap.isRequest, Bool.and_eq_true] at hrequest
      exact hrequest.2
    have hmetadata := ((JsonMap.parseRequest_eq_ok hcontains).mp hread).2.1
    rcases hout with ⟨reply, hsend⟩ | ⟨name, command, task, hrequest', htransport, hguest, hsend⟩
    · obtain ⟨dest, hws, rfl⟩ := Ctx.writeTo_eq_ok.mp hsend
      obtain rfl := ws_of_lookup hn hws
      rw [List.mem_singleton.mp he]
      exact addressed_reply (hwhose.imp_right fun hguest => ⟨hguest.1, hguest.2.1⟩)
    · obtain ⟨dest, hdest, rfl⟩ := Ctx.send_eq_ok.mp hsend
      rw [List.mem_singleton.mp he]
      have hsorted : task.request.metadata.Sorted := by
        rw [hrequest']
        exact (Codec.api_sorted hparse).readMetadata hmetadata
      rcases hwhose with hid | ⟨hasks, hlink, hkeyless⟩
      · exact .task hsorted (htransport ▸ hid)
      · obtain ⟨hmanager, hprofile⟩ := hkeyless _ hmetadata
        refine .guest hasks (htransport.trans hlink) ?_
        have hname := name_of_lookup hn hdest
        rcases hguest hmanager hprofile with ⟨rfl, hcommand⟩ | ⟨rfl, -⟩
        · refine .inl ⟨?_, hcommand⟩
          revert hname
          cases dest <;> decide
        · refine .inr ?_
          revert hname
          cases dest <;> decide
  · obtain ⟨dest, hmanagers, rfl⟩ := Ctx.send_eq_ok.mp hsend
    have hdest : (contacts .router).lookup "managers" = some dest := by
      rw [← hn]
      exact hmanagers
    obtain rfl : Actor.managers = dest := Option.some.inj hdest
    rw [List.mem_singleton.mp he]
    exact .response (Codec.api_sorted hparse) hrequest ((h message hparse).2 hrequest)

/-- What comes of the task of a guest: its response. -/
theorem addressed_of_guest {dest sender : Actor} {command : String} {task : Task} (hasks : asks)
    (hlink : task.transportId = link)
    (hdest : dest = .profile ∧ command ∈ ["signup", "login"] ∨ dest = .managerInfo)
    (hhandle : handle Codec.api managerKey env n { dest, sender, command, body := .task task } =
      .ok (n', out)) : ∀ e ∈ out, Addressed link ids asks e := by
  intro e he
  have hresponse {a : Actor} {reply : Reply} (hsend :
      ((program Codec.api managerKey).ctx n a).respond Codec.api task reply = .ok out) :
      Addressed link ids asks e := by
    obtain ⟨ws', hws, rfl⟩ := Ctx.writeTo_eq_ok.mp hsend
    obtain rfl := ws_of_lookup hn hws
    rw [List.mem_singleton.mp he]
    exact addressed_reply (.inr ⟨hasks, hlink⟩)
  cases Program.handled_of_eq_ok hhandle with
  | skip => exact addressed_of_skip he
  | syncContacts => cases he
  | addChannel => cases he
  | @attached action services out _ hmem hran =>
    rcases hdest with ⟨rfl, hcommand⟩ | rfl <;> obtain ⟨inner, hinner, rfl⟩ := mem_liftAll.mp hmem <;>
      obtain ⟨component, hinnerRan, rfl⟩ := hran.of_lift
    · simp only [Profile.handlers, List.mem_cons, Prod.mk.injEq, List.not_mem_nil, or_false] at hinner
      rcases hinner with ⟨-, rfl⟩ | ⟨-, rfl⟩ | ⟨rfl, -⟩
      · obtain ⟨_, reply, -, -, hsend⟩ := Ctx.answer_eq_ok.mp hinnerRan.of_task
        exact hresponse hsend
      · obtain ⟨_, reply, -, -, hsend⟩ := Ctx.answer_eq_ok.mp hinnerRan.of_task
        exact hresponse hsend
      · exact absurd hcommand (by decide)
    · obtain ⟨-, rfl⟩ := Prod.mk.inj (List.mem_singleton.mp hinner)
      obtain ⟨out', hsend, heq⟩ := Except.bind_eq_ok.mp hinnerRan.of_task
      cases heq
      exact hresponse hsend

/-- What comes of a frame that the router handed on: it goes to the session it names. -/
theorem addressed_of_response {id : String} {m : JsonMap} (hsorted : m.Sorted)
    (hrequest : m.isRequest = false) (h : m.Names ids)
    (hhandle : handle Codec.api managerKey env n (relayed id m) = .ok (n', out)) :
    ∀ e ∈ out, Addressed link ids asks e := by
  intro e he
  obtain ⟨target, htarget⟩ := target_of_handle hsorted hhandle
  rw [handle_relayed_response hn hsorted htarget] at hhandle
  cases hhandle
  rw [List.mem_singleton.mp he]
  refine .write fun m' hm' => ?_
  obtain rfl := Except.ok.inj ((Codec.api_roundTrip _).symm.trans hm')
  have hnot : (JsonMap.reread (m.reread.erase "metadata")).isRequest = false := by
    rw [JsonMap.isRequest_reread_erase]
    exact hrequest
  refine ⟨fun h => (Bool.false_ne_true (hnot.symm.trans h)).elim, fun _ => .inl ?_⟩
  rw [JsonMap.contains_reread_erase (by decide)]
  exact h target htarget

omit hn in
/-- The websocket server and the http server send nothing. -/
theorem text_of_provider {e : Envelope Actor} (hdest : e.dest = .ws ∨ e.dest = .http)
    (hhandle : handle Codec.api managerKey env n e = .ok (n', out)) :
    ∀ e' ∈ out, ∃ text, e'.body = .text text := by
  obtain ⟨dest, sender, command, body⟩ := e
  intro e' he'
  cases Program.handled_of_eq_ok hhandle with
  | skip =>
    obtain ⟨-, rfl⟩ := Program.of_mem_skip he'
    exact ⟨_, rfl⟩
  | syncContacts => cases he'
  | addChannel => cases he'
  | @attached action services out _ hmem hran =>
    rcases hdest with rfl | rfl <;> obtain ⟨inner, hinner, rfl⟩ := mem_liftAll.mp hmem <;>
      obtain ⟨component, hinnerRan, rfl⟩ := hran.of_lift
    · rcases WsServer.out_of_ran hinner hinnerRan with rfl | ⟨-, ws, -, rfl⟩ <;> cases he'
    · obtain rfl := HttpServer.out_of_ran hinner hinnerRan
      cases he'

omit hn in
/-- Only the providers read texts. -/
theorem text_of_text {dest sender : Actor} {command text : String}
    (hhandle : handle Codec.api managerKey env n { dest, sender, command, body := .text text } =
      .ok (n', out)) : ∀ e ∈ out, ∃ text, e.body = .text text := by
  by_cases hprovider : dest = .ws ∨ dest = .http
  · exact text_of_provider hprovider hhandle
  intro e he
  cases Program.handled_of_eq_ok hhandle with
  | skip =>
    obtain ⟨-, rfl⟩ := Program.of_mem_skip he
    exact ⟨_, rfl⟩
  | syncContacts => cases he
  | addChannel => cases he
  | @attached action services out _ hmem hran =>
    cases dest <;> obtain ⟨inner, hinner, rfl⟩ := mem_liftAll.mp hmem <;>
      obtain ⟨component, hinnerRan, rfl⟩ := hran.of_lift
    case ws => exact absurd (.inl rfl) hprovider
    case http => exact absurd (.inr rfl) hprovider
    all_goals
      cases hinnerRan <;> simp [Router.handlers, Profile.handlers, Managers.handlers,
        ManagerInfo.handlers] at hinner

/-- An error ends a session. -/
theorem ends_of_error {dest sender : Actor} {err : SocketError}
    (hhandle : handle Codec.api managerKey env n
      { dest, sender, command := "error", body := .transport (.error err) } = .ok (n', out)) :
    ∀ e ∈ out, (e.dest = .ws ∧ e.command ≠ "write") ∨ ∃ text, e.body = .text text := by
  intro e he
  cases Program.handled_of_eq_ok hhandle with
  | skip =>
    obtain ⟨-, rfl⟩ := Program.of_mem_skip he
    exact .inr ⟨_, rfl⟩
  | syncContacts => cases he
  | addChannel => cases he
  | @attached action services out _ hmem hran =>
    cases dest <;> obtain ⟨inner, hinner, rfl⟩ := mem_liftAll.mp hmem <;>
      obtain ⟨component, hinnerRan, rfl⟩ := hran.of_lift <;>
      simp [Router.handlers, Profile.handlers, Managers.handlers, ManagerInfo.handlers,
        WsServer.handlers, HttpServer.handlers] at hinner
    case router =>
      subst hinner
      cases hinnerRan with | transport hrun =>
      obtain ⟨out', hout, heq⟩ := Except.bind_eq_ok.mp hrun
      cases heq
      obtain ⟨err', -, hsend⟩ := Except.bind_eq_ok.mp hout
      obtain ⟨dest, hdest, rfl⟩ := Ctx.send_eq_ok.mp hsend
      rw [List.mem_singleton.mp he]
      obtain rfl := ws_of_lookup hn hdest
      refine .inl ⟨rfl, ?_⟩
      dsimp only
      split <;> decide

/-- Everything that comes of an addressed message is addressed. -/
theorem Addressed.leads {e : Envelope Actor} (h : Addressed link ids asks e)
    (hhandle : handle Codec.api managerKey env n e = .ok (n', out)) :
    ∀ e' ∈ out, Addressed link ids asks e' := by
  have htext (h : ∀ e' ∈ out, ∃ text, e'.body = .text text) : ∀ e' ∈ out, Addressed link ids asks e' := by
    rintro ⟨dest, sender, command, body⟩ he'
    obtain ⟨text, rfl⟩ := h _ he'
    exact .text
  cases h with
  | frame h => exact addressed_of_frame hn h hhandle
  | task hsorted hid =>
    intro e' he'
    rcases attends_of_task hhandle with hskip | hattends
    · exact addressed_of_skip (hskip e' he')
    · exact (hattends e' he').addressed hn hsorted hid
  | guest hasks hlink hdest => exact addressed_of_guest hn hasks hlink hdest hhandle
  | response hsorted hrequest h => exact addressed_of_response hn hsorted hrequest h hhandle
  | write => exact htext (text_of_provider (.inl rfl) hhandle)
  | text => exact htext (text_of_text hhandle)
  | error =>
    rintro ⟨dest, sender, command, body⟩ he'
    rcases ends_of_error hn hhandle _ he' with ⟨rfl, hcommand⟩ | ⟨text, rfl⟩
    · exact .socket hcommand
    · exact .text
  | socket => exact htext (text_of_provider (.inl rfl) hhandle)

end Wired

end Platform

end StreamCloud
