-- SUMMARY: The responses of devices reach the clients that asked, under the ids they asked with.
import StreamCloud.System.Forwarded
import StreamCloud.Verification.ControlPaths
import StreamCloud.Verification.Answers

/-!
# Correlation of control responses

Nobody keeps a table of requests. What leads a response to its client is the
session that every message on the way names. The invariant says of each message
in flight that the session it names has asked with the id it carries.
-/

namespace StreamCloud.Fleet

variable {δ : Type}

/-! ## What a message may carry -/

section Sound

variable (S : Setup δ) (A : String → JsonValue → Prop)

/-- A session of a client is due this id: it asked with it, and the codec gives it back. -/
def Due (target : String) (id : JsonValue) : Prop := S.owner target = none → A target id ∧ id.Exact

/-- A response names a session that is due its id. -/
def ResponseDue (message : JsonMap) : Prop :=
  message.isResponse → ∀ target, (message.get "metadata").stringAt "transport" = .ok target →
    Due S A target (message.get "id")

/-- The messages in flight that keep the ids apart. -/
inductive Sound : Packet δ → Prop
  | frame {sender : Manager.Actor} {ws : WebSocket} :
      (∀ request, Codec.api.ReadsRequest ws.body request → Due S A ws.id request.id) →
      (∀ message, Codec.api.parse ws.body = .ok message → ResponseDue S A message) →
      Sound (.manager (Manager.frameFrom sender ws))
  | task {dest sender : Manager.Actor} {command : String} {task : Task} :
      Due S A task.transportId task.request.id →
      Sound (.manager { dest, sender, command, body := .task task })
  | response {session : String} {message : JsonMap} : message.Sorted → ResponseDue S A message →
      Sound (.manager (Manager.relayed "response" session message))
  | notify {session : String} {message : JsonMap} : message.Sorted →
      Sound (.manager (Manager.relayed "notify" session message))
  | emission {session device : String} {message : JsonMap} : message.Sorted → message.isNotify →
      (message.get "metadata").stringAt "device-key" = .ok device →
      Sound (.manager (Manager.emission session message))
  | refused {e e' : Envelope Manager.Actor} :
      e' ∈ (Manager.program Codec.api S.config).skip e → Sound (.manager e')
  | deviceFrame {d : δ} {ws : WebSocket} : (∀ request target, Codec.api.ReadsRequest ws.body request →
      request.metadata.stringAt "transport" = .ok target → Due S A target request.id) →
      Sound (.device d (Device.frame ws))
  | control {d : δ} {command : String} {task : Task} : Due S A task.transportId task.request.id →
      Sound (.device d (Device.controlMessage command task))
  | write {d : δ} {ws : WebSocket} {message : JsonMap} : Codec.api.parse ws.body = .ok message →
      message.contains "metadata" = false → message.isRequest = false →
      (message.isResponse → Due S A ws.id (message.get "id")) →
      Sound (.device d (Device.writeMessage .control ws))
  | handshake {d : δ} {ws : WebSocket} : Sound (.device d {
      dest := .manager, sender := .manager, command := "handshake", body := .transport (.webSocket ws) })
  | close {d : δ} {e : Envelope Device.Actor} {text : String} : e.dest = .client →
      e.body = .text text → Sound (.device d e)
  | deviceRefused {d : δ} {e e' : Envelope Device.Actor} :
      e' ∈ (Device.program Codec.api (S.device d)).skip e → Sound (.device d e')
  | written {ws : WebSocket} : (∀ message, Codec.api.parse ws.body = .ok message → message.isResponse →
      A ws.id (message.get "id") ∧ message.contains "metadata" = false) → Sound (.written ws)

variable {S A}

theorem Due.mono {A' : String → JsonValue → Prop} (hle : ∀ target id, A target id → A' target id)
    {target : String} {id : JsonValue} (h : Due S A target id) : Due S A' target id :=
  fun hclient => (h hclient).imp_left (hle target id)

theorem Sound.mono {A' : String → JsonValue → Prop} (hle : ∀ target id, A target id → A' target id)
    {packet : Packet δ} (h : Sound S A packet) : Sound S A' packet := by
  cases h with
  | frame hrequest hresponse =>
    exact .frame (fun request hreads => (hrequest request hreads).mono hle)
      fun message hparse hr target ht => (hresponse message hparse hr target ht).mono hle
  | task hdue => exact .task (hdue.mono hle)
  | response hsorted hresponse =>
    exact .response hsorted fun hr target ht => (hresponse hr target ht).mono hle
  | notify hsorted => exact .notify hsorted
  | emission hsorted hnotify hdevice => exact .emission hsorted hnotify hdevice
  | refused hskip => exact .refused hskip
  | deviceFrame hrequest =>
    exact .deviceFrame fun request target hreads ht => (hrequest request target hreads ht).mono hle
  | control hdue => exact .control (hdue.mono hle)
  | write hparse hmetadata hrequest hresponse =>
    exact .write hparse hmetadata hrequest fun hr => (hresponse hr).mono hle
  | handshake => exact .handshake
  | close hdest hbody => exact .close hdest hbody
  | deviceRefused hskip => exact .deviceRefused hskip
  | written hwritten =>
    exact .written fun message hparse hr => (hwritten message hparse hr).imp_left (hle _ _)

theorem Sound.plain {packet : Packet δ} (h : Sound S A packet) : packet.Plain := by
  cases h with
  | refused hskip => exact Program.plain_of_mem_skip hskip
  | deviceRefused hskip => exact Program.plain_of_mem_skip hskip
  | close hdest hbody => exact fun _ h => nomatch hbody.symm.trans h
  | written => trivial
  | _ => exact fun _ h => nomatch h

/-- A frame in flight to a device. -/
theorem Sound.of_deviceFrame {packet : Packet δ} (h : Sound S A packet) {d : δ} {ws : WebSocket}
    (heq : packet = .device d (Device.frame ws)) (request : RequestMessage) (target : String)
    (hreads : Codec.api.ReadsRequest ws.body request)
    (htransport : request.metadata.stringAt "transport" = .ok target) : Due S A target request.id := by
  have hcommand {d' : δ} {e : Envelope Device.Actor} (h : Packet.device d' e = .device d (Device.frame ws)) :
      e.command = "dispatcher" ∧ e.dest = .manager ∧ e.body = .transport (.webSocket ws) := by
    obtain ⟨-, rfl⟩ := Packet.device.inj h
    exact ⟨rfl, rfl, rfl⟩
  cases h with
  | deviceFrame hrequest =>
    obtain ⟨-, -, hbody⟩ := hcommand heq
    cases hbody
    exact hrequest request target hreads htransport
  | control => exact nomatch (hcommand heq).2.1
  | write => exact absurd (hcommand heq).1 (by decide : "write" ≠ "dispatcher")
  | handshake => exact absurd (hcommand heq).1 (by decide : "handshake" ≠ "dispatcher")
  | close hdest => exact nomatch hdest.symm.trans (hcommand heq).2.1
  | deviceRefused hskip =>
    have herror := (hcommand heq).1
    rw [(Program.of_mem_skip hskip).2] at herror
    exact absurd herror (by decide : "error" ≠ "dispatcher")
  | _ => cases heq

/-- A frame that is no request is read as none. -/
theorem not_reads_of_parse {text : String} {message : JsonMap} {request : RequestMessage}
    (hparse : Codec.api.parse text = .ok message) (hrequest : message.isRequest = false) :
    ¬ Codec.api.ReadsRequest text request := by
  rintro ⟨message', -, hparse', hrequest', -⟩
  obtain rfl : message = message' := Except.ok.inj (hparse.symm.trans hparse')
  rw [hrequest] at hrequest'
  cases hrequest'

/-- A text for a session: a device takes its requests, a client its responses. -/
theorem sound_deliver {ws : WebSocket}
    (hrequest : ∀ request target, Codec.api.ReadsRequest ws.body request →
      request.metadata.stringAt "transport" = .ok target → Due S A target request.id)
    (hresponse : S.owner ws.id = none → ∀ message, Codec.api.parse ws.body = .ok message →
      message.isResponse → A ws.id (message.get "id") ∧ message.contains "metadata" = false) :
    Sound S A (S.deliver ws) := by
  unfold Setup.deliver
  split
  · exact .deviceFrame hrequest
  · next hclient => exact .written (hresponse hclient)

/-- A response that is written for a task. -/
theorem sound_respond {target : String} {id : JsonValue} (hdue : Due S A target id) (reply : Reply) :
    Sound S A (S.deliver { id := target, body := (reply.message id).serialize Codec.api }) := by
  have hparse : Codec.api.parse ((reply.message id).serialize Codec.api) =
    .ok (reply.message id).toMap.reread := Codec.api_roundTrip _
  refine sound_deliver ?_ fun hclient message hread hresponse => ?_
  · intro request target' hreads
    exact absurd hreads Platform.not_reads_response
  · obtain rfl : (reply.message id).toMap.reread = message := Except.ok.inj (hparse.symm.trans hread)
    obtain ⟨hasked, hexact⟩ := hdue hclient
    constructor
    · have hid : (reply.message id).toMap.reread.get "id" = id :=
        (ResponseMessage.get_reread_id _).trans hexact
      exact hid.symm ▸ hasked
    · rw [JsonMap.contains_reread, JsonMap.contains, ResponseMessage.find?_toMap_metadata_of_nil rfl]
      rfl

end Sound

/-! ## The manager -/

section Manager

variable {S : Setup δ} {A : String → JsonValue → Prop} {env : Env} {n n' : Manager.State}
  {out : List (Envelope Manager.Actor)}

/-- The request that `devices.request` writes names the session of its task. -/
theorem reads_requestDeviceMessage {task : Task} {action target : String} {request : RequestMessage}
    (hreads : Codec.api.ReadsRequest
      ((Manager.Devices.requestDeviceMessage task action).serialize Codec.api) request)
    (htransport : request.metadata.stringAt "transport" = .ok target) :
    target = task.transportId ∧ request.id = task.request.id.reread := by
  obtain rfl := hreads.unique (RequestMessage.reads_serialize _)
  refine ⟨?_, rfl⟩
  have hsorted : JsonMap.Sorted [("transport", JsonValue.string task.transportId)] :=
    JsonMap.sorted_nil.set (JsonValue.sorted_string _)
  have hread : JsonMap.stringAt [("transport", JsonValue.string task.transportId)] "transport" =
    .ok target := (JsonMap.stringAt_reread hsorted).mp htransport
  exact (Except.ok.inj hread).symm

/-- What a handler of tasks sends. -/
theorem sound_task (hn : n.contacts = Manager.contacts) {dest sender : Manager.Actor}
    {command : String} {task : Task} (hdue : Due S A task.transportId task.request.id)
    (h : Manager.handle Codec.api S.config env n { dest, sender, command, body := .task task } =
      .ok (n', out)) : ∀ e ∈ out, Sound S A (S.fromManager e) := by
  have hws (server : Manager.Actor)
      (hserver : ((Manager.program Codec.api S.config).ctx n dest).contacts.lookup "ws" = some server) :
      server = .ws := by
    have hlookup : (Manager.contacts dest).lookup "ws" = some server := by
      rw [← hn]
      exact hserver
    cases dest <;> cases hlookup <;> rfl
  rcases Manager.out_of_task hn rfl h with hskip | hdisposed
  · intro e he
    have hbody (ws : WebSocket) : e.body ≠ .transport (.webSocket ws) := by
      rw [(Program.of_mem_skip (hskip e he)).2]
      exact fun h => nomatch h
    rw [Setup.fromManager_of_body hbody]
    exact .refused (hskip e he)
  · cases hdisposed with
    | alone halone =>
      cases halone with
      | response reply hcontact =>
        obtain rfl := hws _ hcontact
        intro e he
        rw [List.mem_singleton.mp he]
        exact sound_respond hdue reply
      | forward name command' task' hcontact hdest hforwards =>
        intro e he
        rw [List.mem_singleton.mp he, Setup.fromManager_task]
        refine .task ?_
        rw [hforwards.transportId, hforwards.id]
        exact hdue
    | relay session msg hcontact hhands =>
      obtain rfl := hws _ hcontact
      obtain ⟨_, action, -, -, -, rfl⟩ := hhands
      intro e he
      rw [List.mem_singleton.mp he]
      refine sound_deliver (fun request target hreads htransport => ?_) fun _ message hparse hresponse => ?_
      · obtain ⟨rfl, hid⟩ := reads_requestDeviceMessage hreads htransport
        intro hclient
        obtain ⟨hasked, hexact⟩ := hdue hclient
        rw [hid, hexact]
        exact ⟨hasked, hexact⟩
      · have hread : Codec.api.parse
            ((Manager.Devices.requestDeviceMessage task action).serialize Codec.api) =
          .ok (Manager.Devices.requestDeviceMessage task action).toMap.reread := Codec.api_roundTrip _
        rw [hparse] at hread
        obtain rfl := Except.ok.inj hread
        rw [JsonMap.isResponse_reread, JsonMap.isResponse, JsonMap.contains,
          RequestMessage.find?_toMap_method] at hresponse
        cases hresponse

/-- What the router makes of a frame. -/
theorem sound_frame (hn : n.contacts = Manager.contacts) {sender : Manager.Actor} {ws : WebSocket}
    (hrequest : ∀ request, Codec.api.ReadsRequest ws.body request → Due S A ws.id request.id)
    (hresponse : ∀ message, Codec.api.parse ws.body = .ok message → ResponseDue S A message)
    (h : Manager.handle Codec.api S.config env n (Manager.frameFrom sender ws) = .ok (n', out)) :
    ∀ e ∈ out, Sound S A (S.fromManager e) := by
  obtain ⟨_, component, hbody, hrun, -⟩ := Program.transport_of_handle
    (h := Manager.Router.dispatcher Codec.api S.config) (L := Manager.Services.unitLens) rfl h
  cases hbody
  rcases Manager.Router.dispatcher_cases Codec.api hrun with
    ⟨request, hreads, ⟨reply, hout⟩ | ⟨name, command, task, htask, hid, hout⟩⟩ |
    ⟨message, hparse, hnot, hout⟩
  · have hcontact : ((Manager.program Codec.api S.config).ctx n .router).contacts.lookup "ws" = some .ws :=
      Manager.lookup_of_wired hn rfl
    obtain ⟨dest, hdest, rfl⟩ := Ctx.writeTo_eq_ok.mp hout
    obtain rfl : Manager.Actor.ws = dest := Option.some.inj (hcontact.symm.trans hdest)
    intro e he
    rw [List.mem_singleton.mp he]
    exact sound_respond (hrequest request hreads) reply
  · obtain ⟨dest, -, rfl⟩ := Ctx.send_eq_ok.mp hout
    intro e he
    rw [List.mem_singleton.mp he, Setup.fromManager_task]
    refine .task ?_
    rw [hid, htask]
    exact hrequest request hreads
  · have hsorted := Codec.api_sorted hparse
    have hhandle : Manager.handle Codec.api S.config env n (Manager.frameFrom sender ws) = _ :=
      Manager.handle_handedOn hn hparse hnot
    rw [h] at hhandle
    obtain ⟨-, rfl⟩ := Prod.mk.inj (Except.ok.inj hhandle)
    intro e he
    rw [List.mem_singleton.mp he, Setup.fromManager_of_dest (by decide : Manager.Actor.devices ≠ .ws)]
    split
    · exact .response hsorted (hresponse message hparse)
    · exact .notify hsorted

/-- What the devices service makes of a response. -/
theorem sound_response (hn : n.contacts = Manager.contacts) {session : String} {message : JsonMap}
    (hsorted : message.Sorted) (hresponse : ResponseDue S A message)
    (h : Manager.handle Codec.api S.config env n (Manager.relayed "response" session message) =
      .ok (n', out)) : ∀ e ∈ out, Sound S A (S.fromManager e) := by
  by_cases hempty : out = []
  · subst hempty
    exact fun _ he => nomatch he
  obtain ⟨hisResponse, target, device, htarget, hdevice, hregistered⟩ :=
    Manager.of_handle_relayed_response hsorted h hempty
  have hhandle : Manager.handle Codec.api S.config env n (Manager.relayed "response" session message) = _ :=
    Manager.handle_relayed_response hn hsorted hisResponse htarget hdevice hregistered
  rw [h] at hhandle
  obtain ⟨-, rfl⟩ := Prod.mk.inj (Except.ok.inj hhandle)
  let text : JsonMap := message.reread.erase "metadata"
  have hcontains (key : String) (hkey : key ≠ "metadata") : text.contains key = message.contains key := by
    rw [JsonMap.contains, JsonMap.find?_erase_of_ne hkey, ← JsonMap.contains, JsonMap.contains_reread]
  have hparse : Codec.api.parse (Codec.api.print text) = .ok text.reread := Codec.api_roundTrip text
  intro e he
  rw [List.mem_singleton.mp he]
  show Sound S A (S.deliver { id := target, body := Codec.api.print text })
  refine sound_deliver (fun request _ hreads => ?_) fun hclient message' hread _ => ?_
  · refine absurd hreads (not_reads_of_parse hparse ?_)
    rw [JsonMap.isResponse, Bool.and_eq_true, Bool.not_eq_true'] at hisResponse
    rw [JsonMap.isRequest_reread, JsonMap.isRequest, hcontains _ (by decide), hisResponse.1,
      Bool.false_and]
  · obtain rfl : text.reread = message' := Except.ok.inj (hparse.symm.trans hread)
    obtain ⟨hasked, hexact⟩ := hresponse hisResponse target htarget hclient
    have hid : text.reread.get "id" = message.get "id" := by
      have hget : text.get "id" = message.reread.get "id" := by
        rw [JsonMap.get, JsonMap.find?_erase_of_ne (by decide), JsonMap.get]
      rw [JsonMap.get_reread ((JsonMap.sorted_reread message).erase _), hget,
        JsonMap.get_reread hsorted, hexact, hexact]
    rw [hid, JsonMap.contains_reread, JsonMap.contains, JsonMap.find?_erase_self]
    exact ⟨hasked, rfl⟩

/-- What the devices service makes of a notification. -/
theorem sound_notify (hn : n.contacts = Manager.contacts) {session : String} {message : JsonMap}
    (hsorted : message.Sorted)
    (h : Manager.handle Codec.api S.config env n (Manager.relayed "notify" session message) =
      .ok (n', out)) : ∀ e ∈ out, Sound S A (S.fromManager e) := by
  by_cases hempty : out = []
  · subst hempty
    exact fun _ he => nomatch he
  obtain ⟨hnotify, device, hdevice, hregistered⟩ := Manager.of_handle_relayed_notify hsorted h hempty
  have hhandle : Manager.handle Codec.api S.config env n (Manager.relayed "notify" session message) = _ :=
    Manager.handle_relayed_notify hn hsorted hnotify hdevice hregistered
  rw [h] at hhandle
  obtain ⟨-, rfl⟩ := Prod.mk.inj (Except.ok.inj hhandle)
  intro e he
  rw [List.mem_singleton.mp he,
    Setup.fromManager_of_dest (by decide : Manager.Actor.subscriptions ≠ .ws)]
  exact .emission (JsonMap.sorted_reread message) ((JsonMap.isNotify_reread message).trans hnotify)
    ((Manager.metadata_reread hsorted).mpr hdevice)

/-- What the subscriptions service makes of a notification. -/
theorem sound_emission (hn : n.contacts = Manager.contacts) {session device : String}
    {message : JsonMap} (hsorted : message.Sorted) (hnotify : message.isNotify)
    (hdevice : (message.get "metadata").stringAt "device-key" = .ok device)
    (h : Manager.handle Codec.api S.config env n (Manager.emission session message) = .ok (n', out)) :
    ∀ e ∈ out, Sound S A (S.fromManager e) := by
  obtain ⟨metadata, hmetadata, hkey⟩ := JsonValue.stringAt_eq_ok.mp hdevice
  have hhandle : Manager.handle Codec.api S.config env n (Manager.emission session message) = _ :=
    Manager.handle_emission hn hsorted hmetadata (JsonMap.stringAt_eq_ok.mpr hkey)
  rw [h] at hhandle
  obtain ⟨-, rfl⟩ := Prod.mk.inj (Except.ok.inj hhandle)
  intro e he
  obtain ⟨subscribe, -, rfl⟩ := List.mem_map.mp he
  let text : JsonMap :=
    message.reread.set "metadata" (.map (metadata.reread.set "transport" (.string subscribe)))
  have hparse : Codec.api.parse (Codec.api.print text) = .ok text.reread := Codec.api_roundTrip text
  have hid : text.reread.contains "id" = false := by
    rw [JsonMap.contains_reread, JsonMap.contains, JsonMap.find?_set_of_ne (by decide),
      ← JsonMap.contains, JsonMap.contains_reread]
    simpa [JsonMap.isNotify] using hnotify
  show Sound S A (S.deliver { id := subscribe, body := Codec.api.print text })
  refine sound_deliver (fun request _ hreads => ?_) fun _ message' hread hresponse => ?_
  · exact absurd hreads (not_reads_of_parse hparse (by rw [JsonMap.isRequest, hid, Bool.and_false]))
  · obtain rfl : text.reread = message' := Except.ok.inj (hparse.symm.trans hread)
    rw [JsonMap.isResponse, hid, Bool.and_false] at hresponse
    cases hresponse

end Manager

/-! ## A device -/

section Device

variable {S : Setup δ} {A : String → JsonValue → Prop} {env : Env} {d : δ} {n n' : Device.State}
  {out : List (Envelope Device.Actor)}

/-- What the dispatcher of a device makes of a frame. -/
theorem sound_deviceFrame (hn : n.contacts = Device.contacts) {ws : WebSocket}
    (hrequest : ∀ request target, Codec.api.ReadsRequest ws.body request →
      request.metadata.stringAt "transport" = .ok target → Due S A target request.id)
    (h : Device.handle Codec.api (S.device d) env n (Device.frame ws) = .ok (n', out)) :
    ∀ e ∈ out, Sound S A (S.fromDevice d e) := by
  rcases Device.out_of_frame hn h with ⟨request, id, command, hreads, htransport, rfl⟩ | hclose
  · intro e he
    rw [List.mem_singleton.mp he, Setup.fromDevice_of_dest (by decide : Device.Actor.control ≠ .client)]
    exact .control (hrequest request id hreads htransport)
  · intro e he
    obtain ⟨hdest, -, text, hbody⟩ := hclose e he
    rw [Setup.fromDevice_of_body (by rw [hbody]; exact fun _ h => nomatch h)]
    exact .close hdest hbody

/-- What the control service of a device sends. -/
theorem sound_control (hn : n.contacts = Device.contacts) {command : String} {task : Task}
    (hdue : Due S A task.transportId task.request.id)
    (h : Device.handle Codec.api (S.device d) env n (Device.controlMessage command task) =
      .ok (n', out)) : ∀ e ∈ out, Sound S A (S.fromDevice d e) := by
  by_cases hcommand : command ∈ Device.controlMethods
  · obtain ⟨n₁, result, rest, -, hhandle, hrest⟩ : ∃ n₁ result rest, n₁.contacts = Device.contacts ∧
        Device.handle Codec.api (S.device d) env n (Device.controlMessage command task) =
          .ok (n₁, Device.responseMessage Codec.api task result :: rest) ∧
        ∀ e ∈ rest, ∃ status, e = Device.notifyMessage Codec.api task status :=
      Device.handle_control hn hcommand
    rw [h] at hhandle
    obtain ⟨-, rfl⟩ := Prod.mk.inj (Except.ok.inj hhandle)
    intro e he
    rcases List.mem_cons.mp he with rfl | he
    · rw [Setup.fromDevice_of_dest (by intro h; cases h)]
      refine .write (Codec.api_roundTrip _) ?_ ?_ fun _ hclient => ?_
      · rw [JsonMap.contains_reread, JsonMap.contains, ResponseMessage.find?_toMap_metadata_of_nil rfl]
        rfl
      · rw [JsonMap.isRequest_reread, JsonMap.isRequest, JsonMap.contains,
          ResponseMessage.find?_toMap_method]
        rfl
      · obtain ⟨hasked, hexact⟩ := hdue hclient
        have hid : ((Reply.ok result).message task.request.id).toMap.reread.get "id" = task.request.id :=
          (ResponseMessage.get_reread_id _).trans hexact
        rw [hid]
        exact ⟨hasked, hexact⟩
    · obtain ⟨status, rfl⟩ := hrest e he
      rw [Setup.fromDevice_of_dest (by intro h; cases h)]
      have hid : (Device.Control.statusNotify status).toMap.reread.contains "id" = false := by
        rw [JsonMap.contains_reread]
        rfl
      refine .write (Codec.api_roundTrip _) ?_ ?_ fun hresponse => ?_
      · rw [JsonMap.contains_reread]
        rfl
      · rw [JsonMap.isRequest, hid, Bool.and_false]
      · rw [JsonMap.isResponse, hid, Bool.and_false] at hresponse
        cases hresponse
  · intro e he
    have hskip := Device.out_of_control hcommand h e he
    have hbody (ws : WebSocket) : e.body ≠ .transport (.webSocket ws) := by
      rw [(Program.of_mem_skip hskip).2]
      intro h
      cases h
    rw [Setup.fromDevice_of_body hbody]
    exact .deviceRefused hskip

/-- A frame of a device for the manager: its requests are its own. -/
theorem sound_fromDevice {body : String}
    (hresponse : ∀ message, Codec.api.parse body = .ok message → ResponseDue S A message) :
    Sound S A (.manager (Manager.frame { id := S.session d, body })) := by
  have hrequest (request : RequestMessage) : Due S A (S.session d) request.id := by
    intro hclient
    rw [S.owner_session] at hclient
    cases hclient
  have hframe : Manager.frame { id := S.session d, body } =
    Manager.frameFrom .router { id := S.session d, body } := rfl
  rw [hframe]
  exact .frame (fun request _ => hrequest request) hresponse

/-- A request of a device is no response. -/
theorem responseDue_of_request {msg : RequestMessage} {message : JsonMap}
    (hparse : Codec.api.parse (msg.serialize Codec.api) = .ok message) : ResponseDue S A message := by
  have hread : Codec.api.parse (msg.serialize Codec.api) = .ok msg.toMap.reread := Codec.api_roundTrip _
  rw [hparse] at hread
  obtain rfl := Except.ok.inj hread
  intro hresponse
  rw [JsonMap.isResponse_reread, JsonMap.isResponse, JsonMap.contains,
    RequestMessage.find?_toMap_method] at hresponse
  cases hresponse

/-- What `write` of a device sends to its manager. -/
theorem sound_write (hn : n.contacts = Device.contacts) {ws : WebSocket} {message : JsonMap}
    (hparse : Codec.api.parse ws.body = .ok message) (hmetadata : message.contains "metadata" = false)
    (hresponse : message.isResponse → Due S A ws.id (message.get "id"))
    (h : Device.handle Codec.api (S.device d) env n (Device.writeMessage .control ws) = .ok (n', out)) :
    ∀ e ∈ out, Sound S A (S.fromDevice d e) := by
  have hread : message.readMetadata = .ok [] := by
    rw [JsonMap.readMetadata, hmetadata]
    rfl
  have hhandle : Device.handle Codec.api (S.device d) env n (Device.writeMessage .control ws) = _ :=
    Device.handle_write hn hparse hread
  rw [h] at hhandle
  obtain ⟨-, rfl⟩ := Prod.mk.inj (Except.ok.inj hhandle)
  let text : JsonMap := Device.Manager.stamped (S.device d) message [] ws.id
  have hsorted : text.Sorted := sorted_stamped (Codec.api_sorted hparse) JsonMap.sorted_nil
  intro e he
  rw [List.mem_singleton.mp he, Setup.fromDevice_socket]
  refine sound_fromDevice fun message' hread' hisResponse target htarget => ?_
  obtain rfl : text.reread = message' := Except.ok.inj ((Codec.api_roundTrip text).symm.trans hread')
  have htransport : (text.get "metadata").stringAt "transport" = .ok ws.id :=
    stringAt_stamped (Device.Manager.find?_stamp_transport _)
  obtain rfl : ws.id = target :=
    Except.ok.inj (htransport.symm.trans ((Manager.metadata_reread hsorted).mp htarget))
  have hmessage : message.isResponse := by
    rw [JsonMap.isResponse_reread, JsonMap.isResponse, contains_stamped (by decide),
      contains_stamped (by decide)] at hisResponse
    exact hisResponse
  intro hclient
  obtain ⟨hasked, hexact⟩ := hresponse hmessage hclient
  have hid : text.get "id" = message.get "id" := by
    rw [JsonMap.get, Device.Manager.find?_stamped_of_ne _ (by decide), JsonMap.get]
  rw [JsonMap.get_reread hsorted, hid, hexact]
  exact ⟨hasked, hexact⟩

end Device

/-! ## One handling -/

/-- Handling keeps what is in flight sound. -/
theorem Sound.closed [DecidableEq δ] {S : Setup δ} {A : String → JsonValue → Prop} {env : Env}
    {s s' : State δ} {packet : Packet δ} {out : List (Packet δ)} (hs : Setup.Wired s)
    (hp : Sound S A packet) (h : S.handle env s packet = .ok (s', out)) :
    Setup.Wired s' ∧ ∀ e ∈ out, Sound S A e := by
  refine ⟨(Setup.handle_plain hs hp.plain h).1, ?_⟩
  cases Setup.handled_of_eq_ok h with
  | @manager e n sent hhandle =>
    intro packet hpacket
    obtain ⟨e', he', rfl⟩ := List.mem_map.mp hpacket
    cases hp with
    | frame hrequest hresponse => exact sound_frame hs.manager hrequest hresponse hhandle e' he'
    | task hdue => exact sound_task hs.manager hdue hhandle e' he'
    | response hsorted hresponse => exact sound_response hs.manager hsorted hresponse hhandle e' he'
    | notify hsorted => exact sound_notify hs.manager hsorted hhandle e' he'
    | emission hsorted hnotify hdevice =>
      exact sound_emission hs.manager hsorted hnotify hdevice hhandle e' he'
    | refused hskip => exact absurd hhandle (Manager.not_handled_of_mem_skip hskip _)
  | @device d e n sent hhandle =>
    intro packet hpacket
    obtain ⟨e', he', rfl⟩ := List.mem_map.mp hpacket
    cases hp with
    | deviceFrame hrequest => exact sound_deviceFrame (hs.devices d) hrequest hhandle e' he'
    | control hdue => exact sound_control (hs.devices d) hdue hhandle e' he'
    | write hparse hmetadata _ hresponse =>
      exact sound_write (hs.devices d) hparse hmetadata hresponse hhandle e' he'
    | handshake =>
      obtain rfl := Device.out_of_handshake (hs.devices d) hhandle
      rw [List.mem_singleton.mp he', Setup.fromDevice_socket]
      exact sound_fromDevice fun message hparse => responseDue_of_request hparse
    | @close _ _ text hdest hbody =>
      obtain ⟨dest, sender, command, body⟩ := e
      obtain rfl : dest = .client := hdest
      obtain rfl : body = .text text := hbody
      cases Program.handled_of_eq_ok hhandle with
      | syncContacts _ haddress => cases haddress
      | addChannel _ hchannel => cases hchannel
      | skip =>
        have hbody (ws : WebSocket) : e'.body ≠ .transport (.webSocket ws) := by
          rw [(Program.of_mem_skip he').2]
          exact fun h => nomatch h
        rw [Setup.fromDevice_of_body hbody]
        exact .deviceRefused he'
      | attached _ hmem hran =>
        obtain ⟨inner, hinner, rfl⟩ := mem_liftAll.mp hmem
        obtain ⟨component, hinnerRan, -⟩ := hran.of_lift
        obtain rfl := WsClient.out_of_ran hinner hinnerRan
        cases he'
    | deviceRefused hskip => exact absurd hhandle (Device.not_handled_of_mem_skip hskip _)

/-! ## Runs -/

section Runs

variable [DecidableEq δ]

/-- Between two configurations of a run, a session sent a control request with this id. -/
def Asked (S : Setup δ) (c c' : Work.Config (State δ) (Packet δ)) (target : String) (id : JsonValue) :
    Prop :=
  ∃ ws request, Work.Arrived S.handle S.Arrives (fun _ _ _ => True) c c' (.manager (Manager.frame ws)) ∧
    ws.id = target ∧ Codec.api.ReadsRequest ws.body request ∧ request.method = "devices.control" ∧
    request.id = id

/-- A run of the manager and its devices. -/
abbrev Run (S : Setup δ) := Work.Run S.handle S.Arrives fun _ _ _ => True

variable {S : Setup δ} {s₀ : State δ}

theorem Asked.trans {c c₁ c₂ : Work.Config (State δ) (Packet δ)} (hrun : Run S c₁ c₂) {target : String}
    {id : JsonValue} (h : Asked S c c₁ target id) : Asked S c c₂ target id := by
  obtain ⟨ws, request, harrived, hrest⟩ := h
  exact ⟨ws, request, harrived.trans hrun, hrest⟩

/-- In every run, what is in flight is sound. -/
theorem sound_of_run (h₀ : Setup.Wired s₀) {c : Work.Config (State δ) (Packet δ)}
    (hrun : Run S ⟨s₀, []⟩ c) :
    Setup.Wired c.state ∧ ∀ packet ∈ c.pending, Sound S (Asked S ⟨s₀, []⟩ c) packet := by
  refine Work.Run.traced Setup.Wired (fun c packet => Sound S (Asked S ⟨s₀, []⟩ c) packet)
    (fun _ _ _ hrun hp => hp.mono fun _ _ => Asked.trans hrun) h₀ (by simp) ?_ ?_ hrun
  · intro s pending packet hprefix hin
    cases hin with
    | @control ws request hclient hreads hmethod hexact =>
      have harrived : Work.Arrived S.handle S.Arrives (fun _ _ _ => True) ⟨s₀, []⟩
          ⟨s, pending ++ [.manager (Manager.frame ws)]⟩ (.manager (Manager.frame ws)) :=
        ⟨s, pending, hprefix, .control hclient hreads hmethod hexact, .refl _⟩
      have hframe : Manager.frame ws = Manager.frameFrom .router ws := rfl
      rw [hframe]
      refine .frame (fun request' hreads' _ => ?_) fun message hparse hresponse => ?_
      · obtain rfl := hreads.unique hreads'
        exact ⟨⟨ws, request, harrived, rfl, hreads, hmethod, rfl⟩, hexact⟩
      · obtain ⟨message', -, hparse', hrequest, -⟩ := hreads
        obtain rfl : message = message' := Except.ok.inj (hparse.symm.trans hparse')
        rw [JsonMap.isResponse, Bool.and_eq_true, Bool.not_eq_true'] at hresponse
        rw [JsonMap.isRequest, hresponse.1] at hrequest
        cases hrequest
    | handshake d ws => exact .handshake
    | closing d => exact sound_fromDevice fun message hparse => responseDue_of_request hparse
  · intro _ s s' p q out packet hprefix hs hp _ hhandle
    obtain ⟨hs', hout⟩ := hp.closed hs hhandle
    exact ⟨hs', fun packet' hmem => (hout packet' hmem).mono fun _ _ =>
      Asked.trans (.handle (.refl _) trivial hhandle)⟩

/-- A request for the control service, in flight to the device. -/
def Forwarded (d : δ) (target : String) (request : RequestMessage) (packet : Packet δ) : Prop :=
  ∃ ws, packet = .device d (Device.frame ws) ∧ Codec.api.ReadsRequest ws.body request ∧
    request.method ∈ controlActions ∧ request.metadata.stringAt "transport" = .ok target

/-- What `devices.request` sends for a device of the setup. -/
theorem forwarded_deviceRequest {env : Env} {s : State δ} (hs : Setup.Wired s)
    {sender : Manager.Actor} {task : Task} {device action : String} {d : δ}
    (hdevice : task.metadataString "device-key" = .ok device)
    (hsession : s.manager.services.devices.devicesReg.lookup device = some (S.session d))
    (haction : task.paramString "action" = .ok action) (hcontrol : action ∈ controlActions) :
    ∃ request packet, S.handle env s (.manager (Manager.deviceRequest sender task)) = .ok (s, [packet]) ∧
      request.method = action ∧ Forwarded d task.transportId request packet := by
  have hhandle : Manager.handle Codec.api S.config env s.manager (Manager.deviceRequest sender task) = _ :=
    Manager.handle_deviceRequest hs.manager hdevice hsession haction
  have hsorted : JsonMap.Sorted [("transport", JsonValue.string task.transportId)] :=
    JsonMap.sorted_nil.set (JsonValue.sorted_string _)
  have htransport : (Manager.Devices.requestDeviceMessage task action).reread.metadata.stringAt
      "transport" = .ok task.transportId := (JsonMap.stringAt_reread hsorted).mpr rfl
  have hreads := RequestMessage.reads_serialize (Manager.Devices.requestDeviceMessage task action)
  generalize (Manager.Devices.requestDeviceMessage task action).serialize Codec.api = text
    at hhandle hreads
  refine ⟨_, .device d (Device.frame { id := S.link d, body := text }), ?_, rfl,
    { id := S.link d, body := text }, rfl, hreads, hcontrol, htransport⟩
  rw [Setup.handle_manager hhandle, List.map_singleton, Setup.fromManager_session,
    Setup.deliver_of_owner (S.owner_session d)]

/-- The family of a forwarded request is regular. -/
theorem Forwarded.regular (h₀ : Setup.Wired s₀) {s : State δ} {p q : List (Packet δ)}
    {packet : Packet δ} (hrun : Run S ⟨s₀, []⟩ ⟨s, p ++ packet :: q⟩) {d : δ} {target : String}
    {request : RequestMessage} (h : Forwarded d target request packet) (hclient : S.owner target = none) :
    request.id.Exact ∧ Regular S d target request.id ⟨s, p ++ q, [packet]⟩ := by
  obtain ⟨hs, hsound⟩ := sound_of_run h₀ hrun
  obtain ⟨ws, rfl, hreads, haction, htransport⟩ := h
  have hmem : Packet.device d (Device.frame ws) ∈ p ++ .device d (Device.frame ws) :: q := by simp
  have hexact : request.id.Exact :=
    ((hsound _ hmem).of_deviceFrame rfl request target hreads htransport hclient).2
  refine ⟨hexact, hs, fun packet hmem => (hsound packet ?_).plain, fun packet hmem => ?_⟩
  · rcases List.mem_append.mp hmem with hmem | hmem <;> simp [hmem]
  · rw [List.mem_singleton.mp hmem]
    exact ⟨8, .request hreads haction htransport rfl⟩

/-- Every response that a client gets carries the id of a control request that
its session has sent, and no metadata. What comes of a forwarded control request
of a client is handled in finitely many steps, and contains one response for that
client at most, and exactly one as long as the device stays registered. -/
theorem control_responses_correlate (S : Setup δ) (s₀ : State δ) (h₀ : Setup.Wired s₀) :
    (∀ c ws message, Run S ⟨s₀, []⟩ c → .written ws ∈ c.pending →
      Codec.api.parse ws.body = .ok message → message.isResponse →
      Asked S ⟨s₀, []⟩ c ws.id (message.get "id") ∧ message.contains "metadata" = false) ∧
    ∀ s p q packet d target request, Run S ⟨s₀, []⟩ ⟨s, p ++ packet :: q⟩ →
      Forwarded d target request packet → S.owner target = none →
      (∀ c, Work.Follow S.handle S.Arrives (fun _ _ _ => True) (fun _ _ _ => True)
          ⟨s, p ++ q, [packet]⟩ c →
        c.family.countP Packet.isAnswer ≤ 1 ∧ ∀ e ∈ c.family, e.isAnswer →
          ∃ ws message, e = .written ws ∧ Delivered target request.id ws message) ∧
      Work.Dies S.handle S.Arrives (fun _ _ _ => True) (fun _ _ _ => True) ⟨s, p ++ q, [packet]⟩ ∧
      ∀ c, Work.Follow S.handle S.Arrives (fun _ _ _ => True) (fun _ s _ => S.Registered d s)
          ⟨s, p ++ q, [packet]⟩ c →
        (∀ e ∈ c.family, (∃ ws, e = .written ws) ∨ ∀ env, ∃ r, S.handle env c.state e = .ok r) ∧
        ((∀ e ∈ c.family, ∃ ws, e = .written ws) → c.family.countP Packet.isAnswer = 1) := by
  refine ⟨fun c ws message hrun hmem hparse hresponse => ?_,
    fun s p q packet d target request hrun hforwarded hclient => ?_⟩
  · obtain ⟨-, hsound⟩ := sound_of_run h₀ hrun
    cases hsound _ hmem with
    | written hwritten => exact hwritten message hparse hresponse
  obtain ⟨hexact, hregular⟩ := hforwarded.regular h₀ hrun hclient
  have hone : ([packet].map Packet.count).sum = 1 := by
    obtain ⟨ws, rfl, hreads, -⟩ := hforwarded
    rw [List.map_singleton, List.sum_singleton]
    exact textCount_of_reads hreads
  refine ⟨fun c hfollow => ⟨?_, fun e he hanswer => ?_⟩, hregular.dies hclient hexact,
    fun c hfollow => ⟨fun e he => ?_, fun hwritten => ?_⟩⟩
  · calc c.family.countP Packet.isAnswer
        ≤ (c.family.map Packet.count).sum := countP_le_count c.family
      _ ≤ ([packet].map Packet.count).sum := hregular.count_le hclient hexact hfollow
      _ = 1 := hone
  · obtain ⟨k, hk⟩ := (hregular.follow hclient hexact hfollow).descends e he
    exact hk.delivered_of_isAnswer hanswer
  · have hregular' := hregular.follow hclient hexact hfollow
    obtain ⟨k, hk⟩ := hregular'.descends e he
    refine or_iff_not_imp_left.mpr fun hnot env => ?_
    obtain ⟨s', out, hhandle, -⟩ := (hk.goes hregular'.wired hclient hexact).resolve_left hnot
    exact ⟨_, hhandle⟩
  · have hdescends := (hregular.follow hclient hexact hfollow).descends
    calc c.family.countP Packet.isAnswer
        = (c.family.map Packet.count).sum := countP_eq_count fun e he =>
          have ⟨k, hk⟩ := hdescends e he
          have ⟨ws, hws⟩ := hwritten e he
          ⟨k, ws, hws, hk⟩
      _ = ([packet].map Packet.count).sum :=
          hregular.count_eq hclient hexact (fun _ _ _ hg => hg) hfollow
      _ = 1 := hone

end Runs

/-! ### A client and a lamp -/

/-- One device, with session `t`. -/
def lampSetup : Setup Unit where
  config := ⟨"p.q", "m"⟩
  device := fun _ => ⟨"d", "m", "p.q"⟩
  session := fun _ => "t"
  link := fun _ => "l"
  owner := fun id => if id = "t" then some () else none
  owner_eq_some := by
    intro id d
    by_cases h : id = "t"
    · simp [h]
    · simp [h, eq_comm]

/-- The device is registered, and belongs to a group. -/
def lampState : State Unit where
  manager := {
    services := { Manager.blank.services with
      connections := { rows := [{ groupKey := .bind "g", deviceKey := .bind "d" }] }
      devices := { Manager.blank.services.devices with
        devicesReg := (∅ : StringMap String).insert "d" "t" } }
    contacts := Manager.contacts }
  devices := fun _ => Device.blank

theorem lampState_wired : Setup.Wired lampState := ⟨rfl, fun _ => rfl⟩

/-- The administrator turns the lamp on. -/
def turnOn : RequestMessage where
  id := .string "7"
  method := "devices.control"
  params := .map [("action", .string "control.on")]
  metadata := [("device-key", .string "d"), ("user-key", .string "p.q")]

def turnOnFrame : WebSocket where
  id := "c"
  body := turnOn.serialize Codec.api

theorem turnOn_reads : Codec.api.ReadsRequest turnOnFrame.body turnOn := by
  have hparams : JsonMap.Exact [("action", .string "control.on")] :=
    JsonMap.exact_nil.set (JsonValue.exact_string _)
  have huser : JsonMap.Exact [("user-key", .string "p.q")] :=
    JsonMap.exact_nil.set (JsonValue.exact_string _)
  have hmetadata : JsonMap.Exact
      (JsonMap.set [("user-key", .string "p.q")] "device-key" (.string "d")) :=
    huser.set (JsonValue.exact_string _)
  have hexact : turnOn.Exact := RequestMessage.exact_iff.mpr
    ⟨JsonValue.exact_string "7", JsonValue.exact_map.mpr hparams, hmetadata⟩
  exact hexact.reads_serialize

/-- A message of the manager is handled, and another one takes its place. -/
theorem Run.manager [DecidableEq δ] {S : Setup δ} {c : Work.Config (State δ) (Packet δ)} {s : State δ}
    {e : Envelope Manager.Actor} (hrun : Run S c ⟨s, [.manager e]⟩) (e' : Envelope Manager.Actor)
    (h : Manager.handle Codec.api S.config .calm s.manager e = .ok (s.manager, [e']))
    (hdest : e'.dest ≠ .ws) : Run S c ⟨s, [.manager e']⟩ := by
  have hnext := hrun.handle_single .calm trivial (Setup.handle_manager h)
  rwa [List.map_singleton, Setup.fromManager_of_dest hdest] at hnext

/-- The request of the administrator comes to the device. -/
theorem turnOn_run : ∃ request packet, Run lampSetup ⟨lampState, []⟩ ⟨lampState, [packet]⟩ ∧
    Forwarded () "c" request packet := by
  let task : Task := Manager.adminTask lampSetup.config turnOn "c" "devices" "control"
  let groupsTask : Task := task.setMetadata "device-groups" (.array [.string "g"])
  let deviceTask : Task := groupsTask.eraseMetadata "device-groups"
  have hframe : Manager.handle Codec.api lampSetup.config .calm lampState.manager
      (Manager.frame turnOnFrame) = .ok (lampState.manager, [{
        dest := .users
        sender := .router
        command := "auth"
        body := .task (Manager.Router.task lampSetup.config turnOn "c" "devices" "control") }]) := by
    have hsplit : split turnOn.method = ["devices", "control"] := by decide
    have husers : ((Manager.program Codec.api lampSetup.config).ctx lampState.manager
        .router).contacts.lookup "users" = some .users := Manager.lookup_of_wired rfl rfl
    rw [Manager.handle_frame,
      Manager.Router.dispatcher_of_userKey Codec.api turnOn_reads hsplit rfl husers]
    rfl
  have harrived : Run lampSetup ⟨lampState, []⟩ ⟨lampState, [.manager (Manager.frame turnOnFrame)]⟩ :=
    (Work.Run.refl _).arrive (.control rfl turnOn_reads rfl (JsonValue.exact_string "7"))
  have hauth := harrived.manager _ hframe (by decide)
  have hservice := hauth.manager
    (Manager.adminMessage lampSetup.config turnOn "c" "devices" "control") rfl (by decide)
  have hcontrol := hservice.manager
    { dest := .devices, sender := .router, command := "control", body := .task task } rfl
    (by decide)
  have hdevices := hcontrol.manager
    { dest := .connections, sender := .devices, command := "devices", body := .task task } rfl
    (by decide)
  have hgroups := hdevices.manager
    { dest := .subscriptions, sender := .connections, command := "groups", body := .task groupsTask }
    rfl (by decide)
  have hrequest := hgroups.manager (Manager.deviceRequest .subscriptions deviceTask) rfl (by decide)
  obtain ⟨request, packet, hhandle, -, hforwarded⟩ : ∃ request packet,
      lampSetup.handle .calm lampState (.manager (Manager.deviceRequest .subscriptions deviceTask)) =
        .ok (lampState, [packet]) ∧
      request.method = "control.on" ∧ Forwarded () "c" request packet :=
    forwarded_deviceRequest lampState_wired rfl rfl rfl (by decide)
  exact ⟨request, packet, hrequest.handle_single .calm trivial hhandle, hforwarded⟩

/-- What comes of it is one response for the administrator. -/
theorem control_responses_correlate_lamp :
    ∃ packet, Run lampSetup ⟨lampState, []⟩ ⟨lampState, [packet]⟩ ∧
      ∀ c, Work.Follow lampSetup.handle lampSetup.Arrives (fun _ _ _ => True)
          (fun _ s _ => lampSetup.Registered () s) ⟨lampState, [], [packet]⟩ c →
        (∀ e ∈ c.family, ∃ ws, e = .written ws) →
        c.family.countP Packet.isAnswer = 1 := by
  obtain ⟨request, packet, hrun, hforwarded⟩ := turnOn_run
  have h := (control_responses_correlate lampSetup lampState lampState_wired).2 lampState [] [] packet ()
    "c" request hrun hforwarded rfl
  exact ⟨packet, hrun, fun c hfollow => (h.2.2 c hfollow).2⟩

end StreamCloud.Fleet
