-- SUMMARY: A control request reaches a device that is connected to the manager, and none that is connected to the platform.
import StreamCloud.Manager.Relay
import StreamCloud.Platform.Relay

/-!
# Two ways to a device

What `devices.request` writes for a device leaves over a session of the manager,
or goes through `platform.write` to the platform. There it is a request like any
other: one without a key.
-/

namespace StreamCloud

/-! ## The request of a device -/

namespace Manager

variable {config : Config}

/-- The message in which a control request comes to the devices service. -/
def deviceRequest (sender : Actor) (task : Task) : Envelope Actor where
  dest := .devices
  sender := sender
  command := "request"
  body := .task task

theorem handle_deviceRequest {env : Env} {n : State} (hn : n.contacts = contacts) {sender : Actor}
    {task : Task} {device session action : String}
    (hdevice : task.metadataString "device-key" = .ok device)
    (hsession : n.services.devices.devicesReg.lookup device = some session)
    (haction : task.paramString "action" = .ok action) :
    handle Codec.api config env n (deviceRequest sender task) =
      .ok (n, [sessionMessage .devices {
        id := session
        body := (Devices.requestDeviceMessage task action).serialize Codec.api }]) := by
  have hws : (contacts .devices).lookup "ws" = some .ws := rfl
  refine (Program.handle_task rfl rfl).trans ?_
  show (Devices.request Codec.api env ((program Codec.api config).ctx n .devices)
    n.services.devices task).map _ = _
  simp only [Devices.request, hdevice, Except.ok_bind', hsession, haction, Ctx.writeTo,
    Ctx.send_of_contact (lookup_of_wired hn hws)]
  rfl

/-- A frame with this metadata, on its way from a session of the manager to the platform. -/
inductive Outward (ws ws' : WebSocket) : Envelope Actor → Prop
  | session : Outward ws ws' (sessionMessage .devices ws)
  | pipe : Outward ws ws' (pipeMessage ws)
  | platform : Outward ws ws' (platformMessage ws')

/-- The frame as it leaves for the platform. -/
def relayedTo (ws : WebSocket) (message metadata : JsonMap) : WebSocket where
  id := ws.id
  body := Codec.api.print (message.set "metadata" (.map (routedMetadata message metadata ws.id)))

theorem Outward.closed {env : Env} {n n' : State} (hn : n.contacts = contacts) {ws : WebSocket}
    {message metadata : JsonMap} (hparse : Codec.api.parse ws.body = .ok message)
    (hmetadata : message.readMetadata = .ok metadata) {e : Envelope Actor} {out : List (Envelope Actor)}
    (he : Outward ws (relayedTo ws message metadata) e)
    (h : handle Codec.api config env n e = .ok (n', out)) :
    n'.contacts = contacts ∧ ∀ e' ∈ out, Outward ws (relayedTo ws message metadata) e' := by
  cases he with
  | session =>
    rw [handle_sessionMessage] at h
    obtain ⟨rfl, rfl⟩ := Prod.mk.inj (Except.ok.inj h)
    refine ⟨hn, fun e' he' => ?_⟩
    split at he'
    · cases he'
    · rw [List.mem_singleton.mp he']
      exact .pipe
  | pipe =>
    rw [handle_pipeMessage hn hparse hmetadata] at h
    obtain ⟨rfl, rfl⟩ := Prod.mk.inj (Except.ok.inj h)
    refine ⟨hn, fun e' he' => ?_⟩
    rw [List.mem_singleton.mp he']
    exact .platform
  | platform =>
    obtain ⟨transport, component, -, hrun, rfl⟩ :=
      Program.transport_of_handle (h := WsClient.write) (L := Services.clientLens) rfl h
    obtain ⟨_, -, hrun⟩ := Except.bind_eq_ok.mp hrun
    cases hrun
    exact ⟨hn, fun e' he' => nomatch he'⟩

end Manager

/-! ## What the platform makes of it -/

namespace Platform

variable {managerKey : String}

/-- The handlers that the router gives the tasks of guests to. -/
def guestHandlers : List (Actor × String) :=
  [(.profile, "signup"), (.profile, "login"), (.managerInfo, "info")]

/-- What becomes of a request without a key: a guest's task at most, and then a response. -/
inductive Keyless (ws : WebSocket) : Envelope Actor → Prop
  | frame : Keyless ws (frame ws)
  | guest {dest : Actor} {command : String} {task : Task} : (dest, command) ∈ guestHandlers →
      Keyless ws { dest, sender := .router, command, body := .task task }
  | response {sender : Actor} {id : String} {msg : ResponseMessage} :
      Keyless ws { dest := .ws, sender, command := "write",
                   body := .transport (.webSocket { id, body := msg.serialize Codec.api }) }

/-- A guest's method names the handler of a guest. -/
theorem mem_guestHandlers {method serviceName methodName : String} {rest : List String} {dest : Actor}
    (hquest : method ∈ Router.questMethodList)
    (hsplit : split method = serviceName :: methodName :: rest)
    (hdest : (contacts .router).lookup serviceName = some dest) :
    (dest, methodName) ∈ guestHandlers := by
  have hsignup : split "profile.signup" = ["profile", "signup"] := by decide
  have hlogin : split "profile.login" = ["profile", "login"] := by decide
  have hinfo : split "manager.info" = ["manager", "info"] := by decide
  simp only [Router.questMethodList, List.mem_cons, List.not_mem_nil, or_false] at hquest
  rcases hquest with rfl | rfl | rfl
  · rw [hsignup] at hsplit
    cases hsplit
    cases hdest
    decide
  · rw [hlogin] at hsplit
    cases hsplit
    cases hdest
    decide
  · rw [hinfo] at hsplit
    cases hsplit
    cases hdest
    decide

theorem lookup_eq_of_wired {n : State} (hn : n.contacts = contacts) (a : Actor) (name : String) :
    ((program Codec.api managerKey).ctx n a).contacts.lookup name = (contacts a).lookup name := by
  rw [← hn]
  rfl

/-- A response goes to the websocket server. -/
theorem keyless_of_respond {n : State} (hn : n.contacts = contacts) {ws : WebSocket} {a : Actor}
    {task : Task} {reply : Reply} {out : List (Envelope Actor)}
    (hws : (contacts a).lookup "ws" = some .ws)
    (h : ((program Codec.api managerKey).ctx n a).respond Codec.api task reply = .ok out) :
    ∀ e ∈ out, Keyless ws e := by
  rw [Ctx.respond_of_contact (lookup_of_wired hn hws)] at h
  cases h
  intro e he
  rw [List.mem_singleton.mp he]
  exact .response

/-- The router refuses a request without a key, or gives it to the handler of a guest. -/
theorem keyless_of_frame {env : Env} {n n' : State} (hn : n.contacts = contacts) {ws : WebSocket}
    {request : RequestMessage} {out : List (Envelope Actor)}
    (hreads : Codec.api.ReadsRequest ws.body request)
    (hmanager : request.metadata.contains "manager-key" = false)
    (hprofile : request.metadata.contains "profile-key" = false)
    (h : handle Codec.api managerKey env n (frame ws) = .ok (n', out)) :
    n' = n ∧ ∀ e ∈ out, Keyless ws e := by
  obtain ⟨message, m', hparse, hrequest, hread⟩ := hreads
  obtain ⟨transport, component, hbody, hrun, rfl⟩ :=
    Program.transport_of_handle (h := Router.dispatcher Codec.api) (L := Services.unitLens) rfl h
  cases hbody
  simp only [Router.dispatcher, Transport.asWebSocket_webSocket, Except.ok_bind', hparse,
    if_pos hrequest, Router.request, hread, hmanager, hprofile, Bool.false_eq_true, if_false] at hrun
  obtain ⟨out', hout, heq⟩ := Except.bind_eq_ok.mp hrun
  cases heq
  refine ⟨rfl, ?_⟩
  split at hout
  · next serviceName methodName rest hsplit =>
    split at hout
    · next hquest =>
      obtain ⟨dest, hdest, rfl⟩ := Ctx.send_eq_ok.mp hout
      intro e he
      rw [List.mem_singleton.mp he]
      exact .guest (mem_guestHandlers hquest hsplit ((lookup_eq_of_wired hn _ _).symm.trans hdest))
    · exact keyless_of_respond hn rfl hout
  · exact keyless_of_respond hn rfl hout

theorem Keyless.closed {env : Env} {n n' : State} (hn : n.contacts = contacts) {ws : WebSocket}
    {request : RequestMessage} (hreads : Codec.api.ReadsRequest ws.body request)
    (hmanager : request.metadata.contains "manager-key" = false)
    (hprofile : request.metadata.contains "profile-key" = false) {e : Envelope Actor}
    {out : List (Envelope Actor)} (he : Keyless ws e)
    (h : handle Codec.api managerKey env n e = .ok (n', out)) :
    n'.contacts = contacts ∧ ∀ e' ∈ out, Keyless ws e' := by
  cases he with
  | frame =>
    obtain ⟨rfl, hout⟩ := keyless_of_frame hn hreads hmanager hprofile h
    exact ⟨hn, hout⟩
  | @guest dest command task hguest =>
    simp only [guestHandlers, List.mem_cons, Prod.mk.injEq, List.not_mem_nil, or_false] at hguest
    rcases hguest with ⟨rfl, rfl⟩ | ⟨rfl, rfl⟩ | ⟨rfl, rfl⟩
    · obtain ⟨_, component, -, hrun, rfl⟩ := Program.task_of_handle
        (h := Profile.signup Codec.api) (L := Services.profileLens) rfl h
      obtain ⟨_, _, -, -, hout⟩ := Ctx.answer_eq_ok.mp hrun
      exact ⟨hn, keyless_of_respond hn rfl hout⟩
    · obtain ⟨_, component, -, hrun, rfl⟩ := Program.task_of_handle
        (h := Profile.login Codec.api) (L := Services.profileLens) rfl h
      obtain ⟨_, _, -, -, hout⟩ := Ctx.answer_eq_ok.mp hrun
      exact ⟨hn, keyless_of_respond hn rfl hout⟩
    · obtain ⟨_, component, -, hrun, rfl⟩ := Program.task_of_handle
        (h := ManagerInfo.info Codec.api managerKey) (L := Services.unitLens) rfl h
      obtain ⟨out', hout, heq⟩ := Except.bind_eq_ok.mp hrun
      cases heq
      exact ⟨hn, keyless_of_respond hn rfl hout⟩
  | response =>
    obtain ⟨transport, component, -, hrun, rfl⟩ :=
      Program.transport_of_handle (h := WsServer.write []) (L := Services.unitLens) rfl h
    obtain ⟨_, -, hrun⟩ := Except.bind_eq_ok.mp hrun
    split at hrun
    · cases hrun
      exact ⟨hn, fun e' he' => nomatch he'⟩
    · cases hrun
      exact ⟨hn, fun e' he' => nomatch he'⟩

/-- A response is not read as a request. -/
theorem not_reads_response {msg : ResponseMessage} {request : RequestMessage} :
    ¬ Codec.api.ReadsRequest (msg.serialize Codec.api) request := by
  rintro ⟨message, m', hparse, hrequest, -⟩
  have hreread : Codec.api.parse (msg.serialize Codec.api) = .ok msg.toMap.reread :=
    Codec.api_roundTrip msg.toMap
  rw [hparse] at hreread
  obtain rfl := Except.ok.inj hreread
  rw [JsonMap.isRequest_reread, JsonMap.isRequest, JsonMap.contains,
    ResponseMessage.find?_toMap_method] at hrequest
  cases hrequest

end Platform

/-! ## The two ways -/

section Ways

variable (config : Config) (managerKey : String) (env env' : Env) (n : Manager.State)
  (n' : Platform.State) (link : String)

/-- A text that the session of a frame gets: from the manager, or from the
platform, where `link` is the session of the manager. -/
inductive Reaches (ws : WebSocket) : String → Prop
  | direct : env.sessions ws.id → Reaches ws ws.body
  | relayed {k k' : ℕ} {c : Work.Config Manager.State (Envelope Manager.Actor)}
      {c' : Work.Config Platform.State (Envelope Platform.Actor)} {outward : WebSocket}
      {e : Envelope Platform.Actor} {text : String} :
      Work.turns (Manager.handle Codec.api config) env k
        ⟨n, [Manager.sessionMessage .devices ws]⟩ = .ok c →
      Manager.platformMessage outward ∈ c.pending →
      Work.turns (Platform.handle Codec.api managerKey) env' k'
        ⟨n', [Platform.frame { id := link, body := outward.body }]⟩ = .ok c' →
      e ∈ c'.pending → e.dest = .ws → e.command = "write" →
      e.body = .transport (.webSocket { id := ws.id, body := text }) → Reaches ws text

/-- The device reads the request of the task, with the session of the one who asked. -/
def ControlArrives (task : Task) (action session : String) : Prop :=
  ∃ text request, Reaches config managerKey env env' n n' link
      { id := session, body := (Manager.Devices.requestDeviceMessage task action).serialize Codec.api }
      text ∧
    Codec.api.ReadsRequest text request ∧ request.method = action ∧
    request.id = task.request.id ∧ request.metadata.stringAt "transport" = .ok task.transportId

end Ways

section Paths

variable {config : Config} {managerKey : String} {env env' : Env} {n : Manager.State}
  {n' : Platform.State} {link : String} {task : Task} {action session : String}

/-- The frame for a device, as it is parsed. -/
def controlFrame (task : Task) (action : String) : JsonMap :=
  (Manager.Devices.requestDeviceMessage task action).toMap.reread

theorem controlFrame_parse : Codec.api.parse
    (WebSocket.body { id := session, body :=
      (Manager.Devices.requestDeviceMessage task action).serialize Codec.api }) =
    .ok (controlFrame task action) := Codec.api_roundTrip _

theorem find?_controlFrame (key : String) : (controlFrame task action).find? key =
    ((Manager.Devices.requestDeviceMessage task action).toMap.find? key).map JsonValue.reread :=
  JsonMap.find?_reread_of_nodup (RequestMessage.nodup_toMap _) key

theorem controlFrame_metadata : (controlFrame task action).readMetadata =
    .ok [("transport", .string task.transportId)] := by
  rw [JsonMap.readMetadata_eq_ok, find?_controlFrame, RequestMessage.find?_toMap_metadata]
  exact .inl (congrArg some (JsonValue.exact_map.mpr
    (JsonMap.exact_nil.set (JsonValue.exact_string task.transportId))))

/-- The metadata of the frame is replaced on its way to the platform. -/
theorem routedMetadata_controlFrame :
    Manager.routedMetadata (controlFrame task action) [("transport", .string task.transportId)] session =
      [("transport", .string session)] := by
  have htransport : (controlFrame task action).contains "transport" = false := by
    rw [JsonMap.contains, find?_controlFrame]
    unfold Manager.Devices.requestDeviceMessage RequestMessage.toMap
    simp [JsonMap.find?_set]
  rw [Manager.routedMetadata, htransport]
  rfl

/-- The platform reads the request without a key in it. -/
theorem reads_relayed (task : Task) (action session : String) :
    ∃ request, Codec.api.ReadsRequest (Manager.relayedTo
        { id := session,
          body := (Manager.Devices.requestDeviceMessage task action).serialize Codec.api }
        (controlFrame task action) [("transport", .string task.transportId)]).body request ∧
      request.metadata.contains "manager-key" = false ∧
      request.metadata.contains "profile-key" = false := by
  have hmap : (JsonValue.map [("transport", .string session)]).Sorted :=
    (JsonValue.exact_map.mpr (JsonMap.exact_nil.set (JsonValue.exact_string session))).sorted
  have hsorted : JsonMap.Sorted ((controlFrame task action).set "metadata"
      (.map [("transport", .string session)])) := (JsonMap.sorted_reread _).set hmap
  have hfind (key : String) (hkey : key ≠ "metadata") :
      (JsonMap.reread ((controlFrame task action).set "metadata"
        (.map [("transport", .string session)]))).find? key =
      ((controlFrame task action).find? key).map JsonValue.reread := by
    rw [JsonMap.find?_reread hsorted, JsonMap.find?_set_of_ne hkey]
  have hmethod : (JsonMap.reread ((controlFrame task action).set "metadata"
      (.map [("transport", .string session)]))).find? "method" = some (.string action) := by
    rw [hfind _ (by decide), find?_controlFrame, RequestMessage.find?_toMap_method]
    rfl
  have hid : (JsonMap.reread ((controlFrame task action).set "metadata"
      (.map [("transport", .string session)]))).contains "id" := by
    rw [JsonMap.contains, hfind _ (by decide), find?_controlFrame, RequestMessage.find?_toMap_id]
    rfl
  have hmetadata : (JsonMap.reread ((controlFrame task action).set "metadata"
      (.map [("transport", .string session)]))).readMetadata =
      .ok (JsonMap.reread [("transport", .string session)]) := by
    rw [JsonMap.readMetadata_eq_ok, JsonMap.find?_reread hsorted, JsonMap.find?_set_self]
    exact .inl rfl
  have hrequest : (JsonMap.reread ((controlFrame task action).set "metadata"
      (.map [("transport", .string session)]))).isRequest := by
    rw [JsonMap.isRequest, hid, JsonMap.contains, hmethod]
    rfl
  refine ⟨⟨_, action, _, JsonMap.reread [("transport", .string session)]⟩,
    ⟨_, _, ?_, hrequest, (JsonMap.parseRequest_eq_ok hid).mpr ⟨hmethod, hmetadata, rfl, rfl, rfl⟩⟩,
    ?_, ?_⟩
  · rw [Manager.relayedTo, routedMetadata_controlFrame]
    exact Codec.api_roundTrip _
  · rw [JsonMap.contains_reread]
    rfl
  · rw [JsonMap.contains_reread]
    rfl

/-- Over the platform nothing but a response comes back. -/
theorem not_relayed {k k' : ℕ} (hn : n.contacts = Manager.contacts)
    (hn' : n'.contacts = Platform.contacts)
    {c : Work.Config Manager.State (Envelope Manager.Actor)}
    {c' : Work.Config Platform.State (Envelope Platform.Actor)} {outward : WebSocket}
    {e : Envelope Platform.Actor} {id text : String} {request : RequestMessage}
    (hturns : Work.turns (Manager.handle Codec.api config) env k ⟨n, [Manager.sessionMessage .devices {
        id := session
        body := (Manager.Devices.requestDeviceMessage task action).serialize Codec.api }]⟩ = .ok c)
    (houtward : Manager.platformMessage outward ∈ c.pending)
    (hturns' : Work.turns (Platform.handle Codec.api managerKey) env' k'
        ⟨n', [Platform.frame { id := link, body := outward.body }]⟩ = .ok c')
    (he : e ∈ c'.pending) (hdest : e.dest = .ws)
    (hbody : e.body = .transport (.webSocket { id, body := text })) :
    ¬ Codec.api.ReadsRequest text request := by
  obtain ⟨read, hreads, hmanager, hprofile⟩ :=
    reads_relayed task action session
  let ws : WebSocket := {
    id := session
    body := (Manager.Devices.requestDeviceMessage task action).serialize Codec.api }
  have hpending : ∀ e ∈ c.pending, Manager.Outward ws
      (Manager.relayedTo ws (controlFrame task action) [("transport", .string task.transportId)]) e :=
    (Work.turns_invariant (fun n => n.contacts = Manager.contacts) _ (fun _ _ _ _ hn he h =>
      Manager.Outward.closed hn controlFrame_parse controlFrame_metadata he h) hturns hn
      (fun e he => List.mem_singleton.mp he ▸ .session)).2
  have hout := hpending _ houtward
  generalize hplatform : Manager.platformMessage outward = e' at hout
  cases hout with
  | session => cases hplatform
  | pipe => cases hplatform
  | platform =>
    cases hplatform
    let ws' : WebSocket := {
      id := link
      body := (Manager.relayedTo ws (controlFrame task action)
        [("transport", .string task.transportId)]).body }
    have hreads' : Codec.api.ReadsRequest ws'.body read := hreads
    obtain ⟨-, hpending'⟩ := Work.turns_invariant (fun n => n.contacts = Platform.contacts)
      (Platform.Keyless ws') (fun _ _ _ _ hn he h =>
        he.closed hn hreads' hmanager hprofile h) hturns' hn'
      (fun e he => List.mem_singleton.mp he ▸ .frame)
    cases hpending' e he with
    | frame => cases hdest
    | guest hguest =>
      simp only [Platform.guestHandlers, List.mem_cons, Prod.mk.injEq, List.not_mem_nil, or_false]
        at hguest
      rcases hguest with ⟨rfl, -⟩ | ⟨rfl, -⟩ | ⟨rfl, -⟩ <;> cases hdest
    | response =>
      cases hbody
      exact Platform.not_reads_response

theorem controlArrives_iff (hn : n.contacts = Manager.contacts) (hn' : n'.contacts = Platform.contacts) :
    ControlArrives config managerKey env env' n n' link task action session ↔
      env.sessions session ∧ task.request.id.Exact := by
  have hreads := RequestMessage.reads_serialize (Manager.Devices.requestDeviceMessage task action)
  constructor
  · rintro ⟨text, request, hreaches, hread, -, hid, -⟩
    cases hreaches with
    | direct hopen =>
      obtain rfl := hread.unique hreads
      exact ⟨hopen, hid⟩
    | relayed hturns houtward hturns' he hdest _ hbody =>
      exact absurd hread (not_relayed hn hn' hturns houtward hturns' he hdest hbody)
  · rintro ⟨hopen, hid⟩
    refine ⟨_, _, .direct hopen, hreads, rfl, hid, ?_⟩
    exact JsonMap.stringAt_eq_ok.mpr rfl

end Paths

/-! ## The result -/

/-- `platform.write` keeps the session that a frame names exactly if the frame
has a member `transport` beside its metadata, or names the session it is written to. -/
theorem platformWrite_keeps_iff {config : Config} {env : Env} {n : Manager.State}
    (hn : n.contacts = Manager.contacts) {ws : WebSocket} {message metadata : JsonMap} {target : String}
    (hparse : Codec.api.parse ws.body = .ok message) (hmetadata : message.readMetadata = .ok metadata)
    (htarget : metadata.stringAt "transport" = .ok target) :
    ∃ text, Manager.handle Codec.api config env n (Manager.pipeMessage ws) =
        .ok (n, [Manager.platformMessage { id := ws.id, body := text }]) ∧
      ((∃ frame, Codec.api.parse text = .ok frame ∧
          (frame.get "metadata").stringAt "transport" = .ok target) ↔
        message.contains "transport" ∨ ws.id = target) := by
  have hmessage := Codec.api_sorted hparse
  have hsorted : metadata.Sorted := by
    rcases JsonMap.readMetadata_eq_ok.mp hmetadata with hfind | ⟨-, rfl⟩
    · exact hmessage.find? hfind
    · exact JsonMap.sorted_nil
  have hrouted : (Manager.routedMetadata message metadata ws.id).Sorted := by
    unfold Manager.routedMetadata
    split
    · exact hsorted
    · exact hsorted.set (JsonValue.sorted_string _)
  have hset : JsonMap.Sorted (message.set "metadata"
      (.map (Manager.routedMetadata message metadata ws.id))) := hmessage.set hrouted
  refine ⟨_, Manager.handle_pipeMessage hn hparse hmetadata, ?_⟩
  have hread : (∃ frame, Codec.api.parse (Codec.api.print (message.set "metadata"
        (.map (Manager.routedMetadata message metadata ws.id)))) = .ok frame ∧
        (frame.get "metadata").stringAt "transport" = .ok target) ↔
      (Manager.routedMetadata message metadata ws.id).find? "transport" = some (.string target) := by
    rw [← JsonMap.stringAt_eq_ok]
    constructor
    · rintro ⟨frame, hframe, hstring⟩
      rw [Codec.api_roundTrip] at hframe
      obtain rfl := Except.ok.inj hframe
      rw [Manager.metadata_reread hset, JsonMap.get_set_self, JsonValue.stringAt_eq_ok] at hstring
      obtain ⟨_, hmap, hfind⟩ := hstring
      cases hmap
      exact JsonMap.stringAt_eq_ok.mpr hfind
    · intro hstring
      refine ⟨_, Codec.api_roundTrip _, ?_⟩
      rw [Manager.metadata_reread hset, JsonMap.get_set_self, JsonValue.stringAt_eq_ok]
      exact ⟨_, rfl, JsonMap.stringAt_eq_ok.mp hstring⟩
  rw [hread, Manager.routedMetadata]
  split
  · next hcontains =>
    exact iff_of_true (JsonMap.stringAt_eq_ok.mp htarget) (.inl hcontains)
  · next hcontains =>
    rw [JsonMap.find?_set_self, Option.some.injEq, JsonValue.string.injEq]
    exact ⟨.inr, fun h => h.resolve_left hcontains⟩

/-- A control request leaves `devices.request` for the session of its device. It
arrives exactly if that is a session of the manager itself, and the codec gives
the id back. -/
theorem control_path_iff (config : Config) (managerKey : String) (env env' : Env) (n : Manager.State)
    (n' : Platform.State) (link : String) (sender : Manager.Actor) (task : Task)
    (device session action : String) (hn : n.contacts = Manager.contacts)
    (hn' : n'.contacts = Platform.contacts) (hdevice : task.metadataString "device-key" = .ok device)
    (hsession : n.services.devices.devicesReg.lookup device = some session)
    (haction : task.paramString "action" = .ok action) :
    Manager.handle Codec.api config env n (Manager.deviceRequest sender task) =
        .ok (n, [Manager.sessionMessage .devices {
          id := session
          body := (Manager.Devices.requestDeviceMessage task action).serialize Codec.api }]) ∧
      (ControlArrives config managerKey env env' n n' link task action session ↔
        env.sessions session ∧ task.request.id.Exact) ∧
      ∀ (ws : WebSocket) (message metadata : JsonMap) (target : String),
        Codec.api.parse ws.body = .ok message → message.readMetadata = .ok metadata →
        metadata.stringAt "transport" = .ok target →
        ∃ text, Manager.handle Codec.api config env n (Manager.pipeMessage ws) =
            .ok (n, [Manager.platformMessage { id := ws.id, body := text }]) ∧
          ((∃ frame, Codec.api.parse text = .ok frame ∧
              (frame.get "metadata").stringAt "transport" = .ok target) ↔
            message.contains "transport" ∨ ws.id = target) :=
  ⟨Manager.handle_deviceRequest hn hdevice hsession haction, controlArrives_iff hn hn',
    fun _ _ _ _ hparse hmetadata htarget => platformWrite_keeps_iff hn hparse hmetadata htarget⟩

/-- A request of session `c` to switch the lamp on. -/
def switchOn : Task where
  request := {
    id := .integer 1
    method := "devices.control"
    params := .map [("action", .string "control.on")]
    metadata := [("device-key", .string "lamp")] }
  transportId := "c"
  storage := ∅

/-- The manager with a lamp that is registered for session `s`. -/
def lampRegistered : Manager.State where
  services := { Manager.blank.services with
    devices := Manager.blank.services.devices.addRegDevice "lamp" "s" ∅ ∅ }
  contacts := Manager.contacts

theorem control_path_iff_lamp :
    ControlArrives ⟨"p.q", "m"⟩ "" .calm .calm lampRegistered Platform.blank "m" switchOn "control.on" "s" ↔
      Env.calm.sessions "s" ∧ switchOn.request.id.Exact :=
  (control_path_iff ⟨"p.q", "m"⟩ "" .calm .calm lampRegistered Platform.blank "m" .groups switchOn
    "lamp" "s" "control.on" rfl rfl rfl rfl rfl).2.1

/-- Where `s` is a session of the platform, the lamp is not switched on. -/
theorem control_not_relayed :
    ¬ ControlArrives ⟨"p.q", "m"⟩ "" ⟨none, fun _ => false, 0⟩ .calm lampRegistered Platform.blank "m"
      switchOn "control.on" "s" := by
  rw [controlArrives_iff rfl rfl]
  rintro ⟨hopen, -⟩
  cases hopen

end StreamCloud
