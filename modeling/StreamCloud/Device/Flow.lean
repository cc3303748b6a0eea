-- SUMMARY: What the device does with the messages of its actors, one step at a time.
import StreamCloud.Device.Program
import StreamCloud.Core.Typing

/-!
# Messages of the device

A request of the manager goes to the control service, and what that service
writes goes through `manager.write` to the socket.
-/

namespace StreamCloud.Device

open Services

variable {J : Codec} {config : Config} {env : Env} {n : State}

/-- The contacts that a handler of a wired program sees. -/
theorem lookup_of_wired (hn : n.contacts = contacts) (a : Actor) (name : String) :
    ((program J config).ctx n a).contacts.lookup name = (contacts a).lookup name := by
  rw [← hn]
  rfl

/-! ## Arrivals and runs -/

/-- What the websocket client puts into the mailbox of the `manager` service. -/
inductive Arrives : Envelope Actor → Prop
  | frame (ws : WebSocket) : Arrives (frame ws)
  | handshake (ws : WebSocket) : Arrives
      { dest := .manager, sender := .manager, command := "handshake",
        body := .transport (.webSocket ws) }
  | socketError (e : SocketError) : Arrives
      { dest := .manager, sender := .manager, command := "error", body := .transport (.error e) }

/-- A run of the device whose handled messages all meet `guard`. -/
abbrev Run (J : Codec) (config : Config) (guard : Env → State → Envelope Actor → Prop) :=
  Work.Run (handle J config) Arrives guard

theorem Arrives.plain {e : Envelope Actor} (h : Arrives e) : e.Plain := by
  cases h <;> exact fun _ h => nomatch h

/-! ## Wiring -/

section Plain

variable {α σ : Type} {ctx : Ctx α}

/-- No message that is sent names an actor by its address. -/
def SendsPlain (ctx : Ctx α) (out : List (Envelope α)) : Prop :=
  ctx.Sends (fun _ _ body => ∀ address, body ≠ .address address) out

theorem SendsPlain.plain {out : List (Envelope α)} (h : SendsPlain ctx out) : ∀ e ∈ out, e.Plain := by
  intro e he
  obtain ⟨-, name, -, hplain⟩ := h e he
  exact hplain

theorem task_sendsPlain {name command : String} {task : Task} :
    (ctx.send name command (.task task)).Ensures (SendsPlain ctx) :=
  Ctx.send_sends fun _ h => nomatch h

theorem text_sendsPlain {name command text : String} :
    (ctx.send name command (.text text)).Ensures (SendsPlain ctx) :=
  Ctx.send_sends fun _ h => nomatch h

theorem transport_sendsPlain {name command : String} {transport : Transport} :
    (ctx.send name command (.transport transport)).Ensures (SendsPlain ctx) :=
  Ctx.send_sends fun _ h => nomatch h

/-- A handler that returns what it sends. -/
theorem return_sendsPlain {s : σ} {send : Except Fault (List (Envelope α))}
    (h : send.Ensures (SendsPlain ctx)) :
    (do return (s, ← send) : Except Fault (σ × List (Envelope α))).Ensures
      fun r => SendsPlain ctx r.2 :=
  h.andThen fun _ hout => Except.ensures_ok.mpr hout

theorem Manager.request_sendsPlain (message : JsonMap) :
    (Manager.request J ctx message).Ensures (SendsPlain ctx) := by
  unfold Manager.request
  refine Except.ensures_bind.mpr fun id _ => Except.ensures_bind.mpr fun ⟨request, _⟩ _ => ?_
  refine Except.ensures_ite (fun _ => ?_) fun _ =>
    Except.ensures_ite (fun _ => text_sendsPlain) fun _ => Except.ensures_ok.mpr Ctx.sends_nil
  split
  · refine Except.ensures_ite (fun _ => ?_) fun _ => transport_sendsPlain
    refine Except.ensures_bind.mpr fun service _ => ?_
    exact Except.ensures_ite (fun _ => task_sendsPlain) fun _ => transport_sendsPlain
  · exact Except.ensures_ok.mpr Ctx.sends_nil

theorem Manager.sendsPlain {s : Unit} {command : String} {action : Action α Unit} {body : Body α}
    {r : Unit × List (Envelope α)} (hmem : (command, action) ∈ Manager.handlers J config)
    (h : Action.Ran env ctx s action body r) : SendsPlain ctx r.2 := by
  simp only [Manager.handlers, List.mem_cons, Prod.mk.injEq, List.not_mem_nil, or_false] at hmem
  rcases hmem with ⟨-, rfl⟩ | ⟨-, rfl⟩ | ⟨-, rfl⟩ | ⟨-, rfl⟩ <;> cases h with | _ h
  · revert r
    show (Manager.dispatcher J config env ctx s _).Ensures fun r => SendsPlain ctx r.2
    unfold Manager.dispatcher
    refine Except.ensures_bind.mpr fun _ _ => Except.ensures_bind.mpr fun message _ => ?_
    refine Except.ensures_ite (fun _ => return_sendsPlain (Manager.request_sendsPlain _)) fun _ => ?_
    refine Except.ensures_ite (fun _ => return_sendsPlain text_sendsPlain) fun _ => ?_
    exact Except.ensures_ite (fun _ => return_sendsPlain text_sendsPlain)
      fun _ => Except.ensures_ok.mpr Ctx.sends_nil
  · exact return_sendsPlain transport_sendsPlain _ h
  · revert r
    show (Manager.error env ctx s _).Ensures fun r => SendsPlain ctx r.2
    unfold Manager.error
    refine Except.ensures_bind.mpr fun _ _ => ?_
    exact Except.ensures_ite (fun _ => return_sendsPlain text_sendsPlain)
      fun _ => return_sendsPlain transport_sendsPlain
  · revert r
    show (Manager.write J config env ctx s _).Ensures fun r => SendsPlain ctx r.2
    unfold Manager.write
    exact Except.ensures_bind.mpr fun _ _ => Except.ensures_bind.mpr fun _ _ =>
      Except.ensures_bind.mpr fun _ _ => return_sendsPlain transport_sendsPlain

theorem Control.sendsPlain {s : Control.Impl} {command : String} {action : Action α Control.Impl}
    {body : Body α} {r : Control.Impl × List (Envelope α)}
    (hmem : (command, action) ∈ Control.handlers J) (h : Action.Ran env ctx s action body r) :
    SendsPlain ctx r.2 := by
  have hswitch (status : Bool) (task : Task) :
      (Control.switch J status env ctx s task).Ensures fun r => SendsPlain ctx r.2 := by
    refine transport_sendsPlain.andThen fun _ hresponse => ?_
    exact transport_sendsPlain.andThen fun _ hnotify => Except.ensures_ok.mpr (hresponse.append hnotify)
  simp only [Control.handlers, List.mem_cons, Prod.mk.injEq, List.not_mem_nil, or_false] at hmem
  rcases hmem with ⟨-, rfl⟩ | ⟨-, rfl⟩ | ⟨-, rfl⟩ <;> cases h with | _ h
  · exact hswitch true _ r h
  · exact hswitch false _ r h
  · exact return_sendsPlain transport_sendsPlain r h

end Plain

theorem handle_plain {n' : State} {e : Envelope Actor} {out : List (Envelope Actor)}
    (h : handle J config env n e = .ok (n', out)) (hp : e.Plain) :
    n'.contacts = n.contacts ∧ ∀ e' ∈ out, e'.Plain := by
  have hhandled := Program.handled_of_eq_ok h
  refine ⟨hhandled.contacts_eq hp, hhandled.out_plain fun action services hmem hran => ?_⟩
  obtain ⟨dest, sender, command, body⟩ := e
  cases dest <;> obtain ⟨inner, hinner, rfl⟩ := mem_liftAll.mp hmem <;>
    obtain ⟨component, hinnerRan, -⟩ := hran.of_lift
  case manager => exact (Manager.sendsPlain hinner hinnerRan).plain
  case control => exact (Control.sendsPlain hinner hinnerRan).plain
  case client =>
    obtain rfl := WsClient.out_of_ran hinner hinnerRan
    exact fun _ he => nomatch he

/-- What `skip` sends goes to the actor that cannot read it. -/
theorem not_handled_of_mem_skip {e e' : Envelope Actor} (h : e' ∈ (program J config).skip e)
    (r : State × List (Envelope Actor)) : handle J config env n e' ≠ .ok r := by
  obtain ⟨herror, rfl⟩ := Program.of_mem_skip h
  have hsender : e.sender = .manager := by
    revert herror
    cases e.sender <;> intro h <;>
      first | rfl | exact nomatch (show false = true from List.elem_eq_true_of_mem h)
  intro hr
  rw [hsender] at hr
  obtain ⟨_, _, hbody, -⟩ := Program.transport_of_handle (h := Manager.error) (L := unitLens) rfl hr
  cases hbody

/-! ## Frames on their way out -/

/-- A frame on its way out of the device. -/
def writeMessage (sender : Actor) (ws : WebSocket) : Envelope Actor where
  dest := .manager
  sender := sender
  command := "write"
  body := .transport (.webSocket ws)

/-- A frame on its way to the socket. -/
def socketMessage (ws : WebSocket) : Envelope Actor where
  dest := .client
  sender := .manager
  command := "write"
  body := .transport (.webSocket ws)

/-- What is written leaves the device with its keys in the metadata. -/
theorem handle_write (hn : n.contacts = contacts) {sender : Actor} {ws : WebSocket}
    {message metadata : JsonMap} (hparse : J.parse ws.body = .ok message)
    (hmetadata : message.readMetadata = .ok metadata) :
    handle J config env n (writeMessage sender ws) = .ok (n, [socketMessage {
      id := ws.id
      body := J.print (Manager.stamped config message metadata ws.id) }]) := by
  have hclient : ((program J config).ctx n .manager).contacts.lookup "client" = some .client :=
    (lookup_of_wired hn _ _).trans rfl
  refine (Program.handle_transport rfl rfl).trans ?_
  show (Manager.write J config env ((program J config).ctx n .manager) () (.webSocket ws)).map _ = _
  simp only [Manager.write, Transport.asWebSocket_webSocket, Except.ok_bind', hparse, hmetadata,
    Ctx.send_of_contact hclient]
  rfl

/-! ## Requests -/

/-- A request on its way to the control service. -/
def controlMessage (command : String) (task : Task) : Envelope Actor where
  dest := .control
  sender := .manager
  command := command
  body := .task task

/-- The response of the control service, on its way out. -/
def responseMessage (J : Codec) (task : Task) (result : JsonValue) : Envelope Actor :=
  writeMessage .control {
    id := task.transportId
    body := ((Reply.ok result).message task.request.id).serialize J }

/-- The notification of the control service, on its way out. -/
def notifyMessage (J : Codec) (task : Task) (status : Bool) : Envelope Actor :=
  writeMessage .control { id := task.transportId, body := (Control.statusNotify status).serialize J }

theorem handle_switch (hn : n.contacts = contacts) {task : Task} {command : String} {status : Bool}
    (hreaction : (program J config).reaction .control command =
      .task ((Control.switch J status).lift controlLens)) :
    ∃ n', n'.contacts = contacts ∧
      handle J config env n (controlMessage command task) =
        .ok (n', [responseMessage J task (.boolean true), notifyMessage J task status]) := by
  have hmanager : ((program J config).ctx n .control).contacts.lookup "manager" = some .manager :=
    (lookup_of_wired hn _ _).trans rfl
  refine ⟨{ n with services := { n.services with control := { status } } }, hn,
    (Program.handle_task hreaction rfl).trans ?_⟩
  show (Control.switch J status env ((program J config).ctx n .control) n.services.control task).map _
    = _
  simp only [Control.switch, Control.writeManager, Ctx.send_of_contact hmanager, Except.ok_bind']
  rfl

theorem handle_status (hn : n.contacts = contacts) {task : Task} :
    handle J config env n (controlMessage "status" task) =
      .ok (n, [responseMessage J task (.boolean n.services.control.status)]) := by
  have hmanager : ((program J config).ctx n .control).contacts.lookup "manager" = some .manager :=
    (lookup_of_wired hn _ _).trans rfl
  refine (Program.handle_task rfl rfl).trans ?_
  show (Control.status J env ((program J config).ctx n .control) n.services.control task).map _ = _
  simp only [Control.status, Control.writeManager, Ctx.send_of_contact hmanager, Except.ok_bind']
  rfl

/-- The methods of the control service. -/
def controlMethods : List String := ["on", "off", "status"]

/-- A request for one of its methods is answered by the control service. What it
sends besides is a notification. -/
theorem handle_control (hn : n.contacts = contacts) {task : Task} {command : String}
    (hcommand : command ∈ controlMethods) :
    ∃ n' result rest, n'.contacts = contacts ∧
      handle J config env n (controlMessage command task) =
        .ok (n', responseMessage J task result :: rest) ∧
      ∀ e ∈ rest, ∃ status, e = notifyMessage J task status := by
  have hswitch {command : String} {status : Bool}
      (hreaction : (program J config).reaction .control command =
        .task ((Control.switch J status).lift controlLens)) :
      ∃ n' result rest, n'.contacts = contacts ∧
        handle J config env n (controlMessage command task) =
          .ok (n', responseMessage J task result :: rest) ∧
        ∀ e ∈ rest, ∃ status, e = notifyMessage J task status := by
    obtain ⟨n', hn', heq⟩ : ∃ n', n'.contacts = contacts ∧
        handle J config env n (controlMessage command task) =
          .ok (n', [responseMessage J task (.boolean true), notifyMessage J task status]) :=
      handle_switch hn hreaction
    exact ⟨n', _, _, hn', heq, fun e he => ⟨_, List.mem_singleton.mp he⟩⟩
  simp only [controlMethods, List.mem_cons, List.not_mem_nil, or_false] at hcommand
  rcases hcommand with rfl | rfl | rfl
  · exact hswitch rfl
  · exact hswitch rfl
  · exact ⟨n, _, [], hn, handle_status hn, fun e he => nomatch he⟩

/-- Nothing else is answered. -/
theorem out_of_control {task : Task} {command : String} {n' : State} {out : List (Envelope Actor)}
    (hcommand : command ∉ controlMethods)
    (h : handle J config env n (controlMessage command task) = .ok (n', out)) :
    ∀ e ∈ out, e ∈ (program J config).skip (controlMessage command task) := by
  cases Program.handled_of_eq_ok h with
  | syncContacts _ haddress => cases haddress
  | addChannel _ hchannel => cases hchannel
  | skip => exact fun _ he => he
  | attached _ hmem _ =>
    obtain ⟨inner, hinner, -⟩ := mem_liftAll.mp hmem
    refine absurd ?_ hcommand
    simp only [Control.handlers, controlMessage, List.mem_cons, Prod.mk.injEq, List.not_mem_nil,
      or_false] at hinner
    rcases hinner with ⟨rfl, -⟩ | ⟨rfl, -⟩ | ⟨rfl, -⟩ <;> simp [controlMethods]

/-- A frame is given to the control service as a task, or concerns the client of
the device only. -/
theorem out_of_frame (hn : n.contacts = contacts) {n' : State} {ws : WebSocket}
    {out : List (Envelope Actor)} (h : handle J config env n (frame ws) = .ok (n', out)) :
    (∃ request id command, J.ReadsRequest ws.body request ∧
        request.metadata.stringAt "transport" = .ok id ∧
        out = [controlMessage command (Manager.task request id)]) ∨
      ∀ e ∈ out, e.dest = .client ∧ e.command ≠ "write" ∧ ∃ text, e.body = .text text := by
  have hlookup (name : String) : ((program J config).ctx n .manager).contacts.lookup name =
    (contacts .manager).lookup name := lookup_of_wired hn .manager name
  obtain ⟨_, component, hbody, hrun, -⟩ := Program.transport_of_handle
    (h := Manager.dispatcher J config) (L := unitLens) rfl h
  cases hbody
  simp only [Manager.dispatcher, Transport.asWebSocket_webSocket, Except.ok_bind'] at hrun
  obtain ⟨message, hparse, hrun⟩ := Except.bind_eq_ok.mp hrun
  have hclient {command text : String} (hne : command ≠ "write")
      (hsend : (do return ((), ← ((program J config).ctx n .manager).send "client" command (.text text)) :
        Except Fault (Unit × List (Envelope Actor))) = .ok (component, out)) :
      ∀ e ∈ out, e.dest = .client ∧ e.command ≠ "write" ∧ ∃ text, e.body = .text text := by
    obtain ⟨out', hout, heq⟩ := Except.bind_eq_ok.mp hsend
    cases heq
    obtain ⟨dest, hdest, rfl⟩ := Ctx.send_eq_ok.mp hout
    intro e he
    rw [List.mem_singleton.mp he]
    obtain rfl : Actor.client = dest := Option.some.inj (((hlookup "client").trans rfl).symm.trans hdest)
    exact ⟨rfl, hne, text, rfl⟩
  split at hrun
  · next hrequest =>
    obtain ⟨out', hout, heq⟩ := Except.bind_eq_ok.mp hrun
    cases heq
    have hid : message.contains "id" := by
      rw [JsonMap.isRequest, Bool.and_eq_true] at hrequest
      exact hrequest.2
    obtain ⟨id, -, hrest⟩ := Except.bind_eq_ok.mp hout
    obtain ⟨⟨request, m'⟩, hread, -⟩ := Except.bind_eq_ok.mp hrest
    obtain ⟨id, htransport, hcases⟩ :=
      Manager.request_cases J ((hlookup "ws").trans rfl) hid hread hout
    rcases hcases with ⟨-, rfl⟩ | ⟨command, rest, dest, -, hdest, -, rfl⟩
    · exact .inr (List.forall_mem_nil _)
    · obtain rfl : Actor.control = dest :=
        Option.some.inj (((hlookup "control").trans rfl).symm.trans hdest)
      exact .inl ⟨request, id, command, ⟨message, m', hparse, hrequest, hread⟩, htransport, rfl⟩
  · split at hrun
    · exact .inr (hclient (by decide) hrun)
    · split at hrun
      · exact .inr (hclient (by decide) hrun)
      · cases hrun
        exact .inr (List.forall_mem_nil _)

/-- A request with a session in its metadata, for a method of the control service. -/
theorem handle_request (hn : n.contacts = contacts) {ws : WebSocket} {request : RequestMessage}
    {id command : String} {rest : List String} (hreads : J.ReadsRequest ws.body request)
    (htransport : request.metadata.stringAt "transport" = .ok id)
    (hsplit : split request.method = "control" :: command :: rest)
    (hcommand : command ∈ controlMethods) :
    handle J config env n (frame ws) = .ok (n, [controlMessage command (Manager.task request id)]) := by
  obtain ⟨message, m', hparse, hrequest, hread⟩ := hreads
  have hid : message.contains "id" := by
    rw [JsonMap.isRequest, Bool.and_eq_true] at hrequest
    exact hrequest.2
  have hcontrol : ((program J config).ctx n .manager).contacts.lookup "control" = some .control :=
    (lookup_of_wired hn _ _).trans rfl
  have hmethod : command ∈ ((program J config).ctx n .manager).messageTypes .control := by
    have htypes : (program J config).messageTypes .control =
        ["sync_contacts", "skip", "add_channel"] ++ controlMethods := rfl
    show command ∈ (program J config).messageTypes .control
    rw [htypes]
    exact List.mem_append_right _ hcommand
  rw [handle_frame]
  simp only [Manager.dispatcher, Transport.asWebSocket_webSocket, Except.ok_bind', hparse,
    if_pos hrequest, Manager.request_of_control J hid hread htransport hsplit hcontrol hmethod]
  rfl

/-- The device does nothing with a notification. -/
theorem handle_notification {ws : WebSocket} {message : JsonMap} (hparse : J.parse ws.body = .ok message)
    (hnotify : message.isNotify) (herror : message.contains "error" = false) :
    handle J config env n (frame ws) = .ok (n, []) := by
  have hid : message.contains "id" = false := by simpa [JsonMap.isNotify] using hnotify
  have hrequest : message.isRequest = false := by simp [JsonMap.isRequest, hid]
  have hresponse : message.isResponse = false := by simp [JsonMap.isResponse, hid]
  rw [handle_frame]
  simp only [Manager.dispatcher, Transport.asWebSocket_webSocket, Except.ok_bind', hparse, hrequest,
    herror, hresponse]
  rfl

/-- What the device sends when it is connected. -/
theorem out_of_handshake (hn : n.contacts = contacts) {n' : State} {sender : Actor}
    {transport : Transport} {out : List (Envelope Actor)}
    (h : handle J config env n
      { dest := .manager, sender, command := "handshake", body := .transport transport } =
        .ok (n', out)) :
    out = [socketMessage {
      id := transport.id
      body := (Manager.connectRequest config).serialize J }] := by
  have hclient : ((program J config).ctx n .manager).contacts.lookup "client" = some .client :=
    (lookup_of_wired hn _ _).trans rfl
  obtain ⟨_, component, hbody, hrun, -⟩ := Program.transport_of_handle
    (h := Manager.handshake J config) (L := unitLens) rfl h
  cases hbody
  simp only [Manager.handshake, Ctx.send_of_contact hclient, Except.ok_bind'] at hrun
  cases hrun
  rfl

end StreamCloud.Device
