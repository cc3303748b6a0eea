-- SUMMARY: Every name that a handler looks up is one of a contact, except on the device.
import StreamCloud.Core.Lookups
import StreamCloud.System.InitService
import StreamCloud.Api.JsonSorted

/-!
# Contact lookups

The handlers of the manager and of the platform look up nothing that the wiring
did not give them. The device answers a request that it has no handler for over a
websocket server, as the manager does: it has none.
-/

namespace StreamCloud

variable {α : Type} {J : Codec} {ctx : Ctx α}

/-! ## The data providers and the routers' errors -/

theorem WsServer.complete {pipes : List α} : ctx.Complete (WsServer.handlers pipes) := by
  intro p hp ctx' hext
  simp only [handlers, List.mem_cons, List.not_mem_nil, or_false] at hp
  rcases hp with rfl | rfl | rfl <;> exact fun _ _ _ => rfl

theorem WsClient.complete : ctx.Complete WsClient.handlers := by
  intro p hp ctx' hext
  simp only [handlers, List.mem_cons, List.not_mem_nil, or_false] at hp
  rcases hp with rfl | rfl | rfl | rfl
  · exact fun _ _ _ => rfl
  · exact fun _ _ => rfl
  · exact fun _ _ => rfl
  · exact fun _ _ _ => rfl

theorem HttpServer.complete : ctx.Complete HttpServer.handlers := by
  intro p hp ctx' hext
  simp only [handlers, List.mem_cons, List.not_mem_nil, or_false] at hp
  rcases hp with rfl | rfl | rfl | rfl | rfl
  · exact fun _ _ _ => rfl
  · exact fun _ _ => rfl
  · exact fun _ _ _ => rfl
  · exact fun _ _ _ => rfl
  · exact fun _ _ => rfl

section Services

variable (hws : ctx.Knows "ws")
include hws

theorem Ctx.Extends.socketError {ctx' : Ctx α} (hext : ctx.Extends ctx') (transport : Transport) :
    ctx'.socketError transport = ctx.socketError transport := by
  unfold Ctx.socketError
  simp only [hext.send hws]

theorem ManagerInfo.complete {managerKey : String} :
    ctx.Complete (ManagerInfo.handlers J managerKey) := by
  intro p hp ctx' hext
  obtain rfl := List.mem_singleton.mp hp
  intro env s task
  simp only [info, hext.respond hws]

/-! ## The services of the manager -/

namespace Manager

theorem Users.complete (hrouter : ctx.Knows "router") : ctx.Complete (Users.handlers J) := by
  intro p hp ctx' hext
  simp only [handlers, List.mem_cons, List.not_mem_nil, or_false] at hp
  rcases hp with rfl | rfl | rfl | rfl | rfl <;> intro env s task
  · exact hext.answer hws ..
  · exact hext.answer hws ..
  · exact hext.answer hws ..
  · exact hext.answer hws ..
  · simp only [auth, forward, hext.send hrouter, hext.respond hws]

theorem Groups.complete : ctx.Complete (Groups.handlers J) := by
  intro p hp ctx' hext
  simp only [handlers, List.mem_cons, List.not_mem_nil, or_false] at hp
  rcases hp with rfl | rfl | rfl <;> exact fun _ _ _ => hext.answer hws ..

theorem Subscriptions.complete (hconnections : ctx.Knows "connections")
    (hdevices : ctx.Knows "devices") : ctx.Complete (Subscriptions.handlers J) := by
  intro p hp ctx' hext
  simp only [handlers, List.mem_cons, List.not_mem_nil, or_false] at hp
  rcases hp with rfl | rfl | rfl | rfl | rfl | rfl | rfl | rfl <;> intro env s b
  · exact hext.answer hws ..
  · exact hext.answer hws ..
  · exact hext.answer hws ..
  · simp only [devices, hext.send hconnections, hext.respond hws]
  · simp only [groups, hext.send hdevices, hext.respond hws]
  · exact hext.answer hws ..
  · exact hext.answer hws ..
  · simp only [emit, hext.writeTo hws]

theorem Connections.complete (hsubscriptions : ctx.Knows "subscriptions") :
    ctx.Complete (Connections.handlers J) := by
  intro p hp ctx' hext
  have hforward {deviceKey : Task → Except Fault String} {command : String} (env : Env)
      (s : Connections) (task : Task) :
      forwardGroups J deviceKey command env ctx' s task =
        forwardGroups J deviceKey command env ctx s task := by
    simp only [forwardGroups, hext.send hsubscriptions, hext.respond hws]
  simp only [handlers, List.mem_cons, List.not_mem_nil, or_false] at hp
  rcases hp with rfl | rfl | rfl | rfl | rfl | rfl | rfl <;> intro env s task
  · exact hext.answer hws ..
  · exact hext.answer hws ..
  · exact hext.answer hws ..
  · exact hext.answer hws ..
  · exact hforward env s task
  · exact hforward env s task
  · simp only [unsubscribe, hext.send hsubscriptions, hext.respond hws]

theorem Devices.complete (hconnections : ctx.Knows "connections")
    (hsubscriptions : ctx.Knows "subscriptions") : ctx.Complete (Devices.handlers J) := by
  intro p hp ctx' hext
  have hforward {command : String} (env : Env) (s : Devices) (task : Task) :
      forwardRegistered J command env ctx' s task = forwardRegistered J command env ctx s task := by
    simp only [forwardRegistered, hext.send hconnections, hext.respond hws]
  simp only [handlers, List.mem_cons, List.not_mem_nil, or_false] at hp
  rcases hp with rfl | rfl | rfl | rfl | rfl | rfl | rfl | rfl | rfl | rfl | rfl | rfl <;> intro env s b
  · exact hext.answer hws ..
  · exact hext.answer hws ..
  · exact hext.answer hws ..
  · exact hext.answer hws ..
  · simp only [control, hext.send hconnections, hext.respond hws]
  · exact hext.answer hws ..
  · rfl
  · simp only [request, hext.writeTo hws, hext.respond hws]
  · simp only [response, hext.writeTo hws]
  · simp only [notify, hext.send hsubscriptions]
  · exact hforward env s b
  · exact hforward env s b

omit hws in
theorem PlatformService.complete {config : Config} (hrouter : ctx.Knows "router")
    (hclient : ctx.Knows "client") : ctx.Complete (PlatformService.handlers J config) := by
  intro p hp ctx' hext
  simp only [handlers, List.mem_cons, List.not_mem_nil, or_false] at hp
  rcases hp with rfl | rfl | rfl | rfl <;> intro env s transport
  · simp only [dispatcher, hext.send hrouter, hext.send hclient]
  · simp only [handshake, hext.send hclient]
  · simp only [error, hext.send hclient]
  · simp only [write, hext.send hclient]

/-- What the router looks up: the services that it dispatches to, the ones of the
guest methods, and the websocket server. -/
theorem Router.complete {config : Config} (hlisted : ∀ known ∈ serviceList, ctx.Knows known)
    (hinfo : ctx.Knows "manager") : ctx.Complete (Router.handlers J config) := by
  have husers := hlisted "users" (by decide)
  have hdevices := hlisted "devices" (by decide)
  have hquest {method serviceName methodName : String} {rest : List String} (task : Task)
      (hsplit : split method = serviceName :: methodName :: rest) (h : method ∈ questMethodList) :
      ctx.Knows serviceName := by
    rcases (quest_sends (α := α) hsplit h task).name_of_task with rfl | rfl
    · exact husers
    · exact hinfo
  intro p hp ctx' hext
  have hrequest (id : String) (message : JsonMap) :
      request J config ctx' id message = request J config ctx id message := by
    unfold request
    refine bind_congr fun r => ?_
    dsimp only
    split
    · next serviceName methodName rest hsplit =>
      refine if_congr Iff.rfl (hext.send husers ..) ?_
      split
      · next h => exact hext.send (hquest (Router.task config r.1 id "" "") hsplit h) ..
      · exact hext.respond hws ..
    · exact hext.respond hws ..
  simp only [handlers, List.mem_cons, List.not_mem_nil, or_false] at hp
  rcases hp with rfl | rfl | rfl <;> intro env s b
  · simp only [dispatcher, hrequest, hext.send hdevices]
  · unfold service
    dsimp only
    split
    · next h =>
      simp only [hext.addresses (hlisted _ h), hext.send (hlisted _ h),
        hext.respond hws, hext.messageTypes]
    · rw [hext.respond hws]
  · simp only [error, hext.socketError hws]

end Manager

/-! ## The services of the platform -/

namespace Platform

theorem Profile.complete (hrouter : ctx.Knows "router") : ctx.Complete (Profile.handlers J) := by
  intro p hp ctx' hext
  simp only [handlers, List.mem_cons, List.not_mem_nil, or_false] at hp
  rcases hp with rfl | rfl | rfl <;> intro env s task
  · exact hext.answer hws ..
  · exact hext.answer hws ..
  · simp only [auth, forward, hext.send hrouter, hext.respond hws]

theorem Managers.complete (hhttp : ctx.Knows "http") : ctx.Complete (Managers.handlers J) := by
  intro p hp ctx' hext
  have hdisconnect (s : Managers) (task : Task) (key : String) :
      writeDisconnect J ctx' s task key = writeDisconnect J ctx s task key := by
    simp only [writeDisconnect, hext.writeTo hws]
  simp only [handlers, List.mem_cons, List.not_mem_nil, or_false] at hp
  rcases hp with rfl | rfl | rfl | rfl | rfl | rfl | rfl <;> intro env s b
  · simp only [add, hext.send hhttp, hext.respond hws]
  · simp only [delete, hdisconnect, hext.send hhttp, hext.respond hws]
  · exact hext.answer hws ..
  · exact hext.answer hws ..
  · rfl
  · simp only [request, hext.writeTo hws, hext.respond hws]
  · simp only [response, hext.writeTo hws]

theorem Router.complete (hlisted : ∀ known ∈ serviceList, ctx.Knows known) :
    ctx.Complete (Router.handlers J) := by
  have hprofile := hlisted "profile" (by decide)
  have hmanagers := hlisted "managers" (by decide)
  have hquest {method serviceName methodName : String} {rest : List String} (task : Task)
      (hsplit : split method = serviceName :: methodName :: rest) (h : method ∈ questMethodList) :
      ctx.Knows serviceName :=
    hlisted _ (quest_sends (α := α) hsplit h task).name_of_task
  intro p hp ctx' hext
  have hrequest (id : String) (message : JsonMap) :
      request J ctx' id message = request J ctx id message := by
    unfold request
    refine bind_congr fun r => if_congr Iff.rfl (hext.send hmanagers ..) ?_
    dsimp only
    split
    · next serviceName methodName rest hsplit =>
      refine if_congr Iff.rfl (hext.send hprofile ..) ?_
      split
      · next h => exact hext.send (hquest (Router.task r.1 id "" "") hsplit h) ..
      · exact hext.respond hws ..
    · exact hext.respond hws ..
  simp only [handlers, List.mem_cons, List.not_mem_nil, or_false] at hp
  rcases hp with rfl | rfl | rfl <;> intro env s b
  · simp only [dispatcher, hrequest, hext.send hmanagers]
  · unfold service
    dsimp only
    split
    · next h =>
      simp only [hext.addresses (hlisted _ h), hext.send (hlisted _ h),
        hext.respond hws, hext.messageTypes]
    · rw [hext.respond hws]
  · simp only [error, hext.socketError hws]

end Platform

end Services

/-! ## The programs with a websocket server -/

theorem Manager.findsContacts {config : Config} {n : Manager.State} {e : Envelope Manager.Actor}
    (hn : ∀ a name, (n.contacts a).lookup name = (Manager.contacts a).lookup name) :
    (Manager.program J config).FindsContacts n e := by
  obtain ⟨a, sender, command, body⟩ := e
  apply Program.findsContacts_of_complete
  dsimp only
  have known {k : String} (hk : ((Manager.contacts a).lookup k).isSome) :
      ((Manager.program J config).ctx n a).Knows k := by
    show ((n.contacts a).lookup k).isSome
    rw [hn]
    exact hk
  cases a with
  | router =>
    refine (Router.complete (known rfl) (fun k hk => known ?_) (known rfl)).liftAll
    revert k
    decide
  | users => exact (Users.complete (known rfl) (known rfl)).liftAll
  | groups => exact (Groups.complete (known rfl)).liftAll
  | subscriptions => exact (Subscriptions.complete (known rfl) (known rfl) (known rfl)).liftAll
  | connections => exact (Connections.complete (known rfl) (known rfl)).liftAll
  | devices => exact (Devices.complete (known rfl) (known rfl) (known rfl)).liftAll
  | platform => exact (PlatformService.complete (known rfl) (known rfl)).liftAll
  | managerInfo => exact (ManagerInfo.complete (known rfl)).liftAll
  | ws => exact WsServer.complete.liftAll
  | client => exact WsClient.complete.liftAll
  | http => exact HttpServer.complete.liftAll

theorem Platform.findsContacts {managerKey : String} {n : Platform.State}
    {e : Envelope Platform.Actor}
    (hn : ∀ a name, (n.contacts a).lookup name = (Platform.contacts a).lookup name) :
    (Platform.program J managerKey).FindsContacts n e := by
  obtain ⟨a, sender, command, body⟩ := e
  apply Program.findsContacts_of_complete
  dsimp only
  have known {k : String} (hk : ((Platform.contacts a).lookup k).isSome) :
      ((Platform.program J managerKey).ctx n a).Knows k := by
    show ((n.contacts a).lookup k).isSome
    rw [hn]
    exact hk
  cases a with
  | router =>
    refine (Router.complete (known rfl) fun k hk => known ?_).liftAll
    revert k
    decide
  | profile => exact (Profile.complete (known rfl) (known rfl)).liftAll
  | managers => exact (Managers.complete (known rfl) (known rfl)).liftAll
  | managerInfo => exact (ManagerInfo.complete (known rfl)).liftAll
  | ws => exact WsServer.complete.liftAll
  | http => exact HttpServer.complete.liftAll

/-! ## The services of the device -/

namespace Device

/-- The frame asks the device for a service or for a method that it does not have. -/
def Unserved (J : Codec) (methods : List String) (ws : WebSocket) : Prop :=
  ∃ request id serviceName methodName rest, J.ReadsRequest ws.body request ∧
    request.metadata.stringAt "transport" = .ok id ∧
    split request.method = serviceName :: methodName :: rest ∧
    ¬ (serviceName = "control" ∧ methodName ∈ methods)

variable {config : Config}

theorem Control.complete (hmanager : ctx.Knows "manager") :
    ctx.Complete (Control.handlers J) := by
  intro p hp ctx' hext
  simp only [handlers, List.mem_cons, List.not_mem_nil, or_false] at hp
  rcases hp with rfl | rfl | rfl <;> intro env s task
  · simp only [on, switch, writeManager, hext.send hmanager]
  · simp only [off, switch, writeManager, hext.send hmanager]
  · simp only [status, writeManager, hext.send hmanager]

namespace Manager

section Dispatcher

variable {control : α} (hcontrol : ctx.contacts.lookup "control" = some control)
  (hclient : ctx.Knows "client")
include hcontrol hclient

/-- A request looks up what the device does not know only when it is not served. -/
theorem request_extends {ctx' : Ctx α} (hext : ctx.Extends ctx') {ws : WebSocket} {message : JsonMap}
    (hparse : J.parse ws.body = .ok message) (hrequest : message.isRequest)
    (hserved : ¬ Unserved J (ctx.messageTypes control) ws) :
    Manager.request J ctx' message = Manager.request J ctx message := by
  have hid : message.contains "id" := by
    rw [JsonMap.isRequest, Bool.and_eq_true] at hrequest
    exact hrequest.2
  have hknown : ctx.Knows "control" := by
    rw [Ctx.Knows, hcontrol]
    rfl
  unfold Manager.request
  cases htransport : (message.get "metadata").stringAt "transport" with
  | error fault => rfl
  | ok id =>
    cases hread : message.parseRequest with
    | error fault => rfl
    | ok r =>
      obtain ⟨request, m'⟩ := r
      rw [stringAt_of_parseRequest hid hread] at htransport
      simp only [Except.ok_bind', hext.send hclient]
      refine if_congr Iff.rfl ?_ rfl
      split
      · next serviceName methodName rest hsplit =>
        obtain ⟨rfl, hmethod⟩ : serviceName = "control" ∧ methodName ∈ ctx.messageTypes control := by
          by_contra hnot
          exact hserved ⟨request, id, serviceName, methodName, rest,
            ⟨message, m', hparse, hrequest, hread⟩, htransport, hsplit, hnot⟩
        have hlisted : "control" ∈ serviceList := List.mem_singleton.mpr rfl
        rw [if_pos hlisted, if_pos hlisted, hext.addresses hknown, Ctx.addresses_eq_ok.mpr hcontrol,
          Except.ok_bind', Except.ok_bind', hext.messageTypes, if_pos hmethod, if_pos hmethod]
        exact hext.send hknown ..
      · rfl

theorem dispatcher_extends {ctx' : Ctx α} (hext : ctx.Extends ctx') {ws : WebSocket}
    (hserved : ¬ Unserved J (ctx.messageTypes control) ws) (env : Env) (s : Unit) :
    dispatcher J config env ctx' s (.webSocket ws) = dispatcher J config env ctx s (.webSocket ws) := by
  simp only [dispatcher, Transport.asWebSocket_webSocket, Except.ok_bind']
  cases hparse : J.parse ws.body with
  | error fault => rfl
  | ok message =>
    simp only [Except.ok_bind', hext.send hclient]
    split
    · next hrequest => rw [request_extends hcontrol hclient hext hparse hrequest hserved]
    · rfl

/-- The other handlers of the service write to the socket of the manager. -/
theorem unserved_of_looksUp {env : Env} {s : Unit} {command name : String} {action : Action α Unit}
    {body : Body α} (hname : ¬ ctx.Knows name) (hmem : (command, action) ∈ handlers J config)
    (h : Action.LooksUp env ctx s name action body) :
    command = "dispatcher" ∧ ∃ ws, body = .transport (.webSocket ws) ∧
      Unserved J (ctx.messageTypes control) ws := by
  simp only [handlers, List.mem_cons, Prod.mk.injEq, List.not_mem_nil, or_false] at hmem
  rcases hmem with ⟨rfl, rfl⟩ | ⟨rfl, rfl⟩ | ⟨rfl, rfl⟩ | ⟨rfl, rfl⟩ <;> cases h with | @transport _ transport h
  · refine ⟨rfl, ?_⟩
    by_contra hserved
    refine hname (h.knows fun ctx' hext => ?_)
    cases transport with
    | error e => rfl
    | webSocket ws =>
      exact dispatcher_extends hcontrol hclient hext (fun h => hserved ⟨ws, rfl, h⟩) env s
  · refine absurd (h.knows fun ctx' hext => ?_) hname
    simp only [handshake, hext.send hclient]
  · refine absurd (h.knows fun ctx' hext => ?_) hname
    simp only [error, hext.send hclient]
  · refine absurd (h.knows fun ctx' hext => ?_) hname
    simp only [write, hext.send hclient]

end Dispatcher

/-- A frame that is not served is answered over a websocket server. -/
theorem dispatcher_of_unserved (config : Config) {control : α} (hcontrol : ctx.contacts.lookup "control" = some control)
    {ws : WebSocket} (h : Unserved J (ctx.messageTypes control) ws) (env : Env) (s : Unit) :
    ∃ id text, dispatcher J config env ctx s (.webSocket ws) =
      (ctx.writeTo id text).map fun out => (s, out) := by
  obtain ⟨request, id, serviceName, methodName, rest, hreads, htransport, hsplit, hnot⟩ := h
  obtain ⟨message, m', hparse, hrequest, hread⟩ := hreads
  have hid : message.contains "id" := by
    rw [JsonMap.isRequest, Bool.and_eq_true] at hrequest
    exact hrequest.2
  have hcontains : request.metadata.contains "transport" := by
    rw [JsonMap.contains, JsonMap.stringAt_eq_ok.mp htransport]
    rfl
  simp only [dispatcher, Transport.asWebSocket_webSocket, Except.ok_bind', hparse, if_pos hrequest,
    Manager.request, (stringAt_of_parseRequest hid hread).mpr htransport, hread, if_pos hcontains,
    hsplit]
  by_cases hlisted : serviceName ∈ serviceList
  · obtain rfl := List.mem_singleton.mp hlisted
    have hmethod : methodName ∉ ctx.messageTypes control := fun hmethod => hnot ⟨rfl, hmethod⟩
    refine ⟨id, "", ?_⟩
    simp only [if_pos hlisted, Ctx.addresses_eq_ok.mpr hcontrol, Except.ok_bind', if_neg hmethod]
    cases ctx.writeTo id "" <;> rfl
  · refine ⟨id, ((Reply.failed "service not found").message (task request id).request.id).serialize J, ?_⟩
    simp only [if_neg hlisted, Ctx.respond, task]
    cases ctx.writeTo id (((Reply.failed "service not found").message request.id).serialize J) <;> rfl

end Manager

/-- A frame of the manager that the device has no handler for. -/
def AsksUnserved (J : Codec) (config : Config) (e : Envelope Actor) : Prop :=
  e.dest = .manager ∧ e.command = "dispatcher" ∧ ∃ ws, e.body = .transport (.webSocket ws) ∧
    Unserved J ((program J config).messageTypes .control) ws

variable {n : State} {e : Envelope Actor}
  (hn : ∀ a name, (n.contacts a).lookup name = (contacts a).lookup name)
include hn

/-- The response to a frame without a handler finds no websocket server. -/
theorem handle_of_unserved {env : Env} (h : AsksUnserved J config e) :
    handle J config env n e = .error (.thrown "_Map_base::at") := by
  obtain ⟨hdest, hcommand, ws, hbody, hunserved⟩ := h
  obtain ⟨a, sender, command, body⟩ := e
  dsimp only at hdest hcommand hbody
  subst hdest hcommand hbody
  have hcontrol : ((program J config).ctx n .manager).contacts.lookup "control" = some .control :=
    (hn .manager "control").trans rfl
  have hws : ((program J config).ctx n .manager).contacts.lookup "ws" = none :=
    (hn .manager "ws").trans rfl
  obtain ⟨id, text, hdispatcher⟩ :=
    Manager.dispatcher_of_unserved config hcontrol hunserved env ()
  refine (Program.handle_transport rfl rfl).trans ?_
  simp only [hdispatcher, Ctx.writeTo, Ctx.send, Ctx.addresses, hws]
  rfl

/-- The response to such a frame is looked up as the websocket server. -/
theorem looksUp_of_unserved (env : Env) (h : AsksUnserved J config e) :
    (program J config).LooksUp env n e "ws" ∧ ¬ ((program J config).ctx n e.dest).Knows "ws" := by
  obtain ⟨hdest, hcommand, ws, hbody, hunserved⟩ := h
  obtain ⟨a, sender, command, body⟩ := e
  dsimp only at hdest hcommand hbody
  subst hdest hcommand hbody
  have hcontrol : ((program J config).ctx n .manager).contacts.lookup "control" = some .control :=
    (hn .manager "control").trans rfl
  have hws : ((program J config).ctx n .manager).contacts.lookup "ws" = none :=
    (hn .manager "ws").trans rfl
  have hcontrol' : (((program J config).ctx n .manager).know "ws" .client).contacts.lookup
      "control" = some .control := (Ctx.lookup_know_of_ne (by decide)).trans hcontrol
  obtain ⟨id, text, hdispatcher⟩ :=
    Manager.dispatcher_of_unserved config hcontrol hunserved env ()
  obtain ⟨id', text', hdispatcher'⟩ :=
    Manager.dispatcher_of_unserved config hcontrol' hunserved env ()
  refine ⟨.transport ⟨_, .client, .refl _, ?_⟩, ?_⟩
  · unfold Handler.lift
    rw [hdispatcher, hdispatcher', Ctx.writeTo, Ctx.send_of_contact Ctx.lookup_know_self]
    simp only [Ctx.writeTo, Ctx.send, Ctx.addresses, hws]
    intro heq
    cases heq
  · rw [Ctx.Knows, hws]
    exact Bool.false_ne_true

/-- A device finds what it looks up unless it is asked for what it does not have. -/
theorem findsContacts_iff :
    (program J config).FindsContacts n e ↔ ¬ AsksUnserved J config e := by
  constructor
  · intro h hasks
    obtain ⟨hlooks, hname⟩ := looksUp_of_unserved hn Env.calm hasks
    exact hname (h _ _ hlooks)
  intro hasks env name hlooks
  by_contra hname
  obtain ⟨action, hmem, haction⟩ := hlooks.attached
  obtain ⟨a, sender, command, body⟩ := e
  have known {k : String} (hk : ((contacts a).lookup k).isSome) :
      ((program J config).ctx n a).Knows k := by
    show ((n.contacts a).lookup k).isSome
    rw [hn]
    exact hk
  cases a with
  | control => exact hname ((Control.complete (known rfl)).liftAll.knows hmem haction)
  | client => exact hname (WsClient.complete.liftAll.knows hmem haction)
  | manager =>
    have hcontrol : ((program J config).ctx n .manager).contacts.lookup "control" = some .control :=
      (hn .manager "control").trans rfl
    obtain ⟨inner, hinner, rfl⟩ := mem_liftAll.mp hmem
    obtain ⟨hcommand, ws, hbody, hunserved⟩ :=
      Manager.unserved_of_looksUp hcontrol (known rfl) hname hinner haction.of_lift
    exact hasks ⟨rfl, hcommand, ws, hbody, hunserved⟩

end Device

/-! ## The three programs -/

/-- Once they are wired, the programs find every contact that they look up,
unless the device is asked for what it does not have. -/
theorem contact_lookups_iff (J : Codec) (config : Config) (managerKey : String)
    (deviceConfig : Device.Config) :
    (∀ c, Manager.Started J config c → (∀ e ∈ c.pending, e.Plain) →
      ∀ e, (Manager.program J config).FindsContacts c.state e) ∧
    (∀ c, Platform.Started J managerKey c → (∀ e ∈ c.pending, e.Plain) →
      ∀ e, (Platform.program J managerKey).FindsContacts c.state e) ∧
    ∀ c, Device.Started J deviceConfig c → (∀ e ∈ c.pending, e.Plain) →
      ∀ e, (Device.program J deviceConfig).FindsContacts c.state e ↔
        ¬ Device.AsksUnserved J deviceConfig e :=
  ⟨fun _ h hdone _ => Manager.findsContacts (h.lookup_eq hdone),
    fun _ h hdone _ => Platform.findsContacts (h.lookup_eq hdone),
    fun _ h hdone _ => Device.findsContacts_iff (h.lookup_eq hdone)⟩

namespace Device

/-- A client asks for an action that the device does not have, as `devices.request`
of the manager writes it. -/
def dimRequest : RequestMessage :=
  Manager.Devices.requestDeviceMessage
    { request := { id := .integer 1, method := "devices.control", params := .null, metadata := [] }
      transportId := "s", storage := ∅ } "control.dim"

def dimFrame : WebSocket := { id := "m", body := dimRequest.serialize Codec.api }

/-- The device as it starts, with the messages of its wiring. -/
def unwired : Work.Config State (Envelope Actor) :=
  ⟨{ blank with contacts := fun _ => [] }, Wire.messages initService⟩

/-- The device that is wired and gets such a request throws out of its handler. -/
theorem dim_throws : ∃ c, Started Codec.api ⟨"d", "m", "p"⟩ c ∧ c.pending = [frame dimFrame] ∧
    (∀ e ∈ c.pending, e.Plain) ∧
    ¬ (program Codec.api ⟨"d", "m", "p"⟩).FindsContacts c.state (frame dimFrame) ∧
    handle Codec.api ⟨"d", "m", "p"⟩ .calm c.state (frame dimFrame) =
      .error (.thrown "_Map_base::at") := by
  have hasks : AsksUnserved Codec.api ⟨"d", "m", "p"⟩ (frame dimFrame) := by
    have hexact : dimRequest.Exact := rfl
    exact ⟨rfl, rfl, dimFrame, rfl, dimRequest, "s", "control", "dim", [], hexact.reads_serialize, rfl,
      by decide, by decide⟩
  obtain ⟨s, hturns⟩ : ∃ s, Work.turns (handle Codec.api ⟨"d", "m", "p"⟩) .calm 6 unwired = .ok ⟨s, []⟩ :=
    ⟨_, rfl⟩
  have hstarted : Started Codec.api ⟨"d", "m", "p"⟩ ⟨s, [frame dimFrame]⟩ :=
    ⟨_, fun _ => rfl, .arrive (.of_turns (.refl _) hturns) (.frame dimFrame)⟩
  have hplain : ∀ e ∈ [frame dimFrame], e.Plain := by
    intro e he
    rw [List.mem_singleton.mp he]
    exact (Arrives.frame dimFrame).plain
  have hn := hstarted.lookup_eq hplain
  refine ⟨_, hstarted, rfl, hplain, ?_, handle_of_unserved hn hasks⟩
  rw [findsContacts_iff hn]
  exact not_not_intro hasks

end Device

end StreamCloud
