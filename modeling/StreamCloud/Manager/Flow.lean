-- SUMMARY: The messages that the actors of the manager send one another, and the runs they make up.
import StreamCloud.Manager.Program
import StreamCloud.Core.Typing

/-!
# Messages of the manager

Which handler can send which message, read off the services. The router is the
only actor that sends a message whose handler it does not name itself.
-/

namespace StreamCloud.Manager

open Services

/-! ## Arrivals and runs -/

/-- What the sockets put into the mailboxes: frames and errors of the websocket
server for the router, those of the websocket client for `platform`. -/
inductive Arrives : Envelope Actor → Prop
  | frame (ws : WebSocket) : Arrives
      { dest := .router, sender := .router, command := "dispatcher", body := .transport (.webSocket ws) }
  | socketError (e : SocketError) : Arrives
      { dest := .router, sender := .router, command := "error", body := .transport (.error e) }
  | platformFrame (ws : WebSocket) : Arrives
      { dest := .platform, sender := .platform, command := "dispatcher",
        body := .transport (.webSocket ws) }
  | handshake (ws : WebSocket) : Arrives
      { dest := .platform, sender := .platform, command := "handshake",
        body := .transport (.webSocket ws) }
  | platformError (e : SocketError) : Arrives
      { dest := .platform, sender := .platform, command := "error", body := .transport (.error e) }

/-- The message that brings a frame to the router. -/
def frame (ws : WebSocket) : Envelope Actor where
  dest := .router
  sender := .router
  command := "dispatcher"
  body := .transport (.webSocket ws)

/-- The message that brings a frame of the platform to the manager. -/
def platformFrame (ws : WebSocket) : Envelope Actor where
  dest := .platform
  sender := .platform
  command := "dispatcher"
  body := .transport (.webSocket ws)

/-- The program before it has handled a message: tables with any content, and
nothing cached or registered. -/
structure Initial (n : State) : Prop where
  contacts : n.contacts = contacts
  usersAuth : n.services.users.usersAuth = ∅
  deviceSubscribes : n.services.subscriptions.deviceSubscribes = ∅
  devicesReg : n.services.devices.devicesReg = ∅
  deviceActionsReg : n.services.devices.deviceActionsReg = ∅
  deviceVariablesReg : n.services.devices.deviceVariablesReg = ∅

/-- The program with empty tables. -/
def blank : State where
  services := {
    users := { table := .empty, usersAuth := ∅ }
    groups := { table := ⟨.empty, List.nodup_nil⟩ }
    subscriptions := { rows := [], deviceSubscribes := ∅ }
    connections := { rows := [] }
    devices := {
      table := .empty, devicesReg := ∅, deviceActionsReg := ∅, deviceVariablesReg := ∅ }
    client := { closingMessage := "" }
    http := { trustedUrl := ∅ } }
  contacts := contacts

theorem blank_initial : Initial blank := ⟨rfl, rfl, rfl, rfl, rfl, rfl⟩

/-- A run of the manager whose handled messages all meet `guard`. -/
abbrev Run (J : Codec) (config : Config) (guard : Env → State → Envelope Actor → Prop) :=
  Work.Run (handle J config) Arrives guard

/-- The states of the manager's runs. -/
def Reachable (J : Codec) (config : Config) (n : State) : Prop :=
  ∃ n₀ pending, Initial n₀ ∧ Run J config (fun _ _ _ => True) ⟨n₀, []⟩ ⟨n, pending⟩

theorem Initial.reachable {J : Codec} {config : Config} {n : State} (h : Initial n) :
    Reachable J config n := ⟨n, [], h, .refl _⟩

/-! ## Messages -/

/-- What each actor sends to its contacts, but for what the router dispatches. -/
def Sent : Actor → String → String → String → Body Actor → Prop
  | .router => Router.Sent
  | .users => Users.Sent
  | .groups => Groups.Sent
  | .subscriptions => Subscriptions.Sent
  | .connections => Connections.Sent
  | .devices => Devices.Sent
  | .platform => PlatformService.Sent
  | .managerInfo => ManagerInfo.Sent
  | .ws | .client | .http => fun _ _ _ _ => False

/-- What the handler of a command can leave in the mailboxes. -/
inductive Emits (ctx : Ctx Actor) (a : Actor) (command : String) (body : Body Actor) :
    List (Envelope Actor) → Prop
  | sends {out : List (Envelope Actor)} : ctx.Sends (Sent a command) out →
      Emits ctx a command body out
  | dispatches {task : Task} {dest : Actor} : a = .router → command = "service" →
      body = .task task → Router.Dispatches ctx task dest →
      Emits ctx a command body
        [{ dest, sender := ctx.self, command := task.stored "service.method", body := .task task }]
  | pipe {ws : WebSocket} : a = .ws → command = "write" →
      Emits ctx a command body [{ dest := .platform, sender := .platform, command := "write",
                                  body := .transport (.webSocket ws) }]

variable {J : Codec} {config : Config}

theorem emits_of_ran {env : Env} {ctx : Ctx Actor} {s s' : Services} {a : Actor} {command : String}
    {action : Action Actor Services} {body : Body Actor} {out : List (Envelope Actor)}
    (hmem : (command, action) ∈ (program J config).attached a)
    (h : Action.Ran env ctx s action body (s', out)) : Emits ctx a command body out := by
  cases a <;> obtain ⟨inner, hinner, rfl⟩ := mem_liftAll.mp hmem <;>
    obtain ⟨component, hran, -⟩ := h.of_lift
  case router =>
    rcases Router.sends_or_dispatches J hinner hran with hsends | ⟨rfl, _, _, rfl, hd, rfl⟩
    · exact .sends hsends
    · exact .dispatches rfl rfl rfl hd
  case users => exact .sends (Users.sends J hinner hran)
  case groups => exact .sends (Groups.sends J hinner hran)
  case subscriptions => exact .sends (Subscriptions.sends J hinner hran)
  case connections => exact .sends (Connections.sends J hinner hran)
  case devices => exact .sends (Devices.sends J hinner hran)
  case platform => exact .sends (PlatformService.sends J config hinner hran)
  case managerInfo => exact .sends (ManagerInfo.sends J hinner hran)
  case ws =>
    rcases WsServer.out_of_ran hinner hran with rfl | ⟨rfl, ws, rfl, rfl⟩
    · exact .sends Ctx.sends_nil
    · exact .pipe rfl rfl
  case client => obtain rfl := WsClient.out_of_ran hinner hran; exact .sends Ctx.sends_nil
  case http => obtain rfl := HttpServer.out_of_ran hinner hran; exact .sends Ctx.sends_nil

theorem Arrives.plain {e : Envelope Actor} (h : Arrives e) : e.Plain := by
  cases h <;> exact fun _ h => nomatch h

theorem Sent.plain {a : Actor} {command name command' : String} {body : Body Actor}
    (h : Sent a command name command' body) (address : Actor) : body ≠ .address address := by
  cases a <;> cases h <;> first | solve_by_elim | exact fun h => nomatch h

theorem Emits.plain {ctx : Ctx Actor} {a : Actor} {command : String} {body : Body Actor}
    {out : List (Envelope Actor)} (h : Emits ctx a command body out) : ∀ e ∈ out, e.Plain := by
  intro e he
  cases h with
  | sends hsends => obtain ⟨_, name, _, hsent⟩ := hsends e he; exact hsent.plain
  | dispatches => obtain rfl := List.mem_singleton.mp he; exact fun _ h => nomatch h
  | pipe => obtain rfl := List.mem_singleton.mp he; exact fun _ h => nomatch h

/-- A frame is handled by the dispatcher of the router. -/
theorem handle_frame {env : Env} {n : State} {ws : WebSocket} :
    handle J config env n (frame ws) =
      (Router.dispatcher J config env ((program J config).ctx n .router) () (.webSocket ws)).map
        fun r => (n, r.2) :=
  (Program.handle_transport rfl rfl).trans rfl

/-! ## Wiring -/

/-- The contacts that a handler of a wired program sees. -/
theorem lookup_of_wired {n : State} (hn : n.contacts = contacts) {a dest : Actor} {name : String}
    (h : (contacts a).lookup name = some dest) :
    ((program J config).ctx n a).contacts.lookup name = some dest := by
  rw [← h, ← hn]
  rfl

/-- Every contact is known under its own name. -/
theorem name_of_lookup {n : State} (hn : n.contacts = contacts) {a dest : Actor} {name : String}
    (h : ((program J config).ctx n a).contacts.lookup name = some dest) : dest.name = name := by
  have hlookup : (contacts a).lookup name = some dest := by
    rw [← hn]
    exact h
  have hnamed : ∀ p ∈ contacts a, p.2.name = p.1 := by cases a <;> decide
  exact hnamed _ (Program.mem_of_lookup hlookup)

/-- What `skip` sends goes to an actor that cannot read it. -/
theorem not_handled_of_mem_skip {env : Env} {n : State} {e e' : Envelope Actor}
    (h : e' ∈ (program J config).skip e) (r : State × List (Envelope Actor)) :
    handle J config env n e' ≠ .ok r := by
  obtain ⟨herror, rfl⟩ := Program.of_mem_skip h
  have hsender : e.sender = .router ∨ e.sender = .platform := by
    revert herror
    cases e.sender <;> intro h <;>
      first | exact .inl rfl | exact .inr rfl |
        exact nomatch (show false = true from List.elem_eq_true_of_mem h)
  intro hr
  rcases hsender with hsender | hsender <;> rw [hsender] at hr
  · obtain ⟨_, _, hbody, -⟩ := Program.transport_of_handle (h := Router.error) (L := unitLens) rfl hr
    cases hbody
  · obtain ⟨_, _, hbody, -⟩ := Program.transport_of_handle
      (h := PlatformService.error) (L := unitLens) rfl hr
    cases hbody

/-- A frame that the platform relays comes to the router. -/
theorem handle_relayed {n : State} (hn : n.contacts = contacts) {ws ws' : WebSocket}
    (h : PlatformService.Relays J ws ws') (env : Env) {sender : Actor} :
    handle J config env n
      { dest := .platform, sender, command := "dispatcher", body := .transport (.webSocket ws) } =
        .ok (n, [{ dest := .router, sender := .platform, command := "dispatcher",
                   body := .transport (.webSocket ws') }]) := by
  have hrouter : (contacts .platform).lookup "router" = some .router := rfl
  refine (Program.handle_transport rfl rfl).trans ?_
  rw [PlatformService.dispatcher_of_relays J config h (lookup_of_wired hn hrouter)]
  rfl

theorem handle_plain {env : Env} {n n' : State} {e : Envelope Actor} {out : List (Envelope Actor)}
    (h : handle J config env n e = .ok (n', out)) (hp : e.Plain) :
    n'.contacts = n.contacts ∧ ∀ e' ∈ out, e'.Plain := by
  have hhandled := Program.handled_of_eq_ok h
  exact ⟨hhandled.contacts_eq hp,
    hhandled.out_plain fun _ _ hmem hran => (emits_of_ran hmem hran).plain⟩

/-- A run keeps all contacts as they were wired. -/
theorem Run.wired_of_wired {guard : Env → State → Envelope Actor → Prop}
    {c c' : Work.Config State (Envelope Actor)} (hrun : Run J config guard c c')
    (hcontacts : c.state.contacts = contacts) (hplain : ∀ e ∈ c.pending, e.Plain) :
    c'.state.contacts = contacts ∧ ∀ e ∈ c'.pending, e.Plain := by
  refine hrun.invariant (fun n => n.contacts = contacts) Envelope.Plain hcontacts hplain
    (fun _ h => h.plain) fun _ n _ n' out hn hp _ h => ?_
  obtain ⟨hcontacts, hout⟩ := handle_plain h hp
  exact ⟨hcontacts.trans hn, hout⟩

/-- In every run all contacts stay as they were wired. -/
theorem Run.wired {guard : Env → State → Envelope Actor → Prop} {n₀ : State}
    {c : Work.Config State (Envelope Actor)} (h₀ : Initial n₀) (hrun : Run J config guard ⟨n₀, []⟩ c) :
    c.state.contacts = contacts ∧ ∀ e ∈ c.pending, e.Plain :=
  hrun.wired_of_wired h₀.contacts (by simp)

theorem Reachable.contacts_eq {n : State} (h : Reachable J config n) : n.contacts = contacts := by
  obtain ⟨_, _, h₀, hrun⟩ := h
  exact (Run.wired h₀ hrun).1

/-! ## The registry and the cache -/

/-- Only the devices service changes what is in its table and its registry. -/
theorem devices_effect {env : Env} {n n' : State} {e : Envelope Actor} {out : List (Envelope Actor)}
    (h : handle J config env n e = .ok (n', out)) :
    n'.services.devices = n.services.devices ∨
      e.dest = .devices ∧ n.services.devices.Effect env e.command e.body n'.services.devices := by
  obtain ⟨dest, sender, command, body⟩ := e
  cases Program.handled_of_eq_ok h with
  | syncContacts => exact .inl rfl
  | addChannel => exact .inl rfl
  | skip => exact .inl rfl
  | attached _ hmem hran =>
    cases dest <;> obtain ⟨inner, hinner, rfl⟩ := mem_liftAll.mp hmem <;>
      obtain ⟨component, hinnerRan, rfl⟩ := hran.of_lift
    case devices => exact .inr ⟨rfl, Devices.effect hinner hinnerRan⟩
    all_goals exact .inl rfl

/-- Only the users service changes what is in its table and its cache. -/
theorem users_effect {env : Env} {n n' : State} {e : Envelope Actor} {out : List (Envelope Actor)}
    (h : handle J config env n e = .ok (n', out)) :
    n'.services.users = n.services.users ∨
      e.dest = .users ∧ n.services.users.Effect env e.command e.body n'.services.users := by
  obtain ⟨dest, sender, command, body⟩ := e
  cases Program.handled_of_eq_ok h with
  | syncContacts => exact .inl rfl
  | addChannel => exact .inl rfl
  | skip => exact .inl rfl
  | attached _ hmem hran =>
    cases dest <;> obtain ⟨inner, hinner, rfl⟩ := mem_liftAll.mp hmem <;>
      obtain ⟨component, hinnerRan, rfl⟩ := hran.of_lift
    case users => exact .inr ⟨rfl, Users.effect hinner hinnerRan⟩
    all_goals exact .inl rfl

/-! ## Authentication -/

/-- The handling of a key by `users.auth`. -/
theorem handle_auth {n : State} (hn : n.contacts = contacts) {env : Env} {sender : Actor}
    {task : Task} {userKey first : String} {rest : List String}
    (hkey : task.metadataString "user-key" = .ok userKey) (hsplit : split userKey = first :: rest) :
    handle J config env n { dest := .users, sender, command := "auth", body := .task task } =
      let forwarded : Envelope Actor := {
        dest := .router
        sender := .users
        command := "service"
        body := .task ((Users.noted task userKey).emplace "user.login" first) }
      let denied (what : String) : Envelope Actor :=
        ((program J config).ctx n .users).response J .ws (Users.noted task userKey) (.failed what)
      if n.services.users.isAuth userKey || task.stored "profile.key" == userKey then
        .ok (n, [forwarded])
      else match env.db, rest.head? with
        | some what, _ => .ok (n, [denied what])
        | none, none => .error .outOfRange
        | none, some second =>
          if second == (n.services.users.select first).2 then
            .ok ({ n with services := { n.services with
              users := n.services.users.addAuth userKey (n.services.users.select first).1 } },
              [forwarded])
          else .ok (n, [denied "authentication bad"]) := by
  have hrouter : (contacts .users).lookup "router" = some .router := rfl
  have hws : (contacts .users).lookup "ws" = some .ws := rfl
  refine (Program.handle_task rfl rfl).trans ?_
  show (Users.auth J env _ n.services.users task).map _ = _
  rw [Users.auth_eq J hkey hsplit (lookup_of_wired hn hrouter) (lookup_of_wired hn hws)]
  dsimp only
  split
  · rfl
  · cases env.db with
    | some what => rfl
    | none =>
      cases rest.head? with
      | none => rfl
      | some second => dsimp only; split <;> rfl

/-! ## Deliveries -/

/-- The task of an administrator's request, as the router dispatches it. -/
def adminTask (config : Config) (request : RequestMessage) (id serviceName methodName : String) : Task :=
  (Users.noted (Router.task config request id serviceName methodName) config.profileKey).emplace
    "user.login" ((split config.profileKey).head (split_ne_nil _))

theorem adminTask_names {config : Config} {request : RequestMessage} {id serviceName methodName : String} :
    (adminTask config request id serviceName methodName).Names serviceName methodName :=
  Users.names_noted (Router.names_task ..)

/-- The message in which `users.auth` gives an administrator's task back to the router. -/
def adminMessage (config : Config) (request : RequestMessage) (id serviceName methodName : String) :
    Envelope Actor where
  dest := .router
  sender := .users
  command := "service"
  body := .task (adminTask config request id serviceName methodName)

/-- A request of the administrator is accepted by `users.auth`. -/
theorem Run.accepts {guard : Env → State → Envelope Actor → Prop}
    {c : Work.Config State (Envelope Actor)} {n : State} {serviceName methodName : String}
    (hrun : Run J config guard c ⟨n, []⟩)
    (hguard : ∀ e, e.dest = .router ∨ e.dest = .users →
      (∀ task, e.body = .task task → task.Names serviceName methodName) → guard .calm n e)
    (hn : n.contacts = contacts) {ws : WebSocket} {request : RequestMessage}
    {rest : List String} (hreads : J.ReadsRequest ws.body request)
    (hsplit : split request.method = serviceName :: methodName :: rest)
    (hkey : request.metadata.stringAt "user-key" = .ok config.profileKey) :
    Run J config guard c ⟨n, [adminMessage config request ws.id serviceName methodName]⟩ := by
  obtain ⟨first, pieces, hpieces⟩ := exists_split config.profileKey
  have husers : (contacts .router).lookup "users" = some .users := rfl
  have hcontains : request.metadata.contains "user-key" := by
    rw [JsonMap.contains, JsonMap.stringAt_eq_ok.mp hkey]
    rfl
  have htask : adminTask config request ws.id serviceName methodName =
      (Users.noted (Router.task config request ws.id serviceName methodName)
        config.profileKey).emplace "user.login" first := by
    simp only [adminTask, hpieces, List.head_cons]
  have hframe : handle J config .calm n (frame ws) = .ok (n, [{
      dest := .users
      sender := .router
      command := "auth"
      body := .task (Router.task config request ws.id serviceName methodName) }]) := by
    rw [handle_frame, Router.dispatcher_of_userKey J hreads hsplit hcontains (lookup_of_wired hn husers)]
    rfl
  have hauth : handle J config .calm n {
        dest := .users
        sender := .router
        command := "auth"
        body := .task (Router.task config request ws.id serviceName methodName) } =
      .ok (n, [adminMessage config request ws.id serviceName methodName]) := by
    have hmetadata : (Router.task config request ws.id serviceName methodName).metadataString
        "user-key" = .ok config.profileKey := hkey
    rw [handle_auth hn hmetadata hpieces, Router.stored_task_profileKey, adminMessage, htask]
    exact if_pos (by simp)
  have harrived : Run J config guard c ⟨n, [frame ws]⟩ := hrun.arrive (.frame ws)
  have hauthenticated := harrived.handle_single .calm (hguard _ (.inl rfl) fun _ h => by cases h) hframe
  refine hauthenticated.handle_single .calm (hguard _ (.inr rfl) fun _ h => ?_) hauth
  cases h
  exact Router.names_task ..

/-- The router delivers a task that it may dispatch. -/
theorem handle_of_dispatches {n : State} {env : Env} {sender dest : Actor} {task : Task}
    (h : Router.Dispatches ((program J config).ctx n .router) task dest) :
    handle J config env n { dest := .router, sender, command := "service", body := .task task } = .ok (n, [{
      dest
      sender := .router
      command := task.stored "service.method"
      body := .task task }]) := by
  refine (Program.handle_task rfl rfl).trans ?_
  show (Router.service J env ((program J config).ctx n .router) () task).map _ = _
  rw [Router.service_of_dispatches J h]
  rfl

/-- The router delivers an administrator's task to the handler it names. -/
theorem handle_adminMessage {n : State} (hn : n.contacts = contacts) {request : RequestMessage}
    {id serviceName methodName : String} {dest : Actor} (hlisted : serviceName ∈ Router.serviceList)
    (hcontact : (contacts .router).lookup serviceName = some dest)
    (hmethod : methodName ∈ (program J config).messageTypes dest) :
    handle J config .calm n (adminMessage config request id serviceName methodName) = .ok (n, [{
      dest
      sender := .router
      command := methodName
      body := .task (adminTask config request id serviceName methodName) }]) := by
  have hdispatches : Router.Dispatches ((program J config).ctx n .router)
      (adminTask config request id serviceName methodName) dest := by
    refine ⟨hlisted, lookup_of_wired hn hcontact, hmethod, .inl ?_⟩
    rw [adminTask, Task.stored_emplace_ne (by decide), Users.stored_noted_admin,
      Router.stored_task_profileKey, if_pos (by simp)]
  exact handle_of_dispatches hdispatches

/-- A request of the administrator is delivered to the handler it names. -/
theorem Run.delivers {guard : Env → State → Envelope Actor → Prop}
    {c : Work.Config State (Envelope Actor)} {n : State} {serviceName methodName : String}
    (hrun : Run J config guard c ⟨n, []⟩)
    (hguard : ∀ e, e.dest = .router ∨ e.dest = .users →
      (∀ task, e.body = .task task → task.Names serviceName methodName) → guard .calm n e)
    (hn : n.contacts = contacts) {ws : WebSocket}
    {request : RequestMessage} {rest : List String} {dest : Actor}
    (hreads : J.ReadsRequest ws.body request)
    (hsplit : split request.method = serviceName :: methodName :: rest)
    (hkey : request.metadata.stringAt "user-key" = .ok config.profileKey)
    (hlisted : serviceName ∈ Router.serviceList)
    (hcontact : (contacts .router).lookup serviceName = some dest)
    (hmethod : methodName ∈ (program J config).messageTypes dest) :
    Run J config guard c
      ⟨n, [{ dest, sender := .router, command := methodName,
             body := .task (adminTask config request ws.id serviceName methodName) }]⟩ := by
  refine (hrun.accepts hguard hn hreads hsplit hkey).handle_single .calm (hguard _ (.inl rfl) fun _ h => ?_)
    (handle_adminMessage hn hlisted hcontact hmethod)
  cases h
  exact adminTask_names

end StreamCloud.Manager
