-- SUMMARY: Which requests to the manager are answered exactly once, whatever happens meanwhile.
import StreamCloud.Verification.ManagerSurvival
import StreamCloud.Verification.Termination
import StreamCloud.Verification.Answers

/-!
# The fate of a request

On its way through the manager, a request is carried by one message at a time,
until something is written for it: its response, or the request for a device.
Two handlers are in the way of this. `devices.disconnect` answers nothing, and
`users.auth` gives a task that names it to itself; only the administrator gets
a request to them.
-/

namespace StreamCloud.Manager

/-- What is written for a request: its response, or a request for somebody who can
tell the session that the response is for. -/
inductive Answer (request : RequestMessage) (id : String) : WebSocket → Prop
  | response (reply : Reply) :
      Answer request id ⟨id, (reply.message request.id).serialize Codec.api⟩
  | relay (session : String) (msg : RequestMessage) : msg.id = request.id →
      msg.metadata.find? "transport" = some (.string id) →
      Answer request id ⟨session, msg.serialize Codec.api⟩

/-- A task on its way to a handler that has the request as it came: but for the groups of
a device, which its metadata can hold, and but for the params on the last way of
`subscriptions.devices`, where the groups of the user stand in place of them. -/
structure Bears (request : RequestMessage) (id : String) (dest : Actor) (command : String) (task : Task) :
    Prop where
  transportId : task.transportId = id
  id : task.request.id = request.id
  method : task.request.method = request.method
  params : ¬ (dest = .connections ∧ command = "groups") → task.request.params = request.params
  metadata : ∀ key ≠ "device-groups", task.request.metadata.find? key = request.metadata.find? key

/-- The message that carries a request, or the frame that is written for it. -/
inductive Stage (request : RequestMessage) (id : String) : Envelope Actor → Prop
  | frame {sender : Actor} {text : String} : Codec.api.ReadsRequest text request →
      Stage request id (frameFrom sender ⟨id, text⟩)
  | task {dest sender : Actor} {command : String} {task : Task} : dest ≠ .ws →
      Bears request id dest command task →
      Stage request id { dest, sender, command, body := .task task }
  | written {sender : Actor} {ws : WebSocket} : Answer request id ws →
      Stage request id (sessionMessage sender ws)

/-- The websocket server has not yet handled what it is given. -/
abbrev ServerWaits (_ : Env) (_ : State) (e : Envelope Actor) : Prop := e.dest ≠ .ws

/-- The request is answered exactly once: no handler stops on its way, the way has an
end, and until the websocket server handles what is written for it, one message carries
the request or is what was written. Other messages are handled as they come. -/
structure AnsweredOnce (config : Config) (request : RequestMessage) (id : String)
    (c : Work.Followed State (Envelope Actor)) : Prop where
  unfailing : Work.Unfailing (handle Codec.api config) Arrives (fun _ _ _ => True)
    (fun _ _ _ => True) c
  dies : Work.Dies (handle Codec.api config) Arrives (fun _ _ _ => True) (fun _ _ _ => True) c
  single {c' : Work.Followed State (Envelope Actor)} :
    Work.Follow (handle Codec.api config) Arrives (fun _ _ _ => True) ServerWaits c c' →
      ∃ e, c'.family = [e] ∧ Stage request id e

/-- The administrator's requests to the two handlers that do not answer. -/
def Unanswerable (config : Config) (request : RequestMessage) : Prop :=
  request.metadata.find? "user-key" = some (.string config.profileKey) ∧
    ∃ rest, split request.method = "users" :: "auth" :: rest ∨
      split request.method = "devices" :: "disconnect" :: rest

/-- A text whose request is answered once, by whomever and whenever it is sent. -/
def Answered (config : Config) (text : String) : Prop :=
  ∃ request, Codec.api.ReadsRequest text request ∧ ∀ n₀ n pending sender id, Initial n₀ →
    Run Codec.api config (fun _ _ _ => True) ⟨n₀, []⟩ ⟨n, pending⟩ →
    AnsweredOnce config request id ⟨n, pending, [frameFrom sender ⟨id, text⟩]⟩

/-! ## Messages on the way -/

/-- The task is that of the request, and named after it. -/
structure Names (request : RequestMessage) (id : String) (task : Task) : Prop where
  eq : task.request = request
  transportId : task.transportId = id
  split : ∃ rest, split request.method =
    task.stored "service.name" :: task.stored "service.method" :: rest

theorem Names.bears {request : RequestMessage} {id : String} {task : Task} (h : Names request id task)
    (dest : Actor) (command : String) : Bears request id dest command task := by
  obtain ⟨rfl, htransport, -⟩ := h
  exact ⟨htransport, rfl, rfl, fun _ => rfl, fun _ _ => rfl⟩

/-- A message that carries the request, with what the handlers on its way demand. -/
inductive Travels (config : Config) (request : RequestMessage) (id : String) : Envelope Actor → Prop
  | frame {sender : Actor} {text : String} : Harmless config text →
      Codec.api.ReadsRequest text request → Travels config request id (frameFrom sender ⟨id, text⟩)
  | auth {sender : Actor} {task : Task} : KeyedTask config task → Names request id task →
      Travels config request id { dest := .users, sender, command := "auth", body := .task task }
  | service {sender : Actor} {task : Task} : KeyedTask config task → Passed config task →
      Names request id task →
      Travels config request id { dest := .router, sender, command := "service", body := .task task }
  | handler {dest sender : Actor} {command : String} {task : Task} :
      Accepts dest command task.request → ¬ (dest = .devices ∧ command = "disconnect") →
      Bears request id dest command task →
      Travels config request id { dest, sender, command, body := .task task }
  | written {sender : Actor} {ws : WebSocket} : Answer request id ws →
      Travels config request id (sessionMessage sender ws)

variable {config : Config} {request : RequestMessage} {id : String}

/-- The handlers that accept requests are those of the five services, and `manager.info`. -/
theorem Accepts.dest {dest : Actor} {command : String} (h : Accepts dest command request) :
    dest ∈ taskServices ∨ dest = .managerInfo ∧ command = "info" := by
  cases h with
  | strings hmem _ =>
    have hall : ∀ p ∈ stringParams, p.1 ∈ taskServices ∨ p.1 = .managerInfo ∧ p.2.1 = "info" := by
      decide
    exact hall _ hmem
  | _ => exact .inl (by decide)

/-- None of them is `skip`, or `users.auth`. -/
theorem Accepts.handled {dest : Actor} {command : String} (h : Accepts dest command request) :
    (program Codec.api config).reaction dest command ≠ .skip := by
  cases h with
  | strings hmem _ =>
    simp only [stringParams, List.mem_cons, Prod.mk.injEq, List.not_mem_nil, or_false] at hmem
    rcases hmem with ⟨rfl, rfl, -⟩ | ⟨rfl, rfl, -⟩ | ⟨rfl, rfl, -⟩ | ⟨rfl, rfl, -⟩ | ⟨rfl, rfl, -⟩ |
      ⟨rfl, rfl, -⟩ | ⟨rfl, rfl, -⟩ | ⟨rfl, rfl, -⟩ | ⟨rfl, rfl, -⟩ | ⟨rfl, rfl, -⟩ | ⟨rfl, rfl, -⟩ |
      ⟨rfl, rfl, -⟩ | ⟨rfl, rfl, -⟩ | ⟨rfl, rfl, -⟩ | ⟨rfl, rfl, -⟩ | ⟨rfl, rfl, -⟩ | ⟨rfl, rfl, -⟩ |
      ⟨rfl, rfl, -⟩ | ⟨rfl, rfl, -⟩ | ⟨rfl, rfl, -⟩ | ⟨rfl, rfl, -⟩ | ⟨rfl, rfl, -⟩ | ⟨rfl, rfl, -⟩ |
      ⟨rfl, rfl, -⟩ | ⟨rfl, rfl, -⟩ <;> (intro h; cases h)
  | _ => intro h; cases h

theorem not_accepts_auth : ¬ Accepts .users "auth" request := by
  intro h
  cases h with
  | strings hmem _ =>
    have hall : ∀ p ∈ stringParams, ¬ (p.1 = Actor.users ∧ p.2.1 = "auth") := by decide
    exact hall _ hmem ⟨rfl, rfl⟩

theorem not_accepts_router {command : String} : ¬ Accepts .router command request := by
  intro h
  rcases h.dest with hdest | ⟨hdest, -⟩ <;> exact absurd hdest (by decide)

/-- What travels is safe. -/
theorem Travels.safe {e : Envelope Actor} (h : Travels config request id e) (hws : e.dest ≠ .ws) :
    Safe config e := by
  cases h with
  | frame hharmless _ => exact .frame hharmless
  | auth htask _ => exact .auth htask
  | service htask hpassed _ => exact .service htask hpassed
  | handler haccepts => exact .handler haccepts
  | written => exact absurd rfl hws

theorem Travels.stage {e : Envelope Actor} (h : Travels config request id e) : Stage request id e := by
  cases h with
  | frame _ hreads => exact .frame hreads
  | auth _ hnames => exact .task (by simp) (hnames.bears _ _)
  | service _ _ hnames => exact .task (by simp) (hnames.bears _ _)
  | handler haccepts _ hbears =>
    refine .task ?_ hbears
    rintro rfl
    rcases haccepts.dest with hdest | ⟨hdest, -⟩ <;> exact absurd hdest (by decide)
  | written hanswer => exact .written hanswer

/-- What is known of a safe task. -/
theorem Safe.of_task {e : Envelope Actor} {task : Task} (h : Safe config e) (hbody : e.body = .task task) :
    (e.dest = .users ∧ e.command = "auth") ∧ KeyedTask config task ∨
      (e.dest = .router ∧ e.command = "service") ∧ KeyedTask config task ∧ Passed config task ∨
      Accepts e.dest e.command task.request := by
  cases h with
  | auth htask => cases hbody; exact .inl ⟨⟨rfl, rfl⟩, htask⟩
  | service htask hpassed => cases hbody; exact .inr (.inl ⟨⟨rfl, rfl⟩, htask, hpassed⟩)
  | handler haccepts => cases hbody; exact .inr (.inr haccepts)
  | _ => cases hbody

/-! ## One step -/

section Step

variable {env : Env} {n n' : State} {out : List (Envelope Actor)}

/-- A response for the session of the request. -/
theorem travels_response {task : Task} {ctx : Ctx Actor} {server : Actor} (hws : server = .ws)
    (hid : task.request.id = request.id) (htransport : task.transportId = id) (reply : Reply) :
    Travels config request id (ctx.response Codec.api server task reply) := by
  subst hws
  have hanswer : Answer request id (responseTo task reply) := by
    rw [responseTo, hid, htransport]
    exact .response reply
  exact .written hanswer

variable (hn : Kept config n) (hanswerable : ¬ Unanswerable config request)
include hn

/-- What comes of a message that is safe and handled is safe. -/
theorem safe_of_handled {e : Envelope Actor} (hsafe : Safe config e)
    (h : handle Codec.api config env n e = .ok (n', out)) : SafeOut config out := by
  obtain ⟨r, hr, hout⟩ : (handle Codec.api config env n e).Yields fun r => SafeOut config r.2 :=
    safe_closed hn.contacts hn.passable hsafe
  obtain rfl := Except.ok.inj (hr.symm.trans h)
  exact hout

omit hn in
/-- The contacts of an actor are those of the wiring. -/
theorem dest_of_wired (hn : Kept config n) {a dest dest' : Actor} {name : String}
    (hdest : ((program Codec.api config).ctx n a).contacts.lookup name = some dest)
    (hwired : (contacts a).lookup name = some dest') : dest = dest' :=
  Option.some.inj (hdest.symm.trans (lookup_of_wired hn.contacts hwired))

/-- Everybody knows the websocket server under one name. -/
theorem ws_of_wired {a server : Actor}
    (hws : ((program Codec.api config).ctx n a).contacts.lookup "ws" = some server) : server = .ws := by
  have hlookup : (contacts a).lookup "ws" = some server := by
    rw [← hn.contacts]
    exact hws
  cases a <;> cases hlookup <;> rfl

/-- The dispatcher answers the request, or makes a task of it. -/
theorem frame_travels {sender : Actor} {text : String} (hharmless : Harmless config text)
    (hreads : Codec.api.ReadsRequest text request)
    (h : handle Codec.api config env n (frameFrom sender ⟨id, text⟩) = .ok (n', out)) :
    ∃ e', out = [e'] ∧ Travels config request id e' := by
  have hsafe := safe_of_handled hn (.frame hharmless) h
  obtain ⟨transport, component, htransport, hrun, -⟩ := Program.transport_of_handle rfl h
  cases htransport
  rcases Router.dispatcher_cases Codec.api hrun with ⟨request', hreads', hcases⟩ | ⟨m, hparse, hnot, -⟩
  · obtain rfl : request' = request := hreads'.unique hreads
    rcases hcases with ⟨reply, hwrite⟩ | ⟨name, command, task, -, -, hsend⟩
    · obtain ⟨server, hws, rfl⟩ := Ctx.writeTo_eq_ok.mp hwrite
      obtain rfl := ws_of_wired hn hws
      exact ⟨_, rfl, .written (.response reply)⟩
    · obtain ⟨dest, hdest, rfl⟩ := Ctx.send_eq_ok.mp hsend
      obtain ⟨ws, request'', serviceName, methodName, rest, htransport, hreads'', hsplit, rfl, hto⟩ :=
        Router.dispatcher_task Codec.api hrun (List.mem_singleton_self _) rfl
      cases htransport
      obtain rfl : request'' = request' := hreads''.unique hreads
      have hknown := (hsafe _ (List.mem_singleton_self _)).of_task rfl
      dsimp only at hto hknown
      refine ⟨_, rfl, ?_⟩
      rcases hto with ⟨-, husers, rfl⟩ | ⟨-, hquest, hservice, rfl⟩
      · obtain rfl : dest = .users := dest_of_wired hn husers rfl
        rcases hknown with ⟨-, htask⟩ | ⟨⟨hdest, -⟩, -⟩ | haccepts
        · exact .auth htask ⟨rfl, rfl, rest, hsplit⟩
        · cases hdest
        · exact absurd haccepts not_accepts_auth
      · -- a guest logs in, or asks for the key of the manager
        have hne : dest ≠ .devices ∧ dest ≠ .router := by
          have hsent : Router.Sent "dispatcher" serviceName command
              (.task (Router.task config request'' id serviceName command) : Body Actor) :=
            Router.quest_sends hsplit hquest _
          rcases hsent.name_of_task with rfl | rfl
          · obtain rfl : dest = .users := dest_of_wired hn hservice rfl
            decide
          · obtain rfl : dest = .managerInfo := dest_of_wired hn hservice rfl
            decide
        rcases hknown with ⟨⟨rfl, rfl⟩, htask⟩ | ⟨⟨hdest, -⟩, -⟩ | haccepts
        · exact .auth htask ⟨rfl, rfl, rest, hsplit⟩
        · exact absurd hdest hne.2
        · exact .handler haccepts (fun hdisconnect => hne.1 hdisconnect.1)
            ⟨rfl, rfl, rfl, fun _ => rfl, fun _ _ => rfl⟩
  · obtain ⟨m', _, hparse', hrequest, -⟩ := hreads
    obtain rfl : m' = m := Except.ok.inj (hparse'.symm.trans hparse)
    exact absurd hrequest (by simp [hnot])

/-- `users.auth` answers the request, or gives it back to the router. -/
theorem auth_travels {sender : Actor} {task : Task} (htask : KeyedTask config task)
    (hnames : Names request id task)
    (h : handle Codec.api config env n { dest := .users, sender, command := "auth", body := .task task } =
      .ok (n', out)) :
    ∃ e', out = [e'] ∧ Travels config request id e' := by
  have hsafe := safe_of_handled hn (.auth htask) h
  obtain ⟨key, hfind, hpieces, -⟩ := htask.harmless
  obtain ⟨first, rest, hsplit⟩ := exists_split key
  have hkey : task.metadataString "user-key" = .ok key := JsonMap.stringAt_eq_ok.mpr hfind
  let forwarded : Envelope Actor := {
    dest := .router
    sender := .users
    command := "service"
    body := .task ((Users.noted task key).emplace "user.login" first) }
  have hforward (hsafe : Safe config forwarded) : Travels config request id forwarded := by
    rcases hsafe.of_task rfl with ⟨⟨hdest, -⟩, -⟩ | ⟨-, htask', hpassed⟩ | haccepts
    · cases hdest
    · obtain ⟨rest, hsplit⟩ := hnames.split
      refine .service htask' hpassed ⟨hnames.eq, hnames.transportId, rest, ?_⟩
      simpa [Task.stored_emplace_ne, Users.stored_noted_ne] using hsplit
    · exact absurd haccepts not_accepts_router
  have hdenied (what : String) : Travels config request id (((program Codec.api config).ctx n .users).response
      Codec.api .ws (Users.noted task key) (.failed what)) :=
    travels_response rfl (by rw [hnames.eq]) hnames.transportId _
  rw [handle_auth hn.contacts hkey hsplit] at h
  dsimp only at h
  split at h
  · cases h
    exact ⟨_, rfl, hforward (hsafe _ (List.mem_singleton_self _))⟩
  · split at h
    · cases h
      exact ⟨_, rfl, hdenied _⟩
    · cases h
    · split at h
      · cases h
        exact ⟨_, rfl, hforward (hsafe _ (List.mem_singleton_self _))⟩
      · cases h
        exact ⟨_, rfl, hdenied _⟩

omit hn in
/-- Users do not call the two handlers that do not answer. -/
theorem split_of_userMethod {method serviceName methodName : String} {rest : List String}
    (hmem : method ∈ Router.userMethodList) (hsplit : split method = serviceName :: methodName :: rest) :
    ¬ (serviceName = "users" ∧ methodName = "auth") ∧
      ¬ (serviceName = "devices" ∧ methodName = "disconnect") := by
  have hall : ∀ method ∈ Router.userMethodList, (split method).take 2 ≠ ["users", "auth"] ∧
      (split method).take 2 ≠ ["devices", "disconnect"] := by decide
  obtain ⟨hauth, hdisconnect⟩ := hall method hmem
  rw [hsplit] at hauth hdisconnect
  refine ⟨?_, ?_⟩
  · rintro ⟨rfl, rfl⟩
    exact hauth rfl
  · rintro ⟨rfl, rfl⟩
    exact hdisconnect rfl

include hanswerable in
/-- The router answers the request, or calls a handler that will. -/
theorem service_travels {sender : Actor} {task : Task} (htask : KeyedTask config task)
    (hpassed : Passed config task) (hnames : Names request id task)
    (h : handle Codec.api config env n { dest := .router, sender, command := "service", body := .task task } =
      .ok (n', out)) :
    ∃ e', out = [e'] ∧ Travels config request id e' := by
  have hsafe := safe_of_handled hn (.service htask hpassed) h
  obtain ⟨task', component, hbody, hrun, -⟩ := Program.task_of_handle rfl h
  cases hbody
  have hself (name : String) (dest : Actor)
      (hdest : ((program Codec.api config).ctx n .router).contacts.lookup name = some dest) :
      dest ≠ .router := by
    have hlookup : (contacts .router).lookup name = some dest := by
      rw [← hn.contacts]
      exact hdest
    exact contacts_ne hlookup
  have hsettled := Router.service_settles hself env _ _ hrun
  rcases Router.service_cases Codec.api hrun with hsends | ⟨dest, hd, rfl⟩
  · generalize hout : out = out' at hsettled
    cases hsettled with
    | response reply hws =>
      subst hout
      obtain rfl := ws_of_wired hn hws
      exact ⟨_, rfl, travels_response rfl (by rw [hnames.eq]) hnames.transportId reply⟩
    | forward name command task'' =>
      subst hout
      obtain ⟨-, name, -, hsent⟩ := hsends _ (List.mem_singleton_self _)
      exact absurd hsent.dispatcher_of_task (by decide)
  · obtain ⟨hdest, hname, -⟩ := method_of_dispatches hn.contacts hd
    obtain ⟨rest, hsplit⟩ := hnames.split
    -- only the administrator names one of the two handlers, and then the request is unanswerable
    have hother : ¬ (task.stored "service.name" = "users" ∧ task.stored "service.method" = "auth") ∧
        ¬ (task.stored "service.name" = "devices" ∧ task.stored "service.method" = "disconnect") := by
      rcases hd.permitted with hadmin | hmethod
      · obtain ⟨key, hfind, -, hprofile⟩ := hpassed
        rw [hprofile hadmin, hnames.eq] at hfind
        constructor
        · rintro ⟨hname, hmethod⟩
          exact hanswerable ⟨hfind, rest, .inl (by rw [hsplit, hname, hmethod])⟩
        · rintro ⟨hname, hmethod⟩
          exact hanswerable ⟨hfind, rest, .inr (by rw [hsplit, hname, hmethod])⟩
      · rw [hnames.eq] at hmethod
        exact split_of_userMethod hmethod hsplit
    refine ⟨_, rfl, ?_⟩
    rcases (hsafe _ (List.mem_singleton_self _)).of_task rfl with ⟨⟨rfl, hauth⟩, -⟩ | ⟨⟨rfl, -⟩, -⟩ | haccepts
    · exact absurd ⟨hname, hauth⟩ hother.1
    · exact absurd hdest (by decide)
    · refine .handler haccepts ?_ (hnames.bears _ _)
      rintro ⟨rfl, hdisconnect⟩
      exact hother.2 ⟨hname, hdisconnect⟩

omit hn in
/-- Apart from the router, nobody calls `disconnect` of the devices service. -/
theorem Sent.ne_disconnect {a : Actor} {command name command' : String} {body : Body Actor}
    (h : Sent a command name command' body) : command' ≠ "disconnect" := by
  cases a <;> cases h <;> decide

omit hn in
/-- `connections.groups` gives its task to nobody. -/
theorem Sent.ne_groups {a : Actor} {command name command' : String} {task : Task}
    (h : Sent a command name command' (.task task)) : ¬ (a = .connections ∧ command = "groups") := by
  rintro ⟨rfl, hcommand⟩
  cases h <;> exact absurd hcommand (by decide)

omit hn in
/-- What bears the request is forwarded as what bears it. -/
theorem Bears.forwards {dest dest' : Actor} {command name name' command' : String} {task task' : Task}
    (h : Bears request id dest command task) (hsent : Sent dest command name' command' (.task task'))
    (hname : dest'.name = name) (hforwards : Forwards task name command' task') :
    Bears request id dest' command' task' where
  transportId := hforwards.transportId.trans h.transportId
  id := hforwards.id.trans h.id
  method := hforwards.method.trans h.method
  params hgroups := by
    have hother : ¬ (name = "connections" ∧ command' = "groups") := by
      rintro ⟨hconnections, hcommand⟩
      refine hgroups ⟨?_, hcommand⟩
      rw [hconnections] at hname
      revert hname
      cases dest' <;> decide
    exact (hforwards.params hother).trans (h.params hsent.ne_groups)
  metadata key hkey := (hforwards.metadata hkey).trans (h.metadata key hkey)

omit hn in
/-- A task that comes of a task is one of those that its actor sends. -/
theorem sent_of_task {e e' : Envelope Actor} {task task' : Task} (hrouter : e.dest ≠ .router)
    (hws : e.dest ≠ .ws) (hbody : e.body = .task task)
    (h : handle Codec.api config env n e = .ok (n', out)) (he' : e' ∈ out) (hbody' : e'.body = .task task') :
    ∃ name, Sent e.dest e.command name e'.command (.task task') := by
  cases Program.handled_of_eq_ok h with
  | syncContacts _ haddress => rw [hbody] at haddress; cases haddress
  | addChannel _ hchannel => rw [hbody] at hchannel; cases hchannel
  | skip =>
    unfold Program.skip at he'
    split at he'
    · rw [List.mem_singleton.mp he'] at hbody'
      cases hbody'
    · cases he'
  | attached _ hmem hran =>
    cases emits_of_ran hmem hran with
    | sends hsends =>
      obtain ⟨-, name, -, hsent⟩ := hsends e' he'
      exact ⟨name, hbody' ▸ hsent⟩
    | dispatches ha => exact absurd ha hrouter
    | pipe ha => exact absurd ha hws

/-- A service answers the request, or gives it to another one. -/
theorem handler_travels {dest sender : Actor} {command : String} {task : Task}
    (haccepts : Accepts dest command task.request) (hdisconnect : ¬ (dest = .devices ∧ command = "disconnect"))
    (hbears : Bears request id dest command task)
    (h : handle Codec.api config env n { dest, sender, command, body := .task task } = .ok (n', out)) :
    ∃ e', out = [e'] ∧ Travels config request id e' := by
  have hsafe := safe_of_handled hn (.handler haccepts) h
  have hwritten {ctx : Ctx Actor} {server : Actor} (hws : server = .ws) (reply : Reply) :
      Travels config request id (ctx.response Codec.api server task reply) :=
    travels_response hws hbears.id hbears.transportId reply
  rcases haccepts.dest with hdest | ⟨rfl, rfl⟩
  · have hdisposed : Disposed ((program Codec.api config).ctx n dest) n.services.devices task out := by
      have honce := (settledOnce_iff hn.contacts hdest rfl h).mpr fun hsilent =>
        hsilent.elim haccepts.handled hdisconnect
      rcases out_of_task hn.contacts rfl h with hskip | hdisposed
      · -- what `skip` sends settles nothing
        obtain ⟨before, e', after, rfl, hsettles, -⟩ := honce
        have hmem := hskip e' (by simp)
        unfold Program.skip at hmem
        split at hmem
        · rw [List.mem_singleton.mp hmem] at hsettles
          exact absurd hsettles (not_settles_text rfl)
        · cases hmem
      · exact hdisposed
    generalize hout : out = out' at hdisposed
    cases hdisposed with
    | relay session msg hws hhands =>
      subst hout
      obtain rfl := ws_of_wired hn hws
      obtain ⟨_, action, -, -, -, rfl⟩ := hhands
      refine ⟨_, rfl, .written (.relay session _ hbears.id ?_)⟩
      rw [← hbears.transportId]
      rfl
    | alone halone =>
      cases halone with
      | response reply hws =>
        subst hout
        exact ⟨_, rfl, hwritten (ws_of_wired hn hws) reply⟩
      | forward name command' task' hcontact hself hforwards =>
        subst hout
        refine ⟨_, rfl, ?_⟩
        have hne : dest ≠ .router ∧ dest ≠ .ws := by
          constructor <;> (rintro rfl; exact absurd hdest (by decide))
        obtain ⟨_, hsent⟩ := sent_of_task hne.1 hne.2 rfl h (List.mem_singleton_self _) rfl
        rcases (hsafe _ (List.mem_singleton_self _)).of_task rfl with
          ⟨⟨-, hauth⟩, -⟩ | ⟨⟨-, hservice⟩, -⟩ | haccepts'
        · exact absurd (hsent.of_auth hauth).1 hne.1
        · obtain ⟨rfl, rfl⟩ := hsent.of_service hservice
          exact absurd haccepts not_accepts_auth
        · exact .handler haccepts' (fun hdisconnect => hsent.ne_disconnect hdisconnect.2)
            (hbears.forwards hsent (name_of_lookup hn.contacts hcontact) hforwards)
  · -- manager.info
    obtain ⟨task', component, hbody, hrun, -⟩ := Program.task_of_handle rfl h
    cases hbody
    have hsettled : SettledAlone ((program Codec.api config).ctx n .managerInfo) task out :=
      respond_settles rfl rfl _ hrun
    generalize hout : out = out' at hsettled
    cases hsettled with
    | response reply hws =>
      subst hout
      exact ⟨_, rfl, hwritten (ws_of_wired hn hws) reply⟩
    | forward _ command' task' =>
      subst hout
      obtain ⟨name, hsent⟩ := sent_of_task (by simp) (by simp) rfl h (List.mem_singleton_self _) rfl
      cases hsent

include hanswerable in
/-- What carries the request is followed by one message, until the request is answered. -/
theorem Travels.step {e : Envelope Actor} (he : Travels config request id e) (hws : e.dest ≠ .ws)
    (h : handle Codec.api config env n e = .ok (n', out)) :
    ∃ e', out = [e'] ∧ Travels config request id e' := by
  cases he with
  | frame hharmless hreads => exact frame_travels hn hharmless hreads h
  | auth htask hnames => exact auth_travels hn htask hnames h
  | service htask hpassed hnames => exact service_travels hn hanswerable htask hpassed hnames h
  | handler haccepts hdisconnect hbears => exact handler_travels hn haccepts hdisconnect hbears h
  | written => exact absurd rfl hws

end Step

/-! ## Runs -/

section Runs

variable {n : State} {pending : List (Envelope Actor)}

/-- As long as the websocket server keeps what it is given, one message carries the request. -/
theorem travels_of_follow (hn : Kept config n) (hplain : ∀ e ∈ pending, e.Plain)
    (hanswerable : ¬ Unanswerable config request) {e : Envelope Actor}
    (he : Travels config request id e) {c' : Work.Followed State (Envelope Actor)}
    (hfollow : Work.Follow (handle Codec.api config) Arrives (fun _ _ _ => True) ServerWaits
      ⟨n, pending, [e]⟩ c') : ∃ e', c'.family = [e'] ∧ Travels config request id e' := by
  refine (hfollow.single (Kept config) Envelope.Plain (Travels config request id) hn hplain ⟨e, rfl, he⟩
    (fun _ h => h.plain) (fun env n e n' out hn hplain _ heq => hn.handled hplain heq) ?_).2.2
  intro env n e n' out hn he hws heq
  exact ⟨(hn.handled (he.safe hws).plain heq).1, he.step hn hanswerable hws heq⟩

/-- A frame whose request is answerable does not loop. -/
theorem tame_of_answerable {sender : Actor} {text : String} (hreads : Codec.api.ReadsRequest text request)
    (hanswerable : ¬ Unanswerable config request) :
    Tame Codec.api config (frameFrom sender ⟨id, text⟩) where
  plain := fun _ h => by cases h
  frames ws hbrings := by
    rintro ⟨request', rest, hreads', hsplit, hkey⟩
    cases hbrings with
    | frame =>
      obtain rfl := hreads.unique hreads'
      exact hanswerable ⟨JsonMap.stringAt_eq_ok.mp hkey, rest, .inl hsplit⟩
  auth _ hdest := by cases hdest
  service _ _ hcommand := by simp [frameFrom] at hcommand

end Runs

/-! ## Requests that are not answered -/

section Unanswered

variable {text : String} {sender : Actor}

variable {id serviceName methodName : String} {rest : List String}

/-- A request with a user key is given to `users.auth`. -/
theorem handle_keyed_frame {n : State} (hn : n.contacts = contacts) {env : Env}
    (hreads : Codec.api.ReadsRequest text request)
    (hsplit : split request.method = serviceName :: methodName :: rest)
    (hcontains : request.metadata.contains "user-key") :
    handle Codec.api config env n (frameFrom sender ⟨id, text⟩) =
      .ok (n, [{ dest := .users, sender := .router, command := "auth",
                 body := .task (Router.task config request id serviceName methodName) }]) := by
  have husers : (contacts .router).lookup "users" = some .users := rfl
  refine (Program.handle_transport rfl rfl).trans ?_
  show (Router.dispatcher Codec.api config env ((program Codec.api config).ctx n .router) ()
    (.webSocket ⟨id, text⟩)).map _ = _
  rw [Router.dispatcher_of_userKey Codec.api hreads hsplit hcontains (lookup_of_wired hn husers)]
  rfl

/-- The administrator's request for a handler comes to it. -/
theorem reaches_handler {dest : Actor} (hreads : Codec.api.ReadsRequest text request)
    (hsplit : split request.method = serviceName :: methodName :: rest)
    (hkey : request.metadata.find? "user-key" = some (.string config.profileKey))
    (hlisted : serviceName ∈ Router.serviceList) (hcontact : (contacts .router).lookup serviceName = some dest)
    (hhandled : methodName ∈ (program Codec.api config).messageTypes dest) :
    ∃ task, Work.Follow (handle Codec.api config) Arrives (fun _ _ _ => True) ServerWaits
      ⟨blank, [], [frameFrom sender ⟨id, text⟩]⟩
      ⟨blank, [], [{ dest, sender := .router, command := methodName, body := .task task }]⟩ := by
  have hcontains : request.metadata.contains "user-key" := by
    rw [JsonMap.contains, hkey]
    rfl
  obtain ⟨first, pieces, hpieces⟩ := exists_split config.profileKey
  let task := Router.task config request id serviceName methodName
  let noted := (Users.noted task config.profileKey).emplace "user.login" first
  have hname : noted.stored "service.name" = serviceName :=
    (Task.stored_emplace_ne (by decide)).trans (Users.stored_noted_ne (by decide))
  have hmethod : noted.stored "service.method" = methodName :=
    (Task.stored_emplace_ne (by decide)).trans (Users.stored_noted_ne (by decide))
  have hframe : handle Codec.api config .calm blank (frameFrom sender ⟨id, text⟩) =
      .ok (blank, [{ dest := .users, sender := .router, command := "auth", body := .task task }]) :=
    handle_keyed_frame rfl hreads hsplit hcontains
  have hauth : handle Codec.api config .calm blank
      { dest := .users, sender := .router, command := "auth", body := .task task } =
      .ok (blank, [{ dest := .router, sender := .users, command := "service", body := .task noted }]) := by
    rw [handle_auth rfl (JsonMap.stringAt_eq_ok.mpr hkey) hpieces]
    dsimp only
    rw [if_pos (by simp [task])]
  have hd : Router.Dispatches ((program Codec.api config).ctx blank .router) noted dest := {
    listed := hname ▸ hlisted
    contact := by
      rw [hname]
      exact hcontact
    method := hmethod ▸ hhandled
    permitted := .inl ((noted_admin rfl).mpr rfl) }
  have hservice : handle Codec.api config .calm blank
      { dest := .router, sender := .users, command := "service", body := .task noted } =
      .ok (blank, [{ dest, sender := .router, command := methodName, body := .task noted }]) := by
    rw [← hmethod]
    exact handle_of_dispatches hd
  refine ⟨noted, ?_⟩
  have hstart : Work.Follow (handle Codec.api config) Arrives (fun _ _ _ => True) ServerWaits
      ⟨blank, [], [frameFrom sender ⟨id, text⟩]⟩ ⟨blank, [], [frameFrom sender ⟨id, text⟩]⟩ := .refl _
  have hkeyed := hstart.member_single (by simp [frameFrom]) hframe
  have hpassed := hkeyed.member_single (by simp) hauth
  exact hpassed.member_single (by simp) hservice

end Unanswered

/-- A text has its request answered exactly once just if it is harmless, and its request
is not one of the administrator's for the two handlers that do not answer. -/
theorem answered_iff (config : Config) (text : String) :
    Answered config text ↔ Harmless config text ∧
      ∃ request, Codec.api.ReadsRequest text request ∧ ¬ Unanswerable config request := by
  constructor
  · rintro ⟨request, hreads, honce⟩
    have hsurvives : Survives config text := fun n₀ n pending sender id h₀ hrun =>
      (honce n₀ n pending sender id h₀ hrun).unfailing
    refine ⟨hsurvives.harmless, request, hreads, ?_⟩
    rintro ⟨hkey, rest, hauth | hdisconnect⟩
    · -- the task goes around forever
      have hcontains : request.metadata.contains "user-key" := by
        rw [JsonMap.contains, hkey]
        rfl
      have hkeyed : handle Codec.api config .calm blank (frameFrom .router ⟨"x", text⟩) =
          .ok (blank, [authMessage config request "users" "auth"]) :=
        handle_keyed_frame rfl hreads hauth hcontains
      have hdies := (honce blank blank [] .router "x" blank_initial (.refl _)).dies
      have hcircling : Circling (authMessage config request "users" "auth") :=
        .auth ⟨rfl, rfl⟩ (JsonMap.stringAt_eq_ok.mpr hkey)
      exact hcircling.not_dies blank_initial.contacts
        (hdies.follow (Work.Follow.member_single (.refl _) trivial hkeyed))
    · -- the task comes to `disconnect`, which returns, and answers nothing
      have honce := honce blank blank [] .router "x" blank_initial (.refl _)
      obtain ⟨task, hfollow⟩ := reaches_handler hreads hdisconnect hkey (by decide) rfl
        (List.mem_of_elem_eq_true rfl)
      obtain ⟨⟨n', out⟩, heq⟩ := honce.unfailing _ (hfollow.mono (fun _ _ _ h => h) fun _ _ _ _ => trivial) _
        (List.mem_singleton_self _) .calm
      obtain ⟨task', component, -, hrun, -⟩ := Program.task_of_handle rfl heq
      obtain ⟨key, -, hrun⟩ := Except.bind_eq_ok.mp hrun
      cases hrun
      obtain ⟨e, hfamily, -⟩ := honce.single (hfollow.member_single (by simp) heq)
      cases hfamily
  · rintro ⟨hharmless, request, hreads, hanswerable⟩
    refine ⟨request, hreads, fun n₀ n pending sender id h₀ hrun => ?_⟩
    obtain ⟨hn, hplain⟩ := kept_of_run h₀ hrun
    exact {
      unfailing := unfailing_of_harmless hn hplain hharmless
      dies := (tame_of_answerable hreads hanswerable).dies hn.contacts hplain fun _ h => h
      single := fun hfollow => by
        obtain ⟨e, hfamily, he⟩ :=
          travels_of_follow hn hplain hanswerable (.frame hharmless hreads) hfollow
        exact ⟨e, hfamily, he.stage⟩ }

end StreamCloud.Manager
