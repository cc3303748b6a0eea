-- SUMMARY: The messages that the actors of the platform send one another, and the runs they make up.
import StreamCloud.Platform.Program
import StreamCloud.Core.Typing

/-!
# Messages of the platform

As for the manager, with fewer actors: the router is again the only one that
sends a message whose handler it does not name itself.
-/

namespace StreamCloud.Platform

open Services

/-! ## Arrivals and runs -/

/-- What the sockets put into the mailboxes. -/
inductive Arrives : Envelope Actor → Prop
  | frame (ws : WebSocket) : Arrives
      { dest := .router, sender := .router, command := "dispatcher", body := .transport (.webSocket ws) }
  | socketError (e : SocketError) : Arrives
      { dest := .router, sender := .router, command := "error", body := .transport (.error e) }

/-- The message that brings a frame to the router. -/
def frame (ws : WebSocket) : Envelope Actor where
  dest := .router
  sender := .router
  command := "dispatcher"
  body := .transport (.webSocket ws)

/-- The program before it has handled a message: tables with any content, and
nothing cached or registered. -/
structure Initial (n : State) : Prop where
  contacts : n.contacts = contacts
  profilesAuth : n.services.profile.profilesAuth = ∅
  managersReg : n.services.managers.managersReg = ∅

/-- The program with empty tables. -/
def blank : State where
  services := {
    profile := { table := .empty, profilesAuth := ∅ }
    managers := { table := .empty, managersReg := ∅ }
    http := { trustedUrl := ∅ } }
  contacts := contacts

theorem blank_initial : Initial blank := ⟨rfl, rfl, rfl⟩

/-- The program with one profile, of login `a` and password `b`. -/
def oneProfile : State where
  services := { blank.services with
    profile := {
      table := ⟨[{ login := .bind "a", password := .bind "b" }], by simp⟩
      profilesAuth := ∅ } }
  contacts := contacts

theorem oneProfile_initial : Initial oneProfile := ⟨rfl, rfl, rfl⟩

/-- A run of the platform whose handled messages all meet `guard`. -/
abbrev Run (J : Codec) (managerKey : String) (guard : Env → State → Envelope Actor → Prop) :=
  Work.Run (handle J managerKey) Arrives guard

/-- The states of the platform's runs. -/
def Reachable (J : Codec) (managerKey : String) (n : State) : Prop :=
  ∃ n₀ pending, Initial n₀ ∧ Run J managerKey (fun _ _ _ => True) ⟨n₀, []⟩ ⟨n, pending⟩

theorem Initial.reachable {J : Codec} {managerKey : String} {n : State} (h : Initial n) :
    Reachable J managerKey n := ⟨n, [], h, .refl _⟩

/-! ## Messages -/

/-- What each actor sends to its contacts, but for what the router dispatches. -/
def Sent : Actor → String → String → String → Body Actor → Prop
  | .router => Router.Sent
  | .profile => Profile.Sent
  | .managers => Managers.Sent
  | .managerInfo => ManagerInfo.Sent
  | .ws | .http => fun _ _ _ _ => False

/-- What the handler of a command can leave in the mailboxes. -/
inductive Emits (ctx : Ctx Actor) (a : Actor) (command : String) (body : Body Actor) :
    List (Envelope Actor) → Prop
  | sends {out : List (Envelope Actor)} : ctx.Sends (Sent a command) out →
      Emits ctx a command body out
  | dispatches {task : Task} {dest : Actor} : a = .router → command = "service" →
      body = .task task → Router.Dispatches ctx task dest →
      Emits ctx a command body
        [{ dest, sender := ctx.self, command := task.stored "service.method", body := .task task }]

variable {J : Codec} {managerKey : String}

theorem emits_of_ran {env : Env} {ctx : Ctx Actor} {s s' : Services} {a : Actor} {command : String}
    {action : Action Actor Services} {body : Body Actor} {out : List (Envelope Actor)}
    (hmem : (command, action) ∈ (program J managerKey).attached a)
    (h : Action.Ran env ctx s action body (s', out)) : Emits ctx a command body out := by
  cases a <;> obtain ⟨inner, hinner, rfl⟩ := mem_liftAll.mp hmem <;>
    obtain ⟨component, hran, -⟩ := h.of_lift
  case router =>
    rcases Router.sends_or_dispatches J hinner hran with hsends | ⟨rfl, _, _, rfl, hd, rfl⟩
    · exact .sends hsends
    · exact .dispatches rfl rfl rfl hd
  case profile => exact .sends (Profile.sends J hinner hran)
  case managers => exact .sends (Managers.sends J hinner hran)
  case managerInfo => exact .sends (ManagerInfo.sends J hinner hran)
  case ws =>
    rcases WsServer.out_of_ran hinner hran with rfl | ⟨rfl, ws, rfl, rfl⟩
    · exact .sends Ctx.sends_nil
    · exact .sends Ctx.sends_nil
  case http => obtain rfl := HttpServer.out_of_ran hinner hran; exact .sends Ctx.sends_nil

theorem Arrives.plain {e : Envelope Actor} (h : Arrives e) : e.Plain := by
  cases h <;> exact fun _ h => nomatch h

theorem Sent.plain {a : Actor} {command name command' : String} {body : Body Actor}
    (h : Sent a command name command' body) (address : Actor) : body ≠ .address address := by
  cases a <;> cases h <;> exact fun h => nomatch h

theorem Emits.plain {ctx : Ctx Actor} {a : Actor} {command : String} {body : Body Actor}
    {out : List (Envelope Actor)} (h : Emits ctx a command body out) : ∀ e ∈ out, e.Plain := by
  intro e he
  cases h with
  | sends hsends => obtain ⟨_, name, _, hsent⟩ := hsends e he; exact hsent.plain
  | dispatches => obtain rfl := List.mem_singleton.mp he; exact fun _ h => nomatch h

/-- A frame is handled by the dispatcher of the router. -/
theorem handle_frame {env : Env} {n : State} {ws : WebSocket} :
    handle J managerKey env n (frame ws) =
      (Router.dispatcher J env ((program J managerKey).ctx n .router) () (.webSocket ws)).map
        fun r => (n, r.2) :=
  (Program.handle_transport rfl rfl).trans rfl

/-! ## Wiring -/

/-- The contacts that a handler of a wired program sees. -/
theorem lookup_of_wired {n : State} (hn : n.contacts = contacts) {a dest : Actor} {name : String}
    (h : (contacts a).lookup name = some dest) :
    ((program J managerKey).ctx n a).contacts.lookup name = some dest := by
  rw [← h, ← hn]
  rfl

theorem handle_plain {env : Env} {n n' : State} {e : Envelope Actor} {out : List (Envelope Actor)}
    (h : handle J managerKey env n e = .ok (n', out)) (hp : e.Plain) :
    n'.contacts = n.contacts ∧ ∀ e' ∈ out, e'.Plain := by
  have hhandled := Program.handled_of_eq_ok h
  exact ⟨hhandled.contacts_eq hp,
    hhandled.out_plain fun _ _ hmem hran => (emits_of_ran hmem hran).plain⟩

/-- A run keeps all contacts as they were wired. -/
theorem Run.wired_of_wired {guard : Env → State → Envelope Actor → Prop}
    {c c' : Work.Config State (Envelope Actor)} (hrun : Run J managerKey guard c c')
    (hcontacts : c.state.contacts = contacts) (hplain : ∀ e ∈ c.pending, e.Plain) :
    c'.state.contacts = contacts ∧ ∀ e ∈ c'.pending, e.Plain := by
  refine hrun.invariant (fun n => n.contacts = contacts) Envelope.Plain hcontacts hplain
    (fun _ h => h.plain) fun _ n _ n' out hn hp _ h => ?_
  obtain ⟨hcontacts, hout⟩ := handle_plain h hp
  exact ⟨hcontacts.trans hn, hout⟩

/-- The invariant rule for what every step from a wired state keeps. -/
theorem Run.invariant_of_wired {guard : Env → State → Envelope Actor → Prop}
    {c c' : Work.Config State (Envelope Actor)} (hrun : Run J managerKey guard c c')
    (hcontacts : c.state.contacts = contacts) (hplain : ∀ e ∈ c.pending, e.Plain) (P : State → Prop)
    (hP : P c.state)
    (hstep : ∀ {env n e n' out}, n.contacts = contacts → P n → guard env n e →
      handle J managerKey env n e = .ok (n', out) → P n') : P c'.state := by
  have hinv := hrun.invariant (fun n => n.contacts = contacts ∧ P n) Envelope.Plain ⟨hcontacts, hP⟩ hplain
    (fun _ h => h.plain) fun _ n _ n' out hs hp hg h => ?_
  · exact hinv.1.2
  · obtain ⟨hkept, hout⟩ := handle_plain h hp
    exact ⟨⟨hkept.trans hs.1, hstep hs.1 hs.2 hg h⟩, hout⟩

/-- In every run all contacts stay as they were wired. -/
theorem Run.wired {guard : Env → State → Envelope Actor → Prop} {n₀ : State}
    {c : Work.Config State (Envelope Actor)} (h₀ : Initial n₀)
    (hrun : Run J managerKey guard ⟨n₀, []⟩ c) :
    c.state.contacts = contacts ∧ ∀ e ∈ c.pending, e.Plain :=
  hrun.wired_of_wired h₀.contacts (by simp)

theorem Reachable.contacts_eq {n : State} (h : Reachable J managerKey n) :
    n.contacts = contacts := by
  obtain ⟨_, _, h₀, hrun⟩ := h
  exact (Run.wired h₀ hrun).1

/-! ## The registry -/

/-- Only the managers service changes what is in its table and its registry. -/
theorem managers_effect {env : Env} {n n' : State} {e : Envelope Actor} {out : List (Envelope Actor)}
    (hn : n.contacts = contacts) (h : handle J managerKey env n e = .ok (n', out)) :
    n'.services.managers = n.services.managers ∨
      e.dest = .managers ∧ n.services.managers.Effect env e.command e.body n'.services.managers := by
  obtain ⟨dest, sender, command, body⟩ := e
  cases Program.handled_of_eq_ok h with
  | syncContacts => exact .inl rfl
  | addChannel => exact .inl rfl
  | skip => exact .inl rfl
  | attached _ hmem hran =>
    cases dest <;> obtain ⟨inner, hinner, rfl⟩ := mem_liftAll.mp hmem <;>
      obtain ⟨component, hinnerRan, rfl⟩ := hran.of_lift
    case managers =>
      have hhttp : (contacts .managers).lookup "http" = some .http := rfl
      have hws : (contacts .managers).lookup "ws" = some .ws := rfl
      exact .inr ⟨rfl, Managers.effect (lookup_of_wired hn hhttp) (lookup_of_wired hn hws) hinner hinnerRan⟩
    all_goals exact .inl rfl

/-! ## Authentication -/

/-- The handling of a key by `profile.auth`. -/
theorem handle_auth {n : State} (hn : n.contacts = contacts) {env : Env} {sender : Actor}
    {task : Task} {profileKey first : String} {rest : List String}
    (hkey : task.metadataString "profile-key" = .ok profileKey)
    (hsplit : split profileKey = first :: rest) :
    handle J managerKey env n { dest := .profile, sender, command := "auth", body := .task task } =
      let forwarded : Envelope Actor := {
        dest := .router
        sender := .profile
        command := "service"
        body := .task (task.emplace "profile.login" first) }
      let denied (what : String) : Envelope Actor :=
        ((program J managerKey).ctx n .profile).response J .ws task (.failed what)
      if n.services.profile.isAuth profileKey then .ok (n, [forwarded])
      else match env.db, rest.head? with
        | some what, _ => .ok (n, [denied what])
        | none, none => .error .outOfRange
        | none, some second =>
          if second == (n.services.profile.select first).2 then
            .ok ({ n with services := { n.services with
              profile := n.services.profile.addAuth profileKey } }, [forwarded])
          else .ok (n, [denied "authentication bad"]) := by
  have hrouter : (contacts .profile).lookup "router" = some .router := rfl
  have hws : (contacts .profile).lookup "ws" = some .ws := rfl
  refine (Program.handle_task rfl rfl).trans ?_
  show (Profile.auth J env _ n.services.profile task).map _ = _
  rw [Profile.auth_eq J hkey hsplit (lookup_of_wired hn hrouter) (lookup_of_wired hn hws)]
  dsimp only
  split
  · rfl
  · cases env.db with
    | some what => rfl
    | none =>
      cases rest.head? with
      | none => rfl
      | some second => dsimp only; split <;> rfl

/-! ## Deliveries -/

/-- A request with a profile key goes to `profile.auth`. -/
theorem handle_profileFrame {n : State} (hn : n.contacts = contacts) {env : Env} {ws : WebSocket}
    {request : RequestMessage} {serviceName methodName : String} {rest : List String}
    (hreads : J.ReadsRequest ws.body request)
    (hmanager : request.metadata.contains "manager-key" = false)
    (hsplit : split request.method = serviceName :: methodName :: rest)
    (hkey : request.metadata.contains "profile-key") :
    handle J managerKey env n (frame ws) = .ok (n, [{
      dest := .profile
      sender := .router
      command := "auth"
      body := .task (Router.task request ws.id serviceName methodName) }]) := by
  have hprofile : (contacts .router).lookup "profile" = some .profile := rfl
  rw [handle_frame, Router.dispatcher_of_profileKey J hreads hmanager hsplit hkey
    (lookup_of_wired hn hprofile)]
  rfl

/-- The state after a key has been accepted. -/
def authorized (n : State) (profileKey : String) : State :=
  if n.services.profile.isAuth profileKey then n
  else { n with services := { n.services with profile := n.services.profile.addAuth profileKey } }

/-- The task of a request with an accepted key, as the router dispatches it. -/
def profileTask (request : RequestMessage) (id serviceName methodName login : String) : Task :=
  (Router.task request id serviceName methodName).emplace "profile.login" login

theorem profileTask_names {request : RequestMessage} {id serviceName methodName login : String} :
    (profileTask request id serviceName methodName login).Names serviceName methodName := ⟨rfl, rfl⟩

theorem contacts_authorized {n : State} (hn : n.contacts = contacts) (profileKey : String) :
    (authorized n profileKey).contacts = contacts := by
  unfold authorized
  split
  · exact hn
  · exact hn

/-- A key whose second part is the password is accepted, if it has not been before. -/
theorem handle_profileAuth {n : State} (hn : n.contacts = contacts) {request : RequestMessage}
    {id serviceName methodName profileKey login password : String} {pieces : List String}
    (hkey : request.metadata.stringAt "profile-key" = .ok profileKey)
    (hpieces : split profileKey = login :: password :: pieces)
    (hpassword : password = (n.services.profile.select login).2) :
    handle J managerKey .calm n {
        dest := .profile
        sender := .router
        command := "auth"
        body := .task (Router.task request id serviceName methodName) } =
      .ok (authorized n profileKey, [{
        dest := .router
        sender := .profile
        command := "service"
        body := .task (profileTask request id serviceName methodName login) }]) := by
  have htask : (Router.task request id serviceName methodName).metadataString "profile-key" =
      .ok profileKey := hkey
  rw [handle_auth hn htask hpieces, authorized]
  dsimp only
  split
  · rfl
  · simp only [Env.calm, List.head?_cons, hpassword, beq_self_eq_true, if_true]
    rfl

/-- The router delivers a task that it may dispatch. -/
theorem handle_of_dispatches {n : State} {env : Env} {sender dest : Actor} {task : Task}
    (h : Router.Dispatches ((program J managerKey).ctx n .router) task dest) :
    handle J managerKey env n { dest := .router, sender, command := "service", body := .task task } = .ok (n, [{
      dest
      sender := .router
      command := task.stored "service.method"
      body := .task task }]) := by
  refine (Program.handle_task rfl rfl).trans ?_
  show (Router.service J env ((program J managerKey).ctx n .router) () task).map _ = _
  rw [Router.service_of_dispatches J h]
  rfl

/-- A request with an accepted key is delivered to the handler it names. -/
theorem Run.delivers {guard : Env → State → Envelope Actor → Prop}
    {c : Work.Config State (Envelope Actor)} {n : State} {serviceName methodName : String}
    (hrun : Run J managerKey guard c ⟨n, []⟩)
    (hguard : ∀ n e, e.dest = .router ∨ e.dest = .profile →
      (∀ task, e.body = .task task → task.Names serviceName methodName) → guard .calm n e)
    (hn : n.contacts = contacts)
    {ws : WebSocket} {request : RequestMessage}
    {rest pieces : List String} {dest : Actor} {profileKey login password : String}
    (hreads : J.ReadsRequest ws.body request)
    (hsplit : split request.method = serviceName :: methodName :: rest)
    (hmanager : request.metadata.contains "manager-key" = false)
    (hkey : request.metadata.stringAt "profile-key" = .ok profileKey)
    (hpieces : split profileKey = login :: password :: pieces)
    (hpassword : password = (n.services.profile.select login).2)
    (hlisted : serviceName ∈ Router.serviceList)
    (hcontact : (contacts .router).lookup serviceName = some dest)
    (hmethod : methodName ∈ (program J managerKey).messageTypes dest) :
    Run J managerKey guard c
      ⟨authorized n profileKey, [{ dest, sender := .router, command := methodName,
                                   body := .task (profileTask request ws.id serviceName methodName login) }]⟩ := by
  have hcontains : request.metadata.contains "profile-key" := by
    rw [JsonMap.contains, JsonMap.stringAt_eq_ok.mp hkey]
    rfl
  have hdispatches : Router.Dispatches ((program J managerKey).ctx (authorized n profileKey) .router)
      (profileTask request ws.id serviceName methodName login) dest :=
    ⟨hlisted, lookup_of_wired (contacts_authorized hn profileKey) hcontact, hmethod⟩
  have harrived : Run J managerKey guard c ⟨n, [frame ws]⟩ := hrun.arrive (.frame ws)
  have hasked := harrived.handle_single .calm (hguard _ _ (.inl rfl) fun _ h => by cases h)
    (handle_profileFrame hn hreads hmanager hsplit hcontains)
  -- the task is named before its key is looked at
  have hauthenticated := hasked.handle_single .calm
    (hguard _ _ (.inr rfl) fun _ h => by cases h; exact ⟨rfl, rfl⟩) (handle_profileAuth hn hkey hpieces hpassword)
  exact hauthenticated.handle_single .calm (hguard _ _ (.inl rfl) fun _ h => by cases h; exact profileTask_names)
    (handle_of_dispatches hdispatches)

end StreamCloud.Platform
