-- SUMMARY: Only the administrator's frames change what a manager stores and which devices are registered.
import StreamCloud.Verification.Termination
import StreamCloud.Api.JsonSorted

/-!
# Administration

The handlers that change a table or the registry are called for the administrator
alone. Nobody else's frames change them, whatever they make the manager do.
-/

namespace StreamCloud.Manager

/-! ## What is stored -/

/-- The tables and the registry of devices are the same. -/
structure SameStore (n n' : State) : Prop where
  users : n'.services.users.table = n.services.users.table
  groups : n'.services.groups = n.services.groups
  subscriptions : n'.services.subscriptions.rows = n.services.subscriptions.rows
  connections : n'.services.connections = n.services.connections
  devices : n'.services.devices = n.services.devices

theorem SameStore.refl (n : State) : SameStore n n := ⟨rfl, rfl, rfl, rfl, rfl⟩

theorem SameStore.trans {n n' n'' : State} (h : SameStore n n') (h' : SameStore n' n'') : SameStore n n'' where
  users := h'.users.trans h.users
  groups := h'.groups.trans h.groups
  subscriptions := h'.subscriptions.trans h.subscriptions
  connections := h'.connections.trans h.connections
  devices := h'.devices.trans h.devices

/-- The commands whose handlers change what is stored. -/
def storeCommands : List String := ["add", "delete", "connect", "disconnect"]

variable {J : Codec} {config : Config}

section Services

variable {env : Env} {ctx : Ctx Actor}

theorem Users.table_of_ran {s s' : Users} {command : String} {action : Action Actor Users} {body : Body Actor}
    {out : List (Envelope Actor)} (hcommand : command ∉ storeCommands)
    (hmem : (command, action) ∈ Users.handlers J) (h : Action.Ran env ctx s action body (s', out)) :
    s'.table = s.table := by
  cases Users.effect hmem h with
  | keep => rfl
  | add => exact absurd (by decide) hcommand
  | delete => exact absurd (by decide) hcommand
  | accept => rfl

theorem Groups.eq_of_ran {s s' : Groups} {command : String} {action : Action Actor Groups} {body : Body Actor}
    {out : List (Envelope Actor)} (hcommand : command ∉ storeCommands)
    (hmem : (command, action) ∈ Groups.handlers J) (h : Action.Ran env ctx s action body (s', out)) :
    s' = s := by
  simp only [Groups.handlers, List.mem_cons, Prod.mk.injEq, List.not_mem_nil, or_false] at hmem
  rcases hmem with ⟨rfl, rfl⟩ | ⟨rfl, rfl⟩ | ⟨rfl, rfl⟩
  · exact absurd (by decide) hcommand
  · exact absurd (by decide) hcommand
  · -- list
    cases h with
    | task h =>
      refine Ctx.answer_ensures (Q := fun s' => s' = s) rfl (fun _ => ?_) _ h
      exact Except.ensures_bind.mpr fun _ _ => Except.ensures_ok.mpr rfl

theorem Subscriptions.rows_of_ran {s s' : Subscriptions} {command : String}
    {action : Action Actor Subscriptions} {body : Body Actor} {out : List (Envelope Actor)}
    (hcommand : command ∉ storeCommands) (hmem : (command, action) ∈ Subscriptions.handlers J)
    (h : Action.Ran env ctx s action body (s', out)) : s'.rows = s.rows := by
  have hsame {s' : Subscriptions} (h : s' = s) : s'.rows = s.rows := congrArg _ h
  have hdone {s' : Subscriptions} {reply : Reply} (h : s'.rows = s.rows) :
      (.ok (s', reply) : Except Fault (Subscriptions × Reply)).Ensures fun r => r.1.rows = s.rows :=
    Except.ensures_ok.mpr h
  simp only [Subscriptions.handlers, List.mem_cons, Prod.mk.injEq, List.not_mem_nil, or_false] at hmem
  rcases hmem with ⟨rfl, rfl⟩ | ⟨rfl, rfl⟩ | ⟨rfl, rfl⟩ | ⟨rfl, rfl⟩ | ⟨rfl, rfl⟩ | ⟨rfl, rfl⟩ |
    ⟨rfl, rfl⟩ | ⟨rfl, rfl⟩ <;> cases h with | _ h
  · exact absurd (by decide) hcommand
  · exact absurd (by decide) hcommand
  · -- list
    refine Ctx.answer_ensures (Q := fun s' => s'.rows = s.rows) rfl (fun _ => ?_) _ h
    exact Except.ensures_bind.mpr fun _ _ => hdone rfl
  · exact hsame (Subscriptions.devices_keeps _ h)
  · exact hsame (Subscriptions.groups_keeps _ h)
  · -- on
    refine Ctx.answer_ensures (Q := fun s' => s'.rows = s.rows) rfl (fun _ => ?_) _ h
    refine Except.ensures_bind.mpr fun _ _ => Except.ensures_bind.mpr fun _ _ => ?_
    exact Except.ensures_ite (fun _ => hdone rfl) fun _ =>
      Except.ensures_ite (fun _ => hdone rfl) fun _ => hdone rfl
  · -- off
    refine Ctx.answer_ensures (Q := fun s' => s'.rows = s.rows) rfl (fun _ => ?_) _ h
    exact Except.ensures_ite (fun _ => hdone rfl) fun _ => hdone rfl
  · exact hsame (Subscriptions.emit_keeps J _ _ h)

theorem Connections.eq_of_ran {s s' : Connections} {command : String} {action : Action Actor Connections}
    {body : Body Actor} {out : List (Envelope Actor)} (hcommand : command ∉ storeCommands)
    (hmem : (command, action) ∈ Connections.handlers J) (h : Action.Ran env ctx s action body (s', out)) :
    s' = s := by
  have hforward (deviceKey : Task → Except Fault String) (next : String) (task : Task) :
      (Connections.forwardGroups J deviceKey next env ctx s task).Ensures fun r => r.1 = s := by
    unfold Connections.forwardGroups
    refine Except.ensures_bind.mpr fun _ _ => Except.ensures_ite (fun _ => Ctx.return_keeps) fun _ => ?_
    refine catchStd_ensures ?_ fun _ => Ctx.return_keeps
    refine Except.ensures_bind.mpr fun _ _ => ?_
    exact Except.ensures_ite (fun _ => Ctx.return_keeps) fun _ => Ctx.return_keeps
  have hunsubscribe (task : Task) : (Connections.unsubscribe J env ctx s task).Ensures fun r => r.1 = s := by
    unfold Connections.unsubscribe
    refine Except.ensures_bind.mpr fun _ _ => Except.ensures_ite (fun _ => Ctx.return_keeps) fun _ => ?_
    exact catchStd_ensures Ctx.return_keeps fun _ => Ctx.return_keeps
  simp only [Connections.handlers, List.mem_cons, Prod.mk.injEq, List.not_mem_nil, or_false] at hmem
  rcases hmem with ⟨rfl, rfl⟩ | ⟨rfl, rfl⟩ | ⟨rfl, rfl⟩ | ⟨rfl, rfl⟩ | ⟨rfl, rfl⟩ | ⟨rfl, rfl⟩ |
    ⟨rfl, rfl⟩ <;> cases h with | _ h
  · exact absurd (by decide) hcommand
  · exact absurd (by decide) hcommand
  · -- list
    refine Ctx.answer_ensures (Q := fun s' => s' = s) rfl (fun _ => ?_) _ h
    exact Except.ensures_bind.mpr fun _ _ => Except.ensures_ok.mpr rfl
  · -- groups
    refine Ctx.answer_ensures (Q := fun s' => s' = s) rfl (fun _ => ?_) _ h
    refine Except.ensures_bind.mpr fun _ _ => Except.ensures_bind.mpr fun _ _ => ?_
    exact Except.ensures_ok.mpr rfl
  · exact hforward _ _ _ _ h
  · exact hforward _ _ _ _ h
  · -- unsubscribe
    exact hunsubscribe _ _ h

theorem Devices.eq_of_ran {s s' : Devices} {command : String} {action : Action Actor Devices}
    {body : Body Actor} {out : List (Envelope Actor)} (hcommand : command ∉ storeCommands)
    (hmem : (command, action) ∈ Devices.handlers J) (h : Action.Ran env ctx s action body (s', out)) :
    s' = s := by
  cases Devices.effect hmem h with
  | keep => rfl
  | add => exact absurd (by decide) hcommand
  | delete => exact absurd (by decide) hcommand
  | connect => exact absurd (by decide) hcommand
  | disconnect => exact absurd (by decide) hcommand

end Services

/-- The handler of any other command leaves everything stored as it was. -/
theorem sameStore_of_handle {env : Env} {n n' : State} {e : Envelope Actor} {out : List (Envelope Actor)}
    (hcommand : e.command ∉ storeCommands) (h : handle J config env n e = .ok (n', out)) : SameStore n n' := by
  obtain ⟨dest, sender, command, body⟩ := e
  cases Program.handled_of_eq_ok h with
  | syncContacts => exact ⟨rfl, rfl, rfl, rfl, rfl⟩
  | addChannel => exact .refl n
  | skip => exact .refl n
  | attached _ hmem hran =>
    cases dest <;> obtain ⟨inner, hinner, rfl⟩ := mem_liftAll.mp hmem <;>
      obtain ⟨component, hinnerRan, rfl⟩ := hran.of_lift
    case users => exact ⟨Users.table_of_ran hcommand hinner hinnerRan, rfl, rfl, rfl, rfl⟩
    case groups => exact ⟨rfl, Groups.eq_of_ran hcommand hinner hinnerRan, rfl, rfl, rfl⟩
    case subscriptions => exact ⟨rfl, rfl, Subscriptions.rows_of_ran hcommand hinner hinnerRan, rfl, rfl⟩
    case connections => exact ⟨rfl, rfl, rfl, Connections.eq_of_ran hcommand hinner hinnerRan, rfl⟩
    case devices => exact ⟨rfl, rfl, rfl, rfl, Devices.eq_of_ran hcommand hinner hinnerRan⟩
    all_goals exact ⟨rfl, rfl, rfl, rfl, rfl⟩

/-! ## Messages of others -/

/-- The frame is a request with the key of the administrator. -/
def FromAdmin (config : Config) (ws : WebSocket) : Prop :=
  ∃ request, Codec.api.ReadsRequest ws.body request ∧
    request.metadata.stringAt "user-key" = .ok config.profileKey

/-- The task is stored under the handler that the method of its request names. -/
def NamesMethod (task : Task) : Prop :=
  ∃ rest, split task.request.method = task.stored "service.name" :: task.stored "service.method" :: rest

/-- A message that nothing of the administrator's has caused. -/
structure Others (config : Config) (e : Envelope Actor) : Prop where
  plain : e.Plain
  command : e.command ∉ storeCommands
  frames : ∀ ws, Brings Codec.api e ws → ¬ FromAdmin config ws
  auth : ∀ task, e.dest = .users → e.command = "auth" → e.body = .task task →
    task.stored "profile.key" = config.profileKey ∧ NamesMethod task ∧
      task.request.metadata.stringAt "user-key" ≠ .ok config.profileKey
  service : ∀ task, e.dest = .router → e.command = "service" → e.body = .task task →
    task.stored "user.admin" ≠ "1" ∧ NamesMethod task

/-- Messages other than frames and those to and from `users.auth`. -/
theorem Others.of_command {e : Envelope Actor} (hplain : e.Plain) (hcommand : e.command ∉ storeCommands)
    (hdispatcher : e.command ≠ "dispatcher") (hauth : ¬ (e.dest = .users ∧ e.command = "auth"))
    (hservice : e.command ≠ "service") : Others config e where
  plain := hplain
  command := hcommand
  frames := by rintro ws (_ | _) <;> exact absurd rfl hdispatcher
  auth _ hdest hauth' := absurd ⟨hdest, hauth'⟩ hauth
  service _ _ hservice' := absurd hservice' hservice

/-- What the dispatcher gives to `users.auth` for a frame of others. -/
theorem Others.auth_of_dispatcher {n n' : State} {env : Env} {e e' : Envelope Actor}
    {out : List (Envelope Actor)} (hdest : e.dest = .router) (hcommand : e.command = "dispatcher")
    (ho : Others config e) (h : handle Codec.api config env n e = .ok (n', out)) (he' : e' ∈ out)
    (hauth' : e'.command = "auth") (hplain : e'.Plain) : Others config e' := by
  obtain ⟨dest, sender, command, body⟩ := e
  obtain rfl := hdest
  obtain rfl := hcommand
  obtain ⟨transport, component, rfl, hrun, -⟩ := Program.transport_of_handle rfl h
  obtain ⟨ws, request, serviceName, methodName, rest, rfl, hreads, hsplit, hbody⟩ :=
    Router.dispatcher_auth Codec.api hrun he' hauth'
  refine {
    plain := hplain
    command := by rw [hauth']; decide
    frames := ?_
    auth := fun task _ _ htask => ?_
    service := fun _ _ hservice => absurd (hauth'.symm.trans hservice) (by decide) }
  · rintro ws' (_ | _) <;> exact absurd hauth' (by decide : "dispatcher" ≠ "auth")
  · rw [hbody] at htask
    cases htask
    exact ⟨rfl, ⟨rest, hsplit⟩, fun hkey => ho.frames ws (.frame ws) ⟨request, hreads, hkey⟩⟩

/-- What `users.auth` gives to the router is noted not to be the administrator's. -/
theorem Others.service_of_auth {n n' : State} (hn : n.contacts = contacts) {env : Env}
    {e e' : Envelope Actor} {out : List (Envelope Actor)} (hdest : e.dest = .users)
    (hcommand : e.command = "auth") (ho : Others config e)
    (h : handle Codec.api config env n e = .ok (n', out)) (he' : e' ∈ out)
    (hservice' : e'.command = "service") (hplain : e'.Plain) : Others config e' := by
  obtain ⟨dest, sender, command, body⟩ := e
  obtain rfl := hdest
  obtain rfl := hcommand
  obtain ⟨task, component, rfl, hrun, -⟩ := Program.task_of_handle rfl h
  have hrouter : (contacts .users).lookup "router" = some .router := rfl
  have hws : (contacts .users).lookup "ws" = some .ws := rfl
  obtain ⟨userKey, first, -, hkey, -, hbody⟩ := Users.auth_service Codec.api (lookup_of_wired hn hrouter)
    (lookup_of_wired hn hws) hrun he' hservice'
  refine {
    plain := hplain
    command := by rw [hservice']; decide
    frames := ?_
    auth := fun _ _ hauth => absurd (hservice'.symm.trans hauth) (by decide)
    service := fun task' _ _ htask => ?_ }
  · rintro ws' (_ | _) <;> exact absurd hservice' (by decide : "dispatcher" ≠ "service")
  · rw [hbody] at htask
    cases htask
    obtain ⟨hprofile, ⟨rest, hsplit⟩, hne⟩ := ho.auth task rfl rfl rfl
    have hadmin : (task.stored "profile.key" == userKey) = false :=
      beq_eq_false_iff_ne.mpr fun heq => hne ((hprofile.symm.trans heq) ▸ hkey)
    refine ⟨by simp [Task.stored_emplace_ne, hadmin], rest, ?_⟩
    simpa [Task.stored_emplace_ne, Users.stored_noted_ne] using hsplit

/-- What `platform` gives to the router for a frame of others. -/
theorem Others.frame_of_relay {n n' : State} {env : Env} {e e' : Envelope Actor}
    {out : List (Envelope Actor)} (hdest : e.dest = .platform) (hcommand : e.command = "dispatcher")
    (ho : Others config e) (h : handle Codec.api config env n e = .ok (n', out)) (he' : e' ∈ out)
    (hdispatcher' : e'.command = "dispatcher") (hdest' : e'.dest = .router) (hplain : e'.Plain) :
    Others config e' := by
  obtain ⟨dest, sender, command, body⟩ := e
  obtain ⟨dest', sender', command', body'⟩ := e'
  obtain rfl := hdest
  obtain rfl := hcommand
  obtain rfl := hdest'
  obtain rfl := hdispatcher'
  obtain ⟨transport, component, rfl, hrun, -⟩ := Program.transport_of_handle rfl h
  obtain ⟨ws, ws', rfl, hrelays, hbody⟩ := PlatformService.dispatcher_relays Codec.api config hrun he' rfl
  dsimp only at hbody
  subst hbody
  refine {
    plain := hplain
    command := (by decide : "dispatcher" ∉ storeCommands)
    frames := ?_
    auth := fun _ hauth => nomatch hauth
    service := fun _ _ hservice => absurd hservice (by simp) }
  intro ws'' hbrings
  cases hbrings with
  | frame => exact ho.frames ws' (.relayed hrelays)

theorem Sent.command_notMem {a : Actor} {command name command' : String} {body : Body Actor}
    (h : Sent a command name command' body) (hno : command' ∈ storeCommands) : False := by
  cases a <;> cases h <;> exact absurd hno (by decide)

/-- What the methods of users name is neither `users.auth` nor a handler that changes what is stored. -/
theorem method_of_userMethodList {method serviceName methodName : String} {rest : List String}
    (h : method ∈ Router.userMethodList) (hsplit : split method = serviceName :: methodName :: rest) :
    serviceName ≠ "users" ∧ methodName ∉ storeCommands := by
  have hall : ∀ method ∈ Router.userMethodList, (split method)[0]? ≠ some "users" ∧
      ∀ command ∈ storeCommands, (split method)[1]? ≠ some command := by decide
  obtain ⟨hservice, hmethod⟩ := hall method h
  rw [hsplit] at hservice hmethod
  exact ⟨fun heq => hservice (congrArg some heq), fun hmem => hmethod methodName hmem rfl⟩

/-- The step lemma: what others cause changes nothing stored, and causes nothing else. -/
theorem Others.step {n n' : State} (hn : n.contacts = contacts) {env : Env} {e : Envelope Actor}
    {out : List (Envelope Actor)} (ho : Others config e)
    (h : handle Codec.api config env n e = .ok (n', out)) :
    n'.contacts = contacts ∧ SameStore n n' ∧ ∀ e' ∈ out, Others config e' := by
  obtain ⟨hcontacts, hplain⟩ := handle_plain h ho.plain
  refine ⟨hcontacts.trans hn, sameStore_of_handle ho.command h, fun e' he' => ?_⟩
  cases Program.handled_of_eq_ok h with
  | syncContacts => cases he'
  | addChannel => cases he'
  | skip hreaction =>
    obtain ⟨-, hcommand⟩ := rank_skip_lt hreaction he'
    exact .of_command (hplain e' he') (by rw [hcommand]; decide) (by rw [hcommand]; decide)
      (fun hauth => absurd (hcommand.symm.trans hauth.2) (by decide)) (by rw [hcommand]; decide)
  | attached _ hmem hran =>
    cases emits_of_ran hmem hran with
    | sends hsends =>
      obtain ⟨-, name, hdest, hsent⟩ := hsends e' he'
      have hdest : (contacts e.dest).lookup name = some e'.dest := by rw [← hn]; exact hdest
      by_cases hauth : e'.command = "auth"
      · obtain ⟨ha, hcommand⟩ := hsent.of_auth hauth
        exact ho.auth_of_dispatcher ha hcommand h he' hauth (hplain e' he')
      by_cases hservice : e'.command = "service"
      · obtain ⟨ha, hcommand⟩ := hsent.of_service hservice
        exact ho.service_of_auth hn ha hcommand h he' hservice (hplain e' he')
      by_cases hdispatcher : e'.command = "dispatcher"
      · obtain ⟨ha, hcommand, rfl⟩ := hsent.of_dispatcher hdispatcher
        rw [ha] at hdest
        have hrouter : e'.dest = .router := (Option.some.inj hdest).symm
        exact ho.frame_of_relay ha hcommand h he' hdispatcher hrouter (hplain e' he')
      · exact .of_command (hplain e' he') (fun hno => hsent.command_notMem hno) hdispatcher
          (fun hnames => hauth hnames.2) hservice
    | @dispatches task dest ha hcommand hbody hd =>
      obtain rfl := List.mem_singleton.mp he'
      rw [ha] at hd
      obtain ⟨-, hname, hdispatcher, hservice⟩ := method_of_dispatches hn hd
      obtain ⟨hadmin, rest, hsplit⟩ := ho.service task ha hcommand hbody
      -- only the methods of users are permitted
      obtain ⟨husers, hmethod⟩ := method_of_userMethodList (hd.permitted.resolve_left hadmin) hsplit
      refine .of_command (hplain _ he') hmethod hdispatcher (fun hnames => husers ?_) hservice
      rw [hname, show dest = .users from hnames.1]
      rfl
    | pipe ha hcommand =>
      obtain rfl := List.mem_singleton.mp he'
      exact .of_command (hplain _ he') (by simp [storeCommands]) (by simp) (fun hauth => nomatch hauth.1)
        (by simp)

/-- An arrival that brings no frame of the administrator. -/
def ArrivesOfOthers (config : Config) (e : Envelope Actor) : Prop :=
  Arrives e ∧ ∀ ws, Brings Codec.api e ws → ¬ FromAdmin config ws

theorem ArrivesOfOthers.others {e : Envelope Actor} (h : ArrivesOfOthers config e) : Others config e := by
  obtain ⟨harrives, hframes⟩ := h
  have hcommand : e.command ∉ storeCommands ∧ e.command ≠ "auth" ∧ e.command ≠ "service" := by
    cases harrives <;> simp [storeCommands]
  exact {
    plain := harrives.plain
    command := hcommand.1
    frames := hframes
    auth := fun _ _ hauth => absurd hauth hcommand.2.1
    service := fun _ _ hservice => absurd hservice hcommand.2.2 }

/-- As long as no frame of the administrator arrives, whatever a manager stores stays
as it was, and so do the devices that are registered. -/
theorem store_changes_need_admin (config : Config) {n₀ n : State} {c : Work.Config State (Envelope Actor)}
    (h₀ : Initial n₀) (hbefore : Run Codec.api config (fun _ _ _ => True) ⟨n₀, []⟩ ⟨n, []⟩)
    (hrun : Work.Run (handle Codec.api config) (ArrivesOfOthers config) (fun _ _ _ => True) ⟨n, []⟩ c) :
    SameStore n c.state := by
  have hn := (Run.wired h₀ hbefore).1
  have hkept := hrun.invariant (fun n' => n'.contacts = contacts ∧ SameStore n n') (Others config)
    ⟨hn, .refl n⟩ (by simp) (fun _ h => h.others) fun env n' e n'' out hn' ho _ heq => by
      obtain ⟨hcontacts, hsame, hout⟩ := ho.step hn'.1 heq
      exact ⟨⟨hcontacts, hn'.2.trans hsame⟩, hout⟩
  exact hkept.1.2

/-- A user asks for the devices. -/
def userRequest : RequestMessage where
  id := .integer 1
  method := "devices.list"
  params := .null
  metadata := [("user-key", .string "a.b")]

/-- The same request on its way to `users.auth`. -/
def userMessage : Envelope Actor where
  dest := .users
  sender := .router
  command := "auth"
  body := .task (Router.task ⟨"p.q", "m"⟩ userRequest "s" "devices" "list")

theorem store_changes_need_admin_list :
    SameStore blank (⟨blank, [userMessage]⟩ : Work.Config State (Envelope Actor)).state := by
  have hexact : userRequest.Exact := rfl
  let ws : WebSocket := ⟨"s", userRequest.serialize Codec.api⟩
  have hreads : Codec.api.ReadsRequest ws.body userRequest := hexact.reads_serialize
  have hothers : ArrivesOfOthers ⟨"p.q", "m"⟩ (frame ws) := by
    refine ⟨.frame ws, fun ws' hbrings => ?_⟩
    rintro ⟨request, hreads', hkey⟩
    cases hbrings with
    | frame =>
      obtain rfl := hreads.unique hreads'
      exact absurd hkey (by decide)
  have hsplit : split userRequest.method = "devices" :: "list" :: [] := by decide
  have husers : ((program Codec.api ⟨"p.q", "m"⟩).ctx blank .router).contacts.lookup "users" = some .users := rfl
  have hframe : handle Codec.api ⟨"p.q", "m"⟩ .calm blank (frame ws) = .ok (blank, [userMessage]) := by
    rw [handle_frame, Router.dispatcher_of_userKey Codec.api hreads hsplit rfl husers]
    rfl
  have harrived : Work.Run (handle Codec.api ⟨"p.q", "m"⟩) (ArrivesOfOthers ⟨"p.q", "m"⟩) (fun _ _ _ => True)
      ⟨blank, []⟩ ⟨blank, [frame ws]⟩ := .arrive (.refl _) hothers
  exact store_changes_need_admin ⟨"p.q", "m"⟩ blank_initial (.refl _)
    (harrived.handle_single .calm trivial hframe)

end StreamCloud.Manager
