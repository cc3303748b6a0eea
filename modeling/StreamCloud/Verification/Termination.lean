-- SUMMARY: Which frames the services handle in finitely many messages.
import StreamCloud.Library.Follow
import StreamCloud.Api.JsonSorted
import StreamCloud.Verification.BodyTyping

/-!
# Termination

Every handler sends messages of a lower rank only, but for the router, which can
dispatch a task to the handler that sent it. The measure carries over to that
step unless the task names `users.auth` (on the platform `profile.auth`) and may
be dispatched there: then the two handlers pass it to one another forever.
-/

namespace StreamCloud

open Work

/-! ## The manager -/

namespace Manager

variable {J : Codec} {config : Config} {input : Envelope Actor → Prop}
  {guard own : Env → State → Envelope Actor → Prop}

/-- How far a message is from the end of its chain. -/
def rank : Actor → String → ℕ
  | .platform, "dispatcher" => 11
  | .router, "dispatcher" => 10
  | .users, "auth" => 9
  | .router, "service" => 8
  | .devices, "control" | .devices, "subscribe" | .devices, "unsubscribe" | .devices, "notify"
  | .subscriptions, "devices" => 7
  | .connections, "devices" | .connections, "subscribe" | .connections, "unsubscribe"
  | .connections, "groups" => 6
  | .subscriptions, "groups" | .subscriptions, "on" | .subscriptions, "off"
  | .subscriptions, "emit" => 5
  | .router, "error" | .platform, "error" => 3
  | .ws, "write" | .ws, "close" | .ws, "remove" => 2
  | .platform, "write" => 1
  | .client, "write" | .client, "close" | .client, "reconnect"
  | .client, "set_closing_message" => 0
  | _, _ => 4

theorem two_lt_rank {a : Actor} (h : a ∉ [Actor.platform, .ws, .client]) (command : String) :
    2 < rank a command := by
  unfold rank
  split <;> simp_all

theorem rank_platform_pos (command : String) : 0 < rank .platform command := by
  unfold rank
  split <;> simp_all

/-- What an actor sends of its own is of a lower rank than what it handles. -/
theorem Sent.rank_lt {a dest : Actor} {command name command' : String} {body : Body Actor}
    (h : Sent a command name command' body) (hdest : (contacts a).lookup name = some dest) :
    rank dest command' < rank a command := by
  cases a <;> cases h <;> cases hdest <;>
    first | decide | exact two_lt_rank (by decide) _ | exact rank_platform_pos _

theorem rank_of_skip {a : Actor} {command : String}
    (h : (program J config).reaction a command = .skip) : 3 < rank a command := by
  by_contra hle
  revert h hle
  unfold rank
  split <;> first | (intro h; cases h) | simp

/-- The answers of `skip` go to the actors that handle errors. -/
theorem rank_skip_lt {e e' : Envelope Actor}
    (h : (program J config).reaction e.dest e.command = .skip) (he' : e' ∈ (program J config).skip e) :
    rank e'.dest e'.command < rank e.dest e.command ∧ e'.command = "error" := by
  have hrank := rank_of_skip h
  unfold Program.skip at he'
  split at he'
  · next herror =>
    rw [List.mem_singleton.mp he']
    have hsender : rank e.sender "error" = 3 := by
      revert herror
      cases e.sender <;> intro h <;>
        first | rfl | exact nomatch (show false = true from List.elem_eq_true_of_mem h)
    exact ⟨hsender.trans_lt hrank, rfl⟩
  · cases he'

theorem rank_lt_of_listed {dest : Actor} {command : String}
    (hdest : dest ∈ [Actor.users, .groups, .subscriptions, .connections, .devices])
    (hauth : ¬ (dest = .users ∧ command = "auth")) : rank dest command < 8 := by
  unfold rank
  split <;> simp_all

/-! ### Frames that do not loop -/

/-- The task names `users.auth`. -/
def NamesAuth (task : Task) : Prop :=
  task.stored "service.name" = "users" ∧ task.stored "service.method" = "auth"

/-- The frame is a request for `users.auth` with the profile key as user key. -/
def Loops (J : Codec) (config : Config) (ws : WebSocket) : Prop :=
  ∃ request rest, J.ReadsRequest ws.body request ∧
    split request.method = "users" :: "auth" :: rest ∧
    request.metadata.stringAt "user-key" = .ok config.profileKey

/-- The frame that a message brings to the router, at once or through `platform`. -/
inductive Brings (J : Codec) : Envelope Actor → WebSocket → Prop
  | frame {sender : Actor} (ws : WebSocket) : Brings J
      { dest := .router, sender, command := "dispatcher", body := .transport (.webSocket ws) } ws
  | relayed {sender : Actor} {ws ws' : WebSocket} : PlatformService.Relays J ws ws' → Brings J
      { dest := .platform, sender, command := "dispatcher", body := .transport (.webSocket ws) } ws'

/-- A message outside of the loop: no frame that loops, no task on its way into it. -/
structure Tame (J : Codec) (config : Config) (e : Envelope Actor) : Prop where
  plain : e.Plain
  frames : ∀ ws, Brings J e ws → ¬ Loops J config ws
  auth : ∀ task, e.dest = .users → e.command = "auth" → e.body = .task task → NamesAuth task →
    task.request.metadata.stringAt "user-key" ≠ .ok (task.stored "profile.key") ∧
      task.request.method ∉ Router.userMethodList
  service : ∀ task, e.dest = .router → e.command = "service" → e.body = .task task →
    NamesAuth task → ¬ Router.Permitted task

/-- Messages other than frames and those of the loop are tame. -/
theorem Tame.of_command {e : Envelope Actor} (hp : e.Plain) (hdispatcher : e.command ≠ "dispatcher")
    (hauth : ¬ (e.dest = .users ∧ e.command = "auth")) (hservice : e.command ≠ "service") :
    Tame J config e where
  plain := hp
  frames := by rintro ws (_ | _) <;> exact absurd rfl hdispatcher
  auth _ hdest hcommand := absurd ⟨hdest, hcommand⟩ hauth
  service _ _ hcommand := absurd hcommand hservice

theorem not_mem_userMethodList_of_split {method : String} {rest : List String}
    (h : split method = "users" :: "auth" :: rest) : method ∉ Router.userMethodList := by
  intro hmem
  have hno : ∀ m ∈ Router.userMethodList, (split m).head? ≠ some "users" := by decide
  exact hno method hmem (by rw [h]; rfl)

/-- What the dispatcher gives to `users.auth` for a frame that does not loop. -/
theorem Tame.auth_of_dispatcher {n n' : State} {env : Env} {e e' : Envelope Actor}
    {out : List (Envelope Actor)} (hdest : e.dest = .router) (hcommand : e.command = "dispatcher")
    (ht : Tame J config e) (h : handle J config env n e = .ok (n', out)) (he' : e' ∈ out)
    (hauth' : e'.command = "auth") (hplain : e'.Plain) : Tame J config e' := by
  obtain ⟨dest, sender, command, body⟩ := e
  obtain rfl := hdest
  obtain rfl := hcommand
  obtain ⟨transport, component, rfl, hrun, -⟩ := Program.transport_of_handle rfl h
  obtain ⟨ws, request, serviceName, methodName, rest, rfl, hreads, hsplit, hbody⟩ :=
    Router.dispatcher_auth J hrun he' hauth'
  refine {
    plain := hplain
    frames := ?_
    auth := fun task _ _ htask hnames => ?_
    service := fun _ _ hservice => absurd (hauth'.symm.trans hservice) (by decide) }
  · rintro ws' (_ | _) <;> exact absurd hauth' (by decide : "dispatcher" ≠ "auth")
  · rw [hbody] at htask
    cases htask
    obtain ⟨rfl, rfl⟩ : serviceName = "users" ∧ methodName = "auth" := hnames
    exact ⟨fun hkey => ht.frames ws (.frame ws) ⟨request, rest, hreads, hsplit, hkey⟩,
      not_mem_userMethodList_of_split hsplit⟩

/-- What `users.auth` gives to the router for a tame task. -/
theorem Tame.service_of_auth {n n' : State} (hn : n.contacts = contacts) {env : Env}
    {e e' : Envelope Actor} {out : List (Envelope Actor)} (hdest : e.dest = .users)
    (hcommand : e.command = "auth") (ht : Tame J config e)
    (h : handle J config env n e = .ok (n', out)) (he' : e' ∈ out)
    (hservice' : e'.command = "service") (hplain : e'.Plain) : Tame J config e' := by
  obtain ⟨dest, sender, command, body⟩ := e
  obtain rfl := hdest
  obtain rfl := hcommand
  obtain ⟨task, component, rfl, hrun, -⟩ := Program.task_of_handle rfl h
  have hrouter : (contacts .users).lookup "router" = some .router := rfl
  have hws : (contacts .users).lookup "ws" = some .ws := rfl
  obtain ⟨userKey, first, -, hkey, -, hbody⟩ := Users.auth_service J (lookup_of_wired hn hrouter)
    (lookup_of_wired hn hws) hrun he' hservice'
  refine {
    plain := hplain
    frames := ?_
    auth := fun _ _ hauth => absurd (hservice'.symm.trans hauth) (by decide)
    service := fun task' _ _ htask hnames => ?_ }
  · rintro ws' (_ | _) <;> exact absurd hservice' (by decide : "dispatcher" ≠ "service")
  · rw [hbody] at htask
    cases htask
    have hnames' : NamesAuth task := by
      simpa [NamesAuth, Task.stored_emplace_ne, Users.stored_noted_ne] using hnames
    obtain ⟨hne, hmethod⟩ := ht.auth task rfl rfl rfl hnames'
    have hadmin : (task.stored "profile.key" == userKey) = false :=
      beq_eq_false_iff_ne.mpr fun heq => hne (heq ▸ hkey)
    simp [Router.Permitted, Task.stored_emplace_ne, hadmin, hmethod]

/-- What `platform` gives to the router for a frame that does not loop. -/
theorem Tame.frame_of_relay {n n' : State} {env : Env} {e e' : Envelope Actor}
    {out : List (Envelope Actor)} (hdest : e.dest = .platform) (hcommand : e.command = "dispatcher")
    (ht : Tame J config e) (h : handle J config env n e = .ok (n', out)) (he' : e' ∈ out)
    (hdispatcher' : e'.command = "dispatcher") (hdest' : e'.dest = .router) (hplain : e'.Plain) :
    Tame J config e' := by
  obtain ⟨dest, sender, command, body⟩ := e
  obtain ⟨dest', sender', command', body'⟩ := e'
  obtain rfl := hdest
  obtain rfl := hcommand
  obtain rfl := hdest'
  obtain rfl := hdispatcher'
  obtain ⟨transport, component, rfl, hrun, -⟩ := Program.transport_of_handle rfl h
  obtain ⟨ws, ws', rfl, hrelays, hbody⟩ := PlatformService.dispatcher_relays J config hrun he' rfl
  dsimp only at hbody
  subst hbody
  refine {
    plain := hplain
    frames := ?_
    auth := fun _ hauth => nomatch hauth
    service := fun _ _ hservice => absurd hservice (by simp) }
  intro ws'' hbrings
  cases hbrings with
  | frame => exact ht.frames ws' (.relayed hrelays)

theorem Sent.of_auth {a : Actor} {command name command' : String} {body : Body Actor}
    (h : Sent a command name command' body) (hc : command' = "auth") :
    a = .router ∧ command = "dispatcher" := by
  cases a <;> cases h <;> first | exact ⟨rfl, rfl⟩ | exact absurd hc (by decide)

theorem Sent.of_service {a : Actor} {command name command' : String} {body : Body Actor}
    (h : Sent a command name command' body) (hc : command' = "service") :
    a = .users ∧ command = "auth" := by
  cases a <;> cases h <;> first | exact ⟨rfl, rfl⟩ | exact absurd hc (by decide)

theorem Sent.of_dispatcher {a : Actor} {command name command' : String} {body : Body Actor}
    (h : Sent a command name command' body) (hc : command' = "dispatcher") :
    a = .platform ∧ command = "dispatcher" ∧ name = "router" := by
  cases a <;> cases h <;> first | exact ⟨rfl, rfl, rfl⟩ | exact absurd hc (by decide)

/-- The services that the router dispatches to have no handler of these names. -/
theorem method_of_dispatches {n : State} (hn : n.contacts = contacts) {task : Task} {dest : Actor}
    (h : Router.Dispatches ((program J config).ctx n .router) task dest) :
    dest ∈ [Actor.users, .groups, .subscriptions, .connections, .devices] ∧
      task.stored "service.name" = dest.name ∧
      task.stored "service.method" ≠ "dispatcher" ∧ task.stored "service.method" ≠ "service" := by
  have hcontact : (contacts .router).lookup (task.stored "service.name") = some dest := by
    rw [← hn]; exact h.contact
  obtain ⟨hname, hdest⟩ := dest_of_listed h.listed hcontact
  have hno : ∀ command ∈ ["dispatcher", "service"],
      List.elem command ((program J config).messageTypes dest) = false := by
    intro command hcommand
    simp only [List.mem_cons, List.not_mem_nil, or_false] at hdest hcommand
    rcases hdest with rfl | rfl | rfl | rfl | rfl <;> rcases hcommand with rfl | rfl <;> rfl
  have hmethod : List.elem (task.stored "service.method") ((program J config).messageTypes dest) :=
    List.elem_eq_true_of_mem h.method
  refine ⟨hdest, hname, fun heq => ?_, fun heq => ?_⟩
  · rw [heq, hno _ (by simp)] at hmethod
    cases hmethod
  · rw [heq, hno _ (by simp)] at hmethod
    cases hmethod

/-- The step lemma: a tame message causes tame messages of a lower rank only. -/
theorem Tame.step {n n' : State} (hn : n.contacts = contacts) {env : Env} {e : Envelope Actor}
    {out : List (Envelope Actor)} (ht : Tame J config e)
    (h : handle J config env n e = .ok (n', out)) :
    n'.contacts = contacts ∧ ∀ e' ∈ out, Tame J config e' ∧
      rank e'.dest e'.command < rank e.dest e.command := by
  obtain ⟨hcontacts, hplain⟩ := handle_plain h ht.plain
  refine ⟨hcontacts.trans hn, fun e' he' => ?_⟩
  cases Program.handled_of_eq_ok h with
  | syncContacts => cases he'
  | addChannel => cases he'
  | skip hreaction =>
    obtain ⟨hrank, hcommand⟩ := rank_skip_lt hreaction he'
    exact ⟨.of_command (hplain e' he') (by rw [hcommand]; decide)
      (fun hauth => absurd (hcommand.symm.trans hauth.2) (by decide)) (by rw [hcommand]; decide),
      hrank⟩
  | attached _ hmem hran =>
    cases emits_of_ran hmem hran with
    | sends hsends =>
      obtain ⟨-, name, hdest, hsent⟩ := hsends e' he'
      have hdest : (contacts e.dest).lookup name = some e'.dest := by rw [← hn]; exact hdest
      refine ⟨?_, hsent.rank_lt hdest⟩
      -- the three commands that could come back to a handler above: each has one handler that sends
      -- it
      by_cases hauth : e'.command = "auth"
      · obtain ⟨ha, hcommand⟩ := hsent.of_auth hauth
        exact ht.auth_of_dispatcher ha hcommand h he' hauth (hplain e' he')
      by_cases hservice : e'.command = "service"
      · obtain ⟨ha, hcommand⟩ := hsent.of_service hservice
        exact ht.service_of_auth hn ha hcommand h he' hservice (hplain e' he')
      by_cases hdispatcher : e'.command = "dispatcher"
      · obtain ⟨ha, hcommand, rfl⟩ := hsent.of_dispatcher hdispatcher
        rw [ha] at hdest
        have hrouter : e'.dest = .router := (Option.some.inj hdest).symm
        exact ht.frame_of_relay ha hcommand h he' hdispatcher hrouter (hplain e' he')
      · exact .of_command (hplain e' he') hdispatcher (fun hnames => hauth hnames.2) hservice
    | @dispatches task dest ha hcommand hbody hd =>
      obtain rfl := List.mem_singleton.mp he'
      rw [ha] at hd
      obtain ⟨hdest, hname, hdispatcher, hservice⟩ := method_of_dispatches hn hd
      have hauth : ¬ (dest = .users ∧ task.stored "service.method" = "auth") := by
        rintro ⟨rfl, hmethod⟩
        -- a tame task that is dispatched does not name `users.auth`
        exact ht.service task ha hcommand hbody ⟨hname, hmethod⟩ hd.permitted
      have hrank : rank e.dest e.command = 8 := by rw [ha, hcommand]; rfl
      rw [hrank]
      exact ⟨.of_command (hplain _ he') hdispatcher hauth hservice, rank_lt_of_listed hdest hauth⟩
    | pipe ha hcommand =>
      obtain rfl := List.mem_singleton.mp he'
      have hrank : rank e.dest e.command = 2 := by rw [ha, hcommand]; rfl
      rw [hrank]
      exact ⟨.of_command (hplain _ he') (by simp) (fun hauth => nomatch hauth.1) (by simp),
        Nat.lt_succ_self 1⟩

/-- The work that a tame message causes comes to an end, whatever else is handled. -/
theorem Tame.dies {n : State} (hn : n.contacts = contacts) {pending : List (Envelope Actor)}
    (hplain : ∀ e ∈ pending, e.Plain) {e : Envelope Actor} (ht : Tame J config e)
    (hinput : ∀ e, input e → Arrives e) :
    Work.Dies (handle J config) input guard own ⟨n, pending, [e]⟩ := by
  apply Work.dies_of_rank (fun n => n.contacts = contacts) Envelope.Plain
    (fun k e => Tame J config e ∧ rank e.dest e.command = k)
  case harrive =>
    intro e he
    exact (hinput e he).plain
  case hother =>
    intro env n e n' out hn hplain _ heq
    obtain ⟨hcontacts, hout⟩ := handle_plain heq hplain
    exact ⟨hcontacts.trans hn, hout⟩
  case hmember =>
    rintro k env n e n' out hn ⟨ht, rfl⟩ - heq
    obtain ⟨hn', hout⟩ := ht.step hn heq
    refine ⟨hn', fun e' he' => ?_⟩
    obtain ⟨ht', hlt⟩ := hout e' he'
    exact ⟨_, hlt, ht', rfl⟩
  case hI => exact hn
  case hP => exact hplain
  case hQ =>
    intro e' he'
    rw [List.mem_singleton.mp he']
    exact ⟨_, ht, rfl⟩

/-- What arrives is tame, unless it brings a frame that loops. -/
theorem Arrives.tame {e : Envelope Actor} (h : Arrives e)
    (hloops : ∀ ws, Brings J e ws → ¬ Loops J config ws) : Tame J config e where
  plain := h.plain
  frames := hloops
  auth _ hdest _ _ := by cases h <;> cases hdest
  service _ _ hcommand := by cases h <;> simp at hcommand

/-! ### Frames that loop -/

/-- A task that goes around between `users.auth` and the router. -/
inductive Circling : Envelope Actor → Prop
  | auth {sender : Actor} {task : Task} : NamesAuth task →
      task.metadataString "user-key" = .ok (task.stored "profile.key") →
      Circling { dest := .users, sender, command := "auth", body := .task task }
  | service {sender : Actor} {task : Task} : NamesAuth task →
      task.metadataString "user-key" = .ok (task.stored "profile.key") →
      task.stored "user.admin" = "1" →
      Circling { dest := .router, sender, command := "service", body := .task task }

/-- A circling task is handled under every outcome of the environment, and goes on. -/
theorem Circling.step {n : State} (hn : n.contacts = contacts) {e : Envelope Actor}
    (h : Circling e) (env : Env) : ∃ e', handle J config env n e = .ok (n, [e']) ∧ Circling e' := by
  cases h with
  | @auth sender task hnames hkey =>
    obtain ⟨first, rest, hsplit⟩ := exists_split (task.stored "profile.key")
    let forwarded := (Users.noted task (task.stored "profile.key")).emplace "user.login" first
    refine ⟨{ dest := .router, sender := .users, command := "service", body := .task forwarded },
      ?_, ?_⟩
    · rw [handle_auth hn hkey hsplit]
      dsimp only
      rw [if_pos (by simp)]
    · refine .service ?_ ?_ ?_
      · simpa [forwarded, NamesAuth, Task.stored_emplace_ne, Users.stored_noted_ne] using hnames
      · simpa [forwarded, Task.metadataString, Task.stored_emplace_ne, Users.stored_noted_ne] using hkey
      · simp [forwarded, Task.stored_emplace_ne]
  | @service sender task hnames hkey hadmin =>
    have hd : Router.Dispatches ((program J config).ctx n .router) task .users := {
      listed := by rw [hnames.1]; decide
      contact := by rw [hnames.1]; exact lookup_of_wired hn rfl
      method := by rw [hnames.2]; exact List.mem_of_elem_eq_true rfl
      permitted := .inl hadmin }
    refine ⟨{ dest := .users, sender := .router, command := "auth", body := .task task }, ?_,
      .auth hnames hkey⟩
    rw [← hnames.2]
    exact handle_of_dispatches hd

/-- A frame that loops becomes a circling task. -/
theorem Loops.circling {n : State} (hn : n.contacts = contacts) {ws : WebSocket}
    (h : Loops J config ws) {sender : Actor} (env : Env) :
    ∃ e', handle J config env n
      { dest := .router, sender, command := "dispatcher", body := .transport (.webSocket ws) } =
        .ok (n, [e']) ∧ Circling e' := by
  obtain ⟨request, rest, hreads, hsplit, hkey⟩ := h
  have hcontains : request.metadata.contains "user-key" := by
    simp [JsonMap.contains, JsonMap.stringAt_eq_ok.mp hkey]
  have husers : (contacts .router).lookup "users" = some .users := rfl
  let task := Router.task config request ws.id "users" "auth"
  refine ⟨{ dest := .users, sender := .router, command := "auth", body := .task task }, ?_, ?_⟩
  · refine (Program.handle_transport rfl rfl).trans ?_
    rw [Router.dispatcher_of_userKey J hreads hsplit hcontains (lookup_of_wired hn husers)]
    rfl
  · exact .auth ⟨rfl, rfl⟩ hkey

/-- A task that circles does so forever, if nothing else is handled. -/
theorem Circling.not_dies {n : State} (hn : n.contacts = contacts) {pending : List (Envelope Actor)}
    {e : Envelope Actor} (h : Circling e) :
    ¬ Work.Dies (handle J config) input guard (fun _ _ _ => True) ⟨n, pending, [e]⟩ := by
  apply Work.not_dies_of_progress
    (fun c => c.state.contacts = contacts ∧ ∃ e, c.family = [e] ∧ Circling e)
  -- as long as only the task itself is handled
  case hX =>
    rintro ⟨n, others, family⟩ ⟨hn, e, rfl, he⟩
    obtain ⟨e', heq, he'⟩ := he.step hn .calm
    exact ⟨_, .member (p := []) (q := []) (.refl _) trivial heq, hn, e', rfl, he'⟩
  case hc => exact ⟨hn, e, rfl, h⟩

/-- The work that an arriving message causes comes to an end exactly when the
message brings no frame that loops. -/
theorem Arrives.dies_iff {n : State} (hn : n.contacts = contacts) {pending : List (Envelope Actor)}
    (hplain : ∀ e ∈ pending, e.Plain) {e : Envelope Actor} (h : Arrives e)
    (hinput : ∀ e, input e → Arrives e) :
    Work.Dies (handle J config) input guard (fun _ _ _ => True) ⟨n, pending, [e]⟩ ↔
      ∀ ws, Brings J e ws → ¬ Loops J config ws := by
  refine ⟨fun hdies ws hbrings hloops => ?_, fun hloops => (h.tame hloops).dies hn hplain hinput⟩
  cases hbrings with
  | frame =>
    obtain ⟨e', heq, he'⟩ := hloops.circling hn .calm
    exact he'.not_dies hn (hdies.follow (Work.Follow.member_single (.refl _) trivial heq))
  | @relayed sender ws ws' hrelays =>
    obtain ⟨e', heq, he'⟩ := hloops.circling hn .calm
    have hrelayed := hdies.follow
      (Work.Follow.member_single (.refl _) trivial (handle_relayed hn hrelays .calm))
    exact he'.not_dies hn (hrelayed.follow (Work.Follow.member_single (.refl _) trivial heq))

end Manager

/-! ## The platform -/

namespace Platform

variable {J : Codec} {managerKey : String} {input : Envelope Actor → Prop}
  {guard own : Env → State → Envelope Actor → Prop}

/-- How far a message is from the end of its chain. -/
def rank : Actor → String → ℕ
  | .router, "dispatcher" => 6
  | .profile, "auth" => 5
  | .router, "service" => 4
  | .router, "error" => 2
  | .ws, "write" | .ws, "close" | .ws, "remove" => 1
  | .http, "add_trusted_url" | .http, "remove_trusted_url" => 0
  | _, _ => 3

theorem one_lt_rank {a : Actor} (h : a ∉ [Actor.ws, .http]) (command : String) :
    1 < rank a command := by
  unfold rank
  split <;> simp_all

/-- What an actor sends of its own is of a lower rank than what it handles. -/
theorem Sent.rank_lt {a dest : Actor} {command name command' : String} {body : Body Actor}
    (h : Sent a command name command' body) (hdest : (contacts a).lookup name = some dest) :
    rank dest command' < rank a command := by
  cases a <;> cases h <;> cases hdest <;> first | decide | exact one_lt_rank (by decide) _

theorem rank_of_skip {a : Actor} {command : String}
    (h : (program J managerKey).reaction a command = .skip) : 2 < rank a command := by
  by_contra hle
  revert h hle
  unfold rank
  split <;> first | (intro h; cases h) | simp

/-- The answers of `skip` go to the router, which handles errors. -/
theorem rank_skip_lt {e e' : Envelope Actor}
    (h : (program J managerKey).reaction e.dest e.command = .skip)
    (he' : e' ∈ (program J managerKey).skip e) :
    rank e'.dest e'.command < rank e.dest e.command ∧ e'.command = "error" := by
  have hrank := rank_of_skip h
  unfold Program.skip at he'
  split at he'
  · next herror =>
    rw [List.mem_singleton.mp he']
    have hsender : rank e.sender "error" = 2 := by
      revert herror
      cases e.sender <;> intro h <;>
        first | rfl | exact nomatch (show false = true from List.elem_eq_true_of_mem h)
    exact ⟨hsender.trans_lt hrank, rfl⟩
  · cases he'

theorem rank_lt_of_listed {dest : Actor} {command : String}
    (hdest : dest ∈ [Actor.profile, .managers, .managerInfo])
    (hauth : ¬ (dest = .profile ∧ command = "auth")) : rank dest command < 4 := by
  unfold rank
  split <;> simp_all

/-! ### Frames that do not loop -/

/-- The task names `profile.auth`. -/
def NamesAuth (task : Task) : Prop :=
  task.stored "service.name" = "profile" ∧ task.stored "service.method" = "auth"

/-- The frame is a request for `profile.auth` that is not for a manager. -/
def AsksAuth (J : Codec) (ws : WebSocket) (request : RequestMessage) : Prop :=
  J.ReadsRequest ws.body request ∧ request.metadata.contains "manager-key" = false ∧
    ∃ rest, split request.method = "profile" :: "auth" :: rest

/-- A key that is cached, or whose second part is the password found for the first. -/
def Accepts (s : Profile) (profileKey : String) : Prop :=
  s.isAuth profileKey ∨
    ∃ first second rest, split profileKey = first :: second :: rest ∧ second = (s.select first).2

/-- The frame is a request for `profile.auth` with a key that is accepted. -/
def Loops (J : Codec) (s : Profile) (ws : WebSocket) : Prop :=
  ∃ request profileKey, AsksAuth J ws request ∧
    request.metadata.stringAt "profile-key" = .ok profileKey ∧ Accepts s profileKey

/-- A message outside of the loop: no frame and no task on its way into it. -/
structure Tame (J : Codec) (e : Envelope Actor) : Prop where
  plain : e.Plain
  frames : ∀ ws, e.dest = .router → e.command = "dispatcher" → e.body = .transport (.webSocket ws) →
    ∀ request, ¬ AsksAuth J ws request
  auth : ∀ task, e.dest = .profile → e.command = "auth" → e.body = .task task → ¬ NamesAuth task
  service : ∀ task, e.dest = .router → e.command = "service" → e.body = .task task → ¬ NamesAuth task

/-- Messages other than frames and those of the loop are tame. -/
theorem Tame.of_command {e : Envelope Actor} (hp : e.Plain) (hdispatcher : e.command ≠ "dispatcher")
    (hauth : ¬ (e.dest = .profile ∧ e.command = "auth")) (hservice : e.command ≠ "service") :
    Tame J e where
  plain := hp
  frames _ _ hcommand := absurd hcommand hdispatcher
  auth _ hdest hcommand := absurd ⟨hdest, hcommand⟩ hauth
  service _ _ hcommand := absurd hcommand hservice

/-- What the dispatcher gives to `profile.auth` for a frame that does not ask for it. -/
theorem Tame.auth_of_dispatcher {n n' : State} {env : Env} {e e' : Envelope Actor}
    {out : List (Envelope Actor)} (hdest : e.dest = .router) (hcommand : e.command = "dispatcher")
    (ht : Tame J e) (h : handle J managerKey env n e = .ok (n', out)) (he' : e' ∈ out)
    (hauth' : e'.command = "auth") (hplain : e'.Plain) : Tame J e' := by
  obtain ⟨dest, sender, command, body⟩ := e
  obtain rfl := hdest
  obtain rfl := hcommand
  obtain ⟨transport, component, rfl, hrun, -⟩ := Program.transport_of_handle rfl h
  obtain ⟨ws, request, serviceName, methodName, rest, rfl, hreads, hmanager, hsplit, hbody⟩ :=
    Router.dispatcher_auth J hrun he' hauth'
  refine {
    plain := hplain
    frames := fun _ _ hdispatcher => absurd (hauth'.symm.trans hdispatcher) (by decide)
    auth := fun task _ _ htask hnames => ?_
    service := fun _ _ hservice => absurd (hauth'.symm.trans hservice) (by decide) }
  rw [hbody] at htask
  cases htask
  obtain ⟨rfl, rfl⟩ : serviceName = "profile" ∧ methodName = "auth" := hnames
  exact ht.frames ws rfl rfl rfl request ⟨hreads, hmanager, rest, hsplit⟩

/-- What `profile.auth` gives to the router for a tame task. -/
theorem Tame.service_of_auth {n n' : State} (hn : n.contacts = contacts) {env : Env}
    {e e' : Envelope Actor} {out : List (Envelope Actor)} (hdest : e.dest = .profile)
    (hcommand : e.command = "auth") (ht : Tame J e)
    (h : handle J managerKey env n e = .ok (n', out)) (he' : e' ∈ out)
    (hservice' : e'.command = "service") (hplain : e'.Plain) : Tame J e' := by
  obtain ⟨dest, sender, command, body⟩ := e
  obtain rfl := hdest
  obtain rfl := hcommand
  obtain ⟨task, component, rfl, hrun, -⟩ := Program.task_of_handle rfl h
  have hrouter : (contacts .profile).lookup "router" = some .router := rfl
  have hws : (contacts .profile).lookup "ws" = some .ws := rfl
  obtain ⟨-, first, -, -, -, hbody⟩ := Profile.auth_service J (lookup_of_wired hn hrouter)
    (lookup_of_wired hn hws) hrun he' hservice'
  refine {
    plain := hplain
    frames := fun _ _ hdispatcher => absurd (hservice'.symm.trans hdispatcher) (by decide)
    auth := fun _ _ hauth => absurd (hservice'.symm.trans hauth) (by decide)
    service := fun task' _ _ htask hnames => ?_ }
  rw [hbody] at htask
  cases htask
  have hnames' : NamesAuth task := by simpa [NamesAuth, Task.stored_emplace_ne] using hnames
  exact ht.auth task rfl rfl rfl hnames'

theorem Sent.of_auth {a : Actor} {command name command' : String} {body : Body Actor}
    (h : Sent a command name command' body) (hc : command' = "auth") :
    a = .router ∧ command = "dispatcher" := by
  cases a <;> cases h <;> first | exact ⟨rfl, rfl⟩ | exact absurd hc (by decide)

theorem Sent.of_service {a : Actor} {command name command' : String} {body : Body Actor}
    (h : Sent a command name command' body) (hc : command' = "service") :
    a = .profile ∧ command = "auth" := by
  cases a <;> cases h <;> first | exact ⟨rfl, rfl⟩ | exact absurd hc (by decide)

theorem Sent.ne_dispatcher {a : Actor} {command name command' : String} {body : Body Actor}
    (h : Sent a command name command' body) : command' ≠ "dispatcher" := by
  cases a <;> cases h <;> decide

/-- The services that the router dispatches to have no handler of these names. -/
theorem method_of_dispatches {n : State} (hn : n.contacts = contacts) {task : Task} {dest : Actor}
    (h : Router.Dispatches ((program J managerKey).ctx n .router) task dest) :
    dest ∈ [Actor.profile, .managers, .managerInfo] ∧
      task.stored "service.name" = dest.name ∧
      task.stored "service.method" ≠ "dispatcher" ∧ task.stored "service.method" ≠ "service" := by
  have hcontact : (contacts .router).lookup (task.stored "service.name") = some dest := by
    rw [← hn]; exact h.contact
  obtain ⟨hname, hdest⟩ := dest_of_listed h.listed hcontact
  have hno : ∀ command ∈ ["dispatcher", "service"],
      List.elem command ((program J managerKey).messageTypes dest) = false := by
    intro command hcommand
    simp only [List.mem_cons, List.not_mem_nil, or_false] at hdest hcommand
    rcases hdest with rfl | rfl | rfl <;> rcases hcommand with rfl | rfl <;> rfl
  have hmethod : List.elem (task.stored "service.method") ((program J managerKey).messageTypes dest) :=
    List.elem_eq_true_of_mem h.method
  refine ⟨hdest, hname, fun heq => ?_, fun heq => ?_⟩
  · rw [heq, hno _ (by simp)] at hmethod
    cases hmethod
  · rw [heq, hno _ (by simp)] at hmethod
    cases hmethod

/-- The step lemma: a tame message causes tame messages of a lower rank only. -/
theorem Tame.step {n n' : State} (hn : n.contacts = contacts) {env : Env} {e : Envelope Actor}
    {out : List (Envelope Actor)} (ht : Tame J e) (h : handle J managerKey env n e = .ok (n', out)) :
    n'.contacts = contacts ∧ ∀ e' ∈ out, Tame J e' ∧
      rank e'.dest e'.command < rank e.dest e.command := by
  obtain ⟨hcontacts, hplain⟩ := handle_plain h ht.plain
  refine ⟨hcontacts.trans hn, fun e' he' => ?_⟩
  cases Program.handled_of_eq_ok h with
  | syncContacts => cases he'
  | addChannel => cases he'
  | skip hreaction =>
    obtain ⟨hrank, hcommand⟩ := rank_skip_lt hreaction he'
    exact ⟨.of_command (hplain e' he') (by rw [hcommand]; decide)
      (fun hauth => absurd (hcommand.symm.trans hauth.2) (by decide)) (by rw [hcommand]; decide),
      hrank⟩
  | attached _ hmem hran =>
    cases emits_of_ran hmem hran with
    | sends hsends =>
      obtain ⟨-, name, hdest, hsent⟩ := hsends e' he'
      have hdest : (contacts e.dest).lookup name = some e'.dest := by rw [← hn]; exact hdest
      refine ⟨?_, hsent.rank_lt hdest⟩
      -- nothing on the platform sends a frame to the dispatcher, so that there are two commands
      -- here
      by_cases hauth : e'.command = "auth"
      · obtain ⟨ha, hcommand⟩ := hsent.of_auth hauth
        exact ht.auth_of_dispatcher ha hcommand h he' hauth (hplain e' he')
      by_cases hservice : e'.command = "service"
      · obtain ⟨ha, hcommand⟩ := hsent.of_service hservice
        exact ht.service_of_auth hn ha hcommand h he' hservice (hplain e' he')
      · exact .of_command (hplain e' he') hsent.ne_dispatcher (fun hnames => hauth hnames.2) hservice
    | @dispatches task dest ha hcommand hbody hd =>
      obtain rfl := List.mem_singleton.mp he'
      rw [ha] at hd
      obtain ⟨hdest, hname, hdispatcher, hservice⟩ := method_of_dispatches hn hd
      have hauth : ¬ (dest = .profile ∧ task.stored "service.method" = "auth") := by
        rintro ⟨rfl, hmethod⟩
        exact ht.service task ha hcommand hbody ⟨hname, hmethod⟩
      have hrank : rank e.dest e.command = 4 := by rw [ha, hcommand]; rfl
      rw [hrank]
      exact ⟨.of_command (hplain _ he') hdispatcher hauth hservice, rank_lt_of_listed hdest hauth⟩

/-- The work that a tame message causes comes to an end, whatever else is handled. -/
theorem Tame.dies {n : State} (hn : n.contacts = contacts) {pending : List (Envelope Actor)}
    (hplain : ∀ e ∈ pending, e.Plain) {e : Envelope Actor} (ht : Tame J e)
    (hinput : ∀ e, input e → Arrives e) :
    Work.Dies (handle J managerKey) input guard own ⟨n, pending, [e]⟩ := by
  apply Work.dies_of_rank (fun n => n.contacts = contacts) Envelope.Plain
    (fun k e => Tame J e ∧ rank e.dest e.command = k)
  case harrive =>
    intro e he
    exact (hinput e he).plain
  case hother =>
    intro env n e n' out hn hplain _ heq
    obtain ⟨hcontacts, hout⟩ := handle_plain heq hplain
    exact ⟨hcontacts.trans hn, hout⟩
  case hmember =>
    rintro k env n e n' out hn ⟨ht, rfl⟩ - heq
    obtain ⟨hn', hout⟩ := ht.step hn heq
    refine ⟨hn', fun e' he' => ?_⟩
    obtain ⟨ht', hlt⟩ := hout e' he'
    exact ⟨_, hlt, ht', rfl⟩
  case hI => exact hn
  case hP => exact hplain
  case hQ =>
    intro e' he'
    rw [List.mem_singleton.mp he']
    exact ⟨_, ht, rfl⟩

/-! ### Frames that ask for `profile.auth` -/

/-- A task that goes around between `profile.auth` and the router. -/
inductive Circling (s : Profile) : Envelope Actor → Prop
  | auth {sender : Actor} {task : Task} {profileKey : String} : NamesAuth task →
      task.metadataString "profile-key" = .ok profileKey → Accepts s profileKey →
      Circling s { dest := .profile, sender, command := "auth", body := .task task }
  | service {sender : Actor} {task : Task} {profileKey : String} : NamesAuth task →
      task.metadataString "profile-key" = .ok profileKey → Accepts s profileKey →
      Circling s { dest := .router, sender, command := "service", body := .task task }

/-- A circling task is handled where the database answers, and goes on. -/
theorem Circling.step {n : State} (hn : n.contacts = contacts) {e : Envelope Actor}
    (h : Circling n.services.profile e) : ∃ n' e', handle J managerKey .calm n e = .ok (n', [e']) ∧
      n'.contacts = contacts ∧ Circling n'.services.profile e' := by
  cases h with
  | @auth sender task profileKey hnames hkey haccepts =>
    obtain ⟨first, rest, hsplit⟩ := exists_split profileKey
    let forwarded := task.emplace "profile.login" first
    have hnames' : NamesAuth forwarded := by
      simpa [forwarded, NamesAuth, Task.stored_emplace_ne] using hnames
    -- a key that is accepted by its password is cached, and accepted from then on
    by_cases hcached : n.services.profile.isAuth profileKey = true
    · refine ⟨n, { dest := .router, sender := .profile, command := "service", body := .task forwarded },
        ?_, hn, .service hnames' hkey (.inl hcached)⟩
      rw [handle_auth hn hkey hsplit]
      dsimp only
      rw [if_pos hcached]
    · obtain ⟨first', second, rest', hsplit', hpassword⟩ := haccepts.resolve_left hcached
      obtain ⟨rfl, rfl⟩ := List.cons.inj (hsplit.symm.trans hsplit')
      refine ⟨{ n with services := { n.services with
          profile := n.services.profile.addAuth profileKey } },
        { dest := .router, sender := .profile, command := "service", body := .task forwarded },
        ?_, hn, .service hnames' hkey (.inl (by simp [Profile.isAuth, Profile.addAuth]))⟩
      rw [handle_auth hn hkey hsplit]
      dsimp only [List.head?_cons, Env.calm]
      rw [if_neg hcached, if_pos (by simpa using hpassword)]
  | @service sender task profileKey hnames hkey haccepts =>
    have hd : Router.Dispatches ((program J managerKey).ctx n .router) task .profile := {
      listed := by rw [hnames.1]; decide
      contact := by rw [hnames.1]; exact lookup_of_wired hn rfl
      method := by rw [hnames.2]; exact List.mem_of_elem_eq_true rfl }
    refine ⟨n, { dest := .profile, sender := .router, command := "auth", body := .task task }, ?_,
      hn, .auth hnames hkey haccepts⟩
    rw [← hnames.2]
    exact handle_of_dispatches hd

/-- A task that circles can do so forever, if nothing else is handled. -/
theorem Circling.not_dies {n : State} (hn : n.contacts = contacts) {pending : List (Envelope Actor)}
    {e : Envelope Actor} (h : Circling n.services.profile e) :
    ¬ Work.Dies (handle J managerKey) input guard (fun _ _ _ => True) ⟨n, pending, [e]⟩ := by
  apply Work.not_dies_of_progress (fun c => c.state.contacts = contacts ∧
    ∃ e, c.family = [e] ∧ Circling c.state.services.profile e)
  case hX =>
    rintro ⟨n, others, family⟩ ⟨hn, e, rfl, he⟩
    obtain ⟨n', e', heq, hn', he'⟩ := he.step hn
    exact ⟨_, .member (p := []) (q := []) (.refl _) trivial heq, hn', e', rfl, he'⟩
  case hc => exact ⟨hn, e, rfl, h⟩

/-! ### Frames that nothing accepts -/

section Refused

variable {n : State} {pending : List (Envelope Actor)} (hn : n.contacts = contacts)
  (hplain : ∀ e ∈ pending, e.Plain) (hinput : ∀ e, input e → Arrives e)
include hn hplain hinput

/-- What the other messages leave is wired. -/
theorem wired_of_run {c : Work.Config State (Envelope Actor)}
    (hrun : Work.Run (handle J managerKey) input guard ⟨n, pending⟩ c) :
    c.state.contacts = contacts ∧ ∀ e ∈ c.pending, e.Plain :=
  Run.wired_of_wired (hrun.mono hinput) hn hplain

/-- A refusal comes to an end. -/
theorem dies_response (ctx : Ctx Actor) (task : Task) (reply : Reply) :
    Work.Dies (handle J managerKey) input guard own ⟨n, pending, [ctx.response J .ws task reply]⟩ := by
  have ht : Tame J (ctx.response J .ws task reply) :=
    .of_command (fun _ h => nomatch h) (by simp [Ctx.response]) (fun h => nomatch h.1)
      (by simp [Ctx.response])
  exact ht.dies hn hplain hinput

/-- A task for `profile.auth` comes to an end if its key is not accepted, however long
it waits to be handled. -/
theorem dies_of_not_accepts {sender : Actor} {task : Task}
    (h : ∀ profileKey, task.metadataString "profile-key" = .ok profileKey → ∀ n' pending',
      Work.Run (handle J managerKey) input guard ⟨n, pending⟩ ⟨n', pending'⟩ →
      ¬ Accepts n'.services.profile profileKey) :
    Work.Dies (handle J managerKey) input guard own
      ⟨n, pending, [{ dest := .profile, sender, command := "auth", body := .task task }]⟩ := by
  apply Work.dies_of_first_single
  intro env n₁ pending₁ n' out hrun _ heq
  obtain ⟨hn₁, hplain₁⟩ := wired_of_run hn hplain hinput hrun
  cases hkey : task.metadataString "profile-key" with
  -- a task without the key stops the handler
  | error fault =>
    obtain ⟨task', component, hbody, hauth, -⟩ := Program.task_of_handle rfl heq
    cases hbody
    rw [Profile.auth, hkey] at hauth
    cases hauth
  | ok profileKey =>
    have hno := h profileKey hkey n₁ pending₁ hrun
    obtain ⟨first, rest, hsplit⟩ := exists_split profileKey
    rw [handle_auth hn₁ hkey hsplit] at heq
    dsimp only at heq
    rw [if_neg fun hcached => hno (.inl hcached)] at heq
    split at heq
    · cases heq
      exact dies_response hn₁ hplain₁ hinput _ _ _
    · cases heq
    · next second _ hsecond =>
      split at heq
      · next hpassword =>
        obtain ⟨rest', rfl⟩ := List.head?_eq_some_iff.mp hsecond
        -- the password that is found accepts the key
        exact absurd (.inr ⟨first, second, rest', hsplit, by simpa using hpassword⟩) hno
      · cases heq
        exact dies_response hn₁ hplain₁ hinput _ _ _

/-- A request for `profile.auth` comes to an end if its key is accepted in no state
that is come to before the request is handled. -/
theorem dies_of_asksAuth {ws : WebSocket} {request : RequestMessage} (hasks : AsksAuth J ws request)
    (hloops : ∀ n' pending', Work.Run (handle J managerKey) input guard ⟨n, pending⟩ ⟨n', pending'⟩ →
      ¬ Loops J n'.services.profile ws) :
    Work.Dies (handle J managerKey) input guard own ⟨n, pending, [frame ws]⟩ := by
  obtain ⟨hreads, hmanager, rest, hsplit⟩ := hasks
  apply Work.dies_of_first_single
  intro env n₁ pending₁ n' out hrun _ heq
  obtain ⟨hn₁, hplain₁⟩ := wired_of_run hn hplain hinput hrun
  cases hkey : request.metadata.contains "profile-key" with
  -- the task waits for `profile.auth`, in the states that the frame has come to
  | true =>
    rw [handle_profileFrame hn₁ hreads hmanager hsplit hkey] at heq
    cases heq
    apply dies_of_not_accepts hn₁ hplain₁ hinput
    intro profileKey hstring n₂ pending₂ hrest haccepts
    exact hloops n₂ pending₂ (hrun.trans hrest)
      ⟨request, profileKey, ⟨hreads, hmanager, rest, hsplit⟩, hstring, haccepts⟩
  -- no guest method is called `auth`
  | false =>
    have hws : (contacts .router).lookup "ws" = some .ws := rfl
    have hquest : request.method ∉ Router.questMethodList := by
      intro hmem
      have hno : ∀ m ∈ Router.questMethodList, (split m)[1]? ≠ some "auth" := by decide
      exact hno _ hmem (by rw [hsplit]; rfl)
    rw [handle_frame, Router.dispatcher_of_noKey J hreads hmanager hsplit hkey hquest
      (lookup_of_wired hn₁ hws)] at heq
    cases heq
    exact dies_response hn₁ hplain₁ hinput _ _ _

omit hn hplain hinput in
/-- A frame that does not ask for `profile.auth` is tame. -/
theorem tame_of_not_asksAuth {ws : WebSocket} (hasks : ∀ request, ¬ AsksAuth J ws request) :
    Tame J (frame ws) where
  plain := fun _ h => by cases h
  frames _ _ _ hbody request hrequest := by
    cases hbody
    exact hasks request hrequest
  auth _ hdest := by cases hdest
  service _ _ _ hbody := by cases hbody

/-- The work that a frame causes comes to an end exactly when the other messages
come to no state in which the frame loops. -/
theorem frame_dies_iff {ws : WebSocket} :
    Work.Dies (handle J managerKey) input guard (fun _ _ _ => True) ⟨n, pending, [frame ws]⟩ ↔
      ∀ n' pending', Work.Run (handle J managerKey) input guard ⟨n, pending⟩ ⟨n', pending'⟩ →
        ¬ Loops J n'.services.profile ws := by
  constructor
  · rintro hdies n' pending' hrun ⟨request, profileKey, ⟨hreads, hmanager, rest, hsplit⟩, hstring, haccepts⟩
    have hn' : n'.contacts = contacts := (wired_of_run hn hplain hinput hrun).1
    have hkey : request.metadata.contains "profile-key" := by
      rw [JsonMap.contains, JsonMap.stringAt_eq_ok.mp hstring]
      rfl
    -- the frame is kept waiting until the state in which it loops
    have hwaits := hdies.follow (hrun.awaited [frame ws])
    have hcircling : Circling n'.services.profile {
        dest := .profile
        sender := .router
        command := "auth"
        body := .task (Router.task request ws.id "profile" "auth") } :=
      .auth ⟨rfl, rfl⟩ hstring haccepts
    have hframe : handle J managerKey .calm n' (frame ws) = .ok (n', [{
        dest := .profile
        sender := .router
        command := "auth"
        body := .task (Router.task request ws.id "profile" "auth") }]) :=
      handle_profileFrame hn' hreads hmanager hsplit hkey
    exact hcircling.not_dies hn' (hwaits.follow (.member_single (.refl _) trivial hframe))
  · intro hloops
    by_cases hasks : ∃ request, AsksAuth J ws request
    · obtain ⟨request, hrequest⟩ := hasks
      exact dies_of_asksAuth hn hplain hinput hrequest hloops
    · have ht : Tame J (frame ws) := tame_of_not_asksAuth fun request hrequest => hasks ⟨request, hrequest⟩
      exact ht.dies hn hplain hinput

/-- So for whatever arrives. -/
theorem Arrives.dies_iff {e : Envelope Actor} (h : Arrives e) :
    Work.Dies (handle J managerKey) input guard (fun _ _ _ => True) ⟨n, pending, [e]⟩ ↔
      ∀ ws, e = Platform.frame ws → ∀ n' pending',
        Work.Run (handle J managerKey) input guard ⟨n, pending⟩ ⟨n', pending'⟩ →
        ¬ Loops J n'.services.profile ws := by
  cases h with
  | frame ws =>
    refine (frame_dies_iff hn hplain hinput).trans ⟨?_, fun h => h ws rfl⟩
    rintro h ws' heq
    cases heq
    exact h
  | socketError e =>
    have ht : Tame J { dest := .router, sender := .router, command := "error", body := .transport (.error e) } :=
      .of_command (fun _ h => nomatch h) (by simp) (fun h => nomatch h.1) (by simp)
    exact iff_of_true (ht.dies hn hplain hinput) fun ws heq => by simp [Platform.frame] at heq

end Refused

end Platform

/-! ## Both programs -/

/-- In every run, and whatever else is pending, arrives (`input`) or is handled
(`guard`) meanwhile, the work that an arriving message causes comes to an end exactly
when it brings no frame that loops. On the platform a frame loops or not in the state
that it finds when it is handled. -/
theorem arrivals_settle_iff (J : Codec) :
    (∀ config n₀ n pending e input guard, Manager.Initial n₀ →
      Manager.Run J config (fun _ _ _ => True) ⟨n₀, []⟩ ⟨n, pending⟩ → Manager.Arrives e →
      (∀ e, input e → Manager.Arrives e) →
      (Work.Dies (Manager.handle J config) input guard (fun _ _ _ => True) ⟨n, pending, [e]⟩ ↔
        ∀ ws, Manager.Brings J e ws → ¬ Manager.Loops J config ws)) ∧
    (∀ managerKey n₀ n pending e input guard, Platform.Initial n₀ →
      Platform.Run J managerKey (fun _ _ _ => True) ⟨n₀, []⟩ ⟨n, pending⟩ → Platform.Arrives e →
      (∀ e, input e → Platform.Arrives e) →
      (Work.Dies (Platform.handle J managerKey) input guard (fun _ _ _ => True) ⟨n, pending, [e]⟩ ↔
        ∀ ws, e = Platform.frame ws → ∀ n' pending',
          Work.Run (Platform.handle J managerKey) input guard ⟨n, pending⟩ ⟨n', pending'⟩ →
          ¬ Platform.Loops J n'.services.profile ws)) := by
  constructor
  · intro config n₀ n pending e input guard h₀ hrun he hinput
    obtain ⟨hn, hplain⟩ := Manager.Run.wired h₀ hrun
    exact he.dies_iff hn hplain hinput
  · intro managerKey n₀ n pending e input guard h₀ hrun he hinput
    obtain ⟨hn, hplain⟩ := Platform.Run.wired h₀ hrun
    exact he.dies_iff hn hplain hinput

/-- A request of the administrator for `users.auth`. -/
def circularRequest : RequestMessage where
  id := .integer 1
  method := "users.auth"
  params := .null
  metadata := [("user-key", .string "p.q")]

/-- A request of the administrator for the groups. -/
def groupsRequest : RequestMessage := { circularRequest with method := "groups.list" }

/-- A request to sign up `a`, whose password is `b`. -/
def signupRequest : RequestMessage where
  id := .integer 1
  method := "profile.signup"
  params := .map [("login", .string "a"), ("password", .string "b")]
  metadata := []

/-- A request of `a` for `profile.auth`. -/
def profileRequest : RequestMessage where
  id := .integer 2
  method := "profile.auth"
  params := .null
  metadata := [("profile-key", .string "a.b")]

theorem profileRequest_asks : Platform.AsksAuth Codec.api ⟨"t", profileRequest.serialize Codec.api⟩
    profileRequest := by
  have hexact : profileRequest.Exact := rfl
  exact ⟨hexact.reads_serialize, rfl, [], rfl⟩

/-- The platform handles a signup. -/
theorem signup_run : ∃ pending', Work.Run (Platform.handle Codec.api "") (fun _ => False)
      (fun _ _ _ => True) ⟨Platform.blank, [Platform.frame ⟨"s", signupRequest.serialize Codec.api⟩]⟩
      ⟨Platform.oneProfile, pending'⟩ := by
  have hexact : signupRequest.Exact := rfl
  have hframe : Platform.handle Codec.api "" .calm Platform.blank
      (Platform.frame ⟨"s", signupRequest.serialize Codec.api⟩) = .ok (Platform.blank, [{
        dest := .profile
        sender := .router
        command := "signup"
        body := .task (Platform.Router.task signupRequest "s" "profile" "signup") }]) := by
    have hprofile : (Platform.contacts .router).lookup "profile" = some .profile := rfl
    rw [Platform.handle_frame, Platform.Router.dispatcher_of_quest Codec.api hexact.reads_serialize rfl
      (rfl : split signupRequest.method = ["profile", "signup"]) rfl (by decide)
      (Platform.lookup_of_wired Platform.blank_initial.contacts hprofile)]
    rfl
  obtain ⟨out, hsignup⟩ : ∃ out, Platform.handle Codec.api "" .calm Platform.blank {
      dest := .profile
      sender := .router
      command := "signup"
      body := .task (Platform.Router.task signupRequest "s" "profile" "signup") } =
      .ok (Platform.oneProfile, out) := ⟨_, rfl⟩
  exact ⟨out, (Work.Run.handle_single (.refl _) .calm trivial hframe).handle_single .calm trivial hsignup⟩

/-- Behind a request that circles another one comes to an end. The request for
`profile.auth` does so unless it is handled behind the signup of its login. -/
theorem arrivals_settle_behind :
    Work.Dies (Manager.handle Codec.api ⟨"p.q", "m"⟩) Manager.Arrives (fun _ _ _ => True)
      (fun _ _ _ => True) ⟨Manager.blank,
        [Manager.frame ⟨"s", circularRequest.serialize Codec.api⟩],
        [Manager.frame ⟨"t", groupsRequest.serialize Codec.api⟩]⟩ ∧
    Work.Dies (Platform.handle Codec.api "") (fun _ => False) (fun _ _ _ => True)
      (fun _ _ _ => True) ⟨Platform.blank, [],
        [Platform.frame ⟨"t", profileRequest.serialize Codec.api⟩]⟩ ∧
    ¬ Work.Dies (Platform.handle Codec.api "") (fun _ => False) (fun _ _ _ => True)
      (fun _ _ _ => True) ⟨Platform.blank,
        [Platform.frame ⟨"s", signupRequest.serialize Codec.api⟩],
        [Platform.frame ⟨"t", profileRequest.serialize Codec.api⟩]⟩ := by
  refine ⟨?_, ?_, ?_⟩
  · have hrun : Manager.Run Codec.api ⟨"p.q", "m"⟩ (fun _ _ _ => True) ⟨Manager.blank, []⟩
        ⟨Manager.blank, [Manager.frame ⟨"s", circularRequest.serialize Codec.api⟩]⟩ :=
      .arrive (.refl _) (.frame _)
    refine ((arrivals_settle_iff Codec.api).1 _ _ _ _ _ _ _ Manager.blank_initial hrun (.frame _)
      fun _ h => h).mpr ?_
    rintro ws hbrings ⟨request, rest, hreads, hsplit, -⟩
    have hpieces : split "groups.list" = ["groups", "list"] := by decide
    have hexact : groupsRequest.Exact := rfl
    cases hbrings with
    | frame =>
      obtain rfl := hexact.reads_serialize.unique hreads
      exact absurd (hpieces.symm.trans hsplit) (by simp)
  · refine ((arrivals_settle_iff Codec.api).2 _ _ _ _ _ _ _ Platform.blank_initial (.refl _) (.frame _)
      fun _ h => h.elim).mpr ?_
    rintro ws heq n' pending' hrun ⟨request, profileKey, hasks, hstring, haccepts⟩
    cases heq
    cases hrun.eq_of_idle
    obtain rfl := profileRequest_asks.1.unique hasks.1
    cases hstring
    rcases haccepts with hcached | ⟨first, second, rest, hsplit, hpassword⟩
    · exact absurd hcached (by decide)
    · obtain ⟨rfl, rfl, rfl⟩ : first = "a" ∧ second = "b" ∧ rest = [] := by
        have hpieces : split "a.b" = ["a", "b"] := by decide
        simpa [hpieces, eq_comm] using hsplit
      exact absurd hpassword (by decide)
  · intro hdies
    have hrun : Platform.Run Codec.api "" (fun _ _ _ => True) ⟨Platform.blank, []⟩
        ⟨Platform.blank, [Platform.frame ⟨"s", signupRequest.serialize Codec.api⟩]⟩ :=
      .arrive (.refl _) (.frame _)
    obtain ⟨pending', hsignup⟩ := signup_run
    refine ((arrivals_settle_iff Codec.api).2 _ _ _ _ _ _ _ Platform.blank_initial hrun (.frame _)
      fun _ h => h.elim).mp hdies _ rfl _ pending' hsignup ?_
    exact ⟨profileRequest, "a.b", profileRequest_asks, rfl, .inr ⟨"a", "b", [], by decide, by decide⟩⟩

/-- The request for `users.auth` goes around forever, also where nothing else happens. -/
theorem circularRequest_not_settles :
    ¬ ∀ n ws, Manager.Reachable Codec.api ⟨"p.q", "m"⟩ n →
      Work.Dies (Manager.handle Codec.api ⟨"p.q", "m"⟩) (fun _ => False) (fun _ _ _ => True)
        (fun _ _ _ => True) ⟨n, [], [Manager.frame ws]⟩ := by
  intro hall
  let ws : WebSocket := { id := "s", body := circularRequest.serialize Codec.api }
  have hexact : circularRequest.Exact := rfl
  have hloops : Manager.Loops Codec.api ⟨"p.q", "m"⟩ ws :=
    ⟨circularRequest, [], hexact.reads_serialize, by decide, rfl⟩
  have hdies := hall Manager.blank ws Manager.blank_initial.reachable
  exact (Manager.Arrives.dies_iff rfl (by simp) (.frame ws) fun _ h => h.elim).mp hdies ws (.frame ws) hloops

end StreamCloud
