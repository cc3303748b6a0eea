-- SUMMARY: In which runs every message carries a body of the type that its handler reads.
import StreamCloud.Manager.Flow
import StreamCloud.Platform.Flow
import StreamCloud.Api.JsonSorted

/-!
# Body typing

A message is `Taken` when it is for an attached handler that can read its body.
Arriving messages are taken, and so is whatever the handlers send themselves.
What remains is the router, which sends a task to the handler that the client
names: the standard handlers, and those that read a transport, are no handlers
for tasks.
-/

namespace StreamCloud

/-! ## The manager -/

namespace Manager

variable {J : Codec} {config : Config}

/-- The handlers of listed services that read a transport. -/
def transportHandlers : List (String × String) :=
  [("devices", "response"), ("devices", "notify"), ("subscriptions", "emit")]

/-- A task for a listed service, whose method is the name of a standard handler
or of one that reads a transport. -/
def Stray (task : Task) : Prop :=
  task.stored "service.name" ∈ Router.serviceList ∧
    (task.stored "service.method" ∈ Program.standardHandlers ∨
      (task.stored "service.name", task.stored "service.method") ∈ transportHandlers)

/-- The router is about to dispatch a stray task. -/
def Misdirects (e : Envelope Actor) : Prop :=
  e.dest = .router ∧ e.command = "service" ∧
    ∃ task, e.body = .task task ∧ Router.Permitted task ∧ Stray task

theorem Arrives.taken {e : Envelope Actor} (h : Arrives e) : (program J config).Taken e := by
  cases h <;> trivial

theorem Sent.taken {a dest sender : Actor} {command name command' : String} {body : Body Actor}
    (h : Sent a command name command' body) (hdest : (contacts a).lookup name = some dest) :
    (program J config).Taken { dest, sender, command := command', body } := by
  cases a <;> cases h <;> cases hdest <;> trivial

/-- The listed services, as actors. -/
theorem dest_of_listed {name : String} {dest : Actor} (h : name ∈ Router.serviceList)
    (hdest : (contacts .router).lookup name = some dest) :
    name = dest.name ∧ dest ∈ [.users, .groups, .subscriptions, .connections, .devices] := by
  simp only [Router.serviceList, List.mem_cons, List.not_mem_nil, or_false] at h
  rcases h with rfl | rfl | rfl | rfl | rfl | rfl <;> cases hdest <;> simp [Actor.name]

/-- What a listed service attaches are handlers of tasks, but for the three that
read a transport. -/
theorem takes_of_attached {dest : Actor} {command : String} {action : Action Actor Services}
    (hdest : dest ∈ [.users, .groups, .subscriptions, .connections, .devices])
    (hmem : (command, action) ∈ (program J config).attached dest)
    (hstray : (dest.name, command) ∉ transportHandlers) (task : Task) :
    action.Takes (.task task) := by
  simp only [List.mem_cons, List.not_mem_nil, or_false] at hdest
  rcases hdest with rfl | rfl | rfl | rfl | rfl <;>
    obtain ⟨inner, hinner, rfl⟩ := mem_liftAll.mp hmem
  case inl =>
    simp only [Users.handlers, List.mem_cons, Prod.mk.injEq, List.not_mem_nil, or_false] at hinner
    rcases hinner with ⟨-, rfl⟩ | ⟨-, rfl⟩ | ⟨-, rfl⟩ | ⟨-, rfl⟩ | ⟨-, rfl⟩ <;> trivial
  case inr.inl =>
    simp only [Groups.handlers, List.mem_cons, Prod.mk.injEq, List.not_mem_nil, or_false] at hinner
    rcases hinner with ⟨-, rfl⟩ | ⟨-, rfl⟩ | ⟨-, rfl⟩ <;> trivial
  case inr.inr.inl =>
    simp only [Subscriptions.handlers, List.mem_cons, Prod.mk.injEq, List.not_mem_nil,
      or_false] at hinner
    rcases hinner with ⟨rfl, rfl⟩ | ⟨rfl, rfl⟩ | ⟨rfl, rfl⟩ | ⟨rfl, rfl⟩ | ⟨rfl, rfl⟩ | ⟨rfl, rfl⟩ |
      ⟨rfl, rfl⟩ | ⟨rfl, rfl⟩ <;> trivial
  case inr.inr.inr.inl =>
    simp only [Connections.handlers, List.mem_cons, Prod.mk.injEq, List.not_mem_nil,
      or_false] at hinner
    rcases hinner with ⟨-, rfl⟩ | ⟨-, rfl⟩ | ⟨-, rfl⟩ | ⟨-, rfl⟩ | ⟨-, rfl⟩ | ⟨-, rfl⟩ | ⟨-, rfl⟩ <;>
      trivial
  case inr.inr.inr.inr =>
    simp only [Devices.handlers, List.mem_cons, Prod.mk.injEq, List.not_mem_nil, or_false] at hinner
    rcases hinner with ⟨rfl, rfl⟩ | ⟨rfl, rfl⟩ | ⟨rfl, rfl⟩ | ⟨rfl, rfl⟩ | ⟨rfl, rfl⟩ | ⟨rfl, rfl⟩ |
      ⟨rfl, rfl⟩ | ⟨rfl, rfl⟩ | ⟨rfl, rfl⟩ | ⟨rfl, rfl⟩ | ⟨rfl, rfl⟩ | ⟨rfl, rfl⟩ <;> trivial

/-- A dispatched task that is not stray is taken by the handler it names. -/
theorem taken_of_dispatches {n : State} (hn : n.contacts = contacts) {task : Task} {dest sender : Actor}
    (h : Router.Dispatches ((program J config).ctx n .router) task dest) (hstray : ¬ Stray task) :
    (program J config).Taken
      { dest, sender, command := task.stored "service.method", body := .task task } := by
  have hcontact : (contacts .router).lookup (task.stored "service.name") = some dest := by
    rw [← hn]; exact h.contact
  obtain ⟨hname, hdest⟩ := dest_of_listed h.listed hcontact
  have hno : task.stored "service.method" ∉ Program.standardHandlers ∧
      (task.stored "service.name", task.stored "service.method") ∉ transportHandlers := by
    simpa [Stray, h.listed] using hstray
  rw [hname] at hno
  exact takes_of_attached hdest (Program.reaction_mem_attached h.method hno.1) hno.2 task

/-- The step lemma: a taken message that is no stray task about to be dispatched
leaves only taken messages. -/
theorem taken_of_handle {env : Env} {n n' : State} {e : Envelope Actor}
    {out : List (Envelope Actor)} (hn : n.contacts = contacts) (ht : (program J config).Taken e)
    (hstray : ¬ Misdirects e) (h : handle J config env n e = .ok (n', out)) :
    n'.contacts = contacts ∧ ∀ e' ∈ out, (program J config).Taken e' := by
  obtain ⟨services, action, rfl, hmem, hran⟩ :=
    (Program.handled_of_eq_ok h).attached_of_taken ht
  refine ⟨hn, fun e' he' => ?_⟩
  cases emits_of_ran hmem hran with
  | sends hsends =>
    obtain ⟨hsender, name, hdest, hsent⟩ := hsends e' he'
    exact hsent.taken (by rw [← hn]; exact hdest)
  | @dispatches task dest hrouter hservice hbody hd =>
    obtain rfl := List.mem_singleton.mp he'
    rw [hrouter] at hd
    exact taken_of_dispatches hn hd fun hs => hstray ⟨hrouter, hservice, task, hbody, hd.permitted, hs⟩
  | pipe => obtain rfl := List.mem_singleton.mp he'; trivial

/-- The run lemma. -/
theorem Run.taken {n₀ : State} {c : Work.Config State (Envelope Actor)} (h₀ : Initial n₀)
    (hrun : Run J config (fun _ _ e => ¬ Misdirects e) ⟨n₀, []⟩ c) :
    ∀ e ∈ c.pending, (program J config).Taken e :=
  (hrun.invariant (fun n => n.contacts = contacts) (program J config).Taken h₀.contacts (by simp)
    (fun _ h => h.taken) fun _ _ _ _ _ hn ht hg h => taken_of_handle hn ht hg h).2

/-- A stray task is dispatched to a handler that cannot read it, or to `skip`. -/
theorem Stray.dispatched {n : State} (hn : n.contacts = contacts) {task : Task} (h : Stray task)
    (hpermitted : Router.Permitted task) :
    ∃ dest, Router.Dispatches ((program J config).ctx n .router) task dest ∧
      (task.stored "service.method" = "skip" ∨
        ¬ ((program J config).reaction dest (task.stored "service.method")).Reads (.task task)) := by
  obtain ⟨hlisted, hname⟩ := h
  have hsome : ((contacts .router).lookup (task.stored "service.name")).isSome := by
    simp only [Router.serviceList, List.mem_cons, List.not_mem_nil, or_false] at hlisted
    rcases hlisted with h | h | h | h | h | h <;> rw [h] <;> rfl
  obtain ⟨dest, hdest⟩ := Option.isSome_iff_exists.mp hsome
  have hcontact : ((program J config).ctx n .router).contacts.lookup
      (task.stored "service.name") = some dest := by rw [← hdest, ← hn]; rfl
  rcases hname with hstandard | htransport
  · refine ⟨dest, ⟨hlisted, hcontact, Program.mem_messageTypes_of_standard hstandard, hpermitted⟩, ?_⟩
    simp only [Program.standardHandlers, List.mem_cons, List.not_mem_nil, or_false] at hstandard
    rcases hstandard with h | h | h
    · rw [h]; exact .inr fun hreads => hreads
    · exact .inl h
    · rw [h]; exact .inr fun hreads => hreads
  · simp only [transportHandlers, List.mem_cons, Prod.mk.injEq, List.not_mem_nil,
      or_false] at htransport
    rcases htransport with ⟨h, hmethod⟩ | ⟨h, hmethod⟩ | ⟨h, hmethod⟩ <;> rw [h] at hdest <;>
      cases hdest
    all_goals
      refine ⟨_, ⟨hlisted, hcontact, ?_, hpermitted⟩, .inr ?_⟩
      · rw [hmethod]; exact List.mem_of_elem_eq_true rfl
      · rw [hmethod]; exact fun hreads => hreads

/-- The guard is needed: a stray task that is dispatched is a message of the
wrong type, or one that `skip` answers with such a message. -/
theorem Misdirects.breaks {n : State} {e : Envelope Actor} (hn : n.contacts = contacts)
    (h : Misdirects e) (env : Env) :
    ∃ e', handle J config env n e = .ok (n, [e']) ∧ (¬ (program J config).WellTyped e' ∨
      ∃ e'', handle J config env n e' = .ok (n, [e'']) ∧ ¬ (program J config).WellTyped e'') := by
  obtain ⟨dest, sender, command, body⟩ := e
  obtain ⟨rfl, rfl, task, rfl, hpermitted, hstray⟩ := h
  obtain ⟨dest, hd, hcases⟩ := hstray.dispatched hn hpermitted
  refine ⟨{ dest, sender := .router, command := task.stored "service.method", body := .task task },
    ?_, ?_⟩
  · exact handle_of_dispatches hd
  · rcases hcases with hskip | hreads
    · refine .inr ⟨{ dest := .router, sender := dest, command := "error", body := .text "skip" }, ?_,
        fun hreads => hreads⟩
      rw [hskip]
      rfl
    · exact .inl hreads

end Manager

/-! ## The platform -/

namespace Platform

variable {J : Codec} {managerKey : String}

/-- A task for a listed service, whose method is the name of a standard handler
or `managers.response`, which reads a transport. -/
def Stray (task : Task) : Prop :=
  task.stored "service.name" ∈ Router.serviceList ∧
    (task.stored "service.method" ∈ Program.standardHandlers ∨
      task.stored "service.name" = "managers" ∧ task.stored "service.method" = "response")

/-- The router is about to dispatch a stray task. -/
def Misdirects (e : Envelope Actor) : Prop :=
  e.dest = .router ∧ e.command = "service" ∧ ∃ task, e.body = .task task ∧ Stray task

theorem Arrives.taken {e : Envelope Actor} (h : Arrives e) : (program J managerKey).Taken e := by
  cases h <;> trivial

theorem Sent.taken {a dest sender : Actor} {command name command' : String} {body : Body Actor}
    (h : Sent a command name command' body) (hdest : (contacts a).lookup name = some dest) :
    (program J managerKey).Taken { dest, sender, command := command', body } := by
  cases a <;> cases h <;> cases hdest <;> trivial

/-- The listed services, as actors. -/
theorem dest_of_listed {name : String} {dest : Actor} (h : name ∈ Router.serviceList)
    (hdest : (contacts .router).lookup name = some dest) :
    name = dest.name ∧ dest ∈ [.profile, .managers, .managerInfo] := by
  simp only [Router.serviceList, List.mem_cons, List.not_mem_nil, or_false] at h
  rcases h with rfl | rfl | rfl <;> cases hdest <;> simp [Actor.name]

/-- What a listed service attaches are handlers of tasks, but for the one that
reads a transport. -/
theorem takes_of_attached {dest : Actor} {command : String} {action : Action Actor Services}
    (hdest : dest ∈ [.profile, .managers, .managerInfo])
    (hmem : (command, action) ∈ (program J managerKey).attached dest)
    (hstray : ¬ (dest.name = "managers" ∧ command = "response")) (task : Task) :
    action.Takes (.task task) := by
  simp only [List.mem_cons, List.not_mem_nil, or_false] at hdest
  rcases hdest with rfl | rfl | rfl <;> obtain ⟨inner, hinner, rfl⟩ := mem_liftAll.mp hmem
  case inl =>
    simp only [Profile.handlers, List.mem_cons, Prod.mk.injEq, List.not_mem_nil, or_false] at hinner
    rcases hinner with ⟨-, rfl⟩ | ⟨-, rfl⟩ | ⟨-, rfl⟩ <;> trivial
  case inr.inl =>
    simp only [Managers.handlers, List.mem_cons, Prod.mk.injEq, List.not_mem_nil, or_false] at hinner
    rcases hinner with ⟨rfl, rfl⟩ | ⟨rfl, rfl⟩ | ⟨rfl, rfl⟩ | ⟨rfl, rfl⟩ | ⟨rfl, rfl⟩ | ⟨rfl, rfl⟩ |
      ⟨rfl, rfl⟩ <;> trivial
  case inr.inr =>
    obtain ⟨-, rfl⟩ := Prod.mk.inj (List.mem_singleton.mp hinner)
    trivial

/-- A dispatched task that is not stray is taken by the handler it names. -/
theorem taken_of_dispatches {n : State} (hn : n.contacts = contacts) {task : Task} {dest sender : Actor}
    (h : Router.Dispatches ((program J managerKey).ctx n .router) task dest) (hstray : ¬ Stray task) :
    (program J managerKey).Taken
      { dest, sender, command := task.stored "service.method", body := .task task } := by
  have hcontact : (contacts .router).lookup (task.stored "service.name") = some dest := by
    rw [← hn]; exact h.contact
  obtain ⟨hname, hdest⟩ := dest_of_listed h.listed hcontact
  have hno : task.stored "service.method" ∉ Program.standardHandlers ∧
      ¬ (task.stored "service.name" = "managers" ∧ task.stored "service.method" = "response") :=
    not_or.mp fun hor => hstray ⟨h.listed, hor⟩
  rw [hname] at hno
  exact takes_of_attached hdest (Program.reaction_mem_attached h.method hno.1) hno.2 task

/-- The step lemma: a taken message that is no stray task about to be dispatched
leaves only taken messages. -/
theorem taken_of_handle {env : Env} {n n' : State} {e : Envelope Actor}
    {out : List (Envelope Actor)} (hn : n.contacts = contacts) (ht : (program J managerKey).Taken e)
    (hstray : ¬ Misdirects e) (h : handle J managerKey env n e = .ok (n', out)) :
    n'.contacts = contacts ∧ ∀ e' ∈ out, (program J managerKey).Taken e' := by
  obtain ⟨services, action, rfl, hmem, hran⟩ :=
    (Program.handled_of_eq_ok h).attached_of_taken ht
  refine ⟨hn, fun e' he' => ?_⟩
  cases emits_of_ran hmem hran with
  | sends hsends =>
    obtain ⟨hsender, name, hdest, hsent⟩ := hsends e' he'
    exact hsent.taken (by rw [← hn]; exact hdest)
  | @dispatches task dest hrouter hservice hbody hd =>
    obtain rfl := List.mem_singleton.mp he'
    rw [hrouter] at hd
    exact taken_of_dispatches hn hd fun hs => hstray ⟨hrouter, hservice, task, hbody, hs⟩

/-- The run lemma. -/
theorem Run.taken {n₀ : State} {c : Work.Config State (Envelope Actor)} (h₀ : Initial n₀)
    (hrun : Run J managerKey (fun _ _ e => ¬ Misdirects e) ⟨n₀, []⟩ c) :
    ∀ e ∈ c.pending, (program J managerKey).Taken e :=
  (hrun.invariant (fun n => n.contacts = contacts) (program J managerKey).Taken h₀.contacts (by simp)
    (fun _ h => h.taken) fun _ _ _ _ _ hn ht hg h => taken_of_handle hn ht hg h).2

/-- A stray task is dispatched to a handler that cannot read it, or to `skip`. -/
theorem Stray.dispatched {n : State} (hn : n.contacts = contacts) {task : Task} (h : Stray task) :
    ∃ dest, Router.Dispatches ((program J managerKey).ctx n .router) task dest ∧
      (task.stored "service.method" = "skip" ∨
        ¬ ((program J managerKey).reaction dest (task.stored "service.method")).Reads (.task task)) := by
  obtain ⟨hlisted, hname⟩ := h
  have hsome : ((contacts .router).lookup (task.stored "service.name")).isSome := by
    simp only [Router.serviceList, List.mem_cons, List.not_mem_nil, or_false] at hlisted
    rcases hlisted with h | h | h <;> rw [h] <;> rfl
  obtain ⟨dest, hdest⟩ := Option.isSome_iff_exists.mp hsome
  have hcontact : ((program J managerKey).ctx n .router).contacts.lookup
      (task.stored "service.name") = some dest := by rw [← hdest, ← hn]; rfl
  rcases hname with hstandard | ⟨hservice, hmethod⟩
  · refine ⟨dest, ⟨hlisted, hcontact, Program.mem_messageTypes_of_standard hstandard⟩, ?_⟩
    simp only [Program.standardHandlers, List.mem_cons, List.not_mem_nil, or_false] at hstandard
    rcases hstandard with h | h | h
    · rw [h]; exact .inr fun hreads => hreads
    · exact .inl h
    · rw [h]; exact .inr fun hreads => hreads
  · rw [hservice] at hdest
    cases hdest
    refine ⟨_, ⟨hlisted, hcontact, ?_⟩, .inr ?_⟩
    · rw [hmethod]; exact List.mem_of_elem_eq_true rfl
    · rw [hmethod]; exact fun hreads => hreads

/-- The guard is needed: a stray task that is dispatched is a message of the
wrong type, or one that `skip` answers with such a message. -/
theorem Misdirects.breaks {n : State} {e : Envelope Actor} (hn : n.contacts = contacts)
    (h : Misdirects e) (env : Env) :
    ∃ e', handle J managerKey env n e = .ok (n, [e']) ∧ (¬ (program J managerKey).WellTyped e' ∨
      ∃ e'', handle J managerKey env n e' = .ok (n, [e'']) ∧
        ¬ (program J managerKey).WellTyped e'') := by
  obtain ⟨dest, sender, command, body⟩ := e
  obtain ⟨rfl, rfl, task, rfl, hstray⟩ := h
  obtain ⟨dest, hd, hcases⟩ := hstray.dispatched hn
  refine ⟨{ dest, sender := .router, command := task.stored "service.method", body := .task task },
    ?_, ?_⟩
  · exact handle_of_dispatches hd
  · rcases hcases with hskip | hreads
    · refine .inr ⟨{ dest := .router, sender := dest, command := "error", body := .text "skip" }, ?_,
        fun hreads => hreads⟩
      rw [hskip]
      rfl
    · exact .inl hreads

end Platform

/-! ## Both programs -/

/-- A request of a logged-in profile that names a handler of transports. -/
def strayRequest : JsonMap :=
  [("id", .integer 1), ("jsonrpc", .string "2.0"),
    ("metadata", .map [("profile-key", .string "a.b")]), ("method", .string "managers.response")]

/-- The request as `profile.auth` gets it. -/
def strayTask : Task where
  request := {
    id := .integer 1
    method := "managers.response"
    params := .null
    metadata := [("profile-key", .string "a.b")] }
  transportId := "s"
  storage := ((∅ : StringMap String).insert "service.name" "managers").insert "service.method" "response"

/-- In a run whose router dispatches no stray task, every message has a body of
the type that its handler reads. -/
theorem bodies_wellTyped (J : Codec) :
    (∀ config n₀ c, Manager.Initial n₀ →
      Manager.Run J config (fun _ _ e => ¬ Manager.Misdirects e) ⟨n₀, []⟩ c →
      ∀ e ∈ c.pending, (Manager.program J config).WellTyped e) ∧
    (∀ managerKey n₀ c, Platform.Initial n₀ →
      Platform.Run J managerKey (fun _ _ e => ¬ Platform.Misdirects e) ⟨n₀, []⟩ c →
      ∀ e ∈ c.pending, (Platform.program J managerKey).WellTyped e) :=
  ⟨fun _ _ _ h₀ hrun e he => (Manager.Run.taken h₀ hrun e he).wellTyped,
    fun _ _ _ h₀ hrun e he => (Platform.Run.taken h₀ hrun e he).wellTyped⟩

/-- A request with a key, for a handler that lists rows. -/
def listRequest (method keyName key : String) : RequestMessage where
  id := .integer 1
  method
  params := .null
  metadata := [(keyName, .string key)]

/-- Two requests, through the services that check their keys and `router.service`. -/
theorem bodies_wellTyped_listed :
    (Manager.program Codec.api ⟨"p.q", "m"⟩).WellTyped {
        dest := .devices
        sender := .router
        command := "list"
        body := .task (Manager.adminTask ⟨"p.q", "m"⟩ (listRequest "devices.list" "user-key" "p.q") "s"
          "devices" "list") } ∧
      (Platform.program Codec.api "").WellTyped {
        dest := .managers
        sender := .router
        command := "list"
        body := .task (Platform.profileTask (listRequest "managers.list" "profile-key" "a.b") "s"
          "managers" "list" "a") } := by
  constructor
  · let request : RequestMessage := listRequest "devices.list" "user-key" "p.q"
    let ws : WebSocket := ⟨"s", request.serialize Codec.api⟩
    have hexact : request.Exact := rfl
    have hreads : Codec.api.ReadsRequest ws.body request := hexact.reads_serialize
    have hsplit : split request.method = "devices" :: "list" :: [] := (by decide : split "devices.list" = _)
    have hmethod : List.elem "list" ((Manager.program Codec.api ⟨"p.q", "m"⟩).messageTypes .devices) = true := rfl
    have hguard : ∀ e : Envelope Manager.Actor, e.dest = .router ∨ e.dest = .users →
        (∀ task, e.body = .task task → task.Names "devices" "list") → ¬ Manager.Misdirects e := by
      rintro e - hnames ⟨-, -, task, hbody, -, hstray⟩
      obtain ⟨hname, hlist⟩ := hnames task hbody
      rw [Manager.Stray, hname, hlist] at hstray
      exact absurd hstray (by decide)
    have hstart : Manager.Run Codec.api ⟨"p.q", "m"⟩ (fun _ _ e => ¬ Manager.Misdirects e)
        ⟨Manager.blank, []⟩ ⟨Manager.blank, []⟩ := .refl _
    have hrun := hstart.delivers hguard rfl hreads hsplit rfl (by decide) rfl
      (List.mem_of_elem_eq_true hmethod)
    exact (bodies_wellTyped Codec.api).1 _ _ _ Manager.blank_initial hrun _ (List.mem_singleton_self _)
  · let request : RequestMessage := listRequest "managers.list" "profile-key" "a.b"
    let ws : WebSocket := ⟨"s", request.serialize Codec.api⟩
    have hexact : request.Exact := rfl
    have hreads : Codec.api.ReadsRequest ws.body request := hexact.reads_serialize
    have hsplit : split request.method = "managers" :: "list" :: [] := (by decide : split "managers.list" = _)
    have hpieces : split "a.b" = "a" :: "b" :: [] := by decide
    have hmethod : List.elem "list" ((Platform.program Codec.api "").messageTypes .managers) = true := rfl
    have hguard : ∀ (_ : Platform.State) (e : Envelope Platform.Actor), e.dest = .router ∨ e.dest = .profile →
        (∀ task, e.body = .task task → task.Names "managers" "list") → ¬ Platform.Misdirects e := by
      rintro - e - hnames ⟨-, -, task, hbody, hstray⟩
      obtain ⟨hname, hlist⟩ := hnames task hbody
      rw [Platform.Stray, hname, hlist] at hstray
      exact absurd hstray (by decide)
    have hstart : Platform.Run Codec.api "" (fun _ _ e => ¬ Platform.Misdirects e)
        ⟨Platform.oneProfile, []⟩ ⟨Platform.oneProfile, []⟩ := .refl _
    have hrun := hstart.delivers hguard rfl hreads hsplit rfl rfl hpieces (by decide) (by decide) rfl
      (List.mem_of_elem_eq_true hmethod)
    exact (bodies_wellTyped Codec.api).2 _ _ _ Platform.oneProfile_initial hrun _ (List.mem_singleton_self _)

/-- Without the guard it does not hold: the router of the platform delivers the
task of a client to `managers.response`. -/
theorem bodies_not_wellTyped :
    ¬ ∀ n₀ c, Platform.Initial n₀ → Platform.Run Codec.api "" (fun _ _ _ => True) ⟨n₀, []⟩ c →
      ∀ e ∈ c.pending, (Platform.program Codec.api "").WellTyped e := by
  intro hall
  let n₁ : Platform.State := { Platform.oneProfile with
    services := { Platform.oneProfile.services with profile := Platform.oneProfile.services.profile.addAuth "a.b" } }
  let dispatched : Envelope Platform.Actor :=
    { dest := .managers, sender := .router, command := "response",
      body := .task (strayTask.emplace "profile.login" "a") }
  have harrived : Platform.Run Codec.api "" (fun _ _ _ => True) ⟨Platform.oneProfile, []⟩
      ⟨Platform.oneProfile, [Platform.frame ⟨"s", Codec.api.print strayRequest⟩]⟩ :=
    .arrive (.refl _) (.frame _)
  have hframe : Platform.handle Codec.api "" .calm Platform.oneProfile
      (Platform.frame ⟨"s", Codec.api.print strayRequest⟩) = .ok (Platform.oneProfile,
        [{ dest := .profile, sender := .router, command := "auth", body := .task strayTask }]) := by
    rw [Platform.handle_frame, Platform.Router.dispatcher]
    simp only [Transport.asWebSocket_webSocket, Except.ok_bind', Codec.api_roundTrip]
    rfl
  have hauth : Platform.Run Codec.api "" (fun _ _ _ => True) ⟨Platform.oneProfile, []⟩
      ⟨n₁, [{ dest := .router, sender := .profile, command := "service",
              body := .task (strayTask.emplace "profile.login" "a") }]⟩ :=
    (harrived.handle_single .calm trivial hframe).handle_single .calm trivial rfl
  have hrun : Platform.Run Codec.api "" (fun _ _ _ => True) ⟨Platform.oneProfile, []⟩
      ⟨n₁, [dispatched]⟩ := hauth.handle_single .calm trivial rfl
  exact hall _ _ Platform.oneProfile_initial hrun dispatched (by simp)

end StreamCloud
