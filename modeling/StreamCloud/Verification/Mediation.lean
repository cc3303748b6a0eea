-- SUMMARY: Every task that the router of the manager delivers is a guest's, or one that users.auth has accepted.
import StreamCloud.Verification.Termination
import StreamCloud.Api.JsonSorted

/-!
# Mediation

A task that the router delivers is followed back to the frame it was made of. It
may have been on its way through several handlings of `users.auth`, and the
frame may have been relayed by the platform.
-/

namespace StreamCloud

/-- A request is read back with its method and its user key. -/
theorem RequestMessage.stringAt_reread {request : RequestMessage}
    (hsorted : request.metadata.Sorted) {key s : String} :
    request.reread.metadata.stringAt key = .ok s ↔ request.metadata.stringAt key = .ok s := by
  simp only [RequestMessage.reread, JsonMap.stringAt_eq_ok, JsonMap.find?_reread hsorted,
    Option.map_eq_some_iff, JsonValue.reread_eq_string, exists_eq_right]

/-- The metadata of a request that was read from a text. -/
theorem Codec.ReadsRequest.sorted {text : String} {request : RequestMessage}
    (h : Codec.api.ReadsRequest text request) : request.metadata.Sorted := by
  obtain ⟨message, m', hparse, hrequest, hread⟩ := h
  have hsorted := Codec.api_sorted hparse
  rw [JsonMap.isRequest, Bool.and_eq_true] at hrequest
  obtain ⟨-, hmetadata, -⟩ := (JsonMap.parseRequest_eq_ok hrequest.2).mp hread
  rcases JsonMap.readMetadata_eq_ok.mp hmetadata with hfind | ⟨-, hempty⟩
  · exact hsorted.find? hfind
  · rw [hempty]
    exact JsonMap.sorted_nil

namespace Manager

variable {config : Config}

/-- The frame that `platform` makes of a request has the same request in it. -/
theorem PlatformService.Relays.reads {ws ws' : WebSocket} {request : RequestMessage}
    (h : PlatformService.Relays Codec.api ws ws') (hreads : Codec.api.ReadsRequest ws.body request) :
    Codec.api.ReadsRequest ws'.body request.reread := by
  obtain ⟨message, request', m', id, hparse, hrequest, hread, -, -, rfl⟩ := h
  obtain rfl := hreads.unique ⟨message, m', hparse, hrequest, hread⟩
  obtain ⟨-, hrequest', m'', hread'⟩ :=
    JsonMap.parseRequest_reread (Codec.api_sorted hparse) hrequest hread
  exact ⟨m'.reread, m'', Codec.api_roundTrip m', hrequest', hread'⟩

/-- The keys that `users.auth` notes on a task. -/
def authNotes : List String := ["user.admin", "user.login"]

/-- A task for `users.auth`: what it carries is what the router put on it, but
for what `users.auth` itself notes. -/
structure Carries (config : Config) (read : RequestMessage) (id serviceName methodName : String)
    (task : Task) : Prop where
  request : task.request = read
  transportId : task.transportId = id
  storage : ∀ key, key ∉ authNotes → task.storage.lookup key =
    (Router.task config read id serviceName methodName).storage.lookup key
  login : ∀ userKey first rest, read.metadata.stringAt "user-key" = .ok userKey →
    split userKey = first :: rest → (task.storage.lookup "user.login").getD first = first

/-- The task after `users.auth` has accepted it for a user key. -/
def acceptedTask (config : Config) (read : RequestMessage) (id serviceName methodName userKey first : String) :
    Task :=
  (Users.noted (Router.task config read id serviceName methodName) userKey).emplace "user.login" first

/-- What `users.auth` does not note on an accepted task, the router has put there. -/
theorem lookup_acceptedTask {read : RequestMessage} {id serviceName methodName userKey first : String}
    {key : String} (h : key ∉ authNotes) :
    (acceptedTask config read id serviceName methodName userKey first).storage.lookup key =
      (Router.task config read id serviceName methodName).storage.lookup key := by
  simp only [authNotes, List.mem_cons, List.not_mem_nil, or_false, not_or] at h
  rw [acceptedTask, Task.emplace, AList.lookup_emplace_ne h.2, Users.noted, Task.store,
    AList.lookup_insert_ne h.1]

section Tracing

variable (config) (c₀ c : Work.Config State (Envelope Actor))

/-- The message has arrived in the run. -/
abbrev Came (e : Envelope Actor) : Prop :=
  Work.Arrived (handle Codec.api config) Arrives (fun _ _ _ => True) c₀ c e

/-- A request that a client has written in a frame, the frame as it comes to the
router, and the request that the router reads in it. -/
inductive Requested : RequestMessage → WebSocket → RequestMessage → Prop
  | direct {request : RequestMessage} {ws : WebSocket} : Came config c₀ c (frame ws) →
      Codec.api.ReadsRequest ws.body request → Requested request ws request
  | relayed {request : RequestMessage} {ws ws' : WebSocket} :
      Came config c₀ c (platformFrame ws) → PlatformService.Relays Codec.api ws ws' →
      Codec.api.ReadsRequest ws.body request → Requested request ws' request.reread

/-- A task on its way to `users.auth`, made of a request with a user key. -/
def Asks (task : Task) : Prop :=
  ∃ request ws read serviceName methodName rest, Requested config c₀ c request ws read ∧
    read.metadata.contains "user-key" ∧ split read.method = serviceName :: methodName :: rest ∧
    Carries config read ws.id serviceName methodName task

/-- A task that `users.auth` has accepted in the run, for the user key of its request. -/
def Accepted (task : Task) : Prop :=
  ∃ asked env n sender out userKey first rest, Asks config c₀ c asked ∧
    asked.metadataString "user-key" = .ok userKey ∧ split userKey = first :: rest ∧
    task = (Users.noted asked userKey).emplace "user.login" first ∧
    Work.Caused (handle Codec.api config) Arrives (fun _ _ _ => True) c₀ c env n
      { dest := .users, sender, command := "auth", body := .task asked } out ∧
    { dest := .router, sender := .users, command := "service", body := .task task } ∈ out

/-- How a message came to be, as far as its frame or its task goes. -/
structure Traced (e : Envelope Actor) : Prop where
  frame : ∀ ws, e.dest = .router → e.command = "dispatcher" → e.body = .transport (.webSocket ws) →
    Came config c₀ c (frame ws) ∨
      ∃ ws₀, Came config c₀ c (platformFrame ws₀) ∧ PlatformService.Relays Codec.api ws₀ ws
  platform : ∀ ws, e.dest = .platform → e.command = "dispatcher" →
    e.body = .transport (.webSocket ws) → Came config c₀ c (platformFrame ws)
  auth : ∀ task, e.dest = .users → e.command = "auth" → e.body = .task task → Asks config c₀ c task
  service : ∀ task, e.dest = .router → e.command = "service" → e.body = .task task →
    Accepted config c₀ c task

end Tracing

section Tracing

variable {c₀ c c' : Work.Config State (Envelope Actor)}

theorem Requested.trans {request read : RequestMessage} {ws : WebSocket}
    (h : Requested config c₀ c request ws read)
    (hrun : Run Codec.api config (fun _ _ _ => True) c c') :
    Requested config c₀ c' request ws read := by
  cases h with
  | direct hcame hreads => exact .direct (hcame.trans hrun) hreads
  | relayed hcame hrelays hreads => exact .relayed (hcame.trans hrun) hrelays hreads

theorem Asks.trans {task : Task} (h : Asks config c₀ c task)
    (hrun : Run Codec.api config (fun _ _ _ => True) c c') : Asks config c₀ c' task := by
  obtain ⟨request, ws, read, serviceName, methodName, rest, hrequested, hcarries⟩ := h
  exact ⟨request, ws, read, serviceName, methodName, rest, hrequested.trans hrun, hcarries⟩

theorem Accepted.trans {task : Task} (h : Accepted config c₀ c task)
    (hrun : Run Codec.api config (fun _ _ _ => True) c c') : Accepted config c₀ c' task := by
  obtain ⟨asked, env, n, sender, out, userKey, first, rest, hasks, hkey, hparts, heq, hcaused,
    hsent⟩ := h
  exact ⟨asked, env, n, sender, out, userKey, first, rest, hasks.trans hrun, hkey, hparts, heq,
    hcaused.trans hrun, hsent⟩

theorem Traced.trans {e : Envelope Actor} (h : Traced config c₀ c e)
    (hrun : Run Codec.api config (fun _ _ _ => True) c c') : Traced config c₀ c' e where
  frame ws hdest hcommand hbody := by
    rcases h.frame ws hdest hcommand hbody with hcame | ⟨ws₀, hcame, hrelays⟩
    · exact .inl (hcame.trans hrun)
    · exact .inr ⟨ws₀, hcame.trans hrun, hrelays⟩
  platform ws hdest hcommand hbody := (h.platform ws hdest hcommand hbody).trans hrun
  auth task hdest hcommand hbody := (h.auth task hdest hcommand hbody).trans hrun
  service task hdest hcommand hbody := (h.service task hdest hcommand hbody).trans hrun

/-- Messages other than frames, and other than those to and from `users.auth`. -/
theorem Traced.of_command {e : Envelope Actor} (hdispatcher : e.command ≠ "dispatcher")
    (hauth : ¬ (e.dest = .users ∧ e.command = "auth")) (hservice : e.command ≠ "service") :
    Traced config c₀ c e where
  frame _ _ hcommand := absurd hcommand hdispatcher
  platform _ _ hcommand := absurd hcommand hdispatcher
  auth _ hdest hcommand := absurd ⟨hdest, hcommand⟩ hauth
  service _ _ hcommand := absurd hcommand hservice

/-- What arrives is where it comes from. -/
theorem Traced.of_arrived {e : Envelope Actor} (harrives : Arrives e) (hcame : Came config c₀ c e) :
    Traced config c₀ c e := by
  cases harrives with
  | frame ws => exact {
      frame := fun _ _ _ hbody => by cases hbody; exact .inl hcame
      platform := fun _ hdest => nomatch hdest
      auth := fun _ hdest => nomatch hdest
      service := fun _ _ hcommand => absurd hcommand (by simp) }
  | platformFrame ws => exact {
      frame := fun _ hdest => nomatch hdest
      platform := fun _ _ _ hbody => by cases hbody; exact hcame
      auth := fun _ hdest => nomatch hdest
      service := fun _ hdest => nomatch hdest }
  | _ => exact .of_command (by simp) (fun h => nomatch h.1) (by simp)

/-- The request that the router reads in a frame is one that a client has written. -/
theorem Traced.requested {e : Envelope Actor} {ws : WebSocket} {read : RequestMessage}
    (h : Traced config c₀ c e) (hdest : e.dest = .router) (hcommand : e.command = "dispatcher")
    (hbody : e.body = .transport (.webSocket ws)) (hreads : Codec.api.ReadsRequest ws.body read) :
    ∃ request, Requested config c₀ c request ws read := by
  rcases h.frame ws hdest hcommand hbody with hcame | ⟨ws₀, hcame, hrelays⟩
  · exact ⟨read, .direct hcame hreads⟩
  · have hrelays' := hrelays
    obtain ⟨message, request, m', id, hparse, hrequest, hread, -⟩ := hrelays'
    have hreads₀ : Codec.api.ReadsRequest ws₀.body request := ⟨message, m', hparse, hrequest, hread⟩
    obtain rfl := hreads.unique (hrelays.reads hreads₀)
    exact ⟨request, .relayed hcame hrelays hreads₀⟩

/-- The client's request and the one the router reads name the same method and
the same user key. -/
theorem Requested.same {request read : RequestMessage} {ws : WebSocket}
    (h : Requested config c₀ c request ws read) :
    read.method = request.method ∧
      read.metadata.contains "user-key" = request.metadata.contains "user-key" ∧
      ∀ userKey, read.metadata.stringAt "user-key" = .ok userKey ↔
        request.metadata.stringAt "user-key" = .ok userKey := by
  cases h with
  | direct => exact ⟨rfl, rfl, fun _ => Iff.rfl⟩
  | relayed _ _ hreads =>
    exact ⟨rfl, JsonMap.contains_reread _ _,
      fun _ => RequestMessage.stringAt_reread hreads.sorted⟩

/-! ## What the handlers on the way do -/

/-- A task that `users.auth` notes its keys on. -/
theorem Carries.accepted {read : RequestMessage} {id serviceName methodName userKey first : String}
    {rest : List String} {asked : Task} (h : Carries config read id serviceName methodName asked)
    (hkey : read.metadata.stringAt "user-key" = .ok userKey) (hparts : split userKey = first :: rest) :
    ∀ key, ((Users.noted asked userKey).emplace "user.login" first).storage.lookup key =
      (acceptedTask config read id serviceName methodName userKey first).storage.lookup key := by
  have hprofile : asked.stored "profile.key" = config.profileKey := by
    unfold Task.stored
    rw [h.storage "profile.key" (by decide)]
    rfl
  intro key
  simp only [acceptedTask, Task.emplace, Users.noted, Task.store]
  by_cases hlogin : key = "user.login"
  · subst hlogin
    rw [AList.lookup_emplace_self, AList.lookup_emplace_self, AList.lookup_insert_ne (by decide),
      h.login userKey first rest hkey hparts]
    rfl
  · rw [AList.lookup_emplace_ne hlogin, AList.lookup_emplace_ne hlogin]
    by_cases hadmin : key = "user.admin"
    · subst hadmin
      rw [AList.lookup_insert, AList.lookup_insert, hprofile, Router.stored_task_profileKey]
    · rw [AList.lookup_insert_ne hadmin, AList.lookup_insert_ne hadmin]
      exact h.storage key (by simp [authNotes, hlogin, hadmin])

/-- A task that `users.auth` has accepted, and that is given back to it, is one it
may get. -/
theorem Accepted.asks {task : Task} (h : Accepted config c₀ c task) : Asks config c₀ c task := by
  obtain ⟨asked, -, -, -, -, userKey, first, rest, hasks, hkey, hparts, rfl, -⟩ := h
  obtain ⟨request, ws, read, serviceName, methodName, pieces, hrequested, hcontains, hsplit,
    hcarries⟩ := hasks
  have hread : read.metadata.stringAt "user-key" = .ok userKey := hcarries.request ▸ hkey
  have hstorage := hcarries.accepted hread hparts
  refine ⟨request, ws, read, serviceName, methodName, pieces, hrequested, hcontains, hsplit,
    hcarries.request, hcarries.transportId, ?_, ?_⟩
  · intro key hnote
    rw [hstorage, lookup_acceptedTask hnote]
  · intro userKey' first' rest' hkey' hparts'
    obtain rfl : userKey = userKey' := Except.ok.inj (hread.symm.trans hkey')
    obtain ⟨rfl, -⟩ := List.cons.inj (hparts.symm.trans hparts')
    rw [hstorage, acceptedTask, Task.emplace, AList.lookup_emplace_self]
    rfl

/-- A task that the dispatcher sends is that of a client's request. -/
theorem Traced.task_of_dispatcher {env : Env} {n n' : State} {e e' : Envelope Actor}
    {out : List (Envelope Actor)} {task : Task} (ht : Traced config c₀ c e) (hdest : e.dest = .router)
    (hcommand : e.command = "dispatcher") (h : handle Codec.api config env n e = .ok (n', out))
    (he' : e' ∈ out) (htask : e'.body = .task task) :
    ∃ request ws read serviceName methodName rest, Requested config c₀ c request ws read ∧
      split read.method = serviceName :: methodName :: rest ∧
      task = Router.task config read ws.id serviceName methodName ∧
      (read.metadata.contains "user-key" ∧ (n.contacts .router).lookup "users" = some e'.dest ∧
          e'.command = "auth" ∨
        ¬ read.metadata.contains "user-key" ∧ read.method ∈ Router.questMethodList ∧
          (n.contacts .router).lookup serviceName = some e'.dest ∧ e'.command = methodName) := by
  obtain ⟨dest, sender, command, body⟩ := e
  obtain rfl := hdest
  obtain rfl := hcommand
  obtain ⟨transport, component, rfl, hrun, -⟩ := Program.transport_of_handle rfl h
  obtain ⟨ws, read, serviceName, methodName, rest, rfl, hreads, hsplit, htask, hcases⟩ :=
    Router.dispatcher_task Codec.api hrun he' htask
  obtain ⟨request, hrequested⟩ := ht.requested rfl rfl rfl hreads
  exact ⟨request, ws, read, serviceName, methodName, rest, hrequested, hsplit, htask, hcases⟩

/-- What the dispatcher gives to `users.auth`. -/
theorem Traced.auth_of_dispatcher {env : Env} {n n' : State} {e e' : Envelope Actor}
    {out : List (Envelope Actor)} {task : Task} (ht : Traced config c₀ c e) (hdest : e.dest = .router)
    (hcommand : e.command = "dispatcher") (h : handle Codec.api config env n e = .ok (n', out))
    (he' : e' ∈ out) (hauth : e'.command = "auth") (htask : e'.body = .task task) :
    Asks config c₀ c task := by
  obtain ⟨request, ws, read, serviceName, methodName, rest, hrequested, hsplit, rfl, hcases⟩ :=
    ht.task_of_dispatcher hdest hcommand h he' htask
  rcases hcases with ⟨hcontains, -⟩ | ⟨-, hquest, -, hmethod⟩
  · exact ⟨request, ws, read, serviceName, methodName, rest, hrequested, hcontains, hsplit, rfl, rfl,
      fun _ _ => rfl, fun _ _ _ _ _ => rfl⟩
  · -- the guest methods are not called `auth`
    have hno : ∀ method ∈ Router.questMethodList, (split method).tail.head? ≠ some "auth" := by decide
    refine absurd ?_ (hno _ hquest)
    rw [hsplit, ← hauth, hmethod]
    rfl

/-- What `users.auth` gives to the router. -/
theorem Traced.service_of_auth {env : Env} {n n' : State} {p q : List (Envelope Actor)}
    {e e' : Envelope Actor} {out : List (Envelope Actor)} {task : Task} (hn : n.contacts = contacts)
    (ht : Traced config c₀ ⟨n, p ++ e :: q⟩ e)
    (hrun : Run Codec.api config (fun _ _ _ => True) c₀ ⟨n, p ++ e :: q⟩) (hdest : e.dest = .users)
    (hcommand : e.command = "auth") (h : handle Codec.api config env n e = .ok (n', out))
    (he' : e' ∈ out) (hservice : e'.command = "service") (htask : e'.body = .task task) :
    Accepted config c₀ ⟨n', p ++ q ++ out⟩ task := by
  have hnext : Run Codec.api config (fun _ _ _ => True) ⟨n, p ++ e :: q⟩ ⟨n', p ++ q ++ out⟩ :=
    .handle (.refl _) trivial h
  have hh := h
  obtain ⟨dest, sender, command, body⟩ := e
  obtain ⟨dest', sender', command', body'⟩ := e'
  obtain rfl := hdest
  obtain rfl := hcommand
  obtain rfl := hservice
  obtain ⟨asked, component, rfl, hauth, -⟩ := Program.task_of_handle rfl h
  have hrouter : (contacts .users).lookup "router" = some .router := rfl
  have hws : (contacts .users).lookup "ws" = some .ws := rfl
  obtain ⟨userKey, first, rest, hkey, hparts, hbody⟩ := Users.auth_service Codec.api
    (lookup_of_wired hn hrouter) (lookup_of_wired hn hws) hauth he' rfl
  have hsent : dest' = .router ∧ sender' = .users := by
    obtain ⟨hsender, name, hdest, hsent⟩ := Users.auth_sends Codec.api _ _ _ _ _ hauth _ he'
    obtain rfl := hsent.router_of_service rfl
    have hdest : (n.contacts .users).lookup "router" = some dest' := hdest
    rw [hn] at hdest
    exact ⟨(Option.some.inj hdest).symm, hsender⟩
  obtain ⟨rfl, rfl⟩ := hsent
  rw [htask] at hbody
  cases hbody
  exact ⟨asked, env, n, sender, out, userKey, first, rest, (ht.auth asked rfl rfl rfl).trans hnext,
    hkey, hparts, rfl, ⟨n', p, q, hrun, trivial, hh, .refl _⟩, htask ▸ he'⟩

/-- What `platform` gives to the router. -/
theorem Traced.frame_of_relay {env : Env} {n n' : State} {e e' : Envelope Actor}
    {out : List (Envelope Actor)} {ws : WebSocket} (ht : Traced config c₀ c e)
    (hdest : e.dest = .platform) (hcommand : e.command = "dispatcher")
    (h : handle Codec.api config env n e = .ok (n', out)) (he' : e' ∈ out)
    (hdispatcher : e'.command = "dispatcher") (hbody : e'.body = .transport (.webSocket ws)) :
    ∃ ws₀, Came config c₀ c (platformFrame ws₀) ∧ PlatformService.Relays Codec.api ws₀ ws := by
  obtain ⟨dest, sender, command, body⟩ := e
  obtain rfl := hdest
  obtain rfl := hcommand
  obtain ⟨transport, component, rfl, hrun, -⟩ := Program.transport_of_handle rfl h
  obtain ⟨ws₀, ws', rfl, hrelays, hbody'⟩ :=
    PlatformService.dispatcher_relays Codec.api config hrun he' hdispatcher
  rw [hbody] at hbody'
  cases hbody'
  exact ⟨ws₀, ht.platform ws₀ rfl rfl rfl, hrelays⟩

/-- The step lemma: what a traced message causes is traced. -/
theorem Traced.step {env : Env} {n n' : State} {p q : List (Envelope Actor)} {e : Envelope Actor}
    {out : List (Envelope Actor)} (hn : n.contacts = contacts)
    (ht : Traced config c₀ ⟨n, p ++ e :: q⟩ e)
    (hrun : Run Codec.api config (fun _ _ _ => True) c₀ ⟨n, p ++ e :: q⟩)
    (h : handle Codec.api config env n e = .ok (n', out)) :
    ∀ e' ∈ out, Traced config c₀ ⟨n', p ++ q ++ out⟩ e' := by
  have hnext : Run Codec.api config (fun _ _ _ => True) ⟨n, p ++ e :: q⟩ ⟨n', p ++ q ++ out⟩ :=
    .handle (.refl _) trivial h
  intro e' he'
  cases Program.handled_of_eq_ok h with
  | syncContacts => cases he'
  | addChannel => cases he'
  | skip hreaction =>
    obtain ⟨-, hcommand⟩ := rank_skip_lt hreaction he'
    exact .of_command (by rw [hcommand]; decide)
      (fun hauth => absurd (hcommand.symm.trans hauth.2) (by decide)) (by rw [hcommand]; decide)
  | attached _ hmem hran =>
    cases emits_of_ran hmem hran with
    | sends hsends =>
      obtain ⟨-, name, hdest, hsent⟩ := hsends e' he'
      by_cases hauth : e'.command = "auth"
      · obtain ⟨ha, hcommand⟩ := hsent.of_auth hauth
        exact {
          frame := fun _ _ hc => absurd (hauth.symm.trans hc) (by decide)
          platform := fun _ _ hc => absurd (hauth.symm.trans hc) (by decide)
          auth := fun task _ _ hbody =>
            (ht.auth_of_dispatcher ha hcommand h he' hauth hbody).trans hnext
          service := fun _ _ hc => absurd (hauth.symm.trans hc) (by decide) }
      by_cases hservice : e'.command = "service"
      · obtain ⟨ha, hcommand⟩ := hsent.of_service hservice
        exact {
          frame := fun _ _ hc => absurd (hservice.symm.trans hc) (by decide)
          platform := fun _ _ hc => absurd (hservice.symm.trans hc) (by decide)
          auth := fun _ _ hc => absurd (hservice.symm.trans hc) (by decide)
          service := fun task _ _ hbody =>
            ht.service_of_auth hn hrun ha hcommand h he' hservice hbody }
      by_cases hdispatcher : e'.command = "dispatcher"
      · obtain ⟨ha, hcommand, rfl⟩ := hsent.of_dispatcher hdispatcher
        have hdest : (n.contacts e.dest).lookup "router" = some e'.dest := hdest
        rw [ha, hn] at hdest
        have hrouter : e'.dest = .router := (Option.some.inj hdest).symm
        exact {
          frame := fun ws _ _ hbody => by
            obtain ⟨ws₀, hcame, hrelays⟩ := ht.frame_of_relay ha hcommand h he' hdispatcher hbody
            exact .inr ⟨ws₀, hcame.trans hnext, hrelays⟩
          platform := fun _ hd => absurd (hrouter.symm.trans hd) (by decide)
          auth := fun _ _ hc => absurd (hdispatcher.symm.trans hc) (by decide)
          service := fun _ _ hc => absurd (hdispatcher.symm.trans hc) (by decide) }
      · exact .of_command hdispatcher (fun hnames => hauth hnames.2) hservice
    | @dispatches task dest ha hcommand hbody hd =>
      obtain rfl := List.mem_singleton.mp he'
      rw [ha] at hd
      obtain ⟨-, -, hdispatcher, hservice⟩ := method_of_dispatches hn hd
      exact {
        frame := fun _ _ hc => absurd hc hdispatcher
        platform := fun _ _ hc => absurd hc hdispatcher
        auth := fun task' _ _ hbody' => by
          cases hbody'
          exact (ht.service task ha hcommand hbody).asks.trans hnext
        service := fun _ _ hc => absurd hc hservice }
    | pipe ha hcommand =>
      obtain rfl := List.mem_singleton.mp he'
      exact .of_command (by simp) (fun hauth => nomatch hauth.1) (by simp)

/-- The run lemma: every pending message of a run is traced. -/
theorem Run.messages_traced {n₀ : State} (h₀ : Initial n₀)
    (hrun : Run Codec.api config (fun _ _ _ => True) ⟨n₀, []⟩ c) :
    ∀ e ∈ c.pending, Traced config ⟨n₀, []⟩ c e := by
  refine (Work.Run.traced (fun _ => True) (Traced config ⟨n₀, []⟩)
    (fun _ _ _ hrun ht => ht.trans hrun) trivial (by simp) (fun s pending e hprefix harrives => ?_)
    (fun o s s' p q out e hprefix _ ht _ heq => ⟨trivial, ?_⟩) hrun).2
  · exact .of_arrived harrives ⟨s, pending, hprefix, harrives, .refl _⟩
  · exact ht.step (Run.wired h₀ hprefix).1 hprefix heq

end Tracing

/-! ## Deliveries -/

end Manager

end StreamCloud
