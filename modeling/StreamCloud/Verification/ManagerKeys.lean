-- SUMMARY: To whom the keys of the managers table belong, in runs whose keys hold no null characters.
import StreamCloud.Verification.LoginKeys

/-!
# Keys of managers

The key of a manager is its profile and its name with a dot between them. Signup
takes logins with dots and `managers.add` takes names with dots: that no two profiles
make the same key comes from `profile.auth`, which notes the first piece of the
profile key as the login. SQLite ends a bound text at its first null character.
-/

namespace StreamCloud.Platform

open Work

variable {J : Codec} {managerKey : String}

/-! ## Tasks and their profiles -/

/-- The login that a profile key is for: its first piece. -/
def keyLogin (profileKey : String) : String := (split profileKey).head (split_ne_nil profileKey)

theorem keyLogin_of_split {profileKey first : String} {rest : List String}
    (h : split profileKey = first :: rest) : keyLogin profileKey = first := by
  simp only [keyLogin, h, List.head_cons]

theorem dotFree_keyLogin (profileKey : String) : DotFree (keyLogin profileKey) :=
  dotFree_of_mem_split (List.head_mem _)

/-- The task is noted to belong to the login of its own profile key. -/
def OwnLogin (task : Task) : Prop :=
  ∃ profileKey, task.metadataString "profile-key" = .ok profileKey ∧
    task.storage.lookup "profile.login" = some (keyLogin profileKey)

theorem OwnLogin.stored {task : Task} (h : OwnLogin task) :
    ∃ profileKey, task.metadataString "profile-key" = .ok profileKey ∧
      task.stored "profile.login" = keyLogin profileKey := by
  obtain ⟨profileKey, hkey, hlookup⟩ := h
  refine ⟨profileKey, hkey, ?_⟩
  rw [Task.stored, hlookup]
  rfl

/-- Tasks belong to nobody, or to the login of their own key; those that the router
dispatches and those of `managers.add` do belong to one. -/
def Noted (e : Envelope Actor) : Prop :=
  ∀ task, e.body = .task task →
    (task.storage.lookup "profile.login" = none ∨ OwnLogin task) ∧
    (e.dest = .router ∨ e.dest = .managers ∧ e.command = "add" → OwnLogin task)

theorem noted_of_no_task {e : Envelope Actor} (h : ∀ task, e.body ≠ .task task) : Noted e :=
  fun task hbody => absurd hbody (h task)

theorem noted_of_ownLogin {e : Envelope Actor} {task : Task} (hbody : e.body = .task task)
    (h : OwnLogin task) : Noted e := by
  intro task' hbody'
  obtain rfl : task = task' := Body.task.inj (hbody.symm.trans hbody')
  exact ⟨.inr h, fun _ => h⟩

theorem Arrives.noted {e : Envelope Actor} (h : Arrives e) : Noted e := by
  apply noted_of_no_task
  cases h <;> exact fun _ h => nomatch h

/-- `profile.auth` notes the login of the key of a task. -/
theorem ownLogin_emplace {task : Task} {profileKey first : String} {rest : List String}
    (h : task.storage.lookup "profile.login" = none ∨ OwnLogin task)
    (hkey : task.metadataString "profile-key" = .ok profileKey) (hsplit : split profileKey = first :: rest) :
    OwnLogin (task.emplace "profile.login" first) := by
  refine ⟨profileKey, hkey, ?_⟩
  rw [Task.emplace, AList.lookup_emplace_self, keyLogin_of_split hsplit]
  rcases h with hnone | ⟨profileKey', hkey', hlookup⟩
  · rw [hnone]
    rfl
  · -- the task has come by before, with the same key
    obtain rfl : profileKey = profileKey' := Except.ok.inj (hkey.symm.trans hkey')
    rw [hlookup, keyLogin_of_split hsplit]
    rfl

/-- The router makes tasks that belong to nobody, and gives them to other actors. -/
theorem noted_of_dispatcher {env : Env} {ctx : Ctx Actor} {s s' : Services} {command : String}
    {action : Action Actor Services} {body : Body Actor} {out : List (Envelope Actor)}
    {e : Envelope Actor} {name : String} (hmem : (command, action) ∈ (program J managerKey).attached .router)
    (hran : Action.Ran env ctx s action body (s', out)) (he : e ∈ out)
    (hsent : Router.Sent command name e.command e.body) (hcontact : (contacts .router).lookup name = some e.dest) :
    Noted e := by
  intro task hbody
  rw [hbody] at hsent
  have hdispatcher : command = "dispatcher" ∧
      ¬ (e.dest = .router ∨ e.dest = .managers ∧ e.command = "add") := by
    generalize e.command = command', e.dest = dest at hsent hcontact
    cases hsent <;> cases hcontact <;> exact ⟨rfl, by decide⟩
  obtain ⟨rfl, hnot⟩ := hdispatcher
  obtain ⟨inner, hinner, rfl⟩ := mem_liftAll.mp hmem
  simp [Router.handlers] at hinner
  obtain rfl := hinner
  obtain ⟨component, hinnerRan, -⟩ := hran.of_lift
  cases hinnerRan with
  | transport hrun =>
    have hnone := Router.dispatcher_noLogin J env ctx () _ _ hrun e he task hbody
    exact ⟨.inl hnone, fun h => absurd h hnot⟩

/-- `profile.auth` gives a task back with the login of its key. -/
theorem noted_of_auth {env : Env} {n : State} (hn : n.contacts = contacts) {s' : Services}
    {command : String} {action : Action Actor Services} {body : Body Actor}
    {out : List (Envelope Actor)} {e : Envelope Actor} {name : String}
    (hmem : (command, action) ∈ (program J managerKey).attached .profile)
    (hran : Action.Ran env ((program J managerKey).ctx n .profile) n.services action body (s', out))
    (he : e ∈ out) (hsent : Profile.Sent command name e.command e.body)
    (hbefore : ∀ task, body = .task task → task.storage.lookup "profile.login" = none ∨ OwnLogin task) :
    Noted e := by
  have hrouter : (contacts .profile).lookup "router" = some .router := rfl
  have hws : (contacts .profile).lookup "ws" = some .ws := rfl
  intro task hbody
  rw [hbody] at hsent
  have hauth : command = "auth" ∧ e.command = "service" := by
    generalize e.command = command' at hsent
    cases hsent
    exact ⟨rfl, rfl⟩
  obtain ⟨rfl, hservice⟩ := hauth
  obtain ⟨inner, hinner, rfl⟩ := mem_liftAll.mp hmem
  simp [Profile.handlers] at hinner
  obtain rfl := hinner
  obtain ⟨component, hinnerRan, -⟩ := hran.of_lift
  cases hinnerRan with
  | @task _ task₀ _ hrun =>
    obtain ⟨profileKey, first, rest, hkey, hsplit, hbody'⟩ :=
      Profile.auth_service J (lookup_of_wired hn hrouter) (lookup_of_wired hn hws) hrun he hservice
    exact noted_of_ownLogin hbody' (ownLogin_emplace (hbefore task₀ rfl) hkey hsplit) task hbody

/-- The step lemma: what is sent is noted, if what is handled is. -/
theorem noted_of_handle {env : Env} {n n' : State} {e : Envelope Actor} {out : List (Envelope Actor)}
    (hn : n.contacts = contacts) (hnoted : Noted e) (h : handle J managerKey env n e = .ok (n', out)) :
    ∀ e' ∈ out, Noted e' := by
  intro e' he'
  cases Program.handled_of_eq_ok h with
  | syncContacts => cases he'
  | addChannel => cases he'
  | skip => exact noted_of_no_task (Program.text_of_mem_skip he')
  | attached _ hmem hran =>
    obtain ⟨dest, sender, command, body⟩ := e
    cases emits_of_ran hmem hran with
    | dispatches hrouter _ hbody =>
      obtain rfl := List.mem_singleton.mp he'
      obtain rfl : dest = .router := hrouter
      exact noted_of_ownLogin rfl ((hnoted _ hbody).2 (.inl rfl))
    | sends hsends =>
      obtain ⟨-, name, hcontact, hsent⟩ := hsends e' he'
      have hcontact : (contacts dest).lookup name = some e'.dest := by
        rw [← hn]
        exact hcontact
      cases dest with
      | router => exact noted_of_dispatcher hmem hran he' hsent hcontact
      | profile => exact noted_of_auth hn hmem hran he' hsent fun task hbody => (hnoted task hbody).1
      | managers =>
        apply noted_of_no_task
        intro task hbody
        rw [hbody] at hsent
        generalize e'.command = command' at hsent
        cases hsent
      | managerInfo =>
        apply noted_of_no_task
        intro task hbody
        rw [hbody] at hsent
        generalize e'.command = command' at hsent
        cases hsent
      | ws => exact hsent.elim
      | http => exact hsent.elim

/-! ## Rows and their keys -/

/-- The message with which a task is delivered to `managers.add`. -/
def addMessage (sender : Actor) (task : Task) : Envelope Actor where
  dest := .managers
  sender := sender
  command := "add"
  body := .task task

/-- No `managers.add` is for a login with a null character. -/
def WholeLogin (_ : Env) (_ : State) (e : Envelope Actor) : Prop :=
  ∀ sender task profileKey, e = addMessage sender task →
    task.metadataString "profile-key" = .ok profileKey → '\x00' ∉ (keyLogin profileKey).toList

/-- The key of the row is its profile and its name, and there is no dot in the profile. -/
structure ManagerRow.Proper (row : ManagerRow) : Prop where
  dotFree : DotFree row.profileLogin.val
  key : row.key.val = row.profileLogin.val ++ "." ++ row.name.val

/-- All rows are proper. -/
def Managers.Proper (s : Managers) : Prop := ∀ row ∈ s.table.rows, row.Proper

/-- The key that is bound for a login without dots and null characters. -/
theorem bind_key {login : String} (hnul : '\x00' ∉ login.toList) (name : String) :
    (Text.bind (login ++ "." ++ name)).val = login ++ "." ++ (Text.bind name).val := by
  apply Text.bind_append_val
  simpa using hnul

/-- No two logins without dots and null characters make the same key. -/
theorem bind_key_inj {login login' name name' : String} (hdot : DotFree login) (hdot' : DotFree login')
    (hnul : '\x00' ∉ login.toList) (hnul' : '\x00' ∉ login'.toList)
    (h : Text.bind (login ++ "." ++ name) = Text.bind (login' ++ "." ++ name')) :
    login = login' ∧ Text.bind name = Text.bind name' := by
  have hval := congrArg Text.val h
  rw [bind_key hnul, bind_key hnul', append_dot_inj hdot hdot'] at hval
  exact ⟨hval.1, Text.ext hval.2⟩

theorem newRow_proper {login : String} (hdot : DotFree login) (hnul : '\x00' ∉ login.toList)
    (name : String) : (Managers.newRow login name).Proper := by
  have hlogin : (Text.bind login).val = login := Text.val_bind_iff.mpr hnul
  constructor
  · show DotFree (Text.bind login).val
    rw [hlogin]
    exact hdot
  · show (Text.bind (login ++ "." ++ name)).val = (Text.bind login).val ++ "." ++ (Text.bind name).val
    rw [bind_key hnul, hlogin]

/-- A login with a null character makes no proper row: the key ends before the dot. -/
theorem newRow_proper_iff {login : String} (hdot : DotFree login) (name : String) :
    (Managers.newRow login name).Proper ↔ '\x00' ∉ login.toList := by
  constructor
  · intro hproper hnul
    have hcut : Text.bind (login ++ "." ++ name) = Text.bind login := by
      rw [String.append_assoc]
      exact Text.bind_append_of_nul hnul _
    have hkey : (Text.bind (login ++ "." ++ name)).val =
        (Text.bind login).val ++ "." ++ (Text.bind name).val := hproper.key
    rw [hcut] at hkey
    have hlength := congrArg String.length hkey
    simp only [String.length_append] at hlength
    have hdotLength : String.length "." = 1 := rfl
    omega
  · intro hnul
    exact newRow_proper hdot hnul name

/-- The login that `managers.add` finds noted on its task. -/
theorem login_of_add {env : Env} {n : State} {sender : Actor} {task : Task}
    (hwhole : WholeLogin env n (addMessage sender task)) (hnoted : Noted (addMessage sender task)) :
    DotFree (task.stored "profile.login") ∧ '\x00' ∉ (task.stored "profile.login").toList := by
  have hown : OwnLogin task := (hnoted task rfl).2 (.inr ⟨rfl, rfl⟩)
  obtain ⟨profileKey, hkey, hstored⟩ := hown.stored
  rw [hstored]
  exact ⟨dotFree_keyLogin profileKey, hwhole sender task profileKey rfl hkey⟩

/-- The step lemma: the rows stay proper. -/
theorem proper_of_handle {env : Env} {n n' : State} {e : Envelope Actor} {out : List (Envelope Actor)}
    (hn : n.contacts = contacts) (hproper : n.services.managers.Proper) (hnoted : Noted e)
    (hwhole : WholeLogin env n e) (h : handle J managerKey env n e = .ok (n', out)) : n'.services.managers.Proper := by
  rcases managers_effect hn h with hsame | ⟨hdest, heffect⟩
  · rw [hsame]
    exact hproper
  · obtain ⟨dest, sender, command, body⟩ := e
    obtain rfl : dest = .managers := hdest
    generalize n'.services.managers = managers at heffect
    cases heffect with
    | keep => exact hproper
    | @add task name table _ hinsert =>
      obtain ⟨hdot, hnul⟩ := login_of_add hwhole hnoted
      intro row hrow
      rcases (Keyed.mem_of_insert hinsert row).mp hrow with hrow | rfl
      · exact hproper row hrow
      · exact newRow_proper hdot hnul name
    | delete =>
      intro row hrow
      exact hproper row (Keyed.mem_delete.mp hrow).1
    | connect hreply =>
      rcases Managers.connectReply_cases hreply with ⟨-, rfl⟩ | ⟨-, key, -, -, rfl⟩
      · exact hproper
      · exact hproper
    | disconnect => exact hproper

/-- The run lemma. -/
theorem Run.proper {c c' : Work.Config State (Envelope Actor)} (hrun : Run J managerKey WholeLogin c c')
    (hcontacts : c.state.contacts = contacts) (hplain : ∀ e ∈ c.pending, e.Plain)
    (hproper : c.state.services.managers.Proper) (hnoted : ∀ e ∈ c.pending, Noted e) :
    c'.state.services.managers.Proper ∧ ∀ e ∈ c'.pending, Noted e := by
  have hinv := hrun.invariant (fun n => n.contacts = contacts ∧ n.services.managers.Proper)
    (fun e => e.Plain ∧ Noted e) ⟨hcontacts, hproper⟩ (fun e he => ⟨hplain e he, hnoted e he⟩)
    (fun _ h => ⟨h.plain, h.noted⟩) ?_
  · exact ⟨hinv.1.2, fun e he => (hinv.2 e he).2⟩
  · rintro env n e n' out ⟨hn, hproper⟩ ⟨hplain, hnoted⟩ hwhole h
    obtain ⟨hcontacts, hout⟩ := handle_plain h hplain
    refine ⟨⟨hcontacts.trans hn, proper_of_handle hn hproper hnoted hwhole h⟩, fun e' he' => ?_⟩
    exact ⟨hout e' he', noted_of_handle hn hnoted h e' he'⟩

/-! ## Whole runs -/

/-- The states the program can be started in: the managers table is empty, or what an
earlier run has left of it. -/
inductive Starts (J : Codec) (managerKey : String) (guard : Env → State → Envelope Actor → Prop) :
    State → Prop
  | fresh {n : State} : Initial n → n.services.managers.table = .empty → Starts J managerKey guard n
  | again {n₀ n : State} {c : Work.Config State (Envelope Actor)} : Starts J managerKey guard n₀ →
      Run J managerKey guard ⟨n₀, []⟩ c → Initial n →
      n.services.managers.table = c.state.services.managers.table → Starts J managerKey guard n

theorem Starts.initial {guard : Env → State → Envelope Actor → Prop} {n : State}
    (h : Starts J managerKey guard n) : Initial n := by
  cases h with
  | fresh h₀ => exact h₀
  | again _ _ h₀ => exact h₀

theorem Starts.proper {n : State} (h : Starts J managerKey WholeLogin n) : n.services.managers.Proper := by
  induction h with
  | fresh _ htable =>
    intro row hrow
    rw [htable] at hrow
    cases hrow
  | again hstarts hrun _ htable ih =>
    intro row hrow
    rw [htable] at hrow
    exact (hrun.proper hstarts.initial.contacts (by simp) ih (by simp)).1 row hrow

/-- In some run, `managers.add` is handled for this login and this name. -/
def MakesKey (J : Codec) (managerKey : String) (login name : String) : Prop :=
  ∃ n₀ c env n sender task out, Starts J managerKey WholeLogin n₀ ∧
    Caused (handle J managerKey) Arrives WholeLogin ⟨n₀, []⟩ c env n (addMessage sender task) out ∧
    task.stored "profile.login" = login ∧ task.paramString "name" = .ok name

theorem MakesKey.login {login name : String} (h : MakesKey J managerKey login name) :
    DotFree login ∧ '\x00' ∉ login.toList := by
  obtain ⟨n₀, c, env, n, sender, task, out, hstarts, ⟨n', p, q, hrun, hwhole, -, -⟩, rfl, -⟩ := h
  have hnoted := (Run.proper hrun hstarts.initial.contacts (by simp) hstarts.proper (by simp)).2
  exact login_of_add hwhole (hnoted _ (by simp))

/-- `managers.add` answers with nothing but an error. -/
def Refuses (J : Codec) (managerKey : String) (n : State) (task : Task) (out : List (Envelope Actor)) :
    Prop :=
  ∃ what, out = [((program J managerKey).ctx n .managers).response J .ws task (.failed what)]

/-- An `add` that the database refuses finds a row with its key. -/
theorem exists_row_of_refuses {env : Env} {n n' : State} {sender : Actor} {task : Task} {name : String}
    {out : List (Envelope Actor)} (hn : n.contacts = contacts) (hdb : env.db = none)
    (hname : task.paramString "name" = .ok name) (hvalid : Managers.ValidName name)
    (h : handle J managerKey env n (addMessage sender task) = .ok (n', out))
    (hrefuses : Refuses J managerKey n task out) :
    ∃ row ∈ n.services.managers.table.rows,
      row.key = .bind (task.stored "profile.login" ++ "." ++ name) := by
  have hhttp : (contacts .managers).lookup "http" = some .http := rfl
  have hws : (contacts .managers).lookup "ws" = some .ws := rfl
  obtain ⟨what, rfl⟩ := hrefuses
  obtain ⟨task', managers, hbody, hadd, -⟩ :=
    Program.task_of_handle (h := Managers.add J) (L := Services.managersLens) rfl h
  cases hbody
  have hadd : Managers.add J env ((program J managerKey).ctx n .managers) n.services.managers task = _ := hadd
  rw [Managers.add_eq J hname hvalid hdb (lookup_of_wired hn hhttp) (lookup_of_wired hn hws)] at hadd
  dsimp only at hadd
  split at hadd
  · obtain ⟨-, hout⟩ := Prod.mk.inj (Except.ok.inj hadd)
    simp at hout
  · next hinsert =>
    unfold Keyed.insert at hinsert
    split at hinsert
    · next htaken =>
      obtain ⟨row, hrow, hkey⟩ := List.mem_map.mp htaken
      exact ⟨row, hrow, hkey⟩
    · cases hinsert

/-- In every run in which `managers.add` is for whole logins only, each key is that of a
profile and a name. No two profiles make the same key, and an `add` is refused only to a
profile that has a manager of this name. -/
theorem manager_keys_own (J : Codec) (managerKey : String) (n₀ : State)
    (c : Work.Config State (Envelope Actor)) (h₀ : Starts J managerKey WholeLogin n₀)
    (hrun : Run J managerKey WholeLogin ⟨n₀, []⟩ c) :
    (∀ row ∈ c.state.services.managers.table.rows, DotFree row.profileLogin.val ∧
      row.key.val = row.profileLogin.val ++ "." ++ row.name.val) ∧
    (∀ login login' name name', MakesKey J managerKey login name → MakesKey J managerKey login' name' →
      login ≠ login' → Text.bind (login ++ "." ++ name) ≠ Text.bind (login' ++ "." ++ name')) ∧
    ∀ env n sender task name out,
      Caused (handle J managerKey) Arrives WholeLogin ⟨n₀, []⟩ c env n (addMessage sender task) out →
      env.db = none → task.paramString "name" = .ok name → Managers.ValidName name →
      Refuses J managerKey n task out →
      ∃ row ∈ n.services.managers.table.rows,
        row.profileLogin.val = task.stored "profile.login" ∧ row.name = .bind name := by
  have hcontacts := h₀.initial.contacts
  refine ⟨?_, ?_, ?_⟩
  · intro row hrow
    obtain ⟨hdot, hkey⟩ := (hrun.proper hcontacts (by simp) h₀.proper (by simp)).1 row hrow
    exact ⟨hdot, hkey⟩
  · intro login login' name name' hadds hadds' hne heq
    obtain ⟨hdot, hnul⟩ := hadds.login
    obtain ⟨hdot', hnul'⟩ := hadds'.login
    exact hne (bind_key_inj hdot hdot' hnul hnul' heq).1
  · rintro env n sender task name out ⟨n', p, q, hbefore, hwhole, h, -⟩ hdb hname hvalid hrefuses
    obtain ⟨hproper, hnoted⟩ := Run.proper hbefore hcontacts (by simp) h₀.proper (by simp)
    obtain ⟨hdot, hnul⟩ := login_of_add hwhole (hnoted _ (by simp))
    have hn : n.contacts = contacts := (Run.wired h₀.initial hbefore).1
    obtain ⟨row, hrow, hkey⟩ := exists_row_of_refuses hn hdb hname hvalid h hrefuses
    refine ⟨row, hrow, ?_⟩
    -- the key of the row tells its profile and its name
    have hval := congrArg Text.val hkey
    rw [bind_key hnul, (hproper row hrow).key, append_dot_inj (hproper row hrow).dotFree hdot] at hval
    exact ⟨hval.1, Text.ext hval.2⟩

/-! ## Two keys -/

/-- A request for a manager `x`. -/
def addRequest (profileKey : String) : RequestMessage where
  id := .integer 1
  method := "managers.add"
  params := .map [("name", .string "x")]
  metadata := [("profile-key", .string profileKey)]

/-- The task of such a request, with the login that was noted. -/
def addTask (profileKey login : String) : Task :=
  profileTask (addRequest profileKey) "s" "managers" "add" login

theorem addRequest_delivers {guard : Env → State → Envelope Actor → Prop}
    (hguard : ∀ n e, e.dest = .router ∨ e.dest = .profile → guard .calm n e) {profileKey login : String}
    (hpieces : split profileKey = [login, "b"]) (hpassword : "b" = (oneProfile.services.profile.select login).2) :
    Run Codec.api "" guard ⟨oneProfile, []⟩
      ⟨authorized oneProfile profileKey, [addMessage .router (addTask profileKey login)]⟩ := by
  let ws : WebSocket := ⟨"s", (addRequest profileKey).serialize Codec.api⟩
  have hexact : (addRequest profileKey).Exact := rfl
  have hreads : Codec.api.ReadsRequest ws.body (addRequest profileKey) := hexact.reads_serialize
  have hsplit : split (addRequest profileKey).method = "managers" :: "add" :: [] := by
    show split "managers.add" = _
    decide
  have hmethod : List.elem "add" ((program Codec.api "").messageTypes .managers) = true := rfl
  exact Run.delivers (.refl _) (fun n e he _ => hguard n e he) rfl hreads hsplit rfl rfl hpieces hpassword (by decide) rfl
    (List.mem_of_elem_eq_true hmethod)

theorem manager_keys_own_oneProfile : ∃ c, Run Codec.api "" WholeLogin ⟨oneProfile, []⟩ c ∧
    c.state.services.managers.table.rows = [Managers.newRow "a" "x"] ∧
    ∀ row ∈ c.state.services.managers.table.rows, DotFree row.profileLogin.val ∧
      row.key.val = row.profileLogin.val ++ "." ++ row.name.val := by
  have hguard : ∀ n e, e.dest = .router ∨ e.dest = .profile → WholeLogin .calm n e := by
    rintro n e hdest sender task profileKey rfl
    rcases hdest with h | h <;> cases h
  have hpieces : split "a.b" = ["a", "b"] := by decide
  have hdelivered := addRequest_delivers hguard hpieces (by decide)
  have hwhole : WholeLogin .calm (authorized oneProfile "a.b") (addMessage .router (addTask "a.b" "a")) := by
    rintro sender task profileKey heq hkey
    cases heq
    cases hkey
    decide
  have hadded := hdelivered.handle_single .calm hwhole rfl
  exact ⟨_, hadded, rfl, (manager_keys_own Codec.api "" oneProfile _ (.fresh oneProfile_initial rfl) hadded).1⟩

/-- The key that profile `a` logs in with, and a null character in it. -/
def cutKey : String := "a\x00b.b"

/-- A manager that is added with it gets the key `a`. -/
theorem cutKey_breaks : Starts Codec.api "" (fun _ _ _ => True) oneProfile ∧
    ∃ c, Run Codec.api "" (fun _ _ _ => True) ⟨oneProfile, []⟩ c ∧
      ∃ row ∈ c.state.services.managers.table.rows, row.name.val = "x" ∧ row.profileLogin.val = "a" ∧
        row.key.val = "a" := by
  have hpieces : split cutKey = ["a\x00b", "b"] := by decide
  have hdelivered : Run Codec.api "" (fun _ _ _ => True) ⟨oneProfile, []⟩
      ⟨authorized oneProfile cutKey, [addMessage .router (addTask cutKey "a\x00b")]⟩ :=
    addRequest_delivers (fun _ _ _ => trivial) hpieces (by decide)
  have hadded := hdelivered.handle_single .calm trivial rfl
  exact ⟨.fresh oneProfile_initial rfl, _, hadded, Managers.newRow "a\x00b" "x", List.mem_singleton_self _,
    by decide, by decide, by decide⟩

end StreamCloud.Platform
