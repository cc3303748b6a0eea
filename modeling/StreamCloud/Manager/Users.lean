-- SUMMARY: The users service of the manager.
import StreamCloud.Core.Service

/-!
# users

`stream-manager/src/users.cpp`.
-/

namespace StreamCloud.Manager

structure UserRow where
  login : Text
  password : Text
deriving DecidableEq

/-- The users table, and the cache of keys that passed authentication. -/
structure Users where
  table : Keyed UserRow Text UserRow.login
  usersAuth : StringMap String

namespace Users

variable {α : Type}

def isAuth (s : Users) (userKey : String) : Bool := decide (userKey ∈ s.usersAuth)

def addAuth (s : Users) (userKey userLogin : String) : Users :=
  { s with usersAuth := s.usersAuth.emplace userKey userLogin }

/-- The keys cached for a login. -/
def cachedFor (s : Users) (userLogin : String) : List String :=
  (s.usersAuth.entries.filter fun p => p.2 = userLogin).map (·.1)

/-- `find_if` for a login. The map has no order, so that any of the keys that are
cached for the login may be the one that is found. -/
def findAuthLogin (s : Users) (first : ℕ) (userLogin : String) : Option String :=
  (s.cachedFor userLogin)[first % (s.cachedFor userLogin).length]?

/-- One key that is cached for the login is forgotten. -/
def removeAuthLogin (s : Users) (first : ℕ) (userLogin : String) : Users :=
  match s.findAuthLogin first userLogin with
  | some userKey => { s with usersAuth := s.usersAuth.erase userKey }
  | none => s

/-- `select login, password from users where login = ? limit 1`, with empty
strings where there is no row. -/
def select (s : Users) (login : String) : String × String :=
  match s.table.find? (.bind login) with
  | some row => (row.login.val, row.password.val)
  | none => ("", "")

variable (J : Codec)

def loginAndPassword (task : Task) : Except Fault (String × String) := do
  return (← task.paramString "login", ← task.paramString "password")

def add : Handler α Users Task := fun env ctx s task =>
  ctx.answer J task s (loginAndPassword task)
    (fun (login, password) => !login.isEmpty && !password.isEmpty) "login or password empty"
    fun (login, password) => do
      env.db.execute
      let table ← insertRow s.table { login := .bind login, password := .bind password }
      return ({ s with table }, .ok (.boolean true))

def delete : Handler α Users Task := fun env ctx s task =>
  ctx.answer J task s (task.paramString "login") (fun login => !login.isEmpty) "name manager empty"
    fun login => do
      env.db.execute
      let s := { s with table := s.table.delete fun row => row.login = Text.bind login }
      -- of several keys that are cached for the login, all but one stay
      return (s.removeAuthLogin env.first login, .ok (.boolean true))

def list : Handler α Users Task := fun env ctx s task =>
  ctx.answer J task s (.ok ()) (fun _ => true) "" fun _ => do
    env.db.execute
    let usersList := s.table.rows.map fun row =>
      let userKey := row.login.val ++ "." ++ row.password.val
      .map (JsonMap.ofMembers [("login", .string row.login.val),
        ("admin", .boolean (task.stored "profile.key" == userKey))])
    return (s, .ok (.array usersList))

def login : Handler α Users Task := fun env ctx s task =>
  ctx.answer J task s (loginAndPassword task)
    (fun (login, password) => !login.isEmpty && !password.isEmpty) "login or password empty"
    fun (loginParam, passwordParam) => do
      env.db.execute
      -- without a row the password is empty, which no valid parameter is
      let (_, password) := s.select loginParam
      let userKey := loginParam ++ "." ++ passwordParam
      let adminUser := task.stored "profile.key" == userKey
      if passwordParam == password || adminUser then
        return (s, .ok (.map (JsonMap.ofMembers [("key", .string userKey),
          ("login", .string loginParam), ("admin", .boolean adminUser)])))
      else
        return (s, .failed "login or password is incorrect")

/-- The task, noted to belong to a login, on its way back to the router. -/
def forward (ctx : Ctx α) (task : Task) (login : String) : Except Fault (List (Envelope α)) :=
  ctx.send "router" "service" (.task (task.emplace "user.login" login))

def auth : Handler α Users Task := fun env ctx s task => do
  let userKey ← task.metadataString "user-key"
  let adminUser := task.stored "profile.key" == userKey
  let task := task.store "user.admin" (if adminUser then "1" else "0")
  -- `task` has the note from here on, so that also a refusal is made of it
  let user := split userKey
  if s.isAuth userKey || adminUser then
    return (s, ← forward ctx task (← component user 0))
  else
    catchStd (do
      env.db.execute
      -- without a row the password is empty, which a piece of a key can be
      let (login, password) := s.select (← component user 0)
      if (← component user 1) == password then
        -- the login of the row is cached, the first piece of the key is noted
        return (s.addAuth userKey login, ← forward ctx task (← component user 0))
      else
        return (s, ← ctx.respond J task (.failed "authentication bad")))
      fun what => return (s, ← ctx.respond J task (.failed what))

/-- The task of a key, with a note whether the key is an administrator's. -/
def noted (task : Task) (userKey : String) : Task :=
  task.store "user.admin" (if task.stored "profile.key" == userKey then "1" else "0")

section Noted

variable {task : Task} {userKey : String}

@[simp] theorem request_noted : (noted task userKey).request = task.request := rfl

@[simp] theorem transportId_noted : (noted task userKey).transportId = task.transportId := rfl

@[simp] theorem stored_noted_admin : (noted task userKey).stored "user.admin" =
    if task.stored "profile.key" == userKey then "1" else "0" := Task.stored_store_self

theorem stored_noted_ne {key : String} (h : key ≠ "user.admin") :
    (noted task userKey).stored key = task.stored key := Task.stored_store_ne h

/-- The notes of `auth` are not about the handler that the task is for. -/
theorem names_noted {login serviceName methodName : String} (h : task.Names serviceName methodName) :
    ((noted task userKey).emplace "user.login" login).Names serviceName methodName where
  left := (Task.stored_emplace_ne (by decide)).trans ((stored_noted_ne (by decide)).trans h.1)
  right := (Task.stored_emplace_ne (by decide)).trans ((stored_noted_ne (by decide)).trans h.2)

end Noted

/-- What `auth` does with a key, piece by piece. -/
theorem auth_eq {env : Env} {ctx : Ctx α} {s : Users} {task : Task} {userKey first : String}
    {rest : List String} {router ws : α} (hkey : task.metadataString "user-key" = .ok userKey)
    (hsplit : split userKey = first :: rest) (hrouter : ctx.contacts.lookup "router" = some router)
    (hws : ctx.contacts.lookup "ws" = some ws) :
    auth J env ctx s task =
      let noted := noted task userKey
      let forwarded : Envelope α := {
        dest := router
        sender := ctx.self
        command := "service"
        body := .task (noted.emplace "user.login" first) }
      if s.isAuth userKey || task.stored "profile.key" == userKey then .ok (s, [forwarded])
      else match env.db, rest.head? with
        | some what, _ => .ok (s, [ctx.response J ws noted (.failed what)])
        | none, none => .error .outOfRange
        | none, some second =>
          if second == (s.select first).2 then
            .ok (s.addAuth userKey (s.select first).1, [forwarded])
          else .ok (s, [ctx.response J ws noted (.failed "authentication bad")]) := by
  have hforward : ∀ task, forward ctx task first = .ok [{
      dest := router
      sender := ctx.self
      command := "service"
      body := .task (task.emplace "user.login" first) }] := fun _ => Ctx.send_of_contact hrouter
  unfold auth
  simp only [hkey, hsplit, Except.ok_bind', component, List.getElem?_cons_zero, hforward]
  split
  · rfl
  · cases env.db with
    | some what => simp only [Db.execute, Except.error_bind', catchStd_thrown,
        Ctx.respond_of_contact hws, Except.ok_bind']; rfl
    | none =>
      cases rest with
      | nil => rfl
      | cons second rest =>
        simp only [Db.execute, Except.ok_bind', List.getElem?_cons_succ, List.getElem?_cons_zero,
          List.head?_cons]
        split
        · rfl
        · rw [Ctx.respond_of_contact hws]; rfl

/-- A task that `auth` forwards is its own, with two notes added. -/
theorem auth_service {env : Env} {ctx : Ctx α} {s s' : Users} {task : Task}
    {out : List (Envelope α)} {e : Envelope α} {router ws : α}
    (hrouter : ctx.contacts.lookup "router" = some router) (hws : ctx.contacts.lookup "ws" = some ws)
    (h : auth J env ctx s task = .ok (s', out)) (he : e ∈ out) (hservice : e.command = "service") :
    ∃ userKey first rest, task.metadataString "user-key" = .ok userKey ∧
      split userKey = first :: rest ∧
      e.body = .task ((noted task userKey).emplace "user.login" first) := by
  cases hkey : task.metadataString "user-key" with
  | error fault =>
    rw [auth, hkey] at h
    cases h
  | ok userKey =>
    obtain ⟨first, rest, hsplit⟩ := exists_split userKey
    refine ⟨userKey, first, rest, rfl, hsplit, ?_⟩
    have hwrite : ∀ task reply, ctx.response J ws task reply = e → False := by
      rintro task reply rfl
      exact absurd hservice (by decide : "write" ≠ "service")
    rw [auth_eq J hkey hsplit hrouter hws] at h
    dsimp only at h
    split at h
    · cases h
      rw [List.mem_singleton.mp he]
    · split at h
      · cases h
        exact (hwrite _ _ (List.mem_singleton.mp he).symm).elim
      · cases h
      · split at h
        · cases h
          rw [List.mem_singleton.mp he]
        · cases h
          exact (hwrite _ _ (List.mem_singleton.mp he).symm).elim

def handlers : List (String × Action α Users) :=
  [("add", .task (add J)), ("delete", .task (delete J)), ("list", .task (list J)),
    ("login", .task (login J)), ("auth", .task (auth J))]

/-! ## What is sent -/

/-- The messages of each handler of the users service. -/
inductive Sent : String → String → String → Body α → Prop
  | write (handler : String) (ws : WebSocket) :
      Sent handler "ws" "write" (.transport (.webSocket ws))
  | service (task : Task) : Sent "auth" "router" "service" (.task task)

theorem Sent.router_of_service {handler name command : String} {body : Body α}
    (h : Sent handler name command body) (hservice : command = "service") : name = "router" := by
  cases h with
  | write => exact absurd hservice (by decide)
  | service => rfl

theorem auth_sends (env : Env) (ctx : Ctx α) (s : Users) (task : Task) :
    (auth J env ctx s task).Ensures fun r => ctx.Sends (Sent "auth") r.2 := by
  unfold auth
  refine Except.ensures_bind.mpr fun userKey _ => Except.ensures_ite (fun _ => ?_) fun _ => ?_
  · exact Except.ensures_bind.mpr fun _ _ => Ctx.send_sends_return (.service _)
  · refine catchStd_ensures ?_ fun what => Ctx.respond_sends_return (Sent.write _)
    refine Except.ensures_bind.mpr fun _ _ => Except.ensures_bind.mpr fun _ _ => ?_
    refine Except.ensures_bind.mpr fun _ _ => Except.ensures_ite (fun _ => ?_) fun _ => ?_
    · exact Except.ensures_bind.mpr fun _ _ => Ctx.send_sends_return (.service _)
    · exact Ctx.respond_sends_return (Sent.write _)

theorem sends {env : Env} {ctx : Ctx α} {s : Users} {command : String} {action : Action α Users}
    {body : Body α} {r : Users × List (Envelope α)} (hmem : (command, action) ∈ handlers J)
    (h : Action.Ran env ctx s action body r) : ctx.Sends (Sent command) r.2 := by
  simp only [handlers, List.mem_cons, Prod.mk.injEq, List.not_mem_nil, or_false] at hmem
  rcases hmem with ⟨rfl, rfl⟩ | ⟨rfl, rfl⟩ | ⟨rfl, rfl⟩ | ⟨rfl, rfl⟩ | ⟨rfl, rfl⟩ <;> cases h with | task h
  · exact Ctx.answer_sends (Sent.write _) r h
  · exact Ctx.answer_sends (Sent.write _) r h
  · exact Ctx.answer_sends (Sent.write _) r h
  · exact Ctx.answer_sends (Sent.write _) r h
  · exact auth_sends J env ctx s _ r h

/-! ## What changes -/

/-- What a handler of the users service did to the table and to the cache. -/
inductive Effect (env : Env) (s : Users) : String → Body α → Users → Prop
  | keep {command : String} {body : Body α} : Effect env s command body s
  | add {task : Task} {login password : String} {table : Keyed UserRow Text UserRow.login} :
      task.paramString "login" = .ok login → task.paramString "password" = .ok password →
      login ≠ "" → password ≠ "" → env.db = none →
      s.table.insert { login := .bind login, password := .bind password } = some table →
      Effect env s "add" (.task task) { s with table }
  | delete {task : Task} {login : String} : task.paramString "login" = .ok login →
      Effect env s "delete" (.task task)
        ({ s with table := s.table.delete fun row => row.login = Text.bind login }
          |>.removeAuthLogin env.first login)
  | accept {task : Task} {userKey first second : String} {rest : List String} :
      task.metadataString "user-key" = .ok userKey → split userKey = first :: second :: rest →
      second = (s.select first).2 →
      Effect env s "auth" (.task task) (s.addAuth userKey (s.select first).1)

variable {J} {env : Env} {ctx : Ctx α} {s s' : Users}

theorem auth_effect {task : Task} {out : List (Envelope α)}
    (h : auth J env ctx s task = .ok (s', out)) : s.Effect (α := α) env "auth" (.task task) s' := by
  have hkeep {s' : Users} (h : s' = s) : s.Effect (α := α) env "auth" (.task task) s' := h ▸ .keep
  obtain ⟨userKey, hkey, h⟩ := Except.bind_eq_ok.mp h
  dsimp only at h
  split at h
  · obtain ⟨_, -, h⟩ := Except.bind_eq_ok.mp h
    exact hkeep (Ctx.return_keeps _ h)
  · rcases catchStd_eq_ok.mp h with h | ⟨what, -, h⟩
    · obtain ⟨_, -, h⟩ := Except.bind_eq_ok.mp h
      obtain ⟨first, hfirst, h⟩ := Except.bind_eq_ok.mp h
      obtain ⟨second, hsecond, h⟩ := Except.bind_eq_ok.mp h
      split at h
      · next hpassword =>
        obtain ⟨_, -, h⟩ := Except.bind_eq_ok.mp h
        obtain ⟨_, -, h⟩ := Except.bind_eq_ok.mp h
        cases h
        rw [component_eq_ok] at hfirst hsecond
        obtain ⟨first', pieces, hsplit⟩ := exists_split userKey
        rw [hsplit] at hfirst hsecond
        cases pieces with
        | nil => cases hsecond
        | cons second' rest =>
          cases hfirst
          cases hsecond
          exact .accept hkey hsplit (eq_of_beq hpassword)
      · exact hkeep (Ctx.return_keeps _ h)
    · exact hkeep (Ctx.return_keeps _ h)

/-- The inversion lemma of the service: what the handler of a command did to
the table and to the cache. -/
theorem effect {command : String} {action : Action α Users} {body : Body α}
    {out : List (Envelope α)} (hmem : (command, action) ∈ handlers J)
    (h : Action.Ran env ctx s action body (s', out)) : s.Effect env command body s' := by
  simp only [handlers, List.mem_cons, Prod.mk.injEq, List.not_mem_nil, or_false] at hmem
  rcases hmem with ⟨rfl, rfl⟩ | ⟨rfl, rfl⟩ | ⟨rfl, rfl⟩ | ⟨rfl, rfl⟩ | ⟨rfl, rfl⟩ <;> cases h with | task h
  · -- add
    obtain ⟨⟨_, _⟩, reply, hparams, hbody, -⟩ := Ctx.answer_eq_ok.mp h
    obtain ⟨name, hlogin, hparams⟩ := Except.bind_eq_ok.mp hparams
    obtain ⟨secret, hpassword, hparams⟩ := Except.bind_eq_ok.mp hparams
    obtain ⟨rfl, rfl⟩ := Prod.mk.inj (Except.ok.inj hparams)
    dsimp only at hbody
    split at hbody
    · next hvalid =>
      obtain ⟨hloginNe, hpasswordNe⟩ : name ≠ "" ∧ secret ≠ "" := by simpa using hvalid
      refine attempt_ensures (Q := s.Effect env "add" (.task _)) .keep ?_ _ hbody
      refine Except.ensures_bind.mpr fun _ hdb => Except.ensures_bind.mpr fun table htable => ?_
      exact Except.ensures_ok.mpr (.add hlogin hpassword hloginNe hpasswordNe
        (Db.execute_eq_ok.mp hdb) (insertRow_eq_ok.mp htable))
    · cases hbody
      exact .keep
  · -- delete
    obtain ⟨name, reply, hlogin, hbody, -⟩ := Ctx.answer_eq_ok.mp h
    split at hbody
    · refine attempt_ensures (Q := s.Effect env "delete" (.task _)) .keep ?_ _ hbody
      exact Except.ensures_bind.mpr fun _ _ => Except.ensures_ok.mpr (.delete hlogin)
    · cases hbody
      exact .keep
  · -- list
    refine Ctx.answer_ensures (Q := s.Effect env "list" (.task _)) .keep (fun _ => ?_) _ h
    exact Except.ensures_bind.mpr fun _ _ => Except.ensures_ok.mpr .keep
  · -- login
    refine Ctx.answer_ensures (Q := s.Effect env "login" (.task _)) .keep (fun params => ?_) _ h
    refine Except.ensures_bind.mpr fun _ _ => ?_
    exact Except.ensures_ite (fun _ => Except.ensures_ok.mpr .keep) fun _ => Except.ensures_ok.mpr .keep
  · exact auth_effect h

end Users

end StreamCloud.Manager
