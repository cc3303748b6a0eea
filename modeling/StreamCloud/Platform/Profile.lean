-- SUMMARY: The profile service of the platform.
import StreamCloud.Core.Service

/-!
# profile

`stream-platform/src/profile.cpp`.
-/

namespace StreamCloud.Platform

structure ProfileRow where
  login : Text
  password : Text
deriving DecidableEq

/-- The profile table, and the cache of keys that passed authentication. -/
structure Profile where
  table : Keyed ProfileRow Text ProfileRow.login
  profilesAuth : StringSet

namespace Profile

variable {α : Type}

def isAuth (s : Profile) (profileKey : String) : Bool := decide (profileKey ∈ s.profilesAuth)

def addAuth (s : Profile) (profileKey : String) : Profile :=
  { s with profilesAuth := s.profilesAuth.emplace profileKey () }

/-- `select login, password from profile where login = ? limit 1`, with empty
strings where there is no row. -/
def select (s : Profile) (login : String) : String × String :=
  match s.table.find? (.bind login) with
  | some row => (row.login.val, row.password.val)
  | none => ("", "")

variable (J : Codec)

def loginAndPassword (task : Task) : Except Fault (String × String) := do
  return (← task.paramString "login", ← task.paramString "password")

def signup : Handler α Profile Task := fun env ctx s task =>
  ctx.answer J task s (loginAndPassword task)
    (fun (login, password) => !login.isEmpty && !password.isEmpty) "login or password empty"
    fun (login, password) => do
      env.db.execute
      let table ← insertRow s.table { login := .bind login, password := .bind password }
      return ({ s with table }, .ok (.boolean true))

def login : Handler α Profile Task := fun env ctx s task =>
  ctx.answer J task s (loginAndPassword task)
    (fun (login, password) => !login.isEmpty && !password.isEmpty) "login or password empty"
    fun (loginParam, passwordParam) => do
      env.db.execute
      let (login, password) := s.select loginParam
      -- the key is made of the row
      if passwordParam == password then
        return (s, .ok (.string (login ++ "." ++ password)))
      else
        return (s, .failed "login or password is incorrect")

/-- The task, noted to belong to a profile, on its way back to the router. -/
def forward (ctx : Ctx α) (task : Task) (login : String) : Except Fault (List (Envelope α)) :=
  ctx.send "router" "service" (.task (task.emplace "profile.login" login))

def auth : Handler α Profile Task := fun env ctx s task => do
  let profileKey ← task.metadataString "profile-key"
  let profile := split profileKey
  if s.isAuth profileKey then
    return (s, ← forward ctx task (← component profile 0))
  else
    catchStd (do
      env.db.execute
      -- without a row the password is empty, which a piece of a key can be
      let (_, password) := s.select (← component profile 0)
      if (← component profile 1) == password then
        return (s.addAuth profileKey, ← forward ctx task (← component profile 0))
      else
        return (s, ← ctx.respond J task (.failed "authentication bad")))
      fun what => return (s, ← ctx.respond J task (.failed what))

/-- What `auth` does with a key, piece by piece. -/
theorem auth_eq {env : Env} {ctx : Ctx α} {s : Profile} {task : Task} {profileKey first : String}
    {rest : List String} {router ws : α} (hkey : task.metadataString "profile-key" = .ok profileKey)
    (hsplit : split profileKey = first :: rest)
    (hrouter : ctx.contacts.lookup "router" = some router)
    (hws : ctx.contacts.lookup "ws" = some ws) :
    auth J env ctx s task =
      let forwarded : Envelope α := {
        dest := router
        sender := ctx.self
        command := "service"
        body := .task (task.emplace "profile.login" first) }
      if s.isAuth profileKey then .ok (s, [forwarded])
      else match env.db, rest.head? with
        | some what, _ => .ok (s, [ctx.response J ws task (.failed what)])
        | none, none => .error .outOfRange
        | none, some second =>
          if second == (s.select first).2 then .ok (s.addAuth profileKey, [forwarded])
          else .ok (s, [ctx.response J ws task (.failed "authentication bad")]) := by
  have hforward : forward ctx task first = .ok [{
      dest := router
      sender := ctx.self
      command := "service"
      body := .task (task.emplace "profile.login" first) }] := Ctx.send_of_contact hrouter
  unfold auth
  simp only [hkey, hsplit, Except.ok_bind', component, List.getElem?_cons_zero, hforward]
  split
  · rfl
  · cases env.db with
    | some what => simp only [Db.execute, Except.error_bind', catchStd_thrown,
        Ctx.respond_of_contact hws, Except.ok_bind']; rfl
    | none =>
      cases rest with
      | nil => rfl
      | cons second rest =>
        simp only [Db.execute, Except.ok_bind', List.getElem?_cons_succ, List.getElem?_cons_zero,
          List.head?_cons]
        split
        · rfl
        · rw [Ctx.respond_of_contact hws]; rfl

/-- A task that `auth` forwards is its own, with one note added. -/
theorem auth_service {env : Env} {ctx : Ctx α} {s s' : Profile} {task : Task}
    {out : List (Envelope α)} {e : Envelope α} {router ws : α}
    (hrouter : ctx.contacts.lookup "router" = some router) (hws : ctx.contacts.lookup "ws" = some ws)
    (h : auth J env ctx s task = .ok (s', out)) (he : e ∈ out) (hservice : e.command = "service") :
    ∃ profileKey first rest, task.metadataString "profile-key" = .ok profileKey ∧
      split profileKey = first :: rest ∧ e.body = .task (task.emplace "profile.login" first) := by
  cases hkey : task.metadataString "profile-key" with
  | error fault =>
    rw [auth, hkey] at h
    cases h
  | ok profileKey =>
    obtain ⟨first, rest, hsplit⟩ := exists_split profileKey
    refine ⟨profileKey, first, rest, rfl, hsplit, ?_⟩
    have hwrite : ∀ task reply, ctx.response J ws task reply = e → False := by
      rintro task reply rfl
      exact absurd hservice (by decide : "write" ≠ "service")
    rw [auth_eq J hkey hsplit hrouter hws] at h
    dsimp only at h
    split at h
    · cases h
      rw [List.mem_singleton.mp he]
    · split at h
      · cases h
        exact (hwrite _ _ (List.mem_singleton.mp he).symm).elim
      · cases h
      · split at h
        · cases h
          rw [List.mem_singleton.mp he]
        · cases h
          exact (hwrite _ _ (List.mem_singleton.mp he).symm).elim

def handlers : List (String × Action α Profile) :=
  [("signup", .task (signup J)), ("login", .task (login J)), ("auth", .task (auth J))]

/-! ## What is sent -/

/-- The messages of each handler of the profile service. -/
inductive Sent : String → String → String → Body α → Prop
  | write (handler : String) (ws : WebSocket) :
      Sent handler "ws" "write" (.transport (.webSocket ws))
  | service (task : Task) : Sent "auth" "router" "service" (.task task)

theorem auth_sends (env : Env) (ctx : Ctx α) (s : Profile) (task : Task) :
    (auth J env ctx s task).Ensures fun r => ctx.Sends (Sent "auth") r.2 := by
  unfold auth
  refine Except.ensures_bind.mpr fun profileKey _ => Except.ensures_ite (fun _ => ?_) fun _ => ?_
  · exact Except.ensures_bind.mpr fun _ _ => Ctx.send_sends_return (.service _)
  · refine catchStd_ensures ?_ fun what => Ctx.respond_sends_return (Sent.write _)
    refine Except.ensures_bind.mpr fun _ _ => Except.ensures_bind.mpr fun _ _ => ?_
    refine Except.ensures_bind.mpr fun _ _ => Except.ensures_ite (fun _ => ?_) fun _ => ?_
    · exact Except.ensures_bind.mpr fun _ _ => Ctx.send_sends_return (.service _)
    · exact Ctx.respond_sends_return (Sent.write _)

theorem sends {env : Env} {ctx : Ctx α} {s : Profile} {command : String} {action : Action α Profile}
    {body : Body α} {r : Profile × List (Envelope α)} (hmem : (command, action) ∈ handlers J)
    (h : Action.Ran env ctx s action body r) : ctx.Sends (Sent command) r.2 := by
  simp only [handlers, List.mem_cons, Prod.mk.injEq, List.not_mem_nil, or_false] at hmem
  rcases hmem with ⟨rfl, rfl⟩ | ⟨rfl, rfl⟩ | ⟨rfl, rfl⟩ <;> cases h with | task h
  · exact Ctx.answer_sends (Sent.write _) r h
  · exact Ctx.answer_sends (Sent.write _) r h
  · exact auth_sends J env ctx s _ r h

end Profile

end StreamCloud.Platform
