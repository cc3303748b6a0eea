-- SUMMARY: When the deletion of a user takes away every key that was accepted for the login.
import StreamCloud.Verification.Mediation
import StreamCloud.Verification.Authentication

/-!
# Revocation

Accepted keys are cached under the key, and a deletion looks the cache through
for the login. It erases one key, and a login without a row has the empty
password.
-/

namespace StreamCloud.Manager

variable {config : Config}

/-! ## The cache -/

namespace Users

/-- Every cached key has two parts or more. -/
def Parted (s : Users) : Prop :=
  ∀ key ∈ s.usersAuth, ∃ first second rest, split key = first :: second :: rest

/-- No row has the login. -/
def Gone (s : Users) (login : String) : Prop := ∀ row ∈ s.table.rows, row.login ≠ .bind login

theorem Gone.select {s : Users} {login : String} (h : s.Gone login) : s.select login = ("", "") := by
  have hnone : s.table.find? (.bind login) = none := Keyed.find?_eq_none_iff.mpr h
  rw [Users.select, hnone]

theorem nodup_cachedFor (s : Users) (login : String) : (s.cachedFor login).Nodup := by
  have hkeys : (s.usersAuth.entries.map (·.1)).Nodup := s.usersAuth.nodupKeys
  exact hkeys.sublist (List.filter_sublist.map _)

theorem mem_of_findAuthLogin {s : Users} {first : ℕ} {login key : String}
    (h : s.findAuthLogin first login = some key) : key ∈ s.cachedFor login :=
  List.mem_of_getElem? h

/-- Any key that is cached for the login may be found. -/
theorem exists_findAuthLogin {s : Users} {login key : String} (h : key ∈ s.cachedFor login) :
    ∃ first, s.findAuthLogin first login = some key := by
  obtain ⟨first, hlt, hget⟩ := List.getElem_of_mem h
  exact ⟨first, by rw [findAuthLogin, Nat.mod_eq_of_lt hlt, List.getElem?_eq_getElem hlt, hget]⟩

/-- A key is found whatever the order of the map only where no other one is cached
for the login. -/
theorem forall_findAuthLogin_iff {s : Users} {login key : String} :
    (∀ first, s.findAuthLogin first login = some key) ↔ s.cachedFor login = [key] := by
  constructor
  · intro h
    have hmem : key ∈ s.cachedFor login := mem_of_findAuthLogin (h 0)
    have honly : ∀ other ∈ s.cachedFor login, other = key := by
      intro other hother
      obtain ⟨first, hfound⟩ := exists_findAuthLogin hother
      exact Option.some.inj (hfound.symm.trans (h first))
    have hnodup := s.nodup_cachedFor login
    generalize s.cachedFor login = keys at hmem honly hnodup ⊢
    cases keys with
    | nil => cases hmem
    | cons found rest =>
      obtain rfl : found = key := honly found List.mem_cons_self
      have hrest : rest = [] := by
        apply List.eq_nil_iff_forall_not_mem.mpr
        intro other hother
        -- another key would be the found one, once more
        obtain rfl : other = found := honly other (List.mem_cons_of_mem _ hother)
        exact (List.nodup_cons.mp hnodup).1 hother
      rw [hrest]
  · intro h first
    rw [findAuthLogin, h, List.length_singleton, Nat.mod_one]
    rfl

/-- A deletion forgets the key that it finds, and no other one. -/
theorem mem_removeAuthLogin {s : Users} {first : ℕ} {login key : String} :
    key ∈ (s.removeAuthLogin first login).usersAuth ↔
      key ∈ s.usersAuth ∧ s.findAuthLogin first login ≠ some key := by
  unfold removeAuthLogin
  cases s.findAuthLogin first login with
  | none => simp
  | some found =>
    simp only [AList.mem_erase, ne_eq, Option.some.injEq]
    exact ⟨fun ⟨hne, hmem⟩ => ⟨hmem, fun heq => hne heq.symm⟩,
      fun ⟨hmem, hne⟩ => ⟨fun heq => hne heq.symm, hmem⟩⟩

theorem table_removeAuthLogin {s : Users} {first : ℕ} {login : String} :
    (s.removeAuthLogin first login).table = s.table := by
  unfold removeAuthLogin
  split <;> rfl

theorem Effect.parted {env : Env} {s s' : Users} {command : String} {body : Body Actor}
    (h : s.Effect env command body s') (hs : s.Parted) : s'.Parted := by
  cases h with
  | keep => exact hs
  | add => exact hs
  | delete => exact fun key hkey => hs key (mem_removeAuthLogin.mp hkey).1
  | accept _ hsplit =>
    intro key hkey
    rcases AList.mem_emplace.mp hkey with rfl | hkey
    · exact ⟨_, _, _, hsplit⟩
    · exact hs key hkey

end Users

/-- In every run the cached keys have two parts or more. -/
theorem Run.parted {guard : Env → State → Envelope Actor → Prop} {n₀ : State}
    {c : Work.Config State (Envelope Actor)} (h₀ : Initial n₀)
    (hrun : Run Codec.api config guard ⟨n₀, []⟩ c) : c.state.services.users.Parted := by
  have hparted : n₀.services.users.Parted := by
    intro key hkey
    rw [h₀.usersAuth] at hkey
    exact absurd hkey (AList.notMem_empty _)
  refine (hrun.invariant (fun n => n.services.users.Parted) (fun _ => True) hparted (by simp)
    (by simp) fun _ n _ n' _ hn _ _ h => ⟨?_, fun _ _ => trivial⟩).1
  rcases users_effect h with hsame | ⟨-, heffect⟩
  · rw [hsame]
    exact hn
  · exact heffect.parted hn

/-! ## Accepted and rejected keys -/

/-- In the run `users.auth` has accepted the key for the login. -/
def AcceptedAs (config : Config) (c₀ c : Work.Config State (Envelope Actor)) (userKey login : String) :
    Prop :=
  ∃ env n sender task out task',
    Work.Caused (handle Codec.api config) Arrives (fun _ _ _ => True) c₀ c env n
      { dest := .users, sender, command := "auth", body := .task task } out ∧
    task.metadataString "user-key" = .ok userKey ∧
    { dest := .router, sender := .users, command := "service", body := .task task' } ∈ out ∧
    task'.stored "user.login" = login

theorem AcceptedAs.trans {c₀ c₁ c₂ c₃ : Work.Config State (Envelope Actor)} {userKey login : String}
    (hbefore : Run Codec.api config (fun _ _ _ => True) c₀ c₁)
    (h : AcceptedAs config c₁ c₂ userKey login)
    (hafter : Run Codec.api config (fun _ _ _ => True) c₂ c₃) :
    AcceptedAs config c₀ c₃ userKey login := by
  obtain ⟨env, n, sender, task, out, task', ⟨n', p, q, hprefix, hg, hhandle, hrest⟩, haccepts⟩ := h
  exact ⟨env, n, sender, task, out, task',
    ⟨n', p, q, hbefore.trans hprefix, hg, hhandle, hrest.trans hafter⟩, haccepts⟩

/-- `users.auth` answers a task with this key with an error, whatever the
database does, and caches nothing. -/
def Rejects (config : Config) (n : State) (userKey : String) : Prop :=
  ∀ env sender task, task.metadataString "user-key" = .ok userKey →
    task.stored "profile.key" = config.profileKey →
    ∃ what, handle Codec.api config env n
        { dest := .users, sender, command := "auth", body := .task task } =
      .ok (n, [((program Codec.api config).ctx n .users).response Codec.api .ws
        (Users.noted task userKey) (.failed what)])

/-- A key other than the profile key is rejected when it is not cached and its
second part is not the password of its first. -/
theorem rejects_iff {n : State} (hn : n.contacts = contacts) {userKey first second : String}
    {rest : List String} (hsplit : split userKey = first :: second :: rest)
    (hprofile : userKey ≠ config.profileKey) :
    Rejects config n userKey ↔ userKey ∉ n.services.users.usersAuth ∧
      second ≠ (n.services.users.select first).2 := by
  have hadmin : (config.profileKey == userKey) = false :=
    beq_eq_false_iff_ne.mpr fun heq => hprofile heq.symm
  constructor
  · intro h
    -- any task with the key tells: the simplest one
    let task : Task := {
      request := { id := .null, method := "", params := .null, metadata := [("user-key", .string userKey)] }
      transportId := ""
      storage := AList.singleton "profile.key" config.profileKey }
    have hkey : task.metadataString "user-key" = .ok userKey := rfl
    have hstored : task.stored "profile.key" = config.profileKey := rfl
    obtain ⟨what, hhandle⟩ := h .calm .router task hkey hstored
    rw [handle_auth hn hkey hsplit] at hhandle
    dsimp only at hhandle
    rw [hstored, hadmin, Bool.or_false] at hhandle
    constructor
    · intro hcached
      have hcached : n.services.users.isAuth userKey = true := decide_eq_true hcached
      rw [if_pos hcached] at hhandle
      cases hhandle
    · intro hpassword
      split at hhandle
      · cases hhandle
      · simp only [Env.calm, List.head?_cons, hpassword, beq_self_eq_true, if_true] at hhandle
        obtain ⟨-, hout⟩ := Prod.mk.inj (Except.ok.inj hhandle)
        cases hout
  · rintro ⟨hcached, hpassword⟩ env sender task hkey hstored
    have hcached : n.services.users.isAuth userKey = false := decide_eq_false hcached
    rw [handle_auth hn hkey hsplit]
    simp only [hcached, hstored, hadmin, Bool.or_false, Bool.false_eq_true, if_false, List.head?_cons]
    cases env.db with
    | some what => exact ⟨what, rfl⟩
    | none => exact ⟨_, if_neg (by simpa using hpassword)⟩

/-- A key that was accepted for a login other than the administrator's begins
with the login and has a second part. -/
theorem AcceptedAs.split_eq {n₀ : State} {c : Work.Config State (Envelope Actor)} (h₀ : Initial n₀)
    {userKey login : String} (h : AcceptedAs config ⟨n₀, []⟩ c userKey login)
    (hadmin : (split config.profileKey).head? ≠ some login) :
    ∃ second rest, split userKey = login :: second :: rest := by
  obtain ⟨env, n, sender, task, out, task', hcaused, hkey, hsent, hlogin⟩ := h
  obtain ⟨n', p, q, hrun, -, hhandle, -⟩ := hcaused
  have hn := (Run.wired h₀ hrun).1
  have htraced := Run.messages_traced h₀ hrun _ (List.mem_append_right p List.mem_cons_self)
  obtain ⟨request, ws, read, serviceName, methodName, pieces, -, -, -, hcarries⟩ :=
    htraced.auth task rfl rfl rfl
  have hread : read.metadata.stringAt "user-key" = .ok userKey := hcarries.request ▸ hkey
  have hprofile : task.stored "profile.key" = config.profileKey := by
    rw [Task.stored, hcarries.storage "profile.key" (by decide)]
    rfl
  obtain ⟨first, rest, hsplit⟩ := exists_split userKey
  have hstored : ((Users.noted task userKey).emplace "user.login" first).stored "user.login" = first := by
    rw [Task.stored, hcarries.accepted hread hsplit, acceptedTask, Task.emplace,
      AList.lookup_emplace_self]
    rfl
  -- what was noted is the first part of the key
  have hfirst : first = login := by
    obtain ⟨asked, component, hbody, hauth, -⟩ := Program.task_of_handle rfl hhandle
    cases hbody
    have hrouter : (contacts .users).lookup "router" = some .router := rfl
    have hws : (contacts .users).lookup "ws" = some .ws := rfl
    obtain ⟨userKey', first', rest', hkey', hsplit', hbody'⟩ := Users.auth_service Codec.api
      (lookup_of_wired hn hrouter) (lookup_of_wired hn hws) hauth hsent rfl
    obtain rfl : userKey = userKey' := Except.ok.inj (hkey.symm.trans hkey')
    obtain ⟨rfl, -⟩ := List.cons.inj (hsplit.symm.trans hsplit')
    cases hbody'
    exact hstored.symm.trans hlogin
  subst hfirst
  rw [handle_auth hn hkey hsplit] at hhandle
  dsimp only at hhandle
  split at hhandle
  · next hcases =>
    -- a cached key has parts, and the profile key is another login's
    rcases Bool.or_eq_true_iff.mp hcases with hcached | hprofile'
    · obtain ⟨first', second, rest', hsplit'⟩ := Run.parted h₀ hrun userKey (of_decide_eq_true hcached)
      obtain ⟨rfl, -⟩ := List.cons.inj (hsplit.symm.trans hsplit')
      exact ⟨second, rest', hsplit'⟩
    · rw [hprofile, beq_iff_eq] at hprofile'
      rw [hprofile', hsplit] at hadmin
      exact absurd rfl hadmin
  · cases rest with
    | cons second rest => exact ⟨second, rest, hsplit⟩
    | nil =>
      split at hhandle
      · cases hhandle
        cases List.mem_singleton.mp hsent
      · cases hhandle
      · next heq => cases heq

/-! ## Deletions -/

def deleteUserMessage (sender : Actor) (task : Task) : Envelope Actor :=
  { dest := .users, sender, command := "delete", body := .task task }

/-- A successful `add` of a login that SQLite reads as this one. -/
inductive AddsUser (login : String) (env : Env) (n : State) : Envelope Actor → Prop
  | add {sender : Actor} {task : Task} {added password : String}
      {table : Keyed UserRow Text UserRow.login} :
      task.paramString "login" = .ok added → task.paramString "password" = .ok password →
      added ≠ "" → password ≠ "" → env.db = none →
      n.services.users.table.insert { login := .bind added, password := .bind password } = some table →
      Text.bind added = Text.bind login →
      AddsUser login env n { dest := .users, sender, command := "add", body := .task task }

/-- A deletion whose statement does not throw, of a login that is not empty. -/
theorem handle_deleteUser {n : State} (hn : n.contacts = contacts) {env : Env} {sender : Actor}
    {task : Task} {login : String} (hparam : task.paramString "login" = .ok login) (hne : login ≠ "")
    (hdb : env.db = none) :
    handle Codec.api config env n (deleteUserMessage sender task) =
      .ok ({ n with services := { n.services with
          users := { n.services.users with
            table := n.services.users.table.delete fun row => row.login = Text.bind login }
          |>.removeAuthLogin env.first login } },
        [((program Codec.api config).ctx n .users).response Codec.api .ws task (.ok (.boolean true))]) := by
  have hws : (contacts .users).lookup "ws" = some .ws := rfl
  have hvalid : (!login.isEmpty) = true := by simpa using hne
  refine (Program.handle_task rfl rfl).trans ?_
  show (Users.delete Codec.api env ((program Codec.api config).ctx n .users) n.services.users task).map _
    = _
  unfold Users.delete Ctx.answer
  simp only [hparam, Except.ok_bind', if_pos hvalid, hdb, Db.execute]
  show (Ctx.respond Codec.api _ task _ >>= _).map _ = _
  rw [Ctx.respond_of_contact (lookup_of_wired hn hws)]
  rfl

/-- While a login is not added, a key of it with a second part is not accepted. -/
theorem gone_of_handle_users {env : Env} {n n' : State} {e : Envelope Actor}
    {out : List (Envelope Actor)} {userKey login second : String} {rest : List String}
    (hsplit : split userKey = login :: second :: rest) (hsecond : second ≠ "")
    (hgone : n.services.users.Gone login) (hcached : userKey ∉ n.services.users.usersAuth)
    (hadds : ¬ AddsUser login env n e) (h : handle Codec.api config env n e = .ok (n', out)) :
    n'.services.users.Gone login ∧ userKey ∉ n'.services.users.usersAuth := by
  rcases users_effect h with hsame | ⟨hdest, heffect⟩
  · rw [hsame]
    exact ⟨hgone, hcached⟩
  · obtain ⟨dest, sender, command, body⟩ := e
    obtain rfl : dest = .users := hdest
    generalize n'.services.users = users at heffect
    cases heffect with
    | keep => exact ⟨hgone, hcached⟩
    | add hlogin hpassword hloginNe hpasswordNe hdb hinsert =>
      refine ⟨fun row hrow => ?_, hcached⟩
      rcases (Keyed.mem_of_insert hinsert row).mp hrow with hrow | rfl
      · exact hgone row hrow
      · exact fun hbind => hadds (.add hlogin hpassword hloginNe hpasswordNe hdb hinsert hbind)
    | delete =>
      refine ⟨fun row hrow => ?_, fun hmem => hcached (Users.mem_removeAuthLogin.mp hmem).1⟩
      rw [Users.table_removeAuthLogin] at hrow
      exact hgone row (Keyed.mem_delete.mp hrow).1
    | accept _ hsplit' hselect =>
      refine ⟨hgone, fun hmem => ?_⟩
      rcases AList.mem_emplace.mp hmem with rfl | hmem
      · obtain ⟨rfl, hrest⟩ := List.cons.inj (hsplit.symm.trans hsplit')
        obtain ⟨rfl, -⟩ := List.cons.inj hrest
        rw [hgone.select] at hselect
        exact hsecond hselect
      · exact hcached hmem

/-- Until the login is added again, every key that was accepted for it is rejected. -/
def Revoked (config : Config) (c₀ c c' : Work.Config State (Envelope Actor)) (login : String) : Prop :=
  ∀ userKey, AcceptedAs config c₀ c userKey login → ∀ c'',
    Run Codec.api config (fun env n e => ¬ AddsUser login env n e) c' c'' →
    Rejects config c''.state userKey

/-- The keys accepted for the login have a second part that is not empty, and if
one of them is still cached no other key is cached for the login. -/
def Revocable (config : Config) (c₀ c : Work.Config State (Envelope Actor)) (login : String) : Prop :=
  ∀ userKey, AcceptedAs config c₀ c userKey login →
    (split userKey)[1]? ≠ some "" ∧
    (userKey ∈ c.state.services.users.usersAuth →
      c.state.services.users.cachedFor login = [userKey])

/-- A deletion that finds one key in the cache takes away the keys accepted for the
login exactly when no accepted key but the found one is cached. -/
theorem revoked_iff_found {n₀ n : State} {p q out : List (Envelope Actor)} {env : Env} {sender : Actor}
    {task : Task} {login : String} {n' : State} (h₀ : Initial n₀)
    (hrun : Run Codec.api config (fun _ _ _ => True) ⟨n₀, []⟩ ⟨n, p ++ deleteUserMessage sender task :: q⟩)
    (hparam : task.paramString "login" = .ok login) (hne : login ≠ "") (hdb : env.db = none)
    (hadmin : (split config.profileKey).head? ≠ some login)
    (hhandle : handle Codec.api config env n (deleteUserMessage sender task) = .ok (n', out)) :
    Revoked config ⟨n₀, []⟩ ⟨n, p ++ deleteUserMessage sender task :: q⟩ ⟨n', p ++ q ++ out⟩ login ↔
      ∀ userKey, AcceptedAs config ⟨n₀, []⟩ ⟨n, p ++ deleteUserMessage sender task :: q⟩ userKey login →
        (split userKey)[1]? ≠ some "" ∧
        (userKey ∈ n.services.users.usersAuth →
          n.services.users.findAuthLogin env.first login = some userKey) := by
  have hn := (Run.wired h₀ hrun).1
  obtain ⟨hn', hplain⟩ := Run.wired h₀ (hrun.handle trivial hhandle)
  have hstate := (Prod.mk.inj (Except.ok.inj
    ((handle_deleteUser hn hparam hne hdb).symm.trans hhandle))).1
  have hgone : n'.services.users.Gone login := by
    intro row hrow hbind
    rw [← hstate, Users.table_removeAuthLogin] at hrow
    exact of_decide_eq_false (Keyed.mem_delete.mp hrow).2 hbind
  have hcached : ∀ userKey, userKey ∉ n'.services.users.usersAuth ↔
      (userKey ∈ n.services.users.usersAuth →
        n.services.users.findAuthLogin env.first login = some userKey) := by
    intro userKey
    rw [← hstate, Users.mem_removeAuthLogin, not_and, not_ne_iff]
    rfl
  have hprofile : ∀ {userKey second rest}, split userKey = login :: second :: rest →
      userKey ≠ config.profileKey := by
    rintro userKey second rest hsplit rfl
    exact hadmin (by rw [hsplit]; rfl)
  constructor
  · intro hrevoked userKey haccepted
    obtain ⟨second, rest, hsplit⟩ := haccepted.split_eq h₀ hadmin
    have hrejects := hrevoked userKey haccepted _ (.refl _)
    obtain ⟨hnot, hsecond⟩ := (rejects_iff hn' hsplit (hprofile hsplit)).mp hrejects
    rw [hgone.select] at hsecond
    refine ⟨?_, (hcached userKey).mp hnot⟩
    rw [hsplit]
    simpa using hsecond
  · intro hfound userKey haccepted c'' hrest
    obtain ⟨second, rest, hsplit⟩ := haccepted.split_eq h₀ hadmin
    obtain ⟨hpart, hforgotten⟩ := hfound userKey haccepted
    have hsecond : second ≠ "" := by
      rw [hsplit] at hpart
      simpa using hpart
    obtain ⟨hgone', hcached'⟩ := (hrest.invariant
      (fun n => n.services.users.Gone login ∧ userKey ∉ n.services.users.usersAuth) (fun _ => True)
      ⟨hgone, (hcached userKey).mpr hforgotten⟩ (by simp) (by simp)
      fun _ _ _ _ _ hs _ hadds h =>
        ⟨gone_of_handle_users hsplit hsecond hs.1 hs.2 hadds h, fun _ _ => trivial⟩).1
    refine (rejects_iff (hrest.wired_of_wired hn' hplain).1 hsplit (hprofile hsplit)).mpr ⟨hcached', ?_⟩
    rw [hgone'.select]
    exact hsecond

/-- A deletion whose statement does not throw is answered with true. Whatever the
order of the cache is, it takes away the keys accepted for the login exactly when
they are revocable. -/
theorem revoked_iff (config : Config) {n₀ n : State} {p q : List (Envelope Actor)} {sender : Actor}
    {task : Task} {login : String} (h₀ : Initial n₀)
    (hrun : Run Codec.api config (fun _ _ _ => True) ⟨n₀, []⟩ ⟨n, p ++ deleteUserMessage sender task :: q⟩)
    (hparam : task.paramString "login" = .ok login) (hne : login ≠ "")
    (hadmin : (split config.profileKey).head? ≠ some login) :
    (∀ env, env.db = none → ∃ n' out,
      handle Codec.api config env n (deleteUserMessage sender task) = .ok (n', out) ∧
      out = [((program Codec.api config).ctx n .users).response Codec.api .ws task (.ok (.boolean true))]) ∧
    ((∀ env n' out, env.db = none →
        handle Codec.api config env n (deleteUserMessage sender task) = .ok (n', out) →
        Revoked config ⟨n₀, []⟩ ⟨n, p ++ deleteUserMessage sender task :: q⟩ ⟨n', p ++ q ++ out⟩ login) ↔
      Revocable config ⟨n₀, []⟩ ⟨n, p ++ deleteUserMessage sender task :: q⟩ login) := by
  have hn := (Run.wired h₀ hrun).1
  refine ⟨fun env hdb => ⟨_, _, handle_deleteUser hn hparam hne hdb, rfl⟩, ?_⟩
  constructor
  · intro hrevoked userKey haccepted
    have hfound : ∀ first, (split userKey)[1]? ≠ some "" ∧ (userKey ∈ n.services.users.usersAuth →
        n.services.users.findAuthLogin first login = some userKey) := by
      intro first
      -- an environment for every order
      let env : Env := { Env.calm with first }
      have hdb : env.db = none := rfl
      have hhandle : handle Codec.api config env n (deleteUserMessage sender task) = _ :=
        handle_deleteUser hn hparam hne hdb
      exact (revoked_iff_found h₀ hrun hparam hne hdb hadmin hhandle).mp
        (hrevoked env _ _ hdb hhandle) userKey haccepted
    exact ⟨(hfound 0).1, fun hcached =>
      Users.forall_findAuthLogin_iff.mp fun first => (hfound first).2 hcached⟩
  · intro hrevocable env n' out hdb hhandle
    apply (revoked_iff_found h₀ hrun hparam hne hdb hadmin hhandle).mpr
    intro userKey haccepted
    obtain ⟨hpart, honly⟩ := hrevocable userKey haccepted
    exact ⟨hpart, fun hcached => Users.forall_findAuthLogin_iff.mpr (honly hcached) env.first⟩

/-! ## Two keys of one login -/

/-- A user. -/
def oneUser : State where
  services := { blank.services with
    users := { table := ⟨[{ login := .bind "a", password := .bind "b" }], by simp⟩, usersAuth := ∅ } }
  contacts := contacts

theorem oneUser_initial : Initial oneUser := ⟨rfl, rfl, rfl, rfl, rfl, rfl⟩

/-- A request with a user key. -/
def keyRequest (userKey : String) : RequestMessage where
  id := .integer 1
  method := "devices.list"
  params := .null
  metadata := [("user-key", .string userKey)]

/-- The administrator's request that deletes the user. -/
def deleteUser : RequestMessage where
  id := .integer 1
  method := "users.delete"
  params := .map [("login", .string "a")]
  metadata := [("user-key", .string "p.q")]

/-- The state after some keys were accepted for the user. -/
def withKeys (keys : List String) : State :=
  { oneUser with services := { oneUser.services with
      users := { oneUser.services.users with
        usersAuth := keys.foldl (fun cache key => cache.emplace key "a") ∅ } } }

/-- A key with the user's password is accepted. -/
theorem keyRequest_accepted (keys : List String) (p : List (Envelope Actor)) {userKey : String}
    {rest : List String} (hsplit : split userKey = "a" :: "b" :: rest)
    (hcached : userKey ∉ (withKeys keys).services.users.usersAuth) :
    ∃ e, Run Codec.api ⟨"p.q", "m"⟩ (fun _ _ _ => True) ⟨withKeys keys, p⟩
        ⟨withKeys (keys ++ [userKey]), p ++ [e]⟩ ∧
      AcceptedAs ⟨"p.q", "m"⟩ ⟨withKeys keys, p⟩ ⟨withKeys (keys ++ [userKey]), p ++ [e]⟩ userKey "a" := by
  let config : Config := ⟨"p.q", "m"⟩
  let ws : WebSocket := ⟨"s", (keyRequest userKey).serialize Codec.api⟩
  let task : Task := Router.task config (keyRequest userKey) "s" "devices" "list"
  let asks : Envelope Actor :=
    { dest := .users, sender := .router, command := "auth", body := .task task }
  have hexact : (keyRequest userKey).Exact := rfl
  have hreads : Codec.api.ReadsRequest ws.body (keyRequest userKey) := hexact.reads_serialize
  have husers : (contacts .router).lookup "users" = some .users := rfl
  have hmethod : split (keyRequest userKey).method = "devices" :: "list" :: [] :=
    (by decide : split "devices.list" = ["devices", "list"])
  have hkey : task.metadataString "user-key" = .ok userKey := rfl
  have hframe : handle Codec.api config .calm (withKeys keys) (frame ws) = .ok (withKeys keys, [asks]) := by
    rw [handle_frame, Router.dispatcher_of_userKey Codec.api hreads hmethod rfl (lookup_of_wired rfl husers)]
    rfl
  have hselect : (withKeys keys).services.users.select "a" = ("a", "b") :=
    (by decide : oneUser.services.users.select "a" = ("a", "b"))
  have hprofile : (task.stored "profile.key" == userKey) = false := by
    refine beq_eq_false_iff_ne.mpr fun heq => ?_
    have hparts : split "p.q" = ["p", "q"] := by decide
    have heq : "p.q" = userKey := heq
    rw [← heq, hparts] at hsplit
    exact absurd (List.cons.inj hsplit).1 (by decide)
  have hauth : handle Codec.api config .calm (withKeys keys) asks = .ok (withKeys (keys ++ [userKey]), [{
      dest := .router
      sender := .users
      command := "service"
      body := .task ((Users.noted task userKey).emplace "user.login" "a") }]) := by
    have hcached : (withKeys keys).services.users.isAuth userKey = false := decide_eq_false hcached
    rw [handle_auth rfl hkey hsplit]
    simp only [hcached, hprofile, Bool.or_false, Bool.false_eq_true, if_false, Env.calm, List.head?_cons,
      hselect, beq_self_eq_true, if_true]
    simp only [withKeys, List.foldl_append, List.foldl_cons, List.foldl_nil]
    rfl
  have hstart : Run Codec.api config (fun _ _ _ => True) ⟨withKeys keys, p⟩ ⟨withKeys keys, p⟩ := .refl _
  have harrived := hstart.arrive (.frame ws)
  have hasked : Run Codec.api config (fun _ _ _ => True) ⟨withKeys keys, p⟩
      ⟨withKeys keys, p ++ [asks]⟩ := by
    have hnext := Work.Run.handle (q := []) harrived trivial hframe
    rwa [List.append_nil] at hnext
  have haccepted := Work.Run.handle (q := []) hasked trivial hauth
  rw [List.append_nil] at haccepted
  refine ⟨_, haccepted, .calm, _, .router, task, _, _, ⟨_, p, [], hasked, trivial, hauth, ?_⟩, hkey,
    List.mem_singleton_self _, rfl⟩
  rw [List.append_nil]
  exact .refl _

/-- The task of the administrator's deletion. -/
def deleteUserTask : Task := adminTask ⟨"p.q", "m"⟩ deleteUser "s" "users" "delete"

/-- Two keys are accepted, and then the user is about to be deleted. -/
theorem twoKeys_run :
    ∃ p, Run Codec.api ⟨"p.q", "m"⟩ (fun _ _ _ => True) ⟨oneUser, []⟩
        ⟨withKeys ["a.b", "a.b.c"], p ++ deleteUserMessage .router deleteUserTask :: []⟩ ∧
      ∀ userKey ∈ ["a.b", "a.b.c"], AcceptedAs ⟨"p.q", "m"⟩ ⟨oneUser, []⟩
        ⟨withKeys ["a.b", "a.b.c"], p ++ deleteUserMessage .router deleteUserTask :: []⟩ userKey "a" := by
  obtain ⟨e₁, hfirst, haccepted⟩ := keyRequest_accepted [] []
    (by decide : split "a.b" = "a" :: "b" :: []) (AList.notMem_empty _)
  obtain ⟨e₂, hsecond, haccepted'⟩ := keyRequest_accepted ["a.b"] [e₁]
    (by decide : split "a.b.c" = "a" :: "b" :: ["c"]) (by decide)
  let ws : WebSocket := ⟨"s", deleteUser.serialize Codec.api⟩
  have hexact : deleteUser.Exact := rfl
  have hreads : Codec.api.ReadsRequest ws.body deleteUser := hexact.reads_serialize
  have hsplit : split deleteUser.method = "users" :: "delete" :: [] := by decide
  have hmethod : List.elem "delete" ((program Codec.api ⟨"p.q", "m"⟩).messageTypes .users) = true := rfl
  have hstart : Run Codec.api ⟨"p.q", "m"⟩ (fun _ _ _ => True) ⟨withKeys ["a.b", "a.b.c"], []⟩
      ⟨withKeys ["a.b", "a.b.c"], []⟩ := .refl _
  have hdelivered := Run.delivers hstart (fun _ _ _ => trivial) rfl hreads hsplit rfl (by decide) rfl
    (List.mem_of_elem_eq_true hmethod)
  have hdelete := hdelivered.append_left [e₁, e₂]
  refine ⟨[e₁, e₂], hfirst.trans (hsecond.trans hdelete), fun userKey hkey => ?_⟩
  rcases List.mem_pair.mp hkey with rfl | rfl
  · exact .trans (.refl _) haccepted (hsecond.trans hdelete)
  · exact .trans hfirst haccepted' hdelete

theorem revoked_iff_twoKeys :
    ∃ p, (∀ env n' out, env.db = none →
        handle Codec.api ⟨"p.q", "m"⟩ env (withKeys ["a.b", "a.b.c"])
          (deleteUserMessage .router deleteUserTask) = .ok (n', out) →
        Revoked ⟨"p.q", "m"⟩ ⟨oneUser, []⟩
          ⟨withKeys ["a.b", "a.b.c"], p ++ deleteUserMessage .router deleteUserTask :: []⟩
          ⟨n', p ++ [] ++ out⟩ "a") ↔
      Revocable ⟨"p.q", "m"⟩ ⟨oneUser, []⟩
        ⟨withKeys ["a.b", "a.b.c"], p ++ deleteUserMessage .router deleteUserTask :: []⟩ "a" := by
  obtain ⟨p, hrun, -⟩ := twoKeys_run
  have hparam : deleteUserTask.paramString "login" = .ok "a" := rfl
  exact ⟨p, (revoked_iff ⟨"p.q", "m"⟩ oneUser_initial hrun hparam (by decide) (by decide)).2⟩

/-- Whichever of the two keys the deletion finds, the other one is still accepted. -/
theorem twoKeys_not_revoked :
    ∃ p, Run Codec.api ⟨"p.q", "m"⟩ (fun _ _ _ => True) ⟨oneUser, []⟩
        ⟨withKeys ["a.b", "a.b.c"], p ++ deleteUserMessage .router deleteUserTask :: []⟩ ∧
      ∀ env, env.db = none → ∃ n' out,
        handle Codec.api ⟨"p.q", "m"⟩ env (withKeys ["a.b", "a.b.c"])
          (deleteUserMessage .router deleteUserTask) = .ok (n', out) ∧
        out = [((program Codec.api ⟨"p.q", "m"⟩).ctx (withKeys ["a.b", "a.b.c"]) .users).response Codec.api
          .ws deleteUserTask (.ok (.boolean true))] ∧
        ¬ Revoked ⟨"p.q", "m"⟩ ⟨oneUser, []⟩
            ⟨withKeys ["a.b", "a.b.c"], p ++ deleteUserMessage .router deleteUserTask :: []⟩
            ⟨n', p ++ [] ++ out⟩ "a" := by
  obtain ⟨p, hrun, haccepted⟩ := twoKeys_run
  refine ⟨p, hrun, fun env hdb => ?_⟩
  have hparam : deleteUserTask.paramString "login" = .ok "a" := rfl
  have hhandle : handle Codec.api ⟨"p.q", "m"⟩ env (withKeys ["a.b", "a.b.c"])
      (deleteUserMessage .router deleteUserTask) = _ :=
    handle_deleteUser rfl hparam (by decide) hdb
  refine ⟨_, _, hhandle, rfl, fun hrevoked => ?_⟩
  have hfound := (revoked_iff_found oneUser_initial hrun hparam (by decide) hdb (by decide) hhandle).mp hrevoked
  obtain ⟨-, hone⟩ := hfound "a.b" (haccepted _ List.mem_cons_self)
  obtain ⟨-, hother⟩ := hfound "a.b.c" (haccepted _ (List.mem_cons_of_mem _ List.mem_cons_self))
  have heq := (hone (by decide)).symm.trans (hother (by decide))
  exact absurd (Option.some.inj heq) (by decide)

end StreamCloud.Manager
