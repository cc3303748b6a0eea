-- SUMMARY: Which keys the two authentication handlers accept, and when they are right to.
import StreamCloud.Manager.Flow
import StreamCloud.Platform.Flow
import StreamCloud.Api.JsonText

/-!
# Authentication

A key is authentic for a login when it is the login and its password with a dot
between them. The handlers compare the second part of a key with a password that
is empty where there is no row, and do not look at further parts.
-/

namespace StreamCloud

/-! ## Keys -/

/-- The key of a login, for some login and password that belong together. -/
def IsKeyOf (R : String → String → Prop) (key login : String) : Prop :=
  ∃ password, R login password ∧ key = login ++ "." ++ password

/-- A key whose second part is the password of its first part is authentic for
the first part exactly when there are no more parts and there is a row. -/
theorem isKeyOf_first_iff {R : String → String → Prop} {password : String → String}
    (hR : ∀ login p, R login p → password login = p) {key first second : String}
    {rest : List String} (hsplit : split key = first :: second :: rest)
    (hsecond : second = password first) :
    IsKeyOf R key first ↔ rest = [] ∧ R first second := by
  have hfirst : DotFree first := dotFree_of_mem_split (s := key) (by simp [hsplit])
  have hdot : DotFree second := dotFree_of_mem_split (s := key) (by simp [hsplit])
  constructor
  · rintro ⟨p, hrow, rfl⟩
    rw [split_append_dot hfirst] at hsplit
    have hp : split p = second :: rest := (List.cons.inj hsplit).2
    obtain rfl : second = p := hsecond.trans (hR _ _ hrow)
    have hone : split second = [second] :=
      split_eq_of_intercalate (by simp) (by simpa using hdot) (by simp [List.intercalate])
    rw [hone] at hp
    exact ⟨(List.cons.inj hp).2.symm, hrow⟩
  · rintro ⟨rfl, hrow⟩
    exact ⟨second, hrow, (split_eq_pair.mp hsplit).1⟩

/-! ## The manager -/

namespace Manager

variable {J : Codec} {config : Config}

namespace Users

/-- The users table has this login, with this password. -/
def HasRow (s : Users) (login password : String) : Prop :=
  ∃ row ∈ s.table.rows, row.login.val = login ∧ row.password.val = password

theorem select_of_hasRow {s : Users} {login password : String} (h : s.HasRow login password) :
    (s.select login).2 = password := by
  obtain ⟨row, hrow, rfl, rfl⟩ := h
  have hfind : s.table.find? (.bind row.login.val) = some row :=
    Keyed.find?_eq_some_iff.mpr ⟨hrow, (Text.bind_val row.login).symm⟩
  rw [select, hfind]

end Users

/-- The logins that a key may be forwarded with: the first part of the profile
key for the profile key, and the login of a row for the key of that row. -/
def Authentic (config : Config) (s : Users) (userKey login : String) : Prop :=
  (userKey = config.profileKey ∧ (split userKey).head? = some login) ∨ IsKeyOf s.HasRow userKey login

/-- `users.auth` returns. What it forwards is for an authentic login, and for a
key without one it answers with an error and caches nothing. -/
def AuthSound (J : Codec) (config : Config) (env : Env) (n : State) (sender : Actor) (task : Task)
    (userKey : String) : Prop :=
  ∃ n' out,
    handle J config env n { dest := .users, sender, command := "auth", body := .task task } =
      .ok (n', out) ∧
    (∀ e ∈ out, ∀ task', e.dest = .router → e.command = "service" → e.body = .task task' →
      Authentic config n.services.users userKey (task'.stored "user.login")) ∧
    ((∀ login, ¬ Authentic config n.services.users userKey login) →
      (∃ what, out = [((program J config).ctx n .users).response J .ws (Users.noted task userKey)
        (.failed what)]) ∧
      n'.services.users.usersAuth = n.services.users.usersAuth)

/-- The keys that `users.auth` treats as it should: the profile key, any key
while the database throws, and a key of two parts or more that is refused or is
the key of a row. -/
def AuthHolds (config : Config) (env : Env) (s : Users) (userKey : String) : Prop :=
  userKey = config.profileKey ∨ env.db.isSome ∨
    ∃ first second rest, split userKey = first :: second :: rest ∧
      (second ≠ (s.select first).2 ∨ rest = [] ∧ s.HasRow first second)

theorem authSound_iff {env : Env} {n : State} (hn : n.contacts = contacts) {sender : Actor}
    {request : RequestMessage} {id serviceName methodName userKey : String}
    (hkey : request.metadata.stringAt "user-key" = .ok userKey)
    (hcached : userKey ∉ n.services.users.usersAuth) :
    AuthSound J config env n sender (Router.task config request id serviceName methodName) userKey ↔
      AuthHolds config env n.services.users userKey := by
  obtain ⟨first, rest, hsplit⟩ := exists_split userKey
  have hcached : n.services.users.isAuth userKey = false := by simpa [Users.isAuth] using hcached
  have hmetadata : (Router.task config request id serviceName methodName).metadataString "user-key" =
      .ok userKey := hkey
  unfold AuthSound
  rw [handle_auth hn hmetadata hsplit]
  simp only [hcached, Bool.false_or, Router.stored_task_profileKey]
  by_cases hprofile : userKey = config.profileKey
  · -- the profile key is forwarded, whatever else is true of it
    refine iff_of_true ⟨n, _, if_pos (by simp [hprofile]), ?_, ?_⟩ (.inl hprofile)
    · intro e he task' _ _ hbody
      rw [List.mem_singleton.mp he] at hbody
      cases hbody
      exact .inl ⟨hprofile, by rw [hsplit]; rfl⟩
    · exact fun hno => absurd (.inl ⟨hprofile, by rw [hsplit]; rfl⟩) (hno first)
  have hadmin : ¬ (config.profileKey == userKey) = true := fun h => hprofile (eq_of_beq h).symm
  rw [if_neg hadmin]
  cases hdb : env.db with
  | some what =>
    refine iff_of_true ⟨n, _, rfl, ?_, fun _ => ⟨⟨what, rfl⟩, rfl⟩⟩ (.inr (.inl (by simp [hdb])))
    intro e he task' hdest
    rw [List.mem_singleton.mp he] at hdest
    cases hdest
  | none =>
    cases rest with
    | nil =>
      refine iff_of_false (fun ⟨_, _, h, _⟩ => nomatch h) ?_
      rintro (h | h | ⟨first', second, rest', hsplit', -⟩)
      · exact hprofile h
      · simp [hdb] at h
      · rw [hsplit] at hsplit'
        cases hsplit'
    | cons second rest =>
      have hholds : AuthHolds config env n.services.users userKey ↔
          second ≠ (n.services.users.select first).2 ∨
            rest = [] ∧ n.services.users.HasRow first second := by
        simp [AuthHolds, hprofile, hdb, hsplit]
      rw [hholds]
      simp only [List.head?_cons, beq_iff_eq]
      by_cases hpassword : second = (n.services.users.select first).2
      · rw [if_pos hpassword]
        have hauthentic : Authentic config n.services.users userKey first ↔
            rest = [] ∧ n.services.users.HasRow first second := by
          rw [← isKeyOf_first_iff (R := n.services.users.HasRow)
            (fun _ _ => Users.select_of_hasRow) hsplit hpassword]
          simp [Authentic, hprofile]
        simp only [hpassword, ne_eq, not_true_eq_false, false_or]
        rw [← hpassword, ← hauthentic]
        constructor
        · rintro ⟨n', out, h, hsound, -⟩
          cases h
          exact hsound _ (List.mem_singleton_self _) _ rfl rfl rfl
        · intro hfirst
          refine ⟨_, _, rfl, ?_, fun hno => absurd hfirst (hno first)⟩
          intro e he task' _ _ hbody
          rw [List.mem_singleton.mp he] at hbody
          cases hbody
          exact hfirst
      · rw [if_neg hpassword]
        refine iff_of_true ⟨n, _, rfl, ?_, fun _ => ⟨⟨_, rfl⟩, rfl⟩⟩ (.inl hpassword)
        intro e he task' hdest
        rw [List.mem_singleton.mp he] at hdest
        cases hdest

end Manager

/-! ## The platform -/

namespace Platform

variable {J : Codec} {managerKey : String}

namespace Profile

/-- The profile table has this login, with this password. -/
def HasRow (s : Profile) (login password : String) : Prop :=
  ∃ row ∈ s.table.rows, row.login.val = login ∧ row.password.val = password

theorem select_of_hasRow {s : Profile} {login password : String} (h : s.HasRow login password) :
    (s.select login).2 = password := by
  obtain ⟨row, hrow, rfl, rfl⟩ := h
  have hfind : s.table.find? (.bind row.login.val) = some row :=
    Keyed.find?_eq_some_iff.mpr ⟨hrow, (Text.bind_val row.login).symm⟩
  rw [select, hfind]

end Profile

/-- `profile.auth` returns. What it forwards is for the login of the key's row,
and for a key of no row it answers with an error and caches nothing. -/
def AuthSound (J : Codec) (managerKey : String) (env : Env) (n : State) (sender : Actor)
    (task : Task) (profileKey : String) : Prop :=
  ∃ n' out,
    handle J managerKey env n { dest := .profile, sender, command := "auth", body := .task task } =
      .ok (n', out) ∧
    (∀ e ∈ out, ∀ task', e.dest = .router → e.command = "service" → e.body = .task task' →
      IsKeyOf n.services.profile.HasRow profileKey (task'.stored "profile.login")) ∧
    ((∀ login, ¬ IsKeyOf n.services.profile.HasRow profileKey login) →
      (∃ what, out = [((program J managerKey).ctx n .profile).response J .ws task (.failed what)]) ∧
      n'.services.profile.profilesAuth = n.services.profile.profilesAuth)

/-- The keys that `profile.auth` treats as it should: any key while the database
throws, and a key of two parts or more that is refused or is the key of a row. -/
def AuthHolds (env : Env) (s : Profile) (profileKey : String) : Prop :=
  env.db.isSome ∨
    ∃ first second rest, split profileKey = first :: second :: rest ∧
      (second ≠ (s.select first).2 ∨ rest = [] ∧ s.HasRow first second)

theorem authSound_iff {env : Env} {n : State} (hn : n.contacts = contacts) {sender : Actor}
    {request : RequestMessage} {id serviceName methodName profileKey : String}
    (hkey : request.metadata.stringAt "profile-key" = .ok profileKey)
    (hcached : profileKey ∉ n.services.profile.profilesAuth) :
    AuthSound J managerKey env n sender (Router.task request id serviceName methodName) profileKey ↔
      AuthHolds env n.services.profile profileKey := by
  obtain ⟨first, rest, hsplit⟩ := exists_split profileKey
  have hcached : n.services.profile.isAuth profileKey = false := by
    simpa [Profile.isAuth] using hcached
  have hmetadata : (Router.task request id serviceName methodName).metadataString "profile-key" =
      .ok profileKey := hkey
  unfold AuthSound
  rw [handle_auth hn hmetadata hsplit]
  simp only [hcached, Bool.false_eq_true, if_false]
  cases hdb : env.db with
  | some what =>
    refine iff_of_true ⟨n, _, rfl, ?_, fun _ => ⟨⟨what, rfl⟩, rfl⟩⟩ (.inl (by simp [hdb]))
    intro e he task' hdest
    rw [List.mem_singleton.mp he] at hdest
    cases hdest
  | none =>
    cases rest with
    | nil =>
      refine iff_of_false (fun ⟨_, _, h, _⟩ => nomatch h) ?_
      rintro (h | ⟨first', second, rest', hsplit', -⟩)
      · simp [hdb] at h
      · rw [hsplit] at hsplit'
        cases hsplit'
    | cons second rest =>
      have hholds : AuthHolds env n.services.profile profileKey ↔
          second ≠ (n.services.profile.select first).2 ∨
            rest = [] ∧ n.services.profile.HasRow first second := by
        simp [AuthHolds, hdb, hsplit]
      rw [hholds]
      simp only [List.head?_cons, beq_iff_eq]
      by_cases hpassword : second = (n.services.profile.select first).2
      · rw [if_pos hpassword]
        have hkeyOf := isKeyOf_first_iff (R := n.services.profile.HasRow)
          (fun _ _ => Profile.select_of_hasRow) hsplit hpassword
        simp only [hpassword, ne_eq, not_true_eq_false, false_or]
        rw [← hpassword, ← hkeyOf]
        constructor
        · rintro ⟨n', out, h, hsound, -⟩
          cases h
          exact hsound _ (List.mem_singleton_self _) _ rfl rfl rfl
        · intro hfirst
          refine ⟨_, _, rfl, ?_, fun hno => absurd hfirst (hno first)⟩
          intro e he task' _ _ hbody
          rw [List.mem_singleton.mp he] at hbody
          cases hbody
          exact hfirst
      · rw [if_neg hpassword]
        refine iff_of_true ⟨n, _, rfl, ?_, fun _ => ⟨⟨_, rfl⟩, rfl⟩⟩ (.inl hpassword)
        intro e he task' hdest
        rw [List.mem_singleton.mp he] at hdest
        cases hdest

end Platform

/-! ## Both programs -/

/-- For a key that is not cached, whatever the tables hold, the handlers are
sound exactly when the key is one of those they treat as they should. -/
theorem authentication_sound_iff (J : Codec) :
    (∀ config env n sender request id serviceName methodName userKey,
      n.contacts = Manager.contacts → request.metadata.stringAt "user-key" = .ok userKey →
      userKey ∉ n.services.users.usersAuth →
      (Manager.AuthSound J config env n sender
          (Manager.Router.task config request id serviceName methodName) userKey ↔
        Manager.AuthHolds config env n.services.users userKey)) ∧
    (∀ managerKey env n sender request id serviceName methodName profileKey,
      n.contacts = Platform.contacts → request.metadata.stringAt "profile-key" = .ok profileKey →
      profileKey ∉ n.services.profile.profilesAuth →
      (Platform.AuthSound J managerKey env n sender
          (Platform.Router.task request id serviceName methodName) profileKey ↔
        Platform.AuthHolds env n.services.profile profileKey)) :=
  ⟨fun _ _ _ _ _ _ _ _ _ hn hkey hcached => Manager.authSound_iff hn hkey hcached,
    fun _ _ _ _ _ _ _ _ _ hn hkey hcached => Platform.authSound_iff hn hkey hcached⟩

/-- A request with the key of a login that nobody has, and no password. -/
def unknownLogin : RequestMessage where
  id := .integer 1
  method := "devices.list"
  params := .null
  metadata := [("user-key", .string "x."), ("profile-key", .string "x.")]

theorem authentication_sound_iff_unknownLogin :
    (Manager.AuthSound Codec.api ⟨"p.q", "m"⟩ .calm Manager.blank .router
        (Manager.Router.task ⟨"p.q", "m"⟩ unknownLogin "s" "devices" "list") "x." ↔
      Manager.AuthHolds ⟨"p.q", "m"⟩ .calm Manager.blank.services.users "x.") ∧
    (Platform.AuthSound Codec.api "" .calm Platform.blank .router
        (Platform.Router.task unknownLogin "s" "devices" "list") "x." ↔
      Platform.AuthHolds .calm Platform.blank.services.profile "x.") :=
  ⟨(authentication_sound_iff Codec.api).1 _ _ _ _ _ _ _ _ _ rfl rfl (AList.notMem_empty _),
    (authentication_sound_iff Codec.api).2 _ _ _ _ _ _ _ _ _ rfl rfl (AList.notMem_empty _)⟩

/-- With no users at all, the key is forwarded. -/
theorem unknownLogin_not_sound :
    ¬ Manager.AuthSound Codec.api ⟨"p.q", "m"⟩ .calm Manager.blank .router
      (Manager.Router.task ⟨"p.q", "m"⟩ unknownLogin "s" "devices" "list") "x." := by
  rw [Manager.authSound_iff rfl rfl (AList.notMem_empty _)]
  rintro (h | h | ⟨first, second, rest, hsplit, hcases⟩)
  · exact absurd h (by decide)
  · exact absurd h (by decide)
  · have hparts : split "x." = ["x", ""] := by decide
    rw [hparts] at hsplit
    cases hsplit
    rcases hcases with h | ⟨-, row, hrow, -⟩
    · exact h rfl
    · cases hrow

end StreamCloud
