-- SUMMARY: When the key that a login is answered with is accepted for that login.
import StreamCloud.Manager.Flow
import StreamCloud.Platform.Flow
import StreamCloud.Api.JsonSorted

/-!
# Keys of logins

`login` joins a login and its password with a dot, and `auth` takes the first
two of the parts between all dots. The two agree on texts without dots.
-/

namespace StreamCloud

/-! ## Joining and splitting -/

theorem split_of_dotFree {s : String} (h : DotFree s) : split s = [s] :=
  split_eq_of_intercalate (by simp) (by simpa using h) (by simp [List.intercalate])

/-- The first part of a text is the whole of it. -/
theorem head?_split_iff {s : String} : (split s).head? = some s ↔ DotFree s := by
  constructor
  · intro h
    exact dotFree_of_mem_split (List.mem_of_mem_head? h)
  · intro h
    rw [split_of_dotFree h]
    rfl

/-- What was joined in front of a dot is the first part. -/
theorem head?_split_append {a s : String} : (split (a ++ "." ++ s)).head? = some a ↔ DotFree a := by
  constructor
  · intro h
    exact dotFree_of_mem_split (List.mem_of_mem_head? h)
  · intro h
    rw [split_append_dot h]
    rfl

/-- A text is bound as it is exactly when it has no null character. -/
theorem Text.val_bind_iff {s : String} : (Text.bind s).val = s ↔ '\x00' ∉ s.toList := by
  constructor
  · intro h
    rw [← h]
    exact (Text.bind s).noNul
  · intro h
    exact ((Text.bind_eq_iff h (t := ⟨s, h⟩)).mpr rfl) ▸ rfl

theorem DotFree.bind {s : String} (h : DotFree s) : DotFree (Text.bind s).val := by
  rw [DotFree, Text.bind, String.toList_ofList]
  exact fun hmem => h ((List.takeWhile_sublist _).subset hmem)

/-- A response, as its session reads it. -/
def ReadsResult {α : Type} (e : Envelope α) (result : JsonValue) : Prop :=
  ∃ ws message, e.body = .transport (.webSocket ws) ∧ Codec.api.parse ws.body = .ok message ∧
    message.get "result" = result

theorem readsResult_response {α : Type} {ctx : Ctx α} {ws : α} {task : Task} {reply : Reply}
    {result : JsonValue} :
    ReadsResult (ctx.response Codec.api ws task reply) result ↔ result = reply.result.reread := by
  have hget (msg : ResponseMessage) : msg.toMap.reread.get "result" = msg.result.reread := by
    rw [JsonMap.get, JsonMap.find?_reread_of_nodup msg.nodup_toMap, msg.find?_toMap_result]
    rfl
  constructor
  · rintro ⟨_, message, hbody, hparse, rfl⟩
    cases hbody
    rw [ResponseMessage.serialize, Codec.api_roundTrip] at hparse
    cases hparse
    exact hget _
  · rintro rfl
    exact ⟨_, _, rfl, Codec.api_roundTrip _, hget _⟩

theorem JsonMap.nodup_ofMembers (members : List (String × JsonValue)) :
    ((JsonMap.ofMembers members).map Prod.fst).Nodup := by
  have hfold : ∀ m : JsonMap, (m.map Prod.fst).Pairwise (· < ·) →
      ((members.foldl (fun m p => m.set p.1 p.2) m).map Prod.fst).Pairwise (· < ·) := by
    induction members with
    | nil => exact fun m hm => hm
    | cons p members ih => exact fun m hm => ih _ (JsonMap.pairwise_set hm p.1 p.2)
  exact (hfold [] List.Pairwise.nil).imp fun h => ne_of_lt h

/-! ## The manager -/

namespace Manager

variable {config : Config}

/-- The reply of `login` to a login and a password. -/
theorem Users.login_cases {α : Type} {env : Env} {ctx : Ctx α} {s s' : Users} {task : Task}
    {out : List (Envelope α)} (h : Users.login Codec.api env ctx s task = .ok (s', out)) :
    ∃ login password reply, task.paramString "login" = .ok login ∧
      task.paramString "password" = .ok password ∧ ctx.respond Codec.api task reply = .ok out ∧
      (reply.result = .null ∨
        env.db = none ∧
          (password = (s.select login).2 ∨ task.stored "profile.key" = login ++ "." ++ password) ∧
          ∃ admin, reply.result = .map (JsonMap.ofMembers [("key", .string (login ++ "." ++ password)),
            ("login", .string login), ("admin", .boolean admin)])) := by
  obtain ⟨⟨login, password⟩, reply, hread, hreply, hout⟩ := Ctx.answer_eq_ok.mp h
  obtain ⟨_, hlogin, hread⟩ := Except.bind_eq_ok.mp hread
  obtain ⟨_, hpassword, hread⟩ := Except.bind_eq_ok.mp hread
  cases hread
  refine ⟨login, password, reply, hlogin, hpassword, hout, ?_⟩
  dsimp only at hreply
  split at hreply
  · rcases catchStd_eq_ok.mp hreply with hreply | ⟨what, -, hfailed⟩
    · obtain ⟨_, hdb, hreply⟩ := Except.bind_eq_ok.mp hreply
      split at hreply
      · next haccepted =>
        cases hreply
        exact .inr ⟨Db.execute_eq_ok.mp hdb, by simpa using haccepted, _, rfl⟩
      · cases hreply
        exact .inl rfl
    · cases hfailed
      exact .inl rfl
  · cases hreply
    exact .inl rfl

/-- The answer to a login, as its session reads it, holds this key. -/
def AnswersKey (config : Config) (env : Env) (n : State) (sender : Actor) (task : Task)
    (userKey : String) : Prop :=
  ∃ n' out, ∃ result : JsonMap, handle Codec.api config env n
      { dest := .users, sender, command := "login", body := .task task } = .ok (n', out) ∧
    (∃ e ∈ out, ReadsResult e (.map result)) ∧ result.find? "key" = some (.string userKey)

/-- A key that is accepted for a login: the task that presents it goes on, with
the login noted on it. -/
def AcceptsAs (config : Config) (env : Env) (n : State) (sender : Actor) (task : Task)
    (login : String) : Prop :=
  ∃ n' out task', handle Codec.api config env n
      { dest := .users, sender, command := "auth", body := .task task } = .ok (n', out) ∧
    { dest := .router, sender := .users, command := "service", body := .task task' } ∈ out ∧
    task'.stored "user.login" = login

/-- A key in an answer is made of the login and the password that were given. -/
theorem AnswersKey.joined {env : Env} {n : State} {sender : Actor} {task : Task}
    {login password userKey : String} (h : AnswersKey config env n sender task userKey)
    (hlogin : task.paramString "login" = .ok login)
    (hpassword : task.paramString "password" = .ok password) :
    userKey = login ++ "." ++ password ∧ env.db = none ∧
      (password = (n.services.users.select login).2 ∨ task.stored "profile.key" = userKey) := by
  obtain ⟨n', out, result, hhandle, ⟨e, he, hresult⟩, hkey⟩ := h
  rw [handle, Program.handle_task rfl rfl, map_eq_ok] at hhandle
  obtain ⟨component, hrun, -⟩ := hhandle
  obtain ⟨login', password', reply, hlogin', hpassword', hout, hreply⟩ := Users.login_cases hrun
  cases hlogin.symm.trans hlogin'
  cases hpassword.symm.trans hpassword'
  obtain ⟨server, -, rfl⟩ := Ctx.writeTo_eq_ok.mp hout
  obtain rfl := List.mem_singleton.mp he
  have hread := readsResult_response.mp hresult
  rcases hreply with hnull | ⟨hdb, haccepted, admin, hreply⟩
  · rw [hnull] at hread
    cases hread
  · rw [hreply] at hread
    obtain rfl : result = JsonMap.reread _ := JsonValue.map.inj hread
    have hmembers : (JsonMap.ofMembers [("key", .string (login ++ "." ++ password)),
        ("login", .string login), ("admin", .boolean admin)]).reread.find? "key" =
        some (.string (login ++ "." ++ password)) := by
      rw [JsonMap.find?_reread_of_nodup (JsonMap.nodup_ofMembers _)]
      simp [JsonMap.ofMembers, JsonMap.find?_set, JsonValue.reread]
    obtain rfl : userKey = login ++ "." ++ password := by
      rw [hmembers] at hkey
      cases hkey
      rfl
    exact ⟨rfl, hdb, haccepted⟩

/-- A key is accepted for its first part only. -/
theorem AcceptsAs.head?_split {env : Env} {n : State} (hn : n.contacts = contacts) {sender : Actor}
    {request : RequestMessage} {id serviceName methodName login userKey : String}
    (hkey : request.metadata.stringAt "user-key" = .ok userKey)
    (h : AcceptsAs config env n sender (Router.task config request id serviceName methodName) login) :
    (split userKey).head? = some login := by
  obtain ⟨n', out, task', hhandle, hmem, rfl⟩ := h
  rw [handle, Program.handle_task rfl rfl, map_eq_ok] at hhandle
  obtain ⟨component, hrun, -⟩ := hhandle
  obtain ⟨userKey', first, rest, hkey', hsplit, hbody⟩ := Users.auth_service Codec.api
    (lookup_of_wired hn rfl) (lookup_of_wired hn rfl) hrun hmem rfl
  cases hkey.symm.trans hkey'
  cases hbody
  rw [hsplit]
  rfl

/-- A key that `login` made is accepted for its login exactly when the login has
no dot, and the password has none either or is not looked at. -/
theorem acceptsAs_iff {env : Env} {n : State} (hn : n.contacts = contacts) {sender : Actor}
    {request : RequestMessage} {id serviceName methodName login password : String}
    (hkey : request.metadata.stringAt "user-key" = .ok (login ++ "." ++ password))
    (hdb : env.db = none) (hlogin : password = (n.services.users.select login).2 ∨
      config.profileKey = login ++ "." ++ password) :
    AcceptsAs config env n sender (Router.task config request id serviceName methodName) login ↔
      DotFree login ∧ (DotFree password ∨ login ++ "." ++ password = config.profileKey ∨
        login ++ "." ++ password ∈ n.services.users.usersAuth) := by
  by_cases hdot : DotFree login
  swap
  · refine iff_of_false (fun h => hdot ?_) fun h => hdot h.1
    exact head?_split_append.mp (h.head?_split hn hkey)
  obtain ⟨second, rest, hpassword⟩ := exists_split password
  have hsplit : split (login ++ "." ++ password) = login :: second :: rest := by
    rw [split_append_dot hdot, hpassword]
  have hmetadata : (Router.task config request id serviceName methodName).metadataString "user-key" =
      .ok (login ++ "." ++ password) := hkey
  have hsecond : second = password ↔ DotFree password := by
    rw [← head?_split_iff, hpassword]
    simp
  unfold AcceptsAs
  rw [handle_auth hn hmetadata hsplit]
  simp only [Router.stored_task_profileKey, hdb, List.head?_cons, Users.isAuth]
  split
  · next hknown =>
    refine iff_of_true ⟨_, _, _, rfl, List.mem_singleton_self _, rfl⟩ ⟨hdot, .inr ?_⟩
    rcases (Bool.or_eq_true _ _).mp hknown with hcached | hprofile
    · exact .inr (of_decide_eq_true hcached)
    · exact .inl (eq_of_beq hprofile).symm
  · next hunknown =>
    rw [Bool.or_eq_true, not_or] at hunknown
    have hcached : login ++ "." ++ password ∉ n.services.users.usersAuth :=
      fun h => hunknown.1 (decide_eq_true h)
    have hprofile : config.profileKey ≠ login ++ "." ++ password :=
      fun h => hunknown.2 (beq_iff_eq.mpr h)
    have hselect := hlogin.resolve_right hprofile
    split
    · next haccepted =>
      have hfree : DotFree password := hsecond.mp ((eq_of_beq haccepted).trans hselect.symm)
      exact iff_of_true ⟨_, _, _, rfl, List.mem_singleton_self _, rfl⟩ ⟨hdot, .inl hfree⟩
    · next hrefused =>
      refine iff_of_false ?_ ?_
      · rintro ⟨_, _, _, hout, hmem, -⟩
        cases hout
        cases List.mem_singleton.mp hmem
      · rintro ⟨-, h | h | h⟩
        · exact hrefused (beq_iff_eq.mpr ((hsecond.mpr h).trans hselect))
        · exact hprofile h.symm
        · exact hcached h

/-- `users.login` answers this login and this password with this key. -/
def LogsIn (config : Config) (env : Env) (n : State) (login password userKey : String) : Prop :=
  ∃ sender task, task.stored "profile.key" = config.profileKey ∧
    task.paramString "login" = .ok login ∧ task.paramString "password" = .ok password ∧
    AnswersKey config env n sender task userKey

/-- Every request with this key is accepted for this login. -/
def Admits (config : Config) (env : Env) (n : State) (userKey login : String) : Prop :=
  ∀ sender request id serviceName methodName, request.metadata.stringAt "user-key" = .ok userKey →
    AcceptsAs config env n sender (Router.task config request id serviceName methodName) login

theorem admits_iff {env : Env} {n : State} (hn : n.contacts = contacts)
    {login password userKey : String} (h : LogsIn config env n login password userKey) :
    Admits config env n userKey login ↔
      DotFree login ∧ (DotFree password ∨ userKey = config.profileKey ∨
        userKey ∈ n.services.users.usersAuth) := by
  obtain ⟨sender, task, hprofile, hlogin, hpassword, hanswers⟩ := h
  obtain ⟨rfl, hdb, haccepted⟩ := hanswers.joined hlogin hpassword
  rw [hprofile] at haccepted
  constructor
  · intro hadmits
    let request : RequestMessage := {
      id := .null
      method := ""
      params := .null
      metadata := [("user-key", .string (login ++ "." ++ password))] }
    have hkey : request.metadata.stringAt "user-key" = .ok (login ++ "." ++ password) := rfl
    exact (acceptsAs_iff hn hkey hdb haccepted).mp (hadmits .router request "" "" "" hkey)
  · exact fun hfree _ _ _ _ _ hkey => (acceptsAs_iff hn hkey hdb haccepted).mpr hfree

end Manager

/-! ## The platform -/

namespace Platform

variable {managerKey : String}

theorem Profile.select_fst {s : Profile} {login : String} (h : (s.select login).2 ≠ "") :
    (s.select login).1 = (Text.bind login).val := by
  unfold Profile.select at h ⊢
  split
  · next row hrow => exact congrArg Text.val (Keyed.find?_eq_some_iff.mp hrow).2
  · next hrow =>
    rw [hrow] at h
    exact absurd rfl h

/-- The reply of `login` to a login and a password. -/
theorem Profile.login_cases {α : Type} {env : Env} {ctx : Ctx α} {s s' : Profile} {task : Task}
    {out : List (Envelope α)} (h : Profile.login Codec.api env ctx s task = .ok (s', out)) :
    ∃ login password reply, task.paramString "login" = .ok login ∧
      task.paramString "password" = .ok password ∧ ctx.respond Codec.api task reply = .ok out ∧
      (reply.result = .null ∨
        env.db = none ∧ password = (s.select login).2 ∧
          reply.result = .string ((Text.bind login).val ++ "." ++ password)) := by
  obtain ⟨⟨login, password⟩, reply, hread, hreply, hout⟩ := Ctx.answer_eq_ok.mp h
  obtain ⟨_, hlogin, hread⟩ := Except.bind_eq_ok.mp hread
  obtain ⟨_, hpassword, hread⟩ := Except.bind_eq_ok.mp hread
  cases hread
  refine ⟨login, password, reply, hlogin, hpassword, hout, ?_⟩
  dsimp only at hreply
  split at hreply
  · next hvalid =>
    obtain ⟨-, hne⟩ : login ≠ "" ∧ password ≠ "" := by simpa using hvalid
    rcases catchStd_eq_ok.mp hreply with hreply | ⟨what, -, hfailed⟩
    · obtain ⟨_, hdb, hreply⟩ := Except.bind_eq_ok.mp hreply
      split at hreply
      · next haccepted =>
        have hselect : password = (s.select login).2 := eq_of_beq haccepted
        cases hreply
        refine .inr ⟨Db.execute_eq_ok.mp hdb, hselect, ?_⟩
        rw [← Profile.select_fst (hselect ▸ hne), hselect]
        rfl
      · cases hreply
        exact .inl rfl
    · cases hfailed
      exact .inl rfl
  · cases hreply
    exact .inl rfl

/-- The answer to a login, as its session reads it, is this key. -/
def AnswersKey (managerKey : String) (env : Env) (n : State) (sender : Actor) (task : Task)
    (profileKey : String) : Prop :=
  ∃ n' out, handle Codec.api managerKey env n
      { dest := .profile, sender, command := "login", body := .task task } = .ok (n', out) ∧
    ∃ e ∈ out, ReadsResult e (.string profileKey)

/-- A key that is accepted for a login: the task that presents it goes on, with
the login noted on it. -/
def AcceptsAs (managerKey : String) (env : Env) (n : State) (sender : Actor) (task : Task)
    (login : String) : Prop :=
  ∃ n' out task', handle Codec.api managerKey env n
      { dest := .profile, sender, command := "auth", body := .task task } = .ok (n', out) ∧
    { dest := .router, sender := .profile, command := "service", body := .task task' } ∈ out ∧
    task'.stored "profile.login" = login

/-- A key in an answer is made of the login, as it is bound, and the password
that were given. -/
theorem AnswersKey.joined {env : Env} {n : State} {sender : Actor} {task : Task}
    {login password profileKey : String} (h : AnswersKey managerKey env n sender task profileKey)
    (hlogin : task.paramString "login" = .ok login)
    (hpassword : task.paramString "password" = .ok password) :
    profileKey = (Text.bind login).val ++ "." ++ password ∧ env.db = none ∧
      password = (n.services.profile.select login).2 := by
  obtain ⟨n', out, hhandle, e, he, hresult⟩ := h
  rw [handle, Program.handle_task rfl rfl, map_eq_ok] at hhandle
  obtain ⟨component, hrun, -⟩ := hhandle
  obtain ⟨login', password', reply, hlogin', hpassword', hout, hreply⟩ := Profile.login_cases hrun
  cases hlogin.symm.trans hlogin'
  cases hpassword.symm.trans hpassword'
  obtain ⟨server, -, rfl⟩ := Ctx.writeTo_eq_ok.mp hout
  obtain rfl := List.mem_singleton.mp he
  have hread := readsResult_response.mp hresult
  rcases hreply with hnull | ⟨hdb, haccepted, hreply⟩
  · rw [hnull] at hread
    cases hread
  · rw [hreply] at hread
    cases hread
    exact ⟨rfl, hdb, haccepted⟩

/-- A key is accepted for its first part only. -/
theorem AcceptsAs.head?_split {env : Env} {n : State} (hn : n.contacts = contacts) {sender : Actor}
    {request : RequestMessage} {id serviceName methodName login profileKey : String}
    (hkey : request.metadata.stringAt "profile-key" = .ok profileKey)
    (h : AcceptsAs managerKey env n sender (Router.task request id serviceName methodName) login) :
    (split profileKey).head? = some login := by
  obtain ⟨n', out, task', hhandle, hmem, rfl⟩ := h
  rw [handle, Program.handle_task rfl rfl, map_eq_ok] at hhandle
  obtain ⟨component, hrun, -⟩ := hhandle
  obtain ⟨profileKey', first, rest, hkey', hsplit, hbody⟩ := Profile.auth_service Codec.api
    (lookup_of_wired hn rfl) (lookup_of_wired hn rfl) hrun hmem rfl
  cases hkey.symm.trans hkey'
  cases hbody
  rw [hsplit]
  rfl

/-- A key that `login` made is accepted for its login exactly when the login has
no dot and no null character, and the password has no dot either or is not
looked at. -/
theorem acceptsAs_iff {env : Env} {n : State} (hn : n.contacts = contacts) {sender : Actor}
    {request : RequestMessage} {id serviceName methodName login password profileKey : String}
    (hkey : request.metadata.stringAt "profile-key" = .ok profileKey)
    (hjoined : profileKey = (Text.bind login).val ++ "." ++ password) (hdb : env.db = none)
    (hlogin : password = (n.services.profile.select login).2) :
    AcceptsAs managerKey env n sender (Router.task request id serviceName methodName) login ↔
      (DotFree login ∧ '\x00' ∉ login.toList) ∧
        (DotFree password ∨ profileKey ∈ n.services.profile.profilesAuth) := by
  by_cases hdot : DotFree login
  swap
  · refine iff_of_false (fun h => hdot ?_) fun h => hdot h.1.1
    exact dotFree_of_mem_split (List.mem_of_mem_head? (h.head?_split hn hkey))
  obtain ⟨second, rest, hpassword⟩ := exists_split password
  have hsplit : split profileKey = (Text.bind login).val :: second :: rest := by
    rw [hjoined, split_append_dot hdot.bind, hpassword]
  by_cases hnul : '\x00' ∈ login.toList
  · refine iff_of_false (fun h => ?_) fun h => h.1.2 hnul
    have hfirst := h.head?_split hn hkey
    rw [hsplit] at hfirst
    exact Text.val_bind_iff.mp (Option.some.inj hfirst) hnul
  rw [Text.val_bind_iff.mpr hnul] at hsplit
  have hmetadata : (Router.task request id serviceName methodName).metadataString "profile-key" =
      .ok profileKey := hkey
  have hsecond : second = password ↔ DotFree password := by
    rw [← head?_split_iff, hpassword]
    simp
  unfold AcceptsAs
  rw [handle_auth hn hmetadata hsplit]
  simp only [hdb, List.head?_cons, Profile.isAuth]
  split
  · next hcached =>
    exact iff_of_true ⟨_, _, _, rfl, List.mem_singleton_self _, rfl⟩
      ⟨⟨hdot, hnul⟩, .inr (of_decide_eq_true hcached)⟩
  · next hcached =>
    split
    · next haccepted =>
      have hfree : DotFree password := hsecond.mp ((eq_of_beq haccepted).trans hlogin.symm)
      exact iff_of_true ⟨_, _, _, rfl, List.mem_singleton_self _, rfl⟩ ⟨⟨hdot, hnul⟩, .inl hfree⟩
    · next hrefused =>
      refine iff_of_false ?_ ?_
      · rintro ⟨_, _, _, hout, hmem, -⟩
        cases hout
        cases List.mem_singleton.mp hmem
      · rintro ⟨-, h | h⟩
        · exact hrefused (beq_iff_eq.mpr ((hsecond.mpr h).trans hlogin))
        · exact hcached (decide_eq_true h)

/-- `profile.login` answers this login and this password with this key. -/
def LogsIn (managerKey : String) (env : Env) (n : State) (login password profileKey : String) :
    Prop :=
  ∃ sender task, task.paramString "login" = .ok login ∧
    task.paramString "password" = .ok password ∧ AnswersKey managerKey env n sender task profileKey

/-- Every request with this key is accepted for this login. -/
def Admits (managerKey : String) (env : Env) (n : State) (profileKey login : String) : Prop :=
  ∀ sender request id serviceName methodName,
    request.metadata.stringAt "profile-key" = .ok profileKey →
    AcceptsAs managerKey env n sender (Router.task request id serviceName methodName) login

theorem admits_iff {env : Env} {n : State} (hn : n.contacts = contacts)
    {login password profileKey : String} (h : LogsIn managerKey env n login password profileKey) :
    Admits managerKey env n profileKey login ↔
      (DotFree login ∧ '\x00' ∉ login.toList) ∧
        (DotFree password ∨ profileKey ∈ n.services.profile.profilesAuth) := by
  obtain ⟨sender, task, hlogin, hpassword, hanswers⟩ := h
  obtain ⟨hjoined, hdb, haccepted⟩ := hanswers.joined hlogin hpassword
  constructor
  · intro hadmits
    let request : RequestMessage := {
      id := .null
      method := ""
      params := .null
      metadata := [("profile-key", .string profileKey)] }
    have hkey : request.metadata.stringAt "profile-key" = .ok profileKey := rfl
    exact (acceptsAs_iff hn hkey hjoined hdb haccepted).mp (hadmits .router request "" "" "" hkey)
  · exact fun hfree _ _ _ _ _ hkey => (acceptsAs_iff hn hkey hjoined hdb haccepted).mpr hfree

end Platform

/-! ## The result -/

/-- The key of a login is accepted for that login exactly when there is no dot in
the login, and none in the password where the password is looked at. The
platform makes its keys of what is in its table, which ends at a null character. -/
theorem login_then_auth_iff (config : Config) (managerKey : String) (env : Env) :
    (∀ (n : Manager.State) (login password userKey : String), n.contacts = Manager.contacts →
      Manager.LogsIn config env n login password userKey →
      (Manager.Admits config env n userKey login ↔
        DotFree login ∧ (DotFree password ∨ userKey = config.profileKey ∨
          userKey ∈ n.services.users.usersAuth))) ∧
    ∀ (n : Platform.State) (login password profileKey : String), n.contacts = Platform.contacts →
      Platform.LogsIn managerKey env n login password profileKey →
      (Platform.Admits managerKey env n profileKey login ↔
        (DotFree login ∧ '\x00' ∉ login.toList) ∧
          (DotFree password ∨ profileKey ∈ n.services.profile.profilesAuth)) :=
  ⟨fun _ _ _ _ hn h => Manager.admits_iff hn h, fun _ _ _ _ hn h => Platform.admits_iff hn h⟩

/-- A user whose password has no dot. -/
def plainUser : Manager.State :=
  { Manager.blank with services := { Manager.blank.services with users := {
      table := { rows := [{ login := .bind "alice", password := .bind "pq" }], nodup := by simp }
      usersAuth := ∅ } } }

/-- A login, for the handler that is named. -/
def loginRequest (method login password : String) : RequestMessage where
  id := .integer 1
  method
  params := .map [("login", .string login), ("password", .string password)]
  metadata := []

/-- The user, and a profile of the platform, log in with keys that are accepted. -/
theorem login_then_auth_iff_plain :
    Manager.LogsIn ⟨"admin.admin", "manager"⟩ .calm plainUser "alice" "pq" "alice.pq" ∧
    Manager.Admits ⟨"admin.admin", "manager"⟩ .calm plainUser "alice.pq" "alice" ∧
    Platform.LogsIn "" .calm Platform.oneProfile "a" "b" "a.b" ∧
    Platform.Admits "" .calm Platform.oneProfile "a.b" "a" := by
  have huser : Manager.LogsIn ⟨"admin.admin", "manager"⟩ .calm plainUser "alice" "pq" "alice.pq" := by
    let task : Task := Manager.Router.task ⟨"admin.admin", "manager"⟩ (loginRequest "users.login" "alice" "pq")
      "s" "users" "login"
    let reply : Reply := .ok (.map (JsonMap.ofMembers [("key", .string "alice.pq"),
      ("login", .string "alice"), ("admin", .boolean false)]))
    have hhandle : Manager.handle Codec.api ⟨"admin.admin", "manager"⟩ .calm plainUser
        { dest := .users, sender := .router, command := "login", body := .task task } =
        .ok (plainUser, [((Manager.program Codec.api ⟨"admin.admin", "manager"⟩).ctx plainUser
          .users).response Codec.api .ws task reply]) := rfl
    exact ⟨.router, task, rfl, rfl, rfl, _, _, _, hhandle,
      ⟨_, List.mem_singleton_self _, readsResult_response.mpr rfl⟩, by decide⟩
  have hprofile : Platform.LogsIn "" .calm Platform.oneProfile "a" "b" "a.b" := by
    let task : Task := Platform.Router.task (loginRequest "profile.login" "a" "b") "s" "profile" "login"
    let reply : Reply := .ok (.string "a.b")
    have hhandle : Platform.handle Codec.api "" .calm Platform.oneProfile
        { dest := .profile, sender := .router, command := "login", body := .task task } =
        .ok (Platform.oneProfile, [((Platform.program Codec.api "").ctx Platform.oneProfile
          .profile).response Codec.api .ws task reply]) := rfl
    exact ⟨.router, task, rfl, rfl, _, _, hhandle, _, List.mem_singleton_self _, readsResult_response.mpr rfl⟩
  have hiff := login_then_auth_iff ⟨"admin.admin", "manager"⟩ "" .calm
  exact ⟨huser, (hiff.1 _ _ _ _ rfl huser).mpr (by decide), hprofile, (hiff.2 _ _ _ _ rfl hprofile).mpr (by decide)⟩

/-- A user whose password has a dot. -/
def dottedUser : Manager.State :=
  { Manager.blank with services := { Manager.blank.services with users := {
      table := { rows := [{ login := .bind "alice", password := .bind "p.q" }], nodup := by simp }
      usersAuth := ∅ } } }

/-- The task of the user's login. -/
def dottedLogin : Task :=
  Manager.Router.task ⟨"admin.admin", "manager"⟩
    { id := .integer 1
      method := "users.login"
      params := .map [("login", .string "alice"), ("password", .string "p.q")]
      metadata := [] } "s" "users" "login"

/-- The user logs in with a key that is not accepted. -/
theorem dottedUser_locked_out :
    Manager.LogsIn ⟨"admin.admin", "manager"⟩ .calm dottedUser "alice" "p.q" "alice.p.q" ∧
      ¬ Manager.Admits ⟨"admin.admin", "manager"⟩ .calm dottedUser "alice.p.q" "alice" := by
  have hlogs : Manager.LogsIn ⟨"admin.admin", "manager"⟩ .calm dottedUser "alice" "p.q" "alice.p.q" := by
    let reply : Reply := .ok (.map (JsonMap.ofMembers [("key", .string "alice.p.q"),
      ("login", .string "alice"), ("admin", .boolean false)]))
    have hhandle : Manager.handle Codec.api ⟨"admin.admin", "manager"⟩ .calm dottedUser
        { dest := .users, sender := .router, command := "login", body := .task dottedLogin } =
        .ok (dottedUser, [((Manager.program Codec.api ⟨"admin.admin", "manager"⟩).ctx dottedUser
          .users).response Codec.api .ws dottedLogin reply]) := rfl
    exact ⟨.router, dottedLogin, rfl, rfl, rfl, _, _, _, hhandle,
      ⟨_, List.mem_singleton_self _, readsResult_response.mpr rfl⟩, by decide⟩
  refine ⟨hlogs, fun hadmits => ?_⟩
  obtain ⟨-, h | h | h⟩ := (Manager.admits_iff rfl hlogs).mp hadmits
  · exact absurd h (by decide)
  · exact absurd h (by decide)
  · cases h

end StreamCloud
