-- SUMMARY: The managers service of the platform: its registry and the relay between clients and managers.
import StreamCloud.Core.Service

/-!
# managers

`stream-platform/src/managers.cpp`.
-/

namespace StreamCloud.Platform

structure ManagerRow where
  profileLogin : Text
  name : Text
  key : Text
deriving DecidableEq

/-- The managers table, and the sessions of the connected managers. -/
structure Managers where
  table : Keyed ManagerRow Text ManagerRow.key
  managersReg : StringMap String

namespace Managers

variable {α : Type}

def isRegManager (s : Managers) (managerKey : String) : Bool := decide (managerKey ∈ s.managersReg)

/-- `is_reg_manager_id`, which no handler asks for. -/
def isRegManagerId (s : Managers) (id : String) : Bool :=
  s.managersReg.entries.any fun p => p.2 == id

/-- `emplace` leaves what is registered already. -/
def addRegManager (s : Managers) (managerKey transportId : String) : Managers :=
  { s with managersReg := s.managersReg.emplace managerKey transportId }

def removeRegManager (s : Managers) (managerKey : String) : Managers :=
  { s with managersReg := s.managersReg.erase managerKey }

/-- `select count(*) from managers where key = ? and profile_login = ?`. -/
def countOwned (s : Managers) (key profileLogin : Text) : ℕ :=
  (s.table.rows.filter fun row => row.key = key ∧ row.profileLogin = profileLogin).length

variable (J : Codec)

/-- The rest of a `try` behind the point where its result is set. What throws there adds an
error to the result, and leaves what was changed and sent up to this point. -/
def behindResult (s : Managers) (out : List (Envelope α)) (result : JsonValue)
    (rest : Except Fault (Managers × Reply × List (Envelope α))) :
    Except Fault (Managers × Reply × List (Envelope α)) :=
  catchStd rest fun what => return (s, { result, error := some what }, out)

@[simp] theorem behindResult_ok (s : Managers) (out : List (Envelope α)) (result : JsonValue)
    (r : Managers × Reply × List (Envelope α)) : behindResult s out result (.ok r) = .ok r := rfl

/-- Besides the response, the url of the new manager goes to the http server. -/
def add : Handler α Managers Task := fun env ctx s task => do
  let name ← task.paramString "name"
  let profileLogin := task.stored "profile.login"
  let (s, reply, out) ← (if !name.isEmpty && decide (name.length ≤ 6) then
      let key := profileLogin ++ "." ++ name
      catchStd (do
        env.db.execute
        let table ← insertRow s.table
          { profileLogin := .bind profileLogin, name := .bind name, key := .bind key }
        let s := { s with table }
        let result : JsonValue := .map [("key", .string key)]
        behindResult s [] result do
          let url ← ctx.send "http" "add_trusted_url" (.text (profileLogin ++ "/" ++ key))
          return (s, .ok result, url))
        fun what => return (s, .failed what, [])
    else .ok (s, .failed "name manager empty or size > 6", []))
  return (s, out ++ (← ctx.respond J task reply))

theorem behindResult_ensures {s : Managers} {out : List (Envelope α)} {result : JsonValue}
    {rest : Except Fault (Managers × Reply × List (Envelope α))}
    {P : Managers × Reply × List (Envelope α) → Prop}
    (hthrown : ∀ what, P (s, { result, error := some what }, out)) (hrest : rest.Ensures P) :
    (behindResult s out result rest).Ensures P :=
  catchStd_ensures hrest fun what => Except.ensures_ok.mpr (hthrown what)

/-- The names that a manager can be given. -/
def ValidName (name : String) : Prop := name ≠ "" ∧ name.length ≤ 6

/-- The row of a new manager. -/
def newRow (profileLogin name : String) : ManagerRow where
  profileLogin := .bind profileLogin
  name := .bind name
  key := .bind (profileLogin ++ "." ++ name)

/-- What `add` does with a valid name while the database answers. -/
theorem add_eq {env : Env} {ctx : Ctx α} {s : Managers} {task : Task} {name : String} {http ws : α}
    (hname : task.paramString "name" = .ok name) (hvalid : ValidName name) (hdb : env.db = none)
    (hhttp : ctx.contacts.lookup "http" = some http) (hws : ctx.contacts.lookup "ws" = some ws) :
    add J env ctx s task =
      let key := task.stored "profile.login" ++ "." ++ name
      match s.table.insert (newRow (task.stored "profile.login") name) with
      | some table => .ok ({ s with table }, [{
            dest := http
            sender := ctx.self
            command := "add_trusted_url"
            body := .text (task.stored "profile.login" ++ "/" ++ key) },
          ctx.response J ws task (.ok (.map [("key", .string key)]))])
      | none => .ok (s, [ctx.response J ws task (.failed "constraint failed")]) := by
  have hsize : (!name.isEmpty && decide (name.length ≤ 6)) = true := by
    simpa [String.isEmpty_iff, ValidName] using hvalid
  have hrespond : ∀ reply, ctx.respond J task reply = .ok [ctx.response J ws task reply] :=
    fun _ => Ctx.respond_of_contact hws
  unfold add
  simp only [hname, Except.ok_bind', hsize, if_true, hdb, Db.execute, hrespond]
  cases hinsert : s.table.insert (newRow (task.stored "profile.login") name) with
  | none =>
    have hrow : insertRow s.table (newRow (task.stored "profile.login") name) = .error constraintFailed := by
      rw [insertRow, hinsert]
    simp only [newRow] at hrow
    rw [hrow]
    rfl
  | some table =>
    have hrow : insertRow s.table (newRow (task.stored "profile.login") name) = .ok table :=
      insertRow_eq_ok.mpr hinsert
    simp only [newRow] at hrow
    rw [hrow, Except.ok_bind', Ctx.send_of_contact hhttp]
    rfl

/-- What is sent to a manager that is deleted. -/
def disconnectMessage (task : Task) : RequestMessage where
  id := task.request.id
  method := "disconnect"
  params := .null
  metadata := []

def writeDisconnect (ctx : Ctx α) (s : Managers) (task : Task) (key : String) :
    Except Fault (List (Envelope α)) :=
  match s.managersReg.lookup key with
  | some transportId => ctx.writeTo transportId ((disconnectMessage task).serialize J)
  | none => .ok []

/-- A message that can be sent is sent, if there is one. -/
theorem writeDisconnect_returns {ctx : Ctx α} {ws : α} (hws : ctx.contacts.lookup "ws" = some ws) (s : Managers)
    (task : Task) (key : String) : (writeDisconnect J ctx s task key).Returns := by
  unfold writeDisconnect
  split
  · exact ⟨_, Ctx.send_of_contact hws⟩
  · exact ⟨_, rfl⟩

/-- The row is deleted for its owner only, the registration for everybody. -/
def delete : Handler α Managers Task := fun env ctx s task => do
  let key ← task.paramString "key"
  let profileLogin := task.stored "profile.login"
  let (s, reply, out) ← (if !key.isEmpty then
      catchStd (do
        env.db.execute
        -- a key of another profile deletes no row, and is no error
        let table := s.table.delete fun row =>
          row.key = Text.bind key ∧ row.profileLogin = Text.bind profileLogin
        let s := { s with table }
        let result : JsonValue := .boolean true
        behindResult s [] result do
          let url ← ctx.send "http" "remove_trusted_url" (.text (profileLogin ++ "/" ++ key))
          behindResult s url result do
            let message ← writeDisconnect J ctx s task key
            return (s.removeRegManager key, .ok result, url ++ message))
        fun what => return (s, .failed what, [])
    else .ok (s, .failed "key manager empty", []))
  return (s, out ++ (← ctx.respond J task reply))

/-- The table without a row of the profile, and the registry without its key. -/
def deleted (s : Managers) (key profileLogin : String) : Managers :=
  { s with table := s.table.delete fun row =>
      row.key = Text.bind key ∧ row.profileLogin = Text.bind profileLogin }
    |>.removeRegManager key

section Delete

variable {env : Env} {ctx : Ctx α} {s : Managers} {task : Task} {key : String} {http ws : α}
  (hkey : task.paramString "key" = .ok key) (hws : ctx.contacts.lookup "ws" = some ws)
include hkey hws

/-- What `delete` does with a key while the database answers. -/
theorem delete_eq (hne : key ≠ "") (hdb : env.db = none) (hhttp : ctx.contacts.lookup "http" = some http) :
    ∃ message, writeDisconnect J ctx s task key = .ok message ∧
      delete J env ctx s task = .ok (s.deleted key (task.stored "profile.login"), {
          dest := http
          sender := ctx.self
          command := "remove_trusted_url"
          body := .text (task.stored "profile.login" ++ "/" ++ key) } ::
        (message ++ [ctx.response J ws task (.ok (.boolean true))])) := by
  obtain ⟨message, hmessage⟩ := writeDisconnect_returns J hws s task key
  refine ⟨message, hmessage, ?_⟩
  have hvalid : (!key.isEmpty) = true := by simpa using hne
  have htable : ∀ table, writeDisconnect J ctx { s with table } task key = .ok message := fun _ => hmessage
  unfold delete
  simp only [hkey, Except.ok_bind', if_pos hvalid, hdb, Db.execute, Ctx.send_of_contact hhttp, htable,
    Ctx.respond_of_contact hws]
  rfl

/-- Otherwise it only answers. -/
theorem delete_eq_failed (h : key = "" ∨ env.db ≠ none) :
    ∃ what, delete J env ctx s task = .ok (s, [ctx.response J ws task (.failed what)]) := by
  unfold delete
  simp only [hkey, Except.ok_bind', Ctx.respond_of_contact hws]
  by_cases hempty : key = ""
  · subst hempty
    exact ⟨_, rfl⟩
  · obtain ⟨what, hwhat⟩ := Option.ne_none_iff_exists'.mp (h.resolve_left hempty)
    have hvalid : (!key.isEmpty) = true := by simpa using hempty
    simp only [if_pos hvalid, hwhat, Db.execute]
    exact ⟨_, rfl⟩

end Delete

def list : Handler α Managers Task := fun env ctx s task =>
  ctx.answer J task s (.ok ()) (fun _ => true) "" fun _ => do
    env.db.execute
    let rows := s.table.rows.filter fun row => row.profileLogin = Text.bind (task.stored "profile.login")
    let managersList := rows.map fun row =>
      .map (JsonMap.ofMembers [("name", .string row.name.val), ("key", .string row.key.val)])
    return (s, .ok (.array managersList))

/-- The `try` of `connect`. -/
def connectBody (env : Env) (s : Managers) (task : Task) (key : String) :
    Except Fault (Managers × Reply) := do
  env.db.execute
  if 0 < s.countOwned (.bind key) (.bind (task.stored "profile.login")) then
    return (s.addRegManager key task.transportId, .ok (.boolean true))
  else
    return (s, .failed "manager not found")

def connect : Handler α Managers Task := fun env ctx s task =>
  -- an empty key is not refused, but finds no row
  ctx.answer J task s (task.paramString "key") (fun _ => true) "" (connectBody env s task)

/-- Nothing in the `try` throws, so that there is no response. -/
def disconnect : Handler α Managers Task := fun _ _ s task => do
  let key ← task.paramString "key"
  return (s.removeRegManager key, [])

def request : Handler α Managers Task := fun _ ctx s task => do
  let managerKey ← task.metadataString "manager-key"
  match s.managersReg.lookup managerKey with
  | some managerTransportId =>
    let task := task.setMetadata "transport" (.string task.transportId)
    return (s, ← ctx.writeTo managerTransportId (task.request.serialize J))
  | none => return (s, ← ctx.respond J task (.failed "manager not connection"))

/-- The session that the frame came from is not looked at. -/
def response : Handler α Managers Transport := fun _ ctx s transport => do
  let ws ← transport.asWebSocket
  let message ← J.parse ws.body
  let transportsId ← (message.get "metadata").stringAt "transport"
  return (s, ← ctx.writeTo transportsId (J.print (message.erase "metadata")))

def handlers : List (String × Action α Managers) :=
  [("add", .task (add J)), ("delete", .task (delete J)), ("list", .task (list J)),
    ("connect", .task (connect J)), ("disconnect", .task disconnect), ("request", .task (request J)),
    ("response", .transport (response J))]

/-! ## What is sent -/

/-- The messages of each handler of the managers service. -/
inductive Sent : String → String → String → Body α → Prop
  | write (handler : String) (ws : WebSocket) :
      Sent handler "ws" "write" (.transport (.webSocket ws))
  | addUrl (url : String) : Sent "add" "http" "add_trusted_url" (.text url)
  | removeUrl (url : String) : Sent "delete" "http" "remove_trusted_url" (.text url)

variable (env : Env) (ctx : Ctx α) (s : Managers)

/-- A handler that sends what its `try` collected, and then a response. -/
private theorem append_respond_sends {command : String} {task : Task}
    {r : Managers × Reply × List (Envelope α)} (h : ctx.Sends (Sent command) r.2.2) :
    (do return (r.1, r.2.2 ++ (← ctx.respond J task r.2.1)) :
      Except Fault (Managers × List (Envelope α))).Ensures fun r => ctx.Sends (Sent command) r.2 :=
  (Ctx.respond_sends (Sent.write _)).andThen fun _ hout => Except.ensures_ok.mpr (h.append hout)

theorem add_sends (task : Task) :
    (add J env ctx s task).Ensures fun r => ctx.Sends (Sent "add") r.2 := by
  unfold add
  refine Except.ensures_bind.mpr fun name _ => ?_
  refine Except.Ensures.andThen (P := fun r => ctx.Sends (Sent "add") r.2.2) ?_
    fun r hr => append_respond_sends J ctx hr
  refine Except.ensures_ite (fun _ => ?_) fun _ => Except.ensures_ok.mpr Ctx.sends_nil
  refine catchStd_ensures ?_ fun what => Except.ensures_ok.mpr Ctx.sends_nil
  refine Except.ensures_bind.mpr fun _ _ => Except.ensures_bind.mpr fun _ _ => ?_
  refine behindResult_ensures (fun what => Ctx.sends_nil) ?_
  exact (Ctx.send_sends (.addUrl _)).andThen fun out hout => Except.ensures_ok.mpr hout

theorem writeDisconnect_sends (task : Task) (key : String) :
    (writeDisconnect J ctx s task key).Ensures (ctx.Sends (Sent "delete")) := by
  unfold writeDisconnect
  split
  · exact Ctx.writeTo_sends (Sent.write _)
  · exact Except.ensures_ok.mpr Ctx.sends_nil

theorem delete_sends (task : Task) :
    (delete J env ctx s task).Ensures fun r => ctx.Sends (Sent "delete") r.2 := by
  unfold delete
  refine Except.ensures_bind.mpr fun key _ => ?_
  refine Except.Ensures.andThen (P := fun r => ctx.Sends (Sent "delete") r.2.2) ?_
    fun r hr => append_respond_sends J ctx hr
  refine Except.ensures_ite (fun _ => ?_) fun _ => Except.ensures_ok.mpr Ctx.sends_nil
  refine catchStd_ensures ?_ fun what => Except.ensures_ok.mpr Ctx.sends_nil
  refine Except.ensures_bind.mpr fun _ _ => ?_
  refine behindResult_ensures (fun what => Ctx.sends_nil) ?_
  refine (Ctx.send_sends (Sent.removeUrl _)).andThen fun url hurl => ?_
  refine behindResult_ensures (fun what => hurl) ?_
  exact (writeDisconnect_sends J ctx _ task key).andThen fun out hout =>
    Except.ensures_ok.mpr (hurl.append hout)

theorem disconnect_sends (task : Task) :
    (disconnect env ctx s task).Ensures fun r => ctx.Sends (Sent "disconnect") r.2 :=
  Except.ensures_bind.mpr fun _ _ => Except.ensures_ok.mpr Ctx.sends_nil

theorem request_sends (task : Task) :
    (request J env ctx s task).Ensures fun r => ctx.Sends (Sent "request") r.2 := by
  unfold request
  refine Except.ensures_bind.mpr fun managerKey _ => ?_
  dsimp only
  split
  · exact Ctx.send_sends_return (.write _ _)
  · exact Ctx.respond_sends_return (Sent.write _)

theorem response_sends (transport : Transport) :
    (response J env ctx s transport).Ensures fun r => ctx.Sends (Sent "response") r.2 := by
  unfold response
  refine Except.ensures_bind.mpr fun _ _ => Except.ensures_bind.mpr fun _ _ => ?_
  exact Except.ensures_bind.mpr fun _ _ => Ctx.send_sends_return (.write _ _)

variable {env ctx s}

theorem sends {command : String} {action : Action α Managers} {body : Body α}
    {r : Managers × List (Envelope α)} (hmem : (command, action) ∈ handlers J)
    (h : Action.Ran env ctx s action body r) : ctx.Sends (Sent command) r.2 := by
  simp only [handlers, List.mem_cons, Prod.mk.injEq, List.not_mem_nil, or_false] at hmem
  rcases hmem with ⟨rfl, rfl⟩ | ⟨rfl, rfl⟩ | ⟨rfl, rfl⟩ | ⟨rfl, rfl⟩ | ⟨rfl, rfl⟩ | ⟨rfl, rfl⟩ |
    ⟨rfl, rfl⟩ <;> cases h with | _ h
  · exact add_sends J env ctx s _ r h
  · exact delete_sends J env ctx s _ r h
  · exact Ctx.answer_sends (Sent.write _) r h
  · exact Ctx.answer_sends (Sent.write _) r h
  · exact disconnect_sends env ctx s _ r h
  · exact request_sends J env ctx s _ r h
  · exact response_sends J env ctx s _ r h

/-! ## The table and the registry -/

/-- What `connect` does, but for the response. -/
def connectReply (env : Env) (s : Managers) (task : Task) : Except Fault (Managers × Reply) := do
  attempt s (connectBody env s task (← task.paramString "key"))

/-- What a handler can do to the table and the registry, as long as its messages can be sent. -/
inductive Effect (env : Env) (s : Managers) : String → Body α → Managers → Prop
  | keep {command : String} {body : Body α} : Effect env s command body s
  | add {task : Task} {name : String} {table : Keyed ManagerRow Text ManagerRow.key} :
      task.paramString "name" = .ok name →
      s.table.insert {
        profileLogin := .bind (task.stored "profile.login")
        name := .bind name
        key := .bind (task.stored "profile.login" ++ "." ++ name) } = some table →
      Effect env s "add" (.task task) { s with table }
  | delete {task : Task} {key : String} : task.paramString "key" = .ok key → key ≠ "" →
      env.db = none → Effect env s "delete" (.task task) (s.deleted key (task.stored "profile.login"))
  | connect {task : Task} {s' : Managers} {reply : Reply} :
      connectReply env s task = .ok (s', reply) → reply.error = none →
      Effect env s "connect" (.task task) s'
  | disconnect {task : Task} {key : String} : task.paramString "key" = .ok key →
      Effect env s "disconnect" (.task task) (s.removeRegManager key)

variable {J}

theorem connect_eq_ok {s' : Managers} {task : Task} {out : List (Envelope α)} :
    connect J env ctx s task = .ok (s', out) ↔
      ∃ reply, connectReply env s task = .ok (s', reply) ∧ ctx.respond J task reply = .ok out := by
  unfold connect connectReply
  rw [Ctx.answer_eq_ok]
  simp only [if_true, Except.bind_eq_ok]
  constructor
  · rintro ⟨key, reply, hkey, hreply, hout⟩
    exact ⟨reply, ⟨key, hkey, hreply⟩, hout⟩
  · rintro ⟨reply, ⟨key, hkey, hreply⟩, hout⟩
    exact ⟨key, reply, hkey, hreply, hout⟩

/-- A `connect` that is answered with an error leaves the registry alone, any
other one finds a row of the profile and registers the manager. -/
theorem connectReply_cases {s' : Managers} {task : Task} {reply : Reply}
    (h : connectReply env s task = .ok (s', reply)) :
    (reply.error.isSome ∧ s' = s) ∨ (reply.error = none ∧ ∃ key, task.paramString "key" = .ok key ∧
      0 < s.countOwned (.bind key) (.bind (task.stored "profile.login")) ∧
      s' = s.addRegManager key task.transportId) := by
  obtain ⟨key, hkey, hbody⟩ := Except.bind_eq_ok.mp h
  unfold attempt at hbody
  rcases catchStd_eq_ok.mp hbody with hbody | ⟨what, -, hfailed⟩
  · obtain ⟨-, -, hbody⟩ := Except.bind_eq_ok.mp hbody
    split at hbody
    · next howned =>
      cases hbody
      exact .inr ⟨rfl, key, hkey, howned, rfl⟩
    · cases hbody
      exact .inl ⟨rfl, rfl⟩
  · cases hfailed
    exact .inl ⟨rfl, rfl⟩

theorem request_keeps (task : Task) : (request J env ctx s task).Ensures fun r => r.1 = s := by
  unfold request
  refine Except.ensures_bind.mpr fun managerKey _ => ?_
  dsimp only
  split
  · exact Ctx.return_keeps
  · exact Ctx.return_keeps

theorem response_keeps (transport : Transport) :
    (response J env ctx s transport).Ensures fun r => r.1 = s := by
  unfold response
  refine Except.ensures_bind.mpr fun _ _ => Except.ensures_bind.mpr fun _ _ => ?_
  exact Except.ensures_bind.mpr fun _ _ => Ctx.return_keeps

theorem delete_effect {s' : Managers} {task : Task} {out : List (Envelope α)} {http ws : α}
    (hhttp : ctx.contacts.lookup "http" = some http) (hws : ctx.contacts.lookup "ws" = some ws)
    (h : delete J env ctx s task = .ok (s', out)) : s.Effect (α := α) env "delete" (.task task) s' := by
  obtain ⟨key, hkey, -⟩ := Except.bind_eq_ok.mp h
  by_cases hfails : key = "" ∨ env.db ≠ none
  · obtain ⟨what, heq⟩ := delete_eq_failed J (s := s) hkey hws hfails
    obtain ⟨rfl, -⟩ := Prod.mk.inj (Except.ok.inj (heq.symm.trans h))
    exact .keep
  · push Not at hfails
    obtain ⟨message, -, heq⟩ := delete_eq J (s := s) hkey hws hfails.1 hfails.2 hhttp
    obtain ⟨rfl, -⟩ := Prod.mk.inj (Except.ok.inj (heq.symm.trans h))
    exact .delete hkey hfails.1 hfails.2

/-- The inversion lemma of the service: what the handler of a command did to
the table and to the registry. -/
theorem effect {s' : Managers} {command : String} {action : Action α Managers} {body : Body α}
    {out : List (Envelope α)} {http ws : α} (hhttp : ctx.contacts.lookup "http" = some http)
    (hws : ctx.contacts.lookup "ws" = some ws) (hmem : (command, action) ∈ handlers J)
    (h : Action.Ran env ctx s action body (s', out)) : s.Effect env command body s' := by
  have hkeep {command : String} {body : Body α} {s' : Managers} (h : s' = s) :
      s.Effect env command body s' := h ▸ .keep
  simp only [handlers, List.mem_cons, Prod.mk.injEq, List.not_mem_nil, or_false] at hmem
  rcases hmem with ⟨rfl, rfl⟩ | ⟨rfl, rfl⟩ | ⟨rfl, rfl⟩ | ⟨rfl, rfl⟩ | ⟨rfl, rfl⟩ | ⟨rfl, rfl⟩ |
    ⟨rfl, rfl⟩ <;> cases h with | _ h
  · -- add
    obtain ⟨name, hname, h⟩ := Except.bind_eq_ok.mp h
    obtain ⟨⟨s₁, reply, out₁⟩, hbody, h⟩ := Except.bind_eq_ok.mp h
    obtain ⟨_, -, h⟩ := Except.bind_eq_ok.mp h
    obtain ⟨rfl, -⟩ := Prod.mk.inj (Except.ok.inj h)
    split at hbody
    · rcases catchStd_eq_ok.mp hbody with hbody | ⟨what, -, hfailed⟩
      · obtain ⟨-, -, hbody⟩ := Except.bind_eq_ok.mp hbody
        obtain ⟨table, htable, hbody⟩ := Except.bind_eq_ok.mp hbody
        rw [Ctx.send_of_contact hhttp] at hbody
        cases hbody
        exact .add hname (insertRow_eq_ok.mp htable)
      · cases hfailed
        exact .keep
    · cases hbody
      exact .keep
  · exact delete_effect hhttp hws h
  · -- list
    refine Ctx.answer_ensures (Q := s.Effect env "list" (.task _)) .keep (fun _ => ?_) _ h
    exact Except.ensures_bind.mpr fun _ _ => Except.ensures_ok.mpr .keep
  · obtain ⟨reply, hreply, -⟩ := connect_eq_ok.mp h
    rcases connectReply_cases hreply with ⟨-, hs⟩ | ⟨herror, -⟩
    · exact hkeep hs
    · exact .connect hreply herror
  · obtain ⟨key, hkey, h⟩ := Except.bind_eq_ok.mp h
    cases h
    exact .disconnect hkey
  · exact hkeep (request_keeps _ _ h)
  · exact hkeep (response_keeps _ _ h)

end Managers

end StreamCloud.Platform
