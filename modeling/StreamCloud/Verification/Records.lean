-- SUMMARY: The tables of the manager are a store of records, as the answers to its requests say.
import StreamCloud.Verification.Administration
import StreamCloud.Verification.Revocation
import StreamCloud.Library.RecordStore

/-!
# Records

Requests to add, to delete and to list come in any order, and in between anything else
may happen. Their answers are those of one store, which takes each request at a time.
-/

namespace StreamCloud

open RecordStore

/-! ## Answers -/

/-- The result that a text brings, unless it brings an error. -/
def resultOf (text : String) : Option JsonValue :=
  match Codec.api.parse text with
  | .ok m => if m.contains "error" then none else m.find? "result"
  | .error _ => none

/-- The result that is written to a session. -/
def resultFor {α : Type} (id : String) (out : List (Envelope α)) : Option JsonValue :=
  out.findSome? fun e =>
    match e.body with
    | .transport (.webSocket ws) => if ws.id = id then resultOf ws.body else none
    | _ => none

/-- The result that a reply is read as. -/
def Reply.answer (reply : Reply) : Option JsonValue :=
  if reply.error.isSome then none else some reply.result.reread

/-- What a task asks a store for, and whether the fields it needs are filled in. -/
abbrev Ask (ρ : Type) := Call ρ JsonValue × Bool

section Answers

variable {α σ β ρ : Type}

theorem ResponseMessage.contains_error (msg : ResponseMessage) :
    msg.toMap.contains "error" = msg.error.isSome := by
  unfold toMap
  dsimp only
  cases msg.error <;> split <;> simp [JsonMap.contains, JsonMap.find?_set]

theorem resultOf_serialize (reply : Reply) (id : JsonValue) :
    resultOf ((reply.message id).serialize Codec.api) = reply.answer := by
  have hparse : Codec.api.parse ((reply.message id).serialize Codec.api) =
      .ok (reply.message id).toMap.reread := Codec.api_roundTrip _
  have herror : (reply.message id).error.isSome = reply.error.isSome := by simp [Reply.message]
  unfold resultOf
  rw [hparse]
  dsimp only
  rw [JsonMap.contains_reread, ResponseMessage.contains_error, herror,
    JsonMap.find?_reread_of_nodup (ResponseMessage.nodup_toMap _), ResponseMessage.find?_toMap_result]
  rfl

theorem resultFor_response {ctx : Ctx α} {ws : α} {task : Task} (reply : Reply) :
    resultFor task.transportId [ctx.response Codec.api ws task reply] = reply.answer := by
  simp [resultFor, Ctx.response, resultOf_serialize]

theorem JsonValue.Exact.answer {result : JsonValue} (h : result.Exact) :
    (Reply.ok result).answer = some result := congrArg some h

/-- A statement is run inside of a `try`, and then the rest. -/
theorem attempt_execute_cases {db : Db} {s s' : σ} {reply : Reply} {rest : Except Fault (σ × Reply)}
    (h : attempt s (do db.execute; rest) = .ok (s', reply)) :
    (db.isNone = false ∧ s' = s ∧ reply.answer = none) ∨
      db.isNone = true ∧ attempt s rest = .ok (s', reply) := by
  cases db with
  | none => exact .inr ⟨rfl, h⟩
  | some what =>
    cases h
    exact .inl ⟨rfl, rfl, rfl⟩

variable {clash : ρ → ρ → Prop} {records : σ → Set ρ} {env : Env} {ctx : Ctx α} {ws : α} {s s' : σ}
  {task : Task} {out : List (Envelope α)}

/-- A handler that answers is a step of the store if what it does when its fields are
filled in and the database answers is one. -/
theorem stepOf_answer {read : Except Fault β} {valid : β → Bool} {invalid : String}
    {rest : β → Except Fault (σ × Reply)} (call : β → Call ρ JsonValue)
    (hws : ctx.contacts.lookup "ws" = some ws)
    (hrest : ∀ args s' reply, attempt s (rest args) = .ok (s', reply) →
      Step clash (records s) ⟨call args, true, reply.answer⟩ (records s'))
    (h : ctx.answer Codec.api task s read valid invalid (fun args => do env.db.execute; rest args) =
      .ok (s', out)) :
    Lts.StepOf (Step clash) ((read.toOption.map fun args => (call args, valid args)).map fun ask =>
        ⟨ask.1, ask.2 && env.db.isNone, resultFor task.transportId out⟩)
      (records s) (records s') := by
  obtain ⟨args, reply, rfl, hreply, hout⟩ := Ctx.answer_eq_ok.mp h
  rw [Ctx.respond_of_contact hws] at hout
  obtain rfl := Except.ok.inj hout
  show Step clash _ ⟨call args, valid args && env.db.isNone, resultFor _ _⟩ _
  rw [resultFor_response]
  cases hvalid : valid args with
  | false =>
    rw [hvalid, if_neg Bool.false_ne_true] at hreply
    cases hreply
    exact .unable
  | true =>
    rw [hvalid, if_pos rfl] at hreply
    rcases attempt_execute_cases hreply with ⟨hdb, rfl, hanswer⟩ | ⟨hdb, hreply⟩
    · rw [hdb, hanswer]
      exact .unable
    · rw [hdb]
      exact hrest args s' reply hreply

/-- One more row for a table with a primary key, which is all that rows clash in. -/
theorem step_insertRow {κ τ : Type} [DecidableEq κ] {key : τ → κ} {t : Table σ τ ρ} {table : Keyed τ κ key}
    {row : τ} {next : Keyed τ κ key → σ} {result : JsonValue} {reply : Reply}
    (hrows : t.rows s = table.rows) (hnext : ∀ table, t.rows (next table) = table.rows)
    (hclash : ∀ r, clash r (t.record row) ↔ ∃ row', r = t.record row' ∧ key row' = key row)
    (hresult : result.Exact)
    (h : attempt s (do let table ← insertRow table row; return (next table, .ok result)) = .ok (s', reply)) :
    Step clash (t.records s) ⟨.put (t.record row) result, true, reply.answer⟩ (t.records s') := by
  unfold insertRow at h
  cases hinsert : table.insert row with
  | some table' =>
    rw [hinsert] at h
    cases h
    rw [hresult.answer]
    refine Table.step_put (fun row' => ?_) fun r hr hrow => ?_
    · rw [hrows, hnext]
      exact Keyed.mem_of_insert hinsert row'
    · obtain ⟨row', rfl, hkey⟩ := (hclash r).mp hrow
      exact Keyed.key_ne_of_insert hinsert (hrows ▸ Table.record_mem.mp hr) hkey
  | none =>
    rw [hinsert] at h
    cases h
    obtain ⟨row', hrow', hkey⟩ := Keyed.insert_eq_none.mp hinsert
    exact .clashes (Table.record_mem.mpr (hrows ▸ hrow')) ((hclash _).mpr ⟨row', rfl, hkey⟩)

theorem attempt_return {next : σ} {reply reply' : Reply}
    (h : attempt s (return (next, reply)) = .ok (s', reply')) : s' = next ∧ reply' = reply := by
  cases h
  exact ⟨rfl, rfl⟩

end Answers

namespace Manager

/-! ## The records of a manager -/

inductive Record
  | user (row : UserRow)
  | group (row : GroupRow)
  | subscription (row : SubscriptionRow)
  | connection (row : ConnectionRow)
  | device (row : DeviceRow)

namespace Record

/-- Users are told apart by their logins, devices by their keys, and groups by their
keys and by their names. -/
inductive Clash : Record → Record → Prop
  | login {row row' : UserRow} : row.login = row'.login → Clash (.user row) (.user row')
  | groupKey {row row' : GroupRow} : row.key = row'.key → Clash (.group row) (.group row')
  | groupName {row row' : GroupRow} : row.name = row'.name → Clash (.group row) (.group row')
  | deviceKey {row row' : DeviceRow} : row.key = row'.key → Clash (.device row) (.device row')

/-- How a record is listed, to somebody who asks with a task of this administrator. -/
def view (profileKey : String) : Record → JsonValue
  | .user row => .map (JsonMap.ofMembers [("login", .string row.login.val),
      ("admin", .boolean (profileKey == row.login.val ++ "." ++ row.password.val))])
  | .group row => .map (JsonMap.ofMembers [("key", .string row.key.val), ("name", .string row.name.val)])
  | .subscription row => .string row.userLogin.val
  | .connection row => .string row.deviceKey.val
  | .device row => .map (JsonMap.ofMembers [("name", .string row.name.val), ("key", .string row.key.val)])

theorem view_exact (profileKey : String) (r : Record) : (r.view profileKey).Exact := by
  cases r with
  | subscription => exact JsonValue.exact_string _
  | connection => exact JsonValue.exact_string _
  | user =>
    refine JsonValue.exact_map.mpr (JsonMap.exact_ofMembers ?_)
    simp [JsonValue.exact_string, JsonValue.exact_boolean]
  | group =>
    refine JsonValue.exact_map.mpr (JsonMap.exact_ofMembers ?_)
    simp [JsonValue.exact_string]
  | device =>
    refine JsonValue.exact_map.mpr (JsonMap.exact_ofMembers ?_)
    simp [JsonValue.exact_string]

/-- Records, listed. -/
def listed (profileKey : String) (rows : List Record) : JsonValue := .array (rows.map (view profileKey))

theorem listed_exact (profileKey : String) (rows : List Record) : (listed profileKey rows).Exact := by
  apply JsonValue.exact_array
  intro v hv
  obtain ⟨r, -, rfl⟩ := List.mem_map.mp hv
  exact r.view_exact profileKey

end Record

open Record

/-- The records in the tables. -/
def Services.records (s : Services) : Set Record := {r |
  match r with
  | .user row => row ∈ s.users.table.rows
  | .group row => row ∈ s.groups.table.rows
  | .subscription row => row ∈ s.subscriptions.rows
  | .connection row => row ∈ s.connections.rows
  | .device row => row ∈ s.devices.table.rows}

/-! ## What the services are asked for -/

def Users.asks (task : Task) : String → Option (Ask Record)
  | "add" => (loginAndPassword task).toOption.map fun (login, password) =>
      (.put (.user { login := .bind login, password := .bind password }) (.boolean true),
        !login.isEmpty && !password.isEmpty)
  | "delete" => (task.paramString "login").toOption.map fun login =>
      (.drop (Among Record.user fun row => row.login = .bind login) (.boolean true), !login.isEmpty)
  | "list" => some (.list (Among Record.user fun _ => True) (listed (task.stored "profile.key")), true)
  | _ => none

def Groups.asks (task : Task) : String → Option (Ask Record)
  | "add" => (do return (← task.paramString "key", ← task.paramString "name") :
        Except Fault (String × String)).toOption.map fun (key, name) =>
      (.put (.group { key := .bind key, name := .bind name }) (.boolean true), !key.isEmpty && !name.isEmpty)
  | "delete" => (task.paramString "key").toOption.map fun key =>
      (.drop (Among Record.group fun row => row.key = .bind key) (.boolean true), !key.isEmpty)
  | "list" => some (.list (Among Record.group fun _ => True) (listed (task.stored "profile.key")), true)
  | _ => none

def Subscriptions.asks (task : Task) : String → Option (Ask Record)
  | "add" => (groupAndUser task).toOption.map fun (groupKey, userLogin) =>
      (.put (.subscription { groupKey := .bind groupKey, userLogin := .bind userLogin }) (.boolean true),
        !groupKey.isEmpty && !userLogin.isEmpty)
  | "delete" => (groupAndUser task).toOption.map fun (groupKey, userLogin) =>
      (.drop (Among Record.subscription fun row => row.groupKey = .bind groupKey ∧ row.userLogin = .bind userLogin)
        (.boolean true), !groupKey.isEmpty && !userLogin.isEmpty)
  | "list" => (task.paramString "group-key").toOption.map fun groupKey =>
      (.list (Among Record.subscription fun row => row.groupKey = .bind groupKey) (listed (task.stored "profile.key")),
        !groupKey.isEmpty)
  | _ => none

def Connections.asks (task : Task) : String → Option (Ask Record)
  | "add" => (groupAndDevice task).toOption.map fun (groupKey, deviceKey) =>
      (.put (.connection { groupKey := .bind groupKey, deviceKey := .bind deviceKey }) (.boolean true),
        !groupKey.isEmpty && !deviceKey.isEmpty)
  | "delete" => (groupAndDevice task).toOption.map fun (groupKey, deviceKey) =>
      (.drop (Among Record.connection fun row => row.groupKey = .bind groupKey ∧ row.deviceKey = .bind deviceKey)
        (.boolean true), !groupKey.isEmpty && !deviceKey.isEmpty)
  | "list" => (task.paramString "group-key").toOption.map fun groupKey =>
      (.list (Among Record.connection fun row => row.groupKey = .bind groupKey) (listed (task.stored "profile.key")),
        !groupKey.isEmpty)
  | _ => none

/-- A device is added under the login of who adds it. -/
def Devices.asks (task : Task) : String → Option (Ask Record)
  | "add" => (task.paramString "name").toOption.map fun name =>
      let key := task.stored "user.login" ++ "." ++ name
      (.put (.device { key := .bind key, name := .bind name }) (.string key), !name.isEmpty)
  | "delete" => (task.paramString "key").toOption.map fun key =>
      (.drop (Among Record.device fun row => row.key = .bind key) (.boolean true), !key.isEmpty)
  | "list" => some (.list (Among Record.device fun _ => True) (listed (task.stored "profile.key")), true)
  | _ => none

/-- What the command of a service asks for. -/
def asks : Actor → Task → String → Option (Ask Record)
  | .users => Users.asks
  | .groups => Groups.asks
  | .subscriptions => Subscriptions.asks
  | .connections => Connections.asks
  | .devices => Devices.asks
  | _ => fun _ _ => none

/-- The event of the store that the handling of a message is. -/
def storeEvent (env : Env) (dest : Actor) (command : String) (body : Body Actor)
    (out : List (Envelope Actor)) : Option (RecordStore.Event Record JsonValue) :=
  match body with
  | .task task => (asks dest task command).map fun ask =>
      ⟨ask.1, ask.2 && env.db.isNone, resultFor task.transportId out⟩
  | _ => none

/-- A handler that lists rows of a table. -/
theorem step_listed {σ τ : Type} {t : Table σ τ Record} {s : σ} {p : τ → Prop} {profileKey : String}
    {elements : JsonArray} (found : List τ)
    (helements : elements = found.map fun row => (t.record row).view profileKey)
    (hfound : ∀ row, row ∈ found ↔ row ∈ t.rows s ∧ p row) :
    Step Clash (t.records s)
      ⟨.list (Among t.record p) (listed profileKey), true, (Reply.ok (.array elements)).answer⟩
      (t.records s) := by
  have hlisted : JsonValue.array elements = listed profileKey (found.map t.record) := by
    rw [helements, listed, List.map_map]
    rfl
  rw [hlisted, (listed_exact profileKey _).answer]
  exact Table.step_list hfound

section Services

/-! ## One message -/

/-- The table of a service, among the records of the other ones. -/
def Services.tableOf {σ τ : Type} (services : Services) (rows : σ → List τ) (record : τ → Record)
    (hinj : Function.Injective record) : Table σ τ Record where
  rows := rows
  record := record
  others := {r ∈ services.records | ∀ row, r ≠ record row}
  injective := hinj
  notMem := fun row h => h.2 row rfl

def Users.recordTable (services : Services) : Table Users UserRow Record :=
  services.tableOf (fun s => s.table.rows) .user fun _ _ => Record.user.inj

theorem Users.records_recordTable (services : Services) (s : Users) :
    (recordTable services).records s = { services with users := s }.records := by
  ext r
  cases r <;> simp [Table.mem_records, recordTable, Services.tableOf, Services.records, Among]

def Groups.recordTable (services : Services) : Table Groups GroupRow Record :=
  services.tableOf (fun s => s.table.rows) .group fun _ _ => Record.group.inj

theorem Groups.records_recordTable (services : Services) (s : Groups) :
    (recordTable services).records s = { services with groups := s }.records := by
  ext r
  cases r <;> simp [Table.mem_records, recordTable, Services.tableOf, Services.records, Among]

def Subscriptions.recordTable (services : Services) : Table Subscriptions SubscriptionRow Record :=
  services.tableOf (fun s => s.rows) .subscription fun _ _ => Record.subscription.inj

theorem Subscriptions.records_recordTable (services : Services) (s : Subscriptions) :
    (recordTable services).records s = { services with subscriptions := s }.records := by
  ext r
  cases r <;> simp [Table.mem_records, recordTable, Services.tableOf, Services.records, Among]

def Connections.recordTable (services : Services) : Table Connections ConnectionRow Record :=
  services.tableOf (fun s => s.rows) .connection fun _ _ => Record.connection.inj

theorem Connections.records_recordTable (services : Services) (s : Connections) :
    (recordTable services).records s = { services with connections := s }.records := by
  ext r
  cases r <;> simp [Table.mem_records, recordTable, Services.tableOf, Services.records, Among]

def Devices.recordTable (services : Services) : Table Devices DeviceRow Record :=
  services.tableOf (fun s => s.table.rows) .device fun _ _ => Record.device.inj

theorem Devices.records_recordTable (services : Services) (s : Devices) :
    (recordTable services).records s = { services with devices := s }.records := by
  ext r
  cases r <;> simp [Table.mem_records, recordTable, Services.tableOf, Services.records, Among]

variable {env : Env} {ctx : Ctx Actor} {server : Actor} {services : Services} {task : Task}
  {out : List (Envelope Actor)}

theorem Devices.table_of_ran {s s' : Devices} {command : String} {action : Action Actor Devices}
    {body : Body Actor} (hadd : command ≠ "add") (hdelete : command ≠ "delete")
    (hmem : (command, action) ∈ Devices.handlers Codec.api)
    (h : Action.Ran env ctx s action body (s', out)) : s'.table = s.table := by
  cases Devices.effect hmem h with
  | keep => rfl
  | add => exact absurd rfl hadd
  | delete => exact absurd rfl hdelete
  | connect hreply =>
    rcases connectReply_cases hreply with ⟨-, rfl⟩ | ⟨-, _, _, _, _, _, -, -, -, -, rfl⟩ <;> rfl
  | disconnect => rfl

theorem Users.stepOf {s' : Users} {command : String} {action : Action Actor Users} {body : Body Actor}
    (hws : ctx.contacts.lookup "ws" = some server) (hmem : (command, action) ∈ Users.handlers Codec.api)
    (h : Action.Ran env ctx services.users action body (s', out)) :
    Lts.StepOf (Step Clash) (storeEvent env .users command body out) services.records
      { services with users := s' }.records := by
  have hkeep (hcommand : command ∉ storeCommands) :
      { services with users := s' }.records = services.records := by
    rw [Services.records, Services.records, Users.table_of_ran hcommand hmem h]
  have hrecords : services.records = (recordTable services).records services.users :=
    (records_recordTable services services.users).symm
  simp only [handlers, List.mem_cons, Prod.mk.injEq, List.not_mem_nil, or_false] at hmem
  rcases hmem with ⟨rfl, rfl⟩ | ⟨rfl, rfl⟩ | ⟨rfl, rfl⟩ | ⟨rfl, rfl⟩ | ⟨rfl, rfl⟩ <;>
    cases h with | @task _ task _ h
  · -- add
    rw [hrecords, ← records_recordTable]
    refine stepOf_answer _ hws ?_ h
    rintro ⟨login, password⟩ s' reply hreply
    refine step_insertRow (t := recordTable services) rfl (fun _ => rfl) (fun r => ⟨?_, ?_⟩)
      (JsonValue.exact_boolean true) hreply
    · intro hclash
      cases hclash with
      | login hlogin => exact ⟨_, rfl, hlogin⟩
    · rintro ⟨row, rfl, hlogin⟩
      exact .login hlogin
  · -- delete
    rw [hrecords, ← records_recordTable]
    refine stepOf_answer _ hws ?_ h
    intro login s' reply hreply
    obtain ⟨rfl, rfl⟩ := attempt_return hreply
    rw [(JsonValue.exact_boolean true).answer]
    refine Table.step_drop (t := recordTable services) fun row => ?_
    simp [recordTable, Services.tableOf, table_removeAuthLogin]
  · -- list
    rw [hrecords, ← records_recordTable]
    refine stepOf_answer (fun _ => .list (Among Record.user fun _ => True) (listed (task.stored "profile.key")))
      hws ?_ h
    intro _ s' reply hreply
    obtain ⟨rfl, rfl⟩ := attempt_return hreply
    exact step_listed (t := recordTable services) _ rfl (by simp [recordTable, Services.tableOf])
  · exact hkeep (by decide)
  · exact hkeep (by decide)

theorem Groups.stepOf {s' : Groups} {command : String} {action : Action Actor Groups} {body : Body Actor}
    (hws : ctx.contacts.lookup "ws" = some server) (hmem : (command, action) ∈ Groups.handlers Codec.api)
    (h : Action.Ran env ctx services.groups action body (s', out)) :
    Lts.StepOf (Step Clash) (storeEvent env .groups command body out) services.records
      { services with groups := s' }.records := by
  have hrecords : services.records = (recordTable services).records services.groups :=
    (records_recordTable services services.groups).symm
  rw [hrecords, ← records_recordTable]
  simp only [handlers, List.mem_cons, Prod.mk.injEq, List.not_mem_nil, or_false] at hmem
  rcases hmem with ⟨rfl, rfl⟩ | ⟨rfl, rfl⟩ | ⟨rfl, rfl⟩ <;> cases h with | @task _ task _ h
  · -- add
    refine stepOf_answer _ hws ?_ h
    rintro ⟨key, name⟩ s' reply hreply
    unfold GroupTable.insert at hreply
    split at hreply
    · next htaken =>
      cases hreply
      rcases htaken with hkey | hname
      · obtain ⟨row, hrow, hkey⟩ := List.mem_map.mp hkey
        exact .clashes (Table.record_mem (t := recordTable services) |>.mpr hrow) (.groupKey hkey)
      · obtain ⟨row, hrow, hname⟩ := List.mem_map.mp hname
        exact .clashes (Table.record_mem (t := recordTable services) |>.mpr hrow) (.groupName hname)
    · next hfree =>
      obtain ⟨rfl, rfl⟩ := attempt_return hreply
      rw [(JsonValue.exact_boolean true).answer]
      refine Table.step_put (t := recordTable services) (by simp [recordTable, Services.tableOf]) ?_
      intro r hr hclash
      cases hclash with
      | groupKey hkey =>
        exact hfree (.inl (List.mem_map.mpr ⟨_, Table.record_mem (t := recordTable services) |>.mp hr, hkey⟩))
      | groupName hname =>
        exact hfree (.inr (List.mem_map.mpr ⟨_, Table.record_mem (t := recordTable services) |>.mp hr, hname⟩))
  · -- delete
    refine stepOf_answer _ hws ?_ h
    intro key s' reply hreply
    obtain ⟨rfl, rfl⟩ := attempt_return hreply
    rw [(JsonValue.exact_boolean true).answer]
    refine Table.step_drop (t := recordTable services) fun row => ?_
    simp [recordTable, Services.tableOf, GroupTable.delete]
  · -- list
    refine stepOf_answer (fun _ => .list (Among Record.group fun _ => True) (listed (task.stored "profile.key")))
      hws ?_ h
    intro _ s' reply hreply
    obtain ⟨rfl, rfl⟩ := attempt_return hreply
    exact step_listed (t := recordTable services) _ rfl (by simp [recordTable, Services.tableOf])

theorem Subscriptions.stepOf {s' : Subscriptions} {command : String} {action : Action Actor Subscriptions}
    {body : Body Actor} (hws : ctx.contacts.lookup "ws" = some server)
    (hmem : (command, action) ∈ Subscriptions.handlers Codec.api)
    (h : Action.Ran env ctx services.subscriptions action body (s', out)) :
    Lts.StepOf (Step Clash) (storeEvent env .subscriptions command body out) services.records
      { services with subscriptions := s' }.records := by
  have hkeep (hcommand : command ∉ storeCommands) :
      (recordTable services).records s' = (recordTable services).records services.subscriptions := by
    have hrows : s'.rows = services.subscriptions.rows := rows_of_ran hcommand hmem h
    simp only [Table.records, recordTable, Services.tableOf, hrows]
  have hrecords : services.records = (recordTable services).records services.subscriptions :=
    (records_recordTable services services.subscriptions).symm
  rw [hrecords, ← records_recordTable]
  simp only [handlers, List.mem_cons, Prod.mk.injEq, List.not_mem_nil, or_false] at hmem
  rcases hmem with ⟨rfl, rfl⟩ | ⟨rfl, rfl⟩ | ⟨rfl, rfl⟩ | ⟨rfl, rfl⟩ | ⟨rfl, rfl⟩ | ⟨rfl, rfl⟩ |
    ⟨rfl, rfl⟩ | ⟨rfl, rfl⟩
  · -- add
    cases h with | @task _ task _ h
    refine stepOf_answer _ hws ?_ h
    rintro ⟨groupKey, userLogin⟩ s' reply hreply
    obtain ⟨rfl, rfl⟩ := attempt_return hreply
    rw [(JsonValue.exact_boolean true).answer]
    refine Table.step_put (t := recordTable services) (by simp [recordTable, Services.tableOf]) ?_
    rintro r - ⟨⟩
  · -- delete
    cases h with | @task _ task _ h
    refine stepOf_answer _ hws ?_ h
    rintro ⟨groupKey, userLogin⟩ s' reply hreply
    obtain ⟨rfl, rfl⟩ := attempt_return hreply
    rw [(JsonValue.exact_boolean true).answer]
    refine Table.step_drop (t := recordTable services) fun row => ?_
    simp only [recordTable, Services.tableOf, List.mem_filter, decide_eq_true_eq]
  · -- list
    cases h with | @task _ task _ h
    refine stepOf_answer _ hws ?_ h
    intro groupKey s' reply hreply
    obtain ⟨rfl, rfl⟩ := attempt_return hreply
    refine step_listed (t := recordTable services)
      (services.subscriptions.rows.filter fun row => row.groupKey = Text.bind groupKey) ?_ ?_
    · simp [recordTable, Services.tableOf, view]
    · simp [recordTable, Services.tableOf]
  all_goals
    cases h
    exact hkeep (by decide)

theorem Connections.stepOf {s' : Connections} {command : String} {action : Action Actor Connections}
    {body : Body Actor} (hws : ctx.contacts.lookup "ws" = some server)
    (hmem : (command, action) ∈ Connections.handlers Codec.api)
    (h : Action.Ran env ctx services.connections action body (s', out)) :
    Lts.StepOf (Step Clash) (storeEvent env .connections command body out) services.records
      { services with connections := s' }.records := by
  have hkeep (hcommand : command ∉ storeCommands) :
      (recordTable services).records s' = (recordTable services).records services.connections := by
    rw [eq_of_ran hcommand hmem h]
  have hrecords : services.records = (recordTable services).records services.connections :=
    (records_recordTable services services.connections).symm
  rw [hrecords, ← records_recordTable]
  simp only [handlers, List.mem_cons, Prod.mk.injEq, List.not_mem_nil, or_false] at hmem
  rcases hmem with ⟨rfl, rfl⟩ | ⟨rfl, rfl⟩ | ⟨rfl, rfl⟩ | ⟨rfl, rfl⟩ | ⟨rfl, rfl⟩ | ⟨rfl, rfl⟩ |
    ⟨rfl, rfl⟩ <;> cases h with | @task _ task _ h
  · -- add
    refine stepOf_answer _ hws ?_ h
    rintro ⟨groupKey, deviceKey⟩ s' reply hreply
    obtain ⟨rfl, rfl⟩ := attempt_return hreply
    rw [(JsonValue.exact_boolean true).answer]
    refine Table.step_put (t := recordTable services) (by simp [recordTable, Services.tableOf]) ?_
    rintro r - ⟨⟩
  · -- delete
    refine stepOf_answer _ hws ?_ h
    rintro ⟨groupKey, deviceKey⟩ s' reply hreply
    obtain ⟨rfl, rfl⟩ := attempt_return hreply
    rw [(JsonValue.exact_boolean true).answer]
    refine Table.step_drop (t := recordTable services) fun row => ?_
    simp only [recordTable, Services.tableOf, List.mem_filter, decide_eq_true_eq]
  · -- list
    refine stepOf_answer _ hws ?_ h
    intro groupKey s' reply hreply
    obtain ⟨rfl, rfl⟩ := attempt_return hreply
    refine step_listed (t := recordTable services)
      (services.connections.rows.filter fun row => row.groupKey = Text.bind groupKey) ?_ ?_
    · simp [recordTable, Services.tableOf, selectDevices, view]
    · simp [recordTable, Services.tableOf]
  · exact hkeep (by decide)
  · exact hkeep (by decide)
  · exact hkeep (by decide)
  · exact hkeep (by decide)

theorem Devices.stepOf {s' : Devices} {command : String} {action : Action Actor Devices} {body : Body Actor}
    (hws : ctx.contacts.lookup "ws" = some server) (hmem : (command, action) ∈ Devices.handlers Codec.api)
    (h : Action.Ran env ctx services.devices action body (s', out)) :
    Lts.StepOf (Step Clash) (storeEvent env .devices command body out) services.records
      { services with devices := s' }.records := by
  have hkeep (hadd : command ≠ "add") (hdelete : command ≠ "delete") :
      (recordTable services).records s' = (recordTable services).records services.devices := by
    have htable : s'.table = services.devices.table := table_of_ran hadd hdelete hmem h
    simp only [Table.records, recordTable, Services.tableOf, htable]
  have hrecords : services.records = (recordTable services).records services.devices :=
    (records_recordTable services services.devices).symm
  rw [hrecords, ← records_recordTable]
  simp only [handlers, List.mem_cons, Prod.mk.injEq, List.not_mem_nil, or_false] at hmem
  rcases hmem with ⟨rfl, rfl⟩ | ⟨rfl, rfl⟩ | ⟨rfl, rfl⟩ | ⟨rfl, rfl⟩ | ⟨rfl, rfl⟩ | ⟨rfl, rfl⟩ |
    ⟨rfl, rfl⟩ | ⟨rfl, rfl⟩ | ⟨rfl, rfl⟩ | ⟨rfl, rfl⟩ | ⟨rfl, rfl⟩ | ⟨rfl, rfl⟩
  · -- add
    cases h with | @task _ task _ h
    refine stepOf_answer (fun name =>
      .put (Record.device ⟨.bind (task.stored "user.login" ++ "." ++ name), .bind name⟩)
        (.string (task.stored "user.login" ++ "." ++ name))) hws ?_ h
    intro name s' reply hreply
    refine step_insertRow (t := recordTable services) rfl (fun _ => rfl) (fun r => ⟨?_, ?_⟩)
      (JsonValue.exact_string _) hreply
    · intro hclash
      cases hclash with
      | deviceKey hsame => exact ⟨_, rfl, hsame⟩
    · rintro ⟨row, rfl, hsame⟩
      exact .deviceKey hsame
  · -- delete
    cases h with | @task _ task _ h
    refine stepOf_answer _ hws ?_ h
    intro key s' reply hreply
    obtain ⟨rfl, rfl⟩ := attempt_return hreply
    rw [(JsonValue.exact_boolean true).answer]
    refine Table.step_drop (t := recordTable services) fun row => ?_
    simp [recordTable, Services.tableOf]
  · -- list
    cases h with | @task _ task _ h
    refine stepOf_answer (fun _ => .list (Among Record.device fun _ => True) (listed (task.stored "profile.key")))
      hws ?_ h
    intro _ s' reply hreply
    obtain ⟨rfl, rfl⟩ := attempt_return hreply
    exact step_listed (t := recordTable services) _ rfl (by simp [recordTable, Services.tableOf])
  all_goals
    cases h
    exact hkeep (by decide) (by decide)

/-! ## One message of the manager -/

variable {config : Config}

/-- Commands of the tables are not skipped. -/
theorem asks_of_skip {dest : Actor} {task : Task} {command : String}
    (h : (program Codec.api config).reaction dest command = .skip) : asks dest task command = none := by
  cases dest
  case users =>
    show Users.asks task command = none
    unfold Users.asks
    split <;> first | rfl | exact nomatch h
  case groups =>
    show Groups.asks task command = none
    unfold Groups.asks
    split <;> first | rfl | exact nomatch h
  case subscriptions =>
    show Subscriptions.asks task command = none
    unfold Subscriptions.asks
    split <;> first | rfl | exact nomatch h
  case connections =>
    show Connections.asks task command = none
    unfold Connections.asks
    split <;> first | rfl | exact nomatch h
  case devices =>
    show Devices.asks task command = none
    unfold Devices.asks
    split <;> first | rfl | exact nomatch h
  all_goals rfl

theorem storeEvent_of_skip {dest : Actor} {command : String} {body : Body Actor}
    (h : (program Codec.api config).reaction dest command = .skip) :
    storeEvent env dest command body out = none := by
  cases body with
  | task task => exact congrArg (Option.map _) (asks_of_skip h)
  | _ => rfl

/-- Whatever the manager handles is a step of the store, or does not touch it. -/
theorem stepOf_handle {n n' : State} {e : Envelope Actor} (hn : n.contacts = contacts)
    (h : handle Codec.api config env n e = .ok (n', out)) :
    Lts.StepOf (Step Clash) (storeEvent env e.dest e.command e.body out) n.services.records
      n'.services.records := by
  obtain ⟨dest, sender, command, body⟩ := e
  cases Program.handled_of_eq_ok h with
  | syncContacts _ hbody => cases hbody; rfl
  | addChannel _ hbody => cases hbody; rfl
  | skip hreaction =>
    rw [storeEvent_of_skip hreaction]
    rfl
  | attached _ hmem hran =>
    have hws (a : Actor) (ha : (contacts a).lookup "ws" = some .ws) :
        ((program Codec.api config).ctx n a).contacts.lookup "ws" = some .ws := lookup_of_wired hn ha
    cases dest <;> obtain ⟨inner, hinner, rfl⟩ := mem_liftAll.mp hmem <;>
      obtain ⟨component, hinnerRan, rfl⟩ := hran.of_lift
    case users => exact Users.stepOf (hws _ rfl) hinner hinnerRan
    case groups => exact Groups.stepOf (hws _ rfl) hinner hinnerRan
    case subscriptions => exact Subscriptions.stepOf (hws _ rfl) hinner hinnerRan
    case connections => exact Connections.stepOf (hws _ rfl) hinner hinnerRan
    case devices => exact Devices.stepOf (hws _ rfl) hinner hinnerRan
    all_goals cases body <;> rfl

end Services

/-! ## Runs -/

/-- What the store sees of a run. -/
def storeEventOf : Work.Event (Envelope Actor) Env → Option (RecordStore.Event Record JsonValue)
  | .arrive _ => none
  | .handle env e out => storeEvent env e.dest e.command e.body out

/-- The moves of the manager. -/
abbrev Moves (J : Codec) (config : Config) :=
  Work.Moves (handle J config) Arrives fun _ _ _ => True

/-- In every run, the answers to the requests that add, delete and list are those of one
store of records, asked one after the other. Afterwards the tables hold the records that were
added with success and not deleted since, and of those from before, the ones never deleted. -/
theorem answers_of_store {config : Config} {n₀ : State} {events : List (Work.Event (Envelope Actor) Env)}
    {c : Work.Config State (Envelope Actor)} (h₀ : Initial n₀)
    (h : Lts.Trace (Moves Codec.api config) ⟨n₀, []⟩ events c) :
    Lts.Trace (Step Clash) n₀.services.records (events.filterMap storeEventOf) c.state.services.records ∧
      ∀ r, r ∈ c.state.services.records ↔
        Lts.Since (Event.Puts r) (Event.Drops r) (events.filterMap storeEventOf) ∨
          r ∈ n₀.services.records ∧ ∀ e ∈ events.filterMap storeEventOf, ¬ e.Drops r := by
  let R : Work.Config State (Envelope Actor) → Set Record → Prop := fun c records =>
    c.state.services.records = records ∧ c.state.contacts = contacts ∧ ∀ e ∈ c.pending, e.Plain
  have hstep : ∀ c e c' records, R c records → Moves Codec.api config c e c' →
      ∃ records', Lts.StepOf (Step Clash) (storeEventOf e) records records' ∧ R c' records' := by
    rintro c _ c' _ ⟨rfl, hcontacts, hplain⟩ hmove
    cases hmove with
    | arrive harrives =>
      refine ⟨_, rfl, rfl, hcontacts, fun e he => ?_⟩
      rcases List.mem_append.mp he with he | he
      · exact hplain e he
      · rw [List.mem_singleton.mp he]
        exact harrives.plain
    | handle _ hhandle =>
      obtain ⟨hkept, hout⟩ := handle_plain hhandle (hplain _ (by simp))
      refine ⟨_, stepOf_handle hcontacts hhandle, rfl, hkept.trans hcontacts, fun e he => ?_⟩
      rcases List.mem_append.mp he with he | he
      · exact hplain e (by rcases List.mem_append.mp he with he | he <;> simp [he])
      · exact hout e he
  obtain ⟨records, htrace, rfl, -, -⟩ :=
    h.simulates R storeEventOf ⟨rfl, h₀.contacts, by simp⟩ hstep
  exact ⟨htrace, mem_iff htrace⟩

/-- The user that is gone was deleted by somebody. -/
theorem answers_of_store_oneUser :
    ∃ events c, Lts.Trace (Moves Codec.api ⟨"p.q", "m"⟩) ⟨oneUser, []⟩ events c ∧
      Record.user { login := .bind "a", password := .bind "b" } ∉ c.state.services.records ∧
      ∃ e ∈ events.filterMap storeEventOf,
        e.Drops (Record.user { login := .bind "a", password := .bind "b" }) := by
  obtain ⟨p, hrun, -⟩ := twoKeys_run
  have hparam : deleteUserTask.paramString "login" = .ok "a" := rfl
  obtain ⟨n, out, hhandle, hnot⟩ : ∃ n out, handle Codec.api ⟨"p.q", "m"⟩ .calm (withKeys ["a.b", "a.b.c"])
      (deleteUserMessage .router deleteUserTask) = .ok (n, out) ∧
        Record.user { login := .bind "a", password := .bind "b" } ∉ n.services.records := by
    refine ⟨_, _, handle_deleteUser rfl hparam (by decide) rfl, fun hmem => ?_⟩
    simp [Services.records, Users.table_removeAuthLogin, Keyed.mem_delete] at hmem
  obtain ⟨events, htrace⟩ := Work.run_iff_trace.mp (hrun.handle trivial hhandle)
  have hgone := (answers_of_store oneUser_initial htrace).2 (.user { login := .bind "a", password := .bind "b" })
  refine ⟨events, _, htrace, hnot, ?_⟩
  by_contra hnone
  push Not at hnone
  exact hnot (hgone.mpr (.inr ⟨List.mem_singleton_self _, hnone⟩))

end Manager

end StreamCloud
