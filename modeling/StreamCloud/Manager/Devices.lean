-- SUMMARY: The devices service of the manager: its registry and the traffic of the devices.
import StreamCloud.Core.Service

/-!
# devices

`stream-manager/src/devices.cpp`.
-/

namespace StreamCloud.Manager

structure DeviceRow where
  key : Text
  name : Text
deriving DecidableEq

/-- The devices table, and the registry of the connected devices: the session,
the actions and the variables of each. -/
structure Devices where
  table : Keyed DeviceRow Text DeviceRow.key
  devicesReg : StringMap String
  deviceActionsReg : StringMap StringSet
  deviceVariablesReg : StringMap StringSet

namespace Devices

variable {α : Type}

def isRegDevice (s : Devices) (deviceKey : String) : Bool := decide (deviceKey ∈ s.devicesReg)

/-- `emplace` leaves what is registered already. -/
def addRegDevice (s : Devices) (deviceKey transportId : String)
    (deviceActions deviceVariables : StringSet) : Devices :=
  { s with
    devicesReg := s.devicesReg.emplace deviceKey transportId
    deviceActionsReg := s.deviceActionsReg.emplace deviceKey deviceActions
    deviceVariablesReg := s.deviceVariablesReg.emplace deviceKey deviceVariables }

def removeRegDevice (s : Devices) (deviceKey : String) : Devices :=
  { s with
    devicesReg := s.devicesReg.erase deviceKey
    deviceActionsReg := s.deviceActionsReg.erase deviceKey
    deviceVariablesReg := s.deviceVariablesReg.erase deviceKey }

/-- `at`, of one of the registered sets. -/
def registered (sets : StringMap StringSet) (deviceKey : String) : Except Fault StringSet :=
  match sets.lookup deviceKey with
  | some set => .ok set
  | none => .error (.thrown "_Map_base::at")

/-- The strings of an array, as a set. -/
def stringSet (values : JsonArray) : Except Fault StringSet := do
  let strings ← values.mapM JsonValue.asString
  return strings.foldl (fun set s => set.emplace s ()) ∅

def stringArray (set : StringSet) : JsonValue := .array (set.keys.map .string)

variable (J : Codec)

def add : Handler α Devices Task := fun env ctx s task =>
  ctx.answer J task s (task.paramString "name") (fun name => !name.isEmpty) "name device empty"
    fun name => do
      -- the key of a device begins with the login of its owner
      let key := task.stored "user.login" ++ "." ++ name
      env.db.execute
      let table ← insertRow s.table { key := .bind key, name := .bind name }
      return ({ s with table }, .ok (.string key))

/-- The registry is not touched. -/
def delete : Handler α Devices Task := fun env ctx s task =>
  ctx.answer J task s (task.paramString "key") (fun key => !key.isEmpty) "key device empty"
    fun key => do
      env.db.execute
      let table := s.table.delete fun row => row.key = Text.bind key
      return ({ s with table }, .ok (.boolean true))

def list : Handler α Devices Task := fun env ctx s task =>
  ctx.answer J task s (.ok ()) (fun _ => true) "" fun _ => do
    env.db.execute
    let managersList := s.table.rows.map fun row =>
      .map (JsonMap.ofMembers [("name", .string row.name.val), ("key", .string row.key.val)])
    return (s, .ok (.array managersList))

def detail : Handler α Devices Task := fun env ctx s task =>
  ctx.answer J task s (task.paramString "key") s.isRegDevice "device not connected" fun key => do
    env.db.execute
    match s.table.find? (.bind key) with
    -- a device that is registered may have been deleted from the table
    | none => return (s, .ok (.map []))
    | some row =>
      -- the key of the row is looked up, which ends at the first null character of the one asked
      -- for
      let deviceActions ← registered s.deviceActionsReg row.key.val
      let deviceVariables ← registered s.deviceVariablesReg row.key.val
      return (s, .ok (.map (JsonMap.ofMembers [("name", .string row.name.val),
        ("key", .string row.key.val), ("actions", stringArray deviceActions),
        ("variables", stringArray deviceVariables)])))

def control : Handler α Devices Task := fun _ ctx s task => do
  if task.request.metadata.contains "device-key" then
    let deviceKey ← task.metadataString "device-key"
    if s.isRegDevice deviceKey then
      -- not to the device: whether it may be controlled depends on its groups
      return (s, ← ctx.send "connections" "devices" (.task task))
    else
      return (s, ← ctx.respond J task (.failed "device not connected"))
  else
    return (s, ← ctx.respond J task (.failed "device-key not found"))

/-- The parameters of `connect`. -/
def connectParams (task : Task) : Except Fault (String × JsonArray × JsonArray) := do
  return (← task.paramString "key", ← task.request.params.arrayAt "actions",
    ← task.request.params.arrayAt "variables")

/-- The `try` of `connect`. The result is set before the arrays are read, and
stays when one of them holds something else than strings. -/
def connectBody (env : Env) (s : Devices) (task : Task) :
    String × JsonArray × JsonArray → Except Fault (Devices × Reply) :=
  fun (key, actionArray, variableArray) => do
    env.db.execute
    if (s.table.find? (.bind key)).isSome then
      if actionArray.isEmpty && variableArray.isEmpty then
        return (s, .failed "device control contains actions and/or variables")
      else
        -- the inner `try`, which does not clear the result
        catchStd (do
          let deviceActions ← stringSet actionArray
          let deviceVariables ← stringSet variableArray
          return (s.addRegDevice key task.transportId deviceActions deviceVariables,
            .ok (.boolean true)))
          fun what => return (s, { result := .boolean true, error := some what })
    else
      return (s, .failed "device not found")

def connect : Handler α Devices Task := fun env ctx s task =>
  ctx.answer J task s (connectParams task) (fun _ => true) "" (connectBody env s task)

/-- Nothing in the `try` throws, so that there is no response. -/
def disconnect : Handler α Devices Task := fun _ _ s task => do
  let key ← task.paramString "key"
  return (s.removeRegDevice key, [])

/-- What is sent to a device for a request. -/
def requestDeviceMessage (task : Task) (action : String) : RequestMessage where
  id := task.request.id
  method := action
  params := .null
  metadata := [("transport", .string task.transportId)]

def request : Handler α Devices Task := fun _ ctx s task => do
  let deviceKey ← task.metadataString "device-key"
  match s.devicesReg.lookup deviceKey with
  | some deviceTransportId =>
    -- nothing catches what this throws
    let action ← task.paramString "action"
    return (s, ← ctx.writeTo deviceTransportId ((requestDeviceMessage task action).serialize J))
  | none => return (s, ← ctx.respond J task (.failed "device not connected"))

def response : Handler α Devices Transport := fun _ ctx s transport => do
  let ws ← transport.asWebSocket
  let message ← J.parse ws.body
  if message.isResponse then
    let transportsId ← (message.get "metadata").stringAt "transport"
    let deviceKey ← (message.get "metadata").stringAt "device-key"
    -- the device is asked for, not the session that the frame is from
    if s.isRegDevice deviceKey then
      return (s, ← ctx.writeTo transportsId (J.print (message.erase "metadata")))
    else
      return (s, [])
  else
    return (s, [])

def notify : Handler α Devices Transport := fun _ ctx s transport => do
  let ws ← transport.asWebSocket
  let message ← J.parse ws.body
  if message.isNotify then
    let deviceKey ← (message.get "metadata").stringAt "device-key"
    if s.isRegDevice deviceKey then
      return (s, ← ctx.send "subscriptions" "emit"
        (.transport (.webSocket { id := ws.id, body := J.print message })))
    else
      return (s, [])
  else
    return (s, [])

/-- `subscribe` and `unsubscribe`: the task of a registered device goes on to
the connections service. -/
def forwardRegistered (command : String) : Handler α Devices Task := fun _ ctx s task => do
  let deviceKey ← task.paramString "device-key"
  if s.isRegDevice deviceKey then
    return (s, ← ctx.send "connections" command (.task task))
  else
    return (s, ← ctx.respond J task (.failed "device not connected"))

def subscribe : Handler α Devices Task := forwardRegistered J "subscribe"

def unsubscribe : Handler α Devices Task := forwardRegistered J "unsubscribe"

def handlers : List (String × Action α Devices) :=
  [("add", .task (add J)), ("delete", .task (delete J)), ("list", .task (list J)),
    ("detail", .task (detail J)), ("control", .task (control J)), ("connect", .task (connect J)),
    ("disconnect", .task disconnect), ("request", .task (request J)),
    ("response", .transport (response J)), ("notify", .transport (notify J)),
    ("subscribe", .task (subscribe J)), ("unsubscribe", .task (unsubscribe J))]

/-! ## What is sent -/

/-- The messages of each handler of the devices service. -/
inductive Sent : String → String → String → Body α → Prop
  | write (handler : String) (ws : WebSocket) :
      Sent handler "ws" "write" (.transport (.webSocket ws))
  | devices (task : Task) : Sent "control" "connections" "devices" (.task task)
  | subscribe (task : Task) : Sent "subscribe" "connections" "subscribe" (.task task)
  | unsubscribe (task : Task) : Sent "unsubscribe" "connections" "unsubscribe" (.task task)
  | emit (ws : WebSocket) : Sent "notify" "subscriptions" "emit" (.transport (.webSocket ws))

theorem control_sends (env : Env) (ctx : Ctx α) (s : Devices) (task : Task) :
    (control J env ctx s task).Ensures fun r => ctx.Sends (Sent "control") r.2 := by
  unfold control
  refine Except.ensures_ite (fun _ => ?_) fun _ => ?_
  · refine Except.ensures_bind.mpr fun _ _ => Except.ensures_ite (fun _ => ?_) fun _ => ?_
    · exact Ctx.send_sends_return (.devices _)
    · exact Ctx.respond_sends_return (Sent.write _)
  · exact Ctx.respond_sends_return (Sent.write _)

theorem request_sends (env : Env) (ctx : Ctx α) (s : Devices) (task : Task) :
    (request J env ctx s task).Ensures fun r => ctx.Sends (Sent "request") r.2 := by
  unfold request
  refine Except.ensures_bind.mpr fun deviceKey _ => ?_
  dsimp only
  split
  · exact Except.ensures_bind.mpr fun _ _ => Ctx.send_sends_return (.write _ _)
  · exact Ctx.respond_sends_return (Sent.write _)

theorem response_sends (env : Env) (ctx : Ctx α) (s : Devices) (transport : Transport) :
    (response J env ctx s transport).Ensures fun r => ctx.Sends (Sent "response") r.2 := by
  unfold response
  refine Except.ensures_bind.mpr fun _ _ => Except.ensures_bind.mpr fun _ _ => ?_
  refine Except.ensures_ite (fun _ => ?_) fun _ => Except.ensures_ok.mpr Ctx.sends_nil
  refine Except.ensures_bind.mpr fun _ _ => Except.ensures_bind.mpr fun _ _ => ?_
  refine Except.ensures_ite (fun _ => ?_) fun _ => Except.ensures_ok.mpr Ctx.sends_nil
  exact Ctx.send_sends_return (.write _ _)

theorem notify_sends (env : Env) (ctx : Ctx α) (s : Devices) (transport : Transport) :
    (notify J env ctx s transport).Ensures fun r => ctx.Sends (Sent "notify") r.2 := by
  unfold notify
  refine Except.ensures_bind.mpr fun _ _ => Except.ensures_bind.mpr fun _ _ => ?_
  refine Except.ensures_ite (fun _ => ?_) fun _ => Except.ensures_ok.mpr Ctx.sends_nil
  refine Except.ensures_bind.mpr fun _ _ => ?_
  refine Except.ensures_ite (fun _ => ?_) fun _ => Except.ensures_ok.mpr Ctx.sends_nil
  exact Ctx.send_sends_return (.emit _)

theorem forwardRegistered_sends {command : String}
    (hcommand : ∀ task, Sent (α := α) command "connections" command (.task task)) (env : Env) (ctx : Ctx α)
    (s : Devices) (task : Task) :
    (forwardRegistered J command env ctx s task).Ensures fun r => ctx.Sends (Sent command) r.2 := by
  unfold forwardRegistered
  refine Except.ensures_bind.mpr fun _ _ => Except.ensures_ite (fun _ => ?_) fun _ => ?_
  · exact Ctx.send_sends_return (hcommand _)
  · exact Ctx.respond_sends_return (Sent.write _)

theorem disconnect_sends (env : Env) (ctx : Ctx α) (s : Devices) (task : Task) :
    (disconnect env ctx s task).Ensures fun r => ctx.Sends (Sent "disconnect") r.2 :=
  Except.ensures_bind.mpr fun _ _ => Except.ensures_ok.mpr Ctx.sends_nil

theorem sends {env : Env} {ctx : Ctx α} {s : Devices} {command : String} {action : Action α Devices}
    {body : Body α} {r : Devices × List (Envelope α)} (hmem : (command, action) ∈ handlers J)
    (h : Action.Ran env ctx s action body r) : ctx.Sends (Sent command) r.2 := by
  simp only [handlers, List.mem_cons, Prod.mk.injEq, List.not_mem_nil, or_false] at hmem
  rcases hmem with ⟨rfl, rfl⟩ | ⟨rfl, rfl⟩ | ⟨rfl, rfl⟩ | ⟨rfl, rfl⟩ | ⟨rfl, rfl⟩ | ⟨rfl, rfl⟩ | ⟨rfl, rfl⟩ |
    ⟨rfl, rfl⟩ | ⟨rfl, rfl⟩ | ⟨rfl, rfl⟩ | ⟨rfl, rfl⟩ | ⟨rfl, rfl⟩ <;> cases h with | _ h
  · exact Ctx.answer_sends (Sent.write _) r h
  · exact Ctx.answer_sends (Sent.write _) r h
  · exact Ctx.answer_sends (Sent.write _) r h
  · exact Ctx.answer_sends (Sent.write _) r h
  · exact control_sends J env ctx s _ r h
  · exact Ctx.answer_sends (Sent.write _) r h
  · exact disconnect_sends env ctx s _ r h
  · exact request_sends J env ctx s _ r h
  · exact response_sends J env ctx s _ r h
  · exact notify_sends J env ctx s _ r h
  · exact forwardRegistered_sends J .subscribe env ctx s _ r h
  · exact forwardRegistered_sends J .unsubscribe env ctx s _ r h

/-! ## The registry -/

/-- A device is registered for a session, with exactly the strings of these
arrays as its actions and variables. -/
structure Registered (s : Devices) (key transportId : String) (actionArray variableArray : JsonArray) :
    Prop where
  transport : s.devicesReg.lookup key = some transportId
  deviceActions : ∃ set, s.deviceActionsReg.lookup key = some set ∧
    ∀ a, a ∈ set ↔ .string a ∈ actionArray
  deviceVariables : ∃ set, s.deviceVariablesReg.lookup key = some set ∧
    ∀ a, a ∈ set ↔ .string a ∈ variableArray

/-- The three maps of the registry have the same keys. -/
def Aligned (s : Devices) : Prop :=
  ∀ key, (key ∈ s.deviceActionsReg ↔ key ∈ s.devicesReg) ∧
    (key ∈ s.deviceVariablesReg ↔ key ∈ s.devicesReg)

/-- What `connect` does, but for the response. -/
def connectReply (env : Env) (s : Devices) (task : Task) : Except Fault (Devices × Reply) := do
  attempt s (connectBody env s task (← connectParams task))

/-- What a handler can do to the table and the registry. -/
inductive Effect (env : Env) (s : Devices) : String → Body α → Devices → Prop
  | keep {command : String} {body : Body α} : Effect env s command body s
  | add {task : Task} {name : String} {table : Keyed DeviceRow Text DeviceRow.key} :
      task.paramString "name" = .ok name →
      s.table.insert { key := .bind (task.stored "user.login" ++ "." ++ name), name := .bind name } =
        some table →
      Effect env s "add" (.task task) { s with table }
  | delete {task : Task} {key : String} : task.paramString "key" = .ok key → key ≠ "" →
      env.db = none → Effect env s "delete" (.task task)
        { s with table := s.table.delete fun row => row.key = Text.bind key }
  | connect {task : Task} {s' : Devices} {reply : Reply} :
      connectReply env s task = .ok (s', reply) → reply.error = none →
      Effect env s "connect" (.task task) s'
  | disconnect {task : Task} {key : String} : task.paramString "key" = .ok key →
      Effect env s "disconnect" (.task task) (s.removeRegDevice key)

theorem control_keeps (env : Env) (ctx : Ctx α) (s : Devices) (task : Task) :
    (control J env ctx s task).Ensures fun r => r.1 = s := by
  unfold control
  refine Except.ensures_ite (fun _ => ?_) fun _ => Ctx.return_keeps
  exact Except.ensures_bind.mpr fun _ _ =>
    Except.ensures_ite (fun _ => Ctx.return_keeps) fun _ => Ctx.return_keeps

theorem request_keeps (env : Env) (ctx : Ctx α) (s : Devices) (task : Task) :
    (request J env ctx s task).Ensures fun r => r.1 = s := by
  unfold request
  refine Except.ensures_bind.mpr fun deviceKey _ => ?_
  dsimp only
  split
  · exact Except.ensures_bind.mpr fun _ _ => Ctx.return_keeps
  · exact Ctx.return_keeps

theorem response_keeps (env : Env) (ctx : Ctx α) (s : Devices) (transport : Transport) :
    (response J env ctx s transport).Ensures fun r => r.1 = s := by
  unfold response
  refine Except.ensures_bind.mpr fun _ _ => Except.ensures_bind.mpr fun _ _ => ?_
  refine Except.ensures_ite (fun _ => ?_) fun _ => Except.ensures_ok.mpr rfl
  refine Except.ensures_bind.mpr fun _ _ => Except.ensures_bind.mpr fun _ _ => ?_
  exact Except.ensures_ite (fun _ => Ctx.return_keeps) fun _ => Except.ensures_ok.mpr rfl

theorem notify_keeps (env : Env) (ctx : Ctx α) (s : Devices) (transport : Transport) :
    (notify J env ctx s transport).Ensures fun r => r.1 = s := by
  unfold notify
  refine Except.ensures_bind.mpr fun _ _ => Except.ensures_bind.mpr fun _ _ => ?_
  refine Except.ensures_ite (fun _ => ?_) fun _ => Except.ensures_ok.mpr rfl
  refine Except.ensures_bind.mpr fun _ _ => ?_
  exact Except.ensures_ite (fun _ => Ctx.return_keeps) fun _ => Except.ensures_ok.mpr rfl

theorem forwardRegistered_keeps {command : String} (env : Env) (ctx : Ctx α) (s : Devices)
    (task : Task) : (forwardRegistered J command env ctx s task).Ensures fun r => r.1 = s := by
  unfold forwardRegistered
  exact Except.ensures_bind.mpr fun _ _ =>
    Except.ensures_ite (fun _ => Ctx.return_keeps) fun _ => Ctx.return_keeps

variable {J} {env : Env} {ctx : Ctx α} {s s' : Devices}

theorem connect_eq_ok {task : Task} {out : List (Envelope α)} :
    connect J env ctx s task = .ok (s', out) ↔
      ∃ reply, connectReply env s task = .ok (s', reply) ∧ ctx.respond J task reply = .ok out := by
  unfold connect connectReply
  rw [Ctx.answer_eq_ok]
  simp only [if_true, Except.bind_eq_ok]
  constructor
  · rintro ⟨params, reply, hparams, hreply, hout⟩
    exact ⟨reply, ⟨params, hparams, hreply⟩, hout⟩
  · rintro ⟨reply, ⟨params, hparams, hreply⟩, hout⟩
    exact ⟨params, reply, hparams, hreply, hout⟩

theorem mem_stringSet {values : JsonArray} {set : StringSet} (h : stringSet values = .ok set)
    (a : String) : a ∈ set ↔ .string a ∈ values := by
  obtain ⟨strings, hstrings, hset⟩ := Except.bind_eq_ok.mp h
  obtain rfl := Except.ok.inj hset
  -- an element that is no string throws
  have hvalues : values = strings.map JsonValue.string := by
    clear h hset
    induction values generalizing strings with
    | nil => cases hstrings; rfl
    | cons v values ih =>
      rw [List.mapM_cons] at hstrings
      obtain ⟨b, hb, hstrings⟩ := Except.bind_eq_ok.mp hstrings
      obtain ⟨bs, hbs, hstrings⟩ := Except.bind_eq_ok.mp hstrings
      obtain rfl := Except.ok.inj hstrings
      rw [JsonValue.asString_eq_ok.mp hb, ih bs hbs, List.map_cons]
  have hfold : ∀ (l : List String) (acc : StringSet),
      a ∈ l.foldl (fun set s => set.emplace s ()) acc ↔ a ∈ acc ∨ a ∈ l := by
    intro l
    induction l with
    | nil => simp
    | cons b l ih =>
      intro acc
      rw [List.foldl_cons, ih, AList.mem_emplace, List.mem_cons]
      tauto
  rw [hfold, hvalues]
  simp

/-- A `connect` that is answered with an error leaves the registry alone, any
other one finds a row and registers the device. -/
theorem connectReply_cases {task : Task} {reply : Reply}
    (h : connectReply env s task = .ok (s', reply)) :
    (reply.error.isSome ∧ s' = s) ∨ (reply.error = none ∧
      ∃ key actionArray variableArray deviceActions deviceVariables,
        connectParams task = .ok (key, actionArray, variableArray) ∧
        (s.table.find? (.bind key)).isSome ∧
        stringSet actionArray = .ok deviceActions ∧ stringSet variableArray = .ok deviceVariables ∧
        s' = s.addRegDevice key task.transportId deviceActions deviceVariables) := by
  obtain ⟨⟨key, actionArray, variableArray⟩, hparams, hbody⟩ := Except.bind_eq_ok.mp h
  unfold attempt at hbody
  rcases catchStd_eq_ok.mp hbody with hbody | ⟨what, -, hfailed⟩
  · obtain ⟨-, -, hbody⟩ := Except.bind_eq_ok.mp hbody
    split at hbody
    · next hrow =>
      split at hbody
      · cases hbody
        exact .inl ⟨rfl, rfl⟩
      · rcases catchStd_eq_ok.mp hbody with hbody | ⟨what, -, hfailed⟩
        · obtain ⟨deviceActions, hactions, hbody⟩ := Except.bind_eq_ok.mp hbody
          obtain ⟨deviceVariables, hvariables, hbody⟩ := Except.bind_eq_ok.mp hbody
          cases hbody
          exact .inr ⟨rfl, key, _, _, _, _, hparams, hrow, hactions, hvariables, rfl⟩
        · cases hfailed
          exact .inl ⟨rfl, rfl⟩
    · cases hbody
      exact .inl ⟨rfl, rfl⟩
  · cases hfailed
    exact .inl ⟨rfl, rfl⟩

/-- The inversion lemma of the service: what the handler of a command did to
the table and to the registry. -/
theorem effect {command : String} {action : Action α Devices} {body : Body α}
    {out : List (Envelope α)} (hmem : (command, action) ∈ handlers J)
    (h : Action.Ran env ctx s action body (s', out)) : s.Effect env command body s' := by
  have hkeep {command : String} {body : Body α} {s' : Devices} (h : s' = s) :
      s.Effect env command body s' := h ▸ .keep
  simp only [handlers, List.mem_cons, Prod.mk.injEq, List.not_mem_nil, or_false] at hmem
  rcases hmem with ⟨rfl, rfl⟩ | ⟨rfl, rfl⟩ | ⟨rfl, rfl⟩ | ⟨rfl, rfl⟩ | ⟨rfl, rfl⟩ | ⟨rfl, rfl⟩ | ⟨rfl, rfl⟩ |
    ⟨rfl, rfl⟩ | ⟨rfl, rfl⟩ | ⟨rfl, rfl⟩ | ⟨rfl, rfl⟩ | ⟨rfl, rfl⟩ <;> cases h with | _ h
  · -- add
    obtain ⟨name, reply, hname, hbody, -⟩ := Ctx.answer_eq_ok.mp h
    split at hbody
    · refine attempt_ensures (Q := s.Effect env "add" (.task _)) .keep ?_ _ hbody
      refine Except.ensures_bind.mpr fun _ _ => Except.ensures_bind.mpr fun table htable => ?_
      exact Except.ensures_ok.mpr (.add hname (insertRow_eq_ok.mp htable))
    · cases hbody
      exact .keep
  · -- delete
    obtain ⟨key, reply, hkey, hbody, -⟩ := Ctx.answer_eq_ok.mp h
    split at hbody
    · next hvalid =>
      refine attempt_ensures (Q := s.Effect env "delete" (.task _)) .keep ?_ _ hbody
      refine Except.ensures_bind.mpr fun _ hdb => Except.ensures_ok.mpr ?_
      exact .delete hkey (by simpa using hvalid) (Db.execute_eq_ok.mp hdb)
    · cases hbody
      exact .keep
  · -- list
    refine Ctx.answer_ensures (Q := s.Effect env "list" (.task _)) .keep (fun _ => ?_) _ h
    exact Except.ensures_bind.mpr fun _ _ => Except.ensures_ok.mpr .keep
  · -- detail
    refine Ctx.answer_ensures (Q := s.Effect env "detail" (.task _)) .keep (fun key => ?_) _ h
    refine Except.ensures_bind.mpr fun _ _ => ?_
    split
    · exact Except.ensures_ok.mpr .keep
    · exact Except.ensures_bind.mpr fun _ _ => Except.ensures_bind.mpr fun _ _ =>
        Except.ensures_ok.mpr .keep
  -- control
  · exact hkeep (control_keeps J env ctx s _ _ h)
  -- connect
  · obtain ⟨reply, hreply, -⟩ := connect_eq_ok.mp h
    rcases connectReply_cases hreply with ⟨-, hs⟩ | ⟨herror, -⟩
    · exact hkeep hs
    · exact .connect hreply herror
  -- disconnect
  · obtain ⟨key, hkey, h⟩ := Except.bind_eq_ok.mp h
    cases h
    exact .disconnect hkey
  -- request, response, notify, subscribe and unsubscribe
  · exact hkeep (request_keeps J env ctx s _ _ h)
  · exact hkeep (response_keeps J env ctx s _ _ h)
  · exact hkeep (notify_keeps J env ctx s _ _ h)
  · exact hkeep (forwardRegistered_keeps J env ctx s _ _ h)
  · exact hkeep (forwardRegistered_keeps J env ctx s _ _ h)

end Devices

end StreamCloud.Manager
