-- SUMMARY: The connections service of the manager.
import StreamCloud.Core.Service

/-!
# connections

`stream-manager/src/connections.cpp`.
-/

namespace StreamCloud.Manager

structure ConnectionRow where
  groupKey : Text
  deviceKey : Text
deriving DecidableEq

structure Connections where
  rows : List ConnectionRow

namespace Connections

variable {α : Type}

/-- `select group_key from connections where device_key = ?`. -/
def selectGroups (s : Connections) (deviceKey : Text) : List Text :=
  (s.rows.filter fun row => row.deviceKey = deviceKey).map ConnectionRow.groupKey

/-- `select device_key from connections where group_key = ?`. -/
def selectDevices (s : Connections) (groupKey : Text) : List Text :=
  (s.rows.filter fun row => row.groupKey = groupKey).map ConnectionRow.deviceKey

variable (J : Codec)

def groupAndDevice (task : Task) : Except Fault (String × String) := do
  return (← task.paramString "group-key", ← task.paramString "device-key")

def add : Handler α Connections Task := fun env ctx s task =>
  ctx.answer J task s (groupAndDevice task)
    (fun (groupKey, deviceKey) => !groupKey.isEmpty && !deviceKey.isEmpty)
    "group-key or device-key empty"
    fun (groupKey, deviceKey) => do
      env.db.execute
      let row := { groupKey := .bind groupKey, deviceKey := .bind deviceKey }
      return ({ s with rows := s.rows ++ [row] }, .ok (.boolean true))

def delete : Handler α Connections Task := fun env ctx s task =>
  ctx.answer J task s (groupAndDevice task)
    (fun (groupKey, deviceKey) => !groupKey.isEmpty && !deviceKey.isEmpty)
    "group-key or device-key empty"
    fun (groupKey, deviceKey) => do
      env.db.execute
      let rows := s.rows.filter fun row =>
        ¬ (row.groupKey = Text.bind groupKey ∧ row.deviceKey = Text.bind deviceKey)
      return ({ s with rows }, .ok (.boolean true))

def list : Handler α Connections Task := fun env ctx s task =>
  ctx.answer J task s (task.paramString "group-key") (fun groupKey => !groupKey.isEmpty)
    "group-key empty" fun groupKey => do
      env.db.execute
      let devicesList := (s.selectDevices (.bind groupKey)).map fun key => .string key.val
      return (s, .ok (.array devicesList))

def groups : Handler α Connections Task := fun env ctx s task =>
  ctx.answer J task s task.request.params.asArray (fun groupKeyList => !groupKeyList.isEmpty)
    "devices not found" fun groupKeyList => do
      let groups ← groupKeyList.mapM JsonValue.asString
      env.db.execute
      -- as in the subscriptions service, one `?` takes all keys
      let devicesList := (s.selectDevices (.bind (joinGroups groups))).map fun key => .string key.val
      return (s, .ok (.array devicesList))

/-- `devices` and `subscribe`: the groups of a device are put into the metadata
and the task goes on to the subscriptions service. -/
def forwardGroups (deviceKey : Task → Except Fault String) (command : String) :
    Handler α Connections Task := fun env ctx s task => do
  let deviceKey ← deviceKey task
  if deviceKey.isEmpty then
    return (s, ← ctx.respond J task (.failed "device-key empty"))
  else
    catchStd (do
      env.db.execute
      let groupsList := (s.selectGroups (.bind deviceKey)).map fun key => .string key.val
      -- a device without a group is refused here, to an administrator as well
      if groupsList.isEmpty then
        return (s, ← ctx.respond J task (.failed "device groups empty"))
      else
        return (s, ← ctx.send "subscriptions" command
          (.task (task.setMetadata "device-groups" (.array groupsList)))))
      fun what => return (s, ← ctx.respond J task (.failed what))

/-- What `forwardGroups` does while the database answers. -/
theorem forwardGroups_eq {deviceKey : Task → Except Fault String} {command key : String}
    {env : Env} {ctx : Ctx α} {s : Connections} {task : Task} {subscriptions ws : α}
    (hdb : env.db = none) (hkey : deviceKey task = .ok key)
    (hsubscriptions : ctx.contacts.lookup "subscriptions" = some subscriptions)
    (hws : ctx.contacts.lookup "ws" = some ws) :
    forwardGroups J deviceKey command env ctx s task =
      if key.isEmpty then .ok (s, [ctx.response J ws task (.failed "device-key empty")])
      else if s.selectGroups (.bind key) = [] then
        .ok (s, [ctx.response J ws task (.failed "device groups empty")])
      else .ok (s, [{
        dest := subscriptions
        sender := ctx.self
        command
        body := .task (task.setMetadata "device-groups"
          (.array (((s.selectGroups (.bind key)).map Text.val).map .string))) }]) := by
  have hrespond : ∀ reply, ctx.respond J task reply = .ok [ctx.response J ws task reply] :=
    fun _ => Ctx.respond_of_contact hws
  unfold forwardGroups
  simp only [hkey, Except.ok_bind', hdb, Db.execute, hrespond]
  split
  · rfl
  · simp only [List.isEmpty_iff, List.map_eq_nil_iff]
    split
    · rfl
    · rw [Ctx.send_of_contact hsubscriptions, List.map_map]
      rfl

def devices : Handler α Connections Task :=
  forwardGroups J (fun task => task.metadataString "device-key") "groups"

def subscribe : Handler α Connections Task :=
  forwardGroups J (fun task => task.paramString "device-key") "on"

def unsubscribe : Handler α Connections Task := fun _ ctx s task => do
  let deviceKey ← task.paramString "device-key"
  if deviceKey.isEmpty then
    return (s, ← ctx.respond J task (.failed "device-key empty"))
  else
    catchStd (do return (s, ← ctx.send "subscriptions" "off" (.task task)))
      fun what => return (s, ← ctx.respond J task (.failed what))

def handlers : List (String × Action α Connections) :=
  [("add", .task (add J)), ("delete", .task (delete J)), ("list", .task (list J)),
    ("groups", .task (groups J)), ("devices", .task (devices J)),
    ("subscribe", .task (subscribe J)), ("unsubscribe", .task (unsubscribe J))]

/-! ## What is sent -/

/-- The messages of each handler of the connections service. -/
inductive Sent : String → String → String → Body α → Prop
  | write (handler : String) (ws : WebSocket) :
      Sent handler "ws" "write" (.transport (.webSocket ws))
  | groups (task : Task) : Sent "devices" "subscriptions" "groups" (.task task)
  | on (task : Task) : Sent "subscribe" "subscriptions" "on" (.task task)
  | off (task : Task) : Sent "unsubscribe" "subscriptions" "off" (.task task)

theorem forwardGroups_sends {handler command : String}
    (hcommand : ∀ task, Sent (α := α) handler "subscriptions" command (.task task))
    (deviceKey : Task → Except Fault String) (env : Env) (ctx : Ctx α) (s : Connections)
    (task : Task) :
    (forwardGroups J deviceKey command env ctx s task).Ensures fun r => ctx.Sends (Sent handler) r.2 := by
  unfold forwardGroups
  refine Except.ensures_bind.mpr fun _ _ => Except.ensures_ite (fun _ => ?_) fun _ => ?_
  · exact Ctx.respond_sends_return (Sent.write _)
  · refine catchStd_ensures ?_ fun what => Ctx.respond_sends_return (Sent.write _)
    refine Except.ensures_bind.mpr fun _ _ => Except.ensures_ite (fun _ => ?_) fun _ => ?_
    · exact Ctx.respond_sends_return (Sent.write _)
    · exact Ctx.send_sends_return (hcommand _)

theorem unsubscribe_sends (env : Env) (ctx : Ctx α) (s : Connections) (task : Task) :
    (unsubscribe J env ctx s task).Ensures fun r => ctx.Sends (Sent "unsubscribe") r.2 := by
  unfold unsubscribe
  refine Except.ensures_bind.mpr fun _ _ => Except.ensures_ite (fun _ => ?_) fun _ => ?_
  · exact Ctx.respond_sends_return (Sent.write _)
  · exact catchStd_ensures (Ctx.send_sends_return (.off _)) fun what =>
      Ctx.respond_sends_return (Sent.write _)

theorem sends {env : Env} {ctx : Ctx α} {s : Connections} {command : String}
    {action : Action α Connections} {body : Body α} {r : Connections × List (Envelope α)}
    (hmem : (command, action) ∈ handlers J) (h : Action.Ran env ctx s action body r) :
    ctx.Sends (Sent command) r.2 := by
  simp only [handlers, List.mem_cons, Prod.mk.injEq, List.not_mem_nil, or_false] at hmem
  rcases hmem with ⟨rfl, rfl⟩ | ⟨rfl, rfl⟩ | ⟨rfl, rfl⟩ | ⟨rfl, rfl⟩ | ⟨rfl, rfl⟩ | ⟨rfl, rfl⟩ | ⟨rfl, rfl⟩ <;>
    cases h with | task h
  · exact Ctx.answer_sends (Sent.write _) r h
  · exact Ctx.answer_sends (Sent.write _) r h
  · exact Ctx.answer_sends (Sent.write _) r h
  · exact Ctx.answer_sends (Sent.write _) r h
  · exact forwardGroups_sends J .groups _ env ctx s _ r h
  · exact forwardGroups_sends J .on _ env ctx s _ r h
  · exact unsubscribe_sends J env ctx s _ r h

end Connections

end StreamCloud.Manager
