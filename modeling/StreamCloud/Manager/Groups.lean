-- SUMMARY: The groups service of the manager.
import StreamCloud.Core.Service

/-!
# groups

`stream-manager/src/groups.cpp`.
-/

namespace StreamCloud.Manager

structure GroupRow where
  key : Text
  name : Text
deriving DecidableEq

/-- The groups table: `name` is unique besides the primary key. -/
structure GroupTable extends Keyed GroupRow Text GroupRow.key where
  names : (rows.map GroupRow.name).Nodup

namespace GroupTable

def insert (t : GroupTable) (r : GroupRow) : Except Fault GroupTable :=
  -- either of the two unique columns can be taken
  if h : r.key ∈ t.rows.map GroupRow.key ∨ r.name ∈ t.rows.map GroupRow.name then
    .error constraintFailed
  else .ok {
    rows := t.rows ++ [r]
    nodup := by
      simpa [List.nodup_append, t.nodup] using
        fun x hx heq => h (.inl (List.mem_map.mpr ⟨x, hx, heq⟩))
    names := by
      simpa [List.nodup_append, t.names] using
        fun x hx heq => h (.inr (List.mem_map.mpr ⟨x, hx, heq⟩)) }

def delete (t : GroupTable) (p : GroupRow → Bool) : GroupTable where
  toKeyed := t.toKeyed.delete p
  names := t.names.sublist ((List.filter_sublist).map GroupRow.name)

end GroupTable

structure Groups where
  table : GroupTable

namespace Groups

variable {α : Type} (J : Codec)

def add : Handler α Groups Task := fun env ctx s task =>
  ctx.answer J task s (do return (← task.paramString "key", ← task.paramString "name"))
    (fun (key, name) => !key.isEmpty && !name.isEmpty) "key or name empty"
    fun (key, name) => do
      env.db.execute
      let table ← s.table.insert { key := .bind key, name := .bind name }
      return ({ s with table }, .ok (.boolean true))

def delete : Handler α Groups Task := fun env ctx s task =>
  ctx.answer J task s (task.paramString "key") (fun key => !key.isEmpty) "key group empty"
    fun key => do
      env.db.execute
      let table := s.table.delete fun row => row.key = Text.bind key
      return ({ s with table }, .ok (.boolean true))

def list : Handler α Groups Task := fun env ctx s task =>
  ctx.answer J task s (.ok ()) (fun _ => true) "" fun _ => do
    env.db.execute
    let usersList := s.table.rows.map fun row =>
      .map (JsonMap.ofMembers [("key", .string row.key.val), ("name", .string row.name.val)])
    return (s, .ok (.array usersList))

def handlers : List (String × Action α Groups) :=
  [("add", .task (add J)), ("delete", .task (delete J)), ("list", .task (list J))]

/-! ## What is sent -/

/-- The messages of each handler of the groups service. -/
inductive Sent : String → String → String → Body α → Prop
  | write (handler : String) (ws : WebSocket) :
      Sent handler "ws" "write" (.transport (.webSocket ws))

theorem sends {env : Env} {ctx : Ctx α} {s : Groups} {command : String} {action : Action α Groups}
    {body : Body α} {r : Groups × List (Envelope α)} (hmem : (command, action) ∈ handlers J)
    (h : Action.Ran env ctx s action body r) : ctx.Sends (Sent command) r.2 := by
  simp only [handlers, List.mem_cons, Prod.mk.injEq, List.not_mem_nil, or_false] at hmem
  rcases hmem with ⟨rfl, rfl⟩ | ⟨rfl, rfl⟩ | ⟨rfl, rfl⟩ <;> cases h with | task h
  · exact Ctx.answer_sends (Sent.write _) r h
  · exact Ctx.answer_sends (Sent.write _) r h
  · exact Ctx.answer_sends (Sent.write _) r h

end Groups

end StreamCloud.Manager
