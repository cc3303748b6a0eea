-- SUMMARY: The service that tells the key of the manager.
import StreamCloud.Core.Service

/-!
# manager_info

`stream-manager-info/src/manager_info.cpp`. Its name is `manager`.
-/

namespace StreamCloud.ManagerInfo

variable {α : Type} (J : Codec)

def info (managerKey : String) : Handler α Unit Task := fun _ ctx s task => do
  return (s, ← ctx.respond J task (.ok (.string managerKey)))

def handlers (managerKey : String) : List (String × Action α Unit) :=
  [("info", .task (info J managerKey))]

/-! ## What is sent -/

/-- The messages of each handler of this service. -/
inductive Sent : String → String → String → Body α → Prop
  | write (handler : String) (ws : WebSocket) :
      Sent handler "ws" "write" (.transport (.webSocket ws))

theorem sends {managerKey : String} {env : Env} {ctx : Ctx α} {s : Unit} {command : String}
    {action : Action α Unit} {body : Body α} {r : Unit × List (Envelope α)}
    (hmem : (command, action) ∈ handlers J managerKey) (h : Action.Ran env ctx s action body r) :
    ctx.Sends (Sent command) r.2 := by
  obtain ⟨rfl, rfl⟩ := Prod.mk.inj (List.mem_singleton.mp hmem)
  cases h with | task h
  exact Ctx.respond_sends_return (Sent.write _) r h

end StreamCloud.ManagerInfo
