-- SUMMARY: The control service of a device.
import StreamCloud.Core.Service

/-!
# control

`stream-device/src/control.cpp`.
-/

namespace StreamCloud.Device.Control

/-- `status` is not initialised: a device starts with either value. -/
structure Impl where
  status : Bool

variable {α : Type} (J : Codec)

/-- A text on its way to the manager, through the `manager` service. -/
def writeManager (ctx : Ctx α) (task : Task) (text : String) : Except Fault (List (Envelope α)) :=
  ctx.send "manager" "write" (.transport (.webSocket { id := task.transportId, body := text }))

def statusNotify (status : Bool) : NotifyMessage where
  method := "control.status"
  params := .boolean status
  metadata := []

/-- `on` and `off`: the response, and a notification for whoever listens. -/
def switch (status : Bool) : Handler α Impl Task := fun _ ctx s task => do
  -- the response goes first
  let response ← writeManager ctx task (((Reply.ok (.boolean true)).message task.request.id).serialize J)
  let notify ← writeManager ctx task ((statusNotify status).serialize J)
  return ({ s with status }, response ++ notify)

def on : Handler α Impl Task := switch J true

def off : Handler α Impl Task := switch J false

def status : Handler α Impl Task := fun _ ctx s task => do
  return (s, ← writeManager ctx task
    (((Reply.ok (.boolean s.status)).message task.request.id).serialize J))

def handlers : List (String × Action α Impl) :=
  [("on", .task (on J)), ("off", .task (off J)), ("status", .task (status J))]

end StreamCloud.Device.Control
