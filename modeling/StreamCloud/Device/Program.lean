-- SUMMARY: The device program: its actors, its services and who knows whom.
import StreamCloud.Device.Control
import StreamCloud.Device.Manager
import StreamCloud.Providers.Sockets

/-!
# The device

`init_service` of `stream-device/src/device.cpp`.
-/

namespace StreamCloud.Device

inductive Actor
  | manager
  | control
  | client
deriving DecidableEq, Repr

/-- The services that have a state. -/
structure Services where
  control : Control.Impl
  client : WsClient

namespace Services

def controlLens : Lens Services Control.Impl := ⟨control, fun s control => { s with control }⟩

def clientLens : Lens Services WsClient := ⟨client, fun s client => { s with client }⟩

/-- The component of an actor without a state. -/
def unitLens : Lens Services Unit := ⟨fun _ => (), fun s _ => s⟩

end Services

open Services

def Actor.name : Actor → String
  | .manager => "manager"
  | .control => "control"
  | .client => "client"

def program (J : Codec) (config : Config) : Program Actor Services where
  name := Actor.name
  attached
    | .manager => liftAll unitLens (Manager.handlers J config)
    | .control => liftAll controlLens (Control.handlers J)
    | .client => liftAll clientLens WsClient.handlers

/-- The contacts that `join` and `add_shared` give to every actor. There is no
websocket server among them. -/
def contacts : Actor → List (String × Actor)
  | .manager => [("client", .client), ("control", .control)]
  | .control => [("client", .client), ("manager", .manager)]
  | .client => []

/-- The program at work. -/
abbrev State := Net Actor Services

abbrev handle (J : Codec) (config : Config) : Work.Handler State (Envelope Actor) Env Fault :=
  (program J config).handle

/-- The program before it has handled a message. -/
structure Initial (n : State) : Prop where
  contacts : n.contacts = contacts

/-- The program with its status off. -/
def blank : State where
  services := { control := { status := false }, client := { closingMessage := "" } }
  contacts := contacts

/-- The message that brings a frame of the manager to the device. -/
def frame (ws : WebSocket) : Envelope Actor where
  dest := .manager
  sender := .manager
  command := "dispatcher"
  body := .transport (.webSocket ws)

variable {J : Codec} {config : Config}

/-- A frame is handled by the dispatcher. -/
theorem handle_frame {env : Env} {n : State} {ws : WebSocket} :
    handle J config env n (frame ws) =
      (Manager.dispatcher J config env ((program J config).ctx n .manager) () (.webSocket ws)).map
        fun r => (n, r.2) :=
  (Program.handle_transport rfl rfl).trans rfl

end StreamCloud.Device
