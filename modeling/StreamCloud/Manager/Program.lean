-- SUMMARY: The manager program: its actors, its services and who knows whom.
import StreamCloud.Manager.Users
import StreamCloud.Manager.Groups
import StreamCloud.Manager.Subscriptions
import StreamCloud.Manager.Connections
import StreamCloud.Manager.Devices
import StreamCloud.Manager.PlatformService
import StreamCloud.System.ManagerInfo
import StreamCloud.Providers.Sockets

/-!
# The manager

`init_service` of `stream-manager/src/manager.cpp`.
-/

namespace StreamCloud.Manager

inductive Actor
  | router
  | users
  | groups
  | subscriptions
  | connections
  | devices
  | platform
  | managerInfo
  | ws
  | client
  | http
deriving DecidableEq, Repr

/-- The services that have a state. -/
structure Services where
  users : Users
  groups : Groups
  subscriptions : Subscriptions
  connections : Connections
  devices : Devices
  client : WsClient
  http : HttpServer

namespace Services

def usersLens : Lens Services Users := ⟨users, fun s users => { s with users }⟩

def groupsLens : Lens Services Groups := ⟨groups, fun s groups => { s with groups }⟩

def subscriptionsLens : Lens Services Subscriptions :=
  ⟨subscriptions, fun s subscriptions => { s with subscriptions }⟩

def connectionsLens : Lens Services Connections :=
  ⟨connections, fun s connections => { s with connections }⟩

def devicesLens : Lens Services Devices := ⟨devices, fun s devices => { s with devices }⟩

def clientLens : Lens Services WsClient := ⟨client, fun s client => { s with client }⟩

def httpLens : Lens Services HttpServer := ⟨http, fun s http => { s with http }⟩

/-- The component of an actor without a state. -/
def unitLens : Lens Services Unit := ⟨fun _ => (), fun s _ => s⟩

end Services

open Services

def Actor.name : Actor → String
  | .router => "router"
  | .users => "users"
  | .groups => "groups"
  | .subscriptions => "subscriptions"
  | .connections => "connections"
  | .devices => "devices"
  | .platform => "platform"
  | .managerInfo => "manager"
  | .ws => "ws"
  | .client => "client"
  | .http => "http"

def program (J : Codec) (config : Config) : Program Actor Services where
  name := Actor.name
  attached
    | .router => liftAll unitLens (Router.handlers J config)
    | .users => liftAll usersLens (Users.handlers J)
    | .groups => liftAll groupsLens (Groups.handlers J)
    | .subscriptions => liftAll subscriptionsLens (Subscriptions.handlers J)
    | .connections => liftAll connectionsLens (Connections.handlers J)
    | .devices => liftAll devicesLens (Devices.handlers J)
    | .platform => liftAll unitLens (PlatformService.handlers J config)
    | .managerInfo => liftAll unitLens (ManagerInfo.handlers J config.managerKey)
    | .ws => liftAll unitLens (WsServer.handlers [.platform])
    | .client => liftAll clientLens WsClient.handlers
    | .http => liftAll httpLens HttpServer.handlers

/-- The contacts that `join` and `add_shared` give to every actor. -/
def contacts : Actor → List (String × Actor)
  | .router => [("users", .users), ("groups", .groups), ("subscriptions", .subscriptions),
      ("connections", .connections), ("devices", .devices), ("http", .http), ("ws", .ws),
      ("client", .client), ("manager", .managerInfo)]
  | .users => [("ws", .ws), ("client", .client), ("router", .router), ("groups", .groups),
      ("subscriptions", .subscriptions), ("connections", .connections), ("devices", .devices)]
  | .groups => [("ws", .ws), ("client", .client), ("router", .router), ("users", .users),
      ("subscriptions", .subscriptions), ("connections", .connections), ("devices", .devices)]
  | .subscriptions => [("ws", .ws), ("client", .client), ("router", .router), ("users", .users),
      ("groups", .groups), ("connections", .connections), ("devices", .devices)]
  | .connections => [("ws", .ws), ("client", .client), ("router", .router), ("users", .users),
      ("groups", .groups), ("subscriptions", .subscriptions), ("devices", .devices)]
  | .devices => [("ws", .ws), ("client", .client), ("router", .router), ("users", .users),
      ("groups", .groups), ("subscriptions", .subscriptions), ("connections", .connections)]
  | .platform => [("ws", .ws), ("client", .client), ("router", .router), ("users", .users),
      ("groups", .groups), ("subscriptions", .subscriptions), ("connections", .connections)]
  | .managerInfo => [("ws", .ws), ("router", .router)]
  | .ws | .client | .http => []

/-- The program at work: services in some state, contacts as they were wired. -/
abbrev State := Net Actor Services

abbrev handle (J : Codec) (config : Config) : Work.Handler State (Envelope Actor) Env Fault :=
  (program J config).handle

end StreamCloud.Manager
