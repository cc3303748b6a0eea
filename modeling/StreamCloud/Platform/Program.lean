-- SUMMARY: The platform program: its actors, its services and who knows whom.
import StreamCloud.Platform.Profile
import StreamCloud.Platform.Managers
import StreamCloud.Platform.Router
import StreamCloud.System.ManagerInfo
import StreamCloud.Providers.Sockets

/-!
# The platform

`init_service` of `stream-platform/src/platform.cpp`.
-/

namespace StreamCloud.Platform

inductive Actor
  | router
  | profile
  | managers
  | managerInfo
  | ws
  | http
deriving DecidableEq, Repr

/-- The services that have a state. -/
structure Services where
  profile : Profile
  managers : Managers
  http : HttpServer

namespace Services

def profileLens : Lens Services Profile := ⟨profile, fun s profile => { s with profile }⟩

def managersLens : Lens Services Managers := ⟨managers, fun s managers => { s with managers }⟩

def httpLens : Lens Services HttpServer := ⟨http, fun s http => { s with http }⟩

/-- The component of an actor without a state. -/
def unitLens : Lens Services Unit := ⟨fun _ => (), fun s _ => s⟩

end Services

open Services

def Actor.name : Actor → String
  | .router => "router"
  | .profile => "profile"
  | .managers => "managers"
  | .managerInfo => "manager"
  | .ws => "ws"
  | .http => "http"

/-- `managerKey` is the `manager-key` of the configuration, if it has one. -/
def program (J : Codec) (managerKey : String) : Program Actor Services where
  name := Actor.name
  attached
    | .router => liftAll unitLens (Router.handlers J)
    | .profile => liftAll profileLens (Profile.handlers J)
    | .managers => liftAll managersLens (Managers.handlers J)
    | .managerInfo => liftAll unitLens (ManagerInfo.handlers J managerKey)
    | .ws => liftAll unitLens (WsServer.handlers [])
    | .http => liftAll httpLens HttpServer.handlers

/-- The contacts that `join` and `add_shared` give to every actor. -/
def contacts : Actor → List (String × Actor)
  | .router => [("http", .http), ("ws", .ws), ("profile", .profile), ("managers", .managers),
      ("manager", .managerInfo)]
  | .profile => [("ws", .ws), ("router", .router)]
  | .managers => [("ws", .ws), ("http", .http), ("router", .router)]
  | .managerInfo => [("ws", .ws), ("router", .router)]
  | .ws | .http => []

/-- The program at work. -/
abbrev State := Net Actor Services

abbrev handle (J : Codec) (managerKey : String) : Work.Handler State (Envelope Actor) Env Fault :=
  (program J managerKey).handle

end StreamCloud.Platform
