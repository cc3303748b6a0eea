-- SUMMARY: The websocket server: its sessions, its session table and the router that ends them.
import StreamCloud.Core.Service
import StreamCloud.Manager.Router
import StreamCloud.Library.Trace

/-!
# ws_listener and ws_session

`stream-providers/src/ws`. The id of a session is the clock reading at which it
was accepted. A session whose read loop ends tells the router, which has the
websocket server remove it or close it. A `shared_ptr` to a session is its place
among all sessions that were accepted.
-/

namespace StreamCloud.WsServer

/-- An asynchronous operation of a session that its life depends on. -/
inductive Operation
  | accept
  | read
deriving DecidableEq

/-- The two parties to the end of a session. -/
inductive Party
  | router
  | ws
deriving DecidableEq

/-- What a function of a session asks for. -/
inductive Effect
  | start (op : Operation)
  /-- A message for `main_pipe_`. -/
  | send (command : String) (transport : Transport)

/-- A session: whether it was run, its operations in flight and the frames it was
given to write. -/
structure Session where
  id : String
  isRun : Bool
  inFlight : List Operation
  frames : List String

namespace Session

/-- `fail`: the error is logged. -/
def fail : List Effect := []

/-- A session that was just made. -/
def fresh (id : String) : Session where
  id := id
  isRun := false
  inFlight := []
  frames := []

def run : List Effect := [.start .accept]

def onAccept : Option SocketErrorCode → List Effect
  | some _ => fail
  | none => [.start .read]

/-- A close of the other side is not reported. -/
def onRead (s : Session) : Except SocketErrorCode String → List Effect
  | .error .closed => []
  | .error ec => [.send "error" (.error { id := s.id, code := ec })]
  | .ok body => [.send "dispatcher" (.webSocket { id := s.id, body }), .start .read]

def write (s : Session) (frame : String) : Session := { s with frames := s.frames ++ [frame] }

/-- The completion handler of an operation. -/
def complete (s : Session) (r : Except SocketErrorCode String) : Operation → List Effect
  | .accept => onAccept (match r with | .error ec => some ec | .ok _ => none)
  | .read => s.onRead r

end Session

def Effect.started : Effect → Option Operation
  | .start op => some op
  | .send _ _ => none

/-- A message of a session for the router. -/
def Effect.message : Effect → Option (Envelope Party)
  | .start _ => none
  | .send command transport =>
    some { dest := .router, sender := .router, command, body := .transport transport }

/-- The operations that a function of the session starts are in flight. -/
def Session.after (s : Session) (effects : List Effect) : Session :=
  { s with inFlight := s.inFlight ++ effects.filterMap Effect.started }

/-- The table, all sessions that were accepted and the messages in the mailboxes. -/
structure Server where
  storageSessions : StringMap ℕ
  sessions : List Session
  mail : List (Envelope Party)

/-- What happens: a connection is accepted, or is not; an operation of a session
completes; a message is handled; a frame is to be written. -/
inductive Event
  | accepted (reading : ℕ)
  | acceptFailed
  | completed (k : ℕ) (op : Operation) (r : Except SocketErrorCode String)
  | handled (e : Envelope Party)
  | write (ws : WebSocket)

namespace Server

def empty : Server := ⟨∅, [], []⟩

/-- `run` of a session. -/
def runSession (s : Server) (k : ℕ) : Server :=
  { s with sessions := s.sessions.modify k fun session =>
      { session.after Session.run with isRun := true } }

/-- A function of a session has returned. -/
def after (s : Server) (k : ℕ) (effects : List Effect) : Server :=
  { s with
    sessions := s.sessions.modify k fun session => session.after effects
    mail := s.mail ++ effects.filterMap Effect.message }

/-- `on_accept`. `emplace` leaves a session that is there already, and it is the
session of the table that is run. -/
def onAccept (s : Server) (reading : ℕ) : Server :=
  let id := toString reading
  let k := s.sessions.length
  let s : Server := { s with
    sessions := s.sessions ++ [.fresh id]
    storageSessions := s.storageSessions.emplace id k }
  -- with the id of another session it is this one that is run once more
  s.runSession ((s.storageSessions.lookup id).getD k)

/-- `write`: a frame for a session of another program is piped. -/
def write (s : Server) (ws : WebSocket) : Server :=
  match s.storageSessions.lookup ws.id with
  | some k => { s with sessions := s.sessions.modify k fun session => session.write ws.body }
  | none => s

/-- `remove`. -/
def remove (s : Server) (ws : WebSocket) : Server :=
  { s with storageSessions := s.storageSessions.erase ws.id }

/-- `close`: the close of the connection itself is seen by its read. -/
def close (s : Server) (ws : WebSocket) : Server :=
  if ws.id ∈ s.storageSessions then s.remove ws else s

/-- What the router knows of its program. -/
def routerCtx : Ctx Party where
  self := .router
  contacts := [("ws", .ws)]
  messageTypes _ := []

/-- A message is handled, by the router or by the websocket server. A frame for
the dispatcher of the router is not followed further. -/
def handle (s : Server) (e : Envelope Party) : Option Server :=
  match e.dest, e.command, e.body with
  | .router, "error", .transport transport =>
    match routerCtx.socketError transport with
    | .ok out => some { s with mail := s.mail ++ out }
    | .error _ => none
  | .ws, "close", .transport (.webSocket ws) => some (s.close ws)
  | .ws, "remove", .transport (.webSocket ws) => some (s.remove ws)
  | _, _, _ => some s

def step (s : Server) : Event → Option Server
  | .accepted reading => some (s.onAccept reading)
  | .acceptFailed => some s
  | .completed k op r =>
    match s.sessions[k]? with
    | none => none
    | some session =>
      if op ∈ session.inFlight then
        some (after { s with sessions := s.sessions.set k { session with inFlight := session.inFlight.erase op } }
          k (session.complete r op))
      else none
  | .handled e => if e ∈ s.mail then handle { s with mail := s.mail.erase e } e else none
  | .write ws => some (s.write ws)

/-- The step relation. -/
def Step (s : Server) (e : Event) (s' : Server) : Prop := s.step e = some s'

/-- The clock readings of the accepted connections. -/
def readings (events : List Event) : List ℕ :=
  events.filterMap fun
    | .accepted reading => some reading
    | _ => none

end Server

end StreamCloud.WsServer
