-- SUMMARY: The write half of the websocket server: the queue of each session, and the frames on their way into it.
import StreamCloud.Providers.ServerSession

/-!
# The queues of the sessions

`stream-providers/src/ws/ws_session.cpp`. A frame that is handed to a session is
posted to the strand of the session, and put into `_que` there. The event loop
has one thread, so that posted functions run in the order in which they were
posted. When a write completes, and with which error code, is up to the other
side; a session that has left the table still has its writes completed.
-/

namespace StreamCloud.WsServer

/-- The write half of a session. `posted` are the frames posted to the strand,
`writing` those of the `async_write`s in flight. `calls` are the texts of all
`write` calls and `left` the frames given to `async_write`, the oldest first. -/
structure Output where
  que : List String
  posted : List String
  writing : List String
  calls : List String
  left : List String

namespace Output

def fresh : Output := ⟨[], [], [], [], []⟩

/-- `async_write` of the front of the queue, if there is one. -/
def writeFront (o : Output) : Output :=
  { o with writing := o.writing ++ o.que.head?.toList, left := o.left ++ o.que.head?.toList }

def write (o : Output) (frame : String) : Output :=
  { o with posted := o.posted ++ [frame], calls := o.calls ++ [frame] }

/-- What `write` posts. The queue is empty exactly where no write is taken to be
in progress. -/
def runPosted (o : Output) (frame : String) : Output :=
  let writeInProgress := !o.que.isEmpty
  let o := { o with que := o.que ++ [frame] }
  if writeInProgress then o else o.writeFront

/-- With an error, the frame stays in the queue. -/
def onWrite (o : Output) : Option SocketErrorCode → Output
  | some _ => o
  | none => { o with que := o.que.tail }.writeFront

end Output

/-- The server with the write half of every session that was accepted. -/
structure Endpoint where
  server : Server
  outputs : List Output

namespace Endpoint

/-- What happens: something to the server, a posted function of a session, or the
completion of one of its writes. -/
inductive Event
  | server (e : WsServer.Event)
  | posted (k : ℕ)
  | written (k : ℕ) (frame : String) (ec : Option SocketErrorCode)

def empty : Endpoint := ⟨.empty, []⟩

/-- What an event of the server does to the write halves: an accepted session has
one, and a frame for a session of the table is handed to its own. -/
def outputsAfter (s : Endpoint) : WsServer.Event → List Output
  | .accepted _ => s.outputs ++ [.fresh]
  | .write ws =>
    match s.server.storageSessions.lookup ws.id with
    | some k => s.outputs.modify k fun o => o.write ws.body
    | none => s.outputs
  | _ => s.outputs

def step (s : Endpoint) : Event → Option Endpoint
  | .server e => (s.server.step e).map fun server => { server, outputs := s.outputsAfter e }
  | .posted k =>
    match s.outputs[k]? with
    | none => none
    | some o =>
      match o.posted with
      | [] => none
      | frame :: posted =>
        some { s with outputs := s.outputs.set k ({ o with posted }.runPosted frame) }
  | .written k frame ec =>
    match s.outputs[k]? with
    | none => none
    | some o =>
      if frame ∈ o.writing then
        some { s with
          outputs := s.outputs.set k ({ o with writing := o.writing.erase frame }.onWrite ec) }
      else none

/-- The step relation. -/
def Step (s : Endpoint) (e : Event) (s' : Endpoint) : Prop := s.step e = some s'

end Endpoint

end StreamCloud.WsServer
