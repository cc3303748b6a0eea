-- SUMMARY: The session of the http server: its reads and writes, and the queue of responses between them.
import StreamCloud.Providers.Listener
import StreamCloud.Library.Trace

/-!
# http_session

`stream-providers/src/http/http_session.cpp` and `http_session.hpp`. An operation
completes when the io context says so: a read with a request or an error, a write
with or without one. The timer only closes the socket, so that the operations in
flight complete with `operation_aborted`.
-/

namespace StreamCloud.HttpServer

/-- What a write of a session ends with. -/
inductive Wrote
  | operationAborted
  | error
  | written
deriving DecidableEq

/-- The lengths of all responses are given, so that the connection has to be closed
behind those that do not keep it alive. -/
def Response.needEof (res : Response) : Bool := !res.keepAlive

/-- A session between two completions. `reads` and `writes` count the operations in
flight, `shut` says that nothing more can be sent, and `begun` is the history: the
responses whose write was started. -/
structure Connection where
  items : List Response
  reads : ℕ
  writes : ℕ
  shut : Bool
  begun : List Response
deriving DecidableEq

namespace Connection

variable (docRoot : String) (openFile : String → Opened)

def isFull (c : Connection) : Bool := Session.limit ≤ c.items.length

def doRead (c : Connection) : Connection := { c with reads := c.reads + 1 }

def doClose (c : Connection) : Connection := { c with shut := true }

/-- The work item in front of the queue is called. -/
def writeFront (c : Connection) : Connection :=
  { c with writes := c.writes + 1, begun := c.begun ++ c.items.head?.toList }

/-- A response that was put into an empty queue is written at once. -/
def startFirst (c : Connection) : Connection := if c.items.length = 1 then c.writeFront else c

/-- `run`. -/
def start : Connection := doRead ⟨[], 0, 0, false, []⟩

/-- `on_read`. -/
def onRead (c : Connection) : Read → Except Fault Connection
  | .operationAborted => return c
  | .endOfStream => return c.doClose
  | .error => return c
  | .request req => do
    let (session, _) ← listener docRoot openFile req ⟨c.items, false⟩
    let c := { c with items := session.items }.startFirst
    return (if c.isFull then c else c.doRead)

/-- `on_write` of the queue, with what it returns. -/
def queueOnWrite (c : Connection) : Connection × Bool :=
  let wasFull := c.isFull
  let c := { c with items := c.items.tail }
  (if c.items = [] then c else c.writeFront, wasFull)

/-- `on_write`. -/
def onWrite (c : Connection) (close : Bool) : Wrote → Connection
  | .operationAborted => c
  | .error => c
  | .written =>
    if close then c.doClose
    else
      let (c, wasFull) := c.queueOnWrite
      if wasFull then c.doRead else c

inductive Event
  | read (r : Read)
  | wrote (w : Wrote)

/-- An operation in flight completes. A write is that of the response in front. -/
inductive Step : Connection → Event → Connection → Prop
  | read {c c' : Connection} {r : Read} : 0 < c.reads →
      { c with reads := c.reads - 1 }.onRead docRoot openFile r = .ok c' → Step c (.read r) c'
  | wrote {c : Connection} {res : Response} {w : Wrote} : 0 < c.writes → c.items.head? = some res →
      Step c (.wrote w) ({ c with writes := c.writes - 1 }.onWrite res.needEof w)

end Connection

end StreamCloud.HttpServer
