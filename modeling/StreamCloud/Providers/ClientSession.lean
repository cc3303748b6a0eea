-- SUMMARY: The session of the websocket client: its completion handlers, its write queue and the event loop around it.
import StreamCloud.Api.Transport
import StreamCloud.Library.Trace

/-!
# ws_session

`stream-client/src/ws/ws_session.cpp`. A function of the session returns what it
asks for: asynchronous operations to start, functions to post to the strand and
messages for `pipe_`. The event loop has one thread, so that posted functions run
in the order in which they were posted. Which operations complete, when, and with
which error code is up to the other side.
-/

namespace StreamCloud.WsClient

/-- An asynchronous operation of a session. -/
inductive Operation
  | resolve (host port : String)
  | connect
  | handshake (host : String)
  | read
  | write (frame : String)
deriving DecidableEq

/-- The frame that an operation writes. -/
def Operation.frame? : Operation → Option String
  | .write frame => some frame
  | _ => none

/-- What a function of a session asks for. -/
inductive Effect
  | start (op : Operation)
  /-- The second half of `write`, posted to the strand. -/
  | post (frame : String)
  | close
  /-- A message for `pipe_`. -/
  | send (command : String) (transport : Transport)

structure Session where
  id : String
  host : String
  port : String
  que : List String

namespace Session

/-- A session before anything is called. -/
def fresh (id : String) : Session where
  id := id
  host := ""
  port := ""
  que := []

/-- `fail`: the error is logged. -/
def fail : List Effect := []

/-- `error`, reported to `pipe_`. -/
def report (s : Session) (ec : SocketErrorCode) : List Effect :=
  [.send "error" (.error { id := s.id, code := ec })]

/-- `async_write` of the front of the queue. -/
def writeFront (s : Session) : List Effect :=
  (s.que.head?.map fun frame => .start (.write frame)).toList

/-- With an error, the frame stays in the queue. -/
def onWrite (s : Session) : Option SocketErrorCode → Session × List Effect
  | some _ => (s, fail)
  | none =>
    let s := { s with que := s.que.tail }
    (s, s.writeFront)

def onRead (s : Session) : Except SocketErrorCode String → Session × List Effect
  | .error ec => (s, s.report ec)
  | .ok body => (s, [.send "dispatcher" (.webSocket { id := s.id, body }), .start .read])

def close (s : Session) : Session × List Effect := (s, [.close])

def run (s : Session) (host port : String) : Session × List Effect :=
  ({ s with host, port }, [.start (.resolve host port)])

def onResolve (s : Session) : Option SocketErrorCode → Session × List Effect
  | some _ => (s, fail)
  | none => (s, [.start .connect])

def onConnect (s : Session) : Option SocketErrorCode → Session × List Effect
  | some ec => (s, s.report ec)
  | none => (s, [.start (.handshake s.host)])

/-- `body` is what the buffer holds. -/
def onHandshake (s : Session) : Except SocketErrorCode String → Session × List Effect
  | .error _ => (s, fail)
  | .ok body => (s, [.send "handshake" (.webSocket { id := s.id, body }), .start .read])

def write (s : Session) (frame : String) : Session × List Effect := (s, [.post frame])

/-- What `write` posts. The queue is empty exactly where no write is taken to be
in progress. -/
def runPosted (s : Session) (frame : String) : Session × List Effect :=
  let writeInProgress := !s.que.isEmpty
  let s := { s with que := s.que ++ [frame] }
  if writeInProgress then (s, []) else (s, s.writeFront)

theorem runPosted_effects (s : Session) (frame : String) :
    (s.runPosted frame).2 = if s.que = [] then [.start (.write frame)] else [] := by
  cases hque : s.que <;> simp [runPosted, writeFront, hque]

end Session

/-- The error code of a completion, if it has one. -/
def errorCode : Except SocketErrorCode String → Option SocketErrorCode
  | .error ec => some ec
  | .ok _ => none

/-- The completion handler of an operation. -/
def Session.complete (s : Session) (r : Except SocketErrorCode String) :
    Operation → Session × List Effect
  | .resolve _ _ => s.onResolve (errorCode r)
  | .connect => s.onConnect (errorCode r)
  | .handshake _ => s.onHandshake r
  | .read => s.onRead r
  | .write _ => s.onWrite (errorCode r)

/-! ## The event loop -/

/-- A session with its operations in flight and its posted functions. `isOpen` is
what the completions tell of the connection. `calls` are the texts of all `write`
calls and `left` the frames given to `async_write`, the oldest first. -/
structure Loop where
  session : Session
  inFlight : List Operation
  posted : List String
  isOpen : Bool
  calls : List String
  left : List String

/-- What can happen to a session: calls of its functions, and completions. -/
inductive Event
  | run (host port : String)
  | write (frame : String)
  | close
  | posted
  | completed (op : Operation) (r : Except SocketErrorCode String)

namespace Loop

def idle (id : String) : Loop where
  session := .fresh id
  inFlight := []
  posted := []
  isOpen := false
  calls := []
  left := []

def perform (l : Loop) : Effect → Loop
  | .start op =>
    { l with inFlight := l.inFlight ++ [op], left := l.left ++ op.frame?.toList }
  | .post frame => { l with posted := l.posted ++ [frame] }
  | .close => { l with isOpen := false }
  | .send _ _ => l

/-- A function of the session has returned. -/
def after (l : Loop) (r : Session × List Effect) : Loop :=
  r.2.foldl perform { l with session := r.1 }

/-- Whether the connection is open after a completion. -/
def openAfter (isOpen : Bool) : Operation → Except SocketErrorCode String → Bool
  | .handshake _, .ok _ => true
  -- a read that fails tells that the connection is gone
  | .read, .error _ => false
  | _, _ => isOpen

/-- The function that an event calls, and the loop it is called in. -/
def call (l : Loop) : Event → Option (Loop × Session × List Effect)
  | .run host port => some (l, l.session.run host port)
  | .write frame => some ({ l with calls := l.calls ++ [frame] }, l.session.write frame)
  | .close => some (l, l.session.close)
  | .posted =>
    match l.posted with
    | [] => none
    | frame :: posted => some ({ l with posted }, l.session.runPosted frame)
  | .completed op r =>
    -- what is not in flight cannot complete
    if op ∈ l.inFlight then
      some ({ l with inFlight := l.inFlight.erase op, isOpen := openAfter l.isOpen op r },
        l.session.complete r op)
    else none

/-- The operation that an effect starts. -/
def started : Effect → Option Operation
  | .start op => some op
  | _ => none

/-- What is in flight after a function has returned: what was, and what it started. -/
@[simp] theorem inFlight_after (l : Loop) (r : Session × List Effect) :
    (l.after r).inFlight = l.inFlight ++ r.2.filterMap started := by
  have hfold : ∀ (effects : List Effect) (l : Loop),
      (effects.foldl perform l).inFlight = l.inFlight ++ effects.filterMap started := by
    intro effects
    induction effects with
    | nil => simp
    | cons effect effects ih =>
      intro l
      rw [List.foldl_cons, ih]
      cases effect <;> simp [perform, started, List.filterMap_cons]
  exact hfold _ _

/-- Only `close` changes what is known of the connection. -/
theorem isOpen_after (l : Loop) {r : Session × List Effect} (h : ∀ effect ∈ r.2, effect ≠ .close) :
    (l.after r).isOpen = l.isOpen := by
  have hfold : ∀ (effects : List Effect) (l : Loop), (∀ effect ∈ effects, effect ≠ .close) →
      (effects.foldl perform l).isOpen = l.isOpen := by
    intro effects
    induction effects with
    | nil => simp
    | cons effect effects ih =>
      intro l h
      rw [List.foldl_cons, ih _ fun effect' h' => h effect' (List.mem_cons_of_mem _ h')]
      cases effect with
      | close => exact absurd rfl (h .close List.mem_cons_self)
      | _ => rfl
  exact hfold _ _ h

/-- What happens, and the effects of the function that was called. -/
def step (l : Loop) (e : Event) : Option (Loop × List Effect) :=
  (l.call e).map fun (l, r) => (l.after r, r.2)

/-- The step relation. -/
def Step (l : Loop) (e : Event) (l' : Loop) : Prop := ∃ effects, l.step e = some (l', effects)

/-- Several events, one after the other. -/
def steps : Loop → List Event → Option Loop
  | l, [] => some l
  | l, e :: events => (l.step e).bind fun r => steps r.1 events

theorem trace_of_steps {l l' : Loop} {events : List Event} (h : l.steps events = some l') :
    Lts.Trace Step l events l' := by
  induction events generalizing l with
  | nil =>
    cases h
    exact .nil
  | cons e events ih =>
    obtain ⟨⟨l₁, effects⟩, hstep, hrest⟩ := Option.bind_eq_some_iff.mp h
    exact .cons ⟨effects, hstep⟩ (ih hrest)

/-- The frames of the `async_write`s in flight. -/
def writes (l : Loop) : List String := l.inFlight.filterMap Operation.frame?

end Loop

end StreamCloud.WsClient
