-- SUMMARY: A program together with the session of its websocket client.
import StreamCloud.Providers.ClientSession
import StreamCloud.Core.Typing

/-!
# The link to the other side

`stream-client/src/ws/ws_client.cpp`: the client calls its session for the
messages it is sent, and the session reports to the service that is its `pipe`.
That service decides what is done about an error.
-/

namespace StreamCloud

/-- A program, the messages in its mailboxes, and the session of its client. -/
structure Link (α S : Type) where
  net : Net α S
  mail : List (Envelope α)
  loop : WsClient.Loop

namespace Link

open WsClient (Operation Effect Loop)

variable {α S : Type}

/-- What happens: a message arrives that the session does not send, a message is
handled, or something happens to the session. -/
inductive Event (α : Type)
  | arrives (e : Envelope α)
  | handled (env : Env) (e : Envelope α)
  | posted
  | completed (op : Operation) (r : Except SocketErrorCode String)

/-- A message of the session for its pipe. -/
def pipeMessage (pipe : α) : Effect → Option (Envelope α)
  | .send command transport =>
    some { dest := pipe, sender := pipe, command, body := .transport transport }
  | _ => none

/-- What a handler of the client calls. -/
def clientCall (l : Loop) (command : String) (body : Body α) : Option WsClient.Event :=
  match command, body with
  | "write", .transport (.webSocket ws) => some (.write ws.body)
  | "reconnect", _ => some (.run l.session.host l.session.port)
  | "close", _ => some .close
  | _, _ => none

variable [DecidableEq α]

/-- What the handling of a message does to the session. -/
def sessionAfter (client : α) (l : Loop) (e : Envelope α) : Loop × List Effect :=
  if e.dest = client then ((clientCall l e.command e.body).bind l.step).getD (l, []) else (l, [])

/-! ## Who keeps the link

At every time one thing keeps the link: an operation, an error that was reported
or a reconnect that was asked for. -/

/-- The operations that keep the link. -/
def keepsLink : Operation → Bool
  | .write _ => false
  | _ => true

/-- The error that a message reports to the pipe. -/
def reported (pipe : α) (e : Envelope α) : Option SocketError :=
  match e.command, e.body with
  | "error", .transport (.error err) => if e.dest = pipe then some err else none
  | _, _ => none

/-- A reconnect, asked for. -/
def isReconnect (client : α) (e : Envelope α) : Bool :=
  decide (e.dest = client) && decide (e.command = "reconnect")

/-- A reported error, or a reconnect that was asked for. -/
def isToken (pipe client : α) (e : Envelope α) : Bool :=
  (reported pipe e).isSome || isReconnect client e

/-- `close`, with the text of the dispatcher: the other side asked for it. -/
def isDeliberate (client : α) (e : Envelope α) : Bool :=
  match e.command, e.body with
  | "close", .text _ => decide (e.dest = client)
  | _, _ => false

/-- `close`, with the transport of the error handler: the link is given up. -/
def givesUp (client : α) (e : Envelope α) : Bool :=
  decide (e.dest = client) && decide (e.command = "close") && !isDeliberate client e

/-- A message that has nothing to do with errors of the link. -/
def isQuiet (pipe client : α) (e : Envelope α) : Bool :=
  !isToken pipe client e && !givesUp client e

/-- One thing happens. Only the session and the pipe's handler of errors have to
do with errors of the link. -/
inductive Step (P : Program α S) (pipe client : α) : Link α S → Event α → Link α S → Prop
  | arrives {l : Link α S} {e : Envelope α} : e.Plain → isQuiet pipe client e →
      Step P pipe client l (.arrives e) { l with mail := l.mail ++ [e] }
  | handled {l : Link α S} {env : Env} {e : Envelope α} {net : Net α S} {out : List (Envelope α)} :
      e ∈ l.mail → P.handle env l.net e = .ok (net, out) →
      Step P pipe client l (.handled env e) {
        net
        mail := l.mail.erase e ++ out ++
          (sessionAfter client l.loop e).2.filterMap (pipeMessage pipe)
        loop := (sessionAfter client l.loop e).1 }
  | posted {l : Link α S} {loop : Loop} {effects : List Effect} :
      l.loop.step .posted = some (loop, effects) →
      Step P pipe client l .posted
        { l with loop, mail := l.mail ++ effects.filterMap (pipeMessage pipe) }
  | completed {l : Link α S} {op : Operation} {r : Except SocketErrorCode String} {loop : Loop}
      {effects : List Effect} : l.loop.step (.completed op r) = some (loop, effects) →
      Step P pipe client l (.completed op r)
        { l with loop, mail := l.mail ++ effects.filterMap (pipeMessage pipe) }

/-- `startup`: the session is run. -/
def start (net : Net α S) (id host port : String) : Link α S where
  net := net
  mail := []
  loop := (Loop.idle id).after ((WsClient.Session.fresh id).run host port)

/-- There is an open connection that is read, or a connection is being made, or an
error or a reconnect is pending. -/
def Alive (pipe client : α) (l : Link α S) : Prop :=
  (l.loop.isOpen ∧ .read ∈ l.loop.inFlight) ∨
    (∃ op ∈ l.loop.inFlight, keepsLink op ∧ op ≠ .read) ∨
    ∃ e ∈ l.mail, isToken pipe client e

/-- The error codes after which a connection is made again. -/
def lasting : List SocketErrorCode := [.connectionReset, .notConnected, .connectionRefused, .eof, .closed]

/-- The pipe's answer to an error, when a connection is made again. -/
def reconnectMessage (pipe client : α) : Envelope α where
  dest := client
  sender := pipe
  command := "reconnect"
  body := .text ""

/-- The pipe's answer to any other error. -/
def closeMessage (pipe client : α) (err : SocketError) : Envelope α where
  dest := client
  sender := pipe
  command := "close"
  body := .transport (.webSocket { id := err.id, body := "" })

/-- An event after which something still keeps the link. -/
def keeps (pipe : α) : Event α → Bool
  | .completed (.resolve _ _) (.error _) => false
  | .completed (.handshake _) (.error _) => false
  | .handled _ e => (reported pipe e).all fun err => decide (err.code ∈ lasting)
  | _ => true

/-- The other side asks for the end of the connection. -/
def asksToClose (client : α) : Event α → Bool
  | .handled _ e => isDeliberate client e
  | _ => false

end Link

end StreamCloud
