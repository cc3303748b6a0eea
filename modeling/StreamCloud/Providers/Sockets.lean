-- SUMMARY: The data providers: the websocket server, the websocket client and the http server.
import StreamCloud.Core.Actor

/-!
# Data providers

`stream-providers` and `stream-client`, as far as they take messages. What
leaves over a socket leaves the program.
-/

namespace StreamCloud

/-! ## ws_server -/

namespace WsServer

variable {α : Type}

/-- `ws_listener::write`: a text for a session of another program goes to every pipe. -/
def write (pipes : List α) : Handler α Unit Transport := fun env _ s transport => do
  let ws ← transport.asWebSocket
  if env.sessions ws.id then
    return (s, [])
  else
    return (s, pipes.map fun pipe =>
      { dest := pipe, sender := pipe, command := "write", body := .transport (.webSocket ws) })

/-- `close` and `remove`: the session ends, and nothing else happens. -/
def close : Handler α Unit Transport := fun _ _ s transport => do
  let _ ← transport.asWebSocket
  return (s, [])

def remove : Handler α Unit Transport := close

def handlers (pipes : List α) : List (String × Action α Unit) :=
  [("write", .transport (write pipes)), ("close", .transport close), ("remove", .transport remove)]

/-- A text that no session takes is all that leaves this actor for another one. -/
theorem out_of_ran {pipes : List α} {env : Env} {ctx : Ctx α} {s s' : Unit} {command : String}
    {action : Action α Unit} {body : Body α} {out : List (Envelope α)}
    (hmem : (command, action) ∈ handlers pipes) (h : Action.Ran env ctx s action body (s', out)) :
    out = [] ∨ command = "write" ∧ ∃ ws, body = .transport (.webSocket ws) ∧
      out = pipes.map fun pipe =>
        { dest := pipe, sender := pipe, command := "write", body := .transport (.webSocket ws) } := by
  simp only [handlers, List.mem_cons, Prod.mk.injEq, List.not_mem_nil, or_false] at hmem
  rcases hmem with ⟨rfl, rfl⟩ | ⟨rfl, rfl⟩ | ⟨rfl, rfl⟩ <;> cases h with | _ h
  · obtain ⟨ws, hws, hrest⟩ := Except.bind_eq_ok.mp h
    rw [Transport.asWebSocket_eq_ok] at hws
    split at hrest
    · cases hrest; exact .inl rfl
    · cases hrest; exact .inr ⟨rfl, ws, hws ▸ rfl, rfl⟩
  · obtain ⟨ws, _, hrest⟩ := Except.bind_eq_ok.mp h
    cases hrest; exact .inl rfl
  · obtain ⟨ws, _, hrest⟩ := Except.bind_eq_ok.mp h
    cases hrest; exact .inl rfl

end WsServer

/-! ## ws_client -/

/-- The message that is sent to the platform before the program ends. -/
structure WsClient where
  closingMessage : String

namespace WsClient

variable {α : Type}

def write : Handler α WsClient Transport := fun _ _ s transport => do
  let _ ← transport.asWebSocket
  return (s, [])

def reconnect : Handler α WsClient Unit := fun _ _ s _ => .ok (s, [])

def close : Handler α WsClient Unit := fun _ _ s _ => .ok (s, [])

def setClosingMessage : Handler α WsClient String := fun _ _ _ text =>
  .ok ({ closingMessage := text }, [])

def handlers : List (String × Action α WsClient) :=
  [("write", .transport write), ("reconnect", .silent reconnect), ("close", .silent close),
    ("set_closing_message", .text setClosingMessage)]

/-- The websocket client sends nothing to other actors. -/
theorem out_of_ran {env : Env} {ctx : Ctx α} {s s' : WsClient} {command : String}
    {action : Action α WsClient} {body : Body α} {out : List (Envelope α)}
    (hmem : (command, action) ∈ handlers) (h : Action.Ran env ctx s action body (s', out)) :
    out = [] := by
  simp only [handlers, List.mem_cons, Prod.mk.injEq, List.not_mem_nil, or_false] at hmem
  rcases hmem with ⟨-, rfl⟩ | ⟨-, rfl⟩ | ⟨-, rfl⟩ | ⟨-, rfl⟩ <;> cases h with | _ h
  · obtain ⟨ws, _, hrest⟩ := Except.bind_eq_ok.mp h
    cases hrest; rfl
  · cases h; rfl
  · cases h; rfl
  · cases h; rfl

end WsClient

/-! ## http_server -/

/-- The urls that were said to be trusted. -/
structure HttpServer where
  trustedUrl : StringSet

namespace HttpServer

variable {α : Type}

def print : Handler α HttpServer Transport := fun _ _ s _ => .ok (s, [])

def write : Handler α HttpServer Unit := fun _ _ s _ => .ok (s, [])

def addTrustedUrl : Handler α HttpServer String := fun _ _ s name =>
  .ok ({ trustedUrl := s.trustedUrl.emplace name () }, [])

def removeTrustedUrl : Handler α HttpServer String := fun _ _ s name =>
  .ok ({ trustedUrl := s.trustedUrl.erase name }, [])

def close : Handler α HttpServer Unit := fun _ _ s _ => .ok (s, [])

def handlers : List (String × Action α HttpServer) :=
  [("print", .transport print), ("write", .silent write),
    ("add_trusted_url", .text addTrustedUrl), ("remove_trusted_url", .text removeTrustedUrl),
    ("close", .silent close)]

/-- The http server sends nothing to other actors. -/
theorem out_of_ran {env : Env} {ctx : Ctx α} {s s' : HttpServer} {command : String}
    {action : Action α HttpServer} {body : Body α} {out : List (Envelope α)}
    (hmem : (command, action) ∈ handlers) (h : Action.Ran env ctx s action body (s', out)) :
    out = [] := by
  simp only [handlers, List.mem_cons, Prod.mk.injEq, List.not_mem_nil, or_false] at hmem
  rcases hmem with ⟨-, rfl⟩ | ⟨-, rfl⟩ | ⟨-, rfl⟩ | ⟨-, rfl⟩ | ⟨-, rfl⟩ <;> cases h with | _ h <;>
    cases h <;> rfl

end HttpServer

end StreamCloud
