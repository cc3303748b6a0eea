-- SUMMARY: The service of the manager that speaks to the platform.
import StreamCloud.Manager.Router

/-!
# platform

`stream-manager/src/platform.cpp`.
-/

namespace StreamCloud.Manager.PlatformService

variable {α : Type} (J : Codec) (config : Config)

/-- A request to the platform about this manager. -/
def ownRequest (method : String) : RequestMessage where
  id := .string "0"
  method := method
  params := .map [("key", .string config.managerKey)]
  metadata := [("profile-key", .string config.profileKey)]

def dispatcher : Handler α Unit Transport := fun _ ctx s transport => do
  let ws ← transport.asWebSocket
  let message ← J.parse ws.body
  if message.isRequest then
    let (request, message) ← message.parseRequest
    if request.metadata.contains "transport" then
      -- the request of a client of the platform, in the session that it has there
      let id ← (message.get "metadata").stringAt "transport"
      return (s, ← ctx.send "router" "dispatcher"
        (.transport (.webSocket { id, body := J.print message })))
    -- a request of the platform itself
    else if request.method = "disconnect" then
      return (s, ← ctx.send "client" "close" (.text ""))
    else
      return (s, [])
  -- whatever the error answers
  else if message.contains "error" then
    return (s, ← ctx.send "client" "close" (.text ""))
  else if message.isResponse then
    -- the connect is answered, and the message for the end is put down
    return (s, ← ctx.send "client" "set_closing_message"
      (.text ((ownRequest config "managers.disconnect").serialize J)))
  else
    return (s, [])

def handshake : Handler α Unit Transport := fun _ ctx s transport => do
  return (s, ← ctx.send "client" "write" (.transport (.webSocket
    { id := transport.id, body := (ownRequest config "managers.connect").serialize J })))

def error : Handler α Unit Transport := fun _ ctx s transport => do
  let error ← transport.asError
  if error.code ∈ [.connectionReset, .notConnected, .connectionRefused, .eof, .closed] then
    return (s, ← ctx.send "client" "reconnect" (.text ""))
  else
    return (s, ← ctx.send "client" "close" (.transport (.webSocket { id := error.id, body := "" })))

def write : Handler α Unit Transport := fun _ ctx s transport => do
  let ws ← transport.asWebSocket
  let message ← J.parse ws.body
  let metadata ← message.readMetadata
  let metadata :=
    -- the frame is asked for `transport`, not its metadata
    if message.contains "transport" then metadata else metadata.set "transport" (.string ws.id)
  return (s, ← ctx.send "client" "write" (.transport (.webSocket
    { id := ws.id, body := J.print (message.set "metadata" (.map metadata)) })))

/-- The frame that a frame of the platform brings to the router. -/
def Relays (J : Codec) (ws ws' : WebSocket) : Prop :=
  ∃ message request m' id, J.parse ws.body = .ok message ∧ message.isRequest ∧
    message.parseRequest = .ok (request, m') ∧ request.metadata.contains "transport" ∧
    (m'.get "metadata").stringAt "transport" = .ok id ∧ ws' = { id, body := J.print m' }

/-- A frame that is relayed goes to the router. -/
theorem dispatcher_of_relays {env : Env} {ctx : Ctx α} {s : Unit} {ws ws' : WebSocket} {router : α}
    (h : Relays J ws ws') (hrouter : ctx.contacts.lookup "router" = some router) :
    dispatcher J config env ctx s (.webSocket ws) = .ok (s, [{
      dest := router
      sender := ctx.self
      command := "dispatcher"
      body := .transport (.webSocket ws') }]) := by
  obtain ⟨message, request, m', id, hparse, hrequest, hread, htransport, hid, rfl⟩ := h
  simp only [dispatcher, Transport.asWebSocket_webSocket, Except.ok_bind', hparse, if_pos hrequest,
    hread, if_pos htransport, hid, Ctx.send_of_contact hrouter]
  rfl

/-- A frame that ends the connection: a request to disconnect, or anything else with
an error. -/
inductive Dismisses (J : Codec) (ws : WebSocket) : Prop
  | disconnect {request : RequestMessage} : J.ReadsRequest ws.body request →
      request.metadata.contains "transport" = false → request.method = "disconnect" → Dismisses J ws
  | error {message : JsonMap} : J.parse ws.body = .ok message → message.isRequest = false →
      message.contains "error" → Dismisses J ws

/-- What the dispatcher makes of a frame of the platform. -/
theorem dispatcher_cases {env : Env} {ctx : Ctx α} {s s' : Unit} {ws : WebSocket}
    {out : List (Envelope α)} (h : dispatcher J config env ctx s (.webSocket ws) = .ok (s', out)) :
    (∃ ws', Relays J ws ws' ∧
      ctx.send "router" "dispatcher" (.transport (.webSocket ws')) = .ok out) ∨
    (Dismisses J ws ∧ ctx.send "client" "close" (.text "") = .ok out) ∨
    (∃ text, ctx.send "client" "set_closing_message" (.text text) = .ok out) ∨ out = [] := by
  have hsent {send : Except Fault (List (Envelope α))} (hsend : (do return (s, ← send) :
      Except Fault (Unit × List (Envelope α))) = .ok (s', out)) : send = .ok out := by
    obtain ⟨out', hout, heq⟩ := Except.bind_eq_ok.mp hsend
    rw [hout, (Prod.mk.inj (Except.ok.inj heq)).2]
  have hnone (hsend : (.ok (s, []) : Except Fault (Unit × List (Envelope α))) = .ok (s', out)) :
      out = [] := (Prod.mk.inj (Except.ok.inj hsend)).2.symm
  simp only [dispatcher, Transport.asWebSocket_webSocket, Except.ok_bind'] at h
  obtain ⟨message, hparse, h⟩ := Except.bind_eq_ok.mp h
  split at h
  · next hrequest =>
    obtain ⟨⟨request, m'⟩, hread, h⟩ := Except.bind_eq_ok.mp h
    dsimp only at h
    split at h
    · next htransport =>
      obtain ⟨id, hid, h⟩ := Except.bind_eq_ok.mp h
      exact .inl ⟨_, ⟨message, request, m', id, hparse, hrequest, hread, htransport, hid, rfl⟩, hsent h⟩
    · next htransport =>
      split at h
      · next hmethod =>
        refine .inr (.inl ⟨.disconnect ⟨message, m', hparse, hrequest, hread⟩ ?_ hmethod, hsent h⟩)
        simpa using htransport
      · exact .inr (.inr (.inr (hnone h)))
  · next hrequest =>
    split at h
    · next herror =>
      exact .inr (.inl ⟨.error hparse (by simpa using hrequest) herror, hsent h⟩)
    · split at h
      · exact .inr (.inr (.inl ⟨_, hsent h⟩))
      · exact .inr (.inr (.inr (hnone h)))

/-- What the dispatcher gives to the router is the frame it relays. -/
theorem dispatcher_relays {env : Env} {ctx : Ctx α} {s s' : Unit} {transport : Transport}
    {out : List (Envelope α)} {e : Envelope α}
    (h : dispatcher J config env ctx s transport = .ok (s', out)) (he : e ∈ out)
    (hcommand : e.command = "dispatcher") :
    ∃ ws ws', transport = .webSocket ws ∧ Relays J ws ws' ∧ e.body = .transport (.webSocket ws') := by
  obtain ⟨ws, hws, -⟩ := Except.bind_eq_ok.mp h
  obtain rfl := Transport.asWebSocket_eq_ok.mp hws
  have hother {command : String} {body : Body α} (hne : command ≠ "dispatcher")
      (hsend : ctx.send "client" command body = .ok out) : False :=
    hne ((Ctx.of_mem_send hsend he).1.symm.trans hcommand)
  rcases dispatcher_cases J config h with ⟨ws', hrelays, hsend⟩ | ⟨-, hsend⟩ | ⟨text, hsend⟩ | rfl
  · exact ⟨ws, ws', rfl, hrelays, (Ctx.of_mem_send hsend he).2⟩
  · exact (hother (by decide) hsend).elim
  · exact (hother (by decide) hsend).elim
  · cases he

def handlers : List (String × Action α Unit) :=
  [("dispatcher", .transport (dispatcher J config)), ("handshake", .transport (handshake J config)),
    ("error", .transport error), ("write", .transport (write J))]

/-! ## What is sent -/

/-- The messages of each handler of the platform service. -/
inductive Sent : String → String → String → Body α → Prop
  | dispatcher (ws : WebSocket) : Sent "dispatcher" "router" "dispatcher" (.transport (.webSocket ws))
  | write (handler : String) (ws : WebSocket) :
      Sent handler "client" "write" (.transport (.webSocket ws))
  | close (handler : String) (body : Body α) (h : ∀ address, body ≠ .address address) :
      Sent handler "client" "close" body
  | reconnect : Sent "error" "client" "reconnect" (.text "")
  | setClosingMessage (text : String) :
      Sent "dispatcher" "client" "set_closing_message" (.text text)

theorem dispatcher_sends (env : Env) (ctx : Ctx α) (s : Unit) (transport : Transport) :
    (dispatcher J config env ctx s transport).Ensures fun r => ctx.Sends (Sent "dispatcher") r.2 := by
  have hclose : (do return (s, ← ctx.send "client" "close" (.text "")) :
      Except Fault (Unit × List (Envelope α))).Ensures fun r => ctx.Sends (Sent "dispatcher") r.2 :=
    Ctx.send_sends_return (.close _ _ (by simp))
  unfold dispatcher
  refine Except.ensures_bind.mpr fun _ _ => Except.ensures_bind.mpr fun _ _ => ?_
  refine Except.ensures_ite (fun _ => ?_) fun _ => Except.ensures_ite (fun _ => hclose) fun _ => ?_
  · refine Except.ensures_bind.mpr fun _ _ => Except.ensures_ite (fun _ => ?_) fun _ => ?_
    · exact Except.ensures_bind.mpr fun _ _ => Ctx.send_sends_return (.dispatcher _)
    · exact Except.ensures_ite (fun _ => hclose) fun _ => Except.ensures_ok.mpr Ctx.sends_nil
  · exact Except.ensures_ite (fun _ => Ctx.send_sends_return (.setClosingMessage _))
      fun _ => Except.ensures_ok.mpr Ctx.sends_nil

theorem error_sends (env : Env) (ctx : Ctx α) (s : Unit) (transport : Transport) :
    (error env ctx s transport).Ensures fun r => ctx.Sends (Sent "error") r.2 := by
  unfold error
  refine Except.ensures_bind.mpr fun _ _ => Except.ensures_ite (fun _ => ?_) fun _ => ?_
  · exact Ctx.send_sends_return .reconnect
  · exact Ctx.send_sends_return (.close _ _ (by simp))

theorem write_sends (env : Env) (ctx : Ctx α) (s : Unit) (transport : Transport) :
    (write J env ctx s transport).Ensures fun r => ctx.Sends (Sent "write") r.2 := by
  unfold write
  refine Except.ensures_bind.mpr fun _ _ => Except.ensures_bind.mpr fun _ _ => ?_
  exact Except.ensures_bind.mpr fun _ _ => Ctx.send_sends_return (.write _ _)

theorem sends {env : Env} {ctx : Ctx α} {s : Unit} {command : String} {action : Action α Unit}
    {body : Body α} {r : Unit × List (Envelope α)} (hmem : (command, action) ∈ handlers J config)
    (h : Action.Ran env ctx s action body r) : ctx.Sends (Sent command) r.2 := by
  simp only [handlers, List.mem_cons, Prod.mk.injEq, List.not_mem_nil, or_false] at hmem
  rcases hmem with ⟨rfl, rfl⟩ | ⟨rfl, rfl⟩ | ⟨rfl, rfl⟩ | ⟨rfl, rfl⟩ <;> cases h with | transport h
  · exact dispatcher_sends J config env ctx s _ r h
  · exact Ctx.send_sends_return (.write _ _) r h
  · exact error_sends env ctx s _ r h
  · exact write_sends J env ctx s _ r h

end StreamCloud.Manager.PlatformService
