-- SUMMARY: How the platform relays the frames of the managers.
import StreamCloud.Platform.Flow
import StreamCloud.Api.JsonSorted

/-!
# Relayed frames

The router parses a frame and prints it again for the managers service, which
parses it once more.
-/

namespace StreamCloud.Platform

variable {managerKey : String}

/-- The message in which the router hands on a frame that is no request. -/
def relayed (id : String) (message : JsonMap) : Envelope Actor where
  dest := .managers
  sender := .router
  command := "response"
  body := .transport (.webSocket { id, body := Codec.api.print message })

/-- A frame that is no request is handed on to `managers.response`. -/
theorem handle_handedOn {env : Env} {n : State} (hn : n.contacts = contacts) {ws : WebSocket}
    {message : JsonMap} (hparse : Codec.api.parse ws.body = .ok message)
    (hrequest : message.isRequest = false) :
    handle Codec.api managerKey env n (frame ws) = .ok (n, [relayed ws.id message]) := by
  have hmanagers : (contacts .router).lookup "managers" = some .managers := rfl
  rw [handle_frame, Router.dispatcher]
  simp only [Transport.asWebSocket_webSocket, Except.ok_bind', hparse, hrequest,
    Ctx.send_of_contact (lookup_of_wired hn hmanagers)]
  cases hresponse : message.isResponse with
  | true => rfl
  | false =>
    rw [JsonMap.isNotify_of_not hrequest hresponse]
    rfl

/-- `managers.response` writes to the session that the frame names, if it names one. -/
theorem handle_relayed_response {env : Env} {n : State} (hn : n.contacts = contacts) {id : String}
    {message : JsonMap} (hsorted : message.Sorted) {target : String}
    (htarget : (message.get "metadata").stringAt "transport" = .ok target) :
    handle Codec.api managerKey env n (relayed id message) =
      .ok (n, [{ dest := .ws, sender := .managers, command := "write",
                 body := .transport (.webSocket
                   { id := target, body := Codec.api.print (message.reread.erase "metadata") }) }]) := by
  have hws : (contacts .managers).lookup "ws" = some .ws := rfl
  refine (Program.handle_transport rfl rfl).trans ?_
  show (Managers.response Codec.api env ((program Codec.api managerKey).ctx n .managers)
    n.services.managers (.webSocket { id, body := Codec.api.print message })).map _ = _
  have hread : (message.reread.get "metadata").stringAt "transport" = .ok target := by
    rw [JsonMap.get_reread hsorted]
    exact (JsonValue.stringAt_reread (hsorted.get _)).mpr htarget
  unfold Managers.response Ctx.writeTo
  simp only [Transport.asWebSocket_webSocket, Except.ok_bind', Codec.api_roundTrip, hread,
    Ctx.send_of_contact (lookup_of_wired hn hws)]
  rfl

/-- Without a session named, `managers.response` throws. -/
theorem target_of_handle {env : Env} {n n' : State} {out : List (Envelope Actor)} {id : String}
    {message : JsonMap} (hsorted : message.Sorted)
    (h : handle Codec.api managerKey env n (relayed id message) = .ok (n', out)) :
    ∃ target, (message.get "metadata").stringAt "transport" = .ok target := by
  obtain ⟨transport, managers, hbody, hrun, -⟩ :=
    Program.transport_of_handle (h := Managers.response Codec.api) (L := Services.managersLens) rfl h
  cases hbody
  simp only [Managers.response, Transport.asWebSocket_webSocket, Except.ok_bind',
    Codec.api_roundTrip] at hrun
  obtain ⟨target, htarget, -⟩ := Except.bind_eq_ok.mp hrun
  rw [JsonMap.get_reread hsorted] at htarget
  exact ⟨target, (JsonValue.stringAt_reread (hsorted.get _)).mp htarget⟩

/-! ## Requests for a manager -/

/-- The task of a request for a manager. -/
def managerTask (request : RequestMessage) (id : String) : Task where
  request := request
  transportId := id
  storage := ∅

/-- The message in which the router hands on a request for a manager. -/
def managerRequest (task : Task) : Envelope Actor where
  dest := .managers
  sender := .router
  command := "request"
  body := .task task

/-- A frame on its way to a session. -/
def sessionMessage (ws : WebSocket) : Envelope Actor where
  dest := .ws
  sender := .managers
  command := "write"
  body := .transport (.webSocket ws)

/-- The websocket server of the platform gives nothing to other actors. -/
theorem handle_write {env : Env} {n : State} {sender : Actor} {ws : WebSocket} :
    handle Codec.api managerKey env n
      { dest := .ws, sender, command := "write", body := .transport (.webSocket ws) } = .ok (n, []) := by
  refine (Program.handle_transport rfl rfl).trans ?_
  show (WsServer.write [] env ((program Codec.api managerKey).ctx n .ws) () (.webSocket ws)).map _ = _
  unfold WsServer.write
  simp only [Transport.asWebSocket_webSocket, Except.ok_bind']
  split <;> rfl

theorem handle_sessionMessage {env : Env} {n : State} {ws : WebSocket} :
    handle Codec.api managerKey env n (sessionMessage ws) = .ok (n, []) := handle_write

theorem handle_requestFrame {env : Env} {n : State} (hn : n.contacts = contacts) {ws : WebSocket}
    {request : RequestMessage} (hreads : Codec.api.ReadsRequest ws.body request)
    (hkey : request.metadata.contains "manager-key") :
    handle Codec.api managerKey env n (frame ws) =
      .ok (n, [managerRequest (managerTask request ws.id)]) := by
  obtain ⟨message, m', hparse, hrequest, hread⟩ := hreads
  have hmanagers : (contacts .router).lookup "managers" = some .managers := rfl
  rw [handle_frame, Router.dispatcher]
  simp only [Transport.asWebSocket_webSocket, Except.ok_bind', hparse, if_pos hrequest,
    Router.request, hread, if_pos hkey, Ctx.send_of_contact (lookup_of_wired hn hmanagers)]
  rfl

end StreamCloud.Platform
