-- SUMMARY: How the manager relays the frames of the devices.
import StreamCloud.Manager.Flow
import StreamCloud.Api.JsonSorted

/-!
# Relayed frames

The router parses a frame and prints it again for the devices service, which
parses it once more.
-/

namespace StreamCloud.Manager

variable {config : Config}

/-- A message that brings a frame to the router, from whichever actor. -/
def frameFrom (sender : Actor) (ws : WebSocket) : Envelope Actor where
  dest := .router
  sender := sender
  command := "dispatcher"
  body := .transport (.webSocket ws)

/-- The message in which the router hands on a response or a notification. -/
def relayed (command id : String) (message : JsonMap) : Envelope Actor where
  dest := .devices
  sender := .router
  command := command
  body := .transport (.webSocket { id, body := Codec.api.print message })

theorem handle_handedOn {env : Env} {n : State} (hn : n.contacts = contacts) {sender : Actor}
    {ws : WebSocket} {message : JsonMap} (hparse : Codec.api.parse ws.body = .ok message)
    (hrequest : message.isRequest = false) :
    handle Codec.api config env n (frameFrom sender ws) =
      .ok (n, [relayed (if message.isResponse then "response" else "notify") ws.id message]) := by
  have hdevices : (contacts .router).lookup "devices" = some .devices := rfl
  refine (Program.handle_transport rfl rfl).trans ?_
  show (Router.dispatcher Codec.api config env ((program Codec.api config).ctx n .router) ()
    (.webSocket ws)).map _ = _
  rw [Router.dispatcher]
  simp only [Transport.asWebSocket_webSocket, Except.ok_bind', hparse, hrequest,
    Ctx.send_of_contact (lookup_of_wired hn hdevices)]
  cases hresponse : message.isResponse with
  | true => rfl
  | false =>
    rw [JsonMap.isNotify_of_not hrequest hresponse]
    rfl

theorem metadata_reread {message : JsonMap} (hsorted : message.Sorted) {key s : String} :
    (message.reread.get "metadata").stringAt key = .ok s ↔
      (message.get "metadata").stringAt key = .ok s := by
  rw [JsonMap.get_reread hsorted]
  exact JsonValue.stringAt_reread (hsorted.get _)

theorem handle_relayed_response {n : State} (hn : n.contacts = contacts) {env : Env} {id : String}
    {message : JsonMap} (hsorted : message.Sorted) (hresponse : message.isResponse)
    {target device : String} (htarget : (message.get "metadata").stringAt "transport" = .ok target)
    (hdevice : (message.get "metadata").stringAt "device-key" = .ok device)
    (hregistered : device ∈ n.services.devices.devicesReg) :
    handle Codec.api config env n (relayed "response" id message) =
      .ok (n, [{ dest := .ws, sender := .devices, command := "write",
                 body := .transport (.webSocket
                   { id := target, body := Codec.api.print (message.reread.erase "metadata") }) }]) := by
  have hws : (contacts .devices).lookup "ws" = some .ws := rfl
  have hread : message.reread.isResponse = true := (JsonMap.isResponse_reread message).trans hresponse
  refine (Program.handle_transport rfl rfl).trans ?_
  show (Devices.response Codec.api env ((program Codec.api config).ctx n .devices)
    n.services.devices (.webSocket { id, body := Codec.api.print message })).map _ = _
  unfold Devices.response Ctx.writeTo
  simp only [Transport.asWebSocket_webSocket, Except.ok_bind', Codec.api_roundTrip, if_pos hread,
    (metadata_reread hsorted).mpr htarget, (metadata_reread hsorted).mpr hdevice, Devices.isRegDevice,
    decide_eq_true_eq, if_pos hregistered, Ctx.send_of_contact (lookup_of_wired hn hws)]
  rfl

theorem of_handle_relayed_response {n n' : State} {env : Env} {out : List (Envelope Actor)} {id : String}
    {message : JsonMap} (hsorted : message.Sorted)
    (h : handle Codec.api config env n (relayed "response" id message) = .ok (n', out))
    (hne : out ≠ []) :
    message.isResponse ∧ ∃ target device,
      (message.get "metadata").stringAt "transport" = .ok target ∧
      (message.get "metadata").stringAt "device-key" = .ok device ∧
      device ∈ n.services.devices.devicesReg := by
  obtain ⟨transport, devices, hbody, hrun, -⟩ :=
    Program.transport_of_handle (h := Devices.response Codec.api) (L := Services.devicesLens) rfl h
  cases hbody
  simp only [Devices.response, Transport.asWebSocket_webSocket, Except.ok_bind',
    Codec.api_roundTrip] at hrun
  split at hrun
  · next hresponse =>
    obtain ⟨target, htarget, hrun⟩ := Except.bind_eq_ok.mp hrun
    obtain ⟨device, hdevice, hrun⟩ := Except.bind_eq_ok.mp hrun
    split at hrun
    · next hregistered =>
      exact ⟨(JsonMap.isResponse_reread message).symm.trans hresponse, target, device,
        (metadata_reread hsorted).mp htarget, (metadata_reread hsorted).mp hdevice, of_decide_eq_true hregistered⟩
    · cases hrun
      exact absurd rfl hne
  · cases hrun
    exact absurd rfl hne

theorem handle_relayed_notify {n : State} (hn : n.contacts = contacts) {env : Env} {id : String}
    {message : JsonMap} (hsorted : message.Sorted) (hnotify : message.isNotify) {device : String}
    (hdevice : (message.get "metadata").stringAt "device-key" = .ok device)
    (hregistered : device ∈ n.services.devices.devicesReg) :
    handle Codec.api config env n (relayed "notify" id message) =
      .ok (n, [{ dest := .subscriptions, sender := .devices, command := "emit",
                 body := .transport (.webSocket { id, body := Codec.api.print message.reread }) }]) := by
  have hsubscriptions : (contacts .devices).lookup "subscriptions" = some .subscriptions := rfl
  have hread : message.reread.isNotify = true := (JsonMap.isNotify_reread message).trans hnotify
  refine (Program.handle_transport rfl rfl).trans ?_
  show (Devices.notify Codec.api env ((program Codec.api config).ctx n .devices)
    n.services.devices (.webSocket { id, body := Codec.api.print message })).map _ = _
  unfold Devices.notify
  simp only [Transport.asWebSocket_webSocket, Except.ok_bind', Codec.api_roundTrip, if_pos hread,
    (metadata_reread hsorted).mpr hdevice, Devices.isRegDevice, decide_eq_true_eq, if_pos hregistered,
    Ctx.send_of_contact (lookup_of_wired hn hsubscriptions)]
  rfl

theorem of_handle_relayed_notify {n n' : State} {env : Env} {out : List (Envelope Actor)} {id : String}
    {message : JsonMap} (hsorted : message.Sorted)
    (h : handle Codec.api config env n (relayed "notify" id message) = .ok (n', out))
    (hne : out ≠ []) :
    message.isNotify ∧ ∃ device, (message.get "metadata").stringAt "device-key" = .ok device ∧
      device ∈ n.services.devices.devicesReg := by
  obtain ⟨transport, devices, hbody, hrun, -⟩ :=
    Program.transport_of_handle (h := Devices.notify Codec.api) (L := Services.devicesLens) rfl h
  cases hbody
  simp only [Devices.notify, Transport.asWebSocket_webSocket, Except.ok_bind',
    Codec.api_roundTrip] at hrun
  split at hrun
  · next hnotify =>
    obtain ⟨device, hdevice, hrun⟩ := Except.bind_eq_ok.mp hrun
    split at hrun
    · next hregistered =>
      exact ⟨(JsonMap.isNotify_reread message).symm.trans hnotify, device, (metadata_reread hsorted).mp hdevice, of_decide_eq_true hregistered⟩
    · cases hrun
      exact absurd rfl hne
  · cases hrun
    exact absurd rfl hne

theorem handle_relayed_response_unregistered {n : State} {env : Env} {id : String} {message : JsonMap}
    (hsorted : message.Sorted) (hresponse : message.isResponse) {target device : String}
    (htarget : (message.get "metadata").stringAt "transport" = .ok target)
    (hdevice : (message.get "metadata").stringAt "device-key" = .ok device)
    (hregistered : device ∉ n.services.devices.devicesReg) :
    handle Codec.api config env n (relayed "response" id message) = .ok (n, []) := by
  have hread : message.reread.isResponse = true := (JsonMap.isResponse_reread message).trans hresponse
  refine (Program.handle_transport rfl rfl).trans ?_
  show (Devices.response Codec.api env ((program Codec.api config).ctx n .devices)
    n.services.devices (.webSocket { id, body := Codec.api.print message })).map _ = _
  unfold Devices.response
  simp only [Transport.asWebSocket_webSocket, Except.ok_bind', Codec.api_roundTrip, if_pos hread,
    (metadata_reread hsorted).mpr htarget, (metadata_reread hsorted).mpr hdevice, Devices.isRegDevice,
    decide_eq_true_eq, if_neg hregistered]
  rfl

theorem handle_relayed_notify_unregistered {n : State} {env : Env} {id : String} {message : JsonMap}
    (hsorted : message.Sorted) (hnotify : message.isNotify) {device : String}
    (hdevice : (message.get "metadata").stringAt "device-key" = .ok device)
    (hregistered : device ∉ n.services.devices.devicesReg) :
    handle Codec.api config env n (relayed "notify" id message) = .ok (n, []) := by
  have hread : message.reread.isNotify = true := (JsonMap.isNotify_reread message).trans hnotify
  refine (Program.handle_transport rfl rfl).trans ?_
  show (Devices.notify Codec.api env ((program Codec.api config).ctx n .devices)
    n.services.devices (.webSocket { id, body := Codec.api.print message })).map _ = _
  unfold Devices.notify
  simp only [Transport.asWebSocket_webSocket, Except.ok_bind', Codec.api_roundTrip, if_pos hread,
    (metadata_reread hsorted).mpr hdevice, Devices.isRegDevice, decide_eq_true_eq, if_neg hregistered]
  rfl

/-! ## Notifications -/

/-- The message in which the devices service hands on a notification. -/
def emission (id : String) (message : JsonMap) : Envelope Actor where
  dest := .subscriptions
  sender := .devices
  command := "emit"
  body := .transport (.webSocket { id, body := Codec.api.print message })

/-- A notification, as one of its subscribers gets it. -/
def notification (message metadata : JsonMap) (subscribe : String) : Envelope Actor where
  dest := .ws
  sender := .subscriptions
  command := "write"
  body := .transport (.webSocket {
    id := subscribe
    body := Codec.api.print
      (message.set "metadata" (.map (metadata.set "transport" (.string subscribe)))) })

/-- `emit` writes to all subscribers of the device. -/
theorem handle_emission {n : State} (hn : n.contacts = contacts) {env : Env} {id : String}
    {message metadata : JsonMap} (hsorted : message.Sorted)
    (hmetadata : message.get "metadata" = .map metadata) {device : String}
    (hdevice : metadata.stringAt "device-key" = .ok device) :
    handle Codec.api config env n (emission id message) =
      .ok (n, (n.services.subscriptions.subscribers device).keys.map
        (notification message.reread metadata.reread)) := by
  have hws : (contacts .subscriptions).lookup "ws" = some .ws := rfl
  have hmap : message.reread.get "metadata" = .map metadata.reread := by
    rw [JsonMap.get_reread hsorted, hmetadata]
    rfl
  have hkey : metadata.reread.stringAt "device-key" = .ok device := by
    have hsortedMetadata : metadata.Sorted := by
      have hget := hsorted.get "metadata"
      rw [hmetadata] at hget
      exact hget
    exact (JsonMap.stringAt_reread hsortedMetadata).mpr hdevice
  refine (Program.handle_transport rfl rfl).trans ?_
  show (Subscriptions.emit Codec.api env ((program Codec.api config).ctx n .subscriptions)
    n.services.subscriptions (.webSocket { id, body := Codec.api.print message })).map _ = _
  have hlookup : ((program Codec.api config).ctx n .subscriptions).contacts.lookup "ws" = some .ws :=
    lookup_of_wired hn hws
  have hparse : Codec.api.parse (WebSocket.body ⟨id, Codec.api.print message⟩) = .ok message.reread :=
    Codec.api_roundTrip message
  rw [Subscriptions.emit_eq Codec.api hparse hmap hkey hlookup]
  rfl

/-! ## The relay of the platform -/

/-- A frame on its way to a session. -/
def sessionMessage (sender : Actor) (ws : WebSocket) : Envelope Actor where
  dest := .ws
  sender := sender
  command := "write"
  body := .transport (.webSocket ws)

/-- A frame for a session of the platform, on its way to the service that speaks to it. -/
def pipeMessage (ws : WebSocket) : Envelope Actor where
  dest := .platform
  sender := .platform
  command := "write"
  body := .transport (.webSocket ws)

/-- A frame on its way to the platform. -/
def platformMessage (ws : WebSocket) : Envelope Actor where
  dest := .client
  sender := .platform
  command := "write"
  body := .transport (.webSocket ws)

theorem handle_sessionMessage {env : Env} {n : State} {sender : Actor} {ws : WebSocket} :
    handle Codec.api config env n (sessionMessage sender ws) =
      .ok (n, if env.sessions ws.id then [] else [pipeMessage ws]) := by
  refine (Program.handle_transport rfl rfl).trans ?_
  show (WsServer.write [Actor.platform] env ((program Codec.api config).ctx n .ws) () (.webSocket ws)).map _ = _
  unfold WsServer.write
  simp only [Transport.asWebSocket_webSocket, Except.ok_bind']
  split <;> rfl

/-- The metadata that `platform.write` gives to a frame. Its own `transport` is
looked for in the frame, not in the metadata. -/
def routedMetadata (message metadata : JsonMap) (id : String) : JsonMap :=
  if message.contains "transport" then metadata else metadata.set "transport" (.string id)

theorem handle_pipeMessage {n : State} (hn : n.contacts = contacts) {env : Env} {ws : WebSocket}
    {message metadata : JsonMap} (hparse : Codec.api.parse ws.body = .ok message)
    (hmetadata : message.readMetadata = .ok metadata) :
    handle Codec.api config env n (pipeMessage ws) = .ok (n, [platformMessage {
      id := ws.id
      body := Codec.api.print
        (message.set "metadata" (.map (routedMetadata message metadata ws.id))) }]) := by
  have hclient : (contacts .platform).lookup "client" = some .client := rfl
  refine (Program.handle_transport rfl rfl).trans ?_
  show (PlatformService.write Codec.api env ((program Codec.api config).ctx n .platform) ()
    (.webSocket ws)).map _ = _
  simp only [PlatformService.write, Transport.asWebSocket_webSocket, Except.ok_bind', hparse, hmetadata,
    Ctx.send_of_contact (lookup_of_wired hn hclient)]
  rfl

end StreamCloud.Manager
