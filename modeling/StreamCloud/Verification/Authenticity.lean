-- SUMMARY: When an answer or a notification comes from the session that is registered for it.
import StreamCloud.Verification.RegistryFreshness
import StreamCloud.Manager.Relay
import StreamCloud.Platform.Relay

/-!
# Authenticity of relayed frames

Responses and notifications are not authenticated by the routers. What the
services check is a member of the frame, not the session that sent it.
-/

namespace StreamCloud

/-! ## The platform -/

namespace Platform

variable {managerKey : String}

/-- What the relayed frame makes `managers.response` write to another session
than its own comes from the session of a registered manager. -/
def AuthenticRelay (managerKey : String) (n : State) (id : String) (message : JsonMap) : Prop :=
  ∀ env n' out, handle Codec.api managerKey env n (relayed id message) = .ok (n', out) →
    ∀ e ∈ out, ∀ ws, e.body = .transport (.webSocket ws) → ws.id ≠ id →
      n.services.managers.isRegManagerId id

theorem authentic_iff {n : State} (hn : n.contacts = contacts) {id : String} {message : JsonMap}
    (hsorted : message.Sorted) :
    AuthenticRelay managerKey n id message ↔ n.services.managers.isRegManagerId id ∨
      ∀ target, (message.get "metadata").stringAt "transport" = .ok target → target = id := by
  constructor
  · intro h
    refine or_iff_not_imp_right.mpr fun hother => ?_
    obtain ⟨target, hforeign⟩ := not_forall.mp hother
    obtain ⟨htarget, hne⟩ := Classical.not_imp.mp hforeign
    exact h .calm n _ (handle_relayed_response hn hsorted htarget) _ (List.mem_singleton_self _) _ rfl hne
  · rintro (hregistered | hown) env n' out h e he ws hbody hne
    · exact hregistered
    · obtain ⟨target, htarget⟩ := target_of_handle hsorted h
      rw [handle_relayed_response hn hsorted htarget] at h
      cases h
      rw [List.mem_singleton.mp he] at hbody
      cases hbody
      exact absurd (hown target htarget) hne

/-- A frame that is no request is handed on with the session it came from. What
is then written to another session comes from a registered manager exactly if
the frame does, or names no other session. -/
theorem relay_authentic_iff (managerKey : String) (env : Env) (n : State) (ws : WebSocket)
    (message : JsonMap) (hn : Reachable Codec.api managerKey n)
    (hparse : Codec.api.parse ws.body = .ok message) (hrequest : message.isRequest = false) :
    handle Codec.api managerKey env n (frame ws) = .ok (n, [relayed ws.id message]) ∧
    ∀ n', Reachable Codec.api managerKey n' →
      (AuthenticRelay managerKey n' ws.id message ↔ n'.services.managers.isRegManagerId ws.id ∨
        ∀ target, (message.get "metadata").stringAt "transport" = .ok target → target = ws.id) :=
  ⟨handle_handedOn hn.contacts_eq hparse hrequest,
    fun _ hn' => authentic_iff hn'.contacts_eq (Codec.api_sorted hparse)⟩

/-- A response for session `c`. -/
def forgedResponse : JsonMap :=
  [("id", .integer 1), ("jsonrpc", .string "2.0"), ("metadata", .map [("transport", .string "c")]),
    ("result", .boolean true)]

theorem relay_authentic_iff_forged :
    handle Codec.api "" .calm blank (frame ⟨"x", Codec.api.print forgedResponse⟩) =
        .ok (blank, [relayed "x" forgedResponse]) ∧
      (AuthenticRelay "" blank "x" forgedResponse ↔ blank.services.managers.isRegManagerId "x" ∨
        ∀ target, (forgedResponse.get "metadata").stringAt "transport" = .ok target → target = "x") := by
  have hparse : Codec.api.parse (Codec.api.print forgedResponse) = .ok forgedResponse :=
    Codec.api_roundTrip forgedResponse
  have h := relay_authentic_iff "" .calm blank ⟨"x", Codec.api.print forgedResponse⟩ forgedResponse
    blank_initial.reachable hparse rfl
  exact ⟨h.1, h.2 blank blank_initial.reachable⟩

/-- A session that no manager is registered for answers a client. -/
theorem forgedResponse_not_authentic : ¬ AuthenticRelay "" blank "x" forgedResponse := by
  have hparse : Codec.api.parse (Codec.api.print forgedResponse) = .ok forgedResponse :=
    Codec.api_roundTrip forgedResponse
  rw [authentic_iff rfl (Codec.api_sorted hparse)]
  rintro (h | h)
  · exact absurd h (by decide)
  · exact absurd (h "c" rfl) (by decide)

end Platform

/-! ## The manager -/

namespace Manager

variable {config : Config}

/-- What the frame makes the devices service deliver comes from the session
that its device is registered for. -/
def AuthenticRelay (config : Config) (n : State) (command id : String) (message : JsonMap) : Prop :=
  ∀ env n' out, handle Codec.api config env n (relayed command id message) = .ok (n', out) →
    out ≠ [] → ∃ device, (message.get "metadata").stringAt "device-key" = .ok device ∧
      n.services.devices.devicesReg.lookup device = some id

/-- If the frame names a registered device, it comes from the session of that device. -/
def FromOwner (s : Devices) (id : String) (message : JsonMap) : Prop :=
  ∀ device session, (message.get "metadata").stringAt "device-key" = .ok device →
    s.devicesReg.lookup device = some session → session = id

/-- What is delivered for a registered device comes from its session, exactly
if every frame that names the device does. -/
theorem fromOwner_of_mem {s : Devices} {id device : String} {message : JsonMap}
    (h : FromOwner s id message) (hdevice : (message.get "metadata").stringAt "device-key" = .ok device)
    (hregistered : device ∈ s.devicesReg) : s.devicesReg.lookup device = some id := by
  obtain ⟨session, hsession⟩ := Option.isSome_iff_exists.mp (AList.lookup_isSome.mpr hregistered)
  rw [hsession, h device session hdevice hsession]

theorem owner_of_authentic {s : Devices} {id device session : String} {message : JsonMap}
    (hdevice : (message.get "metadata").stringAt "device-key" = .ok device)
    (hsession : s.devicesReg.lookup device = some session)
    (h : ∃ device, (message.get "metadata").stringAt "device-key" = .ok device ∧
      s.devicesReg.lookup device = some id) : session = id := by
  obtain ⟨device', hdevice', hid⟩ := h
  obtain rfl : device = device' := Except.ok.inj (hdevice.symm.trans hdevice')
  exact Option.some.inj (hsession.symm.trans hid)

theorem authentic_response_iff {n : State} (hn : n.contacts = contacts) {id : String}
    {message : JsonMap} (hsorted : message.Sorted) (hresponse : message.isResponse) :
    AuthenticRelay config n "response" id message ↔
      ((∃ target, (message.get "metadata").stringAt "transport" = .ok target) →
        FromOwner n.services.devices id message) := by
  constructor
  · rintro h ⟨target, htarget⟩ device session hdevice hsession
    have hregistered : device ∈ n.services.devices.devicesReg :=
      AList.lookup_isSome.mp (by rw [hsession]; rfl)
    have hhandle : handle Codec.api config .calm n (relayed "response" id message) = _ :=
      handle_relayed_response hn hsorted hresponse htarget hdevice hregistered
    exact owner_of_authentic hdevice hsession (h _ _ _ hhandle (List.cons_ne_nil _ _))
  · intro h env n' out hhandle hne
    obtain ⟨-, target, device, htarget, hdevice, hregistered⟩ :=
      of_handle_relayed_response hsorted hhandle hne
    exact ⟨device, hdevice, fromOwner_of_mem (h ⟨target, htarget⟩) hdevice hregistered⟩

theorem authentic_notify_iff {n : State} (hn : n.contacts = contacts) {id : String}
    {message : JsonMap} (hsorted : message.Sorted) (hnotify : message.isNotify) :
    AuthenticRelay config n "notify" id message ↔ FromOwner n.services.devices id message := by
  constructor
  · intro h device session hdevice hsession
    have hregistered : device ∈ n.services.devices.devicesReg :=
      AList.lookup_isSome.mp (by rw [hsession]; rfl)
    have hhandle : handle Codec.api config .calm n (relayed "notify" id message) = _ :=
      handle_relayed_notify hn hsorted hnotify hdevice hregistered
    exact owner_of_authentic hdevice hsession (h _ _ _ hhandle (List.cons_ne_nil _ _))
  · intro h env n' out hhandle hne
    obtain ⟨-, device, hdevice, hregistered⟩ := of_handle_relayed_notify hsorted hhandle hne
    exact ⟨device, hdevice, fromOwner_of_mem h hdevice hregistered⟩

/-- A frame that is no request is handed on with the session it came from. What
is then delivered comes from the session of its device exactly if the frame
does, or names no registered device (or, for a response, no session). -/
theorem device_authentic_iff (config : Config) (env : Env) (n : State) (sender : Actor)
    (ws : WebSocket) (message : JsonMap) (hn : Reachable Codec.api config n)
    (hparse : Codec.api.parse ws.body = .ok message) (hrequest : message.isRequest = false) :
    handle Codec.api config env n (frameFrom sender ws) =
      .ok (n, [relayed (if message.isResponse then "response" else "notify") ws.id message]) ∧
    ∀ n', Reachable Codec.api config n' →
      (message.isResponse → (AuthenticRelay config n' "response" ws.id message ↔
        ((∃ target, (message.get "metadata").stringAt "transport" = .ok target) →
          FromOwner n'.services.devices ws.id message))) ∧
      (message.isNotify → (AuthenticRelay config n' "notify" ws.id message ↔
        FromOwner n'.services.devices ws.id message)) := by
  have hsorted := Codec.api_sorted hparse
  refine ⟨handle_handedOn hn.contacts_eq hparse hrequest, fun n' hn' => ⟨?_, ?_⟩⟩
  · intro hresponse
    exact authentic_response_iff hn'.contacts_eq hsorted hresponse
  · intro hnotify
    exact authentic_notify_iff hn'.contacts_eq hsorted hnotify

/-- A notification for the device `d`. -/
def forgedNotification : JsonMap :=
  [("jsonrpc", .string "2.0"), ("metadata", .map [("device-key", .string "d")]),
    ("method", .string "on")]

theorem forgedNotification_parse :
    Codec.api.parse (Codec.api.print forgedNotification) = .ok forgedNotification :=
  Codec.api_roundTrip forgedNotification

theorem connected_reachable : Reachable Codec.api ⟨"p.q", "m"⟩ connected :=
  ⟨oneDevice, [], oneDevice_initial, connected_run⟩

theorem device_authentic_iff_connected :
    handle Codec.api ⟨"p.q", "m"⟩ .calm connected
        (frameFrom .router ⟨"s", Codec.api.print forgedNotification⟩) =
      .ok (connected, [relayed "notify" "s" forgedNotification]) ∧
    (AuthenticRelay ⟨"p.q", "m"⟩ connected "notify" "s" forgedNotification ↔
      FromOwner connected.services.devices "s" forgedNotification) :=
  have h := device_authentic_iff ⟨"p.q", "m"⟩ .calm connected .router
    ⟨"s", Codec.api.print forgedNotification⟩ forgedNotification connected_reachable
    forgedNotification_parse rfl
  ⟨h.1, (h.2 connected connected_reachable).2 rfl⟩

/-- While `d` is registered for session `s`, session `x` publishes for it. -/
theorem forgedNotification_not_authentic :
    ¬ AuthenticRelay ⟨"p.q", "m"⟩ connected "notify" "x" forgedNotification := by
  rw [authentic_notify_iff rfl (Codec.api_sorted forgedNotification_parse) rfl]
  intro h
  exact absurd (h "d" "s" rfl (by decide)) (by decide)

end Manager

end StreamCloud
