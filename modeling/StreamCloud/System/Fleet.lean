-- SUMMARY: A manager at work with the devices and the clients that are connected to it.
import StreamCloud.Manager.Relay
import StreamCloud.Device.Flow
import StreamCloud.Library.Follow

/-!
# A manager and its devices

What the manager writes to the session of a device is a frame for the device, and
what the device writes is a frame for the router of the manager. Frames may
overtake one another. A frame for a client stays where it was written.
-/

namespace StreamCloud.Fleet

/-- Who is connected: the configuration of every program, the session of each
device at the manager, and the id that the device itself has for its connection.
`owner` tells whose a session is, so that no two devices have the same. -/
structure Setup (δ : Type) where
  config : Config
  device : δ → Device.Config
  session : δ → String
  link : δ → String
  owner : String → Option δ
  owner_eq_some : ∀ {id : String} {d : δ}, owner id = some d ↔ session d = id

/-- A message in a mailbox of one of the programs, or a frame in a client's session. -/
inductive Packet (δ : Type)
  | manager (e : Envelope Manager.Actor)
  | device (d : δ) (e : Envelope Device.Actor)
  | written (ws : WebSocket)

/-- No actor is named by its address. -/
def Packet.Plain {δ : Type} : Packet δ → Prop
  | .manager e => e.Plain
  | .device _ e => e.Plain
  | .written _ => True

structure State (δ : Type) where
  manager : Manager.State
  devices : δ → Device.State

variable {δ : Type}

namespace Setup

variable (S : Setup δ)

theorem owner_session (d : δ) : S.owner (S.session d) = some d := S.owner_eq_some.mpr rfl

/-- A frame that the websocket server of the manager writes. -/
def deliver (ws : WebSocket) : Packet δ :=
  match S.owner ws.id with
  | some d => .device d (Device.frame { id := S.link d, body := ws.body })
  | none => .written ws

/-- Where a message of the manager goes. -/
def fromManager (e : Envelope Manager.Actor) : Packet δ :=
  match e.dest, e.command, e.body with
  | .ws, "write", .transport (.webSocket ws) => S.deliver ws
  | _, _, _ => .manager e

/-- Where a message of a device goes. -/
def fromDevice (d : δ) (e : Envelope Device.Actor) : Packet δ :=
  match e.dest, e.command, e.body with
  | .client, "write", .transport (.webSocket ws) =>
    .manager (Manager.frame { id := S.session d, body := ws.body })
  | _, _, _ => .device d e

/-- The handling of a message by its program. Nothing handles a frame that was
written to a client. -/
def handle [DecidableEq δ] : Work.Handler (State δ) (Packet δ) Env (Option Fault)
  | env, s, .manager e =>
    match Manager.handle Codec.api S.config env s.manager e with
    | .ok (manager, out) => .ok ({ s with manager }, out.map S.fromManager)
    | .error fault => .error (some fault)
  | env, s, .device d e =>
    match Device.handle Codec.api (S.device d) env (s.devices d) e with
    | .ok (n, out) => .ok ({ s with devices := Function.update s.devices d n }, out.map (S.fromDevice d))
    | .error fault => .error (some fault)
  | _, _, .written _ => .error none

/-- What comes from outside: control requests of clients, whose ids the codec
gives back, and what a device sends when it is connected and when it ends. -/
inductive Arrives : Packet δ → Prop
  | control {ws : WebSocket} {request : RequestMessage} : S.owner ws.id = none →
      Codec.api.ReadsRequest ws.body request → request.method = "devices.control" →
      request.id.Exact → Arrives (.manager (Manager.frame ws))
  | handshake (d : δ) (ws : WebSocket) : Arrives (.device d {
      dest := .manager, sender := .manager, command := "handshake", body := .transport (.webSocket ws) })
  | closing (d : δ) : Arrives (.manager (Manager.frame {
      id := S.session d
      body := (Device.Manager.disconnectRequest (S.device d)).serialize Codec.api }))

/-- All programs are wired. -/
structure Wired (s : State δ) : Prop where
  manager : s.manager.contacts = Manager.contacts
  devices : ∀ d, (s.devices d).contacts = Device.contacts

/-- The device is registered with the manager. -/
def Registered (d : δ) (s : State δ) : Prop :=
  (S.device d).deviceKey ∈ s.manager.services.devices.devicesReg

variable {S}

/-- The programs stay wired when the handled program does. -/
theorem Wired.manager_set {s : State δ} (hs : Wired s) {n : Manager.State} (hn : n.contacts = Manager.contacts) :
    Wired { s with manager := n } := ⟨hn, hs.devices⟩

/-! ## Routes -/

section Routes

variable {ws : WebSocket} {d : δ}

theorem deliver_of_owner (h : S.owner ws.id = some d) :
    S.deliver ws = .device d (Device.frame { id := S.link d, body := ws.body }) := by
  rw [deliver, h]

theorem deliver_of_client (h : S.owner ws.id = none) : S.deliver ws = .written ws := by
  rw [deliver, h]

@[simp] theorem fromManager_session {sender : Manager.Actor} :
    S.fromManager (Manager.sessionMessage sender ws) = S.deliver ws := rfl

theorem fromManager_of_dest {e : Envelope Manager.Actor} (h : e.dest ≠ .ws) :
    S.fromManager e = .manager e := by
  unfold fromManager
  split
  · next hdest _ _ => exact absurd hdest h
  · rfl

theorem fromManager_of_body {e : Envelope Manager.Actor} (h : ∀ ws, e.body ≠ .transport (.webSocket ws)) :
    S.fromManager e = .manager e := by
  unfold fromManager
  split
  · next hbody => exact absurd hbody (h _)
  · rfl

@[simp] theorem fromManager_task {dest sender : Manager.Actor} {command : String} {task : Task} :
    S.fromManager { dest, sender, command, body := .task task } =
      .manager { dest, sender, command, body := .task task } :=
  fromManager_of_body fun _ h => nomatch h

@[simp] theorem fromDevice_socket :
    S.fromDevice d (Device.socketMessage ws) =
      .manager (Manager.frame { id := S.session d, body := ws.body }) := rfl

theorem fromDevice_of_dest {e : Envelope Device.Actor} (h : e.dest ≠ .client) :
    S.fromDevice d e = .device d e := by
  unfold fromDevice
  split
  · next hdest _ _ => exact absurd hdest h
  · rfl

theorem fromDevice_of_body {e : Envelope Device.Actor} (h : ∀ ws, e.body ≠ .transport (.webSocket ws)) :
    S.fromDevice d e = .device d e := by
  unfold fromDevice
  split
  · next hbody => exact absurd hbody (h _)
  · rfl

theorem plain_fromManager {e : Envelope Manager.Actor} (h : e.Plain) :
    (S.fromManager e).Plain := by
  unfold fromManager
  split
  · unfold deliver
    split
    · exact fun _ h => nomatch h
    · trivial
  · exact h

theorem plain_fromDevice {e : Envelope Device.Actor} (h : e.Plain) :
    (S.fromDevice d e).Plain := by
  unfold fromDevice
  split
  · exact fun _ h => nomatch h
  · exact h

theorem Arrives.plain {packet : Packet δ} (h : S.Arrives packet) : packet.Plain := by
  cases h <;> exact fun _ h => nomatch h

end Routes

/-! ## Handled packets -/

section Handling

variable [DecidableEq δ] {env : Env} {s s' : State δ} {out : List (Packet δ)}

theorem handle_manager {e : Envelope Manager.Actor} {n : Manager.State} {sent : List (Envelope Manager.Actor)}
    (h : Manager.handle Codec.api S.config env s.manager e = .ok (n, sent)) :
    S.handle env s (.manager e) = .ok ({ s with manager := n }, sent.map S.fromManager) := by
  simp only [handle, h]

theorem handle_device {d : δ} {e : Envelope Device.Actor} {n : Device.State}
    {sent : List (Envelope Device.Actor)}
    (h : Device.handle Codec.api (S.device d) env (s.devices d) e = .ok (n, sent)) :
    S.handle env s (.device d e) =
      .ok ({ s with devices := Function.update s.devices d n }, sent.map (S.fromDevice d)) := by
  simp only [handle, h]

/-- What came of a packet that was handled. -/
inductive Handled (S : Setup δ) (env : Env) (s : State δ) : Packet δ → State δ × List (Packet δ) → Prop
  | manager {e : Envelope Manager.Actor} {n : Manager.State} {sent : List (Envelope Manager.Actor)} :
      Manager.handle Codec.api S.config env s.manager e = .ok (n, sent) →
      Handled S env s (.manager e) ({ s with manager := n }, sent.map S.fromManager)
  | device {d : δ} {e : Envelope Device.Actor} {n : Device.State} {sent : List (Envelope Device.Actor)} :
      Device.handle Codec.api (S.device d) env (s.devices d) e = .ok (n, sent) →
      Handled S env s (.device d e)
        ({ s with devices := Function.update s.devices d n }, sent.map (S.fromDevice d))

theorem handled_of_eq_ok {packet : Packet δ} {r : State δ × List (Packet δ)}
    (h : S.handle env s packet = .ok r) : Handled S env s packet r := by
  cases packet with
  | manager e =>
    simp only [handle] at h
    split at h
    · next hhandle =>
      cases h
      exact .manager hhandle
    · cases h
  | device d e =>
    simp only [handle] at h
    split at h
    · next hhandle =>
      cases h
      exact .device hhandle
    · cases h
  | written ws => cases h

theorem Wired.device_update (hs : Wired s) {d : δ} {n : Device.State}
    (hn : n.contacts = Device.contacts) :
    Wired { s with devices := Function.update s.devices d n } := by
  refine ⟨hs.manager, fun d' => ?_⟩
  by_cases hd : d' = d
  · subst hd
    simpa using hn
  · simpa [hd] using hs.devices d'

/-- Everything stays wired, and nobody is sent an address. -/
theorem handle_plain (hs : Wired s) {packet : Packet δ} (hp : packet.Plain)
    (h : S.handle env s packet = .ok (s', out)) : Wired s' ∧ ∀ e ∈ out, e.Plain := by
  cases handled_of_eq_ok h with
  | manager hhandle =>
    obtain ⟨hn, hsent⟩ := Manager.handle_plain hhandle hp
    refine ⟨hs.manager_set (hn.trans hs.manager), fun packet hpacket => ?_⟩
    obtain ⟨e, he, rfl⟩ := List.mem_map.mp hpacket
    exact plain_fromManager (hsent e he)
  | device hhandle =>
    obtain ⟨hn, hsent⟩ := Device.handle_plain hhandle hp
    refine ⟨hs.device_update (hn.trans (hs.devices _)), fun packet hpacket => ?_⟩
    obtain ⟨e, he, rfl⟩ := List.mem_map.mp hpacket
    exact plain_fromDevice (hsent e he)

end Handling

end Setup

end StreamCloud.Fleet
