-- SUMMARY: A manager and the platform at work together, and the sessions that each of them accepts.
import StreamCloud.Manager.Relay
import StreamCloud.Platform.Relay

/-!
# A manager and the platform

What the manager writes to its websocket client is a frame for the router of the
platform, and what the platform writes to the session of the manager is a frame for
its `platform` service. Frames may overtake one another.

Everything that a message causes is marked with who asked for it. The programs know
nothing of these marks.
-/

namespace StreamCloud.Cloud

/-- The program that accepted a session. -/
inductive Listener
  | manager
  | platform
deriving DecidableEq, Repr

/-- Who asked: the manager itself, for its connection, or somebody in a session. -/
inductive Asker
  | own
  | session (listener : Listener) (id : String)
deriving DecidableEq, Repr

/-- Who is connected: the session of the manager at the platform, the id that the
manager itself has for it, and the ids that each listener gives to sessions. -/
structure Setup where
  config : Config
  managerKey : String
  link : String
  client : String
  ids : Listener → Set String
  link_notMem : link ∉ ids .platform

/-- A message in a mailbox of one of the programs, a session that begins or ends, or
a frame that was written to a session. -/
inductive Packet
  | manager (asker : Option Asker) (e : Envelope Manager.Actor)
  | platform (asker : Option Asker) (e : Envelope Platform.Actor)
  | opened (listener : Listener) (id : String)
  | closed (listener : Listener) (id : String)
  | written (listener : Listener) (asker : Option Asker) (ws : WebSocket)

/-- No actor is named by its address. -/
def Packet.Plain : Packet → Prop
  | .manager _ e => e.Plain
  | .platform _ e => e.Plain
  | _ => True

structure State where
  manager : Manager.State
  platform : Platform.State
  sessions : Listener → List String

namespace State

/-- What the handlers of a program find of its sessions. -/
def env (s : State) (listener : Listener) (env : Env) : Env :=
  { env with sessions := fun id => decide (id ∈ s.sessions listener) }

def opened (s : State) (listener : Listener) (id : String) : State :=
  { s with sessions := Function.update s.sessions listener (id :: s.sessions listener) }

def closed (s : State) (listener : Listener) (id : String) : State :=
  { s with sessions := Function.update s.sessions listener ((s.sessions listener).filter (· ≠ id)) }

end State

namespace Setup

variable (S : Setup)

/-- Where a message of the manager goes. -/
def fromManager (asker : Option Asker) (e : Envelope Manager.Actor) : Packet :=
  match e.dest, e.command, e.body with
  | .client, "write", .transport (.webSocket ws) =>
    .platform asker (Platform.frame { id := S.link, body := ws.body })
  | _, _, _ => .manager asker e

/-- The frame that the websocket server of the manager writes for a message. -/
def writtenByManager (s : State) (asker : Option Asker) (e : Envelope Manager.Actor) : List Packet :=
  match e.dest, e.command, e.body with
  | .ws, "write", .transport (.webSocket ws) =>
    if ws.id ∈ s.sessions .manager then [.written .manager asker ws] else []
  | _, _, _ => []

/-- The frame that the websocket server of the platform writes for a message. -/
def writtenByPlatform (s : State) (asker : Option Asker) (e : Envelope Platform.Actor) : List Packet :=
  match e.dest, e.command, e.body with
  | .ws, "write", .transport (.webSocket ws) =>
    if ws.id = S.link then
      [.manager asker (Manager.platformFrame { id := S.client, body := ws.body })]
    else if ws.id ∈ s.sessions .platform then [.written .platform asker ws] else []
  | _, _, _ => []

/-- The handling of a message by its program. Nothing handles a frame that was
written to a session. -/
def handle : Work.Handler State Packet Env (Option Fault)
  | env, s, .manager asker e =>
    match Manager.handle Codec.api S.config (s.env .manager env) s.manager e with
    | .ok (manager, out) =>
      .ok ({ s with manager }, out.map (S.fromManager asker) ++ writtenByManager s asker e)
    | .error fault => .error (some fault)
  | env, s, .platform asker e =>
    match Platform.handle Codec.api S.managerKey (s.env .platform env) s.platform e with
    | .ok (platform, out) =>
      .ok ({ s with platform }, out.map (.platform asker) ++ S.writtenByPlatform s asker e)
    | .error fault => .error (some fault)
  | _, s, .opened listener id => .ok (s.opened listener id, [])
  | _, s, .closed listener id => .ok (s.closed listener id, [])
  | _, _, .written _ _ _ => .error none

/-- The message that brings a frame of a session to the router of its listener. -/
def received (listener : Listener) (asker : Option Asker) (ws : WebSocket) : Packet :=
  match listener with
  | .manager => .manager asker (Manager.frame ws)
  | .platform => .platform asker (Platform.frame ws)

/-- What comes from outside. Whoever sends a request asks for what comes of it. A
device that sends a response means some session with the id in its metadata. -/
inductive Arrives : Packet → Prop
  | opened {listener : Listener} {id : String} : id ∈ S.ids listener → Arrives (.opened listener id)
  | closed (listener : Listener) (id : String) : Arrives (.closed listener id)
  | request {listener : Listener} {ws : WebSocket} {m : JsonMap} : ws.id ∈ S.ids listener →
      Codec.api.parse ws.body = .ok m → m.isRequest →
      Arrives (received listener (some (.session listener ws.id)) ws)
  | response {ws : WebSocket} {m : JsonMap} {listener : Listener} {id : String} :
      ws.id ∈ S.ids .manager → Codec.api.parse ws.body = .ok m → m.isResponse →
      (m.get "metadata").stringAt "transport" = .ok id → id ∈ S.ids listener →
      Arrives (received .manager (some (.session listener id)) ws)
  | frame {listener : Listener} {ws : WebSocket} : ws.id ∈ S.ids listener →
      (∀ m, Codec.api.parse ws.body = .ok m → m.isRequest = false) →
      Arrives (received listener none ws)
  | managerError (e : SocketError) : Arrives (.manager none {
      dest := .router, sender := .router, command := "error", body := .transport (.error e) })
  | platformError (e : SocketError) : Arrives (.platform none {
      dest := .router, sender := .router, command := "error", body := .transport (.error e) })
  | linkError (e : SocketError) : Arrives (.manager none {
      dest := .platform, sender := .platform, command := "error", body := .transport (.error e) })
  | handshake (ws : WebSocket) : Arrives (.manager (some .own) {
      dest := .platform, sender := .platform, command := "handshake", body := .transport (.webSocket ws) })
  | closing : Arrives (.platform (some .own) (Platform.frame {
      id := S.link
      body := (Manager.PlatformService.ownRequest S.config "managers.disconnect").serialize Codec.api }))

/-- Both programs before they have handled a message, and nobody is connected. -/
structure Initial (s : State) : Prop where
  manager : Manager.Initial s.manager
  platform : Platform.Initial s.platform
  sessions : ∀ listener, s.sessions listener = []

/-- What is reached by some run. -/
def Reachable (c : Work.Config State Packet) : Prop :=
  ∃ s₀, Initial s₀ ∧ Work.Run S.handle S.Arrives (fun _ _ _ => True) ⟨s₀, []⟩ c

/-- Both programs are wired. -/
structure Wired (s : State) : Prop where
  manager : s.manager.contacts = Manager.contacts
  platform : s.platform.contacts = Platform.contacts

variable {S} {s s' : State} {env : Env} {out : List Packet}

theorem Initial.wired (h : Initial s) : Wired s := ⟨h.manager.contacts, h.platform.contacts⟩

/-! ## Handled packets -/

/-- What came of a packet that was handled. -/
inductive Handled (S : Setup) (env : Env) (s : State) : Packet → State × List Packet → Prop
  | manager {asker : Option Asker} {e : Envelope Manager.Actor} {n : Manager.State}
      {sent : List (Envelope Manager.Actor)} :
      Manager.handle Codec.api S.config (s.env .manager env) s.manager e = .ok (n, sent) →
      Handled S env s (.manager asker e)
        ({ s with manager := n }, sent.map (S.fromManager asker) ++ writtenByManager s asker e)
  | platform {asker : Option Asker} {e : Envelope Platform.Actor} {n : Platform.State}
      {sent : List (Envelope Platform.Actor)} :
      Platform.handle Codec.api S.managerKey (s.env .platform env) s.platform e = .ok (n, sent) →
      Handled S env s (.platform asker e)
        ({ s with platform := n }, sent.map (.platform asker) ++ S.writtenByPlatform s asker e)
  | opened {listener : Listener} {id : String} :
      Handled S env s (.opened listener id) (s.opened listener id, [])
  | closed {listener : Listener} {id : String} :
      Handled S env s (.closed listener id) (s.closed listener id, [])

theorem handled_of_eq_ok {packet : Packet} {r : State × List Packet}
    (h : S.handle env s packet = .ok r) : Handled S env s packet r := by
  cases packet with
  | manager asker e =>
    simp only [handle] at h
    split at h
    · next hhandle =>
      cases h
      exact .manager hhandle
    · cases h
  | platform asker e =>
    simp only [handle] at h
    split at h
    · next hhandle =>
      cases h
      exact .platform hhandle
    · cases h
  | opened listener id =>
    cases h
    exact .opened
  | closed listener id =>
    cases h
    exact .closed
  | written listener asker ws => cases h

theorem handle_manager {asker : Option Asker} {e : Envelope Manager.Actor} {n : Manager.State}
    {sent : List (Envelope Manager.Actor)}
    (h : Manager.handle Codec.api S.config (s.env .manager env) s.manager e = .ok (n, sent)) :
    S.handle env s (.manager asker e) =
      .ok ({ s with manager := n }, sent.map (S.fromManager asker) ++ writtenByManager s asker e) := by
  simp only [handle, h]

theorem handle_platform {asker : Option Asker} {e : Envelope Platform.Actor} {n : Platform.State}
    {sent : List (Envelope Platform.Actor)}
    (h : Platform.handle Codec.api S.managerKey (s.env .platform env) s.platform e = .ok (n, sent)) :
    S.handle env s (.platform asker e) =
      .ok ({ s with platform := n }, sent.map (.platform asker) ++ S.writtenByPlatform s asker e) := by
  simp only [handle, h]

/-! ## Routes -/

section Routes

variable {asker : Option Asker} {ws : WebSocket}

@[simp] theorem fromManager_platformMessage :
    S.fromManager asker (Manager.platformMessage ws) =
      .platform asker (Platform.frame { id := S.link, body := ws.body }) := rfl

/-- A message for another actor stays with the manager. -/
theorem fromManager_cases (S : Setup) (asker : Option Asker) (e : Envelope Manager.Actor) :
    S.fromManager asker e = .manager asker e ∨ ∃ ws, e.dest = .client ∧ e.command = "write" ∧
      e.body = .transport (.webSocket ws) ∧
      S.fromManager asker e = .platform asker (Platform.frame { id := S.link, body := ws.body }) := by
  unfold fromManager
  split
  · next ws hdest hcommand hbody => exact .inr ⟨ws, hdest, hcommand, hbody, rfl⟩
  · exact .inl rfl

theorem mem_writtenByManager {e : Envelope Manager.Actor} {packet : Packet}
    (h : packet ∈ writtenByManager s asker e) :
    ∃ ws, e.dest = .ws ∧ e.command = "write" ∧ e.body = .transport (.webSocket ws) ∧
      ws.id ∈ s.sessions .manager ∧ packet = .written .manager asker ws := by
  unfold writtenByManager at h
  split at h
  · next ws hdest hcommand hbody =>
    split at h
    · next hopen => exact ⟨ws, hdest, hcommand, hbody, hopen, List.mem_singleton.mp h⟩
    · cases h
  · cases h

theorem mem_writtenByPlatform {e : Envelope Platform.Actor} {packet : Packet}
    (h : packet ∈ S.writtenByPlatform s asker e) :
    ∃ ws, e.dest = .ws ∧ e.command = "write" ∧ e.body = .transport (.webSocket ws) ∧
      (ws.id = S.link ∧
          packet = .manager asker (Manager.platformFrame { id := S.client, body := ws.body }) ∨
        ws.id ≠ S.link ∧ ws.id ∈ s.sessions .platform ∧ packet = .written .platform asker ws) := by
  unfold writtenByPlatform at h
  split at h
  · next ws hdest hcommand hbody =>
    refine ⟨ws, hdest, hcommand, hbody, ?_⟩
    split at h
    · next hlink => exact .inl ⟨hlink, List.mem_singleton.mp h⟩
    · next hlink =>
      split at h
      · next hopen => exact .inr ⟨hlink, hopen, List.mem_singleton.mp h⟩
      · cases h
  · cases h

theorem plain_fromManager {e : Envelope Manager.Actor} (h : e.Plain) :
    (S.fromManager asker e).Plain := by
  rcases fromManager_cases S asker e with heq | ⟨ws, -, -, -, heq⟩ <;> rw [heq]
  · exact h
  · exact fun _ h => nomatch h

theorem Arrives.plain {packet : Packet} (h : S.Arrives packet) : packet.Plain := by
  cases h with
  | @request listener => cases listener <;> exact fun _ h => nomatch h
  | @frame listener => cases listener <;> exact fun _ h => nomatch h
  | opened => trivial
  | closed => trivial
  | _ => exact fun _ h => nomatch h

end Routes

/-- Everything stays wired, and nobody is sent an address. -/
theorem handle_plain (hs : Wired s) {packet : Packet} (hp : packet.Plain)
    (h : S.handle env s packet = .ok (s', out)) : Wired s' ∧ ∀ e ∈ out, e.Plain := by
  cases handled_of_eq_ok h with
  | manager hhandle =>
    obtain ⟨hn, hsent⟩ := Manager.handle_plain hhandle hp
    refine ⟨⟨hn.trans hs.manager, hs.platform⟩, fun packet hpacket => ?_⟩
    rcases List.mem_append.mp hpacket with hpacket | hpacket
    · obtain ⟨e, he, rfl⟩ := List.mem_map.mp hpacket
      exact plain_fromManager (hsent e he)
    · obtain ⟨ws, -, -, -, -, rfl⟩ := mem_writtenByManager hpacket
      trivial
  | platform hhandle =>
    obtain ⟨hn, hsent⟩ := Platform.handle_plain hhandle hp
    refine ⟨⟨hs.manager, hn.trans hs.platform⟩, fun packet hpacket => ?_⟩
    rcases List.mem_append.mp hpacket with hpacket | hpacket
    · obtain ⟨e, he, rfl⟩ := List.mem_map.mp hpacket
      exact hsent e he
    · obtain ⟨ws, -, -, -, ⟨-, rfl⟩ | ⟨-, -, rfl⟩⟩ := mem_writtenByPlatform hpacket
      · exact fun _ h => nomatch h
      · trivial
  | opened => exact ⟨⟨hs.manager, hs.platform⟩, fun _ he => nomatch he⟩
  | closed => exact ⟨⟨hs.manager, hs.platform⟩, fun _ he => nomatch he⟩

end Setup

end StreamCloud.Cloud
