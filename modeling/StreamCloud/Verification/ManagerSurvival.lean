-- SUMMARY: Which frames a manager survives, whatever else it is sent.
import StreamCloud.Verification.DeviceAccess
import StreamCloud.Verification.RegistryFreshness
import StreamCloud.Verification.Revocation
import StreamCloud.Manager.Relay
import StreamCloud.Api.JsonBounds
import StreamCloud.Library.Follow

/-!
# Frames that the manager survives

A worker catches nothing, so that a handler that stops ends the whole process. A
frame is survived when no handler that it triggers stops. Most handlers read what
they need of a request outside of their `try`, so that a frame is harmless only if
it holds what every handler on its way reads.
-/

namespace StreamCloud

namespace Manager

/-! ## What handlers demand -/

/-- The handlers that only demand that some of their parameters are strings. -/
def stringParams : List (Actor × String × List String) :=
  [(.users, "add", ["login", "password"]), (.users, "delete", ["login"]), (.users, "list", []),
    (.users, "login", ["login", "password"]), (.groups, "add", ["key", "name"]),
    (.groups, "delete", ["key"]), (.groups, "list", []),
    (.subscriptions, "add", ["group-key", "user-login"]),
    (.subscriptions, "delete", ["group-key", "user-login"]), (.subscriptions, "list", ["group-key"]),
    (.subscriptions, "devices", []), (.subscriptions, "off", ["device-key"]),
    (.connections, "add", ["group-key", "device-key"]),
    (.connections, "delete", ["group-key", "device-key"]), (.connections, "list", ["group-key"]),
    (.connections, "subscribe", ["device-key"]), (.connections, "unsubscribe", ["device-key"]),
    (.devices, "add", ["name"]), (.devices, "delete", ["key"]), (.devices, "list", []),
    (.devices, "detail", ["key"]), (.devices, "disconnect", ["key"]),
    (.devices, "subscribe", ["device-key"]), (.devices, "unsubscribe", ["device-key"]),
    (.managerInfo, "info", [])]

/-- What a handler demands of a request, for itself and for the handlers it gives the
task to. `users.auth` is left out: it gives the task back to the router. -/
inductive Accepts : Actor → String → RequestMessage → Prop
  | strings {dest : Actor} {method : String} {keys : List String} {request : RequestMessage} :
      (dest, method, keys) ∈ stringParams → (∀ key ∈ keys, request.params.HasString key) →
      Accepts dest method request
  | connectionsGroups {request : RequestMessage} {a : JsonArray} : request.params = .array a →
      Accepts .connections "groups" request
  | connectionsDevices {request : RequestMessage} {key : String} :
      request.metadata.find? "device-key" = some (.string key) →
      (key ≠ "" → request.params.HasString "action") → Accepts .connections "devices" request
  | subscriptionsGroups {request : RequestMessage} {a : JsonArray} :
      request.metadata.find? "device-groups" = some (.array a) →
      (a ≠ [] → (∀ v ∈ a, ∃ s, v = .string s) →
        request.metadata.HasString "device-key" ∧ request.params.HasString "action") →
      Accepts .subscriptions "groups" request
  | on {request : RequestMessage} : request.metadata.HasArray "device-groups" →
      request.params.HasString "device-key" → Accepts .subscriptions "on" request
  | control {request : RequestMessage} :
      (∀ v, request.metadata.find? "device-key" = some v →
        ∃ key, v = .string key ∧ (key ≠ "" → request.params.HasString "action")) →
      Accepts .devices "control" request
  | connect {request : RequestMessage} : request.params.HasString "key" →
      request.params.HasArray "actions" → request.params.HasArray "variables" →
      Accepts .devices "connect" request
  | request {request : RequestMessage} : request.metadata.HasString "device-key" →
      request.params.HasString "action" → Accepts .devices "request" request

/-! ## Harmless frames -/

section Harmless

variable (config : Config)

/-- A key that some content of the users table lets pass. -/
def Passable (key : String) : Prop :=
  key = config.profileKey ∨ ∃ second, (split key)[1]? = some second ∧ '\x00' ∉ second.toList

/-- Whoever has the key may have the handler called that the method names. -/
structure Callable (key method serviceName methodName : String) (dest : Actor) : Prop where
  listed : serviceName ∈ Router.serviceList
  contact : (contacts .router).lookup serviceName = some dest
  handled : methodName ∈ (program Codec.api config).messageTypes dest
  permitted : key = config.profileKey ∨ method ∈ Router.userMethodList

/-- A request with a user key: the key can be taken apart, and where it passes, the
handler that is called gets what it demands. -/
def KeyedHarmless (request : RequestMessage) (serviceName methodName : String) : Prop :=
  ∃ key, request.metadata.find? "user-key" = some (.string key) ∧
    (key = config.profileKey ∨ 2 ≤ (split key).length) ∧
    (Passable config key → ∀ dest, Callable config key request.method serviceName methodName dest →
      dest = .users ∧ methodName = "auth" ∨ Accepts dest methodName request)

/-- A request is answered at once, or its key is in order, or it is a guest's. -/
def RequestHarmless (request : RequestMessage) : Prop :=
  ∀ serviceName methodName rest, split request.method = serviceName :: methodName :: rest →
    (request.metadata.contains "user-key" → KeyedHarmless config request serviceName methodName) ∧
    (request.metadata.contains "user-key" = false → request.method = "users.login" →
      Accepts .users "login" request)

/-- An object that the handlers of the manager can work with. -/
inductive ObjectHarmless (m : JsonMap) : Prop
  | request {request : RequestMessage} : m.isRequest → m.Holds request → RequestHarmless config request →
      ObjectHarmless m
  | response : m.isResponse → (m.get "metadata").HasString "transport" →
      (m.get "metadata").HasString "device-key" → ObjectHarmless m
  | notify : m.isNotify → (m.get "metadata").HasString "device-key" → ObjectHarmless m

/-- A frame that the scanner does not leave, and whose object the handlers can work with. -/
def Harmless (text : String) : Prop :=
  JsonText.Bounded text ∧ ∀ m, Codec.api.parse text = .ok m → ObjectHarmless config m

end Harmless

/-! ## Messages that are handled -/

/-- A task of a keyed request that the handlers can work with. -/
structure KeyedTask (config : Config) (task : Task) : Prop where
  profileKey : task.stored "profile.key" = config.profileKey
  harmless : KeyedHarmless config task.request (task.stored "service.name") (task.stored "service.method")

/-- The key of the task has passed, and only the administrator's is noted as such. -/
def Passed (config : Config) (task : Task) : Prop :=
  ∃ key, task.request.metadata.find? "user-key" = some (.string key) ∧ Passable config key ∧
    (task.stored "user.admin" = "1" → key = config.profileKey)

/-- A message that comes of a harmless frame. -/
inductive Safe (config : Config) : Envelope Actor → Prop
  | frame {sender : Actor} {ws : WebSocket} : Harmless config ws.body → Safe config (frameFrom sender ws)
  | auth {sender : Actor} {task : Task} : KeyedTask config task →
      Safe config { dest := .users, sender, command := "auth", body := .task task }
  | service {sender : Actor} {task : Task} : KeyedTask config task → Passed config task →
      Safe config { dest := .router, sender, command := "service", body := .task task }
  | handler {dest sender : Actor} {method : String} {task : Task} : Accepts dest method task.request →
      Safe config { dest, sender, command := method, body := .task task }
  | response {id : String} {message : JsonMap} : message.Sorted → message.isResponse →
      (message.get "metadata").HasString "transport" → (message.get "metadata").HasString "device-key" →
      Safe config (relayed "response" id message)
  | notify {id : String} {message : JsonMap} : message.Sorted → message.isNotify →
      (message.get "metadata").HasString "device-key" → Safe config (relayed "notify" id message)
  | emission {id : String} {message : JsonMap} : message.Sorted →
      (message.get "metadata").HasString "device-key" → Safe config (emission id message)
  | session {sender : Actor} {ws : WebSocket} : Writable ws.body → Safe config (sessionMessage sender ws)
  | pipe {ws : WebSocket} : Writable ws.body → Safe config (pipeMessage ws)
  | client {ws : WebSocket} : Safe config (platformMessage ws)

section Closed

variable {config : Config} {env : Env} {n : State}

/-- What a handler sends is safe. -/
abbrev SafeOut (config : Config) (out : List (Envelope Actor)) : Prop := ∀ e ∈ out, Safe config e

theorem safeOut_singleton {e : Envelope Actor} (h : Safe config e) : SafeOut config [e] := by
  intro e' he'
  rw [List.mem_singleton.mp he']
  exact h

/-- A response is safe. -/
theorem safeOut_response (ctx : Ctx Actor) (task : Task) (reply : Reply) :
    SafeOut config [ctx.response Codec.api .ws task reply] :=
  safeOut_singleton (.session (writable_response _))

variable (hn : n.contacts = contacts)
include hn

/-- An answer is safe. -/
theorem answer_closed {σ β : Type} {a : Actor} {task : Task} {s : σ} {read : Except Fault β}
    {valid : β → Bool} {invalid : String} {body : β → Except Fault (σ × Reply)}
    (hws : (contacts a).lookup "ws" = some .ws) (hread : read.Returns)
    (hbody : ∀ args, Copes (body args) fun _ => True) :
    (((program Codec.api config).ctx n a).answer Codec.api task s read valid invalid body).Yields
      fun r => SafeOut config r.2 :=
  Ctx.answer_yields (lookup_of_wired hn hws) hread hbody fun reply => safeOut_response _ task reply

theorem respond_closed {σ : Type} {a : Actor} {task : Task} {s : σ} {reply : Reply}
    (hws : (contacts a).lookup "ws" = some .ws) :
    (do return (s, ← ((program Codec.api config).ctx n a).respond Codec.api task reply) :
      Except Fault (σ × List (Envelope Actor))).Yields fun r => SafeOut config r.2 :=
  Ctx.respond_yields_return (lookup_of_wired hn hws) (safeOut_response _ task reply)

theorem send_closed {σ : Type} {a dest : Actor} {s : σ} {name command : String} {body : Body Actor}
    (hdest : (contacts a).lookup name = some dest)
    (hsafe : Safe config { dest, sender := a, command, body }) :
    (do return (s, ← ((program Codec.api config).ctx n a).send name command body) :
      Except Fault (σ × List (Envelope Actor))).Yields fun r => SafeOut config r.2 :=
  Ctx.send_yields_return (lookup_of_wired hn hdest) (safeOut_singleton hsafe)

omit hn in
theorem paramString_returns {task : Task} {key : String} (h : task.request.params.HasString key) :
    (task.paramString key).Returns := JsonValue.stringAt_returns.mpr h

omit hn in
/-- Two parameters, read one after the other. -/
theorem paramStrings_returns {task : Task} {key key' : String} (h : task.request.params.HasString key)
    (h' : task.request.params.HasString key') :
    (do return (← task.paramString key, ← task.paramString key') : Except Fault (String × String)).Returns := by
  obtain ⟨s, hs⟩ := paramString_returns h
  obtain ⟨s', hs'⟩ := paramString_returns h'
  rw [hs, hs']
  exact ⟨_, rfl⟩

/-- A task for the handler of a contact is safe when the handler accepts it. -/
theorem forward_closed {σ : Type} {a dest : Actor} {s : σ} {name command : String} {task : Task}
    (hdest : (contacts a).lookup name = some dest) (haccepts : Accepts dest command task.request) :
    (do return (s, ← ((program Codec.api config).ctx n a).send name command (.task task)) :
      Except Fault (σ × List (Envelope Actor))).Yields fun r => SafeOut config r.2 :=
  send_closed hn hdest (.handler haccepts)

/-- `forwardGroups` puts the groups of the device under `device-groups`. -/
theorem forwardGroups_closed {deviceKey : Task → Except Fault String} {command : String} {task : Task}
    {key : String} {s : Connections} (hkey : deviceKey task = .ok key)
    (haccepts : key ≠ "" → ∀ keys : List String, keys ≠ [] → Accepts .subscriptions command
      (task.setMetadata "device-groups" (.array (keys.map .string))).request) :
    (Connections.forwardGroups Codec.api deviceKey command env
      ((program Codec.api config).ctx n .connections) s task).Yields fun r => SafeOut config r.2 := by
  have hrespond {what : String} : (do return (s, ← ((program Codec.api config).ctx n .connections).respond
      Codec.api task (.failed what)) : Except Fault (Connections × List (Envelope Actor))).Yields
      fun r => SafeOut config r.2 := respond_closed hn rfl
  unfold Connections.forwardGroups
  rw [hkey, Except.ok_bind']
  refine Except.yields_ite (fun _ => hrespond) fun hne => ?_
  refine catchStd_yields (copes_bind execute_copes fun _ _ => ?_) fun what => hrespond
  refine copes_ite (fun _ => copes_of_yields hrespond) fun hgroups => copes_of_yields ?_
  have hsome : s.selectGroups (.bind key) ≠ [] := by simpa using hgroups
  refine forward_closed hn rfl ?_
  have hstrings := haccepts (by simpa using hne) ((s.selectGroups (.bind key)).map Text.val) (by simpa using hsome)
  rwa [List.map_map] at hstrings

theorem forwardRegistered_closed {command : String} {task : Task} {s : Devices}
    (hcommand : (Actor.connections, command, ["device-key"]) ∈ stringParams)
    (hkey : task.request.params.HasString "device-key") :
    (Devices.forwardRegistered Codec.api command env ((program Codec.api config).ctx n .devices) s task).Yields
      fun r => SafeOut config r.2 := by
  obtain ⟨key, hread⟩ := paramString_returns hkey
  unfold Devices.forwardRegistered
  rw [hread, Except.ok_bind']
  refine Except.yields_ite (fun _ => ?_) fun _ => respond_closed hn rfl
  exact forward_closed hn rfl (.strings hcommand (by simpa using hkey))

/-- The handlers that demand strings. -/
theorem strings_closed {dest sender : Actor} {method : String} {keys : List String} {task : Task}
    (hmem : (dest, method, keys) ∈ stringParams)
    (hkeys : ∀ key ∈ keys, task.request.params.HasString key) :
    (handle Codec.api config env n { dest, sender, command := method, body := .task task }).Yields
      fun r => SafeOut config r.2 := by
  have hexecute {β : Type} {f : Unit → Except Fault β} (hf : Copes (f ()) fun _ => True) :
      Copes (env.db.execute >>= f) fun _ => True := copes_bind execute_copes fun _ _ => hf
  have hdone {β : Type} {b : β} : Copes (.ok b) fun _ => True := copes_ok.mpr trivial
  simp only [stringParams, List.mem_cons, Prod.mk.injEq, List.not_mem_nil, or_false] at hmem
  rcases hmem with ⟨rfl, rfl, rfl⟩ | ⟨rfl, rfl, rfl⟩ | ⟨rfl, rfl, rfl⟩ | ⟨rfl, rfl, rfl⟩ |
    ⟨rfl, rfl, rfl⟩ | ⟨rfl, rfl, rfl⟩ | ⟨rfl, rfl, rfl⟩ | ⟨rfl, rfl, rfl⟩ | ⟨rfl, rfl, rfl⟩ |
    ⟨rfl, rfl, rfl⟩ | ⟨rfl, rfl, rfl⟩ | ⟨rfl, rfl, rfl⟩ | ⟨rfl, rfl, rfl⟩ | ⟨rfl, rfl, rfl⟩ |
    ⟨rfl, rfl, rfl⟩ | ⟨rfl, rfl, rfl⟩ | ⟨rfl, rfl, rfl⟩ | ⟨rfl, rfl, rfl⟩ | ⟨rfl, rfl, rfl⟩ |
    ⟨rfl, rfl, rfl⟩ | ⟨rfl, rfl, rfl⟩ | ⟨rfl, rfl, rfl⟩ | ⟨rfl, rfl, rfl⟩ | ⟨rfl, rfl, rfl⟩ |
    ⟨rfl, rfl, rfl⟩ <;>
    refine (Program.handle_task_yields (Q := SafeOut config) rfl rfl).mpr ?_
  · -- users.add
    refine answer_closed hn rfl (paramStrings_returns (hkeys _ (by simp)) (hkeys _ (by simp))) fun _ => ?_
    exact hexecute (copes_bind insertRow_copes fun _ _ => hdone)
  · exact answer_closed hn rfl (paramString_returns (hkeys _ (by simp))) fun _ => hexecute hdone
  · exact answer_closed hn rfl ⟨_, rfl⟩ fun _ => hexecute hdone
  · -- users.login
    refine answer_closed hn rfl (paramStrings_returns (hkeys _ (by simp)) (hkeys _ (by simp))) fun _ => ?_
    exact hexecute (copes_ite (fun _ => hdone) fun _ => hdone)
  · -- groups.add
    refine answer_closed hn rfl (paramStrings_returns (hkeys _ (by simp)) (hkeys _ (by simp))) fun _ => ?_
    refine hexecute (copes_bind (Q := fun _ => True) ?_ fun _ _ => hdone)
    unfold GroupTable.insert
    split
    · exact copes_thrown
    · exact hdone
  · exact answer_closed hn rfl (paramString_returns (hkeys _ (by simp))) fun _ => hexecute hdone
  · exact answer_closed hn rfl ⟨_, rfl⟩ fun _ => hexecute hdone
  · exact answer_closed hn rfl (paramStrings_returns (hkeys _ (by simp)) (hkeys _ (by simp))) fun _ => hexecute hdone
  · exact answer_closed hn rfl (paramStrings_returns (hkeys _ (by simp)) (hkeys _ (by simp))) fun _ => hexecute hdone
  · exact answer_closed hn rfl (paramString_returns (hkeys _ (by simp))) fun _ => hexecute hdone
  · -- subscriptions.devices
    refine catchStd_yields (copes_bind execute_copes fun _ _ => copes_of_yields ?_) fun what =>
      respond_closed hn rfl
    exact forward_closed hn rfl (.connectionsGroups rfl)
  · -- subscriptions.off
    refine answer_closed hn rfl (paramString_returns (hkeys _ (by simp))) fun _ => ?_
    exact copes_ite (fun _ => hdone) fun _ => hdone
  · exact answer_closed hn rfl (paramStrings_returns (hkeys _ (by simp)) (hkeys _ (by simp))) fun _ => hexecute hdone
  · exact answer_closed hn rfl (paramStrings_returns (hkeys _ (by simp)) (hkeys _ (by simp))) fun _ => hexecute hdone
  · exact answer_closed hn rfl (paramString_returns (hkeys _ (by simp))) fun _ => hexecute hdone
  · -- connections.subscribe
    obtain ⟨key, hkey⟩ := paramString_returns (hkeys "device-key" (by simp))
    refine forwardGroups_closed hn hkey fun _ keys _ => ?_
    exact .on ⟨_, JsonMap.find?_set_self ..⟩ (hkeys "device-key" (by simp))
  · -- connections.unsubscribe
    obtain ⟨key, hkey⟩ := paramString_returns (hkeys "device-key" (by simp))
    show (Connections.unsubscribe Codec.api env _ _ task).Yields _
    unfold Connections.unsubscribe
    rw [hkey, Except.ok_bind']
    refine Except.yields_ite (fun _ => respond_closed hn rfl) fun _ => ?_
    refine catchStd_yields (copes_of_yields ?_) fun what => respond_closed hn rfl
    have hoff : (Actor.subscriptions, "off", ["device-key"]) ∈ stringParams := by simp [stringParams]
    exact forward_closed hn rfl (.strings hoff hkeys)
  · -- devices.add
    refine answer_closed hn rfl (paramString_returns (hkeys _ (by simp))) fun _ => ?_
    exact hexecute (copes_bind insertRow_copes fun _ _ => hdone)
  · exact answer_closed hn rfl (paramString_returns (hkeys _ (by simp))) fun _ => hexecute hdone
  · exact answer_closed hn rfl ⟨_, rfl⟩ fun _ => hexecute hdone
  · -- devices.detail
    refine answer_closed hn rfl (paramString_returns (hkeys _ (by simp))) fun key => hexecute ?_
    have hregistered (sets : StringMap StringSet) (device : String) :
        Copes (Devices.registered sets device) fun _ => True := by
      unfold Devices.registered
      split
      · exact hdone
      · exact copes_thrown
    split
    · exact hdone
    · exact copes_bind (hregistered _ _) fun _ _ => copes_bind (hregistered _ _) fun _ _ => hdone
  · -- devices.disconnect
    obtain ⟨key, hkey⟩ := paramString_returns (hkeys "key" (by simp))
    show (Devices.disconnect env _ _ task).Yields _
    unfold Devices.disconnect
    rw [hkey, Except.ok_bind']
    exact Except.yields_ok.mpr fun _ he => absurd he List.not_mem_nil
  · exact forwardRegistered_closed hn (by simp [stringParams]) (hkeys _ (by simp))
  · exact forwardRegistered_closed hn (by simp [stringParams]) (hkeys _ (by simp))
  · exact respond_closed hn rfl

/-- `subscriptions.groups` gives the task of a device to `devices.request`. -/
theorem groups_closed {task : Task} {a : JsonArray}
    (hgroups : task.request.metadata.find? "device-groups" = some (.array a))
    (hdemands : a ≠ [] → (∀ v ∈ a, ∃ s, v = .string s) →
      task.request.metadata.HasString "device-key" ∧ task.request.params.HasString "action")
    (s : Subscriptions) :
    (Subscriptions.groups Codec.api env ((program Codec.api config).ctx n .subscriptions) s task).Yields
      fun r => SafeOut config r.2 := by
  have hread : task.request.metadata.arrayAt "device-groups" = .ok a := JsonMap.arrayAt_eq_ok.mpr hgroups
  unfold Subscriptions.groups
  rw [hread, Except.ok_bind']
  refine Except.yields_ite (fun _ => respond_closed hn rfl) fun hempty => ?_
  refine catchStd_yields ?_ fun what => respond_closed hn rfl
  refine copes_bind (mapM_asString_copes a) fun strings hstrings => ?_
  refine copes_bind execute_copes fun _ _ => ?_
  refine copes_ite (fun _ => copes_of_yields ?_) fun _ => copes_of_yields (respond_closed hn rfl)
  -- only here is the task given on, behind the strings of the array
  have hne : a ≠ [] := by simpa using hempty
  obtain ⟨⟨key, hkey⟩, haction⟩ := hdemands hne fun v hv => by
    rw [hstrings] at hv
    obtain ⟨s, -, rfl⟩ := List.mem_map.mp hv
    exact ⟨s, rfl⟩
  refine forward_closed hn rfl (.request ⟨key, ?_⟩ haction)
  exact (JsonMap.find?_erase_of_ne (by decide)).trans hkey

/-- Every handler that accepts a task works with it. -/
theorem accepted_closed {dest sender : Actor} {method : String} {task : Task}
    (h : Accepts dest method task.request) :
    (handle Codec.api config env n { dest, sender, command := method, body := .task task }).Yields
      fun r => SafeOut config r.2 := by
  have hdone {β : Type} {b : β} : Copes (.ok b) fun _ => True := copes_ok.mpr trivial
  cases h with
  | strings hmem hkeys => exact strings_closed hn hmem hkeys
  | connectionsGroups hparams =>
    refine (Program.handle_task_yields (Q := SafeOut config) rfl rfl).mpr ?_
    refine answer_closed hn rfl ⟨_, JsonValue.asArray_eq_ok.mpr hparams⟩ fun a => ?_
    exact copes_bind (mapM_asString_copes a) fun _ _ => copes_bind execute_copes fun _ _ => hdone
  | @connectionsDevices _ key hkey haction =>
    refine (Program.handle_task_yields (Q := SafeOut config) rfl rfl).mpr ?_
    have hread : task.metadataString "device-key" = .ok key := JsonMap.stringAt_eq_ok.mpr hkey
    refine forwardGroups_closed hn hread fun hne keys _ => ?_
    refine .subscriptionsGroups (JsonMap.find?_set_self ..) fun _ _ => ⟨⟨key, ?_⟩, haction hne⟩
    exact (JsonMap.find?_set_of_ne (by decide)).trans hkey
  | subscriptionsGroups hgroups hdemands =>
    refine (Program.handle_task_yields (Q := SafeOut config) rfl rfl).mpr ?_
    exact groups_closed hn hgroups hdemands _
  | on hgroups hkey =>
    refine (Program.handle_task_yields (Q := SafeOut config) rfl rfl).mpr ?_
    obtain ⟨a, ha⟩ := JsonMap.arrayAt_returns.mpr hgroups
    obtain ⟨key, hkey⟩ := paramString_returns hkey
    refine answer_closed hn rfl ⟨(a, key), ?_⟩ fun args => ?_
    · rw [ha, hkey]
      rfl
    · refine copes_bind (mapM_asString_copes _) fun _ _ => copes_bind execute_copes fun _ _ => ?_
      exact copes_ite (fun _ => hdone) fun _ => copes_ite (fun _ => hdone) fun _ => hdone
  | control hkey =>
    refine (Program.handle_task_yields (Q := SafeOut config) rfl rfl).mpr ?_
    show (Devices.control Codec.api env _ _ task).Yields _
    unfold Devices.control
    refine Except.yields_ite (fun hcontains => ?_) fun _ => respond_closed hn rfl
    obtain ⟨v, hv⟩ := Option.isSome_iff_exists.mp hcontains
    obtain ⟨key, rfl, haction⟩ := hkey v hv
    have hread : task.metadataString "device-key" = .ok key := JsonMap.stringAt_eq_ok.mpr hv
    rw [hread, Except.ok_bind']
    refine Except.yields_ite (fun _ => ?_) fun _ => respond_closed hn rfl
    exact forward_closed hn rfl (.connectionsDevices hv haction)
  | connect hkey hactions hvariables =>
    refine (Program.handle_task_yields (Q := SafeOut config) rfl rfl).mpr ?_
    obtain ⟨key, hkey⟩ := paramString_returns hkey
    obtain ⟨actions, hactions⟩ := JsonValue.arrayAt_returns.mpr hactions
    obtain ⟨values, hvariables⟩ := JsonValue.arrayAt_returns.mpr hvariables
    refine answer_closed hn rfl ⟨(key, actions, values), ?_⟩ fun args => ?_
    · rw [Devices.connectParams, hkey, hactions, hvariables]
      rfl
    · have hset (values : JsonArray) : Copes (Devices.stringSet values) fun _ => True :=
        copes_bind (mapM_asString_copes _) fun _ _ => hdone
      refine copes_bind execute_copes fun _ _ => copes_ite (fun _ => ?_) fun _ => hdone
      refine copes_ite (fun _ => hdone) fun _ => copes_of_yields ?_
      refine catchStd_yields ?_ fun _ => Except.yields_ok.mpr trivial
      exact copes_bind (hset _) fun _ _ => copes_bind (hset _) fun _ _ => hdone
  | request hkey haction =>
    refine (Program.handle_task_yields (Q := SafeOut config) rfl rfl).mpr ?_
    obtain ⟨key, hkey⟩ := JsonMap.stringAt_returns.mpr hkey
    obtain ⟨action, haction⟩ := paramString_returns haction
    have hread : task.metadataString "device-key" = .ok key := hkey
    show (Devices.request Codec.api env _ _ task).Yields _
    unfold Devices.request
    rw [hread, Except.ok_bind']
    split
    · rw [haction, Except.ok_bind']
      exact send_closed hn rfl (.session (writable_request _))
    · exact respond_closed hn rfl

/-! ### Routed texts -/

omit hn in
theorem nodup_of_sorted {m : JsonMap} (hm : m.Sorted) : (m.map Prod.fst).Nodup :=
  (JsonMap.sorted_iff.mp hm).1.imp fun h => ne_of_lt h

theorem response_closed {id : String} {message : JsonMap} (hsorted : message.Sorted)
    (hresponse : message.isResponse) (htransport : (message.get "metadata").HasString "transport")
    (hdevice : (message.get "metadata").HasString "device-key") :
    (handle Codec.api config env n (relayed "response" id message)).Yields
      fun r => SafeOut config r.2 := by
  obtain ⟨target, htarget⟩ := JsonValue.stringAt_returns.mpr htransport
  obtain ⟨device, hdevice⟩ := JsonValue.stringAt_returns.mpr hdevice
  by_cases hregistered : device ∈ n.services.devices.devicesReg
  · rw [handle_relayed_response hn hsorted hresponse htarget hdevice hregistered, Except.yields_ok]
    refine safeOut_singleton (.session (writable_print ?_ (.inl (JsonMap.find?_erase_self ..))))
    exact nodup_of_sorted ((JsonMap.sorted_reread message).erase _)
  · rw [handle_relayed_response_unregistered hsorted hresponse htarget hdevice hregistered,
      Except.yields_ok]
    exact fun _ he => absurd he List.not_mem_nil

theorem notify_closed {id : String} {message : JsonMap} (hsorted : message.Sorted)
    (hnotify : message.isNotify) (hdevice : (message.get "metadata").HasString "device-key") :
    (handle Codec.api config env n (relayed "notify" id message)).Yields fun r => SafeOut config r.2 := by
  obtain ⟨device, hdevice⟩ := JsonValue.stringAt_returns.mpr hdevice
  by_cases hregistered : device ∈ n.services.devices.devicesReg
  · rw [handle_relayed_notify hn hsorted hnotify hdevice hregistered, Except.yields_ok]
    have hreread : (message.reread.get "metadata").HasString "device-key" :=
      JsonValue.stringAt_returns.mp ⟨device, (metadata_reread hsorted).mpr hdevice⟩
    exact safeOut_singleton (.emission (JsonMap.sorted_reread message) hreread)
  · rw [handle_relayed_notify_unregistered hsorted hnotify hdevice hregistered, Except.yields_ok]
    exact fun _ he => absurd he List.not_mem_nil

theorem emission_closed {id : String} {message : JsonMap} (hsorted : message.Sorted)
    (hdevice : (message.get "metadata").HasString "device-key") :
    (handle Codec.api config env n (emission id message)).Yields fun r => SafeOut config r.2 := by
  obtain ⟨metadata, device, hmetadata, hkey⟩ := hdevice
  rw [handle_emission hn hsorted hmetadata (JsonMap.stringAt_eq_ok.mpr hkey), Except.yields_ok]
  intro e he
  obtain ⟨subscribe, -, rfl⟩ := List.mem_map.mp he
  refine .session (writable_print ?_ (.inr ⟨_, JsonMap.find?_set_self ..⟩))
  have hkeys := (JsonMap.sorted_iff.mp (JsonMap.sorted_reread message)).1
  exact (JsonMap.pairwise_set hkeys _ _).imp fun h => ne_of_lt h

theorem pipe_closed {ws : WebSocket} (h : Writable ws.body) :
    (handle Codec.api config env n (pipeMessage ws)).Yields fun r => SafeOut config r.2 := by
  obtain ⟨message, metadata, hparse, hmetadata⟩ := h
  rw [handle_pipeMessage hn hparse hmetadata, Except.yields_ok]
  exact safeOut_singleton .client

/-! ### Requests -/

omit hn in
/-- The notes that are made on a keyed task leave what it names. -/
theorem KeyedTask.noted {task : Task} (h : KeyedTask config task) (key login : String) :
    KeyedTask config ((Users.noted task key).emplace "user.login" login) := by
  obtain ⟨hprofile, hharmless⟩ := h
  have hstored {name : String} (hlogin : name ≠ "user.login") (hadmin : name ≠ "user.admin") :
      ((Users.noted task key).emplace "user.login" login).stored name = task.stored name :=
    (Task.stored_emplace_ne hlogin).trans (Users.stored_noted_ne hadmin)
  refine ⟨(hstored (by decide) (by decide)).trans hprofile, ?_⟩
  rw [hstored (by decide) (by decide), hstored (by decide) (by decide)]
  exact hharmless

omit hn in
theorem passed_noted {task : Task} {key : String} (hprofile : task.stored "profile.key" = config.profileKey)
    (hkey : task.request.metadata.find? "user-key" = some (.string key)) (hpassable : Passable config key)
    (login : String) : Passed config ((Users.noted task key).emplace "user.login" login) := by
  refine ⟨key, hkey, hpassable, fun hadmin => ?_⟩
  rw [Task.stored_emplace_ne (by decide), Users.stored_noted_admin, hprofile] at hadmin
  split at hadmin
  · next heq => exact (beq_iff_eq.mp heq).symm
  · exact absurd hadmin (by decide)

omit hn in
/-- No password that a row has holds a null character. -/
theorem Users.noNul_select (s : Users) (login : String) : '\x00' ∉ (s.select login).2.toList := by
  unfold Users.select
  split
  · next row _ => exact row.password.noNul
  · simp

theorem auth_closed (hpassable : ∀ key ∈ n.services.users.usersAuth, Passable config key)
    {sender : Actor} {task : Task} (h : KeyedTask config task) :
    (handle Codec.api config env n { dest := .users, sender, command := "auth", body := .task task }).Yields
      fun r => SafeOut config r.2 := by
  obtain ⟨key, hfind, hpieces, -⟩ := h.harmless
  obtain ⟨first, rest, hsplit⟩ := exists_split key
  have hkey : task.metadataString "user-key" = .ok key := JsonMap.stringAt_eq_ok.mpr hfind
  have hforward (hpassable : Passable config key) {m : State} :
      (.ok (m, [{ dest := Actor.router, sender := Actor.users, command := "service",
                  body := .task ((Users.noted task key).emplace "user.login" first) }]) :
        Except Fault (State × List (Envelope Actor))).Yields fun r => SafeOut config r.2 :=
    Except.yields_ok.mpr (safeOut_singleton
      (.service (h.noted key first) (passed_noted h.profileKey hfind hpassable first)))
  have hdenied {what : String} : (.ok (n, [((program Codec.api config).ctx n .users).response Codec.api .ws
        (Users.noted task key) (.failed what)]) :
      Except Fault (State × List (Envelope Actor))).Yields fun r => SafeOut config r.2 :=
    Except.yields_ok.mpr (safeOut_response _ _ _)
  rw [handle_auth hn hkey hsplit]
  dsimp only
  rw [h.profileKey]
  split
  · next haccepted =>
    apply hforward
    rw [Bool.or_eq_true] at haccepted
    -- a cached key has passed before
    rcases haccepted with hauth | hadmin
    · exact hpassable key (of_decide_eq_true hauth)
    · exact .inl (beq_iff_eq.mp hadmin).symm
  · next hunknown =>
    cases env.db with
    | some what => exact hdenied
    | none =>
      cases rest with
      | nil =>
        -- a key without a dot is the administrator's
        rcases hpieces with rfl | hpieces
        · simp at hunknown
        · simp [hsplit] at hpieces
      | cons second rest =>
        dsimp only [List.head?_cons]
        split
        · next hpassword =>
          refine hforward (.inr ⟨second, by rw [hsplit]; rfl, ?_⟩)
          rw [beq_iff_eq.mp hpassword]
          exact Users.noNul_select _ _
        · exact hdenied

omit hn in
/-- The router knows all services of its list. -/
theorem exists_contact {serviceName : String} (h : serviceName ∈ Router.serviceList) :
    ∃ dest, (contacts .router).lookup serviceName = some dest := by
  have hall : ∀ name ∈ Router.serviceList, ((contacts .router).lookup name).isSome := by decide
  exact Option.isSome_iff_exists.mp (hall serviceName h)

theorem service_closed {sender : Actor} {task : Task} (h : KeyedTask config task)
    (hpassed : Passed config task) :
    (handle Codec.api config env n { dest := .router, sender, command := "service", body := .task task }).Yields
      fun r => SafeOut config r.2 := by
  refine (Program.handle_task_yields (Q := SafeOut config) rfl rfl).mpr ?_
  show (Router.service Codec.api env ((program Codec.api config).ctx n .router) () task).Yields _
  unfold Router.service
  dsimp only
  refine Except.yields_ite (fun hlisted => ?_) fun _ => respond_closed hn rfl
  obtain ⟨dest, hdest⟩ := exists_contact hlisted
  rw [Ctx.addresses_eq_ok.mpr (lookup_of_wired hn hdest), Except.ok_bind']
  refine Except.yields_ite (fun hhandled => ?_) fun _ => respond_closed hn rfl
  refine Except.yields_ite (fun hpermitted => ?_) fun _ => respond_closed hn rfl
  obtain ⟨key, hfind, -, hdemands⟩ := h.harmless
  obtain ⟨key', hfind', hpassable, hadmin⟩ := hpassed
  obtain rfl : key' = key := by simpa using hfind'.symm.trans hfind
  have hcallable : Callable config key' task.request.method (task.stored "service.name")
      (task.stored "service.method") dest := ⟨hlisted, hdest, hhandled, hpermitted.imp hadmin id⟩
  rcases hdemands hpassable dest hcallable with ⟨rfl, hauth⟩ | haccepts
  · rw [hauth]
    exact send_closed hn hdest (.auth h)
  · exact forward_closed hn hdest haccepts

theorem frame_closed {sender : Actor} {ws : WebSocket} (h : Harmless config ws.body) :
    (handle Codec.api config env n (frameFrom sender ws)).Yields fun r => SafeOut config r.2 := by
  obtain ⟨hbounded, hobject⟩ := h
  obtain ⟨message, hparse⟩ := Codec.api_parse_returns.mpr hbounded
  have hsorted : message.Sorted := Codec.api_sorted hparse
  have hhandedOn (hrequest : message.isRequest = false)
      (hsafe : Safe config (relayed (if message.isResponse then "response" else "notify") ws.id message)) :
      (handle Codec.api config env n (frameFrom sender ws)).Yields fun r => SafeOut config r.2 := by
    rw [handle_handedOn hn hparse hrequest, Except.yields_ok]
    exact safeOut_singleton hsafe
  cases hobject message hparse with
  | response hresponse htransport hdevice =>
    refine hhandedOn ?_ ?_
    · simp only [JsonMap.isResponse, Bool.and_eq_true, Bool.not_eq_true'] at hresponse
      simp [JsonMap.isRequest, hresponse.1]
    · rw [if_pos hresponse]
      exact .response hsorted hresponse htransport hdevice
  | notify hnotify hdevice =>
    have hid : message.contains "id" = false := by simpa [JsonMap.isNotify] using hnotify
    have hresponse : message.isResponse = false := by simp [JsonMap.isResponse, hid]
    refine hhandedOn (by simp [JsonMap.isRequest, hid]) ?_
    rw [hresponse]
    exact .notify hsorted hnotify hdevice
  | @request request hrequest hholds hharmless =>
    have hread := (JsonMap.holds_iff (JsonMap.contains_id_of_isRequest hrequest)).mp hholds
    refine (Program.handle_transport_yields (Q := SafeOut config) rfl rfl).mpr ?_
    show (Router.dispatcher Codec.api config env ((program Codec.api config).ctx n .router) ()
      (.webSocket ws)).Yields _
    simp only [Router.dispatcher, Transport.asWebSocket_webSocket, Except.ok_bind', hparse,
      if_pos hrequest, Router.request, hread]
    split
    · next serviceName methodName rest hsplit =>
      obtain ⟨hkeyed, hguest⟩ := hharmless serviceName methodName rest hsplit
      cases hcontains : request.metadata.contains "user-key" with
      | true =>
        rw [if_pos rfl]
        exact send_closed hn rfl (.auth ⟨rfl, hkeyed hcontains⟩)
      | false =>
        rw [if_neg Bool.false_ne_true]
        by_cases hquest : request.method ∈ Router.questMethodList
        · rw [if_pos hquest]
          have hlogin : split "users.login" = ["users", "login"] := by decide
          have hinfo : split "manager.info" = ["manager", "info"] := by decide
          -- the two methods of guests
          rcases List.mem_cons.mp hquest with hmethod | hquest
          · rw [hmethod, hlogin] at hsplit
            cases hsplit
            exact forward_closed hn rfl (hguest hcontains hmethod)
          · rw [List.mem_singleton.mp hquest, hinfo] at hsplit
            cases hsplit
            have hmem : (Actor.managerInfo, "info", []) ∈ stringParams := by simp [stringParams]
            exact forward_closed hn rfl (.strings hmem (by simp))
        · rw [if_neg hquest]
          exact respond_closed hn rfl
    · exact respond_closed hn rfl

theorem safe_closed (hpassable : ∀ key ∈ n.services.users.usersAuth, Passable config key)
    {e : Envelope Actor} (h : Safe config e) :
    (handle Codec.api config env n e).Yields fun r => SafeOut config r.2 := by
  cases h with
  | frame hharmless => exact frame_closed hn hharmless
  | auth htask => exact auth_closed hn hpassable htask
  | service htask hpassed => exact service_closed hn htask hpassed
  | handler haccepts => exact accepted_closed hn haccepts
  | response hsorted hresponse htransport hdevice => exact response_closed hn hsorted hresponse htransport hdevice
  | notify hsorted hnotify hdevice => exact notify_closed hn hsorted hnotify hdevice
  | emission hsorted hdevice => exact emission_closed hn hsorted hdevice
  | session hwritable =>
    rw [handle_sessionMessage, Except.yields_ok]
    dsimp only
    split
    · exact fun _ he => absurd he List.not_mem_nil
    · exact safeOut_singleton (.pipe hwritable)
  | pipe hwritable => exact pipe_closed hn hwritable
  | client =>
    refine (Program.handle_transport_yields (Q := SafeOut config) rfl rfl).mpr ?_
    exact Except.yields_ok.mpr fun _ he => absurd he List.not_mem_nil

end Closed

/-! ## Runs -/

section Runs

variable {config : Config}

theorem Safe.plain {e : Envelope Actor} (h : Safe config e) : e.Plain := by
  cases h <;> exact fun _ h => by cases h

/-- What a run keeps: the wiring, and that a cached key lets pass. -/
structure Kept (config : Config) (n : State) : Prop where
  contacts : n.contacts = contacts
  passable : ∀ key ∈ n.services.users.usersAuth, Passable config key

theorem Initial.kept {n : State} (h : Initial n) : Kept config n := by
  refine ⟨h.contacts, fun key hkey => ?_⟩
  rw [h.usersAuth] at hkey
  exact absurd hkey (AList.notMem_empty key)

theorem Kept.handled {env : Env} {n n' : State} {e : Envelope Actor} {out : List (Envelope Actor)}
    (hn : Kept config n) (hplain : e.Plain) (h : handle Codec.api config env n e = .ok (n', out)) :
    Kept config n' ∧ ∀ e' ∈ out, e'.Plain := by
  obtain ⟨hcontacts, hout⟩ := handle_plain h hplain
  refine ⟨⟨hcontacts.trans hn.contacts, ?_⟩, hout⟩
  rcases users_effect h with hsame | ⟨-, heffect⟩
  · rw [hsame]
    exact hn.passable
  · generalize e.command = command, e.body = body, n'.services.users = users' at heffect
    cases heffect with
    | keep => exact hn.passable
    | add => exact hn.passable
    | delete => exact fun key hkey => hn.passable key (Users.mem_removeAuthLogin.mp hkey).1
    -- the second piece of the key is a password, which has no null character
    | @accept task userKey first second rest _ hsplit hpassword =>
      intro key hkey
      rcases AList.mem_emplace.mp hkey with rfl | hkey
      · refine .inr ⟨second, by rw [hsplit]; rfl, ?_⟩
        rw [hpassword]
        exact Users.noNul_select _ _
      · exact hn.passable key hkey

/-- No handler that a harmless frame triggers stops, whatever else arrives. -/
theorem unfailing_of_harmless {n : State} {pending : List (Envelope Actor)} (hn : Kept config n)
    (hplain : ∀ e ∈ pending, e.Plain) {sender : Actor} {ws : WebSocket} (h : Harmless config ws.body) :
    Work.Unfailing (handle Codec.api config) Arrives (fun _ _ _ => True) (fun _ _ _ => True)
      ⟨n, pending, [frameFrom sender ws]⟩ := by
  refine Work.unfailing_of_closed (Kept config) Envelope.Plain (Safe config) (fun _ h => h.plain)
    (fun env n e n' out hn hplain _ heq => hn.handled hplain heq) ?_ hn hplain ?_
  · intro env n e hn hsafe
    obtain ⟨⟨n', out⟩, heq, hout⟩ : (handle Codec.api config env n e).Yields fun r => SafeOut config r.2 :=
      safe_closed hn.contacts hn.passable hsafe
    exact ⟨_, heq, (hn.handled hsafe.plain heq).1, hout⟩
  · exact safeOut_singleton (.frame h)

end Runs

/-! ## Handlers that stop -/

section Stops

variable {config : Config} {env : Env} {n : State}

/-- A handler of strings that returns found them. -/
theorem strings_of_returns {dest sender : Actor} {method : String} {keys : List String} {task : Task}
    (hmem : (dest, method, keys) ∈ stringParams)
    (h : (handle Codec.api config env n { dest, sender, command := method, body := .task task }).Returns) :
    ∀ key ∈ keys, task.request.params.HasString key := by
  have hone {σ : Type} {key : String} {f : String → Except Fault σ}
      (h : (task.paramString key >>= f).Returns) : ∀ key' ∈ [key], task.request.params.HasString key' := by
    intro key' hkey'
    rw [List.mem_singleton.mp hkey']
    exact JsonValue.stringAt_returns.mp h.of_bind
  have htwo {σ : Type} {key key' : String} {f : String × String → Except Fault σ}
      (h : ((do return (← task.paramString key, ← task.paramString key')) >>= f).Returns) :
      ∀ key'' ∈ [key, key'], task.request.params.HasString key'' := by
    obtain ⟨s, hs, h⟩ := Except.returns_bind.mp h.of_bind
    intro key'' hkey''
    rcases List.mem_cons.mp hkey'' with rfl | hkey''
    · exact JsonValue.stringAt_returns.mp ⟨s, hs⟩
    · rw [List.mem_singleton.mp hkey'']
      exact JsonValue.stringAt_returns.mp h.of_bind
  simp only [stringParams, List.mem_cons, Prod.mk.injEq, List.not_mem_nil, or_false] at hmem
  rcases hmem with ⟨rfl, rfl, rfl⟩ | ⟨rfl, rfl, rfl⟩ | ⟨rfl, rfl, rfl⟩ | ⟨rfl, rfl, rfl⟩ |
    ⟨rfl, rfl, rfl⟩ | ⟨rfl, rfl, rfl⟩ | ⟨rfl, rfl, rfl⟩ | ⟨rfl, rfl, rfl⟩ | ⟨rfl, rfl, rfl⟩ |
    ⟨rfl, rfl, rfl⟩ | ⟨rfl, rfl, rfl⟩ | ⟨rfl, rfl, rfl⟩ | ⟨rfl, rfl, rfl⟩ | ⟨rfl, rfl, rfl⟩ |
    ⟨rfl, rfl, rfl⟩ | ⟨rfl, rfl, rfl⟩ | ⟨rfl, rfl, rfl⟩ | ⟨rfl, rfl, rfl⟩ | ⟨rfl, rfl, rfl⟩ |
    ⟨rfl, rfl, rfl⟩ | ⟨rfl, rfl, rfl⟩ | ⟨rfl, rfl, rfl⟩ | ⟨rfl, rfl, rfl⟩ | ⟨rfl, rfl, rfl⟩ |
    ⟨rfl, rfl, rfl⟩ <;>
    have hran := Program.handle_task_returns rfl rfl h
  · exact htwo hran
  · exact hone hran
  · simp
  · exact htwo hran
  · exact htwo hran
  · exact hone hran
  · simp
  · exact htwo hran
  · exact htwo hran
  · exact hone hran
  · simp
  · exact hone hran
  · exact htwo hran
  · exact htwo hran
  · exact hone hran
  · exact hone hran
  · exact hone hran
  · exact hone hran
  · exact hone hran
  · simp
  · exact hone hran
  · exact hone hran
  · exact hone hran
  · exact hone hran
  · simp

/-- The state in which nothing but the request itself stands in the way of the device. -/
structure Ready (n : State) (task : Task) (device : String) : Prop where
  registered : device ∈ n.services.devices.devicesReg
  group : FindsGroup n device
  access : task.stored "user.admin" = "1" ∨ SubscribedToJoined n device (task.stored "user.login")

theorem breaks_request {sender : Actor} {task : Task} {device : String}
    (hkey : task.request.metadata.find? "device-key" = some (.string device))
    (hregistered : device ∈ n.services.devices.devicesReg)
    (haction : ¬ task.request.params.HasString "action") :
    Work.Breaks (handle Codec.api config) n
      { dest := .devices, sender, command := "request", body := .task task } := by
  refine .now .calm fun h => haction ?_
  have hran : (Devices.request Codec.api .calm _ n.services.devices task).Returns :=
    Program.handle_task_returns rfl rfl h
  have hread : task.metadataString "device-key" = .ok device := JsonMap.stringAt_eq_ok.mpr hkey
  obtain ⟨session, hsession⟩ := Option.isSome_iff_exists.mp (AList.lookup_isSome.mpr hregistered)
  unfold Devices.request at hran
  rw [hread, Except.ok_bind', hsession] at hran
  exact JsonValue.stringAt_returns.mp hran.of_bind

/-- No service of the router's list takes a task for a standard handler: `sync_contacts`
and `add_channel` cannot read it, and `skip` has the router told a text, which it cannot read. -/
theorem breaks_standard {dest : Actor} {method : String} {task : Task}
    (hmethod : (program Codec.api config).reaction dest method ∈ [.syncContacts, .skip, .addChannel]) :
    Work.Breaks (handle Codec.api config) n
      { dest, sender := .router, command := method, body := .task task } := by
  have hperform {env : Env} : handle Codec.api config env n
      { dest, sender := .router, command := method, body := .task task } =
      (program Codec.api config).perform ((program Codec.api config).reaction dest method) env n
        { dest, sender := .router, command := method, body := .task task } := rfl
  simp only [List.mem_cons, List.not_mem_nil, or_false] at hmethod
  rcases hmethod with hreaction | hreaction | hreaction <;> rw [hreaction] at hperform
  · refine .now .calm fun ⟨r, hr⟩ => ?_
    cases hperform.symm.trans hr
  · refine .later .calm hperform (List.mem_singleton_self _) (.now .calm fun ⟨r, hr⟩ => ?_)
    -- the text comes back to the router, whose handler of errors reads a transport
    let e : Envelope Actor := { dest, sender := .router, command := method, body := .task task }
    have hmem : { dest := .router, sender := dest, command := "error", body := .text method } ∈
      (program Codec.api config).skip e := List.mem_singleton_self _
    exact not_handled_of_mem_skip hmem r hr
  · refine .now .calm fun ⟨r, hr⟩ => ?_
    cases hperform.symm.trans hr

variable (hn : n.contacts = contacts)
include hn

/-- With access, `subscriptions.groups` gives the task to `devices.request`. -/
theorem breaks_groups {sender : Actor} {task : Task} {keys : List String}
    (hkeys : task.request.metadata.find? "device-groups" = some (.array (keys.map .string))) (hne : keys ≠ [])
    (haccess : n.services.subscriptions.selectAccess (.bind (task.stored "user.login"))
      (.bind (joinGroups keys)) ≠ [] ∨ task.stored "user.admin" = "1")
    (hrequest : Work.Breaks (handle Codec.api config) n
      { dest := .devices, sender := .subscriptions, command := "request",
        body := .task (task.eraseMetadata "device-groups") }) :
    Work.Breaks (handle Codec.api config) n
      { dest := .subscriptions, sender, command := "groups", body := .task task } := by
  have hdevices : (contacts .subscriptions).lookup "devices" = some .devices := rfl
  have hws : (contacts .subscriptions).lookup "ws" = some .ws := rfl
  refine .later .calm ?_ (List.mem_singleton_self _) hrequest
  refine (Program.handle_task rfl rfl).trans ?_
  show (Subscriptions.groups Codec.api .calm ((program Codec.api config).ctx n .subscriptions)
    n.services.subscriptions task).map _ = _
  rw [Subscriptions.groups_eq Codec.api rfl (JsonMap.arrayAt_eq_ok.mpr hkeys) hne
    (lookup_of_wired hn hdevices) (lookup_of_wired hn hws), if_pos haccess]
  rfl

theorem breaks_devices {sender : Actor} {task : Task} {device : String}
    (hkey : task.request.metadata.find? "device-key" = some (.string device)) (hready : Ready n task device)
    (hne : device ≠ "") (haction : ¬ task.request.params.HasString "action") :
    Work.Breaks (handle Codec.api config) n
      { dest := .connections, sender, command := "devices", body := .task task } := by
  have hreaction : (program Codec.api config).reaction .connections "devices" =
    .task ((Connections.devices Codec.api).lift Services.connectionsLens) := rfl
  have hread : task.metadataString "device-key" = .ok device := JsonMap.stringAt_eq_ok.mpr hkey
  have hcalm : Env.calm.db = none := rfl
  rcases handle_forwardGroups hn (fun task => task.metadataString "device-key") hreaction hcalm hread with
    ⟨-, hgroup, hforward⟩ | ⟨hno, -⟩
  · refine .later .calm hforward (List.mem_singleton_self _) ?_
    have hgroups : groupKeys n device ≠ [] := by simpa [groupKeys] using selectGroups_ne_nil.mpr hgroup
    have hkeys : (withGroups n device task).request.metadata.find? "device-groups" =
      some (.array ((groupKeys n device).map .string)) := JsonMap.find?_set_self ..
    refine breaks_groups hn hkeys hgroups ?_ ?_
    · rcases hready.access with hadmin | hsubscribed
      · exact .inr hadmin
      · exact .inl (selectAccess_ne_nil.mpr hsubscribed)
    · refine breaks_request ?_ hready.registered haction
      exact (JsonMap.find?_erase_of_ne (by decide)).trans ((JsonMap.find?_set_of_ne (by decide)).trans hkey)
  · exact absurd ⟨hne, hready.group⟩ hno

/-- Only a key that is no string stops `devices.control` itself. -/
theorem breaks_control {sender : Actor} {task : Task}
    (hready : ∀ device, task.request.metadata.find? "device-key" = some (.string device) → Ready n task device)
    (haccepts : ¬ Accepts .devices "control" task.request) :
    Work.Breaks (handle Codec.api config) n
      { dest := .devices, sender, command := "control", body := .task task } := by
  by_contra hbreaks
  refine haccepts (.control fun v hv => ?_)
  have hcontains : task.request.metadata.contains "device-key" := by
    rw [JsonMap.contains, hv]
    rfl
  have hread : (task.metadataString "device-key").Returns := by
    have hran : (Devices.control Codec.api .calm _ n.services.devices task).Returns :=
      Program.handle_task_returns rfl rfl (Work.returns_of_not_breaks hbreaks .calm)
    unfold Devices.control at hran
    rw [if_pos hcontains] at hran
    exact hran.of_bind
  obtain ⟨device, hdevice⟩ := hread
  have hkey : task.request.metadata.find? "device-key" = some (.string device) :=
    JsonMap.stringAt_eq_ok.mp hdevice
  refine ⟨device, Option.some.inj (hv.symm.trans hkey), fun hne => ?_⟩
  by_contra haction
  exact hbreaks (.later .calm (handle_control hn hdevice (hready device hkey).registered)
    (List.mem_singleton_self _) (breaks_devices hn hkey (hready device hkey) hne haction))

/-- Only `device-groups` that are no array stop `subscriptions.groups` itself. -/
theorem breaks_admin_groups {sender : Actor} {task : Task} (hadmin : task.stored "user.admin" = "1")
    (hready : ∀ device, task.request.metadata.find? "device-key" = some (.string device) → Ready n task device)
    (haccepts : ¬ Accepts .subscriptions "groups" task.request) :
    Work.Breaks (handle Codec.api config) n
      { dest := .subscriptions, sender, command := "groups", body := .task task } := by
  by_contra hbreaks
  have hran : (Subscriptions.groups Codec.api .calm _ n.services.subscriptions task).Returns :=
    Program.handle_task_returns rfl rfl (Work.returns_of_not_breaks hbreaks .calm)
  obtain ⟨a, ha⟩ : (task.request.metadata.arrayAt "device-groups").Returns := by
    unfold Subscriptions.groups at hran
    exact hran.of_bind
  refine haccepts (.subscriptionsGroups (JsonMap.arrayAt_eq_ok.mp ha) fun hne hstrings => ?_)
  obtain ⟨keys, rfl⟩ : a ∈ Set.range (List.map JsonValue.string) := by
    rw [Set.range_list_map]
    exact fun v hv => (hstrings v hv).imp fun s hs => hs.symm
  have hrequest : ¬ Work.Breaks (handle Codec.api config) n
      { dest := .devices, sender := .subscriptions, command := "request",
        body := .task (task.eraseMetadata "device-groups") } := fun hrequest =>
    hbreaks (breaks_groups hn (JsonMap.arrayAt_eq_ok.mp ha) (by simpa using hne) (.inr hadmin) hrequest)
  have herased {key : String} (hkey : key ≠ "device-groups") :
      (task.eraseMetadata "device-groups").request.metadata.find? key = task.request.metadata.find? key :=
    JsonMap.find?_erase_of_ne hkey
  have hasked : (Devices.request Codec.api .calm _ n.services.devices
      (task.eraseMetadata "device-groups")).Returns :=
    Program.handle_task_returns rfl rfl (Work.returns_of_not_breaks hrequest .calm)
  obtain ⟨device, hdevice⟩ : ((task.eraseMetadata "device-groups").metadataString "device-key").Returns := by
    unfold Devices.request at hasked
    exact hasked.of_bind
  have hkey := JsonMap.stringAt_eq_ok.mp hdevice
  have hregistered := (hready device ((herased (by decide)).symm.trans hkey)).registered
  refine ⟨⟨device, (herased (by decide)).symm.trans hkey⟩, ?_⟩
  by_contra haction
  exact hrequest (breaks_request hkey hregistered haction)

omit hn in
/-- Each handler that can be attached to a service either demands strings only, or is one
of the others that take tasks, or takes none. -/
theorem called_cases {dest : Actor} {method : String}
    (hdest : dest ∈ [.users, .groups, .subscriptions, .connections, .devices])
    (hattached : method ∈ ((program Codec.api config).attached dest).map Prod.fst) :
    (∃ keys, (dest, method, keys) ∈ stringParams) ∨
    (dest, method) ∈ [(.users, "auth"), (.connections, "groups"), (.connections, "devices"),
      (.subscriptions, "groups"), (.subscriptions, "on"), (.devices, "control"), (.devices, "connect"),
      (.devices, "request")] ∨
    (dest, method) ∈ [(.subscriptions, "emit"), (.devices, "response"), (.devices, "notify")] := by
  suffices hcases : (dest, method) ∈ (stringParams.map fun p => (p.1, p.2.1)) ∨ _ by
    refine hcases.imp_left fun h => ?_
    obtain ⟨⟨dest', method', keys⟩, hmem, heq⟩ := List.mem_map.mp h
    cases heq
    exact ⟨keys, hmem⟩
  simp only [List.mem_cons (a := dest), List.not_mem_nil, or_false] at hdest
  rcases hdest with rfl | rfl | rfl | rfl | rfl
  · change method ∈ ["add", "delete", "list", "login", "auth"] at hattached
    revert method
    decide
  · change method ∈ ["add", "delete", "list"] at hattached
    revert method
    decide
  · change method ∈ ["add", "delete", "list", "devices", "groups", "on", "off", "emit"] at hattached
    revert method
    decide
  · change method ∈ ["add", "delete", "list", "groups", "devices", "subscribe", "unsubscribe"] at hattached
    revert method
    decide
  · change method ∈ ["add", "delete", "list", "detail", "control", "connect", "disconnect", "request",
      "response", "notify", "subscribe", "unsubscribe"] at hattached
    revert method
    decide

/-- A handler that a service has for the router, called with a task that it does not accept. -/
theorem breaks_of_not_accepts {dest : Actor} {method : String} {task : Task}
    (hdest : dest ∈ [.users, .groups, .subscriptions, .connections, .devices])
    (hmethod : method ∈ (program Codec.api config).messageTypes dest)
    (hauth : ¬ (dest = .users ∧ method = "auth")) (haccepts : ¬ Accepts dest method task.request)
    (hready : ∀ device, task.request.metadata.find? "device-key" = some (.string device) → Ready n task device)
    (hadmin : dest = .subscriptions ∧ method = "groups" → task.stored "user.admin" = "1") :
    Work.Breaks (handle Codec.api config) n
      { dest, sender := .router, command := method, body := .task task } := by
  rcases (program Codec.api config).reaction_cases dest method with hstandard | hattached
  · exact breaks_standard hstandard
  by_contra hbreaks
  have hreturns := Work.returns_of_not_breaks hbreaks .calm
  rcases called_cases hdest (List.mem_map.mpr ⟨_, hattached, rfl⟩) with ⟨keys, hmem⟩ | htask | htransport
  · exact haccepts (.strings hmem (strings_of_returns hmem hreturns))
  · simp only [List.mem_cons, Prod.mk.injEq, List.not_mem_nil, or_false] at htask
    rcases htask with hmem | ⟨rfl, rfl⟩ | ⟨rfl, rfl⟩ | ⟨rfl, rfl⟩ | ⟨rfl, rfl⟩ | ⟨rfl, rfl⟩ |
      ⟨rfl, rfl⟩ | ⟨rfl, rfl⟩
    · exact hauth hmem
    · -- connections.groups
      have hran := Program.handle_task_returns rfl rfl hreturns
      obtain ⟨a, ha⟩ : task.request.params.asArray.Returns := hran.of_bind
      exact haccepts (.connectionsGroups (JsonValue.asArray_eq_ok.mp ha))
    · -- connections.devices
      have hran := Program.handle_task_returns rfl rfl hreturns
      obtain ⟨device, hdevice⟩ : (task.metadataString "device-key").Returns := hran.of_bind
      have hkey := JsonMap.stringAt_eq_ok.mp hdevice
      refine haccepts (.connectionsDevices hkey fun hne => ?_)
      by_contra haction
      exact hbreaks (breaks_devices hn hkey (hready device hkey) hne haction)
    · exact hbreaks (breaks_admin_groups hn (hadmin ⟨rfl, rfl⟩) hready haccepts)
    · -- subscriptions.on
      have hran := Program.handle_task_returns rfl rfl hreturns
      obtain ⟨a, ha, hkey⟩ := Except.returns_bind.mp hran.of_bind
      exact haccepts (.on (JsonMap.arrayAt_returns.mp ⟨a, ha⟩) (JsonValue.stringAt_returns.mp hkey.of_bind))
    · exact hbreaks (breaks_control hn hready haccepts)
    · -- devices.connect
      have hran := Program.handle_task_returns rfl rfl hreturns
      obtain ⟨key, hkey, hran⟩ := Except.returns_bind.mp hran.of_bind
      obtain ⟨actions, hactions, hran⟩ := Except.returns_bind.mp hran
      exact haccepts (.connect (JsonValue.stringAt_returns.mp ⟨key, hkey⟩)
        (JsonValue.arrayAt_returns.mp ⟨actions, hactions⟩) (JsonValue.arrayAt_returns.mp hran.of_bind))
    · -- devices.request
      have hran : (Devices.request Codec.api .calm _ n.services.devices task).Returns :=
        Program.handle_task_returns rfl rfl hreturns
      obtain ⟨device, hdevice⟩ : (task.metadataString "device-key").Returns := by
        unfold Devices.request at hran
        exact hran.of_bind
      have hkey := JsonMap.stringAt_eq_ok.mp hdevice
      by_contra
      refine hbreaks (breaks_request hkey (hready device hkey).registered fun haction => ?_)
      exact haccepts (.request ⟨device, hkey⟩ haction)
  · -- no transport is read out of a task
    obtain ⟨r, hr⟩ := hreturns
    simp only [List.mem_cons, Prod.mk.injEq, List.not_mem_nil, or_false] at htransport
    rcases htransport with ⟨rfl, rfl⟩ | ⟨rfl, rfl⟩ | ⟨rfl, rfl⟩ <;> cases hr

end Stops

/-! ## A manager with everything in place -/

section Served

variable {config : Config}

/-- A manager with one user and one device, in one group. -/
def furnished (first second device : String) : State where
  services := { blank.services with
    users := {
      table := ⟨[{ login := .bind first, password := .bind second }], by simp⟩
      usersAuth := ∅ }
    subscriptions := {
      rows := [{ groupKey := .bind (joinGroups [(Text.bind "g").val]), userLogin := .bind first }]
      deviceSubscribes := ∅ }
    connections := { rows := [{ groupKey := .bind "g", deviceKey := .bind device }] }
    devices := { blank.services.devices with
      table := ⟨[{ key := .bind device, name := .bind device }], by simp⟩ } }
  contacts := contacts

theorem furnished_initial (first second device : String) : Initial (furnished first second device) :=
  ⟨rfl, rfl, rfl, rfl, rfl, rfl⟩

/-- The same manager, with the device connected from a session `s`. -/
def served (first second device : String) : State :=
  { furnished first second device with
    services := { (furnished first second device).services with
      devices := (furnished first second device).services.devices.addRegDevice device "s"
        ((∅ : StringSet).emplace "on" ()) ∅ } }

/-- The administrator connects the device. -/
def connectRequest (config : Config) (device : String) : RequestMessage where
  id := .integer 1
  method := "devices.connect"
  params := .map [("actions", .array [.string "on"]), ("key", .string device), ("variables", .array [])]
  metadata := [("user-key", .string config.profileKey)]

theorem served_run (first second device : String) :
    Run Codec.api config (fun _ _ _ => True) ⟨furnished first second device, []⟩
      ⟨served first second device, []⟩ := by
  have hexact : (connectRequest config device).Exact := rfl
  have hsplit : split (connectRequest config device).method = "devices" :: "connect" :: [] := by
    show split "devices.connect" = _
    decide
  have hmethod : List.elem "connect" ((program Codec.api config).messageTypes .devices) = true := rfl
  let ws : WebSocket := ⟨"s", (connectRequest config device).serialize Codec.api⟩
  have hreads : Codec.api.ReadsRequest ws.body (connectRequest config device) := hexact.reads_serialize
  have hstart : Run Codec.api config (fun _ _ _ => True) ⟨furnished first second device, []⟩
      ⟨furnished first second device, []⟩ := .refl _
  have hdelivered := hstart.delivers (fun _ _ _ => trivial) rfl hreads hsplit rfl (by decide) rfl
    (List.mem_of_elem_eq_true hmethod)
  have hfound : ((furnished first second device).services.devices.table.find? (.bind device)).isSome := by
    simp [furnished, Keyed.find?]
  have hreply : Devices.connectReply .calm (furnished first second device).services.devices
      (adminTask config (connectRequest config device) "s" "devices" "connect") =
      .ok ((served first second device).services.devices, .ok (.boolean true)) := by
    show attempt _ (Devices.connectBody .calm _ _ (device, [.string "on"], [])) = _
    unfold Devices.connectBody
    simp only [Db.execute, Env.calm, if_pos hfound]
    rfl
  -- the connect is handled, and then its response is written
  have hanswered := hdelivered.handle_single .calm trivial (handle_connect rfl hreply)
  exact hanswered.handle_single .calm trivial rfl

/-- The device is connected, and in the only group, as the user is. -/
structure Serving (n : State) (first device : String) : Prop where
  contacts : n.contacts = contacts
  registered : device ∈ n.services.devices.devicesReg
  group : FindsGroup n device
  access : SubscribedToJoined n device first

theorem served_serving (first second device : String) : Serving (served first second device) first device := by
  refine ⟨rfl, AList.mem_emplace.mpr (.inl rfl), ⟨_, List.mem_singleton_self _, rfl⟩, ?_⟩
  have hkeys : groupKeys (served first second device) device = [(Text.bind "g").val] := by
    simp [groupKeys, Connections.selectGroups, served, furnished]
  show _ ∈ [_]
  rw [hkeys]
  exact List.mem_singleton_self _

theorem Serving.ready {n : State} {first device : String} (h : Serving n first device) {task : Task}
    (hlogin : task.stored "user.login" = first) : Ready n task device :=
  ⟨h.registered, h.group, .inr (by rw [hlogin]; exact h.access)⟩

/-- Whoever can pass does so at a manager whose user has the right password. -/
theorem exists_passes {key first : String} {rest : List String} (hsplit : split key = first :: rest)
    (hpassable : Passable config key) : ∃ second, ∀ device sender task,
      task.stored "profile.key" = config.profileKey →
      task.request.metadata.find? "user-key" = some (.string key) →
      ∃ n, Serving n first device ∧
        handle Codec.api config .calm (served first second device)
            { dest := .users, sender, command := "auth", body := .task task } =
          .ok (n, [{
            dest := .router
            sender := .users
            command := "service"
            body := .task ((Users.noted task key).emplace "user.login" first) }]) := by
  have hread {task : Task} (hkey : task.request.metadata.find? "user-key" = some (.string key)) :
      task.metadataString "user-key" = .ok key := JsonMap.stringAt_eq_ok.mpr hkey
  rcases hpassable with rfl | ⟨second, hsecond, hnoNul⟩
  -- the administrator passes, whatever is in the table
  · refine ⟨"", fun device sender task hprofile hkey => ⟨_, served_serving first "" device, ?_⟩⟩
    rw [handle_auth rfl (hread hkey) hsplit, hprofile]
    exact if_pos (by simp)
  -- anybody else passes with the second piece for a password
  · refine ⟨second, fun device sender task hprofile hkey => ?_⟩
    have hpassword : ((served first second device).services.users.select first).2 = second := by
      have hrow : (served first second device).services.users.table.find? (.bind first) =
          some { login := .bind first, password := .bind second } := by
        simp [served, furnished, Keyed.find?]
      rw [Users.select, hrow]
      exact ((Text.bind_eq_iff hnoNul).mp rfl).symm
    have hhead : rest.head? = some second := by
      rw [hsplit] at hsecond
      rw [List.head?_eq_getElem?]
      exact hsecond
    rw [handle_auth rfl (hread hkey) hsplit]
    dsimp only
    split
    · exact ⟨_, served_serving first second device, rfl⟩
    · rw [hhead, hpassword]
      show ∃ n, Serving n first device ∧ (if (second == second) = true then _ else _) = _
      rw [if_pos (beq_self_eq_true second)]
      refine ⟨_, ?_, rfl⟩
      have hserving := served_serving first second device
      exact ⟨hserving.contacts, hserving.registered, hserving.group, hserving.access⟩

/-- The admin's note says that the key is the administrator's. -/
theorem noted_admin {task : Task} {key first : String} (hprofile : task.stored "profile.key" = config.profileKey) :
    ((Users.noted task key).emplace "user.login" first).stored "user.admin" = "1" ↔ key = config.profileKey := by
  rw [Task.stored_emplace_ne (by decide), Users.stored_noted_admin, hprofile]
  split
  · next heq => exact iff_of_true rfl (beq_iff_eq.mp heq).symm
  · next hne => exact iff_of_false (by decide) fun heq => hne (beq_iff_eq.mpr heq.symm)

end Served

/-! ## Frames that are survived -/

section Survived

variable (config : Config)

/-- Whenever the frame comes, and from whomever, no handler that it triggers stops. -/
def Survives (text : String) : Prop :=
  ∀ n₀ n pending sender id, Initial n₀ →
    Run Codec.api config (fun _ _ _ => True) ⟨n₀, []⟩ ⟨n, pending⟩ →
    Work.Unfailing (handle Codec.api config) Arrives (fun _ _ _ => True) (fun _ _ _ => True)
      ⟨n, pending, [frameFrom sender ⟨id, text⟩]⟩

variable {config} {text : String} {m : JsonMap}

/-- No manager that nothing waits for is stopped by the frame. -/
theorem Survives.not_breaks (h : Survives config text) {n₀ n : State} (h₀ : Initial n₀)
    (hrun : Run Codec.api config (fun _ _ _ => True) ⟨n₀, []⟩ ⟨n, []⟩) :
    ¬ Work.Breaks (handle Codec.api config) n (frameFrom .router ⟨"x", text⟩) := fun hbreaks =>
  hbreaks.not_unfailing (List.mem_singleton_self _) (fun _ _ _ => trivial) (h n₀ n [] .router "x" h₀ hrun)

theorem Survives.blank_not_breaks (h : Survives config text) :
    ¬ Work.Breaks (handle Codec.api config) blank (frameFrom .router ⟨"x", text⟩) :=
  h.not_breaks blank_initial (.refl _)

theorem Survives.dispatched (h : Survives config text) :
    (Router.dispatcher Codec.api config .calm ((program Codec.api config).ctx blank .router) ()
      (.webSocket ⟨"x", text⟩)).Returns :=
  Program.handle_transport_returns rfl rfl (Work.returns_of_not_breaks h.blank_not_breaks .calm)

theorem Survives.bounded (h : Survives config text) : JsonText.Bounded text := by
  have hran := h.dispatched
  simp only [Router.dispatcher, Transport.asWebSocket_webSocket, Except.ok_bind'] at hran
  exact Codec.api_parse_returns.mp hran.of_bind

/-- What the router hands on is handled. -/
theorem Survives.handedOn (h : Survives config text) (hparse : Codec.api.parse text = .ok m)
    (hrequest : m.isRequest = false) :
    (handle Codec.api config .calm blank
      (relayed (if m.isResponse then "response" else "notify") "x" m)).Returns := by
  refine Work.returns_of_not_breaks (fun hbreaks => ?_) Env.calm
  exact h.blank_not_breaks (.later .calm (handle_handedOn rfl hparse hrequest)
    (List.mem_singleton_self _) hbreaks)

theorem Survives.response (h : Survives config text) (hparse : Codec.api.parse text = .ok m)
    (hresponse : m.isResponse) :
    (m.get "metadata").HasString "transport" ∧ (m.get "metadata").HasString "device-key" := by
  have hrequest : m.isRequest = false := by
    simp only [JsonMap.isResponse, Bool.and_eq_true, Bool.not_eq_true'] at hresponse
    simp [JsonMap.isRequest, hresponse.1]
  have hhanded := h.handedOn hparse hrequest
  rw [if_pos hresponse] at hhanded
  have hran : (Devices.response Codec.api .calm _ _ (.webSocket ⟨"x", Codec.api.print m⟩)).Returns :=
    Program.handle_transport_returns rfl rfl hhanded
  have hread : m.reread.isResponse = true := (JsonMap.isResponse_reread m).trans hresponse
  simp only [Devices.response, Transport.asWebSocket_webSocket, Except.ok_bind', Codec.api_roundTrip m,
    if_pos hread] at hran
  have hsorted := Codec.api_sorted hparse
  obtain ⟨target, htarget, hran⟩ := Except.returns_bind.mp hran
  obtain ⟨device, hdevice⟩ := hran.of_bind
  exact ⟨JsonValue.stringAt_returns.mp ⟨target, (metadata_reread hsorted).mp htarget⟩,
    JsonValue.stringAt_returns.mp ⟨device, (metadata_reread hsorted).mp hdevice⟩⟩

theorem Survives.notify (h : Survives config text) (hparse : Codec.api.parse text = .ok m)
    (hnotify : m.isNotify) : (m.get "metadata").HasString "device-key" := by
  have hid : m.contains "id" = false := by simpa [JsonMap.isNotify] using hnotify
  have hhanded := h.handedOn hparse (by simp [JsonMap.isRequest, hid])
  rw [if_neg (by simp [JsonMap.isResponse, hid])] at hhanded
  have hran : (Devices.notify Codec.api .calm _ _ (.webSocket ⟨"x", Codec.api.print m⟩)).Returns :=
    Program.handle_transport_returns rfl rfl hhanded
  have hread : m.reread.isNotify = true := (JsonMap.isNotify_reread m).trans hnotify
  simp only [Devices.notify, Transport.asWebSocket_webSocket, Except.ok_bind', Codec.api_roundTrip m,
    if_pos hread] at hran
  obtain ⟨device, hdevice⟩ := hran.of_bind
  exact JsonValue.stringAt_returns.mp ⟨device, (metadata_reread (Codec.api_sorted hparse)).mp hdevice⟩

theorem Survives.holds (h : Survives config text) (hparse : Codec.api.parse text = .ok m)
    (hrequest : m.isRequest) : ∃ request, m.Holds request := by
  have hran := h.dispatched
  simp only [Router.dispatcher, Transport.asWebSocket_webSocket, Except.ok_bind', hparse,
    if_pos hrequest, Router.request] at hran
  obtain ⟨⟨request, m'⟩, hread⟩ := hran.of_bind.of_bind
  exact ⟨request, JsonMap.holds_of_parseRequest (JsonMap.contains_id_of_isRequest hrequest) hread⟩

section Requests

variable {request : RequestMessage} {serviceName methodName : String} {rest : List String}

/-- The request, as the router gives it to `users.auth`. -/
abbrev authMessage (config : Config) (request : RequestMessage) (serviceName methodName : String) :
    Envelope Actor where
  dest := .users
  sender := .router
  command := "auth"
  body := .task (Router.task config request "x" serviceName methodName)

theorem Survives.not_breaks_auth (h : Survives config text) (hreads : Codec.api.ReadsRequest text request)
    (hsplit : split request.method = serviceName :: methodName :: rest)
    (hcontains : request.metadata.contains "user-key") {n₀ n : State} (h₀ : Initial n₀)
    (hrun : Run Codec.api config (fun _ _ _ => True) ⟨n₀, []⟩ ⟨n, []⟩) :
    ¬ Work.Breaks (handle Codec.api config) n (authMessage config request serviceName methodName) := by
  have husers : (contacts .router).lookup "users" = some .users := rfl
  have hn := (Run.wired h₀ hrun).1
  have hframe : handle Codec.api config .calm n (frameFrom .router ⟨"x", text⟩) =
      .ok (n, [authMessage config request serviceName methodName]) := by
    refine (Program.handle_transport rfl rfl).trans ?_
    show (Router.dispatcher Codec.api config .calm ((program Codec.api config).ctx n .router) ()
      (.webSocket ⟨"x", text⟩)).map _ = _
    rw [Router.dispatcher_of_userKey Codec.api hreads hsplit hcontains (lookup_of_wired hn husers)]
    rfl
  exact fun hbreaks => h.not_breaks h₀ hrun (.later .calm hframe (List.mem_singleton_self _) hbreaks)

/-- The key is a string, and has a dot where it is not the administrator's. -/
theorem Survives.key (h : Survives config text) (hreads : Codec.api.ReadsRequest text request)
    (hsplit : split request.method = serviceName :: methodName :: rest)
    (hcontains : request.metadata.contains "user-key") :
    ∃ key, request.metadata.find? "user-key" = some (.string key) ∧
      (key = config.profileKey ∨ 2 ≤ (split key).length) := by
  have hreturns := Work.returns_of_not_breaks
    (h.not_breaks_auth hreads hsplit hcontains blank_initial (.refl _)) .calm
  have hran : (Users.auth Codec.api .calm _ blank.services.users
      (Router.task config request "x" serviceName methodName)).Returns :=
    Program.handle_task_returns rfl rfl hreturns
  obtain ⟨key, hkey⟩ : ((Router.task config request "x" serviceName methodName).metadataString
      "user-key").Returns := by
    unfold Users.auth at hran
    exact hran.of_bind
  refine ⟨key, JsonMap.stringAt_eq_ok.mp hkey, ?_⟩
  by_contra hno
  obtain ⟨hprofile, hshort⟩ := not_or.mp hno
  obtain ⟨first, pieces, hpieces⟩ := exists_split key
  obtain rfl : pieces = [] := by
    rw [hpieces, List.length_cons] at hshort
    exact List.length_eq_zero_iff.mp (by omega)
  obtain ⟨r, hr⟩ := hreturns
  rw [handle_auth rfl hkey hpieces, Router.stored_task_profileKey] at hr
  dsimp only at hr
  -- such a key throws where it is taken apart
  rw [if_neg] at hr
  · cases hr
  · have hauth : blank.services.users.isAuth key = false := rfl
    simpa [hauth] using fun heq => hprofile (Eq.symm heq)

/-- The methods of users do not reach `subscriptions.groups`. -/
theorem not_groups_of_mem {method : String} (hmem : method ∈ Router.userMethodList)
    (hsplit : split method = "subscriptions" :: "groups" :: rest) : False := by
  have hall : ∀ method ∈ Router.userMethodList, (split method).take 2 ≠ ["subscriptions", "groups"] := by
    decide
  exact hall method hmem (by rw [hsplit]; rfl)

/-- The router calls five services. -/
theorem service_of_contact {dest : Actor} (hlisted : serviceName ∈ Router.serviceList)
    (hcontact : (contacts .router).lookup serviceName = some dest) :
    dest ∈ [.users, .groups, .subscriptions, .connections, .devices] ∧
      (dest = .subscriptions → serviceName = "subscriptions") := by
  have hall : ∀ name ∈ Router.serviceList, ∃ dest, (contacts .router).lookup name = some dest ∧
      dest ∈ [.users, .groups, .subscriptions, .connections, .devices] ∧
      (dest = .subscriptions → name = "subscriptions") := by
    simp only [Router.serviceList, List.forall_mem_cons]
    exact ⟨⟨_, rfl, by decide⟩, ⟨_, rfl, by decide⟩, ⟨_, rfl, by decide⟩, ⟨_, rfl, by decide⟩,
      ⟨_, rfl, by decide⟩, ⟨_, rfl, by decide⟩, by simp⟩
  obtain ⟨dest', hdest', hservice⟩ := hall serviceName hlisted
  obtain rfl : dest' = dest := by simpa [hdest'] using hcontact
  exact hservice

/-- What a key may call is not stopped by the request. -/
theorem Survives.accepts (h : Survives config text) (hreads : Codec.api.ReadsRequest text request)
    (hsplit : split request.method = serviceName :: methodName :: rest) {key : String}
    (hkey : request.metadata.find? "user-key" = some (.string key)) (hpassable : Passable config key)
    {dest : Actor} (hcallable : Callable config key request.method serviceName methodName dest)
    (hauth : ¬ (dest = .users ∧ methodName = "auth")) : Accepts dest methodName request := by
  obtain ⟨first, pieces, hpieces⟩ := exists_split key
  obtain ⟨second, hpasses⟩ := exists_passes hpieces hpassable
  -- a device with the key that the request names
  obtain ⟨device, hdevice⟩ : ∃ device, ∀ device',
      request.metadata.find? "device-key" = some (.string device') → device' = device := by
    by_cases hnamed : ∃ device, request.metadata.find? "device-key" = some (.string device)
    · obtain ⟨device, hdevice⟩ := hnamed
      exact ⟨device, fun device' hdevice' => by simpa using hdevice'.symm.trans hdevice⟩
    · exact ⟨"", fun device' hdevice' => absurd ⟨device', hdevice'⟩ hnamed⟩
  have hcontains : request.metadata.contains "user-key" := by
    rw [JsonMap.contains, hkey]
    rfl
  let task := Router.task config request "x" serviceName methodName
  have hprofile : task.stored "profile.key" = config.profileKey := Router.stored_task_profileKey ..
  obtain ⟨n, hserving, hpass⟩ := hpasses device .router task hprofile hkey
  let noted := (Users.noted task key).emplace "user.login" first
  obtain ⟨hname, hmethod⟩ : noted.Names serviceName methodName := Users.names_noted (Router.names_task ..)
  have hdispatches : Router.Dispatches ((program Codec.api config).ctx n .router) noted dest := by
    refine ⟨hname ▸ hcallable.listed, ?_, hmethod ▸ hcallable.handled, ?_⟩
    · rw [hname]
      exact lookup_of_wired hserving.contacts hcallable.contact
    · exact hcallable.permitted.imp_left (noted_admin hprofile).mpr
  have hservice : handle Codec.api config .calm n
      { dest := .router, sender := .users, command := "service", body := .task noted } =
      .ok (n, [{ dest, sender := .router, command := methodName, body := .task noted }]) := by
    rw [← hmethod]
    exact handle_of_dispatches hdispatches
  -- the frame is authenticated, the task dispatched, and the handler stops
  by_contra haccepts
  obtain ⟨hdest, hsubscriptions⟩ := service_of_contact hcallable.listed hcallable.contact
  have hbreaks : Work.Breaks (handle Codec.api config) n
      { dest, sender := .router, command := methodName, body := .task noted } := by
    refine breaks_of_not_accepts hserving.contacts hdest hcallable.handled hauth haccepts ?_ ?_
    · intro device' hdevice'
      rw [hdevice device' hdevice']
      exact hserving.ready Task.stored_emplace_self
    · rintro ⟨hdest, hgroups⟩
      refine (noted_admin hprofile).mpr (hcallable.permitted.resolve_right fun hmem => ?_)
      rw [hsubscriptions hdest, hgroups] at hsplit
      exact not_groups_of_mem hmem hsplit
  refine h.not_breaks_auth hreads hsplit hcontains (furnished_initial first second device)
    (served_run first second device) ?_
  exact .later .calm hpass (List.mem_singleton_self _)
    (.later .calm hservice (List.mem_singleton_self _) hbreaks)

/-- A guest's login has what it needs. -/
theorem Survives.login (h : Survives config text) (hparse : Codec.api.parse text = .ok m)
    (hrequest : m.isRequest) (hholds : m.Holds request)
    (hcontains : request.metadata.contains "user-key" = false) (hmethod : request.method = "users.login") :
    Accepts .users "login" request := by
  have husers : ((program Codec.api config).ctx blank .router).contacts.lookup "users" = some .users := rfl
  have hread := (JsonMap.holds_iff (JsonMap.contains_id_of_isRequest hrequest)).mp hholds
  have hsplit : split request.method = "users" :: "login" :: [] := by
    rw [hmethod]
    decide
  have hquest : request.method ∈ Router.questMethodList := by
    rw [hmethod]
    decide
  have hframe : handle Codec.api config .calm blank (frameFrom .router ⟨"x", text⟩) =
      .ok (blank, [{ dest := .users, sender := .router, command := "login",
                     body := .task (Router.task config request "x" "users" "login") }]) := by
    refine (Program.handle_transport rfl rfl).trans ?_
    show (Router.dispatcher Codec.api config .calm ((program Codec.api config).ctx blank .router) ()
      (.webSocket ⟨"x", text⟩)).map _ = _
    simp only [Router.dispatcher, Transport.asWebSocket_webSocket, Except.ok_bind', hparse,
      if_pos hrequest, Router.request, hread, hsplit, hcontains, if_pos hquest,
      Ctx.send_of_contact husers]
    rfl
  have hlogin : (Actor.users, "login", ["login", "password"]) ∈ stringParams := by simp [stringParams]
  have hreturns : (handle Codec.api config .calm blank
      { dest := .users, sender := .router, command := "login",
        body := .task (Router.task config request "x" "users" "login") }).Returns :=
    Work.returns_of_not_breaks (fun hbreaks =>
      h.blank_not_breaks (.later .calm hframe (List.mem_singleton_self _) hbreaks)) Env.calm
  exact .strings hlogin (strings_of_returns hlogin hreturns)

end Requests

theorem Survives.harmless (h : Survives config text) : Harmless config text := by
  refine ⟨h.bounded, fun m hparse => ?_⟩
  by_cases hrequest : m.isRequest
  · obtain ⟨request, hholds⟩ := h.holds hparse hrequest
    refine .request hrequest hholds fun serviceName methodName rest hsplit => ⟨fun hcontains => ?_, ?_⟩
    · have hreads := hholds.reads hparse hrequest
      obtain ⟨key, hkey, hpieces⟩ := h.key hreads hsplit hcontains
      refine ⟨key, hkey, hpieces, fun hpassable dest hcallable => ?_⟩
      by_cases hauth : dest = .users ∧ methodName = "auth"
      · exact .inl hauth
      · exact .inr (h.accepts hreads hsplit hkey hpassable hcallable hauth)
    · exact h.login hparse hrequest hholds
  · by_cases hid : m.contains "id"
    · have hresponse : m.isResponse := by
        simpa [JsonMap.isRequest, JsonMap.isResponse, hid] using hrequest
      obtain ⟨htransport, hdevice⟩ := h.response hparse hresponse
      exact .response hresponse htransport hdevice
    · have hnotify : m.isNotify := by simpa [JsonMap.isNotify] using hid
      exact .notify hnotify (h.notify hparse hnotify)

/-- What every run keeps. -/
theorem kept_of_run {n₀ n : State} {pending : List (Envelope Actor)} (h₀ : Initial n₀)
    (hrun : Run Codec.api config (fun _ _ _ => True) ⟨n₀, []⟩ ⟨n, pending⟩) :
    Kept config n ∧ ∀ e ∈ pending, e.Plain :=
  hrun.invariant (Kept config) Envelope.Plain h₀.kept (by simp) (fun _ h => h.plain)
    fun _ _ _ _ _ hn hplain _ heq => hn.handled hplain heq

/-- A frame is survived just if it is harmless. -/
theorem survives_iff_harmless (config : Config) (text : String) : Survives config text ↔ Harmless config text := by
  refine ⟨Survives.harmless, fun h n₀ n pending sender id h₀ hrun => ?_⟩
  obtain ⟨hn, hplain⟩ := kept_of_run h₀ hrun
  exact unfailing_of_harmless hn hplain h

end Survived

end Manager

end StreamCloud
