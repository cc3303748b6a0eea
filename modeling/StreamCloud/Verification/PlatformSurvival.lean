-- SUMMARY: Which frames a platform survives, whatever else it is sent.
import StreamCloud.Platform.Relay
import StreamCloud.Api.JsonBounds
import StreamCloud.Library.Follow

/-!
# Frames that the platform survives

The workers of the platform catch nothing either. Its router demands less of a
frame than that of the manager, but `managers.response` reads the metadata of
everything that is no request.
-/

namespace StreamCloud.Platform

/-! ## What handlers demand -/

/-- The parameters that each handler of tasks demands to be strings. `profile.auth` is
left out, and so are the handlers of `managers` that the router calls itself. -/
def stringParams : List (Actor × String × List String) :=
  [(.profile, "signup", ["login", "password"]), (.profile, "login", ["login", "password"]),
    (.managers, "add", ["name"]), (.managers, "delete", ["key"]), (.managers, "list", []),
    (.managers, "connect", ["key"]), (.managers, "disconnect", ["key"]), (.managerInfo, "info", [])]

/-- A request has the parameters that a handler demands. -/
def Suffices (dest : Actor) (method : String) (request : RequestMessage) : Prop :=
  ∃ keys, (dest, method, keys) ∈ stringParams ∧ ∀ key ∈ keys, request.params.HasString key

/-! ## Harmless frames -/

section Harmless

variable (managerKey : String)

/-- A key that some content of the profile table lets pass. -/
def Passable (key : String) : Prop := ∃ second, (split key)[1]? = some second ∧ '\x00' ∉ second.toList

/-- Whoever has a key may have the handler called that the method names. -/
structure Callable (serviceName methodName : String) (dest : Actor) : Prop where
  listed : serviceName ∈ Router.serviceList
  contact : (contacts .router).lookup serviceName = some dest
  handled : methodName ∈ (program Codec.api managerKey).messageTypes dest

/-- A request with a profile key: the key has two pieces, and where it passes, the
handler that is called gets what it demands. -/
def KeyedHarmless (request : RequestMessage) (serviceName methodName : String) : Prop :=
  ∃ key, request.metadata.find? "profile-key" = some (.string key) ∧ 2 ≤ (split key).length ∧
    (Passable key → ∀ dest, Callable managerKey serviceName methodName dest →
      dest = .profile ∧ methodName = "auth" ∨ Suffices dest methodName request)

/-- A request names a manager with a string, or is answered at once, or its key is in
order, or it is a guest's. -/
structure RequestHarmless (request : RequestMessage) : Prop where
  relayed : request.metadata.contains "manager-key" → request.metadata.HasString "manager-key"
  keyed : request.metadata.contains "manager-key" = false → request.metadata.contains "profile-key" →
    ∀ serviceName methodName rest, split request.method = serviceName :: methodName :: rest →
      KeyedHarmless managerKey request serviceName methodName
  guest : request.metadata.contains "manager-key" = false →
    request.metadata.contains "profile-key" = false → ∀ serviceName methodName rest dest,
      split request.method = serviceName :: methodName :: rest → request.method ∈ Router.questMethodList →
      (contacts .router).lookup serviceName = some dest → Suffices dest methodName request

/-- An object that the handlers of the platform can work with. -/
inductive ObjectHarmless (m : JsonMap) : Prop
  | request {request : RequestMessage} : m.isRequest → m.Holds request → RequestHarmless managerKey request →
      ObjectHarmless m
  | handedOn : m.isRequest = false → (m.get "metadata").HasString "transport" → ObjectHarmless m

/-- A frame that the scanner does not leave, and whose object the handlers can work with. -/
def Harmless (text : String) : Prop :=
  JsonText.Bounded text ∧ ∀ m, Codec.api.parse text = .ok m → ObjectHarmless managerKey m

end Harmless

/-! ## Messages that are handled -/

/-- A task of a keyed request that the handlers can work with. -/
def KeyedTask (managerKey : String) (task : Task) : Prop :=
  KeyedHarmless managerKey task.request (task.stored "service.name") (task.stored "service.method")

/-- The key of the task has passed. -/
def Passed (task : Task) : Prop :=
  ∃ key, task.request.metadata.find? "profile-key" = some (.string key) ∧ Passable key

/-- A message that comes of a harmless frame. -/
inductive Safe (managerKey : String) : Envelope Actor → Prop
  | frame {ws : WebSocket} : Harmless managerKey ws.body → Safe managerKey (frame ws)
  | auth {sender : Actor} {task : Task} : KeyedTask managerKey task →
      Safe managerKey { dest := .profile, sender, command := "auth", body := .task task }
  | service {sender : Actor} {task : Task} : KeyedTask managerKey task → Passed task →
      Safe managerKey { dest := .router, sender, command := "service", body := .task task }
  | handler {dest sender : Actor} {method : String} {task : Task} : Suffices dest method task.request →
      Safe managerKey { dest, sender, command := method, body := .task task }
  | managerRequest {task : Task} : task.request.metadata.HasString "manager-key" →
      Safe managerKey (managerRequest task)
  | relayed {id : String} {message : JsonMap} : message.Sorted →
      (message.get "metadata").HasString "transport" → Safe managerKey (relayed id message)
  | write {sender : Actor} {ws : WebSocket} :
      Safe managerKey { dest := .ws, sender, command := "write", body := .transport (.webSocket ws) }
  | addUrl {sender : Actor} {url : String} :
      Safe managerKey { dest := .http, sender, command := "add_trusted_url", body := .text url }
  | removeUrl {sender : Actor} {url : String} :
      Safe managerKey { dest := .http, sender, command := "remove_trusted_url", body := .text url }

section Out

variable {managerKey : String}

theorem Safe.plain {e : Envelope Actor} (h : Safe managerKey e) : e.Plain := by
  cases h <;> exact fun _ h => by cases h

/-- What a handler sends is safe. -/
abbrev SafeOut (managerKey : String) (out : List (Envelope Actor)) : Prop := ∀ e ∈ out, Safe managerKey e

theorem safeOut_nil : SafeOut managerKey [] := fun _ he => absurd he List.not_mem_nil

theorem safeOut_singleton {e : Envelope Actor} (h : Safe managerKey e) : SafeOut managerKey [e] := by
  intro e' he'
  rw [List.mem_singleton.mp he']
  exact h

theorem SafeOut.append {out out' : List (Envelope Actor)} (h : SafeOut managerKey out)
    (h' : SafeOut managerKey out') :
    SafeOut managerKey (out ++ out') := by
  intro e he
  rcases List.mem_append.mp he with he | he
  · exact h e he
  · exact h' e he

end Out

/-! ## Safe messages are handled -/

section Closed

variable {managerKey : String} {env : Env} {n : State} (hn : n.contacts = contacts)
include hn

theorem send_closed {σ : Type} {a dest : Actor} {s : σ} {name command : String} {body : Body Actor}
    (hdest : (contacts a).lookup name = some dest) (hsafe : Safe managerKey { dest, sender := a, command, body }) :
    (do return (s, ← ((program Codec.api managerKey).ctx n a).send name command body) :
      Except Fault (σ × List (Envelope Actor))).Yields fun r => SafeOut managerKey r.2 :=
  Ctx.send_yields_return (lookup_of_wired hn hdest) (safeOut_singleton hsafe)

theorem respond_closed {σ : Type} {a : Actor} {task : Task} {s : σ} {reply : Reply}
    (hws : (contacts a).lookup "ws" = some .ws) :
    (do return (s, ← ((program Codec.api managerKey).ctx n a).respond Codec.api task reply) :
      Except Fault (σ × List (Envelope Actor))).Yields fun r => SafeOut managerKey r.2 :=
  Ctx.respond_yields_return (lookup_of_wired hn hws) (safeOut_singleton .write)

theorem answer_closed {σ β : Type} {a : Actor} {task : Task} {s : σ} {read : Except Fault β}
    {valid : β → Bool} {invalid : String} {body : β → Except Fault (σ × Reply)}
    (hws : (contacts a).lookup "ws" = some .ws) (hread : read.Returns)
    (hbody : ∀ args, Copes (body args) fun _ => True) :
    (((program Codec.api managerKey).ctx n a).answer Codec.api task s read valid invalid body).Yields
      fun r => SafeOut managerKey r.2 :=
  Ctx.answer_yields (lookup_of_wired hn hws) hread hbody fun _ => safeOut_singleton .write

omit hn in
theorem paramString_returns {task : Task} {key : String} (h : task.request.params.HasString key) :
    (task.paramString key).Returns := JsonValue.stringAt_returns.mpr h

omit hn in
theorem loginAndPassword_returns {task : Task} (hlogin : task.request.params.HasString "login")
    (hpassword : task.request.params.HasString "password") : (Profile.loginAndPassword task).Returns := by
  obtain ⟨login, hlogin⟩ := paramString_returns hlogin
  obtain ⟨password, hpassword⟩ := paramString_returns hpassword
  unfold Profile.loginAndPassword
  rw [hlogin, hpassword]
  exact ⟨_, rfl⟩

/-- A handler that sends what its `try` collected, and then a response. -/
theorem append_respond_closed {a : Actor} {task : Task}
    {body : Except Fault (Managers × Reply × List (Envelope Actor))} (hws : (contacts a).lookup "ws" = some .ws)
    (hbody : body.Yields fun r => SafeOut managerKey r.2.2) :
    (do
      let (s, reply, out) ← body
      return (s, out ++ (← ((program Codec.api managerKey).ctx n a).respond Codec.api task reply)) :
      Except Fault (Managers × List (Envelope Actor))).Yields fun r => SafeOut managerKey r.2 := by
  obtain ⟨⟨s, reply, out⟩, hbody, hout⟩ := hbody
  rw [hbody, Except.ok_bind']
  dsimp only
  rw [Ctx.respond_of_contact (lookup_of_wired hn hws), Except.ok_bind']
  exact Except.yields_ok.mpr (hout.append (safeOut_singleton .write))

theorem add_closed {task : Task} (hname : task.request.params.HasString "name") (s : Managers) :
    (Managers.add Codec.api env ((program Codec.api managerKey).ctx n .managers) s task).Yields
      fun r => SafeOut managerKey r.2 := by
  have hhttp : (contacts .managers).lookup "http" = some .http := rfl
  obtain ⟨name, hname⟩ := paramString_returns hname
  unfold Managers.add
  rw [hname, Except.ok_bind']
  apply append_respond_closed hn rfl
  refine Except.yields_ite (fun _ => ?_) fun _ => Except.yields_ok.mpr safeOut_nil
  refine catchStd_yields ?_ fun what => Except.yields_ok.mpr safeOut_nil
  refine copes_bind execute_copes fun _ _ => copes_bind insertRow_copes fun table _ => ?_
  rw [Ctx.send_of_contact (lookup_of_wired hn hhttp)]
  exact copes_ok.mpr (safeOut_singleton .addUrl)

theorem delete_closed {task : Task} (hkey : task.request.params.HasString "key") (s : Managers) :
    (Managers.delete Codec.api env ((program Codec.api managerKey).ctx n .managers) s task).Yields
      fun r => SafeOut managerKey r.2 := by
  have hhttp : (contacts .managers).lookup "http" = some .http := rfl
  have hws : (contacts .managers).lookup "ws" = some .ws := rfl
  obtain ⟨key, hkey⟩ := paramString_returns hkey
  unfold Managers.delete
  rw [hkey, Except.ok_bind']
  apply append_respond_closed hn rfl
  refine Except.yields_ite (fun _ => ?_) fun _ => Except.yields_ok.mpr safeOut_nil
  refine catchStd_yields ?_ fun what => Except.yields_ok.mpr safeOut_nil
  refine copes_bind execute_copes fun _ _ => ?_
  rw [Ctx.send_of_contact (lookup_of_wired hn hhttp)]
  simp only [Except.ok_bind']
  -- the manager is told, if it is connected
  unfold Managers.writeDisconnect
  split
  · rw [Ctx.writeTo, Ctx.send_of_contact (lookup_of_wired hn hws)]
    exact copes_ok.mpr ((safeOut_singleton .removeUrl).append (safeOut_singleton .write))
  · exact copes_ok.mpr ((safeOut_singleton .removeUrl).append safeOut_nil)

/-- Every handler works with a task that has what it demands. -/
theorem suffices_closed {dest sender : Actor} {method : String} {task : Task}
    (h : Suffices dest method task.request) :
    (handle Codec.api managerKey env n { dest, sender, command := method, body := .task task }).Yields
      fun r => SafeOut managerKey r.2 := by
  have hdone {β : Type} {b : β} : Copes (.ok b) fun _ => True := copes_ok.mpr trivial
  obtain ⟨keys, hmem, hkeys⟩ := h
  simp only [stringParams, List.mem_cons, Prod.mk.injEq, List.not_mem_nil, or_false] at hmem
  rcases hmem with ⟨rfl, rfl, rfl⟩ | ⟨rfl, rfl, rfl⟩ | ⟨rfl, rfl, rfl⟩ | ⟨rfl, rfl, rfl⟩ |
    ⟨rfl, rfl, rfl⟩ | ⟨rfl, rfl, rfl⟩ | ⟨rfl, rfl, rfl⟩ | ⟨rfl, rfl, rfl⟩ <;>
    refine (Program.handle_task_yields (Q := SafeOut managerKey) rfl rfl).mpr ?_
  · -- profile.signup
    refine answer_closed hn rfl (loginAndPassword_returns (hkeys _ (by simp)) (hkeys _ (by simp))) fun _ => ?_
    exact copes_bind execute_copes fun _ _ => copes_bind insertRow_copes fun _ _ => hdone
  · -- profile.login
    refine answer_closed hn rfl (loginAndPassword_returns (hkeys _ (by simp)) (hkeys _ (by simp))) fun _ => ?_
    exact copes_bind execute_copes fun _ _ => copes_ite (fun _ => hdone) fun _ => hdone
  · exact add_closed hn (hkeys _ (by simp)) _
  · exact delete_closed hn (hkeys _ (by simp)) _
  · exact answer_closed hn rfl ⟨_, rfl⟩ fun _ => copes_bind execute_copes fun _ _ => hdone
  · -- managers.connect
    refine answer_closed hn rfl (paramString_returns (hkeys _ (by simp))) fun _ => ?_
    exact copes_bind execute_copes fun _ _ => copes_ite (fun _ => hdone) fun _ => hdone
  · -- managers.disconnect
    obtain ⟨key, hkey⟩ := paramString_returns (hkeys "key" (by simp))
    show (Managers.disconnect env _ _ task).Yields _
    unfold Managers.disconnect
    rw [hkey, Except.ok_bind']
    exact Except.yields_ok.mpr safeOut_nil
  · exact respond_closed hn rfl

/-! ### Requests for managers, and their answers -/

theorem managerRequest_closed {task : Task} (h : task.request.metadata.HasString "manager-key") :
    (handle Codec.api managerKey env n (managerRequest task)).Yields fun r => SafeOut managerKey r.2 := by
  refine (Program.handle_task_yields (Q := SafeOut managerKey) rfl rfl).mpr ?_
  obtain ⟨key, hkey⟩ := JsonMap.stringAt_returns.mpr h
  have hread : task.metadataString "manager-key" = .ok key := hkey
  show (Managers.request Codec.api env _ _ task).Yields _
  unfold Managers.request
  rw [hread, Except.ok_bind']
  dsimp only
  split
  · exact send_closed hn rfl .write
  · exact respond_closed hn rfl

theorem relayed_closed {id : String} {message : JsonMap} (hsorted : message.Sorted)
    (h : (message.get "metadata").HasString "transport") :
    (handle Codec.api managerKey env n (relayed id message)).Yields fun r => SafeOut managerKey r.2 := by
  obtain ⟨target, htarget⟩ := JsonValue.stringAt_returns.mpr h
  rw [handle_relayed_response hn hsorted htarget, Except.yields_ok]
  exact safeOut_singleton .write

/-! ### Requests with a key -/

omit hn in
/-- No password that a row has holds a null character. -/
theorem Profile.noNul_select (s : Profile) (login : String) : '\x00' ∉ (s.select login).2.toList := by
  unfold Profile.select
  split
  · next row _ => exact row.password.noNul
  · simp

omit hn in
/-- The login that is noted on a keyed task leaves what it names. -/
theorem KeyedTask.noted {task : Task} (h : KeyedTask managerKey task) (login : String) :
    KeyedTask managerKey (task.emplace "profile.login" login) := by
  unfold KeyedTask
  rw [Task.stored_emplace_ne (by decide), Task.stored_emplace_ne (by decide)]
  exact h

theorem auth_closed (hpassable : ∀ key ∈ n.services.profile.profilesAuth, Passable key) {sender : Actor}
    {task : Task} (h : KeyedTask managerKey task) :
    (handle Codec.api managerKey env n
      { dest := .profile, sender, command := "auth", body := .task task }).Yields
      fun r => SafeOut managerKey r.2 := by
  obtain ⟨key, hfind, hpieces, -⟩ := id h
  obtain ⟨first, rest, hsplit⟩ := exists_split key
  have hkey : task.metadataString "profile-key" = .ok key := JsonMap.stringAt_eq_ok.mpr hfind
  have hforward (hpassable : Passable key) : SafeOut managerKey [{
      dest := .router
      sender := .profile
      command := "service"
      body := .task (task.emplace "profile.login" first) }] :=
    safeOut_singleton (.service (h.noted first) ⟨key, hfind, hpassable⟩)
  rw [handle_auth hn hkey hsplit]
  dsimp only
  split
  · next hcached => exact Except.yields_ok.mpr (hforward (hpassable key (of_decide_eq_true hcached)))
  · cases env.db with
    | some what => exact Except.yields_ok.mpr (safeOut_singleton .write)
    | none =>
      cases rest with
      | nil => simp [hsplit] at hpieces
      | cons second rest =>
        dsimp only [List.head?_cons]
        split
        · next hpassword =>
          -- the key passes with the password of a row, or without one
          refine Except.yields_ok.mpr (hforward ⟨second, by rw [hsplit]; rfl, ?_⟩)
          rw [beq_iff_eq.mp hpassword]
          exact Profile.noNul_select _ _
        · exact Except.yields_ok.mpr (safeOut_singleton .write)

omit hn in
/-- The router knows all services of its list. -/
theorem exists_contact {serviceName : String} (h : serviceName ∈ Router.serviceList) :
    ∃ dest, (contacts .router).lookup serviceName = some dest := by
  have hall : ∀ name ∈ Router.serviceList, ((contacts .router).lookup name).isSome := by decide
  exact Option.isSome_iff_exists.mp (hall serviceName h)

theorem service_closed {sender : Actor} {task : Task} (h : KeyedTask managerKey task) (hpassed : Passed task) :
    (handle Codec.api managerKey env n
      { dest := .router, sender, command := "service", body := .task task }).Yields
      fun r => SafeOut managerKey r.2 := by
  refine (Program.handle_task_yields (Q := SafeOut managerKey) rfl rfl).mpr ?_
  show (Router.service Codec.api env ((program Codec.api managerKey).ctx n .router) () task).Yields _
  unfold Router.service
  dsimp only
  refine Except.yields_ite (fun hlisted => ?_) fun _ => respond_closed hn rfl
  obtain ⟨dest, hdest⟩ := exists_contact hlisted
  rw [Ctx.addresses_eq_ok.mpr (lookup_of_wired hn hdest), Except.ok_bind']
  refine Except.yields_ite (fun hhandled => ?_) fun _ => respond_closed hn rfl
  obtain ⟨key, hfind, -, hdemands⟩ := id h
  obtain ⟨key', hfind', hpassable⟩ := hpassed
  obtain rfl : key' = key := by simpa using hfind'.symm.trans hfind
  rcases hdemands hpassable dest ⟨hlisted, hdest, hhandled⟩ with ⟨rfl, hauth⟩ | hsuffices
  · rw [hauth]
    exact send_closed hn hdest (.auth h)
  · exact send_closed hn hdest (.handler hsuffices)

/-! ### Frames -/

theorem request_closed {ws : WebSocket} {message m' : JsonMap} {request : RequestMessage}
    (hread : message.parseRequest = .ok (request, m')) (h : RequestHarmless managerKey request) :
    (do return ((), ← Router.request Codec.api ((program Codec.api managerKey).ctx n .router) ws.id message) :
      Except Fault (Unit × List (Envelope Actor))).Yields fun r => SafeOut managerKey r.2 := by
  simp only [Router.request, hread, Except.ok_bind']
  cases hmanager : request.metadata.contains "manager-key" with
  | true =>
    rw [if_pos rfl]
    exact send_closed hn rfl (.managerRequest (h.relayed hmanager))
  | false =>
    rw [if_neg Bool.false_ne_true]
    split
    · next serviceName methodName rest hsplit =>
      cases hprofile : request.metadata.contains "profile-key" with
      | true =>
        rw [if_pos rfl]
        exact send_closed hn rfl (.auth (h.keyed hmanager hprofile _ _ _ hsplit))
      | false =>
        rw [if_neg Bool.false_ne_true]
        by_cases hquest : request.method ∈ Router.questMethodList
        · rw [if_pos hquest]
          obtain ⟨dest, hdest⟩ : ∃ dest, (contacts .router).lookup serviceName = some dest := by
            rcases Router.guest_of_quest hsplit hquest with ⟨rfl, -⟩ | ⟨rfl, -⟩
            · exact ⟨_, rfl⟩
            · exact ⟨_, rfl⟩
          exact send_closed hn hdest (.handler (h.guest hmanager hprofile _ _ _ _ hsplit hquest hdest))
        · rw [if_neg hquest]
          exact respond_closed hn rfl
    · exact respond_closed hn rfl

theorem frame_closed {ws : WebSocket} (h : Harmless managerKey ws.body) :
    (handle Codec.api managerKey env n (frame ws)).Yields fun r => SafeOut managerKey r.2 := by
  obtain ⟨hbounded, hobject⟩ := h
  obtain ⟨message, hparse⟩ := Codec.api_parse_returns.mpr hbounded
  cases hobject message hparse with
  | handedOn hrequest htransport =>
    rw [handle_handedOn hn hparse hrequest, Except.yields_ok]
    exact safeOut_singleton (.relayed (Codec.api_sorted hparse) htransport)
  | @request request hrequest hholds hharmless =>
    have hread := (JsonMap.holds_iff (JsonMap.contains_id_of_isRequest hrequest)).mp hholds
    refine (Program.handle_transport_yields (Q := SafeOut managerKey) rfl rfl).mpr ?_
    show (Router.dispatcher Codec.api env ((program Codec.api managerKey).ctx n .router) ()
      (.webSocket ws)).Yields _
    simp only [Router.dispatcher, Transport.asWebSocket_webSocket, Except.ok_bind', hparse, if_pos hrequest]
    exact request_closed hn hread hharmless

theorem safe_closed (hpassable : ∀ key ∈ n.services.profile.profilesAuth, Passable key)
    {e : Envelope Actor} (h : Safe managerKey e) :
    (handle Codec.api managerKey env n e).Yields fun r => SafeOut managerKey r.2 := by
  cases h with
  | frame hharmless => exact frame_closed hn hharmless
  | auth htask => exact auth_closed hn hpassable htask
  | service htask hpassed => exact service_closed hn htask hpassed
  | handler hsuffices => exact suffices_closed hn hsuffices
  | managerRequest hkey => exact managerRequest_closed hn hkey
  | relayed hsorted htransport => exact relayed_closed hn hsorted htransport
  | write =>
    rw [handle_write, Except.yields_ok]
    exact safeOut_nil
  | addUrl => exact ⟨_, rfl, safeOut_nil⟩
  | removeUrl => exact ⟨_, rfl, safeOut_nil⟩

end Closed

/-! ## Runs -/

section Runs

variable {managerKey : String}

/-- A key that is cached anew has the password of its login. -/
theorem Profile.of_mem_auths {α : Type} {env : Env} {ctx : Ctx α} {s s' : Profile} {command : String}
    {action : Action α Profile} {body : Body α} {out : List (Envelope α)}
    (hmem : (command, action) ∈ Profile.handlers Codec.api) (h : Action.Ran env ctx s action body (s', out))
    {key : String} (hkey : key ∈ s'.profilesAuth) :
    key ∈ s.profilesAuth ∨ (split key)[1]? = some (s.select ((split key).headD "")).2 := by
  have hkept (hsame : s'.profilesAuth = s.profilesAuth) : key ∈ s.profilesAuth := hsame ▸ hkey
  simp only [Profile.handlers, List.mem_cons, Prod.mk.injEq, List.not_mem_nil, or_false] at hmem
  rcases hmem with ⟨rfl, rfl⟩ | ⟨rfl, rfl⟩ | ⟨rfl, rfl⟩ <;> cases h with | task h
  · -- signup
    refine .inl (hkept (Ctx.answer_ensures (Q := fun s' => s'.profilesAuth = s.profilesAuth) rfl (fun _ => ?_) _ h))
    exact Except.ensures_bind.mpr fun _ _ => Except.ensures_bind.mpr fun _ _ => Except.ensures_ok.mpr rfl
  · -- login
    refine .inl (hkept (Ctx.answer_ensures (Q := fun s' => s'.profilesAuth = s.profilesAuth) rfl (fun _ => ?_) _ h))
    refine Except.ensures_bind.mpr fun _ _ => ?_
    exact Except.ensures_ite (fun _ => Except.ensures_ok.mpr rfl) fun _ => Except.ensures_ok.mpr rfl
  · -- auth
    obtain ⟨profileKey, -, h⟩ := Except.bind_eq_ok.mp h
    dsimp only at h
    split at h
    · obtain ⟨first, -, h⟩ := Except.bind_eq_ok.mp h
      obtain ⟨_, -, h⟩ := Except.bind_eq_ok.mp h
      cases h
      exact .inl hkey
    · rcases catchStd_eq_ok.mp h with h | ⟨what, -, h⟩
      · obtain ⟨-, -, h⟩ := Except.bind_eq_ok.mp h
        obtain ⟨first, hfirst, h⟩ := Except.bind_eq_ok.mp h
        obtain ⟨second, hsecond, h⟩ := Except.bind_eq_ok.mp h
        split at h
        · next hpassword =>
          obtain ⟨_, -, h⟩ := Except.bind_eq_ok.mp h
          obtain ⟨_, -, h⟩ := Except.bind_eq_ok.mp h
          cases h
          rcases AList.mem_emplace.mp hkey with rfl | hkey
          · rw [component_eq_ok] at hfirst hsecond
            have hhead : (split key).headD "" = first := by
              rw [List.headD_eq_head?_getD, List.head?_eq_getElem?, hfirst]
              rfl
            rw [hhead, hsecond, beq_iff_eq.mp hpassword]
            exact .inr rfl
          · exact .inl hkey
        · obtain ⟨_, -, h⟩ := Except.bind_eq_ok.mp h
          cases h
          exact .inl hkey
      · obtain ⟨_, -, h⟩ := Except.bind_eq_ok.mp h
        cases h
        exact .inl hkey

/-- What a run keeps: the wiring, and that a cached key lets pass. -/
structure Kept (n : State) : Prop where
  contacts : n.contacts = contacts
  passable : ∀ key ∈ n.services.profile.profilesAuth, Passable key

theorem Initial.kept {n : State} (h : Initial n) : Kept n := by
  refine ⟨h.contacts, fun key hkey => ?_⟩
  rw [h.profilesAuth] at hkey
  exact absurd hkey (AList.notMem_empty key)

theorem Kept.handled {env : Env} {n n' : State} {e : Envelope Actor} {out : List (Envelope Actor)}
    (hn : Kept n) (hplain : e.Plain) (h : handle Codec.api managerKey env n e = .ok (n', out)) :
    Kept n' ∧ ∀ e' ∈ out, e'.Plain := by
  obtain ⟨hcontacts, hout⟩ := handle_plain h hplain
  refine ⟨⟨hcontacts.trans hn.contacts, fun key hkey => ?_⟩, hout⟩
  obtain ⟨dest, sender, command, body⟩ := e
  cases Program.handled_of_eq_ok h with
  | syncContacts => exact hn.passable key hkey
  | addChannel => exact hn.passable key hkey
  | skip => exact hn.passable key hkey
  | attached _ hmem hran =>
    cases dest <;> obtain ⟨inner, hinner, rfl⟩ := mem_liftAll.mp hmem <;>
      obtain ⟨component, hinnerRan, rfl⟩ := hran.of_lift
    case profile =>
      rcases Profile.of_mem_auths hinner hinnerRan hkey with hcached | hpassword
      · exact hn.passable key hcached
      · exact ⟨_, hpassword, Profile.noNul_select _ _⟩
    all_goals exact hn.passable key hkey

/-- No handler that a harmless frame triggers stops, whatever else arrives. -/
theorem unfailing_of_harmless {n : State} {pending : List (Envelope Actor)} (hn : Kept n)
    (hplain : ∀ e ∈ pending, e.Plain) {ws : WebSocket} (h : Harmless managerKey ws.body) :
    Work.Unfailing (handle Codec.api managerKey) Arrives (fun _ _ _ => True) (fun _ _ _ => True)
      ⟨n, pending, [frame ws]⟩ := by
  refine Work.unfailing_of_closed Kept Envelope.Plain (Safe managerKey) (fun _ h => h.plain)
    (fun env n e n' out hn hplain _ heq => hn.handled hplain heq) ?_ hn hplain ?_
  · intro env n e hn hsafe
    obtain ⟨⟨n', out⟩, heq, hout⟩ : (handle Codec.api managerKey env n e).Yields
        fun r => SafeOut managerKey r.2 := safe_closed hn.contacts hn.passable hsafe
    exact ⟨_, heq, (hn.handled hsafe.plain heq).1, hout⟩
  · exact safeOut_singleton (.frame h)

end Runs

/-! ## Handlers that stop -/

section Stops

variable {managerKey : String} {n : State}

/-- A handler of strings that returns found them. -/
theorem strings_of_returns {env : Env} {dest sender : Actor} {method : String} {keys : List String} {task : Task}
    (hmem : (dest, method, keys) ∈ stringParams)
    (h : (handle Codec.api managerKey env n { dest, sender, command := method, body := .task task }).Returns) :
    ∀ key ∈ keys, task.request.params.HasString key := by
  have hone {σ : Type} {key : String} {f : String → Except Fault σ} (h : (task.paramString key >>= f).Returns) :
      ∀ key' ∈ [key], task.request.params.HasString key' := by
    intro key' hkey'
    rw [List.mem_singleton.mp hkey']
    exact JsonValue.stringAt_returns.mp h.of_bind
  have htwo {σ : Type} {f : String × String → Except Fault σ}
      (h : (Profile.loginAndPassword task >>= f).Returns) :
      ∀ key ∈ ["login", "password"], task.request.params.HasString key := by
    obtain ⟨login, hlogin, h⟩ := Except.returns_bind.mp h.of_bind
    intro key hkey
    rcases List.mem_cons.mp hkey with rfl | hkey
    · exact JsonValue.stringAt_returns.mp ⟨login, hlogin⟩
    · rw [List.mem_singleton.mp hkey]
      exact JsonValue.stringAt_returns.mp h.of_bind
  simp only [stringParams, List.mem_cons, Prod.mk.injEq, List.not_mem_nil, or_false] at hmem
  rcases hmem with ⟨rfl, rfl, rfl⟩ | ⟨rfl, rfl, rfl⟩ | ⟨rfl, rfl, rfl⟩ | ⟨rfl, rfl, rfl⟩ |
    ⟨rfl, rfl, rfl⟩ | ⟨rfl, rfl, rfl⟩ | ⟨rfl, rfl, rfl⟩ | ⟨rfl, rfl, rfl⟩ <;>
    have hran := Program.handle_task_returns rfl rfl h
  · exact htwo hran
  · exact htwo hran
  · exact hone hran
  · exact hone hran
  · simp
  · exact hone hran
  · exact hone hran
  · simp

/-- A task for a standard handler: `sync_contacts` and `add_channel` cannot read it, and
`skip` has the router told a text, which it cannot read. -/
theorem breaks_standard {dest : Actor} {method : String} {task : Task}
    (hmethod : (program Codec.api managerKey).reaction dest method ∈ [.syncContacts, .skip, .addChannel]) :
    Work.Breaks (handle Codec.api managerKey) n
      { dest, sender := .router, command := method, body := .task task } := by
  have hperform {env : Env} : handle Codec.api managerKey env n
      { dest, sender := .router, command := method, body := .task task } =
      (program Codec.api managerKey).perform ((program Codec.api managerKey).reaction dest method) env n
        { dest, sender := .router, command := method, body := .task task } := rfl
  simp only [List.mem_cons, List.not_mem_nil, or_false] at hmethod
  rcases hmethod with hreaction | hreaction | hreaction <;> rw [hreaction] at hperform
  · refine .now .calm fun ⟨r, hr⟩ => ?_
    cases hperform.symm.trans hr
  · refine .later .calm hperform (List.mem_singleton_self _) (.now .calm fun ⟨r, hr⟩ => ?_)
    cases hr
  · refine .now .calm fun ⟨r, hr⟩ => ?_
    cases hperform.symm.trans hr

/-- Each handler that can be attached to a service demands strings only, or is one of
those that the router calls by itself. -/
theorem called_cases {dest : Actor} {method : String} (hdest : dest ∈ [.profile, .managers, .managerInfo])
    (hattached : method ∈ ((program Codec.api managerKey).attached dest).map Prod.fst) :
    (∃ keys, (dest, method, keys) ∈ stringParams) ∨
      (dest, method) ∈ [(.profile, "auth"), (.managers, "request"), (.managers, "response")] := by
  suffices hcases : (dest, method) ∈ (stringParams.map fun p => (p.1, p.2.1)) ∨ _ by
    refine hcases.imp_left fun h => ?_
    obtain ⟨⟨dest', method', keys⟩, hmem, heq⟩ := List.mem_map.mp h
    cases heq
    exact ⟨keys, hmem⟩
  simp only [List.mem_cons (a := dest), List.not_mem_nil, or_false] at hdest
  rcases hdest with rfl | rfl | rfl
  · change method ∈ ["signup", "login", "auth"] at hattached
    revert method
    decide
  · change method ∈ ["add", "delete", "list", "connect", "disconnect", "request", "response"] at hattached
    revert method
    decide
  · change method ∈ ["info"] at hattached
    revert method
    decide

/-- A service called with a task that lacks what it demands. `managers.request` demands
a manager key, which no task has that the router lets through. -/
theorem breaks_of_not_suffices {dest : Actor} {method : String} {task : Task}
    (hdest : dest ∈ [.profile, .managers, .managerInfo]) (hauth : ¬ (dest = .profile ∧ method = "auth"))
    (hmanager : task.request.metadata.contains "manager-key" = false)
    (hsuffices : ¬ Suffices dest method task.request) :
    Work.Breaks (handle Codec.api managerKey) n
      { dest, sender := .router, command := method, body := .task task } := by
  rcases (program Codec.api managerKey).reaction_cases dest method with hstandard | hattached
  · exact breaks_standard hstandard
  by_contra hbreaks
  have hreturns := Work.returns_of_not_breaks hbreaks .calm
  rcases called_cases hdest (List.mem_map.mpr ⟨_, hattached, rfl⟩) with ⟨keys, hmem⟩ | hother
  · exact hsuffices ⟨keys, hmem, strings_of_returns hmem hreturns⟩
  simp only [List.mem_cons, Prod.mk.injEq, List.not_mem_nil, or_false] at hother
  rcases hother with hmem | ⟨rfl, rfl⟩ | ⟨rfl, rfl⟩
  · exact hauth hmem
  · -- managers.request
    have hran := Program.handle_task_returns rfl rfl hreturns
    obtain ⟨key, hkey⟩ : (task.metadataString "manager-key").Returns := hran.of_bind
    rw [JsonMap.contains, JsonMap.stringAt_eq_ok.mp hkey] at hmanager
    cases hmanager
  · -- managers.response reads no transport out of a task
    obtain ⟨r, hr⟩ := hreturns
    cases hr

end Stops

/-! ## Frames that are survived -/

section Survived

/-- Whenever the frame comes, no handler that it triggers stops. -/
def Survives (managerKey text : String) : Prop :=
  ∀ n₀ n pending id, Initial n₀ →
    Run Codec.api managerKey (fun _ _ _ => True) ⟨n₀, []⟩ ⟨n, pending⟩ →
    Work.Unfailing (handle Codec.api managerKey) Arrives (fun _ _ _ => True) (fun _ _ _ => True)
      ⟨n, pending, [frame ⟨id, text⟩]⟩

variable {managerKey text : String} {m : JsonMap}

/-- No platform that has just been started is stopped by the frame. -/
theorem Survives.not_breaks (h : Survives managerKey text) {n : State} (hn : Initial n) :
    ¬ Work.Breaks (handle Codec.api managerKey) n (frame ⟨"x", text⟩) := fun hbreaks =>
  hbreaks.not_unfailing (List.mem_singleton_self _) (fun _ _ _ => trivial) (h n n [] "x" hn (.refl _))

theorem Survives.dispatched (h : Survives managerKey text) :
    (Router.dispatcher Codec.api .calm ((program Codec.api managerKey).ctx blank .router) ()
      (.webSocket ⟨"x", text⟩)).Returns :=
  Program.handle_transport_returns rfl rfl (Work.returns_of_not_breaks (h.not_breaks blank_initial) .calm)

theorem Survives.bounded (h : Survives managerKey text) : JsonText.Bounded text := by
  have hran := h.dispatched
  simp only [Router.dispatcher, Transport.asWebSocket_webSocket, Except.ok_bind'] at hran
  exact Codec.api_parse_returns.mp hran.of_bind

theorem Survives.holds (h : Survives managerKey text) (hparse : Codec.api.parse text = .ok m)
    (hrequest : m.isRequest) : ∃ request, m.Holds request := by
  have hran := h.dispatched
  simp only [Router.dispatcher, Transport.asWebSocket_webSocket, Except.ok_bind', hparse,
    if_pos hrequest, Router.request] at hran
  obtain ⟨⟨request, m'⟩, hread⟩ := hran.of_bind.of_bind
  exact ⟨request, JsonMap.holds_of_parseRequest (JsonMap.contains_id_of_isRequest hrequest) hread⟩

/-- What the frame becomes does not stop the platform either. -/
theorem Survives.next (h : Survives managerKey text) {n : State} (hn : Initial n) {e : Envelope Actor}
    (hframe : handle Codec.api managerKey .calm n (frame ⟨"x", text⟩) = .ok (n, [e])) :
    ¬ Work.Breaks (handle Codec.api managerKey) n e := fun hbreaks =>
  h.not_breaks hn (.later .calm hframe (List.mem_singleton_self _) hbreaks)

theorem Survives.transport (h : Survives managerKey text) (hparse : Codec.api.parse text = .ok m)
    (hrequest : m.isRequest = false) : (m.get "metadata").HasString "transport" := by
  have hnext := h.next blank_initial (handle_handedOn rfl hparse hrequest)
  obtain ⟨⟨n', out⟩, hhandle⟩ := Work.returns_of_not_breaks hnext .calm
  exact JsonValue.stringAt_returns.mp (target_of_handle (Codec.api_sorted hparse) hhandle)

section Requests

variable {request : RequestMessage} {serviceName methodName : String} {rest : List String}

theorem Survives.named (h : Survives managerKey text) (hreads : Codec.api.ReadsRequest text request)
    (hkey : request.metadata.contains "manager-key") : request.metadata.HasString "manager-key" := by
  have hnext := h.next blank_initial (handle_requestFrame rfl hreads hkey)
  have hran : (Managers.request Codec.api .calm _ blank.services.managers
      (managerTask request "x")).Returns :=
    Program.handle_task_returns rfl rfl (Work.returns_of_not_breaks hnext .calm)
  exact JsonMap.stringAt_returns.mp hran.of_bind

/-- A platform with one profile. -/
def withProfile (login password : String) : State where
  services := { blank.services with
    profile := {
      table := ⟨[{ login := .bind login, password := .bind password }], by simp⟩
      profilesAuth := ∅ } }
  contacts := contacts

theorem withProfile_initial (login password : String) : Initial (withProfile login password) := ⟨rfl, rfl, rfl⟩

theorem select_withProfile {login password : String} (h : '\x00' ∉ password.toList) :
    ((withProfile login password).services.profile.select login).2 = password := by
  have hrow : (withProfile login password).services.profile.table.find? (.bind login) =
      some { login := .bind login, password := .bind password } := by
    simp [withProfile, Keyed.find?]
  rw [Profile.select, hrow]
  exact ((Text.bind_eq_iff h).mp rfl).symm

/-- The key is a string of two pieces or more. -/
theorem Survives.key (h : Survives managerKey text) (hreads : Codec.api.ReadsRequest text request)
    (hmanager : request.metadata.contains "manager-key" = false)
    (hkey : request.metadata.contains "profile-key")
    (hsplit : split request.method = serviceName :: methodName :: rest) :
    ∃ key, request.metadata.find? "profile-key" = some (.string key) ∧ 2 ≤ (split key).length := by
  have hnext := h.next blank_initial (handle_profileFrame rfl hreads hmanager hsplit hkey)
  have hreturns := Work.returns_of_not_breaks hnext .calm
  have hran : (Profile.auth Codec.api .calm _ blank.services.profile
      (Router.task request "x" serviceName methodName)).Returns :=
    Program.handle_task_returns rfl rfl hreturns
  obtain ⟨key, hread⟩ : ((Router.task request "x" serviceName methodName).metadataString
      "profile-key").Returns := by
    unfold Profile.auth at hran
    exact hran.of_bind
  refine ⟨key, JsonMap.stringAt_eq_ok.mp hread, ?_⟩
  by_contra hshort
  obtain ⟨first, pieces, hpieces⟩ := exists_split key
  obtain rfl : pieces = [] := by
    rw [hpieces, List.length_cons] at hshort
    exact List.length_eq_zero_iff.mp (by omega)
  obtain ⟨r, hr⟩ := hreturns
  rw [handle_auth rfl hread hpieces] at hr
  cases hr

/-- The router calls three services. -/
theorem service_of_contact {dest : Actor} (hlisted : serviceName ∈ Router.serviceList)
    (hcontact : (contacts .router).lookup serviceName = some dest) :
    dest ∈ [.profile, .managers, .managerInfo] := by
  have hall : ∀ name ∈ Router.serviceList, ∃ dest, (contacts .router).lookup name = some dest ∧
      dest ∈ [.profile, .managers, .managerInfo] := by
    simp only [Router.serviceList, List.forall_mem_cons]
    exact ⟨⟨_, rfl, by decide⟩, ⟨_, rfl, by decide⟩, ⟨_, rfl, by decide⟩, by simp⟩
  obtain ⟨dest', hdest', hservice⟩ := hall serviceName hlisted
  obtain rfl : dest' = dest := by simpa [hdest'] using hcontact
  exact hservice

/-- What a key may call is not stopped by the request. -/
theorem Survives.demanded (h : Survives managerKey text) (hreads : Codec.api.ReadsRequest text request)
    (hmanager : request.metadata.contains "manager-key" = false)
    (hsplit : split request.method = serviceName :: methodName :: rest) {key : String}
    (hkey : request.metadata.find? "profile-key" = some (.string key)) (hpassable : Passable key)
    {dest : Actor} (hcallable : Callable managerKey serviceName methodName dest)
    (hauth : ¬ (dest = .profile ∧ methodName = "auth")) : Suffices dest methodName request := by
  by_contra hsuffices
  obtain ⟨second, hsecond, hnoNul⟩ := hpassable
  obtain ⟨first, pieces, hpieces⟩ := exists_split key
  have hhead : pieces.head? = some second := by
    rw [hpieces] at hsecond
    rw [List.head?_eq_getElem?]
    exact hsecond
  have hcontains : request.metadata.contains "profile-key" := by
    rw [JsonMap.contains, hkey]
    rfl
  let task := Router.task request "x" serviceName methodName
  let n := authorized (withProfile first second) key
  have hread : task.metadataString "profile-key" = .ok key := JsonMap.stringAt_eq_ok.mpr hkey
  have hpassed : handle Codec.api managerKey .calm (withProfile first second)
      { dest := .profile, sender := .router, command := "auth", body := .task task } =
      .ok (n, [{ dest := .router, sender := .profile, command := "service",
                 body := .task (profileTask request "x" serviceName methodName first) }]) := by
    rw [handle_auth rfl hread hpieces, hhead, select_withProfile hnoNul]
    exact if_pos (beq_self_eq_true second)
  have hdispatches : Router.Dispatches ((program Codec.api managerKey).ctx n .router)
      (profileTask request "x" serviceName methodName first) dest :=
    ⟨hcallable.listed, lookup_of_wired rfl hcallable.contact, hcallable.handled⟩
  have hservice : handle Codec.api managerKey .calm n
      { dest := .router, sender := .profile, command := "service",
        body := .task (profileTask request "x" serviceName methodName first) } =
      .ok (n, [{ dest, sender := .router, command := methodName,
                 body := .task (profileTask request "x" serviceName methodName first) }]) :=
    handle_of_dispatches hdispatches
  have hbreaks : Work.Breaks (handle Codec.api managerKey) n
      { dest, sender := .router, command := methodName,
        body := .task (profileTask request "x" serviceName methodName first) } :=
    breaks_of_not_suffices (service_of_contact hcallable.listed hcallable.contact) hauth hmanager hsuffices
  -- the frame, the task that passes, and the task that is dispatched
  have hstart := withProfile_initial first second
  apply h.next hstart (handle_profileFrame rfl hreads hmanager hsplit hcontains)
  exact .later .calm hpassed (List.mem_singleton_self _)
    (.later .calm hservice (List.mem_singleton_self _) hbreaks)

/-- A guest's request has what it needs. -/
theorem Survives.guest (h : Survives managerKey text) (hreads : Codec.api.ReadsRequest text request)
    (hmanager : request.metadata.contains "manager-key" = false)
    (hprofile : request.metadata.contains "profile-key" = false)
    (hsplit : split request.method = serviceName :: methodName :: rest)
    (hquest : request.method ∈ Router.questMethodList) {dest : Actor}
    (hdest : (contacts .router).lookup serviceName = some dest) : Suffices dest methodName request := by
  by_contra hsuffices
  obtain ⟨message, m', hparse, hrequest, hread⟩ := hreads
  have hcontact : ((program Codec.api managerKey).ctx blank .router).contacts.lookup serviceName = some dest :=
    lookup_of_wired rfl hdest
  have hframe : handle Codec.api managerKey .calm blank (frame ⟨"x", text⟩) =
      .ok (blank, [{ dest, sender := .router, command := methodName,
                     body := .task (Router.task request "x" serviceName methodName) }]) := by
    rw [handle_frame, Router.dispatcher]
    simp only [Transport.asWebSocket_webSocket, Except.ok_bind', hparse, if_pos hrequest,
      Router.request, hread, hmanager, hsplit, hprofile, if_pos hquest,
      Bool.false_eq_true, if_false, Ctx.send_of_contact hcontact]
    rfl
  have hlisted : serviceName ∈ Router.serviceList ∧ ¬ (dest = .profile ∧ methodName = "auth") := by
    rcases Router.guest_of_quest hsplit hquest with ⟨rfl, hmethod⟩ | ⟨rfl, rfl⟩
    · refine ⟨by decide, ?_⟩
      rintro ⟨-, rfl⟩
      exact absurd hmethod (by decide)
    · exact ⟨by decide, by simp⟩
  exact h.next blank_initial hframe
    (breaks_of_not_suffices (service_of_contact hlisted.1 hdest) hlisted.2 hmanager hsuffices)

end Requests

/-- A frame is survived just if it is harmless. -/
theorem frame_survived_iff (managerKey text : String) : Survives managerKey text ↔ Harmless managerKey text := by
  constructor
  · intro h
    refine ⟨h.bounded, fun m hparse => ?_⟩
    cases hrequest : m.isRequest with
    | true =>
      obtain ⟨request, hholds⟩ := h.holds hparse hrequest
      have hreads := hholds.reads hparse hrequest
      exact .request hrequest hholds {
        relayed := h.named hreads
        keyed := fun hmanager hprofile serviceName methodName rest hsplit => by
          obtain ⟨key, hkey, hpieces⟩ := h.key hreads hmanager hprofile hsplit
          refine ⟨key, hkey, hpieces, fun hpassable dest hcallable => ?_⟩
          by_cases hauth : dest = .profile ∧ methodName = "auth"
          · exact .inl hauth
          · exact .inr (h.demanded hreads hmanager hsplit hkey hpassable hcallable hauth)
        guest := fun hmanager hprofile _ _ _ _ hsplit hquest hdest =>
          h.guest hreads hmanager hprofile hsplit hquest hdest }
    | false => exact .handedOn hrequest (h.transport hparse hrequest)
  · intro h n₀ n pending id h₀ hrun
    have hinvariant := hrun.invariant Kept Envelope.Plain h₀.kept (by simp) (fun _ h => h.plain)
      fun env n e n' out hn hplain _ heq => hn.handled hplain heq
    exact unfailing_of_harmless hinvariant.1 hinvariant.2 h

end Survived

end StreamCloud.Platform
