-- SUMMARY: Why the manager closes its connection to the platform, and when nobody else makes it.
import StreamCloud.Verification.Addresses
import StreamCloud.System.Cloud

/-!
# The connection to the platform

The `platform` service of the manager closes the connection when a frame of the
platform asks for it or has an error. What goes up to the platform, and what is written
to the session of the manager, is followed through both programs.
-/

namespace StreamCloud

/-- The text is one of a request. -/
def IsRequest (text : String) : Prop := ∃ m, Codec.api.parse text = .ok m ∧ m.isRequest

/-! ## The manager -/

namespace Manager

variable {config : Config} {env : Env} {n n' : State} {e e' : Envelope Actor}
  {out : List (Envelope Actor)}

/-- A message that closes the connection. -/
def Closes (e : Envelope Actor) : Prop := e.dest = .client ∧ e.command = "close"

theorem Sent.actor_of_client {a : Actor} {command name command' : String} {body : Body Actor}
    (h : Sent a command name command' body) (hname : name = "client") : a = .platform := by
  cases a <;> first | rfl | cases h <;> exact absurd hname (by decide)

section Wired

variable (hn : n.contacts = contacts)
include hn

/-- Nobody but the `platform` service sends anything to the websocket client. -/
theorem ran_of_client (h : handle Codec.api config env n e = .ok (n', out)) (he : e' ∈ out)
    (hclient : e'.dest = .client) (hcommand : e'.command ≠ "error") :
    e.dest = .platform ∧ ∃ action, (e.command, action) ∈ PlatformService.handlers Codec.api config ∧
      Action.Ran env ((program Codec.api config).ctx n .platform) () action e.body ((), out) := by
  obtain ⟨dest, sender, command, body⟩ := e
  have hname {a : Actor} {name : String}
      (h : ((program Codec.api config).ctx n a).contacts.lookup name = some e'.dest) : name = "client" := by
    have hdest := name_of_lookup hn h
    rw [hclient] at hdest
    exact hdest.symm
  cases Program.handled_of_eq_ok h with
  | syncContacts => cases he
  | addChannel => cases he
  | skip =>
    obtain ⟨-, rfl⟩ := Program.of_mem_skip he
    exact absurd rfl hcommand
  | @attached action services out _ hmem hran =>
    obtain rfl : dest = .platform := by
      cases emits_of_ran hmem hran with
      | sends hsends =>
        obtain ⟨-, name, hlookup, hsent⟩ := hsends e' he
        exact hsent.actor_of_client (hname hlookup)
      | dispatches _ _ _ hdispatches =>
        obtain rfl := List.mem_singleton.mp he
        have hlisted := hdispatches.listed
        rw [hname hdispatches.contact] at hlisted
        exact absurd hlisted (by decide)
      | pipe =>
        obtain rfl := List.mem_singleton.mp he
        cases hclient
    obtain ⟨inner, hinner, rfl⟩ := mem_liftAll.mp hmem
    obtain ⟨component, hinnerRan, -⟩ := hran.of_lift
    exact ⟨rfl, inner, hinner, hinnerRan⟩

/-- What closes the connection comes of a frame of the platform or of an error of
the socket. -/
theorem of_closes (h : handle Codec.api config env n e = .ok (n', out)) (he : e' ∈ out)
    (hcloses : Closes e') :
    (∃ sender ws, PlatformService.Dismisses Codec.api ws ∧ e = {
      dest := .platform
      sender
      command := "dispatcher"
      body := .transport (.webSocket ws) }) ∨
    ∃ sender error, error.code = .other ∧ e = {
      dest := .platform
      sender
      command := "error"
      body := .transport (.error error) } := by
  obtain ⟨hclient, hclose⟩ := hcloses
  have hother {command : String} (h : e'.command = command) (hne : command ≠ "close") : False :=
    hne (h.symm.trans hclose)
  have hskip : e'.command ≠ "error" := by
    intro h
    exact hother h (by decide)
  obtain ⟨hdest, action, hmem, hran⟩ := ran_of_client hn h he hclient hskip
  obtain ⟨dest, sender, command, body⟩ := e
  subst hdest
  simp only [PlatformService.handlers, List.mem_cons, Prod.mk.injEq, List.not_mem_nil,
    or_false] at hmem
  rcases hmem with ⟨rfl, rfl⟩ | ⟨rfl, rfl⟩ | ⟨rfl, rfl⟩ | ⟨rfl, rfl⟩ <;> cases hran with | transport hrun
  · -- dispatcher
    obtain ⟨ws, hws, -⟩ := Except.bind_eq_ok.mp hrun
    obtain rfl := Transport.asWebSocket_eq_ok.mp hws
    rcases PlatformService.dispatcher_cases Codec.api config hrun with
      ⟨ws', -, hsend⟩ | ⟨hdismisses, -⟩ | ⟨text, hsend⟩ | rfl
    · exact (hother (Ctx.of_mem_send hsend he).1 (by decide)).elim
    · exact .inl ⟨sender, ws, hdismisses, rfl⟩
    · exact (hother (Ctx.of_mem_send hsend he).1 (by decide)).elim
    · cases he
  · -- handshake
    obtain ⟨out', hsend, heq⟩ := Except.bind_eq_ok.mp hrun
    cases heq
    exact (hother (Ctx.of_mem_send hsend he).1 (by decide)).elim
  · -- error
    obtain ⟨error, herror, hrest⟩ := Except.bind_eq_ok.mp hrun
    obtain rfl := Transport.asError_eq_ok.mp herror
    split at hrest
    · obtain ⟨out', hsend, heq⟩ := Except.bind_eq_ok.mp hrest
      cases heq
      exact (hother (Ctx.of_mem_send hsend he).1 (by decide)).elim
    · next hlasting =>
      refine .inr ⟨sender, error, ?_, rfl⟩
      revert hlasting
      cases error.code <;> decide
  · -- write
    obtain ⟨ws, -, hrun⟩ := Except.bind_eq_ok.mp hrun
    obtain ⟨message, -, hrun⟩ := Except.bind_eq_ok.mp hrun
    obtain ⟨metadata, -, hrun⟩ := Except.bind_eq_ok.mp hrun
    obtain ⟨out', hsend, heq⟩ := Except.bind_eq_ok.mp hrun
    cases heq
    exact (hother (Ctx.of_mem_send hsend he).1 (by decide)).elim

/-- The message that closes the connection. -/
def closeMessage : Envelope Actor where
  dest := .client
  sender := .platform
  command := "close"
  body := .text ""

/-- A frame of the platform that is no request and has an error closes the connection. -/
theorem handle_refusal {ws : WebSocket} {m : JsonMap} (hparse : Codec.api.parse ws.body = .ok m)
    (hrequest : m.isRequest = false) (herror : m.contains "error") :
    handle Codec.api config env n (platformFrame ws) = .ok (n, [closeMessage]) := by
  have hclient : (contacts .platform).lookup "client" = some .client := rfl
  refine (Program.handle_transport rfl rfl).trans ?_
  show (PlatformService.dispatcher Codec.api config env ((program Codec.api config).ctx n .platform) ()
    (.webSocket ws)).map _ = _
  simp only [PlatformService.dispatcher, Transport.asWebSocket_webSocket, Except.ok_bind', hparse, hrequest,
    if_pos herror, Ctx.send_of_contact (lookup_of_wired hn hclient)]
  rfl

/-- What goes up to the platform is what the manager asks for itself, or a frame that
no session took. -/
theorem of_platformMessage {ws : WebSocket} (h : handle Codec.api config env n e = .ok (n', out))
    (he : e' ∈ out) (hclient : e'.dest = .client) (hwrite : e'.command = "write")
    (hbody : e'.body = .transport (.webSocket ws)) :
    ws.body = (PlatformService.ownRequest config "managers.connect").serialize Codec.api ∨
      ∃ sender ws', (IsRequest ws.body → IsRequest ws'.body) ∧ e = {
        dest := .platform
        sender
        command := "write"
        body := .transport (.webSocket ws') } := by
  have hskip : e'.command ≠ "error" := by
    rw [hwrite]
    decide
  obtain ⟨hdest, action, hmem, hran⟩ := ran_of_client hn h he hclient hskip
  have hother {name command : String} {body : Body Actor}
      (hsend : ((program Codec.api config).ctx n .platform).send name command body = .ok out)
      (hne : command ≠ "write") : False :=
    hne ((Ctx.of_mem_send hsend he).1.symm.trans hwrite)
  obtain ⟨dest, sender, command, body⟩ := e
  subst hdest
  simp only [PlatformService.handlers, List.mem_cons, Prod.mk.injEq, List.not_mem_nil,
    or_false] at hmem
  rcases hmem with ⟨rfl, rfl⟩ | ⟨rfl, rfl⟩ | ⟨rfl, rfl⟩ | ⟨rfl, rfl⟩ <;> cases hran with | transport hrun
  · -- dispatcher
    obtain ⟨ws', hws, -⟩ := Except.bind_eq_ok.mp hrun
    obtain rfl := Transport.asWebSocket_eq_ok.mp hws
    rcases PlatformService.dispatcher_cases Codec.api config hrun with
      ⟨_, -, hsend⟩ | ⟨-, hsend⟩ | ⟨_, hsend⟩ | rfl
    · exact (hother hsend (by decide)).elim
    · exact (hother hsend (by decide)).elim
    · exact (hother hsend (by decide)).elim
    · cases he
  · -- handshake
    obtain ⟨out', hsend, heq⟩ := Except.bind_eq_ok.mp hrun
    cases heq
    cases (Ctx.of_mem_send hsend he).2.symm.trans hbody
    exact .inl rfl
  · -- error
    obtain ⟨error, -, hrun⟩ := Except.bind_eq_ok.mp hrun
    split at hrun
    · obtain ⟨out', hsend, heq⟩ := Except.bind_eq_ok.mp hrun
      cases heq
      exact (hother hsend (by decide)).elim
    · obtain ⟨out', hsend, heq⟩ := Except.bind_eq_ok.mp hrun
      cases heq
      exact (hother hsend (by decide)).elim
  · -- write
    obtain ⟨ws', hws, hrest⟩ := Except.bind_eq_ok.mp hrun
    obtain rfl := Transport.asWebSocket_eq_ok.mp hws
    obtain ⟨message, hparse, hrest⟩ := Except.bind_eq_ok.mp hrest
    obtain ⟨metadata, -, hrest⟩ := Except.bind_eq_ok.mp hrest
    obtain ⟨out', hsend, heq⟩ := Except.bind_eq_ok.mp hrest
    cases heq
    cases (Ctx.of_mem_send hsend he).2.symm.trans hbody
    refine .inr ⟨sender, ws', ?_, rfl⟩
    rintro ⟨m, hm, hrequest⟩
    obtain rfl := Except.ok.inj ((Codec.api_roundTrip _).symm.trans hm)
    rw [JsonMap.isRequest_reread, JsonMap.isRequest_set_metadata] at hrequest
    exact ⟨message, hparse, hrequest⟩

/-- Nobody but the websocket server sends anything to the `platform` service: the
frames that it has no session for. -/
theorem of_pipeMessage (h : handle Codec.api config env n e = .ok (n', out)) (he : e' ∈ out)
    (hdest : e'.dest = .platform) :
    (∃ sender ws, e = sessionMessage sender ws ∧ env.sessions ws.id = false ∧ e' = pipeMessage ws) ∨
      ∃ text, e'.body = .text text := by
  have hnobody {a : Actor} {name : String}
      (h : ((program Codec.api config).ctx n a).contacts.lookup name = some e'.dest) : False := by
    have hlookup : (contacts a).lookup name = some e'.dest := by
      rw [← hn]
      exact h
    have hcontacts : ∀ p ∈ contacts a, p.2 ≠ .platform := by cases a <;> decide
    exact hcontacts _ (Program.mem_of_lookup hlookup) hdest
  obtain ⟨dest, sender, command, body⟩ := e
  cases Program.handled_of_eq_ok h with
  | syncContacts => cases he
  | addChannel => cases he
  | skip =>
    obtain ⟨-, rfl⟩ := Program.of_mem_skip he
    exact .inr ⟨_, rfl⟩
  | @attached action services out _ hmem hran =>
    cases emits_of_ran hmem hran with
    | sends hsends =>
      obtain ⟨-, name, hlookup, -⟩ := hsends e' he
      exact (hnobody hlookup).elim
    | dispatches _ _ _ hdispatches =>
      obtain rfl := List.mem_singleton.mp he
      exact (hnobody hdispatches.contact).elim
    | @pipe ws ha hwrite =>
      subst ha hwrite
      obtain ⟨inner, hinner, rfl⟩ := mem_liftAll.mp hmem
      obtain ⟨component, hinnerRan, -⟩ := hran.of_lift
      rcases WsServer.out_of_ran hinner hinnerRan with hnil | ⟨-, ws', hbody, -⟩
      · cases hnil
      · subst hbody
        have hsession : handle Codec.api config env n (sessionMessage sender ws') = _ := h
        rw [handle_sessionMessage] at hsession
        obtain ⟨-, hout⟩ := Prod.mk.inj (Except.ok.inj hsession)
        split at hout
        · cases hout
        · next hclosed =>
          cases hout
          exact .inl ⟨sender, ws, rfl, by simpa using hclosed, List.mem_singleton.mp he⟩

end Wired

end Manager

/-! ## The platform -/

namespace Platform

variable {config : Config} {managerKey link : String} {env : Env} {n n' : State}
  {e : Envelope Actor} {out : List (Envelope Actor)}

/-- A task of the manager itself. -/
structure OwnTask (config : Config) (link method : String) (task : Task) : Prop where
  listed : method ∈ ["connect", "disconnect"]
  request : task.request = Manager.PlatformService.ownRequest config ("managers." ++ method)
  transportId : task.transportId = link
  serviceName : task.stored "service.name" = "managers"
  serviceMethod : task.stored "service.method" = method

/-- The frame in which the manager asks for its connection. -/
def ownFrame (config : Config) (link method : String) : Envelope Actor :=
  frame { id := link, body := (Manager.PlatformService.ownRequest config ("managers." ++ method)).serialize Codec.api }

/-- A message of the platform that comes of what the manager asks for itself. -/
inductive Owned (config : Config) (link : String) : Envelope Actor → Prop
  | frame {method : String} : method ∈ ["connect", "disconnect"] →
      Owned config link (ownFrame config link method)
  | task {dest sender : Actor} {command method : String} {task : Task} : OwnTask config link method task →
      (dest, command) ∈ [(.profile, "auth"), (.router, "service"), (.managers, method)] →
      Owned config link { dest, sender, command, body := .task task }
  | answer {sender : Actor} {ws : WebSocket} : ws.id = link →
      (∀ m, Codec.api.parse ws.body = .ok m → m.isRequest = false) → Owned config link {
        dest := .ws, sender, command := "write", body := .transport (.webSocket ws) }
  | text {dest sender : Actor} {command text : String} :
      Owned config link { dest, sender, command, body := .text text }

/-- A message that tells the manager to disconnect. -/
def Orders (link : String) (e : Envelope Actor) : Prop :=
  ∃ sender ws request, e = {
      dest := .ws, sender, command := "write", body := .transport (.webSocket ws) } ∧ ws.id = link ∧
    Codec.api.ReadsRequest ws.body request ∧ request.metadata.contains "transport" = false

/-- A message that deletes the manager that is registered for a session. -/
def Deletes (link : String) (n : State) (e : Envelope Actor) : Prop :=
  e.dest = .managers ∧ ∃ task, e.body = .task task ∧
    n.services.managers.Ends e.command task link

theorem exact_ownRequest (config : Config) (method : String) :
    (Manager.PlatformService.ownRequest config method).Exact :=
  RequestMessage.exact_iff.mpr ⟨JsonValue.exact_string _,
    JsonValue.exact_map.mpr (JsonMap.exact_nil.set (JsonValue.exact_string _)),
    JsonMap.exact_nil.set (JsonValue.exact_string _)⟩

/-- A request that is read without a session was written without one. -/
theorem unnamed_of_reads {msg request : RequestMessage}
    (hreads : Codec.api.ReadsRequest (msg.serialize Codec.api) request)
    (hnone : request.metadata.contains "transport" = false) (v : JsonValue) :
    msg.metadata.find? "transport" ≠ some v := by
  intro hfind
  obtain rfl := hreads.unique (RequestMessage.reads_serialize msg)
  have hcontains : msg.metadata.reread.contains "transport" = false := hnone
  rw [JsonMap.contains_reread, JsonMap.contains, hfind] at hcontains
  cases hcontains

/-- An answer to the manager itself. -/
theorem owned_answer {sender : Actor} {method : String} {task : Task} {reply : Reply}
    (h : OwnTask config link method task) : Owned config link {
      dest := .ws
      sender
      command := "write"
      body := .transport (.webSocket
        { id := task.transportId, body := (reply.message task.request.id).serialize Codec.api }) } :=
  .answer h.transportId fun _ hparse => (@Reply.parse_message (fun _ _ => True) _ _ _ hparse).1

/-- What is written because of it is no request. -/
theorem Owned.not_request {sender : Actor} {ws : WebSocket} {m : JsonMap}
    (h : Owned config link { dest := .ws, sender, command := "write", body := .transport (.webSocket ws) })
    (hparse : Codec.api.parse ws.body = .ok m) : m.isRequest = false := by
  cases h with
  | answer _ hnot => exact hnot m hparse

section Wired

variable (hn : n.contacts = contacts)
include hn

/-- What the manager asks for is a task of its profile. -/
theorem handle_ownFrame {method : String} (hmethod : method ∈ ["connect", "disconnect"]) :
    handle Codec.api managerKey env n (ownFrame config link method) = .ok (n, [{
      dest := .profile
      sender := .router
      command := "auth"
      body := .task (Router.task (Manager.PlatformService.ownRequest config ("managers." ++ method)) link
        "managers" method) }]) := by
  have hreads := (exact_ownRequest config ("managers." ++ method)).reads_serialize
  have hsplit : split (Manager.PlatformService.ownRequest config ("managers." ++ method)).method =
      ["managers", method] := by
    simp only [List.mem_cons, List.not_mem_nil, or_false] at hmethod
    rcases hmethod with rfl | rfl
    · show split "managers.connect" = _
      decide
    · show split "managers.disconnect" = _
      decide
  exact handle_profileFrame hn hreads rfl hsplit rfl

theorem owned_of_frame {method : String} (hmethod : method ∈ ["connect", "disconnect"])
    (hhandle : handle Codec.api managerKey env n (ownFrame config link method) = .ok (n', out)) :
    ∀ e ∈ out, Owned config link e := by
  rw [handle_ownFrame hn hmethod] at hhandle
  cases hhandle
  intro e he
  rw [List.mem_singleton.mp he]
  refine .task ⟨hmethod, rfl, rfl, Router.stored_task_name, Router.stored_task_method⟩ ?_
  exact List.mem_cons_self

theorem owned_of_auth {sender : Actor} {method : String} {task : Task} (h : OwnTask config link method task)
    (hhandle : handle Codec.api managerKey env n
      { dest := .profile, sender, command := "auth", body := .task task } = .ok (n', out)) :
    ∀ e ∈ out, Owned config link e := by
  have hkey : task.metadataString "profile-key" = .ok config.profileKey := by
    rw [Task.metadataString, h.request]
    rfl
  obtain ⟨first, rest, hsplit⟩ := exists_split config.profileKey
  rw [handle_auth hn hkey hsplit] at hhandle
  have hforwarded : Owned config link {
      dest := .router
      sender := .profile
      command := "service"
      body := .task (task.emplace "profile.login" first) } := by
    refine .task ⟨h.listed, h.request, h.transportId, ?_, ?_⟩ (by simp)
    · rw [Task.stored_emplace_ne (by decide)]
      exact h.serviceName
    · rw [Task.stored_emplace_ne (by decide)]
      exact h.serviceMethod
  dsimp only at hhandle
  intro e he
  split at hhandle
  · cases hhandle
    rw [List.mem_singleton.mp he]
    exact hforwarded
  · split at hhandle
    · cases hhandle
      rw [List.mem_singleton.mp he]
      exact owned_answer h
    · cases hhandle
    · split at hhandle
      · cases hhandle
        rw [List.mem_singleton.mp he]
        exact hforwarded
      · cases hhandle
        rw [List.mem_singleton.mp he]
        exact owned_answer h

theorem owned_of_service {sender : Actor} {method : String} {task : Task}
    (h : OwnTask config link method task)
    (hhandle : handle Codec.api managerKey env n
      { dest := .router, sender, command := "service", body := .task task } = .ok (n', out)) :
    ∀ e ∈ out, Owned config link e := by
  have hmanagers : (contacts .router).lookup "managers" = some .managers := rfl
  have hdispatches : Router.Dispatches ((program Codec.api managerKey).ctx n .router) task .managers := by
    refine ⟨?_, ?_, ?_⟩
    · rw [h.serviceName]
      decide
    · rw [h.serviceName]
      exact lookup_of_wired hn hmanagers
    · rw [h.serviceMethod]
      have hlisted := h.listed
      simp only [List.mem_cons, List.not_mem_nil, or_false] at hlisted
      rcases hlisted with rfl | rfl <;> simp [Program.ctx, Program.messageTypes, Program.reactions,
        program, Managers.handlers, liftAll]
  obtain ⟨task', component, hbody, hrun, -⟩ := Program.task_of_handle
    (h := Router.service Codec.api) (L := Services.unitLens) rfl hhandle
  cases hbody
  rw [Router.service_of_dispatches Codec.api hdispatches] at hrun
  cases hrun
  intro e he
  rw [List.mem_singleton.mp he, h.serviceMethod]
  exact .task h (by simp)

theorem owned_of_managers {sender : Actor} {method : String} {task : Task}
    (h : OwnTask config link method task)
    (hhandle : handle Codec.api managerKey env n
      { dest := .managers, sender, command := method, body := .task task } = .ok (n', out)) :
    ∀ e ∈ out, Owned config link e := by
  have hlisted := h.listed
  intro e he
  simp only [List.mem_cons, List.not_mem_nil, or_false] at hlisted
  rcases hlisted with rfl | rfl
  · obtain ⟨task', managers, hbody, hrun, -⟩ := Program.task_of_handle
      (h := Managers.connect Codec.api) (L := Services.managersLens) rfl hhandle
    cases hbody
    obtain ⟨reply, -, hsend⟩ := Managers.connect_eq_ok.mp hrun
    obtain ⟨dest, hws, rfl⟩ := Ctx.writeTo_eq_ok.mp hsend
    obtain rfl := ws_of_lookup hn hws
    rw [List.mem_singleton.mp he]
    exact owned_answer h
  · obtain ⟨task', managers, hbody, hrun, -⟩ := Program.task_of_handle
      (h := Managers.disconnect) (L := Services.managersLens) rfl hhandle
    cases hbody
    obtain ⟨key, -, hrun⟩ := Except.bind_eq_ok.mp hrun
    cases hrun
    cases he

/-- What comes of what the manager asks for itself is for the manager. -/
theorem Owned.leads (h : Owned config link e)
    (hhandle : handle Codec.api managerKey env n e = .ok (n', out)) : ∀ e' ∈ out, Owned config link e' := by
  have htext (h : ∀ e' ∈ out, ∃ text, e'.body = .text text) : ∀ e' ∈ out, Owned config link e' := by
    rintro ⟨dest, sender, command, body⟩ he'
    obtain ⟨text, rfl⟩ := h _ he'
    exact .text
  cases h with
  | frame hmethod => exact owned_of_frame hn hmethod hhandle
  | task h hdest =>
    simp only [List.mem_cons, Prod.mk.injEq, List.not_mem_nil, or_false] at hdest
    rcases hdest with ⟨rfl, rfl⟩ | ⟨rfl, rfl⟩ | ⟨rfl, rfl⟩
    · exact owned_of_auth hn h hhandle
    · exact owned_of_service hn h hhandle
    · exact owned_of_managers hn h hhandle
  | answer => exact htext (text_of_provider (.inl rfl) hhandle)
  | text => exact htext (text_of_text hhandle)

/-- What is written because of it answers the task of the manager. -/
theorem Owned.answers {sender : Actor} {ws : WebSocket} (h : Owned config link e)
    (hhandle : handle Codec.api managerKey env n e = .ok (n', out))
    (he : { dest := .ws, sender, command := "write", body := .transport (.webSocket ws) } ∈ out) :
    ∃ method task, e.body = .task task ∧ OwnTask config link method task := by
  have htext (h : ∃ text : String, (Body.transport (.webSocket ws) : Body Actor) = .text text) : False := by
    obtain ⟨text, h⟩ := h
    cases h
  cases h with
  | frame hmethod =>
    rw [handle_ownFrame hn hmethod] at hhandle
    cases hhandle
    cases List.mem_singleton.mp he
  | task h => exact ⟨_, _, rfl, h⟩
  | answer => exact (htext (text_of_provider (.inl rfl) hhandle _ he)).elim
  | text => exact (htext (text_of_text hhandle _ he)).elim

/-- A request that is written to the manager names a session, unless the manager is
deleted. -/
theorem deletes_of_orders {ids : Bool → String → Prop} {e' : Envelope Actor}
    (h : Addressed link ids False e) (hhandle : handle Codec.api managerKey env n e = .ok (n', out))
    (he : e' ∈ out) (horders : Orders link e') : Deletes link n e := by
  obtain ⟨sender', ws', request, rfl, hlink, hreads, hnone⟩ := horders
  obtain ⟨m, m', hparse, hrequest, hread⟩ := hreads
  have hreply {reply : Reply} {id : JsonValue} (h : ws'.body = (reply.message id).serialize Codec.api) :
      Deletes link n e := by
    rw [h] at hparse
    exact (Bool.false_ne_true ((@Reply.parse_message (fun _ _ => True) _ _ _ hparse).1.symm.trans hrequest)).elim
  have htext (h : ∃ text : String, (Body.transport (.webSocket ws') : Body Actor) = .text text) :
      Deletes link n e := by
    obtain ⟨text, h⟩ := h
    cases h
  cases h with
  | @frame ws h =>
    obtain ⟨transport, component, hbody, hrun, -⟩ :=
      Program.transport_of_handle (h := Router.dispatcher Codec.api) (L := Services.unitLens) rfl hhandle
    cases hbody
    rcases Router.dispatcher_cases Codec.api hrun with
      ⟨request', -, ⟨reply, hsend⟩ | ⟨name, command, task, -, -, -, hsend⟩⟩ | ⟨message, -, -, hsend⟩
    · obtain ⟨dest, -, rfl⟩ := Ctx.writeTo_eq_ok.mp hsend
      cases List.mem_singleton.mp he
      exact hreply rfl
    · cases (Ctx.of_mem_send hsend he).2
    · exact absurd (Ctx.of_mem_send hsend he).1 (show ("write" : String) ≠ "response" by decide)
  | @task dest sender command task hsorted hid =>
    rcases attends_of_task hhandle with hskip | hattends
    · obtain ⟨-, heq⟩ := Program.of_mem_skip (hskip _ he)
      exact absurd (congrArg Envelope.command heq) (show ("write" : String) ≠ "error" by decide)
    · have hattend := hattends _ he
      generalize heq : (Envelope.mk Actor.ws sender' "write" (.transport (.webSocket ws'))) = e'
        at hattend
      cases hattend with
      | response reply hws =>
        cases heq
        exact hreply rfl
      | forward => cases heq
      | @request server session msg hws hmsg htransport =>
        cases heq
        exact absurd htransport (unnamed_of_reads ⟨m, m', hparse, hrequest, hread⟩ hnone _)
      | disconnect hws hends =>
        cases heq
        obtain ⟨rfl, hends⟩ := hends
        rw [← hlink]
        exact ⟨rfl, task, rfl, hends⟩
      | text => cases heq
  | guest hasks => exact hasks.elim
  | @response id message hsorted hrequest' h =>
    obtain ⟨target, htarget⟩ := target_of_handle hsorted hhandle
    rw [handle_relayed_response hn hsorted htarget] at hhandle
    cases hhandle
    cases List.mem_singleton.mp he
    obtain rfl := Except.ok.inj ((Codec.api_roundTrip _).symm.trans hparse)
    rw [JsonMap.isRequest_reread_erase, hrequest'] at hrequest
    cases hrequest
  | write => exact htext (text_of_provider (.inl rfl) hhandle _ he)
  | text => exact htext (text_of_text hhandle _ he)
  | error =>
    rcases ends_of_error hn hhandle _ he with ⟨-, hne⟩ | htext'
    · exact absurd rfl hne
    · exact htext htext'
  | socket => exact htext (text_of_provider (.inl rfl) hhandle _ he)

end Wired

end Platform

/-! ## Both programs -/

namespace Cloud

open Setup

/-- A message that writes to the session of the manager. -/
def Setup.toLink (S : Setup) (sender : Platform.Actor) (text : String) : Envelope Platform.Actor where
  dest := .ws
  sender := sender
  command := "write"
  body := .transport (.webSocket { id := S.link, body := text })

/-- A message that brings a frame of the platform to the manager. -/
def fromLink (sender : Manager.Actor) (ws : WebSocket) : Envelope Manager.Actor where
  dest := .platform
  sender := sender
  command := "dispatcher"
  body := .transport (.webSocket ws)

/-- No request is sent up for a session that is gone, no frame with an error names the
session of the manager, and the socket of the connection is not broken for good. -/
def Setup.Spares (S : Setup) (s : State) : Packet → Prop
  | .manager _ e =>
    (∀ sender ws, e = Manager.sessionMessage sender ws → IsRequest ws.body → ws.id ∈ s.sessions .manager) ∧
      ∀ sender error, e = { dest := .platform, sender, command := "error", body := .transport (.error error) } →
        error.code ≠ .other
  | .platform _ e => ∀ ws m, e = Platform.frame ws → Codec.api.parse ws.body = .ok m →
      m.isRequest = false → m.contains "error" → (m.get "metadata").stringAt "transport" ≠ .ok S.link
  | _ => True

/-- Why the platform writes to the manager what makes it close: the manager is deleted,
or what it asks for itself is refused. -/
inductive Setup.Reason (S : Setup) (s : State) (e : Envelope Platform.Actor) (text : String) : Prop
  | delete : Platform.Deletes S.link s.platform e → Reason S s e text
  | refusal {method : String} {task : Task} {m : JsonMap} : e.body = .task task →
      Platform.OwnTask S.config S.link method task → Codec.api.parse text = .ok m →
      m.isRequest = false → m.contains "error" → Reason S s e text

/-- The platform had a reason to write the text to the manager, and wrote it. -/
def Setup.Called (S : Setup) (guard : Env → State → Packet → Prop) (c c' : Work.Config State Packet)
    (text : String) : Prop :=
  ∃ env s asker e out sender, Work.Caused S.handle S.Arrives guard c c' env s (.platform asker e) out ∧
    .platform asker (S.toLink sender text) ∈ out ∧ S.Reason s e text

/-- In every run, the manager closes its connection only for a frame that the platform
had a reason to write. -/
def Setup.StaysUp (S : Setup) (guard : Env → State → Packet → Prop) (s₀ : State) : Prop :=
  ∀ env s s' p q packet out,
    Work.Run S.handle S.Arrives guard ⟨s₀, []⟩ ⟨s, p ++ packet :: q⟩ → guard env s packet →
    S.handle env s packet = .ok (s', out) → (∃ asker e, .manager asker e ∈ out ∧ Manager.Closes e) →
    ∃ asker sender ws, packet = .manager asker (fromLink sender ws) ∧
      S.Called guard ⟨s₀, []⟩ ⟨s, p ++ packet :: q⟩ ws.body

/-- A frame with an error does not go to the manager. -/
def Setup.besides (S : Setup) (error : Bool) (id : String) : Prop := error → id ≠ S.link

/-- A message of the platform comes of what the manager asks for itself, or is
addressed to others, or is a frame. -/
def Setup.Known (S : Setup) (e : Envelope Platform.Actor) : Prop :=
  Platform.Owned S.config S.link e ∨ Platform.Addressed S.link S.besides False e ∨
    ∃ ws, e = Platform.frame ws ∧ (IsRequest ws.body → ws.id ≠ S.link)

/-- Only requests that have a session are on their way up, and there was a reason for
whatever makes the manager close. -/
def Setup.Accounted (S : Setup) (guard : Env → State → Packet → Prop) (c c' : Work.Config State Packet) :
    Packet → Prop
  | .manager _ e =>
    (∀ sender ws, e = { dest := .platform, sender, command := "write", body := .transport (.webSocket ws) } →
      ¬ IsRequest ws.body) ∧
    ∀ sender ws, e = fromLink sender ws → Manager.PlatformService.Dismisses Codec.api ws →
      S.Called guard c c' ws.body
  | .platform _ e => S.Known e ∧ ∀ sender text, e = S.toLink sender text →
      Manager.PlatformService.Dismisses Codec.api { id := S.client, body := text } →
      S.Called guard c c' text
  | _ => True

variable {S : Setup} {guard : Env → State → Packet → Prop} {c c₁ c₂ : Work.Config State Packet}
  {s s' : State} {env : Env} {out : List Packet}

theorem Setup.Called.trans {text : String} (h : S.Called guard c c₁ text)
    (hrun : Work.Run S.handle S.Arrives guard c₁ c₂) : S.Called guard c c₂ text := by
  obtain ⟨env, s, asker, e, out, sender, hcaused, hwritten, hreason⟩ := h
  exact ⟨env, s, asker, e, out, sender, hcaused.trans hrun, hwritten, hreason⟩

theorem Setup.Accounted.trans {packet : Packet} (h : S.Accounted guard c c₁ packet)
    (hrun : Work.Run S.handle S.Arrives guard c₁ c₂) : S.Accounted guard c c₂ packet := by
  cases packet with
  | manager asker e =>
    obtain ⟨hup, hdown⟩ := h
    exact ⟨hup, fun sender ws heq hdismisses => (hdown sender ws heq hdismisses).trans hrun⟩
  | platform asker e =>
    obtain ⟨hknown, hwrite⟩ := h
    exact ⟨hknown, fun sender text heq hdismisses => (hwrite sender text heq hdismisses).trans hrun⟩
  | _ => trivial

/-- Nothing is to be said of a message of the manager that is not for its `platform`
service to write or to read. -/
theorem Setup.accounted_of_other {asker : Option Asker} {e : Envelope Manager.Actor}
    (h : e.dest = .platform → e.command ≠ "write" ∧ e.command ≠ "dispatcher") :
    S.Accounted guard c c₁ (.manager asker e) := by
  constructor
  · rintro sender ws rfl
    exact absurd rfl (h rfl).1
  · rintro sender ws rfl
    exact absurd rfl (h rfl).2

/-- A message of the platform that is not written to a session. -/
theorem Setup.accounted_of_known {asker : Option Asker} {e : Envelope Platform.Actor} (h : S.Known e)
    (hdest : e.dest ≠ .ws) : S.Accounted guard c c₁ (.platform asker e) := by
  refine ⟨h, ?_⟩
  rintro sender text rfl
  exact absurd rfl hdest

/-- Whatever arrives is accounted for. -/
theorem Setup.Accounted.of_arrives {packet : Packet} (h : S.Arrives packet) :
    S.Accounted guard c c₁ packet := by
  have hrouter {asker : Option Asker} {ws : WebSocket} :
      S.Accounted guard c c₁ (.manager asker (Manager.frame ws)) := by
    apply accounted_of_other
    intro hdest
    cases hdest
  have hframe {asker : Option Asker} {ws : WebSocket} (h : IsRequest ws.body → ws.id ≠ S.link) :
      S.Accounted guard c c₁ (.platform asker (Platform.frame ws)) := by
    apply accounted_of_known (.inr (.inr ⟨ws, rfl, h⟩))
    intro hdest
    cases hdest
  cases h with
  | opened => trivial
  | closed => trivial
  | @request listener ws m hid =>
    cases listener with
    | manager => exact hrouter
    | platform =>
      apply hframe
      rintro - hlink
      exact S.link_notMem (hlink ▸ hid)
  | response => exact hrouter
  | @frame listener ws hid hnot =>
    cases listener with
    | manager => exact hrouter
    | platform =>
      apply hframe
      rintro ⟨m, hparse, hrequest⟩
      rw [hnot m hparse] at hrequest
      cases hrequest
  | managerError =>
    apply accounted_of_other
    intro hdest
    cases hdest
  | platformError =>
    apply accounted_of_known (.inr (.inl .error))
    intro hdest
    cases hdest
  | linkError =>
    have hne : ("error" : String) ≠ "write" ∧ ("error" : String) ≠ "dispatcher" := by decide
    exact accounted_of_other fun _ => hne
  | handshake =>
    have hne : ("handshake" : String) ≠ "write" ∧ ("handshake" : String) ≠ "dispatcher" := by decide
    exact accounted_of_other fun _ => hne
  | closing =>
    have hmethod : "disconnect" ∈ ["connect", "disconnect"] := by decide
    apply accounted_of_known (.inl (.frame hmethod))
    intro hdest
    cases hdest

/-- What the manager makes of a message is accounted for. -/
theorem Setup.Accounted.manager {asker : Option Asker} {e : Envelope Manager.Actor} {n : Manager.State}
    {sent : List (Envelope Manager.Actor)} (hs : Wired s) (h : S.Accounted guard c c₁ (.manager asker e))
    (hspares : S.Spares s (.manager asker e))
    (hrun : Manager.handle Codec.api S.config (s.env .manager env) s.manager e = .ok (n, sent)) :
    ∀ packet ∈ sent.map (S.fromManager asker) ++ writtenByManager s asker e,
      S.Accounted guard c c₂ packet := by
  have hdispatches : ("dispatcher" : String) ≠ "write" := by decide
  intro packet hpacket
  rcases List.mem_append.mp hpacket with hpacket | hpacket
  · obtain ⟨e', he', rfl⟩ := List.mem_map.mp hpacket
    rcases fromManager_cases S asker e' with heq | ⟨ws, hdest, hcommand, hbody, heq⟩ <;> rw [heq]
    · -- a message inside the manager
      constructor
      · rintro sender ws rfl
        rcases Manager.of_pipeMessage hs.manager hrun he' rfl with
          ⟨sender', ws', rfl, hclosed, hpipe⟩ | ⟨text, htext⟩
        · cases hpipe
          intro hrequest
          have hopen := hspares.1 sender' ws rfl hrequest
          exact absurd hopen (of_decide_eq_false hclosed)
        · cases htext
      · rintro sender ws rfl
        rcases Manager.of_pipeMessage hs.manager hrun he' rfl with
          ⟨_, _, -, -, hpipe⟩ | ⟨text, htext⟩
        · exact absurd (congrArg Envelope.command hpipe) hdispatches
        · cases htext
    · -- a frame for the platform
      rcases Manager.of_platformMessage hs.manager hrun he' hdest hcommand hbody with
        hown | ⟨sender, ws', hup, rfl⟩
      · have hmethod : "connect" ∈ ["connect", "disconnect"] := by decide
        have hknown : S.Known (Platform.ownFrame S.config S.link "connect") := .inl (.frame hmethod)
        rw [hown]
        apply accounted_of_known hknown
        intro hdest
        cases hdest
      · apply accounted_of_known (.inr (.inr ⟨_, rfl, ?_⟩))
        · intro hdest
          cases hdest
        · intro hrequest
          exact absurd (hup hrequest) (h.1 sender ws' rfl)
  · obtain ⟨ws, -, -, -, -, rfl⟩ := mem_writtenByManager hpacket
    trivial

/-- A message of the platform that is handled comes of what the manager asks for
itself, or is addressed to others. -/
theorem Setup.Known.owned_or_addressed {asker : Option Asker} {e : Envelope Platform.Actor} (h : S.Known e)
    (hspares : S.Spares s (.platform asker e)) :
    Platform.Owned S.config S.link e ∨ Platform.Addressed S.link S.besides False e := by
  rcases h with howned | haddressed | ⟨ws, rfl, hrequest⟩
  · exact .inl howned
  · exact .inr haddressed
  · refine .inr (.frame fun m hparse => ⟨fun hm => .inl ?_, fun hnot id hid herror hlink => ?_⟩)
    · intro error herror
      exact hrequest ⟨m, hparse, hm⟩
    · exact hspares ws m rfl hparse hnot herror (hlink ▸ hid)

/-- The platform has a reason for what it writes to the manager that makes it close. -/
theorem Setup.reason_of_written {e : Envelope Platform.Actor} {n : Platform.State}
    {sent : List (Envelope Platform.Actor)} {sender : Platform.Actor} {text : String} (hs : Wired s)
    (h : Platform.Owned S.config S.link e ∨ Platform.Addressed S.link S.besides False e)
    (hrun : Platform.handle Codec.api S.managerKey (s.env .platform env) s.platform e = .ok (n, sent))
    (he : S.toLink sender text ∈ sent)
    (hdismisses : Manager.PlatformService.Dismisses Codec.api { id := S.client, body := text }) :
    S.Reason s e text := by
  rcases h with howned | haddressed
  · obtain ⟨method, task, hbody, htask⟩ := howned.answers hs.platform hrun he
    cases hdismisses with
    | disconnect hreads =>
      -- nothing that comes of the manager's own task is a request
      obtain ⟨m, m', hparse, hrequest, -⟩ := hreads
      exact absurd hrequest (by simp [Platform.Owned.not_request (howned.leads hs.platform hrun _ he) hparse])
    | error hparse hrequest herror => exact .refusal hbody htask hparse hrequest herror
  · cases hdismisses with
    | disconnect hreads hnone =>
      have horders : Platform.Orders S.link (S.toLink sender text) := ⟨sender, _, _, rfl, rfl, hreads, hnone⟩
      exact .delete (Platform.deletes_of_orders hs.platform haddressed hrun he horders)
    | @error m hparse hrequest herror =>
      have hwritten := ((haddressed.leads hs.platform hrun _ he).written rfl rfl rfl m hparse).2 hrequest
      rcases hwritten with hlink | ⟨hasks, -⟩
      · exact absurd rfl (hlink herror)
      · exact hasks.elim

/-- What the platform makes of a message is accounted for. -/
theorem Setup.Accounted.platform {asker : Option Asker} {e : Envelope Platform.Actor} {n : Platform.State}
    {sent : List (Envelope Platform.Actor)} {p q : List Packet} (hs : Wired s)
    (hbefore : Work.Run S.handle S.Arrives guard c ⟨s, p ++ .platform asker e :: q⟩)
    (h : S.Accounted guard c ⟨s, p ++ .platform asker e :: q⟩ (.platform asker e))
    (hguard : guard env s (.platform asker e)) (hspares : S.Spares s (.platform asker e))
    (hrun : Platform.handle Codec.api S.managerKey (s.env .platform env) s.platform e = .ok (n, sent)) :
    ∀ packet ∈ sent.map (.platform asker) ++ S.writtenByPlatform s asker e, S.Accounted guard c
      ⟨{ s with platform := n }, p ++ q ++ (sent.map (.platform asker) ++ S.writtenByPlatform s asker e)⟩
      packet := by
  have hknown := h.1.owned_or_addressed hspares
  have hhandle : S.handle env s (.platform asker e) = _ := handle_platform hrun
  have hdispatches : ("dispatcher" : String) ≠ "write" := by decide
  intro packet hpacket
  rcases List.mem_append.mp hpacket with hsent | hwritten
  · obtain ⟨e', he', rfl⟩ := List.mem_map.mp hsent
    constructor
    · rcases hknown with howned | haddressed
      · exact .inl (howned.leads hs.platform hrun e' he')
      · exact .inr (.inl (haddressed.leads hs.platform hrun e' he'))
    · rintro sender text rfl hdismisses
      have hreason := reason_of_written hs hknown hrun he' hdismisses
      have hcaused : Work.Caused S.handle S.Arrives guard c _ env s (.platform asker e) _ :=
        ⟨_, p, q, hbefore, hguard, hhandle, .refl _⟩
      exact ⟨env, s, asker, e, _, sender, hcaused, hpacket, hreason⟩
  · obtain ⟨ws, hdest, hcommand, hbody, ⟨hlink, rfl⟩ | ⟨-, -, rfl⟩⟩ := mem_writtenByPlatform hwritten
    · -- the frame that was written comes to the manager
      constructor
      · intro sender ws' heq
        exact absurd (congrArg Envelope.command heq) hdispatches
      · intro sender ws' heq hdismisses
        obtain ⟨dest, sender', command, body⟩ := e
        dsimp only at hdest hcommand hbody
        subst hdest hcommand hbody
        obtain ⟨id, text⟩ := ws
        dsimp only at hlink
        subst hlink
        cases heq
        exact (h.2 sender' text rfl hdismisses).trans (.handle (.refl _) hguard hhandle)
    · trivial

/-- In every run whose steps spare the connection, everything that is on its way is
accounted for. -/
theorem Setup.accounted_of_run {s₀ : State} (h₀ : Initial s₀)
    (hrun : Work.Run S.handle S.Arrives (fun _ => S.Spares) ⟨s₀, []⟩ c) :
    Wired c.state ∧ ∀ packet ∈ c.pending,
      S.Accounted (fun _ => S.Spares) ⟨s₀, []⟩ c packet ∧ packet.Plain := by
  refine hrun.traced Wired
    (fun c' packet => S.Accounted (fun _ => S.Spares) ⟨s₀, []⟩ c' packet ∧ packet.Plain) ?_ h₀.wired ?_ ?_ ?_
  · exact fun c₁ c₂ packet hrun h => ⟨h.1.trans hrun, h.2⟩
  · exact List.forall_mem_nil _
  · exact fun s pending packet _ harrives => ⟨.of_arrives harrives, harrives.plain⟩
  · intro env s s' p q out packet hbefore hs h hspares hhandle
    obtain ⟨hwired, hplain⟩ := handle_plain hs h.2 hhandle
    refine ⟨hwired, fun packet' hpacket => ⟨?_, hplain packet' hpacket⟩⟩
    cases handled_of_eq_ok hhandle with
    | manager hmanager => exact h.1.manager hs hspares hmanager packet' hpacket
    | platform hplatform => exact Setup.Accounted.platform hs hbefore h.1 hspares hspares hplatform packet' hpacket
    | opened => cases hpacket
    | closed => cases hpacket

/-- The connection stays up in every run whose steps spare it. -/
theorem link_stays_up (S : Setup) {s₀ : State} (h₀ : Initial s₀) : S.StaysUp (fun _ => S.Spares) s₀ := by
  rintro env s s' p q packet out hrun hspares hhandle ⟨asker, e', he', hcloses⟩
  obtain ⟨hwired, haccounted⟩ := accounted_of_run h₀ hrun
  have hpacket := (haccounted packet (by simp)).1
  cases handled_of_eq_ok hhandle with
  | @manager asker' e n sent hmanager =>
    have hsent : e' ∈ sent := by
      rcases List.mem_append.mp he' with hmem | hmem
      · obtain ⟨e'', he'', heq⟩ := List.mem_map.mp hmem
        rcases fromManager_cases S asker' e'' with hsame | ⟨ws, -, -, -, hup⟩
        · rw [hsame] at heq
          cases heq
          exact he''
        · rw [hup] at heq
          cases heq
      · obtain ⟨ws, -, -, -, -, heq⟩ := mem_writtenByManager hmem
        cases heq
    rcases Manager.of_closes hwired.manager hmanager hsent hcloses with
      ⟨sender, ws, hdismisses, rfl⟩ | ⟨sender, error, hlasting, rfl⟩
    · exact ⟨asker', sender, ws, rfl, hpacket.2 sender ws rfl hdismisses⟩
    · exact absurd hlasting (hspares.2 sender error rfl)
  | platform hplatform =>
    -- what the platform writes to the manager is no order to its client
    rcases List.mem_append.mp he' with hmem | hmem
    · obtain ⟨_, -, heq⟩ := List.mem_map.mp hmem
      cases heq
    · obtain ⟨ws, -, -, -, ⟨-, heq⟩ | ⟨-, -, heq⟩⟩ := mem_writtenByPlatform hmem
      · cases heq
        cases hcloses.1
      · cases heq
  | opened => cases he'
  | closed => cases he'

/-- A frame of the platform that is no request and has an error closes the connection. -/
theorem Setup.handle_refusal {asker : Option Asker} {ws : WebSocket} {m : JsonMap} (hs : Wired s)
    (hparse : Codec.api.parse ws.body = .ok m) (hrequest : m.isRequest = false)
    (herror : m.contains "error") :
    S.handle env s (.manager asker (Manager.platformFrame ws)) = .ok (s, [.manager asker Manager.closeMessage]) :=
  handle_manager (Manager.handle_refusal hs.manager hparse hrequest herror)

/-- What the platform writes to the manager comes to its `platform` service. -/
theorem Setup.handle_toLink {asker : Option Asker} {sender : Platform.Actor} {text : String} :
    S.handle env s (.platform asker (S.toLink sender text)) =
      .ok (s, [.manager asker (Manager.platformFrame { id := S.client, body := text })]) := by
  have hwritten : S.writtenByPlatform s asker (S.toLink sender text) =
      [.manager asker (Manager.platformFrame { id := S.client, body := text })] := if_pos rfl
  have hhandle : S.handle env s (.platform asker (S.toLink sender text)) = _ :=
    handle_platform Platform.handle_write
  rw [hhandle, hwritten]
  rfl

/-- A manager that is connected, and one session of the platform. -/
def oneLink : Setup where
  config := ⟨"p.q", "m"⟩
  managerKey := ""
  link := "1700000000000003"
  client := "1700000000000000"
  ids := fun _ => {"1700000000000002"}
  link_notMem := by decide

def noSessions : State := ⟨Manager.blank, Platform.blank, fun _ => []⟩

theorem noSessions_initial : Initial noSessions :=
  ⟨Manager.blank_initial, Platform.blank_initial, fun _ => rfl⟩

/-- What the platform writes when it does not know the profile of the manager. -/
def refusal : WebSocket where
  id := oneLink.client
  body := ((Reply.failed "authentication bad").message (.string "0")).serialize Codec.api

/-- The task in which the manager connects. -/
def connectTask : Task :=
  Platform.Router.task (Manager.PlatformService.ownRequest oneLink.config "managers.connect") oneLink.link
    "managers" "connect"

theorem refusal_run : Work.Run oneLink.handle oneLink.Arrives (fun _ => oneLink.Spares) ⟨noSessions, []⟩
    ⟨noSessions, [.manager (some .own) (Manager.platformFrame refusal)]⟩ := by
  have hn : noSessions.platform.contacts = Platform.contacts := rfl
  have hmethod : "connect" ∈ ["connect", "disconnect"] := by decide
  have hpieces : split "p.q" = ["p", "q"] := by decide
  have hother {e : Envelope Platform.Actor} (hdest : e.dest ≠ .router) :
      oneLink.Spares noSessions (.platform (some .own) e) := by
    rintro ws m rfl
    exact absurd rfl hdest
  let handshake : Envelope Manager.Actor := {
    dest := .platform
    sender := .platform
    command := "handshake"
    body := .transport (.webSocket refusal) }
  have hhandshake : Manager.handle Codec.api oneLink.config (noSessions.env .manager .calm) noSessions.manager
      handshake = .ok (noSessions.manager, [Manager.platformMessage { id := oneLink.client, body :=
        (Manager.PlatformService.ownRequest oneLink.config "managers.connect").serialize Codec.api }]) := rfl
  let asks : Envelope Platform.Actor := {
    dest := .profile
    sender := .router
    command := "auth"
    body := .task connectTask }
  have hauth : Platform.handle Codec.api oneLink.managerKey (noSessions.env .platform .calm) noSessions.platform
      asks = .ok (noSessions.platform, [oneLink.toLink .profile refusal.body]) :=
    (Platform.handle_auth hn rfl hpieces).trans rfl
  have harrived : Work.Run oneLink.handle oneLink.Arrives (fun _ => oneLink.Spares) ⟨noSessions, []⟩
      ⟨noSessions, [.manager (some .own) handshake]⟩ := (Work.Run.refl _).arrive (.handshake refusal)
  have hasked : Work.Run oneLink.handle oneLink.Arrives (fun _ => oneLink.Spares) ⟨noSessions, []⟩
      ⟨noSessions, [.platform (some .own) (Platform.ownFrame oneLink.config oneLink.link "connect")]⟩ := by
    have herror : ("handshake" : String) ≠ "error" := by decide
    refine harrived.handle_single .calm ⟨?_, ?_⟩ (handle_manager hhandshake)
    · intro sender ws heq
      cases congrArg Envelope.dest heq
    · intro sender error heq
      exact absurd (congrArg Envelope.command heq) herror
  have htask : Work.Run oneLink.handle oneLink.Arrives (fun _ => oneLink.Spares) ⟨noSessions, []⟩
      ⟨noSessions, [.platform (some .own) asks]⟩ := by
    refine hasked.handle_single .calm ?_ (handle_platform (Platform.handle_ownFrame hn hmethod))
    -- the frame is a request
    intro ws m heq hparse hnot
    cases heq
    rw [(RequestMessage.parse_serialize hparse).1] at hnot
    cases hnot
  have hdest : asks.dest ≠ .router := by
    intro hdest
    cases hdest
  have hrefused : Work.Run oneLink.handle oneLink.Arrives (fun _ => oneLink.Spares) ⟨noSessions, []⟩
      ⟨noSessions, [.platform (some .own) (oneLink.toLink .profile refusal.body)]⟩ :=
    htask.handle_single .calm (hother hdest) (handle_platform hauth)
  exact hrefused.handle_single .calm (hother (by decide)) Setup.handle_toLink

/-- The manager connects, is refused, and closes its connection. -/
theorem link_stays_up_refused : oneLink.Called (fun _ => oneLink.Spares) ⟨noSessions, []⟩
    ⟨noSessions, [.manager (some .own) (Manager.platformFrame refusal)]⟩ refusal.body := by
  have hspares : oneLink.Spares noSessions (.manager (some .own) (Manager.platformFrame refusal)) := by
    have herror : ("dispatcher" : String) ≠ "error" := by decide
    constructor
    · intro sender ws heq
      cases heq
    · intro sender error heq
      exact absurd (congrArg Envelope.command heq) herror
  have hclose : oneLink.handle .calm noSessions (.manager (some .own) (Manager.platformFrame refusal)) = _ :=
    Setup.handle_refusal noSessions_initial.wired (Codec.api_roundTrip _) rfl rfl
  obtain ⟨asker, sender, ws, heq, hcalled⟩ := link_stays_up oneLink noSessions_initial .calm noSessions _ [] []
    _ _ refusal_run hspares hclose ⟨_, Manager.closeMessage, List.mem_cons_self, rfl, rfl⟩
  cases heq
  exact hcalled

/-! ## A frame that names the session of the manager -/

/-- A frame of a session that is no request and names the session of the manager is
written to the manager. -/
theorem Setup.reaches_link {c : Work.Config State Packet} {ws : WebSocket} {m : JsonMap} (hs : Wired s)
    (hid : ws.id ∈ S.ids .platform) (hparse : Codec.api.parse ws.body = .ok m)
    (hrequest : m.isRequest = false) (hnamed : (m.get "metadata").stringAt "transport" = .ok S.link)
    (hrun : Work.Run S.handle S.Arrives (fun _ _ _ => True) c ⟨s, []⟩) :
    Work.Run S.handle S.Arrives (fun _ _ _ => True) c ⟨s, [.manager none (Manager.platformFrame
      { id := S.client, body := Codec.api.print (m.reread.erase "metadata") })]⟩ := by
  have harrives : S.Arrives (received .platform none ws) := by
    refine .frame hid fun m' hm' => ?_
    obtain rfl : m = m' := Except.ok.inj (hparse.symm.trans hm')
    exact hrequest
  have harrived : Work.Run S.handle S.Arrives (fun _ _ _ => True) c
      ⟨s, [.platform none (Platform.frame ws)]⟩ := hrun.arrive harrives
  have hhanded : Work.Run S.handle S.Arrives (fun _ _ _ => True) c
      ⟨s, [.platform none (Platform.relayed ws.id m)]⟩ :=
    harrived.handle_single .calm trivial (handle_platform (Platform.handle_handedOn hs.platform hparse hrequest))
  have hanswered : Work.Run S.handle S.Arrives (fun _ _ _ => True) c
      ⟨s, [.platform none (S.toLink .managers (Codec.api.print (m.reread.erase "metadata")))]⟩ :=
    hhanded.handle_single .calm trivial (handle_platform
      (Platform.handle_relayed_response hs.platform (Codec.api_sorted hparse) hnamed))
  exact hanswered.handle_single .calm trivial handle_toLink

/-- A text that the platform has a reason for is one of a request, or has a result. -/
theorem Setup.not_called {c c' : Work.Config State Packet} {text : String} {m : JsonMap}
    (hparse : Codec.api.parse text = .ok m) (hrequest : m.isRequest = false)
    (hresult : m.contains "result" = false) : ¬ S.Called guard c c' text := by
  rintro ⟨env, s, asker, e, out, sender, ⟨s', p, q, -, -, hhandle, -⟩, hwritten, hreason⟩
  obtain ⟨task, hbody⟩ : ∃ task, e.body = .task task := by
    cases hreason with
    | delete hdeletes =>
      obtain ⟨-, task, hbody, -⟩ := hdeletes
      exact ⟨task, hbody⟩
    | refusal hbody => exact ⟨_, hbody⟩
  obtain ⟨dest, sender', command, body⟩ := e
  dsimp only at hbody
  subst hbody
  have hwrites {msg : RequestMessage} (h : text = msg.serialize Codec.api) : False := by
    rw [h] at hparse
    exact Bool.false_ne_true (hrequest.symm.trans (RequestMessage.parse_serialize hparse).1)
  have hreplies {reply : Reply} {id : JsonValue} (h : text = (reply.message id).serialize Codec.api) :
      False := by
    rw [h] at hparse
    obtain rfl := Except.ok.inj ((Codec.api_roundTrip _).symm.trans hparse)
    rw [JsonMap.contains_reread, JsonMap.contains, ResponseMessage.find?_toMap_result] at hresult
    cases hresult
  cases handled_of_eq_ok hhandle with
  | @platform _ _ n sent hrun =>
    have hsent : S.toLink sender text ∈ sent := by
      rcases List.mem_append.mp hwritten with hmem | hmem
      · obtain ⟨e', he', heq⟩ := List.mem_map.mp hmem
        cases heq
        exact he'
      · obtain ⟨ws, -, -, -, ⟨-, heq⟩ | ⟨-, -, heq⟩⟩ := mem_writtenByPlatform hmem <;> cases heq
    rcases Platform.attends_of_task hrun with hskip | hattends
    · obtain ⟨-, heq⟩ := Program.of_mem_skip (hskip _ hsent)
      cases congrArg Envelope.body heq
    · have hattend := hattends _ hsent
      generalize heq : S.toLink sender text = e' at hattend
      cases hattend with
      | response reply =>
        have hbody := congrArg Envelope.body heq
        exact hreplies (congrArg WebSocket.body (Transport.webSocket.inj (Body.transport.inj hbody)))
      | forward => cases congrArg Envelope.body heq
      | request =>
        have hbody := congrArg Envelope.body heq
        exact hwrites (congrArg WebSocket.body (Transport.webSocket.inj (Body.transport.inj hbody)))
      | disconnect =>
        have hbody := congrArg Envelope.body heq
        exact hwrites (congrArg WebSocket.body (Transport.webSocket.inj (Body.transport.inj hbody)))
      | text => cases congrArg Envelope.body heq

/-- A response with an error for the session of the manager. -/
def forged : JsonMap :=
  [("error", .string "gone"), ("id", .integer 1), ("jsonrpc", .string "2.0"),
    ("metadata", .map [("transport", .string oneLink.link)])]

/-- Whoever has a session of the platform closes the connection of the manager. -/
theorem forged_closes_link :
    ¬ ∀ (S : Setup) (s₀ : State), Initial s₀ → S.StaysUp (fun _ _ _ => True) s₀ := by
  intro h
  have hexact : forged.Exact := rfl
  have hcut : JsonMap.Exact (forged.erase "metadata") := rfl
  let ws : WebSocket := { id := oneLink.client, body := Codec.api.print (forged.reread.erase "metadata") }
  have hparse : Codec.api.parse ws.body = .ok (forged.erase "metadata") := hcut.parse
  have hrun : Work.Run oneLink.handle oneLink.Arrives (fun _ _ _ => True) ⟨noSessions, []⟩ _ :=
    @Setup.reaches_link oneLink noSessions _ ⟨"1700000000000002", Codec.api.print forged⟩ forged
      noSessions_initial.wired rfl hexact.parse rfl rfl (.refl _)
  have hclose : oneLink.handle .calm noSessions (.manager none (Manager.platformFrame ws)) = _ :=
    Setup.handle_refusal noSessions_initial.wired hparse rfl rfl
  obtain ⟨asker, sender, ws', heq, hcalled⟩ := h oneLink noSessions noSessions_initial .calm noSessions _ [] []
    _ _ hrun trivial hclose ⟨none, Manager.closeMessage, List.mem_cons_self, rfl, rfl⟩
  cases heq
  exact Setup.not_called hparse rfl rfl hcalled

end Cloud

end StreamCloud
