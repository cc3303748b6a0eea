-- SUMMARY: Which handlers settle every request exactly once, and which ones never do.
import StreamCloud.Manager.Flow
import StreamCloud.Platform.Flow
import StreamCloud.Device.Flow
import StreamCloud.Api.JsonSorted

/-!
# Answers

A request is settled by its response, or by giving it to somebody else: to
another actor as a task, or to a device or a manager as a frame that names the
session of the one who asked.
-/

namespace StreamCloud

variable {α σ : Type}

/-! ## Texts -/

/-- A printed object is not empty. -/
theorem Codec.api_print_ne (m : JsonMap) : Codec.api.print m ≠ "" := by
  intro h
  have hlist := congrArg String.toList h
  simp [Codec.api, JsonText.print] at hlist

/-! ## Settled requests -/

/-- The response to a task, as the session gets it that the task came from. -/
def responseTo (task : Task) (reply : Reply) : WebSocket where
  id := task.transportId
  body := (reply.message task.request.id).serialize Codec.api

/-- The notes of a task that authentication makes. -/
def authNotes : List String := ["profile.login", "user.login", "user.admin"]

/-- What becomes of a task that a handler gives to a contact, under a command. It is the
task itself, but for the notes of authentication; for the groups of a device, which the
metadata holds on the way to the subscriptions service only; and for the groups of a
user, which stand in place of the params on the way to `connections.groups`. -/
inductive Forwards (task : Task) : String → String → Task → Prop
  | same (name command : String) : Forwards task name command task
  | noted {task' : Task} : task'.request = task.request → task'.transportId = task.transportId →
      (∀ note ∉ authNotes, task'.stored note = task.stored note) →
      Forwards task "router" "service" task'
  | deviceGroups (command : String) (groups : List String) : Forwards task "subscriptions" command
      (task.setMetadata "device-groups" (.array (groups.map .string)))
  | noGroups : Forwards task "devices" "request" (task.eraseMetadata "device-groups")
  | userGroups (groups : List String) : Forwards task "connections" "groups"
      (task.setParams (.array (groups.map .string)))

/-- A message that settles a task: the response to its session, the task for
another actor, or a frame that hands the request on to another session. -/
inductive Settles (ctx : Ctx α) (handsOn : String → RequestMessage → Prop) (task : Task)
    (e : Envelope α) : Prop
  | response (reply : Reply) : ctx.contacts.lookup "ws" = some e.dest → e.command = "write" →
      e.body = .transport (.webSocket (responseTo task reply)) → Settles ctx handsOn task e
  | forward (name : String) (task' : Task) : ctx.contacts.lookup name = some e.dest →
      e.dest ≠ ctx.self → e.body = .task task' → Forwards task name e.command task' →
      Settles ctx handsOn task e
  | relay (session : String) (msg : RequestMessage) : ctx.contacts.lookup "ws" = some e.dest →
      e.command = "write" → handsOn session msg →
      e.body = .transport (.webSocket { id := session, body := msg.serialize Codec.api }) →
      Settles ctx handsOn task e

/-- A message on the side. It has no task, and its frame, if it has one, is read as a
request without metadata: it is neither empty nor an answer, to whomever it goes. -/
structure Aside (e : Envelope α) : Prop where
  noTask (task : Task) : e.body ≠ .task task
  request (ws : WebSocket) : e.body = .transport (.webSocket ws) →
    ∃ msg, Codec.api.ReadsRequest ws.body msg ∧ msg.metadata = []

/-- Exactly one of the messages settles the task. It is not an empty frame, and
the others are on the side. -/
def SettledOnce (ctx : Ctx α) (handsOn : String → RequestMessage → Prop) (task : Task)
    (out : List (Envelope α)) : Prop :=
  ∃ before e after, out = before ++ e :: after ∧ Settles ctx handsOn task e ∧
    (∀ ws, e.body = .transport (.webSocket ws) → ws.body ≠ "") ∧
    ∀ e' ∈ before ++ after, Aside e' ∧ ¬ Settles ctx handsOn task e'

variable {ctx : Ctx α} {handsOn : String → RequestMessage → Prop} {task : Task}

/-! ### Forwarded tasks -/

namespace Forwards

variable {name command : String} {task' : Task} (h : Forwards task name command task')
include h

theorem id : task'.request.id = task.request.id := by
  cases h with
  | noted hrequest => rw [hrequest]
  | _ => rfl

theorem method : task'.request.method = task.request.method := by
  cases h with
  | noted hrequest => rw [hrequest]
  | _ => rfl

theorem transportId : task'.transportId = task.transportId := by
  cases h with
  | noted _ htransport => exact htransport
  | _ => rfl

/-- Only the groups of a user stand in place of the params. -/
theorem params (hname : ¬ (name = "connections" ∧ command = "groups")) :
    task'.request.params = task.request.params := by
  cases h with
  | noted hrequest => rw [hrequest]
  | userGroups => exact absurd ⟨rfl, rfl⟩ hname
  | _ => rfl

theorem metadata {key : String} (hkey : key ≠ "device-groups") :
    task'.request.metadata.find? key = task.request.metadata.find? key := by
  cases h with
  | noted hrequest => rw [hrequest]
  | deviceGroups => exact JsonMap.find?_set_of_ne hkey
  | noGroups => exact JsonMap.find?_erase_of_ne hkey
  | _ => rfl

end Forwards

/-! ### Messages that settle, and others -/

theorem Settles.nonempty {e : Envelope α} (h : Settles ctx handsOn task e) (ws : WebSocket)
    (hbody : e.body = .transport (.webSocket ws)) : ws.body ≠ "" := by
  cases h with
  | response reply _ _ hresponse =>
    rw [hbody] at hresponse
    cases hresponse
    exact Codec.api_print_ne _
  | forward _ task' _ _ hforward =>
    rw [hbody] at hforward
    cases hforward
  | relay session msg _ _ _ hrelay =>
    rw [hbody] at hrelay
    cases hrelay
    exact Codec.api_print_ne _

theorem Settles.once {e : Envelope α} (h : Settles ctx handsOn task e) {before : List (Envelope α)}
    (hbefore : ∀ e' ∈ before, Aside e' ∧ ¬ Settles ctx handsOn task e') :
    SettledOnce ctx handsOn task (before ++ [e]) :=
  ⟨before, e, [], rfl, h, h.nonempty, by simpa using hbefore⟩

/-- A single message that settles the task settles it once. -/
theorem Settles.once_singleton {e : Envelope α} (h : Settles ctx handsOn task e) :
    SettledOnce ctx handsOn task [e] :=
  ⟨[], e, [], rfl, h, h.nonempty, by simp⟩

/-- One message is sent: the response, or the task for another actor. -/
inductive SettledAlone (ctx : Ctx α) (task : Task) : List (Envelope α) → Prop
  | response (reply : Reply) {ws : α} : ctx.contacts.lookup "ws" = some ws →
      SettledAlone ctx task [ctx.response Codec.api ws task reply]
  | forward (name command : String) (task' : Task) {dest : α} : ctx.contacts.lookup name = some dest →
      dest ≠ ctx.self → Forwards task name command task' →
      SettledAlone ctx task [{ dest, sender := ctx.self, command, body := .task task' }]

theorem SettledAlone.once {out : List (Envelope α)} (h : SettledAlone ctx task out) :
    SettledOnce ctx handsOn task out := by
  cases h with
  | response reply hws => exact (Settles.response reply hws rfl rfl).once_singleton
  | forward name command task' hdest hself hforwards =>
    exact (Settles.forward name task' hdest hself rfl hforwards).once_singleton

theorem not_settledOnce_nil : ¬ SettledOnce ctx handsOn task [] := by
  rintro ⟨before, e, after, h, -⟩
  simp at h

theorem not_settles_text {e : Envelope α} {text : String} (hbody : e.body = .text text) :
    ¬ Settles ctx handsOn task e := by
  intro h
  cases h with
  | response _ _ _ hother => rw [hbody] at hother; cases hother
  | forward _ _ _ _ hother => rw [hbody] at hother; cases hother
  | relay _ _ _ _ _ hother => rw [hbody] at hother; cases hother

/-- A text is on the side. -/
theorem aside_text {e : Envelope α} {text : String} (hbody : e.body = .text text) :
    Aside e ∧ ¬ Settles ctx handsOn task e := by
  refine ⟨⟨fun _ hother => ?_, fun _ hother => ?_⟩, not_settles_text hbody⟩
  · rw [hbody] at hother
    cases hother
  · rw [hbody] at hother
    cases hother

/-- So is a request without metadata, where requests are handed on with metadata. -/
theorem aside_request {e : Envelope α} {session : String} {msg : RequestMessage}
    (hmetadata : msg.metadata = [])
    (hbody : e.body = .transport (.webSocket { id := session, body := msg.serialize Codec.api }))
    (hhandsOn : ∀ session msg, handsOn session msg → msg.metadata.contains "transport") :
    Aside e ∧ ¬ Settles ctx handsOn task e := by
  have hreads := RequestMessage.reads_serialize msg
  have hread : msg.reread.metadata = [] := by
    rw [RequestMessage.reread, hmetadata]
    rfl
  refine ⟨⟨fun _ hother => ?_, fun ws hother => ?_⟩, fun hsettles => ?_⟩
  · rw [hbody] at hother
    cases hother
  · rw [hbody] at hother
    cases hother
    exact ⟨_, hreads, hread⟩
  · cases hsettles with
    | response reply _ _ hother =>
      -- a response has no method
      rw [hbody] at hother
      obtain ⟨message, m', hparse, hrequest, -⟩ := hreads
      have hprint : Codec.api.print msg.toMap = Codec.api.print (reply.message task.request.id).toMap :=
        congrArg WebSocket.body (Transport.webSocket.inj (Body.transport.inj hother))
      have hmessage : message = (reply.message task.request.id).toMap.reread := by
        rw [RequestMessage.serialize, hprint, Codec.api_roundTrip] at hparse
        exact (Except.ok.inj hparse).symm
      have hmethod : message.contains "method" = false := by
        rw [hmessage, JsonMap.contains_reread, JsonMap.contains, ResponseMessage.find?_toMap_method]
        rfl
      simp [JsonMap.isRequest, hmethod] at hrequest
    | forward _ _ _ _ hother => rw [hbody] at hother; cases hother
    | relay session' msg' _ _ hhands hother =>
      rw [hbody] at hother
      have hserialize : msg.serialize Codec.api = msg'.serialize Codec.api :=
        congrArg WebSocket.body (Transport.webSocket.inj (Body.transport.inj hother))
      have hsame : msg.reread = msg'.reread := by
        rw [hserialize] at hreads
        exact hreads.unique (RequestMessage.reads_serialize msg')
      have hcontains : msg'.metadata.reread.contains "transport" := by
        rw [JsonMap.contains_reread]
        exact hhandsOn session' msg' hhands
      have hempty : msg'.metadata.reread = [] := (congrArg RequestMessage.metadata hsame).symm.trans hread
      rw [hempty] at hcontains
      cases hcontains

/-- What `skip` sends settles nothing. -/
theorem not_settledOnce_skip {S : Type} {P : Program α S} {e : Envelope α} :
    ¬ SettledOnce ctx handsOn task (P.skip e) := by
  rintro ⟨before, e', after, hout, hsettles, -⟩
  have hmem : e' ∈ P.skip e := by
    rw [hout]
    simp
  unfold Program.skip at hmem
  split at hmem
  · obtain rfl := List.mem_singleton.mp hmem
    exact not_settles_text rfl hsettles
  · cases hmem

/-! ## Handlers

The rules follow the ways in which handlers are put together. -/

section Rules

variable {task' : Task} {s : σ}

theorem respond_settles {reply : Reply} (hid : task'.request.id = task.request.id)
    (htransport : task'.transportId = task.transportId) :
    (do return (s, ← ctx.respond Codec.api task' reply) :
      Except Fault (σ × List (Envelope α))).Ensures fun r => SettledAlone ctx task r.2 := by
  refine Except.ensures_bind.mpr fun out hout => Except.ensures_ok.mpr ?_
  obtain ⟨ws, hws, rfl⟩ := Ctx.writeTo_eq_ok.mp hout
  rw [hid, htransport]
  exact .response reply hws

theorem answer_settles {β : Type} {read : Except Fault β} {valid : β → Bool} {invalid : String}
    {body : β → Except Fault (σ × Reply)} :
    (ctx.answer Codec.api task s read valid invalid body).Ensures
      fun r => SettledAlone ctx task r.2 := by
  unfold Ctx.answer
  exact Except.ensures_bind.mpr fun _ _ => Except.ensures_bind.mpr fun _ _ =>
    respond_settles rfl rfl

variable (hself : ∀ name dest, ctx.contacts.lookup name = some dest → dest ≠ ctx.self)
include hself

theorem forward_settles {name command : String} (hforwards : Forwards task name command task') :
    (do return (s, ← ctx.send name command (.task task')) :
      Except Fault (σ × List (Envelope α))).Ensures fun r => SettledAlone ctx task r.2 := by
  refine Except.ensures_bind.mpr fun out hout => Except.ensures_ok.mpr ?_
  obtain ⟨dest, hdest, rfl⟩ := Ctx.send_eq_ok.mp hout
  exact .forward name command task' hdest (hself _ _ hdest) hforwards

end Rules

/-! ## The manager -/

namespace Manager

section Services

variable (hself : ∀ name dest, ctx.contacts.lookup name = some dest → dest ≠ ctx.self)
include hself

theorem Users.auth_settles (env : Env) (s : Users) :
    (Users.auth Codec.api env ctx s task).Ensures fun r => SettledAlone ctx task r.2 := by
  unfold Users.auth
  refine Except.ensures_bind.mpr fun userKey _ => ?_
  have hforward (s : Users) (login : String) :
      (do return (s, ← Users.forward ctx (Users.noted task userKey) login) :
        Except Fault (Users × List (Envelope α))).Ensures fun r => SettledAlone ctx task r.2 := by
    refine forward_settles hself (.noted rfl rfl fun note hnote => ?_)
    have hlogin : note ≠ "user.login" := by
      rintro rfl
      exact hnote (by decide)
    have hadmin : note ≠ "user.admin" := by
      rintro rfl
      exact hnote (by decide)
    exact (Task.stored_emplace_ne hlogin).trans (Users.stored_noted_ne hadmin)
  have hrespond (what : String) :
      (do return (s, ← ctx.respond Codec.api (Users.noted task userKey) (.failed what)) :
        Except Fault (Users × List (Envelope α))).Ensures fun r => SettledAlone ctx task r.2 :=
    respond_settles rfl rfl
  refine Except.ensures_ite (fun _ => ?_) fun _ => ?_
  · exact Except.ensures_bind.mpr fun _ _ => hforward _ _
  · refine catchStd_ensures ?_ fun what => hrespond what
    refine Except.ensures_bind.mpr fun _ _ => Except.ensures_bind.mpr fun _ _ =>
      Except.ensures_bind.mpr fun _ _ => ?_
    refine Except.ensures_ite (fun _ => ?_) fun _ => hrespond _
    exact Except.ensures_bind.mpr fun _ _ => hforward _ _

theorem Users.settles {env : Env} {s : Users} {command : String} {action : Action α Users}
    {r : Users × List (Envelope α)} (hmem : (command, action) ∈ Users.handlers Codec.api)
    (h : Action.Ran env ctx s action (.task task) r) : SettledAlone ctx task r.2 := by
  simp only [Users.handlers, List.mem_cons, Prod.mk.injEq, List.not_mem_nil, or_false] at hmem
  rcases hmem with ⟨rfl, rfl⟩ | ⟨rfl, rfl⟩ | ⟨rfl, rfl⟩ | ⟨rfl, rfl⟩ | ⟨rfl, rfl⟩
  · exact answer_settles r h.of_task
  · exact answer_settles r h.of_task
  · exact answer_settles r h.of_task
  · exact answer_settles r h.of_task
  · exact Users.auth_settles hself env s r h.of_task

omit hself in
theorem Groups.settles {env : Env} {s : Groups} {command : String} {action : Action α Groups}
    {r : Groups × List (Envelope α)} (hmem : (command, action) ∈ Groups.handlers Codec.api)
    (h : Action.Ran env ctx s action (.task task) r) : SettledAlone ctx task r.2 := by
  simp only [Groups.handlers, List.mem_cons, Prod.mk.injEq, List.not_mem_nil, or_false] at hmem
  rcases hmem with ⟨rfl, rfl⟩ | ⟨rfl, rfl⟩ | ⟨rfl, rfl⟩
  · exact answer_settles r h.of_task
  · exact answer_settles r h.of_task
  · exact answer_settles r h.of_task

theorem Subscriptions.devices_settles (env : Env) (s : Subscriptions) :
    (Subscriptions.devices Codec.api env ctx s task).Ensures fun r => SettledAlone ctx task r.2 := by
  refine catchStd_ensures ?_ fun what => respond_settles rfl rfl
  refine Except.ensures_bind.mpr fun _ _ => forward_settles hself ?_
  have hforwards : Forwards task _ _ _ := .userGroups
    ((s.rows.filter fun row => row.userLogin = Text.bind (task.stored "user.login")).map
      fun row => row.groupKey.val)
  rwa [List.map_map] at hforwards

theorem Subscriptions.groups_settles (env : Env) (s : Subscriptions) :
    (Subscriptions.groups Codec.api env ctx s task).Ensures fun r => SettledAlone ctx task r.2 := by
  unfold Subscriptions.groups
  refine Except.ensures_bind.mpr fun _ _ => Except.ensures_ite (fun _ => ?_) fun _ => ?_
  · exact respond_settles rfl rfl
  · refine catchStd_ensures ?_ fun what => respond_settles rfl rfl
    refine Except.ensures_bind.mpr fun _ _ => Except.ensures_bind.mpr fun _ _ => ?_
    exact Except.ensures_ite (fun _ => forward_settles hself .noGroups)
      fun _ => respond_settles rfl rfl

theorem Subscriptions.settles {env : Env} {s : Subscriptions} {command : String}
    {action : Action α Subscriptions} {r : Subscriptions × List (Envelope α)}
    (hmem : (command, action) ∈ Subscriptions.handlers Codec.api)
    (h : Action.Ran env ctx s action (.task task) r) : SettledAlone ctx task r.2 := by
  simp only [Subscriptions.handlers, List.mem_cons, Prod.mk.injEq, List.not_mem_nil, or_false]
    at hmem
  rcases hmem with ⟨rfl, rfl⟩ | ⟨rfl, rfl⟩ | ⟨rfl, rfl⟩ | ⟨rfl, rfl⟩ | ⟨rfl, rfl⟩ | ⟨rfl, rfl⟩ |
    ⟨rfl, rfl⟩ | ⟨rfl, rfl⟩
  · exact answer_settles r h.of_task
  · exact answer_settles r h.of_task
  · exact answer_settles r h.of_task
  · exact Subscriptions.devices_settles hself env s r h.of_task
  · exact Subscriptions.groups_settles hself env s r h.of_task
  · exact answer_settles r h.of_task
  · exact answer_settles r h.of_task
  · exact absurd h Action.Ran.not_transport

theorem Connections.forwardGroups_settles (deviceKey : Task → Except Fault String)
    (command : String) (env : Env) (s : Connections) :
    (Connections.forwardGroups Codec.api deviceKey command env ctx s task).Ensures
      fun r => SettledAlone ctx task r.2 := by
  unfold Connections.forwardGroups
  refine Except.ensures_bind.mpr fun key _ => Except.ensures_ite (fun _ => ?_) fun _ => ?_
  · exact respond_settles rfl rfl
  · refine catchStd_ensures ?_ fun what => respond_settles rfl rfl
    refine Except.ensures_bind.mpr fun _ _ => Except.ensures_ite (fun _ => ?_) fun _ => ?_
    · exact respond_settles rfl rfl
    · refine forward_settles hself ?_
      have hforwards : Forwards task _ _ _ :=
        .deviceGroups command ((s.selectGroups (.bind key)).map fun key => key.val)
      rwa [List.map_map] at hforwards

theorem Connections.unsubscribe_settles (env : Env) (s : Connections) :
    (Connections.unsubscribe Codec.api env ctx s task).Ensures
      fun r => SettledAlone ctx task r.2 := by
  unfold Connections.unsubscribe
  refine Except.ensures_bind.mpr fun _ _ => Except.ensures_ite (fun _ => ?_) fun _ => ?_
  · exact respond_settles rfl rfl
  · exact catchStd_ensures (forward_settles hself (.same _ _)) fun what =>
      respond_settles rfl rfl

theorem Connections.settles {env : Env} {s : Connections} {command : String}
    {action : Action α Connections} {r : Connections × List (Envelope α)}
    (hmem : (command, action) ∈ Connections.handlers Codec.api)
    (h : Action.Ran env ctx s action (.task task) r) : SettledAlone ctx task r.2 := by
  simp only [Connections.handlers, List.mem_cons, Prod.mk.injEq, List.not_mem_nil, or_false] at hmem
  rcases hmem with ⟨rfl, rfl⟩ | ⟨rfl, rfl⟩ | ⟨rfl, rfl⟩ | ⟨rfl, rfl⟩ | ⟨rfl, rfl⟩ | ⟨rfl, rfl⟩ |
    ⟨rfl, rfl⟩
  · exact answer_settles r h.of_task
  · exact answer_settles r h.of_task
  · exact answer_settles r h.of_task
  · exact answer_settles r h.of_task
  · exact Connections.forwardGroups_settles hself _ _ env s r h.of_task
  · exact Connections.forwardGroups_settles hself _ _ env s r h.of_task
  · exact Connections.unsubscribe_settles hself env s r h.of_task

theorem Devices.control_settles (env : Env) (s : Devices) :
    (Devices.control Codec.api env ctx s task).Ensures fun r => SettledAlone ctx task r.2 := by
  unfold Devices.control
  refine Except.ensures_ite (fun _ => ?_) fun _ => respond_settles rfl rfl
  exact Except.ensures_bind.mpr fun _ _ => Except.ensures_ite
    (fun _ => forward_settles hself (.same _ _)) fun _ => respond_settles rfl rfl

/-- The frame that hands a task on to the device that it is for. -/
def Devices.HandsOn (s : Devices) (task : Task) (session : String) (msg : RequestMessage) : Prop :=
  ∃ deviceKey action, task.metadataString "device-key" = .ok deviceKey ∧
    s.devicesReg.lookup deviceKey = some session ∧ task.paramString "action" = .ok action ∧
    msg = Devices.requestDeviceMessage task action

/-- One message is sent: the response, the task for another actor or the request
for a device. -/
inductive Disposed (ctx : Ctx α) (s : Devices) (task : Task) : List (Envelope α) → Prop
  | alone {out : List (Envelope α)} : SettledAlone ctx task out → Disposed ctx s task out
  | relay (session : String) (msg : RequestMessage) {ws : α} : ctx.contacts.lookup "ws" = some ws →
      s.HandsOn task session msg → Disposed ctx s task [{
        dest := ws
        sender := ctx.self
        command := "write"
        body := .transport (.webSocket { id := session, body := msg.serialize Codec.api }) }]

omit hself in
theorem Disposed.once {s : Devices} {out : List (Envelope α)} (h : Disposed ctx s task out) :
    SettledOnce ctx (s.HandsOn task) task out := by
  cases h with
  | alone h => exact h.once
  | relay session msg hws hhands => exact (Settles.relay session msg hws rfl hhands rfl).once_singleton

omit hself in
theorem Devices.request_settles (env : Env) (s : Devices) :
    (Devices.request Codec.api env ctx s task).Ensures fun r => Disposed ctx s task r.2 := by
  unfold Devices.request
  refine Except.ensures_bind.mpr fun deviceKey hkey => ?_
  dsimp only
  split
  · next session hsession =>
    refine Except.ensures_bind.mpr fun action haction => Except.ensures_bind.mpr fun out hout =>
      Except.ensures_ok.mpr ?_
    obtain ⟨ws, hws, rfl⟩ := Ctx.writeTo_eq_ok.mp hout
    exact .relay session _ hws ⟨deviceKey, action, hkey, hsession, haction, rfl⟩
  · exact Except.Ensures.mono (respond_settles rfl rfl) fun _ => .alone

theorem Devices.forwardRegistered_settles (command : String) (env : Env) (s : Devices) :
    (Devices.forwardRegistered Codec.api command env ctx s task).Ensures
      fun r => SettledAlone ctx task r.2 := by
  unfold Devices.forwardRegistered
  exact Except.ensures_bind.mpr fun _ _ => Except.ensures_ite
    (fun _ => forward_settles hself (.same _ _)) fun _ => respond_settles rfl rfl

/-- All handlers of tasks settle them, except for `disconnect`. -/
theorem Devices.settles {env : Env} {s : Devices} {command : String} {action : Action α Devices}
    {r : Devices × List (Envelope α)} (hmem : (command, action) ∈ Devices.handlers Codec.api)
    (h : Action.Ran env ctx s action (.task task) r) :
    command = "disconnect" ∧ r.2 = [] ∨ command ≠ "disconnect" ∧ Disposed ctx s task r.2 := by
  simp only [Devices.handlers, List.mem_cons, Prod.mk.injEq, List.not_mem_nil, or_false] at hmem
  rcases hmem with ⟨rfl, rfl⟩ | ⟨rfl, rfl⟩ | ⟨rfl, rfl⟩ | ⟨rfl, rfl⟩ | ⟨rfl, rfl⟩ | ⟨rfl, rfl⟩ | ⟨rfl, rfl⟩ |
    ⟨rfl, rfl⟩ | ⟨rfl, rfl⟩ | ⟨rfl, rfl⟩ | ⟨rfl, rfl⟩ | ⟨rfl, rfl⟩
  · exact .inr ⟨by decide, .alone (answer_settles r h.of_task)⟩
  · exact .inr ⟨by decide, .alone (answer_settles r h.of_task)⟩
  · exact .inr ⟨by decide, .alone (answer_settles r h.of_task)⟩
  · exact .inr ⟨by decide, .alone (answer_settles r h.of_task)⟩
  · exact .inr ⟨by decide, .alone (Devices.control_settles hself env s r h.of_task)⟩
  · exact .inr ⟨by decide, .alone (answer_settles r h.of_task)⟩
  · obtain ⟨key, -, h⟩ := Except.bind_eq_ok.mp h.of_task
    cases h
    exact .inl ⟨rfl, rfl⟩
  · exact .inr ⟨by decide, Devices.request_settles env s r h.of_task⟩
  · exact absurd h Action.Ran.not_transport
  · exact absurd h Action.Ran.not_transport
  · exact .inr ⟨by decide, .alone (Devices.forwardRegistered_settles hself _ env s r h.of_task)⟩
  · exact .inr ⟨by decide, .alone (Devices.forwardRegistered_settles hself _ env s r h.of_task)⟩

/-- The router answers the task that it is given back, or dispatches it. -/
theorem Router.service_settles (env : Env) (s : Unit) :
    (Router.service Codec.api env ctx s task).Ensures fun r => SettledAlone ctx task r.2 := by
  unfold Router.service
  dsimp only
  refine Except.ensures_ite (fun _ => ?_) fun _ => respond_settles rfl rfl
  refine Except.ensures_bind.mpr fun _ _ => Except.ensures_ite (fun _ => ?_)
    fun _ => respond_settles rfl rfl
  exact Except.ensures_ite (fun _ => forward_settles hself (.same _ _))
    fun _ => respond_settles rfl rfl

end Services

/-! ### The program -/

/-- The services whose handlers take tasks. -/
def taskServices : List Actor := [.users, .groups, .subscriptions, .connections, .devices]

/-- No actor is its own contact. -/
theorem contacts_ne {a dest : Actor} {name : String} (h : (contacts a).lookup name = some dest) :
    dest ≠ a := by
  have hall : ∀ p ∈ contacts a, p.2 ≠ a := by cases a <;> decide
  exact hall _ (Program.mem_of_lookup h)

/-- The handlers that settle nothing: `skip`, which stands for every command
without a handler too, and `disconnect` of the devices service. -/
def Silent (config : Config) (e : Envelope Actor) : Prop :=
  (program Codec.api config).reaction e.dest e.command = .skip ∨
    e.dest = .devices ∧ e.command = "disconnect"

theorem settledOnce_iff {config : Config} {env : Env} {n n' : State} {e : Envelope Actor}
    {task : Task} {out : List (Envelope Actor)} (hn : n.contacts = contacts)
    (hservice : e.dest ∈ taskServices) (hbody : e.body = .task task)
    (h : handle Codec.api config env n e = .ok (n', out)) :
    SettledOnce ((program Codec.api config).ctx n e.dest) (n.services.devices.HandsOn task) task out ↔
      ¬ Silent config e := by
  cases Program.handled_of_eq_ok h with
  | syncContacts _ haddress => rw [hbody] at haddress; cases haddress
  | addChannel _ hchannel => rw [hbody] at hchannel; cases hchannel
  | skip hreaction => exact iff_of_false not_settledOnce_skip fun hnot => hnot (.inl hreaction)
  | @attached action services out hreaction hmem hran =>
    have hnotSkip : (program Codec.api config).reaction e.dest e.command ≠ .skip := by
      rw [hreaction]
      rintro rfl
      cases hran
    have hself (name : String) (dest : Actor)
        (hdest : ((program Codec.api config).ctx n e.dest).contacts.lookup name = some dest) :
        dest ≠ e.dest := by
      have hlookup : (contacts e.dest).lookup name = some dest := by
        rw [← hn]
        exact hdest
      exact contacts_ne hlookup
    rw [hbody] at hran
    obtain ⟨dest, sender, command, body⟩ := e
    dsimp only at hservice hmem hran hnotSkip hself ⊢
    have hsilent : Silent config ⟨dest, sender, command, body⟩ ↔
        dest = .devices ∧ command = "disconnect" :=
      ⟨fun hs => hs.resolve_left hnotSkip, .inr⟩
    rw [hsilent]
    simp only [taskServices, List.mem_cons, List.not_mem_nil, or_false] at hservice
    rcases hservice with rfl | rfl | rfl | rfl | rfl <;>
      obtain ⟨inner, hinner, rfl⟩ := mem_liftAll.mp hmem <;>
      obtain ⟨component, hinnerRan, rfl⟩ := hran.of_lift
    · exact iff_of_true (Users.settles hself hinner hinnerRan).once (by simp)
    · exact iff_of_true (Groups.settles hinner hinnerRan).once (by simp)
    · exact iff_of_true (Subscriptions.settles hself hinner hinnerRan).once (by simp)
    · exact iff_of_true (Connections.settles hself hinner hinnerRan).once (by simp)
    · rcases Devices.settles hself hinner hinnerRan with ⟨rfl, rfl⟩ | ⟨hcommand, hsettled⟩
      · exact iff_of_false not_settledOnce_nil (by simp)
      · exact iff_of_true hsettled.once (by simp [hcommand])

/-- What a handler of the manager sends on a task: one message that settles it,
or none but what `skip` sends. -/
theorem out_of_task {config : Config} {env : Env} {n n' : State} {e : Envelope Actor} {task : Task}
    {out : List (Envelope Actor)} (hn : n.contacts = contacts) (hbody : e.body = .task task)
    (h : handle Codec.api config env n e = .ok (n', out)) :
    (∀ e' ∈ out, e' ∈ (program Codec.api config).skip e) ∨
      Disposed ((program Codec.api config).ctx n e.dest) n.services.devices task out := by
  cases Program.handled_of_eq_ok h with
  | syncContacts _ haddress => rw [hbody] at haddress; cases haddress
  | addChannel _ hchannel => rw [hbody] at hchannel; cases hchannel
  | skip => exact .inl fun _ he' => he'
  | @attached action services out _ hmem hran =>
    have hself (name : String) (dest : Actor)
        (hdest : ((program Codec.api config).ctx n e.dest).contacts.lookup name = some dest) :
        dest ≠ e.dest := by
      have hlookup : (contacts e.dest).lookup name = some dest := by
        rw [← hn]
        exact hdest
      exact contacts_ne hlookup
    rw [hbody] at hran
    obtain ⟨dest, sender, command, body⟩ := e
    cases dest <;> obtain ⟨inner, hinner, rfl⟩ := mem_liftAll.mp hmem <;>
      obtain ⟨component, hinnerRan, rfl⟩ := hran.of_lift
    case users => exact .inr (.alone (Users.settles hself hinner hinnerRan))
    case groups => exact .inr (.alone (Groups.settles hinner hinnerRan))
    case subscriptions => exact .inr (.alone (Subscriptions.settles hself hinner hinnerRan))
    case connections => exact .inr (.alone (Connections.settles hself hinner hinnerRan))
    case devices =>
      rcases Devices.settles hself hinner hinnerRan with ⟨-, hnone⟩ | ⟨-, hsettled⟩
      · obtain rfl : out = [] := hnone
        exact .inl fun e' he' => nomatch he'
      · exact .inr hsettled
    case router =>
      simp only [Router.handlers, List.mem_cons, Prod.mk.injEq, List.not_mem_nil, or_false] at hinner
      rcases hinner with ⟨-, rfl⟩ | ⟨-, rfl⟩ | ⟨-, rfl⟩
      · exact absurd hinnerRan Action.Ran.not_transport
      · exact .inr (.alone (Router.service_settles hself env _ _ hinnerRan.of_task))
      · exact absurd hinnerRan Action.Ran.not_transport
    case managerInfo =>
      obtain ⟨-, rfl⟩ := Prod.mk.inj (List.mem_singleton.mp hinner)
      exact .inr (.alone (respond_settles rfl rfl _ hinnerRan.of_task))
    case platform =>
      simp only [PlatformService.handlers, List.mem_cons, Prod.mk.injEq, List.not_mem_nil, or_false]
        at hinner
      rcases hinner with ⟨-, rfl⟩ | ⟨-, rfl⟩ | ⟨-, rfl⟩ | ⟨-, rfl⟩ <;>
        exact absurd hinnerRan Action.Ran.not_transport
    case ws =>
      rcases WsServer.out_of_ran hinner hinnerRan with rfl | ⟨-, ws, hws, -⟩
      · exact .inl fun e' he' => nomatch he'
      · cases hws
    case client =>
      obtain rfl := WsClient.out_of_ran hinner hinnerRan
      exact .inl fun e' he' => nomatch he'
    case http =>
      obtain rfl := HttpServer.out_of_ran hinner hinnerRan
      exact .inl fun e' he' => nomatch he'

end Manager

/-! ## The platform -/

namespace Platform

section Services

/-- The frame that hands a task on to the manager that it is for. -/
def Managers.HandsOn (s : Managers) (task : Task) (session : String) (msg : RequestMessage) : Prop :=
  ∃ managerKey, task.metadataString "manager-key" = .ok managerKey ∧
    s.managersReg.lookup managerKey = some session ∧
    msg = (task.setMetadata "transport" (.string task.transportId)).request

theorem Managers.HandsOn.transport {s : Managers} (session : String) (msg : RequestMessage)
    (h : s.HandsOn task session msg) : msg.metadata.contains "transport" := by
  obtain ⟨_, -, -, rfl⟩ := h
  rw [JsonMap.contains, Task.metadata_setMetadata, JsonMap.find?_set_self]
  rfl

/-- A handler that sends what its `try` collected, and then the response. -/
theorem append_respond_settles {r : Managers × Reply × List (Envelope α)}
    (h : ∀ e ∈ r.2.2, Aside e ∧ ¬ Settles ctx handsOn task e) :
    (do return (r.1, r.2.2 ++ (← ctx.respond Codec.api task r.2.1)) :
      Except Fault (Managers × List (Envelope α))).Ensures
        fun r => SettledOnce ctx handsOn task r.2 := by
  refine Except.ensures_bind.mpr fun out hout => Except.ensures_ok.mpr ?_
  obtain ⟨ws, hws, rfl⟩ := Ctx.writeTo_eq_ok.mp hout
  exact Settles.once (.response r.2.1 hws rfl rfl) h

/-- A text for the http server is on the side. -/
theorem send_text_settles {name command text : String} :
    (ctx.send name command (.text text)).Ensures
      fun out => ∀ e ∈ out, Aside e ∧ ¬ Settles ctx handsOn task e := by
  intro out hout e he
  exact aside_text (Ctx.of_mem_send hout he).2

theorem Managers.add_settles (env : Env) (s : Managers) :
    (Managers.add Codec.api env ctx s task).Ensures
      fun r => SettledOnce ctx (s.HandsOn task) task r.2 := by
  unfold Managers.add
  refine Except.ensures_bind.mpr fun name _ => ?_
  refine Except.Ensures.andThen (P := fun r => ∀ e ∈ r.2.2, Aside e ∧ ¬ Settles ctx (s.HandsOn task) task e) ?_
    fun r hr => append_respond_settles hr
  refine Except.ensures_ite (fun _ => ?_) fun _ => Except.ensures_ok.mpr (by simp)
  refine catchStd_ensures ?_ fun what => Except.ensures_ok.mpr (by simp)
  refine Except.ensures_bind.mpr fun _ _ => Except.ensures_bind.mpr fun _ _ => ?_
  refine Managers.behindResult_ensures (fun what => by simp) ?_
  exact send_text_settles.andThen fun out hout => Except.ensures_ok.mpr hout

/-- The frame for a manager that is deleted is on the side. -/
theorem Managers.writeDisconnect_settles (s s' : Managers) (key : String) :
    (Managers.writeDisconnect Codec.api ctx s' task key).Ensures
      fun out => ∀ e ∈ out, Aside e ∧ ¬ Settles ctx (s.HandsOn task) task e := by
  unfold Managers.writeDisconnect
  split
  · intro out hout e he
    exact aside_request rfl (Ctx.of_mem_send hout he).2 Managers.HandsOn.transport
  · exact Except.ensures_ok.mpr (by simp)

theorem Managers.delete_settles (env : Env) (s : Managers) :
    (Managers.delete Codec.api env ctx s task).Ensures
      fun r => SettledOnce ctx (s.HandsOn task) task r.2 := by
  unfold Managers.delete
  refine Except.ensures_bind.mpr fun key _ => ?_
  refine Except.Ensures.andThen (P := fun r => ∀ e ∈ r.2.2, Aside e ∧ ¬ Settles ctx (s.HandsOn task) task e) ?_
    fun r hr => append_respond_settles hr
  refine Except.ensures_ite (fun _ => ?_) fun _ => Except.ensures_ok.mpr (by simp)
  refine catchStd_ensures ?_ fun what => Except.ensures_ok.mpr (by simp)
  have hsend : (ctx.send "http" "remove_trusted_url" (.text (task.stored "profile.login" ++ "/" ++ key))).Ensures
      fun out => ∀ e ∈ out, Aside e ∧ ¬ Settles ctx (s.HandsOn task) task e := send_text_settles
  refine Except.ensures_bind.mpr fun _ _ => Managers.behindResult_ensures (fun what => by simp) ?_
  refine hsend.andThen fun url hurl => Managers.behindResult_ensures (fun what => hurl) ?_
  refine (Managers.writeDisconnect_settles s _ key).andThen fun out hout => Except.ensures_ok.mpr ?_
  intro e he
  rcases List.mem_append.mp he with he | he
  · exact hurl e he
  · exact hout e he

theorem Managers.request_settles (env : Env) (s : Managers) :
    (Managers.request Codec.api env ctx s task).Ensures
      fun r => SettledOnce ctx (s.HandsOn task) task r.2 := by
  unfold Managers.request
  refine Except.ensures_bind.mpr fun managerKey hkey => ?_
  dsimp only
  split
  · next session hsession =>
    refine Except.ensures_bind.mpr fun out hout => Except.ensures_ok.mpr ?_
    obtain ⟨ws, hws, rfl⟩ := Ctx.writeTo_eq_ok.mp hout
    exact (Settles.relay session _ hws rfl ⟨managerKey, hkey, hsession, rfl⟩ rfl).once_singleton
  · exact Except.Ensures.mono (respond_settles rfl rfl) fun _ h => h.once

/-- All handlers of tasks settle them, except for `disconnect`. -/
theorem Managers.settles {env : Env} {s : Managers} {command : String} {action : Action α Managers}
    {r : Managers × List (Envelope α)} (hmem : (command, action) ∈ Managers.handlers Codec.api)
    (h : Action.Ran env ctx s action (.task task) r) :
    SettledOnce ctx (s.HandsOn task) task r.2 ↔ command ≠ "disconnect" := by
  simp only [Managers.handlers, List.mem_cons, Prod.mk.injEq, List.not_mem_nil, or_false] at hmem
  rcases hmem with ⟨rfl, rfl⟩ | ⟨rfl, rfl⟩ | ⟨rfl, rfl⟩ | ⟨rfl, rfl⟩ | ⟨rfl, rfl⟩ | ⟨rfl, rfl⟩ |
    ⟨rfl, rfl⟩
  · exact iff_of_true (Managers.add_settles env s r h.of_task) (by decide)
  · exact iff_of_true (Managers.delete_settles env s r h.of_task) (by decide)
  · exact iff_of_true (answer_settles r h.of_task).once (by decide)
  · exact iff_of_true (answer_settles r h.of_task).once (by decide)
  · obtain ⟨key, -, h⟩ := Except.bind_eq_ok.mp h.of_task
    cases h
    exact iff_of_false not_settledOnce_nil (by simp)
  · exact iff_of_true (Managers.request_settles env s r h.of_task) (by decide)
  · exact absurd h Action.Ran.not_transport

variable (hself : ∀ name dest, ctx.contacts.lookup name = some dest → dest ≠ ctx.self)
include hself

theorem Profile.auth_settles (env : Env) (s : Profile) :
    (Profile.auth Codec.api env ctx s task).Ensures fun r => SettledAlone ctx task r.2 := by
  unfold Profile.auth
  refine Except.ensures_bind.mpr fun profileKey _ => ?_
  have hforward (s : Profile) (login : String) :
      (do return (s, ← Profile.forward ctx task login) :
        Except Fault (Profile × List (Envelope α))).Ensures fun r => SettledAlone ctx task r.2 := by
    refine forward_settles hself (.noted rfl rfl fun note hnote => Task.stored_emplace_ne ?_)
    rintro rfl
    exact hnote (by decide)
  refine Except.ensures_ite (fun _ => ?_) fun _ => ?_
  · exact Except.ensures_bind.mpr fun _ _ => hforward _ _
  · refine catchStd_ensures ?_ fun what => respond_settles rfl rfl
    refine Except.ensures_bind.mpr fun _ _ => Except.ensures_bind.mpr fun _ _ =>
      Except.ensures_bind.mpr fun _ _ => ?_
    refine Except.ensures_ite (fun _ => ?_) fun _ => respond_settles rfl rfl
    exact Except.ensures_bind.mpr fun _ _ => hforward _ _

theorem Profile.settles {env : Env} {s : Profile} {command : String} {action : Action α Profile}
    {r : Profile × List (Envelope α)} (hmem : (command, action) ∈ Profile.handlers Codec.api)
    (h : Action.Ran env ctx s action (.task task) r) : SettledAlone ctx task r.2 := by
  simp only [Profile.handlers, List.mem_cons, Prod.mk.injEq, List.not_mem_nil, or_false] at hmem
  rcases hmem with ⟨rfl, rfl⟩ | ⟨rfl, rfl⟩ | ⟨rfl, rfl⟩
  · exact answer_settles r h.of_task
  · exact answer_settles r h.of_task
  · exact Profile.auth_settles hself env s r h.of_task

end Services

/-! ### The program -/

/-- The services whose handlers take tasks. -/
def taskServices : List Actor := [.profile, .managers]

/-- No actor is its own contact. -/
theorem contacts_ne {a dest : Actor} {name : String} (h : (contacts a).lookup name = some dest) :
    dest ≠ a := by
  have hall : ∀ p ∈ contacts a, p.2 ≠ a := by cases a <;> decide
  exact hall _ (Program.mem_of_lookup h)

/-- The handlers that settle nothing. -/
def Silent (managerKey : String) (e : Envelope Actor) : Prop :=
  (program Codec.api managerKey).reaction e.dest e.command = .skip ∨
    e.dest = .managers ∧ e.command = "disconnect"

theorem settledOnce_iff {managerKey : String} {env : Env} {n n' : State} {e : Envelope Actor}
    {task : Task} {out : List (Envelope Actor)} (hn : n.contacts = contacts)
    (hservice : e.dest ∈ taskServices) (hbody : e.body = .task task)
    (h : handle Codec.api managerKey env n e = .ok (n', out)) :
    SettledOnce ((program Codec.api managerKey).ctx n e.dest) (n.services.managers.HandsOn task) task
      out ↔ ¬ Silent managerKey e := by
  cases Program.handled_of_eq_ok h with
  | syncContacts _ haddress => rw [hbody] at haddress; cases haddress
  | addChannel _ hchannel => rw [hbody] at hchannel; cases hchannel
  | skip hreaction => exact iff_of_false not_settledOnce_skip fun hnot => hnot (.inl hreaction)
  | @attached action services out hreaction hmem hran =>
    have hnotSkip : (program Codec.api managerKey).reaction e.dest e.command ≠ .skip := by
      rw [hreaction]
      rintro rfl
      cases hran
    have hself (name : String) (dest : Actor)
        (hdest : ((program Codec.api managerKey).ctx n e.dest).contacts.lookup name = some dest) :
        dest ≠ e.dest := by
      have hlookup : (contacts e.dest).lookup name = some dest := by
        rw [← hn]
        exact hdest
      exact contacts_ne hlookup
    rw [hbody] at hran
    obtain ⟨dest, sender, command, body⟩ := e
    dsimp only at hservice hmem hran hnotSkip hself ⊢
    have hsilent : Silent managerKey ⟨dest, sender, command, body⟩ ↔
        dest = .managers ∧ command = "disconnect" :=
      ⟨fun hs => hs.resolve_left hnotSkip, .inr⟩
    rw [hsilent]
    simp only [taskServices, List.mem_cons, List.not_mem_nil, or_false] at hservice
    rcases hservice with rfl | rfl <;> obtain ⟨inner, hinner, rfl⟩ := mem_liftAll.mp hmem <;>
      obtain ⟨component, hinnerRan, rfl⟩ := hran.of_lift
    · exact iff_of_true (Profile.settles hself hinner hinnerRan).once (by simp)
    · refine (Managers.settles hinner hinnerRan).trans ?_
      simp

end Platform

/-! ## The device -/

namespace Device

theorem contacts_ne {a dest : Actor} {name : String} (h : (contacts a).lookup name = some dest) :
    dest ≠ a := by
  have hall : ∀ p ∈ contacts a, p.2 ≠ a := by cases a <;> decide
  exact hall _ (Program.mem_of_lookup h)

/-- Without a websocket server, a device either gives a request to its service,
or does nothing for want of a dot in the method. -/
theorem settledOnce_iff {config : Config} {env : Env} {n n' : State} {ws : WebSocket}
    {request : RequestMessage} {out : List (Envelope Actor)} (hn : n.contacts = contacts)
    (hreads : Codec.api.ReadsRequest ws.body request)
    (h : handle Codec.api config env n (frame ws) = .ok (n', out)) :
    ∃ id, request.metadata.stringAt "transport" = .ok id ∧
      (SettledOnce ((program Codec.api config).ctx n .manager) (fun _ _ => False)
          (Manager.task request id) out ↔ 1 < (split request.method).length) := by
  obtain ⟨message, m', hparse, hrequest, hread⟩ := hreads
  have hid : message.contains "id" := by
    rw [JsonMap.isRequest, Bool.and_eq_true] at hrequest
    exact hrequest.2
  have hlookup (name : String) : ((program Codec.api config).ctx n .manager).contacts.lookup name =
      (contacts .manager).lookup name := by
    rw [← hn]
    rfl
  obtain ⟨_, component, hbody, hrun, -⟩ := Program.transport_of_handle rfl h
  cases hbody
  simp only [Manager.dispatcher, Transport.asWebSocket_webSocket, Except.ok_bind', hparse,
    if_pos hrequest] at hrun
  obtain ⟨out', hout, heq⟩ := Except.bind_eq_ok.mp hrun
  cases heq
  obtain ⟨id, htransport, hcases⟩ :=
    Manager.request_cases Codec.api ((hlookup "ws").trans rfl) hid hread hout
  refine ⟨id, htransport, ?_⟩
  rcases hcases with ⟨hshort, rfl⟩ | ⟨methodName, rest, dest, hsplit, hdest, -, rfl⟩
  · exact iff_of_false not_settledOnce_nil (by omega)
  · refine iff_of_true (Settles.forward _ _ hdest ?_ rfl (.same _ _)).once_singleton (by simp [hsplit])
    exact contacts_ne ((hlookup "control").symm.trans hdest)

end Device

/-! ## The result -/

end StreamCloud
