-- SUMMARY: Which responses carry a result and an error at once.
import StreamCloud.Manager.Flow
import StreamCloud.Platform.Flow
import StreamCloud.Api.JsonSorted

/-!
# Replies

Every service fills its responses by one pattern, a result in the `try` and an
error in the `catch`. Nothing clears the result, so that a response carries both
where something fails behind the result.
-/

namespace StreamCloud

variable {α σ β : Type}

/-! ## Responses with both members -/

/-- A response that reports an error and a result which is not null. -/
def ResponseMessage.Both (msg : ResponseMessage) : Prop := msg.error.isSome ∧ msg.result ≠ .null

/-- An object with an error and a result which is not null. -/
def JsonMap.Both (m : JsonMap) : Prop := m.contains "error" ∧ m.get "result" ≠ .null

/-- A reply that fills in one member. -/
def Reply.Single (reply : Reply) : Prop := reply.error = none ∨ reply.result = .null

@[simp] theorem Reply.single_ok {result : JsonValue} : (Reply.ok result).Single := .inl rfl

@[simp] theorem Reply.single_failed {message : String} : (Reply.failed message).Single := .inr rfl

theorem ResponseMessage.find?_toMap_error (msg : ResponseMessage) :
    msg.toMap.find? "error" = msg.error.map fun error => .map error.toMap := by
  unfold toMap
  dsimp only
  cases msg.error <;> split <;> simp [JsonMap.find?_set]

theorem ResponseMessage.both_toMap {msg : ResponseMessage} : msg.toMap.Both ↔ msg.Both := by
  simp [JsonMap.Both, Both, JsonMap.contains, JsonMap.get, find?_toMap_error, find?_toMap_result]

theorem Reply.both_message {reply : Reply} {id : JsonValue} :
    (reply.message id).Both ↔ ¬ reply.Single := by
  simp [ResponseMessage.Both, Single, message, Option.isSome_iff_ne_none]

theorem RequestMessage.find?_toMap_error (msg : RequestMessage) : msg.toMap.find? "error" = none := by
  unfold toMap
  dsimp only
  split <;> split <;> simp [JsonMap.find?_set]

theorem RequestMessage.not_both_toMap (msg : RequestMessage) : ¬ msg.toMap.Both := by
  simp [JsonMap.Both, JsonMap.contains, find?_toMap_error]

/-! ## Written texts -/

/-- A text that was printed from an object with at most one of the two. -/
def SingleText (text : String) : Prop :=
  ∃ m : JsonMap, (m.map Prod.fst).Nodup ∧ ¬ m.Both ∧ text = Codec.api.print m

theorem JsonMap.both_reread {m : JsonMap} (hm : (m.map Prod.fst).Nodup) : m.reread.Both ↔ m.Both := by
  have hnull (v : JsonValue) : v.reread = .null ↔ v = .null := by
    cases v with
    | real x =>
      rcases JsonValue.reread_real x with ⟨i, h⟩ | ⟨y, h⟩ | h
      all_goals simp [h]
    | _ => simp [JsonValue.reread]
  have hget : m.reread.get "result" = (m.get "result").reread := by
    simp only [get, find?_reread_of_nodup hm]
    cases m.find? "result" <;> rfl
  rw [Both, Both, contains_reread, hget, ne_eq, hnull]

/-- What is printed tells whether it carries both. -/
theorem SingleText.not_both {msg : ResponseMessage} (h : SingleText (msg.serialize Codec.api)) :
    ¬ msg.Both := by
  obtain ⟨m, hm, hsingle, htext⟩ := h
  have hparse : Except.ok msg.toMap.reread = (.ok m.reread : Except Fault JsonMap) := by
    rw [← Codec.api_roundTrip msg.toMap, ← Codec.api_roundTrip m]
    exact congrArg Codec.api.parse htext
  rw [← ResponseMessage.both_toMap, ← JsonMap.both_reread (ResponseMessage.nodup_toMap msg),
    Except.ok.inj hparse, JsonMap.both_reread hm]
  exact hsingle

theorem singleText_request (msg : RequestMessage) : SingleText (msg.serialize Codec.api) :=
  ⟨msg.toMap, msg.nodup_toMap, msg.not_both_toMap, rfl⟩

theorem singleText_reply {reply : Reply} (h : reply.Single) (id : JsonValue) :
    SingleText ((reply.message id).serialize Codec.api) :=
  ⟨_, (reply.message id).nodup_toMap,
    fun hboth => Reply.both_message.mp (ResponseMessage.both_toMap.mp hboth) h, rfl⟩

/-- Among the messages is one that brings this response to the websocket server. -/
def Writes (out : List (Envelope α)) (msg : ResponseMessage) : Prop :=
  ∃ e ∈ out, e.command = "write" ∧
    ∃ id, e.body = .transport (.webSocket { id, body := msg.serialize Codec.api })

/-- A message that writes no text but one with at most one of the two. -/
def WritesSingle (_name command : String) (body : Body α) : Prop :=
  command = "write" → ∀ ws, body = .transport (.webSocket ws) → SingleText ws.body

theorem not_both_of_sends {ctx : Ctx α} {out : List (Envelope α)} {msg : ResponseMessage}
    (h : ctx.Sends WritesSingle out) (hwrites : Writes out msg) : ¬ msg.Both := by
  obtain ⟨e, he, hcommand, id, hbody⟩ := hwrites
  obtain ⟨-, name, -, hsingle⟩ := h e he
  exact (hsingle hcommand _ hbody).not_both

theorem not_writes_nil {msg : ResponseMessage} : ¬ Writes ([] : List (Envelope α)) msg :=
  fun ⟨_, he, _⟩ => nomatch he

/-- What `skip` sends is no text for a session. -/
theorem not_writes_skip {S : Type} {P : Program α S} {e : Envelope α} {msg : ResponseMessage} :
    ¬ Writes (P.skip e) msg := by
  rintro ⟨e', he', hcommand, -⟩
  rw [(Program.of_mem_skip he').2] at hcommand
  exact absurd hcommand (by decide : "error" ≠ "write")

theorem writes_response {ctx : Ctx α} {ws : α} {task : Task} {reply : Reply} :
    Writes [ctx.response Codec.api ws task reply] (reply.message task.request.id) :=
  ⟨_, List.mem_singleton_self _, rfl, _, rfl⟩

/-- A handler that sets an error behind its result writes both. -/
theorem writes_both_of_handle {S : Type} [DecidableEq α] {P : Program α S} {L : Lens S σ}
    {run : Handler α σ Task} {env : Env} {n : Net α S} {e : Envelope α} {task : Task} {s : σ}
    {ws : α} {what : String} (hreaction : P.reaction e.dest e.command = .task (run.lift L))
    (hbody : e.body = .task task)
    (hrun : run env (P.ctx n e.dest) (L.get n.services) task =
      .ok (s, [(P.ctx n e.dest).response Codec.api ws task
        { result := .boolean true, error := some what }])) :
    ∃ n' out msg, P.handle env n e = .ok (n', out) ∧ Writes out msg ∧ msg.Both := by
  have hhandle := @Program.handle_task α S σ _ P L env n e run task hreaction hbody
  rw [hrun] at hhandle
  exact ⟨_, _, _, hhandle, writes_response, rfl, by simp [Reply.message]⟩

/-! ## Handlers

The rules follow the ways in which handlers are put together. -/

section Rules

variable {ctx : Ctx α} {task : Task} {s : σ}

theorem writesSingle_task {name command : String} {task : Task} :
    WritesSingle (α := α) name command (.task task) := fun _ _ h => nomatch h

theorem writesSingle_text {name command text : String} :
    WritesSingle (α := α) name command (.text text) := fun _ _ h => nomatch h

theorem writesSingle_of_text {id text : String} (h : SingleText text) :
    WritesSingle (α := α) "ws" "write" (.transport (.webSocket { id, body := text })) := by
  intro _ ws hws
  cases hws
  exact h

theorem respond_writesSingle {reply : Reply} (h : reply.Single) :
    (ctx.respond Codec.api task reply).Ensures (ctx.Sends WritesSingle) :=
  Ctx.send_sends (writesSingle_of_text (singleText_reply h _))

/-- A handler that ends with a response. -/
theorem respond_return_writesSingle {reply : Reply} (h : reply.Single) :
    (do return (s, ← ctx.respond Codec.api task reply) :
      Except Fault (σ × List (Envelope α))).Ensures fun r => ctx.Sends WritesSingle r.2 :=
  Ctx.send_sends_return (writesSingle_of_text (singleText_reply h _))

/-- A handler that ends with an error. -/
theorem failed_writesSingle {message : String} :
    (do return (s, ← ctx.respond Codec.api task (.failed message)) :
      Except Fault (σ × List (Envelope α))).Ensures fun r => ctx.Sends WritesSingle r.2 :=
  respond_return_writesSingle Reply.single_failed

/-- A handler that ends with giving its task to another actor. -/
theorem forward_writesSingle {name command : String} {task : Task} :
    (do return (s, ← ctx.send name command (.task task)) :
      Except Fault (σ × List (Envelope α))).Ensures fun r => ctx.Sends WritesSingle r.2 :=
  Ctx.send_sends_return writesSingle_task

theorem attempt_single {body : Except Fault (σ × Reply)} (h : body.Ensures fun r => r.2.Single) :
    (attempt s body).Ensures fun r => r.2.Single :=
  catchStd_ensures h fun _ => Except.ensures_ok.mpr Reply.single_failed

/-- An answer carries at most one of the two when its `try` fills in one. -/
theorem answer_writesSingle {read : Except Fault β} {valid : β → Bool} {invalid : String}
    {body : β → Except Fault (σ × Reply)}
    (hbody : ∀ args, (body args).Ensures fun r => r.2.Single) :
    (ctx.answer Codec.api task s read valid invalid body).Ensures
      fun r => ctx.Sends WritesSingle r.2 := by
  unfold Ctx.answer
  refine Except.ensures_bind.mpr fun args _ => ?_
  refine Except.Ensures.andThen (P := fun r => r.2.Single) ?_ fun r hr => respond_return_writesSingle hr
  exact Except.ensures_ite (fun _ => attempt_single (hbody args))
    fun _ => Except.ensures_ok.mpr Reply.single_failed

end Rules

/-! ## The manager -/

namespace Manager

variable {env : Env} {ctx : Ctx α}

theorem Users.auth_writesSingle (s : Users) (task : Task) :
    (Users.auth Codec.api env ctx s task).Ensures fun r => ctx.Sends WritesSingle r.2 := by
  unfold Users.auth
  refine Except.ensures_bind.mpr fun userKey _ => ?_
  refine Except.ensures_ite (fun _ => ?_) fun _ => ?_
  · exact Except.ensures_bind.mpr fun _ _ => forward_writesSingle
  · refine catchStd_ensures ?_ fun what => failed_writesSingle
    refine Except.ensures_bind.mpr fun _ _ => Except.ensures_bind.mpr fun _ _ =>
      Except.ensures_bind.mpr fun _ _ => ?_
    refine Except.ensures_ite (fun _ => ?_) fun _ => failed_writesSingle
    exact Except.ensures_bind.mpr fun _ _ => forward_writesSingle

theorem Users.writesSingle {s : Users} {command : String} {action : Action α Users} {task : Task}
    {r : Users × List (Envelope α)} (hmem : (command, action) ∈ Users.handlers Codec.api)
    (h : Action.Ran env ctx s action (.task task) r) : ctx.Sends WritesSingle r.2 := by
  simp only [Users.handlers, List.mem_cons, Prod.mk.injEq, List.not_mem_nil, or_false] at hmem
  rcases hmem with ⟨rfl, rfl⟩ | ⟨rfl, rfl⟩ | ⟨rfl, rfl⟩ | ⟨rfl, rfl⟩ | ⟨rfl, rfl⟩
  · refine answer_writesSingle (fun _ => ?_) r h.of_task
    exact Except.ensures_bind.mpr fun _ _ => Except.ensures_bind.mpr fun _ _ =>
      Except.ensures_ok.mpr Reply.single_ok
  · refine answer_writesSingle (fun _ => ?_) r h.of_task
    exact Except.ensures_bind.mpr fun _ _ => Except.ensures_ok.mpr Reply.single_ok
  · refine answer_writesSingle (fun _ => ?_) r h.of_task
    exact Except.ensures_bind.mpr fun _ _ => Except.ensures_ok.mpr Reply.single_ok
  · refine answer_writesSingle (fun _ => ?_) r h.of_task
    exact Except.ensures_bind.mpr fun _ _ => Except.ensures_ite
      (fun _ => Except.ensures_ok.mpr Reply.single_ok) fun _ => Except.ensures_ok.mpr Reply.single_failed
  · exact Users.auth_writesSingle s task r h.of_task

theorem Groups.writesSingle {s : Groups} {command : String} {action : Action α Groups} {task : Task}
    {r : Groups × List (Envelope α)} (hmem : (command, action) ∈ Groups.handlers Codec.api)
    (h : Action.Ran env ctx s action (.task task) r) : ctx.Sends WritesSingle r.2 := by
  simp only [Groups.handlers, List.mem_cons, Prod.mk.injEq, List.not_mem_nil, or_false] at hmem
  rcases hmem with ⟨rfl, rfl⟩ | ⟨rfl, rfl⟩ | ⟨rfl, rfl⟩ <;>
    refine answer_writesSingle (fun _ => Except.ensures_bind.mpr fun _ _ => ?_) r h.of_task
  · exact Except.ensures_bind.mpr fun _ _ => Except.ensures_ok.mpr Reply.single_ok
  · exact Except.ensures_ok.mpr Reply.single_ok
  · exact Except.ensures_ok.mpr Reply.single_ok

theorem Subscriptions.devices_writesSingle (s : Subscriptions) (task : Task) :
    (Subscriptions.devices Codec.api env ctx s task).Ensures
      fun r => ctx.Sends WritesSingle r.2 := by
  refine catchStd_ensures ?_ fun what => failed_writesSingle
  exact Except.ensures_bind.mpr fun _ _ => forward_writesSingle

theorem Subscriptions.groups_writesSingle (s : Subscriptions) (task : Task) :
    (Subscriptions.groups Codec.api env ctx s task).Ensures
      fun r => ctx.Sends WritesSingle r.2 := by
  unfold Subscriptions.groups
  refine Except.ensures_bind.mpr fun _ _ => Except.ensures_ite (fun _ => failed_writesSingle) fun _ => ?_
  refine catchStd_ensures ?_ fun what => failed_writesSingle
  refine Except.ensures_bind.mpr fun _ _ => Except.ensures_bind.mpr fun _ _ => ?_
  exact Except.ensures_ite (fun _ => forward_writesSingle) fun _ => failed_writesSingle

theorem Subscriptions.on_writesSingle (s : Subscriptions) (task : Task) :
    (Subscriptions.on Codec.api env ctx s task).Ensures fun r => ctx.Sends WritesSingle r.2 := by
  refine answer_writesSingle fun _ => ?_
  refine Except.ensures_bind.mpr fun _ _ => Except.ensures_bind.mpr fun _ _ => ?_
  refine Except.ensures_ite (fun _ => Except.ensures_ok.mpr Reply.single_failed) fun _ => ?_
  exact Except.ensures_ite (fun _ => Except.ensures_ok.mpr Reply.single_failed)
    fun _ => Except.ensures_ok.mpr Reply.single_ok

/-- A session that does not listen to a device unsubscribes from it. -/
structure Subscriptions.OffUnheard (s : Subscriptions) (task : Task) (deviceKey : String) : Prop where
  key : task.paramString "device-key" = .ok deviceKey
  registered : s.isRegDevice deviceKey
  unheard : ¬ s.isRegDeviceSubscribe deviceKey task.transportId

theorem Subscriptions.off_writesSingle (s : Subscriptions) (task : Task)
    (hheard : ∀ deviceKey, ¬ s.OffUnheard task deviceKey) :
    (Subscriptions.off Codec.api env ctx s task).Ensures fun r => ctx.Sends WritesSingle r.2 := by
  rintro ⟨s', out⟩ hout
  obtain ⟨deviceKey, reply, hkey, hreply, hresponse⟩ := Ctx.answer_eq_ok.mp hout
  refine respond_writesSingle ?_ out hresponse
  split at hreply
  · next hregistered =>
    have hsubscribed : s.isRegDeviceSubscribe deviceKey task.transportId := by
      by_contra hnot
      exact hheard deviceKey ⟨hkey, hregistered, hnot⟩
    simp only [hsubscribed, if_true] at hreply
    cases hreply
    exact Reply.single_ok
  · cases hreply
    exact Reply.single_failed

/-- What is answered to a session that does not listen. -/
theorem Subscriptions.off_unheard {s : Subscriptions} {task : Task} {deviceKey : String} {ws : α}
    (h : s.OffUnheard task deviceKey) (hws : ctx.contacts.lookup "ws" = some ws) :
    Subscriptions.off Codec.api env ctx s task = .ok (s, [ctx.response Codec.api ws task
      { result := .boolean true, error := some "unsubscribe already" }]) := by
  refine Ctx.answer_eq_ok.mpr ⟨deviceKey, _, h.key, ?_, Ctx.respond_of_contact hws⟩
  simp only [if_pos h.registered, if_neg h.unheard]
  rfl

theorem Subscriptions.writesSingle {s : Subscriptions} {command : String}
    {action : Action α Subscriptions} {task : Task} {r : Subscriptions × List (Envelope α)}
    (hmem : (command, action) ∈ Subscriptions.handlers Codec.api)
    (h : Action.Ran env ctx s action (.task task) r)
    (hheard : command = "off" → ∀ deviceKey, ¬ s.OffUnheard task deviceKey) :
    ctx.Sends WritesSingle r.2 := by
  simp only [Subscriptions.handlers, List.mem_cons, Prod.mk.injEq, List.not_mem_nil, or_false]
    at hmem
  rcases hmem with ⟨rfl, rfl⟩ | ⟨rfl, rfl⟩ | ⟨rfl, rfl⟩ | ⟨rfl, rfl⟩ | ⟨rfl, rfl⟩ | ⟨rfl, rfl⟩ |
    ⟨rfl, rfl⟩ | ⟨rfl, rfl⟩
  · refine answer_writesSingle (fun _ => ?_) r h.of_task
    exact Except.ensures_bind.mpr fun _ _ => Except.ensures_ok.mpr Reply.single_ok
  · refine answer_writesSingle (fun _ => ?_) r h.of_task
    exact Except.ensures_bind.mpr fun _ _ => Except.ensures_ok.mpr Reply.single_ok
  · refine answer_writesSingle (fun _ => ?_) r h.of_task
    exact Except.ensures_bind.mpr fun _ _ => Except.ensures_ok.mpr Reply.single_ok
  · exact Subscriptions.devices_writesSingle s task r h.of_task
  · exact Subscriptions.groups_writesSingle s task r h.of_task
  · exact Subscriptions.on_writesSingle s task r h.of_task
  · exact Subscriptions.off_writesSingle s task (hheard rfl) r h.of_task
  · exact absurd h Action.Ran.not_transport

theorem Connections.forwardGroups_writesSingle (deviceKey : Task → Except Fault String)
    (command : String) (s : Connections) (task : Task) :
    (Connections.forwardGroups Codec.api deviceKey command env ctx s task).Ensures
      fun r => ctx.Sends WritesSingle r.2 := by
  unfold Connections.forwardGroups
  refine Except.ensures_bind.mpr fun _ _ => Except.ensures_ite (fun _ => failed_writesSingle) fun _ => ?_
  refine catchStd_ensures ?_ fun what => failed_writesSingle
  refine Except.ensures_bind.mpr fun _ _ => ?_
  exact Except.ensures_ite (fun _ => failed_writesSingle) fun _ => forward_writesSingle

theorem Connections.unsubscribe_writesSingle (s : Connections) (task : Task) :
    (Connections.unsubscribe Codec.api env ctx s task).Ensures
      fun r => ctx.Sends WritesSingle r.2 := by
  unfold Connections.unsubscribe
  refine Except.ensures_bind.mpr fun _ _ => Except.ensures_ite (fun _ => failed_writesSingle) fun _ => ?_
  exact catchStd_ensures forward_writesSingle fun what => failed_writesSingle

theorem Connections.writesSingle {s : Connections} {command : String}
    {action : Action α Connections} {task : Task} {r : Connections × List (Envelope α)}
    (hmem : (command, action) ∈ Connections.handlers Codec.api)
    (h : Action.Ran env ctx s action (.task task) r) : ctx.Sends WritesSingle r.2 := by
  simp only [Connections.handlers, List.mem_cons, Prod.mk.injEq, List.not_mem_nil, or_false] at hmem
  rcases hmem with ⟨rfl, rfl⟩ | ⟨rfl, rfl⟩ | ⟨rfl, rfl⟩ | ⟨rfl, rfl⟩ | ⟨rfl, rfl⟩ | ⟨rfl, rfl⟩ |
    ⟨rfl, rfl⟩
  · refine answer_writesSingle (fun _ => ?_) r h.of_task
    exact Except.ensures_bind.mpr fun _ _ => Except.ensures_ok.mpr Reply.single_ok
  · refine answer_writesSingle (fun _ => ?_) r h.of_task
    exact Except.ensures_bind.mpr fun _ _ => Except.ensures_ok.mpr Reply.single_ok
  · refine answer_writesSingle (fun _ => ?_) r h.of_task
    exact Except.ensures_bind.mpr fun _ _ => Except.ensures_ok.mpr Reply.single_ok
  · refine answer_writesSingle (fun _ => ?_) r h.of_task
    exact Except.ensures_bind.mpr fun _ _ => Except.ensures_bind.mpr fun _ _ =>
      Except.ensures_ok.mpr Reply.single_ok
  · exact Connections.forwardGroups_writesSingle _ _ s task r h.of_task
  · exact Connections.forwardGroups_writesSingle _ _ s task r h.of_task
  · exact Connections.unsubscribe_writesSingle s task r h.of_task

theorem Devices.detail_writesSingle (s : Devices) (task : Task) :
    (Devices.detail Codec.api env ctx s task).Ensures fun r => ctx.Sends WritesSingle r.2 := by
  refine answer_writesSingle fun key => Except.ensures_bind.mpr fun _ _ => ?_
  split
  · exact Except.ensures_ok.mpr Reply.single_ok
  · exact Except.ensures_bind.mpr fun _ _ => Except.ensures_bind.mpr fun _ _ =>
      Except.ensures_ok.mpr Reply.single_ok

theorem Devices.control_writesSingle (s : Devices) (task : Task) :
    (Devices.control Codec.api env ctx s task).Ensures fun r => ctx.Sends WritesSingle r.2 := by
  unfold Devices.control
  refine Except.ensures_ite (fun _ => ?_) fun _ => failed_writesSingle
  exact Except.ensures_bind.mpr fun _ _ => Except.ensures_ite (fun _ => forward_writesSingle)
    fun _ => failed_writesSingle

theorem Devices.request_writesSingle (s : Devices) (task : Task) :
    (Devices.request Codec.api env ctx s task).Ensures fun r => ctx.Sends WritesSingle r.2 := by
  unfold Devices.request
  refine Except.ensures_bind.mpr fun deviceKey _ => ?_
  dsimp only
  split
  · exact Except.ensures_bind.mpr fun _ _ =>
      Ctx.send_sends_return (writesSingle_of_text (singleText_request _))
  · exact failed_writesSingle

theorem Devices.forwardRegistered_writesSingle (command : String) (s : Devices) (task : Task) :
    (Devices.forwardRegistered Codec.api command env ctx s task).Ensures
      fun r => ctx.Sends WritesSingle r.2 := by
  unfold Devices.forwardRegistered
  exact Except.ensures_bind.mpr fun _ _ => Except.ensures_ite (fun _ => forward_writesSingle)
    fun _ => failed_writesSingle

/-- A device with a row connects with something else than a string among its
actions or its variables. -/
structure Devices.ConnectUnread (env : Env) (s : Devices) (task : Task) (key : String)
    (actionArray variableArray : JsonArray) : Prop where
  params : Devices.connectParams task = .ok (key, actionArray, variableArray)
  db : env.db = none
  row : (s.table.find? (.bind key)).isSome
  unread : ∃ v ∈ actionArray ++ variableArray, ∀ text, v ≠ .string text

theorem Devices.stringSet_returns_iff {values : JsonArray} :
    (Devices.stringSet values).Returns ↔ ∀ v ∈ values, ∃ text, v = .string text := by
  have hbind : (Devices.stringSet values).Returns ↔ (values.mapM JsonValue.asString).Returns := by
    rw [Devices.stringSet, Except.returns_bind]
    exact exists_congr fun strings => and_iff_left Except.returns_ok
  rw [hbind, Except.returns_mapM]
  exact forall₂_congr fun v _ => exists_congr fun text => JsonValue.asString_eq_ok

/-- An array that cannot be read as strings is an exception. -/
theorem Devices.stringSet_eq_error {values : JsonArray} (h : ¬ (Devices.stringSet values).Returns) :
    Devices.stringSet values = .error JsonValue.badGet := by
  have hread : ¬ (values.mapM JsonValue.asString).Returns → values.mapM JsonValue.asString =
      .error JsonValue.badGet := by
    clear h
    induction values with
    | nil => exact fun h => absurd ⟨[], rfl⟩ h
    | cons v values ih =>
      intro h
      rw [List.mapM_cons] at h ⊢
      cases v with
      | string text =>
        have hrest : ¬ (values.mapM JsonValue.asString).Returns := by
          rintro ⟨strings, hstrings⟩
          exact h ⟨text :: strings, by rw [hstrings]; rfl⟩
        rw [ih hrest]
        rfl
      | _ => rfl
  rw [Devices.stringSet, hread]
  · rfl
  · rintro ⟨strings, hstrings⟩
    exact h ⟨_, by rw [Devices.stringSet, hstrings]; rfl⟩

theorem Devices.connectUnread_iff {s : Devices} {task : Task} {key : String}
    {actionArray variableArray : JsonArray} :
    Devices.ConnectUnread env s task key actionArray variableArray ↔
      Devices.connectParams task = .ok (key, actionArray, variableArray) ∧ env.db = none ∧
        (s.table.find? (.bind key)).isSome ∧
        ¬ ((Devices.stringSet actionArray).Returns ∧ (Devices.stringSet variableArray).Returns) := by
  have hread : (∃ v ∈ actionArray ++ variableArray, ∀ text, v ≠ .string text) ↔
      ¬ ((Devices.stringSet actionArray).Returns ∧ (Devices.stringSet variableArray).Returns) := by
    rw [Devices.stringSet_returns_iff, Devices.stringSet_returns_iff, ← List.forall_mem_append]
    simp only [not_forall, not_exists, exists_prop, ne_eq]
  rw [← hread]
  exact ⟨fun h => ⟨h.params, h.db, h.row, h.unread⟩, fun ⟨hparams, hdb, hrow, hunread⟩ =>
    ⟨hparams, hdb, hrow, hunread⟩⟩

/-- The `try` around the arrays of a device, with the result set before they are read. -/
theorem Devices.connectBody_of_row {s : Devices} {task : Task} {key : String}
    {actionArray variableArray : JsonArray} (hdb : env.db = none)
    (hrow : (s.table.find? (.bind key)).isSome) :
    Devices.connectBody env s task (key, actionArray, variableArray) =
      if actionArray.isEmpty && variableArray.isEmpty then
        .ok (s, .failed "device control contains actions and/or variables")
      else
        catchStd (do
          let deviceActions ← Devices.stringSet actionArray
          let deviceVariables ← Devices.stringSet variableArray
          return (s.addRegDevice key task.transportId deviceActions deviceVariables,
            .ok (.boolean true)))
          fun what => .ok (s, { result := .boolean true, error := some what }) := by
  unfold Devices.connectBody
  simp only [hdb, Db.execute, Except.ok_bind', hrow, if_true]
  rfl

theorem Devices.connectBody_single {s : Devices} {task : Task} {key : String}
    {actionArray variableArray : JsonArray}
    (hparams : Devices.connectParams task = .ok (key, actionArray, variableArray))
    (hread : ¬ Devices.ConnectUnread env s task key actionArray variableArray) :
    (Devices.connectBody env s task (key, actionArray, variableArray)).Ensures
      fun r => r.2.Single := by
  cases hdb : env.db with
  | some what =>
    unfold Devices.connectBody
    rw [hdb]
    exact Except.ensures_error
  | none =>
    by_cases hrow : (s.table.find? (.bind key)).isSome
    · rw [Devices.connectBody_of_row hdb hrow]
      refine Except.ensures_ite (fun _ => Except.ensures_ok.mpr Reply.single_failed) fun _ => ?_
      -- without an unread element neither array throws, so that the result stays alone
      have hreturns : (Devices.stringSet actionArray).Returns ∧ (Devices.stringSet variableArray).Returns := by
        by_contra hnot
        exact hread (Devices.connectUnread_iff.mpr ⟨hparams, hdb, hrow, hnot⟩)
      obtain ⟨⟨deviceActions, hactions⟩, deviceVariables, hvariables⟩ := hreturns
      rw [hactions, hvariables]
      exact Except.ensures_ok.mpr Reply.single_ok
    · unfold Devices.connectBody
      simp only [hdb, Db.execute, Except.ok_bind', if_neg hrow]
      exact Except.ensures_ok.mpr Reply.single_failed

/-- What is filled in for a device with an array that cannot be read. -/
theorem Devices.connectBody_unread {s : Devices} {task : Task} {key : String}
    {actionArray variableArray : JsonArray}
    (h : Devices.ConnectUnread env s task key actionArray variableArray) :
    ∃ what, Devices.connectBody env s task (key, actionArray, variableArray) =
      .ok (s, { result := .boolean true, error := some what }) := by
  obtain ⟨-, hdb, hrow, hunread⟩ := Devices.connectUnread_iff.mp h
  have hnonempty : (actionArray.isEmpty && variableArray.isEmpty) = false := by
    obtain ⟨v, hv, -⟩ := h.unread
    rcases List.mem_append.mp hv with hv | hv
    · rw [List.isEmpty_eq_false_iff.mpr (List.ne_nil_of_mem hv), Bool.false_and]
    · rw [List.isEmpty_eq_false_iff.mpr (List.ne_nil_of_mem hv), Bool.and_false]
  rw [Devices.connectBody_of_row hdb hrow, hnonempty]
  by_cases hactions : (Devices.stringSet actionArray).Returns
  · obtain ⟨deviceActions, hactions'⟩ := hactions
    have hvariables : ¬ (Devices.stringSet variableArray).Returns :=
      fun hvariables => hunread ⟨⟨_, hactions'⟩, hvariables⟩
    rw [hactions', Devices.stringSet_eq_error hvariables]
    exact ⟨_, rfl⟩
  · rw [Devices.stringSet_eq_error hactions]
    exact ⟨_, rfl⟩

theorem Devices.connect_writesSingle (s : Devices) (task : Task)
    (hread : ∀ key actionArray variableArray,
      ¬ Devices.ConnectUnread env s task key actionArray variableArray) :
    (Devices.connect Codec.api env ctx s task).Ensures fun r => ctx.Sends WritesSingle r.2 := by
  rintro ⟨s', out⟩ hout
  obtain ⟨⟨key, actionArray, variableArray⟩, reply, hparams, hreply, hresponse⟩ :=
    Ctx.answer_eq_ok.mp hout
  refine respond_writesSingle ?_ out hresponse
  exact attempt_single (Devices.connectBody_single hparams (hread _ _ _)) _ hreply

theorem Devices.connect_unread {s : Devices} {task : Task} {key : String}
    {actionArray variableArray : JsonArray} {ws : α}
    (h : Devices.ConnectUnread env s task key actionArray variableArray)
    (hws : ctx.contacts.lookup "ws" = some ws) :
    ∃ what, Devices.connect Codec.api env ctx s task = .ok (s, [ctx.response Codec.api ws task
      { result := .boolean true, error := some what }]) := by
  obtain ⟨what, hbody⟩ := Devices.connectBody_unread h
  refine ⟨what, Ctx.answer_eq_ok.mpr ⟨_, _, h.params, ?_, Ctx.respond_of_contact hws⟩⟩
  rw [if_pos rfl, attempt, hbody]
  rfl

theorem Devices.writesSingle {s : Devices} {command : String} {action : Action α Devices}
    {task : Task} {r : Devices × List (Envelope α)}
    (hmem : (command, action) ∈ Devices.handlers Codec.api)
    (h : Action.Ran env ctx s action (.task task) r)
    (hread : command = "connect" → ∀ key actionArray variableArray,
      ¬ Devices.ConnectUnread env s task key actionArray variableArray) :
    ctx.Sends WritesSingle r.2 := by
  simp only [Devices.handlers, List.mem_cons, Prod.mk.injEq, List.not_mem_nil, or_false] at hmem
  rcases hmem with ⟨rfl, rfl⟩ | ⟨rfl, rfl⟩ | ⟨rfl, rfl⟩ | ⟨rfl, rfl⟩ | ⟨rfl, rfl⟩ | ⟨rfl, rfl⟩ | ⟨rfl, rfl⟩ |
    ⟨rfl, rfl⟩ | ⟨rfl, rfl⟩ | ⟨rfl, rfl⟩ | ⟨rfl, rfl⟩ | ⟨rfl, rfl⟩
  · refine answer_writesSingle (fun _ => ?_) r h.of_task
    exact Except.ensures_bind.mpr fun _ _ => Except.ensures_bind.mpr fun _ _ =>
      Except.ensures_ok.mpr Reply.single_ok
  · refine answer_writesSingle (fun _ => ?_) r h.of_task
    exact Except.ensures_bind.mpr fun _ _ => Except.ensures_ok.mpr Reply.single_ok
  · refine answer_writesSingle (fun _ => ?_) r h.of_task
    exact Except.ensures_bind.mpr fun _ _ => Except.ensures_ok.mpr Reply.single_ok
  · exact Devices.detail_writesSingle s task r h.of_task
  · exact Devices.control_writesSingle s task r h.of_task
  · exact Devices.connect_writesSingle s task (hread rfl) r h.of_task
  · obtain ⟨key, -, h⟩ := Except.bind_eq_ok.mp h.of_task
    cases h
    exact Ctx.sends_nil
  · exact Devices.request_writesSingle s task r h.of_task
  · exact absurd h Action.Ran.not_transport
  · exact absurd h Action.Ran.not_transport
  · exact Devices.forwardRegistered_writesSingle _ s task r h.of_task
  · exact Devices.forwardRegistered_writesSingle _ s task r h.of_task

theorem Router.request_writesSingle (config : Config) (id : String) (message : JsonMap) :
    (Router.request Codec.api config ctx id message).Ensures (ctx.Sends WritesSingle) := by
  unfold Router.request
  refine Except.ensures_bind.mpr fun r _ => ?_
  dsimp only
  split
  · refine Except.ensures_ite (fun _ => Ctx.send_sends writesSingle_task) fun _ => ?_
    exact Except.ensures_ite (fun _ => Ctx.send_sends writesSingle_task)
      fun _ => respond_writesSingle Reply.single_failed
  · exact respond_writesSingle Reply.single_failed

theorem Router.dispatcher_writesSingle (config : Config) (s : Unit) (transport : Transport) :
    (Router.dispatcher Codec.api config env ctx s transport).Ensures
      fun r => ctx.Sends WritesSingle r.2 := by
  unfold Router.dispatcher
  refine Except.ensures_bind.mpr fun _ _ => Except.ensures_bind.mpr fun _ _ => ?_
  refine Except.ensures_ite (fun _ => ?_) fun _ => Except.ensures_ite (fun _ => ?_) fun _ =>
    Except.ensures_ite (fun _ => ?_) fun _ => Except.ensures_ok.mpr Ctx.sends_nil
  · exact (Router.request_writesSingle config _ _).andThen fun _ hout => Except.ensures_ok.mpr hout
  · exact Ctx.send_sends_return fun hcommand => absurd hcommand (by decide)
  · exact Ctx.send_sends_return fun hcommand => absurd hcommand (by decide)

theorem Router.service_writesSingle (s : Unit) (task : Task) :
    (Router.service Codec.api env ctx s task).Ensures fun r => ctx.Sends WritesSingle r.2 := by
  unfold Router.service
  dsimp only
  refine Except.ensures_ite (fun _ => ?_) fun _ => failed_writesSingle
  refine Except.ensures_bind.mpr fun _ _ => Except.ensures_ite (fun _ => ?_)
    fun _ => failed_writesSingle
  exact Except.ensures_ite (fun _ => forward_writesSingle) fun _ => failed_writesSingle

end Manager

/-- What a router does about a broken session writes nothing. -/
theorem socketError_writesSingle {ctx : Ctx α} {s : Unit} {transport : Transport} :
    (do return (s, ← ctx.socketError transport) :
      Except Fault (Unit × List (Envelope α))).Ensures fun r => ctx.Sends WritesSingle r.2 := by
  have hsends : (ctx.socketError transport).Ensures (ctx.Sends WritesSingle) :=
    Ctx.socketError_sends (fun _ hcommand => absurd hcommand (by decide))
      fun _ hcommand => absurd hcommand (by decide)
  exact hsends.andThen fun _ hout => Except.ensures_ok.mpr hout

namespace Manager

theorem Router.writesSingle {config : Config} {env : Env} {ctx : Ctx α} {s : Unit}
    {command : String} {action : Action α Unit} {body : Body α} {r : Unit × List (Envelope α)}
    (hmem : (command, action) ∈ Router.handlers Codec.api config)
    (h : Action.Ran env ctx s action body r) : ctx.Sends WritesSingle r.2 := by
  simp only [Router.handlers, List.mem_cons, Prod.mk.injEq, List.not_mem_nil, or_false] at hmem
  rcases hmem with ⟨rfl, rfl⟩ | ⟨rfl, rfl⟩ | ⟨rfl, rfl⟩ <;> cases h with | _ h
  · exact Router.dispatcher_writesSingle config s _ r h
  · exact Router.service_writesSingle s _ r h
  · exact socketError_writesSingle r h

/-- The messages on which the manager answers with both: a session unsubscribes
from a device that it does not listen to, or a device with a row connects with
something else than strings. -/
inductive AnswersBoth (env : Env) (n : State) (e : Envelope Actor) : Prop
  | off {task : Task} {deviceKey : String} : e.dest = .subscriptions → e.command = "off" →
      e.body = .task task → n.services.subscriptions.OffUnheard task deviceKey → AnswersBoth env n e
  | connect {task : Task} {key : String} {actionArray variableArray : JsonArray} :
      e.dest = .devices → e.command = "connect" → e.body = .task task →
      Devices.ConnectUnread env n.services.devices task key actionArray variableArray →
      AnswersBoth env n e

/-- The messages whose handlers make up a response: the tasks, and the frames that
the router reads. Every other frame is handed on as it came. -/
def IsAnswered (e : Envelope Actor) : Prop := (∃ task, e.body = .task task) ∨ e.dest = .router

theorem not_both_of_handle {config : Config} {env : Env} {n n' : State} {e : Envelope Actor}
    {out : List (Envelope Actor)} (hanswered : IsAnswered e) (hboth : ¬ AnswersBoth env n e)
    (h : handle Codec.api config env n e = .ok (n', out)) {msg : ResponseMessage}
    (hwrites : Writes out msg) : ¬ msg.Both := by
  cases Program.handled_of_eq_ok h with
  | syncContacts => exact (not_writes_nil hwrites).elim
  | addChannel => exact (not_writes_nil hwrites).elim
  | skip => exact (not_writes_skip hwrites).elim
  | @attached action services out _ hmem hran =>
    refine @not_both_of_sends _ ((program Codec.api config).ctx n e.dest) _ _ ?_ hwrites
    obtain ⟨dest, sender, command, body⟩ := e
    cases dest <;> obtain ⟨inner, hinner, rfl⟩ := mem_liftAll.mp hmem <;>
      obtain ⟨component, hinnerRan, rfl⟩ := hran.of_lift
    case router => exact Router.writesSingle hinner hinnerRan
    all_goals obtain ⟨task, rfl⟩ := hanswered.resolve_right (by simp)
    case users => exact Users.writesSingle hinner hinnerRan
    case groups => exact Groups.writesSingle hinner hinnerRan
    case subscriptions =>
      refine Subscriptions.writesSingle hinner hinnerRan ?_
      rintro rfl deviceKey hunheard
      exact hboth (.off rfl rfl rfl hunheard)
    case connections => exact Connections.writesSingle hinner hinnerRan
    case devices =>
      refine Devices.writesSingle hinner hinnerRan ?_
      rintro rfl key actionArray variableArray hunread
      exact hboth (.connect rfl rfl rfl hunread)
    case managerInfo =>
      obtain ⟨-, rfl⟩ := Prod.mk.inj (List.mem_singleton.mp hinner)
      exact respond_return_writesSingle Reply.single_ok _ hinnerRan.of_task
    case platform =>
      simp only [PlatformService.handlers, List.mem_cons, Prod.mk.injEq, List.not_mem_nil, or_false]
        at hinner
      rcases hinner with ⟨-, rfl⟩ | ⟨-, rfl⟩ | ⟨-, rfl⟩ | ⟨-, rfl⟩ <;>
        exact absurd hinnerRan Action.Ran.not_transport
    case ws =>
      rcases WsServer.out_of_ran hinner hinnerRan with rfl | ⟨-, ws, hws, -⟩
      · exact Ctx.sends_nil
      · cases hws
    case client =>
      obtain rfl := WsClient.out_of_ran hinner hinnerRan
      exact Ctx.sends_nil
    case http =>
      obtain rfl := HttpServer.out_of_ran hinner hinnerRan
      exact Ctx.sends_nil

/-- A response with both is written exactly on these messages. -/
theorem answers_both_iff {config : Config} {env : Env} {n : State} {e : Envelope Actor}
    (hn : n.contacts = contacts) (hanswered : IsAnswered e) :
    (∃ n' out msg, handle Codec.api config env n e = .ok (n', out) ∧ Writes out msg ∧ msg.Both) ↔
      AnswersBoth env n e := by
  constructor
  · rintro ⟨n', out, msg, hout, hwrites, hmsg⟩
    by_contra hboth
    exact not_both_of_handle hanswered hboth hout hwrites hmsg
  · intro hboth
    obtain ⟨dest, sender, command, body⟩ := e
    have hlookup (a : Actor) : ((program Codec.api config).ctx n a).contacts.lookup "ws" =
        (contacts a).lookup "ws" := by rw [← hn]; rfl
    cases hboth with
    | @off task deviceKey hdest hcommand hbody hunheard =>
      dsimp only at hdest hcommand hbody
      subst hdest hcommand hbody
      have hws := (hlookup .subscriptions).trans rfl
      exact writes_both_of_handle rfl rfl (Subscriptions.off_unheard hunheard hws)
    | @connect task key actionArray variableArray hdest hcommand hbody hunread =>
      dsimp only at hdest hcommand hbody
      subst hdest hcommand hbody
      have hws := (hlookup .devices).trans rfl
      obtain ⟨what, hconnect⟩ := Devices.connect_unread hunread hws
      exact writes_both_of_handle rfl rfl hconnect

end Manager

/-! ## The platform -/

namespace Platform

section Services

variable {env : Env} {ctx : Ctx α}

theorem Profile.auth_writesSingle (s : Profile) (task : Task) :
    (Profile.auth Codec.api env ctx s task).Ensures fun r => ctx.Sends WritesSingle r.2 := by
  unfold Profile.auth
  refine Except.ensures_bind.mpr fun profileKey _ => Except.ensures_ite (fun _ => ?_) fun _ => ?_
  · exact Except.ensures_bind.mpr fun _ _ => forward_writesSingle
  · refine catchStd_ensures ?_ fun what => failed_writesSingle
    refine Except.ensures_bind.mpr fun _ _ => Except.ensures_bind.mpr fun _ _ =>
      Except.ensures_bind.mpr fun _ _ => ?_
    refine Except.ensures_ite (fun _ => ?_) fun _ => failed_writesSingle
    exact Except.ensures_bind.mpr fun _ _ => forward_writesSingle

theorem Profile.writesSingle {s : Profile} {command : String} {action : Action α Profile}
    {task : Task} {r : Profile × List (Envelope α)}
    (hmem : (command, action) ∈ Profile.handlers Codec.api)
    (h : Action.Ran env ctx s action (.task task) r) : ctx.Sends WritesSingle r.2 := by
  simp only [Profile.handlers, List.mem_cons, Prod.mk.injEq, List.not_mem_nil, or_false] at hmem
  rcases hmem with ⟨rfl, rfl⟩ | ⟨rfl, rfl⟩ | ⟨rfl, rfl⟩
  · refine answer_writesSingle (fun _ => ?_) r h.of_task
    exact Except.ensures_bind.mpr fun _ _ => Except.ensures_bind.mpr fun _ _ =>
      Except.ensures_ok.mpr Reply.single_ok
  · refine answer_writesSingle (fun _ => ?_) r h.of_task
    exact Except.ensures_bind.mpr fun _ _ => Except.ensures_ite
      (fun _ => Except.ensures_ok.mpr Reply.single_ok) fun _ => Except.ensures_ok.mpr Reply.single_failed
  · exact Profile.auth_writesSingle s task r h.of_task

/-- What the `try` of `add` and of `delete` leaves: messages that write single
texts, and a reply of one member. -/
structure Managers.Collected (ctx : Ctx α) (r : Managers × Reply × List (Envelope α)) : Prop where
  reply : r.2.1.Single
  out : ctx.Sends WritesSingle r.2.2

theorem Managers.Collected.failed {s : Managers} {what : String} :
    Managers.Collected ctx (s, .failed what, []) := ⟨Reply.single_failed, Ctx.sends_nil⟩

/-- A handler that sends what its `try` collected, and then the response. -/
theorem Managers.append_respond_writesSingle {task : Task}
    {r : Managers × Reply × List (Envelope α)} (h : Managers.Collected ctx r) :
    (do return (r.1, r.2.2 ++ (← ctx.respond Codec.api task r.2.1)) :
      Except Fault (Managers × List (Envelope α))).Ensures fun r => ctx.Sends WritesSingle r.2 :=
  (respond_writesSingle h.reply).andThen fun _ hout => Except.ensures_ok.mpr (h.out.append hout)

theorem Managers.text_writesSingle {http : α} (hhttp : ctx.contacts.lookup "http" = some http)
    (command text : String) : ctx.Sends WritesSingle [⟨http, ctx.self, command, .text text⟩] :=
  Ctx.send_sends writesSingle_text _ (Ctx.send_of_contact hhttp)

/-- The url can be sent, so that no error is added to the result. -/
theorem Managers.add_writesSingle {http : α} (hhttp : ctx.contacts.lookup "http" = some http) (s : Managers)
    (task : Task) : (Managers.add Codec.api env ctx s task).Ensures fun r => ctx.Sends WritesSingle r.2 := by
  unfold Managers.add
  refine Except.ensures_bind.mpr fun name _ => ?_
  refine Except.Ensures.andThen (P := Managers.Collected ctx) ?_
    fun r hr => Managers.append_respond_writesSingle hr
  refine Except.ensures_ite (fun _ => ?_) fun _ => Except.ensures_ok.mpr .failed
  refine catchStd_ensures ?_ fun what => Except.ensures_ok.mpr .failed
  refine Except.ensures_bind.mpr fun _ _ => Except.ensures_bind.mpr fun _ _ => ?_
  rw [Ctx.send_of_contact hhttp]
  exact Except.ensures_ok.mpr ⟨Reply.single_ok, Managers.text_writesSingle hhttp _ _⟩

theorem Managers.writeDisconnect_writesSingle (s : Managers) (task : Task) (key : String) :
    (Managers.writeDisconnect Codec.api ctx s task key).Ensures (ctx.Sends WritesSingle) := by
  unfold Managers.writeDisconnect
  split
  · exact Ctx.send_sends (writesSingle_of_text (singleText_request _))
  · exact Except.ensures_ok.mpr Ctx.sends_nil

theorem Managers.delete_writesSingle {http ws : α} (hhttp : ctx.contacts.lookup "http" = some http)
    (hws : ctx.contacts.lookup "ws" = some ws) (s : Managers) (task : Task) :
    (Managers.delete Codec.api env ctx s task).Ensures fun r => ctx.Sends WritesSingle r.2 := by
  have hrespond : ∀ reply : Reply, reply.Single → ctx.Sends WritesSingle [ctx.response Codec.api ws task reply] :=
    fun reply hsingle => respond_writesSingle hsingle _ (Ctx.respond_of_contact hws)
  refine fun r hr => ?_
  obtain ⟨key, hkey, -⟩ := Except.bind_eq_ok.mp hr
  by_cases hfails : key = "" ∨ env.db ≠ none
  · obtain ⟨what, heq⟩ := Managers.delete_eq_failed Codec.api (s := s) hkey hws hfails
    obtain rfl := Except.ok.inj (heq.symm.trans hr)
    exact hrespond _ Reply.single_failed
  · push Not at hfails
    obtain ⟨message, hmessage, heq⟩ := Managers.delete_eq Codec.api (s := s) hkey hws hfails.1 hfails.2 hhttp
    obtain rfl := Except.ok.inj (heq.symm.trans hr)
    exact (Managers.text_writesSingle hhttp _ _).append ((Managers.writeDisconnect_writesSingle s task key _ hmessage).append
      (hrespond _ Reply.single_ok))

theorem Managers.connect_writesSingle (s : Managers) (task : Task) :
    (Managers.connect Codec.api env ctx s task).Ensures fun r => ctx.Sends WritesSingle r.2 := by
  refine answer_writesSingle fun key => Except.ensures_bind.mpr fun _ _ => ?_
  exact Except.ensures_ite (fun _ => Except.ensures_ok.mpr Reply.single_ok)
    fun _ => Except.ensures_ok.mpr Reply.single_failed

theorem Managers.request_writesSingle (s : Managers) (task : Task) :
    (Managers.request Codec.api env ctx s task).Ensures fun r => ctx.Sends WritesSingle r.2 := by
  unfold Managers.request
  refine Except.ensures_bind.mpr fun managerKey _ => ?_
  dsimp only
  split
  · exact Ctx.send_sends_return (writesSingle_of_text (singleText_request _))
  · exact failed_writesSingle

theorem Managers.writesSingle {s : Managers} {command : String} {action : Action α Managers}
    {task : Task} {r : Managers × List (Envelope α)} {http ws : α}
    (hhttp : ctx.contacts.lookup "http" = some http) (hws : ctx.contacts.lookup "ws" = some ws)
    (hmem : (command, action) ∈ Managers.handlers Codec.api)
    (h : Action.Ran env ctx s action (.task task) r) : ctx.Sends WritesSingle r.2 := by
  simp only [Managers.handlers, List.mem_cons, Prod.mk.injEq, List.not_mem_nil, or_false] at hmem
  rcases hmem with ⟨rfl, rfl⟩ | ⟨rfl, rfl⟩ | ⟨rfl, rfl⟩ | ⟨rfl, rfl⟩ | ⟨rfl, rfl⟩ | ⟨rfl, rfl⟩ |
    ⟨rfl, rfl⟩
  · exact Managers.add_writesSingle hhttp s task r h.of_task
  · exact Managers.delete_writesSingle hhttp hws s task r h.of_task
  · refine answer_writesSingle (fun _ => ?_) r h.of_task
    exact Except.ensures_bind.mpr fun _ _ => Except.ensures_ok.mpr Reply.single_ok
  · exact Managers.connect_writesSingle s task r h.of_task
  · obtain ⟨key, -, h⟩ := Except.bind_eq_ok.mp h.of_task
    cases h
    exact Ctx.sends_nil
  · exact Managers.request_writesSingle s task r h.of_task
  · exact absurd h Action.Ran.not_transport

theorem Router.request_writesSingle (id : String) (message : JsonMap) :
    (Router.request Codec.api ctx id message).Ensures (ctx.Sends WritesSingle) := by
  unfold Router.request
  refine Except.ensures_bind.mpr fun r _ => ?_
  refine Except.ensures_ite (fun _ => Ctx.send_sends writesSingle_task) fun _ => ?_
  split
  · refine Except.ensures_ite (fun _ => Ctx.send_sends writesSingle_task) fun _ => ?_
    exact Except.ensures_ite (fun _ => Ctx.send_sends writesSingle_task)
      fun _ => respond_writesSingle Reply.single_failed
  · exact respond_writesSingle Reply.single_failed

theorem Router.dispatcher_writesSingle (s : Unit) (transport : Transport) :
    (Router.dispatcher Codec.api env ctx s transport).Ensures
      fun r => ctx.Sends WritesSingle r.2 := by
  unfold Router.dispatcher
  refine Except.ensures_bind.mpr fun _ _ => Except.ensures_bind.mpr fun _ _ => ?_
  refine Except.ensures_ite (fun _ => ?_) fun _ => Except.ensures_ite (fun _ => ?_) fun _ =>
    Except.ensures_ite (fun _ => ?_) fun _ => Except.ensures_ok.mpr Ctx.sends_nil
  · exact (Router.request_writesSingle _ _).andThen fun _ hout => Except.ensures_ok.mpr hout
  · exact Ctx.send_sends_return fun hcommand => absurd hcommand (by decide)
  · exact Ctx.send_sends_return fun hcommand => absurd hcommand (by decide)

theorem Router.service_writesSingle (s : Unit) (task : Task) :
    (Router.service Codec.api env ctx s task).Ensures fun r => ctx.Sends WritesSingle r.2 := by
  unfold Router.service
  dsimp only
  refine Except.ensures_ite (fun _ => ?_) fun _ => failed_writesSingle
  exact Except.ensures_bind.mpr fun _ _ => Except.ensures_ite (fun _ => forward_writesSingle)
    fun _ => failed_writesSingle

theorem Router.writesSingle {s : Unit} {command : String} {action : Action α Unit} {body : Body α}
    {r : Unit × List (Envelope α)} (hmem : (command, action) ∈ Router.handlers Codec.api)
    (h : Action.Ran env ctx s action body r) : ctx.Sends WritesSingle r.2 := by
  simp only [Router.handlers, List.mem_cons, Prod.mk.injEq, List.not_mem_nil, or_false] at hmem
  rcases hmem with ⟨rfl, rfl⟩ | ⟨rfl, rfl⟩ | ⟨rfl, rfl⟩ <;> cases h with | _ h
  · exact Router.dispatcher_writesSingle s _ r h
  · exact Router.service_writesSingle s _ r h
  · exact socketError_writesSingle r h

end Services

/-- The messages whose handlers make up a response. -/
def IsAnswered (e : Envelope Actor) : Prop := (∃ task, e.body = .task task) ∨ e.dest = .router

theorem not_both_of_handle {managerKey : String} {env : Env} {n n' : State} {e : Envelope Actor}
    {out : List (Envelope Actor)} (hn : n.contacts = contacts) (hanswered : IsAnswered e)
    (h : handle Codec.api managerKey env n e = .ok (n', out)) {msg : ResponseMessage}
    (hwrites : Writes out msg) : ¬ msg.Both := by
  cases Program.handled_of_eq_ok h with
  | syncContacts => exact (not_writes_nil hwrites).elim
  | addChannel => exact (not_writes_nil hwrites).elim
  | skip => exact (not_writes_skip hwrites).elim
  | @attached action services out _ hmem hran =>
    refine @not_both_of_sends _ ((program Codec.api managerKey).ctx n e.dest) _ _ ?_ hwrites
    obtain ⟨dest, sender, command, body⟩ := e
    cases dest <;> obtain ⟨inner, hinner, rfl⟩ := mem_liftAll.mp hmem <;>
      obtain ⟨component, hinnerRan, rfl⟩ := hran.of_lift
    case router => exact Router.writesSingle hinner hinnerRan
    all_goals obtain ⟨task, rfl⟩ := hanswered.resolve_right (by simp)
    case profile => exact Profile.writesSingle hinner hinnerRan
    case managers =>
      have hhttp : (contacts .managers).lookup "http" = some .http := rfl
      have hws : (contacts .managers).lookup "ws" = some .ws := rfl
      exact Managers.writesSingle (lookup_of_wired hn hhttp) (lookup_of_wired hn hws) hinner hinnerRan
    case managerInfo =>
      obtain ⟨-, rfl⟩ := Prod.mk.inj (List.mem_singleton.mp hinner)
      exact respond_return_writesSingle Reply.single_ok _ hinnerRan.of_task
    case ws =>
      rcases WsServer.out_of_ran hinner hinnerRan with rfl | ⟨-, ws, hws, -⟩
      · exact Ctx.sends_nil
      · cases hws
    case http =>
      obtain rfl := HttpServer.out_of_ran hinner hinnerRan
      exact Ctx.sends_nil

end Platform

/-! ## The result -/

/-- No response that the handling of this message writes carries both. -/
def ReportsOne {S : Type} (handle : Work.Handler (Net α S) (Envelope α) Env Fault) (env : Env)
    (n : Net α S) (e : Envelope α) : Prop :=
  ∀ n' out msg, handle env n e = .ok (n', out) → Writes out msg → ¬ msg.Both

/-- In a wired program a response says that something went well or that it went wrong, unless a
session unsubscribes from what it does not listen to, or a device connects with
an array that holds something else than strings. -/
theorem reports_one_iff (config : Config) (managerKey : String) (env : Env) :
    (∀ (n : Manager.State) (e : Envelope Manager.Actor), n.contacts = Manager.contacts →
      Manager.IsAnswered e →
      (ReportsOne (Manager.handle Codec.api config) env n e ↔ ¬ Manager.AnswersBoth env n e)) ∧
    ∀ (n : Platform.State) (e : Envelope Platform.Actor), n.contacts = Platform.contacts →
      Platform.IsAnswered e →
      ReportsOne (Platform.handle Codec.api managerKey) env n e := by
  constructor
  · intro n e hn hanswered
    rw [← @Manager.answers_both_iff config env n e hn hanswered]
    exact ⟨fun h ⟨n', out, msg, hout, hwrites, hboth⟩ => h n' out msg hout hwrites hboth,
      fun h n' out msg hout hwrites hboth => h ⟨n', out, msg, hout, hwrites, hboth⟩⟩
  · intro n e hn hanswered n' out msg hout hwrites
    exact Platform.not_both_of_handle hn hanswered hout hwrites

/-- A session unsubscribes from a device that nobody listens to yet. -/
def unheardTask : Task where
  request := {
    id := .integer 1
    method := "connections.unsubscribe"
    params := .map [("device-key", .string "alice.lamp")]
    metadata := [] }
  transportId := "s"
  storage := ∅

/-- A manager at which one session listens to the device. -/
def otherListens : Manager.State :=
  { Manager.blank with services := { Manager.blank.services with subscriptions := {
      rows := []
      deviceSubscribes := (∅ : StringMap StringSet).insert "alice.lamp"
        ((∅ : StringSet).insert "other" ()) } } }

/-- A profile deletes a manager. -/
def removalTask : Task where
  request := {
    id := .integer 1
    method := "managers.delete"
    params := .map [("key", .string "alice.m")]
    metadata := [] }
  transportId := "s"
  storage := ∅

/-- The session that listens unsubscribes, and a manager is deleted. -/
theorem reports_one_iff_heard :
    ReportsOne (Manager.handle Codec.api ⟨"admin.admin", "manager"⟩) .calm otherListens
      { dest := .subscriptions, sender := .connections, command := "off",
        body := .task { unheardTask with transportId := "other" } } ∧
      ReportsOne (Platform.handle Codec.api "") .calm Platform.blank
        { dest := .managers, sender := .router, command := "delete", body := .task removalTask } := by
  have h := reports_one_iff ⟨"admin.admin", "manager"⟩ "" .calm
  refine ⟨(h.1 otherListens _ rfl (.inl ⟨_, rfl⟩)).mpr ?_, h.2 Platform.blank _ rfl (.inl ⟨_, rfl⟩)⟩
  intro hboth
  cases hboth with
  | off _ _ hbody hunheard =>
    obtain rfl := Body.task.inj hbody
    obtain rfl : "alice.lamp" = _ := Except.ok.inj hunheard.key
    exact hunheard.unheard (by decide)
  | connect hdest => cases hdest

/-- The session is told that it unsubscribed, and that it had unsubscribed already. -/
theorem unheard_reports_both :
    ¬ ReportsOne (Manager.handle Codec.api ⟨"admin.admin", "manager"⟩) .calm otherListens
      { dest := .subscriptions, sender := .connections, command := "off",
        body := .task unheardTask } := by
  intro h
  exact h _ _ _ rfl writes_response ⟨rfl, by simp [Reply.message]⟩

end StreamCloud
