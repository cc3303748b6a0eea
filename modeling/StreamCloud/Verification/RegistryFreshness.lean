-- SUMMARY: When the registries hold what the last connect announced, until it is taken back.
import StreamCloud.Manager.Flow
import StreamCloud.Platform.Flow
import StreamCloud.Api.JsonSorted

/-!
# Freshness of the registries

A connect that is answered without an error should be what the registry holds
until the next disconnect, delete or successful connect of the same key. The
registries emplace, so that a session that comes back without a disconnect
stays registered as it was.
-/

namespace StreamCloud

/-! ## The manager -/

namespace Manager

variable {J : Codec} {config : Config}

namespace Devices

variable {s : Devices} {key key' transportId : String} {actionArray variableArray : JsonArray}
  {deviceActions deviceVariables : StringSet}

/-- A device that is registered already stays as it is. -/
theorem addRegDevice_of_mem (hs : s.Aligned) (hkey : key ∈ s.devicesReg) :
    s.addRegDevice key transportId deviceActions deviceVariables = s := by
  have hactions : key ∈ s.deviceActionsReg := (hs key).1.mpr hkey
  have hvariables : key ∈ s.deviceVariablesReg := (hs key).2.mpr hkey
  simp only [addRegDevice, AList.emplace, if_pos hkey, if_pos hactions, if_pos hvariables]

theorem registered_addRegDevice_of_notMem (hs : s.Aligned) (hkey : key ∉ s.devicesReg)
    (hactions : stringSet actionArray = .ok deviceActions)
    (hvariables : stringSet variableArray = .ok deviceVariables) :
    (s.addRegDevice key transportId deviceActions deviceVariables).Registered key transportId
      actionArray variableArray := by
  have hnoActions : key ∉ s.deviceActionsReg := fun h => hkey ((hs key).1.mp h)
  have hnoVariables : key ∉ s.deviceVariablesReg := fun h => hkey ((hs key).2.mp h)
  simp only [addRegDevice, AList.emplace, if_neg hkey, if_neg hnoActions, if_neg hnoVariables]
  exact ⟨AList.lookup_insert _, ⟨_, AList.lookup_insert _, mem_stringSet hactions⟩,
    ⟨_, AList.lookup_insert _, mem_stringSet hvariables⟩⟩

/-- What a connect of a device leaves is what it announced, exactly if the
device was not registered or was registered just so. -/
theorem registered_addRegDevice_iff (hs : s.Aligned)
    (hactions : stringSet actionArray = .ok deviceActions)
    (hvariables : stringSet variableArray = .ok deviceVariables) :
    (s.addRegDevice key transportId deviceActions deviceVariables).Registered key transportId
        actionArray variableArray ↔
      key ∉ s.devicesReg ∨ s.Registered key transportId actionArray variableArray := by
  by_cases hkey : key ∈ s.devicesReg
  · rw [addRegDevice_of_mem hs hkey]
    simp [hkey]
  · exact iff_of_true (registered_addRegDevice_of_notMem hs hkey hactions hvariables) (.inl hkey)

/-- The registration of another device is left alone. -/
theorem Registered.addRegDevice (h : s.Registered key transportId actionArray variableArray)
    (hkey : key ≠ key') {transportId' : String} :
    (s.addRegDevice key' transportId' deviceActions deviceVariables).Registered key transportId
      actionArray variableArray where
  transport := (AList.lookup_emplace_ne hkey).trans h.transport
  deviceActions :=
    have ⟨set, hset, hmem⟩ := h.deviceActions
    ⟨set, (AList.lookup_emplace_ne hkey).trans hset, hmem⟩
  deviceVariables :=
    have ⟨set, hset, hmem⟩ := h.deviceVariables
    ⟨set, (AList.lookup_emplace_ne hkey).trans hset, hmem⟩

theorem Registered.removeRegDevice (h : s.Registered key transportId actionArray variableArray)
    (hkey : key ≠ key') :
    (s.removeRegDevice key').Registered key transportId actionArray variableArray where
  transport := (AList.lookup_erase_ne hkey).trans h.transport
  deviceActions :=
    have ⟨set, hset, hmem⟩ := h.deviceActions
    ⟨set, (AList.lookup_erase_ne hkey).trans hset, hmem⟩
  deviceVariables :=
    have ⟨set, hset, hmem⟩ := h.deviceVariables
    ⟨set, (AList.lookup_erase_ne hkey).trans hset, hmem⟩

theorem paramString_of_connectParams {task : Task}
    (h : connectParams task = .ok (key, actionArray, variableArray)) :
    task.paramString "key" = .ok key := by
  obtain ⟨key₁, hkey, h⟩ := Except.bind_eq_ok.mp h
  obtain ⟨actions, -, h⟩ := Except.bind_eq_ok.mp h
  obtain ⟨variables₁, -, h⟩ := Except.bind_eq_ok.mp h
  cases h
  exact hkey

/-- The three maps move together. -/
theorem Effect.aligned {env : Env} {s s' : Devices} {command : String} {body : Body Actor}
    (h : s.Effect env command body s') (hs : s.Aligned) : s'.Aligned := by
  cases h with
  | keep => exact hs
  | add => exact hs
  | delete => exact hs
  | connect hreply =>
    rcases connectReply_cases hreply with ⟨-, rfl⟩ | ⟨-, key, _, _, _, _, -, -, -, -, rfl⟩
    · exact hs
    · intro key'
      simp only [Devices.addRegDevice, AList.mem_emplace, hs key', and_self]
  | disconnect =>
    intro key'
    simp only [Devices.removeRegDevice, AList.mem_erase, hs key', and_self]

end Devices

/-- In every run the maps of the registry have the same keys. -/
theorem Run.aligned {guard : Env → State → Envelope Actor → Prop} {n₀ : State}
    {c : Work.Config State (Envelope Actor)} (h₀ : Initial n₀) (hrun : Run J config guard ⟨n₀, []⟩ c) :
    c.state.services.devices.Aligned := by
  have hinitial : n₀.services.devices.Aligned := by
    intro key
    rw [h₀.devicesReg, h₀.deviceActionsReg, h₀.deviceVariablesReg]
    simp
  refine (hrun.invariant (fun n => n.services.devices.Aligned) (fun _ => True) hinitial (by simp)
    (fun _ _ => trivial) fun env n e n' out hs _ _ h => ⟨?_, fun _ _ => trivial⟩).1
  rcases devices_effect h with hsame | ⟨-, heffect⟩
  · rw [hsame]
    exact hs
  · exact heffect.aligned hs

/-- The message with which a task is delivered to `devices.connect`. -/
def connectMessage (sender : Actor) (task : Task) : Envelope Actor :=
  { dest := .devices, sender, command := "connect", body := .task task }

/-- A message after which a device may be registered otherwise, or not at all. -/
inductive Ends (key : String) (env : Env) (n : State) : Envelope Actor → Prop
  | connect {sender : Actor} {task : Task} {devices : Devices} {reply : Reply} :
      task.paramString "key" = .ok key →
      Devices.connectReply env n.services.devices task = .ok (devices, reply) →
      reply.error = none → Ends key env n (connectMessage sender task)
  | delete {sender : Actor} {task : Task} : task.paramString "key" = .ok key →
      Ends key env n { dest := .devices, sender, command := "delete", body := .task task }
  | disconnect {sender : Actor} {task : Task} : task.paramString "key" = .ok key →
      Ends key env n { dest := .devices, sender, command := "disconnect", body := .task task }

/-- A device is registered as announced, and what is requested of it goes to
that session. -/
structure Fresh (J : Codec) (config : Config) (key transportId : String)
    (actionArray variableArray : JsonArray) (n : State) : Prop where
  registered : n.services.devices.Registered key transportId actionArray variableArray
  request : ∀ env sender task action, task.metadataString "device-key" = .ok key →
    task.paramString "action" = .ok action → ∃ text,
      handle J config env n { dest := .devices, sender, command := "request", body := .task task } =
        .ok (n, [{ dest := .ws, sender := .devices, command := "write",
                   body := .transport (.webSocket { id := transportId, body := text }) }])

/-- The device is registered as announced until a message ends it. -/
def StaysFresh (J : Codec) (config : Config) (key transportId : String)
    (actionArray variableArray : JsonArray) (c : Work.Config State (Envelope Actor)) : Prop :=
  ∀ c', Run J config (fun env n e => ¬ Ends key env n e) c c' →
    Fresh J config key transportId actionArray variableArray c'.state

theorem handle_connect {n : State} (hn : n.contacts = contacts) {env : Env} {sender : Actor}
    {task : Task} {devices : Devices} {reply : Reply}
    (hreply : Devices.connectReply env n.services.devices task = .ok (devices, reply)) :
    handle J config env n (connectMessage sender task) =
      .ok ({ n with services := { n.services with devices } },
        [((program J config).ctx n .devices).response J .ws task reply]) := by
  have hws : (contacts .devices).lookup "ws" = some .ws := rfl
  refine (Program.handle_task rfl rfl).trans ?_
  show (Devices.connect J env ((program J config).ctx n .devices) n.services.devices task).map _ = _
  rw [Devices.connect_eq_ok.mpr ⟨reply, hreply, Ctx.respond_of_contact (lookup_of_wired hn hws)⟩]
  rfl

/-- A registered device is sent what is requested of it. -/
theorem fresh_of_registered {n : State} (hn : n.contacts = contacts) {key transportId : String}
    {actionArray variableArray : JsonArray}
    (h : n.services.devices.Registered key transportId actionArray variableArray) :
    Fresh J config key transportId actionArray variableArray n := by
  refine ⟨h, fun env sender task action hkey haction =>
    ⟨(Devices.requestDeviceMessage task action).serialize J, ?_⟩⟩
  have hws : (contacts .devices).lookup "ws" = some .ws := rfl
  refine (Program.handle_task rfl rfl).trans ?_
  show (Devices.request J env _ n.services.devices task).map _ = _
  unfold Devices.request Ctx.writeTo
  rw [hkey]
  simp only [Except.ok_bind', h.transport, haction, Ctx.send_of_contact (lookup_of_wired hn hws)]
  rfl

/-- The step lemma: only a message that ends it changes a registration. -/
theorem registered_of_handle {env : Env} {n n' : State} {e : Envelope Actor}
    {out : List (Envelope Actor)} {key transportId : String} {actionArray variableArray : JsonArray}
    (h : n.services.devices.Registered key transportId actionArray variableArray)
    (hends : ¬ Ends key env n e) (hhandle : handle J config env n e = .ok (n', out)) :
    n'.services.devices.Registered key transportId actionArray variableArray := by
  rcases devices_effect hhandle with hsame | ⟨hdest, heffect⟩
  · rw [hsame]
    exact h
  · obtain ⟨dest, sender, command, body⟩ := e
    obtain rfl : dest = .devices := hdest
    generalize n'.services.devices = devices at heffect
    cases heffect with
    | keep => exact h
    | add => exact ⟨h.transport, h.deviceActions, h.deviceVariables⟩
    | delete => exact ⟨h.transport, h.deviceActions, h.deviceVariables⟩
    | connect hreply herror =>
      rcases Devices.connectReply_cases hreply with ⟨-, rfl⟩ | ⟨-, key', _, _, _, _, hparams, -, -, -, rfl⟩
      · exact h
      · refine h.addRegDevice ?_
        rintro rfl
        exact hends (.connect (Devices.paramString_of_connectParams hparams) hreply herror)
    | disconnect hkey =>
      refine h.removeRegDevice ?_
      rintro rfl
      exact hends (.disconnect hkey)

/-- The run lemma: a connect stays fresh exactly if what it leaves is what it
announced. -/
theorem staysFresh_iff {n : State} {pending : List (Envelope Actor)} (hn : n.contacts = contacts)
    (hplain : ∀ e ∈ pending, e.Plain) {key transportId : String}
    {actionArray variableArray : JsonArray} :
    StaysFresh J config key transportId actionArray variableArray ⟨n, pending⟩ ↔
      n.services.devices.Registered key transportId actionArray variableArray := by
  constructor
  · intro h
    exact (h _ (.refl _)).registered
  · intro h c' hrun
    obtain ⟨⟨hcontacts, hregistered⟩, -⟩ := hrun.invariant
      (fun n => n.contacts = contacts ∧
        n.services.devices.Registered key transportId actionArray variableArray)
      Envelope.Plain ⟨hn, h⟩ hplain (fun _ h => h.plain)
      fun env n e n' out hs hp hends hhandle => by
        obtain ⟨hcontacts, hout⟩ := handle_plain hhandle hp
        exact ⟨⟨hcontacts.trans hs.1, registered_of_handle hs.2 hends hhandle⟩, hout⟩
    exact fresh_of_registered hcontacts hregistered

end Manager

/-! ## The platform -/

namespace Platform

variable {J : Codec} {managerKey : String}

namespace Managers

/-- What a connect of a manager leaves is the session it came from, exactly if
the manager was not registered or was registered for that session. -/
theorem lookup_addRegManager_iff {s : Managers} {key transportId : String} :
    (s.addRegManager key transportId).managersReg.lookup key = some transportId ↔
      key ∉ s.managersReg ∨ s.managersReg.lookup key = some transportId := by
  unfold addRegManager
  rw [AList.lookup_emplace_self, ← AList.lookup_eq_none]
  cases s.managersReg.lookup key <;> simp

end Managers

/-- The message with which a task is delivered to `managers.connect`. -/
def connectMessage (sender : Actor) (task : Task) : Envelope Actor :=
  { dest := .managers, sender, command := "connect", body := .task task }

/-- A message after which a manager may be registered otherwise, or not at all. -/
inductive Ends (key : String) (env : Env) (n : State) : Envelope Actor → Prop
  | connect {sender : Actor} {task : Task} {managers : Managers} {reply : Reply} :
      task.paramString "key" = .ok key →
      Managers.connectReply env n.services.managers task = .ok (managers, reply) →
      reply.error = none → Ends key env n (connectMessage sender task)
  | delete {sender : Actor} {task : Task} : task.paramString "key" = .ok key →
      Ends key env n { dest := .managers, sender, command := "delete", body := .task task }
  | disconnect {sender : Actor} {task : Task} : task.paramString "key" = .ok key →
      Ends key env n { dest := .managers, sender, command := "disconnect", body := .task task }

/-- A manager is registered for a session, and what is requested of it goes to
that session. -/
structure Fresh (J : Codec) (managerKey key transportId : String) (n : State) : Prop where
  registered : n.services.managers.managersReg.lookup key = some transportId
  request : ∀ env sender task, task.metadataString "manager-key" = .ok key → ∃ text,
    handle J managerKey env n { dest := .managers, sender, command := "request", body := .task task } =
      .ok (n, [{ dest := .ws, sender := .managers, command := "write",
                 body := .transport (.webSocket { id := transportId, body := text }) }])

/-- The manager is registered for the session until a message ends it. -/
def StaysFresh (J : Codec) (managerKey key transportId : String)
    (c : Work.Config State (Envelope Actor)) : Prop :=
  ∀ c', Run J managerKey (fun env n e => ¬ Ends key env n e) c c' →
    Fresh J managerKey key transportId c'.state

theorem handle_connect {n : State} (hn : n.contacts = contacts) {env : Env} {sender : Actor}
    {task : Task} {managers : Managers} {reply : Reply}
    (hreply : Managers.connectReply env n.services.managers task = .ok (managers, reply)) :
    handle J managerKey env n (connectMessage sender task) =
      .ok ({ n with services := { n.services with managers } },
        [((program J managerKey).ctx n .managers).response J .ws task reply]) := by
  have hws : (contacts .managers).lookup "ws" = some .ws := rfl
  refine (Program.handle_task rfl rfl).trans ?_
  show (Managers.connect J env ((program J managerKey).ctx n .managers) n.services.managers task).map _ = _
  rw [Managers.connect_eq_ok.mpr ⟨reply, hreply, Ctx.respond_of_contact (lookup_of_wired hn hws)⟩]
  rfl

/-- A registered manager is sent what is requested of it. -/
theorem fresh_of_registered {n : State} (hn : n.contacts = contacts) {key transportId : String}
    (h : n.services.managers.managersReg.lookup key = some transportId) :
    Fresh J managerKey key transportId n := by
  refine ⟨h, fun env sender task hkey =>
    ⟨(task.setMetadata "transport" (.string task.transportId)).request.serialize J, ?_⟩⟩
  have hws : (contacts .managers).lookup "ws" = some .ws := rfl
  refine (Program.handle_task rfl rfl).trans ?_
  show (Managers.request J env _ n.services.managers task).map _ = _
  unfold Managers.request Ctx.writeTo
  rw [hkey]
  simp only [Except.ok_bind', h, Ctx.send_of_contact (lookup_of_wired hn hws)]
  rfl

/-- The step lemma: only a message that ends it changes a registration. -/
theorem registered_of_handle {env : Env} {n n' : State} {e : Envelope Actor}
    {out : List (Envelope Actor)} {key : String} (hn : n.contacts = contacts) (hends : ¬ Ends key env n e)
    (hhandle : handle J managerKey env n e = .ok (n', out)) :
    n'.services.managers.managersReg.lookup key = n.services.managers.managersReg.lookup key := by
  rcases managers_effect hn hhandle with hsame | ⟨hdest, heffect⟩
  · rw [hsame]
  · obtain ⟨dest, sender, command, body⟩ := e
    obtain rfl : dest = .managers := hdest
    generalize n'.services.managers = managers at heffect
    cases heffect with
    | keep => rfl
    | add => rfl
    | delete hkey =>
      refine AList.lookup_erase_ne ?_
      rintro rfl
      exact hends (.delete hkey)
    | connect hreply herror =>
      rcases Managers.connectReply_cases hreply with ⟨-, rfl⟩ | ⟨-, key', hkey, -, rfl⟩
      · rfl
      · refine AList.lookup_emplace_ne ?_
        rintro rfl
        exact hends (.connect hkey hreply herror)
    | disconnect hkey =>
      refine AList.lookup_erase_ne ?_
      rintro rfl
      exact hends (.disconnect hkey)

/-- The run lemma: a connect stays fresh exactly if it leaves its session. -/
theorem staysFresh_iff {n : State} {pending : List (Envelope Actor)} (hn : n.contacts = contacts)
    (hplain : ∀ e ∈ pending, e.Plain) {key transportId : String} :
    StaysFresh J managerKey key transportId ⟨n, pending⟩ ↔
      n.services.managers.managersReg.lookup key = some transportId := by
  constructor
  · intro h
    exact (h _ (.refl _)).registered
  · intro h c' hrun
    obtain ⟨⟨hcontacts, hregistered⟩, -⟩ := hrun.invariant
      (fun n => n.contacts = contacts ∧ n.services.managers.managersReg.lookup key = some transportId)
      Envelope.Plain ⟨hn, h⟩ hplain (fun _ h => h.plain)
      fun env n e n' out hs hp hends hhandle => by
        obtain ⟨hcontacts, hout⟩ := handle_plain hhandle hp
        exact ⟨⟨hcontacts.trans hs.1, (registered_of_handle hs.1 hends hhandle).trans hs.2⟩, hout⟩
    exact fresh_of_registered hcontacts hregistered

end Platform

/-! ## Both programs -/

/-- A connect that is handled in a run is answered. With an error, it leaves
the registry as it was. Without one, its key stays registered as announced
until a message ends it exactly if it was not registered otherwise before. -/
theorem registry_fresh_iff (J : Codec) :
    (∀ config n₀ n p q env sender task key actionArray variableArray devices reply,
      Manager.Initial n₀ →
      Manager.Run J config (fun _ _ _ => True) ⟨n₀, []⟩
        ⟨n, p ++ Manager.connectMessage sender task :: q⟩ →
      Manager.Devices.connectParams task = .ok (key, actionArray, variableArray) →
      Manager.Devices.connectReply env n.services.devices task = .ok (devices, reply) →
      let n' : Manager.State := { n with services := { n.services with devices } }
      let response := ((Manager.program J config).ctx n .devices).response J .ws task reply
      Manager.handle J config env n (Manager.connectMessage sender task) = .ok (n', [response]) ∧
      (reply.error.isSome → devices = n.services.devices) ∧
      (reply.error = none →
        (Manager.StaysFresh J config key task.transportId actionArray variableArray
            ⟨n', p ++ q ++ [response]⟩ ↔
          key ∉ n.services.devices.devicesReg ∨
            n.services.devices.Registered key task.transportId actionArray variableArray))) ∧
    (∀ managerKey n₀ n p q env sender task key managers reply,
      Platform.Initial n₀ →
      Platform.Run J managerKey (fun _ _ _ => True) ⟨n₀, []⟩
        ⟨n, p ++ Platform.connectMessage sender task :: q⟩ →
      task.paramString "key" = .ok key →
      Platform.Managers.connectReply env n.services.managers task = .ok (managers, reply) →
      let n' : Platform.State := { n with services := { n.services with managers } }
      let response := ((Platform.program J managerKey).ctx n .managers).response J .ws task reply
      Platform.handle J managerKey env n (Platform.connectMessage sender task) =
        .ok (n', [response]) ∧
      (reply.error.isSome → managers = n.services.managers) ∧
      (reply.error = none →
        (Platform.StaysFresh J managerKey key task.transportId ⟨n', p ++ q ++ [response]⟩ ↔
          key ∉ n.services.managers.managersReg ∨
            n.services.managers.managersReg.lookup key = some task.transportId))) := by
  constructor
  · intro config n₀ n p q env sender task key actionArray variableArray devices reply h₀ hrun hparams
      hreply n' response
    obtain ⟨hn, hplain⟩ := Manager.Run.wired h₀ hrun
    have hhandle : Manager.handle J config env n (Manager.connectMessage sender task) =
        .ok (n', [response]) := Manager.handle_connect hn hreply
    refine ⟨hhandle, fun herror => ?_, fun herror => ?_⟩
    · rcases Manager.Devices.connectReply_cases hreply with ⟨-, hsame⟩ | ⟨hnone, -⟩
      · exact hsame
      · simp [hnone] at herror
    · have hrun' := (hrun.handle trivial hhandle)
      obtain ⟨hn', hplain'⟩ := Manager.Run.wired h₀ hrun'
      rw [Manager.staysFresh_iff hn' hplain']
      rcases Manager.Devices.connectReply_cases hreply with
        ⟨hsome, -⟩ | ⟨-, key', actions, vars, _, _, hparams', -, hactions, hvariables, rfl⟩
      · simp [herror] at hsome
      · obtain ⟨rfl, rfl, rfl⟩ : key' = key ∧ actions = actionArray ∧ vars = variableArray := by
          simpa [hparams] using hparams'.symm
        exact Manager.Devices.registered_addRegDevice_iff (Manager.Run.aligned h₀ hrun) hactions
          hvariables
  · intro managerKey n₀ n p q env sender task key managers reply h₀ hrun hkey hreply n' response
    obtain ⟨hn, hplain⟩ := Platform.Run.wired h₀ hrun
    have hhandle : Platform.handle J managerKey env n (Platform.connectMessage sender task) =
        .ok (n', [response]) := Platform.handle_connect hn hreply
    refine ⟨hhandle, fun herror => ?_, fun herror => ?_⟩
    · rcases Platform.Managers.connectReply_cases hreply with ⟨-, hsame⟩ | ⟨hnone, -⟩
      · exact hsame
      · simp [hnone] at herror
    · have hrun' := (hrun.handle trivial hhandle)
      obtain ⟨hn', hplain'⟩ := Platform.Run.wired h₀ hrun'
      rw [Platform.staysFresh_iff hn' hplain']
      rcases Platform.Managers.connectReply_cases hreply with ⟨hsome, -⟩ | ⟨-, key', hkey', -, rfl⟩
      · simp [herror] at hsome
      · obtain rfl : key' = key := by simpa [hkey] using hkey'.symm
        exact Platform.Managers.lookup_addRegManager_iff

/-- The manager with one device, `d`, that is not connected. -/
def oneDevice : Manager.State where
  services := { Manager.blank.services with
    devices := { Manager.blank.services.devices with
      table := ⟨[{ key := .bind "d", name := .bind "d" }], by simp⟩ } }
  contacts := Manager.contacts

theorem oneDevice_initial : Manager.Initial oneDevice := ⟨rfl, rfl, rfl, rfl, rfl, rfl⟩

/-- The platform with the profiles `a` and `c`, and one manager of `a`, `k`. -/
def oneManager : Platform.State where
  services := { Platform.oneProfile.services with
    profile := {
      table := ⟨[{ login := .bind "a", password := .bind "b" },
        { login := .bind "c", password := .bind "d" }], by decide⟩
      profilesAuth := ∅ }
    managers := {
      table := ⟨[{ profileLogin := .bind "a", name := .bind "k", key := .bind "k" }], by simp⟩
      managersReg := ∅ } }
  contacts := Platform.contacts

theorem oneManager_initial : Platform.Initial oneManager := ⟨rfl, rfl, rfl⟩

/-- A device says that it has one action. -/
def connectDevice : RequestMessage where
  id := .integer 1
  method := "devices.connect"
  params := .map [("actions", .array [.string "on"]), ("key", .string "d"), ("variables", .array [])]
  metadata := [("user-key", .string "p.q")]

/-- A manager says that it is there. -/
def connectManager : RequestMessage where
  id := .integer 1
  method := "managers.connect"
  params := .map [("key", .string "k")]
  metadata := [("profile-key", .string "a.b")]

/-- The administrator's request to the devices is delivered in a state without pending messages. -/
theorem deviceRequest_delivers {guard : Env → Manager.State → Envelope Manager.Actor → Prop}
    {c : Work.Config Manager.State (Envelope Manager.Actor)} {n : Manager.State} {request : RequestMessage}
    {methodName : String} (hrun : Manager.Run Codec.api ⟨"p.q", "m"⟩ guard c ⟨n, []⟩)
    (hn : n.contacts = Manager.contacts)
    (hguard : ∀ e, e.dest = .router ∨ e.dest = .users → guard .calm n e) (hexact : request.Exact)
    (hsplit : split request.method = ["devices", methodName])
    (hkey : request.metadata.stringAt "user-key" = .ok "p.q")
    (hmethod : List.elem methodName ((Manager.program Codec.api ⟨"p.q", "m"⟩).messageTypes .devices) = true)
    (id : String) : Manager.Run Codec.api ⟨"p.q", "m"⟩ guard c ⟨n, [{
      dest := .devices
      sender := .router
      command := methodName
      body := .task (Manager.adminTask ⟨"p.q", "m"⟩ request id "devices" methodName) }]⟩ := by
  let ws : WebSocket := ⟨id, request.serialize Codec.api⟩
  have hreads : Codec.api.ReadsRequest ws.body request := hexact.reads_serialize
  exact hrun.delivers (fun e he _ => hguard e he) hn hreads hsplit hkey (by decide) rfl
    (List.mem_of_elem_eq_true hmethod)

/-- A session connects the device of a state without pending messages. -/
theorem connectDevice_delivers {guard : Env → Manager.State → Envelope Manager.Actor → Prop}
    {c : Work.Config Manager.State (Envelope Manager.Actor)} {n : Manager.State}
    (hrun : Manager.Run Codec.api ⟨"p.q", "m"⟩ guard c ⟨n, []⟩) (hn : n.contacts = Manager.contacts)
    (hguard : ∀ e, e.dest = .router ∨ e.dest = .users → guard .calm n e) (id : String) :
    Manager.Run Codec.api ⟨"p.q", "m"⟩ guard c ⟨n, [Manager.connectMessage .router
      (Manager.adminTask ⟨"p.q", "m"⟩ connectDevice id "devices" "connect")]⟩ := by
  have hexact : connectDevice.Exact := rfl
  exact deviceRequest_delivers hrun hn hguard hexact (by decide) rfl rfl id

/-- A session connects the manager. -/
theorem connectManager_delivers {guard : Env → Platform.State → Envelope Platform.Actor → Prop}
    (hguard : ∀ n e, e.dest = .router ∨ e.dest = .profile → guard .calm n e) (id : String) :
    Platform.Run Codec.api "" guard ⟨oneManager, []⟩
      ⟨Platform.authorized oneManager "a.b", [Platform.connectMessage .router
        (Platform.profileTask connectManager id "managers" "connect" "a")]⟩ := by
  let ws : WebSocket := ⟨id, connectManager.serialize Codec.api⟩
  have hexact : connectManager.Exact := rfl
  have hreads : Codec.api.ReadsRequest ws.body connectManager := hexact.reads_serialize
  have hsplit : split connectManager.method = "managers" :: "connect" :: [] := by decide
  have hpieces : split "a.b" = "a" :: "b" :: [] := by decide
  have hmethod : List.elem "connect" ((Platform.program Codec.api "").messageTypes .managers) =
      true := rfl
  exact Platform.Run.delivers (.refl _) (fun n e he _ => hguard n e he) rfl hreads hsplit rfl rfl hpieces
    (by decide) (by decide) rfl (List.mem_of_elem_eq_true hmethod)

/-- The task of a connect of the device from a session. -/
def connectTask (id : String) : Task :=
  Manager.adminTask ⟨"p.q", "m"⟩ connectDevice id "devices" "connect"

/-- The manager with its device connected from session `s`. -/
def connected : Manager.State where
  services := { oneDevice.services with
    devices := oneDevice.services.devices.addRegDevice "d" "s" ((∅ : StringSet).emplace "on" ()) ∅ }
  contacts := Manager.contacts

theorem connected_run : Manager.Run Codec.api ⟨"p.q", "m"⟩ (fun _ _ _ => True) ⟨oneDevice, []⟩
    ⟨connected, []⟩ := by
  have hreply : Manager.Devices.connectReply .calm oneDevice.services.devices (connectTask "s") =
      .ok (connected.services.devices, .ok (.boolean true)) := rfl
  have hstart : Manager.Run Codec.api ⟨"p.q", "m"⟩ (fun _ _ _ => True) ⟨oneDevice, []⟩ ⟨oneDevice, []⟩ := .refl _
  have hdelivered := connectDevice_delivers hstart rfl (fun _ _ => trivial) "s"
  have hanswered := hdelivered.handle_single .calm trivial (Manager.handle_connect rfl hreply)
  exact hanswered.handle_single .calm trivial rfl

theorem registry_fresh_iff_connect :
    (Manager.StaysFresh Codec.api ⟨"p.q", "m"⟩ "d" "s" [.string "on"] []
        ⟨connected, [((Manager.program Codec.api ⟨"p.q", "m"⟩).ctx oneDevice .devices).response
          Codec.api .ws (connectTask "s") (.ok (.boolean true))]⟩ ↔
      "d" ∉ oneDevice.services.devices.devicesReg ∨
        oneDevice.services.devices.Registered "d" "s" [.string "on"] []) ∧
    ∃ n q, Platform.StaysFresh Codec.api "" "k" "s" ⟨n, q⟩ := by
  have hreply : Manager.Devices.connectReply .calm oneDevice.services.devices (connectTask "s") =
      .ok (connected.services.devices, .ok (.boolean true)) := rfl
  have hstart : Manager.Run Codec.api ⟨"p.q", "m"⟩ (fun _ _ _ => True) ⟨oneDevice, []⟩ ⟨oneDevice, []⟩ := .refl _
  have hrun := connectDevice_delivers hstart rfl (fun _ _ => trivial) "s"
  have hmanager := (registry_fresh_iff Codec.api).1 ⟨"p.q", "m"⟩ oneDevice oneDevice [] [] .calm .router
    (connectTask "s") "d" [.string "on"] [] _ _ oneDevice_initial hrun rfl hreply
  refine ⟨hmanager.2.2 rfl, ?_⟩
  have hrun : Platform.Run Codec.api "" (fun _ _ _ => True) ⟨oneManager, []⟩ _ :=
    connectManager_delivers (fun _ _ _ => trivial) "s"
  have hreply : Platform.Managers.connectReply .calm
      (Platform.authorized oneManager "a.b").services.managers
      (Platform.profileTask connectManager "s" "managers" "connect" "a") =
      .ok (oneManager.services.managers.addRegManager "k" "s", .ok (.boolean true)) := rfl
  have hplatform := (registry_fresh_iff Codec.api).2 "" oneManager _ [] [] .calm .router _ "k" _ _
    oneManager_initial hrun rfl hreply
  exact ⟨_, _, (hplatform.2.2 rfl).mpr (.inl (by decide))⟩

/-- A device that comes back from another session stays registered for the old one. -/
theorem reconnect_not_fresh :
    ¬ ∀ n₀ n p q env sender task key actionArray variableArray devices reply,
      Manager.Initial n₀ →
      Manager.Run Codec.api ⟨"p.q", "m"⟩ (fun _ _ _ => True) ⟨n₀, []⟩
        ⟨n, p ++ Manager.connectMessage sender task :: q⟩ →
      Manager.Devices.connectParams task = .ok (key, actionArray, variableArray) →
      Manager.Devices.connectReply env n.services.devices task = .ok (devices, reply) →
      reply.error = none →
      Manager.StaysFresh Codec.api ⟨"p.q", "m"⟩ key task.transportId actionArray variableArray
        ⟨{ n with services := { n.services with devices } },
          p ++ q ++ [((Manager.program Codec.api ⟨"p.q", "m"⟩).ctx n .devices).response Codec.api .ws
            task reply]⟩ := by
  intro hall
  have hrun := connectDevice_delivers connected_run rfl (fun _ _ => trivial) "t"
  have hreply : Manager.Devices.connectReply .calm connected.services.devices (connectTask "t") =
      .ok (connected.services.devices, .ok (.boolean true)) := rfl
  have hfresh := hall _ _ [] [] .calm .router (connectTask "t") "d" [.string "on"] [] _ _
    oneDevice_initial hrun rfl hreply rfl
  have hregistered := (hfresh _ (.refl _)).registered.transport
  exact absurd hregistered (by decide)

end StreamCloud
