-- SUMMARY: In which runs every registered key is the key of a row, and a deleted key is not written to.
import StreamCloud.Verification.RegistryFreshness

/-!
# Registered keys

A connect looks for the row of its key, a delete removes it. The registry is in
step with the table as long as no delete takes the row of a registered key away,
and no key is registered that SQLite cuts short.
-/

namespace StreamCloud

/-! ## The manager -/

namespace Manager

variable {J : Codec} {config : Config}

/-- Every registered device has a row. -/
def Devices.Listed (s : Devices) : Prop := ∀ key ∈ s.devicesReg, ∃ row ∈ s.table.rows, row.key.val = key

/-- The message with which a task is delivered to `devices.delete`. -/
def deleteMessage (sender : Actor) (task : Task) : Envelope Actor :=
  { dest := .devices, sender, command := "delete", body := .task task }

/-- A delete of the row of a registered device, or an accepted connect whose key
is cut short. -/
inductive Breaks (env : Env) (n : State) : Envelope Actor → Prop
  | delete {sender : Actor} {task : Task} {key : String} {row : DeviceRow} :
      task.paramString "key" = .ok key → key ≠ "" → env.db = none →
      row ∈ n.services.devices.table.rows → row.key = .bind key →
      row.key.val ∈ n.services.devices.devicesReg → Breaks env n (deleteMessage sender task)
  | connect {sender : Actor} {task : Task} {key : String} {devices : Devices} {reply : Reply} :
      task.paramString "key" = .ok key →
      Devices.connectReply env n.services.devices task = .ok (devices, reply) →
      reply.error = none → (Text.bind key).val ≠ key → Breaks env n (connectMessage sender task)

/-- An `add` of this key. -/
inductive Adds (key : String) : Envelope Actor → Prop
  | add {sender : Actor} {task : Task} {name : String} : task.paramString "name" = .ok name →
      Text.bind (task.stored "user.login" ++ "." ++ name) = .bind key →
      Adds key { dest := .devices, sender, command := "add", body := .task task }

/-- A connect of this key that is answered without an error. -/
inductive Reconnects (key : String) (env : Env) (n : State) : Envelope Actor → Prop
  | connect {sender : Actor} {task : Task} {devices : Devices} {reply : Reply} :
      task.paramString "key" = .ok key →
      Devices.connectReply env n.services.devices task = .ok (devices, reply) →
      reply.error = none → Reconnects key env n (connectMessage sender task)

/-- The step lemma. -/
theorem listed_of_handle {env : Env} {n n' : State} {e : Envelope Actor} {out : List (Envelope Actor)}
    (hlisted : n.services.devices.Listed) (hbreaks : ¬ Breaks env n e)
    (h : handle J config env n e = .ok (n', out)) : n'.services.devices.Listed := by
  rcases devices_effect h with hsame | ⟨hdest, heffect⟩
  · rw [hsame]
    exact hlisted
  · obtain ⟨dest, sender, command, body⟩ := e
    obtain rfl : dest = .devices := hdest
    generalize n'.services.devices = devices at heffect
    cases heffect with
    | keep => exact hlisted
    | add _ hinsert =>
      intro key hkey
      obtain ⟨row, hrow, hval⟩ := hlisted key hkey
      exact ⟨row, (Keyed.mem_of_insert hinsert row).mpr (.inl hrow), hval⟩
    | delete hparam hne hdb =>
      intro key hkey
      obtain ⟨row, hrow, rfl⟩ := hlisted key hkey
      refine ⟨row, Keyed.mem_delete.mpr ⟨hrow, decide_eq_false fun hdeleted => ?_⟩, rfl⟩
      -- the row of a registered device is only deleted by a step that breaks the list
      exact hbreaks (.delete hparam hne hdb hrow hdeleted hkey)
    | connect hreply herror =>
      rcases Devices.connectReply_cases hreply with
        ⟨-, rfl⟩ | ⟨-, key, _, _, _, _, hparams, hfound, -, -, rfl⟩
      · exact hlisted
      · intro key' hkey'
        rcases AList.mem_emplace.mp hkey' with rfl | hkey'
        · obtain ⟨row, hrow⟩ := Option.isSome_iff_exists.mp hfound
          obtain ⟨hmem, hval⟩ := Keyed.mem_of_find? hrow
          refine ⟨row, hmem, ?_⟩
          rw [hval]
          -- the row was found for the key up to its first null character
          by_contra hcut
          exact hbreaks (.connect (Devices.paramString_of_connectParams hparams) hreply herror hcut)
        · exact hlisted key' hkey'
    | disconnect =>
      intro key' hkey'
      exact hlisted key' (AList.mem_erase.mp hkey').2

/-- The run lemma. -/
theorem Run.listed {guard : Env → State → Envelope Actor → Prop}
    {c c' : Work.Config State (Envelope Actor)} (hrun : Run J config guard c c')
    (hguard : ∀ env n e, guard env n e → ¬ Breaks env n e) (hc : c.state.services.devices.Listed) :
    c'.state.services.devices.Listed :=
  (hrun.invariant (fun n => n.services.devices.Listed) (fun _ => True) hc (by simp) (by simp)
    fun _ _ _ _ _ hlisted _ hg h =>
      ⟨listed_of_handle hlisted (hguard _ _ _ hg) h, fun _ _ => trivial⟩).1

theorem Initial.listed {n : State} (h : Initial n) : n.services.devices.Listed := by
  intro key hkey
  rw [h.devicesReg] at hkey
  exact absurd hkey (AList.notMem_empty key)

/-- No row has this key. -/
def Devices.Gone (s : Devices) (key : String) : Prop := ∀ row ∈ s.table.rows, row.key ≠ .bind key

/-- A device without a row is not registered. -/
theorem Devices.Gone.notMem {s : Devices} {key : String} (h : s.Gone key) (hlisted : s.Listed) :
    key ∉ s.devicesReg := by
  intro hkey
  obtain ⟨row, hrow, rfl⟩ := hlisted key hkey
  exact h row hrow (Text.bind_val row.key).symm

/-- Only an `add` gives a device its row back. -/
theorem gone_of_handle {env : Env} {n n' : State} {e : Envelope Actor} {out : List (Envelope Actor)}
    {key : String} (hgone : n.services.devices.Gone key) (hadds : ¬ Adds key e)
    (h : handle J config env n e = .ok (n', out)) : n'.services.devices.Gone key := by
  rcases devices_effect h with hsame | ⟨hdest, heffect⟩
  · rw [hsame]
    exact hgone
  · obtain ⟨dest, sender, command, body⟩ := e
    obtain rfl : dest = .devices := hdest
    generalize n'.services.devices = devices at heffect
    cases heffect with
    | keep => exact hgone
    | add hname hinsert =>
      intro row hrow
      rcases (Keyed.mem_of_insert hinsert row).mp hrow with hrow | rfl
      · exact hgone row hrow
      · exact fun hkey => hadds (.add hname hkey)
    | delete => exact fun row hrow => hgone row (Keyed.mem_delete.mp hrow).1
    | connect hreply =>
      rcases Devices.connectReply_cases hreply with ⟨-, rfl⟩ | ⟨-, _, _, _, _, _, -, -, -, -, rfl⟩
      · exact hgone
      · exact hgone
    | disconnect => exact hgone

/-- Only an accepted connect registers a device. -/
theorem notMem_of_handle {env : Env} {n n' : State} {e : Envelope Actor} {out : List (Envelope Actor)}
    {key : String} (hkey : key ∉ n.services.devices.devicesReg) (hreconnects : ¬ Reconnects key env n e)
    (h : handle J config env n e = .ok (n', out)) : key ∉ n'.services.devices.devicesReg := by
  rcases devices_effect h with hsame | ⟨hdest, heffect⟩
  · rw [hsame]
    exact hkey
  · obtain ⟨dest, sender, command, body⟩ := e
    obtain rfl : dest = .devices := hdest
    generalize n'.services.devices = devices at heffect
    cases heffect with
    | keep => exact hkey
    | add => exact hkey
    | delete => exact hkey
    | connect hreply herror =>
      rcases Devices.connectReply_cases hreply with ⟨-, rfl⟩ | ⟨-, key', _, _, _, _, hparams, -, -, -, rfl⟩
      · exact hkey
      · intro hmem
        rcases AList.mem_emplace.mp hmem with rfl | hmem
        · exact hreconnects (.connect (Devices.paramString_of_connectParams hparams) hreply herror)
        · exact hkey hmem
    | disconnect => exact fun hmem => hkey (AList.mem_erase.mp hmem).2

/-- A delete whose statement does not throw removes the row. -/
theorem handle_delete {n : State} (hn : n.contacts = contacts) {env : Env} {sender : Actor}
    {task : Task} {key : String} (hparam : task.paramString "key" = .ok key) (hne : key ≠ "")
    (hdb : env.db = none) :
    handle J config env n (deleteMessage sender task) =
      .ok ({ n with services := { n.services with devices := { n.services.devices with
          table := n.services.devices.table.delete fun row => row.key = Text.bind key } } },
        [((program J config).ctx n .devices).response J .ws task (.ok (.boolean true))]) := by
  have hws : (contacts .devices).lookup "ws" = some .ws := rfl
  have hvalid : (!key.isEmpty) = true := by simpa using hne
  refine (Program.handle_task rfl rfl).trans ?_
  show (Devices.delete J env ((program J config).ctx n .devices) n.services.devices task).map _ = _
  unfold Devices.delete Ctx.answer
  simp only [hparam, Except.ok_bind', if_pos hvalid, hdb, Db.execute, attempt]
  show (Ctx.respond J _ task _ >>= _).map _ = _
  rw [Ctx.respond_of_contact (lookup_of_wired hn hws)]
  rfl

/-- A request for a device that is not registered is answered with an error. -/
theorem handle_request_of_notMem {n : State} (hn : n.contacts = contacts) {env : Env} {sender : Actor}
    {task : Task} {key : String} (hmetadata : task.metadataString "device-key" = .ok key)
    (hkey : key ∉ n.services.devices.devicesReg) :
    handle J config env n { dest := .devices, sender, command := "request", body := .task task } =
      .ok (n, [((program J config).ctx n .devices).response J .ws task
        (.failed "device not connected")]) := by
  have hws : (contacts .devices).lookup "ws" = some .ws := rfl
  refine (Program.handle_task rfl rfl).trans ?_
  show (Devices.request J env ((program J config).ctx n .devices) n.services.devices task).map _ = _
  unfold Devices.request
  simp only [hmetadata, Except.ok_bind', AList.lookup_eq_none.mpr hkey,
    Ctx.respond_of_contact (lookup_of_wired hn hws)]
  rfl

/-- A run in which the device is not added and then connected: up to some point
without an `add` of it, and from there on without an accepted connect of it. -/
def Unconnected (J : Codec) (config : Config) (key : String)
    (c c' : Work.Config State (Envelope Actor)) : Prop :=
  ∃ mid, Run J config (fun env n e => ¬ Breaks env n e ∧ ¬ Adds key e) c mid ∧
    Run J config (fun env n e => ¬ Breaks env n e ∧ ¬ Reconnects key env n e) mid c'

/-- Until a deleted device is added and then connected again it is not registered. -/
theorem Unconnected.notMem {key : String} {c c' : Work.Config State (Envelope Actor)}
    (h : Unconnected J config key c c') (hlisted : c.state.services.devices.Listed)
    (hgone : c.state.services.devices.Gone key) : key ∉ c'.state.services.devices.devicesReg := by
  obtain ⟨mid, hfirst, hsecond⟩ := h
  have hmidListed := Run.listed hfirst (fun _ _ _ hg => hg.1) hlisted
  have hmidGone := (hfirst.invariant (fun n => n.services.devices.Gone key) (fun _ => True) hgone
    (by simp) (by simp) fun _ _ _ _ _ hgone _ hg h =>
      ⟨gone_of_handle hgone hg.2 h, fun _ _ => trivial⟩).1
  exact (hsecond.invariant (fun n => key ∉ n.services.devices.devicesReg) (fun _ => True)
    (hmidGone.notMem hmidListed) (by simp) (by simp) fun _ _ _ _ _ hkey _ hg h =>
      ⟨notMem_of_handle hkey hg.2 h, fun _ _ => trivial⟩).1

end Manager

/-! ## The platform -/

namespace Platform

variable {J : Codec} {managerKey : String}

/-- Every registered manager has a row. -/
def Managers.Listed (s : Managers) : Prop :=
  ∀ key ∈ s.managersReg, ∃ row ∈ s.table.rows, row.key.val = key

/-- The message with which a task is delivered to `managers.delete`. -/
def deleteMessage (sender : Actor) (task : Task) : Envelope Actor :=
  { dest := .managers, sender, command := "delete", body := .task task }

/-- A delete of the row of a registered manager under another name than that of
the registration, or an accepted connect whose key is cut short. -/
inductive Breaks (env : Env) (n : State) : Envelope Actor → Prop
  | delete {sender : Actor} {task : Task} {key : String} {row : ManagerRow} :
      task.paramString "key" = .ok key → key ≠ "" → env.db = none →
      row ∈ n.services.managers.table.rows → row.key = .bind key →
      row.profileLogin = .bind (task.stored "profile.login") →
      row.key.val ∈ n.services.managers.managersReg → row.key.val ≠ key →
      Breaks env n (deleteMessage sender task)
  | connect {sender : Actor} {task : Task} {key : String} {managers : Managers} {reply : Reply} :
      task.paramString "key" = .ok key →
      Managers.connectReply env n.services.managers task = .ok (managers, reply) →
      reply.error = none → (Text.bind key).val ≠ key → Breaks env n (connectMessage sender task)

/-- An `add` of this key. -/
inductive Adds (key : String) : Envelope Actor → Prop
  | add {sender : Actor} {task : Task} {name : String} : task.paramString "name" = .ok name →
      Text.bind (task.stored "profile.login" ++ "." ++ name) = .bind key →
      Adds key { dest := .managers, sender, command := "add", body := .task task }

/-- A connect of this key that is answered without an error. -/
inductive Reconnects (key : String) (env : Env) (n : State) : Envelope Actor → Prop
  | connect {sender : Actor} {task : Task} {managers : Managers} {reply : Reply} :
      task.paramString "key" = .ok key →
      Managers.connectReply env n.services.managers task = .ok (managers, reply) →
      reply.error = none → Reconnects key env n (connectMessage sender task)

/-- A key with a row of this profile is found. -/
theorem row_of_owned {s : Managers} {key login : Text} (h : 0 < s.countOwned key login) :
    ∃ row ∈ s.table.rows, row.key = key ∧ row.profileLogin = login := by
  obtain ⟨row, hrow⟩ := List.exists_mem_of_length_pos h
  obtain ⟨hmem, hkey⟩ := List.mem_filter.mp hrow
  exact ⟨row, hmem, of_decide_eq_true hkey⟩

/-- The step lemma. -/
theorem listed_of_handle {env : Env} {n n' : State} {e : Envelope Actor} {out : List (Envelope Actor)}
    (hn : n.contacts = contacts) (hlisted : n.services.managers.Listed) (hbreaks : ¬ Breaks env n e)
    (h : handle J managerKey env n e = .ok (n', out)) : n'.services.managers.Listed := by
  rcases managers_effect hn h with hsame | ⟨hdest, heffect⟩
  · rw [hsame]
    exact hlisted
  · obtain ⟨dest, sender, command, body⟩ := e
    obtain rfl : dest = .managers := hdest
    generalize n'.services.managers = managers at heffect
    cases heffect with
    | keep => exact hlisted
    | add _ hinsert =>
      intro key hkey
      obtain ⟨row, hrow, hval⟩ := hlisted key hkey
      exact ⟨row, (Keyed.mem_of_insert hinsert row).mpr (.inl hrow), hval⟩
    | delete hparam hne hdb =>
      intro key hkey
      obtain ⟨hother, hkey⟩ := AList.mem_erase.mp hkey
      obtain ⟨row, hrow, rfl⟩ := hlisted key hkey
      refine ⟨row, Keyed.mem_delete.mpr ⟨hrow, decide_eq_false fun hdeleted => ?_⟩, rfl⟩
      exact hbreaks (.delete hparam hne hdb hrow hdeleted.1 hdeleted.2 hkey hother)
    | connect hreply herror =>
      rcases Managers.connectReply_cases hreply with ⟨-, rfl⟩ | ⟨-, key, hparam, howned, rfl⟩
      · exact hlisted
      · intro key' hkey'
        rcases AList.mem_emplace.mp hkey' with rfl | hkey'
        · obtain ⟨row, hmem, hval, -⟩ := row_of_owned howned
          refine ⟨row, hmem, ?_⟩
          rw [hval]
          -- as for the devices
          by_contra hcut
          exact hbreaks (.connect hparam hreply herror hcut)
        · exact hlisted key' hkey'
    | disconnect =>
      intro key' hkey'
      exact hlisted key' (AList.mem_erase.mp hkey').2

/-- The run lemma. -/
theorem Run.listed {guard : Env → State → Envelope Actor → Prop}
    {c c' : Work.Config State (Envelope Actor)} (hrun : Run J managerKey guard c c')
    (hguard : ∀ env n e, guard env n e → ¬ Breaks env n e) (hcontacts : c.state.contacts = contacts)
    (hplain : ∀ e ∈ c.pending, e.Plain) (hc : c.state.services.managers.Listed) :
    c'.state.services.managers.Listed :=
  hrun.invariant_of_wired hcontacts hplain (fun n => n.services.managers.Listed) hc
    fun hn hlisted hg h => listed_of_handle hn hlisted (hguard _ _ _ hg) h

theorem Initial.listed {n : State} (h : Initial n) : n.services.managers.Listed := by
  intro key hkey
  rw [h.managersReg] at hkey
  exact absurd hkey (AList.notMem_empty key)

/-- No row has this key. -/
def Managers.Gone (s : Managers) (key : String) : Prop := ∀ row ∈ s.table.rows, row.key ≠ .bind key

/-- A manager without a row is not registered. -/
theorem Managers.Gone.notMem {s : Managers} {key : String} (h : s.Gone key) (hlisted : s.Listed) :
    key ∉ s.managersReg := by
  intro hkey
  obtain ⟨row, hrow, rfl⟩ := hlisted key hkey
  exact h row hrow (Text.bind_val row.key).symm

/-- Only an `add` gives a manager its row back. -/
theorem gone_of_handle {env : Env} {n n' : State} {e : Envelope Actor} {out : List (Envelope Actor)}
    {key : String} (hn : n.contacts = contacts) (hgone : n.services.managers.Gone key) (hadds : ¬ Adds key e)
    (h : handle J managerKey env n e = .ok (n', out)) : n'.services.managers.Gone key := by
  rcases managers_effect hn h with hsame | ⟨hdest, heffect⟩
  · rw [hsame]
    exact hgone
  · obtain ⟨dest, sender, command, body⟩ := e
    obtain rfl : dest = .managers := hdest
    generalize n'.services.managers = managers at heffect
    cases heffect with
    | keep => exact hgone
    | add hname hinsert =>
      intro row hrow
      rcases (Keyed.mem_of_insert hinsert row).mp hrow with hrow | rfl
      · exact hgone row hrow
      · exact fun hkey => hadds (.add hname hkey)
    | delete => exact fun row hrow => hgone row (Keyed.mem_delete.mp hrow).1
    | connect hreply =>
      rcases Managers.connectReply_cases hreply with ⟨-, rfl⟩ | ⟨-, _, -, -, rfl⟩
      · exact hgone
      · exact hgone
    | disconnect => exact hgone

/-- Only an accepted connect registers a manager. -/
theorem notMem_of_handle {env : Env} {n n' : State} {e : Envelope Actor} {out : List (Envelope Actor)}
    {key : String} (hn : n.contacts = contacts) (hkey : key ∉ n.services.managers.managersReg)
    (hreconnects : ¬ Reconnects key env n e) (h : handle J managerKey env n e = .ok (n', out)) :
    key ∉ n'.services.managers.managersReg := by
  rcases managers_effect hn h with hsame | ⟨hdest, heffect⟩
  · rw [hsame]
    exact hkey
  · obtain ⟨dest, sender, command, body⟩ := e
    obtain rfl : dest = .managers := hdest
    generalize n'.services.managers = managers at heffect
    cases heffect with
    | keep => exact hkey
    | add => exact hkey
    | delete => exact fun hmem => hkey (AList.mem_erase.mp hmem).2
    | connect hreply herror =>
      rcases Managers.connectReply_cases hreply with ⟨-, rfl⟩ | ⟨-, key', hparam, -, rfl⟩
      · exact hkey
      · intro hmem
        rcases AList.mem_emplace.mp hmem with rfl | hmem
        · exact hreconnects (.connect hparam hreply herror)
        · exact hkey hmem
    | disconnect => exact fun hmem => hkey (AList.mem_erase.mp hmem).2

/-- A delete whose statement does not throw removes the row, if the caller owns
it, and the registration. -/
theorem handle_delete {n : State} (hn : n.contacts = contacts) {env : Env} {sender : Actor}
    {task : Task} {key : String} (hparam : task.paramString "key" = .ok key) (hne : key ≠ "")
    (hdb : env.db = none) :
    ∃ out, handle J managerKey env n (deleteMessage sender task) =
      .ok ({ n with services := { n.services with
          managers := n.services.managers.deleted key (task.stored "profile.login") } }, out) := by
  have hws : (contacts .managers).lookup "ws" = some .ws := rfl
  have hhttp : (contacts .managers).lookup "http" = some .http := rfl
  obtain ⟨message, -, hdelete⟩ := Managers.delete_eq J (s := n.services.managers) hparam (lookup_of_wired hn hws) hne
    hdb (lookup_of_wired hn hhttp)
  have hhandle : handle J managerKey env n (deleteMessage sender task) =
      (Managers.delete J env ((program J managerKey).ctx n .managers) n.services.managers task).map
        fun r => ({ n with services := { n.services with managers := r.1 } }, r.2) :=
    (Program.handle_task rfl rfl).trans rfl
  rw [hhandle, hdelete]
  exact ⟨_, rfl⟩

/-- A request for a manager that is not registered is answered with an error. -/
theorem handle_request_of_notMem {n : State} (hn : n.contacts = contacts) {env : Env} {sender : Actor}
    {task : Task} {key : String} (hmetadata : task.metadataString "manager-key" = .ok key)
    (hkey : key ∉ n.services.managers.managersReg) :
    handle J managerKey env n { dest := .managers, sender, command := "request", body := .task task } =
      .ok (n, [((program J managerKey).ctx n .managers).response J .ws task
        (.failed "manager not connection")]) := by
  have hws : (contacts .managers).lookup "ws" = some .ws := rfl
  refine (Program.handle_task rfl rfl).trans ?_
  show (Managers.request J env ((program J managerKey).ctx n .managers) n.services.managers task).map _
    = _
  unfold Managers.request
  simp only [hmetadata, Except.ok_bind', AList.lookup_eq_none.mpr hkey,
    Ctx.respond_of_contact (lookup_of_wired hn hws)]
  rfl

/-- A run in which the manager is not added and then connected: up to some point
without an `add` of it, and from there on without an accepted connect of it. -/
def Unconnected (J : Codec) (managerKey key : String) (c c' : Work.Config State (Envelope Actor)) :
    Prop :=
  ∃ mid, Run J managerKey (fun env n e => ¬ Breaks env n e ∧ ¬ Adds key e) c mid ∧
    Run J managerKey (fun env n e => ¬ Breaks env n e ∧ ¬ Reconnects key env n e) mid c'

/-- Until a deleted manager is added and then connected again it is not registered. -/
theorem Unconnected.notMem {key : String} {c c' : Work.Config State (Envelope Actor)}
    (h : Unconnected J managerKey key c c') (hcontacts : c.state.contacts = contacts)
    (hplain : ∀ e ∈ c.pending, e.Plain) (hlisted : c.state.services.managers.Listed)
    (hgone : c.state.services.managers.Gone key) : key ∉ c'.state.services.managers.managersReg := by
  obtain ⟨mid, hfirst, hsecond⟩ := h
  have hmidListed := Run.listed hfirst (fun _ _ _ hg => hg.1) hcontacts hplain hlisted
  have hmidGone := hfirst.invariant_of_wired hcontacts hplain (fun n => n.services.managers.Gone key) hgone
    fun hn hgone hg h => gone_of_handle hn hgone hg.2 h
  obtain ⟨hmid, hmidPlain⟩ := hfirst.wired_of_wired hcontacts hplain
  exact hsecond.invariant_of_wired hmid hmidPlain (fun n => key ∉ n.services.managers.managersReg)
    (hmidGone.notMem hmidListed) fun hn hkey hg h => notMem_of_handle hn hkey hg.2 h

end Platform

/-! ## Both programs -/

/-- In a run without a breaking step every registered key is that of a row; and
after a delete that is answered with true (on the platform: by the profile that
owns the row) a request for the key is refused until the key is added and then
connected again. -/
theorem registered_listed (J : Codec) :
    (∀ config n₀ c, Manager.Initial n₀ →
      Manager.Run J config (fun env n e => ¬ Manager.Breaks env n e) ⟨n₀, []⟩ c →
      c.state.services.devices.Listed ∧
      ∀ n p q env sender task key, c = ⟨n, p ++ Manager.deleteMessage sender task :: q⟩ →
        task.paramString "key" = .ok key → key ≠ "" → env.db = none →
        ¬ Manager.Breaks env n (Manager.deleteMessage sender task) →
        ∃ n' out, Manager.handle J config env n (Manager.deleteMessage sender task) = .ok (n', out) ∧
          ∀ c', Manager.Unconnected J config key ⟨n', p ++ q ++ out⟩ c' → ∀ env' sender' task',
            task'.metadataString "device-key" = .ok key →
            Manager.handle J config env' c'.state
                { dest := .devices, sender := sender', command := "request", body := .task task' } =
              .ok (c'.state, [((Manager.program J config).ctx c'.state .devices).response J .ws task'
                (.failed "device not connected")])) ∧
    (∀ managerKey n₀ c, Platform.Initial n₀ →
      Platform.Run J managerKey (fun env n e => ¬ Platform.Breaks env n e) ⟨n₀, []⟩ c →
      c.state.services.managers.Listed ∧
      ∀ n p q env sender task key, c = ⟨n, p ++ Platform.deleteMessage sender task :: q⟩ →
        task.paramString "key" = .ok key → key ≠ "" → env.db = none →
        ¬ Platform.Breaks env n (Platform.deleteMessage sender task) →
        (∀ row ∈ n.services.managers.table.rows, row.key = .bind key →
          row.profileLogin = .bind (task.stored "profile.login")) →
        ∃ n' out,
          Platform.handle J managerKey env n (Platform.deleteMessage sender task) = .ok (n', out) ∧
          ∀ c', Platform.Unconnected J managerKey key ⟨n', p ++ q ++ out⟩ c' → ∀ env' sender' task',
            task'.metadataString "manager-key" = .ok key →
            Platform.handle J managerKey env' c'.state
                { dest := .managers, sender := sender', command := "request", body := .task task' } =
              .ok (c'.state, [((Platform.program J managerKey).ctx c'.state .managers).response J .ws
                task' (.failed "manager not connection")])) := by
  constructor
  · intro config n₀ c h₀ hrun
    refine ⟨Manager.Run.listed hrun (fun _ _ _ hg => hg) h₀.listed, ?_⟩
    rintro n p q env sender task key rfl hparam hne hdb hbreaks
    have hhandle : Manager.handle J config env n (Manager.deleteMessage sender task) = _ :=
      Manager.handle_delete (Manager.Run.wired h₀ hrun).1 hparam hne hdb
    refine ⟨_, _, hhandle, fun c' hunconnected env' sender' task' hmetadata => ?_⟩
    have hafter := hrun.handle hbreaks hhandle
    obtain ⟨hn', hplain⟩ := Manager.Run.wired h₀ hafter
    have hlisted := Manager.Run.listed hafter (fun _ _ _ hg => hg) h₀.listed
    have hkey := hunconnected.notMem hlisted fun row hrow hbind => by
      have hkept := (Keyed.mem_delete.mp hrow).2
      exact of_decide_eq_false hkept hbind
    obtain ⟨mid, hfirst, hsecond⟩ := hunconnected
    obtain ⟨hmid, hmidPlain⟩ := hfirst.wired_of_wired hn' hplain
    exact Manager.handle_request_of_notMem (hsecond.wired_of_wired hmid hmidPlain).1 hmetadata hkey
  · intro managerKey n₀ c h₀ hrun
    refine ⟨Platform.Run.listed hrun (fun _ _ _ hg => hg) h₀.contacts (by simp) h₀.listed, ?_⟩
    rintro n p q env sender task key rfl hparam hne hdb hbreaks howner
    obtain ⟨out, hhandle⟩ : ∃ out, Platform.handle J managerKey env n
        (Platform.deleteMessage sender task) = .ok (_, out) :=
      Platform.handle_delete (Platform.Run.wired h₀ hrun).1 hparam hne hdb
    refine ⟨_, _, hhandle, fun c' hunconnected env' sender' task' hmetadata => ?_⟩
    have hafter := hrun.handle hbreaks hhandle
    obtain ⟨hn', hplain⟩ := Platform.Run.wired h₀ hafter
    have hlisted := Platform.Run.listed hafter (fun _ _ _ hg => hg) h₀.contacts (by simp) h₀.listed
    have hkey := hunconnected.notMem hn' hplain hlisted fun row hrow hbind => by
      obtain ⟨hmem, hkept⟩ := Keyed.mem_delete.mp hrow
      exact of_decide_eq_false hkept ⟨hbind, howner row hmem hbind⟩
    obtain ⟨mid, hfirst, hsecond⟩ := hunconnected
    obtain ⟨hmid, hmidPlain⟩ := hfirst.wired_of_wired hn' hplain
    exact Platform.handle_request_of_notMem (hsecond.wired_of_wired hmid hmidPlain).1 hmetadata hkey

/-- A delete of the device. -/
def deleteDevice : RequestMessage where
  id := .integer 1
  method := "devices.delete"
  params := .map [("key", .string "d")]
  metadata := [("user-key", .string "p.q")]

/-- The task of that delete. -/
def deleteTask : Task := Manager.adminTask ⟨"p.q", "m"⟩ deleteDevice "s" "devices" "delete"

/-- The administrator deletes the device of a state without pending messages. -/
theorem deleteDevice_delivers {guard : Env → Manager.State → Envelope Manager.Actor → Prop}
    {c : Work.Config Manager.State (Envelope Manager.Actor)} {n : Manager.State}
    (hrun : Manager.Run Codec.api ⟨"p.q", "m"⟩ guard c ⟨n, []⟩) (hn : n.contacts = Manager.contacts)
    (hguard : ∀ e, e.dest = .router ∨ e.dest = .users → guard .calm n e) :
    Manager.Run Codec.api ⟨"p.q", "m"⟩ guard c ⟨n, [Manager.deleteMessage .router deleteTask]⟩ := by
  have hexact : deleteDevice.Exact := rfl
  exact deviceRequest_delivers hrun hn hguard hexact (by decide) rfl rfl "s"

/-- The device takes its leave. -/
def disconnectDevice : RequestMessage where
  id := .integer 1
  method := "devices.disconnect"
  params := .map [("key", .string "d")]
  metadata := [("user-key", .string "p.q")]

/-- The device connects, takes its leave, and is about to be deleted. -/
theorem deviceLeft_run :
    Manager.Run Codec.api ⟨"p.q", "m"⟩ (fun env n e => ¬ Manager.Breaks env n e) ⟨oneDevice, []⟩
        ⟨connected, []⟩ ∧
      Manager.Run Codec.api ⟨"p.q", "m"⟩ (fun env n e => ¬ Manager.Breaks env n e) ⟨connected, []⟩
        ⟨oneDevice, [Manager.deleteMessage .router deleteTask]⟩ := by
  have hspares {n : Manager.State} {e : Envelope Manager.Actor}
      (he : e.dest ≠ .devices ∨ e.command = "disconnect") : ¬ Manager.Breaks .calm n e := by
    intro h
    cases h <;> simp [Manager.deleteMessage, Manager.connectMessage] at he
  have hguard {n : Manager.State} (e : Envelope Manager.Actor) (he : e.dest = .router ∨ e.dest = .users) :
      ¬ Manager.Breaks .calm n e := by
    apply hspares
    rcases he with h | h <;> simp [h]
  constructor
  · have hstart : Manager.Run Codec.api ⟨"p.q", "m"⟩ (fun env n e => ¬ Manager.Breaks env n e)
        ⟨oneDevice, []⟩ ⟨oneDevice, []⟩ := .refl _
    have hreply : Manager.Devices.connectReply .calm oneDevice.services.devices (connectTask "s") =
        .ok (connected.services.devices, .ok (.boolean true)) := rfl
    have hdelivered := connectDevice_delivers hstart rfl hguard "s"
    have hbreaks : ¬ Manager.Breaks .calm oneDevice (Manager.connectMessage .router (connectTask "s")) := by
      intro h
      generalize he : Manager.connectMessage .router (connectTask "s") = e at h
      cases h with
      | delete => simp [Manager.deleteMessage, Manager.connectMessage] at he
      | connect hkey _ _ hcut =>
        cases he
        cases hkey
        exact hcut (by decide)
    have hanswered := hdelivered.handle_single .calm hbreaks (Manager.handle_connect rfl hreply)
    exact hanswered.handle_single .calm (hspares (.inl (by decide))) rfl
  · have hstart : Manager.Run Codec.api ⟨"p.q", "m"⟩ (fun env n e => ¬ Manager.Breaks env n e)
        ⟨connected, []⟩ ⟨connected, []⟩ := .refl _
    have hexact : disconnectDevice.Exact := rfl
    have hsplit : split disconnectDevice.method = ["devices", "disconnect"] := by decide
    have hdelivered := deviceRequest_delivers hstart rfl hguard hexact hsplit rfl rfl "s"
    have hleft := hdelivered.handle_single .calm (hspares (.inr rfl)) rfl
    exact deleteDevice_delivers hleft rfl hguard

/-- A delete of the manager. -/
def deleteManager : RequestMessage where
  id := .integer 1
  method := "managers.delete"
  params := .map [("key", .string "k")]
  metadata := [("profile-key", .string "a.b")]

/-- The task of that delete. -/
def deleteManagerTask : Task := Platform.profileTask deleteManager "s" "managers" "delete" "a"

/-- The manager connects, and is about to be deleted. -/
theorem managerDelete_run : ∃ n,
    Platform.Run Codec.api "" (fun env n e => ¬ Platform.Breaks env n e) ⟨oneManager, []⟩
      ⟨n, [Platform.deleteMessage .router deleteManagerTask]⟩ ∧
    "k" ∈ n.services.managers.managersReg ∧
    n.services.managers.table.rows = oneManager.services.managers.table.rows := by
  have hguard (n : Platform.State) (e : Envelope Platform.Actor)
      (he : e.dest = .router ∨ e.dest = .profile) : ¬ Platform.Breaks .calm n e := by
    intro h
    cases h <;> simp [Platform.deleteMessage, Platform.connectMessage] at he
  have hreply : Platform.Managers.connectReply .calm
      (Platform.authorized oneManager "a.b").services.managers
      (Platform.profileTask connectManager "s" "managers" "connect" "a") =
      .ok (oneManager.services.managers.addRegManager "k" "s", .ok (.boolean true)) := rfl
  have hdelivered : Platform.Run Codec.api "" (fun env n e => ¬ Platform.Breaks env n e) ⟨oneManager, []⟩ _ :=
    connectManager_delivers hguard "s"
  have hbreaks : ¬ Platform.Breaks .calm (Platform.authorized oneManager "a.b") (Platform.connectMessage .router
      (Platform.profileTask connectManager "s" "managers" "connect" "a")) := by
    intro h
    generalize he : Platform.connectMessage .router _ = e at h
    cases h with
    | delete => simp [Platform.deleteMessage, Platform.connectMessage] at he
    | connect hkey _ _ hcut =>
      cases he
      cases hkey
      exact hcut (by decide)
  have hanswered := hdelivered.handle_single .calm hbreaks (Platform.handle_connect rfl hreply)
  have hwritten : Platform.Run Codec.api "" (fun env n e => ¬ Platform.Breaks env n e) _ ⟨_, []⟩ :=
    hanswered.handle_single .calm (fun h => by cases h) rfl
  let ws : WebSocket := ⟨"s", deleteManager.serialize Codec.api⟩
  have hexact : deleteManager.Exact := rfl
  have hreads : Codec.api.ReadsRequest ws.body deleteManager := hexact.reads_serialize
  have hsplit : split deleteManager.method = "managers" :: "delete" :: [] := by decide
  have hpieces : split "a.b" = "a" :: "b" :: [] := by decide
  have hmethod : List.elem "delete" ((Platform.program Codec.api "").messageTypes .managers) = true := rfl
  have hrun := hwritten.delivers (fun n e he _ => hguard n e he) rfl hreads hsplit rfl rfl hpieces (by decide)
    (by decide) rfl (List.mem_of_elem_eq_true hmethod)
  exact ⟨_, hrun, by decide, rfl⟩

theorem registered_listed_delete :
    (∃ n' out, Manager.handle Codec.api ⟨"p.q", "m"⟩ .calm oneDevice
        (Manager.deleteMessage .router deleteTask) = .ok (n', out) ∧
      Manager.handle Codec.api ⟨"p.q", "m"⟩ .calm n' {
          dest := .devices
          sender := .router
          command := "request"
          body := .task (deleteTask.setMetadata "device-key" (.string "d")) } =
        .ok (n', [((Manager.program Codec.api ⟨"p.q", "m"⟩).ctx n' .devices).response Codec.api .ws
          (deleteTask.setMetadata "device-key" (.string "d")) (.failed "device not connected")])) ∧
    ∃ n, n.services.managers.Listed ∧ "k" ∈ n.services.managers.managersReg ∧
      ∃ n' out, Platform.handle Codec.api "" .calm n (Platform.deleteMessage .router deleteManagerTask) =
          .ok (n', out) ∧
        Platform.handle Codec.api "" .calm n' {
            dest := .managers
            sender := .router
            command := "request"
            body := .task (deleteManagerTask.setMetadata "manager-key" (.string "k")) } =
          .ok (n', [((Platform.program Codec.api "").ctx n' .managers).response Codec.api .ws
            (deleteManagerTask.setMetadata "manager-key" (.string "k")) (.failed "manager not connection")]) := by
  constructor
  · have hbreaks : ¬ Manager.Breaks .calm oneDevice (Manager.deleteMessage .router deleteTask) := by
      intro h
      generalize he : Manager.deleteMessage .router deleteTask = e at h
      cases h with
      | delete _ _ _ _ _ hregistered => exact absurd hregistered (AList.notMem_empty _)
      | connect => simp [Manager.deleteMessage, Manager.connectMessage] at he
    have hrun : Manager.Run Codec.api ⟨"p.q", "m"⟩ (fun env n e => ¬ Manager.Breaks env n e)
        ⟨oneDevice, []⟩ ⟨oneDevice, [] ++ Manager.deleteMessage .router deleteTask :: []⟩ :=
      deviceLeft_run.1.trans deviceLeft_run.2
    have hmanager := ((registered_listed Codec.api).1 ⟨"p.q", "m"⟩ oneDevice _ oneDevice_initial hrun).2
      oneDevice [] [] .calm .router deleteTask "d" rfl rfl (by decide) rfl hbreaks
    obtain ⟨n', out, hhandle, hrefused⟩ := hmanager
    exact ⟨n', out, hhandle, hrefused _ ⟨_, .refl _, .refl _⟩ _ _ _ rfl⟩
  · obtain ⟨n, hrun, hregistered, hrows⟩ := managerDelete_run
    have hbreaks : ¬ Platform.Breaks .calm n (Platform.deleteMessage .router deleteManagerTask) := by
      intro h
      generalize he : Platform.deleteMessage .router deleteManagerTask = e at h
      cases h with
      | delete hkey _ _ hrow _ _ _ hcut =>
        cases he
        cases hkey
        rw [hrows] at hrow
        rw [List.mem_singleton.mp hrow] at hcut
        exact hcut (by decide)
      | connect => simp [Platform.deleteMessage, Platform.connectMessage] at he
    have howner : ∀ row ∈ n.services.managers.table.rows, row.key = .bind "k" →
        row.profileLogin = .bind (deleteManagerTask.stored "profile.login") := by
      intro row hrow _
      rw [hrows] at hrow
      rw [List.mem_singleton.mp hrow]
      rfl
    have hplatform := (registered_listed Codec.api).2 "" oneManager _ oneManager_initial hrun
    obtain ⟨n', out, hhandle, hrefused⟩ := hplatform.2 n [] [] .calm .router deleteManagerTask "k" rfl rfl
      (by decide) rfl hbreaks howner
    exact ⟨n, hplatform.1, hregistered, n', out, hhandle, hrefused _ ⟨_, .refl _, .refl _⟩ _ _ _ rfl⟩

/-- A device that is deleted while it is connected stays registered without a row. -/
theorem deleteConnected_not_listed :
    ¬ ∀ n, Manager.Reachable Codec.api ⟨"p.q", "m"⟩ n → n.services.devices.Listed := by
  intro hall
  have hparam : deleteTask.paramString "key" = .ok "d" := rfl
  have hdelivered := deleteDevice_delivers connected_run rfl (fun _ _ => trivial)
  have hdeleted := hdelivered.handle_single .calm trivial
    (Manager.handle_delete rfl hparam (by decide) rfl)
  obtain ⟨row, hrow, -⟩ := hall _ ⟨oneDevice, _, oneDevice_initial, hdeleted⟩ "d" (by decide)
  have hnone : ∀ row : Manager.DeviceRow, row ∉ (connected.services.devices.table.delete fun row =>
      row.key = Text.bind "d").rows := by
    intro row hrow
    obtain ⟨hmem, hkept⟩ := Keyed.mem_delete.mp hrow
    rw [show row = { key := .bind "d", name := .bind "d" } from List.mem_singleton.mp hmem] at hkept
    exact absurd hkept (by decide)
  exact hnone row hrow

end StreamCloud
