-- SUMMARY: Who gets to control a device and to subscribe to it, and where that differs from the groups they share.
import StreamCloud.Manager.Flow
import StreamCloud.Api.JsonText

/-!
# Device access

A user has access to a device through a group that the device is connected to
and the user is subscribed to. The subscriptions service asks for one group
instead: the one whose key is that of all the device's groups, joined by commas.
-/

namespace StreamCloud.Manager

open Work

variable {J : Codec} {config : Config}

/-! ## Intended and actual access -/

/-- Some group has the device. -/
def HasGroup (n : State) (device : String) : Prop :=
  ∃ row ∈ n.services.connections.rows, row.deviceKey.val = device

/-- Some group has both the device and the user. -/
def SharesGroup (n : State) (device user : String) : Prop :=
  ∃ connected ∈ n.services.connections.rows, ∃ subscribed ∈ n.services.subscriptions.rows,
    connected.groupKey = subscribed.groupKey ∧ connected.deviceKey.val = device ∧ subscribed.userLogin.val = user

/-- The access that is intended. -/
def Allowed (n : State) (device user : String) (admin : Bool) : Prop :=
  HasGroup n device ∧ (admin ∨ SharesGroup n device user)

/-- The keys of the groups of a device. -/
def groupKeys (n : State) (device : String) : List String :=
  (n.services.connections.selectGroups (.bind device)).map Text.val

/-- A group is found for the device, whose key is cut at its first null character. -/
def FindsGroup (n : State) (device : String) : Prop :=
  ∃ row ∈ n.services.connections.rows, row.deviceKey = .bind device

/-- The user is subscribed to the text that the group keys of the device make up. -/
def SubscribedToJoined (n : State) (device user : String) : Prop :=
  { groupKey := .bind (joinGroups (groupKeys n device)), userLogin := .bind user } ∈
    n.services.subscriptions.rows

/-- The access that is given. -/
def Granted (n : State) (device user : String) (admin : Bool) : Prop :=
  device ≠ "" ∧ FindsGroup n device ∧ (admin ∨ SubscribedToJoined n device user)

/-- Where the access given is the access intended: no group is found for the device; or
its key has a null character, and the user is neither an administrator nor subscribed to
the joined text; or its key is not empty, and the user is an administrator, or subscribed
to the joined text just if subscribed to a group of the device; or its key is empty, and
the user has no access. -/
def AccessHolds (n : State) (device user : String) (admin : Bool) : Prop :=
  ¬ FindsGroup n device ∨
    '\x00' ∈ device.toList ∧ ¬ (admin ∨ SubscribedToJoined n device user) ∨
    '\x00' ∉ device.toList ∧
      (device ≠ "" ∧ (admin ∨ (SubscribedToJoined n device user ↔ SharesGroup n device user)) ∨
        device = "" ∧ ¬ (admin ∨ SharesGroup n device user))

theorem hasGroup_iff {n : State} {device : String} :
    HasGroup n device ↔ '\x00' ∉ device.toList ∧ FindsGroup n device := by
  constructor
  · rintro ⟨row, hrow, rfl⟩
    exact ⟨row.deviceKey.noNul, row, hrow, (Text.bind_val _).symm⟩
  · rintro ⟨hnul, row, hrow, hkey⟩
    exact ⟨row, hrow, ((Text.bind_eq_iff hnul).mp hkey.symm).symm⟩

theorem granted_iff_allowed {n : State} {device user : String} {admin : Bool} :
    (Granted n device user admin ↔ Allowed n device user admin) ↔
      AccessHolds n device user admin := by
  unfold Granted Allowed AccessHolds
  rw [hasGroup_iff]
  have hempty : device = "" → '\x00' ∉ device.toList := by
    rintro rfl
    simp
  generalize FindsGroup n device = finds
  generalize SharesGroup n device user = shares
  generalize SubscribedToJoined n device user = joined
  generalize ('\x00' ∈ device.toList) = nul at hempty ⊢
  by_cases hdevice : device = ""
  · have hnul := hempty hdevice
    simp [hdevice, hnul]
    tauto
  · by_cases hnul : nul <;> cases admin <;> simp [hdevice, hnul] <;> tauto

theorem selectGroups_ne_nil {n : State} {device : String} :
    n.services.connections.selectGroups (.bind device) ≠ [] ↔ FindsGroup n device := by
  simp [Connections.selectGroups, FindsGroup]

theorem selectAccess_ne_nil {n : State} {device user : String} :
    n.services.subscriptions.selectAccess (.bind user) (.bind (joinGroups (groupKeys n device))) ≠ [] ↔
      SubscribedToJoined n device user := by
  simp only [ne_eq, Subscriptions.selectAccess, List.map_eq_nil_iff, List.filter_eq_nil_iff,
    decide_eq_true_eq, not_forall, not_not, SubscribedToJoined]
  constructor
  · rintro ⟨⟨group, login⟩, hrow, rfl, rfl⟩
    exact hrow
  · exact fun hrow => ⟨_, hrow, rfl, rfl⟩

/-! ## The steps of the two chains -/

section Steps

variable {n : State} (hn : n.contacts = contacts) {env : Env} {sender : Actor} {task : Task}
  {device : String}

/-- A response is written, or goes to `platform`. -/
theorem handle_response (ctx : Ctx Actor) (reply : Reply) :
    ∃ out, handle J config env n (ctx.response J .ws task reply) = .ok (n, out) ∧
      ∀ e ∈ out, e.dest = .platform := by
  let ws : WebSocket :=
    { id := task.transportId, body := (reply.message task.request.id).serialize J }
  have hwrite : handle J config env n (ctx.response J .ws task reply) =
      (WsServer.write [Actor.platform] env ((program J config).ctx n .ws) () (.webSocket ws)).map
        fun r => (n, r.2) := (Program.handle_transport rfl rfl).trans rfl
  rw [hwrite]
  simp only [WsServer.write, Transport.asWebSocket_webSocket, Except.ok_bind']
  split
  · exact ⟨[], rfl, by simp⟩
  · exact ⟨_, rfl, by simp⟩

include hn

/-- `devices.control`, for a registered device. -/
theorem handle_control (hkey : task.metadataString "device-key" = .ok device)
    (hreg : device ∈ n.services.devices.devicesReg) :
    handle J config env n { dest := .devices, sender, command := "control", body := .task task } =
      .ok (n, [{ dest := .connections, sender := .devices, command := "devices",
                 body := .task task }]) := by
  have hconnections : (contacts .devices).lookup "connections" = some .connections := rfl
  have hcontains : task.request.metadata.contains "device-key" := by
    rw [JsonMap.contains, JsonMap.stringAt_eq_ok.mp hkey]
    rfl
  refine (Program.handle_task rfl rfl).trans ?_
  show (Devices.control J env _ n.services.devices task).map _ = _
  simp only [Devices.control, if_pos hcontains, hkey, Except.ok_bind', Devices.isRegDevice, hreg,
    decide_true, if_true, Ctx.send_of_contact (lookup_of_wired hn hconnections)]
  rfl

/-- `devices.subscribe`, for a registered device. -/
theorem handle_subscribe (hkey : task.paramString "device-key" = .ok device)
    (hreg : device ∈ n.services.devices.devicesReg) :
    handle J config env n { dest := .devices, sender, command := "subscribe", body := .task task } =
      .ok (n, [{ dest := .connections, sender := .devices, command := "subscribe",
                 body := .task task }]) := by
  have hconnections : (contacts .devices).lookup "connections" = some .connections := rfl
  refine (Program.handle_task rfl rfl).trans ?_
  show (Devices.forwardRegistered J "subscribe" env _ n.services.devices task).map _ = _
  simp only [Devices.forwardRegistered, hkey, Except.ok_bind', Devices.isRegDevice, hreg,
    decide_true, if_true, Ctx.send_of_contact (lookup_of_wired hn hconnections)]
  rfl

/-- The task with the groups of its device. -/
def withGroups (n : State) (device : String) (task : Task) : Task :=
  task.setMetadata "device-groups" (.array ((groupKeys n device).map .string))

/-- `connections.devices` and `connections.subscribe` pass the task of a device
with groups on, and refuse the others. -/
theorem handle_forwardGroups {command next : String} (deviceKey : Task → Except Fault String)
    (hreaction : (program J config).reaction .connections command =
      .task ((Connections.forwardGroups J deviceKey next).lift Services.connectionsLens))
    (hdb : env.db = none) (hkey : deviceKey task = .ok device) :
    (device ≠ "" ∧ FindsGroup n device ∧
      handle J config env n { dest := .connections, sender, command, body := .task task } =
        .ok (n, [{ dest := .subscriptions, sender := .connections, command := next,
                   body := .task (withGroups n device task) }])) ∨
    ¬ (device ≠ "" ∧ FindsGroup n device) ∧ ∃ reply,
      handle J config env n { dest := .connections, sender, command, body := .task task } =
        .ok (n, [((program J config).ctx n .connections).response J .ws task reply]) := by
  have hsubscriptions : (contacts .connections).lookup "subscriptions" = some .subscriptions := rfl
  have hws : (contacts .connections).lookup "ws" = some .ws := rfl
  have hhandle : handle J config env n { dest := .connections, sender, command, body := .task task } =
      (Connections.forwardGroups J deviceKey next env
        ((program J config).ctx n .connections) n.services.connections task).map
        fun r => ({ n with services := { n.services with connections := r.1 } }, r.2) :=
    (Program.handle_task hreaction rfl).trans rfl
  rw [hhandle, Connections.forwardGroups_eq J hdb hkey (lookup_of_wired hn hsubscriptions)
    (lookup_of_wired hn hws)]
  by_cases hempty : device = ""
  · exact .inr ⟨fun h => h.1 hempty, _, by rw [if_pos (by simp [hempty])]; rfl⟩
  by_cases hgroups : n.services.connections.selectGroups (.bind device) = []
  · exact .inr ⟨fun h => selectGroups_ne_nil.mpr h.2 hgroups, _,
      by rw [if_neg (by simpa using hempty), if_pos hgroups]; rfl⟩
  · exact .inl ⟨hempty, selectGroups_ne_nil.mp hgroups,
      by rw [if_neg (by simpa using hempty), if_neg hgroups]; rfl⟩

/-- A forwarded task conveys the request of a task. The list of groups, which is put into
its metadata on the way, is taken out again. -/
structure Conveys (task forwarded : Task) : Prop where
  id : forwarded.request.id = task.request.id
  method : forwarded.request.method = task.request.method
  params : forwarded.request.params = task.request.params
  metadata : ∀ key, forwarded.request.metadata.find? key =
    if key = "device-groups" then none else task.request.metadata.find? key
  transportId : forwarded.transportId = task.transportId
  storage : forwarded.storage = task.storage

omit hn in
theorem conveys_withGroups (n : State) (device : String) (task : Task) :
    Conveys task ((withGroups n device task).eraseMetadata "device-groups") := by
  refine ⟨rfl, rfl, rfl, fun key => ?_, rfl, rfl⟩
  split_ifs with hkey
  · rw [hkey]
    exact JsonMap.find?_erase_self _ _
  · exact (JsonMap.find?_erase_of_ne hkey).trans (JsonMap.find?_set_of_ne hkey)

/-- `subscriptions.groups` forwards the request of a user with access. -/
theorem handle_groups {user : String} {admin : Bool} (hdb : env.db = none)
    (huser : task.stored "user.login" = user)
    (hadmin : task.stored "user.admin" = if admin then "1" else "0") (hgroup : FindsGroup n device) :
    ((admin ∨ SubscribedToJoined n device user) ∧ ∃ forwarded, Conveys task forwarded ∧
      handle J config env n
        { dest := .subscriptions, sender, command := "groups",
          body := .task (withGroups n device task) } =
        .ok (n, [{ dest := .devices, sender := .subscriptions, command := "request",
                   body := .task forwarded }])) ∨
    ¬ (admin ∨ SubscribedToJoined n device user) ∧ ∃ e, e.dest = .ws ∧
      handle J config env n
        { dest := .subscriptions, sender, command := "groups",
          body := .task (withGroups n device task) } = .ok (n, [e]) := by
  have hdevices : (contacts .subscriptions).lookup "devices" = some .devices := rfl
  have hws : (contacts .subscriptions).lookup "ws" = some .ws := rfl
  have hkeys : (withGroups n device task).request.metadata.arrayAt "device-groups" =
      .ok ((groupKeys n device).map .string) := by
    simp [withGroups, JsonMap.arrayAt_eq_ok]
  have hne : groupKeys n device ≠ [] := by
    simpa [groupKeys] using selectGroups_ne_nil.mpr hgroup
  have hhandle : handle J config env n
      { dest := .subscriptions, sender, command := "groups",
        body := .task (withGroups n device task) } =
      (Subscriptions.groups J env ((program J config).ctx n .subscriptions)
        n.services.subscriptions (withGroups n device task)).map
        fun r => ({ n with services := { n.services with subscriptions := r.1 } }, r.2) :=
    (Program.handle_task rfl rfl).trans rfl
  have haccess : (n.services.subscriptions.selectAccess
      (.bind ((withGroups n device task).stored "user.login"))
      (.bind (joinGroups (groupKeys n device))) ≠ [] ∨
      (withGroups n device task).stored "user.admin" = "1") ↔
        (admin ∨ SubscribedToJoined n device user) := by
    simp only [withGroups, Task.stored_setMetadata, huser, hadmin, selectAccess_ne_nil]
    cases admin <;> simp
  rw [hhandle, Subscriptions.groups_eq J hdb hkeys hne (lookup_of_wired hn hdevices)
    (lookup_of_wired hn hws)]
  by_cases hgranted : (admin ∨ SubscribedToJoined n device user)
  · refine .inl ⟨hgranted, _, conveys_withGroups n device task, ?_⟩
    rw [if_pos (haccess.mpr hgranted)]
    rfl
  · exact .inr ⟨hgranted, _, rfl, by rw [if_neg (haccess.not.mpr hgranted)]; rfl⟩

/-- `subscriptions.on` adds the session of a user with access to the listeners. -/
theorem handle_on {user : String} {admin : Bool} (hdb : env.db = none)
    (hkey : task.paramString "device-key" = .ok device) (huser : task.stored "user.login" = user)
    (hadmin : task.stored "user.admin" = if admin then "1" else "0") (hgroup : FindsGroup n device) :
    ∃ n' out, handle J config env n
        { dest := .subscriptions, sender, command := "on",
          body := .task (withGroups n device task) } = .ok (n', out) ∧
      (task.transportId ∈ n'.services.subscriptions.subscribers device ↔
        task.transportId ∈ n.services.subscriptions.subscribers device ∨
          admin ∨ SubscribedToJoined n device user) := by
  have hws : (contacts .subscriptions).lookup "ws" = some .ws := rfl
  have hkeys : (withGroups n device task).request.metadata.arrayAt "device-groups" =
      .ok ((groupKeys n device).map .string) := by
    simp [withGroups, JsonMap.arrayAt_eq_ok]
  have hne : groupKeys n device ≠ [] := by
    simpa [groupKeys] using selectGroups_ne_nil.mpr hgroup
  have hcontact : ((program J config).ctx n .subscriptions).contacts.lookup "ws" = some .ws :=
    lookup_of_wired hn hws
  obtain ⟨s', out, hon, hsubscribers⟩ := Subscriptions.on_subscribers J (s := n.services.subscriptions)
    hdb hkeys hne (show (withGroups n device task).paramString "device-key" = _ from hkey) hcontact
  refine ⟨{ n with services := { n.services with subscriptions := s' } }, out, ?_, ?_⟩
  · refine (Program.handle_task rfl rfl).trans ?_
    show (Subscriptions.on J env _ n.services.subscriptions _).map _ = _
    rw [hon]
    rfl
  · refine hsubscribers.trans ?_
    simp only [withGroups, Task.stored_setMetadata, Task.transportId_setMetadata, huser, hadmin,
      selectAccess_ne_nil]
    cases admin <;> simp

end Steps

/-! ## The two chains -/

section Chains

variable {n : State} (hn : n.contacts = contacts) {env : Env} (hdb : env.db = none)
  {sender : Actor} {task : Task} {device user : String} {admin : Bool}
  (hreg : device ∈ n.services.devices.devicesReg) (huser : task.stored "user.login" = user)
  (hadmin : task.stored "user.admin" = if admin then "1" else "0")

/-- The request of a `devices.control` comes to `devices.request`, three messages later. -/
def Controls (J : Codec) (config : Config) (env : Env) (n : State) (sender : Actor) (task : Task) :
    Prop :=
  ∃ n' pending, turns (handle J config) env 3
      ⟨n, [{ dest := .devices, sender, command := "control", body := .task task }]⟩ =
        .ok ⟨n', pending⟩ ∧
    ∃ e ∈ pending, e.dest = .devices ∧ e.command = "request" ∧
      ∃ forwarded, e.body = .task forwarded ∧ Conveys task forwarded

/-- Three messages after a `devices.subscribe`, its session listens to the device. -/
def Subscribes (J : Codec) (config : Config) (env : Env) (n : State) (sender : Actor) (task : Task)
    (device : String) : Prop :=
  ∃ n' pending, turns (handle J config) env 3
      ⟨n, [{ dest := .devices, sender, command := "subscribe", body := .task task }]⟩ =
        .ok ⟨n', pending⟩ ∧
    task.transportId ∈ n'.services.subscriptions.subscribers device

include hn hdb hreg huser hadmin

theorem controls_iff (hkey : task.metadataString "device-key" = .ok device) :
    Controls J config env n sender task ↔ Granted n device user admin := by
  have hreaction : (program J config).reaction .connections "devices" =
    .task ((Connections.devices J).lift Services.connectionsLens) := rfl
  unfold Controls
  rw [turns_succ (handle_control hn hkey hreg)]
  rcases handle_forwardGroups hn (fun task => task.metadataString "device-key") hreaction hdb hkey with
    ⟨hempty, hgroup, hforward⟩ | ⟨hno, reply, hrefuse⟩
  · rw [turns_succ hforward]
    rcases handle_groups hn hdb huser hadmin hgroup with
      ⟨haccess, forwarded, hconveys, hrequest⟩ | ⟨haccess, e, hdest, hrefuse⟩
    · rw [turns_succ hrequest]
      exact iff_of_true ⟨n, _, rfl, _, List.mem_singleton_self _, rfl, rfl, forwarded, rfl, hconveys⟩
        ⟨hempty, hgroup, haccess⟩
    · rw [turns_succ hrefuse]
      refine iff_of_false ?_ fun hgranted => haccess hgranted.2.2
      rintro ⟨n', pending, h, e', he', hdest', -⟩
      cases h
      rw [List.mem_singleton.mp he', hdest] at hdest'
      cases hdest'
  · obtain ⟨out, hout, hplatform⟩ := handle_response (J := J) _ reply
    rw [turns_succ hrefuse, turns_succ hout]
    refine iff_of_false ?_ fun hgranted => hno ⟨hgranted.1, hgranted.2.1⟩
    rintro ⟨n', pending, h, e', he', hdest', -⟩
    cases h
    rw [hplatform e' he'] at hdest'
    cases hdest'

theorem subscribes_iff (hkey : task.paramString "device-key" = .ok device) :
    Subscribes J config env n sender task device ↔
      task.transportId ∈ n.services.subscriptions.subscribers device ∨
        Granted n device user admin := by
  have hreaction : (program J config).reaction .connections "subscribe" =
    .task ((Connections.subscribe J).lift Services.connectionsLens) := rfl
  unfold Subscribes
  rw [turns_succ (handle_subscribe hn hkey hreg)]
  rcases handle_forwardGroups hn (fun task => task.paramString "device-key") hreaction hdb hkey with
    ⟨hempty, hgroup, hforward⟩ | ⟨hno, reply, hrefuse⟩
  · obtain ⟨n', out, hon, hsubscribers⟩ := handle_on hn hdb hkey huser hadmin hgroup
    rw [turns_succ hforward, turns_succ hon]
    have hgranted : Granted n device user admin ↔ (admin ∨ SubscribedToJoined n device user) := by
      simp [Granted, hempty, hgroup]
    rw [hgranted, ← hsubscribers]
    constructor
    · rintro ⟨n'', pending, h, hmem⟩
      cases h
      exact hmem
    · exact fun hmem => ⟨n', out, rfl, hmem⟩
  · obtain ⟨out, hout, -⟩ := handle_response (J := J) _ reply
    rw [turns_succ hrefuse, turns_succ hout]
    have hgranted : ¬ Granted n device user admin := fun h => hno ⟨h.1, h.2.1⟩
    simp only [hgranted, or_false]
    constructor
    · rintro ⟨n'', pending, h, hmem⟩
      cases h
      exact hmem
    · exact fun hmem => ⟨n, out, rfl, hmem⟩

end Chains

/-- While the database answers, a user controls a registered device just if
allowed to, and comes to listen to it just if allowed to, exactly where
`AccessHolds` (or the session listens already). -/
theorem device_access_iff (J : Codec) (config : Config) (env : Env) (n : State) (sender : Actor)
    (task : Task) (device user : String) (admin : Bool) (hn : n.contacts = contacts)
    (hdb : env.db = none) (hreg : device ∈ n.services.devices.devicesReg)
    (huser : task.stored "user.login" = user)
    (hadmin : task.stored "user.admin" = if admin then "1" else "0") :
    (task.metadataString "device-key" = .ok device →
      ((Controls J config env n sender task ↔ Allowed n device user admin) ↔
        AccessHolds n device user admin)) ∧
    (task.paramString "device-key" = .ok device →
      ((Subscribes J config env n sender task device ↔
          task.transportId ∈ n.services.subscriptions.subscribers device ∨
            Allowed n device user admin) ↔
        task.transportId ∈ n.services.subscriptions.subscribers device ∨
          AccessHolds n device user admin)) := by
  constructor
  · intro hkey
    rw [controls_iff hn hdb hreg huser hadmin hkey]
    exact granted_iff_allowed
  · intro hkey
    rw [subscribes_iff hn hdb hreg huser hadmin hkey, ← granted_iff_allowed]
    tauto

/-- A registered device in two groups, and a user who is subscribed to the first. -/
def twoGroups : State where
  services := { blank.services with
    connections := { rows := [{ groupKey := .bind "g", deviceKey := .bind "d" },
      { groupKey := .bind "h", deviceKey := .bind "d" }] }
    subscriptions := { blank.services.subscriptions with
      rows := [{ groupKey := .bind "g", userLogin := .bind "u" }] }
    devices := { blank.services.devices with
      devicesReg := (∅ : StringMap String).insert "d" "t" } }
  contacts := contacts

/-- A task of that user, for that device. -/
def deviceTask : Task where
  request := {
    id := .integer 1
    method := "devices.control"
    params := .map [("device-key", .string "d")]
    metadata := [("device-key", .string "d")] }
  transportId := "s"
  storage := ((∅ : StringMap String).insert "user.login" "u").insert "user.admin" "0"

theorem device_access_iff_twoGroups :
    ((Controls Codec.api ⟨"p.q", "m"⟩ .calm twoGroups .router deviceTask ↔
        Allowed twoGroups "d" "u" false) ↔ AccessHolds twoGroups "d" "u" false) ∧
    ((Subscribes Codec.api ⟨"p.q", "m"⟩ .calm twoGroups .router deviceTask "d" ↔
        "s" ∈ twoGroups.services.subscriptions.subscribers "d" ∨ Allowed twoGroups "d" "u" false) ↔
      "s" ∈ twoGroups.services.subscriptions.subscribers "d" ∨
        AccessHolds twoGroups "d" "u" false) :=
  have h := device_access_iff Codec.api ⟨"p.q", "m"⟩ .calm twoGroups .router deviceTask "d" "u" false
    rfl rfl (by decide) rfl rfl
  ⟨h.1 rfl, h.2 rfl⟩

/-- The user is subscribed to a group of the device, and cannot control it. -/
theorem twoGroups_not_controls :
    ¬ (Controls Codec.api ⟨"p.q", "m"⟩ .calm twoGroups .router deviceTask ↔
      Allowed twoGroups "d" "u" false) := by
  have hcontrols : Controls Codec.api ⟨"p.q", "m"⟩ .calm twoGroups .router deviceTask ↔
      Granted twoGroups "d" "u" false := controls_iff rfl rfl (by decide) rfl rfl rfl
  rw [hcontrols, granted_iff_allowed]
  have hgroup : FindsGroup twoGroups "d" := by
    unfold FindsGroup
    decide
  have hshares : SharesGroup twoGroups "d" "u" := by
    unfold SharesGroup
    decide
  have hjoined : ¬ SubscribedToJoined twoGroups "d" "u" := by
    unfold SubscribedToJoined
    decide
  simp [AccessHolds, hgroup, hshares, hjoined]

end StreamCloud.Manager
