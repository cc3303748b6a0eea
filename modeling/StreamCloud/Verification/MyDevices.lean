-- SUMMARY: Which devices a user is told to be subscribed to, and where these are the devices of the user's groups.
import StreamCloud.Verification.DeviceAccess

/-!
# My devices

`subscriptions.devices` collects the groups of a user and has the connections service
answer with their devices. It asks for the devices of one group instead: the one whose
key is that of all groups, joined by commas.
-/

namespace StreamCloud.Manager

open Work

variable {J : Codec} {config : Config}

/-! ## Intended and actual devices -/

/-- The keys of the groups that are found for a user, whose login is cut at its first null
character. -/
def foundGroups (n : State) (user : String) : List String :=
  (n.services.subscriptions.rows.filter fun row => row.userLogin = Text.bind user).map
    fun row => row.groupKey.val

/-- The user is subscribed to some group. -/
def HasSubscription (n : State) (user : String) : Prop :=
  ∃ row ∈ n.services.subscriptions.rows, row.userLogin.val = user

/-- Some group has both the user and the device. -/
def SharesDevice (n : State) (user device : String) : Prop :=
  ∃ subscribed ∈ n.services.subscriptions.rows, ∃ connected ∈ n.services.connections.rows,
    subscribed.groupKey = connected.groupKey ∧ subscribed.userLogin.val = user ∧ connected.deviceKey.val = device

/-- The device is connected to the text that the keys of the user's groups make up. -/
def ConnectedToJoined (n : State) (user device : String) : Prop :=
  ∃ row ∈ n.services.connections.rows,
    row.groupKey = .bind (joinGroups (foundGroups n user)) ∧ row.deviceKey.val = device

/-- No group is found for the user; or the devices of the joined text are those of the
groups. -/
def DevicesHold (n : State) (user : String) : Prop :=
  foundGroups n user = [] ∨ ∀ device, ConnectedToJoined n user device ↔ SharesDevice n user device

/-- The reply lists a device. -/
def Lists (reply : Reply) (device : String) : Prop :=
  ∃ devices, reply.result = .array devices ∧ .string device ∈ devices

/-- Two messages after a `subscriptions.devices`, this reply is written to its session,
and nothing else. -/
def RepliesDevices (J : Codec) (config : Config) (env : Env) (n : State) (sender : Actor) (task : Task)
    (reply : Reply) : Prop :=
  turns (handle J config) env 2
      ⟨n, [{ dest := .subscriptions, sender, command := "devices", body := .task task }]⟩ =
    .ok ⟨n, [{
      dest := .ws
      sender := .connections
      command := "write"
      body := .transport (.webSocket
        { id := task.transportId, body := (reply.message task.request.id).serialize J }) }]⟩

/-- The reply lists the devices of the user's groups, and is no error where there is a
group. -/
def RightDevices (n : State) (user : String) (reply : Reply) : Prop :=
  (∀ device, Lists reply device ↔ SharesDevice n user device) ∧
    (HasSubscription n user → reply.error = none)

/-! ## The two steps -/

/-- The task with the groups of its user for its parameters. -/
def withFoundGroups (n : State) (user : String) (task : Task) : Task :=
  task.setParams (.array ((foundGroups n user).map .string))

/-- What the connections service replies. -/
def devicesReply (n : State) (user : String) : Reply :=
  if foundGroups n user = [] then .failed "devices not found"
  else .ok (.array ((n.services.connections.selectDevices
    (.bind (joinGroups (foundGroups n user)))).map fun key => .string key.val))

section Steps

variable {n : State} (hn : n.contacts = contacts) {env : Env} (hdb : env.db = none) {sender : Actor}
  {task : Task} {user : String}

include hn hdb

theorem handle_devices (huser : task.stored "user.login" = user) :
    handle J config env n { dest := .subscriptions, sender, command := "devices", body := .task task } =
      .ok (n, [{ dest := .connections, sender := .subscriptions, command := "groups",
                 body := .task (withFoundGroups n user task) }]) := by
  have hconnections : (contacts .subscriptions).lookup "connections" = some .connections := rfl
  refine (Program.handle_task rfl rfl).trans ?_
  show (Subscriptions.devices J env _ n.services.subscriptions task).map _ = _
  simp only [Subscriptions.devices, hdb, Db.execute, Except.ok_bind', huser,
    Ctx.send_of_contact (lookup_of_wired hn hconnections)]
  show Except.ok _ = _
  rw [withFoundGroups, foundGroups, List.map_map]
  rfl

theorem handle_foundGroups :
    handle J config env n { dest := .connections, sender, command := "groups",
                            body := .task (withFoundGroups n user task) } =
      .ok (n, [{
        dest := .ws
        sender := .connections
        command := "write"
        body := .transport (.webSocket
          { id := task.transportId
            body := ((devicesReply n user).message task.request.id).serialize J }) }]) := by
  have hws : (contacts .connections).lookup "ws" = some .ws := rfl
  refine (Program.handle_task rfl rfl).trans ?_
  show (Connections.groups J env _ n.services.connections (withFoundGroups n user task)).map _ = _
  have hread : (withFoundGroups n user task).request.params.asArray =
      .ok ((foundGroups n user).map .string) := rfl
  have hanswer : Connections.groups J env ((program J config).ctx n .connections) n.services.connections
      (withFoundGroups n user task) = .ok (n.services.connections,
        [((program J config).ctx n .connections).response J .ws (withFoundGroups n user task)
          (devicesReply n user)]) := by
    refine Ctx.answer_eq_ok.mpr ⟨_, devicesReply n user, hread, ?_,
      Ctx.respond_of_contact (lookup_of_wired hn hws)⟩
    by_cases hnone : foundGroups n user = []
    · simp [devicesReply, hnone]
    · have hsome : ((foundGroups n user).map JsonValue.string).isEmpty = false := by simpa using hnone
      simp only [hsome, Bool.not_false, if_true, attempt, JsonValue.mapM_asString, Except.ok_bind', hdb,
        Db.execute, devicesReply, if_neg hnone]
      rfl
  rw [hanswer]
  rfl

theorem repliesDevices (huser : task.stored "user.login" = user) :
    RepliesDevices J config env n sender task (devicesReply n user) := by
  unfold RepliesDevices
  rw [turns_succ (handle_devices hn hdb huser), turns_succ (handle_foundGroups hn hdb)]
  rfl

end Steps

/-! ## The reply -/

section Replies

variable {n : State} {user device : String}

theorem lists_devicesReply (h : foundGroups n user ≠ []) :
    Lists (devicesReply n user) device ↔ ConnectedToJoined n user device := by
  unfold devicesReply ConnectedToJoined Connections.selectDevices
  rw [if_neg h]
  constructor
  · rintro ⟨devices, hresult, hmem⟩
    obtain rfl := JsonValue.array.inj hresult
    obtain ⟨key, hkey, heq⟩ := List.mem_map.mp hmem
    obtain ⟨row, hrow, rfl⟩ := List.mem_map.mp hkey
    obtain ⟨hrow, hgroup⟩ := List.mem_filter.mp hrow
    exact ⟨row, hrow, of_decide_eq_true hgroup, JsonValue.string.inj heq⟩
  · rintro ⟨row, hrow, hgroup, rfl⟩
    exact ⟨_, rfl, List.mem_map.mpr ⟨row.deviceKey,
      List.mem_map.mpr ⟨row, List.mem_filter.mpr ⟨hrow, decide_eq_true hgroup⟩, rfl⟩, rfl⟩⟩

/-- The groups of a user are found. -/
theorem mem_foundGroups {row : SubscriptionRow} (hrow : row ∈ n.services.subscriptions.rows)
    (huser : row.userLogin.val = user) : row.groupKey.val ∈ foundGroups n user := by
  refine List.mem_map.mpr ⟨row, List.mem_filter.mpr ⟨hrow, decide_eq_true ?_⟩, rfl⟩
  rw [← huser, Text.bind_val]

/-- A user for whom no group is found is not subscribed to one. -/
theorem not_hasSubscription (h : foundGroups n user = []) : ¬ HasSubscription n user := by
  rintro ⟨row, hrow, huser⟩
  have hmem := mem_foundGroups hrow huser
  rw [h] at hmem
  cases hmem

/-- A user without groups shares no device. -/
theorem not_sharesDevice (h : foundGroups n user = []) : ¬ SharesDevice n user device :=
  fun ⟨row, hrow, _, _, _, huser, _⟩ => not_hasSubscription h ⟨row, hrow, huser⟩

theorem rightDevices_iff : RightDevices n user (devicesReply n user) ↔ DevicesHold n user := by
  by_cases hnone : foundGroups n user = []
  · refine iff_of_true ⟨fun device => iff_of_false ?_ (not_sharesDevice hnone), ?_⟩ (.inl hnone)
    · rintro ⟨devices, hresult, -⟩
      rw [devicesReply, if_pos hnone] at hresult
      cases hresult
    · exact fun hsome => absurd hsome (not_hasSubscription hnone)
  · have herror : (devicesReply n user).error = none := by
      rw [devicesReply, if_neg hnone]
      rfl
    constructor
    · rintro ⟨hlists, -⟩
      exact .inr fun device => (lists_devicesReply hnone).symm.trans (hlists device)
    · intro hold
      have hdevices := hold.resolve_left hnone
      exact ⟨fun device => (lists_devicesReply hnone).trans (hdevices device), fun _ => herror⟩

/-- Where one group is found for a user, the joined text is its key. -/
theorem devicesHold_of_one {group : String} (hnul : '\x00' ∉ user.toList) (h : foundGroups n user = [group]) :
    DevicesHold n user := by
  refine .inr fun device => ?_
  have hjoined : joinGroups (foundGroups n user) = group := by rw [h]; rfl
  have hgroup : ∀ row ∈ n.services.subscriptions.rows, row.userLogin.val = user → row.groupKey = .bind group := by
    intro row hrow huser
    have hmem := mem_foundGroups hrow huser
    rw [h, List.mem_singleton] at hmem
    rw [← hmem, Text.bind_val]
  obtain ⟨subscribed, hsubscribed, huser⟩ : HasSubscription n user := by
    have hmem : group ∈ foundGroups n user := by rw [h]; exact List.mem_singleton_self _
    obtain ⟨row, hrow, -⟩ := List.mem_map.mp hmem
    obtain ⟨hrow, hlogin⟩ := List.mem_filter.mp hrow
    exact ⟨row, hrow, ((Text.bind_eq_iff hnul).mp (of_decide_eq_true hlogin).symm).symm⟩
  unfold ConnectedToJoined SharesDevice
  rw [hjoined]
  constructor
  · rintro ⟨connected, hconnected, hkey, hdevice⟩
    exact ⟨subscribed, hsubscribed, connected, hconnected, (hgroup subscribed hsubscribed huser).trans hkey.symm,
      huser, hdevice⟩
  · rintro ⟨row, hrow, connected, hconnected, hkey, hlogin, hdevice⟩
    exact ⟨connected, hconnected, hkey.symm.trans (hgroup row hrow hlogin), hdevice⟩

end Replies

/-- While the database answers, a user is told of the devices of the user's groups, and
of no error where there is a group, exactly where `DevicesHold`: if no group is found, if
one is and no null character cuts the login, and otherwise where the joined text has the
devices of the groups. -/
theorem my_devices_iff (J : Codec) (config : Config) (env : Env) (n : State) (sender : Actor)
    (task : Task) (user : String) (hn : n.contacts = contacts) (hdb : env.db = none)
    (huser : task.stored "user.login" = user) :
    ∃ reply, RepliesDevices J config env n sender task reply ∧
      (RightDevices n user reply ↔ DevicesHold n user) ∧
      ('\x00' ∉ user.toList → (foundGroups n user).length ≤ 1 → DevicesHold n user) := by
  refine ⟨devicesReply n user, repliesDevices hn hdb huser, rightDevices_iff, fun hnul hlength => ?_⟩
  cases hgroups : foundGroups n user with
  | nil => exact .inl hgroups
  | cons group rest =>
    have hrest : rest = [] := by
      rw [hgroups, List.length_cons] at hlength
      exact List.length_eq_zero_iff.mp (by omega)
    subst hrest
    exact devicesHold_of_one hnul hgroups

/-- A user who is subscribed to both groups of a device. -/
def bothGroups : State where
  services := { twoGroups.services with
    subscriptions := { twoGroups.services.subscriptions with
      rows := [{ groupKey := .bind "g", userLogin := .bind "u" },
        { groupKey := .bind "h", userLogin := .bind "u" }] } }
  contacts := contacts

theorem my_devices_iff_oneGroup : ∃ reply,
    RepliesDevices Codec.api ⟨"p.q", "m"⟩ .calm twoGroups .router deviceTask reply ∧
      (RightDevices twoGroups "u" reply ↔ DevicesHold twoGroups "u") ∧ DevicesHold twoGroups "u" := by
  obtain ⟨reply, hreplies, hright, hone⟩ :=
    my_devices_iff Codec.api ⟨"p.q", "m"⟩ .calm twoGroups .router deviceTask "u" rfl rfl rfl
  exact ⟨reply, hreplies, hright, hone (by decide) (by decide)⟩

/-- The device of both groups is not listed. -/
theorem bothGroups_not_listed : ∃ reply,
    RepliesDevices Codec.api ⟨"p.q", "m"⟩ .calm bothGroups .router deviceTask reply ∧
      reply.result = .array [] ∧ SharesDevice bothGroups "u" "d" ∧
      ¬ RightDevices bothGroups "u" reply := by
  have hshares : SharesDevice bothGroups "u" "d" := by
    unfold SharesDevice
    decide
  have hresult : (devicesReply bothGroups "u").result = .array [] := by decide
  refine ⟨devicesReply bothGroups "u", repliesDevices rfl rfl rfl, hresult, hshares, ?_⟩
  rintro ⟨hlists, -⟩
  obtain ⟨devices, hdevices, hmem⟩ := (hlists "d").mpr hshares
  obtain rfl := JsonValue.array.inj (hresult.symm.trans hdevices)
  cases hmem

end StreamCloud.Manager
