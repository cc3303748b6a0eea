-- SUMMARY: The subscriptions service of the manager.
import StreamCloud.Core.Service

/-!
# subscriptions

`stream-manager/src/subscriptions.cpp`. The group list of a device is bound to a
single `?`, joined by commas.
-/

namespace StreamCloud.Manager

structure SubscriptionRow where
  groupKey : Text
  userLogin : Text
deriving DecidableEq

/-- The subscriptions table, and the sessions that listen to each device. -/
structure Subscriptions where
  rows : List SubscriptionRow
  deviceSubscribes : StringMap StringSet

namespace Subscriptions

variable {α : Type}

def isRegDevice (s : Subscriptions) (deviceKey : String) : Bool :=
  decide (deviceKey ∈ s.deviceSubscribes)

/-- The sessions that listen to a device. -/
def subscribers (s : Subscriptions) (deviceKey : String) : StringSet :=
  (s.deviceSubscribes.lookup deviceKey).getD ∅

def isRegDeviceSubscribe (s : Subscriptions) (deviceKey id : String) : Bool :=
  decide (id ∈ s.subscribers deviceKey)

def addRegDevice (s : Subscriptions) (deviceKey : String) : Subscriptions :=
  { s with deviceSubscribes := s.deviceSubscribes.emplace deviceKey ∅ }

/-- `device_subscribe_transport_reg.at(device_key)`, replaced. -/
def setSubscribers (s : Subscriptions) (deviceKey : String) (ids : StringSet) : Subscriptions :=
  { s with deviceSubscribes := s.deviceSubscribes.insert deviceKey ids }

/-- `select group_key from subscriptions where user_login = ? and group_key in (?)`. -/
def selectAccess (s : Subscriptions) (userLogin groupKeys : Text) : List Text :=
  (s.rows.filter fun row => row.userLogin = userLogin ∧ row.groupKey = groupKeys).map
    SubscriptionRow.groupKey

variable (J : Codec)

def groupAndUser (task : Task) : Except Fault (String × String) := do
  return (← task.paramString "group-key", ← task.paramString "user-login")

def add : Handler α Subscriptions Task := fun env ctx s task =>
  ctx.answer J task s (groupAndUser task)
    (fun (groupKey, userLogin) => !groupKey.isEmpty && !userLogin.isEmpty) "key or login empty"
    fun (groupKey, userLogin) => do
      env.db.execute
      -- no column is unique, and a row may be there twice
      let row := { groupKey := .bind groupKey, userLogin := .bind userLogin }
      return ({ s with rows := s.rows ++ [row] }, .ok (.boolean true))

def delete : Handler α Subscriptions Task := fun env ctx s task =>
  ctx.answer J task s (groupAndUser task)
    (fun (groupKey, userLogin) => !groupKey.isEmpty && !userLogin.isEmpty) "key or login empty"
    fun (groupKey, userLogin) => do
      env.db.execute
      let rows := s.rows.filter fun row =>
        ¬ (row.groupKey = Text.bind groupKey ∧ row.userLogin = Text.bind userLogin)
      return ({ s with rows }, .ok (.boolean true))

def list : Handler α Subscriptions Task := fun env ctx s task =>
  ctx.answer J task s (task.paramString "group-key") (fun groupKey => !groupKey.isEmpty) "key empty"
    fun groupKey => do
      env.db.execute
      let usersList := (s.rows.filter fun row => row.groupKey = Text.bind groupKey).map
        fun row => .string row.userLogin.val
      return (s, .ok (.array usersList))

def devices : Handler α Subscriptions Task := fun env ctx s task =>
  catchStd (do
    env.db.execute
    let groupsList := (s.rows.filter fun row => row.userLogin = Text.bind (task.stored "user.login")).map
      fun row => .string row.groupKey.val
    -- the groups take the place of the params
    return (s, ← ctx.send "connections" "groups" (.task (task.setParams (.array groupsList)))))
    fun what => return (s, ← ctx.respond J task (.failed what))

def groups : Handler α Subscriptions Task := fun env ctx s task => do
  let deviceGroups ← task.request.metadata.arrayAt "device-groups"
  let userLogin := task.stored "user.login"
  let userAdmin := task.stored "user.admin"
  if deviceGroups.isEmpty then
    return (s, ← ctx.respond J task (.failed "device-groups empty"))
  else
    catchStd (do
      let groups ← deviceGroups.mapM JsonValue.asString
      env.db.execute
      -- a single `?` takes the keys of all groups, joined
      let accessGroupUsers := (s.selectAccess (.bind userLogin) (.bind (joinGroups groups))).length
      -- the groups are not meant for the device
      let task := task.eraseMetadata "device-groups"
      if 0 < accessGroupUsers ∨ userAdmin = "1" then
        return (s, ← ctx.send "devices" "request" (.task task))
      else
        return (s, ← ctx.respond J task (.failed "access denied to device")))
      fun what => return (s, ← ctx.respond J task (.failed what))

/-- What `groups` does with the groups of a device while the database answers. -/
theorem groups_eq {env : Env} {ctx : Ctx α} {s : Subscriptions} {task : Task}
    {keys : List String} {devices ws : α} (hdb : env.db = none)
    (hkeys : task.request.metadata.arrayAt "device-groups" = .ok (keys.map .string))
    (hne : keys ≠ []) (hdevices : ctx.contacts.lookup "devices" = some devices)
    (hws : ctx.contacts.lookup "ws" = some ws) :
    groups J env ctx s task =
      if s.selectAccess (.bind (task.stored "user.login")) (.bind (joinGroups keys)) ≠ [] ∨
          task.stored "user.admin" = "1" then
        .ok (s, [{
          dest := devices
          sender := ctx.self
          command := "request"
          body := .task (task.eraseMetadata "device-groups") }])
      else .ok (s, [ctx.response J ws (task.eraseMetadata "device-groups")
        (.failed "access denied to device")]) := by
  have hempty : (keys.map JsonValue.string).isEmpty = false := by simpa using hne
  unfold groups
  simp only [hkeys, Except.ok_bind', hempty, JsonValue.mapM_asString, hdb, Db.execute,
    List.length_pos_iff]
  simp only [Bool.false_eq_true, if_false]
  -- with access the task goes on, without it a refusal is written
  split
  · rw [Ctx.send_of_contact hdevices]
    rfl
  · rw [Ctx.respond_of_contact hws]
    rfl

def on : Handler α Subscriptions Task := fun env ctx s task =>
  ctx.answer J task s
    (do return (← task.request.metadata.arrayAt "device-groups", ← task.paramString "device-key"))
    (fun (deviceGroups, _) => !deviceGroups.isEmpty) "device-groups empty"
    fun (deviceGroups, deviceKey) => do
      let groups ← deviceGroups.mapM JsonValue.asString
      env.db.execute
      let userGroups := s.selectAccess (.bind (task.stored "user.login")) (.bind (joinGroups groups))
      if userGroups.isEmpty ∧ task.stored "user.admin" = "0" then
        return (s, .failed "access denied to device")
      else
        -- the set of a device is made when it is first listened to
        let s := s.addRegDevice deviceKey
        if s.isRegDeviceSubscribe deviceKey task.transportId then
          return (s, .failed "subscriptions already")
        else
          let ids := (s.subscribers deviceKey).emplace task.transportId ()
          return (s.setSubscribers deviceKey ids, .ok (.boolean true))

/-- Who listens to a device after `on`, while the database answers. -/
theorem on_subscribers {env : Env} {ctx : Ctx α} {s : Subscriptions} {task : Task}
    {keys : List String} {deviceKey : String} {ws : α} (hdb : env.db = none)
    (hkeys : task.request.metadata.arrayAt "device-groups" = .ok (keys.map .string))
    (hne : keys ≠ []) (hkey : task.paramString "device-key" = .ok deviceKey)
    (hws : ctx.contacts.lookup "ws" = some ws) :
    ∃ s' out, on J env ctx s task = .ok (s', out) ∧
      (task.transportId ∈ s'.subscribers deviceKey ↔ task.transportId ∈ s.subscribers deviceKey ∨
        s.selectAccess (.bind (task.stored "user.login")) (.bind (joinGroups keys)) ≠ [] ∨
          task.stored "user.admin" ≠ "0") := by
  have hempty : (keys.map JsonValue.string).isEmpty = false := by simpa using hne
  have hrespond : ∀ reply, ctx.respond J task reply = .ok [ctx.response J ws task reply] :=
    fun _ => Ctx.respond_of_contact hws
  unfold on Ctx.answer
  simp only [hkeys, hkey, Except.ok_bind', hempty, attempt, JsonValue.mapM_asString, hdb, Db.execute,
    List.isEmpty_iff, pure, Except.pure, hrespond, Bool.not_false, if_true]
  split
  · next hdenied =>
    refine ⟨_, _, rfl, ?_⟩
    simp [hdenied.1, hdenied.2]
  · next hallowed =>
    have haccess : s.selectAccess (.bind (task.stored "user.login")) (.bind (joinGroups keys)) ≠ [] ∨
        task.stored "user.admin" ≠ "0" := by tauto
    split
    · next hsubscribed =>
      -- the session is one of them already
      refine ⟨_, _, rfl, iff_of_true ?_ (.inr haccess)⟩
      simpa [isRegDeviceSubscribe] using hsubscribed
    -- it becomes one of them
    · refine ⟨_, _, rfl, iff_of_true ?_ (.inr haccess)⟩
      simp [setSubscribers, subscribers]

/-- The result is set also where there was nothing to unsubscribe. -/
def off : Handler α Subscriptions Task := fun _ ctx s task =>
  ctx.answer J task s (task.paramString "device-key") s.isRegDevice "device is not connect"
    fun deviceKey => do
      if s.isRegDeviceSubscribe deviceKey task.transportId then
        let ids := (s.subscribers deviceKey).erase task.transportId
        return (s.setSubscribers deviceKey ids, .ok (.boolean true))
      else
        return (s, { result := .boolean true, error := some "unsubscribe already" })

def emit : Handler α Subscriptions Transport := fun _ ctx s transport => do
  let ws ← transport.asWebSocket
  let message ← J.parse ws.body
  let deviceKey ← (message.get "metadata").stringAt "device-key"
  let metadata ← (message.get "metadata").asMap
  if s.isRegDevice deviceKey then
    -- one map of metadata is rewritten for one session after the other
    let out ← (s.subscribers deviceKey).keys.mapM fun subscribe =>
      let metadata := metadata.set "transport" (.string subscribe)
      ctx.writeTo subscribe (J.print (message.set "metadata" (.map metadata)))
    return (s, out.flatten)
  else
    return (s, [])

/-- One text for each of several sessions. -/
theorem mapM_writeTo {ctx : Ctx α} {ws : α} (hws : ctx.contacts.lookup "ws" = some ws)
    (text : String → String) (ids : List String) :
    (ids.mapM fun id => ctx.writeTo id (text id)) = .ok (ids.map fun id => [{
      dest := ws
      sender := ctx.self
      command := "write"
      body := .transport (.webSocket { id, body := text id }) }]) := by
  induction ids with
  | nil => rfl
  | cons id ids ih =>
    rw [List.mapM_cons, ih, Ctx.writeTo, Ctx.send_of_contact hws]
    rfl

/-- What `emit` writes to the sessions that listen to a device. -/
theorem emit_eq {env : Env} {ctx : Ctx α} {s : Subscriptions} {ws : WebSocket}
    {message metadata : JsonMap} {device : String} {server : α}
    (hparse : J.parse ws.body = .ok message) (hmetadata : message.get "metadata" = .map metadata)
    (hdevice : metadata.stringAt "device-key" = .ok device)
    (hws : ctx.contacts.lookup "ws" = some server) :
    emit J env ctx s (.webSocket ws) = .ok (s, (s.subscribers device).keys.map fun subscribe => {
      dest := server
      sender := ctx.self
      command := "write"
      body := .transport (.webSocket {
        id := subscribe
        body := J.print
          (message.set "metadata" (.map (metadata.set "transport" (.string subscribe)))) }) }) := by
  have hkey : (message.get "metadata").stringAt "device-key" = .ok device := by rw [hmetadata]; exact hdevice
  have hmap : (message.get "metadata").asMap = .ok metadata := by rw [hmetadata]; rfl
  unfold emit
  simp only [Transport.asWebSocket_webSocket, Except.ok_bind', hparse, hkey, hmap, mapM_writeTo hws]
  split
  · simp only [pure, Except.pure, Except.ok.injEq, Prod.mk.injEq, true_and]
    induction (s.subscribers device).keys with
    | nil => rfl
    | cons id ids ih => rw [List.map_cons, List.flatten_cons, ih]; rfl
  · next hregistered =>
    -- a device without a set has no subscribers, so that both branches are one
    have hnone : s.subscribers device = ∅ := by
      have hlookup := AList.lookup_eq_none.mpr (of_decide_eq_false (Bool.not_eq_true _ ▸ hregistered))
      rw [subscribers, hlookup]
      rfl
    rw [hnone]
    rfl

def handlers : List (String × Action α Subscriptions) :=
  [("add", .task (add J)), ("delete", .task (delete J)), ("list", .task (list J)),
    ("devices", .task (devices J)), ("groups", .task (groups J)), ("on", .task (on J)),
    ("off", .task (off J)), ("emit", .transport (emit J))]

/-! ## What is sent -/

/-- The messages of each handler of the subscriptions service. -/
inductive Sent : String → String → String → Body α → Prop
  | write (handler : String) (ws : WebSocket) :
      Sent handler "ws" "write" (.transport (.webSocket ws))
  | groups (task : Task) : Sent "devices" "connections" "groups" (.task task)
  | request (task : Task) : Sent "groups" "devices" "request" (.task task)

theorem devices_sends (env : Env) (ctx : Ctx α) (s : Subscriptions) (task : Task) :
    (devices J env ctx s task).Ensures fun r => ctx.Sends (Sent "devices") r.2 := by
  unfold devices
  refine catchStd_ensures ?_ fun what => Ctx.respond_sends_return (Sent.write _)
  exact Except.ensures_bind.mpr fun _ _ => Ctx.send_sends_return (.groups _)

theorem groups_sends (env : Env) (ctx : Ctx α) (s : Subscriptions) (task : Task) :
    (groups J env ctx s task).Ensures fun r => ctx.Sends (Sent "groups") r.2 := by
  unfold groups
  refine Except.ensures_bind.mpr fun _ _ => Except.ensures_ite (fun _ => ?_) fun _ => ?_
  · exact Ctx.respond_sends_return (Sent.write _)
  · refine catchStd_ensures ?_ fun what => Ctx.respond_sends_return (Sent.write _)
    refine Except.ensures_bind.mpr fun _ _ => Except.ensures_bind.mpr fun _ _ => ?_
    refine Except.ensures_ite (fun _ => ?_) fun _ => ?_
    · exact Ctx.send_sends_return (.request _)
    · exact Ctx.respond_sends_return (Sent.write _)

/-- Messages that are collected over a list. -/
private theorem mapM_sends {ctx : Ctx α} {kinds : String → String → Body α → Prop} {β : Type}
    {f : β → Except Fault (List (Envelope α))} (hf : ∀ x, (f x).Ensures (ctx.Sends kinds))
    (l : List β) : (l.mapM f).Ensures fun out => ctx.Sends kinds out.flatten := by
  induction l with
  | nil => simpa using Ctx.sends_nil
  | cons x l ih =>
    rw [List.mapM_cons]
    refine (hf x).andThen fun out hout => ih.andThen fun outs houts => ?_
    exact Except.ensures_ok.mpr (by simpa using hout.append houts)

theorem emit_sends (env : Env) (ctx : Ctx α) (s : Subscriptions) (transport : Transport) :
    (emit J env ctx s transport).Ensures fun r => ctx.Sends (Sent "emit") r.2 := by
  unfold emit
  refine Except.ensures_bind.mpr fun _ _ => Except.ensures_bind.mpr fun _ _ => ?_
  refine Except.ensures_bind.mpr fun _ _ => Except.ensures_bind.mpr fun _ _ => ?_
  refine Except.ensures_ite (fun _ => ?_) fun _ => ?_
  · refine (mapM_sends (fun id => Ctx.writeTo_sends (Sent.write "emit")) _).andThen ?_
    exact fun out hout => Except.ensures_ok.mpr hout
  · exact Except.ensures_ok.mpr Ctx.sends_nil

theorem sends {env : Env} {ctx : Ctx α} {s : Subscriptions} {command : String}
    {action : Action α Subscriptions} {body : Body α} {r : Subscriptions × List (Envelope α)}
    (hmem : (command, action) ∈ handlers J) (h : Action.Ran env ctx s action body r) :
    ctx.Sends (Sent command) r.2 := by
  simp only [handlers, List.mem_cons, Prod.mk.injEq, List.not_mem_nil, or_false] at hmem
  rcases hmem with ⟨rfl, rfl⟩ | ⟨rfl, rfl⟩ | ⟨rfl, rfl⟩ | ⟨rfl, rfl⟩ | ⟨rfl, rfl⟩ | ⟨rfl, rfl⟩ | ⟨rfl, rfl⟩ |
    ⟨rfl, rfl⟩ <;> cases h with | _ h
  · exact Ctx.answer_sends (Sent.write _) r h
  · exact Ctx.answer_sends (Sent.write _) r h
  · exact Ctx.answer_sends (Sent.write _) r h
  · exact devices_sends J env ctx s _ r h
  · exact groups_sends J env ctx s _ r h
  · exact Ctx.answer_sends (Sent.write _) r h
  · exact Ctx.answer_sends (Sent.write _) r h
  · exact emit_sends J env ctx s _ r h

/-! ## Who listens -/

theorem subscribers_addRegDevice (s : Subscriptions) (deviceKey device : String) :
    (s.addRegDevice deviceKey).subscribers device = s.subscribers device := by
  unfold subscribers addRegDevice
  by_cases hdevice : device = deviceKey
  · subst hdevice
    rw [AList.lookup_emplace_self, Option.getD_some]
  · rw [AList.lookup_emplace_ne hdevice]

theorem subscribers_setSubscribers (s : Subscriptions) (deviceKey device : String) (ids : StringSet) :
    (s.setSubscribers deviceKey ids).subscribers device =
      if device = deviceKey then ids else s.subscribers device := by
  unfold subscribers setSubscribers
  split
  · next hdevice => rw [hdevice, AList.lookup_insert, Option.getD_some]
  · next hdevice => rw [AList.lookup_insert_ne hdevice]

/-- `on` gives the session of the task access to the device. -/
def Grants (s : Subscriptions) (env : Env) (task : Task) (device : String) : Prop :=
  ∃ deviceGroups groups, task.request.metadata.arrayAt "device-groups" = .ok deviceGroups ∧
    deviceGroups ≠ [] ∧ deviceGroups.mapM JsonValue.asString = .ok groups ∧
    task.paramString "device-key" = .ok device ∧ env.db = none ∧
    (s.selectAccess (.bind (task.stored "user.login")) (.bind (joinGroups groups)) ≠ [] ∨
      task.stored "user.admin" ≠ "0")

section Effects

variable {J : Codec} {env : Env} {ctx : Ctx α} {s s' : Subscriptions} {task : Task}
  {out : List (Envelope α)}

/-- After `on`, the session of the task listens to the device it was given access to. -/
theorem mem_subscribers_on (h : on J env ctx s task = .ok (s', out)) (device id : String) :
    id ∈ s'.subscribers device ↔
      s.Grants env task device ∧ id = task.transportId ∨ id ∈ s.subscribers device := by
  obtain ⟨⟨deviceGroups, deviceKey⟩, reply, hread, hbody, -⟩ := Ctx.answer_eq_ok.mp h
  have hread : task.request.metadata.arrayAt "device-groups" = .ok deviceGroups ∧
      task.paramString "device-key" = .ok deviceKey := by
    simp only [Except.bind_eq_ok] at hread
    obtain ⟨groups, hgroups, key, hkey, heq⟩ := hread
    cases heq
    exact ⟨hgroups, hkey⟩
  obtain ⟨hgroups, hkey⟩ := hread
  -- without access nothing changes
  have hdenied (hs : s' = s) (hnot : ¬ s.Grants env task device) :
      id ∈ s'.subscribers device ↔
        s.Grants env task device ∧ id = task.transportId ∨ id ∈ s.subscribers device := by
    subst hs
    simp [hnot]
  dsimp only at hbody
  split at hbody
  case isFalse hempty =>
    apply hdenied (by cases hbody; rfl)
    rintro ⟨deviceGroups', _, hgroups', hne, -⟩
    obtain rfl : deviceGroups = deviceGroups' := Except.ok.inj (hgroups.symm.trans hgroups')
    simp [hne] at hempty
  case isTrue hnonempty =>
    have hne : deviceGroups ≠ [] := by simpa using hnonempty
    rcases catchStd_eq_ok.mp hbody with hbody | ⟨what, hthrown, hreply⟩
    · obtain ⟨groups, hstrings, hbody⟩ := Except.bind_eq_ok.mp hbody
      obtain ⟨_, hexecute, hbody⟩ := Except.bind_eq_ok.mp hbody
      have hdb : env.db = none := Db.execute_eq_ok.mp hexecute
      have hgrants : s.Grants env task device ↔ device = deviceKey ∧
          (s.selectAccess (.bind (task.stored "user.login")) (.bind (joinGroups groups)) ≠ [] ∨
            task.stored "user.admin" ≠ "0") := by
        constructor
        · rintro ⟨deviceGroups', groups', hgroups', -, hstrings', hkey', -, haccess⟩
          obtain rfl : deviceGroups = deviceGroups' := Except.ok.inj (hgroups.symm.trans hgroups')
          obtain rfl : groups = groups' := Except.ok.inj (hstrings.symm.trans hstrings')
          exact ⟨(Except.ok.inj (hkey.symm.trans hkey')).symm, haccess⟩
        · rintro ⟨rfl, haccess⟩
          exact ⟨deviceGroups, groups, hgroups, hne, hstrings, hkey, hdb, haccess⟩
      split at hbody
      case isTrue hno =>
        apply hdenied (by cases hbody; rfl)
        intro hallowed
        rcases (hgrants.mp hallowed).2 with haccess | hadmin
        · exact haccess (List.isEmpty_iff.mp hno.1)
        · exact hadmin hno.2
      case isFalse hallowed =>
        have haccess : s.selectAccess (.bind (task.stored "user.login")) (.bind (joinGroups groups)) ≠ [] ∨
            task.stored "user.admin" ≠ "0" := by
          rw [List.isEmpty_iff] at hallowed
          tauto
        rw [hgrants]
        split at hbody
        · next hsubscribed =>
          -- the session listens already
          have hlistens : task.transportId ∈ s.subscribers deviceKey := by
            simpa [isRegDeviceSubscribe, subscribers_addRegDevice] using hsubscribed
          cases hbody
          rw [subscribers_addRegDevice]
          constructor
          · exact .inr
          · rintro (⟨⟨rfl, -⟩, rfl⟩ | hlistened)
            · exact hlistens
            · exact hlistened
        · cases hbody
          rw [subscribers_setSubscribers]
          simp only [subscribers_addRegDevice]
          split
          · next hdevice =>
            subst hdevice
            rw [AList.mem_emplace]
            simp [haccess]
          · next hdevice => simp [hdevice]
    · cases hreply
      apply hdenied rfl
      rintro ⟨deviceGroups', groups', hgroups', -, hstrings, -, hdb, -⟩
      obtain rfl : deviceGroups = deviceGroups' := Except.ok.inj (hgroups.symm.trans hgroups')
      -- with access the body throws nothing
      rw [hstrings, hdb] at hthrown
      simp only [Except.ok_bind', Db.execute] at hthrown
      split at hthrown
      · cases hthrown
      · split at hthrown <;> cases hthrown

/-- After `off`, the session of the task does not listen to the device it names. -/
theorem mem_subscribers_off (h : off J env ctx s task = .ok (s', out)) (device id : String) :
    id ∈ s'.subscribers device ↔ id ∈ s.subscribers device ∧
      ¬ (task.paramString "device-key" = .ok device ∧ id = task.transportId) := by
  obtain ⟨deviceKey, reply, hkey, hbody, -⟩ := Ctx.answer_eq_ok.mp h
  rw [hkey, Except.ok.injEq]
  -- nobody is left out who did not listen
  have hkept (hs : s' = s) (hnot : task.transportId ∉ s.subscribers deviceKey) :
      id ∈ s'.subscribers device ↔ id ∈ s.subscribers device ∧
        ¬ (deviceKey = device ∧ id = task.transportId) := by
    subst hs
    constructor
    · intro hlistened
      refine ⟨hlistened, ?_⟩
      rintro ⟨rfl, rfl⟩
      exact hnot hlistened
    · exact And.left
  split at hbody
  case isFalse hregistered =>
    apply hkept (by cases hbody; rfl)
    have hnone : s.subscribers deviceKey = ∅ := by
      have hlookup := AList.lookup_eq_none.mpr (of_decide_eq_false (Bool.not_eq_true _ ▸ hregistered))
      rw [subscribers, hlookup]
      rfl
    rw [hnone]
    exact AList.notMem_empty _
  case isTrue =>
    rcases catchStd_eq_ok.mp hbody with hbody | ⟨what, hthrown, -⟩
    · split at hbody
      case isTrue =>
        cases hbody
        rw [subscribers_setSubscribers]
        split
        · next hdevice =>
          subst hdevice
          rw [AList.mem_erase]
          tauto
        · next hdevice => simp [Ne.symm hdevice]
      case isFalse hlistens =>
        apply hkept (by cases hbody; rfl)
        simpa [isRegDeviceSubscribe] using hlistens
    · split at hthrown <;> cases hthrown

theorem devices_keeps : (devices J env ctx s task).Ensures fun r => r.1 = s := by
  unfold devices
  refine catchStd_ensures ?_ fun _ => Ctx.return_keeps
  exact Except.ensures_bind.mpr fun _ _ => Ctx.return_keeps

theorem groups_keeps : (groups J env ctx s task).Ensures fun r => r.1 = s := by
  unfold groups
  refine Except.ensures_bind.mpr fun _ _ => Except.ensures_ite (fun _ => Ctx.return_keeps) fun _ => ?_
  refine catchStd_ensures ?_ fun _ => Ctx.return_keeps
  refine Except.ensures_bind.mpr fun _ _ => Except.ensures_bind.mpr fun _ _ => ?_
  exact Except.ensures_ite (fun _ => Ctx.return_keeps) fun _ => Ctx.return_keeps

end Effects

/-- What a task does to the sessions that listen to a device. -/
theorem mem_subscribers_of_task {env : Env} {ctx : Ctx α} {s s' : Subscriptions} {command : String}
    {action : Action α Subscriptions} {task : Task} {out : List (Envelope α)}
    (hmem : (command, action) ∈ handlers J) (h : Action.Ran env ctx s action (.task task) (s', out))
    (device id : String) :
    id ∈ s'.subscribers device ↔
      (command = "on" ∧ s.Grants env task device ∧ id = task.transportId) ∨
        id ∈ s.subscribers device ∧
          ¬ (command = "off" ∧ task.paramString "device-key" = .ok device ∧ id = task.transportId) := by
  simp only [handlers, List.mem_cons, Prod.mk.injEq, List.not_mem_nil, or_false] at hmem
  rcases hmem with ⟨rfl, rfl⟩ | ⟨rfl, rfl⟩ | ⟨rfl, rfl⟩ | ⟨rfl, rfl⟩ | ⟨rfl, rfl⟩ | ⟨rfl, rfl⟩ | ⟨rfl, rfl⟩ |
    ⟨rfl, rfl⟩ <;> cases h with | _ h
  case inr.inr.inr.inr.inr.inl.task =>
    have hon := mem_subscribers_on h device id
    simpa using hon
  case inr.inr.inr.inr.inr.inr.inl.task =>
    have hoff := mem_subscribers_off h device id
    simpa using hoff
  all_goals
    have hsame : s'.subscribers device = s.subscribers device := ?_
    · simp [hsame]
  · -- add
    refine Ctx.answer_ensures (Q := fun s' => s'.subscribers device = s.subscribers device) rfl
      (fun _ => ?_) _ h
    exact Except.ensures_bind.mpr fun _ _ => Except.ensures_ok.mpr rfl
  · -- delete
    refine Ctx.answer_ensures (Q := fun s' => s'.subscribers device = s.subscribers device) rfl
      (fun _ => ?_) _ h
    exact Except.ensures_bind.mpr fun _ _ => Except.ensures_ok.mpr rfl
  · -- list
    refine Ctx.answer_ensures (Q := fun s' => s'.subscribers device = s.subscribers device) rfl
      (fun _ => ?_) _ h
    exact Except.ensures_bind.mpr fun _ _ => Except.ensures_ok.mpr rfl
  · exact congrArg (fun s => s.subscribers device) (devices_keeps _ h)
  · exact congrArg (fun s => s.subscribers device) (groups_keeps _ h)

theorem emit_keeps {env : Env} {ctx : Ctx α} {s : Subscriptions} (transport : Transport) :
    (emit J env ctx s transport).Ensures fun r => r.1 = s := by
  unfold emit
  refine Except.ensures_bind.mpr fun _ _ => Except.ensures_bind.mpr fun _ _ => ?_
  refine Except.ensures_bind.mpr fun _ _ => Except.ensures_bind.mpr fun _ _ => ?_
  refine Except.ensures_ite (fun _ => ?_) fun _ => Except.ensures_ok.mpr rfl
  exact Except.ensures_bind.mpr fun _ _ => Except.ensures_ok.mpr rfl

end Subscriptions

end StreamCloud.Manager
