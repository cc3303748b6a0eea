-- SUMMARY: Whether subscribers and requesters can tell with which keys a device writes its frames.
import StreamCloud.Device.Flow
import StreamCloud.Manager.Relay

/-!
# Credentials of devices

`manager.write` of a device puts the keys of its configuration into every frame.
Two runs with different keys are compared by the frames that the manager writes
in them: to the subscribers of the device for a notification, to the requester
for a response.
-/

namespace StreamCloud

/-- The same device with other keys. -/
def Device.Config.withKeys (config : Device.Config) (managerKey profileKey : String) : Device.Config :=
  { config with managerKey, profileKey }

/-- The same object, read back several times. -/
theorem JsonMap.metadata_reread {message metadata : JsonMap} (hsorted : message.Sorted)
    (h : message.get "metadata" = .map metadata) :
    message.reread.get "metadata" = .map metadata.reread := by
  rw [JsonMap.get_reread hsorted, h]
  rfl

/-- What a device that has these keys writes for a frame of its services is
delivered by the manager, in so many steps, as `frames`. -/
def Delivered (dconfig : Device.Config) (d : Device.State) (mconfig : Config) (env : Env)
    (n : Manager.State) (session : String) (ws : WebSocket) (steps : ℕ)
    (frames : List (Envelope Manager.Actor)) : Prop :=
  ∃ text, Device.handle Codec.api dconfig env d (Device.writeMessage .control ws) =
      .ok (d, [Device.socketMessage { id := ws.id, body := text }]) ∧
    Work.turns (Manager.handle Codec.api mconfig) env steps
      ⟨n, [Manager.frame { id := session, body := text }]⟩ = .ok ⟨n, frames⟩

section Frames

variable {dconfig : Device.Config} {d : Device.State} {mconfig : Config} {env : Env}
  {n : Manager.State} {session : String} {ws : WebSocket} {message metadata : JsonMap}

/-- The frame as the manager receives it. -/
def received (dconfig : Device.Config) (ws : WebSocket) (message metadata : JsonMap) : JsonMap :=
  (Device.Manager.stamped dconfig message metadata ws.id).reread

theorem stamp_sorted (dconfig : Device.Config) (hmetadata : metadata.Sorted) (id : String) :
    (Device.Manager.stamp dconfig metadata id).Sorted :=
  (((hmetadata.set (JsonValue.sorted_string _)).set (JsonValue.sorted_string _)).set
    (JsonValue.sorted_string _)).set (JsonValue.sorted_string _)

theorem stamped_sorted (hmessage : message.Sorted) (h : message.readMetadata = .ok metadata)
    (id : String) : (Device.Manager.stamped dconfig message metadata id).Sorted :=
  hmessage.set (stamp_sorted dconfig (hmessage.readMetadata h) id)

theorem contains_received {key : String} (hkey : key ≠ "metadata") :
    (received dconfig ws message metadata).contains key = message.contains key := by
  rw [received, JsonMap.contains_reread]
  simp only [JsonMap.contains, Device.Manager.find?_stamped_of_ne dconfig hkey]

theorem received_stringAt (ws : WebSocket) (hmessage : message.Sorted) (h : message.readMetadata = .ok metadata)
    {key s : String} (hkey : (Device.Manager.stamp dconfig metadata ws.id).find? key = some (.string s)) :
    ((received dconfig ws message metadata).get "metadata").stringAt key = .ok s := by
  rw [received, Manager.metadata_reread (stamped_sorted hmessage h ws.id),
    Device.Manager.get_stamped_metadata]
  exact JsonValue.stringAt_eq_ok.mpr ⟨_, rfl, hkey⟩

theorem isRequest_received (hid : message.contains "id" = false ∨ message.contains "method" = false) :
    (received dconfig ws message metadata).isRequest = false := by
  rw [JsonMap.isRequest, contains_received (by decide), contains_received (by decide)]
  rcases hid with h | h <;> simp [h]

/-- What leaves the device, and what the router makes of it. -/
theorem delivered_iff (hd : d.contacts = Device.contacts) (hn : n.contacts = Manager.contacts)
    (hparse : Codec.api.parse ws.body = .ok message) (hmetadata : message.readMetadata = .ok metadata)
    (hrequest : (received dconfig ws message metadata).isRequest = false)
    {steps : ℕ} {frames : List (Envelope Manager.Actor)} :
    Delivered dconfig d mconfig env n session ws (steps + 1) frames ↔
      Work.turns (Manager.handle Codec.api mconfig) env steps ⟨n, [Manager.relayed
        (if (received dconfig ws message metadata).isResponse then "response" else "notify") session
        (received dconfig ws message metadata)]⟩ = .ok ⟨n, frames⟩ := by
  have hrouter : Manager.handle Codec.api mconfig env n (Manager.frame {
      id := session
      body := Codec.api.print (Device.Manager.stamped dconfig message metadata ws.id) }) =
      .ok (n, [Manager.relayed
        (if (received dconfig ws message metadata).isResponse then "response" else "notify") session
        (received dconfig ws message metadata)]) :=
    Manager.handle_handedOn hn (Codec.api_roundTrip _) hrequest
  rw [← Work.turns_succ hrouter]
  constructor
  · rintro ⟨text, hwrite, hturns⟩
    rw [Device.handle_write hd hparse hmetadata] at hwrite
    cases hwrite
    exact hturns
  · intro hturns
    exact ⟨_, Device.handle_write hd hparse hmetadata, hturns⟩

/-- The frames that the manager writes for a notification. -/
theorem delivered_notify_iff (hd : d.contacts = Device.contacts) (hn : n.contacts = Manager.contacts)
    (hparse : Codec.api.parse ws.body = .ok message) (hmetadata : message.readMetadata = .ok metadata)
    (hnotify : message.isNotify) {frames : List (Envelope Manager.Actor)} :
    Delivered dconfig d mconfig env n session ws 3 frames ↔ frames =
      if dconfig.deviceKey ∈ n.services.devices.devicesReg then
        (n.services.subscriptions.subscribers dconfig.deviceKey).keys.map
          (Manager.notification (received dconfig ws message metadata).reread.reread
            (Device.Manager.stamp dconfig metadata ws.id).reread.reread.reread)
      else [] := by
  have hmessage := Codec.api_sorted hparse
  have hid : message.contains "id" = false := by simpa [JsonMap.isNotify] using hnotify
  have hresponse : (received dconfig ws message metadata).isResponse = false := by
    rw [JsonMap.isResponse, contains_received (by decide), contains_received (by decide), hid,
      Bool.and_false]
  have hsorted : (received dconfig ws message metadata).Sorted := JsonMap.sorted_reread _
  have hdevice := received_stringAt ws hmessage hmetadata
    (Device.Manager.find?_stamp_deviceKey dconfig)
  have hmap : (received dconfig ws message metadata).reread.get "metadata" =
      .map (Device.Manager.stamp dconfig metadata ws.id).reread.reread :=
    JsonMap.metadata_reread hsorted (JsonMap.metadata_reread (stamped_sorted hmessage hmetadata ws.id)
      (Device.Manager.get_stamped_metadata dconfig))
  have hkey : (Device.Manager.stamp dconfig metadata ws.id).reread.reread.stringAt "device-key" =
      .ok dconfig.deviceKey := by
    rw [JsonMap.stringAt_reread (JsonMap.sorted_reread _), JsonMap.stringAt_reread
      (stamp_sorted dconfig (hmessage.readMetadata hmetadata) ws.id)]
    exact JsonMap.stringAt_eq_ok.mpr (Device.Manager.find?_stamp_deviceKey dconfig)
  rw [delivered_iff hd hn hparse hmetadata (isRequest_received (.inl hid)), hresponse,
    if_neg Bool.false_ne_true]
  have hnotify' : (received dconfig ws message metadata).isNotify := by
    rw [JsonMap.isNotify, contains_received (by decide), hid]
    rfl
  split
  · next hregistered =>
    have hemit : Manager.handle Codec.api mconfig env n
        (Manager.relayed "notify" session (received dconfig ws message metadata)) =
          .ok (n, [Manager.emission session (received dconfig ws message metadata).reread]) :=
      Manager.handle_relayed_notify hn hsorted hnotify' hdevice hregistered
    rw [Work.turns_succ hemit,
      Work.turns_succ (Manager.handle_emission hn (JsonMap.sorted_reread _) hmap hkey)]
    simp only [Work.turns, Except.ok.injEq, Work.Config.mk.injEq, true_and]
    exact eq_comm
  · next hregistered =>
    rw [Work.turns_succ (Manager.handle_relayed_notify_unregistered hsorted hnotify'
      hdevice hregistered), Work.turns_nil]
    simp only [Except.ok.injEq, Work.Config.mk.injEq, true_and]
    exact eq_comm

/-- Without its metadata, a frame does not show who wrote it. -/
theorem erase_received (dconfig : Device.Config) (ws : WebSocket) (hmessage : message.Sorted)
    (hmetadata : message.readMetadata = .ok metadata) :
    (received dconfig ws message metadata).reread.erase "metadata" =
      (JsonMap.reread (message.erase "metadata")).reread := by
  have hstamp : (JsonValue.map (Device.Manager.stamp dconfig metadata ws.id)).Sorted :=
    stamp_sorted dconfig (hmessage.readMetadata hmetadata) ws.id
  have herase : (Device.Manager.stamped dconfig message metadata ws.id).erase "metadata" =
      message.erase "metadata" := hmessage.erase_set hstamp
  rw [received, JsonMap.erase_reread (JsonMap.sorted_reread _),
    JsonMap.erase_reread (stamped_sorted hmessage hmetadata ws.id), herase]

/-- What the manager writes for the response of a device. -/
def answered (n : Manager.State) (deviceKey : String) (ws : WebSocket) (message : JsonMap) :
    List (Envelope Manager.Actor) :=
  if deviceKey ∈ n.services.devices.devicesReg then [{
    dest := .ws
    sender := .devices
    command := "write"
    body := .transport (.webSocket {
      id := ws.id
      body := Codec.api.print (JsonMap.reread (message.erase "metadata")).reread }) }]
  else []

theorem delivered_response_iff (hd : d.contacts = Device.contacts) (hn : n.contacts = Manager.contacts)
    (hparse : Codec.api.parse ws.body = .ok message) (hmetadata : message.readMetadata = .ok metadata)
    (hresponse : message.isResponse) {frames : List (Envelope Manager.Actor)} :
    Delivered dconfig d mconfig env n session ws 2 frames ↔
      frames = answered n dconfig.deviceKey ws message := by
  have hmessage := Codec.api_sorted hparse
  have hmethod : message.contains "method" = false := by
    rw [JsonMap.isResponse, Bool.and_eq_true] at hresponse
    simpa using hresponse.1
  have hresponse' : (received dconfig ws message metadata).isResponse := by
    rw [JsonMap.isResponse, contains_received (by decide), contains_received (by decide)]
    exact hresponse
  have hsorted : (received dconfig ws message metadata).Sorted := JsonMap.sorted_reread _
  have hdevice := received_stringAt ws hmessage hmetadata
    (Device.Manager.find?_stamp_deviceKey dconfig)
  have htransport := received_stringAt ws hmessage hmetadata
    (Device.Manager.find?_stamp_transport dconfig)
  rw [delivered_iff hd hn hparse hmetadata (isRequest_received (.inr hmethod)), if_pos hresponse', answered,
    ← erase_received dconfig ws hmessage hmetadata]
  split
  · next hregistered =>
    rw [Work.turns_succ (Manager.handle_relayed_response hn hsorted hresponse' htransport hdevice
      hregistered)]
    simp only [Work.turns, Except.ok.injEq, Work.Config.mk.injEq, true_and]
    exact eq_comm
  · next hregistered =>
    rw [Work.turns_succ (Manager.handle_relayed_response_unregistered hsorted hresponse' htransport
      hdevice hregistered), Work.turns_nil]
    simp only [Except.ok.injEq, Work.Config.mk.injEq, true_and]
    exact eq_comm

/-- A subscriber reads the profile key of the device out of a notification. -/
theorem userKey_of_notification (dconfig : Device.Config) (ws : WebSocket) (hmessage : message.Sorted)
    (hmetadata : message.readMetadata = .ok metadata) (subscribe : String) :
    ∃ text, (Manager.notification (received dconfig ws message metadata).reread.reread
        (Device.Manager.stamp dconfig metadata ws.id).reread.reread.reread subscribe).body =
          .transport (.webSocket { id := subscribe, body := text }) ∧
      ∃ frame, Codec.api.parse text = .ok frame ∧
        (frame.get "metadata").stringAt "user-key" = .ok dconfig.profileKey := by
  refine ⟨_, rfl, _, Codec.api_roundTrip _, ?_⟩
  have hstamp := stamp_sorted dconfig (hmessage.readMetadata hmetadata) ws.id
  have hkey : (Device.Manager.stamp dconfig metadata ws.id).reread.reread.reread.stringAt "user-key" =
      .ok dconfig.profileKey := by
    rw [JsonMap.stringAt_reread (JsonMap.sorted_reread _), JsonMap.stringAt_reread
      (JsonMap.sorted_reread _), JsonMap.stringAt_reread hstamp]
    exact JsonMap.stringAt_eq_ok.mpr (Device.Manager.find?_stamp_userKey dconfig)
  have hset : ((Device.Manager.stamp dconfig metadata ws.id).reread.reread.reread.set "transport"
      (.string subscribe)).Sorted := (JsonMap.sorted_reread _).set (JsonValue.sorted_string _)
  rw [Manager.metadata_reread ((JsonMap.sorted_reread _).set hset), JsonMap.get_set_self,
    JsonValue.stringAt_eq_ok]
  refine ⟨_, rfl, ?_⟩
  rw [JsonMap.find?_set_of_ne (by decide)]
  exact JsonMap.stringAt_eq_ok.mp hkey

end Frames

/-! ## Two runs -/

/-- With every choice of keys something is delivered, and it is always the same. -/
def KeysHidden (dconfig : Device.Config) (d : Device.State) (mconfig : Config) (env : Env)
    (n : Manager.State) (session : String) (ws : WebSocket) (steps : ℕ) : Prop :=
  ∃ frames, ∀ managerKey profileKey frames',
    Delivered (dconfig.withKeys managerKey profileKey) d mconfig env n session ws steps frames' ↔
      frames' = frames

/-- Who listens to a registered device reads its profile key out of a notification. -/
theorem not_keysHidden {dconfig : Device.Config} {d : Device.State} {mconfig : Config} {env : Env}
    {n : Manager.State} {session : String} {ws : WebSocket} {message metadata : JsonMap}
    (hd : d.contacts = Device.contacts) (hn : n.contacts = Manager.contacts)
    (hparse : Codec.api.parse ws.body = .ok message) (hmetadata : message.readMetadata = .ok metadata)
    (hnotify : message.isNotify) (hregistered : dconfig.deviceKey ∈ n.services.devices.devicesReg)
    (hsubscribers : n.services.subscriptions.subscribers dconfig.deviceKey ≠ ∅) :
    ¬ KeysHidden dconfig d mconfig env n session ws 3 := by
  rintro ⟨frames, hsame⟩
  -- two choices of the profile key
  have hframes (profileKey : String) := (hsame "" profileKey frames).mpr rfl
  simp only [delivered_notify_iff hd hn hparse hmetadata hnotify, Device.Config.withKeys,
    if_pos hregistered] at hframes
  obtain ⟨subscribe, rest, hkeys⟩ : ∃ subscribe rest,
      (n.services.subscriptions.subscribers dconfig.deviceKey).keys = subscribe :: rest := by
    refine List.exists_cons_of_ne_nil fun hempty => hsubscribers ?_
    exact AList.ext (List.map_eq_nil_iff.mp hempty)
  have hread (profileKey : String) : ∃ text frame, frames.head?.map Envelope.body =
      some (.transport (.webSocket { id := subscribe, body := text })) ∧
        Codec.api.parse text = .ok frame ∧
        (frame.get "metadata").stringAt "user-key" = .ok profileKey := by
    obtain ⟨text, hbody, frame, hframe, hkey⟩ := userKey_of_notification
      (dconfig.withKeys "" profileKey) ws (Codec.api_sorted hparse) hmetadata subscribe
    refine ⟨text, frame, ?_, hframe, hkey⟩
    rw [hframes profileKey, hkeys, ← hbody]
    rfl
  obtain ⟨text, frame, hhead, hframe, hkey⟩ := hread ""
  obtain ⟨text', frame', hhead', hframe', hkey'⟩ := hread "key"
  rw [hhead] at hhead'
  cases hhead'
  rw [hframe] at hframe'
  cases hframe'
  rw [hkey] at hkey'
  exact absurd (Except.ok.inj hkey') (by decide)

/-- The keys of a device do not reach its subscribers exactly where nothing
reaches them at all: the device is not registered, or nobody listens to it. The
requester never sees the keys. -/
theorem keysHidden_iff (dconfig : Device.Config) (d : Device.State) (mconfig : Config) (env : Env)
    (n : Manager.State) (session : String) (ws : WebSocket) (message metadata : JsonMap)
    (hd : d.contacts = Device.contacts) (hn : n.contacts = Manager.contacts)
    (hparse : Codec.api.parse ws.body = .ok message)
    (hmetadata : message.readMetadata = .ok metadata) :
    (message.isNotify → (KeysHidden dconfig d mconfig env n session ws 3 ↔
      dconfig.deviceKey ∉ n.services.devices.devicesReg ∨
        n.services.subscriptions.subscribers dconfig.deviceKey = ∅)) ∧
    (message.isResponse → KeysHidden dconfig d mconfig env n session ws 2) := by
  refine ⟨fun hnotify => ?_, fun hresponse =>
    ⟨answered n dconfig.deviceKey ws message,
      fun _ _ _ => delivered_response_iff hd hn hparse hmetadata hresponse⟩⟩
  constructor
  · intro hhidden
    by_contra hnot
    obtain ⟨hregistered, hsubscribers⟩ := not_or.mp hnot
    exact not_keysHidden hd hn hparse hmetadata hnotify (not_not.mp hregistered) hsubscribers hhidden
  · rintro hnone
    refine ⟨[], fun managerKey profileKey _ => ?_⟩
    rw [delivered_notify_iff hd hn hparse hmetadata hnotify]
    rcases hnone with hunregistered | hsubscribers
    · have hnot : (dconfig.withKeys managerKey profileKey).deviceKey ∉ n.services.devices.devicesReg :=
        hunregistered
      rw [if_neg hnot]
    · have hkeys : (n.services.subscriptions.subscribers
          (dconfig.withKeys managerKey profileKey).deviceKey).keys = [] := by
        show (n.services.subscriptions.subscribers dconfig.deviceKey).keys = []
        rw [hsubscribers]
        rfl
      rw [hkeys, List.map_nil, ite_self]

/-- The manager with a registered device that one session listens to. -/
def listened : Manager.State where
  services := { Manager.blank.services with
    devices := Manager.blank.services.devices.addRegDevice "lamp" "s" ∅ ∅
    subscriptions := {
      rows := []
      deviceSubscribes := (∅ : StringMap StringSet).insert "lamp" ((∅ : StringSet).emplace "c" ()) } }
  contacts := Manager.contacts

/-- A notification of the control service. -/
def statusFrame : WebSocket where
  id := "c"
  body := (Device.Control.statusNotify true).serialize Codec.api

theorem statusFrame_parse :
    Codec.api.parse statusFrame.body = .ok (Device.Control.statusNotify true).toMap :=
  Codec.api_roundTrip _

theorem keysHidden_iff_listened :
    KeysHidden ⟨"lamp", "m", "p.q"⟩ Device.blank ⟨"p.q", "m"⟩ .calm listened "s" statusFrame 3 ↔
      "lamp" ∉ listened.services.devices.devicesReg ∨
        listened.services.subscriptions.subscribers "lamp" = ∅ :=
  (keysHidden_iff ⟨"lamp", "m", "p.q"⟩ Device.blank ⟨"p.q", "m"⟩ .calm listened "s" statusFrame
    (Device.Control.statusNotify true).toMap [] rfl rfl statusFrame_parse rfl).1 rfl

/-- The one who listens sees the keys of the device. -/
theorem listened_not_hidden :
    ¬ KeysHidden ⟨"lamp", "m", "p.q"⟩ Device.blank ⟨"p.q", "m"⟩ .calm listened "s" statusFrame 3 := by
  refine not_keysHidden rfl rfl statusFrame_parse rfl rfl (by decide) fun hempty => ?_
  have hkeys := congrArg AList.keys hempty
  cases hkeys

end StreamCloud
