-- SUMMARY: Which sessions a notification of a device is written to, after any messages whatever.
import StreamCloud.Manager.Flow
import StreamCloud.Core.Wiring
import StreamCloud.Library.Trace
import StreamCloud.Api.JsonSorted

/-!
# Notification fan-out

`subscriptions.on`, `off` and `emit` look the sessions of a device up in one map.
Who is in it is read off the history of the handled messages: a session was given
access to the device by an `on`, and has sent no `off` since.
-/

namespace StreamCloud

/-! ## Contacts -/

/-- An actor that is known by a name stays the one of that name. -/
theorem Program.Handled.lookup_eq_some {α S : Type} [DecidableEq α] {P : Program α S} {env : Env}
    {n : Net α S} {e : Envelope α} {r : Net α S × List (Envelope α)} (h : Handled P env n e r)
    {a address : α} {name : String} (hlookup : (n.contacts a).lookup name = some address) :
    (r.1.contacts a).lookup name = some address := by
  cases h with
  | syncContacts =>
    rw [lookup_syncContacts]
    split
    · next hwhere =>
      rw [← hwhere.1, hlookup]
      rfl
    · exact hlookup
  | addChannel => exact hlookup
  | skip => exact hlookup
  | attached => exact hlookup

namespace Manager

variable {J : Codec} {config : Config}

/-! ## Histories -/

/-- A message that is handled, in the state before it. -/
structure Handling where
  env : Env
  before : State
  message : Envelope Actor

/-- The handling returns, and leaves the program in this state. -/
def Handles (J : Codec) (config : Config) (n : State) (h : Handling) (n' : State) : Prop :=
  h.before = n ∧ ∃ out, handle J config h.env n h.message = .ok (n', out)

/-- Messages handled one after the other, whatever they are and wherever they come from. -/
abbrev History (J : Codec) (config : Config) (n₀ : State) (history : List Handling) (n : State) : Prop :=
  Lts.Trace (Handles J config) n₀ history n

/-- What a run handles is a history. -/
theorem Run.history {guard : Env → State → Envelope Actor → Prop}
    {c c' : Work.Config State (Envelope Actor)} (hrun : Run J config guard c c') :
    ∃ history, History J config c.state history c'.state := by
  induction hrun with
  | refl => exact ⟨[], .nil⟩
  | arrive _ _ ih => exact ih
  | @handle env s s' p q out e _ _ hok ih =>
    obtain ⟨history, htrace⟩ := ih
    exact ⟨history ++ [⟨env, s, e⟩], htrace.snoc ⟨rfl, out, hok⟩⟩

namespace Handling

/-- An `on` that gives the session access to the device. -/
def GrantsOn (h : Handling) (device transport : String) : Prop :=
  h.message.dest = .subscriptions ∧ h.message.command = "on" ∧ ∃ task, h.message.body = .task task ∧
    task.transportId = transport ∧ h.before.services.subscriptions.Grants h.env task device

/-- An `off` of the session for the device. -/
def Ends (h : Handling) (device transport : String) : Prop :=
  h.message.dest = .subscriptions ∧ h.message.command = "off" ∧ ∃ task, h.message.body = .task task ∧
    task.transportId = transport ∧ task.paramString "device-key" = .ok device

end Handling

/-- The last `on` that gave the session access to the device is after its last `off`. -/
def Subscribed (history : List Handling) (device transport : String) : Prop :=
  Lts.Since (Handling.GrantsOn · device transport) (Handling.Ends · device transport) history

/-! ## One message -/

/-- What one message does to the sessions that listen to a device. -/
theorem mem_subscribers_of_handles {n n' : State} {h : Handling} (hstep : Handles J config n h n')
    {device transport : String} :
    transport ∈ n'.services.subscriptions.subscribers device ↔
      h.GrantsOn device transport ∨
        transport ∈ n.services.subscriptions.subscribers device ∧ ¬ h.Ends device transport := by
  obtain ⟨hbefore, out, hok⟩ := hstep
  -- any message but a task for the subscriptions service leaves them alone
  have hother (hsame : n'.services.subscriptions.subscribers device =
      n.services.subscriptions.subscribers device)
      (hnot : h.message.dest = .subscriptions → ∀ task, h.message.body = .task task →
        h.message.command ≠ "on" ∧ h.message.command ≠ "off") :
      transport ∈ n'.services.subscriptions.subscribers device ↔
        h.GrantsOn device transport ∨
          transport ∈ n.services.subscriptions.subscribers device ∧ ¬ h.Ends device transport := by
    have hgrants : ¬ h.GrantsOn device transport := by
      rintro ⟨hdest, hcommand, task, hbody, -⟩
      exact (hnot hdest task hbody).1 hcommand
    have hends : ¬ h.Ends device transport := by
      rintro ⟨hdest, hcommand, task, hbody, -⟩
      exact (hnot hdest task hbody).2 hcommand
    simp [hsame, hgrants, hends]
  obtain ⟨env, before, dest, sender, command, body⟩ := h
  obtain rfl : before = n := hbefore
  cases Program.handled_of_eq_ok hok with
  | syncContacts _ hbody =>
    apply hother rfl
    intro _ task htask
    cases hbody.symm.trans htask
  | addChannel _ hbody =>
    apply hother rfl
    intro _ task htask
    cases hbody.symm.trans htask
  | skip hreaction =>
    apply hother rfl
    rintro rfl task -
    constructor
    · rintro rfl
      cases hreaction
    · rintro rfl
      cases hreaction
  | attached _ hmem hran =>
    cases dest <;> obtain ⟨inner, hinner, rfl⟩ := mem_liftAll.mp hmem <;>
      obtain ⟨component, hinnerRan, rfl⟩ := hran.of_lift
    case subscriptions =>
      cases hinnerRan with
      | @task handler task _ hrun =>
        have hmembers := Subscriptions.mem_subscribers_of_task J hinner (.task hrun) device transport
        constructor
        · intro hlistens
          rcases hmembers.mp hlistens with ⟨hcommand, hgrants, hid⟩ | ⟨hlistened, hnot⟩
          · exact .inl ⟨rfl, hcommand, task, rfl, hid.symm, hgrants⟩
          · refine .inr ⟨hlistened, ?_⟩
            rintro ⟨-, hcommand, task', hbody, hid, hkey⟩
            cases hbody
            exact hnot ⟨hcommand, hkey, hid.symm⟩
        · rintro (⟨-, hcommand, task', hbody, hid, hgrants⟩ | ⟨hlistened, hnot⟩)
          · cases hbody
            exact hmembers.mpr (.inl ⟨hcommand, hgrants, hid.symm⟩)
          · refine hmembers.mpr (.inr ⟨hlistened, ?_⟩)
            rintro ⟨hcommand, hkey, hid⟩
            exact hnot ⟨rfl, hcommand, task, rfl, hid.symm, hkey⟩
      | transport hrun =>
        simp [Subscriptions.handlers] at hinner
        obtain ⟨rfl, rfl⟩ := hinner
        have hsame := Subscriptions.emit_keeps J _ _ hrun
        apply hother (congrArg (fun s => s.subscribers device) hsame)
        intro _ task hbody
        cases hbody
      | text => simp [Subscriptions.handlers] at hinner
      | silent => simp [Subscriptions.handlers] at hinner
    all_goals
      apply hother rfl
      intro hdest
      cases hdest

/-! ## Whole histories -/

/-- After any history, who listens to a device is who is subscribed to it. -/
theorem mem_subscribers_of_history {n₀ n : State} {history : List Handling} (h₀ : Initial n₀)
    (h : History J config n₀ history n) (device transport : String) :
    transport ∈ n.services.subscriptions.subscribers device ↔ Subscribed history device transport := by
  refine h.invariant (fun history n => transport ∈ n.services.subscriptions.subscribers device ↔
    Subscribed history device transport) ?_ ?_
  · have hnone : transport ∉ n₀.services.subscriptions.subscribers device := by
      rw [Subscriptions.subscribers, h₀.deviceSubscribes]
      exact AList.notMem_empty _
    exact iff_of_false hnone Lts.not_since_nil
  · intro history n handling n' ih hstep
    rw [mem_subscribers_of_handles hstep, ih, Subscribed, Subscribed, Lts.since_snoc]

/-- After any history, actors that were wired know one another. -/
theorem lookup_of_history {n₀ n : State} {history : List Handling} (h₀ : Initial n₀)
    (h : History J config n₀ history n) {a address : Actor} {name : String}
    (hcontact : (contacts a).lookup name = some address) :
    (n.contacts a).lookup name = some address := by
  refine h.invariant (fun _ n => (n.contacts a).lookup name = some address) ?_ ?_
  · rw [h₀.contacts]
    exact hcontact
  · intro _ n handling n' hknown hstep
    obtain ⟨rfl, out, hok⟩ := hstep
    exact (Program.handled_of_eq_ok hok).lookup_eq_some hknown

/-! ## The frames -/

/-- A notification with the session it goes to. -/
def addressed (message metadata : JsonMap) (transport : String) : JsonMap :=
  message.set "metadata" (.map (metadata.set "transport" (.string transport)))

/-- Two objects that differ in nothing but `metadata.transport`, which is a given session. -/
structure DiffersInTransport (message message' : JsonMap) (transport : String) : Prop where
  members : ∀ key, key ≠ "metadata" → message'.find? key = message.find? key
  metadata : ∃ metadata metadata' : JsonMap, message.get "metadata" = .map metadata ∧
    message'.get "metadata" = .map metadata' ∧
    (∀ key, key ≠ "transport" → metadata'.find? key = metadata.find? key) ∧
    metadata'.stringAt "transport" = .ok transport

/-- The text of a frame is read as an object that differs from the notification in
nothing but `metadata.transport`, which is a given session. -/
def FrameDiffersInTransport (message : JsonMap) (text transport : String) : Prop :=
  ∃ message', Codec.api.parse text = .ok message' ∧ DiffersInTransport message message' transport

/-- A notification without the session that is named in it. -/
def unaddressed (message metadata : JsonMap) : JsonMap :=
  message.set "metadata" (.map (metadata.erase "transport"))

theorem unaddressed_exact_iff {message metadata : JsonMap} (hsorted : message.Sorted)
    (hmetadata : metadata.Sorted) :
    (unaddressed message metadata).Exact ↔
      (∀ key v, key ≠ "metadata" → message.find? key = some v → v.Exact) ∧
      ∀ key v, key ≠ "transport" → metadata.find? key = some v → v.Exact := by
  have herased : (metadata.erase "transport").Sorted := hmetadata.erase _
  constructor
  · intro h
    constructor
    · intro key v hkey hfind
      have hkept : (unaddressed message metadata).find? key = some v := by
        rw [unaddressed, JsonMap.find?_set_of_ne hkey, hfind]
      exact h.find? hkept
    · intro key v hkey hfind
      have hmap : (JsonValue.map (metadata.erase "transport")).Exact :=
        h.find? (JsonMap.find?_set_self ..)
      have hkept : JsonMap.find? (metadata.erase "transport") key = some v := by
        rw [JsonMap.find?_erase_of_ne hkey, hfind]
      exact (JsonValue.exact_map.mp hmap).find? hkept
  · rintro ⟨hmembers, hother⟩
    refine JsonMap.exact_iff.mpr ⟨hsorted.set herased, fun key v hfind => ?_⟩
    rw [unaddressed, JsonMap.find?_set] at hfind
    split at hfind
    · cases hfind
      refine JsonValue.exact_map.mpr (JsonMap.exact_iff.mpr ⟨herased, fun key' w hfind' => ?_⟩)
      by_cases hkey : key' = "transport"
      · rw [hkey, JsonMap.find?_erase_self] at hfind'
        cases hfind'
      · rw [JsonMap.find?_erase_of_ne hkey] at hfind'
        exact hother key' w hkey hfind'
    · next hkey => exact hmembers key v hkey hfind

/-- A notification that is written for a session is read back as what it was, but for
the session, exactly when all the numbers in it are read back as they were. -/
theorem frame_differs_iff {message metadata : JsonMap} (hsorted : message.Sorted)
    (hmetadata : message.get "metadata" = .map metadata) (transport : String) :
    FrameDiffersInTransport message (Codec.api.print (addressed message metadata transport)) transport ↔
      ∀ number, (JsonValue.map (unaddressed message metadata)).HasNumber number → number.Exact := by
  have hmap : metadata.Sorted := by
    have hget := hsorted.get "metadata"
    rwa [hmetadata] at hget
  have hinner : JsonMap.Sorted (metadata.set "transport" (.string transport)) :=
    hmap.set (JsonValue.sorted_string transport)
  have haddressed : (addressed message metadata transport).Sorted := hsorted.set hinner
  have hunaddressed : (unaddressed message metadata).Sorted := hsorted.set (hmap.erase _)
  have hreread : (addressed message metadata transport).reread.get "metadata" =
      .map (JsonMap.reread (metadata.set "transport" (.string transport))) := by
    rw [JsonMap.get_reread haddressed, addressed, JsonMap.get_set_self]
    rfl
  have hmember {key : String} (hkey : key ≠ "metadata") :
      (addressed message metadata transport).reread.find? key = message.find? key ↔
        ∀ v, message.find? key = some v → v.Exact := by
    rw [JsonMap.find?_reread haddressed, addressed, JsonMap.find?_set_of_ne hkey]
    exact JsonMap.map_reread_find?_eq_iff
  have hother {key : String} (hkey : key ≠ "transport") :
      (JsonMap.reread (metadata.set "transport" (.string transport))).find? key = metadata.find? key ↔
        ∀ v, metadata.find? key = some v → v.Exact := by
    rw [JsonMap.find?_reread hinner, JsonMap.find?_set_of_ne hkey]
    exact JsonMap.map_reread_find?_eq_iff
  have hexact : (∀ number, (JsonValue.map (unaddressed message metadata)).HasNumber number → number.Exact) ↔
      (unaddressed message metadata).Exact :=
    ⟨fun h => JsonValue.exact_map.mp (JsonValue.Sorted.exact hunaddressed h),
      fun h _ hnumber => (JsonValue.exact_map.mpr h).number hnumber⟩
  rw [hexact, unaddressed_exact_iff hsorted hmap, FrameDiffersInTransport, Codec.api_roundTrip]
  constructor
  · rintro ⟨message', hparse, hmembers, metadata₁, metadata₂, hmetadata₁, hmetadata₂, hothers, -⟩
    cases hparse
    obtain rfl : metadata = metadata₁ := JsonValue.map.inj (hmetadata.symm.trans hmetadata₁)
    obtain rfl := JsonValue.map.inj (hreread.symm.trans hmetadata₂)
    exact ⟨fun key v hkey => (hmember hkey).mp (hmembers key hkey) v,
      fun key v hkey => (hother hkey).mp (hothers key hkey) v⟩
  · rintro ⟨hmembers, hothers⟩
    have hstring : (JsonMap.reread (metadata.set "transport" (.string transport))).stringAt "transport" =
        .ok transport := by
      rw [JsonMap.stringAt_reread hinner, JsonMap.stringAt_eq_ok]
      exact JsonMap.find?_set_self ..
    exact ⟨_, rfl, fun key hkey => (hmember hkey).mpr fun v => hmembers key v hkey, metadata, _, hmetadata,
      hreread, fun key hkey => (hother hkey).mpr fun v => hothers key v hkey, hstring⟩

/-- `emit` as it is written: one object, which each turn of the loop changes again. -/
def emitLoop (J : Codec) (message : JsonMap) : List String → Except Fault (List WebSocket)
  | [] => .ok []
  | subscribe :: ids => do
    let metadata ← (message.get "metadata").asMap
    let message := message.set "metadata" (.map (metadata.set "transport" (.string subscribe)))
    return { id := subscribe, body := J.print message } :: (← emitLoop J message ids)

/-- A turn leaves no trace of the sessions before it. -/
theorem addressed_addressed (message metadata : JsonMap) (transport transport' : String) :
    addressed (addressed message metadata transport) (metadata.set "transport" (.string transport))
      transport' = addressed message metadata transport' := by
  unfold addressed
  rw [JsonMap.set_set, JsonMap.set_set]

theorem emitLoop_eq {message metadata : JsonMap} (hmetadata : message.get "metadata" = .map metadata)
    (ids : List String) : emitLoop J message ids = .ok (ids.map fun transport =>
      { id := transport, body := J.print (addressed message metadata transport) }) := by
  induction ids generalizing message metadata with
  | nil => rfl
  | cons transport ids ih =>
    have hnext : (addressed message metadata transport).get "metadata" =
        .map (metadata.set "transport" (.string transport)) := JsonMap.get_set_self ..
    have hasMap : (message.get "metadata").asMap = .ok metadata := JsonValue.asMap_eq_ok.mpr hmetadata
    rw [emitLoop, hasMap]
    show (emitLoop J (addressed message metadata transport) ids >>= _) = _
    rw [ih hnext]
    simp only [addressed_addressed]
    rfl

/-- What the loop of `emit` writes is what `emit` sends. -/
theorem emit_eq_emitLoop {env : Env} {ctx : Ctx Actor} {s : Subscriptions} {ws : WebSocket}
    {message metadata : JsonMap} {device : String} {server : Actor}
    (hparse : J.parse ws.body = .ok message) (hmetadata : message.get "metadata" = .map metadata)
    (hdevice : metadata.stringAt "device-key" = .ok device)
    (hws : ctx.contacts.lookup "ws" = some server) :
    Subscriptions.emit J env ctx s (.webSocket ws) =
      (emitLoop J message (s.subscribers device).keys).map fun frames => (s, frames.map fun frame => {
        dest := server
        sender := ctx.self
        command := "write"
        body := .transport (.webSocket frame) }) := by
  rw [Subscriptions.emit_eq J hparse hmetadata hdevice hws, emitLoop_eq hmetadata]
  simp only [Except.map, List.map_map]
  rfl

/-! ## Fan-out -/

/-- The text is a notification of the device. -/
structure Notifies (ws : WebSocket) (message metadata : JsonMap) (device : String) : Prop where
  parse : Codec.api.parse ws.body = .ok message
  get_metadata : message.get "metadata" = .map metadata
  get_device : metadata.stringAt "device-key" = .ok device

/-- After any history, an `emit` writes one frame to every subscribed session and none
to any other. A frame differs from the notification in nothing but the session exactly
when the numbers of the notification are read back as they were. An `on` or `off` for
one device leaves the sessions of the others alone. -/
theorem notification_fanout_iff (config : Config) (n₀ n : State) (history : List Handling)
    (h₀ : Initial n₀) (h : History Codec.api config n₀ history n) :
    (∀ env sender ws message metadata device, Notifies ws message metadata device →
      ∃ (transports : List String) (text : String → String), transports.Nodup ∧
        (∀ transport, transport ∈ transports ↔ Subscribed history device transport) ∧
        handle Codec.api config env n
            { dest := .subscriptions, sender, command := "emit", body := .transport (.webSocket ws) } =
          .ok (n, transports.map fun transport => {
            dest := .ws
            sender := .subscriptions
            command := "write"
            body := .transport (.webSocket { id := transport, body := text transport }) }) ∧
        ∀ transport, FrameDiffersInTransport message (text transport) transport ↔
          ∀ number, (JsonValue.map (unaddressed message metadata)).HasNumber number → number.Exact) ∧
    ∀ env sender command task device n' out, task.paramString "device-key" = .ok device →
      handle Codec.api config env n { dest := .subscriptions, sender, command, body := .task task } =
        .ok (n', out) →
      ∀ other, other ≠ device → ∀ transport,
        transport ∈ n'.services.subscriptions.subscribers other ↔
          transport ∈ n.services.subscriptions.subscribers other := by
  constructor
  · intro env sender ws message metadata device hnotifies
    have hws : ((program Codec.api config).ctx n .subscriptions).contacts.lookup "ws" = some .ws :=
      lookup_of_history h₀ h rfl
    refine ⟨(n.services.subscriptions.subscribers device).keys,
      fun transport => Codec.api.print (addressed message metadata transport), AList.keys_nodup _, ?_, ?_,
      frame_differs_iff (Codec.api_sorted hnotifies.parse) hnotifies.get_metadata⟩
    · intro transport
      rw [← AList.mem_keys]
      exact mem_subscribers_of_history h₀ h device transport
    · refine (Program.handle_transport rfl rfl).trans ?_
      show (Subscriptions.emit Codec.api env _ n.services.subscriptions (.webSocket ws)).map _ = _
      rw [Subscriptions.emit_eq Codec.api hnotifies.parse hnotifies.get_metadata hnotifies.get_device hws]
      rfl
  · intro env sender command task device n' out hkey hok other hother transport
    have hstep : Handles Codec.api config n
        ⟨env, n, { dest := .subscriptions, sender, command, body := .task task }⟩ n' := ⟨rfl, out, hok⟩
    rw [mem_subscribers_of_handles hstep]
    -- neither an `on` nor an `off` names another device than its own
    have hdevice {device' : String} (hkey' : task.paramString "device-key" = .ok device') :
        device' = device := Except.ok.inj (hkey'.symm.trans hkey)
    constructor
    · rintro (⟨-, -, task', hbody, -, _, _, -, -, -, hkey', -⟩ | ⟨hlistens, -⟩)
      · cases hbody
        exact absurd (hdevice hkey') hother
      · exact hlistens
    · intro hlistens
      refine .inr ⟨hlistens, ?_⟩
      rintro ⟨-, -, task', hbody, -, hkey'⟩
      cases hbody
      exact hother (hdevice hkey')

/-! ## One session -/

/-- The task of an administrator who asks for the notifications of `d`. -/
def onTask : Task where
  request := {
    id := .integer 1
    method := "subscriptions.on"
    params := .map [("device-key", .string "d")]
    metadata := [("device-groups", .array [.string "g"])] }
  transportId := "s"
  storage := AList.singleton "user.admin" "1"

def onHandling : Handling :=
  ⟨.calm, blank, { dest := .subscriptions, sender := .router, command := "on", body := .task onTask }⟩

/-- The program when session `s` listens to `d`. -/
def listening : State where
  services := { blank.services with
    subscriptions := { rows := [], deviceSubscribes := AList.singleton "d" (AList.singleton "s" ()) } }
  contacts := contacts

theorem listening_history : History Codec.api ⟨"p.q", "m"⟩ blank [onHandling] listening :=
  Lts.Trace.nil.snoc ⟨rfl, _, rfl⟩

/-- What the device `d` notifies of: a number with seven digits. -/
def deviceNotification : WebSocket where
  id := "x"
  body :=
    "\x7b\"jsonrpc\":\"2.0\",\"metadata\":\x7b\"device-key\":\"d\"\x7d,\"method\":\"on\",\"params\":0.1234567\x7d"

/-- The number as it is read. -/
def sevenDigits : Double := (Floating.round .binary32 false 1234567 10000000).convert .binary64

def readNotification : JsonMap :=
  [("jsonrpc", .string "2.0"), ("metadata", .map [("device-key", .string "d")]),
    ("method", .string "on"), ("params", .real sevenDigits)]

theorem deviceNotification_notifies :
    Notifies deviceNotification readNotification [("device-key", .string "d")] "d" := ⟨rfl, rfl, rfl⟩

theorem onHandling_subscribed : Subscribed [onHandling] "d" "s" := by
  have hgrants : onHandling.GrantsOn "d" "s" :=
    ⟨rfl, rfl, onTask, rfl, rfl, [.string "g"], ["g"], rfl, by simp, rfl, rfl, rfl, .inr (by decide)⟩
  exact ⟨[], onHandling, [], rfl, hgrants, by simp⟩

theorem notification_fanout_iff_listening : ∃ (transports : List String) (text : String → String),
    "s" ∈ transports ∧
    handle Codec.api ⟨"p.q", "m"⟩ .calm listening {
        dest := .subscriptions
        sender := .devices
        command := "emit"
        body := .transport (.webSocket deviceNotification) } =
      .ok (listening, transports.map fun transport => {
        dest := .ws
        sender := .subscriptions
        command := "write"
        body := .transport (.webSocket { id := transport, body := text transport }) }) ∧
    (FrameDiffersInTransport readNotification (text "s") "s" ↔
      ∀ number, (JsonValue.map (unaddressed readNotification [("device-key", .string "d")])).HasNumber number →
        number.Exact) := by
  obtain ⟨transports, text, -, hmem, hhandle, hdiffers⟩ :=
    (notification_fanout_iff ⟨"p.q", "m"⟩ blank listening [onHandling] blank_initial listening_history).1
      .calm .devices _ _ _ _ deviceNotification_notifies
  exact ⟨transports, text, (hmem "s").mpr onHandling_subscribed, hhandle, hdiffers "s"⟩

/-- What is written to `s`: a number with six digits. -/
def emittedText : String :=
  "\x7b\"jsonrpc\":\"2.0\",\"metadata\":\x7b\"device-key\":\"d\",\"transport\":\"s\"\x7d,\"method\":\"on\",\"params\":0.123457\x7d"

/-- The frame that is written to a subscribed session has another number in it. -/
theorem notification_sevenDigits :
    History Codec.api ⟨"p.q", "m"⟩ blank [onHandling] listening ∧ Subscribed [onHandling] "d" "s" ∧
    Notifies deviceNotification readNotification [("device-key", .string "d")] "d" ∧
    handle Codec.api ⟨"p.q", "m"⟩ .calm listening {
        dest := .subscriptions
        sender := .devices
        command := "emit"
        body := .transport (.webSocket deviceNotification) } =
      .ok (listening, [{
        dest := .ws
        sender := .subscriptions
        command := "write"
        body := .transport (.webSocket { id := "s", body := emittedText }) }]) ∧
    ¬ FrameDiffersInTransport readNotification emittedText "s" := by
  have hnotifies := deviceNotification_notifies
  have htext : Codec.api.print (addressed readNotification [("device-key", .string "d")] "s") = emittedText := by
    decide +kernel
  refine ⟨listening_history, onHandling_subscribed, hnotifies, ?_, fun hdiffers => ?_⟩
  · refine (Program.handle_transport rfl rfl).trans ?_
    show (Subscriptions.emit Codec.api .calm _ listening.services.subscriptions (.webSocket _)).map _ = _
    rw [Subscriptions.emit_eq Codec.api hnotifies.parse hnotifies.get_metadata hnotifies.get_device rfl, ← htext]
    rfl
  · rw [← htext, frame_differs_iff (Codec.api_sorted hnotifies.parse) hnotifies.get_metadata] at hdiffers
    have hparams : (unaddressed readNotification [("device-key", .string "d")]).find? "params" =
        some (.real sevenDigits) := rfl
    have hchanged : (JsonValue.real sevenDigits).reread ≠ .real sevenDigits := by decide +kernel
    exact hchanged (hdiffers _ (.member hparams (.real _)))

end Manager

end StreamCloud
