-- SUMMARY: Which frames a device survives, whatever else it is sent.
import StreamCloud.Device.Flow
import StreamCloud.Api.JsonBounds
import StreamCloud.Api.JsonSorted
import StreamCloud.Library.Follow

/-!
# Frames that the device survives

The device has no websocket server to answer from, so that a request that it would
have to refuse stops it. Of the other frames it reads no more than which kind they
are.
-/

namespace StreamCloud.Device

/-- A request that names the session it comes from, and a handler of the control
service, or nothing that has a dot. -/
structure RequestHarmless (request : RequestMessage) : Prop where
  transport : request.metadata.HasString "transport"
  method : ∀ serviceName methodName rest, split request.method = serviceName :: methodName :: rest →
    serviceName = "control" ∧ methodName ∈ controlMethods

/-- A frame that the scanner does not leave, and that the device has a handler for, if
it is a request. -/
def Harmless (text : String) : Prop :=
  JsonText.Bounded text ∧ ∀ m, Codec.api.parse text = .ok m → m.isRequest →
    ∃ request, m.Holds request ∧ RequestHarmless request

/-! ## Messages that are handled -/

/-- A message to the client of the device. -/
def clientMessage (command text : String) : Envelope Actor where
  dest := .client
  sender := .manager
  command := command
  body := .text text

/-- A message that comes of a harmless frame. -/
inductive Safe : Envelope Actor → Prop
  | frame {ws : WebSocket} : Harmless ws.body → Safe (frame ws)
  | control {command : String} {task : Task} : command ∈ controlMethods → Safe (controlMessage command task)
  | write {sender : Actor} {ws : WebSocket} : Writable ws.body → Safe (writeMessage sender ws)
  | socket {ws : WebSocket} : Safe (socketMessage ws)
  | close {text : String} : Safe (clientMessage "close" text)
  | closing {text : String} : Safe (clientMessage "set_closing_message" text)

theorem Safe.plain {e : Envelope Actor} (h : Safe e) : e.Plain := by
  cases h <;> exact fun _ h => by cases h

/-- What a handler sends is safe. -/
abbrev SafeOut (out : List (Envelope Actor)) : Prop := ∀ e ∈ out, Safe e

theorem safeOut_nil : SafeOut [] := fun _ he => absurd he List.not_mem_nil

theorem safeOut_singleton {e : Envelope Actor} (h : Safe e) : SafeOut [e] := by
  intro e' he'
  rw [List.mem_singleton.mp he']
  exact h

section Closed

variable {config : Config} {env : Env} {n : State} (hn : n.contacts = contacts)
include hn

theorem control_closed {command : String} {task : Task} (h : command ∈ controlMethods) :
    (handle Codec.api config env n (controlMessage command task)).Yields fun r => SafeOut r.2 := by
  obtain ⟨n', result, rest, -, hhandle, hrest⟩ : ∃ n' result rest, n'.contacts = contacts ∧
      handle Codec.api config env n (controlMessage command task) =
        .ok (n', responseMessage Codec.api task result :: rest) ∧
      ∀ e ∈ rest, ∃ status, e = notifyMessage Codec.api task status := handle_control hn h
  rw [hhandle, Except.yields_ok]
  intro e he
  rcases List.mem_cons.mp he with rfl | he
  · exact .write (writable_response _)
  · obtain ⟨status, rfl⟩ := hrest e he
    exact .write (writable_notify _)

theorem write_closed {sender : Actor} {ws : WebSocket} (h : Writable ws.body) :
    (handle Codec.api config env n (writeMessage sender ws)).Yields fun r => SafeOut r.2 := by
  obtain ⟨message, metadata, hparse, hmetadata⟩ := h
  rw [handle_write hn hparse hmetadata, Except.yields_ok]
  exact safeOut_singleton .socket

theorem client_closed {command text : String} (hsafe : Safe (clientMessage command text)) :
    (do return ((), ← ((program Codec.api config).ctx n .manager).send "client" command (.text text)) :
      Except Fault (Unit × List (Envelope Actor))).Yields fun r => SafeOut r.2 := by
  have hclient : (contacts .manager).lookup "client" = some .client := rfl
  exact Ctx.send_yields_return ((lookup_of_wired hn _ _).trans hclient) (safeOut_singleton hsafe)

theorem request_closed {message m' : JsonMap} {request : RequestMessage} (hrequest : message.isRequest)
    (hread : message.parseRequest = .ok (request, m')) (h : RequestHarmless request) :
    (Manager.request Codec.api ((program Codec.api config).ctx n .manager) message).Yields SafeOut := by
  have hid := JsonMap.contains_id_of_isRequest hrequest
  obtain ⟨id, htransport⟩ := h.transport
  have htransport : request.metadata.stringAt "transport" = .ok id := JsonMap.stringAt_eq_ok.mpr htransport
  by_cases hpieces : ∃ serviceName methodName rest, split request.method = serviceName :: methodName :: rest
  · obtain ⟨serviceName, methodName, rest, hsplit⟩ := hpieces
    obtain ⟨rfl, hmethod⟩ := h.method _ _ _ hsplit
    have hcontrol : (contacts .manager).lookup "control" = some .control := rfl
    have htypes : (program Codec.api config).messageTypes .control =
        ["sync_contacts", "skip", "add_channel"] ++ controlMethods := rfl
    have hhandled : methodName ∈ ((program Codec.api config).ctx n .manager).messageTypes .control := by
      show methodName ∈ (program Codec.api config).messageTypes .control
      rw [htypes]
      exact List.mem_append_right _ hmethod
    rw [Manager.request_of_control Codec.api hid hread htransport hsplit
      ((lookup_of_wired hn _ _).trans hcontrol) hhandled, Except.yields_ok]
    exact safeOut_singleton (.control hmethod)
  · -- without a dot nothing is done
    have hcontains : request.metadata.contains "transport" := by
      rw [JsonMap.contains, JsonMap.stringAt_eq_ok.mp htransport]
      rfl
    simp only [Manager.request, (Manager.stringAt_of_parseRequest hid hread).mpr htransport, Except.ok_bind',
      hread, if_pos hcontains]
    split
    · next hsplit => exact absurd ⟨_, _, _, hsplit⟩ hpieces
    · exact Except.yields_ok.mpr safeOut_nil

theorem frame_closed {ws : WebSocket} (h : Harmless ws.body) :
    (handle Codec.api config env n (frame ws)).Yields fun r => SafeOut r.2 := by
  obtain ⟨hbounded, hharmless⟩ := h
  obtain ⟨message, hparse⟩ := Codec.api_parse_returns.mpr hbounded
  refine (Program.handle_transport_yields (Q := SafeOut) rfl rfl).mpr ?_
  show (Manager.dispatcher Codec.api config env ((program Codec.api config).ctx n .manager) ()
    (.webSocket ws)).Yields _
  simp only [Manager.dispatcher, Transport.asWebSocket_webSocket, Except.ok_bind', hparse]
  refine Except.yields_ite (fun hrequest => ?_) fun _ => ?_
  · obtain ⟨request, hholds, hrequestHarmless⟩ := hharmless message hparse hrequest
    have hread := (JsonMap.holds_iff (JsonMap.contains_id_of_isRequest hrequest)).mp hholds
    obtain ⟨out, hout, hsafe⟩ := request_closed hn hrequest hread hrequestHarmless
    exact ⟨((), out), by rw [hout, Except.ok_bind']; rfl, hsafe⟩
  · refine Except.yields_ite (fun _ => client_closed hn .close) fun _ => ?_
    refine Except.yields_ite (fun _ => client_closed hn .closing) fun _ => ?_
    exact Except.yields_ok.mpr safeOut_nil

theorem safe_closed {e : Envelope Actor} (h : Safe e) :
    (handle Codec.api config env n e).Yields fun r => SafeOut r.2 := by
  cases h with
  | frame hharmless => exact frame_closed hn hharmless
  | control hcommand => exact control_closed hn hcommand
  | write hwritable => exact write_closed hn hwritable
  | socket => exact ⟨_, rfl, safeOut_nil⟩
  | close => exact ⟨_, rfl, safeOut_nil⟩
  | closing => exact ⟨_, rfl, safeOut_nil⟩

end Closed

/-! ## Frames that are survived -/

section Survived

/-- Whenever the frame comes, no handler that it triggers stops. -/
def Survives (config : Config) (text : String) : Prop :=
  ∀ n₀ n pending id, Initial n₀ →
    Run Codec.api config (fun _ _ _ => True) ⟨n₀, []⟩ ⟨n, pending⟩ →
    Work.Unfailing (handle Codec.api config) Arrives (fun _ _ _ => True) (fun _ _ _ => True)
      ⟨n, pending, [frame ⟨id, text⟩]⟩

variable {config : Config} {text : String}

/-- A harmless frame is survived. -/
theorem Harmless.survives (h : Harmless text) : Survives config text := by
  intro n₀ n pending id h₀ hrun
  have hkept : ∀ env n e n' out, n.contacts = contacts → e.Plain →
      handle Codec.api config env n e = .ok (n', out) → n'.contacts = contacts ∧ ∀ e' ∈ out, e'.Plain := by
    intro env n e n' out hn hplain heq
    obtain ⟨hcontacts, hout⟩ := handle_plain heq hplain
    exact ⟨hcontacts.trans hn, hout⟩
  obtain ⟨hn, hplain⟩ := hrun.invariant (fun n => n.contacts = contacts) Envelope.Plain h₀.contacts (by simp)
    (fun _ h => h.plain) fun env n e n' out hn hplain _ heq => hkept env n e n' out hn hplain heq
  refine Work.unfailing_of_closed (fun n => n.contacts = contacts) Envelope.Plain Safe (fun _ h => h.plain)
    (fun env n e n' out hn hplain _ heq => hkept env n e n' out hn hplain heq) ?_ hn hplain ?_
  · intro env n e hn hsafe
    obtain ⟨⟨n', out⟩, heq, hout⟩ : (handle Codec.api config env n e).Yields fun r => SafeOut r.2 :=
      safe_closed hn hsafe
    exact ⟨_, heq, (hkept env n e n' out hn hsafe.plain heq).1, hout⟩
  · exact safeOut_singleton (.frame h)

theorem Survives.not_breaks (h : Survives config text) :
    ¬ Work.Breaks (handle Codec.api config) blank (frame ⟨"x", text⟩) := fun hbreaks =>
  hbreaks.not_unfailing (List.mem_singleton_self _) (fun _ _ _ => trivial)
    (h blank blank [] "x" ⟨rfl⟩ (.refl _))

/-- A task that reaches the control service, but none of its own handlers, stops it or
the service that it came from. -/
theorem breaks_control {command : String} {task : Task} (hcommand : command ∉ controlMethods) :
    Work.Breaks (handle Codec.api config) blank (controlMessage command task) := by
  have hperform {env : Env} : handle Codec.api config env blank (controlMessage command task) =
      (program Codec.api config).perform ((program Codec.api config).reaction .control command) env blank
        (controlMessage command task) := rfl
  rcases (program Codec.api config).reaction_cases .control command with hstandard | hattached
  · simp only [List.mem_cons, List.not_mem_nil, or_false] at hstandard
    rcases hstandard with hreaction | hreaction | hreaction <;> rw [hreaction] at hperform
    · refine .now .calm fun ⟨r, hr⟩ => ?_
      cases hperform.symm.trans hr
    · -- the `manager` service is told a text, which it cannot read
      refine .later .calm hperform (List.mem_singleton_self _) (.now .calm fun ⟨r, hr⟩ => ?_)
      cases hr
    · refine .now .calm fun ⟨r, hr⟩ => ?_
      cases hperform.symm.trans hr
  · refine absurd ?_ hcommand
    have hname : command ∈ ((program Codec.api config).attached .control).map Prod.fst :=
      List.mem_map.mpr ⟨_, hattached, rfl⟩
    exact hname

/-- A frame is survived just if it is harmless. -/
theorem device_survives_iff (config : Config) (text : String) : Survives config text ↔ Harmless text := by
  refine ⟨fun h => ?_, Harmless.survives⟩
  have hreturns := Work.returns_of_not_breaks h.not_breaks .calm
  have hran : (Manager.dispatcher Codec.api config .calm ((program Codec.api config).ctx blank .manager) ()
      (.webSocket ⟨"x", text⟩)).Returns := Program.handle_transport_returns rfl rfl hreturns
  simp only [Manager.dispatcher, Transport.asWebSocket_webSocket, Except.ok_bind'] at hran
  refine ⟨Codec.api_parse_returns.mp hran.of_bind, fun m hparse hrequest => ?_⟩
  have hid := JsonMap.contains_id_of_isRequest hrequest
  rw [hparse, Except.ok_bind', if_pos hrequest] at hran
  obtain ⟨out, hout⟩ := hran.of_bind
  obtain ⟨request, m', hread⟩ : ∃ request m', m.parseRequest = .ok (request, m') := by
    obtain ⟨_, -, hrest⟩ := Except.bind_eq_ok.mp hout
    obtain ⟨⟨request, m'⟩, hread, -⟩ := Except.bind_eq_ok.mp hrest
    exact ⟨request, m', hread⟩
  obtain ⟨id, htransport, hcases⟩ := Manager.request_cases Codec.api rfl hid hread hout
  refine ⟨request, JsonMap.holds_of_parseRequest hid hread, ⟨id, JsonMap.stringAt_eq_ok.mp htransport⟩, ?_⟩
  intro serviceName methodName rest hsplit
  rcases hcases with ⟨hshort, -⟩ | ⟨command, rest', dest, hsplit', hdest, hmethod, rfl⟩
  · rw [hsplit] at hshort
    simp at hshort
  · obtain ⟨rfl, hrest⟩ := List.cons.inj (hsplit.symm.trans hsplit')
    obtain ⟨rfl, -⟩ := List.cons.inj hrest
    refine ⟨rfl, ?_⟩
    by_contra hcommand
    obtain rfl : Actor.control = dest := Option.some.inj hdest
    have hframe : handle Codec.api config .calm blank (frame ⟨"x", text⟩) =
        .ok (blank, [controlMessage methodName (Manager.task request id)]) := by
      rw [handle_frame, Manager.dispatcher]
      simp only [Transport.asWebSocket_webSocket, Except.ok_bind', hparse, if_pos hrequest, hout]
      rfl
    exact h.not_breaks (.later .calm hframe (List.mem_singleton_self _) (breaks_control hcommand))

end Survived

end StreamCloud.Device
