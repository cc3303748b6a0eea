-- SUMMARY: When a response stays with the session that it answers, of the manager or of the platform.
import StreamCloud.Verification.Addresses
import StreamCloud.Verification.Transparency
import StreamCloud.System.Cloud
import Mathlib.Order.CompletePartialOrder

/-!
# Cross-delivery

The websocket server of the manager looks for the id of a session to decide whether
a frame stays or goes up to the platform. Every id is a reading of the clock of the
host that gave it.
-/

namespace StreamCloud.Cloud

open Setup

/-- The text is one of a response. -/
def IsResponse (text : String) : Prop := ∃ m, Codec.api.parse text = .ok m ∧ m.isResponse

/-- A response to somebody in a session of one program, in a session of the other. -/
def Crossed : Packet → Prop
  | .written listener (some (.session asked _)) ws => listener ≠ asked ∧ IsResponse ws.body
  | _ => False

/-- What is asked for in a session is addressed to it. -/
def Kept (S : Setup) : Packet → Prop
  | .manager (some (.session listener id)) e =>
    id ∈ S.ids listener ∧ Manager.Addressed (fun _ => (· = id)) True False e
  | .platform (some (.session listener id)) e =>
    id ∈ S.ids listener ∧ Platform.Addressed S.link (fun _ => (· = id)) True e
  | .opened listener id => id ∈ S.ids listener
  | .written listener (some (.session asked id)) ws =>
    id ∈ S.ids asked ∧ ws.id ∈ S.ids listener ∧ (IsResponse ws.body → ws.id = id)
  | _ => True

/-- Both programs are wired, and the sessions have ids of their listeners. -/
structure Regular (S : Setup) (s : State) : Prop where
  wired : Wired s
  sessions : ∀ listener, ∀ id ∈ s.sessions listener, id ∈ S.ids listener

variable {S : Setup} {s s' : State} {env : Env} {out : List Packet}

theorem Kept.not_crossed {packet : Packet} (h : Kept S packet)
    (hdisjoint : Disjoint (S.ids .manager) (S.ids .platform)) : ¬ Crossed packet := by
  intro hcrossed
  unfold Crossed at hcrossed
  split at hcrossed
  · next listener asked id ws =>
    obtain ⟨hne, hresponse⟩ := hcrossed
    obtain ⟨hasked, hlistener, hid⟩ := h
    rw [hid hresponse] at hlistener
    cases listener <;> cases asked
    · exact hne rfl
    · exact Set.disjoint_left.mp hdisjoint hlistener hasked
    · exact Set.disjoint_left.mp hdisjoint hasked hlistener
    · exact hne rfl
  · exact hcrossed

/-- Whatever arrives is kept. -/
theorem Kept.of_arrives {packet : Packet} (h : S.Arrives packet) : Kept S packet := by
  cases h with
  | opened hid => exact hid
  | closed => trivial
  | @request listener ws m hid hparse hrequest =>
    cases listener with
    | manager =>
      refine ⟨hid, .frame fun m' hm' => ?_⟩
      obtain rfl : m = m' := Except.ok.inj (hparse.symm.trans hm')
      exact ⟨fun _ _ => rfl, fun hnot => (Bool.false_ne_true (hnot.symm.trans hrequest)).elim,
        fun hnot => (Bool.false_ne_true (hnot.symm.trans hrequest)).elim⟩
    | platform =>
      refine ⟨hid, .frame fun m' hm' => ?_⟩
      obtain rfl : m = m' := Except.ok.inj (hparse.symm.trans hm')
      exact ⟨fun _ => .inl fun _ => rfl, fun hnot => (Bool.false_ne_true (hnot.symm.trans hrequest)).elim⟩
  | @response ws m listener id _ hparse hresponse hnamed hid =>
    have hrequest := JsonMap.not_isRequest_of_isResponse hresponse
    refine ⟨hid, .frame fun m' hm' => ?_⟩
    obtain rfl : m = m' := Except.ok.inj (hparse.symm.trans hm')
    refine ⟨fun h => (Bool.false_ne_true (hrequest.symm.trans h)).elim, fun _ _ id' hid' => ?_,
      fun _ hnot => (Bool.false_ne_true (hnot.symm.trans hresponse)).elim⟩
    exact Except.ok.inj (hid'.symm.trans hnamed)
  | @frame listener => cases listener <;> trivial
  | _ => trivial

/-- Nothing is said about what nobody in a session has asked for. -/
theorem kept_of_free {asker : Option Asker} (h : ∀ listener id, asker ≠ some (.session listener id)) :
    (∀ e, Kept S (.manager asker e)) ∧ (∀ e, Kept S (.platform asker e)) ∧
      ∀ listener ws, Kept S (.written listener asker ws) := by
  match asker, h with
  | none, _ => exact ⟨fun _ => trivial, fun _ => trivial, fun _ _ => trivial⟩
  | some .own, _ => exact ⟨fun _ => trivial, fun _ => trivial, fun _ _ => trivial⟩
  | some (.session listener id), h => exact absurd rfl (h listener id)

/-- What comes of a message of the manager that is kept is kept. -/
theorem Kept.manager {asker : Option Asker} {e : Envelope Manager.Actor} {n : Manager.State}
    {sent : List (Envelope Manager.Actor)} (hs : Regular S s) (h : Kept S (.manager asker e))
    (hrun : Manager.handle Codec.api S.config (s.env .manager env) s.manager e = .ok (n, sent)) :
    ∀ packet ∈ sent.map (S.fromManager asker) ++ writtenByManager s asker e, Kept S packet := by
  intro packet hpacket
  by_cases hfree : ∀ listener id, asker ≠ some (.session listener id)
  · obtain ⟨hmanager, hplatform, hwritten⟩ := kept_of_free (S := S) hfree
    rcases List.mem_append.mp hpacket with hpacket | hpacket
    · obtain ⟨e', -, rfl⟩ := List.mem_map.mp hpacket
      rcases fromManager_cases S asker e' with heq | ⟨ws, -, -, -, heq⟩ <;> rw [heq]
      · exact hmanager e'
      · exact hplatform _
    · obtain ⟨ws, -, -, -, -, rfl⟩ := mem_writtenByManager hpacket
      exact hwritten _ ws
  obtain ⟨listener, id, rfl⟩ : ∃ listener id, asker = some (.session listener id) := by
    simpa using hfree
  obtain ⟨hid, haddressed⟩ := h
  rcases List.mem_append.mp hpacket with hpacket | hpacket
  · obtain ⟨e', he', rfl⟩ := List.mem_map.mp hpacket
    rcases haddressed.leads hs.wired.manager (fun hnot => hnot.elim) (fun _ _ _ _ _ _ _ => trivial)
      hrun e' he' with hnext | ⟨ws, rfl, hup⟩
    · rcases fromManager_cases S (some (.session listener id)) e' with
        heq | ⟨ws, hdest, hcommand, hbody, -⟩
      · rw [heq]
        exact ⟨hid, hnext⟩
      · exact absurd hbody (hnext.not_up hdest hcommand)
    · refine ⟨hid, .frame fun m hparse => ?_⟩
      obtain ⟨hrequest, hother⟩ := hup m hparse
      exact ⟨fun h => .inr ⟨trivial, rfl, (hrequest h).2⟩, hother⟩
  · obtain ⟨ws, hdest, hcommand, hbody, hopen, rfl⟩ := mem_writtenByManager hpacket
    refine ⟨hid, hs.sessions _ _ hopen, fun ⟨m, hparse, hresponse⟩ => ?_⟩
    have hwritten := haddressed.written hdest hcommand hbody m hparse
    exact (hwritten.other (JsonMap.not_isRequest_of_isResponse hresponse)).1

/-- What comes of a message of the platform that is kept is kept. -/
theorem Kept.platform {asker : Option Asker} {e : Envelope Platform.Actor} {n : Platform.State}
    {sent : List (Envelope Platform.Actor)} (hs : Regular S s) (h : Kept S (.platform asker e))
    (hrun : Platform.handle Codec.api S.managerKey (s.env .platform env) s.platform e = .ok (n, sent)) :
    ∀ packet ∈ sent.map (.platform asker) ++ S.writtenByPlatform s asker e, Kept S packet := by
  intro packet hpacket
  by_cases hfree : ∀ listener id, asker ≠ some (.session listener id)
  · obtain ⟨hmanager, hplatform, hwritten⟩ := kept_of_free (S := S) hfree
    rcases List.mem_append.mp hpacket with hpacket | hpacket
    · obtain ⟨e', -, rfl⟩ := List.mem_map.mp hpacket
      exact hplatform e'
    · obtain ⟨ws, -, -, -, ⟨-, rfl⟩ | ⟨-, -, rfl⟩⟩ := mem_writtenByPlatform hpacket
      · exact hmanager _
      · exact hwritten _ ws
  obtain ⟨listener, id, rfl⟩ : ∃ listener id, asker = some (.session listener id) := by
    simpa using hfree
  obtain ⟨hid, haddressed⟩ := h
  rcases List.mem_append.mp hpacket with hpacket | hpacket
  · obtain ⟨e', he', rfl⟩ := List.mem_map.mp hpacket
    exact ⟨hid, haddressed.leads hs.wired.platform hrun e' he'⟩
  · obtain ⟨ws, hdest, hcommand, hbody, ⟨-, rfl⟩ | ⟨hlink, hopen, rfl⟩⟩ := mem_writtenByPlatform hpacket
    · refine ⟨hid, .fromPlatform fun m hparse hrequest => ?_⟩
      exact (haddressed.written hdest hcommand hbody m hparse).1 hrequest
    · refine ⟨hid, hs.sessions _ _ hopen, fun ⟨m, hparse, hresponse⟩ => ?_⟩
      have hwritten := (haddressed.written hdest hcommand hbody m hparse).2
        (JsonMap.not_isRequest_of_isResponse hresponse)
      exact hwritten.resolve_right fun hnot => hlink hnot.2

/-- What comes of a packet that is kept is kept. -/
theorem Kept.handle {packet : Packet} (hs : Regular S s) (h : Kept S packet)
    (hhandle : S.handle env s packet = .ok (s', out)) :
    (∀ listener, ∀ id ∈ s'.sessions listener, id ∈ S.ids listener) ∧ ∀ e ∈ out, Kept S e := by
  cases handled_of_eq_ok hhandle with
  | manager hrun => exact ⟨hs.sessions, h.manager hs hrun⟩
  | platform hrun => exact ⟨hs.sessions, h.platform hs hrun⟩
  | @opened listener id =>
    refine ⟨fun listener' id' hid' => ?_, fun _ he => nomatch he⟩
    by_cases hl : listener' = listener
    · subst hl
      simp only [State.opened, Function.update_self, List.mem_cons] at hid'
      rcases hid' with rfl | hid'
      · exact h
      · exact hs.sessions _ _ hid'
    · simp only [State.opened, Function.update_of_ne hl] at hid'
      exact hs.sessions _ _ hid'
  | @closed listener id =>
    refine ⟨fun listener' id' hid' => ?_, fun _ he => nomatch he⟩
    by_cases hl : listener' = listener
    · subst hl
      simp only [State.closed, Function.update_self, List.mem_filter] at hid'
      exact hs.sessions _ _ hid'.1
    · simp only [State.closed, Function.update_of_ne hl] at hid'
      exact hs.sessions _ _ hid'

/-- In every run, everything that is asked for in a session is addressed to it. -/
theorem Setup.Reachable.kept {c : Work.Config State Packet} (h : S.Reachable c) :
    Regular S c.state ∧ ∀ packet ∈ c.pending, Kept S packet ∧ packet.Plain := by
  obtain ⟨s₀, h₀, hrun⟩ := h
  refine hrun.invariant (Regular S) (fun packet => Kept S packet ∧ packet.Plain) ?_ ?_ ?_ ?_
  · exact ⟨h₀.wired, fun listener id hid => by rw [h₀.sessions] at hid; cases hid⟩
  · exact fun _ he => nomatch he
  · exact fun packet harrives => ⟨.of_arrives harrives, harrives.plain⟩
  · intro env s packet s' out hs hp _ hhandle
    obtain ⟨hsessions, hkept⟩ := hp.1.handle hs hhandle
    obtain ⟨hwired, hplain⟩ := handle_plain hs.wired hp.2 hhandle
    exact ⟨⟨hwired, hsessions⟩, fun e he => ⟨hkept e he, hplain e he⟩⟩

/-! ## An id that both listeners give -/

section Shared

variable {id : String}

/-- The request of a guest for the key of the manager. -/
def keyRequest : RequestMessage where
  id := .integer 1
  method := "manager.info"
  params := .null
  metadata := []

/-- What the manager answers. -/
def keyReply (config : Config) : ResponseMessage :=
  (Reply.ok (.string config.managerKey)).message (.integer 1)

/-- The task of a guest's request. -/
def keyTask (config : Config) (id : String) : Envelope Manager.Actor where
  dest := .managerInfo
  sender := .router
  command := "info"
  body := .task (Manager.Router.task config keyRequest id "manager" "info")

theorem handle_keyRequest {config : Config} {env : Env} {n : Manager.State}
    (hn : n.contacts = Manager.contacts) :
    Manager.handle Codec.api config env n
        (Manager.frame { id, body := keyRequest.serialize Codec.api }) =
      .ok (n, [keyTask config id]) := by
  obtain ⟨message, m, hparse, hrequest, hread⟩ := RequestMessage.reads_serialize keyRequest
  have hmanager : (Manager.contacts .router).lookup "manager" = some .managerInfo := rfl
  have hsplit : split keyRequest.reread.method = ["manager", "info"] := by decide
  have hquest : keyRequest.reread.method ∈ Manager.Router.questMethodList := by decide
  have hguest : ¬ keyRequest.reread.metadata.contains "user-key" := by decide
  have hexact : keyRequest.reread = keyRequest := rfl
  rw [Manager.handle_frame, Manager.Router.dispatcher]
  simp only [Transport.asWebSocket_webSocket, Except.ok_bind', hparse, if_pos hrequest,
    Manager.Router.request, hread, hsplit, if_neg hguest, if_pos hquest,
    Ctx.send_of_contact (Manager.lookup_of_wired hn hmanager)]
  rw [hexact]
  rfl

theorem handle_keyTask {config : Config} {env : Env} {n : Manager.State}
    (hn : n.contacts = Manager.contacts) :
    Manager.handle Codec.api config env n (keyTask config id) =
      .ok (n, [Manager.sessionMessage .managerInfo
        { id, body := (keyReply config).serialize Codec.api }]) := by
  have hws : (Manager.contacts .managerInfo).lookup "ws" = some .ws := rfl
  refine (Program.handle_task rfl rfl).trans ?_
  show (ManagerInfo.info Codec.api config.managerKey env
    ((Manager.program Codec.api config).ctx n .managerInfo) () _).map _ = _
  unfold ManagerInfo.info
  rw [Ctx.respond_of_contact (Manager.lookup_of_wired hn hws)]
  rfl

theorem exact_keyReply {config : Config} : (keyReply config).toMap.Exact := by
  have hversion : JsonMap.Exact (JsonMap.set [] "jsonrpc" (.string "2.0")) :=
    JsonMap.exact_nil.set (JsonValue.exact_string _)
  have hid : (JsonValue.integer 1).Exact := rfl
  exact (hversion.set (JsonValue.exact_string config.managerKey)).set hid

/-- What comes of the request of a session that is gone, when the platform has
one of the same id. -/
theorem Setup.crosses {c : Work.Config State Packet} {asker : Asker} (hs : Wired s)
    (hgone : id ∉ s.sessions .manager) (hopen : id ∈ s.sessions .platform) (hlink : id ≠ S.link)
    (hrun : Work.Run S.handle S.Arrives (fun _ _ _ => True) c ⟨s, [.manager (some asker)
      (Manager.frame { id, body := keyRequest.serialize Codec.api })]⟩) :
    Work.Run S.handle S.Arrives (fun _ _ _ => True) c ⟨s, [.written .platform (some asker)
      { id, body := (keyReply S.config).serialize Codec.api }]⟩ := by
  have hexact : (keyReply S.config).toMap.Exact := exact_keyReply
  let reply : WebSocket := { id, body := (keyReply S.config).serialize Codec.api }
  have htask : Work.Run S.handle S.Arrives (fun _ _ _ => True) c
      ⟨s, [.manager (some asker) (keyTask S.config id)]⟩ :=
    hrun.handle_single .calm trivial (handle_manager (handle_keyRequest hs.manager))
  have hanswer : Work.Run S.handle S.Arrives (fun _ _ _ => True) c
      ⟨s, [.manager (some asker) (Manager.sessionMessage .managerInfo reply)]⟩ :=
    htask.handle_single .calm trivial (handle_manager (handle_keyTask hs.manager))
  have hup : Work.Run S.handle S.Arrives (fun _ _ _ => True) c
      ⟨s, [.manager (some asker) (Manager.pipeMessage reply)]⟩ := by
    have hsession : Manager.handle Codec.api S.config (s.env .manager .calm) s.manager
        (Manager.sessionMessage .managerInfo reply) = .ok (s.manager, [Manager.pipeMessage reply]) := by
      have hnone : (s.env .manager .calm).sessions reply.id = false := decide_eq_false hgone
      rw [Manager.handle_sessionMessage, hnone]
      rfl
    have hnobody : writtenByManager s (some asker) (Manager.sessionMessage .managerInfo reply) = [] :=
      if_neg hgone
    have hhandle : S.handle .calm s (.manager (some asker) (Manager.sessionMessage .managerInfo reply)) =
        .ok (s, [.manager (some asker) (Manager.pipeMessage reply)]) := by
      rw [handle_manager hsession, hnobody]
      rfl
    exact hanswer.handle_single .calm trivial hhandle
  have hframe : Work.Run S.handle S.Arrives (fun _ _ _ => True) c
      ⟨s, [.platform (some asker) (Platform.frame
        { id := S.link, body := Codec.api.print (returned (keyReply S.config) id) })]⟩ :=
    hup.handle_single .calm trivial (handle_manager (Manager.handle_pipedResponse hs.manager rfl hexact))
  have hrelayed : Work.Run S.handle S.Arrives (fun _ _ _ => True) c
      ⟨s, [.platform (some asker) (Platform.relayed S.link (returned (keyReply S.config) id))]⟩ :=
    hframe.handle_single .calm trivial (handle_platform (Platform.handle_returned hs.platform hexact S.link))
  have hback : Work.Run S.handle S.Arrives (fun _ _ _ => True) c
      ⟨s, [.platform (some asker) (Platform.sessionMessage reply)]⟩ :=
    hrelayed.handle_single .calm trivial
      (handle_platform (Platform.handle_relayed_returned hs.platform rfl hexact S.link))
  have hclient : S.writtenByPlatform s (some asker) (Platform.sessionMessage reply) =
      [.written .platform (some asker) reply] := (if_neg hlink).trans (if_pos hopen)
  have hhandle : S.handle .calm s (.platform (some asker) (Platform.sessionMessage reply)) =
      .ok (s, [.written .platform (some asker) reply]) := by
    rw [handle_platform Platform.handle_sessionMessage, hclient]
    rfl
  exact hback.handle_single .calm trivial hhandle

/-- A session of the manager ends before its request is answered, and the platform
has one of the same id. -/
theorem Setup.exists_crossed (hmanager : id ∈ S.ids .manager) (hplatform : id ∈ S.ids .platform) :
    ∃ c, S.Reachable c ∧ ∃ packet ∈ c.pending, Crossed packet := by
  let s₀ : State := ⟨Manager.blank, Platform.blank, fun _ => []⟩
  have h₀ : Initial s₀ := ⟨Manager.blank_initial, Platform.blank_initial, fun _ => rfl⟩
  let s : State := ((s₀.opened .platform id).opened .manager id).closed .manager id
  obtain ⟨m, m', hparse, hrequest, -⟩ := RequestMessage.reads_serialize keyRequest
  let ws : WebSocket := { id, body := keyRequest.serialize Codec.api }
  let request : Packet := received .manager (some (.session .manager id)) ws
  have hrequest : S.Arrives request := @Arrives.request S .manager ws m hmanager hparse hrequest
  have hclient : Work.Run S.handle S.Arrives (fun _ _ _ => True) ⟨s₀, []⟩
      ⟨s₀.opened .platform id, []⟩ :=
    ((Work.Run.refl _).arrive (Arrives.opened hplatform)).handle_single .calm trivial rfl
  have hlocal : Work.Run S.handle S.Arrives (fun _ _ _ => True) ⟨s₀, []⟩
      ⟨(s₀.opened .platform id).opened .manager id, []⟩ :=
    (hclient.arrive (Arrives.opened hmanager)).handle_single .calm trivial rfl
  have hasked : Work.Run S.handle S.Arrives (fun _ _ _ => True) ⟨s₀, []⟩
      ⟨(s₀.opened .platform id).opened .manager id, [request, .closed .manager id]⟩ :=
    (hlocal.arrive hrequest).arrive (Arrives.closed .manager id)
  have hended : Work.Run S.handle S.Arrives (fun _ _ _ => True) ⟨s₀, []⟩ ⟨s, [request]⟩ :=
    Work.Run.handle (o := Env.calm) (p := [request]) (q := []) hasked trivial rfl
  have hgone : id ∉ s.sessions .manager := by
    simp [s, State.closed]
  have hopen : id ∈ s.sessions .platform := by
    simp [s, State.closed, State.opened, s₀]
  have hlink : id ≠ S.link := fun h => S.link_notMem (h ▸ hplatform)
  refine ⟨_, ⟨s₀, h₀, Setup.crosses ⟨rfl, rfl⟩ hgone hopen hlink hended⟩, _, List.mem_singleton_self _, ?_⟩
  exact ⟨fun h => Listener.noConfusion h, _, exact_keyReply.parse, ResponseMessage.isResponse_toMap _⟩

end Shared

/-! ## The result -/

/-- No response reaches a session of the other program, in any run, exactly when
no id is given by both listeners. -/
theorem not_crossed_iff (S : Setup) :
    (∀ c, S.Reachable c → ∀ packet ∈ c.pending, ¬ Crossed packet) ↔
      Disjoint (S.ids .manager) (S.ids .platform) := by
  constructor
  · intro hsafe
    refine Set.disjoint_left.mpr fun id hmanager hplatform => ?_
    obtain ⟨c, hc, packet, hpacket, hcrossed⟩ := Setup.exists_crossed hmanager hplatform
    exact hsafe c hc packet hpacket hcrossed
  · intro hdisjoint c hc packet hpacket
    exact (hc.kept.2 packet hpacket).1.not_crossed hdisjoint

/-- Both hosts read the same clock for one session of theirs. -/
def sameReading : Setup where
  config := ⟨"p.q", "m"⟩
  managerKey := ""
  link := "1700000000000001"
  client := "1700000000000000"
  ids := fun _ => {"1700000000000002"}
  link_notMem := by decide

theorem sameReading_crosses :
    ∃ c, sameReading.Reachable c ∧ ∃ packet ∈ c.pending, Crossed packet :=
  @Setup.exists_crossed sameReading "1700000000000002" rfl rfl

end StreamCloud.Cloud
