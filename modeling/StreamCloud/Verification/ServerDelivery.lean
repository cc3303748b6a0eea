-- SUMMARY: What the websocket server writes over a connection: the frames for its session, in order, until a write fails.
import StreamCloud.Providers.ServerWrites
import StreamCloud.Library.WriteQueue
import StreamCloud.Verification.SessionTable

/-!
# Frames of the websocket server

Each session has a write queue of its own. Which queue a frame comes into is
decided by the table, and a session that has left the table does not come back.
-/

namespace StreamCloud.WsServer

/-! ## The sessions and the table -/

/-- What a session is known by: its id, and the frames it was given. -/
def Known (sessions : List Session) (k : ℕ) (id : String) (frames : List String) : Prop :=
  ∃ session, sessions[k]? = some session ∧ session.id = id ∧ session.frames = frames

section Known

variable {sessions : List Session} {k : ℕ} {id : String} {frames : List String}

theorem Known.lt (h : Known sessions k id frames) : k < sessions.length := by
  obtain ⟨session, hk, -⟩ := h
  exact (List.getElem?_eq_some_iff.mp hk).1

/-- Functions of sessions that concern their operations only. -/
theorem Known.modify {j : ℕ} {f : Session → Session} (h : Known sessions k id frames)
    (hid : ∀ session, (f session).id = session.id)
    (hframes : ∀ session, (f session).frames = session.frames) :
    Known (sessions.modify j f) k id frames := by
  obtain ⟨session, hk, rfl, rfl⟩ := h
  by_cases hj : j = k
  · exact ⟨f session, by simp [hj, hk], hid session, hframes session⟩
  · exact ⟨session, by simp [hj, hk], rfl, rfl⟩

theorem Known.set {j : ℕ} {before after : Session} (h : Known sessions k id frames)
    (hj : sessions[j]? = some before) (hid : after.id = before.id)
    (hframes : after.frames = before.frames) : Known (sessions.set j after) k id frames := by
  obtain ⟨session, hk, rfl, rfl⟩ := h
  by_cases hjk : j = k
  · subst hjk
    obtain rfl : before = session := Option.some.inj (hj.symm.trans hk)
    exact ⟨after, by simp [(List.getElem?_eq_some_iff.mp hk).1], hid, hframes⟩
  · exact ⟨session, by simp [hjk, hk], rfl, rfl⟩

end Known

namespace Server

/-- The frame that an event hands to a session. -/
def handed (s : Server) (k : ℕ) : Event → Option String
  | .write ws => if s.storageSessions.lookup ws.id = some k then some ws.body else none
  | _ => none

variable {s s' : Server} {e : Event} {k : ℕ}

/-- The messages about ended sessions leave the sessions alone, and enter nothing
into the table. -/
theorem handle_known {msg : Envelope Party} (h : s.handle msg = some s') :
    s'.sessions = s.sessions ∧
      ∀ i j, s'.storageSessions.lookup i = some j → s.storageSessions.lookup i = some j := by
  cases hends : ends msg with
  | none =>
    obtain rfl := handle_other hends h
    exact ⟨rfl, fun _ _ hlookup => hlookup⟩
  | some id =>
    rcases handle_ends hends h with ⟨e', -, rfl⟩ | ⟨hsessions, -, hlookup⟩
    · exact ⟨rfl, fun _ _ hlookup => hlookup⟩
    · refine ⟨hsessions, fun i j hj => ?_⟩
      rw [hlookup] at hj
      split at hj
      · cases hj
      · exact hj

/-- A session keeps its id, and is given the frames that are handed to it. -/
theorem Step.known (h : Step s e s') {id : String} {frames : List String}
    (hk : Known s.sessions k id frames) :
    Known s'.sessions k id (frames ++ (s.handed k e).toList) := by
  cases e with
  | accepted reading =>
    cases h
    obtain ⟨session, hsession, hid, hframes⟩ := hk
    show Known _ k id (frames ++ [])
    rw [List.append_nil]
    have hpushed : Known (s.sessions ++ [.fresh (toString reading)]) k id frames :=
      ⟨session, by rw [List.getElem?_append_left (List.getElem?_eq_some_iff.mp hsession).1, hsession],
        hid, hframes⟩
    exact hpushed.modify (fun _ => rfl) fun _ => rfl
  | acceptFailed =>
    cases h
    simpa [handed] using hk
  | completed j op r =>
    show Known _ k id (frames ++ [])
    rw [List.append_nil]
    simp only [Step, step] at h
    split at h
    · cases h
    · next session hj =>
      split at h
      · cases h
        have hset : Known (s.sessions.set j { session with inFlight := session.inFlight.erase op })
            k id frames := hk.set hj rfl rfl
        exact hset.modify (fun _ => rfl) fun _ => rfl
      · cases h
  | handled msg =>
    show Known _ k id (frames ++ [])
    rw [List.append_nil]
    simp only [Step, step] at h
    split at h
    · rw [(handle_known h).1]
      exact hk
    · cases h
  | write ws =>
    cases h
    simp only [Server.write, handed]
    cases hlookup : s.storageSessions.lookup ws.id with
    | none => simpa using hk
    | some j =>
      obtain ⟨session, hsession, hid, hframes⟩ := hk
      by_cases hj : j = k
      · -- the session is given the frame
        subst hj
        exact ⟨session.write ws.body, by simp [hsession], hid,
          by simp [Session.write, hframes]⟩
      · exact ⟨session, by simp [hj, hsession], hid, by simp [hj, hframes]⟩

/-- A session enters the table when it is accepted, under its own id, and never later. -/
theorem Step.lookup (h : Step s e s') {i : String} (hlookup : s'.storageSessions.lookup i = some k) :
    s.storageSessions.lookup i = some k ∨
      k = s.sessions.length ∧ ∃ reading, e = .accepted reading ∧ i = toString reading := by
  cases e with
  | accepted reading =>
    cases h
    by_cases hi : i = toString reading
    · subst hi
      have hself : some ((s.storageSessions.lookup (toString reading)).getD s.sessions.length) =
          some k := (AList.lookup_emplace_self _ _ _).symm.trans hlookup
      cases hbefore : s.storageSessions.lookup (toString reading) with
      | none =>
        rw [hbefore] at hself
        exact .inr ⟨(Option.some.inj hself).symm, reading, rfl, rfl⟩
      | some j =>
        rw [hbefore] at hself
        exact .inl hself
    · exact .inl ((AList.lookup_emplace_ne hi).symm.trans hlookup)
  | acceptFailed =>
    cases h
    exact .inl hlookup
  | completed j op r =>
    simp only [Step, step] at h
    split at h
    · cases h
    · split at h <;> cases h
      exact .inl hlookup
  | handled msg =>
    simp only [Step, step] at h
    split at h
    · exact .inl ((handle_known h).2 i k hlookup)
    · cases h
  | write ws =>
    cases h
    exact .inl ((s.write_eq ws).1 ▸ hlookup)

/-- How many sessions an event adds. -/
def accepts : Event → ℕ
  | .accepted _ => 1
  | _ => 0

theorem Step.length (h : Step s e s') : s'.sessions.length = s.sessions.length + accepts e := by
  cases e with
  | accepted reading =>
    cases h
    simp [Server.onAccept, runSession, accepts]
  | acceptFailed =>
    cases h
    rfl
  | completed j op r =>
    simp only [Step, step] at h
    split at h
    · cases h
    · split at h <;> cases h
      simp [after, accepts]
  | handled msg =>
    simp only [Step, step] at h
    split at h
    · exact congrArg List.length (handle_known h).1
    · cases h
  | write ws =>
    cases h
    simp only [Server.write]
    split <;> simp [accepts]

end Server

/-! ## The queues -/

/-- The write queue of a session. -/
def Output.queue (o : Output) : WriteQueue.Queue String :=
  ⟨o.que, o.posted, o.writing, o.calls, o.left⟩

namespace Endpoint

/-- What an event does to the write queue of a session. -/
def queueEvent (s : Endpoint) (k : ℕ) : Event → Option (WriteQueue.Event String)
  | .server e => (s.server.handed k e).map .call
  | .posted j => if j = k then some .posted else none
  | .written j frame ec =>
    if j = k then some (if ec.isSome then .failed frame else .written frame) else none

/-- A write of the session completes with an error. -/
def Event.FailsAt (k : ℕ) : Event → Prop
  | .written j _ ec => j = k ∧ ec.isSome
  | _ => False

variable {s s' : Endpoint} {e : Event} {k : ℕ}

theorem failsAt_iff : e.FailsAt k ↔ ∃ e', s.queueEvent k e = some e' ∧ e'.Fails := by
  cases e with
  | server e =>
    simp only [Event.FailsAt, queueEvent, false_iff, Option.map_eq_some_iff]
    rintro ⟨e', ⟨frame, -, rfl⟩, hfails⟩
    exact hfails
  | posted j => simp [Event.FailsAt, queueEvent, WriteQueue.Event.Fails]
  | written j frame ec =>
    cases ec <;> simp [Event.FailsAt, queueEvent, WriteQueue.Event.Fails]

theorem getElem?_set_of_some {α : Type} {l : List α} {k : ℕ} {a b : α} (h : l[k]? = some a) :
    (l.set k b)[k]? = some b :=
  List.getElem?_set_self (List.getElem?_eq_some_iff.mp h).1

/-- The posted function puts its frame behind the others, or writes it at once. -/
theorem runPosted_step {o : Output} {frame : String} {posted : List String}
    (h : o.posted = frame :: posted) :
    WriteQueue.Queue.Step o.queue .posted ({ o with posted }.runPosted frame).queue := by
  by_cases hque : o.que = []
  · have hrun : ({ o with posted }.runPosted frame).queue =
        ({ o.queue with que := [frame], posted }.writeFront) := by
      simp [Output.runPosted, hque, Output.writeFront, Output.queue, WriteQueue.Queue.writeFront]
    rw [hrun]
    exact .first h hque
  · have hrun : ({ o with posted }.runPosted frame).queue =
        { o.queue with que := o.que ++ [frame], posted } := by
      simp [Output.runPosted, hque, Output.queue]
    rw [hrun]
    exact .behind h hque

theorem onWrite_step {o : Output} {frame : String} (h : frame ∈ o.writing)
    (ec : Option SocketErrorCode) :
    WriteQueue.Queue.Step o.queue (if ec.isSome then .failed frame else .written frame)
      ({ o with writing := o.writing.erase frame }.onWrite ec).queue := by
  cases ec with
  | some ec => exact .failed h
  | none => exact .written h

/-- What an event of the server does to all below and above. -/
theorem Step.of_server {e : WsServer.Event} (h : Step s (.server e) s') :
    ∃ server, Server.Step s.server e server ∧ s' = ⟨server, s.outputsAfter e⟩ := by
  obtain ⟨server, hstep, heq⟩ := Option.map_eq_some_iff.mp (h : (s.server.step e).map _ = some s')
  exact ⟨server, hstep, heq.symm⟩

/-- Each step is one of the write queue of a session, or leaves it alone. -/
theorem Step.output (h : Step s e s') {o : Output} (hk : s.outputs[k]? = some o) :
    ∃ o', s'.outputs[k]? = some o' ∧
      Lts.StepOf WriteQueue.Queue.Step (s.queueEvent k e) o.queue o'.queue := by
  cases e with
  | server e =>
    obtain ⟨server, -, rfl⟩ := h.of_server
    cases e with
    | accepted reading =>
      have hlt : k < s.outputs.length := (List.getElem?_eq_some_iff.mp hk).1
      exact ⟨o, by rw [outputsAfter, List.getElem?_append_left hlt, hk], rfl⟩
    | write ws =>
      simp only [outputsAfter, queueEvent, Server.handed]
      cases hlookup : s.server.storageSessions.lookup ws.id with
      | none => exact ⟨o, hk, by simp [Lts.StepOf]⟩
      | some j =>
        by_cases hj : j = k
        · subst hj
          have hcall : WriteQueue.Queue.Step o.queue (.call ws.body) (o.write ws.body).queue :=
            .call o.queue ws.body
          exact ⟨o.write ws.body, by simp [hk], by simpa [Lts.StepOf] using hcall⟩
        · exact ⟨o, by simp [hj, hk], by simp [hj, Lts.StepOf]⟩
    | _ => exact ⟨o, hk, rfl⟩
  | posted j =>
    simp only [Step, step] at h
    split at h
    · cases h
    · next before hbefore =>
      split at h
      · cases h
      · next frame posted hposted =>
        cases h
        by_cases hj : j = k
        · subst hj
          obtain rfl : before = o := Option.some.inj (hbefore.symm.trans hk)
          exact ⟨_, getElem?_set_of_some hk, by simpa [queueEvent, Lts.StepOf] using runPosted_step hposted⟩
        · exact ⟨o, by simp [hj, hk], by simp [queueEvent, hj, Lts.StepOf]⟩
  | written j frame ec =>
    simp only [Step, step] at h
    split at h
    · cases h
    · next before hbefore =>
      split at h
      · next hmem =>
        cases h
        by_cases hj : j = k
        · subst hj
          obtain rfl : before = o := Option.some.inj (hbefore.symm.trans hk)
          exact ⟨_, getElem?_set_of_some hk, by simpa [queueEvent, Lts.StepOf] using onWrite_step hmem ec⟩
        · exact ⟨o, by simp [hj, hk], by simp [queueEvent, hj, Lts.StepOf]⟩
      · cases h

/-! ## Runs -/

/-- The frame that an event addresses to an id. -/
def frameFor (id : String) : Event → Option String
  | .server (.write ws) => if ws.id = id then some ws.body else none
  | _ => none

/-- The frames that a run addresses to an id. -/
def addressed (id : String) (events : List Event) : List String := events.filterMap (frameFor id)

/-- How the frames for a session get on. -/
structure Delivers (s : Endpoint) (k : ℕ) (id : String) (events : List Event) (o : Output) : Prop where
  /-- The session was given what was addressed to it, from its accept on, -/
  given : Known s.server.sessions k id o.calls ∧ o.calls <+: addressed id events
  /-- and all of it while it is in the table. -/
  entered : s.server.storageSessions.lookup id = some k → o.calls = addressed id events
  order : o.left <+: o.calls
  single : o.writing.length ≤ 1
  flows : o.queue.Flows ↔ ∀ e ∈ events, ¬ e.FailsAt k
  arrives : (∀ e ∈ events, ¬ e.FailsAt k) → o.posted = [] → o.writing = [] → o.left = o.calls
  /-- After a failed write nothing leaves any more, whatever happens. -/
  ends : (∃ e ∈ events, e.FailsAt k) → o.writing = [] ∧ ∀ later s', Lts.Trace Step s later s' →
    ∃ o', s'.outputs[k]? = some o' ∧ o'.left = o.left

/-- What carries the run of a session: it is in the table under its own id only, and
its queue is sound. -/
structure Serves (s : Endpoint) (k : ℕ) (id : String) (events : List Event) (o : Output) : Prop where
  known : Known s.server.sessions k id o.calls
  own : o.calls <+: addressed id events
  entered : s.server.storageSessions.lookup id = some k → o.calls = addressed id events
  entry (i : String) : s.server.storageSessions.lookup i = some k → i = id
  sound : o.queue.Sound (∃ e ∈ events, e.FailsAt k)

variable {id : String} {events : List Event} {o o' : Output}

/-- A session whose queue is stuck writes nothing more. -/
theorem left_of_stuck (hk : s.outputs[k]? = some o) (hstuck : o.queue.Stuck) {later : List Event}
    (h : Lts.Trace Step s later s') :
    ∃ o', s'.outputs[k]? = some o' ∧ o'.left = o.left := by
  have hkept := h.invariant
    (fun _ s => ∃ o', s.outputs[k]? = some o' ∧ o'.queue.Stuck ∧ o'.left = o.left)
    ⟨o, hk, hstuck, rfl⟩
    fun _ _ _ _ ⟨o₁, hk₁, hstuck₁, hleft₁⟩ hstep => by
      obtain ⟨o₂, hk₂, hqueue⟩ := hstep.output hk₁
      obtain ⟨hstuck₂, hleft₂⟩ := hstuck₁.stepOf hqueue
      exact ⟨o₂, hk₂, hstuck₂, hleft₂.trans hleft₁⟩
  obtain ⟨o', hk', -, hleft⟩ := hkept
  exact ⟨o', hk', hleft⟩

theorem Serves.delivers (h : s.Serves k id events o) (hk : s.outputs[k]? = some o) :
    s.Delivers k id events o where
  given := ⟨h.known, h.own⟩
  entered := h.entered
  order := h.sound.order
  single := h.sound.single
  flows := by
    rw [h.sound.flows_iff]
    simp
  arrives hok := h.sound.arrives (by simpa using hok)
  ends hfails :=
    have hstuck := h.sound.stuck hfails
    ⟨hstuck.idle, fun _ _ hlater => left_of_stuck hk hstuck hlater⟩

/-- The frame that an event hands to a session. -/
def handed (s : Endpoint) (k : ℕ) : Event → Option String
  | .server e => s.server.handed k e
  | _ => none

theorem called_queueEvent : (s.queueEvent k e).bind WriteQueue.Event.called = s.handed k e := by
  cases e with
  | server e =>
    cases hhanded : s.server.handed k e <;>
      simp [queueEvent, handed, hhanded, WriteQueue.Event.called]
  | posted j => by_cases hj : j = k <;> simp [queueEvent, handed, hj, WriteQueue.Event.called]
  | written j frame ec =>
    cases ec <;> by_cases hj : j = k <;>
      simp [queueEvent, handed, hj, WriteQueue.Event.called]

/-- While a session is in the table, what is addressed to its id is handed to it. -/
theorem handed_of_entered (hentry : ∀ i, s.server.storageSessions.lookup i = some k → i = id)
    (hin : s.server.storageSessions.lookup id = some k) : s.handed k e = frameFor id e := by
  cases e with
  | server e =>
    cases e with
    | write ws =>
      by_cases hid : ws.id = id
      · subst hid
        simp [handed, Server.handed, frameFor, hin]
      · have hother : s.server.storageSessions.lookup ws.id ≠ some k := fun h => hid (hentry _ h)
        simp [handed, Server.handed, frameFor, hid, hother]
    | _ => rfl
  | _ => rfl

/-- Nothing else is. -/
theorem handed_of_not_entered (hentry : ∀ i, s.server.storageSessions.lookup i = some k → i = id)
    (hout : s.server.storageSessions.lookup id ≠ some k) : s.handed k e = none := by
  cases e with
  | server e =>
    cases e with
    | write ws =>
      have hother : s.server.storageSessions.lookup ws.id ≠ some k := fun h =>
        hout (hentry _ h ▸ h)
      simp [handed, Server.handed, hother]
    | _ => rfl
  | _ => rfl

/-- What a step does to the server below. -/
theorem Step.below (h : Step s e s') {frames : List String}
    (hknown : Known s.server.sessions k id frames) :
    Known s'.server.sessions k id (frames ++ (s.handed k e).toList) ∧
      ∀ i, s'.server.storageSessions.lookup i = some k →
        s.server.storageSessions.lookup i = some k := by
  cases e with
  | server e =>
    obtain ⟨server, hstep, rfl⟩ := h.of_server
    refine ⟨hstep.known hknown, fun i hi => ?_⟩
    rcases hstep.lookup hi with hi | ⟨hnew, -⟩
    · exact hi
    · exact absurd hnew hknown.lt.ne
  | posted j =>
    simp only [Step, step] at h
    split at h
    · cases h
    · split at h <;> cases h
      exact ⟨by simpa [handed] using hknown, fun _ h => h⟩
  | written j frame ec =>
    simp only [Step, step] at h
    split at h
    · cases h
    · split at h <;> cases h
      exact ⟨by simpa [handed] using hknown, fun _ h => h⟩

/-- One step keeps what carries the run of a session. -/
theorem Serves.step (h : s.Serves k id events o) (hk : s.outputs[k]? = some o)
    (hstep : Step s e s') :
    ∃ o', s'.outputs[k]? = some o' ∧ s'.Serves k id (events ++ [e]) o' := by
  obtain ⟨o', hk', hqueue⟩ := hstep.output hk
  obtain ⟨hknown, hlookup⟩ := hstep.below h.known
  have hcalls : o'.calls = o.calls ++ (s.handed k e).toList := by
    rw [← called_queueEvent]
    exact WriteQueue.Queue.calls_stepOf hqueue
  have haddressed : addressed id (events ++ [e]) = addressed id events ++ (frameFor id e).toList := by
    rw [addressed, List.filterMap_append]
    cases hframe : frameFor id e <;> simp [addressed, hframe]
  have hsound : o'.queue.Sound (∃ e' ∈ events ++ [e], e'.FailsAt k) := by
    have hstep' := h.sound.stepOf hqueue
    rw [← failsAt_iff] at hstep'
    simpa [or_and_right, exists_or] using hstep'
  -- the frame of this step is handed to the session exactly while it is in the table
  have hframes : o'.calls <+: addressed id (events ++ [e]) ∧
      (s.server.storageSessions.lookup id = some k → o'.calls = addressed id (events ++ [e])) := by
    rw [hcalls, haddressed]
    by_cases hin : s.server.storageSessions.lookup id = some k
    · rw [handed_of_entered h.entry hin, h.entered hin]
      exact ⟨List.prefix_rfl, fun _ => rfl⟩
    · rw [handed_of_not_entered h.entry hin, Option.toList_none, List.append_nil]
      exact ⟨h.own.trans (List.prefix_append _ _), fun hin' => absurd hin' hin⟩
  exact ⟨o', hk', {
    known := hcalls ▸ hknown
    own := hframes.1
    entered := fun hin => hframes.2 (hlookup id hin)
    entry := fun i hi => h.entry i (hlookup i hi)
    sound := hsound }⟩

/-- The table names sessions that were accepted, and each of them has a write half. -/
structure Formed (s : Endpoint) : Prop where
  bounded (i : String) (j : ℕ) : s.server.storageSessions.lookup i = some j →
    j < s.server.sessions.length
  paired : s.outputs.length = s.server.sessions.length

theorem empty_formed : empty.Formed where
  bounded _ _ h := by cases h
  paired := rfl

theorem length_outputsAfter (s : Endpoint) (e : WsServer.Event) :
    (s.outputsAfter e).length = s.outputs.length + Server.accepts e := by
  cases e with
  | accepted reading => simp [outputsAfter, Server.accepts]
  | write ws =>
    simp only [outputsAfter]
    split <;> simp [Server.accepts]
  | _ => rfl

theorem Formed.step (h : s.Formed) (hstep : Step s e s') : s'.Formed := by
  cases e with
  | server e =>
    obtain ⟨server, hserver, rfl⟩ := hstep.of_server
    refine ⟨fun i j hi => ?_, ?_⟩
    · rw [hserver.length]
      rcases hserver.lookup hi with hi | ⟨rfl, reading, rfl, -⟩
      · exact Nat.lt_add_right _ (h.bounded i j hi)
      · exact Nat.lt_succ_self _
    · rw [length_outputsAfter, hserver.length, h.paired]
  | posted k =>
    simp only [Step, step] at hstep
    split at hstep
    · cases hstep
    · split at hstep <;> cases hstep
      exact ⟨h.bounded, by simpa using h.paired⟩
  | written k frame ec =>
    simp only [Step, step] at hstep
    split at hstep
    · cases hstep
    · split at hstep <;> cases hstep
      exact ⟨h.bounded, by simpa using h.paired⟩

theorem formed_of_trace (h : Lts.Trace Step empty events s) : s.Formed :=
  h.invariant (fun _ s => s.Formed) empty_formed fun _ _ _ _ hs hstep => hs.step hstep

/-- A session that was just accepted. -/
theorem Formed.accepted (h : s.Formed) {reading : ℕ}
    (hstep : Step s (.server (.accepted reading)) s') :
    s'.outputs[s.server.sessions.length]? = some .fresh ∧
      s'.Serves s.server.sessions.length (toString reading) [] .fresh := by
  obtain ⟨server, hserver, rfl⟩ := hstep.of_server
  have hpushed : Known (s.server.sessions ++ [.fresh (toString reading)]) s.server.sessions.length
      (toString reading) [] := ⟨.fresh (toString reading), by simp, rfl, rfl⟩
  refine ⟨by simp [outputsAfter, ← h.paired], {
    known := ?_
    own := List.nil_prefix
    entered := fun _ => rfl
    entry := fun i hi => ?_
    sound := WriteQueue.Queue.empty_sound (by simp) }⟩
  · cases hserver
    exact hpushed.modify (fun _ => rfl) fun _ => rfl
  · -- it had not been in the table before
    rcases hserver.lookup hi with hi | ⟨-, reading', heq, hi⟩
    · exact absurd (h.bounded i _ hi) (lt_irrefl _)
    · cases heq
      exact hi

/-- In every run of the server, whatever else happens to it: a session is given the
frames addressed to its id from its accept on, and all of them while it is in the
table. They leave over its connection in this order, one at a time, and until a write
of this session fails something is on its way while frames wait; where none has failed
and nothing is on its way, all have left. After a failed write nothing more leaves. -/
theorem session_delivers {before after : List Event} {s₁ s₂ s : Endpoint} {reading : ℕ}
    (hbefore : Lts.Trace Step empty before s₁) (haccept : Step s₁ (.server (.accepted reading)) s₂)
    (hafter : Lts.Trace Step s₂ after s) :
    ∃ o, s.outputs[s₁.server.sessions.length]? = some o ∧
      s.Delivers s₁.server.sessions.length (toString reading) after o := by
  have hserves := hafter.invariant
    (fun events s => ∃ o, s.outputs[s₁.server.sessions.length]? = some o ∧
      s.Serves s₁.server.sessions.length (toString reading) events o)
    ⟨.fresh, (formed_of_trace hbefore).accepted haccept⟩
    fun _ _ _ _ ⟨o, hk, hs⟩ hstep => hs.step hk hstep
  obtain ⟨o, hk, hs⟩ := hserves
  exact ⟨o, hk, hs.delivers hk⟩

/-- Two frames for a session, written one after the other, and one for nobody. -/
def twoFrames : List Event :=
  [.server (.write ⟨"7", "status"⟩), .server (.write ⟨"8", "list"⟩), .posted 0,
    .server (.write ⟨"7", "info"⟩), .posted 0, .written 0 "status" none, .written 0 "info" none]

/-- The session is being accepted all the while. -/
def twoFramesServer : Endpoint where
  server :=
    { storageSessions := (∅ : StringMap ℕ).emplace "7" 0
      sessions := [{ id := "7", isRun := true, inFlight := [.accept], frames := ["status", "info"] }]
      mail := [] }
  outputs := [⟨[], [], [], ["status", "info"], ["status", "info"]⟩]

theorem session_delivers_two :
    ∃ o, twoFramesServer.outputs[0]? = some o ∧ o.left = addressed "7" twoFrames := by
  have hafter : Lts.Trace Step ⟨Server.empty.onAccept 7, [.fresh]⟩ twoFrames twoFramesServer :=
    .cons rfl (.cons rfl (.cons rfl (.cons rfl (.cons rfl (.cons rfl (.cons rfl .nil))))))
  obtain ⟨o, ho, hdelivers⟩ := session_delivers (.nil : Lts.Trace Step empty [] empty) rfl hafter
  obtain rfl : _ = o := Option.some.inj ho
  refine ⟨_, rfl, (hdelivers.arrives ?_ rfl rfl).trans (hdelivers.entered rfl)⟩
  simp [twoFrames, Event.FailsAt]

end Endpoint

end StreamCloud.WsServer
