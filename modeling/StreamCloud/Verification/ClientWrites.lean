-- SUMMARY: The websocket client writes its frames in order, until a write fails.
import StreamCloud.Providers.ClientSession
import StreamCloud.Library.WriteQueue

/-!
# The frames of the websocket client

The queue of a session is a write queue, whatever else happens to the session:
connections are lost and made again under it.
-/

namespace StreamCloud.WsClient.Loop

/-- The write queue of a session. -/
def queue (l : Loop) : WriteQueue.Queue String where
  que := l.session.que
  posted := l.posted
  writing := l.writes
  calls := l.calls
  left := l.left

/-- What an event does to the write queue. -/
def queueEvent : Event → Option (WriteQueue.Event String)
  | .write frame => some (.call frame)
  | .posted => some .posted
  | .completed (.write frame) (.ok _) => some (.written frame)
  | .completed (.write frame) (.error _) => some (.failed frame)
  | _ => none

/-- A write completes with an error. -/
def failedWrite : Event → Bool
  | .completed (.write _) (.error _) => true
  | _ => false

theorem failedWrite_iff {e : Event} :
    failedWrite e ↔ ∃ e', queueEvent e = some e' ∧ e'.Fails := by
  unfold failedWrite
  split
  · simp [queueEvent, WriteQueue.Event.Fails]
  · next hne =>
    simp only [Bool.false_eq_true, false_iff, not_exists, not_and]
    intro e' he' hfails
    unfold queueEvent at he'
    split at he' <;> cases he'
    · exact hfails
    · exact hfails
    · exact hfails
    · exact hne _ _ rfl

/-! ## Operations in flight -/

section Writes

variable {ops : List Operation} {op : Operation} {frame : String}

theorem frame?_eq_some : op.frame? = some frame ↔ op = .write frame := by
  cases op <;> simp [Operation.frame?]

/-- An operation that is no write is not among the writes. -/
theorem writes_erase_of_none (h : op.frame? = none) :
    (ops.erase op).filterMap Operation.frame? = ops.filterMap Operation.frame? := by
  induction ops with
  | nil => rfl
  | cons op' ops ih =>
    by_cases heq : op' = op
    · subst heq
      rw [List.erase_cons_head, List.filterMap_cons, h]
    · rw [List.erase_cons_tail (by simpa using heq), List.filterMap_cons, List.filterMap_cons, ih]

theorem writes_erase_write :
    (ops.erase (.write frame)).filterMap Operation.frame? =
      (ops.filterMap Operation.frame?).erase frame := by
  induction ops with
  | nil => rfl
  | cons op ops ih =>
    by_cases heq : op = .write frame
    · subst heq
      rw [List.erase_cons_head]
      simp [Operation.frame?]
    · rw [List.erase_cons_tail (by simpa using heq), List.filterMap_cons, List.filterMap_cons, ih]
      cases hframe : op.frame? with
      | none => rfl
      | some frame' =>
        have hne : frame' ≠ frame := fun h => heq (frame?_eq_some.mp (hframe.trans (h ▸ rfl)))
        exact (List.erase_cons_tail (by simpa using hne)).symm

theorem mem_writes : frame ∈ ops.filterMap Operation.frame? ↔ .write frame ∈ ops := by
  simp only [List.mem_filterMap, frame?_eq_some, exists_eq_right]

end Writes

/-! ## The session simulates a write queue -/

variable {l l' : Loop}

/-- `async_write` of the front of the queue is the start of its write. -/
theorem queue_writeFront {s : Session} :
    (l.after (s, s.writeFront)).queue = ({ l with session := s }.queue).writeFront := by
  obtain ⟨id, host, port, que⟩ := s
  cases que <;>
    simp [after, Session.writeFront, perform, queue, writes, WriteQueue.Queue.writeFront,
      Operation.frame?]

/-- Every step is one of the write queue, or leaves it alone. -/
theorem queue_step {e : Event} (h : l.Step e l') :
    Lts.StepOf WriteQueue.Queue.Step (queueEvent e) l.queue l'.queue := by
  obtain ⟨effects, h⟩ := h
  obtain ⟨⟨l₁, r⟩, hcall, hr⟩ := Option.map_eq_some_iff.mp h
  obtain ⟨rfl, rfl⟩ := Prod.mk.inj hr
  cases e with
  | run host port =>
    cases hcall
    simp [queueEvent, Lts.StepOf, after, Session.run, perform, queue, writes, Operation.frame?]
  | write frame =>
    cases hcall
    exact .call l.queue frame
  | close =>
    cases hcall
    rfl
  | posted =>
    simp only [call] at hcall
    cases hposted : l.posted with
    | nil => simp [hposted] at hcall
    | cons frame posted =>
      rw [hposted] at hcall
      cases hcall
      by_cases hque : l.session.que = []
      · have hr : l.session.runPosted frame = ({ l.session with que := [frame] },
            Session.writeFront { l.session with que := [frame] }) := by
          simp [Session.runPosted, hque]
        rw [hr, queue_writeFront]
        exact .first hposted hque
      · have hr : l.session.runPosted frame =
            ({ l.session with que := l.session.que ++ [frame] }, []) := by
          simp [Session.runPosted, hque]
        rw [hr]
        exact .behind hposted hque
  | completed op r =>
    simp only [call] at hcall
    split at hcall
    · next hmem =>
      cases hcall
      have herase (hnone : op.frame? = none) : (l.inFlight.erase op).filterMap Operation.frame? =
          l.inFlight.filterMap Operation.frame? := writes_erase_of_none hnone
      cases op with
      | write frame =>
        have hwriting : frame ∈ l.queue.writing := mem_writes.mpr hmem
        cases r with
        | error ec =>
          have hstep := WriteQueue.Queue.Step.failed hwriting
          simpa [queueEvent, Lts.StepOf, after, Session.complete, errorCode, Session.onWrite,
            Session.fail, queue, writes, writes_erase_write] using hstep
        | ok body =>
          have hstep := WriteQueue.Queue.Step.written hwriting
          show WriteQueue.Queue.Step _ _ _
          simp only [Session.complete, errorCode, Session.onWrite]
          rw [queue_writeFront]
          simpa [queue, writes, writes_erase_write] using hstep
      | _ =>
        cases r <;>
          simp [queueEvent, Lts.StepOf, after, Session.complete, errorCode, Session.onResolve,
            Session.onConnect, Session.onHandshake, Session.onRead, Session.fail, Session.report,
            perform, queue, writes, herase rfl, Operation.frame?]
    · cases hcall

/-- The run of a session is a run of its write queue. -/
theorem queue_trace {id : String} {events : List Event} (h : Lts.Trace Step (idle id) events l) :
    Lts.Trace WriteQueue.Queue.Step .empty (events.filterMap queueEvent) l.queue := by
  obtain ⟨t, htrace, rfl⟩ := h.simulates (fun l t => t = l.queue) queueEvent
    (rfl : WriteQueue.Queue.empty = (idle id).queue)
    (fun l e l' t ht hstep => ⟨_, ht ▸ queue_step hstep, rfl⟩)
  exact htrace

/-- In every run, whatever is called and completes in which order: while no write
has failed, the queue is nonempty exactly while one `async_write` is outstanding,
and frames leave in the order of the calls. Once a write has failed, this is over. -/
theorem flows_iff_no_failedWrite {id : String} {events : List Event}
    (h : Lts.Trace Step (idle id) events l) :
    l.queue.Flows ↔ ∀ e ∈ events, ¬ failedWrite e := by
  rw [WriteQueue.Queue.flows_iff (queue_trace h)]
  simp only [List.mem_filterMap, failedWrite_iff, forall_exists_index, and_imp, not_exists, not_and]
  exact ⟨fun hok e he e' he' => hok e' e he he', fun hok e' e he he' => hok e he e' he'⟩

/-- A connection over which a frame is written, and what is written behind it. -/
def connected : List Event :=
  [.run "localhost" "80", .completed (.resolve "localhost" "80") (.ok ""),
    .completed .connect (.ok ""), .completed (.handshake "localhost") (.ok ""),
    .write "status", .posted]

def connectedLoop : Loop := ((idle "1").steps connected).getD (idle "1")

theorem flows_iff_no_failedWrite_connected :
    connectedLoop.queue.Flows ∧ connectedLoop.writes = ["status"] :=
  ⟨(flows_iff_no_failedWrite (trace_of_steps
    (rfl : (idle "1").steps connected = some connectedLoop))).mpr (by decide), rfl⟩

/-- The write fails, and the connection is made again. -/
def reconnected : List Event :=
  connected ++ [.completed (.write "status") (.error .connectionReset),
    .completed .read (.error .connectionReset), .run "localhost" "80",
    .completed (.resolve "localhost" "80") (.ok ""), .completed .connect (.ok ""),
    .completed (.handshake "localhost") (.ok ""), .write "managers.connect", .posted]

def reconnectedLoop : Loop := ((idle "1").steps reconnected).getD (idle "1")

/-- After a write that failed, what is written over the next connection does not leave. -/
theorem reconnected_stuck :
    (¬ ∀ id events l, Lts.Trace Step (idle id) events l → l.isOpen → l.queue.Flows) ∧
      reconnectedLoop.isOpen ∧ reconnectedLoop.posted = [] ∧
      reconnectedLoop.calls = ["status", "managers.connect"] ∧
      reconnectedLoop.left = ["status"] := by
  refine ⟨fun h => ?_, rfl, rfl, rfl, rfl⟩
  have hrun : (idle "1").steps reconnected = some reconnectedLoop := rfl
  obtain ⟨frame, hframe⟩ :=
    (h "1" reconnected reconnectedLoop (trace_of_steps hrun) rfl).outstanding.mp (by decide)
  cases hframe

end StreamCloud.WsClient.Loop
