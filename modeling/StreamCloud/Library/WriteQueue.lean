-- SUMMARY: A queue of frames in front of a writer, whose emptiness tells whether a write is in progress.
import StreamCloud.Library.Trace

/-!
# Write queues

Frames wait in a queue while the first of them is being written. There is no
other flag: a frame that is put into an empty queue is written at once, and one
that is put behind others waits for them. A write that fails leaves its frame in
the queue, and from then on nothing is written any more.
-/

namespace WriteQueue

/-- `posted` are the frames on their way into the queue, `writing` those of the
writes in progress. `calls` and `left` are the history: the frames that were
handed in, and those whose write was started. -/
structure Queue (μ : Type*) where
  que : List μ
  posted : List μ
  writing : List μ
  calls : List μ
  left : List μ

inductive Event (μ : Type*)
  | call (m : μ)
  | posted
  | written (m : μ)
  | failed (m : μ)

def Event.Fails {μ : Type*} : Event μ → Prop
  | .failed _ => True
  | _ => False

/-- The frame that is handed in. -/
def Event.called {μ : Type*} : Event μ → Option μ
  | .call m => some m
  | _ => none

variable {μ : Type*}

namespace Queue

def empty : Queue μ := ⟨[], [], [], [], []⟩

/-- The front of the queue is written. -/
def writeFront (q : Queue μ) : Queue μ :=
  { q with writing := q.writing ++ q.que.head?.toList, left := q.left ++ q.que.head?.toList }

inductive Step [DecidableEq μ] : Queue μ → Event μ → Queue μ → Prop
  | call (q : Queue μ) (m : μ) :
      Step q (.call m) { q with posted := q.posted ++ [m], calls := q.calls ++ [m] }
  | first {q : Queue μ} {m : μ} {posted : List μ} : q.posted = m :: posted → q.que = [] →
      Step q .posted { q with que := [m], posted }.writeFront
  | behind {q : Queue μ} {m : μ} {posted : List μ} : q.posted = m :: posted → q.que ≠ [] →
      Step q .posted { q with que := q.que ++ [m], posted }
  | written {q : Queue μ} {m : μ} : m ∈ q.writing →
      Step q (.written m) { q with que := q.que.tail, writing := q.writing.erase m }.writeFront
  | failed {q : Queue μ} {m : μ} : m ∈ q.writing →
      Step q (.failed m) { q with writing := q.writing.erase m }

/-- The queue is nonempty exactly while one frame is written, never more than one
is, and frames are written in the order in which they were handed in. -/
structure Flows (q : Queue μ) : Prop where
  outstanding : q.que ≠ [] ↔ ∃ m, q.writing = [m]
  single : q.writing.length ≤ 1
  order : q.left <+: q.calls

/-- The front of the queue is what is written, and what was handed in is what has
been written, what waits and what is on its way into the queue. -/
structure Flowing (q : Queue μ) : Prop where
  front : q.writing = q.que.head?.toList
  history : ∃ done, q.left = done ++ q.que.head?.toList ∧ q.calls = done ++ q.que ++ q.posted

/-- Frames wait, and nothing is written. -/
structure Stuck (q : Queue μ) : Prop where
  waits : q.que ≠ []
  idle : q.writing = []

theorem empty_flowing : (empty : Queue μ).Flowing := ⟨rfl, [], rfl, rfl⟩

theorem Flowing.flows {q : Queue μ} (h : q.Flowing) : q.Flows := by
  obtain ⟨done, hleft, hcalls⟩ := h.history
  refine ⟨?_, ?_, ?_⟩
  · rw [h.front]
    cases q.que <;> simp
  · rw [h.front]
    cases q.que <;> simp
  · rw [hleft, hcalls, List.append_assoc, List.prefix_append_right_inj]
    cases q.que <;> simp

theorem Stuck.not_flows {q : Queue μ} (h : q.Stuck) : ¬ q.Flows := by
  intro hflows
  obtain ⟨m, hm⟩ := hflows.outstanding.mp h.waits
  rw [h.idle] at hm
  cases hm

/-- Everything is in order as long as no write has failed, and the queue is stuck
as soon as one has, behind what was in order. -/
def Sound (failed : Prop) (q : Queue μ) : Prop :=
  ¬ failed ∧ q.Flowing ∨ failed ∧ q.Stuck ∧ q.left <+: q.calls

theorem empty_sound {failed : Prop} (h : ¬ failed) : (empty : Queue μ).Sound failed :=
  .inl ⟨h, empty_flowing⟩

theorem Sound.flows_iff {failed : Prop} {q : Queue μ} (h : q.Sound failed) : q.Flows ↔ ¬ failed := by
  rcases h with ⟨hok, hflowing⟩ | ⟨hfailed, hstuck, -⟩
  · exact iff_of_true hflowing.flows hok
  · exact iff_of_false hstuck.not_flows fun hok => hok hfailed

theorem Sound.order {failed : Prop} {q : Queue μ} (h : q.Sound failed) : q.left <+: q.calls := by
  rcases h with ⟨-, hflowing⟩ | ⟨-, -, horder⟩
  · exact hflowing.flows.order
  · exact horder

theorem Sound.single {failed : Prop} {q : Queue μ} (h : q.Sound failed) : q.writing.length ≤ 1 := by
  rcases h with ⟨-, hflowing⟩ | ⟨-, hstuck, -⟩
  · exact hflowing.flows.single
  · simp [hstuck.idle]

theorem Sound.stuck {failed : Prop} {q : Queue μ} (h : q.Sound failed) (hfailed : failed) : q.Stuck := by
  rcases h with ⟨hok, -⟩ | ⟨-, hstuck, -⟩
  · exact absurd hfailed hok
  · exact hstuck

/-- Where nothing is on its way and no write has failed, all that was handed in has
been written. -/
theorem Sound.arrives {failed : Prop} {q : Queue μ} (h : q.Sound failed) (hok : ¬ failed)
    (hposted : q.posted = []) (hwriting : q.writing = []) : q.left = q.calls := by
  rcases h with ⟨-, hflowing⟩ | ⟨hfailed, -⟩
  · obtain ⟨done, hleft, hcalls⟩ := hflowing.history
    have hque : q.que = [] := List.head?_eq_none_iff.mp (by simpa [hflowing.front] using hwriting)
    simp [hleft, hcalls, hque, hposted]
  · exact absurd hfailed hok

variable [DecidableEq μ] {q q' : Queue μ} {e : Event μ}

/-- A step that does not fail keeps the queue flowing. -/
theorem Flowing.step (h : q.Flowing) (hstep : Step q e q') (hok : ¬ e.Fails) : q'.Flowing := by
  obtain ⟨done, hleft, hcalls⟩ := h.history
  cases hstep with
  | call m => exact ⟨h.front, done, hleft, by simp [hcalls]⟩
  | first hposted hque =>
    have hwriting : q.writing = [] := by rw [h.front, hque]; rfl
    refine ⟨by simp [writeFront, hwriting], done, ?_, ?_⟩
    · simp [writeFront, hleft, hque]
    · simp [writeFront, hcalls, hque, hposted]
  | @behind m posted hposted hque =>
    obtain ⟨front, rest, hcons⟩ := List.exists_cons_of_ne_nil hque
    refine ⟨by simp [h.front, hcons], done, ?_, ?_⟩
    · simp [hleft, hcons]
    · simp [hcalls, hposted]
  | @written m hm =>
    -- the front of the queue is the frame that was written
    rw [h.front] at hm
    cases hcons : q.que with
    | nil => simp [hcons] at hm
    | cons front rest =>
      obtain rfl : m = front := by simpa [hcons] using hm
      have hwriting : q.writing.erase m = [] := by simp [h.front, hcons]
      refine ⟨by simp [writeFront, hwriting], done ++ [m], ?_, ?_⟩
      · simp [writeFront, hleft, hcons]
      · simp [writeFront, hcalls, hcons]
  | failed => exact (hok trivial).elim

/-- A write that fails leaves the queue stuck. -/
theorem Flowing.stuck (h : q.Flowing) (hstep : Step q e q') (hfails : e.Fails) : q'.Stuck := by
  cases hstep with
  | @failed m hm =>
    rw [h.front] at hm
    cases hcons : q.que with
    | nil => simp [hcons] at hm
    | cons front rest =>
      obtain rfl : m = front := by simpa [hcons] using hm
      exact ⟨by simp, by simp [h.front, hcons]⟩
  | _ => exact hfails.elim

/-- Nothing ends this. -/
theorem Stuck.step (h : q.Stuck) (hstep : Step q e q') : q'.Stuck ∧ q'.left = q.left := by
  cases hstep with
  | call m => exact ⟨⟨h.waits, h.idle⟩, rfl⟩
  | first _ hque => exact (h.waits hque).elim
  | behind => exact ⟨⟨by simp, h.idle⟩, rfl⟩
  | written hm => simp [h.idle] at hm
  | failed hm => simp [h.idle] at hm

theorem Step.calls (h : Step q e q') : q'.calls = q.calls ++ e.called.toList := by
  cases h with
  | call m => rfl
  | _ => exact (List.append_nil _).symm

theorem Step.left_of_fails (h : Step q e q') (hfails : e.Fails) : q'.left = q.left := by
  cases h with
  | failed => rfl
  | _ => exact hfails.elim

theorem Sound.step {failed : Prop} (h : q.Sound failed) (hstep : Step q e q') :
    q'.Sound (failed ∨ e.Fails) := by
  rcases h with ⟨hok, hflowing⟩ | ⟨hfailed, hstuck, horder⟩
  · by_cases hfails : e.Fails
    · have horder : q'.left <+: q'.calls := by
        rw [hstep.left_of_fails hfails, hstep.calls]
        exact hflowing.flows.order.trans (List.prefix_append _ _)
      exact .inr ⟨.inr hfails, hflowing.stuck hstep hfails, horder⟩
    · exact .inl ⟨by simp [hok, hfails], hflowing.step hstep hfails⟩
  · -- nothing leaves any more
    obtain ⟨hstuck', hleft⟩ := hstuck.step hstep
    refine .inr ⟨.inl hfailed, hstuck', ?_⟩
    rw [hleft, hstep.calls]
    exact horder.trans (List.prefix_append _ _)

/-! ### A system that takes steps of the queue, or others -/

theorem calls_stepOf {label : Option (Event μ)} (h : Lts.StepOf Step label q q') :
    q'.calls = q.calls ++ (label.bind Event.called).toList := by
  cases label with
  | none => simpa using congrArg Queue.calls h
  | some e => exact Step.calls h

theorem Sound.stepOf {failed : Prop} {label : Option (Event μ)} (h : q.Sound failed)
    (hstep : Lts.StepOf Step label q q') :
    q'.Sound (failed ∨ ∃ e, label = some e ∧ e.Fails) := by
  cases label with
  | none =>
    obtain rfl : q' = q := hstep
    simpa using h
  | some e => simpa using h.step hstep

theorem Stuck.stepOf {label : Option (Event μ)} (h : q.Stuck) (hstep : Lts.StepOf Step label q q') :
    q'.Stuck ∧ q'.left = q.left := by
  cases label with
  | none =>
    obtain rfl : q' = q := hstep
    exact ⟨h, rfl⟩
  | some e => exact h.step hstep

/-! ### Runs -/

/-- In every run from the empty queue, everything is in order as long as no write
fails, and the queue is stuck as soon as one has failed. -/
theorem sound_of_trace {events : List (Event μ)} (h : Lts.Trace Step empty events q) :
    q.Sound (∃ e ∈ events, e.Fails) := by
  refine h.invariant (fun events q => q.Sound (∃ e ∈ events, e.Fails)) (empty_sound (by simp)) ?_
  intro events q e q' hsound hstep
  have hnext := hsound.step hstep
  simpa [or_and_right, exists_or] using hnext

theorem flows_iff {events : List (Event μ)} (h : Lts.Trace Step empty events q) :
    q.Flows ↔ ∀ e ∈ events, ¬ e.Fails := by
  rw [(sound_of_trace h).flows_iff]
  simp

end Queue

end WriteQueue
