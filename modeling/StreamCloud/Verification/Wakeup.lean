-- SUMMARY: With one worker no message is forgotten, and without new messages all jobs come to an end.
import StreamCloud.Verification.Mailbox
import Mathlib.Algebra.Order.BigOperators.Group.List
import Mathlib.Algebra.Order.Group.Nat
import Mathlib.Algebra.Order.Ring.Nat
import Mathlib.Data.Prod.Lex

/-!
# Wake-ups

Every message that is put brings a job for its actor with it. A run that takes a
job away hands over a message at least, if there is one, and it may leave its
messages behind without a job of its own: there are as many jobs as messages
still. The invariant counts both.
-/

namespace StreamCloud

variable {α μ : Type}

/-! ## What a run owes -/

namespace RunState

/-- The job that a run has taken and not yet paid for with a message. -/
def debt : RunState μ → ℕ
  | .handling 0 | .popped 0 _ | .fetched 0 (some _) => 1
  | _ => 0

variable {maxThroughput : ℕ} {q : BlockingMailQueue μ} {pc : RunState μ}

/-- What `run` gives back. -/
theorem result_of_advance {result : ExecutableResult} (hpc : ∀ result, pc ≠ .returned result)
    (h : (pc.advance maxThroughput q).2.1 = .returned result) :
    result = .awaiting ∨ result = .resume := by
  match pc with
  | .handling n =>
    by_cases hn : n < maxThroughput
    · rw [advance_handling_of_lt hn] at h
      cases h
    · rw [advance_handling_of_not_lt hn] at h
      cases h
  | .popped _ none => cases h
  | .popped _ (some _) => cases h
  | .fetched _ none => cases h; exact .inl rfl
  | .fetched _ (some _) => cases h
  | .draining => cases h
  | .drained none => cases h
  | .drained (some _) => cases h
  | .checked msgPtr =>
    cases msgPtr with
    | none => cases h; exact .inr rfl
    | some m => cases h; exact .inl rfl
  | .returned result => exact absurd rfl (hpc result)

theorem debt_le_one : pc.debt ≤ 1 := by
  unfold debt
  split <;> simp

/-- The step lemma: a run pays for its job, or there is nothing left to hand over. -/
theorem debt_advance (hmax : 0 < maxThroughput) (h : pc.Sound q) :
    ((pc.advance maxThroughput q).2.1.undelivered (pc.advance maxThroughput q).2.2).length + pc.debt ≤
        (pc.undelivered q).length + (pc.advance maxThroughput q).2.1.debt ∨
      (pc.advance maxThroughput q).2.1.undelivered (pc.advance maxThroughput q).2.2 = [] := by
  have hundelivered : pc.undelivered q = (pc.advance maxThroughput q).1.toList ++
      (pc.advance maxThroughput q).2.1.undelivered (pc.advance maxThroughput q).2.2 :=
    undelivered_advance h
  have hlength := congrArg List.length hundelivered
  rw [List.length_append] at hlength
  have hdebt := pc.debt_le_one
  cases hexecuted : (pc.advance maxThroughput q).1 with
  | some m =>
    rw [hexecuted] at hlength
    simp only [Option.toList_some, List.length_singleton] at hlength
    exact .inl (by omega)
  | none =>
    rw [hexecuted] at hlength
    simp only [Option.toList_none, List.length_nil, Nat.zero_add] at hlength
    rw [hlength]
    match pc, h with
    | .handling n, _ =>
      by_cases hn : n < maxThroughput
      · rw [advance_handling_of_lt hn]
        cases n <;> exact .inl le_rfl
      · cases n with
        | zero => exact absurd hmax hn
        | succ n => exact .inl (Nat.le_add_right _ _)
    | .popped n none, h =>
      cases hget : q.get.1 with
      | none =>
        refine .inr ?_
        show q.get.1.toList ++ (q.get.2.cache ++ q.get.2.incoming) = []
        rw [hget, BlockingMailQueue.cache_get, (BlockingMailQueue.incoming_of_get_none hget).2]
        have hcache : q.cache = [] := h
        simpa using hcache
      | some m =>
        have hsame : ((popped n none).advance maxThroughput q).2.1.debt =
            (popped n (none : Option μ)).debt := by
          show (fetched n q.get.1).debt = _
          rw [hget]
          cases n <;> rfl
        rw [hsame]
        exact .inl le_rfl
    | .popped _ (some _), _ => cases hexecuted
    | .fetched _ (some _), _ => cases hexecuted
    | .fetched _ none, _ => exact .inl (by simp [debt])
    | .draining, _ => exact .inl (Nat.le_add_right _ _)
    | .drained (some _), _ => exact .inl (Nat.le_add_right _ _)
    | .drained none, _ => exact .inl (Nat.le_add_right _ _)
    | .checked _, _ => exact .inl (Nat.le_add_right _ _)
    | .returned _, _ => exact .inl (Nat.le_add_right _ _)

end RunState

namespace Executor

variable [DecidableEq α] {maxThroughput : ℕ} {s s' : Executor α μ 1} {a : α}

/-- The messages of an actor that were not handed to a handler. -/
def undelivered (s : Executor α μ 1) (a : α) : List μ :=
  match s.workers 0 with
  | .running b pc => if b = a then pc.undelivered (s.mailbox a) else (s.mailbox a).pending
  | _ => (s.mailbox a).pending

/-- The actor that the worker runs. -/
def running (s : Executor α μ 1) : List α :=
  match s.workers 0 with
  | .running a _ => [a]
  | _ => []

/-- The job that the worker owes to an actor. -/
def debt (s : Executor α μ 1) (a : α) : ℕ :=
  match s.workers 0 with
  | .running b pc => if b = a then pc.debt else 0
  | _ => 0

/-- The worker's thread has not ended, and no run asks for that. -/
structure WorkerLive (s : Executor α μ 1) : Prop where
  not_stopped : s.workers 0 ≠ .stopped
  result : ∀ a result, s.workers 0 = .running a (.returned result) →
    result = .awaiting ∨ result = .resume

/-- For every actor there are as many jobs as undelivered messages. -/
structure Covered (s : Executor α μ 1) : Prop where
  holds : ∀ a, s.Holds a (s.undelivered a)
  live : s.WorkerLive
  jobs : ∀ a, (s.undelivered a).length ≤ s.queue.count a + s.submitting.count a + s.debt a

section Worker

variable {b : α} {pc : RunState μ}

theorem undelivered_of_running (h : s.workers 0 = .running b pc) (a : α) :
    s.undelivered a = if b = a then pc.undelivered (s.mailbox a) else (s.mailbox a).pending := by
  rw [undelivered, h]

theorem undelivered_of_waiting (h : s.workers 0 = .waiting) (a : α) :
    s.undelivered a = (s.mailbox a).pending := by
  rw [undelivered, h]

theorem debt_of_running (h : s.workers 0 = .running b pc) (a : α) :
    s.debt a = if b = a then pc.debt else 0 := by
  rw [debt, h]

theorem debt_of_waiting (h : s.workers 0 = .waiting) (a : α) : s.debt a = 0 := by
  rw [debt, h]

omit [DecidableEq α] in
theorem running_of_running (h : s.workers 0 = .running b pc) : s.running = [b] := by
  rw [running, h]

end Worker

/-- What is held is what is undelivered. -/
theorem Holds.eq_undelivered {q : List μ} (h : s.Holds a q) : q = s.undelivered a := by
  have hidle (hnot : ∀ pc, s.workers 0 ≠ .running a pc) : q = (s.mailbox a).pending := by
    refine h.idle fun i ⟨pc, hi⟩ => hnot pc ?_
    rwa [Subsingleton.elim i 0] at hi
  -- the one worker runs this actor, or nobody does
  cases hw : s.workers 0 with
  | running b pc =>
    rw [undelivered_of_running hw]
    split
    · next hb => subst hb; exact (h.running 0 pc hw).2
    · next hb =>
      refine hidle fun pc' hi => hb ?_
      rw [hw] at hi
      cases hi
      rfl
  | waiting =>
    rw [undelivered_of_waiting hw]
    exact hidle fun pc hi => by rw [hw] at hi; cases hi
  | stopped =>
    rw [undelivered, hw]
    exact hidle fun pc hi => by rw [hw] at hi; cases hi

/-- A step does to the undelivered messages what its event does to a FIFO queue. -/
theorem Covered.holds_step {e : Event α μ 1} (h : s.Covered) (hstep : Step maxThroughput s e s')
    (a : α) :
    Lts.StepOf Fifo.Step (fifoEvent a e) (s.undelivered a) (s'.undelivered a) ∧
      s'.Holds a (s'.undelivered a) := by
  obtain ⟨q, hfifo, hholds⟩ := (h.holds a).step ⟨hstep, fun i j _ _ => Subsingleton.elim i j⟩
  obtain rfl := hholds.eq_undelivered
  exact ⟨hfifo, hholds⟩

theorem Covered.live_step {e : Event α μ 1} (h : s.Covered) (hstep : Step maxThroughput s e s') :
    s'.WorkerLive := by
  have hlive := h.live
  cases hstep with
  | put => exact ⟨hlive.not_stopped, hlive.result⟩
  | submit => exact ⟨hlive.not_stopped, hlive.result⟩
  | @dequeue i b rest hwaiting hqueue =>
    obtain rfl := Subsingleton.elim i 0
    exact ⟨by simp, by simp⟩
  | @advance i b pc hi hreturned =>
    obtain rfl := Subsingleton.elim i 0
    refine ⟨by simp, fun a result hresult => ?_⟩
    simp only [Function.update_self, Worker.running.injEq] at hresult
    exact RunState.result_of_advance hreturned hresult.2
  | @finish i b result hi =>
    obtain rfl := Subsingleton.elim i 0
    rcases hlive.result b result hi with rfl | rfl <;> exact ⟨by simp, by simp⟩

/-- The step lemma: messages and jobs are counted. -/
theorem Covered.jobs_step (hmax : 0 < maxThroughput) {e : Event α μ 1} (h : s.Covered)
    (hstep : Step maxThroughput s e s') (a : α) :
    (s'.undelivered a).length ≤ s'.queue.count a + s'.submitting.count a + s'.debt a := by
  have hjobs := h.jobs a
  obtain ⟨hfifo, -⟩ := h.holds_step hstep a
  cases hstep with
  | put b m =>
    change _ ≤ s.queue.count a + (s.submitting ++ [b]).count a + s.debt a
    rw [List.count_append, List.count_singleton]
    by_cases hb : b = a
    · -- the sender will submit a job for the message
      simp only [fifoEvent, if_pos hb] at hfifo
      rw [hfifo.eq_of_put, List.length_append, if_pos (beq_iff_eq.mpr hb), List.length_singleton]
      omega
    · simp only [fifoEvent, if_neg hb] at hfifo
      rw [hfifo]
      omega
  | @submit b p q hsubmitting =>
    change (s.undelivered a).length ≤ (s.queue ++ [b]).count a + (p ++ q).count a + s.debt a
    rw [hsubmitting] at hjobs
    simp only [List.count_append, List.count_cons, List.count_nil] at hjobs ⊢
    omega
  | @dequeue i b rest hwaiting hqueue =>
    obtain rfl := Subsingleton.elim i 0
    rw [hfifo]
    rw [hqueue, List.count_cons, debt_of_waiting hwaiting] at hjobs
    simp only [beq_iff_eq] at hjobs
    -- the job that is taken becomes the debt of the run
    simp only [debt, Function.update_self, RunState.debt]
    omega
  | @advance i b pc hi hreturned =>
    obtain rfl := Subsingleton.elim i 0
    by_cases hb : b = a
    -- what the run gets rid of it takes off its debt, or the actor has nothing left
    · subst hb
      have hpay := RunState.debt_advance hmax ((h.holds b).running 0 pc hi).1
      rw [undelivered_of_running hi, debt_of_running hi, if_pos rfl, if_pos rfl] at hjobs
      simp only [undelivered, debt, Function.update_self, if_true]
      rcases hpay with hpay | hpay
      · omega
      · simp [hpay]
    · simp only [fifoEvent, if_neg hb] at hfifo
      rw [hfifo]
      rw [debt_of_running hi, if_neg hb] at hjobs
      simpa only [debt, Function.update_self, if_neg hb] using hjobs
  | @finish i b result hi =>
    obtain rfl := Subsingleton.elim i 0
    rw [hfifo]
    rw [debt_of_running hi] at hjobs
    -- a run that has returned owes nothing
    have hdebt : (if b = a then (RunState.returned result : RunState μ).debt else 0) = 0 := by
      split <;> rfl
    have hqueue : s.queue.count a ≤ (if result = .resume then s.queue ++ [b] else s.queue).count a := by
      split
      · rw [List.count_append]
        omega
      · exact le_rfl
    dsimp only
    omega

theorem Covered.step (hmax : 0 < maxThroughput) {e : Event α μ 1} (h : s.Covered)
    (hstep : Step maxThroughput s e s') : s'.Covered :=
  ⟨fun a => (h.holds_step hstep a).2, h.live_step hstep, h.jobs_step hmax hstep⟩

theorem initial_covered : (initial : Executor α μ 1).Covered where
  holds _ := initial_holds
  live := ⟨by simp [initial], by simp [initial]⟩
  jobs _ := Nat.zero_le _

/-- The run lemma. -/
theorem covered_of_trace (hmax : 0 < maxThroughput) {events : List (Event α μ 1)}
    (h : Lts.Trace (Step maxThroughput) initial events s) : s.Covered :=
  h.invariant (fun _ s => s.Covered) initial_covered fun _ _ _ _ hcovered hstep =>
    hcovered.step hmax hstep

/-- Where a message waits, somebody will look for it. -/
theorem Covered.woken (h : s.Covered) (ha : s.undelivered a ≠ []) :
    a ∈ s.queue ∨ s.Runs 0 a ∨ a ∈ s.submitting := by
  have hjobs := h.jobs a
  have hlength := List.length_pos_of_ne_nil ha
  by_cases hqueue : a ∈ s.queue
  · exact .inl hqueue
  by_cases hsubmitting : a ∈ s.submitting
  · exact .inr (.inr hsubmitting)
  rw [List.count_eq_zero_of_not_mem hqueue, List.count_eq_zero_of_not_mem hsubmitting] at hjobs
  refine .inr (.inl ?_)
  cases hw : s.workers 0 with
  | waiting =>
    rw [debt_of_waiting hw] at hjobs
    omega
  | stopped => exact absurd hw h.live.not_stopped
  | running b pc =>
    rw [debt_of_running hw] at hjobs
    split at hjobs
    · next hb => exact ⟨pc, hb ▸ hw⟩
    · omega

/-! ## Without new messages -/

/-- A step that is not the put of a message. -/
def QuietStep (maxThroughput : ℕ) (s : Executor α μ 1) (e : Event α μ 1) (s' : Executor α μ 1) :
    Prop :=
  Step maxThroughput s e s' ∧ ∀ a m, e ≠ .put a m

/-- How far a run is from its next message, or from its end. -/
def rank (incoming : ℕ) : RunState μ → ℕ
  | .handling 0 => 3
  | .handling (_ + 1) => 2 * incoming + 20
  | .popped _ _ => 2
  | .fetched _ _ => 1
  | .draining => 2 * incoming + 10
  | .drained (some _) => 2 * incoming + 11
  | .drained none => 9
  | .checked _ => 8
  | .returned .resume => 7
  | .returned _ => 0

/-- The step lemma: a run that hands over nothing comes nearer to its end. -/
theorem rank_advance (hmax : 0 < maxThroughput) {q : BlockingMailQueue μ} {pc : RunState μ}
    (hpc : ∀ result, pc ≠ .returned result) (hnone : (pc.advance maxThroughput q).1 = none) :
    rank (pc.advance maxThroughput q).2.2.incoming.length (pc.advance maxThroughput q).2.1 <
      rank q.incoming.length pc := by
  match pc with
  | .handling n =>
    by_cases hn : n < maxThroughput
    · rw [RunState.advance_handling_of_lt hn]
      cases n <;> simp only [rank] <;> omega
    · rw [RunState.advance_handling_of_not_lt hn]
      cases n with
      | zero => exact absurd hmax hn
      | succ n => simp only [rank]; omega
  | .popped _ none => exact Nat.lt_succ_self 1
  | .popped _ (some _) => cases hnone
  | .fetched _ none => exact Nat.one_pos
  | .fetched _ (some _) => cases hnone
  | .draining =>
    have hget := congrArg List.length q.get_incoming
    rw [List.length_append] at hget
    show rank q.get.2.incoming.length (.drained q.get.1) < 2 * q.incoming.length + 10
    cases hmsg : q.get.1 with
    | none => simp only [rank]; omega
    | some m =>
      rw [hmsg] at hget
      simp only [Option.toList_some, List.length_singleton] at hget
      simp only [rank]
      omega
  | .drained (some m) =>
    show rank (q.pushToCache (some m)).2.incoming.length .draining < 2 * q.incoming.length + 11
    rw [BlockingMailQueue.incoming_pushToCache]
    exact Nat.lt_succ_self _
  | .drained none => exact Nat.lt_succ_self 8
  | .checked msgPtr =>
    show rank _ (.returned (if (q.pushToCache msgPtr).1 then .awaiting else .resume)) < 8
    split <;> simp [rank]
  | .returned result => exact absurd rfl (hpc result)

/-- The actors with a job, as often as they have one. -/
def outstanding (s : Executor α μ 1) : List α := s.queue ++ s.submitting ++ s.running

/-- The messages that the jobs may find, and the jobs. -/
def load (s : Executor α μ 1) : ℕ := (s.outstanding.map fun a => (s.undelivered a).length + 1).sum

/-- What is to be done until the next message is handed over, or a job is done. -/
def chores (s : Executor α μ 1) : ℕ :=
  5 * s.submitting.length + 4 * s.queue.length +
    match s.workers 0 with
    | .running a pc => rank (s.mailbox a).incoming.length pc
    | _ => 0

theorem load_eq_sum (hundelivered : ∀ a, s'.undelivered a = s.undelivered a) :
    s'.load = (s'.outstanding.map fun a => (s.undelivered a).length + 1).sum := by
  simp only [load, hundelivered]

theorem load_eq (hundelivered : ∀ a, s'.undelivered a = s.undelivered a)
    (houtstanding : s'.outstanding.Perm s.outstanding) : s'.load = s.load := by
  rw [load_eq_sum hundelivered]
  exact (houtstanding.map _).sum_eq

/-- The step lemma: jobs and messages get fewer, or the next of them comes nearer. -/
theorem Covered.quiet_step (hmax : 0 < maxThroughput) {e : Event α μ 1} (h : s.Covered)
    (hstep : QuietStep maxThroughput s e s') :
    s'.load < s.load ∨ s'.load = s.load ∧ s'.chores < s.chores := by
  obtain ⟨hstep, hquiet⟩ := hstep
  have hfifo := fun a => (h.holds_step hstep a).1
  cases hstep with
  | put a m => exact absurd rfl (hquiet a m)
  | @submit a p q hsubmitting =>
    refine .inr ⟨load_eq hfifo ?_, ?_⟩
    · show (s.queue ++ [a] ++ (p ++ q) ++ s.running).Perm (s.queue ++ s.submitting ++ s.running)
      rw [hsubmitting, List.append_assoc s.queue, List.singleton_append]
      exact (List.perm_middle.symm.append_left s.queue).append_right s.running
    · simp only [chores, hsubmitting, List.length_append, List.length_cons, List.length_nil]
      omega
  | @dequeue i b rest hwaiting hqueue =>
    obtain rfl := Subsingleton.elim i 0
    refine .inr ⟨load_eq hfifo ?_, ?_⟩
    · simp only [outstanding, running, Function.update_self, hwaiting, hqueue, List.append_nil,
        List.cons_append]
      exact List.perm_append_singleton b _
    · simp only [chores, Function.update_self, hwaiting, hqueue, List.length_cons, rank]
      omega
  | @advance i b pc hi hreturned =>
    obtain rfl := Subsingleton.elim i 0
    have houtstanding : Executor.outstanding { s with
        mailbox := Function.update s.mailbox b (pc.advance maxThroughput (s.mailbox b)).2.2
        workers := Function.update s.workers 0
          (.running b (pc.advance maxThroughput (s.mailbox b)).2.1) } = s.outstanding := by
      simp only [outstanding, running, Function.update_self, hi]
    cases hexecuted : (pc.advance maxThroughput (s.mailbox b)).1 with
    | none =>
      have hsame : ∀ a, fifoEvent a (.advance (0 : Fin 1) b (none : Option μ)) = none := fun a => by
        simp [fifoEvent]
      rw [hexecuted] at hfifo
      simp only [hsame] at hfifo
      -- nothing was handed over: the run has come closer to its end
      refine .inr ⟨load_eq hfifo (houtstanding ▸ .refl _), ?_⟩
      simp only [chores, Function.update_self, hi]
      have hrank := rank_advance hmax hreturned hexecuted
      omega
    | some m =>
      rw [hexecuted] at hfifo
      refine .inl ?_
      simp only [load, houtstanding]
      -- a message was handed over, so that the load of its actor is less
      refine List.sum_lt_sum _ _ (fun a _ => ?_) ⟨b, ?_, ?_⟩
      · specialize hfifo a
        by_cases hb : b = a
        · simp only [fifoEvent, if_pos hb] at hfifo
          rw [hfifo.eq_of_take, List.length_cons]
          omega
        · simp only [fifoEvent, if_neg hb] at hfifo
          rw [hfifo]
      · rw [outstanding, running_of_running hi]
        simp
      · specialize hfifo b
        simp only [fifoEvent, if_true] at hfifo
        have htake := hfifo.eq_of_take
        rw [htake, List.length_cons]
        omega
  | @finish i b result hi =>
    obtain rfl := Subsingleton.elim i 0
    rcases h.live.result b result hi with rfl | rfl
    -- the actor has nothing left, and its job is gone
    · refine .inl ?_
      rw [load_eq_sum hfifo, load]
      simp only [outstanding, running, Function.update_self, hi, reduceCtorEq, if_false,
        List.append_nil, List.map_append, List.sum_append, List.map_singleton, List.sum_singleton]
      omega
    · refine .inr ⟨load_eq hfifo ?_, ?_⟩
      · simp only [outstanding, running, Function.update_self, hi, if_true, reduceCtorEq, if_false,
          List.append_nil]
        rw [List.append_assoc, List.append_assoc]
        exact List.perm_append_comm.append_left s.queue
      · simp only [chores, Function.update_self, hi, if_true, reduceCtorEq, if_false, rank,
          List.length_append, List.length_singleton]
        omega

/-- The rule for termination, with the two measures in their order. -/
theorem Covered.acc (hmax : 0 < maxThroughput) (h : s.Covered) :
    Acc (fun s' s => ∃ e, QuietStep maxThroughput s e s') s := by
  refine Lts.acc_of_lt Covered (fun s => toLex (s.load, s.chores)) (fun s e s' hs hstep => ?_) h
  refine ⟨hs.step hmax hstep.1, ?_⟩
  rw [Prod.Lex.toLex_lt_toLex]
  exact hs.quiet_step hmax hstep

/-- There is a step wherever something is left to do. -/
theorem Covered.done_of_stuck (h : s.Covered) (hstuck : ∀ e s', ¬ QuietStep maxThroughput s e s') :
    s.queue = [] ∧ s.submitting = [] ∧ ∀ a, s.undelivered a = [] := by
  have hsubmitting : s.submitting = [] := by
    cases hsub : s.submitting with
    | nil => rfl
    | cons a rest => exact absurd ⟨.submit s (p := []) hsub, by simp⟩ (hstuck _ _)
  -- a worker that does anything else has a step
  have hwaiting : s.workers 0 = .waiting := by
    cases hw : s.workers 0 with
    | waiting => rfl
    | stopped => exact absurd hw h.live.not_stopped
    | running a pc =>
      by_cases hpc : ∃ result, pc = .returned result
      · obtain ⟨result, rfl⟩ := hpc
        exact absurd ⟨.finish s hw, by simp⟩ (hstuck _ _)
      · exact absurd ⟨.advance s hw (not_exists.mp hpc), by simp⟩ (hstuck _ _)
  have hqueue : s.queue = [] := by
    cases hq : s.queue with
    | nil => rfl
    | cons a rest => exact absurd ⟨.dequeue s hwaiting hq, by simp⟩ (hstuck _ _)
  refine ⟨hqueue, hsubmitting, fun a => ?_⟩
  have hjobs := h.jobs a
  rw [hqueue, hsubmitting, debt_of_waiting hwaiting] at hjobs
  exact List.eq_nil_of_length_eq_zero (Nat.le_zero.mp hjobs)

/-- A single worker runs every actor alone. -/
theorem aloneTrace {events : List (Event α μ 1)}
    (h : Lts.Trace (Step maxThroughput) initial events s) (a : α) :
    Lts.Trace (AloneStep maxThroughput a) initial events s :=
  h.mono fun _ _ _ hstep => ⟨hstep, fun _ _ _ _ => Subsingleton.elim _ _⟩

theorem puts_append (events rest : List (Event α μ 1)) :
    puts a (events ++ rest) = puts a events ++ puts a rest := by
  simp only [puts, List.filterMap_append]

theorem puts_of_quiet {rest : List (Event α μ 1)}
    (h : Lts.Trace (QuietStep maxThroughput) s rest s') : puts a rest = [] := by
  refine h.invariant (fun rest _ => puts a rest = []) rfl fun rest s e s' hrest hstep => ?_
  rw [puts_append, hrest]
  cases e with
  | put b m => exact absurd rfl (hstep.2 b m)
  | submit => rfl
  | dequeue => rfl
  | finish => rfl
  | advance i b executed =>
    by_cases hb : b = a <;> cases executed <;> simp [puts, fifoEvent, hb, Fifo.Event.putValue]

/-- With one worker, for a message that is not delivered there is a job, a run or
a sender about to submit one. Without new messages every run comes to an end, and
at the end no job is left and everything that was put has been delivered. -/
theorem no_lost_wakeup (hmax : 0 < maxThroughput) {events : List (Event α μ 1)}
    (h : Lts.Trace (Step maxThroughput) initial events s) :
    (∀ a, puts a events = executed a events ++ s.undelivered a ∧
      (s.undelivered a ≠ [] → a ∈ s.queue ∨ s.Runs 0 a ∨ a ∈ s.submitting)) ∧
    Acc (fun s' s => ∃ e, QuietStep maxThroughput s e s') s ∧
    ∀ rest s', Lts.Trace (QuietStep maxThroughput) s rest s' →
      (∀ e s'', ¬ QuietStep maxThroughput s' e s'') →
      s'.queue = [] ∧ s'.submitting = [] ∧ ∀ a, executed a (events ++ rest) = puts a events := by
  have hputs {events : List (Event α μ 1)} {s : Executor α μ 1}
      (h : Lts.Trace (Step maxThroughput) initial events s) (a : α) :
      puts a events = executed a events ++ s.undelivered a := by
    obtain ⟨q, hholds, -, hq⟩ := holds_of_trace (aloneTrace h a)
    rwa [hholds.eq_undelivered] at hq
  have hcovered := covered_of_trace hmax h
  refine ⟨fun a => ⟨hputs h a, hcovered.woken⟩, hcovered.acc hmax, fun rest s' hrest hstuck => ?_⟩
  have hall := h.append (hrest.mono fun _ _ _ hstep => hstep.1)
  obtain ⟨hqueue, hsubmitting, hdelivered⟩ := (covered_of_trace hmax hall).done_of_stuck hstuck
  refine ⟨hqueue, hsubmitting, fun a => ?_⟩
  have hlast := hputs hall a
  rw [puts_append, puts_of_quiet hrest, hdelivered, List.append_nil, List.append_nil] at hlast
  exact hlast.symm

/-- Two messages, the job of the second of them not submitted yet. -/
theorem no_lost_wakeup_twoMessages :
    ∃ (events : List (Event Unit ℕ 1)) (s : Executor Unit ℕ 1),
      s.queue = [()] ∧ s.submitting = [()] ∧ s.undelivered () = [10, 20] ∧
      (∀ a, puts a events = executed a events ++ s.undelivered a ∧
        (s.undelivered a ≠ [] → a ∈ s.queue ∨ s.Runs 0 a ∨ a ∈ s.submitting)) ∧
      Acc (fun s' s => ∃ e, QuietStep 1 s e s') s ∧
      ∀ rest s', Lts.Trace (QuietStep 1) s rest s' → (∀ e s'', ¬ QuietStep 1 s' e s'') →
        s'.queue = [] ∧ s'.submitting = [] ∧ ∀ a, executed a (events ++ rest) = puts a events := by
  have h₀ : Lts.Trace (Step 1) (initial : Executor Unit ℕ 1) [] initial := .nil
  have h₁ := ((h₀.snoc (.put _ () 10)).snoc (.put _ () 20)).snoc (.submit _ (p := []) rfl)
  exact ⟨_, _, rfl, rfl, rfl, no_lost_wakeup Nat.one_pos h₁⟩

end Executor

end StreamCloud
