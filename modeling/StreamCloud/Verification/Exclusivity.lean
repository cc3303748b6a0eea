-- SUMMARY: Two workers can run one actor at the same time, unless there is one worker or an actor has one job at most.
import StreamCloud.Core.Executor
import Mathlib.Algebra.BigOperators.Group.Finset.Basic
import Mathlib.Algebra.Order.BigOperators.Group.Finset
import Mathlib.Data.Fintype.Basic

/-!
# Exclusivity

`send` submits the actor once for every message, whether it has a job already or
not, and nothing in `dequeue` or `run` looks at who else runs it. What would keep
the workers apart is that an actor never has a second job.
-/

namespace StreamCloud.Executor

variable {α μ : Type} [DecidableEq α] {numWorkers maxThroughput : ℕ}

/-- No actor is run by two workers. -/
def Exclusive (s : Executor α μ numWorkers) : Prop := ∀ a, s.Alone a

/-- A step that puts a message only for an actor without a job. -/
def UnscheduledStep (maxThroughput : ℕ) (s : Executor α μ numWorkers) (e : Event α μ numWorkers)
    (s' : Executor α μ numWorkers) : Prop :=
  Step maxThroughput s e s' ∧
    ∀ a m, e = .put a m → a ∉ s.queue ∧ a ∉ s.submitting ∧ ∀ i, ¬ s.Runs i a

/-! ## Counting jobs -/

/-- How often a worker runs an actor. -/
def runs (w : Worker α μ) (a : α) : ℕ :=
  match w with
  | .running b _ => if b = a then 1 else 0
  | _ => 0

/-- The jobs of an actor: in the queue, about to be submitted, and being run. -/
def jobs (s : Executor α μ numWorkers) (a : α) : ℕ :=
  s.queue.count a + s.submitting.count a + ∑ i, runs (s.workers i) a

variable {s s' : Executor α μ numWorkers} {a : α}

theorem runs_running (b : α) (pc : RunState μ) (a : α) :
    runs (.running b pc) a = if b = a then 1 else 0 := rfl

theorem runs_waiting (a : α) : runs (.waiting : Worker α μ) a = 0 := rfl

theorem runs_of_runs {i : Fin numWorkers} (h : s.Runs i a) : runs (s.workers i) a = 1 := by
  obtain ⟨pc, hi⟩ := h
  rw [hi, runs_running, if_pos rfl]

/-- One worker goes on with something else. -/
theorem sum_runs_update (workers : Fin numWorkers → Worker α μ) (i : Fin numWorkers)
    (w : Worker α μ) (a : α) :
    ∑ j, runs (Function.update workers i w j) a + runs (workers i) a =
      ∑ j, runs (workers j) a + runs w a := by
  have hrest : ∑ j ∈ Finset.univ.erase i, runs (Function.update workers i w j) a =
      ∑ j ∈ Finset.univ.erase i, runs (workers j) a :=
    Finset.sum_congr rfl fun j hj => by rw [Function.update_of_ne (Finset.ne_of_mem_erase hj)]
  rw [← Finset.add_sum_erase _ _ (Finset.mem_univ i), hrest, Function.update_self,
    ← Finset.add_sum_erase _ (fun j => runs (workers j) a) (Finset.mem_univ i)]
  omega

/-- The step lemma: only a put gives an actor one more job. -/
theorem jobs_step {e : Event α μ numWorkers} (h : Step maxThroughput s e s') (a : α) :
    s'.jobs a ≤ s.jobs a ∨ ∃ m, e = .put a m ∧ s'.jobs a = s.jobs a + 1 := by
  cases h with
  | put b m =>
    simp only [jobs, List.count_append, List.count_singleton, beq_iff_eq]
    by_cases hb : b = a
    · subst hb
      exact .inr ⟨m, rfl, by rw [if_pos rfl]; omega⟩
    · rw [if_neg hb]
      exact .inl le_rfl
  | submit hsubmitting =>
    simp only [jobs, hsubmitting, List.count_append, List.count_cons, List.count_nil]
    exact .inl (by omega)
  | @dequeue i b rest hwaiting hqueue =>
    have hsum := sum_runs_update s.workers i (.running b (.handling 0)) a
    rw [hwaiting, runs_running, runs_waiting] at hsum
    simp only [jobs, hqueue, List.count_cons, beq_iff_eq]
    exact .inl (by omega)
  | @advance i b pc hi =>
    have hsum := sum_runs_update s.workers i
      (.running b (pc.advance maxThroughput (s.mailbox b)).2.1) a
    rw [hi, runs_running, runs_running] at hsum
    simp only [jobs]
    exact .inl (by omega)
  | @finish i b result hi =>
    have hsum := sum_runs_update s.workers i
      (if result = .shutdown then .stopped else .waiting) a
    have hnot : runs (if result = .shutdown then .stopped else .waiting : Worker α μ) a = 0 := by
      split <;> rfl
    have hqueue : (if result = .resume then s.queue ++ [b] else s.queue).count a ≤
        s.queue.count a + if b = a then 1 else 0 := by
      split
      · simp only [List.count_append, List.count_singleton, beq_iff_eq, le_refl]
      · exact Nat.le_add_right _ _
    rw [hnot, hi, runs_running] at hsum
    simp only [jobs]
    exact .inl (by omega)

/-- An actor without a job. -/
theorem jobs_eq_zero (hqueue : a ∉ s.queue) (hsubmitting : a ∉ s.submitting)
    (hruns : ∀ i, ¬ s.Runs i a) : s.jobs a = 0 := by
  have hnot : ∀ i, runs (s.workers i) a = 0 := fun i => by
    cases hi : s.workers i with
    | running b pc =>
      rw [runs_running, if_neg]
      rintro rfl
      exact hruns i ⟨pc, hi⟩
    | waiting => rfl
    | stopped => rfl
  simp only [jobs, List.count_eq_zero_of_not_mem hqueue, List.count_eq_zero_of_not_mem hsubmitting,
    hnot, Finset.sum_const_zero, Nat.add_zero]

/-- With one job at most, an actor is run by one worker at most. -/
theorem alone_of_jobs_le_one (h : s.jobs a ≤ 1) : s.Alone a := by
  intro i j hi hj
  by_contra hne
  have hpair : ∑ k ∈ {i, j}, runs (s.workers k) a ≤ ∑ k, runs (s.workers k) a :=
    Finset.sum_le_sum_of_subset (Finset.subset_univ _)
  rw [Finset.sum_pair hne, runs_of_runs hi, runs_of_runs hj] at hpair
  simp only [jobs] at h
  omega

/-- The run lemma: where messages are put only for actors without a job, no actor
ever has two. -/
theorem jobs_le_one {events : List (Event α μ numWorkers)}
    (h : Lts.Trace (UnscheduledStep maxThroughput) initial events s) (a : α) : s.jobs a ≤ 1 := by
  refine h.invariant (fun _ s => s.jobs a ≤ 1) ?_ fun _ s e s' hjobs hstep => ?_
  · exact (jobs_eq_zero List.not_mem_nil List.not_mem_nil fun _ ⟨_, hi⟩ => nomatch hi).trans_le
      (Nat.zero_le 1)
  · rcases jobs_step hstep.1 a with hle | ⟨m, rfl, heq⟩
    · exact hle.trans hjobs
    · obtain ⟨hqueue, hsubmitting, hruns⟩ := hstep.2 a m rfl
      rw [heq, jobs_eq_zero hqueue hsubmitting hruns]

/-! ## Two workers -/

/-- Two messages for one actor, and two workers that both take its job. -/
theorem overlap (maxThroughput : ℕ) {i j : Fin numWorkers} (hne : i ≠ j) (a : α) (m m' : μ) :
    ∃ events s, Lts.Trace (Step maxThroughput) (initial : Executor α μ numWorkers) events s ∧
      s.mailbox a = ⟨[m, m'], [], []⟩ ∧ s.workers i = .running a (.handling 0) ∧
      s.workers j = .running a (.handling 0) := by
  have h₀ : Lts.Trace (Step maxThroughput) (initial : Executor α μ numWorkers) [] initial := .nil
  have h₁ := ((h₀.snoc (.put _ a m)).snoc (.put _ a m')).snoc (.submit _ (p := []) rfl)
  have h₂ := (h₁.snoc (.submit _ (p := []) rfl)).snoc (.dequeue _ (i := i) rfl rfl)
  have h₃ := h₂.snoc (.dequeue _ (i := j) (Function.update_of_ne hne.symm _ _) rfl)
  refine ⟨_, _, h₃, ?_, ?_, Function.update_self ..⟩
  · simp only [Function.update_self]
    rfl
  · dsimp only
    rw [Function.update_of_ne hne, Function.update_self]

/-- A run goes on with the next step of a worker. -/
theorem advance_of_running {events : List (Event α μ numWorkers)} {i : Fin numWorkers}
    {pc : RunState μ} (h : Lts.Trace (Step maxThroughput) initial events s)
    (hi : s.workers i = .running a pc) (hpc : ∀ result, pc ≠ .returned result) :
    ∃ events' s', Lts.Trace (Step maxThroughput) initial events' s' ∧
      s'.mailbox a = (pc.advance maxThroughput (s.mailbox a)).2.2 ∧
      s'.workers i = .running a (pc.advance maxThroughput (s.mailbox a)).2.1 ∧
      ∀ j, j ≠ i → s'.workers j = s.workers j :=
  ⟨_, _, h.snoc (.advance s hi hpc), Function.update_self .., Function.update_self ..,
    fun _ hj => Function.update_of_ne hj _ _⟩

/-- Both workers come as far as the handler, with a message each. -/
theorem overlap_handlers (hmax : 0 < maxThroughput) {i j : Fin numWorkers} (hne : i ≠ j) (a : α)
    (m m' : μ) :
    ∃ events s, Lts.Trace (Step maxThroughput) (initial : Executor α μ numWorkers) events s ∧
      s.workers i = .running a (.fetched 0 (some m)) ∧
      s.workers j = .running a (.fetched 0 (some m')) := by
  obtain ⟨_, s, h, hq, hi, hj⟩ := overlap maxThroughput hne a m m'
  obtain ⟨_, s₁, h₁, hq₁, hi₁, hrest₁⟩ := advance_of_running h hi (by simp)
  rw [hq, RunState.advance_handling_of_lt hmax] at hq₁ hi₁
  obtain ⟨_, s₂, h₂, hq₂, hi₂, hrest₂⟩ := advance_of_running h₁ hi₁ (by simp)
  rw [hq₁] at hq₂ hi₂
  have hj₂ : s₂.workers j = .running a (.handling 0) := by
    rw [hrest₂ j hne.symm, hrest₁ j hne.symm, hj]
  obtain ⟨_, s₃, h₃, hq₃, hj₃, hrest₃⟩ := advance_of_running h₂ hj₂ (by simp)
  rw [hq₂, RunState.advance_handling_of_lt hmax] at hq₃ hj₃
  obtain ⟨events, s₄, h₄, -, hj₄, hrest₄⟩ := advance_of_running h₃ hj₃ (by simp)
  rw [hq₃] at hj₄
  refine ⟨events, s₄, h₄, ?_, hj₄⟩
  rw [hrest₄ i hne, hrest₃ i hne, hi₂]
  rfl

/-- Workers keep out of each other's way in all runs exactly when there is one of
them at most. With more of them, they do so where messages are put only for actors
that have no job. -/
theorem exclusive_iff (maxThroughput numWorkers : ℕ) (a : α) (m : μ) :
    ((∀ events (s : Executor α μ numWorkers),
        Lts.Trace (Step maxThroughput) initial events s → s.Exclusive) ↔ numWorkers ≤ 1) ∧
      ∀ events (s : Executor α μ numWorkers),
        Lts.Trace (UnscheduledStep maxThroughput) initial events s → s.Exclusive := by
  refine ⟨⟨fun hall => ?_, fun hle _ s _ b i j _ _ => ?_⟩,
    fun _ s h b => alone_of_jobs_le_one (jobs_le_one h b)⟩
  · by_contra hgt
    have hne : (⟨0, by omega⟩ : Fin numWorkers) ≠ ⟨1, by omega⟩ := by simp
    obtain ⟨events, s, htrace, -, hi, hj⟩ := overlap maxThroughput hne a m m
    exact hne (hall events s htrace a _ _ ⟨_, hi⟩ ⟨_, hj⟩)
  · exact Fin.ext (by omega)

/-- The default configuration on two cores: of three workers, two are about to
hand a message to the handler of one actor. -/
theorem default_not_exclusive :
    AbstractCoordinator.numWorkers 0 2 = 3 ∧
    ∃ events, ∃ s : Executor Unit ℕ (AbstractCoordinator.numWorkers 0 2),
      Lts.Trace (Step 1000) initial events s ∧
        s.workers ⟨0, by decide⟩ = .running () (.fetched 0 (some 10)) ∧
        s.workers ⟨1, by decide⟩ = .running () (.fetched 0 (some 20)) ∧ ¬ s.Exclusive := by
  have hne : (⟨0, by decide⟩ : Fin (AbstractCoordinator.numWorkers 0 2)) ≠ ⟨1, by decide⟩ := by decide
  obtain ⟨events, s, h, hi, hj⟩ :=
    overlap_handlers (show 0 < 1000 by omega) hne () 10 20
  exact ⟨rfl, events, s, h, hi, hj, fun hall => hne (hall () _ _ ⟨_, hi⟩ ⟨_, hj⟩)⟩

end StreamCloud.Executor
