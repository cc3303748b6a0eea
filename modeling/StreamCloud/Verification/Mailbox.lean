-- SUMMARY: With its worker, the mailbox of an actor is a FIFO queue.
import StreamCloud.Core.Executor

/-!
# Mailboxes

What happens to the mailbox of one actor is compared with a FIFO queue: a message
that a sender puts is put into the queue, and a message that is handed to
`reactions_.execute` is taken out of it. Everything else is not seen there.
-/

namespace StreamCloud.Executor

variable {α μ : Type} [DecidableEq α] {numWorkers : ℕ}

/-- What a step does to the FIFO queue of an actor. -/
def fifoEvent (a : α) : Event α μ numWorkers → Option (Fifo.Event μ)
  | .put b m => if b = a then some (.put m) else none
  | .advance _ b executed => if b = a then executed.map .take else none
  | _ => none

/-- The messages put for an actor, in the order of the puts. -/
def puts (a : α) (events : List (Event α μ numWorkers)) : List μ :=
  (events.filterMap (fifoEvent a)).filterMap Fifo.Event.putValue

/-- The messages of an actor that were handed to `reactions_.execute`, in this order. -/
def executed (a : α) (events : List (Event α μ numWorkers)) : List μ :=
  (events.filterMap (fifoEvent a)).filterMap Fifo.Event.takenValue

/-- The undelivered messages of an actor: those of its mailbox, and the one that
the worker has in its hand. -/
structure Holds (s : Executor α μ numWorkers) (a : α) (q : List μ) : Prop where
  alone : s.Alone a
  running : ∀ i pc, s.workers i = .running a pc →
    pc.Sound (s.mailbox a) ∧ q = pc.undelivered (s.mailbox a)
  idle : (∀ i, ¬ s.Runs i a) → q = (s.mailbox a).pending

/-- A step after which no two workers run the actor. -/
def AloneStep (maxThroughput : ℕ) (a : α) (s : Executor α μ numWorkers) (e : Event α μ numWorkers)
    (s' : Executor α μ numWorkers) : Prop :=
  Step maxThroughput s e s' ∧ s'.Alone a

variable {maxThroughput : ℕ} {a : α} {s s' : Executor α μ numWorkers} {q : List μ}

omit [DecidableEq α] in
/-- Only what happens to the actor's mailbox and to its worker matters. -/
theorem Holds.of_eq (h : s.Holds a q) (hmailbox : s'.mailbox a = s.mailbox a)
    (hworkers : ∀ i pc, s'.workers i = .running a pc ↔ s.workers i = .running a pc) :
    s'.Holds a q := by
  have hruns : ∀ i, s'.Runs i a ↔ s.Runs i a := fun i => exists_congr fun pc => hworkers i pc
  refine ⟨fun i j hi hj => h.alone i j ((hruns i).mp hi) ((hruns j).mp hj), fun i pc hi => ?_,
    fun hidle => ?_⟩
  · rw [hmailbox]
    exact h.running i pc ((hworkers i pc).mp hi)
  · rw [hmailbox]
    exact h.idle fun i hi => hidle i ((hruns i).mpr hi)

omit [DecidableEq α] in
/-- A worker that is at something else before and after. -/
theorem running_update_iff {i j : Fin numWorkers} {w : Worker α μ} {pc : RunState μ}
    (hbefore : ∀ pc, s.workers i ≠ .running a pc) (hafter : ∀ pc, w ≠ .running a pc) :
    Function.update s.workers i w j = .running a pc ↔ s.workers j = .running a pc := by
  by_cases hj : j = i
  · subst hj
    rw [Function.update_self]
    exact iff_of_false (hafter pc) (hbefore pc)
  · rw [Function.update_of_ne hj]

/-- The mailbox, with the step lemma for each kind of step, simulates a FIFO queue. -/
theorem Holds.step {e : Event α μ numWorkers} (h : s.Holds a q)
    (hstep : AloneStep maxThroughput a s e s') :
    ∃ q', Lts.StepOf Fifo.Step (fifoEvent a e) q q' ∧ s'.Holds a q' := by
  have hunseen (h' : s'.Holds a q) (hevent : fifoEvent a e = none) :
      ∃ q', Lts.StepOf Fifo.Step (fifoEvent a e) q q' ∧ s'.Holds a q' := by
    rw [hevent]
    exact ⟨q, rfl, h'⟩
  obtain ⟨hstep, halone⟩ := hstep
  cases hstep with
  | put b m =>
    by_cases hb : b = a
    · subst hb
      simp only [fifoEvent, if_true]
      refine ⟨_, .put q m, halone, fun i pc hi => ?_, fun hidle => ?_⟩
      · obtain ⟨hsound, hq⟩ := h.running i pc hi
        dsimp only
        rw [Function.update_self, RunState.undelivered_put, hq]
        exact ⟨hsound.put m, rfl⟩
      · dsimp only
        rw [Function.update_self, BlockingMailQueue.pending_put, h.idle hidle]
    · exact hunseen (h.of_eq (Function.update_of_ne (Ne.symm hb) _ _) fun _ _ => Iff.rfl) (if_neg hb)
  | submit => exact hunseen (h.of_eq rfl fun _ _ => Iff.rfl) rfl
  | @dequeue i b rest hwaiting hqueue =>
    have hbefore : ∀ pc, s.workers i ≠ .running a pc := fun pc hi => by
      rw [hwaiting] at hi
      cases hi
    by_cases hb : b = a
    · -- nobody else runs the actor, as this worker does now
      subst hb
      refine hunseen ?_ rfl
      have hself : ∀ j pc, Function.update s.workers i (.running b (.handling 0)) j = .running b pc →
          j = i := fun j pc hj => halone j i ⟨pc, hj⟩ ⟨_, Function.update_self ..⟩
      have hidle : ∀ j, ¬ s.Runs j b := by
        rintro j ⟨pc, hj⟩
        have hne : j ≠ i := fun heq => hbefore pc (heq ▸ hj)
        exact hne (hself j pc (by rw [Function.update_of_ne hne]; exact hj))
      refine ⟨halone, fun j pc hj => ?_, fun hnone => absurd ⟨_, Function.update_self ..⟩ (hnone i)⟩
      obtain rfl := hself j pc hj
      dsimp only at hj
      rw [Function.update_self] at hj
      cases hj
      exact ⟨trivial, h.idle hidle⟩
    · refine hunseen (h.of_eq rfl fun j pc => running_update_iff hbefore fun pc heq => hb ?_) rfl
      cases heq
      rfl
  | @advance i b pc hi hreturned =>
    by_cases hb : b = a
    · subst hb
      obtain ⟨hsound, hq⟩ := h.running i pc hi
      have hnext : ∀ {q'}, q' = (pc.advance maxThroughput (s.mailbox b)).2.1.undelivered
          (pc.advance maxThroughput (s.mailbox b)).2.2 → Holds { s with
            mailbox := Function.update s.mailbox b (pc.advance maxThroughput (s.mailbox b)).2.2
            workers := Function.update s.workers i
              (.running b (pc.advance maxThroughput (s.mailbox b)).2.1) } b q' := by
        rintro q' rfl
        refine ⟨halone, fun j pc' hj => ?_, fun hnone => absurd ⟨_, Function.update_self ..⟩ (hnone i)⟩
        obtain rfl := halone j i ⟨pc', hj⟩ ⟨_, Function.update_self ..⟩
        dsimp only at hj ⊢
        rw [Function.update_self] at hj
        cases hj
        rw [Function.update_self]
        exact ⟨hsound.advance, rfl⟩
      have hundelivered : q = (pc.advance maxThroughput (s.mailbox b)).1.toList ++
          (pc.advance maxThroughput (s.mailbox b)).2.1.undelivered
            (pc.advance maxThroughput (s.mailbox b)).2.2 :=
        hq.trans (RunState.undelivered_advance hsound)
      simp only [fifoEvent, if_true]
      cases hexecuted : (pc.advance maxThroughput (s.mailbox b)).1 with
      | none =>
        rw [hexecuted] at hundelivered
        exact ⟨q, rfl, hnext hundelivered⟩
      | some m =>
        rw [hexecuted] at hundelivered
        rw [hundelivered]
        exact ⟨_, .take _ m, hnext rfl⟩
    · refine hunseen (h.of_eq (Function.update_of_ne (Ne.symm hb) _ _) fun j pc' =>
        running_update_iff (fun pc' hi' => hb ?_) fun pc' heq => hb ?_) (if_neg hb)
      · rw [hi] at hi'
        cases hi'
        rfl
      · cases heq
        rfl
  | @finish i b result hi =>
    by_cases hb : b = a
    · subst hb
      obtain ⟨-, hq⟩ := h.running i _ hi
      have hnone : ∀ j, ¬ Runs { s with
          queue := if result = .resume then s.queue ++ [b] else s.queue
          workers := Function.update s.workers i (if result = .shutdown then .stopped else .waiting) }
          j b := by
        rintro j ⟨pc, hj⟩
        by_cases hne : j = i
        · subst hne
          dsimp only at hj
          rw [Function.update_self] at hj
          split at hj <;> cases hj
        · dsimp only at hj
          rw [Function.update_of_ne hne] at hj
          exact hne (h.alone j i ⟨pc, hj⟩ ⟨_, hi⟩)
      exact hunseen ⟨halone, fun j pc hj => absurd ⟨pc, hj⟩ (hnone j), fun _ => hq⟩ rfl
    · refine hunseen (h.of_eq rfl fun j pc =>
        running_update_iff (fun pc hi' => hb ?_) fun pc heq => ?_) rfl
      · rw [hi] at hi'
        cases hi'
        rfl
      · split at heq <;> cases heq

omit [DecidableEq α] in
theorem initial_holds : (initial : Executor α μ numWorkers).Holds a [] :=
  ⟨fun _ _ ⟨_, hi⟩ _ => (nomatch hi), fun _ _ hi => (nomatch hi), fun _ => rfl⟩

/-- The run lemma. -/
theorem holds_of_trace {events : List (Event α μ numWorkers)}
    (h : Lts.Trace (AloneStep maxThroughput a) initial events s) :
    ∃ q, s.Holds a q ∧ Lts.Trace Fifo.Step [] (events.filterMap (fifoEvent a)) q ∧
      puts a events = executed a events ++ q := by
  obtain ⟨q, hfifo, hholds⟩ : ∃ q, Lts.Trace Fifo.Step [] (events.filterMap (fifoEvent a)) q ∧
      s.Holds a q := h.simulates (fun s q => s.Holds a q) (fifoEvent a) initial_holds
    fun _ _ _ _ hholds hstep => hholds.step hstep
  exact ⟨q, hholds, hfifo, Fifo.put_eq_taken_append hfifo⟩

/-- While no two workers run an actor, its mailbox and its worker together are a
FIFO queue: what was put is what was executed, followed by what is held, in order. -/
theorem mailbox_fifo (maxThroughput : ℕ) (a : α) {events : List (Event α μ numWorkers)}
    {s : Executor α μ numWorkers} (h : Lts.Trace (AloneStep maxThroughput a) initial events s) :
    executed a events <+: puts a events ∧
      ∃ q, s.Holds a q ∧ Lts.Trace Fifo.Step [] (events.filterMap (fifoEvent a)) q ∧
        puts a events = executed a events ++ q := by
  obtain ⟨q, hholds, hfifo, hputs⟩ := holds_of_trace h
  exact ⟨⟨q, hputs.symm⟩, q, hholds, hfifo, hputs⟩

/-- An executor with one actor and one worker. -/
def single (q : BlockingMailQueue ℕ) (queue submitting : List Unit) (w : Worker Unit ℕ) :
    Executor Unit ℕ 1 where
  mailbox _ := q
  queue := queue
  submitting := submitting
  workers _ := w

/-- A step of `run` there. -/
theorem single_advance {q q' : BlockingMailQueue ℕ} {queue submitting : List Unit}
    {pc pc' : RunState ℕ} {executed : Option ℕ} (hpc : ∀ result, pc ≠ .returned result)
    (hadvance : pc.advance 1 q = (executed, pc', q')) :
    AloneStep 1 () (single q queue submitting (.running () pc)) (.advance 0 () executed)
      (single q' queue submitting (.running () pc')) := by
  have hstep : Step 1 (single q queue submitting (.running () pc)) _ _ := .advance _ (i := 0) rfl hpc
  simp only [single, Function.update_eq_const_of_subsingleton, hadvance] at hstep
  exact ⟨hstep, fun _ _ _ _ => Subsingleton.elim _ _⟩

/-- A run with a limit of one message: the first of two messages is executed, the
other one is moved to the cache. -/
theorem mailbox_fifo_limit :
    ∃ (events : List (Event Unit ℕ 1)) (s : Executor Unit ℕ 1), executed () events = [10] ∧
      (s.mailbox ()).cache = [20] ∧ executed () events <+: puts () events ∧
      ∃ q, s.Holds () q ∧ Lts.Trace Fifo.Step [] (events.filterMap (fifoEvent ())) q ∧
        puts () events = executed () events ++ q := by
  have halone : ∀ s : Executor Unit ℕ 1, s.Alone () := fun _ i j _ _ => Subsingleton.elim i j
  have h₀ : Lts.Trace (AloneStep 1 ()) (initial : Executor Unit ℕ 1) [] initial := .nil
  have h₁ := h₀.snoc ⟨.put _ () 10, halone _⟩
  have h₂ := h₁.snoc ⟨.put _ () 20, halone _⟩
  have h₃ := h₂.snoc ⟨.submit _ (p := []) rfl, halone _⟩
  have h₄ := h₃.snoc ⟨.dequeue _ (i := 0) rfl rfl, halone _⟩
  simp only [Function.update_eq_const_of_subsingleton] at h₄
  have h₅ : Lts.Trace (AloneStep 1 ()) initial _
      (single ⟨[10, 20], [], []⟩ [] [()] (.running () (.handling 0))) := h₄
  -- the first message is fetched and executed
  have h₆ := ((h₅.snoc (single_advance (by simp) rfl)).snoc (single_advance (by simp) rfl)).snoc
    (single_advance (by simp) rfl)
  -- the limit is reached, and the second message is moved
  have h₇ := ((h₆.snoc (single_advance (by simp) rfl)).snoc (single_advance (by simp) rfl)).snoc
    (single_advance (by simp) rfl)
  exact ⟨_, _, rfl, rfl, mailbox_fifo 1 () h₇⟩

end StreamCloud.Executor
