-- SUMMARY: The executor: how an actor works off its mailbox, and how workers share the jobs of the actors.
import StreamCloud.Core.MailQueue
import StreamCloud.Library.Trace
import Mathlib.Algebra.Group.Nat.Defs
import Mathlib.Logic.Function.Basic

/-!
# The executor

`async_actor::run` and `async_actor::send` (`actor/async_actor.cpp`), the loop
of `worker.hpp` and the queue of `policy/work_sharing.hpp`. A step is what one
thread does between two moments at which another thread can be seen: an
operation on the mailbox, on the cache or on the queue of jobs, or the handing of
a message to `reactions_.execute`.
-/

namespace StreamCloud

inductive ExecutableResult
  | resume
  | awaiting
  | done
  | shutdown
deriving DecidableEq

/-! ## async_actor::run -/

/-- Where `run` stands. -/
inductive RunState (μ : Type)
  /-- At the head of the loop. -/
  | handling (handledMsgs : ℕ)
  /-- `msg_ptr = pop_to_cache()` is done. -/
  | popped (handledMsgs : ℕ) (msgPtr : Option μ)
  /-- `msg_ptr = next_message()` is done in the loop. -/
  | fetched (handledMsgs : ℕ) (msgPtr : Option μ)
  /-- Behind the loop, before `msg_ptr = next_message()`. -/
  | draining
  | drained (msgPtr : Option μ)
  /-- In `has_next_message`, before `push_to_cache`. -/
  | checked (msgPtr : Option μ)
  | returned (result : ExecutableResult)
deriving DecidableEq

namespace RunState

variable {μ : Type}

/-- The next step of `run`: the message it hands to `reactions_.execute`, if any,
where it stands then, and the mailbox. -/
def advance (maxThroughput : ℕ) (q : BlockingMailQueue μ) :
    RunState μ → Option μ × RunState μ × BlockingMailQueue μ
  | .handling handledMsgs =>
    if handledMsgs < maxThroughput then
      (none, .popped handledMsgs q.popToCache.1, q.popToCache.2)
    else (none, .draining, q)
  | .popped handledMsgs (some m) => (some m, .handling (handledMsgs + 1), q)
  | .popped handledMsgs none => (none, .fetched handledMsgs q.get.1, q.get.2)
  | .fetched handledMsgs (some m) => (some m, .handling (handledMsgs + 1), q)
  | .fetched _ none => (none, .returned .awaiting, q)
  | .draining => (none, .drained q.get.1, q.get.2)
  | .drained (some m) => (none, .draining, (q.pushToCache (some m)).2)
  | .drained none => (none, .checked q.get.1, q.get.2)
  | .checked msgPtr =>
    (none, .returned (if (q.pushToCache msgPtr).1 then .awaiting else .resume),
      (q.pushToCache msgPtr).2)
  | .returned result => (none, .returned result, q)

/-- The messages that have not been handed to a handler, the oldest first. The
one that `run` has in its hand is older than the cache in the loop, and younger
than it behind the loop. -/
def undelivered (q : BlockingMailQueue μ) : RunState μ → List μ
  | .popped _ msgPtr | .fetched _ msgPtr => msgPtr.toList ++ q.pending
  | .drained msgPtr | .checked msgPtr => q.cache ++ (msgPtr.toList ++ q.incoming)
  | _ => q.pending

/-- What is true wherever `run` stands: it takes messages from outside of the
cache only when there are none in it. -/
def Sound (q : BlockingMailQueue μ) : RunState μ → Prop
  | .popped _ none | .fetched _ _ => q.cache = []
  | _ => True

variable {maxThroughput : ℕ} {q : BlockingMailQueue μ} {pc : RunState μ}

theorem advance_handling_of_lt {n : ℕ} (h : n < maxThroughput) :
    (handling n).advance maxThroughput q = (none, .popped n q.popToCache.1, q.popToCache.2) :=
  if_pos h

theorem advance_handling_of_not_lt {n : ℕ} (h : ¬ n < maxThroughput) :
    (handling n).advance maxThroughput q = (none, .draining, q) := if_neg h

theorem Sound.advance (h : pc.Sound q) :
    (pc.advance maxThroughput q).2.1.Sound (pc.advance maxThroughput q).2.2 := by
  match pc, h with
  | .handling n, _ =>
    by_cases hn : n < maxThroughput
    · rw [advance_handling_of_lt hn]
      cases hpop : q.popToCache.1 with
      | none => exact BlockingMailQueue.cache_of_popToCache_none hpop
      | some m => trivial
    · rw [advance_handling_of_not_lt hn]
      trivial
  | .popped n none, h => exact BlockingMailQueue.cache_get.trans h
  | .popped _ (some _), _ => trivial
  | .fetched _ (some _), _ => trivial
  | .fetched _ none, _ => trivial
  | .draining, _ => trivial
  | .drained (some _), _ => trivial
  | .drained none, _ => trivial
  | .checked _, _ => trivial
  | .returned _, _ => trivial

/-- The step lemma of `run`: of the undelivered messages the oldest one is
handed over, or none is. -/
theorem undelivered_advance (h : pc.Sound q) :
    pc.undelivered q = (pc.advance maxThroughput q).1.toList ++
      (pc.advance maxThroughput q).2.1.undelivered (pc.advance maxThroughput q).2.2 := by
  match pc, h with
  | .handling n, _ =>
    by_cases hn : n < maxThroughput
    · rw [advance_handling_of_lt hn]
      show q.cache ++ q.incoming = [] ++ (_ ++ (_ ++ _))
      rw [List.nil_append, BlockingMailQueue.incoming_popToCache, ← List.append_assoc,
        BlockingMailQueue.popToCache_cache]
    · rw [advance_handling_of_not_lt hn]
      rfl
  | .popped n none, h =>
    have hcache : q.cache = [] := h
    show q.cache ++ q.incoming = [] ++ (q.get.1.toList ++ (q.get.2.cache ++ q.get.2.incoming))
    rw [BlockingMailQueue.cache_get, hcache, List.nil_append, List.nil_append, List.nil_append,
      BlockingMailQueue.get_incoming]
  | .popped _ (some _), _ => rfl
  | .fetched _ (some _), _ => rfl
  | .fetched _ none, _ => rfl
  | .draining, _ =>
    show q.cache ++ q.incoming = [] ++ (q.get.2.cache ++ (q.get.1.toList ++ q.get.2.incoming))
    rw [BlockingMailQueue.cache_get, List.nil_append, BlockingMailQueue.get_incoming]
  | .drained (some m), _ =>
    show q.cache ++ ([m] ++ q.incoming) =
      [] ++ ((q.pushToCache (some m)).2.cache ++ (q.pushToCache (some m)).2.incoming)
    rw [BlockingMailQueue.cache_pushToCache, BlockingMailQueue.incoming_pushToCache,
      List.nil_append, List.append_assoc]
    rfl
  | .drained none, _ =>
    show q.cache ++ ([] ++ q.incoming) = [] ++ (q.get.2.cache ++ (q.get.1.toList ++ q.get.2.incoming))
    rw [BlockingMailQueue.cache_get, List.nil_append, List.nil_append, BlockingMailQueue.get_incoming]
  | .checked msgPtr, _ =>
    show q.cache ++ (msgPtr.toList ++ q.incoming) =
      [] ++ ((q.pushToCache msgPtr).2.cache ++ (q.pushToCache msgPtr).2.incoming)
    rw [BlockingMailQueue.cache_pushToCache, BlockingMailQueue.incoming_pushToCache,
      List.nil_append, List.append_assoc]
  | .returned _, _ => rfl

/-- A message that is put is the youngest one, wherever `run` stands. -/
theorem undelivered_put (m : μ) : pc.undelivered (q.put m) = pc.undelivered q ++ [m] := by
  cases pc <;> simp [undelivered]

theorem Sound.put (h : pc.Sound q) (m : μ) : pc.Sound (q.put m) := by
  match pc, h with
  | .popped _ none, h => exact h
  | .fetched _ _, h => exact h
  | .handling _, _ => trivial
  | .popped _ (some _), _ => trivial
  | .draining, _ => trivial
  | .drained _, _ => trivial
  | .checked _, _ => trivial
  | .returned _, _ => trivial

end RunState

/-! ## Workers -/

/-- What a worker does: it waits in `dequeue`, it runs the job of an actor, or
its thread has ended. -/
inductive Worker (α μ : Type)
  | waiting
  | running (a : α) (pc : RunState μ)
  | stopped

/-- The actors' mailboxes, the queue of jobs, the senders that have put a message
for an actor and not yet submitted its job, and the workers. -/
structure Executor (α μ : Type) (numWorkers : ℕ) where
  mailbox : α → BlockingMailQueue μ
  queue : List α
  submitting : List α
  workers : Fin numWorkers → Worker α μ

/-- `num_workers_` of `abstract_coordinator.hpp`, in the 32 bits of
`hardware_concurrency()`. -/
def AbstractCoordinator.numWorkers (numWorkerThreads hardwareConcurrency : ℕ) : ℕ :=
  if numWorkerThreads = 0 then (hardwareConcurrency * 2 + (2 ^ 32 - 1)) % 2 ^ 32
  else numWorkerThreads

namespace Executor

variable {α μ : Type} {numWorkers : ℕ}

/-- What can be observed of a step. -/
inductive Event (α μ : Type) (numWorkers : ℕ)
  | put (a : α) (m : μ)
  | submit (a : α)
  | dequeue (i : Fin numWorkers) (a : α)
  | advance (i : Fin numWorkers) (a : α) (executed : Option μ)
  | finish (i : Fin numWorkers) (a : α) (result : ExecutableResult)

/-- Nothing has been sent yet. -/
def initial : Executor α μ numWorkers where
  mailbox _ := .empty
  queue := []
  submitting := []
  workers _ := .waiting

variable [DecidableEq α]

/-- One step of one thread: a sender puts a message, or submits the job of the
actor it has put one for; a worker takes the first job, goes on with `run`, or
does with the job what the result of `run` asks for. -/
inductive Step (maxThroughput : ℕ) :
    Executor α μ numWorkers → Event α μ numWorkers → Executor α μ numWorkers → Prop
  | put (s : Executor α μ numWorkers) (a : α) (m : μ) : Step maxThroughput s (.put a m) { s with
      mailbox := Function.update s.mailbox a ((s.mailbox a).put m)
      submitting := s.submitting ++ [a] }
  | submit (s : Executor α μ numWorkers) {a : α} {p q : List α} : s.submitting = p ++ a :: q →
      Step maxThroughput s (.submit a) { s with submitting := p ++ q, queue := s.queue ++ [a] }
  | dequeue (s : Executor α μ numWorkers) {i : Fin numWorkers} {a : α} {rest : List α} :
      s.workers i = .waiting → s.queue = a :: rest → Step maxThroughput s (.dequeue i a) { s with
        queue := rest
        workers := Function.update s.workers i (.running a (.handling 0)) }
  | advance (s : Executor α μ numWorkers) {i : Fin numWorkers} {a : α} {pc : RunState μ} :
      s.workers i = .running a pc → (∀ result, pc ≠ .returned result) →
      Step maxThroughput s (.advance i a (pc.advance maxThroughput (s.mailbox a)).1) { s with
        mailbox := Function.update s.mailbox a (pc.advance maxThroughput (s.mailbox a)).2.2
        workers := Function.update s.workers i
          (.running a (pc.advance maxThroughput (s.mailbox a)).2.1) }
  | finish (s : Executor α μ numWorkers) {i : Fin numWorkers} {a : α} {result : ExecutableResult} :
      s.workers i = .running a (.returned result) →
      Step maxThroughput s (.finish i a result) { s with
        queue := if result = .resume then s.queue ++ [a] else s.queue
        workers := Function.update s.workers i (if result = .shutdown then .stopped else .waiting) }

/-- The worker runs the job of the actor. -/
def Runs (s : Executor α μ numWorkers) (i : Fin numWorkers) (a : α) : Prop :=
  ∃ pc, s.workers i = .running a pc

/-- No two workers run the actor. -/
def Alone (s : Executor α μ numWorkers) (a : α) : Prop := ∀ i j, s.Runs i a → s.Runs j a → i = j

end Executor

end StreamCloud
