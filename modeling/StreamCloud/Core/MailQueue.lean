-- SUMMARY: The mailbox of an actor: the queue that senders fill, the queue the actor empties, and its cache.
import Mathlib.Data.List.Basic

/-!
# blocking_mail_queue

`stream-core/src/messaging/blocking_mail_queue.cpp`. A `shared_ptr` to a message
is an `Option`: no message is put as a null pointer.
-/

namespace StreamCloud

structure BlockingMailQueue (μ : Type) where
  mailQueue : List μ
  localQueue : List μ
  cache : List μ

namespace BlockingMailQueue

variable {μ : Type}

def empty : BlockingMailQueue μ := ⟨[], [], []⟩

def put (q : BlockingMailQueue μ) (m : μ) : BlockingMailQueue μ :=
  { q with mailQueue := q.mailQueue ++ [m] }

/-- `local_queue.splice(local_queue.begin(), mail_queue)`. -/
def sync (q : BlockingMailQueue μ) : BlockingMailQueue μ :=
  { q with mailQueue := [], localQueue := q.mailQueue ++ q.localQueue }

def get (q : BlockingMailQueue μ) : Option μ × BlockingMailQueue μ :=
  let q := if q.localQueue.isEmpty then q.sync else q
  match q.localQueue with
  | m :: rest => (some m, { q with localQueue := rest })
  | [] => (none, q)

def pushToCache (q : BlockingMailQueue μ) (msgPtr : Option μ) : Bool × BlockingMailQueue μ :=
  match msgPtr with
  | some m => (true, { q with cache := q.cache ++ [m] })
  | none => (false, q)

def popToCache (q : BlockingMailQueue μ) : Option μ × BlockingMailQueue μ :=
  match q.cache with
  | m :: rest => (some m, { q with cache := rest })
  | [] => (none, q)

/-! ## The order of the messages -/

/-- The messages outside of the cache, the oldest first. -/
def incoming (q : BlockingMailQueue μ) : List μ := q.localQueue ++ q.mailQueue

/-- All messages, the oldest first. -/
def pending (q : BlockingMailQueue μ) : List μ := q.cache ++ q.incoming

variable {q : BlockingMailQueue μ}

@[simp] theorem incoming_put {m : μ} : (q.put m).incoming = q.incoming ++ [m] := by
  simp [put, incoming]

@[simp] theorem cache_put {m : μ} : (q.put m).cache = q.cache := rfl

@[simp] theorem pending_put {m : μ} : (q.put m).pending = q.pending ++ [m] := by
  simp [pending]

@[simp] theorem cache_get : q.get.2.cache = q.cache := by
  unfold get
  dsimp only
  split <;> split <;> rfl

/-- `get` takes the oldest message that is not in the cache. -/
theorem get_incoming : q.get.1.toList ++ q.get.2.incoming = q.incoming := by
  obtain ⟨mailQueue, localQueue, cache⟩ := q
  cases localQueue with
  | cons m rest => rfl
  | nil => cases mailQueue <;> simp [get, sync, incoming]

/-- `get` takes something wherever there is something. -/
theorem incoming_of_get_none (h : q.get.1 = none) : q.incoming = [] ∧ q.get.2.incoming = [] := by
  obtain ⟨mailQueue, localQueue, cache⟩ := q
  cases localQueue with
  | cons m rest => simp [get] at h
  | nil =>
    cases mailQueue with
    | cons m rest => simp [get, sync] at h
    | nil => simp [get, sync, incoming]

@[simp] theorem incoming_popToCache : q.popToCache.2.incoming = q.incoming := by
  unfold popToCache
  split <;> rfl

/-- `pop_to_cache` takes the oldest message of the cache. -/
theorem popToCache_cache : q.popToCache.1.toList ++ q.popToCache.2.cache = q.cache := by
  unfold popToCache
  split
  · next h => simp [h]
  · next h => simp [h]

theorem cache_of_popToCache_none (h : q.popToCache.1 = none) : q.popToCache.2.cache = [] := by
  unfold popToCache at h ⊢
  split at h
  · cases h
  · next hcache => simpa using hcache

@[simp] theorem incoming_pushToCache {msgPtr : Option μ} :
    (q.pushToCache msgPtr).2.incoming = q.incoming := by
  cases msgPtr <;> rfl

@[simp] theorem cache_pushToCache {msgPtr : Option μ} :
    (q.pushToCache msgPtr).2.cache = q.cache ++ msgPtr.toList := by
  cases msgPtr <;> simp [pushToCache]

end BlockingMailQueue

end StreamCloud
