-- SUMMARY: Which bodies a handler can read, and what follows for the handling of messages.
import StreamCloud.Core.Actor

/-!
# Typing of messages

A handler calls `body<T>()` for one type `T`. `Action.Reads` says that a body is
a `T`. `Action.Takes` says the same of attached handlers, and excludes the
standard ones.
-/

namespace StreamCloud

variable {α σ S : Type}

namespace Action

/-- The cast that this handler makes of its body is right. -/
def Reads : Action α σ → Body α → Prop
  | .syncContacts, .address _ => True
  | .skip, _ => True
  | .addChannel, .channel => True
  | .task _, .task _ => True
  | .transport _, .transport _ => True
  | .text _, .text _ => True
  | .silent _, _ => True
  | _, _ => False

/-- An attached handler, and a body that it can read. -/
def Takes : Action α σ → Body α → Prop
  | .task _, .task _ => True
  | .transport _, .transport _ => True
  | .text _, .text _ => True
  | .silent _, _ => True
  | _, _ => False

theorem Takes.reads {action : Action α σ} {body : Body α} (h : action.Takes body) :
    action.Reads body := by
  cases action <;> cases body <;> first | exact h | exact h.elim

@[simp] theorem reads_lift {lens : Lens S σ} {action : Action α σ} {body : Body α} :
    (action.lift lens).Reads body ↔ action.Reads body := by
  cases action <;> cases body <;> exact Iff.rfl

end Action

/-- A message that names no actor by its address. -/
def Envelope.Plain (e : Envelope α) : Prop := ∀ address, e.body ≠ .address address

namespace Program

variable {P : Program α S}

/-- The body of a message is of the type that its handler reads. -/
def WellTyped (P : Program α S) (e : Envelope α) : Prop :=
  (P.reaction e.dest e.command).Reads e.body

/-- The message is for an attached handler, which can read it. -/
def Taken (P : Program α S) (e : Envelope α) : Prop :=
  (P.reaction e.dest e.command).Takes e.body

theorem Taken.wellTyped {e : Envelope α} (h : P.Taken e) : P.WellTyped e := Action.Takes.reads h

variable [DecidableEq α] {env : Env} {n : Net α S} {e : Envelope α}

/-- A message that is not well typed is cast to a type it does not have. -/
theorem handle_of_not_wellTyped (h : ¬ P.WellTyped e) : P.handle env n e = .error .badCast := by
  unfold WellTyped at h
  unfold handle
  generalize P.reaction e.dest e.command = action at h
  unfold perform
  split <;> first | rfl | simp_all [Action.Reads]

/-- A message for an attached handler is handled by it. -/
theorem Handled.attached_of_taken {r : Net α S × List (Envelope α)} (h : Handled P env n e r)
    (ht : P.Taken e) :
    ∃ services action, r.1 = { n with services } ∧ (e.command, action) ∈ P.attached e.dest ∧
      Action.Ran env (P.ctx n e.dest) n.services action e.body (services, r.2) := by
  unfold Taken at ht
  cases h with
  | syncContacts hreaction => rw [hreaction] at ht; exact ht.elim
  | addChannel hreaction => rw [hreaction] at ht; exact ht.elim
  | skip hreaction => rw [hreaction] at ht; exact ht.elim
  | @attached action services out _ hmem hran => exact ⟨services, action, rfl, hmem, hran⟩

/-! ## Wiring

Only a message with an address in it changes what an actor's contacts are. -/

theorem Handled.contacts_eq {r : Net α S × List (Envelope α)} (h : Handled P env n e r)
    (hp : e.Plain) : r.1.contacts = n.contacts := by
  cases h with
  | syncContacts _ hbody => exact absurd hbody (hp _)
  | addChannel => rfl
  | skip => rfl
  | attached => rfl

omit [DecidableEq α] in
theorem plain_of_mem_skip {e' : Envelope α} (h : e' ∈ P.skip e) : e'.Plain := by
  unfold skip at h
  split at h
  · obtain rfl := List.mem_singleton.mp h
    exact fun _ h => nomatch h
  · cases h

omit [DecidableEq α] in
/-- What `skip` sends: the command, as a text, to a sender that handles errors. -/
theorem of_mem_skip {e' : Envelope α} (h : e' ∈ P.skip e) :
    "error" ∈ P.messageTypes e.sender ∧
      e' = { dest := e.sender, sender := e.dest, command := "error", body := .text e.command } := by
  unfold skip at h
  split at h
  · next herror => exact ⟨herror, List.mem_singleton.mp h⟩
  · cases h

omit [DecidableEq α] in
theorem text_of_mem_skip {e' : Envelope α} (h : e' ∈ P.skip e) (task : Task) : e'.body ≠ .task task := by
  unfold skip at h
  split at h
  · obtain rfl := List.mem_singleton.mp h
    exact fun h => nomatch h
  · cases h

theorem Handled.out_plain {r : Net α S × List (Envelope α)} (h : Handled P env n e r)
    (hattached : ∀ action services, (e.command, action) ∈ P.attached e.dest →
      Action.Ran env (P.ctx n e.dest) n.services action e.body (services, r.2) →
      ∀ e' ∈ r.2, e'.Plain) : ∀ e' ∈ r.2, e'.Plain := by
  cases h with
  | syncContacts => simp
  | addChannel => simp
  | skip => exact fun _ => plain_of_mem_skip
  | @attached action services out _ hmem hran => exact hattached action services hmem hran

end Program

end StreamCloud
