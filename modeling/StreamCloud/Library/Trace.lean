-- SUMMARY: Labelled transition systems: runs with their events, invariants, what has last begun or ended, simulations, termination, and the FIFO queue.
import Mathlib.Data.List.Induction
import Mathlib.Order.WellFounded

/-!
# Traces

A system takes steps, each of them with an event. A trace is a run from a state
together with its events. What a trace does is known from a simpler system that
simulates it; the FIFO queue is the one that mailboxes are compared with.
-/

namespace Lts

variable {σ τ ε δ : Type*}

/-- A run from a state, with its events in order. -/
inductive Trace (step : σ → ε → σ → Prop) (s₀ : σ) : List ε → σ → Prop
  | nil : Trace step s₀ [] s₀
  | snoc {events : List ε} {s s' : σ} {e : ε} : Trace step s₀ events s → step s e s' →
      Trace step s₀ (events ++ [e]) s'

variable {step step' : σ → ε → σ → Prop} {s₀ s : σ} {events : List ε}

/-- The run rule, for facts about a state and the events that led to it. -/
theorem Trace.invariant (h : Trace step s₀ events s) (I : List ε → σ → Prop) (hstart : I [] s₀)
    (hstep : ∀ events s e s', I events s → step s e s' → I (events ++ [e]) s') : I events s := by
  induction h with
  | nil => exact hstart
  | snoc _ hs ih => exact hstep _ _ _ _ ih hs

/-- The events of a run are those of any system that takes its steps. -/
theorem Trace.mono (h : Trace step s₀ events s) (hstep : ∀ s e s', step s e s' → step' s e s') :
    Trace step' s₀ events s := by
  induction h with
  | nil => exact .nil
  | snoc _ hs ih => exact ih.snoc (hstep _ _ _ hs)

/-- A run, continued. -/
theorem Trace.append {events' : List ε} {s' : σ} (h : Trace step s₀ events s)
    (hrest : Trace step s events' s') : Trace step s₀ (events ++ events') s' := by
  induction hrest with
  | nil => rwa [List.append_nil]
  | snoc _ hs ih =>
    rw [← List.append_assoc]
    exact ih.snoc hs

/-- A step before a run. -/
theorem Trace.cons {e : ε} {s₁ : σ} (hs : step s₀ e s₁) (h : Trace step s₁ events s) :
    Trace step s₀ (e :: events) s := (Trace.nil.snoc hs).append h

/-- Something happened, and nothing that ends it did afterwards. -/
def Since (begins ends : ε → Prop) (events : List ε) : Prop :=
  ∃ before e after, events = before ++ e :: after ∧ begins e ∧ ∀ e' ∈ after, ¬ ends e'

theorem not_since_nil {begins ends : ε → Prop} : ¬ Since begins ends [] := by
  rintro ⟨before, e, after, hevents, -⟩
  simp at hevents

/-- One more event: it begins, or it does not end what was begun before. -/
theorem since_snoc {begins ends : ε → Prop} {e : ε} :
    Since begins ends (events ++ [e]) ↔ begins e ∨ Since begins ends events ∧ ¬ ends e := by
  constructor
  · rintro ⟨before, first, after, hevents, hbegins, hafter⟩
    -- either `e` is the event that begins, or it is the last one after it
    cases after using List.reverseRecOn with
    | nil =>
      obtain ⟨-, hlast⟩ := List.append_inj' hevents rfl
      obtain rfl : e = first := by simpa using hlast
      exact .inl hbegins
    | append_singleton after last =>
      rw [← List.cons_append, ← List.append_assoc] at hevents
      obtain ⟨hbefore, hlast⟩ := List.append_inj' hevents rfl
      obtain rfl : e = last := by simpa using hlast
      refine .inr ⟨⟨before, first, after, hbefore, hbegins, fun x hx => ?_⟩, ?_⟩
      · exact hafter x (by simp [hx])
      · exact hafter e (by simp)
  · rintro (hbegins | ⟨⟨before, first, after, rfl, hbegins, hafter⟩, hends⟩)
    · exact ⟨events, e, [], rfl, hbegins, by simp⟩
    · refine ⟨before, first, after ++ [e], by simp, hbegins, fun x hx => ?_⟩
      rcases List.mem_append.mp hx with hx | hx
      · exact hafter x hx
      · rwa [List.mem_singleton.mp hx]

/-- The rule for termination: a measure that every step from a state with the
invariant lowers. -/
theorem acc_of_lt {β : Type*} [LT β] [WellFoundedLT β] (I : σ → Prop) (f : σ → β)
    (hstep : ∀ s e s', I s → step s e s' → I s' ∧ f s' < f s) (hs : I s) :
    Acc (fun s' s => ∃ e, step s e s') s := by
  induction s using (InvImage.wf f (wellFounded_lt (α := β))).induction with
  | _ s ih =>
    refine ⟨s, fun s' ⟨e, hse⟩ => ?_⟩
    obtain ⟨hs', hlt⟩ := hstep s e s' hs hse
    exact ih s' hlt hs'

/-- One step of a system, or none. -/
def StepOf (step : τ → δ → τ → Prop) : Option δ → τ → τ → Prop
  | some d, t, t' => step t d t'
  | none, t, t' => t' = t

/-- The rule for a forward simulation: every step is one step of the other system
or none, as its event says. -/
theorem Trace.simulates {abstractStep : τ → δ → τ → Prop} {t₀ : τ} (h : Trace step s₀ events s)
    (R : σ → τ → Prop) (label : ε → Option δ) (hstart : R s₀ t₀)
    (hstep : ∀ s e s' t, R s t → step s e s' →
      ∃ t', StepOf abstractStep (label e) t t' ∧ R s' t') :
    ∃ t, Trace abstractStep t₀ (events.filterMap label) t ∧ R s t := by
  induction h with
  | nil => exact ⟨t₀, .nil, hstart⟩
  | @snoc events s s' e _ hs ih =>
    obtain ⟨t, htrace, hR⟩ := ih
    obtain ⟨t', habstract, hR'⟩ := hstep s e s' t hR hs
    refine ⟨t', ?_, hR'⟩
    rw [List.filterMap_append, List.filterMap_cons, List.filterMap_nil]
    cases hlabel : label e with
    | none =>
      rw [hlabel] at habstract
      obtain rfl : t' = t := habstract
      simpa using htrace
    | some d =>
      rw [hlabel] at habstract
      exact htrace.snoc habstract

end Lts

/-! ## The FIFO queue -/

namespace Fifo

variable {μ : Type*}

inductive Event (μ : Type*)
  | put (m : μ)
  | take (m : μ)

inductive Step : List μ → Event μ → List μ → Prop
  | put (q : List μ) (m : μ) : Step q (.put m) (q ++ [m])
  | take (q : List μ) (m : μ) : Step (m :: q) (.take m) q

variable {q q' : List μ} {m : μ}

theorem Step.eq_of_put (h : Step q (.put m) q') : q' = q ++ [m] := by
  cases h
  rfl

theorem Step.eq_of_take (h : Step q (.take m) q') : q = m :: q' := by
  cases h
  rfl

def Event.putValue : Event μ → Option μ
  | .put m => some m
  | .take _ => none

def Event.takenValue : Event μ → Option μ
  | .put _ => none
  | .take m => some m

/-- What was put into a queue is what was taken out of it and what is still there. -/
theorem put_eq_taken_append {events : List (Event μ)} {q : List μ}
    (h : Lts.Trace Step [] events q) :
    events.filterMap Event.putValue = events.filterMap Event.takenValue ++ q := by
  refine h.invariant (fun events q =>
    events.filterMap Event.putValue = events.filterMap Event.takenValue ++ q) rfl ?_
  intro events q e q' hq hstep
  cases hstep with
  | put m => simp [Event.putValue, Event.takenValue, hq]
  | take m => simp [Event.putValue, Event.takenValue, hq]

end Fifo
