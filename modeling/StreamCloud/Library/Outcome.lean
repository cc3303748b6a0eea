-- SUMMARY: Partial and total correctness of computations that may fail.
import Mathlib.Logic.Basic

/-!
# Outcomes

A computation that may fail is a value of `Except`. `Ensures` is its partial
correctness, `Returns` says that it does not fail and `Yields` is its total
correctness. The rules follow the computation's own structure, so that `simp`
reads a goal about a sequence of steps as a goal about each step.
-/

namespace Except

universe u v

variable {φ : Type v} {α β : Type u}

/-- Whatever the computation returns satisfies `Q`. -/
def Ensures (r : Except φ α) (Q : α → Prop) : Prop := ∀ a, r = .ok a → Q a

/-- The computation does not fail. -/
def Returns (r : Except φ α) : Prop := ∃ a, r = .ok a

@[simp] theorem ensures_ok {a : α} {Q : α → Prop} : (ok a : Except φ α).Ensures Q ↔ Q a :=
  ⟨fun h => h a rfl, fun h _ heq => Except.ok.inj heq ▸ h⟩

@[simp] theorem ensures_pure {a : α} {Q : α → Prop} : (pure a : Except φ α).Ensures Q ↔ Q a :=
  ensures_ok

@[simp] theorem ensures_error {e : φ} {Q : α → Prop} : (error e : Except φ α).Ensures Q :=
  fun _ heq => nomatch heq

@[simp] theorem ensures_throw {e : φ} {Q : α → Prop} : (throw e : Except φ α).Ensures Q :=
  ensures_error

@[simp] theorem ensures_bind {r : Except φ α} {f : α → Except φ β} {Q : β → Prop} :
    (r >>= f).Ensures Q ↔ r.Ensures fun a => (f a).Ensures Q := by
  cases r with
  | error e => exact ⟨fun _ => ensures_error, fun _ => ensures_error⟩
  | ok a => simp only [ensures_ok]; exact Iff.rfl

@[simp] theorem ensures_map {r : Except φ α} {f : α → β} {Q : β → Prop} :
    (f <$> r).Ensures Q ↔ r.Ensures fun a => Q (f a) := by
  cases r with
  | error e => exact ⟨fun _ => ensures_error, fun _ => ensures_error⟩
  | ok a => simp only [ensures_ok]; exact ensures_ok

/-- A branch is only answered for where it is taken. -/
theorem ensures_ite {c : Prop} [Decidable c] {r r' : Except φ α} {Q : α → Prop}
    (h : c → r.Ensures Q) (h' : ¬ c → r'.Ensures Q) : (if c then r else r').Ensures Q := by
  split
  · next hc => exact h hc
  · next hc => exact h' hc

/-- What follows a computation has to be right for every value it returns. -/
theorem Ensures.andThen {r : Except φ α} {f : α → Except φ β} {P : α → Prop} {Q : β → Prop}
    (h : r.Ensures P) (hf : ∀ a, P a → (f a).Ensures Q) : (r >>= f).Ensures Q :=
  ensures_bind.mpr fun a ha => hf a (h a ha)

theorem Ensures.mono {r : Except φ α} {Q Q' : α → Prop} (h : r.Ensures Q)
    (himp : ∀ a, Q a → Q' a) : r.Ensures Q' :=
  fun a heq => himp a (h a heq)

@[simp] theorem returns_ok {a : α} : (ok a : Except φ α).Returns := ⟨a, rfl⟩

@[simp] theorem returns_pure {a : α} : (pure a : Except φ α).Returns := ⟨a, rfl⟩

@[simp] theorem not_returns_error {e : φ} : ¬ (error e : Except φ α).Returns :=
  fun ⟨_, heq⟩ => nomatch heq

@[simp] theorem not_returns_throw {e : φ} : ¬ (throw e : Except φ α).Returns :=
  not_returns_error

theorem returns_bind {r : Except φ α} {f : α → Except φ β} :
    (r >>= f).Returns ↔ ∃ a, r = .ok a ∧ (f a).Returns := by
  cases r with
  | error e => exact ⟨fun h => absurd h not_returns_error, fun ⟨_, heq, _⟩ => nomatch heq⟩
  | ok a => exact ⟨fun h => ⟨a, rfl, h⟩, fun ⟨_, heq, h⟩ => Except.ok.inj heq ▸ h⟩

theorem bind_eq_ok {r : Except φ α} {f : α → Except φ β} {b : β} :
    (r >>= f) = .ok b ↔ ∃ a, r = .ok a ∧ f a = .ok b := by
  cases r with
  | error e => exact ⟨fun h => (nomatch h), fun ⟨_, heq, _⟩ => nomatch heq⟩
  | ok a => exact ⟨fun h => ⟨a, rfl, h⟩, fun ⟨_, heq, h⟩ => Except.ok.inj heq ▸ h⟩

@[simp] theorem ok_bind' {a : α} {f : α → Except φ β} : ((ok a : Except φ α) >>= f) = f a := rfl

@[simp] theorem error_bind' {e : φ} {f : α → Except φ β} :
    ((error e : Except φ α) >>= f) = error e := rfl

/-- A list of computations run in order returns exactly when each of them does. -/
theorem returns_mapM {γ : Type u} {f : γ → Except φ β} {l : List γ} :
    (l.mapM f).Returns ↔ ∀ x ∈ l, (f x).Returns := by
  induction l with
  | nil => simp
  | cons x xs ih =>
    simp only [List.mapM_cons, returns_bind, List.mem_cons, forall_eq_or_imp]
    constructor
    · rintro ⟨b, hb, bs, hbs, _⟩
      exact ⟨⟨b, hb⟩, ih.mp ⟨bs, hbs⟩⟩
    · rintro ⟨⟨b, hb⟩, hrest⟩
      obtain ⟨bs, hbs⟩ := ih.mpr hrest
      exact ⟨b, hb, bs, hbs, returns_pure⟩

/-! ## Total correctness -/

/-- The computation returns, and what it returns satisfies `Q`. -/
def Yields (r : Except φ α) (Q : α → Prop) : Prop := ∃ a, r = .ok a ∧ Q a

@[simp] theorem yields_ok {a : α} {Q : α → Prop} : (ok a : Except φ α).Yields Q ↔ Q a := by
  simp [Yields]

@[simp] theorem yields_pure {a : α} {Q : α → Prop} : (pure a : Except φ α).Yields Q ↔ Q a :=
  yields_ok

@[simp] theorem yields_bind {r : Except φ α} {f : α → Except φ β} {Q : β → Prop} :
    (r >>= f).Yields Q ↔ r.Yields fun a => (f a).Yields Q := by
  simp only [Yields, bind_eq_ok]
  constructor
  · rintro ⟨b, ⟨a, ha, hb⟩, hQ⟩
    exact ⟨a, ha, b, hb, hQ⟩
  · rintro ⟨a, ha, b, hb, hQ⟩
    exact ⟨b, ⟨a, ha, hb⟩, hQ⟩

theorem Yields.mono {r : Except φ α} {Q Q' : α → Prop} (h : r.Yields Q) (himp : ∀ a, Q a → Q' a) :
    r.Yields Q' := by
  obtain ⟨a, heq, ha⟩ := h
  exact ⟨a, heq, himp a ha⟩

theorem Yields.returns {r : Except φ α} {Q : α → Prop} (h : r.Yields Q) : r.Returns := by
  obtain ⟨a, heq, -⟩ := h
  exact ⟨a, heq⟩

theorem Returns.yields {r : Except φ α} (h : r.Returns) : r.Yields fun _ => True := by
  obtain ⟨a, heq⟩ := h
  exact ⟨a, heq, trivial⟩

/-- A branch only has to do its work where it is taken. -/
theorem yields_ite {c : Prop} [Decidable c] {r r' : Except φ α} {Q : α → Prop}
    (h : c → r.Yields Q) (h' : ¬ c → r'.Yields Q) : (if c then r else r').Yields Q := by
  split
  · next hc => exact h hc
  · next hc => exact h' hc

/-- The first part of a computation that returns does so too. -/
theorem Returns.of_bind {r : Except φ α} {f : α → Except φ β} (h : (r >>= f).Returns) : r.Returns := by
  obtain ⟨a, heq, -⟩ := returns_bind.mp h
  exact ⟨a, heq⟩

end Except
