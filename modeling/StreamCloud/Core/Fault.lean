-- SUMMARY: How a handler can stop, what a catch block sees of it, and strings split on dots.
import StreamCloud.Library.Outcome
import Mathlib.Data.List.AList

/-!
# Faults

A `std::string` is a `String` here, one character for each byte.
-/

namespace StreamCloud

/-- The ways in which a handler stops other than by returning. Only the first
one is an exception. -/
inductive Fault
  | thrown (what : String)
  /-- `operator[]` of a vector at an index it does not have. -/
  | outOfRange
  /-- A holder cast to a type it does not hold. -/
  | badCast
  /-- A text read past its end. -/
  | overrun
deriving DecidableEq, Repr

/-- `try { body } catch (std::exception &e) { handler }`. -/
def catchStd {β : Type} (body : Except Fault β) (handler : String → Except Fault β) :
    Except Fault β :=
  match body with
  | .error (.thrown what) => handler what
  | r => r

@[simp] theorem catchStd_ok {β : Type} (b : β) (handler : String → Except Fault β) :
    catchStd (.ok b) handler = .ok b := rfl

@[simp] theorem catchStd_thrown {β : Type} (what : String) (handler : String → Except Fault β) :
    catchStd (.error (.thrown what)) handler = handler what := rfl

/-- What is caught is an exception, and what is returned comes from the body or
from the handler of one. -/
theorem catchStd_eq_ok {β : Type} {body : Except Fault β} {handler : String → Except Fault β}
    {b : β} :
    catchStd body handler = .ok b ↔
      body = .ok b ∨ ∃ what, body = .error (.thrown what) ∧ handler what = .ok b := by
  cases body with
  | ok b' => simp
  | error fault => cases fault <;> simp [catchStd]

theorem catchStd_ensures {β : Type} {body : Except Fault β} {handler : String → Except Fault β}
    {Q : β → Prop} (hbody : body.Ensures Q) (hhandler : ∀ what, (handler what).Ensures Q) :
    (catchStd body handler).Ensures Q := by
  unfold catchStd
  split
  · exact hhandler _
  · exact hbody

/-- The body of a `try`: it returns something that satisfies `Q`, or throws. -/
def Copes {β : Type} (body : Except Fault β) (Q : β → Prop) : Prop :=
  body.Yields Q ∨ ∃ what, body = .error (.thrown what)

section Copes

variable {β γ : Type} {body : Except Fault β} {Q : β → Prop}

theorem copes_of_yields (h : body.Yields Q) : Copes body Q := .inl h

@[simp] theorem copes_ok {b : β} : Copes (.ok b) Q ↔ Q b := by simp [Copes]

theorem copes_thrown {what : String} : Copes (.error (.thrown what) : Except Fault β) Q :=
  .inr ⟨what, rfl⟩

theorem copes_bind {f : β → Except Fault γ} {R : γ → Prop} (h : Copes body Q)
    (hf : ∀ b, Q b → Copes (f b) R) : Copes (body >>= f) R := by
  rcases h with ⟨b, rfl, hb⟩ | ⟨what, rfl⟩
  · exact hf b hb
  · exact copes_thrown

theorem copes_ite {c : Prop} [Decidable c] {r r' : Except Fault β} (h : c → Copes r Q)
    (h' : ¬ c → Copes r' Q) : Copes (if c then r else r') Q := by
  split
  · next hc => exact h hc
  · next hc => exact h' hc

/-- A `try` does its work when its body copes and its handler returns. -/
theorem catchStd_yields {handler : String → Except Fault β} (hbody : Copes body Q)
    (hhandler : ∀ what, (handler what).Yields Q) : (catchStd body handler).Yields Q := by
  rcases hbody with ⟨b, rfl, hb⟩ | ⟨what, rfl⟩
  · exact ⟨b, rfl, hb⟩
  · exact hhandler what

end Copes

/-! ## Strings and string containers -/

/-- `std::unordered_map<std::string, β>`. -/
abbrev StringMap (β : Type) := AList fun _ : String => β

/-- `std::unordered_set<std::string>`. -/
abbrev StringSet := StringMap Unit

/-- `boost::algorithm::split(_, s, is_any_of("."))`. -/
def split (s : String) : List String := (s.toList.splitOn '.').map String.ofList

theorem split_ne_nil (s : String) : split s ≠ [] := by
  simp [split, List.splitOn_ne_nil]

/-- What `split` takes apart, dots put together again. -/
theorem intercalate_split (s : String) :
    ['.'].intercalate ((split s).map String.toList) = s.toList := by
  have hmap : (split s).map String.toList = s.toList.splitOn '.' := by
    simp [split, Function.comp_def]
  rw [hmap, List.intercalate_splitOn]

theorem exists_split (s : String) : ∃ first rest, split s = first :: rest :=
  List.exists_cons_of_ne_nil (split_ne_nil s)

theorem split_injective : Function.Injective split := by
  intro s t h
  have hs : s.toList = t.toList := by rw [← intercalate_split s, ← intercalate_split t, h]
  exact String.toList_inj.mp hs

/-- A text without dots. -/
def DotFree (s : String) : Prop := '.' ∉ s.toList

instance (s : String) : Decidable (DotFree s) := inferInstanceAs (Decidable ('.' ∉ s.toList))

private theorem not_mem_of_mem_splitOn {l : List Char} (xs : List Char)
    (h : l ∈ xs.splitOn '.') : '.' ∉ l := by
  induction xs generalizing l with
  | nil => simp_all
  | cons x xs ih =>
    rw [List.splitOn_cons_eq_if_modifyHead] at h
    split at h
    · rcases List.mem_cons.mp h with rfl | hmem
      · exact List.not_mem_nil
      · exact ih hmem
    · next hx =>
      cases hp : xs.splitOn '.' with
      | nil => exact absurd hp (List.splitOn_ne_nil '.' xs)
      | cons first rest =>
        rw [hp, List.modifyHead_cons] at h
        have hfirst : '.' ∉ first := ih (by simp [hp])
        rcases List.mem_cons.mp h with rfl | hmem
        · simpa [hfirst] using fun heq => hx (by simp [← heq])
        · exact ih (by simp [hp, hmem])

/-- The pieces have no dots. -/
theorem dotFree_of_mem_split {s piece : String} (h : piece ∈ split s) : DotFree piece := by
  obtain ⟨l, hl, rfl⟩ := List.mem_map.mp h
  simpa [DotFree] using not_mem_of_mem_splitOn _ hl

/-- Texts without dots, joined by dots, are what `split` gives back. -/
theorem split_eq_of_intercalate {s : String} {pieces : List String} (hne : pieces ≠ [])
    (hdot : ∀ p ∈ pieces, DotFree p)
    (h : s.toList = ['.'].intercalate (pieces.map String.toList)) : split s = pieces := by
  have hl : s.toList.splitOn '.' = pieces.map String.toList := by
    rw [h]
    refine List.splitOn_intercalate '.' (fun l hl => ?_) (by simpa using hne)
    obtain ⟨p, hp, rfl⟩ := List.mem_map.mp hl
    exact hdot p hp
  simp [split, hl, Function.comp_def]

/-- A dot behind a text without dots is where the first piece ends. -/
theorem split_append_dot {a : String} (ha : DotFree a) (s : String) :
    split (a ++ "." ++ s) = a :: split s := by
  refine split_eq_of_intercalate (by simp) ?_ ?_
  · intro p hp
    rcases List.mem_cons.mp hp with rfl | hp
    · exact ha
    · exact dotFree_of_mem_split hp
  · obtain ⟨first, rest, hsplit⟩ := exists_split s
    have hs := intercalate_split s
    rw [hsplit] at hs ⊢
    simp [List.intercalate] at hs ⊢
    exact hs.symm

/-- Behind texts without dots, joining with a dot loses nothing. -/
theorem append_dot_inj {a b s t : String} (ha : DotFree a) (hb : DotFree b) :
    a ++ "." ++ s = b ++ "." ++ t ↔ a = b ∧ s = t := by
  constructor
  · intro h
    have hsplit : split (a ++ "." ++ s) = split (b ++ "." ++ t) := congrArg split h
    rw [split_append_dot ha, split_append_dot hb] at hsplit
    obtain ⟨hfirst, hrest⟩ := List.cons.inj hsplit
    exact ⟨hfirst, split_injective hrest⟩
  · rintro ⟨rfl, rfl⟩
    rfl

/-- `split` gives two pieces exactly on two dot-free texts with one dot between them. -/
theorem split_eq_pair {s a b : String} :
    split s = [a, b] ↔ s = a ++ "." ++ b ∧ DotFree a ∧ DotFree b := by
  constructor
  · intro h
    refine ⟨?_, dotFree_of_mem_split (s := s) (by simp [h]), dotFree_of_mem_split (s := s) (by simp [h])⟩
    apply String.toList_inj.mp
    rw [← intercalate_split s, h]
    simp [List.intercalate]
  · rintro ⟨rfl, ha, hb⟩
    refine split_eq_of_intercalate (by simp) ?_ (by simp [List.intercalate])
    simp [ha, hb]

end StreamCloud
