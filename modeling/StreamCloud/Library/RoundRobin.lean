-- SUMMARY: A cursor that goes round a list of members, which grows at its end, and how often each member has its turn.
import Mathlib.Data.List.Basic
import Mathlib.Data.List.Nodup
import Mathlib.Data.List.Count
import Mathlib.Tactic.Ring

/-!
# Round robin

A ring serves its members in turn: the cursor stands at the next one, and goes
back to the first behind the last. Members are only put in behind the others,
while the cursor goes round.

Everything is counted in rounds. Between two states of a ring there is a number
of rounds, and a member has been served once in each of them, but for the round
that had begun already and the one that has not ended yet (`Turns.rounds`).
-/

namespace RoundRobin

variable {ι : Type*}

structure Ring (ι : Type*) where
  members : List ι
  cursor : ℕ

namespace Ring

/-- The cursor stands at a member, if there is one. -/
def Inside (r : Ring ι) : Prop :=
  r.members = [] ∧ r.cursor = 0 ∨ r.cursor < r.members.length

/-- The cursor behind a turn. -/
def next (r : Ring ι) : ℕ := if r.members.length ≤ r.cursor + 1 then 0 else r.cursor + 1

def advance (r : Ring ι) : Ring ι := { r with cursor := r.next }

def grow (r : Ring ι) (m : ι) : Ring ι := { r with members := r.members ++ [m] }

theorem Inside.advance {r : Ring ι} (h : r.Inside) : r.advance.Inside := by
  rcases h with ⟨hempty, -⟩ | hlt
  · exact .inl ⟨hempty, by simp [Ring.advance, next, hempty]⟩
  · refine .inr ?_
    show r.next < r.members.length
    unfold next
    split <;> omega

theorem Inside.grow {r : Ring ι} (h : r.Inside) (m : ι) : (r.grow m).Inside := by
  refine .inr ?_
  show r.cursor < (r.members ++ [m]).length
  rw [List.length_append, List.length_singleton]
  rcases h with ⟨-, hzero⟩ | hlt <;> omega

end Ring

/-- The turns that a ring gives to its members, while it grows. -/
inductive Turns : Ring ι → List ι → Ring ι → Prop
  | refl (r : Ring ι) : Turns r [] r
  | serve {r r' : Ring ι} {served : List ι} {m : ι} :
      Turns r served r' → r'.members[r'.cursor]? = some m → Turns r (served ++ [m]) r'.advance
  | grow {r r' : Ring ι} {served : List ι} {m : ι} :
      Turns r served r' → m ∉ r'.members → Turns r served (r'.grow m)

namespace Turns

variable {r r' : Ring ι} {served : List ι}

theorem trans {r'' : Ring ι} {served' : List ι} (h : Turns r served r') (h' : Turns r' served' r'') :
    Turns r (served ++ served') r'' := by
  induction h' with
  | refl => rwa [List.append_nil]
  | serve _ hm ih =>
    rw [← List.append_assoc]
    exact ih.serve hm
  | grow _ hm ih => exact ih.grow hm

theorem inside (h : Turns r served r') (hin : r.Inside) : r'.Inside := by
  induction h with
  | refl => exact hin
  | serve _ _ ih => exact ih.advance
  | grow _ _ ih => exact ih.grow _

theorem nodup (h : Turns r served r') (hnodup : r.members.Nodup) : r'.members.Nodup := by
  induction h with
  | refl => exact hnodup
  | serve _ _ ih => exact ih
  | grow _ hm ih => exact List.nodup_append_comm.mp (List.nodup_cons.mpr ⟨hm, ih⟩)

/-- Members keep their places. -/
theorem getElem?_of_getElem? (h : Turns r served r') {p : ℕ} {m : ι} (hm : r.members[p]? = some m) :
    r'.members[p]? = some m := by
  induction h with
  | refl => exact hm
  | serve _ _ ih => exact ih
  | grow _ _ ih =>
    have hlt : p < _ := (List.getElem?_eq_some_iff.mp ih).1
    exact (List.getElem?_append_left hlt).trans ih

/-- Only members have turns. -/
theorem mem_members (h : Turns r served r') {m : ι} (hm : m ∈ served) : m ∈ r'.members := by
  induction h with
  | refl => cases hm
  | serve _ hserved ih =>
    rcases List.mem_append.mp hm with hm | hm
    · exact ih hm
    · rw [List.mem_singleton.mp hm]
      exact List.mem_of_getElem? hserved
  | grow _ _ ih => exact List.mem_append_left _ (ih hm)

theorem length_le (h : Turns r served r') : r.members.length ≤ r'.members.length := by
  induction h with
  | refl => exact le_rfl
  | serve _ _ ih => exact ih
  | grow _ _ ih => exact ih.trans (by simp [Ring.grow])

/-- One for a place that the cursor has passed in its round. -/
def passed (p cursor : ℕ) : ℕ := if p < cursor then 1 else 0

/-- A turn is the turn of one place, and it may end the round. -/
theorem passed_next {r : Ring ι} (hcursor : r.cursor < r.members.length) {p : ℕ} (hp : p < r.members.length) :
    passed p r.cursor + (if p = r.cursor then 1 else 0) =
      passed p r.next + if r.members.length ≤ r.cursor + 1 then 1 else 0 := by
  unfold passed Ring.next
  split_ifs <;> omega

variable [DecidableEq ι]

/-- The turns of a member that was there at the beginning, counted in rounds. As
long as no member comes in, the rounds account for all turns. -/
theorem rounds (h : Turns r served r') (hnodup : r.members.Nodup) :
    ∃ rounds,
      (∀ p m, r.members[p]? = some m →
        served.count m + passed p r.cursor = rounds + passed p r'.cursor) ∧
      (r'.members = r.members →
        served.length + r.cursor = rounds * r.members.length + r'.cursor) := by
  induction h with
  | refl => exact ⟨0, fun p m _ => by simp, fun _ => by simp⟩
  | @serve r' served m hserved hm ih =>
    obtain ⟨rounds, hcount, hlength⟩ := ih
    obtain ⟨hcursor, -⟩ := List.getElem?_eq_some_iff.mp hm
    have hnodup' := hserved.nodup hnodup
    refine ⟨rounds + if r'.members.length ≤ r'.cursor + 1 then 1 else 0, fun p m' hm' => ?_, fun hsame => ?_⟩
    · -- the member served is the one at the cursor, and no other
      have hplace : m = m' ↔ p = r'.cursor := by
        have hm'' := hserved.getElem?_of_getElem? hm'
        constructor
        · rintro rfl
          exact (List.getElem?_inj (List.getElem?_eq_some_iff.mp hm'').1 hnodup').mp (hm''.trans hm.symm)
        · rintro rfl
          exact Option.some.inj (hm.symm.trans hm'')
      have hp : p < r'.members.length :=
        (List.getElem?_eq_some_iff.mp (hserved.getElem?_of_getElem? hm')).1
      have hpassed := passed_next hcursor hp
      have hcount' := hcount p m' hm'
      have hone : [m].count m' = if p = r'.cursor then 1 else 0 := by
        rw [List.count_singleton]
        simp [hplace]
      rw [List.count_append, hone]
      show _ = _ + _ + passed p r'.next
      omega
    · have hsame' : r'.members = r.members := hsame
      have hlength' := hlength hsame'
      rw [List.length_append, List.length_singleton]
      show _ = _ + r'.next
      unfold Ring.next
      rw [hsame'] at hcursor ⊢
      split
      · have hlast : r'.cursor + 1 = r.members.length := by omega
        calc served.length + 1 + r.cursor
            = rounds * r.members.length + (r'.cursor + 1) := by omega
          _ = (rounds + 1) * r.members.length + 0 := by rw [hlast]; ring
      · simp only [Nat.add_zero]
        omega
  | @grow r' served m hserved hm ih =>
    obtain ⟨rounds, hcount, hlength⟩ := ih
    refine ⟨rounds, hcount, fun hsame => ?_⟩
    have hlonger : r'.members.length < (r'.grow m).members.length := by simp [Ring.grow]
    rw [hsame] at hlonger
    exact absurd hserved.length_le (not_le.mpr hlonger)

/-- As many turns as there are members, while no member comes in: one for each. -/
theorem once (h : Turns r served r') (hnodup : r.members.Nodup) (hin : r.Inside)
    (hsame : r'.members = r.members) (hlength : served.length = r.members.length) {m : ι}
    (hm : m ∈ r.members) : served.count m = 1 := by
  obtain ⟨rounds, hcount, hrounds⟩ := h.rounds hnodup
  have hin' := h.inside hin
  have hne : r.members ≠ [] := List.ne_nil_of_mem hm
  have hcursor : r.cursor < r.members.length := hin.resolve_left fun hempty => hne hempty.1
  have hcursor' : r'.cursor < r.members.length :=
    hsame ▸ hin'.resolve_left fun hempty => hne (hsame ▸ hempty.1)
  have hall := hrounds hsame
  have hone : rounds = 1 := by
    rcases rounds with _ | _ | rounds
    · omega
    · rfl
    · have hmore : (rounds + 1 + 1) * r.members.length =
          rounds * r.members.length + 2 * r.members.length := by ring
      omega
  subst hone
  have hback : r'.cursor = r.cursor := by omega
  obtain ⟨p, hp⟩ := List.getElem?_of_mem hm
  have hplace := hcount p m hp
  rw [hback] at hplace
  omega

end Turns

end RoundRobin
