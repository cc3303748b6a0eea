-- SUMMARY: A store of records: what it is asked for, what it answers, and what it holds after any answers.
import StreamCloud.Library.Trace
import Mathlib.Data.Set.Insert

/-!
# Stores of records

A store is a set of records, some of which clash with others. It is asked to take one more
record, to drop some, or to list some. Where it cannot do so it says no, and
nothing changes. Whoever has seen all the answers knows what is stored (`mem_iff`).
-/

namespace RecordStore

variable {ρ ν : Type*}

/-- What a store is asked for, and what it is to answer. -/
inductive Call (ρ ν : Type*)
  | put (r : ρ) (answer : ν)
  | drop (p : ρ → Prop) (answer : ν)
  | list (p : ρ → Prop) (view : List ρ → ν)

/-- A call, whether anything can be done about it, and the answer, or a no. -/
structure Event (ρ ν : Type*) where
  call : Call ρ ν
  able : Bool
  answer : Option ν

/-- A store does what it is asked for, unless there is a record that clashes with the
new one. -/
inductive Step (clash : ρ → ρ → Prop) : Set ρ → Event ρ ν → Set ρ → Prop
  | put {S : Set ρ} {r : ρ} {answer : ν} : (∀ r' ∈ S, ¬ clash r' r) →
      Step clash S ⟨.put r answer, true, some answer⟩ (insert r S)
  | drop {S : Set ρ} {p : ρ → Prop} {answer : ν} :
      Step clash S ⟨.drop p answer, true, some answer⟩ {r ∈ S | ¬ p r}
  | list {S : Set ρ} {p : ρ → Prop} {view : List ρ → ν} {rows : List ρ} :
      (∀ r, r ∈ rows ↔ r ∈ S ∧ p r) → Step clash S ⟨.list p view, true, some (view rows)⟩ S
  | clashes {S : Set ρ} {r r' : ρ} {answer : ν} : r' ∈ S → clash r' r →
      Step clash S ⟨.put r answer, true, none⟩ S
  | unable {S : Set ρ} {call : Call ρ ν} : Step clash S ⟨call, false, none⟩ S

/-- The record was put into the store. -/
def Event.Puts (r : ρ) (e : Event ρ ν) : Prop := ∃ answer, e.call = .put r answer ∧ e.answer.isSome

/-- The record was dropped, if it was there. -/
def Event.Drops (r : ρ) (e : Event ρ ν) : Prop :=
  ∃ p answer, e.call = .drop p answer ∧ p r ∧ e.answer.isSome

variable {clash : ρ → ρ → Prop} {S S₀ S' : Set ρ}

/-- The step lemma. -/
theorem Step.mem_iff {e : Event ρ ν} (h : Step clash S e S') (r : ρ) :
    r ∈ S' ↔ e.Puts r ∨ r ∈ S ∧ ¬ e.Drops r := by
  cases h with
  | put =>
    simp only [Set.mem_insert_iff, Event.Puts, Event.Drops, Call.put.injEq, reduceCtorEq, false_and,
      exists_false, not_false_eq_true, and_true, Option.isSome_some]
    exact or_congr_left ⟨fun h => ⟨_, h.symm, rfl⟩, fun ⟨_, h, _⟩ => h.symm⟩
  | drop =>
    simp only [Set.mem_ofPred_eq, Event.Puts, Event.Drops, Call.drop.injEq, reduceCtorEq, exists_false,
      false_or, Option.isSome_some, and_true]
    refine and_congr_right fun _ => not_congr ⟨fun h => ⟨_, _, ⟨rfl, rfl⟩, h⟩, ?_⟩
    rintro ⟨_, _, ⟨rfl, -⟩, h⟩
    exact h
  | list => simp [Event.Puts, Event.Drops]
  | clashes => simp [Event.Puts, Event.Drops]
  | unable => simp [Event.Puts, Event.Drops]

/-- A record is in the store if it was put there and not dropped since, or was there
all the time. -/
theorem mem_iff {events : List (Event ρ ν)} (h : Lts.Trace (Step clash) S₀ events S) (r : ρ) :
    r ∈ S ↔ Lts.Since (Event.Puts r) (Event.Drops r) events ∨ r ∈ S₀ ∧ ∀ e ∈ events, ¬ e.Drops r := by
  refine h.invariant (fun events S => r ∈ S ↔
    Lts.Since (Event.Puts r) (Event.Drops r) events ∨ r ∈ S₀ ∧ ∀ e ∈ events, ¬ e.Drops r) ?_ ?_
  · simp [Lts.not_since_nil]
  · intro events S e S' ih hstep
    rw [hstep.mem_iff, ih, Lts.since_snoc]
    simp only [List.mem_append, List.mem_singleton, or_imp, forall_and, forall_eq]
    tauto

/-! ## Tables -/

/-- A record that is made of a row with a property. -/
def Among {τ : Type*} (record : τ → ρ) (p : τ → Prop) (r : ρ) : Prop := ∃ row, record row = r ∧ p row

/-- A table whose rows are records, one among others that stay. -/
structure Table (σ τ ρ : Type*) where
  rows : σ → List τ
  record : τ → ρ
  others : Set ρ
  injective : Function.Injective record
  notMem : ∀ row, record row ∉ others

namespace Table

variable {σ τ : Type*} (t : Table σ τ ρ) {s s' : σ}

/-- What is stored, in one state of the table. -/
def records (s : σ) : Set ρ := {r | Among t.record (· ∈ t.rows s) r} ∪ t.others

variable {t}

theorem mem_records {r : ρ} : r ∈ t.records s ↔ Among t.record (· ∈ t.rows s) r ∨ r ∈ t.others := Iff.rfl

theorem record_mem {row : τ} : t.record row ∈ t.records s ↔ row ∈ t.rows s := by
  rw [mem_records, or_iff_left (t.notMem row)]
  constructor
  · rintro ⟨row', heq, hrow⟩
    rwa [← t.injective heq]
  · intro hrow
    exact ⟨row, rfl, hrow⟩

theorem step_put {row : τ} {answer : ν} (hrows : ∀ row', row' ∈ t.rows s' ↔ row' ∈ t.rows s ∨ row' = row)
    (hclash : ∀ r' ∈ t.records s, ¬ clash r' (t.record row)) :
    Step clash (t.records s) ⟨.put (t.record row) answer, true, some answer⟩ (t.records s') := by
  have hrecords : t.records s' = insert (t.record row) (t.records s) := by
    ext r
    simp only [Set.mem_insert_iff, mem_records, Among, hrows]
    constructor
    · rintro (⟨row', rfl, hrow | rfl⟩ | hother)
      · exact .inr (.inl ⟨row', rfl, hrow⟩)
      · exact .inl rfl
      · exact .inr (.inr hother)
    · rintro (rfl | ⟨row', rfl, hrow⟩ | hother)
      · exact .inl ⟨row, rfl, .inr rfl⟩
      · exact .inl ⟨row', rfl, .inl hrow⟩
      · exact .inr hother
  rw [hrecords]
  exact .put hclash

theorem step_drop {p : τ → Prop} {answer : ν} (hrows : ∀ row, row ∈ t.rows s' ↔ row ∈ t.rows s ∧ ¬ p row) :
    Step clash (t.records s) ⟨.drop (Among t.record p) answer, true, some answer⟩ (t.records s') := by
  have hrecords : t.records s' = {r ∈ t.records s | ¬ Among t.record p r} := by
    ext r
    simp only [Set.mem_ofPred_eq, mem_records]
    constructor
    · rintro (⟨row, rfl, hrow⟩ | hother)
      · refine ⟨.inl ⟨row, rfl, ((hrows row).mp hrow).1⟩, ?_⟩
        rintro ⟨row', heq, hp⟩
        exact ((hrows row).mp hrow).2 (t.injective heq ▸ hp)
      · refine ⟨.inr hother, ?_⟩
        rintro ⟨row, rfl, -⟩
        exact t.notMem row hother
    · rintro ⟨⟨row, rfl, hrow⟩ | hother, hnot⟩
      · exact .inl ⟨row, rfl, (hrows row).mpr ⟨hrow, fun hp => hnot ⟨row, rfl, hp⟩⟩⟩
      · exact .inr hother
  rw [hrecords]
  exact .drop

theorem step_list {p : τ → Prop} {view : List ρ → ν} {found : List τ}
    (hfound : ∀ row, row ∈ found ↔ row ∈ t.rows s ∧ p row) :
    Step clash (t.records s)
      ⟨.list (Among t.record p) view, true, some (view (found.map t.record))⟩ (t.records s) := by
  refine .list fun r => ?_
  rw [List.mem_map]
  constructor
  · rintro ⟨row, hrow, rfl⟩
    obtain ⟨hmem, hp⟩ := (hfound row).mp hrow
    exact ⟨record_mem.mpr hmem, row, rfl, hp⟩
  · rintro ⟨hmem, row, rfl, hp⟩
    exact ⟨row, (hfound row).mpr ⟨record_mem.mp hmem, hp⟩, rfl⟩

end Table

end RecordStore
