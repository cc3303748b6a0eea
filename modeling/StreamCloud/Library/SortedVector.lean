-- SUMMARY: Vectors kept sorted by a key: binary search, and insertion at the upper bound.
import Mathlib.Data.List.Basic
import Mathlib.Order.Lattice

/-!
# Sorted vectors

A vector whose elements are sorted by a key is searched with `std::lower_bound`,
`std::upper_bound` and `std::binary_search`, and a new element is put in at the
upper bound of its key. On a vector that is partitioned by a key, the bounds are
the positions of the first element that is not below the key and of the first
one above it.
-/

namespace SortedVector

variable {β ι : Type*} [LinearOrder ι] (key : β → ι)

/-- `std::lower_bound`. -/
def lowerBound (l : List β) (x : ι) : ℕ := l.findIdx fun b => !decide (key b < x)

/-- `std::upper_bound`. -/
def upperBound (l : List β) (x : ι) : ℕ := l.findIdx fun b => decide (x < key b)

/-- `std::binary_search`. -/
def binarySearch (l : List β) (x : ι) : Bool :=
  match l[lowerBound key l x]? with
  | some b => !decide (x < key b)
  | none => false

/-- `insert` at the upper bound of a key. -/
def insertAt (l : List β) (x : ι) (b : β) : List β := l.insertIdx (upperBound key l x) b

/-- The keys increase, so that no two elements share one. -/
def Sorted (l : List β) : Prop := (l.map key).Pairwise (· < ·)

variable {key}

@[simp] theorem sorted_nil : Sorted key [] := List.Pairwise.nil

theorem sorted_cons {a : β} {l : List β} :
    Sorted key (a :: l) ↔ (∀ b ∈ l, key a < key b) ∧ Sorted key l := by
  simp [Sorted]

theorem Sorted.nodup {l : List β} (h : Sorted key l) : (l.map key).Nodup :=
  h.imp fun hlt => ne_of_lt hlt

/-! ## Searching -/

theorem lowerBound_cons (a : β) (l : List β) (x : ι) :
    lowerBound key (a :: l) x = if key a < x then lowerBound key l x + 1 else 0 := by
  unfold lowerBound
  rw [List.findIdx_cons]
  by_cases h : key a < x <;> simp [h]

theorem binarySearch_cons (a : β) (l : List β) (x : ι) :
    binarySearch key (a :: l) x =
      if key a < x then binarySearch key l x else !decide (x < key a) := by
  unfold binarySearch
  rw [lowerBound_cons]
  by_cases h : key a < x <;> simp [h]

/-- A key is found exactly when an element has it. -/
theorem Sorted.binarySearch_iff {l : List β} (h : Sorted key l) (x : ι) :
    binarySearch key l x = true ↔ x ∈ l.map key := by
  induction l with
  | nil => simp [binarySearch]
  | cons a l ih =>
    obtain ⟨habove, hl⟩ := sorted_cons.mp h
    rw [binarySearch_cons, List.map_cons, List.mem_cons]
    split
    · next hlt => rw [ih hl, or_iff_right (ne_of_gt hlt)]
    · next hnlt =>
      have hrest : x ∉ l.map key := by
        intro hmem
        obtain ⟨b, hb, rfl⟩ := List.mem_map.mp hmem
        exact hnlt (habove b hb)
      rw [or_iff_left hrest]
      have hle : x ≤ key a := not_lt.mp hnlt
      simp only [Bool.not_eq_true', decide_eq_false_iff_not, not_lt]
      exact ⟨fun hge => le_antisymm hle hge, fun heq => heq.ge⟩

/-- The lower bound of a key that an element has is the position of this element. -/
theorem Sorted.lowerBound_eq {l : List β} (h : Sorted key l) {i : ℕ} {b : β} (hb : l[i]? = some b) :
    lowerBound key l (key b) = i := by
  induction l generalizing i with
  | nil => simp at hb
  | cons a l ih =>
    obtain ⟨habove, hl⟩ := sorted_cons.mp h
    rw [lowerBound_cons]
    cases i with
    | zero =>
      rw [List.getElem?_cons_zero, Option.some.injEq] at hb
      rw [hb, if_neg (lt_irrefl _)]
    | succ i =>
      rw [List.getElem?_cons_succ] at hb
      rw [if_pos (habove b (List.mem_of_getElem? hb)), ih hl hb]

/-! ## Inserting -/

theorem insertAt_cons (a : β) (l : List β) (x : ι) (b : β) :
    insertAt key (a :: l) x b = if x < key a then b :: a :: l else a :: insertAt key l x b := by
  unfold insertAt upperBound
  rw [List.findIdx_cons]
  by_cases h : x < key a <;> simp [h]

theorem mem_insertAt {l : List β} {x : ι} {b c : β} :
    c ∈ insertAt key l x b ↔ c = b ∨ c ∈ l := by
  induction l with
  | nil => simp [insertAt, upperBound]
  | cons a l ih =>
    rw [insertAt_cons]
    split
    · rw [List.mem_cons]
    · rw [List.mem_cons, ih, List.mem_cons, or_left_comm]

/-- A new key is put where it belongs. -/
theorem Sorted.insertAt {l : List β} (h : Sorted key l) {b : β} (hb : key b ∉ l.map key) :
    Sorted key (insertAt key l (key b) b) := by
  induction l with
  | nil => simp [SortedVector.insertAt, upperBound, Sorted]
  | cons a l ih =>
    obtain ⟨habove, hl⟩ := sorted_cons.mp h
    rw [List.map_cons, List.mem_cons, not_or] at hb
    rw [insertAt_cons]
    split
    · next hlt =>
      refine sorted_cons.mpr ⟨fun c hc => ?_, h⟩
      rcases List.mem_cons.mp hc with rfl | hc
      · exact hlt
      · exact hlt.trans (habove c hc)
    · next hnlt =>
      have hlt : key a < key b := lt_of_le_of_ne (not_lt.mp hnlt) (Ne.symm hb.1)
      refine sorted_cons.mpr ⟨fun c hc => ?_, ih hl hb.2⟩
      rcases mem_insertAt.mp hc with rfl | hc
      · exact hlt
      · exact habove c hc

/-- A key above all the others goes to the end. -/
theorem insertAt_of_above {l : List β} {x : ι} (h : ∀ a ∈ l, key a < x) (b : β) :
    insertAt key l x b = l ++ [b] := by
  induction l with
  | nil => simp [insertAt, upperBound]
  | cons a l ih =>
    have ha : key a < x := h a List.mem_cons_self
    rw [insertAt_cons, if_neg ha.not_gt, ih fun c hc => h c (List.mem_cons_of_mem _ hc)]
    rfl

end SortedVector
