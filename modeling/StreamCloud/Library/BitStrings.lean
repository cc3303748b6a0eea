-- SUMMARY: Numbers of a fixed width as strings of bits, and strings of bits cut into numbers of another width.
import Mathlib.Data.List.Basic
import Mathlib.Data.Nat.Notation
import Mathlib.Tactic.Ring

/-!
# Bit strings

A number of some width is a string of bits, the first of them counting most. A string
of bits is cut into numbers of a width; bits at its end that do not make up a number
are dropped.
-/

namespace BitString

/-- The last bits of a number. -/
def bits : ℕ → ℕ → List Bool
  | 0, _ => []
  | width + 1, n => n.testBit width :: bits width n

/-- The number that bits stand for. -/
def number : List Bool → ℕ
  | [] => 0
  | b :: rest => 2 ^ rest.length * b.toNat + number rest

/-- The numbers of a width that bits make up. -/
def chunks (width : ℕ) (l : List Bool) : List ℕ :=
  (List.range (l.length / width)).map fun k => number ((l.drop (width * k)).take width)

variable {width : ℕ}

@[simp] theorem length_bits (width n : ℕ) : (bits width n).length = width := by
  induction width with
  | zero => rfl
  | succ width ih => rw [bits, List.length_cons, ih]

theorem bits_zero (width : ℕ) : bits width 0 = List.replicate width false := by
  induction width with
  | zero => rfl
  | succ width ih => rw [bits, ih, Nat.zero_testBit, List.replicate_succ]

/-- Bits behind bits. -/
theorem bits_append (high low x : ℕ) {y : ℕ} (hy : y < 2 ^ low) :
    bits high x ++ bits low y = bits (high + low) (2 ^ low * x + y) := by
  induction high with
  | zero =>
    have hlow : ∀ w ≤ low, bits w y = bits w (2 ^ low * x + y) := by
      intro w hw
      induction w with
      | zero => rfl
      | succ w ih =>
        rw [bits, bits, Nat.testBit_two_pow_mul_add x hy w, if_pos (by omega), ih (by omega)]
    rw [Nat.zero_add, ← hlow low le_rfl]
    rfl
  | succ high ih =>
    have hbit : (2 ^ low * x + y).testBit (high + low) = x.testBit high := by
      rw [Nat.testBit_two_pow_mul_add x hy, if_neg (by omega), Nat.add_sub_cancel]
    rw [Nat.succ_add, bits, bits, List.cons_append, ih, hbit]

theorem number_lt (l : List Bool) : number l < 2 ^ l.length := by
  induction l with
  | nil => simp [number]
  | cons b rest ih =>
    rw [number, List.length_cons, Nat.pow_succ]
    cases b <;> simp only [Bool.toNat_false, Bool.toNat_true] <;> omega

theorem bits_number (l : List Bool) : bits l.length (number l) = l := by
  induction l with
  | nil => rfl
  | cons b rest ih =>
    have hone : bits 1 b.toNat = [b] := by cases b <;> rfl
    rw [number, List.length_cons, Nat.add_comm, ← bits_append 1 rest.length b.toNat (number_lt rest), hone, ih]
    rfl

theorem bits_injective {x y : ℕ} (hx : x < 2 ^ width) (hy : y < 2 ^ width) (h : bits width x = bits width y) :
    x = y := by
  refine Nat.eq_of_testBit_eq fun k => ?_
  by_cases hk : k < width
  · have hbits : ∀ w, k < w → bits w x = bits w y → x.testBit k = y.testBit k := by
      intro w hkw heq
      induction w with
      | zero => omega
      | succ w ih =>
        obtain ⟨hhead, htail⟩ := List.cons.inj heq
        rcases Nat.lt_succ_iff_lt_or_eq.mp hkw with hlt | rfl
        · exact ih hlt htail
        · exact hhead
    exact hbits width hk h
  · have hpow : 2 ^ width ≤ 2 ^ k := Nat.pow_le_pow_right (by decide) (by omega)
    rw [Nat.testBit_lt_two_pow (by omega), Nat.testBit_lt_two_pow (by omega)]

theorem number_bits {n : ℕ} (h : n < 2 ^ width) : number (bits width n) = n := by
  have hlt := number_lt (bits width n)
  have heq := bits_number (bits width n)
  rw [length_bits] at hlt heq
  exact bits_injective hlt h heq

/-! ## Cutting -/

theorem chunks_of_length_lt {l : List Bool} (h : l.length < width) : chunks width l = [] := by
  rw [chunks, Nat.div_eq_of_lt h]
  rfl

theorem length_chunks (width : ℕ) (l : List Bool) : (chunks width l).length = l.length / width := by
  rw [chunks, List.length_map, List.length_range]

theorem lt_of_mem_chunks {l : List Bool} {n : ℕ} (h : n ∈ chunks width l) : n < 2 ^ width := by
  obtain ⟨k, -, rfl⟩ := List.mem_map.mp h
  exact (number_lt _).trans_le (Nat.pow_le_pow_right (by decide) (List.length_take_le _ _))

/-- The first number is that of the first bits. -/
theorem chunks_append {front : List Bool} (hwidth : 0 < width) (hfront : front.length = width) (rest : List Bool) :
    chunks width (front ++ rest) = number front :: chunks width rest := by
  have hcount : (front ++ rest).length / width = rest.length / width + 1 := by
    rw [List.length_append, hfront, Nat.add_comm, Nat.add_div_right _ hwidth]
  rw [chunks, hcount, List.range_succ_eq_map, List.map_cons, List.map_map, chunks]
  refine congrArg₂ List.cons ?_ (List.map_congr_left fun k _ => ?_)
  · rw [Nat.mul_zero, List.drop_zero, List.take_left' hfront]
  · rw [Function.comp_apply, Nat.mul_succ, Nat.add_comm, ← List.drop_drop, List.drop_left' hfront]

theorem chunks_bits_append {n : ℕ} (hwidth : 0 < width) (h : n < 2 ^ width) (rest : List Bool) :
    chunks width (bits width n ++ rest) = n :: chunks width rest := by
  rw [chunks_append hwidth (length_bits width n), number_bits h]

/-- Numbers are cut out of their own bits. -/
theorem chunks_flatMap_bits {ns : List ℕ} (hwidth : 0 < width) (hns : ∀ n ∈ ns, n < 2 ^ width) {rest : List Bool}
    (hrest : rest.length < width) : chunks width (ns.flatMap (bits width) ++ rest) = ns := by
  induction ns with
  | nil => exact chunks_of_length_lt hrest
  | cons n ns ih =>
    rw [List.flatMap_cons, List.append_assoc, chunks_bits_append hwidth (hns n (by simp)),
      ih fun n' hn' => hns n' (List.mem_cons_of_mem _ hn')]

/-- The bits of the numbers that bits are cut into. -/
theorem flatMap_bits_chunks (hwidth : 0 < width) (l : List Bool) :
    (chunks width l).flatMap (bits width) = l.take (width * (l.length / width)) := by
  induction hlength : l.length using Nat.strongRecOn generalizing l with
  | _ length ih =>
    by_cases hshort : l.length < width
    · rw [chunks_of_length_lt hshort, ← hlength, Nat.div_eq_of_lt hshort, Nat.mul_zero, List.take_zero]
      rfl
    · have hfront : (l.take width).length = width := by rw [List.length_take]; omega
      have hrest := ih (l.drop width).length (by rw [List.length_drop]; omega) (l.drop width) rfl
      have hcount : length / width = (l.drop width).length / width + 1 := by
        rw [List.length_drop, hlength, ← Nat.add_div_right _ hwidth]
        congr 1
        omega
      have hbits : bits width (number (l.take width)) = l.take width := by
        have h := bits_number (l.take width)
        rwa [hfront] at h
      conv_lhs => rw [← List.take_append_drop width l]
      rw [chunks_append hwidth hfront, List.flatMap_cons, hbits, hrest, hcount, Nat.mul_succ, Nat.add_comm,
        List.take_add]

end BitString
