-- SUMMARY: Base64 texts are the bits of their bytes, cut into groups of six, and are decoded to the bytes they came from.
import StreamCloud.Crypt.Base64
import StreamCloud.Library.BitStrings
import Mathlib.Tactic.IntervalCases

/-!
# Base64

The encoder writes the bits of its bytes in groups of six, and the decoder cuts the
bits of the characters in front into bytes. What their arrays hold at first makes no
difference.
-/

namespace StreamCloud.Base64

open BitString

/-! ## The standard -/

def bitsOfBytes (bytes : List UInt8) : List Bool := bytes.flatMap fun b => bits 8 b.toNat

def bitsOfText (text : List UInt8) : List Bool := text.flatMap fun c => bits 6 (find c).toNat

/-- The bytes that are missing from the last group of three. -/
def missing (bytes : List UInt8) : ℕ := (3 - bytes.length % 3) % 3

/-- Zeros make up the last group of six bits. -/
def groups (bytes : List UInt8) : List ℕ :=
  chunks 6 (bitsOfBytes bytes ++ List.replicate (2 * missing bytes) false)

def standardEncode (bytes : List UInt8) : List UInt8 :=
  (groups bytes).map (fun v => base64Char (UInt8.ofNat v)) ++ List.replicate (missing bytes) padding

/-- The characters of the alphabet in front. -/
def body (text : List UInt8) : List UInt8 := text.takeWhile isBase64

/-- The whole bytes that the bits of characters make up. -/
def bytesOf (cs : List UInt8) : List UInt8 := (chunks 8 (bitsOfText cs)).map UInt8.ofNat

def standardDecode (text : List UInt8) : List UInt8 := bytesOf (body text)

/-! ## Bytes -/

section Masks

variable {a mask shift : UInt8}

/-- A field of a byte, shifted down. -/
theorem toNat_field (width : ℕ) (hmask : mask.toNat >>> (shift.toNat % 8) = 2 ^ width - 1) :
    ((a &&& mask) >>> shift).toNat = a.toNat / 2 ^ (shift.toNat % 8) % 2 ^ width := by
  rw [UInt8.toNat_shiftRight, UInt8.toNat_and, Nat.shiftRight_and_distrib, hmask,
    Nat.and_two_pow_sub_one_eq_mod, Nat.shiftRight_eq_div_pow]

/-- The lowest bits of a byte, shifted up. -/
theorem toNat_lowest (width : ℕ) (hmask : mask.toNat = 2 ^ width - 1) (hfits : width + shift.toNat % 8 ≤ 8) :
    ((a &&& mask) <<< shift).toNat = a.toNat % 2 ^ width * 2 ^ (shift.toNat % 8) := by
  rw [UInt8.toNat_shiftLeft, UInt8.toNat_and, hmask, Nat.and_two_pow_sub_one_eq_mod, Nat.shiftLeft_eq]
  refine Nat.mod_eq_of_lt ?_
  calc a.toNat % 2 ^ width * 2 ^ (shift.toNat % 8)
      < 2 ^ width * 2 ^ (shift.toNat % 8) :=
        Nat.mul_lt_mul_of_pos_right (Nat.mod_lt _ (Nat.two_pow_pos _)) (Nat.two_pow_pos _)
    _ = 2 ^ (width + shift.toNat % 8) := (Nat.pow_add ..).symm
    _ ≤ 2 ^ 8 := Nat.pow_le_pow_right Nat.two_pos hfits

theorem high6 (a : UInt8) : ((a &&& 0xfc) >>> 2).toNat = a.toNat / 4 := by
  have hfield : ((a &&& 0xfc) >>> 2).toNat = a.toNat / 4 % 64 := toNat_field 6 rfl
  have hlt := a.toNat_lt
  omega

theorem low2 (a : UInt8) : ((a &&& 0x03) <<< 4).toNat = a.toNat % 4 * 16 :=
  toNat_lowest 2 rfl (by decide)

theorem high4 (b : UInt8) : ((b &&& 0xf0) >>> 4).toNat = b.toNat / 16 := by
  have hfield : ((b &&& 0xf0) >>> 4).toNat = b.toNat / 16 % 16 := toNat_field 4 rfl
  have hlt := b.toNat_lt
  omega

theorem low4 (b : UInt8) : ((b &&& 0x0f) <<< 2).toNat = b.toNat % 16 * 4 :=
  toNat_lowest 4 rfl (by decide)

theorem high2 (c : UInt8) : ((c &&& 0xc0) >>> 6).toNat = c.toNat / 64 := by
  have hfield : ((c &&& 0xc0) >>> 6).toNat = c.toNat / 64 % 4 := toNat_field 2 rfl
  have hlt := c.toNat_lt
  omega

theorem low6 (c : UInt8) : (c &&& 0x3f).toNat = c.toNat % 64 :=
  (UInt8.toNat_and ..).trans (Nat.and_two_pow_sub_one_eq_mod c.toNat 6)

end Masks

/-- The characters are found at their places. -/
theorem base64Char_spec : ∀ n < 64,
    isBase64 (base64Char (UInt8.ofNat n)) = true ∧ find (base64Char (UInt8.ofNat n)) = UInt8.ofNat n := by
  decide +kernel

/-- The characters of the alphabet are found, each at its own place. -/
theorem find_spec (c : UInt8) (hc : isBase64 c = true) : (find c).toNat < 64 ∧ base64Char (find c) = c := by
  have hbytes : ∀ n < 256, isBase64 (UInt8.ofNat n) = true →
      (find (UInt8.ofNat n)).toNat < 64 ∧ base64Char (find (UInt8.ofNat n)) = UInt8.ofNat n := by
    decide +kernel
  have hspec := hbytes c.toNat c.toNat_lt
  rw [UInt8.ofNat_toNat] at hspec
  exact hspec hc

theorem find_lt (c : UInt8) (hc : isBase64 c = true) : (find c).toNat < 64 := (find_spec c hc).1

theorem not_isBase64_padding : isBase64 padding = false := rfl

/-! ## Groups -/

section Groups

private theorem join {high low width x y n : ℕ} (hwidth : high + low = width) (hy : y < 2 ^ low)
    (hn : 2 ^ low * x + y = n) : bits high x ++ bits low y = bits width n := by
  rw [bits_append high low x hy, hwidth, hn]

/-- Three bytes are four groups. -/
theorem bits_bytes {a b c : ℕ} (hb : b < 256) (hc : c < 256) (rest : List Bool) :
    bits 8 a ++ (bits 8 b ++ (bits 8 c ++ rest)) =
      bits 6 (a / 4) ++ (bits 6 (a % 4 * 16 + b / 16) ++ (bits 6 (b % 16 * 4 + c / 64) ++
        (bits 6 (c % 64) ++ rest))) := by
  have ha8 : bits 6 (a / 4) ++ bits 2 (a % 4) = bits 8 a := join rfl (by omega) (by omega)
  have hb8 : bits 4 (b / 16) ++ bits 4 (b % 16) = bits 8 b := join rfl (by omega) (by omega)
  have hc8 : bits 2 (c / 64) ++ bits 6 (c % 64) = bits 8 c := join rfl (by omega) (by omega)
  have hab : bits 2 (a % 4) ++ bits 4 (b / 16) = bits 6 (a % 4 * 16 + b / 16) := join rfl (by omega) (by omega)
  have hbc : bits 4 (b % 16) ++ bits 2 (c / 64) = bits 6 (b % 16 * 4 + c / 64) := join rfl (by omega) (by omega)
  rw [← ha8, ← hb8, ← hc8, ← hab, ← hbc]
  simp only [List.append_assoc]

/-- Four groups are three bytes. -/
theorem bits_groups {p q r s : ℕ} (hq : q < 64) (hr : r < 64) (hs : s < 64) (rest : List Bool) :
    bits 6 p ++ (bits 6 q ++ (bits 6 r ++ (bits 6 s ++ rest))) =
      bits 8 (p * 4 + q / 16) ++ (bits 8 (q % 16 * 16 + r / 4) ++ (bits 8 (r % 4 * 64 + s) ++ rest)) := by
  have hq6 : bits 2 (q / 16) ++ bits 4 (q % 16) = bits 6 q := join rfl (by omega) (by omega)
  have hr6 : bits 4 (r / 4) ++ bits 2 (r % 4) = bits 6 r := join rfl (by omega) (by omega)
  have hpq : bits 6 p ++ bits 2 (q / 16) = bits 8 (p * 4 + q / 16) := join rfl (by omega) (by omega)
  have hqr : bits 4 (q % 16) ++ bits 4 (r / 4) = bits 8 (q % 16 * 16 + r / 4) := join rfl (by omega) (by omega)
  have hrs : bits 2 (r % 4) ++ bits 6 s = bits 8 (r % 4 * 64 + s) := join rfl (by omega) (by omega)
  rw [← hq6, ← hr6, ← hpq, ← hqr, ← hrs]
  simp only [List.append_assoc]

end Groups

private theorem sixes {v : ℕ} (h : v < 64) (rest : List Bool) : chunks 6 (bits 6 v ++ rest) = v :: chunks 6 rest :=
  chunks_bits_append (by decide) h rest

private theorem eights {v : ℕ} (h : v < 256) (rest : List Bool) : chunks 8 (bits 8 v ++ rest) = v :: chunks 8 rest :=
  chunks_bits_append (by decide) h rest

theorem groups_nil : groups [] = [] := rfl

theorem groups_one (a : UInt8) : groups [a] = [a.toNat / 4, a.toNat % 4 * 16] := by
  have ha := a.toNat_lt
  have hlast : bits 2 (a.toNat % 4) ++ bits 4 0 = bits 6 (a.toNat % 4 * 16) := join rfl (by decide) (by omega)
  have hfirst : bits 6 (a.toNat / 4) ++ bits 2 (a.toNat % 4) = bits 8 a.toNat := join rfl (by omega) (by omega)
  have hbits : bitsOfBytes [a] ++ List.replicate (2 * missing [a]) false =
      bits 6 (a.toNat / 4) ++ (bits 6 (a.toNat % 4 * 16) ++ []) := by
    rw [bitsOfBytes, List.flatMap_singleton, ← hfirst, ← hlast, bits_zero]
    simp [missing]
  rw [groups, hbits, sixes (by omega), sixes (by omega), chunks_of_length_lt (by decide)]

theorem groups_two (a b : UInt8) :
    groups [a, b] = [a.toNat / 4, a.toNat % 4 * 16 + b.toNat / 16, b.toNat % 16 * 4] := by
  have ha := a.toNat_lt
  have hb := b.toNat_lt
  have ha8 : bits 6 (a.toNat / 4) ++ bits 2 (a.toNat % 4) = bits 8 a.toNat := join rfl (by omega) (by omega)
  have hb8 : bits 4 (b.toNat / 16) ++ bits 4 (b.toNat % 16) = bits 8 b.toNat := join rfl (by omega) (by omega)
  have hab : bits 2 (a.toNat % 4) ++ bits 4 (b.toNat / 16) = bits 6 (a.toNat % 4 * 16 + b.toNat / 16) :=
    join rfl (by omega) (by omega)
  have hlast : bits 4 (b.toNat % 16) ++ bits 2 0 = bits 6 (b.toNat % 16 * 4) := join rfl (by decide) (by omega)
  have hbits : bitsOfBytes [a, b] ++ List.replicate (2 * missing [a, b]) false =
      bits 6 (a.toNat / 4) ++ (bits 6 (a.toNat % 4 * 16 + b.toNat / 16) ++ (bits 6 (b.toNat % 16 * 4) ++ [])) := by
    simp only [bitsOfBytes, List.flatMap_cons, List.flatMap_nil]
    rw [← ha8, ← hb8, ← hab, ← hlast, bits_zero]
    simp [missing]
  rw [groups, hbits, sixes (by omega), sixes (by omega), sixes (by omega), chunks_of_length_lt (by decide)]

theorem missing_three (a b c : UInt8) (rest : List UInt8) : missing (a :: b :: c :: rest) = missing rest := by
  unfold missing
  simp only [List.length_cons]
  omega

theorem groups_three (a b c : UInt8) (rest : List UInt8) :
    groups (a :: b :: c :: rest) =
      a.toNat / 4 :: (a.toNat % 4 * 16 + b.toNat / 16) :: (b.toNat % 16 * 4 + c.toNat / 64) :: c.toNat % 64 ::
        groups rest := by
  have ha := a.toNat_lt
  have hb := b.toNat_lt
  have hc := c.toNat_lt
  rw [groups, missing_three]
  simp only [bitsOfBytes, List.flatMap_cons, List.append_assoc]
  rw [bits_bytes hb hc, sixes (by omega), sixes (by omega), sixes (by omega), sixes (by omega)]
  rfl

/-! ## Encoding -/

theorem eq_ofNat {x : UInt8} {n : ℕ} (h : x.toNat = n) : x = UInt8.ofNat n := by rw [← h, UInt8.ofNat_toNat]

theorem add_eq_ofNat {x y : UInt8} {m n : ℕ} (hx : x.toNat = m) (hy : y.toNat = n) (h : m + n < 256) :
    x + y = UInt8.ofNat (m + n) := by
  refine eq_ofNat ?_
  rw [UInt8.toNat_add, hx, hy, Nat.mod_eq_of_lt h]

/-- The character of a group. -/
def character (v : ℕ) : UInt8 := base64Char (UInt8.ofNat v)

namespace Encoder

theorem threeGroups_zero (charArray3 charArray4 : Bytes) :
    threeGroups charArray3 charArray4 0 = UInt8.ofNat ((charArray3 0).toNat / 4) := eq_ofNat (high6 _)

theorem threeGroups_one (charArray3 charArray4 : Bytes) :
    threeGroups charArray3 charArray4 1 =
      UInt8.ofNat ((charArray3 0).toNat % 4 * 16 + (charArray3 1).toNat / 16) := by
  have hlt := (charArray3 1).toNat_lt
  exact add_eq_ofNat (low2 _) (high4 _) (by omega)

theorem threeGroups_two (charArray3 charArray4 : Bytes) :
    threeGroups charArray3 charArray4 2 =
      UInt8.ofNat ((charArray3 1).toNat % 16 * 4 + (charArray3 2).toNat / 64) := by
  have hlt := (charArray3 2).toNat_lt
  exact add_eq_ofNat (low4 _) (high2 _) (by omega)

/-- Three turns of the loop write four characters. -/
theorem put_three {e : Encoder} (hi : e.i = 0) (a b c : UInt8) :
    (((e.put a).put b).put c).i = 0 ∧ (((e.put a).put b).put c).ret =
      e.ret ++ [character (a.toNat / 4), character (a.toNat % 4 * 16 + b.toNat / 16),
        character (b.toNat % 16 * 4 + c.toNat / 64), character (c.toNat % 64)] := by
  have hlast : c &&& 0x3f = UInt8.ofNat (c.toNat % 64) := eq_ofNat (low6 c)
  simp [put, hi, characters, List.range_succ, threeGroups_zero, threeGroups_one, threeGroups_two, hlast, character,
    Function.update_apply]

/-- One byte is left, or two. -/
theorem finish_one {e : Encoder} (hi : e.i = 0) (a : UInt8) :
    (e.put a).finish = e.ret ++ [character (a.toNat / 4), character (a.toNat % 4 * 16), padding, padding] := by
  simp [put, finish, hi, characters, List.range_succ, threeGroups_zero, threeGroups_one, character, Function.update_apply]

theorem finish_two {e : Encoder} (hi : e.i = 0) (a b : UInt8) :
    ((e.put a).put b).finish =
      e.ret ++ [character (a.toNat / 4), character (a.toNat % 4 * 16 + b.toNat / 16), character (b.toNat % 16 * 4),
        padding] := by
  simp [put, finish, hi, characters, List.range_succ, threeGroups_zero, threeGroups_one, threeGroups_two, character,
    Function.update_apply]

/-- The loop from the beginning of a group on. -/
theorem finish_foldl (bytes : List UInt8) (e : Encoder) (hi : e.i = 0) :
    (bytes.foldl put e).finish = e.ret ++ standardEncode bytes := by
  match bytes with
  | [] => simp [finish, hi, standardEncode, groups_nil, missing]
  | [a] =>
    rw [List.foldl_cons, List.foldl_nil, finish_one hi, standardEncode, groups_one]
    rfl
  | [a, b] =>
    rw [List.foldl_cons, List.foldl_cons, List.foldl_nil, finish_two hi, standardEncode, groups_two]
    rfl
  | a :: b :: c :: rest =>
    obtain ⟨hnext, hret⟩ := put_three hi a b c
    rw [List.foldl_cons, List.foldl_cons, List.foldl_cons, finish_foldl rest _ hnext, hret, standardEncode,
      standardEncode, groups_three, missing_three]
    simp [character]

end Encoder

/-- The text is what the standard asks for, whatever the arrays hold. -/
theorem base64Encode_eq (array3 array4 : Bytes) (bytes : List UInt8) :
    base64Encode array3 array4 bytes = standardEncode bytes :=
  Encoder.finish_foldl bytes ⟨[], 0, array3, array4⟩ rfl

/-! ## Decoding -/

namespace Decoder

section Masks

theorem shift2 (p : UInt8) (hp : p.toNat < 64) : (p <<< 2).toNat = p.toNat * 4 := by
  have hshift : (p <<< 2).toNat = p.toNat <<< 2 % 256 := UInt8.toNat_shiftLeft ..
  rw [hshift, Nat.shiftLeft_eq]
  omega

theorem middle2 (q : UInt8) (hq : q.toNat < 64) : ((q &&& 0x30) >>> 4).toNat = q.toNat / 16 := by
  have hfield : ((q &&& 0x30) >>> 4).toNat = q.toNat / 16 % 4 := toNat_field 2 rfl
  omega

theorem lower4 (q : UInt8) : ((q &&& 0xf) <<< 4).toNat = q.toNat % 16 * 16 :=
  toNat_lowest 4 rfl (by decide)

theorem middle4 (r : UInt8) (hr : r.toNat < 64) : ((r &&& 0x3c) >>> 2).toNat = r.toNat / 4 := by
  have hfield : ((r &&& 0x3c) >>> 2).toNat = r.toNat / 4 % 16 := toNat_field 4 rfl
  omega

theorem lower2 (r : UInt8) : ((r &&& 0x3) <<< 6).toNat = r.toNat % 4 * 64 :=
  toNat_lowest 2 rfl (by decide)

end Masks

/-- The bytes that the values of characters make up. -/
private def firstByte (p q : UInt8) : UInt8 := UInt8.ofNat ((find p).toNat * 4 + (find q).toNat / 16)

private def secondByte (q r : UInt8) : UInt8 := UInt8.ofNat ((find q).toNat % 16 * 16 + (find r).toNat / 4)

private def thirdByte (r s : UInt8) : UInt8 := UInt8.ofNat ((find r).toNat % 4 * 64 + (find s).toNat)

theorem first_eq {p q : UInt8} (hp : isBase64 p) (hq : isBase64 q) :
    (find p <<< 2) + ((find q &&& 0x30) >>> 4) = firstByte p q := by
  have hltp := find_lt p hp
  have hltq := find_lt q hq
  exact add_eq_ofNat (shift2 _ hltp) (middle2 _ hltq) (by omega)

theorem second_eq {q r : UInt8} (hr : isBase64 r) :
    ((find q &&& 0xf) <<< 4) + ((find r &&& 0x3c) >>> 2) = secondByte q r := by
  have hltr := find_lt r hr
  exact add_eq_ofNat (lower4 _) (middle4 _ hltr) (by omega)

theorem third_eq {r s : UInt8} (hs : isBase64 s) : ((find r &&& 0x3) <<< 6) + find s = thirdByte r s := by
  have hlts := find_lt s hs
  exact add_eq_ofNat (lower2 _) rfl (by omega)

section Turns

variable {d : Decoder} {p q r s : UInt8} (hi : d.i = 0)
include hi

/-- One character alone makes no byte. -/
theorem finish_one : (d.put p).finish = d.ret := by
  simp [put, finish, hi]

theorem finish_two (hp : isBase64 p) (hq : isBase64 q) :
    ((d.put p).put q).finish = d.ret ++ [firstByte p q] := by
  have hfirst := first_eq hp hq
  simp [put, finish, hi, values, List.range_succ, twoBytes, hfirst]

theorem finish_three (hp : isBase64 p) (hq : isBase64 q) (hr : isBase64 r) :
    (((d.put p).put q).put r).finish = d.ret ++ [firstByte p q, secondByte q r] := by
  have hfirst := first_eq hp hq
  have hsecond := @second_eq q r hr
  simp [put, finish, hi, values, List.range_succ, twoBytes, hfirst, hsecond]

/-- Four turns of the loop write three bytes. -/
theorem put_four (hp : isBase64 p) (hq : isBase64 q) (hr : isBase64 r) (hs : isBase64 s) :
    ((((d.put p).put q).put r).put s).i = 0 ∧ ((((d.put p).put q).put r).put s).ret =
      d.ret ++ [firstByte p q, secondByte q r, thirdByte r s] := by
  have hfirst := first_eq hp hq
  have hsecond := @second_eq q r hr
  have hthird := @third_eq r s hs
  simp [put, hi, values, List.range_succ, twoBytes, hfirst, hsecond, hthird]

end Turns

theorem bytesOf_nil : bytesOf [] = [] := rfl

theorem bytesOf_one (p : UInt8) : bytesOf [p] = [] := by
  rw [bytesOf, bitsOfText, List.flatMap_singleton, chunks_of_length_lt (by simp)]
  rfl

theorem bytesOf_two {p q : UInt8} (hp : isBase64 p) (hq : isBase64 q) : bytesOf [p, q] = [firstByte p q] := by
  have hltp := find_lt p hp
  have hltq := find_lt q hq
  have hq6 : bits 2 ((find q).toNat / 16) ++ bits 4 ((find q).toNat % 16) = bits 6 (find q).toNat :=
    join rfl (by omega) (by omega)
  have hpq : bits 6 (find p).toNat ++ bits 2 ((find q).toNat / 16) =
      bits 8 ((find p).toNat * 4 + (find q).toNat / 16) := join rfl (by omega) (by omega)
  have hbits : bitsOfText [p, q] = bits 8 ((find p).toNat * 4 + (find q).toNat / 16) ++ bits 4 ((find q).toNat % 16) := by
    rw [bitsOfText, List.flatMap_cons, List.flatMap_singleton, ← hq6, ← hpq, List.append_assoc]
  rw [bytesOf, hbits, eights (by omega), chunks_of_length_lt (by simp)]
  rfl

theorem bytesOf_three {p q r : UInt8} (hp : isBase64 p) (hq : isBase64 q) (hr : isBase64 r) :
    bytesOf [p, q, r] = [firstByte p q, secondByte q r] := by
  have hltp := find_lt p hp
  have hltq := find_lt q hq
  have hltr := find_lt r hr
  have hq6 : bits 2 ((find q).toNat / 16) ++ bits 4 ((find q).toNat % 16) = bits 6 (find q).toNat :=
    join rfl (by omega) (by omega)
  have hr6 : bits 4 ((find r).toNat / 4) ++ bits 2 ((find r).toNat % 4) = bits 6 (find r).toNat :=
    join rfl (by omega) (by omega)
  have hpq : bits 6 (find p).toNat ++ bits 2 ((find q).toNat / 16) =
      bits 8 ((find p).toNat * 4 + (find q).toNat / 16) := join rfl (by omega) (by omega)
  have hqr : bits 4 ((find q).toNat % 16) ++ bits 4 ((find r).toNat / 4) =
      bits 8 ((find q).toNat % 16 * 16 + (find r).toNat / 4) := join rfl (by omega) (by omega)
  have hbits : bitsOfText [p, q, r] = bits 8 ((find p).toNat * 4 + (find q).toNat / 16) ++
      (bits 8 ((find q).toNat % 16 * 16 + (find r).toNat / 4) ++ bits 2 ((find r).toNat % 4)) := by
    rw [bitsOfText, List.flatMap_cons, List.flatMap_cons, List.flatMap_singleton, ← hq6, ← hr6, ← hpq, ← hqr]
    simp only [List.append_assoc]
  rw [bytesOf, hbits, eights (by omega), eights (by omega), chunks_of_length_lt (by simp)]
  rfl

theorem bytesOf_four {p q r s : UInt8} (hp : isBase64 p) (hq : isBase64 q) (hr : isBase64 r) (hs : isBase64 s)
    (rest : List UInt8) :
    bytesOf (p :: q :: r :: s :: rest) = firstByte p q :: secondByte q r :: thirdByte r s :: bytesOf rest := by
  have hltp := find_lt p hp
  have hltq := find_lt q hq
  have hltr := find_lt r hr
  have hlts := find_lt s hs
  rw [bytesOf, bitsOfText]
  simp only [List.flatMap_cons]
  rw [bits_groups hltq hltr hlts, eights (by omega), eights (by omega), eights (by omega)]
  rfl

/-- The loop from the beginning of a group on. -/
theorem finish_foldl (cs : List UInt8) (hcs : ∀ c ∈ cs, isBase64 c) (d : Decoder) (hi : d.i = 0) :
    (cs.foldl put d).finish = d.ret ++ bytesOf cs := by
  match cs with
  | [] =>
    rw [bytesOf_nil, List.append_nil]
    exact if_pos hi
  | [p] =>
    rw [bytesOf_one, List.append_nil]
    exact finish_one hi
  | [p, q] =>
    have hp := hcs p (by simp)
    have hq := hcs q (by simp)
    rw [bytesOf_two hp hq]
    exact finish_two hi hp hq
  | [p, q, r] =>
    have hp := hcs p (by simp)
    have hq := hcs q (by simp)
    have hr := hcs r (by simp)
    rw [bytesOf_three hp hq hr]
    exact finish_three hi hp hq hr
  | p :: q :: r :: s :: rest =>
    have hp := hcs p (by simp)
    have hq := hcs q (by simp)
    have hr := hcs r (by simp)
    have hs := hcs s (by simp)
    obtain ⟨hnext, hret⟩ := put_four hi hp hq hr hs
    have hrest := finish_foldl rest (fun c hc => hcs c (by simp [hc])) _ hnext
    rw [bytesOf_four hp hq hr hs, List.foldl_cons, List.foldl_cons, List.foldl_cons, List.foldl_cons, hrest, hret,
      List.append_assoc]
    rfl

theorem isBase64_ne_padding {c : UInt8} (h : isBase64 c) : c ≠ padding := by
  rintro rfl
  exact Bool.false_ne_true (not_isBase64_padding.symm.trans h)

/-- The loop takes the characters of the alphabet in front. -/
theorem loop_eq (text : List UInt8) (index : ℕ) (d : Decoder) (hfits : index + text.length < 2 ^ 31) :
    loop text.length index text d = some ((body text).foldl put d) := by
  induction text generalizing index d with
  | nil => rfl
  | cons c rest ih =>
    rw [List.length_cons] at hfits
    have hcount : ((rest.length + 1 : ℕ) : Int) - 1 = rest.length := by omega
    rw [loop, if_neg (by rw [List.length_cons]; omega), if_neg (by rw [List.length_cons]; omega)]
    by_cases hc : isBase64 c
    · rw [if_pos ⟨isBase64_ne_padding hc, hc⟩, if_neg (by omega), List.length_cons, hcount,
        ih (index + 1) _ (by omega)]
      unfold body
      rw [List.takeWhile_cons_of_pos hc, List.foldl_cons]
    · unfold body
      rw [if_neg fun h => hc h.2, List.takeWhile_cons_of_neg hc]
      rfl

end Decoder

/-- A text is decoded to the whole bytes that the characters in front make up, whatever
the arrays hold and whatever is behind them. -/
theorem base64Decode_eq (array4 array3 : Bytes) {text : List UInt8} (hfits : text.length < 2 ^ 31) :
    base64Decode array4 array3 text = some (standardDecode text) := by
  have hlength : (text.length : Int).bmod (2 ^ 32) = text.length := Int.bmod_eq_of_le (by omega) (by omega)
  have hbody : ∀ c ∈ body text, isBase64 c := List.all_eq_true.mp List.all_takeWhile
  rw [base64Decode, hlength, Decoder.loop_eq text 0 _ (by omega), Option.map_some,
    Decoder.finish_foldl _ hbody _ rfl]
  rfl

/-- Two characters, and something else behind them. -/
theorem base64Decode_eq_two :
    base64Decode (fun _ => 1) (fun _ => 2) [0x54, 0x51, 0x20, 0x54] = some (standardDecode [0x54, 0x51, 0x20, 0x54]) :=
  base64Decode_eq (fun _ => 1) (fun _ => 2) (by decide)

/-! ## There and back -/

theorem length_bitsOfBytes (bytes : List UInt8) : (bitsOfBytes bytes).length = 8 * bytes.length := by
  simp [bitsOfBytes, List.length_flatMap, Nat.mul_comm]

theorem length_bitsOfText (cs : List UInt8) : (bitsOfText cs).length = 6 * cs.length := by
  simp [bitsOfText, List.length_flatMap, Nat.mul_comm]

theorem length_groups (bytes : List UInt8) : (groups bytes).length = (8 * bytes.length + 2 * missing bytes) / 6 := by
  rw [groups, length_chunks, List.length_append, List.length_replicate, length_bitsOfBytes]

theorem groups_lt {bytes : List UInt8} {v : ℕ} (h : v ∈ groups bytes) : v < 64 := lt_of_mem_chunks h

/-- The bits of the groups are those of the bytes, and zeros. -/
theorem bits_groups_eq (bytes : List UInt8) :
    (groups bytes).flatMap (bits 6) = bitsOfBytes bytes ++ List.replicate (2 * missing bytes) false := by
  rw [groups, flatMap_bits_chunks (by decide), List.take_of_length_le]
  rw [List.length_append, List.length_replicate, length_bitsOfBytes, missing]
  omega

theorem body_standardEncode (bytes : List UInt8) : body (standardEncode bytes) = (groups bytes).map character := by
  have hgroups : ∀ c ∈ (groups bytes).map character, isBase64 c := by
    intro c hc
    obtain ⟨v, hv, rfl⟩ := List.mem_map.mp hc
    exact (base64Char_spec v (groups_lt hv)).1
  have hpadding : (List.replicate (missing bytes) padding).takeWhile isBase64 = [] := by
    cases missing bytes with
    | zero => rfl
    | succ n => rfl
  calc body (standardEncode bytes)
      = (groups bytes).map character ++ (List.replicate (missing bytes) padding).takeWhile isBase64 :=
        List.takeWhile_append_of_pos hgroups
    _ = (groups bytes).map character := by rw [hpadding, List.append_nil]

theorem bitsOfText_character {vs : List ℕ} (hvs : ∀ v ∈ vs, v < 64) :
    bitsOfText (vs.map character) = vs.flatMap (bits 6) := by
  rw [bitsOfText, List.flatMap_map]
  refine List.flatMap_congr fun v hv => ?_
  have hlt := hvs v hv
  rw [character, (base64Char_spec v hlt).2, UInt8.toNat_ofNat', Nat.mod_eq_of_lt (by omega)]

/-- What was encoded is decoded. -/
theorem standardDecode_standardEncode (bytes : List UInt8) : standardDecode (standardEncode bytes) = bytes := by
  have hmissing : 2 * missing bytes < 8 := by
    unfold missing
    omega
  have hchunks : chunks 8 ((bytes.map UInt8.toNat).flatMap (bits 8) ++ List.replicate (2 * missing bytes) false) =
      bytes.map UInt8.toNat := by
    refine chunks_flatMap_bits (by decide) (fun n hn => ?_) (by rwa [List.length_replicate])
    obtain ⟨b, -, rfl⟩ := List.mem_map.mp hn
    exact b.toNat_lt
  rw [List.flatMap_map] at hchunks
  rw [standardDecode, body_standardEncode, bytesOf, bitsOfText_character fun v hv => groups_lt hv, bits_groups_eq,
    bitsOfBytes, hchunks, List.map_map]
  simp [Function.comp_def]

theorem length_standardEncode (bytes : List UInt8) : (standardEncode bytes).length = 4 * ((bytes.length + 2) / 3) := by
  rw [standardEncode, List.length_append, List.length_map, List.length_replicate, length_groups, missing]
  omega

/-- Every string of bytes whose text fits an `int` comes back. -/
theorem base64_roundTrip (bytes : List UInt8) (hfits : 4 * ((bytes.length + 2) / 3) < 2 ^ 31)
    (array3 array4 array4' array3' : Bytes) :
    base64Decode array4' array3' (base64Encode array3 array4 bytes) = some bytes := by
  rw [base64Encode_eq, base64Decode_eq _ _ (by rwa [length_standardEncode]), standardDecode_standardEncode]

theorem base64_roundTrip_two :
    base64Decode (fun _ => 3) (fun _ => 4) (base64Encode (fun _ => 1) (fun _ => 2) [0x4d, 0x61]) = some [0x4d, 0x61] :=
  base64_roundTrip [0x4d, 0x61] (by decide) _ _ _ _

/-- A text as the encoder writes them: characters, of which the last one has no bits
that belong to no byte, and the padding that they need. -/
structure Canonical (text : List UInt8) : Prop where
  padded : text = body text ++ List.replicate ((4 - (body text).length % 4) % 4) padding
  whole : (body text).length % 4 ≠ 1
  zeros : ∀ b ∈ (bitsOfText (body text)).drop (8 * ((bitsOfText (body text)).length / 8)), b = false

theorem canonical_standardEncode (bytes : List UInt8) : Canonical (standardEncode bytes) where
  padded := by
    have hcount : (4 - (groups bytes).length % 4) % 4 = missing bytes := by
      rw [length_groups, missing]
      omega
    rw [body_standardEncode, List.length_map, hcount]
    rfl
  whole := by
    rw [body_standardEncode, List.length_map, length_groups, missing]
    omega
  zeros := by
    have hcount : 8 * ((8 * bytes.length + 2 * missing bytes) / 8) = (bitsOfBytes bytes).length := by
      rw [length_bitsOfBytes, missing]
      omega
    rw [body_standardEncode, bitsOfText_character fun v hv => groups_lt hv, bits_groups_eq, List.length_append,
      List.length_replicate, length_bitsOfBytes, hcount, List.drop_left]
    exact fun b hb => List.eq_of_mem_replicate hb

theorem bitsOfBytes_map {vs : List ℕ} (hvs : ∀ v ∈ vs, v < 256) :
    bitsOfBytes (vs.map UInt8.ofNat) = vs.flatMap (bits 8) := by
  rw [bitsOfBytes, List.flatMap_map]
  refine List.flatMap_congr fun v hv => ?_
  have hlt := hvs v hv
  rw [UInt8.toNat_ofNat', Nat.mod_eq_of_lt (by omega)]

/-- The groups of characters are their values. -/
theorem chunks_bitsOfText {cs : List UInt8} (hcs : ∀ c ∈ cs, isBase64 c) :
    (chunks 6 (bitsOfText cs)).map character = cs := by
  have hvalues : ∀ v ∈ cs.map fun c => (find c).toNat, v < 2 ^ 6 := by
    intro v hv
    obtain ⟨c, hc, rfl⟩ := List.mem_map.mp hv
    exact find_lt c (hcs c hc)
  have hrest : ([] : List Bool).length < 6 := by decide
  have hchunks := chunks_flatMap_bits (by decide) hvalues hrest
  rw [List.flatMap_map, List.append_nil] at hchunks
  rw [bitsOfText, hchunks, List.map_map]
  refine (List.map_congr_left fun c hc => ?_).trans (List.map_id cs)
  rw [Function.comp_apply, character, UInt8.ofNat_toNat, (find_spec c (hcs c hc)).2, id]

theorem standardEncode_standardDecode {text : List UInt8} (h : Canonical text) :
    standardEncode (standardDecode text) = text := by
  obtain ⟨hpadded, hwhole, hzeros⟩ := h
  have hbody : ∀ c ∈ body text, isBase64 c := List.all_eq_true.mp List.all_takeWhile
  rw [standardDecode]
  generalize body text = cs at hpadded hwhole hzeros hbody
  have hlength : (bytesOf cs).length = 6 * cs.length / 8 := by
    rw [bytesOf, List.length_map, length_chunks, length_bitsOfText]
  have hmissing : missing (bytesOf cs) = (4 - cs.length % 4) % 4 := by
    rw [missing, hlength]
    obtain h | h | h : cs.length % 4 = 0 ∨ cs.length % 4 = 2 ∨ cs.length % 4 = 3 := by omega
    all_goals omega
  have hbytes : bitsOfBytes (bytesOf cs) = (bitsOfText cs).take (8 * ((bitsOfText cs).length / 8)) := by
    rw [bytesOf, bitsOfBytes_map fun v hv => lt_of_mem_chunks hv, flatMap_bits_chunks (by decide)]
  have hrest : List.replicate (2 * missing (bytesOf cs)) false =
      (bitsOfText cs).drop (8 * ((bitsOfText cs).length / 8)) := by
    refine (List.eq_replicate_iff.mpr ⟨?_, hzeros⟩).symm
    rw [List.length_drop, length_bitsOfText, hmissing]
    obtain h | h | h : cs.length % 4 = 0 ∨ cs.length % 4 = 2 ∨ cs.length % 4 = 3 := by omega
    all_goals omega
  have hgroups : (groups (bytesOf cs)).map character = cs := by
    rw [groups, hbytes, hrest, List.take_append_drop, chunks_bitsOfText hbody]
  conv_rhs => rw [hpadded]
  rw [standardEncode, hmissing]
  exact congrArg (· ++ _) hgroups

/-- The texts that come back from their bytes are those that the encoder writes. -/
theorem base64_canonical {text : List UInt8} (hfits : text.length < 2 ^ 31) (array3 array4 array4' array3' : Bytes) :
    (base64Decode array4' array3' text).map (base64Encode array3 array4) = some text ↔ Canonical text := by
  rw [base64Decode_eq _ _ hfits, Option.map_some, base64Encode_eq, Option.some_inj]
  refine ⟨fun h => ?_, standardEncode_standardDecode⟩
  rw [← h]
  exact canonical_standardEncode _

/-- The last character of this text has bits that belong to no byte. -/
theorem base64_canonical_surplus :
    (base64Decode (fun _ => 3) (fun _ => 4) [0x54, 0x52, 0x3d, 0x3d]).map (base64Encode (fun _ => 1) (fun _ => 2)) =
      some [0x54, 0x52, 0x3d, 0x3d] ↔ Canonical [0x54, 0x52, 0x3d, 0x3d] :=
  base64_canonical (by decide) _ _ _ _

end StreamCloud.Base64
