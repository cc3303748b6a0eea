-- SUMMARY: The base64 encoder and decoder, with their two small arrays.
import Mathlib.Algebra.Group.Int.Defs
import Mathlib.Algebra.Group.Nat.Defs
import Mathlib.Data.Nat.Notation
import Mathlib.Logic.Function.Basic

/-!
# base64

`stream-crypt/src/base64.cpp`. The arrays are not initialised, so that what they hold
at first is a parameter. Sums and shifts are computed as `int` and cut down to a byte
where they are stored, which is what bytes compute.
-/

namespace StreamCloud.Base64

/-- `base64_chars`. -/
def base64Chars : List UInt8 :=
  "ABCDEFGHIJKLMNOPQRSTUVWXYZabcdefghijklmnopqrstuvwxyz0123456789+/".toList.map fun c => UInt8.ofNat c.toNat

def padding : UInt8 := 0x3d

/-- `is_base64`. -/
def isBase64 (c : UInt8) : Bool :=
  (0x30 ≤ c && c ≤ 0x39) || (0x41 ≤ c && c ≤ 0x5a) || (0x61 ≤ c && c ≤ 0x7a) || c = 0x2b || c = 0x2f

/-- `base64_chars[value]`. -/
def base64Char (value : UInt8) : UInt8 := base64Chars.getD value.toNat 0

/-- `base64_chars.find(c)`, kept as a byte. Nothing found is `npos`. -/
def find (c : UInt8) : UInt8 :=
  match base64Chars.idxOf? c with
  | some index => UInt8.ofNat index
  | none => UInt8.ofNat (2 ^ 64 - 1)

/-- An array of bytes. -/
abbrev Bytes := ℕ → UInt8

/-! ## Encoding -/

structure Encoder where
  ret : List UInt8
  i : ℕ
  charArray3 : Bytes
  charArray4 : Bytes

namespace Encoder

/-- The first three of the four six bit groups. -/
def threeGroups (charArray3 charArray4 : Bytes) : Bytes
  | 0 => (charArray3 0 &&& 0xfc) >>> 2
  | 1 => ((charArray3 0 &&& 0x03) <<< 4) + ((charArray3 1 &&& 0xf0) >>> 4)
  | 2 => ((charArray3 1 &&& 0x0f) <<< 2) + ((charArray3 2 &&& 0xc0) >>> 6)
  | j => charArray4 j

/-- The characters of the first groups. -/
def characters (charArray4 : Bytes) (count : ℕ) : List UInt8 :=
  (List.range count).map fun j => base64Char (charArray4 j)

/-- One turn of the loop. -/
def put (e : Encoder) (byte : UInt8) : Encoder :=
  let charArray3 := Function.update e.charArray3 e.i byte
  if e.i + 1 = 3 then
    let charArray4 := Function.update (threeGroups charArray3 e.charArray4) 3 (charArray3 2 &&& 0x3f)
    { ret := e.ret ++ characters charArray4 4, i := 0, charArray3, charArray4 }
  else { e with i := e.i + 1, charArray3 }

/-- What is left in the array is written with zeros behind it, and padded. -/
def finish (e : Encoder) : List UInt8 :=
  if e.i = 0 then e.ret
  else
    let charArray3 : Bytes := fun j => if e.i ≤ j ∧ j < 3 then 0 else e.charArray3 j
    let charArray4 := threeGroups charArray3 e.charArray4
    e.ret ++ characters charArray4 (e.i + 1) ++ List.replicate (3 - e.i) padding

end Encoder

def base64Encode (array3 array4 : Bytes) (bytes : List UInt8) : List UInt8 :=
  (bytes.foldl Encoder.put ⟨[], 0, array3, array4⟩).finish

/-! ## Decoding -/

structure Decoder where
  ret : List UInt8
  i : ℕ
  charArray4 : Bytes
  charArray3 : Bytes

namespace Decoder

/-- The first two of the three bytes. -/
def twoBytes (charArray4 charArray3 : Bytes) : Bytes
  | 0 => (charArray4 0 <<< 2) + ((charArray4 1 &&& 0x30) >>> 4)
  | 1 => ((charArray4 1 &&& 0xf) <<< 4) + ((charArray4 2 &&& 0x3c) >>> 2)
  | j => charArray3 j

/-- The values of the first characters. -/
def values (charArray4 : Bytes) (count : ℕ) : Bytes := fun j =>
  if j < count then find (charArray4 j) else charArray4 j

/-- One turn of the loop. -/
def put (d : Decoder) (c : UInt8) : Decoder :=
  let charArray4 := Function.update d.charArray4 d.i c
  if d.i + 1 = 4 then
    let charArray4 := values charArray4 4
    let charArray3 :=
      Function.update (twoBytes charArray4 d.charArray3) 2 (((charArray4 2 &&& 0x3) <<< 6) + charArray4 3)
    { ret := d.ret ++ (List.range 3).map charArray3, i := 0, charArray4, charArray3 }
  else { d with i := d.i + 1, charArray4 }

/-- The characters that are left make one byte less. -/
def finish (d : Decoder) : List UInt8 :=
  if d.i = 0 then d.ret
  else d.ret ++ (List.range (d.i - 1)).map (twoBytes (values d.charArray4 d.i) d.charArray3)

/-- The loop over the characters, up to the first one that is not of the alphabet.
Behind the last one there is a null character. An `int` that overflows is `none`. -/
def loop (inLen : Int) (index : ℕ) : List UInt8 → Decoder → Option Decoder
  | [], d => if inLen = -2 ^ 31 then none else some d
  | c :: rest, d =>
    if inLen = 0 then some d
    else if inLen = -2 ^ 31 then none
    else if c ≠ padding ∧ isBase64 c then
      if index + 1 = 2 ^ 31 then none else loop (inLen - 1) (index + 1) rest (d.put c)
    else some d

end Decoder

def base64Decode (array4 array3 : Bytes) (text : List UInt8) : Option (List UInt8) :=
  (Decoder.loop ((text.length : Int).bmod (2 ^ 32)) 0 text ⟨[], 0, array4, array3⟩).map Decoder.finish

end StreamCloud.Base64
