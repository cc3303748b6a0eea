-- SUMMARY: JSON texts as trees of their tokens, white space and escapes included, and the characters of a tree.
import Mathlib.Data.Nat.Notation

/-!
# JSON texts

A text of the standard is the characters of one of these trees. A tree keeps
everything that its text shows: the white space around each token, the way in which
each character of a string is spelled and the digits of each number. Characters
stand for bytes.
-/

namespace JsonGrammar

/-! ## Tokens -/

/-- White space between tokens. -/
structure White where
  chars : List Char
  white : ∀ c ∈ chars, c = ' ' ∨ c = '\t' ∨ c = '\n' ∨ c = '\r'

def White.none : White := ⟨[], by simp⟩

structure Digits where
  chars : List Char
  digits : ∀ c ∈ chars, c.isDigit
  nonempty : chars ≠ []

inductive Sign
  | absent
  | plus
  | minus

def Sign.chars : Sign → List Char
  | .absent => []
  | .plus => ['+']
  | .minus => ['-']

structure Exponent where
  capital : Bool
  sign : Sign
  digits : Digits

def Exponent.chars (e : Exponent) : List Char :=
  (if e.capital then 'E' else 'e') :: (e.sign.chars ++ e.digits.chars)

structure Number where
  negative : Bool
  whole : Digits
  /-- There are no zeros in front. -/
  leading : whole.chars.head? = some '0' → whole.chars = ['0']
  fraction : Option Digits
  exponent : Option Exponent

namespace Number

def signChars (n : Number) : List Char := if n.negative then ['-'] else []

def fractionChars (n : Number) : List Char :=
  match n.fraction with
  | none => []
  | some digits => '.' :: digits.chars

def exponentChars (n : Number) : List Char :=
  match n.exponent with
  | none => []
  | some e => e.chars

def chars (n : Number) : List Char := n.signChars ++ (n.whole.chars ++ (n.fractionChars ++ n.exponentChars))

end Number

/-! ## Strings -/

/-- The escapes of two characters. -/
inductive Short
  | quote
  | backslash
  | slash
  | backspace
  | formFeed
  | lineFeed
  | carriageReturn
  | tab

def Short.letter : Short → Char
  | .quote => '"'
  | .backslash => '\\'
  | .slash => '/'
  | .backspace => 'b'
  | .formFeed => 'f'
  | .lineFeed => 'n'
  | .carriageReturn => 'r'
  | .tab => 't'

def Short.meaning : Short → Char
  | .quote => '"'
  | .backslash => '\\'
  | .slash => '/'
  | .backspace => '\x08'
  | .formFeed => '\x0c'
  | .lineFeed => '\n'
  | .carriageReturn => '\r'
  | .tab => '\t'

/-- A hexadecimal digit. -/
def hexChar (value : ℕ) (capital : Bool) : Char :=
  if value < 10 then Char.ofNat ('0'.toNat + value)
  else Char.ofNat ((if capital then 'A' else 'a').toNat + (value - 10))

/-- `\u` and four digits. -/
def unitChars (unit : ℕ) (capital : ℕ → Bool) : List Char :=
  ['\\', 'u', hexChar (unit / 0x1000 % 0x10) (capital 0), hexChar (unit / 0x100 % 0x10) (capital 1),
    hexChar (unit / 0x10 % 0x10) (capital 2), hexChar (unit % 0x10) (capital 3)]

/-- The UTF-16 code units of a character. -/
def utf16 (c : Char) : List ℕ :=
  if c.toNat < 0x10000 then [c.toNat]
  else [0xD800 + (c.toNat - 0x10000) / 0x400, 0xDC00 + (c.toNat - 0x10000) % 0x400]

/-- A piece of a string: a byte as it is, other than a control character, or an
escape. The digits of `\u` escapes are written with capital letters or without. -/
inductive Piece
  | plain (c : Char) (hquote : c ≠ '"') (hbackslash : c ≠ '\\') (hcontrol : ' ' ≤ c)
  | short (e : Short)
  | unicode (c : Char) (capital : ℕ → Bool)

namespace Piece

def chars : Piece → List Char
  | plain c _ _ _ => [c]
  | short e => ['\\', e.letter]
  | unicode c capital => (utf16 c).flatMap (unitChars · capital)

/-- The bytes that a piece stands for. -/
def bytes : Piece → List Char
  | plain c _ _ _ => [c]
  | short e => [e.meaning]
  | unicode c _ => (String.utf8EncodeChar c).map fun b => Char.ofNat b.toNat

end Piece

/-- The string that its pieces stand for. -/
def stringOf (pieces : List Piece) : String := String.ofList (pieces.flatMap Piece.bytes)

def stringChars (pieces : List Piece) : List Char := '"' :: (pieces.flatMap Piece.chars ++ ['"'])

/-! ## Values -/

mutual
inductive Text
  | null
  | boolean (b : Bool)
  | number (n : Number)
  | string (pieces : List Piece)
  | emptyObject (within : White)
  | object (members : Members)
  | emptyArray (within : White)
  | array (elements : Elements)

/-- The members of an object, with white space around each name and each value. -/
inductive Members
  | last (before : White) (name : List Piece) (behindName beforeValue : White) (value : Text)
      (behind : White)
  | more (before : White) (name : List Piece) (behindName beforeValue : White) (value : Text)
      (behind : White) (rest : Members)

inductive Elements
  | last (before : White) (value : Text) (behind : White)
  | more (before : White) (value : Text) (behind : White) (rest : Elements)
end

mutual
def Text.chars : Text → List Char
  | .null => ['n', 'u', 'l', 'l']
  | .boolean true => ['t', 'r', 'u', 'e']
  | .boolean false => ['f', 'a', 'l', 's', 'e']
  | .number n => n.chars
  | .string pieces => stringChars pieces
  | .emptyObject within => '{' :: (within.chars ++ ['}'])
  | .object members => '{' :: (members.chars ++ ['}'])
  | .emptyArray within => '[' :: (within.chars ++ [']'])
  | .array elements => '[' :: (elements.chars ++ [']'])

def Members.chars : Members → List Char
  | .last before name behindName beforeValue value behind =>
    before.chars ++ (stringChars name ++ (behindName.chars ++ ':' :: (beforeValue.chars ++
      (value.chars ++ behind.chars))))
  | .more before name behindName beforeValue value behind rest =>
    before.chars ++ (stringChars name ++ (behindName.chars ++ ':' :: (beforeValue.chars ++
      (value.chars ++ (behind.chars ++ ',' :: rest.chars)))))

def Elements.chars : Elements → List Char
  | .last before value behind => before.chars ++ (value.chars ++ behind.chars)
  | .more before value behind rest => before.chars ++ (value.chars ++ (behind.chars ++ ',' :: rest.chars))
end

end JsonGrammar
