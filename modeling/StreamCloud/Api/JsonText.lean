-- SUMMARY: The JSON scanner and printer of the api, character by character.
import StreamCloud.Api.Json
import Mathlib.Algebra.Group.Int.Defs
import Mathlib.Algebra.Group.Nat.Defs
import Mathlib.Data.Nat.Notation

/-!
# JSON as text

The scanner of `detail/parser.hpp` and the printer of `value.hpp`. The scanner
trusts its text: a string that is not closed, or a literal that nothing follows,
makes it walk past the terminating null character (`Fault.overrun`). Reading the
terminating character itself stays inside the string.
-/

namespace StreamCloud.JsonText

/-! ## Strings -/

/-- `hex_to_num`. -/
def hexToNum (c : Char) : Int :=
  if '0' ≤ c ∧ c ≤ '9' then c.toNat - '0'.toNat
  else if 'a' ≤ c ∧ c ≤ 'f' then c.toNat - 'a'.toNat + 10
  else if 'A' ≤ c ∧ c ≤ 'F' then c.toNat - 'A'.toNat + 10
  else -1

/-- Four hexadecimal digits, kept as a `char16_t`. -/
def codeUnit (a b c d : Char) : Nat :=
  ((hexToNum a * 2 ^ 12 + hexToNum b * 2 ^ 8 + hexToNum c * 2 ^ 4 + hexToNum d) % 2 ^ 16).toNat

/-- The code points of UTF-16 units. Units that pair up badly are skipped. -/
def codePoints : List Nat → List Nat
  | [] => []
  | w :: rest =>
    if w < 0xD800 ∨ 0xDFFF < w then w :: codePoints rest
    else if 0xDBFF < w then codePoints rest
    else match rest with
      | [] => []
      | w' :: rest' =>
        if w' < 0xDC00 ∨ 0xDFFF < w' then codePoints rest'
        else (((w % 0x400) * 0x400 + w' % 0x400) + 0x10000) :: codePoints rest'

/-- The UTF-8 bytes of a code point. -/
def utf8Bytes (p : Nat) : List Char :=
  if p < 0x80 then [Char.ofNat p]
  else if p < 0x800 then [Char.ofNat (0xC0 + p / 0x40), Char.ofNat (0x80 + p % 0x40)]
  else if p < 0x10000 then
    [Char.ofNat (0xE0 + p / 0x1000), Char.ofNat (0x80 + p / 0x40 % 0x40),
      Char.ofNat (0x80 + p % 0x40)]
  else
    [Char.ofNat (0xF0 + p / 0x40000), Char.ofNat (0x80 + p / 0x1000 % 0x40),
      Char.ofNat (0x80 + p / 0x40 % 0x40), Char.ofNat (0x80 + p % 0x40)]

/-- `boost::locale::conv::utf_to_utf<char>`. -/
def utf16To8 (units : List Nat) : List Char := (codePoints units).flatMap utf8Bytes

/-- `escaped`. -/
def escaped (c : Char) : Char :=
  if c = 'b' then '\x08'
  else if c = 'f' then '\x0c'
  else if c = 'n' then '\n'
  else if c = 'r' then '\r'
  else if c = 't' then '\t'
  else c

/-- The rest of a string, from behind its opening quote. A run of `\u` escapes is
collected in `units` and converted as a whole. -/
def readString (units : List Nat) : List Char → Except Fault (List Char × List Char)
  | '\\' :: 'u' :: a :: b :: c :: d :: rest => readString (units ++ [codeUnit a b c d]) rest
  | '\\' :: 'u' :: _ => throw .overrun
  | '\\' :: c :: rest => do
    let (value, rest) ← readString [] rest
    return (utf16To8 units ++ escaped c :: value, rest)
  | '"' :: rest => return (utf16To8 units, rest)
  | c :: rest => do
    let (value, rest) ← readString [] rest
    return (utf16To8 units ++ c :: value, rest)
  | [] => throw .overrun

/-! ## Numbers -/

/-- `digits * 10 ^ exponent`, with a sign. -/
structure Decimal where
  negative : Bool
  digits : ℕ
  exponent : Int

/-- A decimal number as a quotient, rounded. -/
def Decimal.round (d : Decimal) (f : Format) : Floating f :=
  .round f d.negative (d.digits * 10 ^ d.exponent.toNat) (10 ^ (-d.exponent).toNat)

/-- An optional sign, and whether it is a minus. -/
def readSign : List Char → Bool × List Char
  | '-' :: rest => (true, rest)
  | '+' :: rest => (false, rest)
  | text => (false, text)

/-- The number that the digits in front stand for. -/
def readDigits (text : List Char) : ℕ := Nat.ofDigitChars 10 (text.takeWhile Char.isDigit) 0

/-- `atoi`: a `strtol` cut down to 32 bits. -/
def atoi (text : List Char) : Int :=
  let (negative, digits) := readSign text
  let value : Int := if negative then -readDigits digits else readDigits digits
  (max (-2 ^ 63) (min value (2 ^ 63 - 1))).bmod (2 ^ 32)

/-- The digits behind an optional decimal point, and what follows them. -/
def readFraction : List Char → List Char × List Char
  | '.' :: rest => (rest.takeWhile Char.isDigit, rest.dropWhile Char.isDigit)
  | text => ([], text)

/-- The exponent part that `strtof` takes, and what follows it. -/
def readExponent : List Char → Int × List Char
  | [] => (0, [])
  | e :: rest =>
    let (negative, digits) := readSign rest
    if (e = 'e' ∨ e = 'E') ∧ digits.takeWhile Char.isDigit ≠ [] then
      (if negative then -readDigits digits else readDigits digits, digits.dropWhile Char.isDigit)
    else (0, e :: rest)

/-- The decimal number in front. Where none is found, the text stays where it is. -/
def readDecimal (text : List Char) : Decimal × List Char :=
  let (negative, digits) := readSign text
  let whole := digits.takeWhile Char.isDigit
  let (fraction, rest) := readFraction (digits.dropWhile Char.isDigit)
  if whole ++ fraction = [] then (⟨false, 0, 0⟩, text)
  else
    let (exponent, rest) := readExponent rest
    (⟨negative, Nat.ofDigitChars 10 (whole ++ fraction) 0, exponent - fraction.length⟩, rest)

/-- `strtof`: a `float`. -/
def strtof (text : List Char) : Floating .binary32 × List Char :=
  ((readDecimal text).1.round .binary32, (readDecimal text).2)

/-- The characters that the scanner passes over behind a number. -/
def numberChar (c : Char) : Bool := c == '-' || c == '.' || c.isDigit

/-- Whether a fraction or an exponent follows the first digits. -/
def isFloating (text : List Char) : Bool :=
  match (text.dropWhile fun c => c == '-' || c.isDigit).head? with
  | some c => c == '.' || c == 'e' || c == 'E'
  | none => false

/-- A number, from its first character. -/
def readNumber (text : List Char) : JsonValue × List Char :=
  if isFloating text then
    (.real ((strtof text).1.convert .binary64), (strtof text).2.dropWhile numberChar)
  else (.integer (atoi text), text.dropWhile numberChar)

/-! ## Literals -/

/-- Only the first three characters of `null` and `true` are compared. -/
def literal (text : List Char) : JsonValue :=
  if text.take 3 = ['n', 'u', 'l'] then .null
  else .boolean (text.take 3 = ['t', 'r', 'u'])

/-- Progress to the next element. -/
def skipLiteral : List Char → Except Fault (List Char)
  | [] => throw .overrun
  | c :: rest => if c = ',' ∨ c = '}' ∨ c = ']' then return c :: rest else skipLiteral rest

/-! ## Containers -/

/-- `state_t`. -/
inductive State
  | parseName
  | parseValue
deriving DecidableEq

/-- The map or array that is being filled. -/
inductive Container
  | map (m : JsonMap)
  | array (a : JsonArray)

namespace Container

/-- Maps start out parsing keys, arrays just want values. -/
def start : Container → State
  | .map _ => .parseName
  | .array _ => .parseValue

/-- `push_back`. -/
def pushBack (container : Container) (name : String) (v : JsonValue) : Container :=
  match container with
  | .map m => .map (JsonMap.set m name v)
  | .array a => .array (a ++ [v])

def toValue : Container → JsonValue
  | .map m => .map m
  | .array a => .array a

end Container

/-- What the `switch` of the scanner tells apart. -/
inductive Symbol
  | terminator
  | openMap
  | openArray
  | close
  | quote
  | number
  | literal
  | other
deriving DecidableEq

def symbol (c : Char) : Symbol :=
  if c = '\x00' then .terminator
  else if c = '{' then .openMap
  else if c = '[' then .openArray
  else if c = '}' ∨ c = ']' then .close
  else if c = '"' then .quote
  else if c = '-' ∨ c.isDigit then .number
  else if c = 'n' ∨ c = 't' ∨ c = 'f' then .literal
  else .other

/-- The members of a container, from behind its opening character, and the text
behind its closing one. Every turn of the loop takes a character, so that a
number of turns above the length of the text is enough. -/
def parseContainer : ℕ → Container → String → State → List Char →
    Except Fault (Container × List Char)
  | 0, _, _, _, _ => throw .overrun
  | _ + 1, container, _, _, [] => return (container, [])
  | turns + 1, container, name, state, c :: rest =>
    match symbol c with
    | .terminator => return (container, c :: rest)
    | .openMap => do
      let (inner, rest) ← parseContainer turns (.map []) "" .parseName rest
      let container := container.pushBack name inner.toValue
      parseContainer turns container name container.start rest
    | .openArray => do
      let (inner, rest) ← parseContainer turns (.array []) "" .parseValue rest
      let container := container.pushBack name inner.toValue
      parseContainer turns container name container.start rest
    | .close => return (container, rest)
    | .quote => do
      let (value, rest) ← readString [] rest
      match state with
      | .parseValue =>
        let container := container.pushBack name (.string (String.ofList value))
        parseContainer turns container name container.start rest
      | .parseName => parseContainer turns container (String.ofList value) .parseValue rest
    | .number =>
      let (value, rest) := readNumber (c :: rest)
      let container := container.pushBack name value
      parseContainer turns container name container.start rest
    | .literal => do
      let container := container.pushBack name (literal (c :: rest))
      let rest ← skipLiteral rest
      parseContainer turns container name container.start rest
    | .other => parseContainer turns container name state rest

/-- `parse<json_map>`: everything before the first opening brace is skipped. -/
def parse : List Char → Except Fault JsonMap
  | [] => return []
  | c :: rest =>
    if c = '\x00' then return []
    else if c = '{' then do
      match (← parseContainer (rest.length + 1) (.map []) "" .parseName rest).1 with
      | .map m => return m
      | .array _ => return []
    else parse rest

/-! ## Printing -/

/-- `escape`. -/
def escape : List Char → List Char
  | [] => []
  | c :: rest =>
    if c = '"' then '\\' :: '"' :: escape rest
    else if c = '\\' then '\\' :: '\\' :: escape rest
    else if c = '\x08' then '\\' :: 'b' :: escape rest
    else if c = '\x0c' then '\\' :: 'f' :: escape rest
    else if c = '\n' then '\\' :: 'n' :: escape rest
    else if c = '\r' then '\\' :: 'r' :: escape rest
    else if c = '\t' then '\\' :: 't' :: escape rest
    else c :: escape rest

def quoted (s : String) : List Char := '"' :: escape s.toList ++ ['"']

def printInt (i : Int) : List Char :=
  if i < 0 then '-' :: Nat.toDigits 10 i.natAbs else Nat.toDigits 10 i.natAbs

/-- At most six significant digits, without zeros at the end, and the power of
ten of the last one. -/
def sixDigits (digits : Nat) (exponent : Int) : List Char × Int :=
  let all := Nat.toDigits 10 digits
  let cut := 10 ^ (all.length - 6)
  let kept := digits / cut
  let up := cut < 2 * (digits % cut) ∨ cut = 2 * (digits % cut) ∧ kept % 2 = 1
  let rounded := Nat.toDigits 10 (if up then kept + 1 else kept)
  let stripped := (rounded.reverse.dropWhile (· == '0')).reverse
  (stripped, exponent + (all.length - 6 : Nat) + (rounded.length - stripped.length : Nat))

/-- A power of ten, with at least two digits. -/
def printExponent (exponent : Int) : List Char :=
  'e' :: (if exponent < 0 then '-' else '+') ::
    ((if exponent.natAbs < 10 then ['0'] else []) ++ Nat.toDigits 10 exponent.natAbs)

/-- The digits behind a decimal point, if there are any. -/
def printFraction (digits : List Char) : List Char := if digits = [] then [] else '.' :: digits

/-- Significant digits, the last of them counting `10 ^ exponent`, as `%g` writes them. -/
def printDigits (digits : List Char) (exponent : Int) : List Char :=
  let leading : Int := exponent + digits.length - 1
  match digits with
  | [] => ['0']
  | first :: others =>
    if leading < -4 ∨ 6 ≤ leading then
      first :: (printFraction others ++ printExponent leading)
    else if 0 ≤ exponent then digits ++ List.replicate exponent.toNat '0'
    else if 0 ≤ leading then
      digits.take (leading.toNat + 1) ++ '.' :: digits.drop (leading.toNat + 1)
    else '0' :: '.' :: (List.replicate (-leading - 1).toNat '0' ++ digits)

def printDecimal (d : Decimal) : List Char :=
  let (digits, exponent) := sixDigits d.digits d.exponent
  if d.negative then '-' :: printDigits digits exponent else printDigits digits exponent

/-- The decimal number that is `significand * 2 ^ exponent`. -/
def exactDecimal (negative : Bool) (significand : ℕ) (exponent : Int) : Decimal :=
  if 0 ≤ exponent then ⟨negative, significand * 2 ^ exponent.toNat, 0⟩
  else ⟨negative, significand * 5 ^ (-exponent).toNat, exponent⟩

/-- `operator<<` of a `double`. -/
def printReal : Double → List Char
  | .finite negative significand exponent _ => printDecimal (exactDecimal negative significand exponent)
  | .infinite negative => if negative then ['-', 'i', 'n', 'f'] else ['i', 'n', 'f']

mutual
/-- `operator<<` of a value. -/
def print : JsonValue → List Char
  | .null => "null".toList
  | .integer i => printInt i
  | .real x => printReal x
  | .boolean b => if b then "true".toList else "false".toList
  | .string s => quoted s
  | .map m => '{' :: printMembers m ++ ['}']
  | .array a => '[' :: printElements a ++ [']']

def printMembers : List (String × JsonValue) → List Char
  | [] => []
  | (k, v) :: rest =>
    quoted k ++ ':' :: print v ++ (if rest.isEmpty then [] else ',' :: printMembers rest)

def printElements : List JsonValue → List Char
  | [] => []
  | v :: rest => print v ++ (if rest.isEmpty then [] else ',' :: printElements rest)
end

end StreamCloud.JsonText

namespace StreamCloud

/-- How the api reads and writes objects. -/
def Codec.api : Codec where
  parse s := JsonText.parse s.toList
  print m := String.ofList (JsonText.print (.map m))

end StreamCloud
