-- SUMMARY: The scanner reads every standard JSON text, however it is spelled, as the value that it stands for.
import StreamCloud.Api.JsonRoundTrip
import StreamCloud.Library.JsonGrammar
import StreamCloud.Library.Rounding
import Mathlib.Tactic.IntervalCases

/-!
# Standard texts

The scanner checks nothing, and it does not read standard texts only. What it reads
of those is what they stand for: white space does not matter, escapes stand for
their characters in UTF-8, and of members with one name the last one counts. An integer is
cut down to 32 bits, and another number is rounded to single precision.
-/

namespace StreamCloud.JsonText

open JsonGrammar

/-! ## What texts stand for -/

/-- What is kept of an integer, which is first brought into 64 bits. -/
def cutDown (i : Int) : Int := (max (-2 ^ 63) (min i (2 ^ 63 - 1))).bmod (2 ^ 32)

def Number.toInt (n : Number) : Int :=
  if n.negative then -Nat.ofDigitChars 10 n.whole.chars 0 else Nat.ofDigitChars 10 n.whole.chars 0

def Exponent.toInt (e : Exponent) : Int :=
  match e.sign with
  | .minus => -Nat.ofDigitChars 10 e.digits.chars 0
  | _ => Nat.ofDigitChars 10 e.digits.chars 0

def Number.fractionDigits (n : Number) : List Char :=
  match n.fraction with
  | none => []
  | some digits => digits.chars

def Number.power (n : Number) : Int :=
  match n.exponent with
  | none => 0
  | some e => Exponent.toInt e

def Number.toDecimal (n : Number) : Decimal where
  negative := n.negative
  digits := Nat.ofDigitChars 10 (n.whole.chars ++ Number.fractionDigits n) 0
  exponent := Number.power n - (Number.fractionDigits n).length

/-- A number in single precision, kept as a `double`. -/
def Number.toReal (n : Number) : Double := ((Number.toDecimal n).round .binary32).convert .binary64

/-- A number without a fraction and an exponent is an integer. -/
def Number.value (n : Number) : JsonValue :=
  match n.fraction, n.exponent with
  | none, none => .integer (cutDown (Number.toInt n))
  | _, _ => .real (Number.toReal n)

mutual
def Text.value : Text → JsonValue
  | .null => .null
  | .boolean b => .boolean b
  | .number n => Number.value n
  | .string pieces => .string (stringOf pieces)
  | .emptyObject _ => .map []
  | .object members => .map (Members.value [] members)
  | .emptyArray _ => .array []
  | .array elements => .array (Elements.value elements)

/-- The members, put into a map one after the other. -/
def Members.value (m : JsonMap) : Members → JsonMap
  | .last _ name _ _ value _ => JsonMap.set m (stringOf name) (Text.value value)
  | .more _ name _ _ value _ rest => Members.value (JsonMap.set m (stringOf name) (Text.value value)) rest

def Elements.value : Elements → JsonArray
  | .last _ value _ => [Text.value value]
  | .more _ value _ rest => Text.value value :: Elements.value rest
end

/-- What a decimal number is without its sign. -/
def Decimal.magnitude (d : Decimal) : ℚ := d.digits * 10 ^ d.exponent

/-- A value that keeps a number as the nearest one of single precision does. -/
def Number.Nearest (n : Number) (v : JsonValue) : Prop :=
  ∃ (x : Double) (y : Floating .binary32), v = .real x ∧ x.magnitude = y.magnitude ∧ x.negative = y.negative ∧
    Floating.Rounds .binary32 (Number.toDecimal n).magnitude n.negative y

/-! ## Numbers -/

/-- A decimal number is rounded to a nearest number of the format. -/
theorem Decimal.round_rounds (d : Decimal) (f : Format) : Floating.Rounds f d.magnitude d.negative (d.round f) := by
  have hmagnitude : d.magnitude = ((d.digits * 10 ^ d.exponent.toNat : ℕ) : ℚ) / (10 ^ (-d.exponent).toNat : ℕ) := by
    rw [Decimal.magnitude, Floating.zpow_eq_div_toNat]
    push_cast
    ring
  rw [hmagnitude]
  exact Floating.round_rounds f d.negative _ (by positivity)

section Number

variable (n : Number)

/-- What is behind the digits in front. -/
private def tail (n : Number) : List Char := n.fractionChars ++ n.exponentChars

private theorem tail_head : ∀ c ∈ (tail n).head?, c = '.' ∨ c = 'e' ∨ c = 'E' := by
  unfold tail Number.fractionChars Number.exponentChars
  cases n.fraction with
  | some digits => simp
  | none =>
    cases n.exponent with
    | none => simp
    | some e => cases hcapital : e.capital <;> simp [Exponent.chars, hcapital]

/-- The digits in front end where the tail begins. -/
private theorem dropWhile_tail {p : Char → Bool} (hdot : p '.' = false) (he : p 'e' = false)
    (hE : p 'E' = false) : (tail n).dropWhile p = tail n ∧ (tail n).takeWhile p = [] := by
  have hhead := tail_head n
  cases htail : tail n with
  | nil => exact ⟨rfl, rfl⟩
  | cons c rest =>
    rw [htail] at hhead
    have hstop : p c = false := by rcases hhead c rfl with rfl | rfl | rfl <;> assumption
    simp [hstop]

private theorem readSign_chars : readSign n.chars = (n.negative, n.whole.chars ++ tail n) := by
  unfold Number.chars Number.signChars
  obtain ⟨first, others, hwhole⟩ := List.exists_cons_of_ne_nil n.whole.nonempty
  have hfirst : first.isDigit := n.whole.digits first (by simp [hwhole])
  cases n.negative with
  | true => rfl
  | false =>
    have hne : ∀ d : Char, d.isDigit = false → first ≠ d := by
      rintro d hd rfl
      simp [hfirst] at hd
    simp [readSign, hwhole, hne '-' (by decide), hne '+' (by decide), tail]

private theorem isFloating_chars : isFloating n.chars = decide (tail n ≠ []) := by
  have hfront : ∀ c ∈ n.signChars ++ n.whole.chars, (c == '-' || c.isDigit) = true := by
    intro c hc
    rcases List.mem_append.mp hc with hc | hc
    · unfold Number.signChars at hc
      split at hc <;> simp_all
    · simp [n.whole.digits c hc]
  have hchars : n.chars = (n.signChars ++ n.whole.chars) ++ tail n := by simp [Number.chars, tail]
  rw [isFloating, hchars, List.dropWhile_append_of_pos hfront,
    (dropWhile_tail n (by decide) (by decide) (by decide)).1]
  have hhead := tail_head n
  cases htail : tail n with
  | nil => rfl
  | cons c rest =>
    rw [htail] at hhead
    rcases hhead c rfl with rfl | rfl | rfl <;> rfl

private theorem readDigits_whole : readDigits (n.whole.chars ++ tail n) = Nat.ofDigitChars 10 n.whole.chars 0 := by
  rw [readDigits, List.takeWhile_append_of_pos n.whole.digits,
    (dropWhile_tail n (by decide) (by decide) (by decide)).2, List.append_nil]

private theorem readFraction_tail : readFraction (tail n) = (Number.fractionDigits n, n.exponentChars) := by
  have hexponent : (n.exponentChars).takeWhile Char.isDigit = [] ∧
      (n.exponentChars).dropWhile Char.isDigit = n.exponentChars := by
    unfold Number.exponentChars
    cases n.exponent with
    | none => exact ⟨rfl, rfl⟩
    | some e => cases hcapital : e.capital <;> simp [Exponent.chars, hcapital]
  unfold tail Number.fractionChars Number.fractionDigits
  cases n.fraction with
  | some digits =>
    simp only [List.cons_append, readFraction, List.takeWhile_append_of_pos digits.digits,
      List.dropWhile_append_of_pos digits.digits, hexponent, List.append_nil]
  | none =>
    unfold Number.exponentChars
    cases n.exponent with
    | none => rfl
    | some e => cases hcapital : e.capital <;> simp [Exponent.chars, hcapital, readFraction]

private theorem readExponent_chars : readExponent n.exponentChars = (Number.power n, []) := by
  unfold Number.exponentChars Number.power
  cases n.exponent with
  | none => rfl
  | some e =>
    obtain ⟨capital, sign, digits⟩ := e
    obtain ⟨first, others, hdigits⟩ := List.exists_cons_of_ne_nil digits.nonempty
    have hfirst : first.isDigit := digits.digits first (by simp [hdigits])
    have htake : digits.chars.takeWhile Char.isDigit = digits.chars :=
      List.takeWhile_eq_self_iff.mpr digits.digits
    have hdrop : digits.chars.dropWhile Char.isDigit = [] := List.dropWhile_eq_nil_iff.mpr digits.digits
    have hsign : readSign (sign.chars ++ digits.chars) = (match sign with | .minus => true | _ => false, digits.chars) := by
      cases sign with
      | absent =>
        have hne : ∀ d : Char, d.isDigit = false → first ≠ d := by
          rintro d hd rfl
          simp [hfirst] at hd
        simp [Sign.chars, readSign, hdigits, hne '-' (by decide), hne '+' (by decide)]
      | plus => rfl
      | minus => rfl
    have he : (if capital then 'E' else 'e') = 'e' ∨ (if capital then 'E' else 'e') = 'E' := by
      cases capital <;> simp
    simp only [Exponent.chars, readExponent, hsign, htake, hdrop, readDigits]
    rw [if_pos ⟨he, digits.nonempty⟩]
    cases sign <;> rfl

private theorem tail_eq_nil : tail n = [] ↔ n.fraction = none ∧ n.exponent = none := by
  unfold tail Number.fractionChars Number.exponentChars
  cases n.fraction <;> cases n.exponent <;> simp [Exponent.chars]

private theorem readNumber_integer (h : tail n = []) :
    readNumber n.chars = (.integer (cutDown (Number.toInt n)), []) := by
  have hmem : ∀ c ∈ n.chars, numberChar c := by
    intro c hc
    rcases List.mem_append.mp hc with hc | hc
    · unfold Number.signChars at hc
      split at hc <;> simp_all [numberChar]
    · rw [show n.fractionChars ++ n.exponentChars = [] from h, List.append_nil] at hc
      exact numberChar_of_digit (n.whole.digits c hc)
  rw [readNumber, isFloating_chars, h]
  refine Prod.ext ?_ (List.dropWhile_eq_nil_iff.mpr hmem)
  simp only [atoi, readSign_chars, readDigits_whole]
  rfl

private theorem readNumber_real (h : tail n ≠ []) : readNumber n.chars = (.real (Number.toReal n), []) := by
  have hwhole : n.whole.chars ++ Number.fractionDigits n ≠ [] := by simp [n.whole.nonempty]
  have hread : readDecimal n.chars = (Number.toDecimal n, []) := by
    simp only [readDecimal, readSign_chars, List.takeWhile_append_of_pos n.whole.digits,
      List.dropWhile_append_of_pos n.whole.digits,
      dropWhile_tail n (p := Char.isDigit) (by decide) (by decide) (by decide),
      List.append_nil, readFraction_tail, readExponent_chars, if_neg hwhole]
    rfl
  rw [readNumber, isFloating_chars, strtof, hread]
  simp [h, Number.toReal]

/-- With a fraction or an exponent, a number is a real. -/
theorem value_real (h : ¬ (n.fraction = none ∧ n.exponent = none)) : Number.value n = .real (Number.toReal n) := by
  unfold Number.value
  split
  · next hfraction hexponent => exact absurd ⟨hfraction, hexponent⟩ h
  · rfl

/-- A real is the nearest one of single precision. -/
theorem nearest_value (h : ¬ (n.fraction = none ∧ n.exponent = none)) : Number.Nearest n (Number.value n) := by
  obtain ⟨hmagnitude, hnegative⟩ :=
    Floating.magnitude_convert Format.binary32_within ((Number.toDecimal n).round .binary32)
  exact ⟨_, _, value_real n h, hmagnitude, hnegative, (Number.toDecimal n).round_rounds .binary32⟩

/-- A number is read as what it stands for, to its end. -/
theorem readNumber_chars : readNumber n.chars = (Number.value n, []) := by
  by_cases h : tail n = []
  · obtain ⟨hfraction, hexponent⟩ := (tail_eq_nil n).mp h
    rw [readNumber_integer n h, Number.value, hfraction, hexponent]
  · rw [readNumber_real n h, value_real n fun hnone => h ((tail_eq_nil n).mpr hnone)]

end Number

/-! ## Strings -/

theorem hexToNum_hexChar {value : ℕ} (h : value < 16) (capital : Bool) : hexToNum (hexChar value capital) = value := by
  interval_cases value <;> cases capital <;> rfl

theorem codeUnit_hexChar {unit : ℕ} (h : unit < 2 ^ 16) (capital : ℕ → Bool) :
    codeUnit (hexChar (unit / 0x1000 % 0x10) (capital 0)) (hexChar (unit / 0x100 % 0x10) (capital 1))
      (hexChar (unit / 0x10 % 0x10) (capital 2)) (hexChar (unit % 0x10) (capital 3)) = unit := by
  have hdigit (n : ℕ) : n % 0x10 < 16 := Nat.mod_lt _ (by decide)
  simp only [codeUnit, hexToNum_hexChar (hdigit _)]
  omega

theorem readString_unit {units : List ℕ} {unit : ℕ} (h : unit < 2 ^ 16) (capital : ℕ → Bool) (text : List Char) :
    readString units (unitChars unit capital ++ text) = readString (units ++ [unit]) text := by
  simp only [unitChars, List.cons_append, List.nil_append]
  rw [readString, codeUnit_hexChar h]

/-- The bytes of a character. -/
private def utf8 (c : Char) : List Char := (String.utf8EncodeChar c).map fun b => Char.ofNat b.toNat

private theorem toNat_valid (c : Char) : c.toNat < 0xD800 ∨ 0xDFFF < c.toNat ∧ c.toNat < 0x110000 := c.valid

theorem utf8Bytes_toNat (c : Char) : utf8Bytes c.toNat = utf8 c := by
  have hvalid := toNat_valid c
  unfold utf8Bytes utf8 String.utf8EncodeChar
  rw [show c.val.toNat = c.toNat from rfl]
  generalize c.toNat = p at hvalid ⊢
  dsimp only
  split_ifs with h1 h2 h3 h4 h5 h6 <;>
    simp only [List.map_cons, List.map_nil, UInt8.toNat_ofNat', List.cons.injEq, and_true] <;> try omega
  · exact congrArg Char.ofNat (by omega)
  · exact ⟨congrArg Char.ofNat (by omega), congrArg Char.ofNat (by omega)⟩
  · exact ⟨congrArg Char.ofNat (by omega), congrArg Char.ofNat (by omega), congrArg Char.ofNat (by omega)⟩
  · exact ⟨congrArg Char.ofNat (by omega), congrArg Char.ofNat (by omega), congrArg Char.ofNat (by omega),
      congrArg Char.ofNat (by omega)⟩

theorem codePoints_utf16 (c : Char) (units : List ℕ) : codePoints (utf16 c ++ units) = c.toNat :: codePoints units := by
  have hvalid := toNat_valid c
  unfold utf16
  split
  · next hbmp =>
    rw [List.singleton_append, codePoints.eq_def]
    dsimp only
    rw [if_pos (by omega)]
  · next hpair =>
    have hlow : ¬ (0xD800 + (c.toNat - 0x10000) / 0x400 < 0xD800 ∨ 0xDFFF < 0xD800 + (c.toNat - 0x10000) / 0x400) := by
      omega
    have hhigh : ¬ 0xDBFF < 0xD800 + (c.toNat - 0x10000) / 0x400 := by omega
    have hsecond : ¬ (0xDC00 + (c.toNat - 0x10000) % 0x400 < 0xDC00 ∨ 0xDFFF < 0xDC00 + (c.toNat - 0x10000) % 0x400) := by
      omega
    simp only [List.cons_append, List.nil_append]
    rw [codePoints.eq_def]
    dsimp only
    rw [if_neg hlow, if_neg hhigh, if_neg hsecond]
    congr 1
    omega

theorem utf16_lt (c : Char) : ∀ unit ∈ utf16 c, unit < 2 ^ 16 := by
  have hvalid := toNat_valid c
  intro unit hunit
  unfold utf16 at hunit
  split at hunit
  · simp only [List.mem_singleton] at hunit
    omega
  · simp only [List.mem_cons, List.not_mem_nil, or_false] at hunit
    omega

/-- A run of `\u` escapes is converted as a whole. -/
theorem utf16To8_flatMap (cs : List Char) : utf16To8 (cs.flatMap utf16) = cs.flatMap utf8 := by
  induction cs with
  | nil => rfl
  | cons c cs ih =>
    simp only [utf16To8, List.flatMap_cons, codePoints_utf16, utf8Bytes_toNat] at ih ⊢
    rw [ih]

theorem readString_units {cs : List Char} (c : Char) (capital : ℕ → Bool) (text : List Char) :
    readString (cs.flatMap utf16) ((utf16 c).flatMap (unitChars · capital) ++ text) =
      readString ((cs ++ [c]).flatMap utf16) text := by
  have hlt := utf16_lt c
  rw [List.flatMap_append, List.flatMap_singleton]
  generalize cs.flatMap utf16 = before
  generalize utf16 c = units at hlt ⊢
  induction units generalizing before with
  | nil => simp
  | cons unit units ih =>
    rw [List.flatMap_cons, List.append_assoc, readString_unit (hlt unit (by simp)),
      ih (before ++ [unit]) fun unit' hunit' => hlt unit' (List.mem_cons_of_mem _ hunit')]
    simp

/-- The pieces of a string, behind the characters of a run that is not converted yet. -/
theorem readString_pieces (cs : List Char) (pieces : List Piece) (rest : List Char) :
    readString (cs.flatMap utf16) (pieces.flatMap Piece.chars ++ '"' :: rest) =
      .ok (cs.flatMap utf8 ++ pieces.flatMap Piece.bytes, rest) := by
  induction pieces generalizing cs with
  | nil =>
    simp only [List.flatMap_nil, List.nil_append, List.append_nil]
    rw [← utf16To8_flatMap]
    rfl
  | cons piece pieces ih =>
    have hnext := ih []
    simp only [List.flatMap_nil, List.nil_append] at hnext
    cases piece with
    | plain c hquote hbackslash _ =>
      simp only [List.flatMap_cons, Piece.chars, List.cons_append, List.nil_append,
        readString_cons hbackslash hquote, hnext, Except.ok_bind', utf16To8_flatMap]
      rfl
    | short e =>
      have hletter : e.letter ≠ 'u' := by cases e <;> decide
      have hmeaning : escaped e.letter = e.meaning := by cases e <;> rfl
      simp only [List.flatMap_cons, Piece.chars, List.cons_append, List.nil_append,
        readString_escape hletter, hnext, Except.ok_bind', utf16To8_flatMap, hmeaning]
      rfl
    | unicode c capital =>
      have hrun := ih (cs ++ [c])
      rw [List.flatMap_cons, List.append_assoc, Piece.chars, readString_units, hrun]
      simp [Piece.bytes, utf8]

/-! ## Containers -/

section Scan

variable {container : Container} {name : String} {state : State}

theorem symbol_white {c : Char} (h : c = ' ' ∨ c = '\t' ∨ c = '\n' ∨ c = '\r') : symbol c = .other := by
  rcases h with rfl | rfl | rfl | rfl <;> rfl

theorem scan_white (w : White) (rest : List Char) :
    scan container name state (w.chars ++ rest) = scan container name state rest := by
  obtain ⟨chars, hwhite⟩ := w
  induction chars with
  | nil => rfl
  | cons c chars ih =>
    rw [List.cons_append, scan_other (symbol_white (hwhite c (by simp)))]
    exact ih fun c' hc' => hwhite c' (List.mem_cons_of_mem _ hc')

theorem readString_stringOf (pieces : List Piece) (rest : List Char) :
    readString [] (pieces.flatMap Piece.chars ++ '"' :: rest) = .ok ((stringOf pieces).toList, rest) := by
  rw [stringOf, String.toList_ofList]
  exact readString_pieces [] pieces rest

theorem scan_stringChars (pieces : List Piece) (rest : List Char) :
    scan container name .parseValue (stringChars pieces ++ rest) =
      scan (container.pushBack name (.string (stringOf pieces))) name container.start rest := by
  have hscan := scan_string container name (readString_stringOf pieces rest)
  rw [String.ofList_toList] at hscan
  simpa [stringChars] using hscan

theorem scan_stringChars_name (pieces : List Piece) (rest : List Char) :
    scan container name .parseName (stringChars pieces ++ rest) =
      scan container (stringOf pieces) .parseValue rest := by
  have hscan := scan_name container name (readString_stringOf pieces rest)
  rw [String.ofList_toList] at hscan
  simpa [stringChars] using hscan

end Scan

/-- What follows a value: white space, and then the rest of the container. -/
theorem endsNumber_behind (w : White) {d : Char} (hd : Delimiter d) (rest : List Char) :
    ∃ d' rest', w.chars ++ d :: rest = d' :: rest' ∧ EndsNumber d' := by
  obtain ⟨chars, hwhite⟩ := w
  cases chars with
  | nil => exact ⟨d, rest, rfl, hd.endsNumber⟩
  | cons c chars =>
    refine ⟨c, chars ++ d :: rest, rfl, ?_⟩
    rcases hwhite c (by simp) with rfl | rfl | rfl | rfl <;> exact ⟨by decide, by decide⟩

theorem scan_number_behind (n : Number) (w : White) {d : Char} (hd : Delimiter d) (container : Container)
    (name : String) (rest : List Char) :
    scan container name .parseValue (n.chars ++ (w.chars ++ d :: rest)) =
      scan (container.pushBack name (Number.value n)) name container.start (d :: rest) := by
  have hhead : ∃ c others, n.chars = c :: others ∧ symbol c = .number := by
    obtain ⟨first, others, hwhole⟩ := List.exists_cons_of_ne_nil n.whole.nonempty
    have hfirst : first.isDigit := n.whole.digits first (by simp [hwhole])
    refine symbol_head_number (by simp [Number.chars, hwhole]) fun c hc => ?_
    unfold Number.chars Number.signChars at hc
    cases hnegative : n.negative with
    | true =>
      obtain rfl : '-' = c := by simpa [hnegative] using hc
      exact .inl rfl
    | false =>
      obtain rfl : first = c := by simpa [hnegative, hwhole] using hc
      exact .inr hfirst
  obtain ⟨d', rest', hbehind, hends⟩ := endsNumber_behind w hd rest
  rw [hbehind, scan_number_text hends hhead (readNumber_chars n), ← hbehind, scan_white]

/-- A literal, of which three characters are compared. -/
theorem scan_literal_behind (c : Char) (others : List Char) (hsym : symbol c = .literal)
    (hothers : ∀ c' ∈ others, ¬ Delimiter c') (w : White) {d : Char} (hd : Delimiter d) (container : Container)
    (name : String) (rest : List Char) :
    scan container name .parseValue (c :: others ++ (w.chars ++ d :: rest)) =
      scan (container.pushBack name (literal (c :: others ++ (w.chars ++ d :: rest)))) name container.start
        (d :: rest) := by
  have hskip : skipLiteral (others ++ w.chars ++ d :: rest) = .ok (d :: rest) := by
    refine skipLiteral_append hd (fun c' hc' => ?_) rest
    rcases List.mem_append.mp hc' with hc' | hc'
    · exact hothers c' hc'
    · rcases w.white c' hc' with rfl | rfl | rfl | rfl <;> decide
  rw [List.append_assoc] at hskip
  exact scan_literal container name .parseValue hsym hskip

mutual
/-- A value is pushed as what it stands for. -/
theorem scan_text (t : Text) (w : White) {d : Char} (hd : Delimiter d) (container : Container) (name : String)
    (rest : List Char) :
    scan container name .parseValue (t.chars ++ (w.chars ++ d :: rest)) =
      scan (container.pushBack name (Text.value t)) name container.start (d :: rest) := by
  cases t with
  | null => exact scan_literal_behind 'n' ['u', 'l', 'l'] rfl (by simp [Delimiter]) w hd container name rest
  | boolean b =>
    cases b with
    | true => exact scan_literal_behind 't' ['r', 'u', 'e'] rfl (by simp [Delimiter]) w hd container name rest
    | false => exact scan_literal_behind 'f' ['a', 'l', 's', 'e'] rfl (by simp [Delimiter]) w hd container name rest
  | number n => exact scan_number_behind n w hd container name rest
  | string pieces =>
    rw [Text.chars, scan_stringChars, scan_white]
    rfl
  | emptyObject within =>
    have hinner : scan (.map []) "" .parseName (within.chars ++ '}' :: (w.chars ++ d :: rest)) =
        .ok (.map [], w.chars ++ d :: rest) := by
      rw [scan_white, scan_close rfl]
    have hopen := scan_openMap container name .parseValue hinner
    rw [scan_white] at hopen
    simpa [Text.chars, Text.value, Container.toValue] using hopen
  | object members =>
    have hinner := scan_members members [] "" (w.chars ++ d :: rest)
    have hopen := scan_openMap container name .parseValue hinner
    rw [scan_white] at hopen
    simpa [Text.chars, Text.value, Container.toValue] using hopen
  | emptyArray within =>
    have hinner : scan (.array []) "" .parseValue (within.chars ++ ']' :: (w.chars ++ d :: rest)) =
        .ok (.array [], w.chars ++ d :: rest) := by
      rw [scan_white, scan_close rfl]
    have hopen := scan_openArray container name .parseValue hinner
    rw [scan_white] at hopen
    simpa [Text.chars, Text.value, Container.toValue] using hopen
  | array elements =>
    have hinner := scan_elements elements [] "" (w.chars ++ d :: rest)
    have hopen := scan_openArray container name .parseValue hinner
    rw [scan_white] at hopen
    simpa [Text.chars, Text.value, Container.toValue] using hopen

theorem scan_members (members : Members) (m : JsonMap) (name : String) (rest : List Char) :
    scan (.map m) name .parseName (members.chars ++ '}' :: rest) = .ok (.map (Members.value m members), rest) := by
  cases members with
  | last before key behindName beforeValue value behind =>
    have hvalue := scan_text value behind (d := '}') (.inr (.inl rfl)) (.map m) (stringOf key) rest
    rw [scan_close rfl] at hvalue
    simp only [Members.chars, List.append_assoc, List.cons_append]
    rw [scan_white, scan_stringChars_name, scan_white, scan_other rfl, scan_white, hvalue]
    rfl
  | more before key behindName beforeValue value behind others =>
    have hvalue := scan_text value behind (d := ',') (.inl rfl) (.map m) (stringOf key) (others.chars ++ '}' :: rest)
    rw [scan_other rfl] at hvalue
    have hothers := scan_members others (JsonMap.set m (stringOf key) (Text.value value)) (stringOf key) rest
    simp only [Members.chars, List.append_assoc, List.cons_append]
    rw [scan_white, scan_stringChars_name, scan_white, scan_other rfl, scan_white, hvalue]
    exact hothers

theorem scan_elements (elements : Elements) (a : JsonArray) (name : String) (rest : List Char) :
    scan (.array a) name .parseValue (elements.chars ++ ']' :: rest) =
      .ok (.array (a ++ Elements.value elements), rest) := by
  cases elements with
  | last before value behind =>
    have hvalue := scan_text value behind (d := ']') (.inr (.inr rfl)) (.array a) name rest
    rw [scan_close rfl] at hvalue
    simp only [Elements.chars, List.append_assoc]
    rw [scan_white, hvalue]
    rfl
  | more before value behind others =>
    have hvalue := scan_text value behind (d := ',') (.inl rfl) (.array a) name (others.chars ++ ']' :: rest)
    rw [scan_other rfl] at hvalue
    have hothers := scan_elements others (a ++ [Text.value value]) name rest
    simp only [Elements.chars, List.append_assoc, List.cons_append]
    rw [scan_white, hvalue]
    simpa [Elements.value, Container.pushBack, Container.start] using hothers
end

/-! ## Objects -/

theorem parse_white (w : White) (text : List Char) : parse (w.chars ++ text) = parse text := by
  obtain ⟨chars, hwhite⟩ := w
  induction chars with
  | nil => rfl
  | cons c chars ih =>
    have hne : c ≠ '\x00' ∧ c ≠ '{' := by rcases hwhite c (by simp) with rfl | rfl | rfl | rfl <;> decide
    rw [List.cons_append, parse, if_neg hne.1, if_neg hne.2]
    exact ih fun c' hc' => hwhite c' (List.mem_cons_of_mem _ hc')

/-- What is behind the members of an object is not looked at. -/
theorem parse_brace {text rest : List Char} {m : JsonMap}
    (h : scan (.map []) "" .parseName text = .ok (.map m, rest)) : parse ('{' :: text) = .ok m := by
  rw [parse, if_neg (by decide), if_pos rfl, show parseContainer _ _ _ _ _ = _ from h]
  rfl

/-- A text that stands for an object is read as that object. -/
theorem parse_text (before : White) (t : Text) {m : JsonMap} (hvalue : Text.value t = .map m) (behind : List Char) :
    parse (before.chars ++ (t.chars ++ behind)) = .ok m := by
  rw [parse_white]
  cases t with
  | emptyObject within =>
    obtain rfl : [] = m := by simpa [Text.value] using hvalue
    have hscan : scan (.map []) "" .parseName (within.chars ++ '}' :: behind) = .ok (.map [], behind) := by
      rw [scan_white, scan_close rfl]
    simpa [Text.chars] using parse_brace hscan
  | object members =>
    obtain rfl : Members.value [] members = m := by simpa [Text.value] using hvalue
    simpa [Text.chars] using parse_brace (scan_members members [] "" behind)
  | number n =>
    unfold Text.value Number.value at hvalue
    split at hvalue <;> cases hvalue
  | _ => simp [Text.value] at hvalue

end StreamCloud.JsonText

namespace StreamCloud

open JsonGrammar JsonText

/-- Every standard text of an object, with white space around it, is read as the object
that it stands for. In this object a number with a fraction or an exponent is the nearest one
of single precision. -/
theorem Codec.api_parse_standard (before : White) (t : JsonGrammar.Text) {m : JsonMap} (hvalue : Text.value t = .map m)
    (behind : White) :
    Codec.api.parse (String.ofList (before.chars ++ (t.chars ++ behind.chars))) = .ok m ∧
      ∀ n : Number, ¬ (n.fraction = none ∧ n.exponent = none) → Number.Nearest n (Number.value n) := by
  have hparse := parse_text before t hvalue behind.chars
  exact ⟨by simpa [Codec.api] using hparse, nearest_value⟩

/-- A name that is spelled with an escape, and a number that is too small for single precision. -/
theorem Codec.api_parse_standard_escape :
    let n : Number := ⟨false, ⟨['1'], by simp, by simp⟩, by simp, none, some ⟨false, .minus, ⟨['4', '6'], by simp, by simp⟩⟩⟩
    Codec.api.parse (String.ofList
        (['{', '"', '\\', 'u', '0', '0', '6', '9', 'd', '"', ':', ' '] ++ n.chars ++ ['}'])) =
      .ok [("id", .real (.finite false 0 (-1074) (by decide)))] ∧
      Number.Nearest n (.real (.finite false 0 (-1074) (by decide))) := by
  intro n
  let name : List Piece := [.unicode 'i' fun _ => false, .plain 'd' (by decide) (by decide) (by decide)]
  let t : JsonGrammar.Text := .object (.last .none name .none ⟨[' '], by simp⟩ (.number n) .none)
  have hreal : Number.toReal n = .finite false 0 (-1074) (by decide) := by decide +kernel
  have hnumber : Number.value n = .real (.finite false 0 (-1074) (by decide)) :=
    (value_real n (by simp [n])).trans (congrArg JsonValue.real hreal)
  have hvalue : Text.value t = .map [("id", .real (.finite false 0 (-1074) (by decide)))] := by
    rw [← hnumber]
    rfl
  obtain ⟨hparse, hnearest⟩ := Codec.api_parse_standard .none t hvalue .none
  exact ⟨hparse, hnumber ▸ hnearest n (by simp [n])⟩

end StreamCloud
