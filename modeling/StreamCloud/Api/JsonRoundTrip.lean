-- SUMMARY: What the scanner reads back from a printed object.
import StreamCloud.Api.JsonBounds

/-!
# Round trip

A printed object is read back member by member. Strings and booleans come back
as they were, an integer comes back cut down to 32 bits, and a real comes back
as what its six digits denote, which can be an integer. An infinite one comes back as
`false`, and in an array there is a zero in front of it if it is negative: of `-inf` the
minus is read as a number and the rest as a literal.
-/

namespace StreamCloud

open JsonText

/-! ## What comes back -/

/-- What is read in front of the value. -/
def JsonValue.before : JsonValue → List JsonValue
  | .real (.infinite true) => [.integer 0]
  | _ => []

mutual
/-- The value that is read back for a printed one. -/
def JsonValue.reread : JsonValue → JsonValue
  | .null => .null
  | .integer i => .integer (atoi (printInt i))
  | .real (.finite negative significand exponent fits) =>
    (readNumber (printReal (.finite negative significand exponent fits))).1
  | .real (.infinite _) => .boolean false
  | .boolean b => .boolean b
  | .string s => .string s
  | .map m => .map (rereadMembers [] m)
  | .array a => .array (rereadElements a)

/-- The members read back, put into a map one after the other. -/
def JsonValue.rereadMembers : JsonMap → List (String × JsonValue) → JsonMap
  | acc, [] => acc
  | acc, (k, v) :: rest => rereadMembers (JsonMap.set acc k v.reread) rest

def JsonValue.rereadElements : List JsonValue → List JsonValue
  | [] => []
  | v :: rest => v.before ++ v.reread :: rereadElements rest
end

/-- The object that is read back for a printed one. -/
def JsonMap.reread (m : JsonMap) : JsonMap := JsonValue.rereadMembers [] m

namespace JsonText

/-! ## The scanner without its counter -/

/-- The container loop with as many turns as it can need. -/
def scan (container : Container) (name : String) (state : State) (text : List Char) :
    Except Fault (Container × List Char) :=
  parseContainer (text.length + 1) container name state text

private theorem bind_congr_of_tracks {β γ : Type} {r : Except Fault (β × List Char)}
    {f g : β × List Char → Except Fault (γ × List Char)} {text : List Char} {before : Bool}
    {after : List Char → Bool} (h : Tracks r text before after)
    (hfg : ∀ v rest, rest.length ≤ text.length → f (v, rest) = g (v, rest)) :
    (r >>= f) = (r >>= g) := by
  match r, h with
  | .error _, _ => rfl
  | .ok (v, rest), ⟨hlen, _⟩ => exact hfg v rest hlen

/-- Turns above the length of the text make no difference. -/
theorem parseContainer_turns (turns turns' : ℕ) (container : Container) (name : String)
    (state : State) (text : List Char) (h : text.length < turns) (h' : text.length < turns') :
    parseContainer turns container name state text =
      parseContainer turns' container name state text := by
  induction turns generalizing turns' container name state text with
  | zero => omega
  | succ turns ih =>
    obtain ⟨turns', rfl⟩ : ∃ k, turns' = k + 1 := ⟨turns' - 1, by omega⟩
    cases text with
    | nil => rfl
    | cons c rest =>
      simp only [List.length_cons] at h h'
      have hnext : ∀ container name state rest', rest'.length ≤ rest.length →
          parseContainer turns container name state rest' =
            parseContainer turns' container name state rest' :=
        fun container name state rest' hlen =>
          ih turns' container name state rest' (by omega) (by omega)
      rw [parseContainer, parseContainer]
      cases hsym : symbol c with
      | terminator => rfl
      | openMap =>
        dsimp only
        rw [hnext _ _ _ rest le_rfl]
        refine bind_congr_of_tracks (parseContainer_tracks turns' _ _ _ rest 0 (by omega))
          fun inner rest' hlen => ?_
        exact hnext _ _ _ rest' hlen
      | openArray =>
        dsimp only
        rw [hnext _ _ _ rest le_rfl]
        refine bind_congr_of_tracks (parseContainer_tracks turns' _ _ _ rest 0 (by omega))
          fun inner rest' hlen => ?_
        exact hnext _ _ _ rest' hlen
      | close => rfl
      | quote =>
        refine bind_congr_of_tracks (readString_tracks 0 [] rest) fun value rest' hlen => ?_
        cases state with
        | parseValue => exact hnext _ _ _ rest' hlen
        | parseName => exact hnext _ _ _ rest' hlen
      | number => exact hnext _ _ _ _ (readNumber_length hsym rest)
      | literal =>
        have hskip := skipLiteral_tracks 0 rest
        cases hresult : skipLiteral rest with
        | error _ => rfl
        | ok rest' =>
          rw [hresult] at hskip
          exact hnext _ _ _ rest' hskip.1
      | other => exact hnext _ _ _ rest le_rfl

theorem scan_eq {turns : ℕ} {text : List Char} (h : text.length < turns) (container : Container)
    (name : String) (state : State) :
    parseContainer turns container name state text = scan container name state text :=
  parseContainer_turns turns _ container name state text h (by omega)

@[simp] theorem Container.start_pushBack (container : Container) (name : String) (v : JsonValue) :
    (container.pushBack name v).start = container.start := by
  cases container <;> rfl

/-! One turn of the loop, for each symbol. -/

section Turn

variable {container : Container} {name : String} {state : State} {c : Char} {rest : List Char}

theorem scan_close (h : symbol c = .close) :
    scan container name state (c :: rest) = .ok (container, rest) := by
  rw [scan, parseContainer, h]; rfl

theorem scan_other (h : symbol c = .other) :
    scan container name state (c :: rest) = scan container name state rest := by
  rw [scan, parseContainer, h]; rfl

theorem scan_number (h : symbol c = .number) :
    scan container name state (c :: rest) =
      scan (container.pushBack name (readNumber (c :: rest)).1) name container.start
        (readNumber (c :: rest)).2 := by
  rw [scan, parseContainer, h]
  have hlen := readNumber_length h rest
  rw [← Container.start_pushBack container name (readNumber (c :: rest)).1]
  exact scan_eq (Nat.lt_succ_of_le hlen) _ _ _

variable (container name state)

theorem scan_name {value rest' : List Char} (h : readString [] rest = .ok (value, rest')) :
    scan container name .parseName ('"' :: rest) =
      scan container (String.ofList value) .parseValue rest' := by
  have hlen : rest'.length ≤ rest.length := by
    have htracks := readString_tracks 0 [] rest
    rw [h] at htracks
    exact htracks.1
  rw [scan, parseContainer, show symbol '"' = .quote from rfl]
  simp only [h, Except.ok_bind']
  exact scan_eq (Nat.lt_succ_of_le hlen) _ _ _

theorem scan_string {value rest' : List Char} (h : readString [] rest = .ok (value, rest')) :
    scan container name .parseValue ('"' :: rest) =
      scan (container.pushBack name (.string (String.ofList value))) name container.start rest' := by
  have hlen : rest'.length ≤ rest.length := by
    have htracks := readString_tracks 0 [] rest
    rw [h] at htracks
    exact htracks.1
  rw [scan, parseContainer, show symbol '"' = .quote from rfl]
  simp only [h, Except.ok_bind', Container.start_pushBack]
  exact scan_eq (Nat.lt_succ_of_le hlen) _ _ _

theorem scan_literal {rest' : List Char} (hsym : symbol c = .literal)
    (h : skipLiteral rest = .ok rest') :
    scan container name state (c :: rest) =
      scan (container.pushBack name (literal (c :: rest))) name container.start rest' := by
  have hlen : rest'.length ≤ rest.length := by
    have htracks := skipLiteral_tracks 0 rest
    rw [h] at htracks
    exact htracks.1
  rw [scan, parseContainer, hsym]
  simp only [h, Except.ok_bind', Container.start_pushBack]
  exact scan_eq (Nat.lt_succ_of_le hlen) _ _ _

theorem scan_openMap {inner : Container} {rest' : List Char}
    (h : scan (.map []) "" .parseName rest = .ok (inner, rest')) :
    scan container name state ('{' :: rest) =
      scan (container.pushBack name inner.toValue) name container.start rest' := by
  have hlen : rest'.length ≤ rest.length := by
    have htracks := parseContainer_tracks (rest.length + 1) (.map []) "" .parseName rest 0 (by omega)
    rw [show parseContainer _ _ _ _ _ = _ from h] at htracks
    exact htracks.1
  rw [scan, parseContainer, show symbol '{' = .openMap from rfl]
  unfold scan at h
  simp only [List.length_cons, h, Except.ok_bind', Container.start_pushBack]
  exact scan_eq (Nat.lt_succ_of_le hlen) _ _ _

theorem scan_openArray {inner : Container} {rest' : List Char}
    (h : scan (.array []) "" .parseValue rest = .ok (inner, rest')) :
    scan container name state ('[' :: rest) =
      scan (container.pushBack name inner.toValue) name container.start rest' := by
  have hlen : rest'.length ≤ rest.length := by
    have htracks :=
      parseContainer_tracks (rest.length + 1) (.array []) "" .parseValue rest 0 (by omega)
    rw [show parseContainer _ _ _ _ _ = _ from h] at htracks
    exact htracks.1
  rw [scan, parseContainer, show symbol '[' = .openArray from rfl]
  unfold scan at h
  simp only [List.length_cons, h, Except.ok_bind', Container.start_pushBack]
  exact scan_eq (Nat.lt_succ_of_le hlen) _ _ _

end Turn

/-! ## Strings -/

theorem readString_escape {units : List ℕ} {c : Char} (hc : c ≠ 'u') (rest : List Char) :
    readString units ('\\' :: c :: rest) =
      (do let (value, rest) ← readString [] rest
          return (utf16To8 units ++ escaped c :: value, rest)) := by
  rw [readString.eq_def]
  split
  case h_5 hslash _ heq =>
    obtain ⟨rfl, rfl⟩ := List.cons.inj heq
    exact absurd rfl (hslash c rest rfl)
  all_goals simp_all

theorem readString_cons {units : List ℕ} {c : Char} (hslash : c ≠ '\\') (hquote : c ≠ '"')
    (rest : List Char) :
    readString units (c :: rest) =
      (do let (value, rest) ← readString [] rest
          return (utf16To8 units ++ c :: value, rest)) := by
  rw [readString.eq_def]
  split <;> simp_all

/-- An escaped text, up to its closing quote, is read as the text itself. -/
theorem readString_escape_text (s rest : List Char) :
    readString [] (escape s ++ '"' :: rest) = .ok (s, rest) := by
  induction s with
  | nil => rfl
  | cons c s ih =>
    have hescaped : ∀ e : Char, e ≠ 'u' → escaped e = c →
        readString [] ('\\' :: e :: escape s ++ '"' :: rest) = .ok (c :: s, rest) := by
      intro e he hec
      simp only [List.cons_append, readString_escape he, ih, Except.ok_bind', hec]
      rfl
    rw [escape]
    split_ifs with h1 h2 h3 h4 h5 h6 h7
    · exact hescaped _ (by decide) (by rw [h1]; rfl)
    · exact hescaped _ (by decide) (by rw [h2]; rfl)
    · exact hescaped _ (by decide) (by rw [h3]; rfl)
    · exact hescaped _ (by decide) (by rw [h4]; rfl)
    · exact hescaped _ (by decide) (by rw [h5]; rfl)
    · exact hescaped _ (by decide) (by rw [h6]; rfl)
    · exact hescaped _ (by decide) (by rw [h7]; rfl)
    · rw [List.cons_append, readString_cons h2 h1, ih]
      rfl

/-! ## Numbers -/

/-- A character that no number goes on with. -/
structure EndsNumber (d : Char) : Prop where
  not_digit : d.isDigit = false
  not_mem : d ∉ ['-', '+', '.', 'e', 'E']

/-- What follows an element of a container. -/
def Delimiter (d : Char) : Prop := d = ',' ∨ d = '}' ∨ d = ']'

theorem Delimiter.endsNumber {d : Char} (hd : Delimiter d) : EndsNumber d := by
  rcases hd with rfl | rfl | rfl <;> exact ⟨by decide, by decide⟩

private theorem takeWhile_append_stop {p : Char → Bool} {d : Char} (h : p d = false)
    (text rest : List Char) : (text ++ d :: rest).takeWhile p = text.takeWhile p := by
  induction text with
  | nil => simp [h]
  | cons c text ih => by_cases hc : p c <;> simp [hc, ih]

private theorem dropWhile_append_stop {p : Char → Bool} {d : Char} (h : p d = false)
    (text rest : List Char) :
    (text ++ d :: rest).dropWhile p = text.dropWhile p ++ d :: rest := by
  induction text with
  | nil => simp [h]
  | cons c text ih => by_cases hc : p c <;> simp [hc, ih]

section Append

variable {d : Char} (hd : EndsNumber d)
include hd

theorem EndsNumber.ne : d ≠ '-' ∧ d ≠ '+' ∧ d ≠ '.' ∧ d ≠ 'e' ∧ d ≠ 'E' := by
  simpa using hd.not_mem

theorem readSign_append (text rest : List Char) :
    readSign (text ++ d :: rest) = ((readSign text).1, (readSign text).2 ++ d :: rest) := by
  cases text with
  | nil => simp [readSign, hd.ne]
  | cons c text =>
    by_cases hminus : c = '-'
    · subst hminus; rfl
    · by_cases hplus : c = '+'
      · subst hplus; rfl
      · simp [readSign, hminus, hplus]

theorem readDigits_append (text rest : List Char) :
    readDigits (text ++ d :: rest) = readDigits text := by
  rw [readDigits, takeWhile_append_stop hd.not_digit, readDigits]

theorem atoi_append (text rest : List Char) : atoi (text ++ d :: rest) = atoi text := by
  simp only [atoi, readSign_append hd, readDigits_append hd]

theorem readFraction_append (text rest : List Char) :
    readFraction (text ++ d :: rest) =
      ((readFraction text).1, (readFraction text).2 ++ d :: rest) := by
  cases text with
  | nil => simp [readFraction, hd.ne]
  | cons c text =>
    by_cases hdot : c = '.'
    · subst hdot
      simp only [List.cons_append, readFraction, takeWhile_append_stop hd.not_digit,
        dropWhile_append_stop hd.not_digit]
    · simp [readFraction, hdot]

theorem readExponent_append (text rest : List Char) :
    readExponent (text ++ d :: rest) =
      ((readExponent text).1, (readExponent text).2 ++ d :: rest) := by
  cases text with
  | nil =>
    simp [readExponent, hd.ne]
  | cons e text =>
    simp only [List.cons_append, readExponent, readSign_append hd,
      takeWhile_append_stop hd.not_digit, dropWhile_append_stop hd.not_digit, readDigits_append hd]
    split <;> rfl

theorem readDecimal_append (text rest : List Char) :
    readDecimal (text ++ d :: rest) = ((readDecimal text).1, (readDecimal text).2 ++ d :: rest) := by
  simp only [readDecimal, readSign_append hd, takeWhile_append_stop hd.not_digit,
    dropWhile_append_stop hd.not_digit, readFraction_append hd, readExponent_append hd]
  split <;> rfl

theorem isFloating_append (text rest : List Char) :
    isFloating (text ++ d :: rest) = isFloating text := by
  have hstop : (fun c => c == '-' || c.isDigit) d = false := by simp [hd.ne, hd.not_digit]
  rw [isFloating, dropWhile_append_stop hstop, isFloating]
  cases text.dropWhile fun c => c == '-' || c.isDigit with
  | nil => simp [hd.ne]
  | cons c tail => rfl

/-- What ends a number changes neither its value nor where it ends. -/
theorem readNumber_append (text rest : List Char) :
    readNumber (text ++ d :: rest) =
      ((readNumber text).1, (readNumber text).2 ++ d :: rest) := by
  have hstop : numberChar d = false := by simp [numberChar, hd.ne, hd.not_digit]
  simp only [readNumber, isFloating_append hd, atoi_append hd, strtof, readDecimal_append hd,
    dropWhile_append_stop hstop]
  split <;> rfl

end Append

theorem numberChar_of_digit {c : Char} (h : c.isDigit) : numberChar c := by simp [numberChar, h]

theorem readNumber_rest_nil {text : List Char} (h : ∀ c ∈ text, numberChar c) :
    (readNumber text).2 = [] := by
  unfold readNumber
  split
  · obtain ⟨taken, htaken, _⟩ := readDecimal_skips text
    refine List.dropWhile_eq_nil_iff.mpr fun c hc => h c ?_
    rw [htaken]
    exact List.mem_append_right _ hc
  · exact List.dropWhile_eq_nil_iff.mpr h

theorem isFloating_of_digits {text : List Char} (h : ∀ c ∈ text, c = '-' ∨ c.isDigit) :
    isFloating text = false := by
  have hdrop : (text.dropWhile fun c => c == '-' || c.isDigit) = [] :=
    List.dropWhile_eq_nil_iff.mpr fun c hc => by simpa using h c hc
  simp [isFloating, hdrop]

private theorem isDigit_toDigits {n : ℕ} {c : Char} (h : c ∈ Nat.toDigits 10 n) : c.isDigit :=
  Nat.isDigit_of_mem_toDigits (by decide) (by decide) h

theorem mem_printInt {i : Int} {c : Char} (h : c ∈ printInt i) : c = '-' ∨ c.isDigit := by
  unfold printInt at h
  split at h
  · rcases List.mem_cons.mp h with rfl | h
    · exact .inl rfl
    · exact .inr (isDigit_toDigits h)
  · exact .inr (isDigit_toDigits h)

/-- A printed integer is read as an integer, to its end. -/
theorem readNumber_printInt (i : Int) :
    readNumber (printInt i) = (.integer (atoi (printInt i)), []) := by
  have hchars : ∀ c ∈ printInt i, numberChar c := fun c hc => by
    rcases mem_printInt hc with rfl | hdigit
    · decide
    · exact numberChar_of_digit hdigit
  refine Prod.ext ?_ (readNumber_rest_nil hchars)
  rw [readNumber, isFloating_of_digits fun c => mem_printInt]
  rfl

theorem mem_sixDigits {digits : ℕ} {exponent : Int} {c : Char}
    (h : c ∈ (sixDigits digits exponent).1) : c.isDigit := by
  simp only [sixDigits, List.mem_reverse] at h
  have hmem := (List.dropWhile_sublist _).mem h
  exact isDigit_toDigits (List.mem_reverse.mp hmem)

private theorem takeWhile_digits {text : List Char} (h : ∀ c ∈ text, c.isDigit) :
    text.takeWhile Char.isDigit = text := List.takeWhile_eq_self_iff.mpr h

private theorem dropWhile_digits {text : List Char} (h : ∀ c ∈ text, c.isDigit) :
    text.dropWhile Char.isDigit = [] := List.dropWhile_eq_nil_iff.mpr h

theorem readExponent_printExponent (exponent : Int) : (readExponent (printExponent exponent)).2 = [] := by
  have hdigits : ∀ c ∈ (if exponent.natAbs < 10 then ['0'] else []) ++
      Nat.toDigits 10 exponent.natAbs, c.isDigit := by
    intro c hc
    rcases List.mem_append.mp hc with hc | hc
    · split at hc <;> simp_all
    · exact isDigit_toDigits hc
  have hne : (if exponent.natAbs < 10 then ['0'] else []) ++
      Nat.toDigits 10 exponent.natAbs ≠ [] := by simp [Nat.toDigits_ne_nil]
  have hsign : ∀ negative : Bool, ∀ digits : List Char,
      readSign ((if negative then '-' else '+') :: digits) = (negative, digits) := by
    intro negative digits
    cases negative <;> rfl
  have := hsign (exponent < 0)
  simp only [decide_eq_true_eq] at this
  simp [readExponent, printExponent, this, takeWhile_digits hdigits, dropWhile_digits hdigits, hne]

private theorem printFraction_head (others : List Char) (exponent : Int) :
    ∃ c rest, printFraction others ++ printExponent exponent = c :: rest ∧
      (c = '.' ∨ c = 'e') := by
  unfold printFraction
  split
  · exact ⟨_, _, rfl, .inr rfl⟩
  · exact ⟨_, _, rfl, .inl rfl⟩

private theorem readFraction_printFraction {others : List Char} (h : ∀ c ∈ others, c.isDigit)
    (exponent : Int) :
    readFraction (printFraction others ++ printExponent exponent) =
      (others, printExponent exponent) := by
  unfold printFraction
  split
  · next hnil => rw [hnil]; rfl
  · have hstop : Char.isDigit 'e' = false := by decide
    simp only [List.cons_append, readFraction, printExponent, takeWhile_append_stop hstop,
      dropWhile_append_stop hstop, takeWhile_digits h, dropWhile_digits h, List.nil_append]

section Scientific

variable {first : Char} {others sign : List Char} (hfirst : first.isDigit)
  (hothers : ∀ c ∈ others, c.isDigit) (hsign : sign = [] ∨ sign = ['-']) (exponent : Int)
include hfirst hsign

private theorem isFloating_scientific :
    isFloating (sign ++ first :: (printFraction others ++ printExponent exponent)) = true := by
  obtain ⟨c, rest, heq, hc⟩ := printFraction_head others exponent
  have hstop : (c == '-' || c.isDigit) = false := by rcases hc with rfl | rfl <;> decide
  have hdot : (c == '.' || c == 'e' || c == 'E') = true := by rcases hc with rfl | rfl <;> decide
  rw [heq]
  rcases hsign with rfl | rfl <;> simp_all [isFloating]

include hothers

/-- A number in scientific notation is taken to its end. -/
private theorem readDecimal_scientific :
    (readDecimal (sign ++ first :: (printFraction others ++ printExponent exponent))).2 = [] := by
  obtain ⟨c, rest, heq, hc⟩ := printFraction_head others exponent
  have hstop : c.isDigit = false := by rcases hc with rfl | rfl <;> decide
  have hread : (readSign (sign ++ first :: (printFraction others ++ printExponent exponent))).2 =
      first :: (printFraction others ++ printExponent exponent) := by
    rcases hsign with rfl | rfl
    · have hne : ∀ d : Char, d.isDigit = false → first ≠ d := by
        rintro d hd rfl
        simp [hfirst] at hd
      simp [readSign, hne '-' (by decide), hne '+' (by decide)]
    · rfl
  have hdrop : (first :: (printFraction others ++ printExponent exponent)).dropWhile Char.isDigit =
      printFraction others ++ printExponent exponent := by simp [heq, hfirst, hstop]
  have htake : (first :: (printFraction others ++ printExponent exponent)).takeWhile Char.isDigit =
      [first] := by simp [heq, hfirst, hstop]
  simp [readDecimal, hread, hdrop, htake, readFraction_printFraction hothers,
    readExponent_printExponent]

private theorem readNumber_scientific :
    (readNumber (sign ++ first :: (printFraction others ++ printExponent exponent))).2 = [] := by
  rw [readNumber, isFloating_scientific hfirst hsign, if_pos rfl]
  simp only [strtof, readDecimal_scientific hfirst hothers hsign, List.dropWhile_nil]

end Scientific

/-- Printed digits, with or without a sign, are read to their end. -/
theorem readNumber_printDigits {digits : List Char} (h : ∀ c ∈ digits, c.isDigit)
    (exponent : Int) (sign : List Char) (hsign : sign = [] ∨ sign = ['-']) :
    (readNumber (sign ++ printDigits digits exponent)).2 = [] := by
  have hmem : ∀ c ∈ sign, numberChar c := by
    rcases hsign with rfl | rfl
    · simp
    · simp [numberChar]
  have hplain : ∀ text : List Char, (∀ c ∈ text, numberChar c) →
      (readNumber (sign ++ text)).2 = [] := by
    intro text htext
    refine readNumber_rest_nil fun c hc => ?_
    rcases List.mem_append.mp hc with hc | hc
    · exact hmem c hc
    · exact htext c hc
  have hnumber : ∀ c ∈ digits, numberChar c := fun c hc => numberChar_of_digit (h c hc)
  have hzeros : ∀ n, ∀ c ∈ List.replicate n '0', numberChar c := by
    intro n c hc
    rw [List.eq_of_mem_replicate hc]
    decide
  cases digits with
  | nil => exact hplain ['0'] (by simp [numberChar])
  | cons first others =>
    simp only [printDigits]
    split_ifs
    · exact readNumber_scientific (h first (by simp))
        (fun c hc => h c (List.mem_cons_of_mem _ hc)) hsign _
    · refine hplain _ fun c hc => ?_
      rcases List.mem_append.mp hc with hc | hc
      · exact hnumber c hc
      · exact hzeros _ c hc
    · refine hplain _ fun c hc => ?_
      rcases List.mem_append.mp hc with hc | hc
      · exact hnumber c (List.mem_of_mem_take hc)
      · rcases List.mem_cons.mp hc with rfl | hc
        · decide
        · exact hnumber c (List.mem_of_mem_drop hc)
    · refine hplain _ fun c hc => ?_
      rcases List.mem_cons.mp hc with rfl | hc
      · decide
      · rcases List.mem_cons.mp hc with rfl | hc
        · decide
        · rcases List.mem_append.mp hc with hc | hc
          · exact hzeros _ c hc
          · exact hnumber c hc

/-- A printed decimal number is read to its end. -/
theorem readNumber_printDecimal (d : Decimal) : (readNumber (printDecimal d)).2 = [] := by
  have hdigits := fun c => @mem_sixDigits d.digits d.exponent c
  unfold printDecimal
  dsimp only
  split
  · exact readNumber_printDigits hdigits _ ['-'] (.inr rfl)
  · exact readNumber_printDigits hdigits _ [] (.inl rfl)

/-! ## Literals -/

theorem skipLiteral_append {d : Char} (hd : Delimiter d) {text : List Char}
    (h : ∀ c ∈ text, ¬ (c = ',' ∨ c = '}' ∨ c = ']')) (rest : List Char) :
    skipLiteral (text ++ d :: rest) = .ok (d :: rest) := by
  induction text with
  | nil =>
    rw [List.nil_append, skipLiteral]
    exact if_pos hd
  | cons c text ih =>
    rw [List.cons_append, skipLiteral, if_neg (h c (by simp))]
    exact ih fun c' hc' => h c' (List.mem_cons_of_mem _ hc')

/-! ## Values -/

theorem symbol_head_number {text : List Char} (hne : text ≠ [])
    (h : ∀ c ∈ text.head?, c = '-' ∨ c.isDigit) :
    ∃ c tail, text = c :: tail ∧ symbol c = .number := by
  cases text with
  | nil => exact absurd rfl hne
  | cons c tail =>
    refine ⟨c, tail, rfl, ?_⟩
    rcases h c rfl with rfl | hdigit
    · rfl
    · exact symbol_digit hdigit

/-- A number, up to what ends it, is pushed as one value. -/
theorem scan_number_text {text : List Char} {v : JsonValue} {d : Char} (hd : EndsNumber d)
    (hhead : ∃ c tail, text = c :: tail ∧ symbol c = .number)
    (hread : readNumber text = (v, [])) (container : Container) (name : String) (state : State)
    (rest : List Char) :
    scan container name state (text ++ d :: rest) =
      scan (container.pushBack name v) name container.start (d :: rest) := by
  obtain ⟨c, tail, rfl, hsym⟩ := hhead
  rw [List.cons_append, scan_number hsym, ← List.cons_append, readNumber_append hd, hread]
  rfl

theorem printInt_head (i : Int) : ∃ c tail, printInt i = c :: tail ∧ symbol c = .number := by
  refine symbol_head_number ?_ fun c hc => mem_printInt (List.mem_of_head? hc)
  unfold printInt
  split
  · exact List.cons_ne_nil _ _
  · exact Nat.toDigits_ne_nil

theorem printDigits_head {digits : List Char} (h : ∀ c ∈ digits, c.isDigit) (exponent : Int) :
    ∃ c tail, printDigits digits exponent = c :: tail ∧ c.isDigit := by
  cases digits with
  | nil => exact ⟨'0', [], rfl, rfl⟩
  | cons first others =>
    have hfirst : first.isDigit := h first (by simp)
    simp only [printDigits]
    split_ifs
    · exact ⟨_, _, rfl, hfirst⟩
    · exact ⟨_, _, rfl, hfirst⟩
    · exact ⟨_, _, rfl, hfirst⟩
    · exact ⟨_, _, rfl, rfl⟩

theorem printDecimal_head (d : Decimal) : ∃ c tail, printDecimal d = c :: tail ∧ symbol c = .number := by
  unfold printDecimal
  dsimp only
  split
  · exact ⟨_, _, rfl, rfl⟩
  · obtain ⟨c, tail, heq, hc⟩ :=
      printDigits_head (fun c => @mem_sixDigits d.digits d.exponent c) (sixDigits _ _).2
    exact ⟨c, tail, heq, symbol_digit hc⟩

theorem scan_quoted {container : Container} {name s : String} {rest : List Char} :
    scan container name .parseValue (quoted s ++ rest) =
      scan (container.pushBack name (.string s)) name container.start rest := by
  have hread : readString [] (escape s.toList ++ '"' :: rest) = .ok (s.toList, rest) :=
    readString_escape_text s.toList rest
  have hscan := scan_string container name hread
  rw [String.ofList_toList] at hscan
  simpa [quoted] using hscan

theorem scan_quoted_name {container : Container} {name s : String} {rest : List Char} :
    scan container name .parseName (quoted s ++ rest) = scan container s .parseValue rest := by
  have hread : readString [] (escape s.toList ++ '"' :: rest) = .ok (s.toList, rest) :=
    readString_escape_text s.toList rest
  have hscan := scan_name container name hread
  rw [String.ofList_toList] at hscan
  simpa [quoted] using hscan

/-- Push what is read back for a value. -/
def Container.pushReread (container : Container) (name : String) (v : JsonValue) : Container :=
  match container with
  | .map m => .map (JsonMap.set m name v.reread)
  | .array a => .array (a ++ v.before ++ [v.reread])

theorem Container.pushReread_of_before {v : JsonValue} (h : v.before = []) (container : Container) (name : String) :
    container.pushReread name v = container.pushBack name v.reread := by
  cases container <;> simp [Container.pushReread, Container.pushBack, h]

/-- Of `inf` only the literal is read that its second letter begins. -/
theorem scan_inf {d : Char} (hd : Delimiter d) (container : Container) (name : String) (state : State)
    (rest : List Char) :
    scan container name state ('i' :: 'n' :: 'f' :: d :: rest) =
      scan (container.pushBack name (.boolean false)) name container.start (d :: rest) := by
  have hskip : skipLiteral (['f'] ++ d :: rest) = .ok (d :: rest) := skipLiteral_append hd (by simp) rest
  have hliteral := scan_literal container name state (c := 'n') rfl hskip
  rw [scan_other rfl]
  simpa [literal] using hliteral

/-- The minus of `-inf` is read as a zero. Under a name, the literal takes its place. -/
theorem scan_infinite (negative : Bool) {d : Char} (hd : Delimiter d) (container : Container) (name : String)
    (state : State) (rest : List Char) :
    scan container name state (printReal (.infinite negative) ++ d :: rest) =
      scan (container.pushReread name (.real (.infinite negative))) name container.start (d :: rest) := by
  cases negative with
  | false =>
    rw [Container.pushReread_of_before rfl]
    exact scan_inf hd container name state rest
  | true =>
    have hread : readNumber ('-' :: 'i' :: 'n' :: 'f' :: d :: rest) = (.integer 0, 'i' :: 'n' :: 'f' :: d :: rest) := rfl
    have hnumber : scan container name state ('-' :: 'i' :: 'n' :: 'f' :: d :: rest) = _ := scan_number rfl
    rw [hread] at hnumber
    refine hnumber.trans ((scan_inf hd _ name _ rest).trans ?_)
    rw [Container.start_pushBack]
    congr 1
    cases container with
    | map m => exact congrArg Container.map (JsonMap.set_set m name _ _)
    | array a => rfl

mutual
/-- A printed value, up to the delimiter behind it, is pushed as the value that
is read back. -/
theorem scan_print (v : JsonValue) {d : Char} (hd : Delimiter d) (container : Container)
    (name : String) (rest : List Char) :
    scan container name .parseValue (print v ++ d :: rest) =
      scan (container.pushReread name v) name container.start (d :: rest) := by
  cases v with
  | null =>
    rw [Container.pushReread_of_before rfl]
    have hskip : skipLiteral ("ull".toList ++ d :: rest) = .ok (d :: rest) :=
      skipLiteral_append hd (by simp) rest
    simpa [JsonValue.reread, literal, print] using
      scan_literal container name .parseValue (c := 'n') rfl hskip
  | boolean b =>
    rw [Container.pushReread_of_before rfl]
    cases b with
    | true =>
      have hskip : skipLiteral ("rue".toList ++ d :: rest) = .ok (d :: rest) :=
        skipLiteral_append hd (by simp) rest
      simpa [JsonValue.reread, literal, print] using
        scan_literal container name .parseValue (c := 't') rfl hskip
    | false =>
      have hskip : skipLiteral ("alse".toList ++ d :: rest) = .ok (d :: rest) :=
        skipLiteral_append hd (by simp) rest
      simpa [JsonValue.reread, literal, print] using
        scan_literal container name .parseValue (c := 'f') rfl hskip
  | integer i =>
    rw [Container.pushReread_of_before rfl]
    exact scan_number_text hd.endsNumber (printInt_head i) (readNumber_printInt i) container name _ rest
  | real x =>
    cases x with
    | finite negative significand exponent fits =>
      rw [Container.pushReread_of_before rfl]
      exact scan_number_text hd.endsNumber (printDecimal_head _)
        (Prod.ext rfl (readNumber_printDecimal _)) container name _ rest
    | infinite negative => exact scan_infinite negative hd container name _ rest
  | string s =>
    rw [Container.pushReread_of_before rfl]
    exact scan_quoted
  | map m =>
    rw [Container.pushReread_of_before rfl]
    have hinner := scan_printMembers m [] "" (d :: rest)
    simpa [print, JsonValue.reread, Container.toValue] using
      scan_openMap container name .parseValue hinner
  | array a =>
    rw [Container.pushReread_of_before rfl]
    have hinner := scan_printElements a [] "" (d :: rest)
    simpa [print, JsonValue.reread, Container.toValue] using
      scan_openArray container name .parseValue hinner

theorem scan_printMembers (m : List (String × JsonValue)) (acc : JsonMap) (name : String)
    (rest : List Char) :
    scan (.map acc) name .parseName (printMembers m ++ '}' :: rest) =
      .ok (.map (JsonValue.rereadMembers acc m), rest) := by
  cases m with
  | nil => exact scan_close rfl
  | cons p m =>
    obtain ⟨k, v⟩ := p
    have hcolon : ∀ text, scan (.map acc) name .parseName (quoted k ++ ':' :: text) =
        scan (.map acc) k .parseValue text := fun text => by
      rw [scan_quoted_name, scan_other rfl]
    cases m with
    | nil =>
      have hvalue := scan_print v (d := '}') (.inr (.inl rfl)) (.map acc) k rest
      rw [scan_close rfl] at hvalue
      simpa [printMembers, hcolon, JsonValue.rereadMembers, Container.pushReread] using hvalue
    | cons q m =>
      have hvalue := scan_print v (d := ',') (.inl rfl) (.map acc) k
        (printMembers (q :: m) ++ '}' :: rest)
      have hmembers := scan_printMembers (q :: m) (JsonMap.set acc k v.reread) k rest
      rw [scan_other rfl] at hvalue
      simpa [printMembers, hcolon, JsonValue.rereadMembers] using hvalue.trans hmembers

theorem scan_printElements (a : List JsonValue) (acc : JsonArray) (name : String)
    (rest : List Char) :
    scan (.array acc) name .parseValue (printElements a ++ ']' :: rest) =
      .ok (.array (acc ++ JsonValue.rereadElements a), rest) := by
  cases a with
  | nil => simpa [printElements, JsonValue.rereadElements] using scan_close rfl
  | cons v a =>
    cases a with
    | nil =>
      have hvalue := scan_print v (d := ']') (.inr (.inr rfl)) (.array acc) name rest
      rw [scan_close rfl] at hvalue
      simpa [printElements, JsonValue.rereadElements, Container.pushReread] using hvalue
    | cons w a =>
      have hvalue := scan_print v (d := ',') (.inl rfl) (.array acc) name
        (printElements (w :: a) ++ ']' :: rest)
      have helements := scan_printElements (w :: a) (acc ++ v.before ++ [v.reread]) name rest
      rw [scan_other rfl] at hvalue
      simpa [printElements, JsonValue.rereadElements] using hvalue.trans helements
end

end JsonText

/-- A printed object is read, and comes back member by member. -/
theorem Codec.api_roundTrip (m : JsonMap) : Codec.api.parse (Codec.api.print m) = .ok m.reread := by
  have hmembers := scan_printMembers m [] "" []
  have hparse : parseContainer ((printMembers m ++ ['}']).length + 1) (.map []) "" .parseName
      (printMembers m ++ ['}']) = .ok (.map m.reread, []) := hmembers
  have hbrace : JsonText.parse ('{' :: (printMembers m ++ ['}'])) = .ok m.reread := by
    rw [JsonText.parse, if_neg (by decide), if_pos rfl, hparse]
    rfl
  simpa [Codec.api, JsonText.print] using hbrace

end StreamCloud
