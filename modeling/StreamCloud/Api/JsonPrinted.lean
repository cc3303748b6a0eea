-- SUMMARY: When the text of a printed value is a standard JSON text.
import StreamCloud.Api.JsonStandard

/-!
# Printed texts

The printer escapes quotes, backslashes and five of the control characters, and it
writes every other byte of a string as it is. Infinite reals it writes as words. Its texts
are standard ones exactly as long as no string and no name has another control
character and every real is finite.
-/

namespace StreamCloud

open JsonGrammar JsonText

/-- A control character that is not escaped. -/
def JsonText.Raw (c : Char) : Prop := c < ' ' ∧ c ∉ ['\x08', '\x0c', '\n', '\r', '\t']

instance (c : Char) : Decidable (Raw c) := inferInstanceAs (Decidable (_ ∧ _))

def JsonText.CleanString (s : String) : Prop := ∀ c ∈ s.toList, ¬ Raw c

mutual
/-- Neither a string nor a name has a raw character, and no real is infinite. -/
def JsonValue.Clean : JsonValue → Prop
  | .null => True
  | .integer _ => True
  | .real x => x.isFinite
  | .boolean _ => True
  | .string s => CleanString s
  | .map m => CleanMembers m
  | .array a => CleanElements a

def JsonValue.CleanMembers : List (String × JsonValue) → Prop
  | [] => True
  | (k, v) :: rest => CleanString k ∧ v.Clean ∧ CleanMembers rest

def JsonValue.CleanElements : List JsonValue → Prop
  | [] => True
  | v :: rest => v.Clean ∧ CleanElements rest
end

namespace JsonText

/-! ## Numbers -/

/-- The number of which a text is the characters. -/
def IsNumber (text : List Char) : Prop := ∃ n : Number, n.chars = text

theorem toDigits_leading {n : ℕ} (h : n ≠ 0) : (Nat.toDigits 10 n).head? ≠ some '0' := by
  induction n using Nat.strongRecOn with
  | _ n ih =>
    by_cases hsmall : n < 10
    · rw [Nat.toDigits_of_lt_base hsmall]
      interval_cases n <;> simp_all [Nat.digitChar]
    · have hmore : n / 10 ≠ 0 := by omega
      have hhead := ih (n / 10) (by omega) hmore
      rw [Nat.toDigits_of_base_le (by decide) (by omega), List.head?_append_of_ne_nil _ Nat.toDigits_ne_nil]
      exact hhead

/-- Digits in front of a number. -/
theorem leading_toDigits (n : ℕ) : (Nat.toDigits 10 n).head? = some '0' → Nat.toDigits 10 n = ['0'] := by
  intro hhead
  by_cases h : n = 0
  · rw [h, Nat.toDigits_zero]
  · exact absurd hhead (toDigits_leading h)

private theorem digits_toDigits (n : ℕ) : ∀ c ∈ Nat.toDigits 10 n, c.isDigit := fun _ hc =>
  Nat.isDigit_of_mem_toDigits (by decide) (by decide) hc

theorem isNumber_printInt (i : Int) : IsNumber (printInt i) := by
  refine ⟨⟨decide (i < 0), ⟨_, digits_toDigits i.natAbs, Nat.toDigits_ne_nil⟩, leading_toDigits _, none, none⟩, ?_⟩
  unfold printInt Number.chars Number.signChars Number.fractionChars Number.exponentChars
  split <;> simp_all

/-- The digits of a real: none, or no zeros in front. -/
theorem sixDigits_leading (digits : ℕ) (exponent : Int) : (sixDigits digits exponent).1.head? ≠ some '0' := by
  have hstripped (n : ℕ) : ((Nat.toDigits 10 n).reverse.dropWhile (· == '0')).reverse.head? ≠ some '0' := by
    intro hhead
    have hprefix : ((Nat.toDigits 10 n).reverse.dropWhile (· == '0')).reverse <+: Nat.toDigits 10 n := by
      rw [← List.reverse_suffix, List.reverse_reverse]
      exact List.dropWhile_suffix _
    have hzero : Nat.toDigits 10 n = ['0'] := by
      obtain ⟨rest, hrest⟩ := hprefix
      refine leading_toDigits n ?_
      rw [← hrest, List.head?_append, hhead]
      rfl
    simp [hzero] at hhead
  exact hstripped _

private def minus (negative : Bool) : List Char := if negative then ['-'] else []

private theorem isNumber_of (negative : Bool) (whole fraction : List Char) {exponent : List Char} (hne : whole ≠ [])
    (hwhole : ∀ c ∈ whole, c.isDigit) (hleading : whole.head? = some '0' → whole = ['0'])
    (hfraction : ∀ c ∈ fraction, c.isDigit) (hexponent : exponent = [] ∨ ∃ e : Exponent, e.chars = exponent) :
    IsNumber (minus negative ++ (whole ++ (printFraction fraction ++ exponent))) := by
  obtain ⟨e?, he⟩ : ∃ e? : Option Exponent, e?.elim [] Exponent.chars = exponent := by
    rcases hexponent with rfl | ⟨e, he⟩
    · exact ⟨none, rfl⟩
    · exact ⟨some e, he⟩
  by_cases hnone : fraction = []
  · refine ⟨⟨negative, ⟨whole, hwhole, hne⟩, hleading, none, e?⟩, ?_⟩
    rw [printFraction, if_pos hnone, ← he]
    cases e? <;> rfl
  · refine ⟨⟨negative, ⟨whole, hwhole, hne⟩, hleading, some ⟨fraction, hfraction, hnone⟩, e?⟩, ?_⟩
    rw [printFraction, if_neg hnone, ← he]
    cases e? <;> rfl

theorem printExponent_chars (exponent : Int) : ∃ e : Exponent, e.chars = printExponent exponent := by
  refine ⟨⟨false, if exponent < 0 then .minus else .plus,
    ⟨(if exponent.natAbs < 10 then ['0'] else []) ++ Nat.toDigits 10 exponent.natAbs, ?_, ?_⟩⟩, ?_⟩
  · intro c hc
    rcases List.mem_append.mp hc with hc | hc
    · split at hc <;> simp_all
    · exact digits_toDigits _ c hc
  · simp [Nat.toDigits_ne_nil]
  · unfold Exponent.chars printExponent
    split <;> rfl

theorem isNumber_printDigits {digits : List Char} (hdigits : ∀ c ∈ digits, c.isDigit)
    (hleading : digits.head? ≠ some '0') (exponent : Int) (negative : Bool) :
    IsNumber (minus negative ++ printDigits digits exponent) := by
  have hzeros (n : ℕ) : ∀ c ∈ List.replicate n '0', c.isDigit := by
    intro c hc
    rw [List.eq_of_mem_replicate hc]
    decide
  cases digits with
  | nil =>
    exact isNumber_of negative ['0'] [] (by simp) (by simp) (by simp) (by simp) (.inl rfl)
  | cons first others =>
    have hfirst : first.isDigit := hdigits first (by simp)
    have hothers : ∀ c ∈ others, c.isDigit := fun c hc => hdigits c (List.mem_cons_of_mem _ hc)
    have hne : first ≠ '0' := by simpa using hleading
    simp only [printDigits]
    split_ifs with hscientific hwhole hpoint
    · exact isNumber_of negative [first] others (by simp) (by simpa using hfirst) (by simp) hothers
        (.inr (printExponent_chars _))
    · have h := isNumber_of negative (first :: others ++ List.replicate exponent.toNat '0') [] (by simp)
        (fun c hc => (List.mem_append.mp hc).elim (hdigits c) (hzeros _ c)) (by simp [hne]) (by simp) (.inl rfl)
      simpa [printFraction] using h
    · set cut := (exponent + (first :: others).length - 1).toNat + 1 with hcut
      have hlength : cut < (first :: others).length := by omega
      have hdrop : (first :: others).drop cut ≠ [] := by simpa using hlength
      have h := isNumber_of negative ((first :: others).take cut) ((first :: others).drop cut) (by simp [hcut])
        (fun c hc => hdigits c (List.mem_of_mem_take hc)) (by simp [hcut, hne])
        (fun c hc => hdigits c (List.mem_of_mem_drop hc)) (.inl rfl)
      rw [printFraction, if_neg hdrop, List.append_nil] at h
      exact h
    · set zeros := (-(exponent + (first :: others).length - 1) - 1).toNat
      have h := isNumber_of negative ['0'] (List.replicate zeros '0' ++ first :: others) (by simp) (by simp) (by simp)
        (fun c hc => (List.mem_append.mp hc).elim (hzeros _ c) (hdigits c)) (.inl rfl)
      rw [printFraction, if_neg (by simp), List.append_nil] at h
      exact h

theorem isNumber_printDecimal (d : Decimal) : IsNumber (printDecimal d) := by
  have h := isNumber_printDigits (fun c => @mem_sixDigits d.digits d.exponent c)
    (sixDigits_leading d.digits d.exponent) (sixDigits d.digits d.exponent).2 d.negative
  unfold printDecimal
  cases hnegative : d.negative <;> simpa [hnegative, minus] using h

/-! ## Strings -/

/-- An escaped string is made of pieces, as long as it has no raw character. -/
theorem escape_pieces {s : List Char} (hclean : ∀ c ∈ s, ¬ Raw c) :
    ∃ pieces : List Piece, pieces.flatMap Piece.chars = escape s ∧ pieces.flatMap Piece.bytes = s := by
  induction s with
  | nil => exact ⟨[], rfl, rfl⟩
  | cons c s ih =>
    obtain ⟨pieces, hchars, hbytes⟩ := ih fun c' hc' => hclean c' (List.mem_cons_of_mem _ hc')
    have hcons : ∀ piece : Piece, piece.chars ++ escape s = escape (c :: s) → piece.bytes = [c] →
        ∃ pieces : List Piece, pieces.flatMap Piece.chars = escape (c :: s) ∧ pieces.flatMap Piece.bytes = c :: s := by
      intro piece hpiece hc
      refine ⟨piece :: pieces, ?_, ?_⟩
      · rw [List.flatMap_cons, hchars, hpiece]
      · rw [List.flatMap_cons, hbytes, hc, List.singleton_append]
    by_cases hquote : c = '"'
    · exact hcons (.short .quote) (by rw [hquote]; rfl) (by rw [hquote]; rfl)
    by_cases hbackslash : c = '\\'
    · exact hcons (.short .backslash) (by rw [hbackslash]; rfl) (by rw [hbackslash]; rfl)
    by_cases hmem : c ∈ ['\x08', '\x0c', '\n', '\r', '\t']
    · simp only [List.mem_cons, List.not_mem_nil, or_false] at hmem
      rcases hmem with h | h | h | h | h
      · exact hcons (.short .backspace) (by rw [h]; rfl) (by rw [h]; rfl)
      · exact hcons (.short .formFeed) (by rw [h]; rfl) (by rw [h]; rfl)
      · exact hcons (.short .lineFeed) (by rw [h]; rfl) (by rw [h]; rfl)
      · exact hcons (.short .carriageReturn) (by rw [h]; rfl) (by rw [h]; rfl)
      · exact hcons (.short .tab) (by rw [h]; rfl) (by rw [h]; rfl)
    · have hcontrol : ' ' ≤ c := by
        by_contra hlt
        exact hclean c (by simp) ⟨Char.not_le.mp hlt, hmem⟩
      refine hcons (.plain c hquote hbackslash hcontrol) ?_ rfl
      simp only [List.mem_cons, List.not_mem_nil, or_false, not_or] at hmem
      simp [escape, Piece.chars, hquote, hbackslash, hmem]

theorem quoted_pieces {s : String} (hclean : CleanString s) :
    ∃ pieces, stringChars pieces = quoted s ∧ stringOf pieces = s := by
  obtain ⟨pieces, hchars, hbytes⟩ := escape_pieces hclean
  refine ⟨pieces, ?_, ?_⟩
  · rw [stringChars, quoted, hchars]
    rfl
  · rw [stringOf, hbytes, String.ofList_toList]

/-! ## Values -/

theorem exists_number {text : List Char} (h : IsNumber text) :
    ∃ t : Text, t.chars = text ∧ Text.value t = (readNumber text).1 := by
  obtain ⟨n, hn⟩ := h
  refine ⟨.number n, hn, ?_⟩
  rw [← hn, readNumber_chars]
  rfl

/-- Nothing is read in front of a clean value. -/
theorem before_of_clean {v : JsonValue} (hclean : v.Clean) : v.before = [] := by
  cases v with
  | real x =>
    cases x with
    | finite negative significand exponent fits => rfl
    | infinite negative => cases hclean
  | _ => rfl

mutual
/-- The text of a clean value is a standard one, and it stands for what is read back. -/
theorem exists_text {v : JsonValue} (hclean : v.Clean) : ∃ t : Text, t.chars = print v ∧ Text.value t = v.reread := by
  cases v with
  | null => exact ⟨.null, rfl, rfl⟩
  | boolean b => cases b <;> exact ⟨.boolean _, rfl, rfl⟩
  | integer i =>
    obtain ⟨t, hchars, hvalue⟩ := exists_number (isNumber_printInt i)
    refine ⟨t, hchars, hvalue.trans ?_⟩
    rw [readNumber_printInt]
    rfl
  | real x =>
    cases x with
    | finite negative significand exponent fits => exact exists_number (isNumber_printDecimal _)
    | infinite negative => cases hclean
  | string s =>
    obtain ⟨pieces, hchars, hs⟩ := quoted_pieces hclean
    exact ⟨.string pieces, hchars, congrArg JsonValue.string hs⟩
  | map m =>
    cases m with
    | nil => exact ⟨.emptyObject .none, rfl, rfl⟩
    | cons p m =>
      obtain ⟨members, hchars, hvalue⟩ := exists_members (m := p :: m) (by simp) hclean
      refine ⟨.object members, ?_, ?_⟩
      · rw [Text.chars, hchars]
        rfl
      · rw [Text.value, hvalue]
        rfl
  | array a =>
    cases a with
    | nil => exact ⟨.emptyArray .none, rfl, rfl⟩
    | cons v a =>
      obtain ⟨elements, hchars, hvalue⟩ := exists_elements (a := v :: a) (by simp) hclean
      refine ⟨.array elements, ?_, ?_⟩
      · rw [Text.chars, hchars]
        rfl
      · rw [Text.value, hvalue]
        rfl

theorem exists_members {m : List (String × JsonValue)} (hne : m ≠ []) (hclean : JsonValue.CleanMembers m) :
    ∃ members : Members, members.chars = printMembers m ∧
      ∀ acc, Members.value acc members = JsonValue.rereadMembers acc m := by
  cases m with
  | nil => exact absurd rfl hne
  | cons p m =>
    obtain ⟨k, v⟩ := p
    obtain ⟨hk, hv, hm⟩ := hclean
    obtain ⟨pieces, hpieces, hkey⟩ := quoted_pieces hk
    obtain ⟨t, ht, hvalue⟩ := exists_text hv
    cases m with
    | nil =>
      refine ⟨.last .none pieces .none .none t .none, ?_, fun acc => ?_⟩
      · simp [Members.chars, White.none, hpieces, ht, printMembers]
      · rw [Members.value, hkey, hvalue]
        rfl
    | cons q m =>
      obtain ⟨others, hothers, hrest⟩ := exists_members (m := q :: m) (by simp) hm
      refine ⟨.more .none pieces .none .none t .none others, ?_, fun acc => ?_⟩
      · simp [Members.chars, White.none, hpieces, ht, hothers, printMembers]
      · rw [Members.value, hkey, hvalue, hrest]
        rfl

theorem exists_elements {a : List JsonValue} (hne : a ≠ []) (hclean : JsonValue.CleanElements a) :
    ∃ elements : Elements, elements.chars = printElements a ∧
      Elements.value elements = JsonValue.rereadElements a := by
  cases a with
  | nil => exact absurd rfl hne
  | cons v a =>
    obtain ⟨hv, ha⟩ := hclean
    obtain ⟨t, ht, hvalue⟩ := exists_text hv
    cases a with
    | nil =>
      refine ⟨.last .none t .none, ?_, ?_⟩
      · simp [Elements.chars, White.none, ht, printElements]
      · rw [Elements.value, hvalue, JsonValue.rereadElements, before_of_clean hv]
        rfl
    | cons w a =>
      obtain ⟨others, hothers, hrest⟩ := exists_elements (a := w :: a) (by simp) ha
      refine ⟨.more .none t .none others, ?_, ?_⟩
      · simp [Elements.chars, White.none, ht, hothers, printElements]
      · rw [Elements.value, hvalue, hrest, JsonValue.rereadElements.eq_def (v :: w :: a)]
        simp only [before_of_clean hv, List.nil_append]
end

/-! ## Raw characters -/

/-- The only control characters of a standard text are white space. -/
def Spaced (text : List Char) : Prop := ∀ c ∈ text, ¬ Raw c

section Spaced

theorem spaced_append {text text' : List Char} : Spaced (text ++ text') ↔ Spaced text ∧ Spaced text' :=
  List.forall_mem_append

theorem spaced_cons {c : Char} {text : List Char} : Spaced (c :: text) ↔ ¬ Raw c ∧ Spaced text :=
  List.forall_mem_cons

theorem spaced_nil : Spaced [] := by simp [Spaced]

theorem not_raw_of_le {c : Char} (h : ' ' ≤ c) : ¬ Raw c := fun hraw => Char.not_le.mpr hraw.1 h

theorem not_raw_digit {c : Char} (h : c.isDigit) : ¬ Raw c := by
  refine not_raw_of_le ?_
  simp only [Char.isDigit, Bool.and_eq_true, decide_eq_true_eq, ge_iff_le, UInt32.le_iff_toNat_le] at h
  rw [Char.le_def, UInt32.le_iff_toNat_le]
  exact le_trans (by decide) h.1

theorem spaced_white (w : White) : Spaced w.chars := by
  intro c hc
  rcases w.white c hc with rfl | rfl | rfl | rfl <;> simp [Raw]

/-- The characters of numbers. -/
theorem mem_number {n : Number} {c : Char} (hc : c ∈ n.chars) : c.isDigit ∨ c ∈ ['-', '+', '.', 'e', 'E'] := by
  unfold Number.chars at hc
  simp only [List.mem_append] at hc
  rcases hc with hc | hc | hc | hc
  · unfold Number.signChars at hc
    split at hc <;> simp_all
  · exact .inl (n.whole.digits c hc)
  · unfold Number.fractionChars at hc
    cases hfraction : n.fraction with
    | none => simp [hfraction] at hc
    | some digits =>
      rw [hfraction] at hc
      rcases List.mem_cons.mp hc with rfl | hc
      · exact .inr (by decide)
      · exact .inl (digits.digits c hc)
  · unfold Number.exponentChars at hc
    cases hexponent : n.exponent with
    | none => simp [hexponent] at hc
    | some e =>
      obtain ⟨capital, sign, digits⟩ := e
      rw [hexponent] at hc
      rcases List.mem_cons.mp hc with rfl | hc
      · cases capital <;> simp
      · rcases List.mem_append.mp hc with hc | hc
        · cases sign <;> simp_all [Sign.chars]
        · exact .inl (digits.digits c hc)

theorem spaced_number (n : Number) : Spaced n.chars := by
  intro c hc
  rcases mem_number hc with hdigit | hmem
  · exact not_raw_digit hdigit
  · simp only [List.mem_cons, List.not_mem_nil, or_false] at hmem
    rcases hmem with rfl | rfl | rfl | rfl | rfl <;> decide

theorem not_raw_hexChar {value : ℕ} (h : value < 16) (capital : Bool) : ¬ Raw (hexChar value capital) := by
  interval_cases value <;> cases capital <;> decide

theorem spaced_unitChars (unit : ℕ) (capital : ℕ → Bool) : Spaced (unitChars unit capital) := by
  have hdigit (n : ℕ) (capital : Bool) : ¬ Raw (hexChar (n % 0x10) capital) :=
    not_raw_hexChar (Nat.mod_lt _ (by decide)) capital
  simp only [unitChars, spaced_cons, spaced_nil, hdigit, and_true, not_false_eq_true]
  decide

theorem spaced_piece (piece : Piece) : Spaced piece.chars := by
  cases piece with
  | plain c hquote hbackslash hcontrol => simpa [Piece.chars, Spaced] using not_raw_of_le hcontrol
  | short e => cases e <;> simp [Piece.chars, Short.letter, Spaced, Raw]
  | unicode c capital =>
    intro c' hc'
    obtain ⟨unit, -, hc'⟩ := List.mem_flatMap.mp hc'
    exact spaced_unitChars unit capital c' hc'

theorem spaced_stringChars (pieces : List Piece) : Spaced (stringChars pieces) := by
  refine spaced_cons.mpr ⟨by decide, spaced_append.mpr ⟨fun c hc => ?_, by simp [Spaced, Raw]⟩⟩
  obtain ⟨piece, -, hc⟩ := List.mem_flatMap.mp hc
  exact spaced_piece piece c hc

mutual
theorem spaced_text (t : Text) : Spaced t.chars := by
  cases t with
  | null => simp [Text.chars, Spaced, Raw]
  | boolean b => cases b <;> simp [Text.chars, Spaced, Raw]
  | number n => exact spaced_number n
  | string pieces => exact spaced_stringChars pieces
  | emptyObject within => simp [Text.chars, spaced_cons, spaced_append, spaced_white, spaced_nil, Raw]
  | object members => simp [Text.chars, spaced_cons, spaced_append, spaced_members members, spaced_nil, Raw]
  | emptyArray within => simp [Text.chars, spaced_cons, spaced_append, spaced_white, spaced_nil, Raw]
  | array elements => simp [Text.chars, spaced_cons, spaced_append, spaced_elements elements, spaced_nil, Raw]

theorem spaced_members (members : Members) : Spaced members.chars := by
  cases members with
  | last before name behindName beforeValue value behind =>
    simp [Members.chars, spaced_cons, spaced_append, spaced_white, spaced_stringChars, spaced_text value, Raw]
  | more before name behindName beforeValue value behind rest =>
    simp [Members.chars, spaced_cons, spaced_append, spaced_white, spaced_stringChars, spaced_text value,
      spaced_members rest, Raw]

theorem spaced_elements (elements : Elements) : Spaced elements.chars := by
  cases elements with
  | last before value behind =>
    simp [Elements.chars, spaced_append, spaced_white, spaced_text value]
  | more before value behind rest =>
    simp [Elements.chars, spaced_cons, spaced_append, spaced_white, spaced_text value, spaced_elements rest, Raw]
end

end Spaced

/-! ## Words -/

/-- Whether an `i` stands outside of the strings, in a text that begins inside of one or not. -/
def bare : Bool → List Char → Bool
  | _, [] => false
  | false, c :: rest => c == 'i' || bare (c == '"') rest
  | true, '\\' :: _ :: rest => bare true rest
  | true, c :: rest => bare (c != '"') rest

section Bare

/-- A character inside of a string that neither ends it nor begins an escape. -/
theorem bare_inside {c : Char} (hquote : c ≠ '"') (hbackslash : c ≠ '\\') (rest : List Char) :
    bare true (c :: rest) = bare true rest := by
  have hends : (c != '"') = true := bne_iff_ne.mpr hquote
  rw [bare.eq_def]
  split
  case h_4 heq =>
    obtain ⟨rfl, rfl⟩ := List.cons.inj heq
    rw [hends]
  all_goals simp_all

theorem bare_escape (c : Char) (rest : List Char) : bare true ('\\' :: c :: rest) = bare true rest := rfl

theorem bare_close (rest : List Char) : bare true ('"' :: rest) = bare false rest := by
  rw [bare.eq_def]
  rfl

theorem bare_open (rest : List Char) : bare false ('"' :: rest) = bare true rest := rfl

theorem bare_cons {c : Char} (hi : c ≠ 'i') (hquote : c ≠ '"') (rest : List Char) :
    bare false (c :: rest) = bare false rest := by
  rw [bare, beq_eq_false_iff_ne.mpr hi, beq_eq_false_iff_ne.mpr hquote, Bool.false_or]

/-- Characters outside of strings that are neither. -/
theorem bare_append {text : List Char} (h : ∀ c ∈ text, c ≠ 'i' ∧ c ≠ '"') (rest : List Char) :
    bare false (text ++ rest) = bare false rest := by
  induction text with
  | nil => rfl
  | cons c text ih =>
    obtain ⟨hi, hquote⟩ := h c (by simp)
    rw [List.cons_append, bare_cons hi hquote]
    exact ih fun c' hc' => h c' (List.mem_cons_of_mem _ hc')

theorem bare_quoted (s : String) (rest : List Char) : bare false (quoted s ++ rest) = bare false rest := by
  have hescaped : ∀ cs : List Char, bare true (escape cs ++ '"' :: rest) = bare false rest := by
    intro cs
    induction cs with
    | nil => exact bare_close rest
    | cons c cs ih =>
      rw [escape]
      split_ifs with h1 h2 h3 h4 h5 h6 h7
      all_goals try exact (bare_escape _ _).trans ih
      exact (bare_inside h1 h2 _).trans ih
  simpa [quoted, bare_open] using hescaped s.toList

theorem bare_unitChars (unit : ℕ) (capital : ℕ → Bool) (rest : List Char) :
    bare true (unitChars unit capital ++ rest) = bare true rest := by
  have hdigit : ∀ {value : ℕ}, value < 16 → ∀ capital, hexChar value capital ≠ '"' ∧ hexChar value capital ≠ '\\' := by
    intro value hvalue capital
    interval_cases value <;> cases capital <;> decide
  have hskip : ∀ (value : ℕ) (capital : Bool) (text : List Char),
      bare true (hexChar (value % 0x10) capital :: text) = bare true text := fun value capital text =>
    bare_inside (hdigit (Nat.mod_lt _ (by decide)) capital).1 (hdigit (Nat.mod_lt _ (by decide)) capital).2 text
  simp only [unitChars, List.cons_append, List.nil_append, bare_escape, hskip]

theorem bare_piece (piece : Piece) (rest : List Char) : bare true (piece.chars ++ rest) = bare true rest := by
  cases piece with
  | plain c hquote hbackslash hcontrol => exact bare_inside hquote hbackslash rest
  | short e => exact bare_escape _ rest
  | unicode c capital =>
    rw [Piece.chars]
    generalize utf16 c = units
    induction units with
    | nil => rfl
    | cons unit units ih => rw [List.flatMap_cons, List.append_assoc, bare_unitChars, ih]

theorem bare_stringChars (pieces : List Piece) (rest : List Char) :
    bare false (stringChars pieces ++ rest) = bare false rest := by
  have hpieces : bare true (pieces.flatMap Piece.chars ++ '"' :: rest) = bare false rest := by
    induction pieces with
    | nil => exact bare_close rest
    | cons piece pieces ih => rw [List.flatMap_cons, List.append_assoc, bare_piece, ih]
  simpa [stringChars, bare_open] using hpieces

theorem bare_white (w : White) (rest : List Char) : bare false (w.chars ++ rest) = bare false rest := by
  refine bare_append (fun c hc => ?_) rest
  rcases w.white c hc with rfl | rfl | rfl | rfl <;> decide

theorem bare_number (n : Number) (rest : List Char) : bare false (n.chars ++ rest) = bare false rest := by
  refine bare_append (fun c hc => ?_) rest
  rcases mem_number hc with hdigit | hmem
  · constructor <;> rintro rfl <;> simp at hdigit
  · simp only [List.mem_cons, List.not_mem_nil, or_false] at hmem
    rcases hmem with rfl | rfl | rfl | rfl | rfl <;> decide

theorem bare_symbol {c : Char} (h : c ∈ ['{', '}', '[', ']', ':', ',']) (rest : List Char) :
    bare false (c :: rest) = bare false rest := by
  refine bare_cons ?_ ?_ rest
  · rintro rfl
    simp at h
  · rintro rfl
    simp at h

mutual
/-- A standard text has no word with an `i`. -/
theorem bare_text (t : Text) (rest : List Char) : bare false (t.chars ++ rest) = bare false rest := by
  cases t with
  | null => exact bare_append (by simp [Text.chars]) rest
  | boolean b => cases b <;> exact bare_append (by simp [Text.chars]) rest
  | number n => exact bare_number n rest
  | string pieces => exact bare_stringChars pieces rest
  | emptyObject within => simp [Text.chars, bare_symbol, bare_white]
  | object members => simp [Text.chars, bare_symbol, bare_members members]
  | emptyArray within => simp [Text.chars, bare_symbol, bare_white]
  | array elements => simp [Text.chars, bare_symbol, bare_elements elements]

theorem bare_members (members : Members) (rest : List Char) :
    bare false (members.chars ++ rest) = bare false rest := by
  cases members with
  | last before name behindName beforeValue value behind =>
    simp [Members.chars, bare_symbol, bare_white, bare_stringChars, bare_text value]
  | more before name behindName beforeValue value behind others =>
    simp [Members.chars, bare_symbol, bare_white, bare_stringChars, bare_text value, bare_members others]

theorem bare_elements (elements : Elements) (rest : List Char) :
    bare false (elements.chars ++ rest) = bare false rest := by
  cases elements with
  | last before value behind => simp [Elements.chars, bare_white, bare_text value]
  | more before value behind others =>
    simp [Elements.chars, bare_symbol, bare_white, bare_text value, bare_elements others]
end

end Bare

/-! ## Values of standard texts -/

/-- An escaped string keeps its raw characters. -/
theorem clean_of_escape {s : List Char} (h : Spaced (escape s)) : Spaced s := by
  induction s with
  | nil => exact spaced_nil
  | cons c s ih =>
    rw [escape] at h
    split_ifs at h with h1 h2 h3 h4 h5 h6 h7
    all_goals try exact spaced_cons.mpr ⟨by simp [Raw, *], ih (spaced_cons.mp (spaced_cons.mp h).2).2⟩
    exact spaced_cons.mpr ⟨(spaced_cons.mp h).1, ih (spaced_cons.mp h).2⟩

theorem clean_of_quoted {s : String} (h : Spaced (quoted s)) : CleanString s := by
  rw [quoted, List.cons_append, spaced_cons, spaced_append] at h
  exact clean_of_escape h.2.1

mutual
/-- A value is clean if its text has neither a raw character nor a word with an `i`. -/
theorem clean_of_print {v : JsonValue} {rest : List Char} (h : Spaced (print v))
    (hbare : bare false (print v ++ rest) = false) : v.Clean ∧ bare false rest = false := by
  cases v with
  | null => exact ⟨trivial, hbare⟩
  | boolean b => cases b <;> exact ⟨trivial, hbare⟩
  | integer i =>
    obtain ⟨n, hn⟩ := isNumber_printInt i
    rw [print, ← hn, bare_number] at hbare
    exact ⟨trivial, hbare⟩
  | real x =>
    cases x with
    | finite negative significand exponent fits =>
      obtain ⟨n, hn⟩ := isNumber_printDecimal (exactDecimal negative significand exponent)
      rw [print, printReal, ← hn, bare_number] at hbare
      exact ⟨rfl, hbare⟩
    | infinite negative => cases negative <;> cases hbare
  | string s =>
    rw [print, bare_quoted] at hbare
    exact ⟨clean_of_quoted h, hbare⟩
  | map m =>
    rw [print, List.cons_append, spaced_cons, spaced_append] at h
    rw [print, List.cons_append, List.cons_append, List.append_assoc, bare_symbol (by simp)] at hbare
    obtain ⟨hm, hrest⟩ := clean_of_printMembers h.2.1 hbare
    exact ⟨hm, (bare_symbol (by simp) rest).symm.trans hrest⟩
  | array a =>
    rw [print, List.cons_append, spaced_cons, spaced_append] at h
    rw [print, List.cons_append, List.cons_append, List.append_assoc, bare_symbol (by simp)] at hbare
    obtain ⟨ha, hrest⟩ := clean_of_printElements h.2.1 hbare
    exact ⟨ha, (bare_symbol (by simp) rest).symm.trans hrest⟩

theorem clean_of_printMembers {m : List (String × JsonValue)} {rest : List Char} (h : Spaced (printMembers m))
    (hbare : bare false (printMembers m ++ rest) = false) : JsonValue.CleanMembers m ∧ bare false rest = false := by
  cases m with
  | nil => exact ⟨trivial, hbare⟩
  | cons p m =>
    obtain ⟨k, v⟩ := p
    rw [printMembers, spaced_append, spaced_append, spaced_cons] at h
    rw [printMembers, List.append_assoc, List.append_assoc, bare_quoted, List.cons_append, bare_symbol (by simp)] at hbare
    obtain ⟨hv, hmembers⟩ := clean_of_print h.1.2.2 hbare
    cases m with
    | nil => exact ⟨⟨clean_of_quoted h.1.1, hv, trivial⟩, hmembers⟩
    | cons q m =>
      simp only [List.isEmpty_cons, Bool.false_eq_true, if_false, List.cons_append] at h hmembers
      rw [bare_symbol (by simp)] at hmembers
      obtain ⟨hm, hrest⟩ := clean_of_printMembers (spaced_cons.mp h.2).2 hmembers
      exact ⟨⟨clean_of_quoted h.1.1, hv, hm⟩, hrest⟩

theorem clean_of_printElements {a : List JsonValue} {rest : List Char} (h : Spaced (printElements a))
    (hbare : bare false (printElements a ++ rest) = false) : JsonValue.CleanElements a ∧ bare false rest = false := by
  cases a with
  | nil => exact ⟨trivial, hbare⟩
  | cons v a =>
    rw [printElements, spaced_append] at h
    rw [printElements, List.append_assoc] at hbare
    obtain ⟨hv, helements⟩ := clean_of_print h.1 hbare
    cases a with
    | nil => exact ⟨⟨hv, trivial⟩, helements⟩
    | cons w a =>
      simp only [List.isEmpty_cons, Bool.false_eq_true, if_false, List.cons_append] at h helements
      rw [bare_symbol (by simp)] at helements
      obtain ⟨ha, hrest⟩ := clean_of_printElements (spaced_cons.mp h.2).2 helements
      exact ⟨⟨hv, ha⟩, hrest⟩
end

end JsonText

/-- A tree whose text is printed for a value stands for what is read back. -/
theorem JsonText.value_of_print {t : Text} {v : JsonValue} (h : t.chars = print v) : Text.value t = v.reread := by
  have hd : Delimiter ']' := .inr (.inr rfl)
  have htext := scan_text t .none hd (.array []) "" []
  have hprint := scan_print v hd (.array []) "" []
  rw [← h] at hprint
  have hscan := htext.symm.trans hprint
  rw [scan_close rfl, scan_close rfl] at hscan
  have hpushed : [Text.value t] = v.before ++ [v.reread] := by
    simpa [Container.pushBack, Container.pushReread] using hscan
  simpa using congrArg List.getLast? hpushed

/-- The text that is printed for a value is a standard one exactly if the value has neither a
raw character nor an infinite real. It stands for what is read back. -/
theorem JsonValue.print_standard (v : JsonValue) :
    ((∃ t : Text, t.chars = print v) ↔ v.Clean) ∧ ∀ t : Text, t.chars = print v → Text.value t = v.reread := by
  refine ⟨⟨?_, fun hclean => ?_⟩, fun t => value_of_print⟩
  · rintro ⟨t, ht⟩
    have hbare := bare_text t []
    rw [ht] at hbare
    exact (clean_of_print (ht ▸ spaced_text t) hbare).1
  · obtain ⟨t, ht, -⟩ := exists_text hclean
    exact ⟨t, ht⟩

end StreamCloud
