-- SUMMARY: Which texts the JSON scanner reads without leaving them.
import StreamCloud.Api.JsonText
import Mathlib.Data.List.TakeWhile

/-!
# Bounds of the scanner

`closed` walks over a text once, without building anything, and says whether
every string the scanner opens is closed and every literal it starts is followed
by one of `,`, `}` and `]`. These are the texts that the scanner does not leave.
-/

namespace StreamCloud.JsonText

/-- Where a walk over a text stands. -/
inductive Mode
  | outside
  | node
  | string
  | escape
  | hex (left : ℕ)
  | literal
deriving DecidableEq

/-- The walk. `depth` counts the containers around the one it is in; behind the
outermost one nothing is read. -/
def closed : Mode → ℕ → List Char → Bool
  | .outside, _, [] => true
  | .node, _, [] => true
  | _, _, [] => false
  | .outside, depth, c :: rest =>
    if c = '\x00' then true
    else if c = '{' then closed .node depth rest
    else closed .outside depth rest
  | .node, depth, c :: rest =>
    match symbol c with
    | .terminator => true
    | .openMap | .openArray => closed .node (depth + 1) rest
    | .close => if depth = 0 then true else closed .node (depth - 1) rest
    | .quote => closed .string depth rest
    | .literal => closed .literal depth rest
    | .number | .other => closed .node depth rest
  | .string, depth, c :: rest =>
    if c = '"' then closed .node depth rest
    else if c = '\\' then closed .escape depth rest
    else closed .string depth rest
  | .escape, depth, c :: rest =>
    if c = 'u' then closed (.hex 3) depth rest else closed .string depth rest
  | .hex 0, depth, _ :: rest => closed .string depth rest
  | .hex (left + 1), depth, _ :: rest => closed (.hex left) depth rest
  | .literal, depth, c :: rest =>
    if c = ',' then closed .node depth rest
    else if c = '}' ∨ c = ']' then
      if depth = 0 then true else closed .node (depth - 1) rest
    else closed .literal depth rest

/-- A text that the scanner does not leave. -/
def Bounded (s : String) : Prop := closed .outside 0 s.toList = true

instance (s : String) : Decidable (Bounded s) :=
  inferInstanceAs (Decidable (closed .outside 0 s.toList = true))

/-! ## Tracking the scanner

A part of the scanner is tracked by the walk when it fails only where the walk
says so, and otherwise leaves a rest, not longer than its text, on which the
walk goes on. -/

/-- `before` is the walk's verdict on `text`, `after` its verdict on a rest. -/
def Tracks {β : Type} (r : Except Fault (β × List Char)) (text : List Char) (before : Bool)
    (after : List Char → Bool) : Prop :=
  match r with
  | .ok (_, rest) => rest.length ≤ text.length ∧ before = after rest
  | .error e => e = .overrun ∧ before = false

theorem Tracks.ok {β : Type} {v : β} {text rest : List Char} {before : Bool}
    {after : List Char → Bool} (hlen : rest.length ≤ text.length) (h : before = after rest) :
    Tracks (.ok (v, rest)) text before after := ⟨hlen, h⟩

theorem Tracks.overrun {β : Type} {text : List Char} {after : List Char → Bool} {before : Bool}
    (h : before = false) :
    Tracks (.error .overrun : Except Fault (β × List Char)) text before after := ⟨rfl, h⟩

theorem Tracks.mono {β : Type} {r : Except Fault (β × List Char)} {text text' : List Char}
    {before : Bool} {after : List Char → Bool} (h : Tracks r text before after)
    (hlen : text.length ≤ text'.length) : Tracks r text' before after := by
  match r, h with
  | .error e, h => exact h
  | .ok (v, rest), ⟨hr, hb⟩ => exact ⟨by omega, hb⟩

/-- Parts in sequence. -/
theorem Tracks.bind {β γ : Type} {r : Except Fault (β × List Char)}
    {f : β × List Char → Except Fault (γ × List Char)} {text text' : List Char} {before : Bool}
    {after after' : List Char → Bool} (h : Tracks r text before after)
    (hlen : text.length ≤ text'.length)
    (hf : ∀ v rest, rest.length ≤ text.length → Tracks (f (v, rest)) rest (after rest) after') :
    Tracks (r >>= f) text' before after' := by
  match r, h with
  | .error e, ⟨he, hb⟩ => exact ⟨he, hb⟩
  | .ok (v, rest), ⟨hr, hb⟩ =>
    have hnext := hf v rest hr
    rw [← hb] at hnext
    show Tracks (f (v, rest)) text' before after'
    match hres : f (v, rest), hnext with
    | .error e, ⟨he, hb'⟩ => exact ⟨he, hb'⟩
    | .ok (w, rest'), ⟨hr', hb'⟩ => exact ⟨by omega, hb'⟩

theorem readString_tracks (depth : ℕ) (units : List ℕ) (text : List Char) :
    Tracks (readString units text) text (closed .string depth text) (closed .node depth) := by
  fun_induction readString units text with
  | case1 units a b c d rest ih =>
    have hwalk : closed .string depth ('\\' :: 'u' :: a :: b :: c :: d :: rest) =
        closed .string depth rest := by simp [closed]
    rw [hwalk]
    match hres : readString (units ++ [codeUnit a b c d]) rest, ih with
    | .error e, ⟨he, hb⟩ => exact ⟨he, hb⟩
    | .ok (v, rest'), ⟨hl, hb⟩ => exact ⟨by simp only [List.length_cons]; omega, hb⟩
  | case2 units rest hshort =>
    refine Tracks.overrun ?_
    match rest, hshort with
    | [], _ | [_], _ | [_, _], _ | [_, _, _], _ => simp [closed]
    | a :: b :: c :: d :: tail, h => exact absurd rfl (h a b c d tail)
  | case3 units c rest _ hu ih =>
    have hwalk : closed .string depth ('\\' :: c :: rest) = closed .string depth rest := by
      simp [closed, show c ≠ 'u' from hu]
    rw [hwalk]
    exact ih.bind (by simp only [List.length_cons]; omega) fun v rest' _ => Tracks.ok le_rfl rfl
  | case4 units rest => exact Tracks.ok (by simp) (by simp [closed])
  | case5 units c rest h1 h2 h3 hq ih =>
    by_cases hc : c = '\\'
    · match rest, h3, ih with
      | [], _, _ => exact Tracks.overrun (by simp [closed, hc])
      | c' :: tail, h3, _ => exact absurd rfl (h3 c' tail hc)
    · have hwalk : closed .string depth (c :: rest) = closed .string depth rest := by
        simp [closed, hc, show c ≠ '"' from hq]
      rw [hwalk]
      exact ih.bind (by simp) fun v rest' _ => Tracks.ok le_rfl rfl
  | case6 units => exact Tracks.overrun (by simp [closed])

/-- The loop over a literal, which leaves the character it stops at. -/
theorem skipLiteral_tracks (depth : ℕ) (text : List Char) :
    Tracks ((fun rest => ((), rest)) <$> skipLiteral text) text (closed .literal depth text)
      (closed .node depth) := by
  induction text with
  | nil => exact Tracks.overrun rfl
  | cons c rest ih =>
    simp only [skipLiteral]
    split
    · next hstop =>
      refine Tracks.ok le_rfl ?_
      rcases hstop with rfl | rfl | rfl <;> simp [closed, symbol]
    · next hgo =>
      simp only [not_or] at hgo
      have hwalk : closed .literal depth (c :: rest) = closed .literal depth rest := by
        simp [closed, hgo]
      rw [hwalk]
      match hres : skipLiteral rest, ih with
      | .error e, ⟨he, hb⟩ => exact ⟨he, hb⟩
      | .ok rest', ⟨hl, hb⟩ => exact ⟨by simp only [List.length_cons]; omega, hb⟩

/-! ## Numbers -/

/-- A character that the walk passes over between the containers. -/
def Plain (c : Char) : Prop := symbol c = .number ∨ symbol c = .other

instance (c : Char) : Decidable (Plain c) :=
  inferInstanceAs (Decidable (symbol c = .number ∨ symbol c = .other))

/-- `rest` is what is left of `text` behind some plain characters. -/
def Skips (text rest : List Char) : Prop := ∃ taken, text = taken ++ rest ∧ ∀ c ∈ taken, Plain c

theorem Skips.refl (text : List Char) : Skips text text := ⟨[], rfl, by simp⟩

theorem Skips.trans {t t' t'' : List Char} (h : Skips t t') (h' : Skips t' t'') : Skips t t'' := by
  obtain ⟨a, rfl, ha⟩ := h
  obtain ⟨b, rfl, hb⟩ := h'
  refine ⟨a ++ b, by simp, fun c hc => ?_⟩
  rcases List.mem_append.mp hc with hc | hc
  · exact ha c hc
  · exact hb c hc

theorem Skips.cons {c : Char} {text rest : List Char} (hc : Plain c) (h : Skips text rest) :
    Skips (c :: text) rest := Skips.trans ⟨[c], rfl, by simpa using hc⟩ h

theorem Skips.length_le {text rest : List Char} (h : Skips text rest) :
    rest.length ≤ text.length := by
  obtain ⟨taken, rfl, _⟩ := h
  simp

theorem Skips.closed_eq {text rest : List Char} (h : Skips text rest) (depth : ℕ) :
    closed .node depth text = closed .node depth rest := by
  obtain ⟨taken, rfl, hplain⟩ := h
  induction taken with
  | nil => rfl
  | cons c taken ih =>
    rw [List.cons_append, closed, ← ih fun c' hc' => hplain c' (List.mem_cons_of_mem _ hc')]
    rcases hplain c (by simp) with hc | hc <;> rw [hc]

theorem Skips.dropWhile {p : Char → Bool} (hp : ∀ c, p c → Plain c) (text : List Char) :
    Skips text (text.dropWhile p) :=
  ⟨text.takeWhile p, (List.takeWhile_append_dropWhile).symm,
    fun c hc => hp c (List.mem_takeWhile_imp hc)⟩

theorem symbol_digit {c : Char} (h : c.isDigit) : symbol c = .number := by
  have hne : ∀ d : Char, d.isDigit = false → c ≠ d := by
    rintro d hd rfl
    simp [h] at hd
  simp [symbol, h, hne]

theorem plain_digit {c : Char} (h : c.isDigit) : Plain c := .inl (symbol_digit h)

theorem readSign_skips (text : List Char) : Skips text (readSign text).2 := by
  unfold readSign
  split
  · exact .cons (by decide) (.refl _)
  · exact .cons (by decide) (.refl _)
  · exact .refl _

private theorem dropDigits_skips (text : List Char) : Skips text (text.dropWhile Char.isDigit) :=
  .dropWhile (fun _ => plain_digit) text

theorem readFraction_skips (text : List Char) : Skips text (readFraction text).2 := by
  unfold readFraction
  split
  · exact .cons (by decide) (dropDigits_skips _)
  · exact .refl _

theorem readExponent_skips (text : List Char) : Skips text (readExponent text).2 := by
  unfold readExponent
  split
  · exact .refl _
  · next e rest =>
    dsimp only
    split
    · next he =>
      have hplain : Plain e := by rcases he.1 with rfl | rfl <;> decide
      exact .cons hplain ((readSign_skips rest).trans (dropDigits_skips _))
    · exact .refl _

theorem readDecimal_skips (text : List Char) : Skips text (readDecimal text).2 := by
  unfold readDecimal
  dsimp only
  split
  · exact .refl _
  · exact (readSign_skips text).trans ((dropDigits_skips _).trans
      ((readFraction_skips _).trans (readExponent_skips _)))

theorem readNumber_skips (text : List Char) : Skips text (readNumber text).2 := by
  have hdrop : ∀ t : List Char, Skips t (t.dropWhile numberChar) := by
    refine .dropWhile fun c hc => ?_
    simp only [numberChar, Bool.or_eq_true, beq_iff_eq] at hc
    rcases hc with (rfl | rfl) | hc
    · exact (by decide)
    · exact (by decide)
    · exact plain_digit hc
  unfold readNumber
  split
  · exact (readDecimal_skips text).trans (hdrop _)
  · exact hdrop _

theorem numberChar_of_symbol {c : Char} (h : symbol c = .number) : numberChar c := by
  unfold symbol at h
  split_ifs at h with h1 h2 h3 h4 h5 h6
  rcases h6 with rfl | h6
  · decide
  · simp [numberChar, h6]

/-- A number takes at least the character it starts with. -/
theorem readNumber_length {c : Char} (hc : symbol c = .number) (rest : List Char) :
    (readNumber (c :: rest)).2.length ≤ rest.length := by
  obtain ⟨taken, htaken, _⟩ := readNumber_skips (c :: rest)
  cases taken with
  | cons _ _ =>
    have hlen := congrArg List.length htaken
    simp only [List.cons_append, List.length_cons, List.length_append] at hlen
    omega
  | nil =>
    have hstop : ∀ t : List Char, t.dropWhile numberChar ≠ c :: rest := by
      intro t heq
      have hhead := List.head?_dropWhile_not numberChar t
      simp [heq, numberChar_of_symbol hc] at hhead
    rw [List.nil_append, readNumber] at htaken
    split at htaken
    · exact absurd htaken.symm (hstop _)
    · exact absurd htaken.symm (hstop _)

/-! ## Containers -/

/-- The walk behind the container it is in. -/
def behind (depth : ℕ) (rest : List Char) : Bool :=
  if depth = 0 then true else closed .node (depth - 1) rest

@[simp] theorem behind_succ (depth : ℕ) : behind (depth + 1) = closed .node depth := rfl

theorem parseContainer_tracks (turns : ℕ) (container : Container) (name : String) (state : State)
    (text : List Char) (depth : ℕ) (hturns : text.length < turns) :
    Tracks (parseContainer turns container name state text) text (closed .node depth text)
      (behind depth) := by
  induction turns generalizing container name state text depth with
  | zero => omega
  | succ turns ih =>
    cases text with
    | nil =>
      refine Tracks.ok le_rfl ?_
      simp [closed, behind]
    | cons c rest =>
      simp only [List.length_cons] at hturns
      have hnext : ∀ container name state rest', rest'.length ≤ rest.length →
          Tracks (parseContainer turns container name state rest') rest'
            (closed .node depth rest') (behind depth) :=
        fun container name state rest' hlen => ih container name state rest' depth (by omega)
      have hlonger : rest.length ≤ (c :: rest).length := by simp
      rw [parseContainer]
      cases hsym : symbol c with
      | terminator =>
        refine Tracks.ok le_rfl ?_
        simp [closed, hsym, behind]
      | openMap =>
        have hinner := ih (.map []) "" .parseName rest (depth + 1) (by omega)
        simp only [closed, hsym]
        exact hinner.bind hlonger fun inner rest' hlen => hnext _ _ _ rest' hlen
      | openArray =>
        have hinner := ih (.array []) "" .parseValue rest (depth + 1) (by omega)
        simp only [closed, hsym]
        exact hinner.bind hlonger fun inner rest' hlen => hnext _ _ _ rest' hlen
      | close =>
        refine Tracks.ok hlonger ?_
        simp [closed, hsym, behind]
      | quote =>
        simp only [closed, hsym]
        refine (readString_tracks depth [] rest).bind hlonger fun value rest' hlen => ?_
        cases state with
        | parseValue => exact hnext _ _ _ rest' hlen
        | parseName => exact hnext _ _ _ rest' hlen
      | number =>
        have hlen := readNumber_length hsym rest
        rw [(readNumber_skips (c :: rest)).closed_eq depth]
        exact (hnext _ _ _ _ hlen).mono (hlen.trans hlonger)
      | literal =>
        simp only [closed, hsym]
        have hskip := skipLiteral_tracks depth rest
        match hres : skipLiteral rest, hskip with
        | .error e, h => exact h
        | .ok rest', ⟨hlen, hwalk⟩ =>
          rw [hwalk]
          exact (hnext _ _ _ rest' hlen).mono (hlen.trans hlonger)
      | other =>
        simp only [closed, hsym]
        exact (hnext _ _ _ rest le_rfl).mono hlonger

/-- The scanner fails on exactly the texts that are not bounded, and then by
leaving the text. -/
theorem parse_eq (text : List Char) :
    (∃ m, parse text = .ok m ∧ closed .outside 0 text = true) ∨
      (parse text = .error .overrun ∧ closed .outside 0 text = false) := by
  induction text with
  | nil => exact .inl ⟨[], rfl, rfl⟩
  | cons c rest ih =>
    rw [parse, closed]
    split
    · exact .inl ⟨[], rfl, rfl⟩
    · split
      · have htracks := parseContainer_tracks (rest.length + 1) (.map []) "" .parseName rest 0
          (by omega)
        match parseContainer (rest.length + 1) (.map []) "" .parseName rest, htracks with
        | .error e, ⟨he, hb⟩ => exact .inr ⟨by rw [he]; rfl, hb⟩
        | .ok (.map m, _), ⟨_, hb⟩ => exact .inl ⟨m, rfl, hb⟩
        | .ok (.array _, _), ⟨_, hb⟩ => exact .inl ⟨[], rfl, hb⟩
      · exact ih

end StreamCloud.JsonText

namespace StreamCloud

open JsonText

/-- The api reads exactly the bounded texts. -/
theorem Codec.api_parse_returns {s : String} : (Codec.api.parse s).Returns ↔ Bounded s := by
  rcases parse_eq s.toList with ⟨m, hm, hb⟩ | ⟨hm, hb⟩
  · exact ⟨fun _ => hb, fun _ => ⟨m, hm⟩⟩
  · refine ⟨fun ⟨m, h⟩ => ?_, fun h => absurd h (by simp [Bounded, hb])⟩
    exact absurd (hm.symm.trans h) (by simp)

end StreamCloud
