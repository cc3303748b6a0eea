-- SUMMARY: Pending messages handled one at a time: runs, invariants of runs, and what happened in a run.
import StreamCloud.Library.Trace
import Mathlib.Logic.Relation
import Mathlib.Logic.Hydra

/-!
# Work

A party handles one message at a time. Handling a message reads an outcome of
the environment, changes the state and may put new messages among the pending
ones. Messages also arrive from outside. What is asked of such a party is what
holds in every run, and what happened in the runs that come to a configuration.

Nothing here fixes the order in which pending messages are taken.
-/

namespace Work

variable {σ ε ω φ : Type*}

/-- How a message is handled, given an outcome of the environment. -/
abbrev Handler (σ ε ω φ : Type*) := ω → σ → ε → Except φ (σ × List ε)

structure Config (σ ε : Type*) where
  state : σ
  pending : List ε

/-- A run: messages accepted by `input` arrive, pending messages are handled.
Every handled message meets `guard`, in the state and under the outcome it is
handled with. -/
inductive Run (h : Handler σ ε ω φ) (input : ε → Prop) (guard : ω → σ → ε → Prop) :
    Config σ ε → Config σ ε → Prop
  | refl (c : Config σ ε) : Run h input guard c c
  | arrive {c : Config σ ε} {s : σ} {pending : List ε} {e : ε} :
      Run h input guard c ⟨s, pending⟩ → input e →
      Run h input guard c ⟨s, pending ++ [e]⟩
  | handle {c : Config σ ε} {o : ω} {s s' : σ} {p q out : List ε} {e : ε} :
      Run h input guard c ⟨s, p ++ e :: q⟩ → guard o s e →
      h o s e = .ok (s', out) →
      Run h input guard c ⟨s', p ++ q ++ out⟩

/-- A given number of messages handled in order, under one outcome of the environment. -/
def turns (h : Handler σ ε ω φ) (o : ω) : ℕ → Config σ ε → Except φ (Config σ ε)
  | 0, c => .ok c
  | _ + 1, ⟨s, []⟩ => .ok ⟨s, []⟩
  | k + 1, ⟨s, e :: rest⟩ => do
    let (s', out) ← h o s e
    turns h o k ⟨s', rest ++ out⟩

@[simp] theorem turns_nil (h : Handler σ ε ω φ) (o : ω) (k : ℕ) (s : σ) :
    turns h o k ⟨s, []⟩ = .ok ⟨s, []⟩ := by cases k <;> rfl

/-- A turn that handles the only pending message. -/
theorem turns_succ {h : Handler σ ε ω φ} {o : ω} {s s' : σ} {e : ε} {out : List ε}
    (heq : h o s e = .ok (s', out)) (k : ℕ) :
    turns h o (k + 1) ⟨s, [e]⟩ = turns h o k ⟨s', out⟩ := by
  rw [turns, heq]
  rfl

/-! ## Invariants of runs -/

/-- The run rule. A state invariant and a property of single messages hold in
every configuration of a run when arriving messages have the property and
handling preserves both. -/
theorem Run.invariant {h : Handler σ ε ω φ} {input : ε → Prop} {guard : ω → σ → ε → Prop}
    {c c' : Config σ ε} (hrun : Run h input guard c c')
    (I : σ → Prop) (Q : ε → Prop) (hI : I c.state) (hQ : ∀ e ∈ c.pending, Q e)
    (harrive : ∀ e, input e → Q e)
    (hstep : ∀ o s e s' out, I s → Q e → guard o s e → h o s e = .ok (s', out) →
      I s' ∧ ∀ e' ∈ out, Q e') :
    I c'.state ∧ ∀ e ∈ c'.pending, Q e := by
  induction hrun with
  | refl => exact ⟨hI, hQ⟩
  | arrive _ hin ih =>
    obtain ⟨hs, hp⟩ := ih
    refine ⟨hs, fun e he => ?_⟩
    rcases List.mem_append.mp he with he | he
    · exact hp e he
    · rw [List.mem_singleton.mp he]; exact harrive _ hin
  | handle _ hg heq ih =>
    obtain ⟨hs, hp⟩ := ih
    obtain ⟨hs', hout⟩ := hstep _ _ _ _ _ hs (hp _ (by simp)) hg heq
    refine ⟨hs', fun e he => ?_⟩
    rcases List.mem_append.mp he with he | he
    · exact hp e (by rcases List.mem_append.mp he with h | h <;> simp [h])
    · exact hout e he

/-- A single pending message is handled. -/
theorem Run.handle_single {h : Handler σ ε ω φ} {input : ε → Prop} {guard : ω → σ → ε → Prop}
    {c : Config σ ε} {s s' : σ} {e : ε} {out : List ε} (hrun : Run h input guard c ⟨s, [e]⟩)
    (o : ω) (hguard : guard o s e) (heq : h o s e = .ok (s', out)) :
    Run h input guard c ⟨s', out⟩ := by
  have hnext := Run.handle (p := []) (q := []) hrun hguard heq
  simpa using hnext

/-- The first pending message is handled. -/
theorem Run.handle_head {h : Handler σ ε ω φ} {input : ε → Prop} {guard : ω → σ → ε → Prop}
    {c : Config σ ε} {s s' : σ} {e : ε} {rest out : List ε} (hrun : Run h input guard c ⟨s, e :: rest⟩)
    (o : ω) (hguard : guard o s e) (heq : h o s e = .ok (s', out)) :
    Run h input guard c ⟨s', rest ++ out⟩ :=
  Run.handle (p := []) hrun hguard heq

/-- Turns are runs without arrivals. -/
theorem Run.of_turns {h : Handler σ ε ω φ} {input : ε → Prop} {o : ω} {k : ℕ}
    {c c₀ c' : Config σ ε} (h₀ : Run h input (fun _ _ _ => True) c c₀)
    (hturns : turns h o k c₀ = .ok c') : Run h input (fun _ _ _ => True) c c' := by
  induction k generalizing c₀ with
  | zero =>
    cases hturns
    exact h₀
  | succ k ih =>
    obtain ⟨s, pending⟩ := c₀
    cases pending with
    | nil =>
      cases hturns
      exact h₀
    | cons e rest =>
      rw [turns] at hturns
      cases hhandle : h o s e with
      | error fault =>
        rw [hhandle] at hturns
        cases hturns
      | ok r =>
        rw [hhandle] at hturns
        exact ih (h₀.handle_head o trivial hhandle) hturns

/-- What holds of the pending messages, and is kept when they are handled, holds
after any number of turns. -/
theorem turns_invariant {h : Handler σ ε ω φ} {o : ω} (I : σ → Prop) (Q : ε → Prop)
    (hstep : ∀ s e s' out, I s → Q e → h o s e = .ok (s', out) → I s' ∧ ∀ e' ∈ out, Q e') {k : ℕ}
    {c c' : Config σ ε} (hturns : turns h o k c = .ok c') (hI : I c.state) (hQ : ∀ e ∈ c.pending, Q e) :
    I c'.state ∧ ∀ e ∈ c'.pending, Q e := by
  induction k generalizing c with
  | zero =>
    cases hturns
    exact ⟨hI, hQ⟩
  | succ k ih =>
    obtain ⟨s, pending⟩ := c
    cases pending with
    | nil =>
      cases hturns
      exact ⟨hI, hQ⟩
    | cons e rest =>
      rw [turns] at hturns
      cases hhandle : h o s e with
      | error fault =>
        rw [hhandle] at hturns
        cases hturns
      | ok r =>
        obtain ⟨s', out⟩ := r
        rw [hhandle] at hturns
        obtain ⟨hI', hout⟩ := hstep s e s' out hI (hQ e List.mem_cons_self) hhandle
        refine ih (c := ⟨s', rest ++ out⟩) hturns hI' fun e' he' => ?_
        rcases List.mem_append.mp he' with he' | he'
        · exact hQ e' (List.mem_cons_of_mem _ he')
        · exact hout e' he'

/-! ## Messages that are passed on -/

/-- Wherever `I` holds, handling `e` leaves the state alone and sends `e'`. -/
def Passes (h : Handler σ ε ω φ) (I : ω → σ → Prop) (e e' : ε) : Prop :=
  ∀ o s, I o s → h o s e = .ok (s, [e'])

/-- One message becomes another in several handlings, whatever is handled in
between as long as `I` holds. -/
abbrev Leads (h : Handler σ ε ω φ) (I : ω → σ → Prop) : ε → ε → Prop :=
  Relation.ReflTransGen (Passes h I)

theorem Passes.leads {h : Handler σ ε ω φ} {I : ω → σ → Prop} {e e' : ε} (hp : Passes h I e e') :
    Leads h I e e' := .single hp

/-! ## What happened in a run -/

/-- A run, continued. -/
theorem Run.trans {h : Handler σ ε ω φ} {input : ε → Prop} {guard : ω → σ → ε → Prop}
    {c₁ c₂ c₃ : Config σ ε} (hrun : Run h input guard c₁ c₂) (hrest : Run h input guard c₂ c₃) :
    Run h input guard c₁ c₃ := by
  induction hrest with
  | refl => exact hrun
  | arrive _ hin ih => exact ih.arrive hin
  | handle _ hg heq ih => exact ih.handle hg heq

/-- Where nothing is pending and nothing arrives, nothing happens. -/
theorem Run.eq_of_idle {h : Handler σ ε ω φ} {guard : ω → σ → ε → Prop} {s : σ} {c : Config σ ε}
    (hrun : Run h (fun _ => False) guard ⟨s, []⟩ c) : c = ⟨s, []⟩ := by
  induction hrun with
  | refl => rfl
  | arrive _ hin => exact hin.elim
  | handle _ _ _ ih => simp at ih

/-- A run stays one when more may arrive. -/
theorem Run.mono {h : Handler σ ε ω φ} {input input' : ε → Prop} {guard : ω → σ → ε → Prop}
    {c c' : Config σ ε} (hrun : Run h input guard c c') (hinput : ∀ e, input e → input' e) :
    Run h input' guard c c' := by
  induction hrun with
  | refl => exact .refl _
  | arrive _ hin ih => exact ih.arrive (hinput _ hin)
  | handle _ hg heq ih => exact ih.handle hg heq

/-- Messages that wait do not stand in the way of a run. -/
theorem Run.append_left {h : Handler σ ε ω φ} {input : ε → Prop} {guard : ω → σ → ε → Prop}
    {c c' : Config σ ε} (hrun : Run h input guard c c') (waiting : List ε) :
    Run h input guard ⟨c.state, waiting ++ c.pending⟩ ⟨c'.state, waiting ++ c'.pending⟩ := by
  induction hrun with
  | refl => exact .refl _
  | arrive _ hin ih =>
    rw [← List.append_assoc]
    exact ih.arrive hin
  | @handle o s s' p q out e _ hg heq ih =>
    have ih : Run h input guard ⟨c.state, waiting ++ c.pending⟩ ⟨s, (waiting ++ p) ++ e :: q⟩ := by simpa using ih
    simpa using ih.handle hg heq

/-- Between two configurations of a run, a message arrived. -/
def Arrived (h : Handler σ ε ω φ) (input : ε → Prop) (guard : ω → σ → ε → Prop) (c c' : Config σ ε)
    (e : ε) : Prop :=
  ∃ s pending, Run h input guard c ⟨s, pending⟩ ∧ input e ∧
    Run h input guard ⟨s, pending ++ [e]⟩ c'

/-- Between two configurations of a run, `e` was handled in the state `s`, under
the outcome `o`, and caused `out`. -/
def Caused (h : Handler σ ε ω φ) (input : ε → Prop) (guard : ω → σ → ε → Prop) (c c' : Config σ ε)
    (o : ω) (s : σ) (e : ε) (out : List ε) : Prop :=
  ∃ s' p q, Run h input guard c ⟨s, p ++ e :: q⟩ ∧ guard o s e ∧ h o s e = .ok (s', out) ∧
    Run h input guard ⟨s', p ++ q ++ out⟩ c'

section Happened

variable {h : Handler σ ε ω φ} {input : ε → Prop} {guard : ω → σ → ε → Prop}
  {c c₁ c₂ : Config σ ε} {e : ε}

/-- What happened stays so. -/
theorem Arrived.trans (ha : Arrived h input guard c c₁ e) (hrun : Run h input guard c₁ c₂) :
    Arrived h input guard c c₂ e := by
  obtain ⟨s, pending, hbefore, hin, hafter⟩ := ha
  exact ⟨s, pending, hbefore, hin, hafter.trans hrun⟩

theorem Caused.trans {o : ω} {s : σ} {out : List ε} (hc : Caused h input guard c c₁ o s e out)
    (hrun : Run h input guard c₁ c₂) : Caused h input guard c c₂ o s e out := by
  obtain ⟨s', p, q, hbefore, hg, heq, hafter⟩ := hc
  exact ⟨s', p, q, hbefore, hg, heq, hafter.trans hrun⟩

/-- The run rule for facts about a message that look back at how it came to be.
Such a fact stays true when the run goes on. -/
theorem Run.traced (I : σ → Prop) (P : Config σ ε → ε → Prop)
    (hmono : ∀ c₁ c₂ e, Run h input guard c₁ c₂ → P c₁ e → P c₂ e) (hI : I c.state)
    (hP : ∀ e ∈ c.pending, P c e)
    (harrive : ∀ s pending e, Run h input guard c ⟨s, pending⟩ → input e →
      P ⟨s, pending ++ [e]⟩ e)
    (hhandle : ∀ o s s' p q out e, Run h input guard c ⟨s, p ++ e :: q⟩ → I s →
      P ⟨s, p ++ e :: q⟩ e → guard o s e → h o s e = .ok (s', out) →
      I s' ∧ ∀ e' ∈ out, P ⟨s', p ++ q ++ out⟩ e') {c' : Config σ ε} (hrun : Run h input guard c c') :
    I c'.state ∧ ∀ e ∈ c'.pending, P c' e := by
  induction hrun with
  | refl => exact ⟨hI, hP⟩
  | arrive hprefix hin ih =>
    obtain ⟨hs, hpending⟩ := ih
    refine ⟨hs, fun e he => ?_⟩
    rcases List.mem_append.mp he with he | he
    · exact hmono _ _ e (.arrive (.refl _) hin) (hpending e he)
    · rw [List.mem_singleton.mp he]
      exact harrive _ _ _ hprefix hin
  | handle hprefix hg heq ih =>
    obtain ⟨hs, hpending⟩ := ih
    obtain ⟨hs', hout⟩ := hhandle _ _ _ _ _ _ _ hprefix hs (hpending _ (by simp)) hg heq
    refine ⟨hs', fun e he => ?_⟩
    rcases List.mem_append.mp he with he | he
    · refine hmono _ _ e (.handle (.refl _) hg heq) (hpending e ?_)
      rcases List.mem_append.mp he with he | he <;> simp [he]
    · exact hout e he

end Happened

/-! ## Runs with their events -/

/-- A message arrives, or one is handled and causes others. -/
inductive Event (ε ω : Type*)
  | arrive (e : ε)
  | handle (o : ω) (e : ε) (out : List ε)

/-- What a run does at a time. -/
inductive Moves (h : Handler σ ε ω φ) (input : ε → Prop) (guard : ω → σ → ε → Prop) :
    Config σ ε → Event ε ω → Config σ ε → Prop
  | arrive {s : σ} {pending : List ε} {e : ε} : input e →
      Moves h input guard ⟨s, pending⟩ (.arrive e) ⟨s, pending ++ [e]⟩
  | handle {o : ω} {s s' : σ} {p q out : List ε} {e : ε} : guard o s e → h o s e = .ok (s', out) →
      Moves h input guard ⟨s, p ++ e :: q⟩ (.handle o e out) ⟨s', p ++ q ++ out⟩

/-- The runs are the traces of their events. -/
theorem run_iff_trace {h : Handler σ ε ω φ} {input : ε → Prop} {guard : ω → σ → ε → Prop}
    {c c' : Config σ ε} :
    Run h input guard c c' ↔ ∃ events, Lts.Trace (Moves h input guard) c events c' := by
  constructor
  · intro hrun
    induction hrun with
    | refl => exact ⟨[], .nil⟩
    | arrive _ hin ih =>
      obtain ⟨events, htrace⟩ := ih
      exact ⟨_, htrace.snoc (.arrive hin)⟩
    | handle _ hg heq ih =>
      obtain ⟨events, htrace⟩ := ih
      exact ⟨_, htrace.snoc (.handle hg heq)⟩
  · rintro ⟨events, htrace⟩
    induction htrace with
    | nil => exact .refl c
    | snoc _ hmove ih =>
      cases hmove with
      | arrive hin => exact ih.arrive hin
      | handle hg heq => exact ih.handle hg heq

/-! ## Work that comes to an end -/

/-- The pending messages are the heads of a hydra: a handled one is replaced by
any number of smaller ones. -/
theorem cutExpand_handled {r : ε → ε → Prop} {p q out : List ε} {e : ε} (h : ∀ e' ∈ out, r e' e) :
    Relation.CutExpand r ((p ++ q ++ out : List ε) : Multiset ε) ((p ++ e :: q : List ε) : Multiset ε) := by
  refine ⟨(out : Multiset ε), e, fun e' he' => h e' (by simpa using he'), ?_⟩
  rw [← Multiset.coe_singleton]
  simp only [Multiset.coe_add, Multiset.coe_eq_coe]
  calc p ++ q ++ out ++ [e]
      = (p ++ q) ++ (out ++ [e]) := by simp
    _ |>.Perm ((p ++ q) ++ ([e] ++ out)) := (List.perm_append_comm).append_left _
    _ |>.Perm ((e :: (p ++ q)) ++ out) := by
        simpa using (@List.perm_middle _ e (p ++ q) out)
    _ |>.Perm ((p ++ e :: q) ++ out) := (List.perm_middle.symm).append_right _

end Work
