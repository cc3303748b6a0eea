-- SUMMARY: What comes of one message in a run, kept apart from everything else.
import StreamCloud.Library.Work
import StreamCloud.Library.Outcome

/-!
# Following a message

In a run, the messages that come of one of them are told apart from the others:
its family is the message itself, and then whatever the handling of a member
causes. Every run can be followed in this way (`Run.follow`), so that what holds
of every family holds of every run.
-/

namespace Work

variable {σ ε ω φ : Type*}

/-- A configuration in which one family is kept apart. -/
structure Followed (σ ε : Type*) where
  state : σ
  others : List ε
  family : List ε

/-- A run in which a family is followed. The members of the family that are
handled meet `own`, the other messages that are handled meet `guard`. -/
inductive Follow (h : Handler σ ε ω φ) (input : ε → Prop) (guard own : ω → σ → ε → Prop) :
    Followed σ ε → Followed σ ε → Prop
  | refl (c : Followed σ ε) : Follow h input guard own c c
  | arrive {c : Followed σ ε} {s : σ} {others family : List ε} {e : ε} :
      Follow h input guard own c ⟨s, others, family⟩ → input e →
      Follow h input guard own c ⟨s, others ++ [e], family⟩
  | other {c : Followed σ ε} {o : ω} {s s' : σ} {p q out family : List ε} {e : ε} :
      Follow h input guard own c ⟨s, p ++ e :: q, family⟩ → guard o s e → h o s e = .ok (s', out) →
      Follow h input guard own c ⟨s', p ++ q ++ out, family⟩
  | member {c : Followed σ ε} {o : ω} {s s' : σ} {others p q out : List ε} {e : ε} :
      Follow h input guard own c ⟨s, others, p ++ e :: q⟩ → own o s e → h o s e = .ok (s', out) →
      Follow h input guard own c ⟨s', others, p ++ q ++ out⟩

variable {h : Handler σ ε ω φ} {input : ε → Prop} {guard own : ω → σ → ε → Prop}

/-- Every run is followed from any of its messages. -/
theorem Run.follow {s : σ} {p q : List ε} {e : ε} {c : Config σ ε}
    (hrun : Run h input guard ⟨s, p ++ e :: q⟩ c) :
    ∃ others family, c.pending.Perm (others ++ family) ∧
      Follow h input guard guard ⟨s, p ++ q, [e]⟩ ⟨c.state, others, family⟩ := by
  induction hrun with
  | refl =>
    refine ⟨p ++ q, [e], ?_, .refl _⟩
    exact List.perm_middle.trans (List.perm_append_singleton e (p ++ q)).symm
  | @arrive s₁ pending e₁ _ hin ih =>
    obtain ⟨others, family, hperm, hfollow⟩ := ih
    refine ⟨others ++ [e₁], family, ?_, hfollow.arrive hin⟩
    calc pending ++ [e₁]
        |>.Perm (others ++ family ++ [e₁]) := hperm.append_right _
      _ |>.Perm (others ++ ([e₁] ++ family)) := by
          rw [List.append_assoc]
          exact List.perm_append_comm.append_left _
      _ = others ++ [e₁] ++ family := (List.append_assoc _ _ _).symm
  | @handle o s₁ s₂ p₁ q₁ out e₁ _ hg heq ih =>
    obtain ⟨others, family, hperm, hfollow⟩ := ih
    have hmem : e₁ ∈ others ++ family := hperm.subset (by simp)
    have hrest {rest : List ε} (hsplit : (others ++ family).Perm (e₁ :: rest)) :
        (p₁ ++ q₁).Perm rest :=
      List.Perm.cons_inv ((List.perm_middle.symm.trans hperm).trans hsplit)
    rcases List.mem_append.mp hmem with hother | hmember
    · obtain ⟨p₂, q₂, rfl⟩ := List.append_of_mem hother
      refine ⟨p₂ ++ q₂ ++ out, family, ?_, hfollow.other hg heq⟩
      have hsplit : (p₂ ++ e₁ :: q₂ ++ family).Perm (e₁ :: (p₂ ++ q₂ ++ family)) :=
        List.perm_middle.append_right family
      calc p₁ ++ q₁ ++ out
          |>.Perm (p₂ ++ q₂ ++ family ++ out) := (hrest hsplit).append_right out
        _ |>.Perm (p₂ ++ q₂ ++ (out ++ family)) := by
            rw [List.append_assoc]
            exact List.perm_append_comm.append_left _
        _ = p₂ ++ q₂ ++ out ++ family := (List.append_assoc _ _ _).symm
    · obtain ⟨p₂, q₂, rfl⟩ := List.append_of_mem hmember
      refine ⟨others, p₂ ++ q₂ ++ out, ?_, hfollow.member hg heq⟩
      have hsplit : (others ++ (p₂ ++ e₁ :: q₂)).Perm (e₁ :: (others ++ (p₂ ++ q₂))) :=
        (List.perm_middle.append_left others).trans List.perm_middle
      calc p₁ ++ q₁ ++ out
          |>.Perm (others ++ (p₂ ++ q₂) ++ out) := (hrest hsplit).append_right out
        _ = others ++ (p₂ ++ q₂ ++ out) := List.append_assoc _ _ _

/-- A followed run, continued. -/
theorem Follow.trans {c₁ c₂ c₃ : Followed σ ε} (hfollow : Follow h input guard own c₁ c₂)
    (hrest : Follow h input guard own c₂ c₃) : Follow h input guard own c₁ c₃ := by
  induction hrest with
  | refl => exact hfollow
  | arrive _ hin ih => exact ih.arrive hin
  | other _ hg heq ih => exact ih.other hg heq
  | member _ hg heq ih => exact ih.member hg heq

/-- What holds of the others and of the family apart, and of the state, holds in
every run that is followed. -/
theorem Follow.invariant {c c' : Followed σ ε} (hfollow : Follow h input guard own c c') (I : σ → Prop)
    (Q R : ε → Prop) (hI : I c.state) (hQ : ∀ e ∈ c.others, Q e) (hR : ∀ e ∈ c.family, R e)
    (harrive : ∀ e, input e → Q e)
    (hother : ∀ o s e s' out, I s → Q e → guard o s e → h o s e = .ok (s', out) →
      I s' ∧ ∀ e' ∈ out, Q e')
    (hmember : ∀ o s e s' out, I s → R e → own o s e → h o s e = .ok (s', out) →
      I s' ∧ ∀ e' ∈ out, R e') :
    I c'.state ∧ (∀ e ∈ c'.others, Q e) ∧ ∀ e ∈ c'.family, R e := by
  have hkeep {P : ε → Prop} {p q out : List ε} {e : ε} (h₁ : ∀ x ∈ p ++ e :: q, P x)
      (h₂ : ∀ x ∈ out, P x) : ∀ x ∈ p ++ q ++ out, P x := by
    intro x hx
    rcases List.mem_append.mp hx with hx | hx
    · exact h₁ x (by rcases List.mem_append.mp hx with hx | hx <;> simp [hx])
    · exact h₂ x hx
  induction hfollow with
  | refl => exact ⟨hI, hQ, hR⟩
  | arrive _ hin ih =>
    obtain ⟨hs, hothers, hfamily⟩ := ih
    refine ⟨hs, fun e he => ?_, hfamily⟩
    rcases List.mem_append.mp he with he | he
    · exact hothers e he
    · rw [List.mem_singleton.mp he]
      exact harrive _ hin
  | other _ hg heq ih =>
    obtain ⟨hs, hothers, hfamily⟩ := ih
    obtain ⟨hs', hout⟩ := hother _ _ _ _ _ hs (hothers _ (by simp)) hg heq
    exact ⟨hs', hkeep hothers hout, hfamily⟩
  | member _ hg heq ih =>
    obtain ⟨hs, hothers, hfamily⟩ := ih
    obtain ⟨hs', hout⟩ := hmember _ _ _ _ _ hs (hfamily _ (by simp)) hg heq
    exact ⟨hs', hothers, hkeep hfamily hout⟩

/-- A run that meets one guard meets every weaker one. -/
theorem Follow.mono {guard' own' : ω → σ → ε → Prop} {c c' : Followed σ ε}
    (hfollow : Follow h input guard own c c') (hguard : ∀ o s e, guard o s e → guard' o s e)
    (hown : ∀ o s e, own o s e → own' o s e) : Follow h input guard' own' c c' := by
  induction hfollow with
  | refl => exact .refl _
  | arrive _ hin ih => exact ih.arrive hin
  | other _ hg heq ih => exact ih.other (hguard _ _ _ hg) heq
  | member _ hg heq ih => exact ih.member (hown _ _ _ hg) heq

/-- The only member of a family is handled. -/
theorem Follow.member_single {c : Followed σ ε} {o : ω} {s s' : σ} {others out : List ε} {e : ε}
    (hfollow : Follow h input guard own c ⟨s, others, [e]⟩) (hg : own o s e) (heq : h o s e = .ok (s', out)) :
    Follow h input guard own c ⟨s', others, out⟩ :=
  Follow.member (p := []) (q := []) hfollow hg heq

/-- The only member of a family. -/
theorem eq_of_only {p q : List ε} {e e₁ : ε} (hone : p ++ e :: q = [e₁]) : p = [] ∧ e = e₁ ∧ q = [] := by
  rcases List.append_eq_singleton_iff.mp hone with ⟨rfl, hcons⟩ | ⟨-, hcons⟩
  · exact ⟨rfl, List.cons.inj hcons⟩
  · cases hcons

/-- The rule for families of one: each member that is handled is followed by exactly
one message. -/
theorem Follow.single {c c' : Followed σ ε} (hfollow : Follow h input guard own c c') (I : σ → Prop)
    (P R : ε → Prop) (hI : I c.state) (hP : ∀ e ∈ c.others, P e) (hR : ∃ e, c.family = [e] ∧ R e)
    (harrive : ∀ e, input e → P e)
    (hother : ∀ o s e s' out, I s → P e → guard o s e → h o s e = .ok (s', out) →
      I s' ∧ ∀ e' ∈ out, P e')
    (hmember : ∀ o s e s' out, I s → R e → own o s e → h o s e = .ok (s', out) →
      I s' ∧ ∃ e', out = [e'] ∧ R e') :
    I c'.state ∧ (∀ e ∈ c'.others, P e) ∧ ∃ e, c'.family = [e] ∧ R e := by
  induction hfollow with
  | refl => exact ⟨hI, hP, hR⟩
  | arrive _ hin ih =>
    obtain ⟨hs, hothers, hfamily⟩ := ih
    refine ⟨hs, fun e he => ?_, hfamily⟩
    rcases List.mem_append.mp he with he | he
    · exact hothers e he
    · rw [List.mem_singleton.mp he]
      exact harrive _ hin
  | other _ hg heq ih =>
    obtain ⟨hs, hothers, hfamily⟩ := ih
    obtain ⟨hs', hout⟩ := hother _ _ _ _ _ hs (hothers _ (by simp)) hg heq
    refine ⟨hs', fun e he => ?_, hfamily⟩
    rcases List.mem_append.mp he with he | he
    · exact hothers e (by rcases List.mem_append.mp he with he | he <;> simp [he])
    · exact hout e he
  | @member o s s' others p q out e _ hg heq ih =>
    obtain ⟨hs, hothers, e₁, hone, he₁⟩ := ih
    -- the member that is handled is the only one
    obtain ⟨rfl, rfl, rfl⟩ := eq_of_only hone
    obtain ⟨hs', e', rfl, he'⟩ := hmember _ _ _ _ _ hs he₁ hg heq
    exact ⟨hs', hothers, e', rfl, he'⟩

/-- The accounting rule: what a handled member weighs, and what it causes weighs,
compare as the whole family before and after. -/
theorem Follow.weight {c c' : Followed σ ε} (hfollow : Follow h input guard own c c') (I : σ → Prop)
    (R : ε → Prop) (w : ε → ℕ) (r : ℕ → ℕ → Prop) (hrefl : ∀ a, r a a)
    (htrans : ∀ a b d, r a b → r b d → r a d) (hadd : ∀ a b d, r a b → r (d + a) (d + b))
    (hinv : ∀ c', Follow h input guard own c c' → I c'.state ∧ ∀ e ∈ c'.family, R e)
    (hmember : ∀ o s e s' out, I s → R e → own o s e → h o s e = .ok (s', out) →
      r (out.map w).sum (w e)) :
    r (c'.family.map w).sum (c.family.map w).sum := by
  induction hfollow with
  | refl => exact hrefl _
  | arrive _ _ ih => exact ih
  | other _ _ _ ih => exact ih
  | @member o s s' others p q out e hprefix hg heq ih =>
    obtain ⟨hs, hfamily⟩ := hinv _ hprefix
    have hstep : r (out.map w).sum (w e) := hmember o s e s' out hs (hfamily e (by simp)) hg heq
    have hbefore : ((p ++ e :: q).map w).sum = ((p ++ q).map w).sum + w e := by
      simp only [List.map_append, List.map_cons, List.sum_append, List.sum_cons]
      omega
    have hafter : ((p ++ q ++ out).map w).sum = ((p ++ q).map w).sum + (out.map w).sum := by
      rw [List.map_append, List.sum_append]
    refine htrans _ _ _ ?_ ih
    show r ((p ++ q ++ out).map w).sum ((p ++ e :: q).map w).sum
    rw [hbefore, hafter]
    exact hadd _ _ _ hstep

/-! ## Families that come to an end -/

/-- A followed run whose last step handles a member of the family. -/
inductive Turn (h : Handler σ ε ω φ) (input : ε → Prop) (guard own : ω → σ → ε → Prop)
    (c : Followed σ ε) : Followed σ ε → Prop
  | member {o : ω} {s s' : σ} {others p q out : List ε} {e : ε} :
      Follow h input guard own c ⟨s, others, p ++ e :: q⟩ → own o s e → h o s e = .ok (s', out) →
      Turn h input guard own c ⟨s', others, p ++ q ++ out⟩

/-- However the run goes on, only finitely many members of the family are handled. -/
def Dies (h : Handler σ ε ω φ) (input : ε → Prop) (guard own : ω → σ → ε → Prop)
    (c : Followed σ ε) : Prop :=
  Acc (fun c₂ c₁ => Turn h input guard own c₁ c₂) c

/-- As long as what a member causes is below it, the family goes down. -/
theorem Follow.goesDown {c c' : Followed σ ε} (hfollow : Follow h input guard own c c') {r : ε → ε → Prop}
    (hmember : ∀ o s s' others p q out e, Follow h input guard own c ⟨s, others, p ++ e :: q⟩ →
      own o s e → h o s e = .ok (s', out) → ∀ e' ∈ out, r e' e) :
    Relation.ReflTransGen (Relation.CutExpand r) (c'.family : Multiset ε) (c.family : Multiset ε) := by
  induction hfollow with
  | refl => exact .refl
  | arrive _ _ ih => exact ih
  | other _ _ _ ih => exact ih
  | member hprefix hg heq ih =>
    exact .head (cutExpand_handled (hmember _ _ _ _ _ _ _ _ hprefix hg heq)) ih

/-- The rule for families that come to an end: every message has a rank, and what
a member causes has smaller ones. -/
theorem dies_of_rank (I : σ → Prop) (P : ε → Prop) (Q : ℕ → ε → Prop)
    (harrive : ∀ e, input e → P e)
    (hother : ∀ o s e s' out, I s → P e → guard o s e → h o s e = .ok (s', out) →
      I s' ∧ ∀ e' ∈ out, P e')
    (hmember : ∀ k o s e s' out, I s → Q k e → own o s e → h o s e = .ok (s', out) →
      I s' ∧ ∀ e' ∈ out, ∃ j < k, Q j e')
    {c : Followed σ ε} (hI : I c.state) (hP : ∀ e ∈ c.others, P e)
    (hQ : ∀ e ∈ c.family, ∃ k, Q k e) : Dies h input guard own c := by
  classical
  -- the rank of a message is the least one that it has
  let r : ε → ε → Prop := InvImage (· < ·) fun e => sInf {k | Q k e}
  have hr : WellFounded r := InvImage.wf _ (wellFounded_lt (α := ℕ))
  have hbelow {o : ω} {s s' : σ} {e : ε} {out : List ε} (hs : I s) (he : ∃ k, Q k e)
      (hg : own o s e) (heq : h o s e = .ok (s', out)) :
      I s' ∧ ∀ e' ∈ out, (∃ k, Q k e') ∧ r e' e := by
    obtain ⟨hs', hout⟩ := hmember _ o s e s' out hs (Nat.sInf_mem he) hg heq
    refine ⟨hs', fun e' he' => ?_⟩
    obtain ⟨j, hlt, hj⟩ := hout e' he'
    exact ⟨⟨j, hj⟩, lt_of_le_of_lt (Nat.sInf_le hj) hlt⟩
  have hkept {c c' : Followed σ ε} (hfollow : Follow h input guard own c c') (hI : I c.state)
      (hP : ∀ e ∈ c.others, P e) (hQ : ∀ e ∈ c.family, ∃ k, Q k e) :
      I c'.state ∧ (∀ e ∈ c'.others, P e) ∧ ∀ e ∈ c'.family, ∃ k, Q k e :=
    hfollow.invariant I P (fun e => ∃ k, Q k e) hI hP hQ harrive hother
      fun o s e s' out hs he hg heq =>
        ⟨(hbelow hs he hg heq).1, fun e' he' => ((hbelow hs he hg heq).2 e' he').1⟩
  have hms : Acc (Relation.TransGen (Relation.CutExpand r)) (c.family : Multiset ε) :=
    hr.cutExpand.transGen.apply _
  generalize hm : (c.family : Multiset ε) = m at hms
  induction hms generalizing c with
  | intro m _ ih =>
    refine Acc.intro _ fun c' hturn => ?_
    obtain @⟨o, s, s', others, p, q, out, e, hfollow, hg, heq⟩ := hturn
    obtain ⟨hs, hothers, hfamily⟩ := hkept hfollow hI hP hQ
    obtain ⟨hs', hothers', hfamily'⟩ := hkept (hfollow.member hg heq) hI hP hQ
    refine ih _ ?_ hs' hothers' hfamily' rfl
    rw [← hm]
    have hdown := hfollow.goesDown (r := r) fun o s s' others p q out e hprefix hg heq => by
      obtain ⟨hs, -, hfamily⟩ := hkept hprefix hI hP hQ
      exact fun e' he' => ((hbelow hs (hfamily e (by simp)) hg heq).2 e' he').2
    refine Relation.TransGen.head' (cutExpand_handled ?_) hdown
    exact fun e' he' => ((hbelow hs (hfamily e (by simp)) hg heq).2 e' he').2

/-- What happens while the family waits. -/
abbrev Awaits (h : Handler σ ε ω φ) (input : ε → Prop) (guard : ω → σ → ε → Prop) :
    Followed σ ε → Followed σ ε → Prop :=
  Follow h input guard fun _ _ _ => False

/-- While the family waits, the other messages make a run of their own. -/
theorem Follow.run_of_awaits {c c' : Followed σ ε} (hawaits : Awaits h input guard c c') :
    c'.family = c.family ∧ Run h input guard ⟨c.state, c.others⟩ ⟨c'.state, c'.others⟩ := by
  induction hawaits with
  | refl => exact ⟨rfl, .refl _⟩
  | arrive _ hin ih => exact ⟨ih.1, ih.2.arrive hin⟩
  | other _ hg heq ih => exact ⟨ih.1, ih.2.handle hg heq⟩
  | member _ hfalse => exact hfalse.elim

/-- In every run a family can wait. -/
theorem Run.awaited {c c' : Config σ ε} (hrun : Run h input guard c c') (family : List ε) :
    Follow h input guard own ⟨c.state, c.pending, family⟩ ⟨c'.state, c'.pending, family⟩ := by
  induction hrun with
  | refl => exact .refl _
  | arrive _ hin ih => exact ih.arrive hin
  | handle _ hg heq ih => exact ih.other hg heq

/-- The family waits until its first member is handled. -/
theorem Follow.first {c c' : Followed σ ε} (hfollow : Follow h input guard own c c') :
    Awaits h input guard c c' ∨ ∃ o s s' others p q out e,
      Awaits h input guard c ⟨s, others, p ++ e :: q⟩ ∧ own o s e ∧ h o s e = .ok (s', out) ∧
        Follow h input guard own ⟨s', others, p ++ q ++ out⟩ c' := by
  induction hfollow with
  | refl => exact .inl (.refl _)
  | arrive _ hin ih =>
    rcases ih with hawaits | ⟨o, s, s', others, p, q, out, e, hawaits, hg, heq, hrest⟩
    · exact .inl (hawaits.arrive hin)
    · exact .inr ⟨o, s, s', others, p, q, out, e, hawaits, hg, heq, hrest.arrive hin⟩
  | other _ hg' heq' ih =>
    rcases ih with hawaits | ⟨o, s, s', others, p, q, out, e, hawaits, hg, heq, hrest⟩
    · exact .inl (hawaits.other hg' heq')
    · exact .inr ⟨o, s, s', others, p, q, out, e, hawaits, hg, heq, hrest.other hg' heq'⟩
  | member _ hg' heq' ih =>
    rcases ih with hawaits | ⟨o, s, s', others, p, q, out, e, hawaits, hg, heq, hrest⟩
    · exact .inr ⟨_, _, _, _, _, _, _, _, hawaits, hg', heq', .refl _⟩
    · exact .inr ⟨o, s, s', others, p, q, out, e, hawaits, hg, heq, hrest.member hg' heq'⟩

/-- A family comes to an end when it does so after its first member is handled,
whenever that is. -/
theorem dies_of_first {c : Followed σ ε}
    (hfirst : ∀ o s s' others p q out e, Awaits h input guard c ⟨s, others, p ++ e :: q⟩ →
      own o s e → h o s e = .ok (s', out) → Dies h input guard own ⟨s', others, p ++ q ++ out⟩) :
    Dies h input guard own c := by
  refine Acc.intro _ fun c' hturn => ?_
  obtain @⟨o, s, s', others, p, q, out, e, hfollow, hg, heq⟩ := hturn
  rcases hfollow.first with hawaits | ⟨o₁, s₁, s₁', others₁, p₁, q₁, out₁, e₁, hawaits, hg₁, heq₁, hrest⟩
  · exact hfirst o s s' others p q out e hawaits hg heq
  · exact (hfirst o₁ s₁ s₁' others₁ p₁ q₁ out₁ e₁ hawaits hg₁ heq₁).inv (.member hrest hg heq)

/-- So for a family of one. -/
theorem dies_of_first_single {s : σ} {others : List ε} {e : ε}
    (hfirst : ∀ o s₁ others₁ s' out, Run h input guard ⟨s, others⟩ ⟨s₁, others₁⟩ → own o s₁ e →
      h o s₁ e = .ok (s', out) → Dies h input guard own ⟨s', others₁, out⟩) :
    Dies h input guard own ⟨s, others, [e]⟩ := by
  refine dies_of_first fun o s₁ s' others₁ p q out e₁ hawaits hg heq => ?_
  obtain ⟨hfamily, hrun⟩ := hawaits.run_of_awaits
  obtain ⟨rfl, rfl, rfl⟩ := eq_of_only hfamily
  exact hfirst o s₁ others₁ s' out hrun hg heq

/-- What comes of a family that comes to an end comes to an end. -/
theorem Dies.follow {c c' : Followed σ ε} (hdies : Dies h input guard own c)
    (hfollow : Follow h input guard own c c') : Dies h input guard own c' :=
  Acc.intro _ fun _ hturn => by
    cases hturn with
    | member hrest hg heq => exact hdies.inv (.member (hfollow.trans hrest) hg heq)

/-- A family that can always go on does not come to an end. -/
theorem not_dies_of_progress (X : Followed σ ε → Prop) (hX : ∀ c, X c → ∃ c', Turn h input guard own c c' ∧ X c')
    {c : Followed σ ε} (hc : X c) : ¬ Dies h input guard own c := by
  intro hdies
  induction hdies with
  | intro c _ ih =>
    obtain ⟨c', hturn, hc'⟩ := hX c hc
    exact ih c' hturn hc'

/-! ## Families that never fail -/

/-- However the run goes on, no member of the family is handled with a fault. -/
def Unfailing (h : Handler σ ε ω φ) (input : ε → Prop) (guard own : ω → σ → ε → Prop)
    (c : Followed σ ε) : Prop :=
  ∀ c', Follow h input guard own c c' → ∀ e ∈ c'.family, ∀ o, (h o c'.state e).Returns

/-- The rule for families that never fail: each member is one of a set of messages
that are handled without a fault, and only cause messages of the set. -/
theorem unfailing_of_closed (I : σ → Prop) (P Q : ε → Prop) (harrive : ∀ e, input e → P e)
    (hother : ∀ o s e s' out, I s → P e → guard o s e → h o s e = .ok (s', out) →
      I s' ∧ ∀ e' ∈ out, P e')
    (hmember : ∀ o s e, I s → Q e → (h o s e).Yields fun r => I r.1 ∧ ∀ e' ∈ r.2, Q e')
    {c : Followed σ ε} (hI : I c.state) (hP : ∀ e ∈ c.others, P e) (hQ : ∀ e ∈ c.family, Q e) :
    Unfailing h input guard own c := by
  intro c' hfollow e he o
  obtain ⟨hs, -, hfamily⟩ := hfollow.invariant I P Q hI hP hQ harrive hother
    fun o s e s' out hs he _ heq => by
      obtain ⟨r, hr, hclosed⟩ := hmember o s e hs he
      obtain rfl := Except.ok.inj (hr.symm.trans heq)
      exact hclosed
  exact (hmember o c'.state e hs (hfamily e he)).returns

/-- Some work that comes of a message stops with a fault. -/
inductive Breaks (h : Handler σ ε ω φ) : σ → ε → Prop
  | now {s : σ} {e : ε} (o : ω) : ¬ (h o s e).Returns → Breaks h s e
  | later {s s' : σ} {e e' : ε} {out : List ε} (o : ω) :
      h o s e = .ok (s', out) → e' ∈ out → Breaks h s' e' → Breaks h s e

/-- What does not stop returns. -/
theorem returns_of_not_breaks {s : σ} {e : ε} (hbreaks : ¬ Breaks h s e) (o : ω) : (h o s e).Returns :=
  by_contra fun hfails => hbreaks (.now o hfails)

/-- A family fails when something that comes of one of its members does. -/
theorem Breaks.not_unfailing {s : σ} {e : ε} (hbreaks : Breaks h s e) {others family : List ε}
    (he : e ∈ family) (hown : ∀ o s e, own o s e) :
    ¬ Unfailing h input guard own ⟨s, others, family⟩ := by
  intro hunfailing
  induction hbreaks generalizing family with
  | now o hfails => exact hfails (hunfailing _ (.refl _) _ he o)
  | @later s s' e e' out o heq hmem _ ih =>
    obtain ⟨p, q, rfl⟩ := List.append_of_mem he
    have he' : e' ∈ p ++ q ++ out := List.mem_append_right _ hmem
    refine ih he' fun c' hrest => ?_
    exact hunfailing c' (Follow.trans (.member (.refl _) (hown o s e) heq) hrest)

end Work
