-- SUMMARY: When the reactions of an actor are told apart by their names, and that they are the reactions of a program then.
import StreamCloud.Core.Reactions

/-!
# Dispatch by name

A command is for the action that was added first under its name, and for `skip` if
there is none. The reactions compare hashes, so that this holds where no two names that
meet have one hash (`dispatch_iff`).
-/

namespace StreamCloud

namespace Reactions

variable {H β : Type} [DecidableEq H] {hash : String → H} {actions : List (String × β)} {c : String}

/-- The action that a command is for. -/
def due (actions : List (String × β)) (c : String) : Option (String × β) :=
  (actions.find? fun p => p.1 = c).or (actions.find? fun p => p.1 = "skip")

/-- Only an action whose name is there is refused, and the command is performed by the
action it is for. -/
structure ByName (hash : String → H) (actions : List (String × β)) (c : String) : Prop where
  refused : ∀ before p after, actions = before ++ p :: after →
    ((added hash before).add (.new hash p)).2 = false → p.1 ∈ before.map Prod.fst
  executed : ∃ p, due actions c = some p ∧ execute hash (added hash actions) (.new hash c) = .ok (.new hash p)

/-- The names of some actions have hashes of their own. -/
def Apart (hash : String → H) (actions : List (String × β)) : Prop :=
  ∀ p ∈ actions, ∀ q ∈ actions, hash p.1 = hash q.1 → p.1 = q.1

theorem find?_hash (hapart : Apart hash actions) {q : String × β} (hq : q ∈ actions) :
    (actions.find? fun p => hash p.1 = hash q.1) = actions.find? fun p => p.1 = q.1 := by
  apply List.find?_congr
  intro p hp
  simp only [decide_eq_decide]
  exact ⟨hapart p hp q hq, congrArg hash⟩

/-- Where only actions whose names are there are refused, names have hashes of their
own: of two names with one hash, the later one would have been refused. -/
theorem apart_of_refused
    (h : ∀ before p after, actions = before ++ p :: after →
      ((added hash before).add (.new hash p)).2 = false → p.1 ∈ before.map Prod.fst) :
    Apart hash actions := by
  induction actions using List.reverseRecOn with
  | nil => exact fun p hp => nomatch hp
  | append_singleton actions last ih =>
    have hbefore : Apart hash actions := ih fun before p after heq =>
      h before p (after ++ [last]) (by rw [heq, List.append_assoc, List.cons_append])
    have hlast : ∀ q ∈ actions, hash q.1 = hash last.1 → q.1 = last.1 := by
      intro q hq hhash
      obtain ⟨same, hsame, hname⟩ := List.mem_map.mp
        (h actions last [] rfl (add_eq_false_iff.mpr ⟨q, hq, hhash⟩))
      rw [← hname] at hhash ⊢
      exact hbefore q hq same hsame hhash
    intro p hp q hq hhash
    rcases List.mem_append.mp hp with hp | hp <;> rcases List.mem_append.mp hq with hq | hq
    · exact hbefore p hp q hq hhash
    · rw [List.mem_singleton.mp hq] at hhash ⊢
      exact hlast p hp hhash
    · rw [List.mem_singleton.mp hp] at hhash ⊢
      exact (hlast q hq hhash.symm).symm
    · rw [List.mem_singleton.mp hp, List.mem_singleton.mp hq]

theorem refused_of_apart (hapart : Apart hash actions) {before after : List (String × β)}
    {p : String × β} (heq : actions = before ++ p :: after)
    (hrefused : ((added hash before).add (.new hash p)).2 = false) : p.1 ∈ before.map Prod.fst := by
  obtain ⟨q, hq, hhash⟩ := add_eq_false_iff.mp hrefused
  subst heq
  have hname := hapart q (List.mem_append_left _ hq) p (by simp) hhash
  exact List.mem_map.mpr ⟨q, hq, hname⟩

/-- The name is there, or nothing but `skip` has its hash. -/
def Clear (hash : String → H) (actions : List (String × β)) (c : String) : Prop :=
  c ∈ actions.map Prod.fst ∨
    "skip" ∈ actions.map Prod.fst ∧ ∀ p ∈ actions, hash p.1 = hash c → p.1 = "skip"

theorem due_skip (hc : c ∉ actions.map Prod.fst) :
    due actions c = actions.find? fun p => p.1 = "skip" := by
  have hnone : (actions.find? fun p => p.1 = c) = none := by
    rw [List.find?_eq_none]
    intro p hp hname
    exact hc (List.mem_map.mpr ⟨p, hp, of_decide_eq_true hname⟩)
  rw [due, hnone, Option.none_or]

theorem executed_of_clear (hapart : Apart hash actions) (h : Clear hash actions c) :
    ∃ p, due actions c = some p ∧ execute hash (added hash actions) (.new hash c) = .ok (.new hash p) := by
  have hsome : ∀ n, n ∈ actions.map Prod.fst → ∃ p, (actions.find? fun p => p.1 = n) = some p ∧
      (actions.find? fun p => hash p.1 = hash n) = some p := by
    intro n hn
    obtain ⟨q, hq, rfl⟩ := List.mem_map.mp hn
    obtain ⟨p, hp⟩ := Option.isSome_iff_exists.mp
      (List.find?_isSome (p := fun p : String × β => decide (p.1 = q.1)).mpr ⟨q, hq, decide_eq_true rfl⟩)
    exact ⟨p, hp, (find?_hash hapart hq).trans hp⟩
  rw [execute_added]
  by_cases hc : c ∈ actions.map Prod.fst
  · obtain ⟨p, hp, hp'⟩ := hsome c hc
    exact ⟨p, by rw [due, hp, Option.some_or], by rw [hp', Option.some_or]⟩
  · obtain ⟨hskip, honly⟩ := h.resolve_left hc
    obtain ⟨p, hp, hp'⟩ := hsome "skip" hskip
    refine ⟨p, (due_skip hc).trans hp, ?_⟩
    cases hfound : actions.find? fun p => hash p.1 = hash c with
    | none => rw [Option.none_or, hp']
    | some q =>
      -- what has the hash of the command is `skip`, whose hash this is then
      have hhash : hash q.1 = hash c := by simpa using List.find?_some hfound
      have hname := honly q (List.mem_of_find?_eq_some hfound) hhash
      rw [hname] at hhash
      rw [← hhash, hp'] at hfound
      rw [Option.some_or, Option.some.inj hfound]

theorem clear_of_executed (hapart : Apart hash actions)
    (h : ∃ p, due actions c = some p ∧ execute hash (added hash actions) (.new hash c) = .ok (.new hash p)) :
    Clear hash actions c := by
  obtain ⟨p, hdue, hexecute⟩ := h
  by_cases hc : c ∈ actions.map Prod.fst
  · exact .inl hc
  · rw [due_skip hc] at hdue
    have hp : p.1 = "skip" := by simpa using List.find?_some hdue
    have hmem := List.mem_of_find?_eq_some hdue
    refine .inr ⟨List.mem_map.mpr ⟨p, hmem, hp⟩, fun q hq hhash => ?_⟩
    rw [execute_added] at hexecute
    cases hfound : actions.find? fun p => hash p.1 = hash c with
    | none => exact absurd (decide_eq_true hhash) (List.find?_eq_none.mp hfound q hq)
    | some q' =>
      rw [hfound, Option.some_or] at hexecute
      obtain rfl := AbstractAction.new_injective (Except.ok.inj hexecute)
      have hhash' : hash q'.1 = hash c := by simpa using List.find?_some hfound
      exact (hapart q hq q' hmem (hhash.trans hhash'.symm)).trans hp

/-- The reactions go by the names if and only if the names added have hashes of their
own and the command is one of them, or shares its hash with none of them but `skip`,
which is there. -/
theorem dispatch_iff : ByName hash actions c ↔ Apart hash actions ∧ Clear hash actions c := by
  constructor
  · intro h
    have hapart := apart_of_refused h.refused
    exact ⟨hapart, clear_of_executed hapart h.executed⟩
  · rintro ⟨hapart, hclear⟩
    exact ⟨fun before p after heq => refused_of_apart hapart heq, executed_of_clear hapart hclear⟩

/-- By the length of a name, `close` is refused because `write` is there, and a command
that nobody added is performed by `sync_contacts`. -/
theorem dispatch_collision :
    let actions := [("sync_contacts", 0), ("skip", 1), ("add_channel", 2), ("write", 3), ("close", 4)]
    ((added String.length (actions.take 4)).add (.new String.length ("close", 4))).2 = false ∧
      "close" ∉ (actions.take 4).map Prod.fst ∧
      due actions "subscriptions" = some ("skip", 1) ∧
      execute String.length (added String.length actions) (.new String.length "subscriptions") =
        .ok (.new String.length ("sync_contacts", 0)) ∧
      ¬ ByName String.length actions "subscriptions" := by
  refine ⟨by decide, by decide, by decide, by decide, fun h => ?_⟩
  obtain ⟨p, hdue, hexecute⟩ := h.executed
  obtain rfl := Option.some.inj (hdue.symm.trans (by decide : _ = some ("skip", 1)))
  exact absurd hexecute (by decide)

end Reactions

/-! ## The reactions of a program -/

namespace Program

variable {H α S : Type} [DecidableEq H] {hash : String → H} (P : Program α S) {a : α} {command : String}

theorem lookup_eq_find? {β : Type} (actions : List (String × β)) (name : String) :
    actions.lookup name = (actions.find? fun p => p.1 = name).map Prod.snd := by
  induction actions with
  | nil => rfl
  | cons p actions ih =>
    obtain ⟨command, action⟩ := p
    by_cases hname : command = name
    · simp [hname]
    · have hne : (name == command) = false := beq_false_of_ne (Ne.symm hname)
      simp [List.lookup_cons, hname, hne, ih]

/-- The reaction of a program is the action that a command is for. -/
theorem due_reactions (a : α) (command : String) :
    (Reactions.due (P.reactions a) command).map Prod.snd = some (P.reaction a command) := by
  have hskip : ((P.reactions a).find? fun p => p.1 = "skip").map Prod.snd = some .skip := by
    rw [← lookup_eq_find?]
    rfl
  unfold reaction Reactions.due
  rw [lookup_eq_find?]
  cases (P.reactions a).find? fun p => p.1 = command with
  | some p => rfl
  | none =>
    rw [Option.none_or, hskip]
    rfl

/-- Where hashes tell the names of an actor and a command apart, its reactions perform
what the program says. -/
theorem execute_reaction (hapart : Reactions.Apart hash (P.reactions a))
    (hclear : Reactions.Clear hash (P.reactions a) command) :
    ∃ aa, (Reactions.added hash (P.reactions a)).execute hash (.new hash command) = .ok aa ∧
      aa.invoke = P.reaction a command := by
  obtain ⟨p, hdue, hexecute⟩ := Reactions.executed_of_clear hapart hclear
  refine ⟨_, hexecute, ?_⟩
  have hreaction := P.due_reactions a command
  rw [hdue] at hreaction
  exact Option.some.inj hreaction

end Program

end StreamCloud
