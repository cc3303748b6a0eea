-- SUMMARY: The reactions of an actor, which are kept under the hashes of their names, and when the names tell them apart.
import StreamCloud.Core.Actor

/-!
# reactions

`stream-core/src/behavior/reactions.cpp` and `type_action.cpp`. The name of an action
is compared by its hash alone. So a key finds the action that was added first under
a name with its hash (`find_added`).
-/

namespace StreamCloud

variable {H β : Type}

/-- `type_action`: a name, and its hash. -/
structure TypeAction (H : Type) where
  body : String
  hash : H
deriving DecidableEq

namespace TypeAction

/-- The constructor, for the hash function of strings. -/
def new (hash : String → H) (token : String) : TypeAction H := { body := token, hash := hash token }

/-- `operator==`. -/
def equal [DecidableEq H] (t t' : TypeAction H) : Bool := t.hash = t'.hash

end TypeAction

/-- `abstract_action`. -/
structure AbstractAction (H β : Type) where
  name : TypeAction H
  invoke : β
deriving DecidableEq

namespace AbstractAction

def new (hash : String → H) (p : String × β) : AbstractAction H β :=
  { name := .new hash p.1, invoke := p.2 }

theorem new_injective {hash : String → H} {p q : String × β} (h : new hash p = new hash q) : p = q := by
  have hname : p.1 = q.1 := congrArg (fun aa => aa.name.body) h
  have hinvoke : p.2 = q.2 := congrArg AbstractAction.invoke h
  exact Prod.ext hname hinvoke

end AbstractAction

/-- `reactions`: the entries of the map. -/
abbrev Reactions (H β : Type) := List (TypeAction H × AbstractAction H β)

namespace Reactions

variable [DecidableEq H]

def find (r : Reactions H β) (key : TypeAction H) : Option (TypeAction H × AbstractAction H β) :=
  r.find? fun entry => entry.1.equal key

def emplace (r : Reactions H β) (key : TypeAction H) (aa : AbstractAction H β) : Reactions H β × Bool :=
  match r.find key with
  | none => (r ++ [(key, aa)], true)
  | some _ => (r, false)

def add (r : Reactions H β) (aa : AbstractAction H β) : Reactions H β × Bool :=
  match r.find aa.name with
  | none => r.emplace aa.name aa
  | some _ => (r, false)

/-- The action that is invoked for the command of a message. -/
def execute (hash : String → H) (r : Reactions H β) (command : TypeAction H) :
    Except Fault (AbstractAction H β) :=
  match r.find command with
  | some entry => .ok entry.2
  | none =>
    -- a command without an action is skipped
    match r.find (.new hash "skip") with
    | some entry => .ok entry.2
    | none => .error (.thrown "_Map_base::at")

/-- Actions, added one after the other. -/
def added (hash : String → H) (actions : List (String × β)) : Reactions H β :=
  actions.foldl (fun r p => (r.add (.new hash p)).1) []

variable {hash : String → H} {actions : List (String × β)} {token : String}

theorem added_append (p : String × β) :
    added hash (actions ++ [p]) = ((added hash actions).add (.new hash p)).1 := by
  simp [added]

/-- An action is refused where its name finds one. -/
theorem add_of_none {r : Reactions H β} {aa : AbstractAction H β} (h : r.find aa.name = none) :
    r.add aa = (r ++ [(aa.name, aa)], true) := by
  unfold add emplace
  rw [h]

theorem add_of_some {r : Reactions H β} {aa : AbstractAction H β}
    {entry : TypeAction H × AbstractAction H β} (h : r.find aa.name = some entry) :
    r.add aa = (r, false) := by
  unfold add
  rw [h]

/-- A name finds the first action whose name has the same hash. -/
theorem find_added (hash : String → H) (actions : List (String × β)) (token : String) :
    ((added hash actions).find (.new hash token)).map Prod.snd =
    (actions.find? fun p => hash p.1 = hash token).map (.new hash) := by
  induction actions using List.reverseRecOn generalizing token with
  | nil => rfl
  | append_singleton actions p ih =>
    rw [added_append, List.find?_append]
    have hp := ih p.1
    cases hfound : (added hash actions).find (.new hash p.1) with
    | none =>
      -- nothing has its hash, and it is put behind the others
      rw [add_of_none hfound]
      unfold find at ih ⊢
      rw [List.find?_append, Option.map_or, Option.map_or, ih]
      by_cases hhash : hash p.1 = hash token
      · simp [TypeAction.equal, AbstractAction.new, TypeAction.new, hhash]
      · simp [TypeAction.equal, AbstractAction.new, TypeAction.new, hhash]
    | some entry =>
      -- what has its hash is in front of it
      rw [add_of_some hfound, ih]
      by_cases hhash : hash p.1 = hash token
      · rw [hfound, hhash] at hp
        cases hsome : actions.find? fun q => hash q.1 = hash token with
        | none =>
          rw [hsome] at hp
          cases hp
        | some q => rfl
      · simp [hhash]

theorem find_added_eq_none :
    (added hash actions).find (.new hash token) = none ↔ ∀ p ∈ actions, hash p.1 ≠ hash token := by
  rw [← Option.map_eq_none_iff (f := Prod.snd), find_added, Option.map_eq_none_iff, List.find?_eq_none]
  simp

/-- An action is refused if one with its hash is there. -/
theorem add_eq_false_iff {p : String × β} :
    ((added hash actions).add (.new hash p)).2 = false ↔ ∃ q ∈ actions, hash q.1 = hash p.1 := by
  cases hfound : (added hash actions).find (.new hash p.1) with
  | none =>
    have hnone := find_added_eq_none.mp hfound
    rw [add_of_none hfound]
    simpa using hnone
  | some entry =>
    rw [add_of_some hfound]
    have hsome : ¬ ∀ q ∈ actions, hash q.1 ≠ hash p.1 := fun hnone => by
      rw [find_added_eq_none.mpr hnone] at hfound
      cases hfound
    push Not at hsome
    simpa using hsome

/-- What a command is for: the first action with a hash, or else the one with the hash
of `skip`. -/
theorem execute_added : execute hash (added hash actions) (.new hash token) =
    match (actions.find? fun p => hash p.1 = hash token).or
        (actions.find? fun p => hash p.1 = hash "skip") with
    | some p => .ok (.new hash p)
    | none => .error (.thrown "_Map_base::at") := by
  have hcommand := find_added hash actions token
  have hskip := find_added hash actions "skip"
  unfold execute
  cases hc : actions.find? fun p => hash p.1 = hash token with
  | some p =>
    rw [hc] at hcommand
    obtain ⟨entry, hentry, heq⟩ := Option.map_eq_some_iff.mp hcommand
    rw [hentry, Option.some_or]
    exact congrArg Except.ok heq
  | none =>
    rw [hc] at hcommand
    rw [Option.map_eq_none_iff.mp hcommand, Option.none_or]
    cases hs : actions.find? fun p => hash p.1 = hash "skip" with
    | some p =>
      rw [hs] at hskip
      obtain ⟨entry, hentry, heq⟩ := Option.map_eq_some_iff.mp hskip
      rw [hentry]
      exact congrArg Except.ok heq
    | none =>
      rw [hs] at hskip
      rw [Option.map_eq_none_iff.mp hskip]

end Reactions

end StreamCloud
