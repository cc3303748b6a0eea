-- SUMMARY: The groups of a program over their one storage, the calls on them, and that a call on one group is nothing to the others.
import StreamCloud.Core.AbstractGroup

/-!
# cooperation

`stream-core/src/environment/cooperation.cpp`. A program makes its groups one by
one and keeps each under the name of its actor. They share a storage, in which
every call that puts an actor into a group takes the next id.
-/

namespace StreamCloud

variable {α : Type}

structure Cooperation (α : Type) where
  storageSpace : StorageSpace α
  groups : AList fun _ : String => AbstractGroup

namespace Cooperation

def empty : Cooperation α := { storageSpace := .empty, groups := ∅ }

/-- A group whose name is taken is made, but not kept. -/
def createdGroup (name : α → String) (c : Cooperation α) (t : α) : Cooperation α × List (Envelope α) :=
  let (storageSpace, group, out) := AbstractGroup.new c.storageSpace t
  ({ storageSpace, groups := c.groups.emplace (name t) group }, out)

/-- The group that a reference of `created_group` is to. -/
def group (c : Cooperation α) (x : String) : Except Fault AbstractGroup :=
  match c.groups.lookup x with
  | some g => .ok g
  | none => .error .outOfRange

def add (c : Cooperation α) (x : String) (t : α) : Except Fault (Cooperation α × List (Envelope α)) := do
  let g ← c.group x
  let (storageSpace, g, out) ← g.add c.storageSpace t
  return ({ storageSpace, groups := c.groups.insert x g }, out)

def addShared (c : Cooperation α) (x : String) (t : α) :
    Except Fault (Cooperation α × List (Envelope α)) := do
  let g ← c.group x
  let (storageSpace, g, out) ← g.addShared c.storageSpace t
  return ({ storageSpace, groups := c.groups.insert x g }, out)

def join (c : Cooperation α) (x y : String) : Except Fault (List (Envelope α)) := do
  let g ← c.group x
  let other ← c.group y
  g.join c.storageSpace other

/-- `link`: two groups join each other. -/
def link (c : Cooperation α) (x y : String) : Except Fault (List (Envelope α)) := do
  let out ← c.join x y
  let out' ← c.join y x
  return out ++ out'

def send (c : Cooperation α) (x : String) (msg : Envelope α) :
    Except Fault (Cooperation α × Bool × List (Envelope α)) := do
  let g ← c.group x
  let (g, sent, out) ← g.send c.storageSpace msg
  return ({ c with groups := c.groups.insert x g }, sent, out)

def broadcast (c : Cooperation α) (x : String) (msg : Envelope α) :
    Except Fault (Bool × List (Envelope α)) := do
  let g ← c.group x
  g.broadcast c.storageSpace msg

/-- A call on a group of the program, which is named by its actor. -/
inductive Call (α : Type)
  | createdGroup (t : α)
  | add (x : String) (t : α)
  | addShared (x : String) (t : α)
  | join (x y : String)
  | link (x y : String)
  | send (x : String) (msg : Envelope α)
  | broadcast (x : String) (msg : Envelope α)

/-- A call, and the messages that it sends. -/
def perform (name : α → String) (c : Cooperation α) : Call α → Except Fault (Cooperation α × List (Envelope α))
  | .createdGroup t => .ok (c.createdGroup name t)
  | .add x t => c.add x t
  | .addShared x t => c.addShared x t
  | .join x y => do
    let out ← c.join x y
    return (c, out)
  | .link x y => do
    let out ← c.link x y
    return (c, out)
  | .send x msg => do
    let (c, _, out) ← c.send x msg
    return (c, out)
  | .broadcast x msg => do
    let (_, out) ← c.broadcast x msg
    return (c, out)

theorem group_eq_ok {c : Cooperation α} {x : String} {g : AbstractGroup} :
    c.group x = .ok g ↔ c.groups.lookup x = some g := by
  unfold group
  cases c.groups.lookup x <;> simp

end Cooperation

/-! ## What becomes of a group -/

namespace AbstractGroup

variable {s s' : StorageSpace α} {g g' other : AbstractGroup}

theorem ring_stored (hs : s.Indexed) (t : α) : g.ring (s.add t).1 = g.ring s := by
  unfold ring
  rw [hs.neighbours_add]

theorem ring_grown (hs : s.Indexed) (hg : g.Known s) (t : α) :
    g.ring (g.grown s t) = (g.ring s).grow s.actors.counter := by
  unfold ring
  rw [neighbours_grown hs hg]
  rfl

theorem ring_grown_other (hs : s.Indexed) (hother : other.Known s) (hne : g.entryPoint ≠ other.entryPoint)
    (t : α) : g.ring (other.grown s t) = g.ring s := by
  unfold ring grown
  rw [(hs.add t).neighbours_createLink (Nat.lt_succ_of_lt hother.entryPoint) (Nat.lt_succ_self _),
    if_neg hne, hs.neighbours_add]

/-- A group stays at its vertex, and its cursor has given turns to these vertices. -/
structure Follows (s : StorageSpace α) (g : AbstractGroup) (served : List ℕ) (s' : StorageSpace α)
    (g' : AbstractGroup) : Prop where
  entryPoint : g'.entryPoint = g.entryPoint
  represents : ∃ G, g'.Represents s' G
  turns : RoundRobin.Turns (g.ring s) served (g'.ring s')

namespace Represents

variable {G : Group α}

theorem follows (h : g.Represents s G) : g.Follows s [] s g := ⟨rfl, ⟨G, h⟩, .refl _⟩

theorem follows_stored (h : g.Represents s G) (hs : s.Indexed) (t : α) :
    g.Follows s [] (s.add t).1 g where
  entryPoint := rfl
  represents := ⟨G, h.stored hs t⟩
  turns := ring_stored (g := g) hs t ▸ .refl _

/-- The new member is not in the ring yet. -/
theorem follows_grown (h : g.Represents s G) (hs : s.Indexed) (t : α) :
    g.Follows s [] (g.grown s t) g where
  entryPoint := rfl
  represents := ⟨_, (h.add hs t).2⟩
  turns := by
    rw [ring_grown hs h.known]
    refine .grow (.refl _) fun hmem => ?_
    exact lt_irrefl _ (hs.neighbours_lt hmem)

theorem follows_grown_other (h : g.Represents s G) (hs : s.Indexed) (hother : other.Known s)
    (hne : g.entryPoint ≠ other.entryPoint) (t : α) : g.Follows s [] (other.grown s t) g where
  entryPoint := rfl
  represents := ⟨G, h.add_other hs hother hne t⟩
  turns := ring_grown_other (g := g) hs hother hne t ▸ .refl _

theorem follows_addShared (h : g.Represents s G) (hs : s.Indexed) (t : α) :
    g.Follows s [] (s.add t).1 { g with sharedPoint := g.sharedPoint ++ [s.actors.counter] } where
  entryPoint := rfl
  represents := ⟨_, (h.addShared hs t).2⟩
  turns := (h.follows_stored hs t).turns

theorem follows_send (h : g.Represents s G) {id : ℕ}
    (hid : (g.ring s).members[(g.ring s).cursor]? = some id) :
    g.Follows s [id] s { g with cursor := (g.ring s).next } where
  entryPoint := rfl
  represents := ⟨G, ⟨h.known.entryPoint, h.known.sharedPoint⟩, h.entryPoint, h.layer, h.sharedPoint⟩
  turns := .serve (.refl _) hid

end Represents

end AbstractGroup

end StreamCloud
