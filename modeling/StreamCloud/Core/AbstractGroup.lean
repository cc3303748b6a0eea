-- SUMMARY: Groups over a shared storage, the program that makes them, and that a group is its entry point, its layer and what it shares.
import StreamCloud.Core.StorageSpace
import StreamCloud.Core.Wiring
import StreamCloud.Library.RoundRobin

/-!
# abstract_group

`stream-core/src/environment/abstract_group.cpp` and `cooperation.cpp`. A group
names its actors by their ids in a storage that it shares with all other groups.
`Group` is what it is for (`Represents`), and `RoundRobin.Ring` what its cursor
goes round (`ring`).
-/

namespace StreamCloud

variable {α : Type}

structure AbstractGroup where
  cursor : ℕ
  entryPoint : ℕ
  sharedPoint : List ℕ
deriving DecidableEq, Repr

namespace AbstractGroup

/-- The constructor. The group keeps the storage, which is shared. -/
def new (s : StorageSpace α) (t : α) : StorageSpace α × AbstractGroup × List (Envelope α) :=
  let (s, entryPoint) := s.add t
  (s, { cursor := 0, entryPoint, sharedPoint := [] },
    [{ dest := t, sender := t, command := "add_channel", body := .channel }])

def add (s : StorageSpace α) (g : AbstractGroup) (t : α) :
    Except Fault (StorageSpace α × AbstractGroup × List (Envelope α)) := do
  let shared ← g.sharedPoint.mapM s.get
  let (s, index) := s.add t
  return (s.createLink g.entryPoint index, g, shared.map fun i => Group.introduction t t i)

def addShared (s : StorageSpace α) (g : AbstractGroup) (t : α) :
    Except Fault (StorageSpace α × AbstractGroup × List (Envelope α)) := do
  let (s, id) := s.add t
  let entryPoint ← s.get g.entryPoint
  let layer ← s.currentLayer g.entryPoint
  return (s, { g with sharedPoint := g.sharedPoint ++ [id] },
    (entryPoint :: layer).map fun i => Group.introduction i t t)

def join (s : StorageSpace α) (g other : AbstractGroup) : Except Fault (List (Envelope α)) := do
  let entryPoint ← s.get g.entryPoint
  let address ← s.get other.entryPoint
  let layer ← s.currentLayer g.entryPoint
  return (entryPoint :: layer).map fun i => Group.introduction i address address

/-- `send` takes a message without its address. The cursor is an index of
`operator[]`, which is not checked. -/
def send (s : StorageSpace α) (g : AbstractGroup) (msg : Envelope α) :
    Except Fault (AbstractGroup × Bool × List (Envelope α)) := do
  let tmpAddress ← s.currentLayer g.entryPoint
  if tmpAddress.isEmpty then
    return (g, false, [])
  else
    match tmpAddress[g.cursor]? with
    -- nothing checks that the cursor is inside
    | none => throw .outOfRange
    | some address =>
      let cursor := g.cursor + 1
      return ({ g with cursor := if tmpAddress.length ≤ cursor then 0 else cursor }, true,
        [{ msg with dest := address }])

def broadcast (s : StorageSpace α) (g : AbstractGroup) (msg : Envelope α) :
    Except Fault (Bool × List (Envelope α)) := do
  let tmpAddress ← s.currentLayer g.entryPoint
  return (!tmpAddress.isEmpty, tmpAddress.map fun address => { msg with dest := address })

end AbstractGroup

/-! ## Groups as they are meant -/

namespace StorageSpace

/-- The actors of a list of ids. -/
def Actors (s : StorageSpace α) (ids : List ℕ) (actors : List α) : Prop := ids.mapM s.get = .ok actors

variable {s s' : StorageSpace α} {ids ids' : List ℕ} {actors actors' : List α}

theorem actors_nil : s.Actors [] [] := rfl

theorem Actors.append (h : s.Actors ids actors) (h' : s.Actors ids' actors') :
    s.Actors (ids ++ ids') (actors ++ actors') := by
  unfold Actors at h h' ⊢
  rw [List.mapM_append, h, h']
  rfl

theorem actors_singleton {id : ℕ} {t : α} (h : s.get id = .ok t) : s.Actors [id] [t] := by
  unfold Actors
  rw [List.mapM_cons, h]
  rfl

theorem Actors.length_eq (h : s.Actors ids actors) : actors.length = ids.length := by
  induction ids generalizing actors with
  | nil =>
    cases h
    rfl
  | cons id ids ih =>
    unfold Actors at h
    simp only [List.mapM_cons, Except.bind_eq_ok] at h
    obtain ⟨t, -, rest, hrest, heq⟩ := h
    cases heq
    rw [List.length_cons, ih hrest, List.length_cons]

theorem Actors.get (h : s.Actors ids actors) {p : ℕ} {id : ℕ} (hid : ids[p]? = some id) :
    ∃ t, actors[p]? = some t ∧ s.get id = .ok t := by
  induction ids generalizing actors p with
  | nil => cases hid
  | cons first ids ih =>
    unfold Actors at h
    simp only [List.mapM_cons, Except.bind_eq_ok] at h
    obtain ⟨t, ht, rest, hrest, heq⟩ := h
    cases heq
    cases p with
    | zero =>
      rw [List.getElem?_cons_zero, Option.some.injEq] at hid
      exact ⟨t, rfl, hid ▸ ht⟩
    | succ p => exact ih hrest hid

/-- The actors that are there keep their ids. -/
theorem Actors.add (h : s.Actors ids actors) (hs : s.Indexed) (hids : ∀ id ∈ ids, id < s.actors.counter)
    (t : α) : (s.add t).1.Actors ids actors := by
  have hsame : ids.mapM (s.add t).1.get = ids.mapM s.get := by
    clear h
    induction ids with
    | nil => rfl
    | cons id ids ih =>
      rw [List.mapM_cons, List.mapM_cons, ih fun k hk => hids k (List.mem_cons_of_mem _ hk),
        hs.get_add, if_neg (hids id List.mem_cons_self).ne]
  exact hsame.trans h

end StorageSpace

namespace AbstractGroup

/-- The ids of a group are ids of the storage. -/
structure Known (s : StorageSpace α) (g : AbstractGroup) : Prop where
  entryPoint : g.entryPoint < s.actors.counter
  sharedPoint : ∀ id ∈ g.sharedPoint, id < s.actors.counter

theorem Known.createLink {s : StorageSpace α} {g : AbstractGroup} (h : g.Known s) (i j : ℕ) :
    g.Known (s.createLink i j) := ⟨h.entryPoint, h.sharedPoint⟩

/-- What the cursor goes round. -/
def ring (s : StorageSpace α) (g : AbstractGroup) : RoundRobin.Ring ℕ :=
  ⟨s.neighbours g.entryPoint, g.cursor⟩

/-- A group over a storage is the group that its ids stand for. -/
structure Represents (s : StorageSpace α) (g : AbstractGroup) (G : Group α) : Prop where
  known : g.Known s
  entryPoint : s.get g.entryPoint = .ok G.entryPoint
  layer : s.Actors (s.neighbours g.entryPoint) G.layer
  sharedPoint : s.Actors g.sharedPoint G.sharedPoint

variable {s : StorageSpace α} {g other : AbstractGroup} {G Other : Group α}

namespace Represents

theorem currentLayer (h : g.Represents s G) (hs : s.Indexed) :
    s.currentLayer g.entryPoint = .ok G.layer :=
  (hs.currentLayer_eq h.known.entryPoint).trans h.layer

/-- An actor more in the storage is nothing to a group. -/
theorem stored (h : g.Represents s G) (hs : s.Indexed) (t : α) : g.Represents (s.add t).1 G where
  known := ⟨Nat.lt_succ_of_lt h.known.entryPoint, fun id hid => Nat.lt_succ_of_lt (h.known.sharedPoint id hid)⟩
  entryPoint := by
    rw [hs.get_add, if_neg h.known.entryPoint.ne]
    exact h.entryPoint
  layer := by
    rw [hs.neighbours_add]
    exact h.layer.add hs (fun id hid => hs.neighbours_lt hid) t
  sharedPoint := h.sharedPoint.add hs h.known.sharedPoint t

/-- Nor is a link of another vertex. -/
theorem linked (h : g.Represents s G) (hs : s.Indexed) {i j : ℕ} (hi : i < s.actors.counter)
    (hj : j < s.actors.counter) (hne : g.entryPoint ≠ i) : g.Represents (s.createLink i j) G where
  known := h.known.createLink i j
  entryPoint := h.entryPoint
  layer := by
    rw [hs.neighbours_createLink hi hj, if_neg hne]
    exact h.layer
  sharedPoint := h.sharedPoint

end Represents

theorem new_represents (hs : s.Indexed) (t : α) :
    (new s t).2.1.Represents (new s t).1 (Group.new t).1 where
  known := ⟨Nat.lt_succ_self _, by simp [new]⟩
  entryPoint := (hs.get_add t s.actors.counter).trans (if_pos rfl)
  layer := by
    have hnone : s.neighbours s.actors.counter = [] := by
      rw [StorageSpace.neighbours, List.getElem?_eq_none hs.registry_length.le]
    show (s.add t).1.Actors ((s.add t).1.neighbours s.actors.counter) []
    rw [hs.neighbours_add, hnone]
    exact StorageSpace.actors_nil
  sharedPoint := StorageSpace.actors_nil

/-- The storage behind `add`. -/
def grown (s : StorageSpace α) (g : AbstractGroup) (t : α) : StorageSpace α :=
  (s.add t).1.createLink g.entryPoint s.actors.counter

theorem grown_indexed (hs : s.Indexed) (hg : g.Known s) (t : α) : (g.grown s t).Indexed :=
  (hs.add t).createLink (Nat.lt_succ_of_lt hg.entryPoint) (Nat.lt_succ_self _)

/-- A new member goes behind the others. -/
theorem neighbours_grown (hs : s.Indexed) (hg : g.Known s) (t : α) :
    (g.grown s t).neighbours g.entryPoint = s.neighbours g.entryPoint ++ [s.actors.counter] := by
  unfold grown
  rw [(hs.add t).neighbours_createLink_last (Nat.lt_succ_of_lt hg.entryPoint) (Nat.lt_succ_self _),
    hs.neighbours_add]
  intro k hk
  rw [hs.neighbours_add] at hk
  exact hs.neighbours_lt hk

namespace Represents

/-- `add`, on the group that is meant. -/
theorem add (h : g.Represents s G) (hs : s.Indexed) (t : α) :
    g.add s t = .ok (g.grown s t, g, (G.add t).2) ∧ g.Represents (g.grown s t) (G.add t).1 := by
  constructor
  · unfold AbstractGroup.add
    rw [show g.sharedPoint.mapM s.get = .ok G.sharedPoint from h.sharedPoint]
    rfl
  · have hstored := h.stored hs t
    refine ⟨hstored.known.createLink _ _, hstored.entryPoint, ?_, hstored.sharedPoint⟩
    rw [neighbours_grown hs h.known]
    -- the actor has the next id, which goes behind those of the layer
    have hnew : (s.add t).1.get s.actors.counter = .ok t := (hs.get_add t _).trans (if_pos rfl)
    have hlayer := hstored.layer.append (StorageSpace.actors_singleton hnew)
    rw [hs.neighbours_add] at hlayer
    exact hlayer

/-- `add` of another group. -/
theorem add_other (h : g.Represents s G) (hs : s.Indexed) (hother : other.Known s)
    (hne : g.entryPoint ≠ other.entryPoint) (t : α) : g.Represents (other.grown s t) G :=
  (h.stored hs t).linked (hs.add t) (Nat.lt_succ_of_lt hother.entryPoint) (Nat.lt_succ_self _) hne

/-- `add_shared`, on the group that is meant. -/
theorem addShared (h : g.Represents s G) (hs : s.Indexed) (t : α) :
    g.addShared s t = .ok ((s.add t).1, { g with sharedPoint := g.sharedPoint ++ [s.actors.counter] },
      (G.addShared t).2) ∧
    ({ g with sharedPoint := g.sharedPoint ++ [s.actors.counter] } : AbstractGroup).Represents
      (s.add t).1 (G.addShared t).1 := by
  have hstored := h.stored hs t
  constructor
  · unfold AbstractGroup.addShared
    show ((s.add t).1.get g.entryPoint >>= fun entryPoint =>
      (s.add t).1.currentLayer g.entryPoint >>= fun layer => _) = _
    rw [hstored.entryPoint, Except.ok_bind', hstored.currentLayer (hs.add t)]
    rfl
  · have hnew : (s.add t).1.get s.actors.counter = .ok t := (hs.get_add t _).trans (if_pos rfl)
    refine ⟨⟨hstored.known.entryPoint, fun id hid => ?_⟩, hstored.entryPoint, hstored.layer,
      hstored.sharedPoint.append (StorageSpace.actors_singleton hnew)⟩
    rcases List.mem_append.mp hid with hid | hid
    · exact hstored.known.sharedPoint id hid
    · rw [List.mem_singleton.mp hid]
      exact Nat.lt_succ_self _

/-- `join`, on the groups that are meant. -/
theorem join (h : g.Represents s G) (hother : other.Represents s Other) (hs : s.Indexed) :
    g.join s other = .ok (G.join Other) := by
  unfold AbstractGroup.join
  rw [h.entryPoint, Except.ok_bind', hother.entryPoint, Except.ok_bind', h.currentLayer hs]
  rfl

/-- A turn of the cursor: the message goes to the actor of the vertex it stands at. -/
theorem send (h : g.Represents s G) (hs : s.Indexed) (msg : Envelope α) {id : ℕ}
    (hid : (g.ring s).members[(g.ring s).cursor]? = some id) :
    ∃ address, s.get id = .ok address ∧
      g.send s msg = .ok ({ g with cursor := (g.ring s).next }, true, [{ msg with dest := address }]) := by
  obtain ⟨address, haddress, hget⟩ := h.layer.get hid
  have hlength : G.layer.length = (g.ring s).members.length := h.layer.length_eq
  refine ⟨address, hget, ?_⟩
  have hne : G.layer.isEmpty = false := by
    rw [List.isEmpty_eq_false_iff]
    exact List.ne_nil_of_mem (List.mem_of_getElem? haddress)
  unfold AbstractGroup.send
  rw [h.currentLayer hs, Except.ok_bind', hne]
  simp only [Bool.false_eq_true, if_false]
  rw [show G.layer[g.cursor]? = some address from haddress]
  show Except.ok _ = _
  rw [RoundRobin.Ring.next, ← hlength]
  rfl

/-- Nothing is sent while nobody is there. -/
theorem send_nobody (h : g.Represents s G) (hs : s.Indexed) (msg : Envelope α)
    (hnone : (g.ring s).members = []) : g.send s msg = .ok (g, false, []) := by
  have hlayer : G.layer = [] := by
    rw [← List.length_eq_zero_iff, h.layer.length_eq]
    exact List.length_eq_zero_iff.mpr hnone
  unfold AbstractGroup.send
  rw [h.currentLayer hs, hlayer]
  rfl

theorem broadcast (h : g.Represents s G) (hs : s.Indexed) (msg : Envelope α) :
    g.broadcast s msg = .ok (!G.layer.isEmpty, G.layer.map fun address => { msg with dest := address }) := by
  unfold AbstractGroup.broadcast
  rw [h.currentLayer hs]
  rfl

end Represents

end AbstractGroup

end StreamCloud
