-- SUMMARY: The storage of the groups: actors under the ids they were given, and the graph of their links.
import StreamCloud.Core.Fault
import StreamCloud.Library.Keyed
import StreamCloud.Library.SortedVector

/-!
# storage_space

`stream-core/src/environment/storage_space.cpp` and `adjacency_list.hpp`. All the
groups of a program share one storage. Vertices are put into their vector sorted
by id, but `lookup` takes an id for a position. `Indexed` is what makes it right:
the vertex at a position has this position as its id.

An id counts the actors of one storage, each of which is in memory, so that the
counter does not reach the end of its range.
-/

namespace StreamCloud

/-- `node`: a vertex, and the vertices that it is linked to. -/
structure Node where
  id : ℕ
  listVertex : List ℕ
deriving DecidableEq, Repr

namespace Node

/-- The constructor. -/
def new (id : ℕ) : Node := { id, listVertex := [] }

def add (node : Node) (id : ℕ) : Node :=
  if SortedVector.binarySearch (fun v => v) node.listVertex id then node
  else { node with listVertex := SortedVector.insertAt (fun v => v) node.listVertex id id }

/-- The links of a vertex are sorted, each of them once. -/
abbrev Sorted (node : Node) : Prop := SortedVector.Sorted (fun v => v) node.listVertex

@[simp] theorem id_add (node : Node) (id : ℕ) : (node.add id).id = node.id := by
  unfold add
  split <;> rfl

@[simp] theorem sorted_new (id : ℕ) : (new id).Sorted := SortedVector.sorted_nil

theorem Sorted.found_iff {node : Node} (h : node.Sorted) (id : ℕ) :
    SortedVector.binarySearch (fun v => v) node.listVertex id = true ↔ id ∈ node.listVertex := by
  rw [SortedVector.Sorted.binarySearch_iff h, List.map_id']

theorem Sorted.mem_add {node : Node} (h : node.Sorted) {id j : ℕ} :
    j ∈ (node.add id).listVertex ↔ j = id ∨ j ∈ node.listVertex := by
  unfold add
  split
  · next hfound =>
    have hmem : id ∈ node.listVertex := (h.found_iff id).mp hfound
    exact ⟨.inr, fun hj => hj.elim (fun heq => heq ▸ hmem) fun hj => hj⟩
  · exact SortedVector.mem_insertAt

theorem Sorted.add {node : Node} (h : node.Sorted) (id : ℕ) : (node.add id).Sorted := by
  unfold Node.add
  split
  · exact h
  · next hfound =>
    refine SortedVector.Sorted.insertAt h ?_
    rw [List.map_id']
    exact fun hmem => hfound ((h.found_iff id).mpr hmem)

/-- An id above those of the links is put behind them. -/
theorem add_of_above {node : Node} (h : node.Sorted) {id : ℕ} (hid : ∀ j ∈ node.listVertex, j < id) :
    (node.add id).listVertex = node.listVertex ++ [id] := by
  have hmem : id ∉ node.listVertex := fun hmem => lt_irrefl id (hid id hmem)
  unfold add
  rw [if_neg fun hfound => hmem ((h.found_iff id).mp hfound)]
  exact SortedVector.insertAt_of_above hid id

/-- Nothing that is done to the links of a vertex changes the ids. -/
theorem map_id_modify (ddd : List Node) (i : ℕ) {f : Node → Node} (hf : ∀ node, (f node).id = node.id) :
    (ddd.modify i f).map Node.id = ddd.map Node.id := by
  induction ddd generalizing i with
  | nil => simp
  | cons node ddd ih => cases i <;> simp [hf, ih]

theorem mem_modify {ddd : List Node} {i : ℕ} {f : Node → Node} {node : Node}
    (h : node ∈ ddd.modify i f) : node ∈ ddd ∨ ∃ before ∈ ddd, node = f before := by
  induction ddd generalizing i with
  | nil => simp at h
  | cons first ddd ih =>
    cases i with
    | zero =>
      rw [List.modify_zero_cons, List.mem_cons] at h
      rcases h with rfl | h
      · exact .inr ⟨first, List.mem_cons_self, rfl⟩
      · exact .inl (List.mem_cons_of_mem _ h)
    | succ i =>
      rw [List.modify_succ_cons, List.mem_cons] at h
      rcases h with rfl | h
      · exact .inl List.mem_cons_self
      · rcases ih h with h | ⟨before, hbefore, rfl⟩
        · exact .inl (List.mem_cons_of_mem _ h)
        · exact .inr ⟨before, List.mem_cons_of_mem _ hbefore, rfl⟩

end Node

/-- `stored_vertex`. -/
abbrev StoredVertex := List Node

namespace StoredVertex

def addVertex (ddd : StoredVertex) (id : ℕ) : StoredVertex :=
  if SortedVector.binarySearch Node.id ddd id then ddd
  else SortedVector.insertAt Node.id ddd id (Node.new id)

/-- `vector::at`, at the id. -/
def lookup (ddd : StoredVertex) (id : ℕ) : Except Fault Node :=
  match ddd[id]? with
  | some node => .ok node
  | none => .error (.thrown ("vector::_M_range_check: __n (which is " ++ toString id ++
      ") >= this->size() (which is " ++ toString ddd.length ++ ")"))

def addEdge (ddd : StoredVertex) (id₁ id₂ : ℕ) : StoredVertex :=
  let ddd :=
    -- the first vertex gets the link
    if SortedVector.binarySearch Node.id ddd id₁ then
      ddd.modify (SortedVector.lowerBound Node.id ddd id₁) fun node => node.add id₂
    else SortedVector.insertAt Node.id ddd id₁ ((Node.new id₁).add id₂)
  -- the second one only has to be there
  if SortedVector.binarySearch Node.id ddd id₂ then ddd
  else SortedVector.insertAt Node.id ddd id₂ (Node.new id₂)

end StoredVertex

/-- `storage`. -/
structure Storage (α : Type) where
  counter : ℕ
  body : AList fun _ : ℕ => α

namespace Storage

variable {α : Type}

def empty : Storage α := { counter := 0, body := ∅ }

def add (s : Storage α) (object : α) : Storage α × ℕ :=
  ({ counter := s.counter + 1, body := s.body.emplace s.counter object }, s.counter)

/-- `get_actor`, which throws what `unordered_map::at` throws. -/
def getActor (s : Storage α) (id : ℕ) : Except Fault α :=
  match s.body.lookup id with
  | some actor => .ok actor
  | none => .error (.thrown "_Map_base::at")

theorem getActor_eq_ok {s : Storage α} {id : ℕ} {t : α} :
    s.getActor id = .ok t ↔ s.body.lookup id = some t := by
  cases h : s.body.lookup id <;> simp [getActor, h]

end Storage

structure StorageSpace (α : Type) where
  actors : Storage α
  registry : StoredVertex

namespace StorageSpace

variable {α : Type}

def empty : StorageSpace α := { actors := .empty, registry := [] }

def add (s : StorageSpace α) (t : α) : StorageSpace α × ℕ :=
  let (actors, index) := s.actors.add t
  ({ actors, registry := s.registry.addVertex index }, index)

def createLink (s : StorageSpace α) (id id₁ : ℕ) : StorageSpace α :=
  { s with registry := s.registry.addEdge id id₁ }

def get (s : StorageSpace α) (id : ℕ) : Except Fault α := s.actors.getActor id

/-- `finding_adjacency` of the registry. -/
def findingAdjacency (s : StorageSpace α) (id : ℕ) : Except Fault (List ℕ) := do
  let node ← s.registry.lookup id
  return node.listVertex

def currentLayer (s : StorageSpace α) (id : ℕ) : Except Fault (List α) := do
  let allIdCurrentLayer ← s.findingAdjacency id
  allIdCurrentLayer.mapM s.actors.getActor

/-! ## Positions are ids -/

/-- The vertices are numbered from zero without a gap, each is at the position
that is its id and is linked to vertices there are, and each has an actor. -/
structure Indexed (s : StorageSpace α) : Prop where
  ids : s.registry.map Node.id = List.range s.actors.counter
  sorted : ∀ node ∈ s.registry, node.Sorted
  inside : ∀ node ∈ s.registry, ∀ j ∈ node.listVertex, j < s.actors.counter
  filled : ∀ id, id ∈ s.actors.body ↔ id < s.actors.counter

/-- The links of a vertex. -/
def neighbours (s : StorageSpace α) (i : ℕ) : List ℕ :=
  match s.registry[i]? with
  | some node => node.listVertex
  | none => []

variable {s : StorageSpace α}

theorem indexed_empty : (empty : StorageSpace α).Indexed where
  ids := rfl
  sorted := by simp [empty]
  inside := by simp [empty]
  filled := by simp [empty, Storage.empty]

namespace Indexed

theorem registry_length (h : s.Indexed) : s.registry.length = s.actors.counter := by
  have hlength := congrArg List.length h.ids
  rwa [List.length_map, List.length_range] at hlength

theorem registrySorted (h : s.Indexed) : SortedVector.Sorted Node.id s.registry := by
  rw [SortedVector.Sorted, h.ids]
  exact List.pairwise_lt_range

theorem found_iff (h : s.Indexed) {i : ℕ} :
    SortedVector.binarySearch Node.id s.registry i = true ↔ i < s.actors.counter := by
  rw [h.registrySorted.binarySearch_iff, h.ids, List.mem_range]

/-- The vertex at a position. -/
theorem exists_node (h : s.Indexed) {i : ℕ} (hi : i < s.actors.counter) :
    ∃ node, s.registry[i]? = some node ∧ node.id = i := by
  have hlength : i < s.registry.length := by rwa [h.registry_length]
  refine ⟨s.registry[i], List.getElem?_eq_getElem hlength, ?_⟩
  have hid := congrArg (fun l => l[i]?) h.ids
  simpa [hlength, hi] using hid

theorem lowerBound_eq (h : s.Indexed) {i : ℕ} (hi : i < s.actors.counter) :
    SortedVector.lowerBound Node.id s.registry i = i := by
  obtain ⟨node, hnode, rfl⟩ := h.exists_node hi
  exact h.registrySorted.lowerBound_eq hnode

theorem sorted_neighbours (h : s.Indexed) (i : ℕ) : (s.neighbours i).Pairwise (· < ·) := by
  unfold neighbours
  split
  · next node hnode => simpa [SortedVector.Sorted] using h.sorted node (List.mem_of_getElem? hnode)
  · exact List.Pairwise.nil

theorem neighbours_lt (h : s.Indexed) {i j : ℕ} (hj : j ∈ s.neighbours i) : j < s.actors.counter := by
  unfold neighbours at hj
  split at hj
  · next node hnode => exact h.inside node (List.mem_of_getElem? hnode) j hj
  · cases hj

theorem findingAdjacency_eq (h : s.Indexed) {i : ℕ} (hi : i < s.actors.counter) :
    s.findingAdjacency i = .ok (s.neighbours i) := by
  obtain ⟨node, hnode, -⟩ := h.exists_node hi
  simp only [findingAdjacency, StoredVertex.lookup, neighbours, hnode]
  rfl

theorem currentLayer_eq (h : s.Indexed) {i : ℕ} (hi : i < s.actors.counter) :
    s.currentLayer i = (s.neighbours i).mapM s.get := by
  rw [currentLayer, h.findingAdjacency_eq hi, Except.ok_bind']
  rfl

/-! ### Adding an actor -/

/-- The new vertex goes behind the others. -/
theorem registry_add (h : s.Indexed) (t : α) :
    (s.add t).1.registry = s.registry ++ [Node.new s.actors.counter] := by
  show s.registry.addVertex s.actors.counter = _
  unfold StoredVertex.addVertex
  rw [if_neg fun hfound => lt_irrefl _ (h.found_iff.mp hfound)]
  refine SortedVector.insertAt_of_above (fun node hnode => ?_) _
  have hid : node.id ∈ s.registry.map Node.id := List.mem_map_of_mem hnode
  rwa [h.ids, List.mem_range] at hid

protected theorem add (h : s.Indexed) (t : α) : (s.add t).1.Indexed where
  ids := by
    rw [h.registry_add, List.map_append, h.ids]
    exact List.range_succ.symm
  sorted node hnode := by
    rw [h.registry_add, List.mem_append, List.mem_singleton] at hnode
    rcases hnode with hnode | rfl
    · exact h.sorted node hnode
    · exact Node.sorted_new _
  inside node hnode j hj := by
    rw [h.registry_add, List.mem_append, List.mem_singleton] at hnode
    rcases hnode with hnode | rfl
    · exact Nat.lt_succ_of_lt (h.inside node hnode j hj)
    · cases hj
  filled id := by
    show id ∈ s.actors.body.emplace s.actors.counter t ↔ id < s.actors.counter + 1
    rw [AList.mem_emplace, h.filled id]
    omega

theorem neighbours_add (h : s.Indexed) (t : α) (i : ℕ) : (s.add t).1.neighbours i = s.neighbours i := by
  unfold neighbours
  rw [h.registry_add]
  rcases lt_trichotomy i s.registry.length with hlt | rfl | hgt
  · rw [List.getElem?_append_left hlt]
  · simp [Node.new]
  · have hbeyond : s.registry.length + 1 ≤ i := hgt
    rw [List.getElem?_eq_none (by simpa using hbeyond), List.getElem?_eq_none hgt.le]

/-- The actors that are there keep their ids. -/
theorem get_add (h : s.Indexed) (t : α) (i : ℕ) :
    (s.add t).1.get i = if i = s.actors.counter then .ok t else s.get i := by
  have hfresh : s.actors.counter ∉ s.actors.body := by
    rw [h.filled]
    exact lt_irrefl _
  show Storage.getActor ⟨_, s.actors.body.emplace s.actors.counter t⟩ i = _
  by_cases hi : i = s.actors.counter
  · subst hi
    rw [if_pos rfl, Storage.getActor_eq_ok, AList.lookup_emplace_self, AList.lookup_eq_none.mpr hfresh]
    rfl
  · rw [if_neg hi]
    simp only [get, Storage.getActor, AList.lookup_emplace_ne hi]

/-! ### Making a link -/

/-- Between two vertices that are there, only the links of the first one change. -/
theorem registry_createLink (h : s.Indexed) {i j : ℕ} (hi : i < s.actors.counter)
    (hj : j < s.actors.counter) :
    (s.createLink i j).registry = s.registry.modify i fun node => node.add j := by
  have hids := Node.map_id_modify s.registry i fun node => node.id_add j
  have hsorted : SortedVector.Sorted Node.id (s.registry.modify i fun node => node.add j) := by
    rw [SortedVector.Sorted, hids]
    exact h.registrySorted
  show s.registry.addEdge i j = _
  unfold StoredVertex.addEdge
  rw [if_pos (h.found_iff.mpr hi), h.lowerBound_eq hi]
  -- the second vertex is there, so that it is not put in again
  refine if_pos ?_
  rw [hsorted.binarySearch_iff, hids, h.ids, List.mem_range]
  exact hj

theorem neighbours_createLink (h : s.Indexed) {i j : ℕ} (hi : i < s.actors.counter)
    (hj : j < s.actors.counter) (k : ℕ) :
    (s.createLink i j).neighbours k =
      if k = i then ((Node.mk i (s.neighbours i)).add j).listVertex else s.neighbours k := by
  unfold neighbours
  rw [h.registry_createLink hi hj]
  by_cases hk : k = i
  · subst hk
    obtain ⟨node, hnode, rfl⟩ := h.exists_node hi
    simp only [List.getElem?_modify_eq, hnode, if_true]
    rfl
  · rw [List.getElem?_modify_ne _ _ (Ne.symm hk), if_neg hk]

protected theorem createLink (h : s.Indexed) {i j : ℕ} (hi : i < s.actors.counter)
    (hj : j < s.actors.counter) : (s.createLink i j).Indexed where
  ids := by
    rw [h.registry_createLink hi hj, Node.map_id_modify s.registry i fun node => node.id_add j]
    exact h.ids
  sorted node hnode := by
    rw [h.registry_createLink hi hj] at hnode
    rcases Node.mem_modify hnode with hnode | ⟨before, hbefore, rfl⟩
    · exact h.sorted node hnode
    · exact (h.sorted before hbefore).add j
  inside node hnode k hk := by
    rw [h.registry_createLink hi hj] at hnode
    rcases Node.mem_modify hnode with hnode | ⟨before, hbefore, rfl⟩
    · exact h.inside node hnode k hk
    · rcases (h.sorted before hbefore).mem_add.mp hk with rfl | hk
      · exact hj
      · exact h.inside before hbefore k hk
  filled := h.filled

theorem mem_neighbours_createLink (h : s.Indexed) {i j : ℕ} (hi : i < s.actors.counter)
    (hj : j < s.actors.counter) (k l : ℕ) :
    l ∈ (s.createLink i j).neighbours k ↔ k = i ∧ l = j ∨ l ∈ s.neighbours k := by
  rw [h.neighbours_createLink hi hj]
  split
  · next hk =>
    have hsorted : (Node.mk i (s.neighbours i)).Sorted := by
      simpa [SortedVector.Sorted] using h.sorted_neighbours i
    rw [hsorted.mem_add, hk]
    simp
  · next hk => simp [hk]

/-- A link to the vertex that came last is put behind the others. -/
theorem neighbours_createLink_last (h : s.Indexed) {i j : ℕ} (hi : i < s.actors.counter)
    (hj : j < s.actors.counter) (hlast : ∀ k ∈ s.neighbours i, k < j) :
    (s.createLink i j).neighbours i = s.neighbours i ++ [j] := by
  have hsorted : (Node.mk i (s.neighbours i)).Sorted := by
    simpa [SortedVector.Sorted] using h.sorted_neighbours i
  rw [h.neighbours_createLink hi hj, if_pos rfl, Node.add_of_above hsorted hlast]

end Indexed

end StorageSpace

end StreamCloud
