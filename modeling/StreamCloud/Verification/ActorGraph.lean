-- SUMMARY: The graph of the actors: who is stored under an id, and whom the layer of a vertex holds.
import StreamCloud.Core.StorageSpace

/-!
# The graph of the actors

What `get` and `current_layer` give back is told from the calls alone: the actors
with the ids that `add` returned for them, and the links that were made between
such ids. That positions are ids (`Indexed`) is what every call keeps.
-/

namespace StreamCloud

namespace StorageSpace

variable {α : Type}

/-- The storage that a sequence of calls leads to. `added` holds the ids that `add`
returned, each with its actor, and `links` the arguments of `create_link`, which
are ids that were returned before. -/
inductive Built : StorageSpace α → List (ℕ × α) → List (ℕ × ℕ) → Prop
  | new : Built empty [] []
  | add {s : StorageSpace α} {added : List (ℕ × α)} {links : List (ℕ × ℕ)} (t : α) :
      Built s added links → Built (s.add t).1 (added ++ [((s.add t).2, t)]) links
  | createLink {s : StorageSpace α} {added : List (ℕ × α)} {links : List (ℕ × ℕ)} {i j : ℕ} :
      Built s added links → i ∈ added.map Prod.fst → j ∈ added.map Prod.fst →
      Built (s.createLink i j) added (links ++ [(i, j)])

/-- What the calls have made of a storage. -/
structure Holds (s : StorageSpace α) (added : List (ℕ × α)) (links : List (ℕ × ℕ)) : Prop where
  indexed : s.Indexed
  ids : added.map Prod.fst = List.range s.actors.counter
  found : ∀ p ∈ added, s.get p.1 = .ok p.2
  linked : ∀ i j, j ∈ s.neighbours i ↔ (i, j) ∈ links

variable {s : StorageSpace α} {added : List (ℕ × α)} {links : List (ℕ × ℕ)}

namespace Holds

theorem mem_ids (h : s.Holds added links) {i : ℕ} :
    i ∈ added.map Prod.fst ↔ i < s.actors.counter := by
  rw [h.ids, List.mem_range]

protected theorem empty : (empty : StorageSpace α).Holds [] [] where
  indexed := indexed_empty
  ids := rfl
  found := by simp
  linked := by simp [neighbours, StorageSpace.empty]

protected theorem add (h : s.Holds added links) (t : α) :
    (s.add t).1.Holds (added ++ [((s.add t).2, t)]) links where
  indexed := h.indexed.add t
  ids := by
    rw [List.map_append, h.ids]
    exact List.range_succ.symm
  found p hp := by
    rw [h.indexed.get_add]
    rcases List.mem_append.mp hp with hp | hp
    · -- the ids that were returned before are below the new one
      have hbelow : p.1 < s.actors.counter := h.mem_ids.mp (List.mem_map_of_mem hp)
      rw [if_neg hbelow.ne]
      exact h.found p hp
    · rw [List.mem_singleton.mp hp]
      exact if_pos rfl
  linked i j := by
    rw [h.indexed.neighbours_add]
    exact h.linked i j

protected theorem createLink (h : s.Holds added links) {i j : ℕ} (hi : i ∈ added.map Prod.fst)
    (hj : j ∈ added.map Prod.fst) : (s.createLink i j).Holds added (links ++ [(i, j)]) where
  indexed := h.indexed.createLink (h.mem_ids.mp hi) (h.mem_ids.mp hj)
  ids := h.ids
  found := h.found
  linked k l := by
    rw [h.indexed.mem_neighbours_createLink (h.mem_ids.mp hi) (h.mem_ids.mp hj), h.linked,
      List.mem_append, List.mem_singleton, Prod.mk.injEq, or_comm]

end Holds

theorem Built.holds (h : Built s added links) : s.Holds added links := by
  induction h with
  | new => exact .empty
  | add t _ ih => exact ih.add t
  | createLink _ hi hj ih => exact ih.createLink hi hj

/-- The actors of a list of ids that were returned. -/
theorem Holds.mapM_get (h : s.Holds added links) {ids : List ℕ} (hids : ∀ j ∈ ids, j < s.actors.counter) :
    ∃ layer, ids.mapM s.get = .ok layer ∧ List.Forall₂ (fun j t => (j, t) ∈ added) ids layer := by
  induction ids with
  | nil => exact ⟨[], rfl, .nil⟩
  | cons j ids ih =>
    obtain ⟨layer, hlayer, hactors⟩ := ih fun k hk => hids k (List.mem_cons_of_mem _ hk)
    obtain ⟨p, hp, hj⟩ := List.mem_map.mp (h.mem_ids.mpr (hids j List.mem_cons_self))
    have hget : s.get j = .ok p.2 := hj ▸ h.found p hp
    have hmem : (j, p.2) ∈ added := hj ▸ hp
    refine ⟨p.2 :: layer, ?_, .cons hmem hactors⟩
    rw [List.mapM_cons, hget, hlayer]
    rfl

/-- Every actor is found under the id that was returned for it, and ids are not
returned twice. The layer of a vertex is there, and holds the actors of the ids it
was linked to: in the order of the ids, each of them once. -/
theorem actor_graph (h : Built s added links) :
    (added.map Prod.fst).Nodup ∧ (∀ p ∈ added, s.get p.1 = .ok p.2) ∧
      ∀ i ∈ added.map Prod.fst, ∃ ids layer, s.currentLayer i = .ok layer ∧
        ids.Pairwise (· < ·) ∧ (∀ j, j ∈ ids ↔ (i, j) ∈ links) ∧
        List.Forall₂ (fun j t => (j, t) ∈ added) ids layer := by
  have hholds := h.holds
  refine ⟨hholds.ids ▸ List.nodup_range, hholds.found, ?_⟩
  intro i hi
  obtain ⟨layer, hlayer, hactors⟩ := hholds.mapM_get fun j hj => hholds.indexed.neighbours_lt hj
  refine ⟨s.neighbours i, layer, ?_, hholds.indexed.sorted_neighbours i, hholds.linked i, hactors⟩
  rw [hholds.indexed.currentLayer_eq (hholds.mem_ids.mp hi), hlayer]

/-- Three actors, linked backwards, twice and to themselves. -/
theorem actor_graph_threeActors :
    ∃ s : StorageSpace String, Built s [(0, "a"), (1, "b"), (2, "c")] [(0, 2), (0, 0), (2, 1), (0, 2)] ∧
      s.currentLayer 0 = .ok ["a", "c"] ∧
      ∃ ids layer, s.currentLayer 0 = .ok layer ∧ ids.Pairwise (· < ·) ∧
        (∀ j, j ∈ ids ↔ (0, j) ∈ [(0, 2), (0, 0), (2, 1), (0, 2)]) ∧
        List.Forall₂ (fun j t => (j, t) ∈ [(0, "a"), (1, "b"), (2, "c")]) ids layer := by
  have hbuilt : Built (α := String) _ _ _ := ((((Built.new.add "a").add "b").add "c").createLink
    (i := 0) (j := 2) (by decide) (by decide)).createLink (i := 0) (j := 0) (by decide) (by decide)
      |>.createLink (i := 2) (j := 1) (by decide) (by decide)
      |>.createLink (i := 0) (j := 2) (by decide) (by decide)
  exact ⟨_, hbuilt, by decide, (actor_graph hbuilt).2.2 0 (by decide)⟩

end StorageSpace

end StreamCloud
