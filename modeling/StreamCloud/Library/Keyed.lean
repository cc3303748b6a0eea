-- SUMMARY: Stores with unique keys: maps that keep the first value put under a key, and tables with a primary key.
import Mathlib.Data.List.AList

/-!
# Keyed stores

`AList.emplace` inserts only under a key that is not there yet. `Keyed` is a
table whose rows are told apart by a key: the field `nodup` makes a table with
two rows of one key impossible to build.
-/

/-! ## Maps -/

namespace AList

variable {κ β : Type*} [DecidableEq κ]

/-- Insert, unless the key is there already. -/
def emplace (m : AList fun _ : κ => β) (k : κ) (v : β) : AList fun _ : κ => β :=
  if k ∈ m then m else m.insert k v

theorem lookup_emplace_self (m : AList fun _ : κ => β) (k : κ) (v : β) :
    (m.emplace k v).lookup k = some ((m.lookup k).getD v) := by
  unfold emplace
  split
  · next hmem =>
    obtain ⟨w, hw⟩ := Option.isSome_iff_exists.mp (lookup_isSome.mpr hmem)
    simp [hw]
  · next hmem => simp [lookup_eq_none.mpr hmem]

theorem lookup_emplace_ne {m : AList fun _ : κ => β} {k k' : κ} {v : β} (h : k' ≠ k) :
    (m.emplace k v).lookup k' = m.lookup k' := by
  unfold emplace
  split
  · rfl
  · exact lookup_insert_ne h

@[simp] theorem mem_emplace {m : AList fun _ : κ => β} {k k' : κ} {v : β} :
    k' ∈ m.emplace k v ↔ k' = k ∨ k' ∈ m := by
  unfold emplace
  split
  · next hmem =>
    refine ⟨.inr, ?_⟩
    rintro (rfl | h)
    · exact hmem
    · exact h
  · exact mem_insert m

end AList

/-! ## Tables -/

/-- A table with primary key `key`. -/
structure Keyed (ρ κ : Type*) (key : ρ → κ) where
  rows : List ρ
  nodup : (rows.map key).Nodup

namespace Keyed

variable {ρ κ : Type*} [DecidableEq κ] {key : ρ → κ}

def empty : Keyed ρ κ key := ⟨[], List.nodup_nil⟩

/-- The row of a key. -/
def find? (t : Keyed ρ κ key) (k : κ) : Option ρ := t.rows.find? fun r => key r = k

/-- Insert a row, unless its key is taken. -/
def insert (t : Keyed ρ κ key) (r : ρ) : Option (Keyed ρ κ key) :=
  if h : key r ∈ t.rows.map key then none
  else some ⟨t.rows ++ [r], by
    simpa [List.nodup_append, t.nodup] using fun x hx heq => h (List.mem_map.mpr ⟨x, hx, heq⟩)⟩

/-- Delete the rows that satisfy `p`. -/
def delete (t : Keyed ρ κ key) (p : ρ → Bool) : Keyed ρ κ key :=
  ⟨t.rows.filter fun r => !p r, t.nodup.sublist ((List.filter_sublist).map key)⟩

/-- The row found under a key is a row of the table and has that key. -/
theorem mem_of_find? {t : Keyed ρ κ key} {k : κ} {r : ρ} (h : t.find? k = some r) :
    r ∈ t.rows ∧ key r = k :=
  ⟨List.mem_of_find?_eq_some h, by simpa using List.find?_some h⟩

theorem find?_eq_some_iff {t : Keyed ρ κ key} {k : κ} {r : ρ} :
    t.find? k = some r ↔ r ∈ t.rows ∧ key r = k := by
  refine ⟨mem_of_find?, fun ⟨hmem, hkey⟩ => ?_⟩
  have hsome : (t.find? k).isSome := List.find?_isSome.mpr ⟨r, hmem, decide_eq_true hkey⟩
  obtain ⟨found, hfound⟩ := Option.isSome_iff_exists.mp hsome
  obtain ⟨hmem', hkey'⟩ := mem_of_find? hfound
  have heq : found = r := List.inj_on_of_nodup_map t.nodup hmem' hmem (hkey'.trans hkey.symm)
  rw [hfound, heq]

theorem find?_eq_none_iff {t : Keyed ρ κ key} {k : κ} :
    t.find? k = none ↔ ∀ r ∈ t.rows, key r ≠ k := by
  simp [find?]

omit [DecidableEq κ] in
@[simp] theorem mem_delete {t : Keyed ρ κ key} {p : ρ → Bool} {r : ρ} :
    r ∈ (t.delete p).rows ↔ r ∈ t.rows ∧ p r = false := by
  simp [delete]

/-- An insertion that succeeds adds exactly the new row. -/
theorem mem_of_insert {t t' : Keyed ρ κ key} {r : ρ} (h : t.insert r = some t') (r' : ρ) :
    r' ∈ t'.rows ↔ r' ∈ t.rows ∨ r' = r := by
  unfold insert at h
  split at h
  · cases h
  · cases h; simp

theorem insert_eq_none {t : Keyed ρ κ key} {r : ρ} : t.insert r = none ↔ ∃ r' ∈ t.rows, key r' = key r := by
  unfold insert
  split
  · next h => simpa using List.mem_map.mp h
  · next h => simpa using fun r' hr' heq => h (List.mem_map.mpr ⟨r', hr', heq⟩)

/-- The key of a row that was inserted was not taken. -/
theorem key_ne_of_insert {t t' : Keyed ρ κ key} {r : ρ} (h : t.insert r = some t') {r' : ρ}
    (hr' : r' ∈ t.rows) : key r' ≠ key r := by
  intro heq
  rw [insert_eq_none.mpr ⟨r', hr', heq⟩] at h
  cases h

end Keyed
