-- SUMMARY: What a SQLite statement takes, gives back and can fail with.
import StreamCloud.Core.Fault
import StreamCloud.Library.Keyed
import Mathlib.Data.List.TakeWhile

/-!
# SQLite

A statement binds its parameters with their C strings, so that a text ends at
its first null character. `Text` is what a column can hold. A statement is run
or throws; that it throws is an outcome of the environment.
-/

namespace StreamCloud

/-- A text without null characters. -/
structure Text where
  val : String
  noNul : '\x00' ∉ val.toList
deriving DecidableEq

namespace Text

theorem ext {a b : Text} (h : a.val = b.val) : a = b := by
  cases a
  cases b
  simpa using h

/-- A parameter, bound as a C string. -/
def bind (s : String) : Text where
  val := String.ofList (s.toList.takeWhile (· ≠ '\x00'))
  noNul h := by
    rw [String.toList_ofList] at h
    simpa using List.mem_takeWhile_imp h

@[simp] theorem bind_val (t : Text) : bind t.val = t := by
  apply ext
  have htake : t.val.toList.takeWhile (· ≠ '\x00') = t.val.toList :=
    List.takeWhile_eq_self_iff.mpr fun c hc => by
      simpa using fun h : c = '\x00' => t.noNul (h ▸ hc)
  show String.ofList _ = t.val
  rw [htake, String.ofList_toList]

/-- A string without null characters is bound as it is. -/
theorem bind_eq_iff {s : String} {t : Text} (h : '\x00' ∉ s.toList) : bind s = t ↔ s = t.val := by
  constructor
  · rintro rfl
    exact (congrArg Text.val (bind_val ⟨s, h⟩)).symm
  · rintro rfl
    exact bind_val t

/-- What follows a text without null characters is bound as it would be alone. -/
theorem bind_append_val {a : String} (ha : '\x00' ∉ a.toList) (s : String) :
    (bind (a ++ s)).val = a ++ (bind s).val := by
  apply String.toList_inj.mp
  have htake : (a.toList ++ s.toList).takeWhile (· ≠ '\x00') =
      a.toList ++ s.toList.takeWhile (· ≠ '\x00') := by
    apply List.takeWhile_append_of_pos
    intro c hc
    exact decide_eq_true fun heq => ha (heq ▸ hc)
  simp only [bind, String.toList_append, String.toList_ofList]
  exact htake

/-- What follows a null character is not bound. -/
theorem bind_append_of_nul {a : String} (ha : '\x00' ∈ a.toList) (s : String) : bind (a ++ s) = bind a := by
  have htake : (a.toList ++ s.toList).takeWhile (· ≠ '\x00') = a.toList.takeWhile (· ≠ '\x00') := by
    rw [List.takeWhile_append, if_neg]
    intro hlength
    have hall := List.takeWhile_eq_self_iff.mp (List.takeWhile_sublist _ |>.eq_of_length hlength)
    simpa using hall _ ha
  apply ext
  simp only [bind, String.toList_append]
  rw [htake]

end Text

/-- The outcome of the statements of one handler: nothing, or what they throw. -/
abbrev Db := Option String

/-- Run a statement. -/
def Db.execute (db : Db) : Except Fault Unit :=
  match db with
  | none => .ok ()
  | some what => .error (.thrown what)

theorem Db.execute_eq_ok {db : Db} {u : Unit} : db.execute = .ok u ↔ db = none := by
  cases db <;> simp [Db.execute]

/-- What SQLite says about a key that is taken. -/
def constraintFailed : Fault := .thrown "constraint failed"

/-- `insert into`, for a table with a primary key. -/
def insertRow {ρ κ : Type} [DecidableEq κ] {key : ρ → κ} (t : Keyed ρ κ key) (r : ρ) :
    Except Fault (Keyed ρ κ key) :=
  match t.insert r with
  | some t' => .ok t'
  | none => .error constraintFailed

theorem insertRow_eq_ok {ρ κ : Type} [DecidableEq κ] {key : ρ → κ} {t t' : Keyed ρ κ key}
    {r : ρ} : insertRow t r = .ok t' ↔ t.insert r = some t' := by
  unfold insertRow
  split <;> simp_all

end StreamCloud
