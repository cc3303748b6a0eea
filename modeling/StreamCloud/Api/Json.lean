-- SUMMARY: JSON values, maps sorted by key, and the accessors that throw on another type.
import StreamCloud.Core.Fault
import StreamCloud.Library.Floating

/-!
# JSON values

`api::json::value` is a variant, and `api::json::map` wraps a `std::map`, which
keeps its members sorted by key. The accessors follow `value.hpp` and `map.hpp`:
`operator[]` of a map gives the null value under a key that is not there, and
`as` throws on another alternative than the one asked for.
-/

namespace StreamCloud

/-- `float_t`, a `double`. -/
abbrev Double := Floating .binary64

/-- `json_value`, one constructor for each alternative of the variant. -/
inductive JsonValue
  | null
  | integer (i : Int)
  | real (x : Double)
  | boolean (b : Bool)
  | string (s : String)
  | map (members : List (String × JsonValue))
  | array (elements : List JsonValue)

/-- The members of an object, in the order of their keys. -/
abbrev JsonMap := List (String × JsonValue)

abbrev JsonArray := List JsonValue

/-! ## Equality -/

mutual
private def JsonValue.decEq : (v w : JsonValue) → Decidable (v = w)
  | .null, .null => isTrue rfl
  | .integer i, .integer j => decidable_of_iff (i = j) (by simp)
  | .real i, .real j => decidable_of_iff (i = j) (by simp)
  | .boolean i, .boolean j => decidable_of_iff (i = j) (by simp)
  | .string i, .string j => decidable_of_iff (i = j) (by simp)
  | .map m, .map n => have := decEqMembers m n; decidable_of_iff (m = n) (by simp)
  | .array a, .array b => have := decEqElements a b; decidable_of_iff (a = b) (by simp)
  | .null, .integer _ | .null, .real _ | .null, .boolean _ | .null, .string _ | .null, .map _
  | .null, .array _ | .integer _, .null | .integer _, .real _ | .integer _, .boolean _
  | .integer _, .string _ | .integer _, .map _ | .integer _, .array _ | .real _, .null
  | .real _, .integer _ | .real _, .boolean _ | .real _, .string _ | .real _, .map _
  | .real _, .array _ | .boolean _, .null | .boolean _, .integer _ | .boolean _, .real _
  | .boolean _, .string _ | .boolean _, .map _ | .boolean _, .array _ | .string _, .null
  | .string _, .integer _ | .string _, .real _ | .string _, .boolean _ | .string _, .map _
  | .string _, .array _ | .map _, .null | .map _, .integer _ | .map _, .real _ | .map _, .boolean _
  | .map _, .string _ | .map _, .array _ | .array _, .null | .array _, .integer _ | .array _, .real _
  | .array _, .boolean _ | .array _, .string _ | .array _, .map _ => isFalse (by simp)

private def JsonValue.decEqMembers : (m n : List (String × JsonValue)) → Decidable (m = n)
  | [], [] => isTrue rfl
  | (k, v) :: m, (k', v') :: n =>
    have := JsonValue.decEq v v'
    have := JsonValue.decEqMembers m n
    decidable_of_iff (k = k' ∧ v = v' ∧ m = n) (by simp [and_assoc])
  | [], _ :: _ | _ :: _, [] => isFalse (by simp)

private def JsonValue.decEqElements : (a b : List JsonValue) → Decidable (a = b)
  | [], [] => isTrue rfl
  | v :: a, w :: b =>
    have := JsonValue.decEq v w
    have := JsonValue.decEqElements a b
    decidable_of_iff (v = w ∧ a = b) (by simp)
  | [], _ :: _ | _ :: _, [] => isFalse (by simp)
end

instance : DecidableEq JsonValue := JsonValue.decEq

/-! ## Maps -/

namespace JsonMap

def find? (m : JsonMap) (key : String) : Option JsonValue := List.lookup key m

/-- `contains` of json-rpc. -/
def contains (m : JsonMap) (key : String) : Bool := (m.find? key).isSome

/-- `operator[]`, read. -/
def get (m : JsonMap) (key : String) : JsonValue := (m.find? key).getD .null

/-- `operator[]`, written. -/
def set (m : JsonMap) (key : String) (v : JsonValue) : JsonMap :=
  match m with
  | [] => [(key, v)]
  | (k, w) :: rest =>
    if key = k then (key, v) :: rest
    else if key < k then (key, v) :: (k, w) :: rest
    else (k, w) :: set rest key v

def erase (m : JsonMap) (key : String) : JsonMap := m.filter fun p => p.1 ≠ key

/-- What `operator[]` leaves behind also when it is only read. -/
def touch (m : JsonMap) (key : String) : JsonMap :=
  if m.contains key then m else m.set key .null

/-- A map made from a list of members. -/
def ofMembers (members : List (String × JsonValue)) : JsonMap :=
  members.foldl (fun m p => m.set p.1 p.2) []

@[simp] theorem find?_nil (key : String) : find? [] key = none := rfl

theorem find?_cons (k : String) (v : JsonValue) (m : JsonMap) (key : String) :
    find? ((k, v) :: m) key = if key = k then some v else m.find? key := by
  rw [find?, List.lookup_cons]
  by_cases h : key = k
  · simp [h]
  · rw [beq_eq_false_iff_ne.mpr h, if_neg h]; rfl

@[simp] theorem find?_set_self (m : JsonMap) (key : String) (v : JsonValue) :
    (m.set key v).find? key = some v := by
  induction m with
  | nil => simp [set, find?_cons]
  | cons p rest ih =>
    obtain ⟨k, w⟩ := p
    simp only [set]
    split
    · simp [find?_cons]
    · next hne =>
      split
      · simp [find?_cons]
      · simpa [find?_cons, hne] using ih

theorem find?_set_of_ne {m : JsonMap} {key key' : String} {v : JsonValue} (h : key' ≠ key) :
    (m.set key v).find? key' = m.find? key' := by
  induction m with
  | nil => simp [set, find?_cons, h]
  | cons p rest ih =>
    obtain ⟨k, w⟩ := p
    simp only [set]
    split
    · next heq => simp [find?_cons, h, ← heq]
    · split
      · simp [find?_cons, h]
      · simp [find?_cons, ih]

theorem find?_set (m : JsonMap) (key key' : String) (v : JsonValue) :
    (m.set key v).find? key' = if key' = key then some v else m.find? key' := by
  split
  · next h => rw [h, find?_set_self]
  · next h => exact find?_set_of_ne h

@[simp] theorem find?_erase_self (m : JsonMap) (key : String) : (m.erase key).find? key = none := by
  induction m with
  | nil => rfl
  | cons p rest ih =>
    obtain ⟨k, w⟩ := p
    by_cases h : k = key
    · simpa [erase, h] using ih
    · simpa [erase, h, find?_cons, Ne.symm h] using ih

theorem find?_erase_of_ne {m : JsonMap} {key key' : String} (h : key' ≠ key) :
    (m.erase key).find? key' = m.find? key' := by
  induction m with
  | nil => rfl
  | cons p rest ih =>
    obtain ⟨k, v⟩ := p
    by_cases hk : k = key
    · subst hk; simpa [erase, find?_cons, h] using ih
    · simp only [erase, ne_eq, hk, not_false_eq_true, decide_true, List.filter_cons_of_pos,
        find?_cons]
      rw [← ih]; rfl

@[simp] theorem get_set_self (m : JsonMap) (key : String) (v : JsonValue) :
    (m.set key v).get key = v := by simp [get]

theorem get_set_of_ne {m : JsonMap} {key key' : String} {v : JsonValue} (h : key' ≠ key) :
    (m.set key v).get key' = m.get key' := by simp [get, find?_set_of_ne h]

theorem set_set (m : JsonMap) (key : String) (v w : JsonValue) : (m.set key v).set key w = m.set key w := by
  induction m with
  | nil => simp [set]
  | cons p rest ih =>
    obtain ⟨k, u⟩ := p
    by_cases heq : key = k
    · simp [set, heq]
    · by_cases hlt : key < k
      · simp [set, heq, hlt]
      · simp [set, heq, hlt, ih]

theorem contains_set (m : JsonMap) (key key' : String) (v : JsonValue) :
    (m.set key v).contains key' = (decide (key' = key) || m.contains key') := by
  by_cases h : key' = key <;> simp [contains, find?_set, h]

/-- Reading a key that is there leaves the map as it was. -/
theorem touch_of_contains {m : JsonMap} {key : String} (h : m.contains key) :
    m.touch key = m := by simp [touch, h]

theorem find?_touch_of_ne {m : JsonMap} {key key' : String} (h : key' ≠ key) :
    (m.touch key).find? key' = m.find? key' := by
  unfold touch
  split
  · rfl
  · exact find?_set_of_ne h

theorem get_touch (m : JsonMap) (key key' : String) : (m.touch key).get key' = m.get key' := by
  unfold touch
  split
  · rfl
  · next h =>
    by_cases hk : key' = key
    · subst hk
      have hnone : m.find? key' = none := by simpa [contains] using h
      simp [get, hnone]
    · exact get_set_of_ne hk

end JsonMap

/-! ## Accessors -/

namespace JsonValue

/-- What `boost::bad_get` says. -/
def badGet : Fault := .thrown "boost::bad_get: failed value get using boost::get"

/-- The index of the alternative. -/
def which : JsonValue → Nat
  | .null => 0
  | .integer _ => 1
  | .real _ => 2
  | .boolean _ => 3
  | .string _ => 4
  | .map _ => 5
  | .array _ => 6

def asString : JsonValue → Except Fault String
  | .string s => .ok s
  | _ => .error badGet

def asMap : JsonValue → Except Fault JsonMap
  | .map m => .ok m
  | _ => .error badGet

def asArray : JsonValue → Except Fault JsonArray
  | .array a => .ok a
  | _ => .error badGet

/-- `operator[]` with a key. A null value put under a missing key is not kept:
the accessor that follows throws on it. -/
def index (v : JsonValue) (key : String) : Except Fault JsonValue :=
  match v with
  | .map m => .ok (JsonMap.get m key)
  | _ => .error (.thrown ("invalid value type (" ++ toString v.which ++ "); required map"))

/-- `v[key].as<std::string>()`. -/
def stringAt (v : JsonValue) (key : String) : Except Fault String := do
  (← v.index key).asString

/-- `v[key].as<json_array>()`. -/
def arrayAt (v : JsonValue) (key : String) : Except Fault JsonArray := do
  (← v.index key).asArray

theorem asString_eq_ok {v : JsonValue} {s : String} : v.asString = .ok s ↔ v = .string s := by
  cases v <;> simp [asString]

theorem asMap_eq_ok {v : JsonValue} {m : JsonMap} : v.asMap = .ok m ↔ v = .map m := by
  cases v <;> simp [asMap]

theorem asArray_eq_ok {v : JsonValue} {a : JsonArray} : v.asArray = .ok a ↔ v = .array a := by
  cases v <;> simp [asArray]

/-- The strings of an array of strings. -/
theorem mapM_asString (l : List String) : (l.map JsonValue.string).mapM asString = .ok l := by
  induction l with
  | nil => rfl
  | cons s l ih =>
    rw [List.map_cons, List.mapM_cons, ih]
    rfl

theorem stringAt_eq_ok {v : JsonValue} {key s : String} :
    v.stringAt key = .ok s ↔ ∃ m : JsonMap, v = .map m ∧ m.find? key = some (.string s) := by
  cases v with
  | map m =>
    cases hf : JsonMap.find? m key <;> simp [stringAt, index, asString_eq_ok, JsonMap.get, hf]
  | _ => simp [stringAt, index]

theorem arrayAt_eq_ok {v : JsonValue} {key : String} {a : JsonArray} :
    v.arrayAt key = .ok a ↔ ∃ m : JsonMap, v = .map m ∧ m.find? key = some (.array a) := by
  cases v with
  | map m =>
    cases hf : JsonMap.find? m key <;> simp [arrayAt, index, asArray_eq_ok, JsonMap.get, hf]
  | _ => simp [arrayAt, index]

/-- An object with a string under a key. -/
def HasString (v : JsonValue) (key : String) : Prop :=
  ∃ (m : JsonMap) (s : String), v = .map m ∧ m.find? key = some (.string s)

/-- An object with an array under a key. -/
def HasArray (v : JsonValue) (key : String) : Prop :=
  ∃ (m : JsonMap) (a : JsonArray), v = .map m ∧ m.find? key = some (.array a)

theorem stringAt_returns {v : JsonValue} {key : String} : (v.stringAt key).Returns ↔ v.HasString key := by
  simp only [Except.Returns, stringAt_eq_ok]
  exact exists_comm

theorem arrayAt_returns {v : JsonValue} {key : String} : (v.arrayAt key).Returns ↔ v.HasArray key := by
  simp only [Except.Returns, arrayAt_eq_ok]
  exact exists_comm

end JsonValue

namespace JsonMap

/-- `m[key].as<std::string>()`. -/
def stringAt (m : JsonMap) (key : String) : Except Fault String := (m.get key).asString

/-- `m[key].as<json_array>()`. -/
def arrayAt (m : JsonMap) (key : String) : Except Fault JsonArray := (m.get key).asArray

theorem stringAt_eq_ok {m : JsonMap} {key s : String} :
    m.stringAt key = .ok s ↔ m.find? key = some (.string s) := by
  cases hf : m.find? key <;> simp [stringAt, get, hf, JsonValue.asString_eq_ok]

theorem arrayAt_eq_ok {m : JsonMap} {key : String} {a : JsonArray} :
    m.arrayAt key = .ok a ↔ m.find? key = some (.array a) := by
  cases hf : m.find? key <;> simp [arrayAt, get, hf, JsonValue.asArray_eq_ok]

/-- A string under a key. -/
def HasString (m : JsonMap) (key : String) : Prop := ∃ s, m.find? key = some (.string s)

/-- An array under a key. -/
def HasArray (m : JsonMap) (key : String) : Prop := ∃ a, m.find? key = some (.array a)

theorem stringAt_returns {m : JsonMap} {key : String} : (m.stringAt key).Returns ↔ m.HasString key := by
  simp only [Except.Returns, stringAt_eq_ok, HasString]

theorem arrayAt_returns {m : JsonMap} {key : String} : (m.arrayAt key).Returns ↔ m.HasArray key := by
  simp only [Except.Returns, arrayAt_eq_ok, HasArray]

end JsonMap

/-- How a text is read as an object and an object written as a text. -/
structure Codec where
  parse : String → Except Fault JsonMap
  print : JsonMap → String

end StreamCloud
