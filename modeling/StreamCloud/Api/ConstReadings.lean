-- SUMMARY: What is left of an object that is read as const, and which readings leave it as it was.
import StreamCloud.Api.JsonSorted

/-!
# Const readings

`map.hpp` and `json-rpc.cpp`. The members of a map are `mutable`, and its const
`operator[]` is that of `std::map`, which puts a null under a key that is not there.
The readings by `find` leave the map alone. The others leave it as it was where they
find what they ask for (`left_eq_iff`).
-/

namespace StreamCloud

namespace JsonMap

/-- `get_for_path`, from the pieces of the path. The maps on the way are read by
`operator[]` too. -/
def getForPath : List String → JsonMap → Except Fault JsonValue × JsonMap
  | [], m => (.error .outOfRange, m)
  | [key], m => (.ok (m.get key), m.touch key)
  | key :: next :: rest, m =>
    match m.get key with
    | .map sub =>
      let (found, sub) := getForPath (next :: rest) sub
      (found, m.set key (.map sub))
    | _ => (.error JsonValue.badGet, m.touch key)

/-- `parse(message, request)`, and the message it leaves also where it throws. -/
def readRequest (m : JsonMap) : Except Fault RequestMessage × JsonMap :=
  let m := (m.touch "id").touch "method"
  match m.stringAt "method" with
  | .error fault => (.error fault, m)
  | .ok method =>
    let (params, m) := m.readParams
    (m.readMetadata.map fun metadata => { id := m.get "id", method, params, metadata }, m)

/-- `parse(message, notify)`. -/
def readNotify (m : JsonMap) : Except Fault NotifyMessage × JsonMap :=
  let m := m.touch "method"
  match m.stringAt "method" with
  | .error fault => (.error fault, m)
  | .ok method =>
    let (params, m) := m.readParams
    (m.readMetadata.map fun metadata => { method, params, metadata }, m)

/-- `parse(message, response)`. -/
def readResponse (m : JsonMap) (response : ResponseMessage) : Except Fault ResponseMessage × JsonMap :=
  let m := (m.touch "id").touch "result"
  (m.readMetadata.map fun metadata => { response with id := m.get "id", result := m.get "result", metadata },
    m)

variable {m m' : JsonMap}

theorem stringAt_touch (m : JsonMap) (key key' : String) : (m.touch key).stringAt key' = m.stringAt key' := by
  unfold stringAt
  rw [get_touch]

end JsonMap

/-- A reading of an object that is handed over as const. -/
inductive ConstReading
  | find (key : String)
  | subscript (key : String)
  | getOr (key : String) (fallback : JsonValue)
  | getForPath (path : String)
  | parseRequest
  | parseNotify
  | parseResponse (response : ResponseMessage)

namespace ConstReading

/-- What is left of the object. -/
def left : ConstReading → JsonMap → JsonMap
  | find _, m => m
  | subscript key, m => m.touch key
  | getOr _ _, m => m
  | getForPath path, m => (m.getForPath (split path)).2
  | parseRequest, m => m.readRequest.2
  | parseNotify, m => m.readNotify.2
  | parseResponse response, m => (m.readResponse response).2

end ConstReading

namespace JsonMap

/-- The pieces of a path are keys of the maps on its way, as far as these are maps. -/
def HasPath : List String → JsonMap → Prop
  | [], _ => True
  | [key], m => m.contains key
  | key :: next :: rest, m => m.contains key ∧ ∀ sub, m.get key = .map sub → HasPath (next :: rest) sub

/-- A request or a notification has parameters, or no method that is a string. -/
def HasParams (m : JsonMap) : Prop := m.contains "param" ∨ m.contains "params"

end JsonMap

/-- The object has what the reading asks for. -/
def ConstReading.Finds : ConstReading → JsonMap → Prop
  | find _, _ => True
  | subscript key, m => m.contains key
  | getOr _ _, _ => True
  | getForPath path, m => m.HasPath (split path)
  | parseRequest, m => m.contains "id" ∧ m.contains "method" ∧ ((m.stringAt "method").Returns → m.HasParams)
  | parseNotify, m => m.contains "method" ∧ ((m.stringAt "method").Returns → m.HasParams)
  | parseResponse _, m => m.contains "id" ∧ m.contains "result"

namespace JsonMap

variable {m : JsonMap}

theorem touch_eq_iff (m : JsonMap) (key : String) : m.touch key = m ↔ m.contains key := by
  constructor
  · intro h
    have hcontains := contains_touch m key key
    rw [h] at hcontains
    rw [hcontains]
    simp
  · exact touch_of_contains

theorem snd_readParams_eq_iff (m : JsonMap) : m.readParams.2 = m ↔ m.HasParams := by
  unfold readParams HasParams
  cases hparam : m.contains "param" with
  | true => simp
  | false => simp [touch_eq_iff]

/-- A member that is set to what it is. -/
theorem set_eq_self (hm : m.Sorted) {key : String} {v : JsonValue} (h : m.find? key = some v) :
    m.set key v = m := by
  refine Sorted.ext (hm.set (hm.find? h)) hm fun key' => ?_
  rw [find?_set]
  split
  · next hkey => rw [hkey, h]
  · rfl

theorem find?_of_get_map {key : String} {sub : JsonMap} (h : m.get key = .map sub) :
    m.find? key = some (.map sub) := by
  unfold JsonMap.get at h
  cases hfind : m.find? key with
  | none =>
    rw [hfind] at h
    cases h
  | some v =>
    rw [hfind] at h
    exact congrArg some h

/-- A path leaves the maps on its way as they were where its pieces are there. -/
theorem snd_getForPath_eq_iff (hm : m.Sorted) (path : List String) :
    (m.getForPath path).2 = m ↔ m.HasPath path := by
  induction path generalizing m with
  | nil => simp [getForPath, HasPath]
  | cons key rest ih =>
    cases rest with
    | nil => exact touch_eq_iff m key
    | cons next rest =>
      unfold getForPath HasPath
      cases hget : m.get key with
      | map sub =>
        have hfind := find?_of_get_map hget
        have hcontains : m.contains key := by rw [contains, hfind]; rfl
        have hsub : JsonMap.Sorted sub := hm.find? hfind
        simp only [hcontains, true_and, JsonValue.map.injEq, forall_eq', ← ih hsub]
        constructor
        · intro hset
          have hfind' := congrArg (fun m => m.find? key) hset
          simp only [find?_set_self, hfind] at hfind'
          exact JsonValue.map.inj (Option.some.inj hfind')
        · intro hsame
          rw [hsame]
          exact set_eq_self hm hfind
      | _ => simp [touch_eq_iff]

theorem snd_readNotify_eq_iff (m : JsonMap) :
    m.readNotify.2 = m ↔ m.contains "method" ∧ ((m.stringAt "method").Returns → m.HasParams) := by
  unfold readNotify
  by_cases hmethod : m.contains "method"
  · rw [touch_of_contains hmethod]
    cases hstring : m.stringAt "method" with
    | error fault => simp [hmethod, hstring]
    | ok method => simpa [hmethod, hstring] using snd_readParams_eq_iff m
  · -- the null under `method` is no string
    have hget : m.stringAt "method" = .error JsonValue.badGet := by
      have hnone : m.find? "method" = none := by simpa [contains] using hmethod
      simp [stringAt, get, hnone, JsonValue.asString]
    rw [← stringAt_touch m "method" "method"] at hget
    simp [hget, hmethod, touch_eq_iff]

theorem contains_snd_readParams {key : String} (h : m.contains key) : m.readParams.2.contains key := by
  unfold readParams
  split
  · exact h
  · simp [contains_touch, h]

theorem contains_snd_readNotify {key : String} (h : m.contains key) : m.readNotify.2.contains key := by
  have htouch : (m.touch "method").contains key := by simp [contains_touch, h]
  unfold readNotify
  dsimp only
  split
  · exact htouch
  · exact contains_snd_readParams htouch

theorem snd_readRequest_eq_iff (m : JsonMap) : m.readRequest.2 = m ↔
    m.contains "id" ∧ m.contains "method" ∧ ((m.stringAt "method").Returns → m.HasParams) := by
  have hnotify : m.readRequest.2 = (m.touch "id").readNotify.2 := by
    unfold readRequest readNotify
    dsimp only
    split <;> rfl
  rw [hnotify]
  by_cases hid : m.contains "id"
  · rw [touch_of_contains hid, snd_readNotify_eq_iff]
    simp [hid]
  · -- the id stays, whatever else is put there
    refine iff_of_false (fun h => ?_) fun h => hid h.1
    have htouch : (m.touch "id").contains "id" := by simp [contains_touch]
    exact hid (h ▸ contains_snd_readNotify htouch)

theorem snd_readResponse_eq_iff (m : JsonMap) (response : ResponseMessage) :
    (m.readResponse response).2 = m ↔ m.contains "id" ∧ m.contains "result" := by
  show (m.touch "id").touch "result" = m ↔ _
  constructor
  · intro h
    have hid : ((m.touch "id").touch "result").contains "id" := by simp [contains_touch]
    have hresult : ((m.touch "id").touch "result").contains "result" := by simp [contains_touch]
    exact ⟨h ▸ hid, h ▸ hresult⟩
  · rintro ⟨hid, hresult⟩
    rw [touch_of_contains hid, touch_of_contains hresult]

end JsonMap

open JsonMap in
/-- A reading leaves the object as it was if and only if it finds what it asks for. -/
theorem ConstReading.left_eq_iff (r : ConstReading) {m : JsonMap} (hm : m.Sorted) :
    r.left m = m ↔ r.Finds m := by
  cases r with
  | find key => simp [left, Finds]
  | subscript key => exact touch_eq_iff m key
  | getOr key fallback => simp [left, Finds]
  | getForPath path => exact snd_getForPath_eq_iff hm (split path)
  | parseRequest => exact snd_readRequest_eq_iff m
  | parseNotify => exact snd_readNotify_eq_iff m
  | parseResponse response => exact snd_readResponse_eq_iff m response

end StreamCloud
