-- SUMMARY: Parsed objects are sorted by key, and a sorted object keeps its members when it is read back.
import StreamCloud.Api.JsonRoundTrip
import StreamCloud.Api.JsonRpc
import Mathlib.Data.String.Basic

/-!
# Sorted objects

`std::map` keeps its members sorted. Here this is a property of a value, which
every parsed object has and which makes looking up a member independent of the
way the object was built.
-/

namespace StreamCloud

mutual
/-- Every object inside the value is sorted by key. -/
def JsonValue.Sorted : JsonValue → Prop
  | .map m => (m.map Prod.fst).Pairwise (· < ·) ∧ SortedMembers m
  | .array a => SortedElements a
  | _ => True

def JsonValue.SortedMembers : List (String × JsonValue) → Prop
  | [] => True
  | (_, v) :: rest => v.Sorted ∧ SortedMembers rest

def JsonValue.SortedElements : List JsonValue → Prop
  | [] => True
  | v :: rest => v.Sorted ∧ SortedElements rest
end

/-- A sorted object. -/
def JsonMap.Sorted (m : JsonMap) : Prop := (JsonValue.map m).Sorted

theorem JsonValue.sorted_string (s : String) : (JsonValue.string s).Sorted := trivial

theorem JsonValue.sortedMembers_iff {m : List (String × JsonValue)} :
    SortedMembers m ↔ ∀ p ∈ m, p.2.Sorted := by
  induction m with
  | nil => simp [SortedMembers]
  | cons p m ih => simp [SortedMembers, ih]

theorem JsonValue.sortedElements_iff {a : List JsonValue} :
    SortedElements a ↔ ∀ v ∈ a, v.Sorted := by
  induction a with
  | nil => simp [SortedElements]
  | cons v a ih => simp [SortedElements, ih]

namespace JsonMap

theorem sorted_iff {m : JsonMap} :
    m.Sorted ↔ (m.map Prod.fst).Pairwise (· < ·) ∧ ∀ p ∈ m, p.2.Sorted := by
  rw [Sorted, JsonValue.Sorted, JsonValue.sortedMembers_iff]

theorem sorted_nil : Sorted [] := sorted_iff.mpr (by simp)

theorem mem_of_find? {m : JsonMap} {key : String} {v : JsonValue} (h : m.find? key = some v) :
    (key, v) ∈ m := by
  induction m with
  | nil => simp at h
  | cons p m ih =>
    obtain ⟨k, w⟩ := p
    rw [find?_cons] at h
    split at h
    · next hk => simp_all
    · exact List.mem_cons_of_mem _ (ih h)

/-- What is found in a sorted object is sorted. -/
theorem Sorted.find? {m : JsonMap} (hm : m.Sorted) {key : String} {v : JsonValue}
    (h : m.find? key = some v) : v.Sorted :=
  (sorted_iff.mp hm).2 _ (mem_of_find? h)

theorem mem_set {m : JsonMap} {key : String} {v : JsonValue} {p : String × JsonValue}
    (h : p ∈ m.set key v) : p = (key, v) ∨ p ∈ m := by
  induction m with
  | nil => exact .inl (List.mem_singleton.mp h)
  | cons q m ih =>
    obtain ⟨k, w⟩ := q
    simp only [set] at h
    split at h
    · rcases List.mem_cons.mp h with h | h
      · exact .inl h
      · exact .inr (List.mem_cons_of_mem _ h)
    · split at h
      · exact List.mem_cons.mp h
      · rcases List.mem_cons.mp h with h | h
        · exact .inr (h ▸ List.mem_cons_self)
        · rcases ih h with h | h
          · exact .inl h
          · exact .inr (List.mem_cons_of_mem _ h)

theorem pairwise_set {m : JsonMap} (hm : (m.map Prod.fst).Pairwise (· < ·)) (key : String)
    (v : JsonValue) : ((m.set key v).map Prod.fst).Pairwise (· < ·) := by
  induction m with
  | nil => simp [set]
  | cons p m ih =>
    obtain ⟨k, w⟩ := p
    simp only [List.map_cons, List.pairwise_cons, List.mem_map] at hm
    obtain ⟨hk, hm⟩ := hm
    simp only [set]
    split_ifs with heq hlt
    · subst heq
      simp only [List.map_cons, List.pairwise_cons, List.mem_map]
      exact ⟨hk, hm⟩
    · simp only [List.map_cons, List.pairwise_cons, List.mem_cons, List.mem_map]
      refine ⟨?_, ?_, hm⟩
      · rintro k' (rfl | hk')
        · exact hlt
        · exact lt_trans hlt (hk k' hk')
      · exact hk
    · have hkey : k < key := lt_of_le_of_ne (not_lt.mp hlt) fun h => heq h.symm
      simp only [List.map_cons, List.pairwise_cons, List.mem_map]
      refine ⟨?_, ih hm⟩
      rintro k' ⟨q, hq, rfl⟩
      rcases mem_set hq with rfl | hq
      · exact hkey
      · exact hk _ ⟨q, hq, rfl⟩

theorem Sorted.set {m : JsonMap} (hm : m.Sorted) {key : String} {v : JsonValue} (hv : v.Sorted) :
    Sorted (m.set key v) := by
  rw [sorted_iff] at hm ⊢
  refine ⟨pairwise_set hm.1 key v, fun p hp => ?_⟩
  rcases mem_set hp with rfl | hp
  · exact hv
  · exact hm.2 p hp

theorem Sorted.erase {m : JsonMap} (hm : m.Sorted) (key : String) : Sorted (m.erase key) := by
  rw [sorted_iff] at hm ⊢
  exact ⟨hm.1.sublist ((List.filter_sublist).map _),
    fun p hp => hm.2 p (List.mem_of_mem_filter hp)⟩

/-! ## Equality -/

private theorem find?_of_lt {m : JsonMap} {key : String} (h : ∀ k ∈ m.map Prod.fst, key < k) :
    m.find? key = none := by
  cases hfind : m.find? key with
  | none => rfl
  | some v => exact absurd (h key (List.mem_map.mpr ⟨_, mem_of_find? hfind, rfl⟩)) (lt_irrefl key)

private theorem find?_cons_of_lt {k key : String} {v : JsonValue} {m : JsonMap} (hkey : key < k)
    (hm : ∀ k' ∈ m.map Prod.fst, k < k') : JsonMap.find? ((k, v) :: m) key = none := by
  refine find?_of_lt fun k' hk' => ?_
  rcases List.mem_cons.mp hk' with rfl | hk'
  · exact hkey
  · exact lt_trans hkey (hm k' hk')

private theorem ext_of_pairwise {m m' : JsonMap} (hm : (m.map Prod.fst).Pairwise (· < ·))
    (hm' : (m'.map Prod.fst).Pairwise (· < ·)) (h : ∀ key, m.find? key = m'.find? key) : m = m' := by
  induction m generalizing m' with
  | nil =>
    cases m' with
    | nil => rfl
    | cons p m' =>
      have hkey := h p.1
      rw [find?_cons, if_pos rfl] at hkey
      cases hkey
  | cons p m ih =>
    obtain ⟨k, v⟩ := p
    cases m' with
    | nil => simpa [find?_cons] using h k
    | cons p' m' =>
      obtain ⟨k', v'⟩ := p'
      simp only [List.map_cons, List.pairwise_cons] at hm hm'
      have hkey : k = k' := by
        rcases lt_trichotomy k k' with hlt | heq | hlt
        · have hk := h k
          rw [find?_cons_of_lt hlt hm'.1, find?_cons, if_pos rfl] at hk
          cases hk
        · exact heq
        · have hk := h k'
          rw [find?_cons_of_lt hlt hm.1, find?_cons, if_pos rfl] at hk
          cases hk
      subst hkey
      have hv : v = v' := by simpa [find?_cons] using h k
      subst hv
      refine congrArg _ (ih hm.2 hm'.2 fun key => ?_)
      by_cases hkey : key = k
      · subst hkey
        rw [find?_of_lt hm.1, find?_of_lt hm'.1]
      · simpa [find?_cons, hkey] using h key

/-- Sorted objects are equal if they have the same members. -/
theorem Sorted.ext {m m' : JsonMap} (hm : m.Sorted) (hm' : m'.Sorted)
    (h : ∀ key, m.find? key = m'.find? key) : m = m' :=
  ext_of_pairwise (sorted_iff.mp hm).1 (sorted_iff.mp hm').1 h

/-- A member that is erased might have been set to anything before. -/
theorem Sorted.erase_set {m : JsonMap} (hm : m.Sorted) {key : String} {v : JsonValue}
    (hv : v.Sorted) : JsonMap.erase (m.set key v) key = m.erase key := by
  refine Sorted.ext ((hm.set hv).erase key) (hm.erase key) fun key' => ?_
  by_cases hkey : key' = key
  · rw [hkey, find?_erase_self, find?_erase_self]
  · rw [find?_erase_of_ne hkey, find?_erase_of_ne hkey, find?_set_of_ne hkey]

end JsonMap

/-! ## Parsed objects -/

namespace JsonText

def Container.Sorted (container : Container) : Prop := container.toValue.Sorted

theorem Container.Sorted.pushBack {container : Container} (h : container.Sorted) {v : JsonValue}
    (hv : v.Sorted) (name : String) : (container.pushBack name v).Sorted := by
  cases container with
  | map m => exact JsonMap.Sorted.set (m := m) h hv
  | array a =>
    have ha : ∀ w ∈ a, w.Sorted := JsonValue.sortedElements_iff.mp h
    refine JsonValue.sortedElements_iff.mpr fun w hw => ?_
    rcases List.mem_append.mp hw with hw | hw
    · exact ha w hw
    · rw [List.mem_singleton.mp hw]
      exact hv

theorem readNumber_sorted (text : List Char) : (readNumber text).1.Sorted := by
  unfold readNumber
  split <;> exact trivial

theorem literal_sorted (text : List Char) : (literal text).Sorted := by
  unfold literal
  split <;> exact trivial

theorem Container.sorted_map_nil : (Container.map []).Sorted := JsonMap.sorted_nil

theorem Container.sorted_array_nil : (Container.array []).Sorted := trivial

theorem parseContainer_sorted (turns : ℕ) (container : Container) (name : String) (state : State)
    (text : List Char) (h : container.Sorted) :
    (parseContainer turns container name state text).Ensures fun r => r.1.Sorted := by
  induction turns generalizing container name state text with
  | zero => exact Except.ensures_error
  | succ turns ih =>
    cases text with
    | nil => exact Except.ensures_ok.mpr h
    | cons c rest =>
      rw [parseContainer]
      cases symbol c with
      | terminator => exact Except.ensures_ok.mpr h
      | close => exact Except.ensures_ok.mpr h
      | openMap =>
        refine Except.ensures_bind.mpr ((ih _ _ _ _ Container.sorted_map_nil).mono ?_)
        exact fun inner hinner => ih _ _ _ _ (h.pushBack hinner name)
      | openArray =>
        refine Except.ensures_bind.mpr ((ih _ _ _ _ Container.sorted_array_nil).mono ?_)
        exact fun inner hinner => ih _ _ _ _ (h.pushBack hinner name)
      | quote =>
        refine Except.ensures_bind.mpr fun value _ => ?_
        cases state with
        | parseValue => exact ih _ _ _ _ (h.pushBack (v := .string _) trivial name)
        | parseName => exact ih _ _ _ _ h
      | number => exact ih _ _ _ _ (h.pushBack (readNumber_sorted _) name)
      | literal =>
        refine Except.ensures_bind.mpr fun rest' _ => ?_
        exact ih _ _ _ _ (h.pushBack (literal_sorted _) name)
      | other => exact ih _ _ _ _ h

theorem parse_sorted (text : List Char) : (parse text).Ensures JsonMap.Sorted := by
  induction text with
  | nil => exact Except.ensures_ok.mpr JsonMap.sorted_nil
  | cons c rest ih =>
    rw [parse]
    split_ifs
    · exact Except.ensures_ok.mpr JsonMap.sorted_nil
    · refine Except.ensures_bind.mpr
        ((parseContainer_sorted _ _ _ _ _ Container.sorted_map_nil).mono fun r hr => ?_)
      split
      · next m hm =>
        rw [hm] at hr
        exact Except.ensures_ok.mpr hr
      · exact Except.ensures_ok.mpr JsonMap.sorted_nil
    · exact ih

end JsonText

/-- Every object that the api reads is sorted. -/
theorem Codec.api_sorted {s : String} {m : JsonMap} (h : Codec.api.parse s = .ok m) : m.Sorted :=
  JsonText.parse_sorted s.toList m h

/-! ## Members that are read back -/

namespace JsonMap

private theorem find?_rereadMembers {m : JsonMap} (hm : (m.map Prod.fst).Nodup) (acc : JsonMap)
    (key : String) :
    (JsonValue.rereadMembers acc m).find? key =
      match m.find? key with
      | some v => some v.reread
      | none => acc.find? key := by
  induction m generalizing acc with
  | nil => rfl
  | cons p m ih =>
    obtain ⟨k, v⟩ := p
    simp only [List.map_cons, List.nodup_cons, List.mem_map, not_exists, not_and] at hm
    rw [JsonValue.rereadMembers, ih hm.2, find?_cons, find?_set]
    by_cases hkey : key = k
    · subst hkey
      have hnone : JsonMap.find? m key = none := by
        cases hfind : JsonMap.find? m key with
        | none => rfl
        | some w => exact absurd rfl (hm.1 _ (mem_of_find? hfind))
      simp [hnone]
    · simp [hkey]

/-- A member of an object is read back under its key. -/
theorem find?_reread_of_nodup {m : JsonMap} (hm : (m.map Prod.fst).Nodup) (key : String) :
    m.reread.find? key = (m.find? key).map JsonValue.reread := by
  rw [reread, find?_rereadMembers hm]
  cases m.find? key <;> rfl

theorem find?_reread {m : JsonMap} (hm : m.Sorted) (key : String) :
    m.reread.find? key = (m.find? key).map JsonValue.reread :=
  find?_reread_of_nodup ((sorted_iff.mp hm).1.imp fun h => ne_of_lt h) key

private theorem contains_rereadMembers (m acc : JsonMap) (key : String) :
    JsonMap.contains (JsonValue.rereadMembers acc m) key = (acc.contains key || m.contains key) := by
  induction m generalizing acc with
  | nil => simp [JsonValue.rereadMembers, contains]
  | cons p m ih =>
    obtain ⟨k, v⟩ := p
    have hcons : JsonMap.contains ((k, v) :: m) key = (decide (key = k) || JsonMap.contains m key) := by
      by_cases hkey : key = k <;> simp [contains, find?_cons, hkey]
    rw [JsonValue.rereadMembers, ih, contains_set, hcons]
    cases decide (key = k) <;> cases acc.contains key <;> rfl

theorem contains_reread (m : JsonMap) (key : String) :
    m.reread.contains key = m.contains key := by
  rw [reread, contains_rereadMembers]
  simp [contains]

end JsonMap

/-- A real is read back as a number, or as a literal if it is infinite. -/
theorem JsonValue.reread_real (x : Double) :
    (∃ i, (JsonValue.real x).reread = .integer i) ∨ (∃ y, (JsonValue.real x).reread = .real y) ∨
      (JsonValue.real x).reread = .boolean false := by
  cases x with
  | infinite negative => exact .inr (.inr rfl)
  | finite negative significand exponent fits =>
    rw [JsonValue.reread, JsonText.readNumber]
    split
    · exact .inr (.inl ⟨_, rfl⟩)
    · exact .inl ⟨_, rfl⟩

/-- An object is read back as an object, and only an object is. -/
theorem JsonValue.reread_eq_map {v : JsonValue} {n : JsonMap} :
    v.reread = .map n ↔ ∃ m : JsonMap, v = .map m ∧ n = m.reread := by
  cases v with
  | map m =>
    simp only [JsonValue.reread, JsonMap.reread, JsonValue.map.injEq]
    exact ⟨fun h => ⟨m, rfl, h.symm⟩, fun ⟨_, h, hn⟩ => h ▸ hn.symm⟩
  | real x =>
    rcases JsonValue.reread_real x with ⟨i, h⟩ | ⟨y, h⟩ | h
    all_goals simp [h]
  | _ => simp [JsonValue.reread]

theorem JsonValue.reread_eq_string {v : JsonValue} {s : String} :
    v.reread = .string s ↔ v = .string s := by
  cases v with
  | real x =>
    rcases JsonValue.reread_real x with ⟨i, h⟩ | ⟨y, h⟩ | h
    all_goals simp [h]
  | _ => simp [JsonValue.reread]

namespace JsonMap

theorem sorted_reread (m : JsonMap) : m.reread.Sorted := Codec.api_sorted (Codec.api_roundTrip m)

theorem erase_reread {m : JsonMap} (hm : m.Sorted) (key : String) :
    m.reread.erase key = JsonMap.reread (m.erase key) := by
  refine Sorted.ext ((sorted_reread m).erase key) (sorted_reread _) fun key' => ?_
  rw [find?_reread (hm.erase key)]
  by_cases hkey : key' = key
  · rw [hkey, find?_erase_self, find?_erase_self]
    rfl
  · rw [find?_erase_of_ne hkey, find?_erase_of_ne hkey, find?_reread hm]

theorem get_reread {m : JsonMap} (hm : m.Sorted) (key : String) :
    m.reread.get key = (m.get key).reread := by
  unfold get
  rw [find?_reread hm]
  cases m.find? key <;> rfl

theorem Sorted.get {m : JsonMap} (hm : m.Sorted) (key : String) : (m.get key).Sorted := by
  unfold JsonMap.get
  cases hfind : m.find? key with
  | none => exact trivial
  | some v => exact hm.find? hfind

theorem Sorted.readMetadata {m metadata : JsonMap} (hm : m.Sorted)
    (h : m.readMetadata = .ok metadata) : metadata.Sorted := by
  rcases JsonMap.readMetadata_eq_ok.mp h with hfind | ⟨-, rfl⟩
  · exact hm.find? hfind
  · exact sorted_nil

theorem isResponse_reread (m : JsonMap) : m.reread.isResponse = m.isResponse := by
  simp only [isResponse, contains_reread]

theorem isNotify_reread (m : JsonMap) : m.reread.isNotify = m.isNotify := by
  simp only [isNotify, contains_reread]

end JsonMap

/-- A string member of an object is read back as it was. -/
theorem JsonMap.stringAt_reread {m : JsonMap} (hm : m.Sorted) {key s : String} :
    m.reread.stringAt key = .ok s ↔ m.stringAt key = .ok s := by
  simp only [JsonMap.stringAt_eq_ok, JsonMap.find?_reread hm, Option.map_eq_some_iff,
    JsonValue.reread_eq_string]
  exact ⟨fun ⟨_, hfind, hv⟩ => hv ▸ hfind, fun hfind => ⟨_, hfind, rfl⟩⟩

theorem JsonValue.stringAt_reread {v : JsonValue} (hv : v.Sorted) {key s : String} :
    v.reread.stringAt key = .ok s ↔ v.stringAt key = .ok s := by
  simp only [stringAt_eq_ok, reread_eq_map]
  constructor
  · rintro ⟨_, ⟨m, rfl, rfl⟩, hfind⟩
    rw [JsonMap.find?_reread hv] at hfind
    obtain ⟨w, hw, hstring⟩ := Option.map_eq_some_iff.mp hfind
    rw [reread_eq_string] at hstring
    exact ⟨m, rfl, hstring ▸ hw⟩
  · rintro ⟨m, rfl, hfind⟩
    exact ⟨m.reread, ⟨m, rfl, rfl⟩, by rw [JsonMap.find?_reread hv, hfind]; rfl⟩

/-- A request, read back. -/
def RequestMessage.reread (request : RequestMessage) : RequestMessage where
  id := request.id.reread
  method := request.method
  params := request.params.reread
  metadata := request.metadata.reread

namespace JsonMap

theorem Sorted.touch {m : JsonMap} (hm : m.Sorted) (key : String) : Sorted (m.touch key) := by
  unfold JsonMap.touch
  split
  · exact hm
  · exact hm.set trivial

theorem Sorted.readParams {m : JsonMap} (hm : m.Sorted) : Sorted m.readParams.2 := by
  unfold JsonMap.readParams
  split
  · exact hm
  · exact hm.touch "params"

theorem isRequest_readParams {m : JsonMap} : m.readParams.2.isRequest = m.isRequest := by
  unfold readParams
  split
  · rfl
  · simp [isRequest, contains_touch]

theorem isRequest_reread (m : JsonMap) : m.reread.isRequest = m.isRequest := by
  simp only [isRequest, contains_reread]

theorem find?_readParams_of_ne {m : JsonMap} {key : String} (h : key ≠ "params") :
    m.readParams.2.find? key = m.find? key := by
  unfold readParams
  split
  · rfl
  · exact find?_touch_of_ne h

theorem contains_readParams_of_ne {m : JsonMap} {key : String} (h : key ≠ "params") :
    m.readParams.2.contains key = m.contains key := by
  simp only [contains, find?_readParams_of_ne h]

theorem fst_readParams (m : JsonMap) :
    m.readParams.1 = if m.contains "param" then m.get "param" else m.get "params" := by
  unfold readParams
  split <;> rfl

/-- A request that is written after it was parsed is read back as the same request. -/
theorem parseRequest_reread {m m' : JsonMap} {request : RequestMessage} (hm : m.Sorted)
    (hrequest : m.isRequest) (h : m.parseRequest = .ok (request, m')) :
    m'.Sorted ∧ m'.reread.isRequest ∧ ∃ m'', m'.reread.parseRequest = .ok (request.reread, m'') := by
  have hid : m.contains "id" := by
    rw [isRequest, Bool.and_eq_true] at hrequest
    exact hrequest.2
  obtain ⟨hmethod, hmetadata, hidr, hparams, rfl⟩ := (parseRequest_eq_ok hid).mp h
  have hm' := hm.readParams
  have hrequest' : m.readParams.2.reread.isRequest := by
    rw [isRequest_reread, isRequest_readParams]
    exact hrequest
  have hid' : m.readParams.2.reread.contains "id" := by
    rw [isRequest, Bool.and_eq_true] at hrequest'
    exact hrequest'.2
  refine ⟨hm', hrequest', _, (parseRequest_eq_ok hid').mpr ⟨?_, ?_, ?_, ?_, rfl⟩⟩
  · rw [find?_reread hm', find?_readParams_of_ne (by decide), hmethod]
    rfl
  · rw [readMetadata_eq_ok] at hmetadata ⊢
    rw [find?_reread hm', find?_readParams_of_ne (by decide)]
    rcases hmetadata with hfind | ⟨hfind, hempty⟩
    · exact .inl (by rw [hfind]; rfl)
    · exact .inr ⟨by rw [hfind]; rfl, by simp only [RequestMessage.reread, hempty]; rfl⟩
  · simp only [RequestMessage.reread, get_reread hm', get_readParams_snd, hidr]
  · simp only [RequestMessage.reread, fst_readParams, contains_reread, get_reread hm',
      get_readParams_snd, contains_readParams_of_ne (by decide : "param" ≠ "params"), hparams]
    split <;> rfl

end JsonMap

/-! ## Objects that the codec gives back -/

/-- The value is read back as it was. -/
def JsonValue.Exact (v : JsonValue) : Prop := v.reread = v

/-- A value that is read back is sorted, as the member of an object is. -/
theorem JsonValue.Exact.sorted {v : JsonValue} (h : v.Exact) : v.Sorted := by
  have hmember : JsonMap.find? (JsonMap.reread [("v", v)]) "v" = some v.reread := by
    simp [JsonMap.reread, rereadMembers]
  rw [← h]
  exact (JsonMap.sorted_reread _).find? hmember

/-- The object is read back as it was. -/
def JsonMap.Exact (m : JsonMap) : Prop := m.reread = m

namespace JsonValue

theorem exact_null : Exact .null := by simp [Exact, reread]

theorem exact_string (s : String) : Exact (.string s) := by simp [Exact, reread]

theorem exact_boolean (b : Bool) : Exact (.boolean b) := by simp [Exact, reread]

theorem exact_map {m : JsonMap} : Exact (.map m) ↔ m.Exact := by
  simp [Exact, JsonMap.Exact, reread, JsonMap.reread]

/-- Nothing is read in front of what is read back as it was. -/
theorem Exact.before {v : JsonValue} (h : v.Exact) : v.before = [] := by
  cases v with
  | real x =>
    cases x with
    | finite negative significand exponent fits => rfl
    | infinite negative => simp [Exact, reread] at h
  | _ => rfl

/-- An array is read back as it was if its elements are. -/
theorem exact_array {a : JsonArray} (h : ∀ v ∈ a, v.Exact) : Exact (.array a) := by
  have helements : rereadElements a = a := by
    induction a with
    | nil => rfl
    | cons v a ih =>
      have hv : v.Exact := h v List.mem_cons_self
      rw [rereadElements, hv.before, show v.reread = v from hv, ih fun w hw => h w (List.mem_cons_of_mem v hw)]
      rfl
  rw [Exact, reread, helements]

end JsonValue

namespace JsonMap

variable {m : JsonMap}

theorem exact_nil : Exact [] := by simp [Exact, reread, JsonValue.rereadMembers]

theorem Exact.sorted (h : m.Exact) : m.Sorted := by
  rw [← h]
  exact sorted_reread m

/-- An object is read back as it was if all its members are. -/
theorem exact_iff : m.Exact ↔ m.Sorted ∧ ∀ key v, m.find? key = some v → v.Exact := by
  constructor
  · intro h
    refine ⟨h.sorted, fun key v hfind => ?_⟩
    have hread := find?_reread h.sorted key
    rw [h, hfind] at hread
    exact (Option.some.inj hread).symm
  · rintro ⟨hsorted, hmembers⟩
    refine Sorted.ext (sorted_reread m) hsorted fun key => ?_
    rw [find?_reread hsorted]
    cases hfind : m.find? key with
    | none => rfl
    | some v => exact congrArg some (hmembers key v hfind)

/-- A member is read back as it was. -/
theorem map_reread_find?_eq_iff {key : String} :
    (m.find? key).map JsonValue.reread = m.find? key ↔ ∀ v, m.find? key = some v → v.Exact := by
  cases m.find? key with
  | none => simp
  | some v => simp [JsonValue.Exact]

theorem Exact.parse (h : m.Exact) : Codec.api.parse (Codec.api.print m) = .ok m := by
  rw [Codec.api_roundTrip, h]

theorem Exact.find? (h : m.Exact) {key : String} {v : JsonValue} (hfind : m.find? key = some v) :
    v.Exact := (exact_iff.mp h).2 key v hfind

theorem Exact.get (h : m.Exact) (key : String) : (m.get key).Exact := by
  unfold JsonMap.get
  cases hfind : m.find? key with
  | none => exact JsonValue.exact_null
  | some v => exact h.find? hfind

theorem Exact.set (h : m.Exact) {key : String} {v : JsonValue} (hv : v.Exact) :
    Exact (m.set key v) := by
  refine exact_iff.mpr ⟨h.sorted.set hv.sorted, fun key' w hfind => ?_⟩
  rw [find?_set] at hfind
  split at hfind
  · cases hfind
    exact hv
  · exact h.find? hfind

theorem exact_ofMembers {members : List (String × JsonValue)} (h : ∀ p ∈ members, p.2.Exact) :
    Exact (ofMembers members) := by
  unfold ofMembers
  refine List.foldlRecOn members _ exact_nil fun m hm p hp => ?_
  exact hm.set (h p hp)

theorem Exact.touch (h : m.Exact) (key : String) : Exact (m.touch key) := by
  unfold JsonMap.touch
  split
  · exact h
  · exact h.set JsonValue.exact_null

theorem Exact.erase (h : m.Exact) (key : String) : Exact (m.erase key) := by
  rw [Exact, ← erase_reread h.sorted, h]

theorem Exact.readParams (h : m.Exact) : m.readParams.1.Exact ∧ Exact m.readParams.2 := by
  unfold JsonMap.readParams
  split
  · exact ⟨h.get _, h⟩
  · exact ⟨h.get _, h.touch _⟩

theorem Exact.readMetadata (h : m.Exact) {metadata : JsonMap} (hread : m.readMetadata = .ok metadata) :
    metadata.Exact := by
  rcases readMetadata_eq_ok.mp hread with hfind | ⟨-, rfl⟩
  · exact JsonValue.exact_map.mp (h.find? hfind)
  · exact exact_nil

end JsonMap

/-! ## Numbers -/

/-- The number stands somewhere in the value. -/
inductive JsonValue.HasNumber : JsonValue → JsonValue → Prop
  | integer (i : Int) : HasNumber (.integer i) (.integer i)
  | real (x : Double) : HasNumber (.real x) (.real x)
  | member {m : JsonMap} {key : String} {v number : JsonValue} :
      m.find? key = some v → HasNumber v number → HasNumber (.map m) number
  | element {a : JsonArray} {v number : JsonValue} :
      v ∈ a → HasNumber v number → HasNumber (.array a) number

namespace JsonValue

theorem le_length_rereadElements (a : JsonArray) : a.length ≤ (rereadElements a).length := by
  induction a with
  | nil => exact le_rfl
  | cons v a ih =>
    rw [rereadElements, List.length_append, List.length_cons, List.length_cons]
    omega

/-- The elements of an array that is read back as it was are read back as they were. -/
theorem exact_of_array {a : JsonArray} (h : Exact (.array a)) {v : JsonValue} (hv : v ∈ a) : v.Exact := by
  have helements : rereadElements a = a := by
    rw [Exact, reread] at h
    exact JsonValue.array.inj h
  clear h
  induction a with
  | nil => cases hv
  | cons w a ih =>
    -- nothing can be read in front of an element: there would be too many
    have hlength := congrArg List.length helements
    have hrest := le_length_rereadElements a
    rw [rereadElements, List.length_append, List.length_cons, List.length_cons] at hlength
    have hbefore : w.before = [] := List.eq_nil_of_length_eq_zero (by omega)
    rw [rereadElements, hbefore, List.nil_append] at helements
    obtain ⟨hw, ha⟩ := List.cons.inj helements
    rcases List.mem_cons.mp hv with rfl | hv
    · exact hw
    · exact ih hv ha

theorem Exact.number {v number : JsonValue} (h : v.Exact) (hnumber : v.HasNumber number) : number.Exact := by
  induction hnumber with
  | integer => exact h
  | real => exact h
  | member hfind _ ih => exact ih ((exact_map.mp h).find? hfind)
  | element hmem _ ih => exact ih (exact_of_array h hmem)

/-- A sorted value is read back as it was if all its numbers are. -/
theorem Sorted.exact {v : JsonValue} (hv : v.Sorted) (h : ∀ number, v.HasNumber number → number.Exact) :
    v.Exact := by
  match v with
  | .null => exact exact_null
  | .integer i => exact h _ (.integer i)
  | .real x => exact h _ (.real x)
  | .boolean b => exact exact_boolean b
  | .string s => exact exact_string s
  | .map m =>
    refine exact_map.mpr (JsonMap.exact_iff.mpr ⟨hv, fun key v hfind => ?_⟩)
    have hmem := JsonMap.mem_of_find? hfind
    have hsize : sizeOf v < sizeOf m := by
      have hmember := List.sizeOf_lt_of_mem hmem
      rw [Prod.mk.sizeOf_spec] at hmember
      omega
    exact Sorted.exact (JsonMap.Sorted.find? hv hfind) fun number hnumber => h number (.member hfind hnumber)
  | .array a =>
    refine exact_array fun v hmem => ?_
    have hsize := List.sizeOf_lt_of_mem hmem
    exact Sorted.exact (sortedElements_iff.mp hv v hmem) fun number hnumber => h number (.element hmem hnumber)
termination_by sizeOf v

end JsonValue

/-- The request is read back as it was. -/
def RequestMessage.Exact (request : RequestMessage) : Prop := request.reread = request

namespace RequestMessage

variable {request : RequestMessage}

theorem exact_iff : request.Exact ↔
    request.id.Exact ∧ request.params.Exact ∧ request.metadata.Exact := by
  obtain ⟨id, method, params, metadata⟩ := request
  simp [Exact, reread, JsonValue.Exact, JsonMap.Exact]

/-- The members of a written request have different keys, whatever they are. -/
theorem nodup_toMap (msg : RequestMessage) : (msg.toMap.map Prod.fst).Nodup := by
  have hmethod (v w : JsonValue) :
      ((JsonMap.set (JsonMap.set [] "jsonrpc" v) "method" w).map Prod.fst).Pairwise (· < ·) :=
    JsonMap.pairwise_set (JsonMap.pairwise_set List.Pairwise.nil _ _) _ _
  refine List.Pairwise.imp (fun h => ne_of_lt h) (S := (· ≠ ·)) (R := (· < ·)) ?_
  unfold RequestMessage.toMap
  dsimp only
  split <;> split
  · exact JsonMap.pairwise_set (hmethod _ _) _ _
  · exact JsonMap.pairwise_set (JsonMap.pairwise_set (hmethod _ _) _ _) _ _
  · exact JsonMap.pairwise_set (JsonMap.pairwise_set (hmethod _ _) _ _) _ _
  · exact JsonMap.pairwise_set (JsonMap.pairwise_set (JsonMap.pairwise_set (hmethod _ _) _ _) _ _) _ _

/-- A request that is written is read as the codec gives it back. -/
theorem reads_serialize (msg : RequestMessage) :
    Codec.api.ReadsRequest (msg.serialize Codec.api) msg.reread := by
  have hfind := JsonMap.find?_reread_of_nodup (nodup_toMap msg)
  have hcontains : msg.toMap.reread.isRequest :=
    (JsonMap.isRequest_reread msg.toMap).trans (isRequest_toMap msg)
  have hid : msg.toMap.reread.contains "id" := by
    rw [JsonMap.isRequest, Bool.and_eq_true] at hcontains
    exact hcontains.2
  refine ⟨_, _, Codec.api_roundTrip msg.toMap, hcontains,
    (JsonMap.parseRequest_eq_ok hid).mpr ⟨?_, ?_, ?_, ?_, rfl⟩⟩
  · rw [hfind, find?_toMap_method]
    rfl
  · rw [JsonMap.readMetadata_eq_ok, hfind, find?_toMap_metadata]
    cases hempty : msg.metadata.isEmpty with
    | true =>
      have hnil : msg.metadata = [] := List.isEmpty_iff.mp hempty
      exact .inr ⟨rfl, by rw [reread, hnil]; rfl⟩
    | false => exact .inl rfl
  · rw [JsonMap.get, hfind, find?_toMap_id]
    rfl
  · have hparams := get_toMap_params msg
    rw [JsonMap.get] at hparams
    rw [JsonMap.fst_readParams, JsonMap.contains, JsonMap.get, JsonMap.get, hfind, hfind,
      find?_toMap_param]
    simp only [reread, ← hparams]
    cases msg.toMap.find? "params" <;> rfl

/-- An exact request is read as it was written. -/
theorem Exact.reads_serialize (h : request.Exact) :
    Codec.api.ReadsRequest (request.serialize Codec.api) request := by
  have hreads := RequestMessage.reads_serialize request
  rwa [h] at hreads

theorem Exact.toMap (h : request.Exact) : request.toMap.Exact := by
  obtain ⟨hid, hparams, hmetadata⟩ := exact_iff.mp h
  have hmethod : JsonMap.Exact
      (JsonMap.set (JsonMap.set [] "jsonrpc" (.string "2.0")) "method" (.string request.method)) :=
    (JsonMap.exact_nil.set (JsonValue.exact_string _)).set (JsonValue.exact_string _)
  unfold RequestMessage.toMap
  dsimp only
  split <;> split
  · exact hmethod.set hid
  · exact (hmethod.set hparams).set hid
  · exact (hmethod.set hid).set (JsonValue.exact_map.mpr hmetadata)
  · exact ((hmethod.set hparams).set hid).set (JsonValue.exact_map.mpr hmetadata)

/-- The request with another member in its metadata. -/
theorem Exact.setMetadata (h : request.Exact) {key : String} {v : JsonValue} (hv : v.Exact) :
    Exact { request with metadata := request.metadata.set key v } := by
  obtain ⟨hid, hparams, hmetadata⟩ := exact_iff.mp h
  exact exact_iff.mpr ⟨hid, hparams, hmetadata.set hv⟩

end RequestMessage

/-- What is read in an object that is read back as it was, is too. -/
theorem JsonMap.Exact.parseRequest {m m' : JsonMap} {request : RequestMessage} (h : m.Exact)
    (hrequest : m.isRequest) (hread : m.parseRequest = .ok (request, m')) :
    request.Exact ∧ m'.Exact := by
  rw [isRequest, Bool.and_eq_true] at hrequest
  obtain ⟨-, hmetadata, hid, hparams, rfl⟩ := (parseRequest_eq_ok hrequest.2).mp hread
  refine ⟨RequestMessage.exact_iff.mpr ⟨?_, ?_, h.readMetadata hmetadata⟩, h.readParams.2⟩
  · rw [hid]
    exact h.get _
  · rw [hparams]
    exact h.readParams.1

/-- A request that was read and is written again is read once more. -/
theorem JsonMap.Exact.reads {m m' : JsonMap} {request : RequestMessage} (h : m.Exact)
    (hrequest : m.isRequest) (hread : m.parseRequest = .ok (request, m')) :
    Codec.api.ReadsRequest (Codec.api.print m') request := by
  obtain ⟨hexact, hexact'⟩ := h.parseRequest hrequest hread
  obtain ⟨-, hrequest', m'', hread'⟩ := parseRequest_reread h.sorted hrequest hread
  rw [hexact'] at hrequest' hread'
  rw [hexact] at hread'
  exact ⟨m', m'', hexact'.parse, hrequest', hread'⟩

namespace ResponseMessage

variable {msg : ResponseMessage}

/-- The members of a written response have different keys, whatever they are. -/
theorem nodup_toMap (msg : ResponseMessage) : (msg.toMap.map Prod.fst).Nodup := by
  have hresult (v w : JsonValue) :
      ((JsonMap.set (JsonMap.set [] "jsonrpc" v) "result" w).map Prod.fst).Pairwise (· < ·) :=
    JsonMap.pairwise_set (JsonMap.pairwise_set List.Pairwise.nil _ _) _ _
  refine List.Pairwise.imp (fun h => ne_of_lt h) (S := (· ≠ ·)) (R := (· < ·)) ?_
  unfold ResponseMessage.toMap
  dsimp only
  split <;> split
  · exact JsonMap.pairwise_set (JsonMap.pairwise_set (hresult _ _) _ _) _ _
  · exact JsonMap.pairwise_set (hresult _ _) _ _
  · exact JsonMap.pairwise_set
      (JsonMap.pairwise_set (JsonMap.pairwise_set (hresult _ _) _ _) _ _) _ _
  · exact JsonMap.pairwise_set (JsonMap.pairwise_set (hresult _ _) _ _) _ _

/-- A response that is read has the id that was written. -/
theorem get_reread_id (msg : ResponseMessage) : msg.toMap.reread.get "id" = msg.id.reread := by
  rw [JsonMap.get, JsonMap.find?_reread_of_nodup (nodup_toMap msg), find?_toMap_id]
  rfl

/-- A response without metadata, as an object. -/
theorem find?_toMap_metadata_of_nil (h : msg.metadata = []) : msg.toMap.find? "metadata" = none := by
  rw [find?_toMap_metadata, h]
  rfl

end ResponseMessage

/-- The members of a written notification have different keys, whatever they are. -/
theorem NotifyMessage.nodup_toMap (msg : NotifyMessage) : (msg.toMap.map Prod.fst).Nodup := by
  have hmethod (v w : JsonValue) :
      ((JsonMap.set (JsonMap.set [] "jsonrpc" v) "method" w).map Prod.fst).Pairwise (· < ·) :=
    JsonMap.pairwise_set (JsonMap.pairwise_set List.Pairwise.nil _ _) _ _
  refine List.Pairwise.imp (fun h => ne_of_lt h) (S := (· ≠ ·)) (R := (· < ·)) ?_
  unfold NotifyMessage.toMap
  dsimp only
  split <;> split
  · exact hmethod _ _
  · exact JsonMap.pairwise_set (hmethod _ _) _ _
  · exact JsonMap.pairwise_set (hmethod _ _) _ _
  · exact JsonMap.pairwise_set (JsonMap.pairwise_set (hmethod _ _) _ _) _ _

/-! ## Texts that can be routed -/

/-- A text that can be given more metadata on its way: its object has an object of them,
or none. -/
def Writable (text : String) : Prop :=
  ∃ message metadata, Codec.api.parse text = .ok message ∧ message.readMetadata = .ok metadata

theorem writable_print {m : JsonMap} (hm : (m.map Prod.fst).Nodup)
    (hmetadata : m.find? "metadata" = none ∨ ∃ metadata, m.find? "metadata" = some (.map metadata)) :
    Writable (Codec.api.print m) := by
  have hfind : m.reread.find? "metadata" = (m.find? "metadata").map JsonValue.reread :=
    JsonMap.find?_reread_of_nodup hm _
  rcases hmetadata with hnone | ⟨metadata, hsome⟩
  · refine ⟨m.reread, [], Codec.api_roundTrip m, JsonMap.readMetadata_eq_ok.mpr (.inr ⟨?_, rfl⟩)⟩
    rw [hfind, hnone]
    rfl
  · refine ⟨m.reread, JsonMap.reread metadata, Codec.api_roundTrip m, JsonMap.readMetadata_eq_ok.mpr (.inl ?_)⟩
    rw [hfind, hsome]
    rfl

theorem writable_response (msg : ResponseMessage) : Writable (msg.serialize Codec.api) := by
  refine writable_print msg.nodup_toMap ?_
  rw [ResponseMessage.find?_toMap_metadata]
  split
  · exact .inl rfl
  · exact .inr ⟨_, rfl⟩

theorem writable_request (msg : RequestMessage) : Writable (msg.serialize Codec.api) := by
  refine writable_print msg.nodup_toMap ?_
  rw [RequestMessage.find?_toMap_metadata]
  split
  · exact .inl rfl
  · exact .inr ⟨_, rfl⟩

theorem writable_notify (msg : NotifyMessage) : Writable (msg.serialize Codec.api) := by
  refine writable_print msg.nodup_toMap ?_
  rw [NotifyMessage.find?_toMap_metadata]
  split
  · exact .inl rfl
  · exact .inr ⟨_, rfl⟩

end StreamCloud
