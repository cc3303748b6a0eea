-- SUMMARY: The cursor of a group is always at a member, and its members get their messages in turn, whatever the other groups of the storage do.
import StreamCloud.Core.Cooperation

/-!
# Round robin over a group

A group sends to the members of its layer in turn. New members have higher ids than
all there are, so that they come in behind the others, whichever groups took ids in
between; and no call on another group touches the layer (`Sound.perform`). Thus a run
of calls is a run of `RoundRobin.Turns` for each of the groups.
-/

namespace StreamCloud

variable {α : Type}

open RoundRobin

namespace Cooperation

/-- The storage is in order, every group stands for something and has its cursor at a
member, and no two groups have one vertex. -/
structure Sound (c : Cooperation α) : Prop where
  indexed : c.storageSpace.Indexed
  represents : ∀ x g, c.groups.lookup x = some g → ∃ G, g.Represents c.storageSpace G
  inside : ∀ x g, c.groups.lookup x = some g → (g.ring c.storageSpace).Inside
  apart : ∀ x y g g', c.groups.lookup x = some g → c.groups.lookup y = some g' →
    g.entryPoint = g'.entryPoint → x = y

/-- The vertex that the cursor of a group is at. -/
def atCursor (c : Cooperation α) (x : String) : Option ℕ := do
  let g ← c.groups.lookup x
  (g.ring c.storageSpace).members[(g.ring c.storageSpace).cursor]?

/-- What a call delivers through the group `x`: a message, and the vertex whose turn it
was. -/
def delivered (c : Cooperation α) (x : String) (call : Call α) (out : List (Envelope α)) :
    List (ℕ × Envelope α) :=
  match call with
  | .send y _ => if y = x then (c.atCursor x).toList.zip out else []
  | _ => []

def Call.isSend (x : String) : Call α → Bool
  | .send y _ => y == x
  | _ => false

variable {name : α → String} {c c' : Cooperation α} {call : Call α} {out : List (Envelope α)}

theorem sound_empty : (empty : Cooperation α).Sound where
  indexed := StorageSpace.indexed_empty
  represents _ _ h := nomatch h
  inside _ _ h := nomatch h
  apart _ _ _ _ h := nomatch h

/-- What a call makes of all groups that there are. -/
def Follow (c : Cooperation α) (served : String → List ℕ) (c' : Cooperation α) : Prop :=
  ∀ x g, c.groups.lookup x = some g →
    ∃ g', c'.groups.lookup x = some g' ∧ g.Follows c.storageSpace (served x) c'.storageSpace g'

namespace Sound

theorem follow_refl (h : c.Sound) : c.Follow (fun _ => []) c := by
  intro x g hx
  obtain ⟨G, hG⟩ := h.represents x g hx
  exact ⟨g, hx, hG.follows⟩

/-- A call that makes no group leaves the groups sound, if it keeps to what is asked of
each of them. -/
theorem of_follow (h : c.Sound) (hindexed : c'.storageSpace.Indexed)
    (hgroups : ∀ x g', c'.groups.lookup x = some g' → ∃ g, c.groups.lookup x = some g)
    {served : String → List ℕ} (hfollow : c.Follow served c') : c'.Sound := by
  have hback : ∀ x g', c'.groups.lookup x = some g' → ∃ g, c.groups.lookup x = some g ∧
      g.Follows c.storageSpace (served x) c'.storageSpace g' := by
    intro x g' hx'
    obtain ⟨g, hx⟩ := hgroups x g' hx'
    obtain ⟨g'', hx'', hfollows⟩ := hfollow x g hx
    obtain rfl := Option.some.inj (hx'.symm.trans hx'')
    exact ⟨g, hx, hfollows⟩
  refine ⟨hindexed, ?_, ?_, ?_⟩
  · intro x g' hx'
    obtain ⟨g, -, hfollows⟩ := hback x g' hx'
    exact hfollows.represents
  · intro x g' hx'
    obtain ⟨g, hx, hfollows⟩ := hback x g' hx'
    exact hfollows.turns.inside (h.inside x g hx)
  · intro x y g' k' hx' hy' hentry
    obtain ⟨g, hx, hfollows⟩ := hback x g' hx'
    obtain ⟨k, hy, hfollows'⟩ := hback y k' hy'
    apply h.apart x y g k hx hy
    exact hfollows.entryPoint.symm.trans (hentry.trans hfollows'.entryPoint)

/-- A call on the group `x`. -/
theorem follow_insert {x : String} {g g' : AbstractGroup} {s' : StorageSpace α} {served : List ℕ}
    (hx : c.groups.lookup x = some g) (hfollows : g.Follows c.storageSpace served s' g')
    (hothers : ∀ y k, y ≠ x → c.groups.lookup y = some k → k.Follows c.storageSpace [] s' k) :
    c.Follow (fun y => if x = y then served else []) ⟨s', c.groups.insert x g'⟩ := by
  intro y k hy
  by_cases hyx : x = y
  · subst hyx
    obtain rfl := Option.some.inj (hx.symm.trans hy)
    refine ⟨g', AList.lookup_insert _, ?_⟩
    show g.Follows _ (if x = x then served else []) _ g'
    rwa [if_pos rfl]
  · refine ⟨k, (AList.lookup_insert_ne (Ne.symm hyx)).trans hy, ?_⟩
    show k.Follows _ (if x = y then served else []) _ k
    rw [if_neg hyx]
    exact hothers y k (Ne.symm hyx) hy

theorem insert (h : c.Sound) {x : String} {g g' : AbstractGroup} {s' : StorageSpace α} {served : List ℕ}
    (hindexed : s'.Indexed) (hx : c.groups.lookup x = some g)
    (hfollow : c.Follow (fun y => if x = y then served else []) ⟨s', c.groups.insert x g'⟩) :
    (⟨s', c.groups.insert x g'⟩ : Cooperation α).Sound := by
  refine h.of_follow hindexed ?_ hfollow
  intro y k hy
  by_cases hyx : y = x
  · exact ⟨g, hyx ▸ hx⟩
  · exact ⟨k, (AList.lookup_insert_ne hyx).symm.trans hy⟩

theorem createdGroup (h : c.Sound) (t : α) :
    (c.createdGroup name t).1.Sound ∧ c.Follow (fun _ => []) (c.createdGroup name t).1 := by
  have hstorage : (c.createdGroup name t).1.storageSpace = (c.storageSpace.add t).1 := rfl
  have hgroups : (c.createdGroup name t).1.groups =
      c.groups.emplace (name t) (AbstractGroup.new c.storageSpace t).2.1 := rfl
  have hnew := AbstractGroup.new_represents h.indexed t
  have hfollow : c.Follow (fun _ => []) (c.createdGroup name t).1 := by
    intro x g hx
    obtain ⟨G, hG⟩ := h.represents x g hx
    refine ⟨g, ?_, hG.follows_stored h.indexed t⟩
    rw [hgroups]
    by_cases hname : x = name t
    · rw [hname, AList.lookup_emplace_self, ← hname, hx]
      rfl
    · rw [AList.lookup_emplace_ne hname, hx]
  -- a group that is there was there, or is the new one
  have hback : ∀ x g', (c.createdGroup name t).1.groups.lookup x = some g' →
      c.groups.lookup x = some g' ∨ c.groups.lookup x = none ∧ x = name t ∧
        g' = (AbstractGroup.new c.storageSpace t).2.1 := by
    intro x g' hx'
    rw [hgroups] at hx'
    by_cases hname : x = name t
    · subst hname
      rw [AList.lookup_emplace_self] at hx'
      cases hx : c.groups.lookup (name t) with
      | none =>
        rw [hx] at hx'
        exact .inr ⟨rfl, rfl, (Option.some.inj hx').symm⟩
      | some g =>
        rw [hx] at hx'
        exact .inl hx'
    · rw [AList.lookup_emplace_ne hname] at hx'
      exact .inl hx'
  have hkept : ∀ x g, c.groups.lookup x = some g →
      g.Follows c.storageSpace [] (c.createdGroup name t).1.storageSpace g ∧
        g.entryPoint ≠ (AbstractGroup.new c.storageSpace t).2.1.entryPoint := by
    intro x g hx
    obtain ⟨G, hG⟩ := h.represents x g hx
    exact ⟨hG.follows_stored h.indexed t, hG.known.entryPoint.ne⟩
  refine ⟨⟨h.indexed.add t, ?_, ?_, ?_⟩, hfollow⟩
  · intro x g' hx'
    rcases hback x g' hx' with hx | ⟨-, -, rfl⟩
    · exact (hkept x g' hx).1.represents
    · exact ⟨_, hnew⟩
  · intro x g' hx'
    rcases hback x g' hx' with hx | ⟨-, -, rfl⟩
    · exact (hkept x g' hx).1.turns.inside (h.inside x g' hx)
    · refine .inl ⟨?_, rfl⟩
      have hlayer := hnew.layer.length_eq
      exact List.length_eq_zero_iff.mp hlayer.symm
  · intro x y g k hx' hy' hentry
    rcases hback x g hx' with hx | ⟨-, rfl, rfl⟩ <;> rcases hback y k hy' with hy | ⟨-, rfl, rfl⟩
    · exact h.apart x y g k hx hy hentry
    · exact absurd hentry (hkept x g hx).2
    · exact absurd hentry.symm (hkept y k hy).2
    · rfl

end Sound

/-! ## One call -/

/-- What a call does: to the groups, to the actors under their ids, and to the members
that get a message. -/
structure Performed (c : Cooperation α) (call : Call α) (out : List (Envelope α)) (c' : Cooperation α) : Prop where
  sound : c'.Sound
  follow : c.Follow (fun x => (c.delivered x call out).map Prod.fst) c'
  kept : ∀ v t, c.storageSpace.get v = .ok t → c'.storageSpace.get v = .ok t
  addressed : ∀ x, ∀ p ∈ c.delivered x call out, c.storageSpace.get p.1 = .ok p.2.dest
  one : ∀ x g, c.groups.lookup x = some g → (g.ring c.storageSpace).members ≠ [] →
    (c.delivered x call out).length = if call.isSend x then 1 else 0

namespace Sound

theorem get_add (h : c.Sound) {v : ℕ} {t : α} (hv : c.storageSpace.get v = .ok t) (t' : α) :
    (c.storageSpace.add t').1.get v = .ok t := by
  have hlt : v < c.storageSpace.actors.counter := by
    rw [← h.indexed.filled, ← AList.lookup_isSome, Storage.getActor_eq_ok.mp hv]
    rfl
  rw [h.indexed.get_add, if_neg hlt.ne, hv]

/-- A call other than `send` delivers nothing. -/
theorem performed_quiet (hsound : c'.Sound) (hquiet : ∀ x, call.isSend x = false)
    (hfollow : c.Follow (fun _ => []) c')
    (hkept : ∀ v t, c.storageSpace.get v = .ok t → c'.storageSpace.get v = .ok t) :
    c.Performed call out c' := by
  have hnothing : ∀ x, c.delivered x call out = [] := by
    intro x
    cases call with
    | send y msg =>
      have hself := hquiet y
      simp [Call.isSend] at hself
    | _ => rfl
  refine ⟨hsound, ?_, hkept, ?_, ?_⟩
  · simpa only [hnothing, List.map_nil] using hfollow
  · intro x p hp
    rw [hnothing] at hp
    cases hp
  · intro x g _ _
    rw [hnothing, hquiet]
    rfl

/-- A send through a group, whose member has the turn that is due. -/
theorem performed_of_follows (h : c.Sound) {x : String} {msg : Envelope α} {g : AbstractGroup}
    (g' : AbstractGroup)
    (hx : c.groups.lookup x = some g)
    (hfollows : g.Follows c.storageSpace ((c.delivered x (.send x msg) out).map Prod.fst) c.storageSpace g')
    (haddressed : ∀ p ∈ c.delivered x (.send x msg) out, c.storageSpace.get p.1 = .ok p.2.dest)
    (hone : (g.ring c.storageSpace).members ≠ [] → (c.delivered x (.send x msg) out).length = 1) :
    c.Performed (.send x msg) out { c with groups := c.groups.insert x g' } := by
  have hothers : ∀ y k, y ≠ x → c.groups.lookup y = some k →
      k.Follows c.storageSpace [] c.storageSpace k := by
    intro y k _ hy
    obtain ⟨K, hK⟩ := h.represents y k hy
    exact hK.follows
  have hotherwise : ∀ y, x ≠ y → c.delivered y (.send x msg) out = [] := fun y hne => if_neg hne
  have hserved : (fun y => if x = y then (c.delivered x (.send x msg) out).map Prod.fst else []) =
      fun y => (c.delivered y (.send x msg) out).map Prod.fst := by
    funext y
    by_cases hxy : x = y
    · subst hxy
      exact if_pos rfl
    · rw [if_neg hxy, hotherwise y hxy]
      rfl
  have hfollow := follow_insert hx hfollows hothers
  refine ⟨h.insert h.indexed hx hfollow, hserved ▸ hfollow, fun _ _ hv => hv, ?_, ?_⟩
  · intro y p hp
    by_cases hxy : x = y
    · subst hxy
      exact haddressed p hp
    · rw [hotherwise y hxy] at hp
      cases hp
  · intro y k hy hne
    by_cases hxy : x = y
    · subst hxy
      obtain rfl := Option.some.inj (hx.symm.trans hy)
      rw [hone hne]
      simp [Call.isSend]
    · rw [hotherwise y hxy]
      simp [Call.isSend, hxy]

/-- A send through a group that there is, returns. Nobody gets the message only if
nobody is there. -/
theorem send (h : c.Sound) {x : String} {g : AbstractGroup} (hx : c.groups.lookup x = some g)
    (msg : Envelope α) : ∃ c' sent out, c.send x msg = .ok (c', sent, out) ∧
      (sent = false ↔ (g.ring c.storageSpace).members = []) ∧ c.Performed (.send x msg) out c' := by
  obtain ⟨G, hG⟩ := h.represents x g hx
  have hgroup : c.group x = .ok g := group_eq_ok.mpr hx
  have hcursor : c.atCursor x = (g.ring c.storageSpace).members[(g.ring c.storageSpace).cursor]? := by
    unfold atCursor
    rw [hx]
    rfl
  have hdelivered : ∀ out, c.delivered x (.send x msg) out = (c.atCursor x).toList.zip out :=
    fun out => if_pos rfl
  rcases h.inside x g hx with ⟨hnone, -⟩ | hlt
  · have hnothing : c.delivered x (.send x msg) [] = [] := by rw [hdelivered, List.zip_nil_right]
    refine ⟨_, false, [], ?_, by simp [hnone], h.performed_of_follows g hx ?_ ?_ ?_⟩
    · unfold Cooperation.send
      rw [hgroup, Except.ok_bind', hG.send_nobody h.indexed msg hnone]
      rfl
    · rw [hnothing]
      exact hG.follows
    · rw [hnothing]
      exact fun p hp => nomatch hp
    · exact fun hne => absurd hnone hne
  · -- the member at the cursor has its turn
    have hid : (g.ring c.storageSpace).members[(g.ring c.storageSpace).cursor]? =
        some (g.ring c.storageSpace).members[(g.ring c.storageSpace).cursor] := List.getElem?_eq_getElem hlt
    obtain ⟨address, haddress, hsend⟩ := hG.send h.indexed msg hid
    have hone : c.delivered x (.send x msg) [{ msg with dest := address }] =
        [((g.ring c.storageSpace).members[(g.ring c.storageSpace).cursor], { msg with dest := address })] := by
      rw [hdelivered, hcursor, hid]
      rfl
    have hsome : (g.ring c.storageSpace).members ≠ [] := List.ne_nil_of_mem (List.mem_of_getElem? hid)
    refine ⟨_, true, [{ msg with dest := address }], ?_, by simp [hsome],
      h.performed_of_follows { g with cursor := (g.ring c.storageSpace).next } hx ?_ ?_ ?_⟩
    · unfold Cooperation.send
      rw [hgroup, Except.ok_bind', hsend]
      rfl
    · rw [hone]
      exact hG.follows_send hid
    · rw [hone]
      intro p hp
      rw [List.mem_singleton.mp hp]
      exact haddress
    · rw [hone]
      exact fun _ => rfl

theorem add (h : c.Sound) {x : String} {g : AbstractGroup} (hx : c.groups.lookup x = some g) (t : α) :
    ∃ c' out, c.add x t = .ok (c', out) ∧ c.Performed (.add x t) out c' := by
  obtain ⟨G, hG⟩ := h.represents x g hx
  have hadd := (hG.add h.indexed t).1
  have hfollow := follow_insert hx (hG.follows_grown h.indexed t) fun y k hne hy => by
    obtain ⟨K, hK⟩ := h.represents y k hy
    exact hK.follows_grown_other h.indexed hG.known (fun heq => hne (h.apart y x k g hy hx heq)) t
  refine ⟨⟨g.grown c.storageSpace t, c.groups.insert x g⟩, (G.add t).2, ?_, ?_⟩
  · unfold Cooperation.add
    rw [group_eq_ok.mpr hx, Except.ok_bind', hadd]
    rfl
  · apply performed_quiet (h.insert (AbstractGroup.grown_indexed h.indexed hG.known t) hx hfollow)
    · exact fun _ => rfl
    · simpa only [ite_self] using hfollow
    · exact fun v t' hv => h.get_add hv t

theorem addShared (h : c.Sound) {x : String} {g : AbstractGroup} (hx : c.groups.lookup x = some g)
    (t : α) : ∃ c' out, c.addShared x t = .ok (c', out) ∧ c.Performed (.addShared x t) out c' := by
  obtain ⟨G, hG⟩ := h.represents x g hx
  have hfollow := follow_insert hx (hG.follows_addShared h.indexed t) fun y k _ hy => by
    obtain ⟨K, hK⟩ := h.represents y k hy
    exact hK.follows_stored h.indexed t
  refine ⟨⟨(c.storageSpace.add t).1, c.groups.insert x
    { g with sharedPoint := g.sharedPoint ++ [c.storageSpace.actors.counter] }⟩, (G.addShared t).2, ?_, ?_⟩
  · unfold Cooperation.addShared
    rw [group_eq_ok.mpr hx, Except.ok_bind', (hG.addShared h.indexed t).1]
    rfl
  · apply performed_quiet (h.insert (h.indexed.add t) hx hfollow)
    · exact fun _ => rfl
    · simpa only [ite_self] using hfollow
    · exact fun v t' hv => h.get_add hv t

theorem perform (h : c.Sound) (hperform : c.perform name call = .ok (c', out)) :
    c.Performed call out c' := by
  have hsame : ∀ call : Call α, (∀ x, call.isSend x = false) → c.Performed call out c :=
    fun call hquiet => performed_quiet h hquiet h.follow_refl fun _ _ hv => hv
  cases call with
  | createdGroup t =>
    have hcreated : (c.createdGroup name t).1.Sound ∧ c.Follow (fun _ => []) (c.createdGroup name t).1 :=
      h.createdGroup t
    obtain ⟨hsound, hfollow⟩ := hcreated
    obtain rfl : (c.createdGroup name t).1 = c' := congrArg Prod.fst (Except.ok.inj hperform)
    exact performed_quiet hsound (fun _ => rfl) hfollow fun v t' hv => h.get_add hv t
  | add x t =>
    obtain ⟨g, hg, -⟩ := Except.bind_eq_ok.mp hperform
    obtain ⟨c'', out', hadd, hperformed⟩ := h.add (group_eq_ok.mp hg) t
    obtain ⟨rfl, rfl⟩ := Prod.mk.inj (Except.ok.inj (hadd.symm.trans hperform))
    exact hperformed
  | addShared x t =>
    obtain ⟨g, hg, -⟩ := Except.bind_eq_ok.mp hperform
    obtain ⟨c'', out', hadd, hperformed⟩ := h.addShared (group_eq_ok.mp hg) t
    obtain ⟨rfl, rfl⟩ := Prod.mk.inj (Except.ok.inj (hadd.symm.trans hperform))
    exact hperformed
  | join x y =>
    obtain ⟨out', -, hend⟩ := Except.bind_eq_ok.mp hperform
    obtain ⟨rfl, rfl⟩ := Prod.mk.inj (Except.ok.inj hend)
    exact hsame _ fun _ => rfl
  | link x y =>
    obtain ⟨out', -, hend⟩ := Except.bind_eq_ok.mp hperform
    obtain ⟨rfl, rfl⟩ := Prod.mk.inj (Except.ok.inj hend)
    exact hsame _ fun _ => rfl
  | broadcast x msg =>
    obtain ⟨r, -, hend⟩ := Except.bind_eq_ok.mp hperform
    obtain ⟨rfl, -⟩ := Prod.mk.inj (Except.ok.inj hend)
    exact hsame _ fun _ => rfl
  | send x msg =>
    obtain ⟨r, hsend, hend⟩ := Except.bind_eq_ok.mp hperform
    obtain ⟨rfl, rfl⟩ := Prod.mk.inj (Except.ok.inj hend)
    obtain ⟨g, hg, -⟩ := Except.bind_eq_ok.mp hsend
    obtain ⟨c'', sent, out', hsend', -, hperformed⟩ := h.send (group_eq_ok.mp hg) msg
    obtain rfl := Except.ok.inj (hsend'.symm.trans hsend)
    exact hperformed

end Sound

/-! ## Runs -/

/-- The states that calls lead to. -/
inductive Reached (name : α → String) : Cooperation α → Prop
  | empty : Reached name empty
  | call {c c' : Cooperation α} (call : Call α) {out : List (Envelope α)} :
      Reached name c → c.perform name call = .ok (c', out) → Reached name c'

theorem Reached.sound (h : Reached name c) : c.Sound := by
  induction h with
  | empty => exact sound_empty
  | call _ _ hperform ih => exact (ih.perform hperform).sound

/-- A run of calls, and what it delivers through the group `x`. -/
inductive Run (name : α → String) (x : String) :
    Cooperation α → List (Call α) → List (ℕ × Envelope α) → Cooperation α → Prop
  | refl (c : Cooperation α) : Run name x c [] [] c
  | call {c c' c'' : Cooperation α} {calls : List (Call α)} {received : List (ℕ × Envelope α)}
      {call : Call α} {out : List (Envelope α)} :
      Run name x c calls received c' → c'.perform name call = .ok (c'', out) →
      Run name x c (calls ++ [call]) (received ++ c'.delivered x call out) c''

variable {x : String} {calls : List (Call α)} {received : List (ℕ × Envelope α)}

theorem Run.sound (h : Run name x c calls received c') (hc : c.Sound) : c'.Sound := by
  induction h with
  | refl => exact hc
  | call _ hperform ih => exact (ih.perform hperform).sound

/-- What was delivered went to the actors of the members. -/
theorem Run.addressed (h : Run name x c calls received c') (hc : c.Sound) :
    ∀ p ∈ received, c'.storageSpace.get p.1 = .ok p.2.dest := by
  induction h with
  | refl => exact fun p hp => nomatch hp
  | call hrun hperform ih =>
    have hperformed := (hrun.sound hc).perform hperform
    intro p hp
    apply hperformed.kept
    rcases List.mem_append.mp hp with hp | hp
    · exact ih p hp
    · exact hperformed.addressed x p hp

/-- A run of calls is a run of turns for the group. -/
theorem Run.turns (h : Run name x c calls received c') (hc : c.Sound) {g : AbstractGroup}
    (hx : c.groups.lookup x = some g) : ∃ g', c'.groups.lookup x = some g' ∧
      g'.entryPoint = g.entryPoint ∧
      Turns (g.ring c.storageSpace) (received.map Prod.fst) (g'.ring c'.storageSpace) := by
  induction h with
  | refl => exact ⟨g, hx, rfl, .refl _⟩
  | call hrun hperform ih =>
    obtain ⟨g', hx', hentry, hturns⟩ := ih
    obtain ⟨g'', hx'', hfollows⟩ := ((hrun.sound hc).perform hperform).follow x g' hx'
    refine ⟨g'', hx'', hfollows.entryPoint.trans hentry, ?_⟩
    rw [List.map_append]
    exact hturns.trans hfollows.turns

/-- Once somebody is there, every send delivers a message. -/
theorem Run.length_received (h : Run name x c calls received c') (hc : c.Sound) {g : AbstractGroup}
    (hx : c.groups.lookup x = some g) (hne : (g.ring c.storageSpace).members ≠ []) :
    received.length = calls.countP (Call.isSend x) := by
  induction h with
  | refl => rfl
  | @call c' c'' calls received call out hrun hperform ih =>
    obtain ⟨g', hx', -, hturns⟩ := hrun.turns hc hx
    have hne' : (g'.ring c'.storageSpace).members ≠ [] := by
      intro hnone
      have hle := hturns.length_le
      rw [hnone] at hle
      exact hne (List.length_eq_zero_iff.mp (Nat.le_zero.mp hle))
    have hone := ((hrun.sound hc).perform hperform).one x g' hx' hne'
    rw [List.length_append, List.countP_append, ih, hone, List.countP_singleton]

/-- The vertices of the layer of a group. -/
def members (c : Cooperation α) (g : AbstractGroup) : List ℕ := c.storageSpace.neighbours g.entryPoint

theorem Sound.layer (h : c.Sound) {g : AbstractGroup} (hx : c.groups.lookup x = some g) :
    ∃ layer, c.storageSpace.currentLayer g.entryPoint = .ok layer ∧
      c.storageSpace.Actors (c.members g) layer := by
  obtain ⟨G, hG⟩ := h.represents x g hx
  exact ⟨G.layer, hG.currentLayer h.indexed, hG.layer⟩

theorem nodup_members (h : c.Sound) (g : AbstractGroup) : (c.members g).Nodup :=
  (h.indexed.sorted_neighbours g.entryPoint).imp fun hlt => hlt.ne

/-- As many sends as there are members, while nobody comes in: one for each. -/
theorem Run.once (h : Run name x c calls received c') (hc : c.Sound) {g g' : AbstractGroup}
    (hx : c.groups.lookup x = some g) (hx' : c'.groups.lookup x = some g')
    (hsame : (c'.members g').length = (c.members g).length)
    (hcalls : calls.countP (Call.isSend x) = (c.members g).length) :
    c'.members g' = c.members g ∧ (received.map Prod.fst).Perm (c.members g) := by
  obtain ⟨g'', hx'', -, hturns⟩ := h.turns hc hx
  obtain rfl := Option.some.inj (hx'.symm.trans hx'')
  have hmembers : c'.members g' = c.members g := by
    apply List.ext_getElem?
    intro p
    cases hp : (c.members g)[p]? with
    | some m => exact hturns.getElem?_of_getElem? hp
    | none =>
      rw [List.getElem?_eq_none_iff] at hp ⊢
      omega
  refine ⟨hmembers, ?_⟩
  by_cases hnone : c.members g = []
  · have hserved : received.map Prod.fst = [] := by
      refine List.eq_nil_iff_forall_not_mem.mpr fun m hm => ?_
      have hmem : m ∈ c'.members g' := hturns.mem_members hm
      rw [hmembers, hnone] at hmem
      cases hmem
    rw [hserved, hnone]
  · have hlength : (received.map Prod.fst).length = (c.members g).length := by
      rw [List.length_map, h.length_received hc hx hnone, hcalls]
    have honce : ∀ m ∈ c.members g, (received.map Prod.fst).count m = 1 := fun m hm =>
      hturns.once (nodup_members hc g) (hc.inside x g hx) hmembers hlength hm
    have hsubset : c.members g ⊆ received.map Prod.fst := fun m hm =>
      List.count_pos_iff.mp (honce m hm ▸ Nat.one_pos)
    exact ((nodup_members hc g).subperm hsubset |>.perm_of_length_le hlength.le).symm

end Cooperation

end StreamCloud
