-- SUMMARY: Whom the members of a group are told of, and when the order of the calls does not matter.
import StreamCloud.Core.AbstractGroup
import StreamCloud.Verification.ActorGraph

/-!
# The contacts of a group

`add_shared` tells the group of an actor and keeps it for the members to come, but
`join` only tells the members there are. How often a member is told of a contact is
counted by how often it is in the group: at the end for a shared actor
(`told_shared`), and at the join for the actor of a joined group (`told_joined`).
-/

namespace StreamCloud

variable {α : Type}

/-- A call on a group. A group that is joined is named by its entry point. -/
inductive GroupCall (α : Type)
  | add (t : α)
  | addShared (t : α)
  | join (address : α)
deriving DecidableEq

namespace GroupCall

def added? : GroupCall α → Option α
  | .add t => some t
  | _ => none

/-- Whom the group is to know by this call. -/
def contact? : GroupCall α → Option α
  | .add _ => none
  | .addShared t => some t
  | .join address => some address

def added (calls : List (GroupCall α)) : List α := calls.filterMap added?

def contacts (calls : List (GroupCall α)) : List α := calls.filterMap contact?

/-- The entry point of a group and the actors added to it. -/
def members (entryPoint : α) (calls : List (GroupCall α)) : List α := entryPoint :: added calls

end GroupCall

open GroupCall

/-! ## Calls on a group -/

namespace AbstractGroup

/-- A group made for `t`, after some calls on it: the storage and the group, and the
messages that were sent. In between other groups of the storage are at work, which
put actors into it and link other vertices. -/
inductive Called (t : α) : StorageSpace α → AbstractGroup → List (GroupCall α) → List (Envelope α) → Prop
  | new {s : StorageSpace α} {added : List (ℕ × α)} {links : List (ℕ × ℕ)} :
      s.Built added links → Called t (new s t).1 (new s t).2.1 [] (new s t).2.2
  | add {s s' : StorageSpace α} {g g' : AbstractGroup} {calls : List (GroupCall α)}
      {out out' : List (Envelope α)} {t' : α} :
      Called t s g calls out → g.add s t' = .ok (s', g', out') →
      Called t s' g' (calls ++ [.add t']) (out ++ out')
  | addShared {s s' : StorageSpace α} {g g' : AbstractGroup} {calls : List (GroupCall α)}
      {out out' : List (Envelope α)} {t' : α} :
      Called t s g calls out → g.addShared s t' = .ok (s', g', out') →
      Called t s' g' (calls ++ [.addShared t']) (out ++ out')
  | join {s : StorageSpace α} {g other : AbstractGroup} {calls : List (GroupCall α)}
      {out out' : List (Envelope α)} {address : α} :
      Called t s g calls out → s.get other.entryPoint = .ok address → g.join s other = .ok out' →
      Called t s g (calls ++ [.join address]) (out ++ out')
  | stored {s : StorageSpace α} {g : AbstractGroup} {calls : List (GroupCall α)}
      {out : List (Envelope α)} (t' : α) : Called t s g calls out → Called t (s.add t').1 g calls out
  | linked {s : StorageSpace α} {g : AbstractGroup} {calls : List (GroupCall α)}
      {out : List (Envelope α)} {i j : ℕ} :
      Called t s g calls out → i < s.actors.counter → j < s.actors.counter → i ≠ g.entryPoint →
      Called t (s.createLink i j) g calls out

end AbstractGroup

namespace Group

/-- A call on the group that is meant. -/
def call (G : Group α) : GroupCall α → Group α × List (Envelope α)
  | .add t => G.add t
  | .addShared t => G.addShared t
  | .join address => (G, G.join (Group.new address).1)

/-- Calls one after the other, and the messages that they send. -/
def calls (G : Group α) : List (GroupCall α) → Group α × List (Envelope α)
  | [] => (G, [])
  | c :: cs => (((G.call c).1.calls cs).1, (G.call c).2 ++ ((G.call c).1.calls cs).2)

theorem calls_append (G : Group α) (before after : List (GroupCall α)) :
    G.calls (before ++ after) =
      (((G.calls before).1.calls after).1, (G.calls before).2 ++ ((G.calls before).1.calls after).2) := by
  induction before generalizing G with
  | nil => simp [calls]
  | cons c before ih =>
    rw [List.cons_append, calls, ih]
    simp [calls]

theorem calls_singleton (G : Group α) (c : GroupCall α) : G.calls [c] = G.call c := by
  simp [calls]

/-- What calls make of a group. -/
theorem calls_entryPoint (G : Group α) (cs : List (GroupCall α)) :
    (G.calls cs).1.entryPoint = G.entryPoint := by
  induction cs generalizing G with
  | nil => rfl
  | cons c cs ih =>
    rw [calls, ih]
    cases c <;> rfl

theorem calls_layer (G : Group α) (cs : List (GroupCall α)) :
    (G.calls cs).1.layer = G.layer ++ added cs := by
  induction cs generalizing G with
  | nil => simp [calls, added]
  | cons c cs ih =>
    rw [calls, ih]
    cases c with
    | add t => simp [call, Group.add, added, added?]
    | addShared t => rfl
    | join address => rfl

end Group

namespace AbstractGroup

/-- A group after some calls is the group that is meant, after the same calls. -/
theorem Called.represents {t : α} {s : StorageSpace α} {g : AbstractGroup} {cs : List (GroupCall α)}
    {out : List (Envelope α)} (h : Called t s g cs out) :
    s.Indexed ∧ g.Represents s ((Group.new t).1.calls cs).1 ∧
      out = (Group.new t).2 ++ ((Group.new t).1.calls cs).2 := by
  induction h with
  | new hs =>
    have hindexed := hs.holds.indexed
    exact ⟨hindexed.add t, new_represents hindexed t, (List.append_nil _).symm⟩
  | @add s s' g g' cs out out' t' _ hadd ih =>
    obtain ⟨hs, hg, hout⟩ := ih
    obtain ⟨hcall, hafter⟩ := hg.add hs t'
    obtain ⟨rfl, rfl, rfl⟩ : _ = s' ∧ _ = g' ∧ _ = out' := by simpa using hcall.symm.trans hadd
    rw [Group.calls_append, Group.calls_singleton]
    exact ⟨grown_indexed hs hg.known t', hafter, by rw [hout, List.append_assoc]; rfl⟩
  | @addShared s s' g g' cs out out' t' _ hadd ih =>
    obtain ⟨hs, hg, hout⟩ := ih
    obtain ⟨hcall, hafter⟩ := hg.addShared hs t'
    obtain ⟨rfl, rfl, rfl⟩ : _ = s' ∧ _ = g' ∧ _ = out' := by simpa using hcall.symm.trans hadd
    rw [Group.calls_append, Group.calls_singleton]
    exact ⟨hs.add t', hafter, by rw [hout, List.append_assoc]; rfl⟩
  | @join s g other cs out out' address _ haddress hjoin ih =>
    obtain ⟨hs, hg, hout⟩ := ih
    have hcall : g.join s other = .ok (((Group.new t).1.calls cs).1.join (Group.new address).1) := by
      unfold AbstractGroup.join
      rw [hg.entryPoint, Except.ok_bind', haddress, Except.ok_bind', hg.currentLayer hs]
      rfl
    obtain rfl := Except.ok.inj (hcall.symm.trans hjoin)
    rw [Group.calls_append, Group.calls_singleton]
    exact ⟨hs, hg, by rw [hout, List.append_assoc]; rfl⟩
  | stored t' _ ih =>
    obtain ⟨hs, hg, hout⟩ := ih
    exact ⟨hs.add t', hg.stored hs t', hout⟩
  | linked _ hi hj hne ih =>
    obtain ⟨hs, hg, hout⟩ := ih
    exact ⟨hs.createLink hi hj, hg.linked hs hi hj (Ne.symm hne), hout⟩

/-- No call throws: every sequence of calls can be made. -/
theorem exists_called (t : α) (cs : List (GroupCall α)) : ∃ s g out, Called t s g cs out := by
  induction cs using List.reverseRecOn with
  | nil => exact ⟨_, _, _, .new .new⟩
  | append_singleton cs c ih =>
    obtain ⟨s, g, out, h⟩ := ih
    obtain ⟨hs, hg, -⟩ := h.represents
    cases c with
    | add t' => exact ⟨_, _, _, h.add (hg.add hs t').1⟩
    | addShared t' => exact ⟨_, _, _, h.addShared (hg.addShared hs t').1⟩
    | join address =>
      -- a group made for the address, elsewhere
      have hother := new_represents hs address
      have hjoin := (hg.stored hs address).join hother (hs.add address)
      exact ⟨_, _, _, (h.stored address).join hother.entryPoint hjoin⟩

end AbstractGroup

/-! ## Counting what the members are told -/

variable [DecidableEq α]

/-- The message tells `m` the address of `c`. -/
def tells (m c : α) (e : Envelope α) : Bool :=
  decide (e.dest = m ∧ e.command = "sync_contacts" ∧ e.body = .address c)

theorem tells_iff {m c : α} {e : Envelope α} : tells m c e = true ↔ Introduces e m c :=
  decide_eq_true_iff

theorem countP_told_of (m c t : α) (l : List α) :
    (l.map fun i => Group.introduction t t i).countP (tells m c) = if t = m then l.count c else 0 := by
  rw [List.countP_map]
  split
  · next ht =>
    apply List.countP_congr
    intro i _
    simp [tells, Group.introduction, ht]
  · next ht =>
    apply List.countP_eq_zero.mpr
    intro i _
    simp [tells, Group.introduction, ht]

theorem countP_told_to (m c t : α) (l : List α) :
    (l.map fun i => Group.introduction i t t).countP (tells m c) = if t = c then l.count m else 0 := by
  rw [List.countP_map]
  split
  · next ht =>
    apply List.countP_congr
    intro i _
    simp [tells, Group.introduction, ht]
  · next ht =>
    apply List.countP_eq_zero.mpr
    intro i _
    simp [tells, Group.introduction, ht]

namespace Group

variable {G : Group α} {m c : α} {cs : List (GroupCall α)}

/-- Calls that are about other contacts tell of `c` only to new members, if it is shared. -/
theorem told_of_notMem (h : c ∉ contacts cs) :
    (G.calls cs).2.countP (tells m c) = (added cs).count m * G.sharedPoint.count c := by
  induction cs generalizing G with
  | nil => simp [calls, added]
  | cons call cs ih =>
    rw [calls, List.countP_append]
    cases call with
    | add t =>
      have hrest : c ∉ contacts cs := h
      show (G.sharedPoint.map fun i => introduction t t i).countP (tells m c) + _ = (t :: added cs).count m * _
      rw [countP_told_of, ih hrest, List.count_cons, add_mul, add_comm]
      by_cases ht : t = m <;> simp [ht, Group.call, Group.add]
    | addShared t =>
      obtain ⟨hne, hrest⟩ : c ≠ t ∧ c ∉ contacts cs := not_or.mp fun hmem => h (List.mem_cons.mpr hmem)
      show ((G.entryPoint :: G.layer).map fun i => introduction i t t).countP (tells m c) + _ =
        (added cs).count m * _
      rw [countP_told_to, if_neg (Ne.symm hne), ih hrest, zero_add]
      have hcount : (G.sharedPoint ++ [t]).count c = G.sharedPoint.count c := by
        rw [List.count_append, List.count_singleton, if_neg (by simpa using Ne.symm hne), add_zero]
      exact congrArg _ hcount
    | join address =>
      obtain ⟨hne, hrest⟩ : c ≠ address ∧ c ∉ contacts cs :=
        not_or.mp fun hmem => h (List.mem_cons.mpr hmem)
      show ((G.entryPoint :: G.layer).map fun i => introduction i address address).countP (tells m c) + _ =
        (added cs).count m * _
      rw [countP_told_to, if_neg (Ne.symm hne), ih hrest, zero_add]
      rfl

/-- A call about another contact does not share `c`. -/
theorem count_sharedPoint_of_notMem (h : c ∉ contacts cs) :
    (G.calls cs).1.sharedPoint.count c = G.sharedPoint.count c := by
  induction cs generalizing G with
  | nil => rfl
  | cons call cs ih =>
    rw [calls]
    cases call with
    | add t => exact ih (G := (G.add t).1) h
    | addShared t =>
      obtain ⟨hne, hrest⟩ : c ≠ t ∧ c ∉ contacts cs := not_or.mp fun hmem => h (List.mem_cons.mpr hmem)
      refine (ih (G := (G.addShared t).1) hrest).trans ?_
      show (G.sharedPoint ++ [t]).count c = _
      rw [List.count_append, List.count_singleton, if_neg (by simpa using Ne.symm hne), add_zero]
    | join address => exact ih fun hmem => h (List.mem_cons_of_mem _ hmem)

end Group

/-- The messages of a group made for `t` and of the calls on it. -/
def messagesOf (t : α) (cs : List (GroupCall α)) : List (Envelope α) :=
  (Group.new t).2 ++ ((Group.new t).1.calls cs).2

section Told

variable {t m c : α} {before after cs : List (GroupCall α)}

omit [DecidableEq α] in
/-- The calls that make a contact known are apart from the others. -/
theorem notMem_of_nodup {call : GroupCall α} (hcontact : call.contact? = some c)
    (h : (contacts (before ++ call :: after)).Nodup) : c ∉ contacts before ∧ c ∉ contacts after := by
  have hcontacts : contacts (before ++ call :: after) = contacts before ++ c :: contacts after := by
    simp [contacts, hcontact]
  rw [hcontacts] at h
  have hapart := (List.nodup_middle.mp h)
  have hnot := (List.nodup_cons.mp hapart).1
  exact ⟨fun hmem => hnot (List.mem_append_left _ hmem), fun hmem => hnot (List.mem_append_right _ hmem)⟩

theorem countP_messagesOf_append :
    (messagesOf t (before ++ cs)).countP (tells m c) = (messagesOf t before).countP (tells m c) +
      (((Group.new t).1.calls before).1.calls cs).2.countP (tells m c) := by
  unfold messagesOf
  rw [Group.calls_append, ← List.append_assoc, List.countP_append]

theorem told_before (h : c ∉ contacts before) : (messagesOf t before).countP (tells m c) = 0 := by
  have hchannel : ((Group.new t).2).countP (tells m c) = 0 := by
    simp [Group.new, tells]
  unfold messagesOf
  rw [List.countP_append, hchannel, Group.told_of_notMem h]
  simp [Group.new]

omit [DecidableEq α] in
theorem members_append : members t (before ++ cs) = members t before ++ added cs := by
  simp [members, added]

omit [DecidableEq α] in
theorem members_calls : ((Group.new t).1.calls before).1.entryPoint ::
    ((Group.new t).1.calls before).1.layer = members t before := by
  rw [Group.calls_entryPoint, Group.calls_layer]
  rfl

/-- Of a shared actor, a member is told as often as it is in the group. -/
theorem told_shared (h : (contacts (before ++ .addShared c :: after)).Nodup) :
    (messagesOf t (before ++ .addShared c :: after)).countP (tells m c) =
      (members t (before ++ .addShared c :: after)).count m := by
  obtain ⟨hbefore, hafter⟩ := notMem_of_nodup rfl h
  have hfresh : ((Group.new t).1.calls before).1.sharedPoint.count c = 0 := by
    rw [Group.count_sharedPoint_of_notMem hbefore]
    rfl
  have hshared : (((Group.new t).1.calls before).1.sharedPoint ++ [c]).count c = 1 := by
    rw [List.count_append, hfresh, List.count_singleton_self]
  rw [countP_messagesOf_append, told_before hbefore, zero_add, members_append, List.count_append]
  rw [Group.calls, List.countP_append, Group.told_of_notMem hafter]
  show ((((Group.new t).1.calls before).1.entryPoint :: ((Group.new t).1.calls before).1.layer).map
      fun i => Group.introduction i c c).countP (tells m c) +
    (added after).count m * (((Group.new t).1.calls before).1.sharedPoint ++ [c]).count c = _
  rw [members_calls, countP_told_to, if_pos rfl, hshared, mul_one]
  rfl

/-- Of the actor of a joined group, a member is told as often as it was in the group
at the join. -/
theorem told_joined (h : (contacts (before ++ .join c :: after)).Nodup) :
    (messagesOf t (before ++ .join c :: after)).countP (tells m c) = (members t before).count m := by
  obtain ⟨hbefore, hafter⟩ := notMem_of_nodup rfl h
  have hfresh : ((Group.new t).1.calls before).1.sharedPoint.count c = 0 := by
    rw [Group.count_sharedPoint_of_notMem hbefore]
    rfl
  rw [countP_messagesOf_append, told_before hbefore, zero_add]
  rw [Group.calls, List.countP_append, Group.told_of_notMem hafter]
  show ((((Group.new t).1.calls before).1.entryPoint :: ((Group.new t).1.calls before).1.layer).map
      fun i => Group.introduction i c c).countP (tells m c) +
    (added after).count m * ((Group.new t).1.calls before).1.sharedPoint.count c = _
  rw [members_calls, countP_told_to, if_pos rfl, hfresh, mul_zero, add_zero]

omit [DecidableEq α] in
/-- A contact is known by the call that shares it or by the one that joins it. -/
theorem split_of_contact (h : c ∈ contacts cs) : ∃ before after,
    cs = before ++ .addShared c :: after ∨ cs = before ++ .join c :: after := by
  obtain ⟨call, hcall, hcontact⟩ := List.mem_filterMap.mp h
  obtain ⟨before, after, rfl⟩ := List.append_of_mem hcall
  refine ⟨before, after, ?_⟩
  cases call with
  | add t => cases hcontact
  | addShared t =>
    cases hcontact
    exact .inl rfl
  | join address =>
    cases hcontact
    exact .inr rfl

/-- If an actor is shared, nobody is in the group twice; and at a join the group has
all of its members, each of them once. -/
structure Complete (t : α) (cs : List (GroupCall α)) : Prop where
  shared : ∀ c, .addShared c ∈ cs → (members t cs).Nodup
  joined : ∀ before address after, cs = before ++ .join address :: after →
    ∀ m ∈ members t cs, (members t before).count m = 1

/-- Each member is told of each contact exactly once. -/
def ToldOnce (t : α) (cs : List (GroupCall α)) (out : List (Envelope α)) : Prop :=
  ∀ m ∈ members t cs, ∀ c ∈ contacts cs, out.countP (tells m c) = 1

theorem toldOnce_iff (h : (contacts cs).Nodup) : ToldOnce t cs (messagesOf t cs) ↔ Complete t cs := by
  constructor
  · intro honce
    refine ⟨fun c hc => List.nodup_iff_count_eq_one.mpr fun m hm => ?_, ?_⟩
    · obtain ⟨before, after, rfl⟩ := List.append_of_mem hc
      rw [← told_shared h]
      exact honce m hm c (List.mem_filterMap.mpr ⟨_, hc, rfl⟩)
    · rintro before address after rfl m hm
      rw [← told_joined h]
      exact honce m hm address (List.mem_filterMap.mpr ⟨.join address, by simp, rfl⟩)
  · intro hcomplete m hm c hc
    obtain ⟨before, after, rfl | rfl⟩ := split_of_contact hc
    · rw [told_shared h]
      exact List.nodup_iff_count_eq_one.mp (hcomplete.shared c (by simp)) m hm
    · rw [told_joined h]
      exact hcomplete.joined before c after rfl m hm

/-- Where nobody is in the group twice, it comes to this: nobody is added after a join. -/
theorem complete_iff (h : (members t cs).Nodup) :
    Complete t cs ↔ ∀ before address after, cs = before ++ .join address :: after → added after = [] := by
  constructor
  · rintro hcomplete before address after rfl
    by_contra hne
    obtain ⟨m, hm⟩ := List.exists_mem_of_ne_nil _ hne
    rw [members_append] at h
    have hm' : m ∈ added (.join address :: after) := hm
    have hcount := hcomplete.joined before address after rfl m
      (by rw [members_append]; exact List.mem_append_right _ hm')
    have hbefore : m ∈ members t before := List.count_pos_iff.mp (hcount ▸ Nat.one_pos)
    exact (List.disjoint_of_nodup_append h) hbefore hm'
  · intro hnone
    refine ⟨fun _ _ => h, ?_⟩
    rintro before address after rfl m hm
    have hsame : members t (before ++ .join address :: after) = members t before := by
      rw [members_append]
      show members t before ++ added after = _
      rw [hnone before address after rfl, List.append_nil]
    rw [hsame] at h hm
    exact List.nodup_iff_count_eq_one.mp h m hm

omit [DecidableEq α] in
theorem contacts_perm {cs' : List (GroupCall α)} (h : cs'.Perm cs) (hnodup : (contacts cs).Nodup) :
    (contacts cs').Nodup := (h.filterMap contact?).nodup_iff.mpr hnodup

/-- Who is told of somebody is told of a contact. -/
theorem contact_of_introduces {e : Envelope α} (he : e ∈ messagesOf t cs) (h : Introduces e m c) :
    c ∈ contacts cs := by
  by_contra hnot
  have hnone := List.countP_eq_zero.mp (told_before (t := t) (m := m) hnot) e he
  exact hnone (tells_iff.mpr h)

theorem exists_introduces_iff :
    (∃ e ∈ messagesOf t cs, Introduces e m c) ↔ 0 < (messagesOf t cs).countP (tells m c) := by
  rw [List.countP_pos_iff]
  exact exists_congr fun e => and_congr_right fun _ => tells_iff.symm

omit [DecidableEq α] in
/-- Every call sends introductions, but for the channel of the group. -/
theorem introduces_or_channel {e : Envelope α} (he : e ∈ messagesOf t cs) :
    (∃ a address, Introduces e a address) ∨ e.command = "add_channel" ∧ e.body = .channel := by
  rcases List.mem_append.mp he with he | he
  · rw [List.mem_singleton.mp he]
    exact .inr ⟨rfl, rfl⟩
  · refine .inl ?_
    rename e ∈ messagesOf t cs => hall
    clear hall
    generalize (Group.new t).1 = G at he
    induction cs generalizing G with
    | nil => cases he
    | cons call cs ih =>
      rcases List.mem_append.mp he with he | he
      · cases call <;>
          · obtain ⟨i, -, rfl⟩ := List.mem_map.mp he
            exact ⟨_, _, rfl, rfl, rfl⟩
      · exact ih _ he

end Told

/-! ## What the members know -/

variable {S : Type} (P : Program α S)

/-- A program once it has handled some messages in their order. -/
def Program.informed (n : Net α S) (out : List (Envelope α)) : Net α S :=
  out.foldl (fun n e => match P.handle .calm n e with
    | .ok r => r.1
    | .error _ => n) n

section Informed

variable {P} {n : Net α S} {out : List (Envelope α)} {m c : α} {name : String}

/-- A name is known after the messages if it was before, or if one of them tells the
actor of the contact that has it. -/
theorem lookup_informed
    (hout : ∀ e ∈ out, (∃ a address, Introduces e a address) ∨ e.command = "add_channel" ∧ e.body = .channel)
    (hn : ∀ known, (n.contacts m).lookup name = some known → known = c)
    (hname : ∀ e ∈ out, ∀ address, Introduces e m address → P.name address = name → address = c) :
    ((P.informed n out).contacts m).lookup name = some c ↔
      (n.contacts m).lookup name = some c ∨ P.name c = name ∧ ∃ e ∈ out, Introduces e m c := by
  induction out generalizing n with
  | nil => simp [Program.informed]
  | cons e out ih =>
    have hrest := fun n hn => ih (n := n) (fun e he => hout e (List.mem_cons_of_mem _ he)) hn
      fun e he => hname e (List.mem_cons_of_mem _ he)
    rcases hout e List.mem_cons_self with ⟨a, address, he⟩ | ⟨hcommand, hbody⟩
    · have hinformed : P.informed n (e :: out) = P.informed (P.syncContacts n a address) out := by
        unfold Program.informed
        rw [List.foldl_cons, Program.handle_introduction he]
      have hlookup : ((P.syncContacts n a address).contacts m).lookup name =
          if m = a ∧ name = P.name address then ((n.contacts a).lookup name).or (some address)
          else (n.contacts m).lookup name := Program.lookup_syncContacts
      rw [hinformed, hrest _ ?_, hlookup]
      · split
        · next hwhere =>
          -- the message is about this name
          obtain ⟨rfl, rfl⟩ := hwhere
          obtain rfl := hname e List.mem_cons_self address he rfl
          have hleft : ((n.contacts m).lookup (P.name address)).or (some address) = some address := by
            cases hknown : (n.contacts m).lookup (P.name address) with
            | none => rfl
            | some known => exact congrArg some (hn known hknown)
          exact iff_of_true (.inl hleft) (.inr ⟨rfl, e, List.mem_cons_self, he⟩)
        · next hwhere =>
          have hother : ¬ (P.name c = name ∧ Introduces e m c) := by
            rintro ⟨rfl, hintroduces⟩
            obtain rfl := Body.address.inj (he.2.2.symm.trans hintroduces.2.2)
            exact hwhere ⟨hintroduces.1.symm.trans he.1, rfl⟩
          simp only [List.mem_cons, exists_eq_or_imp]
          tauto
      · intro known hknown
        rw [hlookup] at hknown
        split at hknown
        · next hwhere =>
          obtain ⟨rfl, rfl⟩ := hwhere
          rcases Option.or_eq_some_iff.mp hknown with hknown | ⟨-, hknown⟩
          · exact hn known hknown
          · cases hknown
            exact hname e List.mem_cons_self _ he rfl
        · exact hn known hknown
    · have hinformed : P.informed n (e :: out) = P.informed n out := by
        have hhandle : P.handle .calm n e = .ok (n, []) := by
          have hreaction : P.reaction e.dest e.command = .addChannel := by
            rw [hcommand]
            rfl
          show P.perform (P.reaction e.dest e.command) _ n e = _
          rw [hreaction]
          unfold Program.perform
          rw [hbody]
        unfold Program.informed
        rw [List.foldl_cons, hhandle]
      have hnot : ¬ Introduces e m c := fun h => by
        have hcommand' := hcommand.symm.trans h.2.1
        exact absurd hcommand' (by decide)
      rw [hinformed, hrest n hn]
      simp only [List.mem_cons, exists_eq_or_imp, hnot, false_or]

/-- A name that no contact has stays as it was. -/
theorem lookup_informed_other
    (hout : ∀ e ∈ out, (∃ a address, Introduces e a address) ∨ e.command = "add_channel" ∧ e.body = .channel)
    (hname : ∀ e ∈ out, ∀ address, Introduces e m address → P.name address ≠ name) :
    ((P.informed n out).contacts m).lookup name = (n.contacts m).lookup name := by
  have hnobody : ∀ c, ¬ (P.name c = name ∧ ∃ e ∈ out, Introduces e m c) := by
    rintro c ⟨hc, e, he, hintroduces⟩
    exact hname e he c hintroduces hc
  have hvacuous : ∀ c : α, ∀ e ∈ out, ∀ address, Introduces e m address → P.name address = name →
      address = c := fun c e he address hintroduces haddress =>
    absurd haddress (hname e he address hintroduces)
  apply Option.ext
  intro c
  cases hknown : (n.contacts m).lookup name with
  | none =>
    have hn : ∀ known, (n.contacts m).lookup name = some known → known = c := fun known h => by
      rw [hknown] at h
      cases h
    rw [lookup_informed hout hn (hvacuous c), hknown]
    simp [hnobody c]
  | some known =>
    have hn : ∀ known', (n.contacts m).lookup name = some known' → known' = known := fun known' h =>
      (Option.some.inj (hknown.symm.trans h)).symm
    have hsome := (lookup_informed hout hn (hvacuous known)).mpr (.inl hknown)
    rw [hsome]

end Informed

section Orders

variable {P} {n : Net α S} {t m c : α} {cs cs' : List (GroupCall α)} {handled : List (Envelope α)}
  {name : String}

/-- After the messages of the calls, handled in any order, the member knows the
contacts that it was told of. -/
theorem lookup_informed_contact (hnames : ((contacts cs).map P.name).Nodup)
    (hunknown : ∀ c ∈ contacts cs, (n.contacts m).lookup (P.name c) = none)
    (hhandled : handled.Perm (messagesOf t cs)) (hc : c ∈ contacts cs) :
    ((P.informed n handled).contacts m).lookup (P.name c) =
      if 0 < (messagesOf t cs).countP (tells m c) then some c else none := by
  have hout : ∀ e ∈ handled, (∃ a address, Introduces e a address) ∨
      e.command = "add_channel" ∧ e.body = .channel :=
    fun e he => introduces_or_channel (hhandled.mem_iff.mp he)
  have hsame : ∀ e ∈ handled, ∀ address, Introduces e m address → P.name address = P.name c →
      address = c := by
    intro e he address hintroduces haddress
    exact List.inj_on_of_nodup_map hnames
      (contact_of_introduces (hhandled.mem_iff.mp he) hintroduces) hc haddress
  have hn : ∀ c', ∀ known, (n.contacts m).lookup (P.name c) = some known → known = c' :=
    fun c' known h => by
      rw [hunknown c hc] at h
      cases h
  split
  · next htold =>
    obtain ⟨e, he, hintroduces⟩ := exists_introduces_iff.mpr htold
    exact (lookup_informed hout (hn c) hsame).mpr
      (.inr ⟨rfl, e, hhandled.mem_iff.mpr he, hintroduces⟩)
  · next htold =>
    rw [lookup_informed_other hout, hunknown c hc]
    intro e he address hintroduces haddress
    obtain rfl := hsame e he address hintroduces haddress
    exact htold (exists_introduces_iff.mp ⟨e, hhandled.mem_iff.mp he, hintroduces⟩)

/-- A name of no contact is not made known. -/
theorem lookup_informed_noContact (hhandled : handled.Perm (messagesOf t cs))
    (hname : ∀ c ∈ contacts cs, P.name c ≠ name) :
    ((P.informed n handled).contacts m).lookup name = (n.contacts m).lookup name := by
  apply lookup_informed_other
  · intro e he
    exact introduces_or_channel (hhandled.mem_iff.mp he)
  · intro e he address hintroduces
    exact hname address (contact_of_introduces (hhandled.mem_iff.mp he) hintroduces)

/-- In whatever order the calls are made and the messages of either order are
handled, the members know the same. -/
def SameContacts (P : Program α S) (n : Net α S) (t : α) (cs : List (GroupCall α)) : Prop :=
  ∀ cs', cs'.Perm cs → ∀ s g out s' g' out', AbstractGroup.Called t s g cs out →
    AbstractGroup.Called t s' g' cs' out' → ∀ handled handled', handled.Perm out → handled'.Perm out' →
      ∀ m ∈ members t cs, ∀ name, ((P.informed n handled).contacts m).lookup name =
        ((P.informed n handled').contacts m).lookup name

/-- No group is joined, or nobody but the entry point is in the group. -/
def OrderFree (t : α) (cs : List (GroupCall α)) : Prop :=
  (∀ address, .join address ∉ cs) ∨ ∀ t' ∈ added cs, t' = t

omit [DecidableEq α] in
theorem members_perm (h : cs'.Perm cs) : (members t cs').Perm (members t cs) :=
  (h.filterMap added?).cons t

/-- Where the order does not matter, every member is told of every contact. -/
theorem OrderFree.told (h : OrderFree t cs) (hnodup : (contacts cs).Nodup) (hm : m ∈ members t cs)
    (hc : c ∈ contacts cs) : 0 < (messagesOf t cs).countP (tells m c) := by
  obtain ⟨before, after, rfl | rfl⟩ := split_of_contact hc
  · rw [told_shared hnodup]
    exact List.count_pos_iff.mpr hm
  · have hmember : m = t := by
      rcases h with hnone | honly
      · exact absurd (by simp) (hnone c)
      · exact (List.mem_cons.mp hm).elim id (honly m)
    subst hmember
    rw [told_joined hnodup]
    exact List.count_pos_iff.mpr List.mem_cons_self

omit [DecidableEq α] in
theorem OrderFree.perm (h : OrderFree t cs) (hperm : cs'.Perm cs) : OrderFree t cs' := by
  rcases h with hnone | honly
  · exact .inl fun address hmem => hnone address (hperm.mem_iff.mp hmem)
  · exact .inr fun t' ht' => honly t' ((hperm.filterMap added?).mem_iff.mp ht')

omit [DecidableEq α] in
theorem AbstractGroup.Called.out_eq {s : StorageSpace α} {g : AbstractGroup} {out : List (Envelope α)}
    (h : Called t s g cs out) : out = messagesOf t cs := h.represents.2.2

theorem sameContacts_of_orderFree (hnames : ((contacts cs).map P.name).Nodup)
    (hunknown : ∀ m, ∀ c ∈ contacts cs, (n.contacts m).lookup (P.name c) = none)
    (hfree : OrderFree t cs) : SameContacts P n t cs := by
  intro cs' hperm s g out s' g' out' hcalled hcalled' handled handled' hhandled hhandled' m hm name
  rw [hcalled.out_eq] at hhandled
  rw [hcalled'.out_eq] at hhandled'
  have hcontacts : (contacts cs').Perm (contacts cs) := hperm.filterMap contact?
  have hnames' : ((contacts cs').map P.name).Nodup := (hcontacts.map P.name).nodup_iff.mpr hnames
  -- a name of a contact, or a name that nobody has
  by_cases hname : ∃ c ∈ contacts cs, P.name c = name
  · obtain ⟨c, hc, rfl⟩ := hname
    have hc' : c ∈ contacts cs' := hcontacts.mem_iff.mpr hc
    have hm' : m ∈ members t cs' := (members_perm hperm).mem_iff.mpr hm
    have hunknown' : ∀ c ∈ contacts cs', (n.contacts m).lookup (P.name c) = none :=
      fun c hc => hunknown m c (hcontacts.mem_iff.mp hc)
    rw [lookup_informed_contact hnames (hunknown m) hhandled hc,
      lookup_informed_contact hnames' hunknown' hhandled' hc',
      if_pos (hfree.told (List.Nodup.of_map _ hnames) hm hc),
      if_pos ((hfree.perm hperm).told (List.Nodup.of_map _ hnames') hm' hc')]
  · have hnone : ∀ c ∈ contacts cs, P.name c ≠ name := fun c hc h => hname ⟨c, hc, h⟩
    rw [lookup_informed_noContact hhandled hnone,
      lookup_informed_noContact hhandled' fun c hc => hnone c (hcontacts.mem_iff.mp hc)]

/-- What a member knows after a join that comes first and after one that comes last. -/
theorem orderFree_of_sameContacts (hnames : ((contacts cs).map P.name).Nodup)
    (hunknown : ∀ m, ∀ c ∈ contacts cs, (n.contacts m).lookup (P.name c) = none)
    (hsame : SameContacts P n t cs) : OrderFree t cs := by
  by_contra hfree
  obtain ⟨hjoin, hadd⟩ := not_or.mp hfree
  push Not at hjoin hadd
  obtain ⟨address, hjoin⟩ := hjoin
  obtain ⟨t', ht', hne⟩ := hadd
  have hmember : t' ∈ members t cs := List.mem_cons_of_mem _ ht'
  -- the member added is not told by a join that comes first, and is by one that comes last
  let rest := cs.erase (.join address)
  have hfirst : (GroupCall.join address :: rest).Perm cs := (List.perm_cons_erase hjoin).symm
  have hlast : (rest ++ [GroupCall.join address]).Perm cs := (List.perm_append_singleton _ _).trans hfirst
  have hknows : ∀ cs', cs'.Perm cs →
      (if 0 < (messagesOf t cs).countP (tells t' address) then some address else none) =
        if 0 < (messagesOf t cs').countP (tells t' address) then some address else none := by
    intro cs' hperm
    have hcontacts : (contacts cs').Perm (contacts cs) := hperm.filterMap contact?
    obtain ⟨s, g, out, hcalled⟩ := AbstractGroup.exists_called t cs
    obtain ⟨s', g', out', hcalled'⟩ := AbstractGroup.exists_called t cs'
    have hcontact : address ∈ contacts cs := List.mem_filterMap.mpr ⟨_, hjoin, rfl⟩
    have hlookup := hsame cs' hperm s g out s' g' out' hcalled hcalled' out out' (.refl _) (.refl _)
      t' hmember (P.name address)
    have hout : out.Perm (messagesOf t cs) := .of_eq hcalled.out_eq
    have hout' : out'.Perm (messagesOf t cs') := .of_eq hcalled'.out_eq
    have hnames' : ((contacts cs').map P.name).Nodup := (hcontacts.map P.name).nodup_iff.mpr hnames
    have hunknown' : ∀ c ∈ contacts cs', (n.contacts t').lookup (P.name c) = none :=
      fun c hc => hunknown t' c (hcontacts.mem_iff.mp hc)
    rwa [lookup_informed_contact hnames (hunknown t') hout hcontact,
      lookup_informed_contact hnames' hunknown' hout' (hcontacts.mem_iff.mpr hcontact)] at hlookup
  have hcontactsNodup : (contacts cs).Nodup := List.Nodup.of_map _ hnames
  have htoldFirst : (messagesOf t (.join address :: rest)).countP (tells t' address) = 0 := by
    have hnodup : (contacts ([] ++ .join address :: rest)).Nodup := contacts_perm hfirst hcontactsNodup
    refine (told_joined hnodup).trans ?_
    exact List.count_eq_zero.mpr fun h => hne (List.mem_singleton.mp h)
  have htoldLast : 0 < (messagesOf t (rest ++ [.join address])).countP (tells t' address) := by
    have hnodup : (contacts (rest ++ .join address :: [])).Nodup := contacts_perm hlast hcontactsNodup
    rw [told_joined hnodup, List.count_pos_iff]
    have hrest : t' ∈ added (.join address :: rest) := (hfirst.filterMap added?).mem_iff.mpr ht'
    exact List.mem_cons_of_mem _ hrest
  have hdifferent := (hknows _ hfirst).symm.trans (hknows _ hlast)
  rw [htoldFirst, if_neg (Nat.lt_irrefl 0), if_pos htoldLast] at hdifferent
  cases hdifferent

/-- Each member is told of each contact once if and only if, at each join, the group
has all of its members once, and nobody is twice in a group that shares an actor; for
a group whose members are apart, nobody may be added after a join. The order of the
calls does not matter if and only if there is no join, or no member to miss it. -/
theorem contacts_distributed_iff {s : StorageSpace α} {g : AbstractGroup} {out : List (Envelope α)}
    (hnames : ((contacts cs).map P.name).Nodup)
    (hunknown : ∀ m, ∀ c ∈ contacts cs, (n.contacts m).lookup (P.name c) = none)
    (hcalled : AbstractGroup.Called t s g cs out) :
    (ToldOnce t cs out ↔ Complete t cs) ∧
      ((members t cs).Nodup → (ToldOnce t cs out ↔
        ∀ before address after, cs = before ++ .join address :: after → added after = [])) ∧
      (SameContacts P n t cs ↔ OrderFree t cs) := by
  have htold : ToldOnce t cs out ↔ Complete t cs := by
    rw [hcalled.out_eq]
    exact toldOnce_iff (List.Nodup.of_map _ hnames)
  refine ⟨htold, fun hnodup => htold.trans (complete_iff hnodup), ?_⟩
  constructor
  · exact orderFree_of_sameContacts hnames hunknown
  · exact sameContacts_of_orderFree hnames hunknown

end Orders

/-- Two calls after which nobody of the program knows any contact yet. -/
theorem contacts_distributed_iff_joinLast :
    ∃ s g out, AbstractGroup.Called "ws" s g [.add "router", .join "manager"] out ∧
      (ToldOnce "ws" [.add "router", .join "manager"] out ↔ Complete "ws" [.add "router", .join "manager"]) ∧
      ∀ (P : Program String Unit), (SameContacts P ⟨(), fun _ => []⟩ "ws" [.add "router", .join "manager"] ↔
        OrderFree "ws" [.add "router", .join "manager"]) := by
  obtain ⟨s, g, out, hcalled⟩ := AbstractGroup.exists_called "ws"
    [GroupCall.add "router", .join "manager"]
  refine ⟨s, g, out, hcalled, ?_, fun P => ?_⟩
  · exact (contacts_distributed_iff (P := (⟨id, fun _ => []⟩ : Program String Unit))
      (n := ⟨(), fun _ => []⟩) (by decide) (fun _ _ _ => rfl) hcalled).1
  · have hnames : ((contacts [GroupCall.add "router", .join "manager"]).map P.name).Nodup :=
      List.nodup_singleton _
    exact (contacts_distributed_iff (n := ⟨(), fun _ => []⟩) hnames (fun _ _ _ => rfl) hcalled).2.2

/-- An actor added after a join is not told of it, though it is told by the same calls
in another order. -/
theorem contacts_joined_first :
    ∃ s g out, AbstractGroup.Called "ws" s g [.join "manager", .add "router"] out ∧
      (contacts [.join "manager", .add "router"]).Nodup ∧
      ¬ ToldOnce "ws" [.join "manager", .add "router"] out ∧
      ∃ s' g' out', AbstractGroup.Called "ws" s' g' [.add "router", .join "manager"] out' ∧
        out.countP (tells "router" "manager") = 0 ∧ out'.countP (tells "router" "manager") = 1 := by
  obtain ⟨s, g, out, hcalled⟩ := AbstractGroup.exists_called "ws"
    [GroupCall.join "manager", .add "router"]
  obtain ⟨s', g', out', hcalled'⟩ := AbstractGroup.exists_called "ws"
    [GroupCall.add "router", .join "manager"]
  have hfirst : out.countP (tells "router" "manager") = 0 := by
    rw [hcalled.out_eq]
    decide
  have hlast : out'.countP (tells "router" "manager") = 1 := by
    rw [hcalled'.out_eq]
    decide
  refine ⟨s, g, out, hcalled, by decide, ?_, s', g', out', hcalled', hfirst, hlast⟩
  intro honce
  have htold := honce "router" (by decide) "manager" (by decide)
  rw [hfirst] at htold
  cases htold

end StreamCloud
