-- SUMMARY: How groups of actors are wired, and what the contacts are once the messages of the wiring are handled.
import StreamCloud.Core.Typing

/-!
# Wiring

`stream-core/src/environment/abstract_group.cpp`. A program is wired before it
runs: who is to know whom is put into the mailboxes as messages, and an actor
knows its contacts once it has handled them.
-/

namespace StreamCloud

variable {α : Type}

/-- `abstract_group`: the actor of a service, the actors added to it and the
ones that all of them share. -/
structure Group (α : Type) where
  entryPoint : α
  layer : List α
  sharedPoint : List α

namespace Group

/-- A message that tells `a` the address of `address`. -/
def introduction (a sender address : α) : Envelope α where
  dest := a
  sender := sender
  command := "sync_contacts"
  body := .address address

/-- The constructor. The actor is given the channel of its group. -/
def new (t : α) : Group α × List (Envelope α) :=
  ({ entryPoint := t, layer := [], sharedPoint := [] },
    [{ dest := t, sender := t, command := "add_channel", body := .channel }])

/-- `add`: an actor of the group learns what the group shares. -/
def add (g : Group α) (t : α) : Group α × List (Envelope α) :=
  ({ g with layer := g.layer ++ [t] }, g.sharedPoint.map fun i => introduction t t i)

/-- `add_shared`: the group learns of an actor. -/
def addShared (g : Group α) (t : α) : Group α × List (Envelope α) :=
  ({ g with sharedPoint := g.sharedPoint ++ [t] },
    (g.entryPoint :: g.layer).map fun i => introduction i t t)

/-- `join`: the group learns of the actor of another one. -/
def join (g other : Group α) : List (Envelope α) :=
  (g.entryPoint :: g.layer).map fun i => introduction i other.entryPoint other.entryPoint

end Group

/-- A statement of `init_service`. A group is named by the actor of its service. -/
inductive Wire (α : Type)
  | service (t : α)
  | add (g t : α)
  | addShared (g t : α)
  | join (g other : α)

namespace Wire

variable [DecidableEq α]

/-- What a statement does to the groups, and the messages that it sends. -/
def perform (groups : α → Group α) : Wire α → (α → Group α) × List (Envelope α)
  | service t => (Function.update groups t (Group.new t).1, (Group.new t).2)
  | add g t => (Function.update groups g ((groups g).add t).1, ((groups g).add t).2)
  | addShared g t =>
    (Function.update groups g ((groups g).addShared t).1, ((groups g).addShared t).2)
  | join g other => (groups, (groups g).join (groups other))

/-- The messages of `init_service`, in the order in which they are sent. -/
def messagesFrom (groups : α → Group α) : List (Wire α) → List (Envelope α)
  | [] => []
  | wire :: wires => (wire.perform groups).2 ++ messagesFrom (wire.perform groups).1 wires

def messages (wires : List (Wire α)) : List (Envelope α) :=
  messagesFrom (fun t => (Group.new t).1) wires

end Wire

/-! ## Introductions -/

/-- The message tells `a` the address of `address`. -/
def Introduces (e : Envelope α) (a address : α) : Prop :=
  e.dest = a ∧ e.command = "sync_contacts" ∧ e.body = .address address

theorem Introduces.not_plain {e : Envelope α} {a address : α} (h : Introduces e a address) :
    ¬ e.Plain := fun hplain => hplain address h.2.2

namespace Wire

/-- Who is told of whom, by a statement about a group with nothing but its entry point. -/
def told : Wire α → Option (α × α)
  | service _ => none
  | add _ _ => none
  | addShared g t => some (g, t)
  | join g other => some (g, other)

/-- The statement puts an actor into a group. -/
def isAdd : Wire α → Bool
  | add _ _ => true
  | _ => false

/-- The groups as they are made: each is its entry point. -/
def Single (groups : α → Group α) : Prop :=
  ∀ t, (groups t).entryPoint = t ∧ (groups t).layer = []

variable [DecidableEq α] {groups : α → Group α} {wire : Wire α} {wires : List (Wire α)}

theorem Single.perform (h : Single groups) (hadd : wire.isAdd = false) :
    Single (wire.perform groups).1 := by
  intro t
  cases wire with
  | service t' =>
    by_cases ht : t = t'
    · subst ht
      simp [Wire.perform, Group.new]
    · simpa [Wire.perform, Function.update_of_ne ht] using h t
  | add g t' => cases hadd
  | addShared g t' =>
    by_cases ht : t = g
    · subst ht
      simpa [Wire.perform, Group.addShared] using h t
    · simpa [Wire.perform, Function.update_of_ne ht] using h t
  | join g other => exact h t

/-- A statement sends what is plain, or the message that tells who is told of whom. -/
theorem Single.sends (h : Single groups) (hadd : wire.isAdd = false) :
    (∀ e ∈ (wire.perform groups).2, e.Plain ∨ ∃ a address, wire.told = some (a, address) ∧
      Introduces e a address) ∧
    ∀ a address, wire.told = some (a, address) → ∃ e ∈ (wire.perform groups).2,
      Introduces e a address := by
  cases wire with
  | service t =>
    refine ⟨fun e he => .inl ?_, fun a address htold => nomatch htold⟩
    rw [List.mem_singleton.mp he]
    exact fun address hbody => nomatch hbody
  | add g t => cases hadd
  | addShared g t =>
    have hout : ((addShared g t).perform groups).2 = [Group.introduction g t t] := by
      simp [Wire.perform, Group.addShared, (h g).1, (h g).2]
    rw [hout]
    refine ⟨fun e he => .inr ⟨g, t, rfl, ?_⟩, fun a address htold => ?_⟩
    · rw [List.mem_singleton.mp he]
      exact ⟨rfl, rfl, rfl⟩
    · cases htold
      exact ⟨_, List.mem_singleton_self _, rfl, rfl, rfl⟩
  | join g other =>
    have hout : ((join g other).perform groups).2 = [Group.introduction g other other] := by
      simp [Wire.perform, Group.join, (h g).1, (h g).2, (h other).1]
    rw [hout]
    refine ⟨fun e he => .inr ⟨g, other, rfl, ?_⟩, fun a address htold => ?_⟩
    · rw [List.mem_singleton.mp he]
      exact ⟨rfl, rfl, rfl⟩
    · cases htold
      exact ⟨_, List.mem_singleton_self _, rfl, rfl, rfl⟩

/-- The messages of statements without `add` tell what the statements say. -/
theorem Single.messagesFrom (h : Single groups) (hadd : ∀ wire ∈ wires, wire.isAdd = false) :
    (∀ e ∈ messagesFrom groups wires, e.Plain ∨ ∃ wire ∈ wires, ∃ a address,
      wire.told = some (a, address) ∧ Introduces e a address) ∧
    ∀ wire ∈ wires, ∀ a address, wire.told = some (a, address) →
      ∃ e ∈ messagesFrom groups wires, Introduces e a address := by
  induction wires generalizing groups with
  | nil => exact ⟨fun e he => (nomatch he), fun wire hwire => (nomatch hwire)⟩
  -- a statement leaves groups with nothing but their entry points
  | cons wire wires ih =>
    have hwire := hadd wire List.mem_cons_self
    obtain ⟨hsound, hcomplete⟩ := h.sends hwire
    obtain ⟨ihsound, ihcomplete⟩ := ih (h.perform hwire) fun w hw => hadd w (List.mem_cons_of_mem _ hw)
    constructor
    · intro e he
      rcases List.mem_append.mp he with he | he
      · exact (hsound e he).imp_right fun ⟨a, address, htold⟩ =>
          ⟨wire, List.mem_cons_self, a, address, htold⟩
      · exact (ihsound e he).imp_right fun ⟨w, hw, htold⟩ => ⟨w, List.mem_cons_of_mem _ hw, htold⟩
    · intro w hw a address htold
      rcases List.mem_cons.mp hw with rfl | hw
      · obtain ⟨e, he, hintroduces⟩ := hcomplete a address htold
        exact ⟨e, List.mem_append_left _ he, hintroduces⟩
      · obtain ⟨e, he, hintroduces⟩ := ihcomplete w hw a address htold
        exact ⟨e, List.mem_append_right _ he, hintroduces⟩

end Wire

variable {S : Type} {P : Program α S} {contacts : α → List (String × α)}

/-- The messages introduce the contacts, and nobody else. -/
structure Program.Introduced (P : Program α S) (contacts : α → List (String × α))
    (messages : List (Envelope α)) : Prop where
  sound : ∀ e ∈ messages, e.Plain ∨ ∃ address, Introduces e e.dest address ∧
    (contacts e.dest).lookup (P.name address) = some address
  complete : ∀ a name address, (contacts a).lookup name = some address →
    ∃ e ∈ messages, Introduces e a address
  named : ∀ a name address, (contacts a).lookup name = some address → P.name address = name

/-- The contacts on their way: what an actor knows is as it is to be, and what it
does not know yet is pending. -/
structure Program.Wiring (P : Program α S) (contacts : α → List (String × α)) (n : Net α S)
    (pending : List (Envelope α)) : Prop where
  sound : ∀ e ∈ pending, e.Plain ∨ ∃ address, Introduces e e.dest address ∧
    (contacts e.dest).lookup (P.name address) = some address
  known : ∀ a name address, (n.contacts a).lookup name = some address →
    (contacts a).lookup name = some address
  missing : ∀ a name address, (contacts a).lookup name = some address →
    (n.contacts a).lookup name = some address ∨ ∃ e ∈ pending, Introduces e a address

namespace Program

theorem Introduced.wiring {messages : List (Envelope α)} (h : P.Introduced contacts messages)
    {n : Net α S} (hn : ∀ a, n.contacts a = []) : P.Wiring contacts n messages where
  sound := h.sound
  known a name address hlookup := by
    rw [hn] at hlookup
    cases hlookup
  missing a name address hlookup := .inr (h.complete a name address hlookup)

/-- Handling any other message leaves the contacts and what is on its way. -/
theorem Wiring.plain {n n' : Net α S} {p q out : List (Envelope α)} {e : Envelope α}
    (h : P.Wiring contacts n (p ++ e :: q)) (he : e.Plain) (hn : n'.contacts = n.contacts)
    (hout : ∀ e' ∈ out, e'.Plain) : P.Wiring contacts n' (p ++ q ++ out) where
  sound e' he' := by
    rcases List.mem_append.mp he' with he' | he'
    · exact h.sound e' (by rcases List.mem_append.mp he' with he' | he' <;> simp [he'])
    · exact .inl (hout e' he')
  known a name address hlookup := h.known a name address (hn ▸ hlookup)
  missing a name address hlookup := by
    rw [hn]
    refine (h.missing a name address hlookup).imp_right ?_
    rintro ⟨e', he', hintroduces⟩
    refine ⟨e', ?_, hintroduces⟩
    rcases List.mem_append.mp he' with hp | hq
    · simp [hp]
    · rcases List.mem_cons.mp hq with rfl | hq
      · exact absurd he hintroduces.not_plain
      · simp [hq]

/-- Once nothing of the wiring is pending, every actor knows its contacts. -/
theorem Wiring.lookup_eq {n : Net α S} {pending : List (Envelope α)}
    (h : P.Wiring contacts n pending) (hdone : ∀ e ∈ pending, e.Plain) (a : α) (name : String) :
    (n.contacts a).lookup name = (contacts a).lookup name := by
  refine Option.ext fun address => ⟨h.known a name address, fun hlookup => ?_⟩
  rcases h.missing a name address hlookup with hknown | ⟨e, he, hintroduces⟩
  · exact hknown
  · exact absurd (hdone e he) hintroduces.not_plain

variable [DecidableEq α]

/-- Statements without `add` introduce the contacts when they say so. -/
theorem introduced_of_told {wires : List (Wire α)} (hadd : ∀ wire ∈ wires, wire.isAdd = false)
    (hsound : ∀ wire ∈ wires, ∀ p, wire.told = some p →
      (contacts p.1).lookup (P.name p.2) = some p.2)
    (hcomplete : ∀ a, ∀ p ∈ contacts a, P.name p.2 = p.1 ∧ ∃ wire ∈ wires, wire.told = some (a, p.2)) :
    P.Introduced contacts (Wire.messages wires) := by
  have hsingle : Wire.Single (fun t : α => (Group.new t).1) := fun t => ⟨rfl, rfl⟩
  obtain ⟨htold, hmessages⟩ := hsingle.messagesFrom hadd
  refine ⟨fun e he => ?_, fun a name address hlookup => ?_, fun a name address hlookup => ?_⟩
  -- what is told is a contact
  · refine (htold e he).imp_right ?_
    rintro ⟨wire, hwire, a, address, hwho, hintroduces⟩
    obtain ⟨rfl, -⟩ := id hintroduces
    exact ⟨address, hintroduces, hsound wire hwire _ hwho⟩
  -- and every contact is told
  · obtain ⟨-, wire, hwire, hwho⟩ := hcomplete a _ (mem_of_lookup hlookup)
    exact hmessages wire hwire a address hwho
  · exact (hcomplete a _ (mem_of_lookup hlookup)).1

/-- An address that is synchronized is known from then on, unless its name was. -/
theorem lookup_syncContacts {n : Net α S} {a address b : α} {name : String} :
    ((P.syncContacts n a address).contacts b).lookup name =
      if b = a ∧ name = P.name address then
        ((n.contacts a).lookup name).or (some address)
      else (n.contacts b).lookup name := by
  unfold syncContacts
  by_cases hb : b = a
  · subst hb
    cases hknown : (n.contacts b).lookup (P.name address) with
    | some known =>
      by_cases hname : name = P.name address
      · subst hname
        simp [hknown]
      · simp [hname]
    | none =>
      by_cases hname : name = P.name address
      · subst hname
        simp [List.lookup_append, hknown]
      · have hbeq : (name == P.name address) = false := beq_eq_false_iff_ne.mpr hname
        simp [hname, List.lookup_append, List.lookup_cons, hbeq]
  · simp [hb]

theorem handle_introduction {env : Env} {n : Net α S} {e : Envelope α} {a address : α}
    (h : Introduces e a address) : P.handle env n e = .ok (P.syncContacts n a address, []) := by
  obtain ⟨rfl, hcommand, hbody⟩ := h
  have hreaction : P.reaction e.dest e.command = .syncContacts := by
    rw [hcommand]
    simp [reaction, reactions]
  show P.perform (P.reaction e.dest e.command) env n e = _
  rw [hreaction]
  unfold perform
  rw [hbody]

/-- Handling an introduction makes the actor know what it did not know. -/
theorem Wiring.introduce {n : Net α S} {p q : List (Envelope α)} {e : Envelope α} {address : α}
    (h : P.Wiring contacts n (p ++ e :: q)) (hnamed : ∀ a name address,
      (contacts a).lookup name = some address → P.name address = name)
    (he : Introduces e e.dest address)
    (hcontact : (contacts e.dest).lookup (P.name address) = some address) :
    P.Wiring contacts (P.syncContacts n e.dest address) (p ++ q) where
  sound e' he' := h.sound e' (by rcases List.mem_append.mp he' with he' | he' <;> simp [he'])
  known a name wanted hlookup := by
    rw [lookup_syncContacts] at hlookup
    split at hlookup
    · next hwhere =>
      obtain ⟨rfl, rfl⟩ := hwhere
      rcases Option.or_eq_some_iff.mp hlookup with hknown | ⟨-, hknown⟩
      · exact h.known _ _ _ hknown
      · cases hknown
        exact hcontact
    · exact h.known a name wanted hlookup
  missing a name wanted hlookup := by
    rw [lookup_syncContacts]
    rcases h.missing a name wanted hlookup with hknown | ⟨e', he', hintroduces⟩
    · split
      · next hwhere =>
        obtain ⟨rfl, -⟩ := hwhere
        exact .inl (by rw [hknown]; rfl)
      -- what another actor knows is not touched
      · exact .inl hknown
    · rcases List.mem_append.mp he' with hp | hq
      · exact .inr ⟨e', List.mem_append_left q hp, hintroduces⟩
      rcases List.mem_cons.mp hq with rfl | hq
      · -- the message that was handled introduced this very contact
        obtain ⟨rfl, -, hbody⟩ := hintroduces
        obtain rfl : wanted = address := Body.address.inj (hbody.symm.trans he.2.2)
        obtain rfl := hnamed _ _ _ hlookup
        refine .inl ?_
        rw [if_pos ⟨rfl, rfl⟩]
        cases hold : (n.contacts e'.dest).lookup (P.name wanted) with
        | none => rfl
        | some old => exact (h.known _ _ _ hold).symm.trans hlookup
      · exact .inr ⟨e', List.mem_append_right p hq, hintroduces⟩

/-- The run rule of the wiring, for a program whose handlers tell no addresses. -/
theorem wiring_of_run {arrives : Envelope α → Prop} {guard : Env → Net α S → Envelope α → Prop}
    {messages : List (Envelope α)} (hintroduced : P.Introduced contacts messages)
    (harrives : ∀ e, arrives e → e.Plain)
    (hplain : ∀ env n e n' out, P.handle env n e = .ok (n', out) → e.Plain →
      n'.contacts = n.contacts ∧ ∀ e' ∈ out, e'.Plain)
    {n₀ : Net α S} (hn₀ : ∀ a, n₀.contacts a = []) {c : Work.Config (Net α S) (Envelope α)}
    (hrun : Work.Run P.handle arrives guard ⟨n₀, messages⟩ c) :
    P.Wiring contacts c.state c.pending := by
  induction hrun with
  | refl => exact hintroduced.wiring hn₀
  | @arrive s pending e _ hin h =>
    have hmem {e' : Envelope α} (he' : e' ∈ pending) : e' ∈ pending ++ [e] :=
      List.mem_append_left _ he'
    refine ⟨fun e' he' => ?_, h.known, fun a name address hlookup => ?_⟩
    · rcases List.mem_append.mp he' with he' | he'
      · exact h.sound e' he'
      · rw [List.mem_singleton.mp he']
        exact .inl (harrives e hin)
    · exact (h.missing a name address hlookup).imp_right
        fun ⟨e', he', hintroduces⟩ => ⟨e', hmem he', hintroduces⟩
  | @handle env s s' p q out e _ _ hhandle h =>
    rcases h.sound e (by simp) with he | ⟨address, he, hcontact⟩
    · obtain ⟨hs, hout⟩ := hplain env s e s' out hhandle he
      exact h.plain he hs hout
    · rw [handle_introduction he] at hhandle
      cases hhandle
      rw [List.append_nil]
      exact h.introduce hintroduced.named he hcontact

end Program

end StreamCloud
