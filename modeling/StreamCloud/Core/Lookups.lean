-- SUMMARY: When a handler looks up a name among its contacts.
import StreamCloud.Core.Service

/-!
# Lookups

A handler looks up a name when it does something else for an actor that has
another contact under this name. A lookup that fails is one of a name without a
contact: the handler throws where it would have sent something. What is looked up
behind a lookup that fails shows as soon as the actor has more contacts.
-/

namespace StreamCloud

namespace Ctx

variable {α : Type} {ctx : Ctx α} {name known : String} {address : α}

/-- The actor has a contact under the name. -/
def Knows (ctx : Ctx α) (name : String) : Prop := (ctx.contacts.lookup name).isSome

/-- What the actor knew, had it first been told of another contact. -/
def know (ctx : Ctx α) (name : String) (address : α) : Ctx α :=
  { ctx with contacts := (name, address) :: ctx.contacts }

@[simp] theorem lookup_know_self : (ctx.know name address).contacts.lookup name = some address := by
  simp [know]

theorem lookup_know_of_ne (h : known ≠ name) :
    (ctx.know name address).contacts.lookup known = ctx.contacts.lookup known := by
  have hbeq : (known == name) = false := beq_eq_false_iff_ne.mpr h
  simp [know, List.lookup_cons, hbeq]

/-- What another actor of the same address knows: these contacts, and perhaps more. -/
structure Extends (ctx ctx' : Ctx α) : Prop where
  self : ctx'.self = ctx.self
  messageTypes : ctx'.messageTypes = ctx.messageTypes
  lookup {known : String} : ctx.Knows known → ctx'.contacts.lookup known = ctx.contacts.lookup known

theorem Extends.refl (ctx : Ctx α) : ctx.Extends ctx := ⟨rfl, rfl, fun _ => rfl⟩

/-- A contact more, under a name that was not known. -/
theorem Extends.know {ctx' : Ctx α} (h : ctx.Extends ctx') (hname : ¬ ctx.Knows name) :
    ctx.Extends (ctx'.know name address) where
  self := h.self
  messageTypes := h.messageTypes
  lookup hknown := by
    have hne : _ ≠ name := fun heq => hname (heq ▸ hknown)
    rw [lookup_know_of_ne hne, h.lookup hknown]

/-! What is sent to a contact does not depend on what else there may be. -/

namespace Extends

variable {ctx' : Ctx α} (h : ctx.Extends ctx')
include h

theorem addresses (hknown : ctx.Knows known) : ctx'.addresses known = ctx.addresses known := by
  unfold Ctx.addresses
  rw [h.lookup hknown]

theorem send (hknown : ctx.Knows known) (command : String) (body : Body α) :
    ctx'.send known command body = ctx.send known command body := by
  unfold Ctx.send
  rw [h.addresses hknown, h.self]

theorem writeTo (hws : ctx.Knows "ws") (id text : String) : ctx'.writeTo id text = ctx.writeTo id text :=
  h.send hws ..

theorem respond (hws : ctx.Knows "ws") (J : Codec) (task : Task) (reply : Reply) :
    ctx'.respond J task reply = ctx.respond J task reply := h.writeTo hws ..

theorem answer (hws : ctx.Knows "ws") {σ β : Type} (J : Codec) (task : Task) (s : σ) (read : Except Fault β)
    (valid : β → Bool) (invalid : String) (body : β → Except Fault (σ × Reply)) :
    ctx'.answer J task s read valid invalid body = ctx.answer J task s read valid invalid body := by
  unfold Ctx.answer
  simp only [h.respond hws]

end Extends

end Ctx

/-! ## Handlers -/

section Handlers

variable {α σ β S : Type} {env : Env} {ctx : Ctx α} {s : σ} {name : String} {body : Body α}

/-- It matters to the handler what is known under the name, with these contacts or more. -/
def Handler.LooksUp (run : Handler α σ β) (env : Env) (ctx : Ctx α) (s : σ) (b : β)
    (name : String) : Prop :=
  ∃ ctx' address, ctx.Extends ctx' ∧ run env (ctx'.know name address) s b ≠ run env ctx' s b

/-- An attached handler looks up a name on a body of the type it reads. -/
inductive Action.LooksUp (env : Env) (ctx : Ctx α) (s : σ) (name : String) :
    Action α σ → Body α → Prop
  | task {h : Handler α σ Task} {task : Task} :
      h.LooksUp env ctx s task name → LooksUp env ctx s name (.task h) (.task task)
  | transport {h : Handler α σ Transport} {transport : Transport} :
      h.LooksUp env ctx s transport name → LooksUp env ctx s name (.transport h) (.transport transport)
  | text {h : Handler α σ String} {text : String} :
      h.LooksUp env ctx s text name → LooksUp env ctx s name (.text h) (.text text)
  | silent {h : Handler α σ Unit} {body : Body α} :
      h.LooksUp env ctx s () name → LooksUp env ctx s name (.silent h) body

theorem Handler.lift_congr {lens : Lens S σ} {run : Handler α σ β} {ctx' : Ctx α} {s : S} {b : β}
    (h : run env ctx' (lens.get s) b = run env ctx (lens.get s) b) :
    run.lift lens env ctx' s b = run.lift lens env ctx s b := by
  unfold Handler.lift
  rw [h]

/-- A handler of one component looks up what it looks up as a handler of the whole state. -/
theorem Handler.LooksUp.of_lift {lens : Lens S σ} {run : Handler α σ β} {s : S} {b : β}
    (h : (run.lift lens).LooksUp env ctx s b name) : run.LooksUp env ctx (lens.get s) b name := by
  obtain ⟨ctx', address, hext, hne⟩ := h
  exact ⟨ctx', address, hext, fun heq => hne (Handler.lift_congr heq)⟩

theorem Action.LooksUp.of_lift {lens : Lens S σ} {action : Action α σ} {s : S}
    (h : Action.LooksUp env ctx s name (action.lift lens) body) :
    Action.LooksUp env ctx (lens.get s) name action body := by
  cases action with
  | syncContacts => cases h
  | skip => cases h
  | addChannel => cases h
  | task run => cases h with | task h => exact .task h.of_lift
  | transport run => cases h with | transport h => exact .transport h.of_lift
  | text run => cases h with | text h => exact .text h.of_lift
  | silent run => cases h with | silent h => exact .silent h.of_lift

/-- The handler does the same in both contexts. -/
def Action.Same (ctx ctx' : Ctx α) : Action α σ → Prop
  | .task h => ∀ env s task, h env ctx' s task = h env ctx s task
  | .transport h => ∀ env s transport, h env ctx' s transport = h env ctx s transport
  | .text h => ∀ env s text, h env ctx' s text = h env ctx s text
  | .silent h => ∀ env s, h env ctx' s () = h env ctx s ()
  | .syncContacts | .skip | .addChannel => True

theorem Handler.LooksUp.knows {run : Handler α σ β} {b : β} (h : run.LooksUp env ctx s b name)
    (hsame : ∀ ctx', ctx.Extends ctx' → run env ctx' s b = run env ctx s b) : ctx.Knows name := by
  obtain ⟨ctx', address, hext, hne⟩ := h
  by_contra hname
  exact hne ((hsame _ (hext.know hname)).trans (hsame ctx' hext).symm)

/-- The contacts are all that the handlers need: each does the same with more of them. -/
def Ctx.Complete (ctx : Ctx α) (actions : List (String × Action α σ)) : Prop :=
  ∀ p ∈ actions, ∀ ctx', ctx.Extends ctx' → p.2.Same ctx ctx'

theorem Ctx.Complete.liftAll {lens : Lens S σ} {actions : List (String × Action α σ)}
    (h : ctx.Complete actions) : ctx.Complete (liftAll lens actions) := by
  rintro ⟨command, action⟩ hmem ctx' hext
  obtain ⟨inner, hinner, rfl⟩ := mem_liftAll.mp hmem
  have hsame := h _ hinner ctx' hext
  cases inner with
  | syncContacts => trivial
  | skip => trivial
  | addChannel => trivial
  | task run => exact fun env s b => Handler.lift_congr (hsame env _ b)
  | transport run => exact fun env s b => Handler.lift_congr (hsame env _ b)
  | text run => exact fun env s b => Handler.lift_congr (hsame env _ b)
  | silent run => exact fun env s => Handler.lift_congr (hsame env _)

/-- Where the contacts are complete, what is looked up is one of them. -/
theorem Ctx.Complete.knows {actions : List (String × Action α σ)} (h : ctx.Complete actions)
    {command : String} {action : Action α σ} (hmem : (command, action) ∈ actions)
    (hlooks : Action.LooksUp env ctx s name action body) : ctx.Knows name := by
  have hsame := h _ hmem
  cases hlooks with
  | task hlooks => exact hlooks.knows fun ctx' hext => hsame ctx' hext env s _
  | transport hlooks => exact hlooks.knows fun ctx' hext => hsame ctx' hext env s _
  | text hlooks => exact hlooks.knows fun ctx' hext => hsame ctx' hext env s _
  | silent hlooks => exact hlooks.knows fun ctx' hext => hsame ctx' hext env s

end Handlers

/-! ## Programs -/

/-- The handler that a message finds looks up the name. -/
def Program.LooksUp {α S : Type} (P : Program α S) (env : Env) (n : Net α S) (e : Envelope α)
    (name : String) : Prop :=
  Action.LooksUp env (P.ctx n e.dest) n.services name (P.reaction e.dest e.command) e.body

/-- Every name that is looked up is one of a contact. -/
def Program.FindsContacts {α S : Type} (P : Program α S) (n : Net α S) (e : Envelope α) : Prop :=
  ∀ env name, P.LooksUp env n e name → (P.ctx n e.dest).Knows name

theorem Program.LooksUp.attached {α S : Type} {P : Program α S} {env : Env} {n : Net α S}
    {e : Envelope α} {name : String} (h : P.LooksUp env n e name) :
    ∃ action, (e.command, action) ∈ P.attached e.dest ∧
      Action.LooksUp env (P.ctx n e.dest) n.services name action e.body := by
  unfold Program.LooksUp at h
  rcases P.reaction_cases e.dest e.command with hstandard | hattached
  · simp only [List.mem_cons, List.not_mem_nil, or_false] at hstandard
    rcases hstandard with heq | heq | heq <;> rw [heq] at h <;> cases h
  · exact ⟨_, hattached, h⟩

theorem Program.findsContacts_of_complete {α S : Type} {P : Program α S} {n : Net α S}
    {e : Envelope α} (h : (P.ctx n e.dest).Complete (P.attached e.dest)) : P.FindsContacts n e := by
  intro env name hlooks
  obtain ⟨action, hmem, haction⟩ := hlooks.attached
  exact h.knows hmem haction

end StreamCloud
