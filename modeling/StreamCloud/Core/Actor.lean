-- SUMMARY: Actors: their contacts, the handlers they attach and how a message of a mailbox is handled.
import StreamCloud.Api.Transport
import StreamCloud.Storage.Sqlite
import StreamCloud.Library.Work

/-!
# Actors

An actor finds the handler of a message by its command, reads the body of the
message as the type that handler expects and may send messages to its contacts.
The body is not checked (`any::as` is a `static_cast`): a handler that expects
another type stops with `Fault.badCast`.

The programs are built from a type `α` of actors, one for each service and each
data provider.
-/

namespace StreamCloud

/-- The body of a message. A channel is never looked into. -/
inductive Body (α : Type)
  | task (task : Task)
  | transport (transport : Transport)
  | address (address : α)
  | channel
  | text (text : String)
deriving DecidableEq

/-- A message in a mailbox. -/
structure Envelope (α : Type) where
  dest : α
  sender : α
  command : String
  body : Body α
deriving DecidableEq

/-- What the handling of a message finds outside of the program: how its
database statements go, which websocket sessions are open, and which one of
several entries a search through an unordered map comes upon first. -/
structure Env where
  db : Db
  sessions : String → Bool
  first : ℕ

/-- Nothing throws, and every session is open. -/
def Env.calm : Env := ⟨none, fun _ => true, 0⟩

/-- What a handler knows of its actor: its address, its contacts and the
commands that any actor has a handler for. -/
structure Ctx (α : Type) where
  self : α
  contacts : List (String × α)
  messageTypes : α → List String

namespace Ctx

variable {α : Type}

/-- `addresses(name)`, which throws what `unordered_map::at` throws. -/
def addresses (ctx : Ctx α) (name : String) : Except Fault α :=
  match ctx.contacts.lookup name with
  | some address => .ok address
  | none => .error (.thrown "_Map_base::at")

/-- `addresses(name)->send(make_message(self(), command, body))`. -/
def send (ctx : Ctx α) (name command : String) (body : Body α) :
    Except Fault (List (Envelope α)) := do
  let dest ← ctx.addresses name
  return [{ dest, sender := ctx.self, command, body }]

theorem addresses_eq_ok {ctx : Ctx α} {name : String} {address : α} :
    ctx.addresses name = .ok address ↔ ctx.contacts.lookup name = some address := by
  cases h : ctx.contacts.lookup name <;> simp [addresses, h]

theorem send_eq_ok {ctx : Ctx α} {name command : String} {body : Body α}
    {out : List (Envelope α)} :
    ctx.send name command body = .ok out ↔
      ∃ dest, ctx.contacts.lookup name = some dest ∧
        out = [{ dest, sender := ctx.self, command, body }] := by
  simp only [send, Except.bind_eq_ok, addresses_eq_ok]
  exact exists_congr fun dest => and_congr_right fun _ =>
    ⟨fun h => (Except.ok.inj h).symm, fun h => h ▸ rfl⟩

/-- What is sent is as it was given to be sent. -/
theorem of_mem_send {ctx : Ctx α} {name command : String} {body : Body α} {out : List (Envelope α)}
    {e : Envelope α} (h : ctx.send name command body = .ok out) (he : e ∈ out) :
    e.command = command ∧ e.body = body := by
  obtain ⟨dest, -, rfl⟩ := send_eq_ok.mp h
  rw [List.mem_singleton.mp he]
  exact ⟨rfl, rfl⟩

theorem send_of_contact {ctx : Ctx α} {name command : String} {body : Body α} {dest : α}
    (h : ctx.contacts.lookup name = some dest) :
    ctx.send name command body = .ok [{ dest, sender := ctx.self, command, body }] :=
  send_eq_ok.mpr ⟨dest, h, rfl⟩

/-- A handler that ends with sending to a contact. -/
theorem send_yields_return {σ : Type} {ctx : Ctx α} {s : σ} {name command : String} {body : Body α}
    {dest : α} {Q : List (Envelope α) → Prop} (h : ctx.contacts.lookup name = some dest)
    (hQ : Q [{ dest, sender := ctx.self, command, body }]) :
    (do return (s, ← ctx.send name command body) : Except Fault (σ × List (Envelope α))).Yields
      fun r => Q r.2 := by
  rw [send_of_contact h]
  exact Except.yields_ok.mpr hQ

end Ctx

/-! ## Handlers -/

/-- A handler of an actor with state `σ` that reads a body of type `β`. -/
abbrev Handler (α σ β : Type) :=
  Env → Ctx α → σ → β → Except Fault (σ × List (Envelope α))

/-- A handler with the type of body it reads. The first three are the standard
handlers of every actor; `silent` handlers do not read the body. -/
inductive Action (α σ : Type)
  | syncContacts
  | skip
  | addChannel
  | task (run : Handler α σ Task)
  | transport (run : Handler α σ Transport)
  | text (run : Handler α σ String)
  | silent (run : Handler α σ Unit)

/-- Access to one component of a state. -/
structure Lens (S σ : Type) where
  get : S → σ
  set : S → σ → S

/-- A handler of one component, as a handler of the whole state. -/
def Handler.lift {α S σ β : Type} (lens : Lens S σ) (run : Handler α σ β) : Handler α S β :=
  fun env ctx s b => do
    let (component, out) ← run env ctx (lens.get s) b
    return (lens.set s component, out)

def Action.lift {α S σ : Type} (lens : Lens S σ) : Action α σ → Action α S
  | .syncContacts => .syncContacts
  | .skip => .skip
  | .addChannel => .addChannel
  | .task run => .task (run.lift lens)
  | .transport run => .transport (run.lift lens)
  | .text run => .text (run.lift lens)
  | .silent run => .silent (run.lift lens)

/-- The handlers of one component, as handlers of the whole state. -/
def liftAll {α S σ : Type} (lens : Lens S σ) (actions : List (String × Action α σ)) :
    List (String × Action α S) :=
  actions.map fun p => (p.1, p.2.lift lens)

/-! ## Programs -/

/-- The actors of a program with services in a state `S`: their names, and the
handlers they attach. -/
structure Program (α S : Type) where
  name : α → String
  attached : α → List (String × Action α S)

/-- The state of a program: its services, and the contacts of every actor. -/
structure Net (α S : Type) where
  services : S
  contacts : α → List (String × α)

namespace Program

variable {α S : Type} (P : Program α S)

/-- `reactions_`: the standard handlers, which nothing attached replaces, and
the attached ones. -/
def reactions (a : α) : List (String × Action α S) :=
  [("sync_contacts", .syncContacts), ("skip", .skip), ("add_channel", .addChannel)] ++ P.attached a

/-- `message_types`. -/
def messageTypes (a : α) : List String := (P.reactions a).map Prod.fst

/-- The handler of a command, which is `skip` for a command without a handler. -/
def reaction (a : α) (command : String) : Action α S :=
  ((P.reactions a).lookup command).getD .skip

/-- What the handlers of an actor know. -/
def ctx (n : Net α S) (a : α) : Ctx α where
  self := a
  contacts := n.contacts a
  messageTypes := P.messageTypes

/-- `skip`: an actor with a handler for errors is sent the command back, as a text. -/
def skip (e : Envelope α) : List (Envelope α) :=
  -- it is the sender's handlers that are asked
  if "error" ∈ P.messageTypes e.sender then
    [{ dest := e.sender, sender := e.dest, command := "error", body := .text e.command }]
  else []

/-- `addresses(address)`: the first address of a name stays. -/
def syncContacts [DecidableEq α] (n : Net α S) (a address : α) : Net α S :=
  { n with contacts := fun b =>
      if b = a ∧ ((n.contacts a).lookup (P.name address)).isNone then
        n.contacts a ++ [(P.name address, address)]
      else n.contacts b }

/-- A handler run on the services. -/
def run {β : Type} (h : Handler α S β) (env : Env) (n : Net α S) (a : α) (b : β) :
    Except Fault (Net α S × List (Envelope α)) := do
  let (services, out) ← h env (P.ctx n a) n.services b
  return ({ n with services }, out)

/-- An action, performed on the body of a message. -/
def perform [DecidableEq α] (action : Action α S) (env : Env) (n : Net α S) (e : Envelope α) :
    Except Fault (Net α S × List (Envelope α)) :=
  match action, e.body with
  | .syncContacts, .address address => .ok (P.syncContacts n e.dest address, [])
  | .addChannel, .channel => .ok (n, [])
  | .skip, _ => .ok (n, P.skip e)
  | .task h, .task task => P.run h env n e.dest task
  | .transport h, .transport transport => P.run h env n e.dest transport
  | .text h, .text text => P.run h env n e.dest text
  | .silent h, _ => P.run h env n e.dest ()
  -- the body is not of the type that the handler reads it as
  | _, _ => .error .badCast

/-- The handling of a message. -/
def handle [DecidableEq α] : Work.Handler (Net α S) (Envelope α) Env Fault :=
  fun env n e => P.perform (P.reaction e.dest e.command) env n e

end Program

section Handling

variable {α S σ : Type} [DecidableEq α] {P : Program α S} {L : Lens S σ} {env : Env}
  {n : Net α S} {e : Envelope α}

/-- The handling of a task by a handler of one component. -/
theorem Program.handle_task {h : Handler α σ Task} {task : Task}
    (hreaction : P.reaction e.dest e.command = .task (h.lift L)) (hbody : e.body = .task task) :
    P.handle env n e = (h env (P.ctx n e.dest) (L.get n.services) task).map
      fun r => ({ n with services := L.set n.services r.1 }, r.2) := by
  unfold Program.handle
  rw [hreaction]
  unfold Program.perform
  rw [hbody]
  show (h env _ _ task >>= _) >>= _ = _
  cases h env (P.ctx n e.dest) (L.get n.services) task <;> rfl

/-- The handling of a transport by a handler of one component. -/
theorem Program.handle_transport {h : Handler α σ Transport} {transport : Transport}
    (hreaction : P.reaction e.dest e.command = .transport (h.lift L))
    (hbody : e.body = .transport transport) :
    P.handle env n e = (h env (P.ctx n e.dest) (L.get n.services) transport).map
      fun r => ({ n with services := L.set n.services r.1 }, r.2) := by
  unfold Program.handle
  rw [hreaction]
  unfold Program.perform
  rw [hbody]
  show (h env _ _ transport >>= _) >>= _ = _
  cases h env (P.ctx n e.dest) (L.get n.services) transport <;> rfl

omit [DecidableEq α] in
theorem map_yields {r : Except Fault (σ × List (Envelope α))} {Q : List (Envelope α) → Prop} :
    (r.map fun r => ({ n with services := L.set n.services r.1 }, r.2)).Yields (fun r => Q r.2) ↔
      r.Yields fun r => Q r.2 := by
  cases r with
  | error fault => simp [Except.map, Except.Yields]
  | ok r => simp [Except.map]

/-- A task is handled without a fault when the handler of the component is. -/
theorem Program.handle_task_yields {h : Handler α σ Task} {task : Task} {Q : List (Envelope α) → Prop}
    (hreaction : P.reaction e.dest e.command = .task (h.lift L)) (hbody : e.body = .task task) :
    (P.handle env n e).Yields (fun r => Q r.2) ↔
      (h env (P.ctx n e.dest) (L.get n.services) task).Yields fun r => Q r.2 := by
  rw [Program.handle_task hreaction hbody, map_yields]

theorem Program.handle_task_returns {h : Handler α σ Task} {task : Task}
    (hreaction : P.reaction e.dest e.command = .task (h.lift L)) (hbody : e.body = .task task)
    (hreturns : (P.handle env n e).Returns) :
    (h env (P.ctx n e.dest) (L.get n.services) task).Returns :=
  ((Program.handle_task_yields (Q := fun _ => True) hreaction hbody).mp hreturns.yields).returns

/-- A transport is handled without a fault when the handler of the component is. -/
theorem Program.handle_transport_yields {h : Handler α σ Transport} {transport : Transport}
    {Q : List (Envelope α) → Prop}
    (hreaction : P.reaction e.dest e.command = .transport (h.lift L))
    (hbody : e.body = .transport transport) :
    (P.handle env n e).Yields (fun r => Q r.2) ↔
      (h env (P.ctx n e.dest) (L.get n.services) transport).Yields fun r => Q r.2 := by
  rw [Program.handle_transport hreaction hbody, map_yields]

theorem Program.handle_transport_returns {h : Handler α σ Transport} {transport : Transport}
    (hreaction : P.reaction e.dest e.command = .transport (h.lift L))
    (hbody : e.body = .transport transport) (hreturns : (P.handle env n e).Returns) :
    (h env (P.ctx n e.dest) (L.get n.services) transport).Returns :=
  ((Program.handle_transport_yields (Q := fun _ => True) hreaction hbody).mp hreturns.yields).returns

omit [DecidableEq α] in
theorem map_eq_ok {r : Except Fault (σ × List (Envelope α))} {n' : Net α S}
    {out : List (Envelope α)} :
    (r.map fun r => ({ n with services := L.set n.services r.1 }, r.2)) = .ok (n', out) ↔
      ∃ component, r = .ok (component, out) ∧
        n' = { n with services := L.set n.services component } := by
  cases r with
  | error fault => simp [Except.map]
  | ok r =>
    obtain ⟨component, out'⟩ := r
    simp only [Except.map, Except.ok.injEq, Prod.mk.injEq]
    constructor
    · rintro ⟨rfl, rfl⟩; exact ⟨component, ⟨rfl, rfl⟩, rfl⟩
    · rintro ⟨_, ⟨rfl, rfl⟩, rfl⟩; exact ⟨rfl, rfl⟩

/-- A handler of tasks that returned did so on a task. -/
theorem Program.task_of_handle {h : Handler α σ Task} {n' : Net α S} {out : List (Envelope α)}
    (hreaction : P.reaction e.dest e.command = .task (h.lift L))
    (hok : P.handle env n e = .ok (n', out)) :
    ∃ task component, e.body = .task task ∧
      h env (P.ctx n e.dest) (L.get n.services) task = .ok (component, out) ∧
      n' = { n with services := L.set n.services component } := by
  cases hbody : e.body with
  | task task =>
    rw [Program.handle_task hreaction hbody, map_eq_ok] at hok
    obtain ⟨component, hrun, rfl⟩ := hok
    exact ⟨task, component, rfl, hrun, rfl⟩
  | _ =>
    -- any other body is a bad cast
    unfold Program.handle at hok
    rw [hreaction] at hok
    unfold Program.perform at hok
    rw [hbody] at hok
    cases hok

/-- A handler of transports that returned did so on a transport. -/
theorem Program.transport_of_handle {h : Handler α σ Transport} {n' : Net α S}
    {out : List (Envelope α)}
    (hreaction : P.reaction e.dest e.command = .transport (h.lift L))
    (hok : P.handle env n e = .ok (n', out)) :
    ∃ transport component, e.body = .transport transport ∧
      h env (P.ctx n e.dest) (L.get n.services) transport = .ok (component, out) ∧
      n' = { n with services := L.set n.services component } := by
  cases hbody : e.body with
  | transport transport =>
    rw [Program.handle_transport hreaction hbody, map_eq_ok] at hok
    obtain ⟨component, hrun, rfl⟩ := hok
    exact ⟨transport, component, rfl, hrun, rfl⟩
  | _ =>
    unfold Program.handle at hok
    rw [hreaction] at hok
    unfold Program.perform at hok
    rw [hbody] at hok
    cases hok

end Handling

/-! ## What a handled message can have done

Every fact about the handling of messages goes through `Program.Handled`: one of
the standard handlers has run, or one attached handler has run on a body of its
type. -/

/-- An attached handler ran on a body of the type it reads, and returned. -/
inductive Action.Ran {α σ : Type} (env : Env) (ctx : Ctx α) (s : σ) :
    Action α σ → Body α → σ × List (Envelope α) → Prop
  | task {h : Handler α σ Task} {task : Task} {r : σ × List (Envelope α)} :
      h env ctx s task = .ok r → Ran env ctx s (.task h) (.task task) r
  | transport {h : Handler α σ Transport} {transport : Transport} {r : σ × List (Envelope α)} :
      h env ctx s transport = .ok r → Ran env ctx s (.transport h) (.transport transport) r
  | text {h : Handler α σ String} {text : String} {r : σ × List (Envelope α)} :
      h env ctx s text = .ok r → Ran env ctx s (.text h) (.text text) r
  | silent {h : Handler α σ Unit} {body : Body α} {r : σ × List (Envelope α)} :
      h env ctx s () = .ok r → Ran env ctx s (.silent h) body r

/-- A handler of tasks ran on a task. -/
theorem Action.Ran.of_task {α σ : Type} {env : Env} {ctx : Ctx α} {s : σ} {h : Handler α σ Task}
    {task : Task} {r : σ × List (Envelope α)}
    (hran : Action.Ran env ctx s (.task h) (.task task) r) : h env ctx s task = .ok r := by
  cases hran with
  | task hok => exact hok

/-- A handler of transports did not run on a task. -/
theorem Action.Ran.not_transport {α σ : Type} {env : Env} {ctx : Ctx α} {s : σ}
    {h : Handler α σ Transport} {task : Task} {r : σ × List (Envelope α)} :
    ¬ Action.Ran env ctx s (.transport h) (.task task) r :=
  fun hran => nomatch hran

theorem Handler.lift_eq_ok {α S σ β : Type} {lens : Lens S σ} {run : Handler α σ β} {env : Env}
    {ctx : Ctx α} {s s' : S} {b : β} {out : List (Envelope α)} :
    run.lift lens env ctx s b = .ok (s', out) ↔
      ∃ component, run env ctx (lens.get s) b = .ok (component, out) ∧
        s' = lens.set s component := by
  simp only [Handler.lift, Except.bind_eq_ok]
  constructor
  · rintro ⟨⟨component, out'⟩, hrun, heq⟩
    obtain ⟨rfl, rfl⟩ := Prod.mk.inj (Except.ok.inj heq)
    exact ⟨component, hrun, rfl⟩
  · rintro ⟨component, hrun, rfl⟩
    exact ⟨(component, out), hrun, rfl⟩

/-- A handler of a component changes that component only. -/
theorem Action.Ran.of_lift {α S σ : Type} {lens : Lens S σ} {action : Action α σ} {env : Env}
    {ctx : Ctx α} {s s' : S} {body : Body α} {out : List (Envelope α)}
    (h : Action.Ran env ctx s (action.lift lens) body (s', out)) :
    ∃ component, Action.Ran env ctx (lens.get s) action body (component, out) ∧
      s' = lens.set s component := by
  cases action with
  | syncContacts => cases h
  | skip => cases h
  | addChannel => cases h
  | task run =>
    cases h with
    | task hrun =>
      obtain ⟨component, hinner, rfl⟩ := Handler.lift_eq_ok.mp hrun
      exact ⟨component, .task hinner, rfl⟩
  | transport run =>
    cases h with
    | transport hrun =>
      obtain ⟨component, hinner, rfl⟩ := Handler.lift_eq_ok.mp hrun
      exact ⟨component, .transport hinner, rfl⟩
  | text run =>
    cases h with
    | text hrun =>
      obtain ⟨component, hinner, rfl⟩ := Handler.lift_eq_ok.mp hrun
      exact ⟨component, .text hinner, rfl⟩
  | silent run =>
    cases h with
    | silent hrun =>
      obtain ⟨component, hinner, rfl⟩ := Handler.lift_eq_ok.mp hrun
      exact ⟨component, .silent hinner, rfl⟩

theorem mem_liftAll {α S σ : Type} {lens : Lens S σ} {actions : List (String × Action α σ)}
    {command : String} {action : Action α S} :
    (command, action) ∈ liftAll lens actions ↔
      ∃ inner, (command, inner) ∈ actions ∧ action = inner.lift lens := by
  simp only [liftAll, List.mem_map, Prod.mk.injEq]
  constructor
  · rintro ⟨⟨c, inner⟩, hmem, rfl, rfl⟩
    exact ⟨inner, hmem, rfl⟩
  · rintro ⟨inner, hmem, rfl⟩
    exact ⟨(command, inner), hmem, rfl, rfl⟩

namespace Program

variable {α S : Type} {P : Program α S}

theorem mem_of_lookup {β : Type} {l : List (String × β)} {k : String} {v : β}
    (h : l.lookup k = some v) : (k, v) ∈ l := by
  obtain ⟨l₁, l₂, rfl, _⟩ := List.lookup_eq_some_iff.mp h
  simp

theorem run_eq_ok {β : Type} {h : Handler α S β} {env : Env} {n n' : Net α S} {a : α} {b : β}
    {out : List (Envelope α)} :
    P.run h env n a b = .ok (n', out) ↔
      ∃ services, h env (P.ctx n a) n.services b = .ok (services, out) ∧
        n' = { n with services } := by
  simp only [run, Except.bind_eq_ok]
  constructor
  · rintro ⟨⟨services, out'⟩, hrun, heq⟩
    obtain ⟨rfl, rfl⟩ := Prod.mk.inj (Except.ok.inj heq)
    exact ⟨services, hrun, rfl⟩
  · rintro ⟨services, hrun, rfl⟩
    exact ⟨(services, out), hrun, rfl⟩

/-- The names of the standard handlers, which every actor has. -/
def standardHandlers : List String := ["sync_contacts", "skip", "add_channel"]

/-- The handler of a command is a standard one or an attached one. -/
theorem reaction_cases (a : α) (command : String) :
    P.reaction a command ∈ [.syncContacts, .skip, .addChannel] ∨
      (command, P.reaction a command) ∈ P.attached a := by
  unfold reaction
  cases hlookup : (P.reactions a).lookup command with
  | none => simp
  | some action =>
    have hmem := mem_of_lookup hlookup
    simp only [reactions, List.cons_append, List.nil_append, List.mem_cons, Prod.mk.injEq] at hmem
    rcases hmem with ⟨-, rfl⟩ | ⟨-, rfl⟩ | ⟨-, rfl⟩ | hmem
    · simp
    · simp
    · simp
    · exact .inr hmem

/-- Every actor has the standard handlers. -/
theorem mem_messageTypes_of_standard {a : α} {command : String} (h : command ∈ standardHandlers) :
    command ∈ P.messageTypes a := by
  simp only [standardHandlers, List.mem_cons, List.not_mem_nil, or_false] at h
  rcases h with rfl | rfl | rfl <;> simp [messageTypes, reactions]

/-- A command that an actor has a handler for, other than a standard one, names
an attached handler. -/
theorem reaction_mem_attached {a : α} {command : String} (h : command ∈ P.messageTypes a)
    (hstd : command ∉ standardHandlers) : (command, P.reaction a command) ∈ P.attached a := by
  simp only [standardHandlers, List.mem_cons, List.not_mem_nil, or_false, not_or] at hstd
  obtain ⟨hsync, hskip, hadd⟩ := hstd
  obtain ⟨p, hp, hname⟩ := List.mem_map.mp h
  unfold reaction
  cases hfound : (P.reactions a).lookup command with
  | none => exact absurd hname.symm (by simpa using List.lookup_eq_none_iff.mp hfound p hp)
  | some action =>
    have hmem := mem_of_lookup hfound
    simpa [reactions, hsync, hskip, hadd] using hmem

variable [DecidableEq α]

/-- What came of a handled message. A standard handler leaves the services
alone, an attached one the contacts. -/
inductive Handled (P : Program α S) (env : Env) (n : Net α S) (e : Envelope α) :
    Net α S × List (Envelope α) → Prop
  | syncContacts {address : α} : P.reaction e.dest e.command = .syncContacts →
      e.body = .address address → Handled P env n e (P.syncContacts n e.dest address, [])
  | addChannel : P.reaction e.dest e.command = .addChannel → e.body = .channel →
      Handled P env n e (n, [])
  | skip : P.reaction e.dest e.command = .skip → Handled P env n e (n, P.skip e)
  | attached {action : Action α S} {services : S} {out : List (Envelope α)} :
      P.reaction e.dest e.command = action → (e.command, action) ∈ P.attached e.dest →
      Action.Ran env (P.ctx n e.dest) n.services action e.body (services, out) →
      Handled P env n e ({ n with services }, out)

theorem handled_of_eq_ok {env : Env} {n : Net α S} {e : Envelope α}
    {r : Net α S × List (Envelope α)} (h : P.handle env n e = .ok r) : Handled P env n e r := by
  obtain ⟨n', out⟩ := r
  have hcases := P.reaction_cases e.dest e.command
  unfold handle at h
  generalize hreaction : P.reaction e.dest e.command = action at h hcases
  unfold perform at h
  split at h
  · next hbody => cases h; exact .syncContacts hreaction hbody
  · next hbody => cases h; exact .addChannel hreaction hbody
  · cases h; exact .skip hreaction
  · next hbody =>
    obtain ⟨services, hrun, rfl⟩ := run_eq_ok.mp h
    exact .attached hreaction (hcases.resolve_left (by simp)) (hbody ▸ .task hrun)
  · next hbody =>
    obtain ⟨services, hrun, rfl⟩ := run_eq_ok.mp h
    exact .attached hreaction (hcases.resolve_left (by simp)) (hbody ▸ .transport hrun)
  · next hbody =>
    obtain ⟨services, hrun, rfl⟩ := run_eq_ok.mp h
    exact .attached hreaction (hcases.resolve_left (by simp)) (hbody ▸ .text hrun)
  · obtain ⟨services, hrun, rfl⟩ := run_eq_ok.mp h
    exact .attached hreaction (hcases.resolve_left (by simp)) (.silent hrun)
  · cases h

end Program

end StreamCloud
