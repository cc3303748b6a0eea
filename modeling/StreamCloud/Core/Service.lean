-- SUMMARY: What the handlers of the services have in common: replies, answers and forwarded tasks.
import StreamCloud.Core.Actor

/-!
# Services

Nearly every handler of a service follows one pattern: it reads its parameters,
checks them, runs a statement inside a `try`, and writes a response to the
session its task came from. `Ctx.answer` is this pattern.
-/

namespace StreamCloud

/-- What a handler fills its response with. A handler can fill in both. -/
structure Reply where
  result : JsonValue
  error : Option String

namespace Reply

def ok (result : JsonValue) : Reply := { result, error := none }

def failed (message : String) : Reply := { result := .null, error := some message }

/-- The response message. Every service reports its errors under one code. -/
def message (reply : Reply) (id : JsonValue) : ResponseMessage where
  id := id
  result := reply.result
  metadata := []
  error := reply.error.map fun message => { code := .unknownErrorCode, message, data := .null }

end Reply

/-- `try { body } catch (std::exception &e)`, for a body that fills a reply. -/
def attempt {σ : Type} (s : σ) (body : Except Fault (σ × Reply)) : Except Fault (σ × Reply) :=
  catchStd body fun what => return (s, .failed what)

/-- A component of a split string: `operator[]` of a vector. -/
def component (pieces : List String) (i : ℕ) : Except Fault String :=
  match pieces[i]? with
  | some piece => .ok piece
  -- `operator[]` beyond the end is not caught by any `catch`
  | none => .error .outOfRange

/-- Group keys joined by commas, as `accumulate` folds them. -/
def joinGroups (groups : List String) : String :=
  groups.foldl (fun joined group => if joined.isEmpty then group else joined ++ "," ++ group) ""

namespace Task

def setMetadata (task : Task) (key : String) (v : JsonValue) : Task :=
  { task with request := { task.request with metadata := task.request.metadata.set key v } }

def eraseMetadata (task : Task) (key : String) : Task :=
  { task with request := { task.request with metadata := task.request.metadata.erase key } }

def setParams (task : Task) (v : JsonValue) : Task :=
  { task with request := { task.request with params := v } }

section Fields

variable {task : Task} {key : String} {v : JsonValue}

@[simp] theorem stored_setMetadata {name : String} :
    (task.setMetadata key v).stored name = task.stored name := rfl

@[simp] theorem stored_eraseMetadata {name : String} :
    (task.eraseMetadata key).stored name = task.stored name := rfl

@[simp] theorem transportId_setMetadata :
    (task.setMetadata key v).transportId = task.transportId := rfl

@[simp] theorem transportId_eraseMetadata :
    (task.eraseMetadata key).transportId = task.transportId := rfl

@[simp] theorem params_setMetadata :
    (task.setMetadata key v).request.params = task.request.params := rfl

@[simp] theorem metadata_setMetadata :
    (task.setMetadata key v).request.metadata = task.request.metadata.set key v := rfl

@[simp] theorem params_eraseMetadata :
    (task.eraseMetadata key).request.params = task.request.params := rfl

@[simp] theorem metadata_eraseMetadata :
    (task.eraseMetadata key).request.metadata = task.request.metadata.erase key := rfl

end Fields

end Task

namespace Ctx

variable {α : Type}

/-- A text on its way to a websocket session. -/
def writeTo (ctx : Ctx α) (id text : String) : Except Fault (List (Envelope α)) :=
  ctx.send "ws" "write" (.transport (.webSocket { id, body := text }))

/-- A response to a task, on its way to the session the task came from. -/
def respond (J : Codec) (ctx : Ctx α) (task : Task) (reply : Reply) :
    Except Fault (List (Envelope α)) :=
  ctx.writeTo task.transportId ((reply.message task.request.id).serialize J)

/-- The message that a response makes. -/
def response (J : Codec) (ctx : Ctx α) (ws : α) (task : Task) (reply : Reply) : Envelope α where
  dest := ws
  sender := ctx.self
  command := "write"
  body := .transport (.webSocket
    { id := task.transportId, body := (reply.message task.request.id).serialize J })

/-- A handler that reads its parameters, checks them, fills a reply inside a
`try` and writes it. -/
def answer {σ β : Type} (J : Codec) (ctx : Ctx α) (task : Task) (s : σ) (read : Except Fault β)
    (valid : β → Bool) (invalid : String) (body : β → Except Fault (σ × Reply)) :
    Except Fault (σ × List (Envelope α)) := do
  -- outside of the `try`: a missing parameter is not answered
  let args ← read
  let (s, reply) ← (if valid args then attempt s (body args) else .ok (s, .failed invalid))
  return (s, ← ctx.respond J task reply)

end Ctx

/-! ## What the common parts do -/

theorem component_eq_ok {pieces : List String} {i : ℕ} {piece : String} :
    component pieces i = .ok piece ↔ pieces[i]? = some piece := by
  cases h : pieces[i]? <;> simp [component, h]

/-- What holds of the untouched state and of every state the body leaves, holds
of the state an attempt leaves. -/
theorem attempt_ensures {σ : Type} {s : σ} {body : Except Fault (σ × Reply)} {Q : σ → Prop}
    (hs : Q s) (hbody : body.Ensures fun r => Q r.1) : (attempt s body).Ensures fun r => Q r.1 :=
  catchStd_ensures hbody fun _ => Except.ensures_ok.mpr hs

namespace Ctx

variable {α : Type} {ctx : Ctx α}

theorem writeTo_eq_ok {id text : String} {out : List (Envelope α)} :
    ctx.writeTo id text = .ok out ↔
      ∃ dest, ctx.contacts.lookup "ws" = some dest ∧
        out = [{ dest, sender := ctx.self, command := "write",
                 body := .transport (.webSocket { id, body := text }) }] :=
  send_eq_ok

theorem respond_of_contact {J : Codec} {task : Task} {reply : Reply} {ws : α}
    (h : ctx.contacts.lookup "ws" = some ws) :
    ctx.respond J task reply = .ok [ctx.response J ws task reply] := send_of_contact h

/-- An answer sends one message: the response, to the session of the task. -/
theorem answer_eq_ok {σ β : Type} {J : Codec} {task : Task} {s s' : σ} {read : Except Fault β}
    {valid : β → Bool} {invalid : String} {body : β → Except Fault (σ × Reply)}
    {out : List (Envelope α)} :
    ctx.answer J task s read valid invalid body = .ok (s', out) ↔
      ∃ args reply, read = .ok args ∧
        (if valid args then attempt s (body args) else .ok (s, .failed invalid)) =
          .ok (s', reply) ∧
        ctx.respond J task reply = .ok out := by
  simp only [answer, Except.bind_eq_ok]
  constructor
  · rintro ⟨args, hread, ⟨s₁, reply⟩, hbody, out₁, hout, heq⟩
    obtain ⟨rfl, rfl⟩ := Prod.mk.inj (Except.ok.inj heq)
    exact ⟨args, reply, hread, hbody, hout⟩
  · rintro ⟨args, reply, hread, hbody, hout⟩
    exact ⟨args, hread, (s', reply), hbody, out, hout, rfl⟩

/-- A handler that ends with a response. -/
theorem respond_yields_return {σ : Type} {J : Codec} {task : Task} {s : σ} {reply : Reply} {ws : α}
    {Q : List (Envelope α) → Prop} (h : ctx.contacts.lookup "ws" = some ws)
    (hQ : Q [ctx.response J ws task reply]) :
    (do return (s, ← ctx.respond J task reply) : Except Fault (σ × List (Envelope α))).Yields
      fun r => Q r.2 := by
  rw [respond_of_contact h]
  exact Except.yields_ok.mpr hQ

/-- An answer is given when the parameters can be read and its body copes. -/
theorem answer_yields {σ β : Type} {J : Codec} {task : Task} {s : σ} {read : Except Fault β}
    {valid : β → Bool} {invalid : String} {body : β → Except Fault (σ × Reply)} {ws : α}
    {Q : List (Envelope α) → Prop} (h : ctx.contacts.lookup "ws" = some ws) (hread : read.Returns)
    (hbody : ∀ args, Copes (body args) fun _ => True)
    (hQ : ∀ reply, Q [ctx.response J ws task reply]) :
    (ctx.answer J task s read valid invalid body).Yields fun r => Q r.2 := by
  obtain ⟨args, rfl⟩ := hread
  unfold answer
  rw [Except.ok_bind', Except.yields_bind]
  -- the `try` catches what the body throws, so that there is a reply in any case
  have hreply : (if valid args then attempt s (body args) else .ok (s, .failed invalid)).Yields
      fun _ => True := by
    refine Except.yields_ite (fun _ => ?_) fun _ => Except.yields_ok.mpr trivial
    exact catchStd_yields (hbody args) fun _ => Except.yields_ok.mpr trivial
  exact hreply.mono fun r _ => respond_yields_return h (hQ r.2)

end Ctx

theorem execute_copes {db : Db} : Copes db.execute fun _ => True := by
  cases db with
  | none => exact copes_ok.mpr trivial
  | some what => exact copes_thrown

theorem insertRow_copes {ρ κ : Type} [DecidableEq κ] {key : ρ → κ} {t : Keyed ρ κ key} {r : ρ} :
    Copes (insertRow t r) fun _ => True := by
  unfold insertRow
  split
  · exact copes_ok.mpr trivial
  · exact copes_thrown

/-- Strings are read out of an array of strings, anything else throws. -/
theorem mapM_asString_copes (a : JsonArray) :
    Copes (a.mapM JsonValue.asString) fun strings => a = strings.map .string := by
  induction a with
  | nil => exact copes_ok.mpr rfl
  | cons v a ih =>
    rw [List.mapM_cons]
    -- one element after the other: the first that is no string throws
    cases v with
    | string s =>
      rw [JsonValue.asString, Except.ok_bind']
      exact copes_bind ih fun strings hstrings => copes_ok.mpr (by rw [hstrings, List.map_cons])
    | _ => exact copes_thrown

/-- What an answer leaves of the state: nothing else than what its body leaves. -/
theorem Ctx.answer_ensures {α σ β : Type} {J : Codec} {ctx : Ctx α} {task : Task} {s : σ}
    {read : Except Fault β} {valid : β → Bool} {invalid : String}
    {body : β → Except Fault (σ × Reply)} {Q : σ → Prop} (hs : Q s)
    (hbody : ∀ args, (body args).Ensures fun r => Q r.1) :
    (ctx.answer J task s read valid invalid body).Ensures fun r => Q r.1 := by
  rintro ⟨s', out⟩ hout
  obtain ⟨args, reply, -, hreply, -⟩ := answer_eq_ok.mp hout
  split at hreply
  · exact attempt_ensures hs (hbody args) _ hreply
  · cases hreply
    exact hs

/-- A handler that only sends leaves its state. -/
theorem Ctx.return_keeps {α σ : Type} {s : σ} {send : Except Fault (List (Envelope α))} :
    (do return (s, ← send) : Except Fault (σ × List (Envelope α))).Ensures fun r => r.1 = s :=
  Except.ensures_bind.mpr fun _ _ => Except.ensures_ok.mpr rfl

/-! ## What a handler sends

`Sends` says of the messages of a handler that they go to contacts of its actor
and are of a few kinds. Each service has one such fact about all its handlers. -/

namespace Ctx

variable {α : Type}

/-- Every message comes from this actor, goes to one of its contacts and is as
`kinds` says of the name of the contact, the command and the body. -/
def Sends (ctx : Ctx α) (kinds : String → String → Body α → Prop) (out : List (Envelope α)) : Prop :=
  ∀ e ∈ out, e.sender = ctx.self ∧
    ∃ name, ctx.contacts.lookup name = some e.dest ∧ kinds name e.command e.body

variable {ctx : Ctx α} {kinds : String → String → Body α → Prop}

theorem sends_nil : ctx.Sends kinds [] := fun _ he => absurd he List.not_mem_nil

theorem Sends.append {out out' : List (Envelope α)} (h : ctx.Sends kinds out)
    (h' : ctx.Sends kinds out') : ctx.Sends kinds (out ++ out') := by
  intro e he
  rcases List.mem_append.mp he with he | he
  · exact h e he
  · exact h' e he

theorem send_sends {name command : String} {body : Body α} (h : kinds name command body) :
    (ctx.send name command body).Ensures (ctx.Sends kinds) := by
  intro out hout e he
  obtain ⟨dest, hdest, rfl⟩ := send_eq_ok.mp hout
  obtain rfl := List.mem_singleton.mp he
  exact ⟨rfl, name, hdest, h⟩

/-- A handler that ends with sending. -/
theorem send_sends_return {σ : Type} {s : σ} {name command : String} {body : Body α}
    (h : kinds name command body) :
    (do return (s, ← ctx.send name command body) : Except Fault (σ × List (Envelope α))).Ensures
      fun r => ctx.Sends kinds r.2 :=
  (send_sends h).andThen fun _ hout => Except.ensures_ok.mpr hout

variable (hwrite : ∀ ws, kinds "ws" "write" (.transport (.webSocket ws)))
include hwrite

theorem writeTo_sends {id text : String} :
    (ctx.writeTo id text).Ensures (ctx.Sends kinds) := send_sends (hwrite _)

theorem respond_sends {J : Codec} {task : Task} {reply : Reply} :
    (ctx.respond J task reply).Ensures (ctx.Sends kinds) := send_sends (hwrite _)

/-- A handler that ends with a response. -/
theorem respond_sends_return {σ : Type} {s : σ} {J : Codec} {task : Task} {reply : Reply} :
    (do return (s, ← ctx.respond J task reply) : Except Fault (σ × List (Envelope α))).Ensures
      fun r => ctx.Sends kinds r.2 := send_sends_return (hwrite _)

theorem answer_sends {σ β : Type} {J : Codec} {task : Task} {s : σ} {read : Except Fault β}
    {valid : β → Bool} {invalid : String} {body : β → Except Fault (σ × Reply)} :
    (ctx.answer J task s read valid invalid body).Ensures fun r => ctx.Sends kinds r.2 := by
  rintro ⟨s', out⟩ hout
  obtain ⟨_, reply, _, _, hout⟩ := answer_eq_ok.mp hout
  exact respond_sends hwrite out hout

end Ctx

end StreamCloud
