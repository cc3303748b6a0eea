-- SUMMARY: An http session answers its requests in order, with one read and one write at a time and few responses waiting.
import StreamCloud.Providers.HttpSession

/-!
# Pipelining

A client may send requests before it has the responses to earlier ones. Each of them
gets one response, and the responses leave in the order of the requests.
-/

namespace StreamCloud.HttpServer

variable {docRoot : String} {openFile : String → Opened}

/-! ## Answers -/

/-- The response to a request, where the handler gives one. -/
def answer? (docRoot : String) (openFile : String → Opened) (req : Request) : Option Response :=
  match listener docRoot openFile req ⟨[], false⟩ with
  | .ok (session, _) => session.items.head?
  | .error _ => none

/-- The handler puts the answer behind what waits already. -/
theorem items_of_listener {req : Request} {items : List Response} {session : Session} {opened : List String}
    (h : listener docRoot openFile req ⟨items, false⟩ = .ok (session, opened)) :
    ∃ res, answer? docRoot openFile req = some res ∧ session.items = items ++ [res] := by
  unfold answer?
  unfold listener at h ⊢
  split at h
  · next hmethod =>
    cases h
    rw [if_pos hmethod]
    exact ⟨_, rfl, rfl⟩
  · next hmethod =>
    rw [if_neg hmethod]
    split at h
    · next htarget =>
      cases h
      rw [if_pos htarget]
      exact ⟨_, rfl, rfl⟩
    · next htarget =>
      rw [if_neg htarget]
      obtain ⟨host, hhost, h⟩ := Except.bind_eq_ok.mp h
      rw [hhost, Except.ok_bind']
      dsimp only at h ⊢
      cases hopened : openFile (filePath docRoot host req.target) with
      | noSuchFile =>
        rw [hopened] at h
        cases h
        exact ⟨_, rfl, rfl⟩
      | error message =>
        rw [hopened] at h
        cases h
        exact ⟨_, rfl, rfl⟩
      | size bytes =>
        rw [hopened] at h
        cases h
        exact ⟨_, rfl, rfl⟩

namespace Connection

/-- The response that an event asks for. -/
def Event.answer? (docRoot : String) (openFile : String → Opened) : Event → Option Response
  | .read (.request req) => HttpServer.answer? docRoot openFile req
  | _ => none

/-- The responses to the requests of a run, in the order of the requests. -/
def answers (docRoot : String) (openFile : String → Opened) (events : List Event) : List Response :=
  events.filterMap (Event.answer? docRoot openFile)

/-- A read that is not followed by another one. -/
def Event.EndsReading : Event → Prop
  | .read (.request _) => False
  | .read _ => True
  | .wrote _ => False

/-- A write that is not followed by another one. -/
def Event.FailsWriting : Event → Prop
  | .read _ => False
  | .wrote w => w ≠ .written

/-! ## Runs -/

/-- What a session is like after some events. -/
structure Pipelines (docRoot : String) (openFile : String → Opened) (events : List Event) (c : Connection) :
    Prop where
  /-- What was asked for is what has been written and what waits; the first of those
  that wait is being written. -/
  order : ∃ done, answers docRoot openFile events = done ++ c.items ∧
    c.begun = done ++ c.items.head?.toList ∧ ∀ res ∈ done, res.keepAlive
  /-- No more than eight responses wait. -/
  bounded : c.items.length ≤ Session.limit
  /-- There is one read at a time, and none while the queue is full. -/
  reading : c.reads ≤ 1 ∧ (c.isFull → c.reads = 0)
  /-- There is one write at a time, and none while nothing waits. -/
  writing : c.writes ≤ 1 ∧ (c.items = [] → c.writes = 0)
  /-- Reading goes on until a read ends it. -/
  reads : (∀ e ∈ events, ¬ e.EndsReading) → ¬ c.isFull → c.reads = 1
  /-- Writing goes on until a write fails, or a response closes the connection. -/
  writes : (∀ e ∈ events, ¬ e.FailsWriting) → (∀ res ∈ c.begun, res.keepAlive) → c.items ≠ [] → c.writes = 1

theorem pipelines_start : Pipelines docRoot openFile [] start where
  order := ⟨[], rfl, rfl, by simp⟩
  bounded := by simp [start, doRead]
  reading := by simp [start, doRead, isFull, Session.limit]
  writing := by simp [start, doRead]
  reads := by simp [start, doRead]
  writes := by simp [start, doRead]

theorem answers_snoc (events : List Event) (e : Event) :
    answers docRoot openFile (events ++ [e]) =
      answers docRoot openFile events ++ (e.answer? docRoot openFile).toList := by
  rw [answers, List.filterMap_append, List.filterMap_cons, List.filterMap_nil, answers]
  cases e.answer? docRoot openFile <;> rfl

theorem forall_of_snoc {P : Event → Prop} {events : List Event} {e : Event}
    (h : ∀ e' ∈ events ++ [e], P e') : (∀ e' ∈ events, P e') ∧ P e :=
  ⟨fun e' he' => h e' (List.mem_append_left _ he'), h e (List.mem_append_right _ (List.mem_singleton_self e))⟩

variable {events : List Event} {c c' : Connection}

/-- A read that brings no request is the last one. -/
theorem Pipelines.read_ended (h : Pipelines docRoot openFile events c) {r : Read} {shut : Bool}
    (hends : (Event.read r).EndsReading) (hread : 0 < c.reads) :
    Pipelines docRoot openFile (events ++ [.read r]) { c with reads := c.reads - 1, shut } := by
  have hanswer : (Event.read r).answer? docRoot openFile = none := by
    cases r with
    | request => exact hends.elim
    | _ => rfl
  exact {
    order := by
      rw [answers_snoc, hanswer, Option.toList_none, List.append_nil]
      exact h.order
    bounded := h.bounded
    reading := ⟨(Nat.sub_le _ _).trans h.reading.1, fun hfull => absurd (h.reading.2 hfull) hread.ne'⟩
    writing := h.writing
    reads := fun hgoes => absurd hends (forall_of_snoc hgoes).2
    writes := fun hgoes => h.writes (forall_of_snoc hgoes).1 }

/-- A request is answered, and another one is read unless the queue is full. -/
theorem Pipelines.request (h : Pipelines docRoot openFile events c) {req : Request} (hread : 0 < c.reads)
    (hstep : { c with reads := c.reads - 1 }.onRead docRoot openFile (.request req) = .ok c') :
    Pipelines docRoot openFile (events ++ [.read (.request req)]) c' := by
  obtain ⟨⟨session, opened⟩, hlistener, hstep⟩ := Except.bind_eq_ok.mp hstep
  obtain ⟨res, hanswer, hitems⟩ := items_of_listener hlistener
  have hreads : c.reads - 1 = 0 := by
    have hone := h.reading.1
    omega
  have hroom : c.items.length < Session.limit := by
    by_contra hfull
    have hnone := h.reading.2 (by simpa [isFull] using hfull)
    omega
  dsimp only at hitems hstep
  rw [hitems, hreads] at hstep
  obtain rfl := Except.ok.inj hstep
  obtain ⟨done, hanswers, hbegun, hkept⟩ := h.order
  have hanswers' : answers docRoot openFile (events ++ [.read (.request req)]) = done ++ (c.items ++ [res]) := by
    rw [answers_snoc, hanswers, List.append_assoc]
    exact congrArg (fun a => done ++ (c.items ++ Option.toList a)) hanswer
  generalize hput : ({ c with items := c.items ++ [res], reads := 0 } : Connection).startFirst = c₁
  obtain ⟨hitems₁, hreads₁⟩ : c₁.items = c.items ++ [res] ∧ c₁.reads = 0 := by
    rw [← hput]
    unfold startFirst
    split <;> exact ⟨rfl, rfl⟩
  have hwrites₁ : c₁.begun = done ++ c₁.items.head?.toList ∧ c₁.writes ≤ 1 ∧
      ((∀ e ∈ events, ¬ e.FailsWriting) → (∀ res ∈ c₁.begun, res.keepAlive) → c₁.writes = 1) := by
    rw [← hput]
    cases hwaits : c.items with
    | nil =>
      -- nothing is written, so that this response is
      have hnone := h.writing.2 hwaits
      simp [startFirst, writeFront, hbegun, hwaits, hnone]
    | cons first rest =>
      have hmany : (first :: rest ++ [res]).length ≠ 1 := by simp
      rw [startFirst, if_neg hmany]
      refine ⟨by rw [hbegun, hwaits]; rfl, h.writing.1, fun hgoes hkeeps => ?_⟩
      exact h.writes hgoes hkeeps (by simp [hwaits])
  have hlength : c₁.items.length ≤ Session.limit := by
    rw [hitems₁, List.length_append, List.length_singleton]
    exact hroom
  have hne : c₁.items ≠ [] := by simp [hitems₁]
  split
  · next hfull => exact {
      order := ⟨done, hitems₁ ▸ hanswers', hwrites₁.1, hkept⟩
      bounded := hlength
      reading := ⟨hreads₁.le.trans (Nat.zero_le 1), fun _ => hreads₁⟩
      writing := ⟨hwrites₁.2.1, fun hempty => absurd hempty hne⟩
      reads := fun _ hno => absurd hfull hno
      writes := fun hgoes hkeeps _ => hwrites₁.2.2 (forall_of_snoc hgoes).1 hkeeps }
  · next hfull => exact {
      order := ⟨done, hitems₁ ▸ hanswers', hwrites₁.1, hkept⟩
      bounded := hlength
      reading := ⟨by simp [doRead, hreads₁], fun hno => absurd hno hfull⟩
      writing := ⟨hwrites₁.2.1, fun hempty => absurd hempty hne⟩
      reads := fun _ _ => by simp [doRead, hreads₁]
      writes := fun hgoes hkeeps _ => hwrites₁.2.2 (forall_of_snoc hgoes).1 hkeeps }

/-- A write that is not followed by another one. -/
theorem Pipelines.write_ended (h : Pipelines docRoot openFile events c) {w : Wrote} {shut : Bool}
    (hends : (Event.wrote w).FailsWriting ∨ ∃ res ∈ c.begun, res.keepAlive = false) (hwrite : 0 < c.writes) :
    Pipelines docRoot openFile (events ++ [.wrote w]) { c with writes := c.writes - 1, shut } where
  order := by
    rw [answers_snoc]
    simpa [Event.answer?] using h.order
  bounded := h.bounded
  reading := h.reading
  writing := ⟨(Nat.sub_le _ _).trans h.writing.1, fun hempty => absurd (h.writing.2 hempty) hwrite.ne'⟩
  reads := fun hgoes => h.reads (forall_of_snoc hgoes).1
  writes := fun hgoes hkeeps => by
    rcases hends with hfails | ⟨res, hres, hcloses⟩
    · exact absurd hfails (forall_of_snoc hgoes).2
    · exact absurd (hkeeps res hres) (by simp [hcloses])

/-- A response that keeps the connection alive is followed by the next one, and by a
read where there was no room for another response. -/
theorem Pipelines.written (h : Pipelines docRoot openFile events c) {res : Response} (hwrite : 0 < c.writes)
    (hfront : c.items.head? = some res) (hkeeps : res.keepAlive) :
    Pipelines docRoot openFile (events ++ [.wrote .written])
      ({ c with writes := c.writes - 1 }.onWrite false .written) := by
  obtain ⟨done, hanswers, hbegun, hkept⟩ := h.order
  obtain ⟨rest, hitems⟩ : ∃ rest, c.items = res :: rest := List.head?_eq_some_iff.mp hfront
  have hwrites : c.writes - 1 = 0 := by
    have hone := h.writing.1
    omega
  have hanswers' : answers docRoot openFile (events ++ [.wrote .written]) = (done ++ [res]) ++ rest := by
    rw [answers_snoc, hanswers, hitems]
    simp [Event.answer?]
  have hkept' : ∀ res' ∈ done ++ [res], res'.keepAlive := by
    intro res' hres'
    rcases List.mem_append.mp hres' with hres' | hres'
    · exact hkept res' hres'
    · rw [List.mem_singleton.mp hres']
      exact hkeeps
  have hlength : rest.length < Session.limit := by
    have hbounded := h.bounded
    rw [hitems, List.length_cons] at hbounded
    omega
  generalize hnext : ({ c with writes := c.writes - 1 } : Connection).queueOnWrite.1 = c₁
  obtain ⟨hitems₁, hreads₁, hbegun₁, hwrites₁⟩ : c₁.items = rest ∧ c₁.reads = c.reads ∧
      c₁.begun = (done ++ [res]) ++ rest.head?.toList ∧ c₁.writes = if rest = [] then 0 else 1 := by
    rw [← hnext]
    unfold queueOnWrite
    simp only [hitems, List.tail_cons, hwrites]
    split
    · next hempty => exact ⟨rfl, rfl, by simp [hbegun, hitems, hempty], rfl⟩
    · next hmore => exact ⟨rfl, rfl, by simp [writeFront, hbegun, hitems], rfl⟩
  have hroom : c₁.isFull = false := by simpa [isFull, hitems₁] using hlength
  have hone : c₁.writes ≤ 1 := by
    rw [hwrites₁]
    split <;> simp
  have hnone (hempty : c₁.items = []) : c₁.writes = 0 := by rw [hwrites₁, if_pos (hitems₁ ▸ hempty)]
  have hsome (hmore : c₁.items ≠ []) : c₁.writes = 1 := by rw [hwrites₁, if_neg (hitems₁ ▸ hmore)]
  have hrun : ({ c with writes := c.writes - 1 } : Connection).onWrite false .written =
      if c.isFull then c₁.doRead else c₁ := by
    rw [← hnext]
    rfl
  rw [hrun]
  split
  · next hfull =>
    have hreads : c₁.reads = 0 := hreads₁.trans (h.reading.2 hfull)
    exact {
      order := ⟨done ++ [res], by rw [hanswers', ← hitems₁]; rfl, by rw [← hitems₁] at hbegun₁; exact hbegun₁, hkept'⟩
      bounded := by rw [← hitems₁] at hlength; exact hlength.le
      reading := ⟨by simp [doRead, hreads], fun hno => absurd (hroom.symm.trans hno) (by simp)⟩
      writing := ⟨hone, hnone⟩
      reads := fun _ _ => by simp [doRead, hreads]
      writes := fun _ _ => hsome }
  · next hfull => exact {
      order := ⟨done ++ [res], by rw [hanswers', ← hitems₁], by rw [← hitems₁] at hbegun₁; exact hbegun₁, hkept'⟩
      bounded := by rw [← hitems₁] at hlength; exact hlength.le
      reading := ⟨hreads₁ ▸ h.reading.1, fun hno => absurd hno (by simp [hroom])⟩
      writing := ⟨hone, hnone⟩
      reads := fun hgoes _ => hreads₁ ▸ h.reads (forall_of_snoc hgoes).1 hfull
      writes := fun _ _ => hsome }

/-- The step lemma: whatever completes, the session goes on as it should. -/
theorem Pipelines.step (h : Pipelines docRoot openFile events c) {e : Event}
    (hstep : Step docRoot openFile c e c') : Pipelines docRoot openFile (events ++ [e]) c' := by
  cases hstep with
  | @read _ r hread hran =>
    cases r with
    | operationAborted =>
      cases hran
      exact h.read_ended trivial hread
    | endOfStream =>
      cases hran
      exact h.read_ended trivial hread
    | error =>
      cases hran
      exact h.read_ended trivial hread
    | request req => exact h.request hread hran
  | @wrote res w hwrite hfront =>
    cases w with
    | operationAborted => exact h.write_ended (.inl (by simp [Event.FailsWriting])) hwrite
    | error => exact h.write_ended (.inl (by simp [Event.FailsWriting])) hwrite
    | written =>
      cases hkeeps : res.keepAlive with
      | true =>
        have hopen : res.needEof = false := by simp [Response.needEof, hkeeps]
        rw [hopen]
        exact h.written hwrite hfront hkeeps
      | false =>
        have hcloses : res.needEof = true := by simp [Response.needEof, hkeeps]
        rw [hcloses]
        obtain ⟨done, -, hbegun, -⟩ := h.order
        have hres : res ∈ c.begun := by simp [hbegun, hfront]
        exact h.write_ended (.inr ⟨res, hres, hkeeps⟩) hwrite

/-- In every run of a session, responses leave in the order of the requests, each of
them once, and none behind one that closes the connection. -/
theorem session_pipelines (docRoot : String) (openFile : String → Opened) {events : List Event} {c : Connection}
    (h : Lts.Trace (Step docRoot openFile) start events c) : Pipelines docRoot openFile events c :=
  h.invariant (Pipelines docRoot openFile) pipelines_start fun _ _ _ _ hkept hstep => hkept.step hstep

/-- Two requests are read before the response to the first one is written. -/
theorem session_pipelines_two : let req : Request := ⟨.other "PUT", 11, "/", [], true⟩
    Pipelines "." (fun _ => .noSuchFile) [.read (.request req), .read (.request req), .wrote .written]
      ⟨[req.badRequest "Unknown HTTP-method"], 1, 1, false,
        List.replicate 2 (req.badRequest "Unknown HTTP-method")⟩ := by
  intro req
  exact session_pipelines "." (fun _ => .noSuchFile)
    (.cons (.read Nat.one_pos rfl) (.cons (.read Nat.one_pos rfl) (.cons (.wrote Nat.one_pos rfl) .nil)))

/-- The session of `on_read` alone is this one between two reads. -/
theorem onRead_session {r : Read} (hreads : c.reads = 0) (h : c.onRead docRoot openFile r = .ok c') :
    ∃ opened, Session.onRead docRoot openFile ⟨c.items, true⟩ r = .ok (⟨c'.items, 0 < c'.reads⟩, opened) := by
  cases r with
  | operationAborted =>
    obtain rfl := Except.ok.inj h
    exact ⟨[], by simp [Session.onRead, hreads]⟩
  | endOfStream =>
    obtain rfl := Except.ok.inj h
    exact ⟨[], by simp [Session.onRead, doClose, hreads]⟩
  | error =>
    obtain rfl := Except.ok.inj h
    exact ⟨[], by simp [Session.onRead, hreads]⟩
  | request req =>
    obtain ⟨⟨session, opened⟩, hlistener, h⟩ := Except.bind_eq_ok.mp h
    refine ⟨opened, ?_⟩
    rw [Session.onRead, hlistener, Except.ok_bind']
    obtain rfl := Except.ok.inj h
    dsimp only
    generalize hc : ({ c with items := session.items } : Connection).startFirst = c₁
    obtain ⟨hitems, hreads₁⟩ : c₁.items = session.items ∧ c₁.reads = 0 := by
      rw [← hc]
      unfold startFirst
      split <;> exact ⟨rfl, hreads⟩
    have hfull : c₁.isFull = session.isFull := by rw [isFull, Session.isFull, hitems]
    rw [hfull]
    cases session.isFull <;> simp [doRead, hitems, hreads₁, pure, Except.pure]

end Connection

end StreamCloud.HttpServer
