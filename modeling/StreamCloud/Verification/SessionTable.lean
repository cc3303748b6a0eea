-- SUMMARY: The session table of the websocket server holds the live sessions, as long as each end is reported and ids differ.
import StreamCloud.Providers.ServerSession

/-!
# The session table

A session is live while one of its operations is in flight. Its end is a message
on its way: first to the router, then back to the websocket server.
-/

namespace StreamCloud.WsServer.Server

/-- The message that ends a session: an error of it, or its close or removal. -/
def ends (e : Envelope Party) : Option String :=
  match e.dest, e.command, e.body with
  | .router, "error", .transport (.error err) => some err.id
  | .ws, "close", .transport (.webSocket ws) => some ws.id
  | .ws, "remove", .transport (.webSocket ws) => some ws.id
  | _, _, _ => none

/-- The end of a session is on its way. -/
def Pending (s : Server) (id : String) : Prop := ∃ e ∈ s.mail, ends e = some id

/-- A session with its id and what is in flight for it. -/
def Has (s : Server) (k : ℕ) (id : String) (ops : List Operation) : Prop :=
  ∃ session, s.sessions[k]? = some session ∧ session.id = id ∧ session.inFlight = ops

/-- The session is live: one of its operations is in flight. -/
def Live (s : Server) (k : ℕ) (id : String) : Prop := ∃ ops, s.Has k id ops ∧ ops ≠ []

/-- The table holds exactly the live sessions, each under its own id, and no
session that was accepted is lost: every one of them was run. -/
structure Exact (s : Server) : Prop where
  table (id : String) (k : ℕ) : s.storageSessions.lookup id = some k ↔ s.Live k id
  run : ∀ session ∈ s.sessions, session.isRun

/-- Every message about the end of a session has been handled. -/
def Settled (s : Server) : Prop := ∀ id, ¬ s.Pending id

/-- The steps that keep the table right: the id of an accepted session is not in
use, no accept handshake fails, and no read ends with a close of the other side. -/
def Keeps (s : Server) : Event → Prop
  | .accepted reading => toString reading ∉ s.storageSessions ∧ ¬ s.Pending (toString reading)
  | .completed _ .accept (.error _) => False
  | .completed _ .read (.error .closed) => False
  | _ => True

/-- Live sessions are in the table, and of the others those whose end is on its way. -/
structure Sound (s : Server) : Prop where
  entry {id : String} {k : ℕ} : s.storageSessions.lookup id = some k → ∃ ops, s.Has k id ops
  live {k : ℕ} {id : String} {ops : List Operation} : s.Has k id ops → ops ≠ [] →
    (∃ op, ops = [op]) ∧ s.storageSessions.lookup id = some k
  dead {k : ℕ} {id : String} : s.Has k id [] → s.storageSessions.lookup id = some k → s.Pending id
  ended {id : String} {k : ℕ} {ops : List Operation} : s.Pending id → s.Has k id ops → ops = []
  run : ∀ session ∈ s.sessions, session.isRun

variable {s s' : Server}

theorem Has.eq {k : ℕ} {id id' : String} {ops ops' : List Operation} (h : s.Has k id ops)
    (h' : s.Has k id' ops') : id = id' ∧ ops = ops' := by
  obtain ⟨session, hk, rfl, rfl⟩ := h
  obtain ⟨session', hk', rfl, rfl⟩ := h'
  obtain rfl : session = session' := Option.some.inj (hk.symm.trans hk')
  exact ⟨rfl, rfl⟩

theorem empty_sound : empty.Sound where
  entry h := by cases h
  live h := by obtain ⟨_, h, -⟩ := h; cases h
  dead h := by obtain ⟨_, h, -⟩ := h; cases h
  ended h := by obtain ⟨_, h, -⟩ := h; cases h
  run _ h := by cases h

/-- Where nothing is on its way, the table is right. -/
theorem Sound.exact (h : s.Sound) (hsettled : s.Settled) : s.Exact := by
  refine ⟨fun id k => ?_, h.run⟩
  constructor
  · intro hlookup
    obtain ⟨ops, hhas⟩ := h.entry hlookup
    refine ⟨ops, hhas, ?_⟩
    rintro rfl
    exact hsettled id (h.dead hhas hlookup)
  · rintro ⟨ops, hhas, hne⟩
    exact (h.live hhas hne).2

/-! ## One step -/

/-- A new session, in the table under an id that is not in use. -/
theorem Sound.accept (h : s.Sound) {k : ℕ} {id : String} {op : Operation}
    (hk : ∀ id ops, ¬ s.Has k id ops) (hid : s.storageSessions.lookup id = none)
    (hnotPending : ¬ s.Pending id)
    (hhas : ∀ j i ops, s'.Has j i ops ↔ s.Has j i ops ∨ j = k ∧ i = id ∧ ops = [op])
    (hlookup : ∀ i, s'.storageSessions.lookup i =
      if i = id then some k else s.storageSessions.lookup i)
    (hpending : ∀ i, s'.Pending i ↔ s.Pending i) (hrun : ∀ session ∈ s'.sessions, session.isRun) :
    s'.Sound where
  entry {i j} hi := by
    rw [hlookup] at hi
    split at hi
    · next heq =>
      cases hi
      exact ⟨[op], (hhas _ _ _).mpr (.inr ⟨rfl, heq, rfl⟩)⟩
    · obtain ⟨ops, hops⟩ := h.entry hi
      exact ⟨ops, (hhas _ _ _).mpr (.inl hops)⟩
  live {j i ops} hj hne := by
    -- a session that was there, or the new one
    rcases (hhas _ _ _).mp hj with hj | ⟨rfl, rfl, rfl⟩
    · obtain ⟨hop, hi⟩ := h.live hj hne
      have hne : i ≠ id := by
        rintro rfl
        cases hid.symm.trans hi
      exact ⟨hop, by rw [hlookup, if_neg hne, hi]⟩
    · exact ⟨⟨op, rfl⟩, by rw [hlookup, if_pos rfl]⟩
  dead {j i} hj hi := by
    rcases (hhas _ _ _).mp hj with hj | ⟨-, -, hops⟩
    · rw [hlookup] at hi
      split at hi
      · cases hi
        exact absurd hj (hk _ _)
      · exact (hpending i).mpr (h.dead hj hi)
    · cases hops
  ended {i j ops} hi hj := by
    have hi := (hpending i).mp hi
    rcases (hhas _ _ _).mp hj with hj | ⟨-, rfl, -⟩
    · exact h.ended hi hj
    · exact absurd hi hnotPending
  run := hrun

/-- An operation of a session completes: another one is in flight, or the end of
the session is on its way. -/
theorem Sound.complete (h : s.Sound) {k : ℕ} {id : String} {ops ops' : List Operation}
    (hk : s.Has k id ops) (hne : ops ≠ []) (hops' : ops' = [] ∨ ∃ op, ops' = [op])
    (hhas : ∀ j i o, s'.Has j i o ↔ j ≠ k ∧ s.Has j i o ∨ j = k ∧ i = id ∧ o = ops')
    (htable : s'.storageSessions = s.storageSessions)
    (hpending : ∀ i, s'.Pending i ↔ s.Pending i ∨ ops' = [] ∧ i = id)
    (hrun : ∀ session ∈ s'.sessions, session.isRun) : s'.Sound where
  entry {i j} hi := by
    rw [htable] at hi
    obtain ⟨o, ho⟩ := h.entry hi
    by_cases hj : j = k
    · subst hj
      exact ⟨ops', (hhas _ _ _).mpr (.inr ⟨rfl, (ho.eq hk).1, rfl⟩)⟩
    · exact ⟨o, (hhas _ _ _).mpr (.inl ⟨hj, ho⟩)⟩
  live {j i o} hj hne' := by
    rw [htable]
    rcases (hhas _ _ _).mp hj with ⟨-, hj⟩ | ⟨rfl, rfl, rfl⟩
    · exact h.live hj hne'
    · exact ⟨hops'.resolve_left hne', (h.live hk hne).2⟩
  dead {j i} hj hi := by
    rw [htable] at hi
    rcases (hhas _ _ _).mp hj with ⟨-, hj⟩ | ⟨-, rfl, hops⟩
    · exact (hpending i).mpr (.inl (h.dead hj hi))
    · exact (hpending i).mpr (.inr ⟨hops.symm, rfl⟩)
  ended {i j o} hi hj := by
    rcases (hhas _ _ _).mp hj with ⟨hjk, hj⟩ | ⟨rfl, rfl, rfl⟩
    · rcases (hpending i).mp hi with hi | ⟨-, rfl⟩
      · exact h.ended hi hj
      · -- no other live session has this id
        by_contra ho
        have hlookup := (h.live hj ho).2.symm.trans (h.live hk hne).2
        exact hjk (Option.some.inj hlookup)
    · rcases (hpending i).mp hi with hi | ⟨hnil, -⟩
      · exact absurd (h.ended hi hk) hne
      · exact hnil
  run := hrun

/-- The end of a session comes to the table. -/
theorem Sound.end (h : s.Sound) {id : String} (hid : s.Pending id)
    (hsessions : s'.sessions = s.sessions)
    (hlookup : ∀ i, s'.storageSessions.lookup i =
      if i = id then none else s.storageSessions.lookup i)
    (hbefore : ∀ i, s'.Pending i → s.Pending i)
    (hafter : ∀ i, i ≠ id → s.Pending i → s'.Pending i) : s'.Sound := by
  have hhas : ∀ k i ops, s'.Has k i ops ↔ s.Has k i ops := fun k i ops => by
    simp only [Has, hsessions]
  exact {
    entry {i k} hi := by
      rw [hlookup] at hi
      split at hi
      · cases hi
      · obtain ⟨ops, hops⟩ := h.entry hi
        exact ⟨ops, (hhas _ _ _).mpr hops⟩
    live {k i ops} hk hne := by
      have hk := (hhas _ _ _).mp hk
      obtain ⟨hop, hi⟩ := h.live hk hne
      -- no live session has its end on the way
      have hne' : i ≠ id := by
        rintro rfl
        exact hne (h.ended hid hk)
      exact ⟨hop, by rw [hlookup, if_neg hne', hi]⟩
    dead {k i} hk hi := by
      rw [hlookup] at hi
      split at hi
      · cases hi
      · next hne => exact hafter i hne (h.dead ((hhas _ _ _).mp hk) hi)
    ended {i k ops} hi hk := h.ended (hbefore i hi) ((hhas _ _ _).mp hk)
    run := hsessions ▸ h.run }

/-- Neither the sessions' operations, the table nor what is on its way changes. -/
theorem Sound.same (h : s.Sound) (hhas : ∀ k i ops, s'.Has k i ops ↔ s.Has k i ops)
    (htable : s'.storageSessions = s.storageSessions)
    (hpending : ∀ i, s'.Pending i ↔ s.Pending i) (hrun : ∀ session ∈ s'.sessions, session.isRun) :
    s'.Sound where
  entry hi := by
    obtain ⟨ops, hops⟩ := h.entry (htable ▸ hi)
    exact ⟨ops, (hhas _ _ _).mpr hops⟩
  live hk hne := by
    rw [htable]
    exact h.live ((hhas _ _ _).mp hk) hne
  dead {k i} hk hi := (hpending i).mpr (h.dead ((hhas _ _ _).mp hk) (htable ▸ hi))
  ended {i k ops} hi hk := h.ended ((hpending i).mp hi) ((hhas _ _ _).mp hk)
  run := hrun

/-! ## Steps of the server -/

theorem has_after {k j : ℕ} {effects : List Effect} {id : String} {ops : List Operation} :
    (s.after k effects).Has j id ops ↔
      j ≠ k ∧ s.Has j id ops ∨
        j = k ∧ ∃ before, s.Has k id before ∧ ops = before ++ effects.filterMap Effect.started := by
  unfold Has after
  simp only [List.getElem?_modify]
  by_cases hj : j = k
  · subst hj
    simp only [ne_eq, not_true_eq_false, false_and, false_or, true_and, if_true]
    cases s.sessions[j]? with
    | none => simp
    | some session => simp [Session.after, eq_comm]
  · simp [hj, Ne.symm hj]

/-- A session at the end of the list. -/
theorem has_push {new : Session} {table : StringMap ℕ} {j : ℕ} {id : String} {ops : List Operation} :
    Has { s with sessions := s.sessions ++ [new], storageSessions := table } j id ops ↔
      s.Has j id ops ∨ j = s.sessions.length ∧ id = new.id ∧ ops = new.inFlight := by
  unfold Has
  dsimp only
  rcases lt_trichotomy j s.sessions.length with hj | rfl | hj
  · rw [List.getElem?_append_left hj]
    exact ⟨.inl, fun h => h.resolve_right fun hr => absurd hr.1 hj.ne⟩
  · simp [eq_comm]
  · rw [List.getElem?_append_right hj.le]
    have hnone : s.sessions[j]? = none := List.getElem?_eq_none hj.le
    have hlast : [new][j - s.sessions.length]? = none := by
      apply List.getElem?_eq_none
      simp only [List.length_singleton]
      omega
    simp [hnone, hlast, hj.ne']

/-- A session with less in flight. -/
theorem has_set {k j : ℕ} {session session' : Session} (hk : s.sessions[k]? = some session)
    {id : String} {ops : List Operation} :
    Has { s with sessions := s.sessions.set k session' } j id ops ↔
      j ≠ k ∧ s.Has j id ops ∨ j = k ∧ id = session'.id ∧ ops = session'.inFlight := by
  unfold Has
  dsimp only
  have hlt : k < s.sessions.length := (List.getElem?_eq_some_iff.mp hk).1
  by_cases hj : j = k
  · subst hj
    simp [hlt, eq_comm]
  · simp [hj, Ne.symm hj]

theorem pending_append {msgs : List (Envelope Party)} {id : String} :
    Pending { s with mail := s.mail ++ msgs } id ↔ s.Pending id ∨ ∃ e ∈ msgs, ends e = some id := by
  simp [Pending, or_and_right, exists_or]

/-- A function of the session leaves it run. -/
theorem isRun_modify {k : ℕ} {f : Session → Session} {sessions : List Session}
    (h : ∀ session ∈ sessions, session.isRun) (hf : ∀ session, (f session).isRun = session.isRun) :
    ∀ session ∈ sessions.modify k f, session.isRun := by
  intro session hmem
  obtain ⟨j, hj⟩ := List.getElem?_of_mem hmem
  rw [List.getElem?_modify] at hj
  obtain ⟨before, hbefore, rfl⟩ := Option.map_eq_some_iff.mp hj
  have hrun := h before (List.mem_of_getElem? hbefore)
  split
  · rwa [hf]
  · exact hrun

theorem modify_length_append {f : Session → Session} {sessions : List Session} {new : Session} :
    (sessions ++ [new]).modify sessions.length f = sessions ++ [f new] := by
  induction sessions with
  | nil => rfl
  | cons session sessions ih => exact congrArg (session :: ·) ih

/-- An accepted session is run, where its id is not in use. -/
theorem onAccept_eq {reading : ℕ} (h : toString reading ∉ s.storageSessions) :
    s.onAccept reading = { s with
      sessions := s.sessions ++
        [{ Session.fresh (toString reading) with isRun := true, inFlight := [.accept] }]
      storageSessions := s.storageSessions.emplace (toString reading) s.sessions.length } := by
  have hself := AList.lookup_emplace_self s.storageSessions (toString reading) s.sessions.length
  rw [AList.lookup_eq_none.mpr h] at hself
  unfold onAccept runSession
  simp only [hself, Option.getD_none, Option.getD_some, modify_length_append]
  rfl

theorem Sound.onAccept (h : s.Sound) {reading : ℕ}
    (hkeeps : s.Keeps (.accepted reading)) : (s.onAccept reading).Sound := by
  obtain ⟨htable, hpending⟩ := hkeeps
  have hself := AList.lookup_emplace_self s.storageSessions (toString reading) s.sessions.length
  rw [AList.lookup_eq_none.mpr htable] at hself
  rw [onAccept_eq htable]
  refine h.accept ?_ (AList.lookup_eq_none.mpr htable) hpending (fun _ _ _ => has_push) (fun i => ?_)
    (fun _ => Iff.rfl) ?_
  · rintro id ops ⟨session, hk, -⟩
    simp at hk
  · by_cases hi : i = toString reading
    · rw [if_pos hi, hi]
      exact hself
    · rw [if_neg hi]
      exact AList.lookup_emplace_ne hi
  · intro session hmem
    rcases List.mem_append.mp hmem with hmem | hmem
    · exact h.run session hmem
    · rw [List.mem_singleton.mp hmem]

/-- The router hands the end of a session on to the websocket server. -/
theorem socketError_eq (err : SocketError) :
    ∃ e, routerCtx.socketError (.error err) = .ok [e] ∧ ends e = some err.id := by
  simp only [Ctx.socketError, Transport.asError_error, Except.ok_bind']
  split
  · exact ⟨_, Ctx.send_of_contact rfl, rfl⟩
  · exact ⟨_, Ctx.send_of_contact rfl, rfl⟩

theorem lookup_remove (s : Server) (ws : WebSocket) (i : String) :
    (s.remove ws).storageSessions.lookup i =
      if i = ws.id then none else s.storageSessions.lookup i := by
  by_cases hi : i = ws.id
  · rw [if_pos hi, hi]
    exact AList.lookup_erase _ _
  · rw [if_neg hi]
    exact AList.lookup_erase_ne hi

theorem lookup_close (s : Server) (ws : WebSocket) (i : String) :
    (s.close ws).storageSessions.lookup i =
      if i = ws.id then none else s.storageSessions.lookup i := by
  unfold close
  split
  · exact s.lookup_remove ws i
  · next hmem =>
    split
    · next hi => rw [hi, AList.lookup_eq_none.mpr hmem]
    · rfl

theorem close_sessions (s : Server) (ws : WebSocket) :
    (s.close ws).sessions = s.sessions ∧ (s.close ws).mail = s.mail := by
  unfold close
  split <;> exact ⟨rfl, rfl⟩

/-- The handling of a message about the end of a session, by the router or the
websocket server. -/
theorem handle_ends {e : Envelope Party} {id : String} (he : ends e = some id)
    (h : s.handle e = some s') :
    (∃ e', ends e' = some id ∧ s' = { s with mail := s.mail ++ [e'] }) ∨
      s'.sessions = s.sessions ∧ s'.mail = s.mail ∧ ∀ i, s'.storageSessions.lookup i =
        if i = id then none else s.storageSessions.lookup i := by
  obtain ⟨dest, sender, command, body⟩ := e
  unfold ends at he
  split at he
  · next err hdest hcommand hbody =>
    cases he
    dsimp only at hdest hcommand hbody
    subst hdest hcommand hbody
    obtain ⟨e', hsend, hends⟩ := socketError_eq err
    simp only [handle, hsend] at h
    cases h
    exact .inl ⟨e', hends, rfl⟩
  · next ws hdest hcommand hbody =>
    cases he
    dsimp only at hdest hcommand hbody
    subst hdest hcommand hbody
    obtain rfl : s.close ws = s' := Option.some.inj h
    exact .inr ⟨(s.close_sessions ws).1, (s.close_sessions ws).2, s.lookup_close ws⟩
  · next ws hdest hcommand hbody =>
    cases he
    dsimp only at hdest hcommand hbody
    subst hdest hcommand hbody
    obtain rfl : s.remove ws = s' := Option.some.inj h
    exact .inr ⟨rfl, rfl, s.lookup_remove ws⟩
  · cases he

/-- No other message has to do with the sessions. -/
theorem handle_other {e : Envelope Party} (he : ends e = none) (h : s.handle e = some s') : s' = s := by
  obtain ⟨dest, sender, command, body⟩ := e
  unfold handle at h
  split at h
  · next transport hdest hcommand hbody =>
    dsimp only at hdest hcommand hbody
    subst hdest hcommand hbody
    cases transport with
    | webSocket ws => cases h
    | error err => cases he
  · next ws hdest hcommand hbody =>
    dsimp only at hdest hcommand hbody
    subst hdest hcommand hbody
    cases he
  · next ws hdest hcommand hbody =>
    dsimp only at hdest hcommand hbody
    subst hdest hcommand hbody
    cases he
  · exact (Option.some.inj h).symm

/-- A completion starts the next operation, or reports the end of the session. -/
theorem complete_cases (session : Session) {k : ℕ} {op : Operation}
    {r : Except SocketErrorCode String} (hkeeps : s.Keeps (.completed k op r)) :
    ((∃ op', (session.complete r op).filterMap Effect.started = [op']) ∧
        ∀ e ∈ (session.complete r op).filterMap Effect.message, ends e = none) ∨
      (session.complete r op).filterMap Effect.started = [] ∧
        ∃ e, (session.complete r op).filterMap Effect.message = [e] ∧ ends e = some session.id := by
  cases op with
  | accept =>
    cases r with
    | error ec => exact hkeeps.elim
    | ok body => exact .inl ⟨⟨_, rfl⟩, fun e he => nomatch he⟩
  | read =>
    cases r with
    | error ec =>
      cases ec with
      | closed => exact hkeeps.elim
      | _ => exact .inr ⟨rfl, _, rfl, rfl⟩
    | ok body =>
      refine .inl ⟨⟨_, rfl⟩, fun e he => ?_⟩
      obtain rfl := List.mem_singleton.mp he
      rfl

theorem Sound.complete_step (h : s.Sound) {k : ℕ} {op : Operation}
    {r : Except SocketErrorCode String} (hkeeps : s.Keeps (.completed k op r))
    (hstep : Step s (.completed k op r) s') : s'.Sound := by
  simp only [Step, step] at hstep
  split at hstep
  · cases hstep
  · next session hk =>
    split at hstep
    · next hop =>
      cases hstep
      have hhas : s.Has k session.id session.inFlight := ⟨session, hk, rfl, rfl⟩
      have hne : session.inFlight ≠ [] := List.ne_nil_of_mem hop
      obtain ⟨⟨op', hone⟩, -⟩ := h.live hhas hne
      obtain rfl : op = op' := by simpa [hone] using hop
      have herase : session.inFlight.erase op = [] := by simp [hone]
      rw [herase]
      -- behind the completion this session has in flight what it starts, the others what they had
      have hafter : ∀ j i o,
          (after { s with sessions := s.sessions.set k { session with inFlight := [] } } k
            (session.complete r op)).Has j i o ↔
          j ≠ k ∧ s.Has j i o ∨ j = k ∧ i = session.id ∧
            o = (session.complete r op).filterMap Effect.started := by
        intro j i o
        rw [has_after]
        simp only [has_set hk]
        constructor
        · rintro (⟨hj, ⟨-, h⟩ | ⟨rfl, -⟩⟩ | ⟨rfl, before, ⟨hk', -⟩ | ⟨-, rfl, rfl⟩, rfl⟩)
          · exact .inl ⟨hj, h⟩
          · exact absurd rfl hj
          · exact absurd rfl hk'
          · exact .inr ⟨rfl, rfl, rfl⟩
        · rintro (⟨hj, h⟩ | ⟨rfl, rfl, rfl⟩)
          · exact .inl ⟨hj, .inl ⟨hj, h⟩⟩
          · exact .inr ⟨rfl, [], .inr ⟨trivial, rfl, rfl⟩, rfl⟩
      have hcases := complete_cases session hkeeps
      have hrun : ∀ session' ∈ s.sessions.set k { session with inFlight := [] }, session'.isRun := by
        intro session' hmem
        rcases List.mem_or_eq_of_mem_set hmem with hmem | rfl
        · exact h.run session' hmem
        · exact h.run session (List.mem_of_getElem? hk)
      refine h.complete hhas hne ?_ hafter rfl (fun i => ?_) (isRun_modify hrun fun _ => rfl)
      · exact hcases.symm.imp And.left fun hop' => hop'.1
      · refine pending_append.trans (or_congr_right ?_)
        rcases hcases with ⟨⟨op', hop'⟩, hmessages⟩ | ⟨hstarted, e, hmessages, he⟩
        · rw [hop']
          constructor
          · rintro ⟨e, he, hid⟩
            cases (hmessages e he).symm.trans hid
          · rintro ⟨hnil, -⟩
            cases hnil
        · simp [hmessages, he, hstarted, eq_comm]
    · cases hstep

/-- What stays on its way when a message is taken out of the mail. -/
theorem pending_erase {e : Envelope Party} {i : String} (hne : ends e ≠ some i) :
    Pending { s with mail := s.mail.erase e } i ↔ s.Pending i := by
  constructor
  · rintro ⟨e', he', hi⟩
    exact ⟨e', List.mem_of_mem_erase he', hi⟩
  · rintro ⟨e', he', hi⟩
    refine ⟨e', (List.mem_erase_of_ne ?_).mpr he', hi⟩
    rintro rfl
    exact hne hi

theorem Sound.handled_step (h : s.Sound) {e : Envelope Party} (hstep : Step s (.handled e) s') :
    s'.Sound := by
  simp only [Step, step] at hstep
  split at hstep
  · next hmem =>
    cases hends : ends e with
    | none =>
      obtain rfl := handle_other hends hstep
      exact h.same (fun _ _ _ => Iff.rfl) rfl (fun i => pending_erase (by simp [hends])) h.run
    | some id =>
      have hid : s.Pending id := ⟨e, hmem, hends⟩
      rcases handle_ends hends hstep with ⟨e', hends', rfl⟩ | ⟨hsessions, hmail, hlookup⟩
      · refine h.same (fun _ _ _ => Iff.rfl) rfl (fun i => ?_) h.run
        by_cases hi : i = id
        · subst hi
          exact iff_of_true ⟨e', by simp, hends'⟩ hid
        · have hne : ends e ≠ some i := by simpa [hends] using Ne.symm hi
          refine (pending_append (s := { s with mail := s.mail.erase e })).trans ?_
          rw [pending_erase hne]
          simp [hends', Ne.symm hi]
      · refine h.end hid hsessions hlookup (fun i hi => ?_) fun i hi hpending => ?_
        · obtain ⟨e', he', hi'⟩ := hi
          rw [hmail] at he'
          exact ⟨e', List.mem_of_mem_erase he', hi'⟩
        · have hne : ends e ≠ some i := by simpa [hends] using Ne.symm hi
          obtain ⟨e', he', hi'⟩ := (pending_erase hne).mpr hpending
          exact ⟨e', by rwa [hmail], hi'⟩
  · cases hstep

/-- A frame that is written to a session leaves its operations alone. -/
theorem has_write {ws : WebSocket} {k : ℕ} {id : String} {ops : List Operation} :
    (s.write ws).Has k id ops ↔ s.Has k id ops := by
  unfold write
  split
  · next j _ =>
    unfold Has
    simp only [List.getElem?_modify]
    cases s.sessions[k]? with
    | none => simp
    | some session => by_cases hj : j = k <;> simp [hj, Session.write]
  · exact Iff.rfl

theorem write_eq (s : Server) (ws : WebSocket) :
    (s.write ws).storageSessions = s.storageSessions ∧ (s.write ws).mail = s.mail := by
  unfold write
  split <;> exact ⟨rfl, rfl⟩

theorem isRun_write {ws : WebSocket} (h : ∀ session ∈ s.sessions, session.isRun) :
    ∀ session ∈ (s.write ws).sessions, session.isRun := by
  unfold write
  split
  · exact isRun_modify h fun _ => rfl
  · exact h

theorem Sound.step (h : s.Sound) {e : Event} (hkeeps : s.Keeps e) (hstep : Step s e s') : s'.Sound := by
  cases e with
  | accepted reading =>
    cases hstep
    exact h.onAccept hkeeps
  | acceptFailed =>
    cases hstep
    exact h
  | completed k op r => exact h.complete_step hkeeps hstep
  | handled e => exact h.handled_step hstep
  | write ws =>
    cases hstep
    obtain ⟨htable, hmail⟩ := s.write_eq ws
    exact h.same (fun _ _ _ => has_write) htable (fun i => by simp only [Pending, hmail])
      (isRun_write h.run)

/-! ## Runs -/

/-- A step that keeps the table right. -/
def KeepingStep (s : Server) (e : Event) (s' : Server) : Prop := Step s e s' ∧ s.Keeps e

theorem sound_of_trace {events : List Event} (h : Lts.Trace KeepingStep empty events s) : s.Sound :=
  h.invariant (fun _ s => s.Sound) empty_sound fun _ _ _ _ hs hstep => hs.step hstep.2 hstep.1

/-- A session whose last operation ends without a word stays in the table. -/
theorem Sound.not_exact_of_silent (h : s.Sound) {k : ℕ} {session : Session} {op : Operation}
    {effects : List Effect} (hk : s.sessions[k]? = some session) (hop : op ∈ session.inFlight)
    (heffects : effects.filterMap Effect.started = []) :
    ¬ (after { s with sessions := s.sessions.set k { session with
        inFlight := session.inFlight.erase op } } k effects).Exact := by
  intro hexact
  have hhas : s.Has k session.id session.inFlight := ⟨session, hk, rfl, rfl⟩
  obtain ⟨⟨op', hone⟩, hlookup⟩ := h.live hhas (List.ne_nil_of_mem hop)
  obtain rfl : op = op' := by simpa [hone] using hop
  obtain ⟨ops, hops, hne⟩ := (hexact.table _ _).mp hlookup
  rw [has_after] at hops
  simp only [has_set hk, heffects, hone] at hops
  rcases hops with ⟨hk', -⟩ | ⟨-, before, ⟨hk', -⟩ | ⟨-, -, rfl⟩, rfl⟩
  · exact hk' rfl
  · exact hk' rfl
  · simp at hne

/-- An accepted connection whose id is in use is lost. -/
theorem Sound.not_exact_of_used (h : s.Sound) {reading : ℕ}
    (hused : toString reading ∈ s.storageSessions) : ¬ (s.onAccept reading).Exact := by
  intro hexact
  obtain ⟨k, hk⟩ := Option.isSome_iff_exists.mp (AList.lookup_isSome.mpr hused)
  obtain ⟨ops, session, hsession, -⟩ := h.entry hk
  have hlt : k < s.sessions.length := (List.getElem?_eq_some_iff.mp hsession).1
  have hself := AList.lookup_emplace_self s.storageSessions (toString reading) s.sessions.length
  rw [hk] at hself
  -- it is not in the table, and so it is not run
  have hlost : Session.fresh (toString reading) ∈ (s.onAccept reading).sessions := by
    refine List.mem_of_getElem? (i := s.sessions.length) ?_
    unfold Server.onAccept runSession
    simp only [hself, Option.getD_some]
    rw [List.getElem?_modify_ne _ _ hlt.ne]
    simp
  cases hexact.run _ hlost

/-- What does not keep the table right breaks it, where everything was handled before. -/
theorem Sound.breaks (h : s.Sound) (hsettled : s.Settled) {e : Event} (hstep : Step s e s')
    (hkeeps : ¬ s.Keeps e) : s'.Settled ∧ ¬ s'.Exact := by
  cases e with
  | accepted reading =>
    cases hstep
    have hused : toString reading ∈ s.storageSessions := by
      by_contra hfree
      exact hkeeps ⟨hfree, hsettled _⟩
    exact ⟨hsettled, h.not_exact_of_used hused⟩
  | completed k op r =>
    simp only [Step, Server.step] at hstep
    split at hstep
    · cases hstep
    · next session hk =>
      split at hstep
      · next hop =>
        cases hstep
        -- a handshake that fails and a close of the other side start nothing and report nothing
        have hsilent : session.complete r op = [] := by
          cases op <;> cases r <;> first | exact absurd trivial hkeeps | rfl | skip
          next ec => cases ec <;> first | exact absurd trivial hkeeps | rfl
        rw [hsilent]
        exact ⟨by simpa [Settled, Pending, after] using hsettled,
          h.not_exact_of_silent hk hop rfl⟩
      · cases hstep
  | _ => exact absurd trivial hkeeps

/-- In every run in which the id of each accepted session is not in use, no accept
handshake fails and no read ends with a close of the other side: once the messages
about ended sessions are handled, the table holds exactly the live sessions. Any
other step breaks the table. -/
theorem exact_while_keeps {events : List Event} (h : Lts.Trace KeepingStep empty events s)
    (hsettled : s.Settled) :
    s.Exact ∧ ∀ e s', Step s e s' → ¬ s.Keeps e → s'.Settled ∧ ¬ s'.Exact :=
  have hsound := sound_of_trace h
  ⟨hsound.exact hsettled, fun _ _ hstep hkeeps => hsound.breaks hsettled hstep hkeeps⟩

/-- A session that was accepted and is read. -/
def acceptedEvents : List Event := [.accepted 7, .completed 0 .accept (.ok "")]

def readingServer : Server where
  storageSessions := (∅ : StringMap ℕ).emplace "7" 0
  sessions := [{ id := "7", isRun := true, inFlight := [.read], frames := [] }]
  mail := []

theorem readingServer_run : Lts.Trace KeepingStep empty acceptedEvents readingServer := by
  have haccept : KeepingStep empty (.accepted 7) (empty.onAccept 7) :=
    ⟨rfl, by decide, fun ⟨_, h, _⟩ => nomatch h⟩
  exact .cons haccept (.cons ⟨rfl, trivial⟩ .nil)

theorem exact_while_keeps_reading :
    readingServer.Exact ∧ readingServer.storageSessions.lookup "7" = some 0 :=
  ⟨(exact_while_keeps readingServer_run fun _ ⟨_, h, _⟩ => nomatch h).1, rfl⟩

/-- A close of the other side leaves its session in the table, and two connections
that are accepted at one clock reading share an entry. -/
theorem graceful_close_not_exact :
    (¬ ∀ events s, Lts.Trace Step empty events s → (readings events).Pairwise (· ≤ ·) →
        s.Settled → s.Exact) ∧
      ¬ ((empty.onAccept 7).onAccept 7).Exact := by
  constructor
  · intro h
    have hrun : Lts.Trace Step empty (acceptedEvents ++ [.completed 0 .read (.error .closed)])
        { readingServer with
          sessions := [{ id := "7", isRun := true, inFlight := [], frames := [] }] } :=
      (readingServer_run.mono fun _ _ _ hs => hs.1).snoc rfl
    have hexact := h _ _ hrun (by decide) fun _ ⟨_, h, _⟩ => nomatch h
    obtain ⟨ops, ⟨session, hsession, -, hops⟩, hne⟩ := (hexact.table "7" 0).mp rfl
    cases hsession
    exact hne hops.symm
  · intro hexact
    exact absurd hexact.run (by decide)

end StreamCloud.WsServer.Server
