-- SUMMARY: The link of a client stays up as long as what ends it is reported, and is reported as something lasting.
import StreamCloud.System.Link
import StreamCloud.Verification.BodyTyping
import StreamCloud.Device.Flow

/-!
# Reconnecting

One thing keeps a link at every time, and every event hands it on or ends the
link for good.
-/

namespace StreamCloud.Link

open WsClient (Operation Effect Loop Session)

variable {α S : Type} [DecidableEq α] {P : Program α S} {pipe client : α} {l l' : Link α S}

/-- What a program has to do with its link: its pipe answers a reported error with
a reconnect or gives the link up, and no other handler has to do with errors. -/
structure Linked (P : Program α S) (pipe client : α) (contacts : α → List (String × α)) : Prop where
  plain {env : Env} {n n' : Net α S} {e : Envelope α} {out : List (Envelope α)} :
    P.handle env n e = .ok (n', out) → e.Plain → n'.contacts = n.contacts ∧ ∀ e' ∈ out, e'.Plain
  error {env : Env} {n n' : Net α S} {e : Envelope α} {out : List (Envelope α)} {err : SocketError} :
    n.contacts = contacts → reported pipe e = some err → P.handle env n e = .ok (n', out) →
    out = [if err.code ∈ lasting then reconnectMessage pipe client else closeMessage pipe client err]
  quiet {env : Env} {n n' : Net α S} {e : Envelope α} {out : List (Envelope α)} :
    n.contacts = contacts → reported pipe e = none → P.handle env n e = .ok (n', out) → ∀ e' ∈ out, isQuiet pipe client e'

/-- What keeps the link, counted. -/
def tokens (pipe client : α) (l : Link α S) : ℕ :=
  l.loop.inFlight.countP keepsLink + l.mail.countP (isToken pipe client)

/-! ## The session -/

/-- A completion hands on what keeps the link, unless it ends it. -/
theorem tokens_complete (pipe client : α) (s : Session) (op : Operation)
    (r : Except SocketErrorCode String) :
    ((s.complete r op).2.filterMap Loop.started).countP keepsLink +
        ((s.complete r op).2.filterMap (pipeMessage pipe)).countP (isToken pipe client) +
        (if keeps pipe (.completed op r) then 0 else 1) =
      if keepsLink op then 1 else 0 := by
  cases op <;> cases r <;>
    simp [Session.complete, WsClient.errorCode, Session.onResolve, Session.onConnect,
      Session.onHandshake, Session.onRead, Session.onWrite, Session.fail, Session.report,
      Loop.started, pipeMessage, keeps, keepsLink, isToken, reported, isReconnect,
      List.filterMap_cons]
  case write.ok frame body =>
    cases s.que.tail <;> simp [Session.writeFront]

omit [DecidableEq α] in
/-- A posted function starts nothing but a write. -/
theorem posted_eq (pipe : α) {loop loop' : Loop} {effects : List Effect}
    (h : loop.step .posted = some (loop', effects)) :
    loop'.inFlight.countP keepsLink = loop.inFlight.countP keepsLink ∧
      (.read ∈ loop'.inFlight ↔ .read ∈ loop.inFlight) ∧
      effects.filterMap (pipeMessage pipe) = [] ∧ loop'.isOpen = loop.isOpen := by
  obtain ⟨⟨l₁, r⟩, hcall, hr⟩ := Option.map_eq_some_iff.mp h
  obtain ⟨rfl, rfl⟩ := Prod.mk.inj hr
  simp only [Loop.call] at hcall
  split at hcall
  · cases hcall
  · cases hcall
    have heffects := loop.session.runPosted_effects
    by_cases hque : loop.session.que = [] <;>
      simp [heffects, hque, Loop.started, keepsLink, pipeMessage, Loop.isOpen_after]

theorem completed_eq {loop loop' : Loop} {effects : List Effect} {op : Operation}
    {r : Except SocketErrorCode String} (h : loop.step (.completed op r) = some (loop', effects)) :
    op ∈ loop.inFlight ∧ effects = (loop.session.complete r op).2 ∧
      loop' = Loop.after { loop with
        inFlight := loop.inFlight.erase op
        isOpen := Loop.openAfter loop.isOpen op r } (loop.session.complete r op) := by
  obtain ⟨⟨l₁, r'⟩, hcall, hr⟩ := Option.map_eq_some_iff.mp h
  obtain ⟨rfl, rfl⟩ := Prod.mk.inj hr
  simp only [Loop.call] at hcall
  split at hcall
  · next hop =>
    cases hcall
    exact ⟨hop, rfl, rfl⟩
  · cases hcall

/-- What the handling of a message does to the session: a reconnect starts to make
a connection, and nothing else changes what keeps the link. -/
structure Called (pipe client : α) (l : Loop) (e : Envelope α) (r : Loop × List Effect) : Prop where
  tokens : r.1.inFlight.countP keepsLink =
    l.inFlight.countP keepsLink + if isReconnect client e then 1 else 0
  read : .read ∈ r.1.inFlight ↔ .read ∈ l.inFlight
  silent : r.2.filterMap (pipeMessage pipe) = []
  isOpen : ¬ (e.dest = client ∧ e.command = "close") → r.1.isOpen = l.isOpen

theorem called (pipe client : α) (l : Loop) (e : Envelope α) :
    Called pipe client l e (sessionAfter client l e) := by
  obtain ⟨dest, sender, command, body⟩ := e
  unfold sessionAfter
  by_cases hdest : dest = client
  · rw [if_pos hdest]
    unfold clientCall
    dsimp only
    split
    · constructor <;>
        simp [Loop.step, Loop.call, Session.write, Loop.started, pipeMessage, isReconnect,
          List.filterMap_cons, Loop.isOpen_after]
    · constructor <;>
        simp [Loop.step, Loop.call, Session.run, Loop.started, pipeMessage, isReconnect, hdest,
          List.filterMap_cons, keepsLink, Loop.isOpen_after]
    · constructor <;>
        simp [Loop.step, Loop.call, Session.close, Loop.started, pipeMessage, isReconnect, hdest,
          List.filterMap_cons]
    · next hreconnect _ _ =>
      constructor <;> simp [isReconnect]
      intro _ hcommand
      exact hreconnect hcommand
  · rw [if_neg hdest]
    constructor <;> simp [isReconnect, hdest]

/-- The link is kept by one thing, and nobody has given it up. -/
structure Kept (pipe client : α) (l : Link α S) : Prop where
  token : l.tokens pipe client = 1
  isOpen : .read ∈ l.loop.inFlight → l.loop.isOpen
  mail : ∀ e ∈ l.mail, givesUp client e = false

theorem alive_of_kept (h : l.Kept pipe client) : l.Alive pipe client := by
  rcases Nat.eq_zero_or_pos (l.mail.countP (isToken pipe client)) with hmail | hmail
  · have hcount : 0 < l.loop.inFlight.countP keepsLink := by
      have htoken : l.loop.inFlight.countP keepsLink + l.mail.countP (isToken pipe client) = 1 :=
        h.token
      omega
    obtain ⟨op, hop, hkeeps⟩ := List.countP_pos_iff.mp hcount
    by_cases hread : op = .read
    · subst hread
      exact .inl ⟨h.isOpen hop, hop⟩
    · exact .inr (.inl ⟨op, hop, hkeeps, hread⟩)
  · exact .inr (.inr (List.countP_pos_iff.mp hmail))

theorem tokens_pos_of_alive (h : l.Alive pipe client) : 0 < l.tokens pipe client := by
  rcases h with ⟨_, hop⟩ | ⟨op, hop, hkeeps, _⟩ | hmail
  · exact Nat.add_pos_left (List.countP_pos_iff.mpr ⟨.read, hop, rfl⟩) _
  · exact Nat.add_pos_left (List.countP_pos_iff.mpr ⟨op, hop, hkeeps⟩) _
  · exact Nat.add_pos_right _ (List.countP_pos_iff.mpr hmail)

/-! ## One step -/

/-- A handler that runs on the session for the pipe's error is no reconnect. -/
theorem isReconnect_of_reported {e : Envelope α} {err : SocketError} (h : reported pipe e = some err) :
    isReconnect client e = false := by
  unfold reported at h
  split at h
  · next hcommand _ => simp [isReconnect, hcommand]
  · cases h

@[simp] theorem isReconnect_reconnectMessage :
    isReconnect client (reconnectMessage pipe client) := by
  simp [isReconnect, reconnectMessage]

@[simp] theorem isReconnect_closeMessage {err : SocketError} :
    isReconnect client (closeMessage pipe client err) = false := by
  simp [isReconnect, closeMessage]

@[simp] theorem reported_closeMessage {err : SocketError} :
    reported pipe (closeMessage pipe client err) = none := rfl

theorem countP_erase {β : Type} [DecidableEq β] {p : β → Bool} {xs : List β} {x : β} (h : x ∈ xs) :
    (xs.erase x).countP p + (if p x then 1 else 0) = xs.countP p := by
  rw [(List.perm_cons_erase h).countP_eq p, List.countP_cons]

theorem countP_isToken_of_quiet {out : List (Envelope α)}
    (h : ∀ e ∈ out, isQuiet pipe client e) : out.countP (isToken pipe client) = 0 := by
  refine List.countP_eq_zero.mpr fun e he htoken => ?_
  have hquiet := (Bool.and_eq_true_iff.mp (h e he)).1
  rw [htoken] at hquiet
  cases hquiet

/-- What is sent for a message that was handled keeps the link if the message did. -/
theorem tokens_handled {contacts : α → List (String × α)} (hP : Linked P pipe client contacts)
    {env : Env} {n n' : Net α S} {e : Envelope α} {out : List (Envelope α)}
    (hcontacts : n.contacts = contacts) (h : P.handle env n e = .ok (n', out)) :
    out.countP (isToken pipe client) + (if isReconnect client e then 1 else 0) +
        (if keeps pipe (.handled env e) then 0 else 1) =
      if isToken pipe client e then 1 else 0 := by
  cases hreported : reported pipe e with
  | some err =>
    rw [hP.error hcontacts hreported h]
    by_cases hlasting : err.code ∈ lasting <;>
      simp [keeps, isToken, isReconnect_of_reported hreported, hreported, hlasting]
  | none =>
    rw [countP_isToken_of_quiet (hP.quiet hcontacts hreported h)]
    simp [keeps, isToken, hreported]

/-- What a step does to the things that keep the link: it hands them on, or ends
the link. -/
theorem tokens_step {contacts : α → List (String × α)} (hP : Linked P pipe client contacts)
    (hcontacts : l.net.contacts = contacts) {e : Event α} (h : Step P pipe client l e l') :
    l'.tokens pipe client + (if keeps pipe e then 0 else 1) = l.tokens pipe client := by
  unfold tokens
  cases h with
  | arrives _ hquiet =>
    have hout := countP_isToken_of_quiet (List.forall_mem_singleton.mpr hquiet)
    simp only [keeps, List.countP_append, hout]
    rfl
  -- the message is replaced by what is sent for it, and by what a reconnect starts
  | @handled env e net out hmem hhandle =>
    have hcalled := called pipe client l.loop e
    have hhandled := tokens_handled hP hcontacts hhandle
    have herase := countP_erase (p := isToken pipe client) hmem
    simp only [hcalled.tokens, hcalled.silent, List.append_nil, List.countP_append]
    omega
  | posted hstep =>
    obtain ⟨hinFlight, -, hsilent, -⟩ := posted_eq pipe hstep
    simp only [hinFlight, hsilent, List.append_nil, keeps]
    rfl
  -- the operation is replaced by the next one, or by the report of its error
  | @completed op r loop effects hstep =>
    obtain ⟨hop, rfl, rfl⟩ := completed_eq hstep
    have hcomplete := tokens_complete pipe client l.loop.session op r
    have herase := countP_erase (p := keepsLink) hop
    simp only [Loop.inFlight_after, List.countP_append]
    omega

/-- A completion handler starts operations and reports to the pipe. -/
theorem of_mem_complete {s : Session} {op : Operation} {r : Except SocketErrorCode String}
    {effect : Effect} (h : effect ∈ (s.complete r op).2) :
    (∃ op', effect = .start op') ∨
      ∃ command transport, effect = .send command transport ∧ command ≠ "close" := by
  cases op <;> cases r <;>
    simp [Session.complete, WsClient.errorCode, Session.onResolve, Session.onConnect,
      Session.onHandshake, Session.onRead, Session.onWrite, Session.fail, Session.report,
      Session.writeFront] at h
  case write.ok =>
    obtain ⟨frame, -, rfl⟩ := h
    exact .inl ⟨_, rfl⟩
  all_goals
    rcases h with rfl | rfl <;> first | exact .inl ⟨_, rfl⟩ | exact .inr ⟨_, _, rfl, by decide⟩

/-- What a session reports is plain, and gives nothing up. -/
theorem of_mem_pipeMessages {effects : List Effect} {e : Envelope α} {s : Session} {op : Operation}
    {r : Except SocketErrorCode String} (heffects : effects = (s.complete r op).2)
    (he : e ∈ effects.filterMap (pipeMessage pipe)) : e.Plain ∧ givesUp client e = false := by
  subst heffects
  obtain ⟨effect, heffect, hsome⟩ := List.mem_filterMap.mp he
  rcases of_mem_complete heffect with ⟨op', rfl⟩ | ⟨command, transport, rfl, hcommand⟩
  · cases hsome
  · cases hsome
    exact ⟨fun _ h => (nomatch h), by simp [givesUp, hcommand]⟩

/-- All contacts are as they were wired, and stay so. -/
structure Wired (contacts : α → List (String × α)) (l : Link α S) : Prop where
  contacts : l.net.contacts = contacts
  plain : ∀ e ∈ l.mail, e.Plain

theorem Wired.step {contacts : α → List (String × α)} (hP : Linked P pipe client contacts)
    (hl : l.Wired contacts) {e : Event α} (h : Step P pipe client l e l') : l'.Wired contacts := by
  cases h with
  | arrives hplain _ =>
    refine ⟨hl.contacts, fun e he => ?_⟩
    rcases List.mem_append.mp he with he | he
    · exact hl.plain e he
    · rwa [List.mem_singleton.mp he]
  | @handled env e net out hmem hhandle =>
    obtain ⟨hcontacts, hout⟩ := hP.plain hhandle (hl.plain e hmem)
    refine ⟨hcontacts.trans hl.contacts, fun e' he' => ?_⟩
    simp only [(called pipe client l.loop e).silent, List.append_nil] at he'
    rcases List.mem_append.mp he' with he' | he'
    · exact hl.plain e' (List.mem_of_mem_erase he')
    · exact hout e' he'
  | posted hstep =>
    refine ⟨hl.contacts, ?_⟩
    simpa [(posted_eq pipe hstep).2.2.1] using hl.plain
  | completed hstep =>
    obtain ⟨-, heffects, -⟩ := completed_eq hstep
    refine ⟨hl.contacts, fun e he => ?_⟩
    rcases List.mem_append.mp he with he | he
    · exact hl.plain e he
    · have hplain : e.Plain ∧ givesUp client e = false := of_mem_pipeMessages heffects he
      exact hplain.1

/-- A message that the client handles neither gives the link up nor was asked for
by the other side, when it is not `close`. -/
theorem not_close {e : Envelope α} (hgiven : givesUp client e = false)
    (hasked : isDeliberate client e = false) : ¬ (e.dest = client ∧ e.command = "close") := by
  rintro ⟨hdest, hcommand⟩
  simp [givesUp, hdest, hcommand, hasked] at hgiven

theorem Kept.isOpen_step (hl : l.Kept pipe client) {e : Event α} (h : Step P pipe client l e l')
    (hasked : asksToClose client e = false) : .read ∈ l'.loop.inFlight → l'.loop.isOpen := by
  cases h with
  | arrives => exact hl.isOpen
  | @handled env e net out hmem hhandle =>
    have hcalled := called pipe client l.loop e
    intro hread
    rw [hcalled.isOpen (not_close (hl.mail e hmem) hasked)]
    exact hl.isOpen (hcalled.read.mp hread)
  | posted hstep =>
    obtain ⟨-, hread, -, hopen⟩ := posted_eq pipe hstep
    intro h
    rw [hopen]
    exact hl.isOpen (hread.mp h)
  | @completed op r loop effects hstep =>
    obtain ⟨hop, -, rfl⟩ := completed_eq hstep
    intro hread
    have hnoClose : ∀ effect ∈ (l.loop.session.complete r op).2, effect ≠ .close := by
      rintro _ heffect rfl
      rcases of_mem_complete heffect with ⟨_, h⟩ | ⟨_, _, h, _⟩ <;> cases h
    rw [Loop.isOpen_after _ hnoClose]
    rw [Loop.inFlight_after] at hread
    dsimp only at hread ⊢
    by_cases hopRead : op = .read
    · subst hopRead
      cases r with
      | ok body => exact hl.isOpen hop
      | error ec =>
        -- this was the only operation that is no write
        have hcount := countP_erase (p := keepsLink) hop
        have htoken : l.loop.inFlight.countP keepsLink + l.mail.countP (isToken pipe client) = 1 :=
          hl.token
        simp only [keepsLink, if_true] at hcount
        have hpos : 0 < (l.loop.inFlight.erase .read).countP keepsLink :=
          List.countP_pos_iff.mpr ⟨.read, by simpa [Session.complete, Session.onRead, Session.report,
            Loop.started] using hread, rfl⟩
        omega
    · have hbefore : .read ∈ l.loop.inFlight → Loop.openAfter l.loop.isOpen op r := by
        intro h
        have hopen := hl.isOpen h
        cases op <;> cases r <;> first | exact absurd rfl hopRead | exact hopen | rfl
      rcases List.mem_append.mp hread with h | h
      · exact hbefore (List.mem_of_mem_erase h)
      · -- only a handshake that succeeds starts to read
        cases op <;> cases r <;>
          first
            | exact absurd rfl hopRead
            | rfl
            | simp [Session.complete, WsClient.errorCode, Session.onResolve, Session.onConnect,
                Session.onWrite, Session.onHandshake, Session.fail, Session.report,
                Session.writeFront, Loop.started] at h

theorem Kept.mail_step {contacts : α → List (String × α)} (hP : Linked P pipe client contacts)
    (hcontacts : l.net.contacts = contacts) (hl : l.Kept pipe client) {e : Event α}
    (h : Step P pipe client l e l') (hkeeps : keeps pipe e) :
    ∀ e ∈ l'.mail, givesUp client e = false := by
  have hquiet {e : Envelope α} (h : isQuiet pipe client e) : givesUp client e = false := by
    simpa using (Bool.and_eq_true_iff.mp h).2
  cases h with
  | arrives _ harrives =>
    intro e he
    rcases List.mem_append.mp he with he | he
    · exact hl.mail e he
    · rw [List.mem_singleton.mp he]
      exact hquiet harrives
  | @handled env e net out hmem hhandle =>
    intro e' he'
    simp only [(called pipe client l.loop e).silent, List.append_nil] at he'
    rcases List.mem_append.mp he' with he' | he'
    · exact hl.mail e' (List.mem_of_mem_erase he')
    · cases hreported : reported pipe e with
      | none => exact hquiet (hP.quiet hcontacts hreported hhandle e' he')
      | some err =>
        have hlasting : err.code ∈ lasting := by simpa [keeps, hreported] using hkeeps
        rw [hP.error hcontacts hreported hhandle, if_pos hlasting, List.mem_singleton] at he'
        rw [he']
        simp [givesUp, reconnectMessage]
  | posted hstep => simpa [(posted_eq pipe hstep).2.2.1] using hl.mail
  | completed hstep =>
    obtain ⟨-, heffects, -⟩ := completed_eq hstep
    intro e he
    rcases List.mem_append.mp he with he | he
    · exact hl.mail e he
    · exact (of_mem_pipeMessages heffects he).2

/-! ## Runs -/

theorem start_kept {net : Net α S} {id host port : String} :
    (start net id host port).Kept pipe client where
  token := rfl
  isOpen h := by simp [start, Loop.idle, Session.run, Loop.started] at h
  mail e he := by cases he

/-- What a run does to the link, as long as the other side does not ask for its end. -/
structure Ran (pipe client : α) (contacts : α → List (String × α)) (events : List (Event α))
    (l : Link α S) : Prop where
  wired : l.Wired contacts
  tokens : l.tokens pipe client + events.countP (fun e => !keeps pipe e) = 1
  kept : (∀ e ∈ events, keeps pipe e) → (∀ e ∈ events, asksToClose client e = false) →
    l.Kept pipe client

theorem ran {contacts : α → List (String × α)} (hP : Linked P pipe client contacts) {net : Net α S}
    {id host port : String} (hnet : net.contacts = contacts) {events : List (Event α)}
    (h : Lts.Trace (Step P pipe client) (start net id host port) events l) :
    Ran pipe client contacts events l := by
  refine h.invariant (Ran pipe client contacts) ⟨⟨hnet, fun e he => (nomatch he)⟩, rfl,
    fun _ _ => start_kept⟩ ?_
  intro events l e l' hl hstep
  have htokens := tokens_step hP hl.wired.contacts hstep
  refine ⟨hl.wired.step hP hstep, ?_, fun hkeeps hasked => ?_⟩
  · have hbefore := hl.tokens
    rw [List.countP_append, List.countP_singleton]
    cases hkeeps : keeps pipe e <;> simp [hkeeps] at htokens ⊢ <;> omega
  · rw [List.forall_mem_append, List.forall_mem_singleton] at hkeeps hasked
    have hkept := hl.kept hkeeps.1 hasked.1
    refine ⟨?_, hkept.isOpen_step hstep hasked.2, hkept.mail_step hP hl.wired.contacts hstep hkeeps.2⟩
    rw [hkeeps.2, if_pos rfl, Nat.add_zero] at htokens
    rw [htokens]
    exact hkept.token

/-- The link is alive as long as every event hands it on, and never again after
one that does not. -/
theorem alive_iff {contacts : α → List (String × α)} (hP : Linked P pipe client contacts)
    {net : Net α S} {id host port : String} (hnet : net.contacts = contacts)
    {events : List (Event α)}
    (h : Lts.Trace (Step P pipe client) (start net id host port) events l)
    (hasked : ∀ e ∈ events, asksToClose client e = false) :
    l.Alive pipe client ↔ ∀ e ∈ events, keeps pipe e := by
  have hran := ran hP hnet h
  constructor
  · intro halive
    have hpos := tokens_pos_of_alive halive
    have htokens := hran.tokens
    have hnone : events.countP (fun e => !keeps pipe e) = 0 := by omega
    simpa using List.countP_eq_zero.mp hnone
  · exact fun hkeeps => alive_of_kept (hran.kept hkeeps hasked)

/-! ## The programs -/

/-- A message is quiet by its command, or because it is a task for another actor. -/
theorem isQuiet_of {e : Envelope α} (herror : reported pipe e = none)
    (hdest : e.dest = client → e.command ≠ "reconnect" ∧
      (e.command = "close" → ∃ text, e.body = .text text)) : isQuiet pipe client e := by
  obtain ⟨dest, sender, command, body⟩ := e
  by_cases hclient : dest = client
  · subst hclient
    obtain ⟨hreconnect, hclose⟩ := hdest rfl
    dsimp only at hreconnect hclose
    by_cases hcommand : command = "close"
    · obtain ⟨text, rfl⟩ := hclose hcommand
      subst hcommand
      simp [isQuiet, isToken, herror, isReconnect, givesUp, isDeliberate]
    · simp [isQuiet, isToken, herror, isReconnect, givesUp, hreconnect, hcommand]
  · simp [isQuiet, isToken, herror, isReconnect, givesUp, hclient]

theorem reported_of_command {e : Envelope α} (h : e.command ≠ "error") : reported pipe e = none := by
  unfold reported
  split
  · next hcommand _ => exact absurd hcommand h
  · rfl

theorem reported_of_task {e : Envelope α} {task : Task} (h : e.body = .task task) :
    reported pipe e = none := by
  unfold reported
  split
  · next hbody => cases h.symm.trans hbody
  · rfl

theorem isQuiet_of_mem_skip {e e' : Envelope α} (h : e' ∈ P.skip e) : isQuiet pipe client e' := by
  obtain ⟨-, rfl⟩ := Program.of_mem_skip h
  exact isQuiet_of rfl fun _ => ⟨(by decide : "error" ≠ "reconnect"), fun h =>
    absurd h (by decide : "error" ≠ "close")⟩

theorem reported_eq_some {e : Envelope α} {err : SocketError} :
    reported pipe e = some err ↔
      e.dest = pipe ∧ e.command = "error" ∧ e.body = .transport (.error err) := by
  obtain ⟨dest, sender, command, body⟩ := e
  unfold reported
  split
  · next hcommand hbody =>
    dsimp only at hcommand hbody ⊢
    subst hcommand hbody
    simp
  · next hne =>
    simp only [reduceCtorEq, false_iff, not_and]
    exact fun _ hcommand hbody => hne _ hcommand hbody

end StreamCloud.Link

namespace StreamCloud.Manager

open Services Link

variable {J : Codec} {config : Config}

/-- The dispatcher closes the client with a text. -/
theorem PlatformService.dispatcher_closes {α : Type} (env : Env) (ctx : Ctx α) (s : Unit)
    (transport : Transport) :
    (PlatformService.dispatcher J config env ctx s transport).Ensures fun r =>
      ctx.Sends (fun _ command body => command = "close" → ∃ text, body = .text text) r.2 := by
  have hclose : (do return (s, ← ctx.send "client" "close" (.text "")) :
      Except Fault (Unit × List (Envelope α))).Ensures fun r =>
        ctx.Sends (fun _ command body => command = "close" → ∃ text, body = .text text) r.2 :=
    Ctx.send_sends_return fun _ => ⟨_, rfl⟩
  unfold PlatformService.dispatcher
  refine Except.ensures_bind.mpr fun _ _ => Except.ensures_bind.mpr fun _ _ => ?_
  refine Except.ensures_ite (fun _ => ?_) fun _ => Except.ensures_ite (fun _ => hclose) fun _ => ?_
  · refine Except.ensures_bind.mpr fun _ _ => Except.ensures_ite (fun _ => ?_) fun _ => ?_
    · exact Except.ensures_bind.mpr fun _ _ =>
        Ctx.send_sends_return fun h => absurd h (by decide)
    · exact Except.ensures_ite (fun _ => hclose) fun _ => Except.ensures_ok.mpr Ctx.sends_nil
  · exact Except.ensures_ite (fun _ => Ctx.send_sends_return fun h => absurd h (by decide))
      fun _ => Except.ensures_ok.mpr Ctx.sends_nil

/-- Only the handler of errors gives the client up. -/
theorem PlatformService.closes_with_text {α : Type} {env : Env} {ctx : Ctx α} {s : Unit}
    {command : String} {action : Action α Unit} {body : Body α} {r : Unit × List (Envelope α)}
    (hmem : (command, action) ∈ PlatformService.handlers J config) (hne : command ≠ "error")
    (h : Action.Ran env ctx s action body r) :
    ctx.Sends (fun _ command body => command = "close" → ∃ text, body = .text text) r.2 := by
  simp only [PlatformService.handlers, List.mem_cons, Prod.mk.injEq, List.not_mem_nil, or_false]
    at hmem
  rcases hmem with ⟨rfl, rfl⟩ | ⟨rfl, rfl⟩ | ⟨rfl, rfl⟩ | ⟨rfl, rfl⟩ <;> cases h with | transport h
  · exact PlatformService.dispatcher_closes env ctx s _ r h
  · exact Ctx.send_sends_return (fun h => absurd h (by decide)) r h
  · exact absurd rfl hne
  · obtain ⟨_, -, h⟩ := Except.bind_eq_ok.mp h
    obtain ⟨_, -, h⟩ := Except.bind_eq_ok.mp h
    obtain ⟨_, -, h⟩ := Except.bind_eq_ok.mp h
    exact Ctx.send_sends_return (fun h => absurd h (by decide)) r h

/-- The platform service sends `reconnect` for errors only, and nobody else is
sent an error. -/
theorem PlatformService.Sent.commands {α : Type} {command name command' : String} {body : Body α}
    (h : PlatformService.Sent command name command' body) :
    command' ≠ "error" ∧ (command' = "reconnect" → command = "error") := by
  cases h <;> exact ⟨by decide, fun h => by first | rfl | exact absurd h (by decide)⟩

/-- What the other services send is not for the client. -/
theorem Sent.isQuiet {a dest sender : Actor} {command name command' : String} {body : Body Actor}
    (h : Sent a command name command' body) (ha : a ≠ .platform)
    (hdest : (contacts a).lookup name = some dest) :
    isQuiet .platform .client { dest, sender, command := command', body } := by
  cases a <;> cases h <;> cases hdest <;>
    first
      | exact absurd rfl ha
      | exact isQuiet_of (reported_of_command (by simp)) fun h => nomatch h

theorem linked : Linked (program J config) .platform .client contacts where
  plain := handle_plain
  error {env n n' e out err} hn hreported h := by
    obtain ⟨dest, sender, command, body⟩ := e
    obtain ⟨rfl, rfl, rfl⟩ := reported_eq_some.mp hreported
    obtain ⟨_, component, hbody, hrun, -⟩ := Program.transport_of_handle
      (h := PlatformService.error) (L := unitLens) rfl h
    cases hbody
    have hclient : ((program J config).ctx n .platform).contacts.lookup "client" = some .client :=
      lookup_of_wired hn rfl
    simp only [PlatformService.error, Transport.asError_error, Except.ok_bind',
      Ctx.send_of_contact hclient] at hrun
    unfold lasting
    split at hrun
    · next hlasting =>
      rw [if_pos hlasting]
      cases hrun
      rfl
    · next hlasting =>
      rw [if_neg hlasting]
      cases hrun
      rfl
  quiet {env n n' e out} hn hreported h := by
    obtain ⟨dest, sender, command, body⟩ := e
    intro e' he'
    cases Program.handled_of_eq_ok h with
    | syncContacts => cases he'
    | addChannel => cases he'
    | skip => exact isQuiet_of_mem_skip he'
    | attached _ hmem hran =>
      cases emits_of_ran hmem hran with
      | sends hsends =>
        obtain ⟨-, name, hlookup, hsent⟩ := hsends e' he'
        by_cases hplatform : dest = .platform
        · subst hplatform
          obtain ⟨inner, hinner, rfl⟩ := mem_liftAll.mp hmem
          obtain ⟨_, hinnerRan, -⟩ := hran.of_lift
          have hne : command ≠ "error" := by
            rintro rfl
            obtain ⟨transport, _, rfl, hrun, -⟩ := Program.transport_of_handle
              (h := PlatformService.error) (L := unitLens) rfl h
            obtain ⟨err, herr, -⟩ := Except.bind_eq_ok.mp hrun
            obtain rfl := Transport.asError_eq_ok.mp herr
            simp [reported] at hreported
          obtain ⟨-, _, -, hcloses⟩ :=
            PlatformService.closes_with_text hinner hne hinnerRan e' he'
          have hcommands := PlatformService.Sent.commands hsent
          exact isQuiet_of (reported_of_command hcommands.1)
            fun _ => ⟨fun h => hne (hcommands.2 h), hcloses⟩
        · have hcontact : (contacts dest).lookup name = some e'.dest := by
            rw [← hlookup, ← hn]
            rfl
          exact Sent.isQuiet hsent hplatform hcontact
      | dispatches hdest _ _ hdispatches =>
        obtain rfl : dest = .router := hdest
        obtain rfl := List.mem_singleton.mp he'
        have hlisted := (dest_of_listed hdispatches.listed
          ((congrArg (fun contacts : Actor → List (String × Actor) => (contacts .router).lookup _) hn).symm.trans
            hdispatches.contact)).2
        refine isQuiet_of (reported_of_task rfl) fun hclient => ?_
        dsimp only at hclient
        rw [hclient] at hlisted
        exact absurd hlisted (by decide)
      | pipe =>
        obtain rfl := List.mem_singleton.mp he'
        exact isQuiet_of rfl fun h => nomatch h

end StreamCloud.Manager

namespace StreamCloud.Device

open Services Link

variable {J : Codec} {config : Config}

/-- A message that leaves the link alone: it is not an error, does not ask for a
reconnect, and closes the client with a text only. -/
def LeavesLink {α : Type} (name command : String) (body : Body α) : Prop :=
  (∃ task, body = .task task) ∧ name = "control" ∨
    command ≠ "error" ∧ command ≠ "reconnect" ∧ (command = "close" → ∃ text, body = .text text)

section LeavesLink

variable {α : Type} {ctx : Ctx α} {env : Env}

theorem leavesLink_write {name : String} {transport : Transport} :
    LeavesLink (α := α) name "write" (.transport transport) :=
  .inr ⟨by decide, by decide, fun h => absurd h (by decide)⟩

theorem Manager.request_leavesLink (message : JsonMap) :
    (Manager.request J ctx message).Ensures (ctx.Sends LeavesLink) := by
  unfold Manager.request
  refine Except.ensures_bind.mpr fun id _ => Except.ensures_bind.mpr fun ⟨request, _⟩ _ => ?_
  refine Except.ensures_ite (fun _ => ?_) fun _ => Except.ensures_ite (fun _ => ?_) fun _ =>
    Except.ensures_ok.mpr Ctx.sends_nil
  · split
    · refine Except.ensures_ite (fun hlisted => ?_) fun _ => Ctx.send_sends leavesLink_write
      refine Except.ensures_bind.mpr fun service _ => Except.ensures_ite (fun _ => ?_) fun _ => ?_
      · exact Ctx.send_sends (.inl ⟨⟨_, rfl⟩, List.mem_singleton.mp hlisted⟩)
      · exact Ctx.send_sends leavesLink_write
    · exact Except.ensures_ok.mpr Ctx.sends_nil
  · exact Ctx.send_sends (.inr ⟨by decide, by decide, fun _ => ⟨_, rfl⟩⟩)

theorem Manager.leavesLink {s : Unit} {command : String} {action : Action α Unit} {body : Body α}
    {r : Unit × List (Envelope α)} (hmem : (command, action) ∈ Manager.handlers J config)
    (hne : command ≠ "error") (h : Action.Ran env ctx s action body r) :
    ctx.Sends LeavesLink r.2 := by
  simp only [Manager.handlers, List.mem_cons, Prod.mk.injEq, List.not_mem_nil, or_false] at hmem
  rcases hmem with ⟨rfl, rfl⟩ | ⟨rfl, rfl⟩ | ⟨rfl, rfl⟩ | ⟨rfl, rfl⟩ <;> cases h with | transport h
  · obtain ⟨_, -, h⟩ := Except.bind_eq_ok.mp h
    obtain ⟨message, -, h⟩ := Except.bind_eq_ok.mp h
    split at h
    · obtain ⟨out, hout, heq⟩ := Except.bind_eq_ok.mp h
      cases heq
      exact Manager.request_leavesLink message out hout
    · split at h
      · exact Ctx.send_sends_return (.inr ⟨by decide, by decide, fun _ => ⟨_, rfl⟩⟩) r h
      · split at h
        · exact Ctx.send_sends_return
            (.inr ⟨by decide, by decide, fun h => absurd h (by decide)⟩) r h
        · cases h
          exact Ctx.sends_nil
  · exact Ctx.send_sends_return leavesLink_write r h
  · exact absurd rfl hne
  · obtain ⟨_, -, h⟩ := Except.bind_eq_ok.mp h
    obtain ⟨_, -, h⟩ := Except.bind_eq_ok.mp h
    obtain ⟨_, -, h⟩ := Except.bind_eq_ok.mp h
    exact Ctx.send_sends_return leavesLink_write r h

theorem Control.leavesLink {s : Control.Impl} {command : String} {action : Action α Control.Impl}
    {body : Body α} {r : Control.Impl × List (Envelope α)}
    (hmem : (command, action) ∈ Control.handlers J) (h : Action.Ran env ctx s action body r) :
    ctx.Sends LeavesLink r.2 := by
  have hswitch (status : Bool) (task : Task) :
      (Control.switch J status env ctx s task).Ensures fun r => ctx.Sends LeavesLink r.2 :=
    (Ctx.send_sends leavesLink_write).andThen fun _ hresponse =>
      (Ctx.send_sends leavesLink_write).andThen fun _ hnotify =>
        Except.ensures_ok.mpr (hresponse.append hnotify)
  simp only [Control.handlers, List.mem_cons, Prod.mk.injEq, List.not_mem_nil, or_false] at hmem
  rcases hmem with ⟨-, rfl⟩ | ⟨-, rfl⟩ | ⟨-, rfl⟩ <;> cases h with | _ h
  · exact hswitch true _ r h
  · exact hswitch false _ r h
  · exact Ctx.send_sends_return leavesLink_write r h

end LeavesLink

theorem linked : Linked (program J config) .manager .client contacts where
  plain := handle_plain
  error {env n n' e out err} hn hreported h := by
    obtain ⟨dest, sender, command, body⟩ := e
    obtain ⟨rfl, rfl, rfl⟩ := reported_eq_some.mp hreported
    obtain ⟨_, component, hbody, hrun, -⟩ := Program.transport_of_handle
      (h := Manager.error) (L := unitLens) rfl h
    cases hbody
    have hclient : ((program J config).ctx n .manager).contacts.lookup "client" = some .client :=
      (lookup_of_wired hn _ _).trans rfl
    simp only [Manager.error, Transport.asError_error, Except.ok_bind',
      Ctx.send_of_contact hclient] at hrun
    unfold lasting
    split at hrun
    · next hlasting =>
      rw [if_pos hlasting]
      cases hrun
      rfl
    · next hlasting =>
      rw [if_neg hlasting]
      cases hrun
      rfl
  quiet {env n n' e out} hn hreported h := by
    obtain ⟨dest, sender, command, body⟩ := e
    have hquiet {e' : Envelope Actor} (hsends : ((program J config).ctx n dest).Sends LeavesLink out)
        (he' : e' ∈ out) : isQuiet .manager .client e' := by
      obtain ⟨-, name, hlookup, hleaves⟩ := hsends e' he'
      have hcontact := (lookup_of_wired hn dest name).symm.trans hlookup
      rcases hleaves with ⟨⟨task, hbody⟩, hname⟩ | ⟨herror, hreconnect, hclose⟩
      · subst hname
        refine isQuiet_of (reported_of_task hbody) fun hclient => ?_
        rw [hclient] at hcontact
        cases dest <;> cases hcontact
      · exact isQuiet_of (reported_of_command herror) fun _ => ⟨hreconnect, hclose⟩
    intro e' he'
    cases Program.handled_of_eq_ok h with
    | syncContacts => cases he'
    | addChannel => cases he'
    | skip => exact isQuiet_of_mem_skip he'
    | attached _ hmem hran =>
      refine hquiet ?_ he'
      cases dest <;> obtain ⟨inner, hinner, rfl⟩ := mem_liftAll.mp hmem <;>
        obtain ⟨_, hinnerRan, -⟩ := hran.of_lift
      case manager =>
        refine Manager.leavesLink hinner ?_ hinnerRan
        rintro rfl
        obtain ⟨transport, _, rfl, hrun, -⟩ := Program.transport_of_handle
          (h := Manager.error) (L := unitLens) rfl h
        obtain ⟨err, herr, -⟩ := Except.bind_eq_ok.mp hrun
        obtain rfl := Transport.asError_eq_ok.mp herr
        simp [reported] at hreported
      case control => exact Control.leavesLink hinner hinnerRan
      case client =>
        obtain rfl := WsClient.out_of_ran hinner hinnerRan
        exact Ctx.sends_nil

end StreamCloud.Device

namespace StreamCloud.Link

/-- The link of the manager and that of a device, in every run: as long as the
other side does not ask for its end, it is alive exactly while no resolve and no
handshake has failed and every error was one after which a connection is made again. -/
theorem alive_iff_keeps (J : Codec) :
    (∀ (config : Config) (net : Manager.State) (id host port : String)
      (events : List (Event Manager.Actor)) (l : Link Manager.Actor Manager.Services),
      net.contacts = Manager.contacts →
      Lts.Trace (Step (Manager.program J config) .platform .client) (start net id host port) events l →
      (∀ e ∈ events, asksToClose .client e = false) →
      (l.Alive .platform .client ↔ ∀ e ∈ events, keeps .platform e)) ∧
    ∀ (config : Device.Config) (net : Device.State) (id host port : String)
      (events : List (Event Device.Actor)) (l : Link Device.Actor Device.Services),
      net.contacts = Device.contacts →
      Lts.Trace (Step (Device.program J config) .manager .client) (start net id host port) events l →
      (∀ e ∈ events, asksToClose .client e = false) →
      (l.Alive .manager .client ↔ ∀ e ∈ events, keeps .manager e) :=
  ⟨fun _ _ _ _ _ _ _ hnet h hasked => alive_iff Manager.linked hnet h hasked,
    fun _ _ _ _ _ _ _ hnet h hasked => alive_iff Device.linked hnet h hasked⟩

/-- A link on which one operation completed. -/
def completedOne (net : Manager.State) (op : WsClient.Operation)
    (r : Except SocketErrorCode String) : Link Manager.Actor Manager.Services :=
  let l := start net "1" "localhost" "80"
  let result := (l.loop.step (.completed op r)).getD (l.loop, [])
  { l with loop := result.1, mail := result.2.filterMap (pipeMessage .platform) }

theorem completedOne_run (config : Config) (r : Except SocketErrorCode String) :
    Lts.Trace (Step (Manager.program Codec.api config) .platform .client)
      (start Manager.blank "1" "localhost" "80") [.completed (.resolve "localhost" "80") r]
      (completedOne Manager.blank (.resolve "localhost" "80") r) :=
  .snoc .nil (.completed rfl)

theorem alive_iff_keeps_resolved :
    (completedOne Manager.blank (.resolve "localhost" "80") (.ok "")).Alive .platform .client ∧
      ∀ _config : Device.Config, (start Device.blank "1" "localhost" "80").Alive .manager .client ↔
        ∀ e ∈ ([] : List (Event Device.Actor)), keeps .manager e :=
  ⟨((alive_iff_keeps Codec.api).1 ⟨"", ""⟩ _ _ _ _ _ _ rfl (completedOne_run ⟨"", ""⟩ (.ok ""))
      (by decide)).mpr (by decide),
    fun config => (alive_iff_keeps Codec.api).2 config _ _ _ _ _ _ rfl .nil (by decide)⟩

/-- A name that is not resolved leaves the client disconnected for good. -/
theorem resolve_failed_not_alive :
    ¬ ∀ (config : Config) (net : Manager.State) (id host port : String)
      (events : List (Event Manager.Actor)) (l : Link Manager.Actor Manager.Services),
      net.contacts = Manager.contacts →
      Lts.Trace (Step (Manager.program Codec.api config) .platform .client) (start net id host port)
        events l →
      (∀ e ∈ events, asksToClose .client e = false) → l.Alive .platform .client := by
  intro h
  have halive := h ⟨"", ""⟩ _ _ _ _ _ _ rfl (completedOne_run ⟨"", ""⟩ (.error .other)) (by decide)
  exact absurd (tokens_pos_of_alive halive) (by decide)

end StreamCloud.Link
