-- SUMMARY: Which operations of one profile leave the managers of the others alone.
import StreamCloud.Verification.RegistryFreshness

/-!
# Isolation of profiles

The statements of the managers service are filtered by the profile of the
caller. The registry, and the message to a manager that is deleted, are not.
-/

namespace StreamCloud.Platform

variable {J : Codec} {managerKey : String}

/-- The message with which a task is delivered to the managers service. -/
def managersMessage (sender : Actor) (command : String) (task : Task) : Envelope Actor :=
  { dest := .managers, sender, command, body := .task task }

/-- The operations of the managers service that are made for a profile. -/
def profileOperations : List String := ["add", "delete", "list", "connect", "disconnect"]

/-- A text is written to a session. -/
def WritesTo (out : List (Envelope Actor)) (id : String) : Prop :=
  ∃ e ∈ out, ∃ ws, e.body = .transport (.webSocket ws) ∧ ws.id = id

theorem writesTo_append {out out' : List (Envelope Actor)} {id : String} :
    WritesTo (out ++ out') id ↔ WritesTo out id ∨ WritesTo out' id := by
  simp only [WritesTo, List.mem_append, or_and_right, exists_or]

theorem not_writesTo_nil {id : String} : ¬ WritesTo [] id := fun ⟨_, he, _⟩ => nomatch he

theorem writesTo_text {dest sender : Actor} {command text id : String} :
    ¬ WritesTo [{ dest, sender, command, body := .text text }] id := by
  rintro ⟨e, he, ws, hbody, -⟩
  obtain rfl := List.mem_singleton.mp he
  cases hbody

theorem writesTo_webSocket {dest sender : Actor} {command id : String} {ws : WebSocket} :
    WritesTo [{ dest, sender, command, body := .transport (.webSocket ws) }] id ↔ ws.id = id := by
  constructor
  · rintro ⟨e, he, ws', hbody, rfl⟩
    obtain rfl := List.mem_singleton.mp he
    cases hbody
    rfl
  · rintro rfl
    exact ⟨_, List.mem_singleton_self _, ws, rfl, rfl⟩

/-- The sessions that an operation writes to: that of the caller, and for a
delete that of the manager, whoever it belongs to. -/
def Targets (env : Env) (s : Managers) (command : String) (task : Task) (id : String) : Prop :=
  (command ≠ "disconnect" ∧ task.transportId = id) ∨
    (command = "delete" ∧ env.db = none ∧ ∃ key, task.paramString "key" = .ok key ∧ key ≠ "" ∧
      s.managersReg.lookup key = some id)

theorem writesTo_respond {ctx : Ctx Actor} {task : Task} {reply : Reply} {out : List (Envelope Actor)}
    (h : ctx.respond J task reply = .ok out) (id : String) :
    WritesTo out id ↔ task.transportId = id := by
  obtain ⟨dest, -, rfl⟩ := Ctx.writeTo_eq_ok.mp h
  exact writesTo_webSocket

theorem writesTo_answer {ctx : Ctx Actor} {β : Type} {task : Task} {s s' : Managers}
    {read : Except Fault β} {valid : β → Bool} {invalid : String}
    {body : β → Except Fault (Managers × Reply)} {out : List (Envelope Actor)}
    (h : ctx.answer J task s read valid invalid body = .ok (s', out)) (id : String) :
    WritesTo out id ↔ task.transportId = id := by
  obtain ⟨_, reply, -, -, hout⟩ := Ctx.answer_eq_ok.mp h
  exact writesTo_respond hout id

theorem writesTo_add {env : Env} {ctx : Ctx Actor} {s s' : Managers} {task : Task}
    {out : List (Envelope Actor)} (h : Managers.add J env ctx s task = .ok (s', out)) (id : String) :
    WritesTo out id ↔ task.transportId = id := by
  obtain ⟨name, -, h⟩ := Except.bind_eq_ok.mp h
  obtain ⟨⟨s₁, reply, urls⟩, hbody, h⟩ := Except.bind_eq_ok.mp h
  obtain ⟨responses, hresponses, h⟩ := Except.bind_eq_ok.mp h
  obtain ⟨-, rfl⟩ := Prod.mk.inj (Except.ok.inj h)
  have hurls : ¬ WritesTo urls id := by
    split at hbody
    · refine catchStd_ensures (Q := fun r => ¬ WritesTo r.2.2 id) ?_
        (fun what => Except.ensures_ok.mpr not_writesTo_nil) _ hbody
      refine Except.ensures_bind.mpr fun _ _ => Except.ensures_bind.mpr fun _ _ => ?_
      refine Managers.behindResult_ensures (fun what => not_writesTo_nil) ?_
      refine Except.ensures_bind.mpr fun url hurl => Except.ensures_ok.mpr ?_
      obtain ⟨dest, -, rfl⟩ := Ctx.send_eq_ok.mp hurl
      exact writesTo_text
    · cases hbody
      exact not_writesTo_nil
  rw [writesTo_append, writesTo_respond hresponses, or_iff_right hurls]

theorem writesTo_writeDisconnect {ctx : Ctx Actor} {s : Managers} {task : Task} {key : String}
    {out : List (Envelope Actor)} (h : Managers.writeDisconnect J ctx s task key = .ok out)
    (id : String) : WritesTo out id ↔ s.managersReg.lookup key = some id := by
  unfold Managers.writeDisconnect at h
  split at h
  · next session hsession =>
    obtain ⟨dest, -, rfl⟩ := Ctx.writeTo_eq_ok.mp h
    rw [writesTo_webSocket, hsession, Option.some.injEq]
  · next hnone =>
    cases h
    simp [hnone, not_writesTo_nil]

theorem writesTo_response {ctx : Ctx Actor} {dest : Actor} {task : Task} {reply : Reply} {id : String} :
    WritesTo [ctx.response J dest task reply] id ↔ task.transportId = id := writesTo_webSocket

theorem writesTo_delete {env : Env} {ctx : Ctx Actor} {s s' : Managers} {task : Task}
    {out : List (Envelope Actor)} {toHttp toWs : Actor} (hhttp : ctx.contacts.lookup "http" = some toHttp)
    (hws : ctx.contacts.lookup "ws" = some toWs)
    (h : Managers.delete J env ctx s task = .ok (s', out)) (id : String) :
    WritesTo out id ↔ Targets env s "delete" task id := by
  obtain ⟨key, hkey, -⟩ := Except.bind_eq_ok.mp h
  by_cases hfails : key = "" ∨ env.db ≠ none
  · obtain ⟨what, heq⟩ := Managers.delete_eq_failed J (s := s) hkey hws hfails
    obtain ⟨-, rfl⟩ := Prod.mk.inj (Except.ok.inj (heq.symm.trans h))
    rw [writesTo_response, Targets]
    simp only [hkey, Except.ok.injEq, exists_eq_left', ne_eq, not_false_eq_true, true_and, String.reduceEq]
    tauto
  · push Not at hfails
    obtain ⟨message, hmessage, heq⟩ := Managers.delete_eq J (s := s) hkey hws hfails.1 hfails.2 hhttp
    obtain ⟨-, rfl⟩ := Prod.mk.inj (Except.ok.inj (heq.symm.trans h))
    rw [← List.singleton_append, writesTo_append, or_iff_right writesTo_text, writesTo_append, writesTo_response,
      writesTo_writeDisconnect hmessage, Targets]
    simp only [hkey, Except.ok.injEq, exists_eq_left', ne_eq, not_false_eq_true, true_and, String.reduceEq]
    tauto

/-- What an operation of the managers service writes to. -/
theorem writesTo_iff {env : Env} {n n' : State} (hn : n.contacts = contacts) {sender : Actor}
    {command : String} {task : Task} {out : List (Envelope Actor)} (hcommand : command ∈ profileOperations)
    (h : handle J managerKey env n (managersMessage sender command task) = .ok (n', out)) (id : String) :
    WritesTo out id ↔ Targets env n.services.managers command task id := by
  have hhttp : (contacts .managers).lookup "http" = some .http := rfl
  have hws : (contacts .managers).lookup "ws" = some .ws := rfl
  simp only [profileOperations, List.mem_cons, List.not_mem_nil, or_false] at hcommand
  rcases hcommand with rfl | rfl | rfl | rfl | rfl
  · obtain ⟨_, _, hbody, hrun, -⟩ :=
      Program.task_of_handle (h := Managers.add J) (L := Services.managersLens) rfl h
    cases hbody
    simpa [Targets] using writesTo_add hrun id
  · obtain ⟨_, _, hbody, hrun, -⟩ :=
      Program.task_of_handle (h := Managers.delete J) (L := Services.managersLens) rfl h
    cases hbody
    exact writesTo_delete (lookup_of_wired hn hhttp) (lookup_of_wired hn hws) hrun id
  · obtain ⟨_, _, hbody, hrun, -⟩ :=
      Program.task_of_handle (h := Managers.list J) (L := Services.managersLens) rfl h
    cases hbody
    simpa [Targets] using writesTo_answer hrun id
  · obtain ⟨_, _, hbody, hrun, -⟩ :=
      Program.task_of_handle (h := Managers.connect J) (L := Services.managersLens) rfl h
    cases hbody
    simpa [Targets] using writesTo_answer hrun id
  · obtain ⟨_, _, hbody, hrun, -⟩ :=
      Program.task_of_handle (h := Managers.disconnect) (L := Services.managersLens) rfl h
    cases hbody
    obtain ⟨key, -, hrun⟩ := Except.bind_eq_ok.mp hrun
    cases hrun
    simp [Targets, not_writesTo_nil]

/-! ## The row and the registration -/

/-- An operation leaves a manager alone: its row, its registration and its session. -/
structure Untouched (row : ManagerRow) (n n' : State) (out : List (Envelope Actor)) : Prop where
  kept : n'.services.managers.table.find? row.key = some row
  registration : n'.services.managers.managersReg.lookup row.key.val =
    n.services.managers.managersReg.lookup row.key.val
  session : ∀ id, n.services.managers.managersReg.lookup row.key.val = some id → ¬ WritesTo out id

/-- The caller is taken for the owner of the manager, whose row is deleted, or which is
registered while it is not connected. With another login than the owner's this is so if a
null character cuts it down to the owner's. -/
def ActsAsOwner (env : Env) (s : Managers) (command : String) (task : Task) (row : ManagerRow) : Prop :=
  Text.bind (task.stored "profile.login") = row.profileLogin ∧ env.db = none ∧
    ((command = "delete" ∧ ∃ key, task.paramString "key" = .ok key ∧ key ≠ "" ∧ .bind key = row.key) ∨
      (command = "connect" ∧ task.paramString "key" = .ok row.key.val ∧
        s.managersReg.lookup row.key.val = none))

/-- An operation spares a manager: the caller does not act as its owner; and the manager is
not connected, or the operation neither writes to its session nor is a disconnect of it. -/
def Spares (env : Env) (s : Managers) (command : String) (task : Task) (row : ManagerRow) : Prop :=
  ¬ ActsAsOwner env s command task row ∧
    ∀ id, s.managersReg.lookup row.key.val = some id →
      ¬ Targets env s command task id ∧ ¬ (command = "disconnect" ∧ task.paramString "key" = .ok row.key.val)

namespace Managers

section Effect

variable {env : Env} {s s' : Managers} {command : String} {task : Task} {row : ManagerRow}
  (h : s.Effect (α := Actor) env command (.task task) s') (hrow : s.table.find? row.key = some row)
  (hspares : Spares env s command task row)
include h hrow hspares

/-- A spared row stays. -/
theorem Effect.keeps_row : s'.table.find? row.key = some row := by
  have hmem := (Keyed.find?_eq_some_iff.mp hrow).1
  cases h with
  | keep => exact hrow
  | add _ hinsert =>
    refine Keyed.find?_eq_some_iff.mpr ⟨?_, rfl⟩
    exact (Keyed.mem_of_insert hinsert row).mpr (.inl hmem)
  | delete hkey hne hdb =>
    refine Keyed.find?_eq_some_iff.mpr ⟨Keyed.mem_delete.mpr ⟨hmem, decide_eq_false ?_⟩, rfl⟩
    rintro ⟨hsame, howner⟩
    exact hspares.1 ⟨howner.symm, hdb, .inl ⟨rfl, _, hkey, hne, hsame.symm⟩⟩
  | connect hreply =>
    rcases connectReply_cases hreply with ⟨-, rfl⟩ | ⟨-, _, -, -, rfl⟩
    · exact hrow
    · exact hrow
  | disconnect => exact hrow

omit h hrow hspares in
/-- A connect without an error has asked the database. -/
theorem connectReply_db {reply : Reply} (hreply : connectReply env s task = .ok (s', reply))
    (herror : reply.error = none) : env.db = none := by
  obtain ⟨key, -, hbody⟩ := Except.bind_eq_ok.mp hreply
  rcases catchStd_eq_ok.mp hbody with hbody | ⟨what, -, hfailed⟩
  · obtain ⟨_, hdb, -⟩ := Except.bind_eq_ok.mp hbody
    exact Db.execute_eq_ok.mp hdb
  · cases hfailed
    cases herror

omit h hspares in
/-- Whoever is found to own the key of a row has the login of the row, where it is cut. -/
theorem owner_of_owned {login : String} (howned : 0 < s.countOwned (.bind row.key.val) (.bind login)) :
    Text.bind login = row.profileLogin := by
  obtain ⟨other, hother⟩ := List.exists_mem_of_length_pos howned
  obtain ⟨hmem, hkey⟩ := List.mem_filter.mp hother
  rw [Text.bind_val, decide_eq_true_eq] at hkey
  have hsame : s.table.find? row.key = some other := Keyed.find?_eq_some_iff.mpr ⟨hmem, hkey.1⟩
  obtain rfl : row = other := Option.some.inj (hrow.symm.trans hsame)
  exact hkey.2.symm

/-- The registration of a spared manager stays. -/
theorem Effect.registration : s'.managersReg.lookup row.key.val = s.managersReg.lookup row.key.val := by
  have herase : ∀ key, (∀ id, s.managersReg.lookup row.key.val = some id → key ≠ row.key.val) →
      (s.managersReg.erase key).lookup row.key.val = s.managersReg.lookup row.key.val := by
    intro key hne
    by_cases hkey : row.key.val = key
    · cases hlookup : s.managersReg.lookup row.key.val with
      | none => rw [← hkey, AList.lookup_erase]
      | some id => exact absurd hkey.symm (hne id hlookup)
    · exact AList.lookup_erase_ne hkey
  cases h with
  | keep => rfl
  | add => rfl
  | @delete _ key hkey hne hdb =>
    refine herase key fun id hid heq => ?_
    exact (hspares.2 id hid).1 (.inr ⟨rfl, hdb, key, hkey, hne, heq ▸ hid⟩)
  | connect hreply herror =>
    rcases connectReply_cases hreply with ⟨-, rfl⟩ | ⟨-, key, hkey, howned, rfl⟩
    · rfl
    · by_cases hsame : row.key.val = key
      · subst hsame
        have howner := owner_of_owned hrow howned
        cases hlookup : s.managersReg.lookup row.key.val with
        | none =>
          exact absurd ⟨howner, connectReply_db hreply herror, .inr ⟨rfl, hkey, hlookup⟩⟩ hspares.1
        | some id =>
          have hkept := AList.lookup_emplace_self s.managersReg row.key.val task.transportId
          rw [hlookup] at hkept
          exact hkept
      · exact AList.lookup_emplace_ne hsame
  | @disconnect _ key hkey =>
    exact herase key fun id hid heq => (hspares.2 id hid).2 ⟨rfl, heq ▸ hkey⟩

end Effect

end Managers

/-- Whoever acts as its owner does not leave a manager alone. -/
theorem not_untouched_of_acts {env : Env} {n n' : State} {sender : Actor} {command : String} {task : Task}
    {out : List (Envelope Actor)} {row : ManagerRow} (hn : n.contacts = contacts)
    (hrow : n.services.managers.table.find? row.key = some row)
    (h : handle J managerKey env n (managersMessage sender command task) = .ok (n', out))
    (hacts : ActsAsOwner env n.services.managers command task row) : ¬ Untouched row n n' out := by
  have hmem := (Keyed.find?_eq_some_iff.mp hrow).1
  have hhttp : (contacts .managers).lookup "http" = some .http := rfl
  have hws : (contacts .managers).lookup "ws" = some .ws := rfl
  intro hu
  obtain ⟨howner, hdb, ⟨rfl, key, hkey, hne, hsame⟩ | ⟨rfl, hkey, hfree⟩⟩ := hacts
  · obtain ⟨_, managers, hbody, hrun, rfl⟩ :=
      Program.task_of_handle (h := Managers.delete J) (L := Services.managersLens) rfl h
    cases hbody
    obtain ⟨message, -, hdelete⟩ := Managers.delete_eq J hkey (lookup_of_wired hn hws) hne hdb (lookup_of_wired hn hhttp)
    obtain ⟨rfl, -⟩ := Prod.mk.inj (Except.ok.inj (hdelete.symm.trans hrun))
    have hkept := (Keyed.find?_eq_some_iff.mp hu.kept).1
    exact of_decide_eq_false (Keyed.mem_delete.mp hkept).2 ⟨hsame.symm, howner.symm⟩
  · obtain ⟨_, managers, hbody, hrun, rfl⟩ :=
      Program.task_of_handle (h := Managers.connect J) (L := Services.managersLens) rfl h
    cases hbody
    obtain ⟨reply, hreply, -⟩ := Managers.connect_eq_ok.mp hrun
    have howned : 0 < n.services.managers.countOwned (.bind row.key.val) (.bind (task.stored "profile.login")) := by
      refine List.length_pos_of_mem (List.mem_filter.mpr ⟨hmem, decide_eq_true ?_⟩)
      exact ⟨(Text.bind_val row.key).symm, howner.symm⟩
    have hconnects : Managers.connectReply env n.services.managers task =
        .ok (n.services.managers.addRegManager row.key.val task.transportId, .ok (.boolean true)) := by
      unfold Managers.connectReply Managers.connectBody
      simp only [hkey, Except.ok_bind', hdb, Db.execute, if_pos howned]
      rfl
    obtain ⟨rfl, -⟩ := Prod.mk.inj (Except.ok.inj (hconnects.symm.trans hreply))
    have hregistered : (n.services.managers.managersReg.emplace row.key.val task.transportId).lookup row.key.val =
        n.services.managers.managersReg.lookup row.key.val := hu.registration
    rw [AList.lookup_emplace_self, hfree] at hregistered
    cases hregistered

/-- An operation that a profile makes leaves a manager alone exactly if it spares it, whoever
the manager belongs to. -/
theorem untouched_iff_spares (J : Codec) (managerKey : String) (env : Env) (n n' : State)
    (sender : Actor) (command : String) (task : Task) (out : List (Envelope Actor)) (row : ManagerRow)
    (hn : Reachable J managerKey n) (hcommand : command ∈ profileOperations)
    (hrow : n.services.managers.table.find? row.key = some row)
    (h : handle J managerKey env n (managersMessage sender command task) = .ok (n', out)) :
    Untouched row n n' out ↔ Spares env n.services.managers command task row := by
  have hwrites := writesTo_iff hn.contacts_eq hcommand h
  constructor
  · intro hu
    refine ⟨fun hacts => not_untouched_of_acts hn.contacts_eq hrow h hacts hu, fun id hid => ?_⟩
    refine ⟨fun htargets => hu.session id hid ((hwrites id).mpr htargets), ?_⟩
    rintro ⟨rfl, hkey⟩
    obtain ⟨_, managers, hbody, hrun, rfl⟩ :=
      Program.task_of_handle (h := Managers.disconnect) (L := Services.managersLens) rfl h
    cases hbody
    simp only [Managers.disconnect, hkey, Except.ok_bind'] at hrun
    cases hrun
    have hgone : (n.services.managers.managersReg.erase row.key.val).lookup row.key.val =
        n.services.managers.managersReg.lookup row.key.val := hu.registration
    rw [AList.lookup_erase, hid] at hgone
    cases hgone
  · intro hspares
    have hsession : ∀ id, n.services.managers.managersReg.lookup row.key.val = some id →
        ¬ WritesTo out id := fun id hid hwritten => (hspares.2 id hid).1 ((hwrites id).mp hwritten)
    rcases managers_effect hn.contacts_eq h with hsame | ⟨-, heffect⟩
    · exact ⟨hsame ▸ hrow, by rw [hsame], hsession⟩
    · exact ⟨heffect.keeps_row hrow hspares, heffect.registration hrow hspares, hsession⟩

/-- The manager `k` of profile `a`, connected from session `t`. -/
def managerConnected : State where
  services := { (authorized oneManager "a.b").services with
    managers := oneManager.services.managers.addRegManager "k" "t" }
  contacts := contacts

theorem managerConnected_reachable : Reachable Codec.api "" managerConnected := by
  have hreply : Managers.connectReply .calm (authorized oneManager "a.b").services.managers
      (profileTask connectManager "t" "managers" "connect" "a") =
      .ok (oneManager.services.managers.addRegManager "k" "t", .ok (.boolean true)) := rfl
  have hdelivered : Run Codec.api "" (fun _ _ _ => True) ⟨oneManager, []⟩ _ :=
    connectManager_delivers (fun _ _ _ => trivial) "t"
  have hconnected := hdelivered.handle_single .calm trivial (handle_connect rfl hreply)
  exact ⟨oneManager, [], oneManager_initial, hconnected.handle_single .calm trivial rfl⟩

/-- The row of the manager `k`. -/
def managerRow : ManagerRow := { profileLogin := .bind "a", name := .bind "k", key := .bind "k" }

/-- A task of the profile `c` about the manager `k`. -/
def foreignTask (command : String) : Task :=
  profileTask { connectManager with method := "managers." ++ command } "s" "managers" command "c"

/-- A connect of a foreign manager is refused, and does nothing to it. -/
theorem untouched_iff_spares_connect :
    ∃ out, handle Codec.api "" .calm managerConnected (managersMessage .router "connect" (foreignTask "connect")) =
        .ok (managerConnected, out) ∧
      Untouched managerRow managerConnected managerConnected out := by
  have hreply : Managers.connectReply .calm managerConnected.services.managers
      (foreignTask "connect") =
      .ok (managerConnected.services.managers, .failed "manager not found") := rfl
  have hhandle : handle Codec.api "" .calm managerConnected
      (managersMessage .router "connect" (foreignTask "connect")) = .ok (managerConnected, _) :=
    handle_connect rfl hreply
  refine ⟨_, hhandle, (untouched_iff_spares Codec.api "" .calm managerConnected managerConnected .router "connect"
    (foreignTask "connect") _ managerRow managerConnected_reachable (by decide) (by decide) hhandle).mpr ?_⟩
  refine ⟨fun hacts => absurd hacts.1 (by decide), fun id hid => ⟨?_, by simp⟩⟩
  obtain rfl : "t" = id := Option.some.inj hid
  simp [Targets, foreignTask, profileTask]

/-- A disconnect of a foreign manager ends its registration. -/
theorem foreignDisconnect_touches :
    ∃ n', handle Codec.api "" .calm managerConnected
        (managersMessage .router "disconnect" (foreignTask "disconnect")) = .ok (n', []) ∧
      ¬ Untouched managerRow managerConnected n' [] := by
  refine ⟨_, rfl, fun h => ?_⟩
  exact absurd h.registration (by decide)

end StreamCloud.Platform
