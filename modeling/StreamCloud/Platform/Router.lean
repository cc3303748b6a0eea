-- SUMMARY: The router of the platform, which takes frames from sessions and tasks from the profile service.
import StreamCloud.Manager.Router

/-!
# router

`stream-platform/src/router.cpp`.
-/

namespace StreamCloud.Platform.Router

variable {α : Type}

def serviceList : List String := ["profile", "managers", "manager"]

def questMethodList : List String := ["profile.signup", "profile.login", "manager.info"]

variable (J : Codec)

/-- The task of a request for a handler of a service. -/
def task (request : RequestMessage) (id serviceName methodName : String) : Task :=
  let task : Task := { request, transportId := id, storage := ∅ }
  (task.emplace "service.name" serviceName).emplace "service.method" methodName

/-- A request frame, read as a task. -/
def request (ctx : Ctx α) (id : String) (message : JsonMap) : Except Fault (List (Envelope α)) := do
  let (request, _) ← message.parseRequest
  -- for a manager no profile is asked for, and the method is not read
  if request.metadata.contains "manager-key" then
    ctx.send "managers" "request" (.task { request, transportId := id, storage := ∅ })
  else
    match split request.method with
    | serviceName :: methodName :: _ =>
      let task := task request id serviceName methodName
      if request.metadata.contains "profile-key" then
        ctx.send "profile" "auth" (.task task)
      else if request.method ∈ questMethodList then
        ctx.send serviceName methodName (.task task)
      else
        ctx.respond J task (.failed "access is denied")
    | _ =>
      ctx.respond J { request, transportId := id, storage := ∅ }
        (.failed "not specified correctly method")

/-- Responses and notifications go to the same handler. -/
def dispatcher : Handler α Unit Transport := fun _ ctx s transport => do
  let ws ← transport.asWebSocket
  let message ← J.parse ws.body
  if message.isRequest then
    return (s, ← request J ctx ws.id message)
  else if message.isResponse then
    return (s, ← ctx.send "managers" "response"
      (.transport (.webSocket { id := ws.id, body := J.print message })))
  else if message.isNotify then
    return (s, ← ctx.send "managers" "response"
      (.transport (.webSocket { id := ws.id, body := J.print message })))
  else
    return (s, [])

def service : Handler α Unit Task := fun _ ctx s task => do
  let serviceName := task.stored "service.name"
  let methodName := task.stored "service.method"
  if serviceName ∈ serviceList then
    let service ← ctx.addresses serviceName
    -- every handler of the service is meant, also those for other actors
    if methodName ∈ ctx.messageTypes service then
      return (s, ← ctx.send serviceName methodName (.task task))
    else
      return (s, ← ctx.respond J task (.failed "method not found"))
  else
    return (s, ← ctx.respond J task (.failed "service not found"))

def error : Handler α Unit Transport := fun _ ctx s transport => do
  return (s, ← ctx.socketError transport)

def handlers : List (String × Action α Unit) :=
  [("dispatcher", .transport (dispatcher J)), ("service", .task (service J)),
    ("error", .transport error)]

/-! ## The task of a request -/

section Fields

variable {request : RequestMessage} {id serviceName methodName : String}

@[simp] theorem request_task : (task request id serviceName methodName).request = request := rfl

@[simp] theorem transportId_task : (task request id serviceName methodName).transportId = id := rfl

@[simp] theorem stored_task_name :
    (task request id serviceName methodName).stored "service.name" = serviceName := rfl

@[simp] theorem stored_task_method :
    (task request id serviceName methodName).stored "service.method" = methodName := rfl

end Fields

/-! ## What is sent -/

/-- The messages of the router, except for the tasks that `service` dispatches. -/
inductive Sent : String → String → String → Body α → Prop
  | write (handler : String) (ws : WebSocket) :
      Sent handler "ws" "write" (.transport (.webSocket ws))
  | remove (ws : WebSocket) : Sent "error" "ws" "remove" (.transport (.webSocket ws))
  | close (ws : WebSocket) : Sent "error" "ws" "close" (.transport (.webSocket ws))
  | request (task : Task) : Sent "dispatcher" "managers" "request" (.task task)
  | auth (task : Task) : Sent "dispatcher" "profile" "auth" (.task task)
  | signup (task : Task) : Sent "dispatcher" "profile" "signup" (.task task)
  | login (task : Task) : Sent "dispatcher" "profile" "login" (.task task)
  | info (task : Task) : Sent "dispatcher" "manager" "info" (.task task)
  | response (ws : WebSocket) : Sent "dispatcher" "managers" "response" (.transport (.webSocket ws))

theorem Sent.name_of_task {handler name command : String} {task : Task}
    (h : Sent (α := α) handler name command (.task task)) : name ∈ serviceList := by
  cases h <;> decide

/-- The guest methods name three handlers. -/
theorem quest_sends {method serviceName methodName : String} {rest : List String}
    (hsplit : split method = serviceName :: methodName :: rest) (h : method ∈ questMethodList)
    (task : Task) : Sent (α := α) "dispatcher" serviceName methodName (.task task) := by
  have hsignup : split "profile.signup" = ["profile", "signup"] := by decide
  have hlogin : split "profile.login" = ["profile", "login"] := by decide
  have hinfo : split "manager.info" = ["manager", "info"] := by decide
  simp only [questMethodList, List.mem_cons, List.not_mem_nil, or_false] at h
  rcases h with rfl | rfl | rfl
  · rw [hsignup] at hsplit
    cases hsplit
    exact .signup task
  · rw [hlogin] at hsplit
    cases hsplit
    exact .login task
  · rw [hinfo] at hsplit
    cases hsplit
    exact .info task

/-- The handlers of the guest methods. -/
def Guest (name command : String) : Prop :=
  name = "profile" ∧ command ∈ ["signup", "login"] ∨ name = "manager" ∧ command = "info"

theorem guest_of_quest {method serviceName methodName : String} {rest : List String}
    (hsplit : split method = serviceName :: methodName :: rest) (h : method ∈ questMethodList) :
    Guest serviceName methodName := by
  have hsignup : split "profile.signup" = ["profile", "signup"] := by decide
  have hlogin : split "profile.login" = ["profile", "login"] := by decide
  have hinfo : split "manager.info" = ["manager", "info"] := by decide
  simp only [questMethodList, List.mem_cons, List.not_mem_nil, or_false] at h
  rcases h with rfl | rfl | rfl
  · rw [hsignup] at hsplit
    cases hsplit
    exact .inl ⟨rfl, by simp⟩
  · rw [hlogin] at hsplit
    cases hsplit
    exact .inl ⟨rfl, by simp⟩
  · rw [hinfo] at hsplit
    cases hsplit
    exact .inr ⟨rfl, rfl⟩

theorem request_sends (ctx : Ctx α) (id : String) (message : JsonMap) :
    (request J ctx id message).Ensures (ctx.Sends (Sent "dispatcher")) := by
  unfold request
  refine Except.ensures_bind.mpr fun r _ => ?_
  refine Except.ensures_ite (fun _ => Ctx.send_sends (.request _)) fun _ => ?_
  split
  · next serviceName methodName _ hsplit =>
    refine Except.ensures_ite (fun _ => Ctx.send_sends (.auth _)) fun _ => ?_
    exact Except.ensures_ite (fun hquest => Ctx.send_sends (quest_sends hsplit hquest _))
      fun _ => Ctx.respond_sends (Sent.write _)
  · exact Ctx.respond_sends (Sent.write _)

/-- A request with a profile key goes to `profile.auth`. -/
theorem dispatcher_of_profileKey {env : Env} {ctx : Ctx α} {s : Unit} {ws : WebSocket}
    {request : RequestMessage} {serviceName methodName : String} {rest : List String} {profile : α}
    (hreads : J.ReadsRequest ws.body request)
    (hmanager : request.metadata.contains "manager-key" = false)
    (hsplit : split request.method = serviceName :: methodName :: rest)
    (hkey : request.metadata.contains "profile-key")
    (hprofile : ctx.contacts.lookup "profile" = some profile) :
    dispatcher J env ctx s (.webSocket ws) = .ok (s, [{
      dest := profile
      sender := ctx.self
      command := "auth"
      body := .task (task request ws.id serviceName methodName) }]) := by
  obtain ⟨message, m', hparse, hrequest, hread⟩ := hreads
  simp only [dispatcher, Transport.asWebSocket_webSocket, Except.ok_bind', hparse, if_pos hrequest,
    Router.request, hread, hmanager, hsplit, if_pos hkey, Ctx.send_of_contact hprofile]
  rfl

/-- A request without a key is refused, but for the guest methods. -/
theorem dispatcher_of_noKey {env : Env} {ctx : Ctx α} {s : Unit} {ws : WebSocket}
    {request : RequestMessage} {serviceName methodName : String} {rest : List String} {server : α}
    (hreads : J.ReadsRequest ws.body request)
    (hmanager : request.metadata.contains "manager-key" = false)
    (hsplit : split request.method = serviceName :: methodName :: rest)
    (hkey : request.metadata.contains "profile-key" = false)
    (hquest : request.method ∉ questMethodList) (hws : ctx.contacts.lookup "ws" = some server) :
    dispatcher J env ctx s (.webSocket ws) = .ok (s, [ctx.response J server
      (task request ws.id serviceName methodName) (.failed "access is denied")]) := by
  obtain ⟨message, m', hparse, hrequest, hread⟩ := hreads
  simp only [dispatcher, Transport.asWebSocket_webSocket, Except.ok_bind', hparse, if_pos hrequest,
    Router.request, hread, hmanager, hsplit, hkey, if_neg hquest, Ctx.respond_of_contact hws]
  rfl

/-- A request without a key for a guest method goes to the service that it names. -/
theorem dispatcher_of_quest {env : Env} {ctx : Ctx α} {s : Unit} {ws : WebSocket}
    {request : RequestMessage} {serviceName methodName : String} {rest : List String} {service : α}
    (hreads : J.ReadsRequest ws.body request)
    (hmanager : request.metadata.contains "manager-key" = false)
    (hsplit : split request.method = serviceName :: methodName :: rest)
    (hkey : request.metadata.contains "profile-key" = false)
    (hquest : request.method ∈ questMethodList)
    (hservice : ctx.contacts.lookup serviceName = some service) :
    dispatcher J env ctx s (.webSocket ws) = .ok (s, [{
      dest := service
      sender := ctx.self
      command := methodName
      body := .task (task request ws.id serviceName methodName) }]) := by
  obtain ⟨message, m', hparse, hrequest, hread⟩ := hreads
  simp only [dispatcher, Transport.asWebSocket_webSocket, Except.ok_bind', hparse, if_pos hrequest,
    Router.request, hread, hmanager, hsplit, hkey, if_pos hquest, Ctx.send_of_contact hservice]
  rfl

/-- A task that the dispatcher gives to `profile.auth` is that of the request it read. -/
theorem dispatcher_auth {env : Env} {ctx : Ctx α} {s s' : Unit} {transport : Transport}
    {out : List (Envelope α)} {e : Envelope α} (h : dispatcher J env ctx s transport = .ok (s', out))
    (he : e ∈ out) (hauth : e.command = "auth") :
    ∃ ws request serviceName methodName rest, transport = .webSocket ws ∧
      J.ReadsRequest ws.body request ∧ request.metadata.contains "manager-key" = false ∧
      split request.method = serviceName :: methodName :: rest ∧
      e.body = .task (task request ws.id serviceName methodName) := by
  obtain ⟨ws, hws, h⟩ := Except.bind_eq_ok.mp h
  obtain ⟨message, hparse, h⟩ := Except.bind_eq_ok.mp h
  split at h
  · next hrequest =>
    obtain ⟨out', hout, heq⟩ := Except.bind_eq_ok.mp h
    obtain rfl : out' = out := (Prod.mk.inj (Except.ok.inj heq)).2
    obtain ⟨⟨request, m'⟩, hread, hout⟩ := Except.bind_eq_ok.mp hout
    dsimp only at hout
    split at hout
    · exact absurd ((Ctx.of_mem_send hout he).1.symm.trans hauth) (by decide)
    · next hmanager =>
      split at hout
      · next serviceName methodName rest hsplit =>
        refine ⟨ws, request, serviceName, methodName, rest, Transport.asWebSocket_eq_ok.mp hws,
          ⟨message, m', hparse, hrequest, hread⟩, by simpa using hmanager, hsplit, ?_⟩
        split at hout
        · exact (Ctx.of_mem_send hout he).2
        · split at hout
          · exact (Ctx.of_mem_send hout he).2
          · exact absurd ((Ctx.of_mem_send hout he).1.symm.trans hauth) (by decide)
      · exact absurd ((Ctx.of_mem_send hout he).1.symm.trans hauth) (by decide)
  · have hother : ∀ command ws', command ≠ "auth" →
        (do return (s, ← ctx.send "managers" command (.transport (.webSocket ws'))) :
          Except Fault (Unit × List (Envelope α))) = .ok (s', out) → False := by
      intro command ws' hne hsend
      obtain ⟨out', hout, heq⟩ := Except.bind_eq_ok.mp hsend
      obtain rfl : out' = out := (Prod.mk.inj (Except.ok.inj heq)).2
      exact hne ((Ctx.of_mem_send hout he).1.symm.trans hauth)
    split at h
    · exact (hother _ _ (by decide) h).elim
    · split at h
      · exact (hother _ _ (by decide) h).elim
      · cases h
        cases he

/-- The dispatcher answers a request or makes a task of it, for a guest when it has
no key. Any other frame it hands on to the managers service. -/
theorem dispatcher_cases {env : Env} {ctx : Ctx α} {s s' : Unit} {ws : WebSocket}
    {out : List (Envelope α)} (h : dispatcher J env ctx s (.webSocket ws) = .ok (s', out)) :
    (∃ request, J.ReadsRequest ws.body request ∧
      ((∃ reply : Reply, ctx.writeTo ws.id ((reply.message request.id).serialize J) = .ok out) ∨
        ∃ name command task, task.request = request ∧ task.transportId = ws.id ∧
          (request.metadata.contains "manager-key" = false →
            request.metadata.contains "profile-key" = false → Guest name command) ∧
          ctx.send name command (.task task) = .ok out)) ∨
    ∃ message, J.parse ws.body = .ok message ∧ message.isRequest = false ∧
      ctx.send "managers" "response"
        (.transport (.webSocket { id := ws.id, body := J.print message })) = .ok out := by
  simp only [dispatcher, Transport.asWebSocket_webSocket, Except.ok_bind'] at h
  obtain ⟨message, hparse, h⟩ := Except.bind_eq_ok.mp h
  split at h
  · next hrequest =>
    obtain ⟨out', hout, heq⟩ := Except.bind_eq_ok.mp h
    cases heq
    obtain ⟨⟨request, m'⟩, hread, hout⟩ := Except.bind_eq_ok.mp hout
    refine .inl ⟨request, ⟨message, m', hparse, hrequest, hread⟩, ?_⟩
    dsimp only at hout
    split at hout
    · next hmanager =>
      exact .inr ⟨_, _, _, rfl, rfl, fun hnot => (Bool.false_ne_true (hnot.symm.trans hmanager)).elim, hout⟩
    · split at hout
      · next hsplit =>
        split at hout
        · next hprofile =>
          exact .inr ⟨_, _, _, rfl, rfl,
            fun _ hnot => (Bool.false_ne_true (hnot.symm.trans hprofile)).elim, hout⟩
        · split at hout
          · next hquest => exact .inr ⟨_, _, _, rfl, rfl, fun _ _ => guest_of_quest hsplit hquest, hout⟩
          · exact .inl ⟨_, hout⟩
      · exact .inl ⟨_, hout⟩
  · next hrequest =>
    have hrequest : message.isRequest = false := by simpa using hrequest
    refine .inr ⟨message, hparse, hrequest, ?_⟩
    split at h
    · obtain ⟨out', hout, heq⟩ := Except.bind_eq_ok.mp h
      cases heq
      exact hout
    · next hresponse =>
      have hresponse' : message.isResponse = false := by simpa using hresponse
      rw [if_pos (JsonMap.isNotify_of_not hrequest hresponse')] at h
      obtain ⟨out', hout, heq⟩ := Except.bind_eq_ok.mp h
      cases heq
      exact hout

/-- A task that the dispatcher makes belongs to nobody yet. -/
theorem dispatcher_noLogin (env : Env) (ctx : Ctx α) (s : Unit) (transport : Transport) :
    (dispatcher J env ctx s transport).Ensures fun r => ∀ e ∈ r.2, ∀ task, e.body = .task task →
      task.storage.lookup "profile.login" = none := by
  have hsend {name command : String} {body : Body α}
      (hbody : ∀ task, body = .task task → task.storage.lookup "profile.login" = none) :
      (ctx.send name command body).Ensures fun out => ∀ e ∈ out, ∀ task, e.body = .task task →
        task.storage.lookup "profile.login" = none := by
    intro out hout e he task htask
    exact hbody task ((Ctx.of_mem_send hout he).2.symm.trans htask)
  have hnew (request : RequestMessage) (id serviceName methodName : String) (task' : Task)
      (h : Body.task (α := α) (task request id serviceName methodName) = .task task') :
      task'.storage.lookup "profile.login" = none := by
    cases h
    simp [task, Task.emplace, AList.lookup_emplace_ne]
  have hrespond {name command : String} {ws : WebSocket} :
      (ctx.send name command (.transport (.webSocket ws))).Ensures fun out => ∀ e ∈ out, ∀ task,
        e.body = .task task → task.storage.lookup "profile.login" = none := by
    apply hsend
    intro _ h
    cases h
  unfold dispatcher
  refine Except.ensures_bind.mpr fun _ _ => Except.ensures_bind.mpr fun _ _ => ?_
  refine Except.ensures_ite (fun _ => ?_) fun _ => Except.ensures_ite (fun _ => ?_) fun _ =>
    Except.ensures_ite (fun _ => ?_) fun _ => Except.ensures_ok.mpr (by simp)
  · refine Except.Ensures.andThen (P := fun out => ∀ e ∈ out, ∀ task, e.body = .task task →
      task.storage.lookup "profile.login" = none) ?_ fun _ hout => Except.ensures_ok.mpr hout
    unfold Router.request
    refine Except.ensures_bind.mpr fun r _ => Except.ensures_ite (fun _ => ?_) fun _ => ?_
    · apply hsend
      intro task h
      cases h
      rfl
    · split
      · refine Except.ensures_ite (fun _ => hsend (hnew _ _ _ _)) fun _ => ?_
        exact Except.ensures_ite (fun _ => hsend (hnew _ _ _ _)) fun _ => hrespond
      · exact hrespond
  · exact hrespond.andThen fun _ hout => Except.ensures_ok.mpr hout
  · exact hrespond.andThen fun _ hout => Except.ensures_ok.mpr hout

theorem dispatcher_sends (env : Env) (ctx : Ctx α) (s : Unit) (transport : Transport) :
    (dispatcher J env ctx s transport).Ensures fun r => ctx.Sends (Sent "dispatcher") r.2 := by
  unfold dispatcher
  refine Except.ensures_bind.mpr fun _ _ => Except.ensures_bind.mpr fun _ _ => ?_
  refine Except.ensures_ite (fun _ => ?_) fun _ => Except.ensures_ite (fun _ => ?_) fun _ =>
    Except.ensures_ite (fun _ => ?_) fun _ => Except.ensures_ok.mpr Ctx.sends_nil
  · exact (request_sends J ctx _ _).andThen fun _ hout => Except.ensures_ok.mpr hout
  · exact Ctx.send_sends_return (.response _)
  · exact Ctx.send_sends_return (.response _)

/-- A task that the router dispatches to the handler it names. -/
structure Dispatches (ctx : Ctx α) (task : Task) (dest : α) : Prop where
  listed : task.stored "service.name" ∈ serviceList
  contact : ctx.contacts.lookup (task.stored "service.name") = some dest
  method : task.stored "service.method" ∈ ctx.messageTypes dest

/-- `service` dispatches what it may dispatch. -/
theorem service_of_dispatches {env : Env} {ctx : Ctx α} {s : Unit} {task : Task} {dest : α}
    (h : Dispatches ctx task dest) :
    service J env ctx s task =
      .ok (s, [{ dest, sender := ctx.self, command := task.stored "service.method",
                 body := .task task }]) := by
  unfold service
  simp only [if_pos h.listed, Ctx.addresses_eq_ok.mpr h.contact, Except.ok_bind', if_pos h.method,
    Ctx.send_of_contact h.contact]
  rfl

/-- `service` answers with an error, or dispatches the task. -/
theorem service_cases {env : Env} {ctx : Ctx α} {s s' : Unit} {task : Task}
    {out : List (Envelope α)} (h : service J env ctx s task = .ok (s', out)) :
    ctx.Sends (Sent "service") out ∨ ∃ dest, Dispatches ctx task dest ∧
      out = [{ dest, sender := ctx.self, command := task.stored "service.method",
               body := .task task }] := by
  unfold service at h
  dsimp only at h
  split at h
  · next hlisted =>
    obtain ⟨dest, hdest, h⟩ := Except.bind_eq_ok.mp h
    rw [Ctx.addresses_eq_ok] at hdest
    split at h
    · next hmethod =>
      rw [Ctx.send_of_contact hdest] at h
      cases h
      exact .inr ⟨dest, ⟨hlisted, hdest, hmethod⟩, rfl⟩
    · exact .inl (Ctx.respond_sends_return (Sent.write _) _ h)
  · exact .inl (Ctx.respond_sends_return (Sent.write _) _ h)

theorem error_sends (env : Env) (ctx : Ctx α) (s : Unit) (transport : Transport) :
    (error env ctx s transport).Ensures fun r => ctx.Sends (Sent "error") r.2 :=
  (Ctx.socketError_sends Sent.remove Sent.close).andThen fun _ hout => Except.ensures_ok.mpr hout

theorem sends_or_dispatches {env : Env} {ctx : Ctx α} {s s' : Unit} {command : String}
    {action : Action α Unit} {body : Body α} {out : List (Envelope α)}
    (hmem : (command, action) ∈ handlers J) (h : Action.Ran env ctx s action body (s', out)) :
    ctx.Sends (Sent command) out ∨ command = "service" ∧ ∃ task dest, body = .task task ∧
      Dispatches ctx task dest ∧
      out = [{ dest, sender := ctx.self, command := task.stored "service.method",
               body := .task task }] := by
  simp only [handlers, List.mem_cons, Prod.mk.injEq, List.not_mem_nil, or_false] at hmem
  rcases hmem with ⟨rfl, rfl⟩ | ⟨rfl, rfl⟩ | ⟨rfl, rfl⟩ <;> cases h with | _ h
  · exact .inl (dispatcher_sends J env ctx s _ _ h)
  · rcases service_cases J h with hsends | ⟨dest, hdispatches, hout⟩
    · exact .inl hsends
    · exact .inr ⟨rfl, _, dest, rfl, hdispatches, hout⟩
  · exact .inl (error_sends env ctx s _ _ h)

end StreamCloud.Platform.Router
