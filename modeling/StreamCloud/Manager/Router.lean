-- SUMMARY: The router of the manager, which takes frames from sessions and tasks from the users service.
import StreamCloud.Core.Service

/-!
# router

`stream-manager/src/router.cpp`.
-/

namespace StreamCloud

/-- The keys of the configuration. -/
structure Config where
  profileKey : String
  managerKey : String

/-- `error` of the routers: a session whose other side is gone is removed, any
other one is closed. -/
def Ctx.socketError {α : Type} (ctx : Ctx α) (transport : Transport) :
    Except Fault (List (Envelope α)) := do
  let error ← transport.asError
  let command :=
    if error.code = .connectionReset ∨ error.code = .notConnected ∨ error.code = .closed then
      "remove"
    else "close"
  ctx.send "ws" command (.transport (.webSocket { id := error.id, body := "" }))

theorem Ctx.socketError_sends {α : Type} {ctx : Ctx α} {transport : Transport}
    {kinds : String → String → Body α → Prop}
    (hremove : ∀ ws, kinds "ws" "remove" (.transport (.webSocket ws)))
    (hclose : ∀ ws, kinds "ws" "close" (.transport (.webSocket ws))) :
    (ctx.socketError transport).Ensures (ctx.Sends kinds) := by
  refine Except.ensures_bind.mpr fun e _ => ?_
  dsimp only
  split
  · exact Ctx.send_sends (hremove _)
  · exact Ctx.send_sends (hclose _)

namespace Manager.Router

variable {α : Type}

def serviceList : List String :=
  ["users", "devices", "groups", "subscriptions", "connections", "devices"]

def questMethodList : List String := ["users.login", "manager.info"]

def userMethodList : List String :=
  ["devices.list", "devices.control", "devices.detail", "devices.subscribe",
    "subscriptions.devices", "devices.unsubscribe", "connections.subscribe",
    "connections.unsubscribe"]

variable (J : Codec)

/-- The task of a request for a handler of a service. -/
def task (config : Config) (request : RequestMessage) (id serviceName methodName : String) : Task :=
  let task : Task := { request, transportId := id, storage := ∅ }
  ((task.emplace "service.name" serviceName).emplace "service.method" methodName).emplace
    "profile.key" config.profileKey

/-- A request frame, read as a task. -/
def request (config : Config) (ctx : Ctx α) (id : String) (message : JsonMap) :
    Except Fault (List (Envelope α)) := do
  let (request, _) ← message.parseRequest
  match split request.method with
  | serviceName :: methodName :: _ =>
    let task := task config request id serviceName methodName
    -- whether the service or the method exists is not looked at yet
    if request.metadata.contains "user-key" then
      ctx.send "users" "auth" (.task task)
    else if request.method ∈ questMethodList then
      ctx.send serviceName methodName (.task task)
    else
      ctx.respond J task (.failed "access is denied")
  | _ =>
    ctx.respond J { request, transportId := id, storage := ∅ }
      (.failed "not specified correctly method")

def dispatcher (config : Config) : Handler α Unit Transport := fun _ ctx s transport => do
  let ws ← transport.asWebSocket
  let message ← J.parse ws.body
  if message.isRequest then
    return (s, ← request J config ctx ws.id message)
  else if message.isResponse then
    return (s, ← ctx.send "devices" "response"
      (.transport (.webSocket { id := ws.id, body := J.print message })))
  else if message.isNotify then
    return (s, ← ctx.send "devices" "notify"
      (.transport (.webSocket { id := ws.id, body := J.print message })))
  else
    return (s, [])

def service : Handler α Unit Task := fun _ ctx s task => do
  let serviceName := task.stored "service.name"
  let methodName := task.stored "service.method"
  if serviceName ∈ serviceList then
    -- a listed service that is not a contact throws
    let service ← ctx.addresses serviceName
    -- every handler of the service is meant, also those for other actors
    if methodName ∈ ctx.messageTypes service then
      if task.stored "user.admin" = "1" ∨ task.request.method ∈ userMethodList then
        return (s, ← ctx.send serviceName methodName (.task task))
      else
        return (s, ← ctx.respond J task (.failed "permission denied"))
    else
      return (s, ← ctx.respond J task (.failed "method not found"))
  else
    return (s, ← ctx.respond J task (.failed "service not found"))

def error : Handler α Unit Transport := fun _ ctx s transport => do
  return (s, ← ctx.socketError transport)

def handlers (config : Config) : List (String × Action α Unit) :=
  [("dispatcher", .transport (dispatcher J config)), ("service", .task (service J)),
    ("error", .transport error)]

/-! ## The task of a request -/

section Fields

variable {config : Config} {request : RequestMessage} {id serviceName methodName : String}

@[simp] theorem request_task :
    (task config request id serviceName methodName).request = request := rfl

@[simp] theorem transportId_task :
    (task config request id serviceName methodName).transportId = id := rfl

@[simp] theorem stored_task_name :
    (task config request id serviceName methodName).stored "service.name" = serviceName := rfl

@[simp] theorem stored_task_method :
    (task config request id serviceName methodName).stored "service.method" = methodName := rfl

theorem names_task : (task config request id serviceName methodName).Names serviceName methodName := ⟨rfl, rfl⟩

@[simp] theorem stored_task_profileKey :
    (task config request id serviceName methodName).stored "profile.key" = config.profileKey := rfl

end Fields

/-! ## What is sent -/

/-- The messages of the router, except for the tasks that `service` dispatches. -/
inductive Sent : String → String → String → Body α → Prop
  | write (handler : String) (ws : WebSocket) :
      Sent handler "ws" "write" (.transport (.webSocket ws))
  | remove (ws : WebSocket) : Sent "error" "ws" "remove" (.transport (.webSocket ws))
  | close (ws : WebSocket) : Sent "error" "ws" "close" (.transport (.webSocket ws))
  | auth (task : Task) : Sent "dispatcher" "users" "auth" (.task task)
  | login (task : Task) : Sent "dispatcher" "users" "login" (.task task)
  | info (task : Task) : Sent "dispatcher" "manager" "info" (.task task)
  | response (ws : WebSocket) : Sent "dispatcher" "devices" "response" (.transport (.webSocket ws))
  | notify (ws : WebSocket) : Sent "dispatcher" "devices" "notify" (.transport (.webSocket ws))

theorem Sent.task_of_auth {handler name command : String} {body : Body α}
    (h : Sent handler name command body) (hauth : command = "auth") : ∃ task, body = .task task := by
  cases h with
  | auth task => exact ⟨task, rfl⟩
  | _ => exact absurd hauth (by decide)

theorem Sent.dispatcher_of_task {handler name command : String} {task : Task}
    (h : Sent (α := α) handler name command (.task task)) : handler = "dispatcher" := by
  cases h <;> rfl

theorem Sent.name_of_task {handler name command : String} {task : Task}
    (h : Sent (α := α) handler name command (.task task)) : name = "users" ∨ name = "manager" := by
  cases h with
  | auth => exact .inl rfl
  | login => exact .inl rfl
  | info => exact .inr rfl

/-- The guest methods name two handlers. -/
theorem quest_sends {method serviceName methodName : String} {rest : List String}
    (hsplit : split method = serviceName :: methodName :: rest) (h : method ∈ questMethodList)
    (task : Task) : Sent (α := α) "dispatcher" serviceName methodName (.task task) := by
  have hlogin : split "users.login" = ["users", "login"] := by decide
  have hinfo : split "manager.info" = ["manager", "info"] := by decide
  rcases List.mem_cons.mp h with rfl | h
  · rw [hlogin] at hsplit
    cases hsplit
    exact .login task
  · obtain rfl := List.mem_singleton.mp h
    rw [hinfo] at hsplit
    cases hsplit
    exact .info task

theorem request_sends (config : Config) (ctx : Ctx α) (id : String) (message : JsonMap) :
    (request J config ctx id message).Ensures (ctx.Sends (Sent "dispatcher")) := by
  unfold request
  refine Except.ensures_bind.mpr fun r _ => ?_
  dsimp only
  split
  · next serviceName methodName _ hsplit =>
    refine Except.ensures_ite (fun _ => Ctx.send_sends (.auth _)) fun _ => ?_
    exact Except.ensures_ite (fun hquest => Ctx.send_sends (quest_sends hsplit hquest _))
      fun _ => Ctx.respond_sends (Sent.write _)
  · exact Ctx.respond_sends (Sent.write _)

/-- A request with a user key goes to `users.auth`. -/
theorem dispatcher_of_userKey {config : Config} {env : Env} {ctx : Ctx α} {s : Unit}
    {ws : WebSocket} {request : RequestMessage} {serviceName methodName : String}
    {rest : List String} {users : α} (hreads : J.ReadsRequest ws.body request)
    (hsplit : split request.method = serviceName :: methodName :: rest)
    (hkey : request.metadata.contains "user-key")
    (husers : ctx.contacts.lookup "users" = some users) :
    dispatcher J config env ctx s (.webSocket ws) = .ok (s, [{
      dest := users
      sender := ctx.self
      command := "auth"
      body := .task (task config request ws.id serviceName methodName) }]) := by
  obtain ⟨message, m', hparse, hrequest, hread⟩ := hreads
  simp only [dispatcher, Transport.asWebSocket_webSocket, Except.ok_bind', hparse, if_pos hrequest,
    Router.request, hread, hsplit, if_pos hkey, Ctx.send_of_contact husers]
  rfl

/-- A task that the dispatcher sends is that of the request it read. With a user
key it goes to `users.auth`, without one it is a guest's. -/
theorem dispatcher_task {config : Config} {env : Env} {ctx : Ctx α} {s s' : Unit}
    {transport : Transport} {out : List (Envelope α)} {e : Envelope α} {task : Task}
    (h : dispatcher J config env ctx s transport = .ok (s', out)) (he : e ∈ out)
    (htask : e.body = .task task) :
    ∃ ws request serviceName methodName rest, transport = .webSocket ws ∧
      J.ReadsRequest ws.body request ∧ split request.method = serviceName :: methodName :: rest ∧
      task = Router.task config request ws.id serviceName methodName ∧
      (request.metadata.contains "user-key" ∧ ctx.contacts.lookup "users" = some e.dest ∧
          e.command = "auth" ∨
        ¬ request.metadata.contains "user-key" ∧ request.method ∈ questMethodList ∧
          ctx.contacts.lookup serviceName = some e.dest ∧ e.command = methodName) := by
  have hother : ∀ {name command transport out'}, e ∈ out' →
      ctx.send name command (.transport transport) = .ok out' → False := by
    intro name command transport out' he' hsend
    rw [(Ctx.of_mem_send hsend he').2] at htask
    cases htask
  obtain ⟨ws, hws, h⟩ := Except.bind_eq_ok.mp h
  obtain ⟨message, hparse, h⟩ := Except.bind_eq_ok.mp h
  split at h
  · next hrequest =>
    obtain ⟨out', hout, heq⟩ := Except.bind_eq_ok.mp h
    obtain rfl : out' = out := (Prod.mk.inj (Except.ok.inj heq)).2
    obtain ⟨⟨request, m'⟩, hread, hout⟩ := Except.bind_eq_ok.mp hout
    dsimp only at hout
    split at hout
    · next serviceName methodName rest hsplit =>
      have htaken : ∀ {name command} {sent : Task}, ctx.send name command (.task sent) = .ok out' →
          ctx.contacts.lookup name = some e.dest ∧ e.command = command ∧ task = sent := by
        intro name command sent hsend
        obtain ⟨dest, hdest, rfl⟩ := Ctx.send_eq_ok.mp hsend
        obtain rfl := List.mem_singleton.mp he
        cases htask
        exact ⟨hdest, rfl, rfl⟩
      refine ⟨ws, request, serviceName, methodName, rest, Transport.asWebSocket_eq_ok.mp hws,
        ⟨message, m', hparse, hrequest, hread⟩, hsplit, ?_⟩
      split at hout
      · next hkey =>
        obtain ⟨hdest, hcommand, rfl⟩ := htaken hout
        exact ⟨rfl, .inl ⟨hkey, hdest, hcommand⟩⟩
      · next hkey =>
        split at hout
        · next hquest =>
          obtain ⟨hdest, hcommand, rfl⟩ := htaken hout
          exact ⟨rfl, .inr ⟨hkey, hquest, hdest, hcommand⟩⟩
        · exact (hother he hout).elim
    · exact (hother he hout).elim
  · split at h
    · obtain ⟨out', hout, heq⟩ := Except.bind_eq_ok.mp h
      obtain rfl : out' = out := (Prod.mk.inj (Except.ok.inj heq)).2
      exact (hother he hout).elim
    · split at h
      · obtain ⟨out', hout, heq⟩ := Except.bind_eq_ok.mp h
        obtain rfl : out' = out := (Prod.mk.inj (Except.ok.inj heq)).2
        exact (hother he hout).elim
      · cases h
        cases he

/-- The dispatcher answers a request or makes a task of it. Any other frame it
hands on to the devices service. -/
theorem dispatcher_cases {config : Config} {env : Env} {ctx : Ctx α} {s s' : Unit} {ws : WebSocket}
    {out : List (Envelope α)} (h : dispatcher J config env ctx s (.webSocket ws) = .ok (s', out)) :
    (∃ request, J.ReadsRequest ws.body request ∧
      ((∃ reply : Reply, ctx.writeTo ws.id ((reply.message request.id).serialize J) = .ok out) ∨
        ∃ name command task, task.request = request ∧ task.transportId = ws.id ∧
          ctx.send name command (.task task) = .ok out)) ∨
    ∃ message, J.parse ws.body = .ok message ∧ message.isRequest = false ∧
      ctx.send "devices" (if message.isResponse then "response" else "notify")
        (.transport (.webSocket { id := ws.id, body := J.print message })) = .ok out := by
  simp only [dispatcher, Transport.asWebSocket_webSocket, Except.ok_bind'] at h
  obtain ⟨message, hparse, h⟩ := Except.bind_eq_ok.mp h
  split at h
  · next hrequest =>
    obtain ⟨out', hout, heq⟩ := Except.bind_eq_ok.mp h
    cases heq
    obtain ⟨⟨request, m'⟩, hread, hout⟩ := Except.bind_eq_ok.mp hout
    refine .inl ⟨request, ⟨message, m', hparse, hrequest, hread⟩, ?_⟩
    dsimp only at hout
    split at hout
    · split at hout
      · exact .inr ⟨_, _, _, rfl, rfl, hout⟩
      · split at hout
        · exact .inr ⟨_, _, _, rfl, rfl, hout⟩
        · exact .inl ⟨_, hout⟩
    · exact .inl ⟨_, hout⟩
  · next hrequest =>
    have hrequest : message.isRequest = false := by simpa using hrequest
    refine .inr ⟨message, hparse, hrequest, ?_⟩
    split at h
    · next hresponse =>
      obtain ⟨out', hout, heq⟩ := Except.bind_eq_ok.mp h
      cases heq
      rwa [if_pos hresponse]
    · next hresponse =>
      have hresponse' : message.isResponse = false := by simpa using hresponse
      rw [if_pos (JsonMap.isNotify_of_not hrequest hresponse')] at h
      obtain ⟨out', hout, heq⟩ := Except.bind_eq_ok.mp h
      cases heq
      rwa [if_neg hresponse]

theorem dispatcher_sends (config : Config) (env : Env) (ctx : Ctx α) (s : Unit)
    (transport : Transport) :
    (dispatcher J config env ctx s transport).Ensures fun r => ctx.Sends (Sent "dispatcher") r.2 := by
  unfold dispatcher
  refine Except.ensures_bind.mpr fun _ _ => Except.ensures_bind.mpr fun _ _ => ?_
  refine Except.ensures_ite (fun _ => ?_) fun _ => Except.ensures_ite (fun _ => ?_) fun _ =>
    Except.ensures_ite (fun _ => ?_) fun _ => Except.ensures_ok.mpr Ctx.sends_nil
  · exact (request_sends J config ctx _ _).andThen fun _ hout => Except.ensures_ok.mpr hout
  · exact Ctx.send_sends_return (.response _)
  · exact Ctx.send_sends_return (.notify _)

/-- A task that the dispatcher gives to `users.auth` is that of the request it read. -/
theorem dispatcher_auth {config : Config} {env : Env} {ctx : Ctx α} {s s' : Unit}
    {transport : Transport} {out : List (Envelope α)} {e : Envelope α}
    (h : dispatcher J config env ctx s transport = .ok (s', out)) (he : e ∈ out)
    (hauth : e.command = "auth") :
    ∃ ws request serviceName methodName rest, transport = .webSocket ws ∧
      J.ReadsRequest ws.body request ∧ split request.method = serviceName :: methodName :: rest ∧
      e.body = .task (task config request ws.id serviceName methodName) := by
  obtain ⟨-, name, -, hsent⟩ := dispatcher_sends J config env ctx s transport _ h e he
  obtain ⟨task, hbody⟩ := hsent.task_of_auth hauth
  obtain ⟨ws, request, serviceName, methodName, rest, hws, hreads, hsplit, rfl, -⟩ :=
    dispatcher_task J h he hbody
  exact ⟨ws, request, serviceName, methodName, rest, hws, hreads, hsplit, hbody⟩

/-- Who may have the task dispatched: an administrator, or everybody for the
methods of `userMethodList`. -/
def Permitted (task : Task) : Prop :=
  task.stored "user.admin" = "1" ∨ task.request.method ∈ userMethodList

/-- A task that the router dispatches to the handler it names. -/
structure Dispatches (ctx : Ctx α) (task : Task) (dest : α) : Prop where
  listed : task.stored "service.name" ∈ serviceList
  contact : ctx.contacts.lookup (task.stored "service.name") = some dest
  method : task.stored "service.method" ∈ ctx.messageTypes dest
  permitted : Permitted task

/-- `service` dispatches what it may dispatch. -/
theorem service_of_dispatches {env : Env} {ctx : Ctx α} {s : Unit} {task : Task} {dest : α}
    (h : Dispatches ctx task dest) :
    service J env ctx s task =
      .ok (s, [{ dest, sender := ctx.self, command := task.stored "service.method",
                 body := .task task }]) := by
  unfold service
  have hpermitted := h.permitted
  unfold Permitted at hpermitted
  simp only [if_pos h.listed, Ctx.addresses_eq_ok.mpr h.contact, Except.ok_bind', if_pos h.method,
    if_pos hpermitted, Ctx.send_of_contact h.contact]
  rfl

/-- `service` answers with an error, or dispatches the task. -/
theorem service_cases {env : Env} {ctx : Ctx α} {s s' : Unit} {task : Task}
    {out : List (Envelope α)} (h : service J env ctx s task = .ok (s', out)) :
    ctx.Sends (Sent "service") out ∨ ∃ dest, Dispatches ctx task dest ∧
      out = [{ dest, sender := ctx.self, command := task.stored "service.method",
               body := .task task }] := by
  unfold service at h
  dsimp only at h
  split at h
  · next hlisted =>
    obtain ⟨dest, hdest, h⟩ := Except.bind_eq_ok.mp h
    rw [Ctx.addresses_eq_ok] at hdest
    split at h
    · next hmethod =>
      split at h
      · next hpermitted =>
        rw [Ctx.send_of_contact hdest] at h
        cases h
        exact .inr ⟨dest, ⟨hlisted, hdest, hmethod, hpermitted⟩, rfl⟩
      · exact .inl (Ctx.respond_sends_return (Sent.write _) _ h)
    · exact .inl (Ctx.respond_sends_return (Sent.write _) _ h)
  · exact .inl (Ctx.respond_sends_return (Sent.write _) _ h)

theorem error_sends (env : Env) (ctx : Ctx α) (s : Unit) (transport : Transport) :
    (error env ctx s transport).Ensures fun r => ctx.Sends (Sent "error") r.2 :=
  (Ctx.socketError_sends Sent.remove Sent.close).andThen fun _ hout => Except.ensures_ok.mpr hout

theorem sends_or_dispatches {env : Env} {ctx : Ctx α} {s s' : Unit} {command : String}
    {action : Action α Unit} {body : Body α} {out : List (Envelope α)}
    (hmem : (command, action) ∈ handlers J config) (h : Action.Ran env ctx s action body (s', out)) :
    ctx.Sends (Sent command) out ∨ command = "service" ∧ ∃ task dest, body = .task task ∧
      Dispatches ctx task dest ∧
      out = [{ dest, sender := ctx.self, command := task.stored "service.method",
               body := .task task }] := by
  simp only [handlers, List.mem_cons, Prod.mk.injEq, List.not_mem_nil, or_false] at hmem
  rcases hmem with ⟨rfl, rfl⟩ | ⟨rfl, rfl⟩ | ⟨rfl, rfl⟩ <;> cases h with | _ h
  · exact .inl (dispatcher_sends J config env ctx s _ _ h)
  · rcases service_cases J h with hsends | ⟨dest, hdispatches, hout⟩
    · exact .inl hsends
    · exact .inr ⟨rfl, _, dest, rfl, hdispatches, hout⟩
  · exact .inl (error_sends env ctx s _ _ h)

end Manager.Router

end StreamCloud
