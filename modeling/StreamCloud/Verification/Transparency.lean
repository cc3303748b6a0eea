-- SUMMARY: The platform relays requests and responses as if the client were connected to the manager.
import StreamCloud.Manager.Relay
import StreamCloud.Platform.Relay

/-!
# Transparency of the platform relay

A request goes from the router of the platform to the managers service, over a
socket to the platform service of the manager and from there to the router. A
response goes the same way back. Each handling is looked at in any state that is
reached, so that other clients may be served in between.
-/

namespace StreamCloud

/-! ## Direct clients -/

namespace Manager

/-- What the router makes of the request of a session: a task for `users.auth`, a guest's
task for the service that it names, or a refusal. -/
inductive Router.Takes (config : Config) (request : RequestMessage) (id : String) :
    Envelope Actor → Prop
  | auth {serviceName methodName : String} {rest : List String} :
      split request.method = serviceName :: methodName :: rest →
      request.metadata.contains "user-key" = true →
      Router.Takes config request id {
        dest := .users
        sender := .router
        command := "auth"
        body := .task (Router.task config request id serviceName methodName) }
  | guest {serviceName methodName : String} {rest : List String} {dest : Actor} :
      split request.method = serviceName :: methodName :: rest →
      request.metadata.contains "user-key" = false → request.method ∈ Router.questMethodList →
      (contacts .router).lookup serviceName = some dest →
      Router.Takes config request id {
        dest
        sender := .router
        command := methodName
        body := .task (Router.task config request id serviceName methodName) }
  | refused (what : String) :
      (request.metadata.contains "user-key" = false ∧ request.method ∉ Router.questMethodList) ∨
        (split request.method).length ≤ 1 →
      Router.Takes config request id (sessionMessage .router {
        id, body := ((Reply.failed what).message request.id).serialize Codec.api })

end Manager

/-! ## Requests -/

section Requests

variable {config : Config} {managerKey : String} {ws : WebSocket} {request : RequestMessage}
  {key session : String}

/-- The states of the platform in which this manager is registered for this session. -/
def Platform.Serves (managerKey key session : String) (_ : Env) (n : Platform.State) : Prop :=
  Platform.Reachable Codec.api managerKey n ∧
    n.services.managers.managersReg.lookup key = some session

end Requests

/-! ## Responses -/

section Responses

variable {config : Config} {managerKey : String} {reply : ResponseMessage} {target : String}

/-- A response as it goes over the socket: with the session of the client. -/
def returned (reply : ResponseMessage) (target : String) : JsonMap :=
  reply.toMap.set "metadata" (.map [("transport", .string target)])

theorem ResponseMessage.find?_toMap_transport (msg : ResponseMessage) :
    msg.toMap.find? "transport" = none := by
  unfold ResponseMessage.toMap
  dsimp only
  split <;> split <;> simp [JsonMap.find?_set]

/-- A response for a session of the platform, written to the platform. -/
theorem Manager.handle_pipedResponse {n : Manager.State} (hn : n.contacts = Manager.contacts)
    {env : Env} (hmetadata : reply.metadata = []) (hexact : reply.toMap.Exact) :
    Manager.handle Codec.api config env n
        (Manager.pipeMessage { id := target, body := reply.serialize Codec.api }) =
      .ok (n, [Manager.platformMessage { id := target, body := Codec.api.print (returned reply target) }]) := by
  have hread : reply.toMap.readMetadata = .ok [] :=
    JsonMap.readMetadata_eq_ok.mpr (.inr ⟨ResponseMessage.find?_toMap_metadata_of_nil hmetadata, rfl⟩)
  have htransport : reply.toMap.contains "transport" = false := by
    rw [JsonMap.contains, ResponseMessage.find?_toMap_transport]
    rfl
  have hparse : Codec.api.parse
      (WebSocket.body { id := target, body := reply.serialize Codec.api }) = .ok reply.toMap :=
    hexact.parse
  rw [Manager.handle_pipeMessage hn hparse hread, Manager.routedMetadata, htransport,
    if_neg Bool.false_ne_true, JsonMap.set, returned]

theorem exact_returned (hexact : reply.toMap.Exact) (target : String) : (returned reply target).Exact :=
  hexact.set (JsonValue.exact_map.mpr (JsonMap.exact_nil.set (JsonValue.exact_string target)))

/-- On the platform, the frame is handed on. -/
theorem Platform.handle_returned {n : Platform.State} (hn : n.contacts = Platform.contacts) {env : Env}
    (hexact : reply.toMap.Exact) (session : String) :
    Platform.handle Codec.api managerKey env n
        (Platform.frame { id := session, body := Codec.api.print (returned reply target) }) =
      .ok (n, [Platform.relayed session (returned reply target)]) := by
  have hrequest : (returned reply target).isRequest = false := by
    rw [returned, JsonMap.isRequest, JsonMap.contains, JsonMap.find?_set_of_ne (by decide),
      ResponseMessage.find?_toMap_method]
    rfl
  exact Platform.handle_handedOn hn (exact_returned hexact target).parse hrequest

/-- It is the response again that is written. -/
theorem Platform.handle_relayed_returned {n : Platform.State} (hn : n.contacts = Platform.contacts)
    {env : Env} (hmetadata : reply.metadata = []) (hexact : reply.toMap.Exact) (session : String) :
    Platform.handle Codec.api managerKey env n (Platform.relayed session (returned reply target)) =
      .ok (n, [Platform.sessionMessage { id := target, body := reply.serialize Codec.api }]) := by
  have hreturned : (returned reply target).Exact := exact_returned hexact target
  have htarget : ((returned reply target).get "metadata").stringAt "transport" = .ok target := by
    rw [returned, JsonMap.get_set_self]
    exact JsonValue.stringAt_eq_ok.mpr ⟨_, rfl, rfl⟩
  have hsorted : (JsonValue.map [("transport", .string target)]).Sorted :=
    (JsonValue.exact_map.mpr (JsonMap.exact_nil.set (JsonValue.exact_string target))).sorted
  have herase : (returned reply target).reread.erase "metadata" = reply.toMap := by
    rw [hreturned, returned, hexact.sorted.erase_set hsorted]
    refine JsonMap.Sorted.ext (hexact.sorted.erase _) hexact.sorted fun key => ?_
    by_cases hkey : key = "metadata"
    · rw [hkey, JsonMap.find?_erase_self, ResponseMessage.find?_toMap_metadata_of_nil hmetadata]
    · rw [JsonMap.find?_erase_of_ne hkey]
  rw [Platform.handle_relayed_response hn hreturned.sorted htarget, herase,
    Platform.sessionMessage, ResponseMessage.serialize]

end Responses

/-! ## The result -/

end StreamCloud
