-- SUMMARY: When the manager hands the router the request that it received, and when an object is left as it was by reading it.
import StreamCloud.Api.ConstReadings
import StreamCloud.Manager.PlatformService

/-!
# Relayed requests

The dispatcher of the manager reads a request before it hands it on, and reading one
without parameters puts a null for them. So the request is handed on as it was
received where it has parameters, under either of their names; otherwise the router
finds a member more. No other member changes, but for what printing does to numbers.
-/

namespace StreamCloud

namespace JsonMap

variable {message m' : JsonMap} {request : RequestMessage}

/-- What is left of a request that was read. -/
theorem eq_of_parseRequest (hrequest : message.isRequest) (hread : message.parseRequest = .ok (request, m')) :
    m' = message.readParams.2 := by
  rw [isRequest, Bool.and_eq_true] at hrequest
  exact ((parseRequest_eq_ok hrequest.2).mp hread).2.2.2.2

theorem contains_params (h : ¬ message.HasParams) :
    message.contains "params" = false ∧ message.readParams.2.find? "params" = some .null := by
  obtain ⟨hparam, hparams⟩ := not_or.mp h
  rw [Bool.not_eq_true] at hparam hparams
  refine ⟨hparams, ?_⟩
  have htouch : message.readParams.2 = message.set "params" .null := by
    simp [readParams, hparam, touch, hparams]
  rw [htouch, find?_set_self]

/-- Printing and reading does not hide the null. -/
theorem reread_readParams_eq_iff : message.readParams.2.reread = message.reread ↔ message.HasParams := by
  constructor
  · intro h
    by_contra hnone
    obtain ⟨hparams, hnull⟩ := contains_params hnone
    have hcontains := congrArg (fun m => m.contains "params") h
    simp only [contains_reread, hparams] at hcontains
    rw [contains, hnull] at hcontains
    cases hcontains
  · intro h
    rw [(snd_readParams_eq_iff message).mpr h]

theorem reread_readParams_eq_self_iff :
    message.readParams.2.reread = message ↔ message.HasParams ∧ message.Exact := by
  constructor
  · intro h
    have hparams : message.HasParams := by
      by_contra hnone
      obtain ⟨hparams, hnull⟩ := contains_params hnone
      have hcontains := contains_reread message.readParams.2 "params"
      rw [h, hparams, contains, hnull] at hcontains
      cases hcontains
    refine ⟨hparams, ?_⟩
    rwa [(snd_readParams_eq_iff message).mpr hparams] at h
  · rintro ⟨hparams, hexact⟩
    rw [(snd_readParams_eq_iff message).mpr hparams]
    exact hexact

end JsonMap

namespace Manager.PlatformService

variable {α : Type}

open JsonMap in
/-- What the router is handed is the request that was received if and only if this has
parameters; it reads it as it was received if, besides, its numbers come back as they
were printed. It has the members that were received, and a null for the parameters that
are missing. An object is left as it was by reading it if and only if the reading finds
what it asks for. -/
theorem relayed_request_iff {config : Config} {env : Env} {ctx : Ctx α} {s s' : Unit} {ws : WebSocket}
    {out : List (Envelope α)} {e : Envelope α} {message : JsonMap}
    (h : dispatcher Codec.api config env ctx s (.webSocket ws) = .ok (s', out)) (he : e ∈ out)
    (hcommand : e.command = "dispatcher") (hparse : Codec.api.parse ws.body = .ok message) :
    (∃ id handed read, e.body = .transport (.webSocket { id, body := Codec.api.print handed }) ∧
      Codec.api.parse (Codec.api.print handed) = .ok read ∧
      (handed = message ↔ message.HasParams) ∧
      (read = message.reread ↔ message.HasParams) ∧
      (read = message ↔ message.HasParams ∧ message.Exact) ∧
      (∀ key ≠ "params", read.find? key = (message.find? key).map JsonValue.reread) ∧
      (¬ message.HasParams → read.find? "params" = some .null)) ∧
    ∀ (r : ConstReading) (m : JsonMap), m.Sorted → (r.left m = m ↔ r.Finds m) := by
  refine ⟨?_, fun r m hm => r.left_eq_iff hm⟩
  obtain ⟨ws₁, ws', hws, hrelays, hbody⟩ := dispatcher_relays Codec.api config h he hcommand
  obtain rfl := Transport.webSocket.inj hws
  obtain ⟨message', request, m', id, hparse', hrequest, hread, -, -, rfl⟩ := hrelays
  obtain rfl : message = message' := Except.ok.inj (hparse.symm.trans hparse')
  obtain rfl := eq_of_parseRequest hrequest hread
  have hsorted : Sorted message.readParams.2 := (Codec.api_sorted hparse).readParams
  refine ⟨id, message.readParams.2, _, hbody, Codec.api_roundTrip _, snd_readParams_eq_iff message,
    reread_readParams_eq_iff, reread_readParams_eq_self_iff, ?_, ?_⟩
  · intro key hkey
    rw [find?_reread hsorted, find?_readParams_of_ne hkey]
  · intro hnone
    rw [find?_reread hsorted, (contains_params hnone).2]
    rfl

/-- A request of a client of the platform. -/
def loginRequest (params : JsonValue) : RequestMessage where
  id := .string "1"
  method := "users.login"
  params := params
  metadata := [("transport", .string "client")]

theorem loginRequest_exact {params : JsonValue} (h : params.Exact) : (loginRequest params).Exact :=
  RequestMessage.exact_iff.mpr
    ⟨JsonValue.exact_string _, h, JsonMap.exact_nil.set (JsonValue.exact_string _)⟩

/-- Such a request is relayed. -/
theorem dispatcher_loginRequest {params : JsonValue} (h : params.Exact) :
    ∃ message, Codec.api.parse ((loginRequest params).serialize Codec.api) = .ok message ∧
      message = (loginRequest params).toMap ∧
      dispatcher Codec.api ⟨"p.q", "m"⟩ .calm ⟨"platform", [("router", "router")], fun _ => []⟩ ()
        (.webSocket ⟨"platform", (loginRequest params).serialize Codec.api⟩) =
      .ok ((), [{
        dest := "router"
        sender := "platform"
        command := "dispatcher"
        body := .transport (.webSocket ⟨"client", Codec.api.print message.readParams.2⟩) }]) := by
  have hparse : Codec.api.parse ((loginRequest params).serialize Codec.api) =
      .ok (loginRequest params).toMap := (loginRequest_exact h).toMap.parse
  refine ⟨_, hparse, rfl, ?_⟩
  apply dispatcher_of_relays
  · refine ⟨_, _, _, "client", hparse, RequestMessage.isRequest_toMap _,
      RequestMessage.parseRequest_toMap _, rfl, ?_, rfl⟩
    have hget : (loginRequest params).toMap.readParams.2.get "metadata" =
        .map [("transport", .string "client")] := by
      rw [JsonMap.get_readParams_snd, JsonMap.get, RequestMessage.find?_toMap_metadata]
      rfl
    rw [hget]
    rfl
  · rfl

/-- A request with parameters is handed on as it was received. -/
theorem relayed_request_iff_login : ∃ message id read,
    Codec.api.parse ((loginRequest (.map [("login", .string "a")])).serialize Codec.api) = .ok message ∧
    ∃ out e, e ∈ out ∧ e.body = .transport (.webSocket ⟨id, Codec.api.print message⟩) ∧
      dispatcher Codec.api ⟨"p.q", "m"⟩ .calm ⟨"platform", [("router", "router")], fun _ => []⟩ ()
        (.webSocket ⟨"platform", (loginRequest (.map [("login", .string "a")])).serialize Codec.api⟩) =
        .ok ((), out) ∧
      Codec.api.parse (Codec.api.print message) = .ok read ∧ read = message := by
  have hparams : (JsonValue.map [("login", .string "a")]).Exact :=
    JsonValue.exact_map.mpr (JsonMap.exact_nil.set (JsonValue.exact_string _))
  obtain ⟨message, hparse, hmessage, hdispatcher⟩ := dispatcher_loginRequest hparams
  obtain ⟨⟨id, handed, read, hbody, hread, hhanded, -, hsame, -⟩, -⟩ :=
    relayed_request_iff hdispatcher (List.mem_singleton_self _) rfl hparse
  have hhas : message.HasParams := by
    rw [hmessage]
    exact .inr rfl
  obtain rfl := hhanded.mpr hhas
  have hexact : handed.Exact := hmessage ▸ (loginRequest_exact hparams).toMap
  exact ⟨handed, id, read, hparse, _, _, List.mem_singleton_self _, hbody, hdispatcher, hread,
    hsame.mpr ⟨hhas, hexact⟩⟩

/-- A request without parameters is handed on with a null for them. -/
theorem relayed_request_null : ∃ message out e read,
    Codec.api.parse ((loginRequest .null).serialize Codec.api) = .ok message ∧
    dispatcher Codec.api ⟨"p.q", "m"⟩ .calm ⟨"platform", [("router", "router")], fun _ => []⟩ ()
      (.webSocket ⟨"platform", (loginRequest .null).serialize Codec.api⟩) = .ok ((), out) ∧
    e ∈ out ∧ e.command = "dispatcher" ∧
    (∃ id text, e.body = .transport (.webSocket ⟨id, text⟩) ∧ Codec.api.parse text = .ok read) ∧
    message.contains "params" = false ∧ read.find? "params" = some .null ∧ read ≠ message := by
  obtain ⟨message, hparse, hmessage, hdispatcher⟩ := dispatcher_loginRequest JsonValue.exact_null
  have hnone : ¬ message.HasParams := by
    rw [hmessage]
    exact fun h => h.elim (by decide) (by decide)
  obtain ⟨hmissing, hnull⟩ := JsonMap.contains_params hnone
  have hexact : JsonMap.Exact message.readParams.2 :=
    (show message.Exact from hmessage ▸ (loginRequest_exact JsonValue.exact_null).toMap).readParams.2
  refine ⟨message, _, _, message.readParams.2, hparse, hdispatcher, List.mem_singleton_self _, rfl,
    ⟨_, _, rfl, hexact.parse⟩, hmissing, hnull, ?_⟩
  intro hsame
  exact hnone ((JsonMap.snd_readParams_eq_iff message).mp hsame)

end Manager.PlatformService

end StreamCloud
