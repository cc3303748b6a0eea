-- SUMMARY: How the three programs are wired, and that it gives every actor its contacts.
import StreamCloud.Core.Wiring
import StreamCloud.Manager.Flow
import StreamCloud.Platform.Flow
import StreamCloud.Device.Flow

/-!
# init_service

The statements of `init_service` of each program, in their order. The data
providers are actors without a group.
-/

namespace StreamCloud

/-! ## The manager -/

namespace Manager

def initService : List (Wire Actor) :=
  [.service .router, .service .users, .service .groups, .service .subscriptions,
    .service .connections, .service .devices, .service .platform, .service .managerInfo,
    .addShared .users .ws, .addShared .users .client,
    .join .users .router, .join .users .groups, .join .users .subscriptions,
    .join .users .connections, .join .users .devices,
    .addShared .groups .ws, .addShared .groups .client,
    .join .groups .router, .join .groups .users, .join .groups .subscriptions,
    .join .groups .connections, .join .groups .devices,
    .addShared .subscriptions .ws, .addShared .subscriptions .client,
    .join .subscriptions .router, .join .subscriptions .users, .join .subscriptions .groups,
    .join .subscriptions .connections, .join .subscriptions .devices,
    .addShared .connections .ws, .addShared .connections .client,
    .join .connections .router, .join .connections .users, .join .connections .groups,
    .join .connections .subscriptions, .join .connections .devices,
    .addShared .devices .ws, .addShared .devices .client,
    .join .devices .router, .join .devices .users, .join .devices .groups,
    .join .devices .subscriptions, .join .devices .connections,
    .addShared .platform .ws, .addShared .platform .client,
    .join .platform .router, .join .platform .users, .join .platform .groups,
    .join .platform .subscriptions, .join .platform .connections,
    .addShared .router .http, .addShared .router .ws, .addShared .router .client,
    .join .router .users, .join .router .groups, .join .router .subscriptions,
    .join .router .connections, .join .router .devices, .join .router .managerInfo,
    .addShared .managerInfo .ws, .join .managerInfo .router]

/-- A run of the manager from its start: the actors know nobody, and the
messages of the wiring are pending. -/
def Started (J : Codec) (config : Config) (c : Work.Config State (Envelope Actor)) : Prop :=
  ∃ n₀ : State, (∀ a, n₀.contacts a = []) ∧
    Run J config (fun _ _ _ => True) ⟨n₀, Wire.messages initService⟩ c

theorem initService_introduced {J : Codec} {config : Config} :
    (program J config).Introduced contacts (Wire.messages initService) := by
  refine Program.introduced_of_told (by decide) ?_ ?_
  · show ∀ wire ∈ initService, ∀ p, wire.told = some p →
      (contacts p.1).lookup (Actor.name p.2) = some p.2
    decide
  · show ∀ a, ∀ p ∈ contacts a, Actor.name p.2 = p.1 ∧ ∃ wire ∈ initService, wire.told = some (a, p.2)
    intro a
    cases a <;> decide

/-- Once the messages of the wiring are handled, the contacts are as modelled. -/
theorem Started.lookup_eq {J : Codec} {config : Config} {c : Work.Config State (Envelope Actor)}
    (h : Started J config c) (hdone : ∀ e ∈ c.pending, e.Plain) (a : Actor) (name : String) :
    (c.state.contacts a).lookup name = (contacts a).lookup name := by
  obtain ⟨n₀, hn₀, hrun⟩ := h
  have hwiring := Program.wiring_of_run initService_introduced (fun _ h => h.plain)
    (fun _ _ _ _ _ hhandle => handle_plain hhandle) hn₀ hrun
  exact hwiring.lookup_eq hdone a name

end Manager

/-! ## The platform -/

namespace Platform

def initService : List (Wire Actor) :=
  [.service .router, .service .profile, .service .managers, .service .managerInfo,
    .addShared .profile .ws, .join .profile .router,
    .addShared .managers .ws, .addShared .managers .http, .join .managers .router,
    .addShared .router .http, .addShared .router .ws,
    .join .router .profile, .join .router .managers, .join .router .managerInfo,
    .addShared .managerInfo .ws, .join .managerInfo .router]

/-- A run of the platform from its start. -/
def Started (J : Codec) (managerKey : String) (c : Work.Config State (Envelope Actor)) : Prop :=
  ∃ n₀ : State, (∀ a, n₀.contacts a = []) ∧
    Run J managerKey (fun _ _ _ => True) ⟨n₀, Wire.messages initService⟩ c

theorem initService_introduced {J : Codec} {managerKey : String} :
    (program J managerKey).Introduced contacts (Wire.messages initService) := by
  refine Program.introduced_of_told (by decide) ?_ ?_
  · show ∀ wire ∈ initService, ∀ p, wire.told = some p →
      (contacts p.1).lookup (Actor.name p.2) = some p.2
    decide
  · show ∀ a, ∀ p ∈ contacts a, Actor.name p.2 = p.1 ∧ ∃ wire ∈ initService, wire.told = some (a, p.2)
    intro a
    cases a <;> decide

theorem Started.lookup_eq {J : Codec} {managerKey : String}
    {c : Work.Config State (Envelope Actor)} (h : Started J managerKey c)
    (hdone : ∀ e ∈ c.pending, e.Plain) (a : Actor) (name : String) :
    (c.state.contacts a).lookup name = (contacts a).lookup name := by
  obtain ⟨n₀, hn₀, hrun⟩ := h
  have hwiring := Program.wiring_of_run initService_introduced (fun _ h => h.plain)
    (fun _ _ _ _ _ hhandle => handle_plain hhandle) hn₀ hrun
  exact hwiring.lookup_eq hdone a name

end Platform

/-! ## The device -/

namespace Device

def initService : List (Wire Actor) :=
  [.service .manager, .service .control,
    .addShared .control .client, .join .control .manager,
    .addShared .manager .client, .join .manager .control]

/-- A run of the device from its start. -/
def Started (J : Codec) (config : Config) (c : Work.Config State (Envelope Actor)) : Prop :=
  ∃ n₀ : State, (∀ a, n₀.contacts a = []) ∧
    Run J config (fun _ _ _ => True) ⟨n₀, Wire.messages initService⟩ c

theorem initService_introduced {J : Codec} {config : Config} :
    (program J config).Introduced contacts (Wire.messages initService) := by
  refine Program.introduced_of_told (by decide) ?_ ?_
  · show ∀ wire ∈ initService, ∀ p, wire.told = some p →
      (contacts p.1).lookup (Actor.name p.2) = some p.2
    decide
  · show ∀ a, ∀ p ∈ contacts a, Actor.name p.2 = p.1 ∧ ∃ wire ∈ initService, wire.told = some (a, p.2)
    intro a
    cases a <;> decide

theorem Started.lookup_eq {J : Codec} {config : Config} {c : Work.Config State (Envelope Actor)}
    (h : Started J config c) (hdone : ∀ e ∈ c.pending, e.Plain) (a : Actor) (name : String) :
    (c.state.contacts a).lookup name = (contacts a).lookup name := by
  obtain ⟨n₀, hn₀, hrun⟩ := h
  have hwiring := Program.wiring_of_run initService_introduced (fun _ h => h.plain)
    (fun _ _ _ _ _ hhandle => handle_plain hhandle) hn₀ hrun
  exact hwiring.lookup_eq hdone a name

end Device

end StreamCloud
