import StreamCloud.Library.BitStrings
import StreamCloud.Library.Floating
import StreamCloud.Library.JsonGrammar
import StreamCloud.Library.Keyed
import StreamCloud.Library.Outcome
import StreamCloud.Library.RoundRobin
import StreamCloud.Library.SortedVector
import StreamCloud.Library.Trace
import StreamCloud.Library.RecordStore
import StreamCloud.Library.Rounding
import StreamCloud.Library.Work
import StreamCloud.Library.WriteQueue
import StreamCloud.Library.Follow
import StreamCloud.Api.Json
import StreamCloud.Api.JsonRpc
import StreamCloud.Api.JsonText
import StreamCloud.Api.JsonBounds
import StreamCloud.Api.Transport
import StreamCloud.Api.JsonRoundTrip
import StreamCloud.Api.JsonSorted
import StreamCloud.Api.JsonStandard
import StreamCloud.Api.ConstReadings
import StreamCloud.Api.JsonPrinted
import StreamCloud.Crypt.Base64
import StreamCloud.Storage.Sqlite
import StreamCloud.Core.MailQueue
import StreamCloud.Core.Executor
import StreamCloud.Core.Fault
import StreamCloud.Core.StorageSpace
import StreamCloud.Core.Actor
import StreamCloud.Core.Reactions
import StreamCloud.Core.Service
import StreamCloud.Core.Typing
import StreamCloud.Core.Lookups
import StreamCloud.Core.Wiring
import StreamCloud.Core.AbstractGroup
import StreamCloud.Core.Cooperation
import StreamCloud.Providers.Listener
import StreamCloud.Providers.HttpSession
import StreamCloud.Providers.ClientSession
import StreamCloud.Providers.Sockets
import StreamCloud.Providers.ServerSession
import StreamCloud.Providers.ServerWrites
import StreamCloud.Manager.Connections
import StreamCloud.Manager.Devices
import StreamCloud.Manager.Groups
import StreamCloud.Manager.Router
import StreamCloud.Manager.Subscriptions
import StreamCloud.Manager.Users
import StreamCloud.Manager.PlatformService
import StreamCloud.Manager.Program
import StreamCloud.Manager.Flow
import StreamCloud.Manager.Relay
import StreamCloud.Platform.Managers
import StreamCloud.Platform.Profile
import StreamCloud.Platform.Router
import StreamCloud.Platform.Program
import StreamCloud.Platform.Flow
import StreamCloud.Platform.Relay
import StreamCloud.Device.Control
import StreamCloud.Device.Manager
import StreamCloud.Device.Program
import StreamCloud.Device.Flow
import StreamCloud.System.Link
import StreamCloud.System.ManagerInfo
import StreamCloud.System.InitService
import StreamCloud.System.Cloud
import StreamCloud.System.Fleet
import StreamCloud.System.Forwarded
import StreamCloud.Verification.Base64Codec
import StreamCloud.Verification.Exclusivity
import StreamCloud.Verification.Mailbox
import StreamCloud.Verification.ActorGraph
import StreamCloud.Verification.StaticFiles
import StreamCloud.Verification.Wakeup
import StreamCloud.Verification.MessageRoundTrip
import StreamCloud.Verification.Pipelining
import StreamCloud.Verification.ClientWrites
import StreamCloud.Verification.CommandDispatch
import StreamCloud.Verification.ContactDistribution
import StreamCloud.Verification.RelayedRequests
import StreamCloud.Verification.SessionTable
import StreamCloud.Verification.DeviceSurvival
import StreamCloud.Verification.GroupFairness
import StreamCloud.Verification.ServerDelivery
import StreamCloud.Verification.Answers
import StreamCloud.Verification.Authentication
import StreamCloud.Verification.BodyTyping
import StreamCloud.Verification.DeviceAccess
import StreamCloud.Verification.LoginKeys
import StreamCloud.Verification.NotificationFanout
import StreamCloud.Verification.RegistryFreshness
import StreamCloud.Verification.Replies
import StreamCloud.Verification.Addresses
import StreamCloud.Verification.Authenticity
import StreamCloud.Verification.ContactLookups
import StreamCloud.Verification.ControlPaths
import StreamCloud.Verification.Credentials
import StreamCloud.Verification.Isolation
import StreamCloud.Verification.ManagerKeys
import StreamCloud.Verification.MyDevices
import StreamCloud.Verification.PlatformSurvival
import StreamCloud.Verification.Reconnect
import StreamCloud.Verification.RegisteredKeys
import StreamCloud.Verification.Termination
import StreamCloud.Verification.Transparency
import StreamCloud.Verification.Administration
import StreamCloud.Verification.CrossDelivery
import StreamCloud.Verification.Mediation
import StreamCloud.Verification.PlatformLink
import StreamCloud.Verification.Correlation
import StreamCloud.Verification.Revocation
import StreamCloud.Verification.ManagerSurvival
import StreamCloud.Verification.Records
import StreamCloud.Verification.RequestFate
