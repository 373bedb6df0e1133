import Xkk.Lib.Transition
import Xkk.Lib.Pool
import Xkk.Lib.Decimal
import Xkk.Lib.FlaggedWord
import Xkk.Logic.Admission
import Xkk.Gate.Session
import Xkk.Gate.Stream
import Xkk.Gate.Delivery
import Xkk.Lib.Table
import Xkk.Gate.OnlineCount
import Xkk.Cluster.Player
import Xkk.Cluster.Execution
import Xkk.Cluster.Orphans
import Xkk.Cluster.Ownership
import Xkk.Logic.Vault
import Xkk.Logic.Runtime
import Xkk.Logic.Steps
import Xkk.Logic.DirtySlots
import Xkk.Logic.Directory
import Xkk.Logic.Generation
import Xkk.Logic.Dispatch
import Xkk.Logic.Permits
import Xkk.Logic.Holders
import Xkk.Logic.Serialization
import Xkk.Logic.Residency
import Xkk.Logic.Shutdown
import Xkk.Logic.Wakeups
import Xkk.Cache.Online
import Xkk.Cache.Hash
import Xkk.Gate.Replay
import Xkk.Gate.Revocation
import Xkk.Protocol.Messages
import Xkk.Public.Mail
import Xkk.Logic.PlayerState
import Xkk.Public.Claim
import Xkk.Persist.WriteBack
import Xkk.Gate.ClientSequence
import Xkk.Gate.Entries
import Xkk.Gate.Succession
import Xkk.Gate.Closing
import Xkk.Gate.Forward
import Xkk.Lib.Books
import Xkk.Logic.Presence
import Xkk.Lib.Window
import Xkk.Gate.Limits
import Xkk.Logic.Items
import Xkk.Logic.ItemBag
import Xkk.Auth.Account
import Xkk.Cache.LoginQueue
import Xkk.Logic.Persistence
import Xkk.Logic.Reports
import Xkk.Logic.ItemCalls
import Xkk.Gate.Refusal
import Xkk.Public.Retention
import Xkk.Cluster.Routing
import Xkk.Logic.Budgets
import Xkk.Lib.Documents
import Xkk.Logic.Loading
import Xkk.Public.Durability
import Xkk.Query.Profiles
import Xkk.Auth.Admission
import Xkk.Auth.Login
import Xkk.Cache.ServiceOnline
import Xkk.Cluster.Authentication
import Xkk.Cluster.Authorization
import Xkk.Gate.Draining
import Xkk.Gate.Mailbox
import Xkk.Gate.Returning
import Xkk.Robot.Client
import Xkk.Cluster.Notices
import Xkk.Common.Latency
import Xkk.Public.Economy
