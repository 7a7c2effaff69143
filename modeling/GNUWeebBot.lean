import GNUWeebBot.Lib.Transition
import GNUWeebBot.Lib.Buffer
import GNUWeebBot.Lib.Cut
import GNUWeebBot.Lib.Words
import GNUWeebBot.Lib.Fifo
import GNUWeebBot.Model.Base
import GNUWeebBot.Model.Tstack
import GNUWeebBot.Model.Pool
import GNUWeebBot.Proofs.PoolEffects
import GNUWeebBot.Proofs.PoolInvariant
import GNUWeebBot.Proofs.Tickets
import GNUWeebBot.Proofs.NoLoss
import GNUWeebBot.Model.Net
import GNUWeebBot.Model.Server
import GNUWeebBot.Proofs.ServerEffects
import GNUWeebBot.Proofs.ChannelTable
import GNUWeebBot.Proofs.SlotLeak
import GNUWeebBot.Proofs.Delivery
import GNUWeebBot.Proofs.Framing
import GNUWeebBot.Proofs.Bounds
import GNUWeebBot.Lib.Fill
import GNUWeebBot.Model.Json
import GNUWeebBot.Model.TgEvent
import GNUWeebBot.Proofs.DecoderChecks
import GNUWeebBot.Proofs.DecoderSpec
import GNUWeebBot.Proofs.DecoderSafety
import GNUWeebBot.Lib.StructLayout
import GNUWeebBot.Model.TgevLayout
import GNUWeebBot.Proofs.ReplyPointer
import GNUWeebBot.Model.HtmlText
import GNUWeebBot.Proofs.HtmlText
import GNUWeebBot.Model.TgApi
import GNUWeebBot.Model.Admin
import GNUWeebBot.Proofs.Privilege
import GNUWeebBot.Proofs.ReplyText
import GNUWeebBot.Proofs.Announcement
import GNUWeebBot.Proofs.SilentModeration
import GNUWeebBot.Proofs.ReportReply
import GNUWeebBot.Lib.FormUrl
import GNUWeebBot.Model.FormBody
import GNUWeebBot.Proofs.UrlEncode
import GNUWeebBot.Proofs.FormBody
import GNUWeebBot.Proofs.ModerationReply
import GNUWeebBot.Model.Translate
import GNUWeebBot.Proofs.TranslateLabels
import GNUWeebBot.Proofs.Translate
import GNUWeebBot.Proofs.DeliveryPaths
import GNUWeebBot.Proofs.Segmentation
import GNUWeebBot.Model.EventLoop
import GNUWeebBot.Proofs.EventLoop
import GNUWeebBot.Proofs.SpawnFailure
import GNUWeebBot.Model.Response
import GNUWeebBot.Proofs.Response
import GNUWeebBot.Model.Config
import GNUWeebBot.Proofs.Config
import GNUWeebBot.Proofs.ConfigValues
import GNUWeebBot.Proofs.FieldPaths
import GNUWeebBot.Lib.Ledger
import GNUWeebBot.Model.TgevBlocks
import GNUWeebBot.Proofs.Blocks
import GNUWeebBot.Model.AdminText
import GNUWeebBot.Proofs.AdminText
import GNUWeebBot.Proofs.Keywords
import GNUWeebBot.Model.ChatAdmins
import GNUWeebBot.Proofs.Administrators
import GNUWeebBot.Lib.Lifo
import GNUWeebBot.Lib.Refinement
import GNUWeebBot.Model.TstackArray
import GNUWeebBot.Proofs.TstackArray
import GNUWeebBot.Lib.Chain
import GNUWeebBot.Model.Que
import GNUWeebBot.Proofs.Que
import GNUWeebBot.Lib.Entity
import GNUWeebBot.Proofs.HtmlEntities
import GNUWeebBot.Model.Strings
import GNUWeebBot.Proofs.Trim
import GNUWeebBot.Lib.ShellWords
import GNUWeebBot.Proofs.ShellArg
import GNUWeebBot.Proofs.NameLink
import GNUWeebBot.Model.Descriptors
import GNUWeebBot.Proofs.MapRange
import GNUWeebBot.Lib.Lockstep
import GNUWeebBot.Proofs.TrailingBlanks
import GNUWeebBot.Lib.DoWhile
import GNUWeebBot.Model.Tokener
import GNUWeebBot.Proofs.Loading
import GNUWeebBot.Proofs.QueLinks
import GNUWeebBot.Lib.Drain
import GNUWeebBot.Model.Lifecycle
import GNUWeebBot.Proofs.Connections
import GNUWeebBot.Proofs.Drain
import GNUWeebBot.Proofs.PoolProgress
import GNUWeebBot.Proofs.Shutdown
import GNUWeebBot.Proofs.Timeout
import GNUWeebBot.Lib.Dispatch
import GNUWeebBot.Lib.JsonText
import GNUWeebBot.Model.JsonFormat
import GNUWeebBot.Model.Modules
import GNUWeebBot.Model.Requests
import GNUWeebBot.Proofs.Debug
import GNUWeebBot.Proofs.EventHandler
import GNUWeebBot.Proofs.Requests
import GNUWeebBot.Lib.Custody
import GNUWeebBot.Lib.Interleave
import GNUWeebBot.Model.Bot
import GNUWeebBot.Proofs.Bot
import GNUWeebBot.Proofs.Nodes
import GNUWeebBot.Model.Startup
import GNUWeebBot.Proofs.ConfigStrings
import GNUWeebBot.Proofs.Startup
