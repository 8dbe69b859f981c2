import MarketChat.Chat.Frame
import MarketChat.Chat.Conversation
import MarketChat.Http.Exchange
import MarketChat.Store.Cache
import MarketChat.Inbox.Basic
import MarketChat.Config
import MarketChat.Sim.Seller
import MarketChat.Sim.Services
import MarketChat.Terminal.Run
import MarketChat.Main
import MarketChat.Proofs.CacheRefinement
import MarketChat.Proofs.SessionRuns
import MarketChat.Proofs.UnreadTotals
import MarketChat.Proofs.IdNormalisation
import MarketChat.Proofs.StoreBackends
import MarketChat.Proofs.CacheBlob
import MarketChat.Proofs.Reconnection
import MarketChat.Proofs.AnonymousIdentity
import MarketChat.Proofs.CachedFetch
import MarketChat.Proofs.AloneRuns
import MarketChat.Proofs.ActorMemory
import MarketChat.Proofs.SignalDispatch
import MarketChat.Proofs.ReadOnlyRuns
import MarketChat.Proofs.TypingTimer
import MarketChat.Proofs.TypingDebounce
import MarketChat.Proofs.TypingLifetime
import MarketChat.Proofs.RelyGuarantee
import MarketChat.Proofs.RelyGuaranteeScheduler
import MarketChat.Proofs.TimestampText
import MarketChat.Proofs.ReadResults
import MarketChat.Proofs.MessageReadBack
import MarketChat.Proofs.DocumentScan
import MarketChat.Proofs.FrameDecoding
import MarketChat.Proofs.ContractJoin
import MarketChat.Proofs.GroupViews
import MarketChat.Proofs.PollingPolicy
import MarketChat.Proofs.PanelPolling
import MarketChat.Proofs.NotificationBody
import MarketChat.Proofs.FormPairs
import MarketChat.Proofs.OriginAddresses
import MarketChat.Proofs.SendMoves
