import TupoProxy.MachineWords
import TupoProxy.ByteWords
import TupoProxy.Delivery
import TupoProxy.TlsRecord
import TupoProxy.FakeTlsReader
import TupoProxy.FakeTlsWriter
import TupoProxy.QuotaRelay
import TupoProxy.ClientFraming
import TupoProxy.ClientReader
import TupoProxy.KeyedTotal
import TupoProxy.FairnessModel
import TupoProxy.FairnessScheduler
import TupoProxy.FairnessLedger
import TupoProxy.FairnessHistory
import TupoProxy.FairnessExact
import TupoProxy.PressureHistory
import TupoProxy.RoundRobin
import TupoProxy.FairnessService
import TupoProxy.BoundedScan
import TupoProxy.NetAddr
import TupoProxy.TlsAuth
import TupoProxy.AuthCandidates
import TupoProxy.PaddedWords
import TupoProxy.BlockChaining
import TupoProxy.AesCbc
import TupoProxy.ProxyReqWire
import TupoProxy.RpcCodec
import TupoProxy.RpcStream
import TupoProxy.KeyedList
import TupoProxy.PoolWriters
import TupoProxy.PoolReinit
import TupoProxy.Runs
import TupoProxy.ConnRegistry
import TupoProxy.SendProxyReq
import TupoProxy.SendSafety
import TupoProxy.DirectBudget
import TupoProxy.AdaptiveRelay
import TupoProxy.RelayCoverage
import TupoProxy.LruCache
import TupoProxy.WindowSet
import TupoProxy.ReplayShard
import TupoProxy.ReplayWindow
import TupoProxy.TlsReplay
import TupoProxy.TlsReplayOnce
import TupoProxy.MiddleRelay
import TupoProxy.ServerHello
import TupoProxy.IpAdmission
import TupoProxy.ConnLimit
import TupoProxy.UserSessions
import TupoProxy.CryptoWriter
import TupoProxy.TlsValidate
import TupoProxy.ProxyHeader
import TupoProxy.RuntimeReplay
import TupoProxy.ReloadSupervisor
import TupoProxy.SendOnce
import TupoProxy.RpcHandshake
import TupoProxy.PoolAccounts
import TupoProxy.ReaderBacklog
import TupoProxy.ReaderFrames
import TupoProxy.ProxyReqEncoder
import TupoProxy.Obfuscation
import TupoProxy.MtprotoAuth
import TupoProxy.TlsFallback
import TupoProxy.IdleRegistry
import TupoProxy.FrameDebt
import TupoProxy.IdleEviction
import TupoProxy.QuotaLedger
import TupoProxy.EpochBudget
import TupoProxy.RateBuckets
import TupoProxy.IpClear
import TupoProxy.BudgetLedger
import TupoProxy.FamilyHealth
import TupoProxy.PoolConfig
import TupoProxy.PoisonedStreams
import TupoProxy.RefillFlight
import TupoProxy.CbcFrames
import TupoProxy.ReloadLimit
import TupoProxy.FairnessMembers
import TupoProxy.HandshakeHints
import TupoProxy.SecureRandom
