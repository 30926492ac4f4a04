import Uesim.Library.Bytes
import Uesim.Library.ByteTable
import Uesim.Library.BitMemory
import Uesim.Library.BitFields
import Uesim.Library.Reading
import Uesim.Library.Extents
import Uesim.Library.Segments
import Uesim.Library.Runs
import Uesim.Library.SlotTable
import Uesim.Library.LinkedQueue
import Uesim.Library.Loop
import Uesim.Library.Lfsr
import Uesim.Library.CarrySums
import Uesim.Library.Keystream
import Uesim.Library.BlockMode
import Uesim.Types
import Uesim.Crypto.Aes
import Uesim.Crypto.AesInverse
import Uesim.Crypto.AesModes
import Uesim.Crypto.Snow3g
import Uesim.Crypto.Snow3gSequence
import Uesim.Crypto.Zuc
import Uesim.Crypto.ZucSequence
import Uesim.Crypto.ZucShares
import Uesim.Crypto.Ops
import Uesim.Crypto.MacSeparation
import Uesim.Pdcp.Entity
import Uesim.Pdcp.TxCount
import Uesim.Pdcp.RxCount
import Uesim.Pdcp.Protection
import Uesim.Pdcp.Transmit
import Uesim.Pdcp.KeystreamReuse
import Uesim.Pdcp.MacBinding
import Uesim.Pdcp.Delivery
import Uesim.Rlc.AmRxWindow
import Uesim.Rlc.AmTxWindow
import Uesim.Rlc.WindowMap
import Uesim.Rlc.AmStatus
import Uesim.Rlc.AmRelease
import Uesim.Rlc.StatusExchange
import Uesim.Rlc.Entity
import Uesim.Rlc.Segmentation
import Uesim.Rlc.Lifecycle
import Uesim.Asn1.Per
import Uesim.Asn1.PerRoundTrip
import Uesim.Asn1.PerFrame
import Uesim.Asn1.RrcMessages
import Uesim.Asn1.RrcContainers
import Uesim.Asn1.RrcFixedMessages
import Uesim.Asn1.RrcReads
import Uesim.Asn1.RrcFixedRoundTrip
import Uesim.Asn1.RrcCapacity
import Uesim.Mac.LchBuffer
import Uesim.Mac.Harq
import Uesim.Mac.Entity
import Uesim.Mac.LogicalChannels
import Uesim.Mac.Transmit
import Uesim.Mac.RandomAccess
import Uesim.Mac.RandomAccessRuns
import Uesim.Mac.SchedulingRequest
import Uesim.Library.ScanTable
import Uesim.Sdap.Entity
import Uesim.Sdap.FlowTable
import Uesim.Sdap.DataPath
import Uesim.Library.Ring
import Uesim.Utils.RingBuffer
import Uesim.Utils.RingBufferFifo
import Uesim.Utils.RingBufferWakeUp
import Uesim.Core.Memory
import Uesim.Core.MemoryPool
import Uesim.Core.MemoryOrigin
import Uesim.Nas.Security
import Uesim.Nas.KeystreamReuse
import Uesim.Nas.Protection
import Uesim.Nas.Reception
import Uesim.Nas.Delivery
import Uesim.Nas.Encoding
import Uesim.Library.CountedArray
import Uesim.Nas.QosFlow
import Uesim.Nas.PduSession
import Uesim.Nas.Sessions
import Uesim.Nas.SessionAccounting
import Uesim.Nas.SessionFlows
import Uesim.Nas.Nssai
import Uesim.Library.XorFold
import Uesim.Nas.Authentication
import Uesim.Library.Locks
import Uesim.Nas.SecurityMode
import Uesim.Nas.LockDiscipline
import Uesim.Nas.SecurityModeAtomicity
import Uesim.Nas.KeyOrigin
import Uesim.Nas.SliceSelection
import Uesim.Rrc.Procedures
import Uesim.Rrc.ProcedureRecovery
import Uesim.Rrc.ProcedureCompletion
import Uesim.Library.BitReader
import Uesim.Asn1.BitMessages
import Uesim.F1ap.Messages
import Uesim.F1ap.Layouts
import Uesim.F1ap.RoundTrip
import Uesim.E1ap.Messages
import Uesim.E1ap.Layouts
import Uesim.E1ap.RoundTrip
import Uesim.Xnap.Messages
import Uesim.Xnap.Layouts
import Uesim.Xnap.RoundTrip
import Uesim.Asn1.DecodingBounds
import Uesim.Ngap.Messages
import Uesim.Ngap.NasTransport
import Uesim.Library.Tlv
import Uesim.Library.FieldMemory
import Uesim.Pfcp.Messages
import Uesim.Pfcp.WellFormed
import Uesim.Pfcp.Decoding
import Uesim.Pfcp.RoundTrip
import Uesim.Rrc.RejectedMessages
import Uesim.Rrc.MessageCodec
import Uesim.Rrc.MessageRoundTrip
import Uesim.Rrc.IncomingBytes
import Uesim.Library.Streaks
import Uesim.Rrc.RadioLinkFailure
import Uesim.Rrc.SyncIndications
import Uesim.Rrc.RecoveryLifeCycle
import Uesim.Rrc.ReestablishmentRequest
import Uesim.Rrc.TimerDispatch
import Uesim.Rrc.MeasurementEvents
import Uesim.Rrc.MeasurementTable
import Uesim.Library.HoldTimer
import Uesim.Rrc.TimeToTrigger
import Uesim.Rrc.SystemInformation
import Uesim.Rrc.SystemInformationValidity
import Uesim.Phy.Harq
import Uesim.Phy.HarqLifeCycle
import Uesim.Library.Descriptors
import Uesim.Core.GnbConnections
import Uesim.Core.GnbLinks
import Uesim.Core.GnbTopology
import Uesim.Core.SocketOwnership
import Uesim.Library.Counting
import Uesim.Core.Bearers
import Uesim.Core.BearerTables
import Uesim.Core.GnbManager
import Uesim.Core.GnbEntries
import Uesim.Core.ThreadPool
import Uesim.Core.ThreadPoolRuns
import Uesim.Core.ResourceTracker
import Uesim.Core.TrackedResources
import Uesim.Library.Leases
import Uesim.Core.ResourceRelease
import Uesim.Library.Text
import Uesim.Config.Keys
import Uesim.Config.File
import Uesim.Config.RoundTrip
import Uesim.Library.Framing
import Uesim.Transport.TcpFallback
import Uesim.Transport.MessageBoundaries
import Uesim.Transport.PcapCapture
import Uesim.Transport.CapturedPackets
import Uesim.Library.KeyedSlots
import Uesim.MockCore.Smf
import Uesim.MockCore.Upf
import Uesim.MockCore.Identities
import Uesim.Pdcp.RxReconstruction
import Uesim.Crypto.CounterBlocks
import Uesim.Rlc.NackList
import Uesim.Rlc.WindowAcceptance
import Uesim.Rlc.StatusReads
import Uesim.Rlc.Polling
import Uesim.Asn1.Lengths
import Uesim.Asn1.BitStrings
import Uesim.Asn1.ObjectIdentifiers
import Uesim.Asn1.FailedWrites
import Uesim.Mac.BufferStatus
import Uesim.Mac.Drx
import Uesim.Library.ExchangeSort
import Uesim.Mac.Prioritization
import Uesim.Nas.EapAttributes
import Uesim.Library.TlvReading
import Uesim.Pfcp.DecodingReads
import Uesim.Nas.DecodingReads
import Uesim.Ngap.DecodingReads
import Uesim.Rrc.Hysteresis
import Uesim.Rrc.SystemInformationReads
import Uesim.MockCore.Amf
import Uesim.Library.SlotBag
import Uesim.MockCore.Du
import Uesim.MockCore.CuUp
import Uesim.Library.Admissions
import Uesim.MockCore.CuCp
import Uesim.MockCore.Xnap
import Uesim.MockGnb.Server
import Uesim.MockGnb.ServerRuns
import Uesim.Nas.Validation
import Uesim.Nas.Sequence
import Uesim.Ngap.Validation
import Uesim.MockIntegration.Relay
import Uesim.Cli.Parser
import Uesim.Cli.Script
