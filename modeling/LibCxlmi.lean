import LibCxlmi.Contract.ReturnCode
import LibCxlmi.Contract.TransportAgreement
import LibCxlmi.Contract.Acceptance
import LibCxlmi.Run.Machine
import LibCxlmi.Run.Session
import LibCxlmi.Run.Association
import LibCxlmi.Run.Recovery
import LibCxlmi.Commands.Call
import LibCxlmi.Commands.General
import LibCxlmi.Commands.Logs
import LibCxlmi.Commands.Memdev
import LibCxlmi.Commands.Security
import LibCxlmi.Commands.DynamicCapacity
import LibCxlmi.Commands.FmapiDcd
import LibCxlmi.Commands.FmapiMld
import LibCxlmi.Commands.FmapiSwitch
import LibCxlmi.Commands.Table
import LibCxlmi.Run.Lifecycle
import LibCxlmi.Run.Gating
import LibCxlmi.Transport.Outbound
import LibCxlmi.Contract.Framing
import LibCxlmi.Contract.Addressing
import LibCxlmi.Commands.Neutral
import LibCxlmi.Transport.HostOrder
import LibCxlmi.Commands.Sizes
import LibCxlmi.Contract.HostPair
import LibCxlmi.Contract.HostOrder
import LibCxlmi.Contract.HostDifference
import LibCxlmi.Contract.HostDirect
import LibCxlmi.Transport.Served
import LibCxlmi.Contract.ShortReply
import LibCxlmi.Transport.Success
import LibCxlmi.Contract.ReturnedData
import LibCxlmi.Commands.Wire
import LibCxlmi.Contract.RejectedReply
import LibCxlmi.Contract.Lossless
import LibCxlmi.Commands.Parse
import LibCxlmi.Contract.RequestEncoding
import LibCxlmi.Run.Registry
import LibCxlmi.Contract.Duplicates
import LibCxlmi.Contract.Identification
import LibCxlmi.Run.Overlay
import LibCxlmi.Contract.FmapiMock
import LibCxlmi.Run.Descriptors
import LibCxlmi.Run.Dbus
import LibCxlmi.Run.ScanMctp
import LibCxlmi.Contract.Enumeration
import LibCxlmi.Run.KeyedQueue
import LibCxlmi.Run.MockQueue
import LibCxlmi.Run.Timeout
import LibCxlmi.Dialogue.Program
import LibCxlmi.Tools.System
import LibCxlmi.Text.Strtoul
import LibCxlmi.Tools.Args
import LibCxlmi.Tools.Chunks
import LibCxlmi.Tools.Observed
import LibCxlmi.Tools.SendFile
import LibCxlmi.Tools.TransferFw
import LibCxlmi.Tools.Dlcfg
import LibCxlmi.Tools.Union
import LibCxlmi.Tools.Calls
import LibCxlmi.Tools.UnionRules
import LibCxlmi.Tools.UnionSafety
import LibCxlmi.Tools.UnionCleanup
import LibCxlmi.Tools.UnionSize
import LibCxlmi.Tools.Meter
import LibCxlmi.Tools.UnionTime
import LibCxlmi.Tools.UnionFinite
import LibCxlmi.Tools.VuCommands
import LibCxlmi.Tools.Windows
import LibCxlmi.Tools.WindowCommands
import LibCxlmi.Tools.WindowsKept
import LibCxlmi.Dialogue.Handler
import LibCxlmi.Tools.Mailbox
import LibCxlmi.Tools.SdbTunnel
import LibCxlmi.Tools.InnerReply
import LibCxlmi.Tools.SilentSuccess
import LibCxlmi.Contract.ClampedLists
import LibCxlmi.Contract.ReceivedEntries
import LibCxlmi.Contract.CapacityLists
import LibCxlmi.Contract.EchoCounts
import LibCxlmi.Tools.ConfigUpload
import LibCxlmi.Tools.Events
import LibCxlmi.Tools.EventListing
import LibCxlmi.Tools.Partition
import LibCxlmi.Tools.CallSites
import LibCxlmi.Contract.RequestSizes
import LibCxlmi.Tools.ChunkFrames
import LibCxlmi.Tools.ClearEvents
import LibCxlmi.Tools.LdAllocations
import LibCxlmi.Tools.MediaLists
import LibCxlmi.Tools.DcdQueries
import LibCxlmi.Dialogue.Asks
import LibCxlmi.Tools.Features
import LibCxlmi.Tools.SetFeature
import LibCxlmi.Tools.ListCommands
import LibCxlmi.Tools.ListBounds
import LibCxlmi.Tools.HexFiles
import LibCxlmi.Tools.OptionRuns
import LibCxlmi.Tools.EccInjection
import LibCxlmi.Tools.FeatureDecode
import LibCxlmi.Tools.LogDecoders
import LibCxlmi.Tools.VendorLog
import LibCxlmi.Text.Literals
import LibCxlmi.Tools.LogUuid
import LibCxlmi.Tools.ExtentArgs
import LibCxlmi.Tools.ExtentForms
import LibCxlmi.Tools.MediaTest
import LibCxlmi.Tools.MediaTestRequests
import LibCxlmi.Tools.TunnelArgs
import LibCxlmi.Tools.TunnelTargets
import LibCxlmi.Tools.NamedEndpoint
import LibCxlmi.Tools.HexTexts
import LibCxlmi.Tools.LogWalk
import LibCxlmi.Tools.UuidForms
import LibCxlmi.Tools.VendorLogDownload
import LibCxlmi.Tools.HexTags
import LibCxlmi.Run.Delay
import LibCxlmi.Run.DelayExact
import LibCxlmi.Run.Pacing
import LibCxlmi.Heap.Ring
import LibCxlmi.Heap.CcanList
import LibCxlmi.Heap.ListCheck
import LibCxlmi.Heap.ListOps
import LibCxlmi.Heap.ListRuns
import LibCxlmi.Heap.Live
import LibCxlmi.Heap.Programs
import LibCxlmi.Heap.Closing
import LibCxlmi.Heap.Opening
import LibCxlmi.Heap.Using
import LibCxlmi.Heap.Sessions
import LibCxlmi.Heap.Isolation
import LibCxlmi.Tools.PagedLists
