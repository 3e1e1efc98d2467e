import Axidma.Interaction
import Axidma.Interleaving
import Axidma.Questions
import Axidma.Transition
import Axidma.WordRange
import Axidma.DriverTypes
import Axidma.KernelCalls
import Axidma.KernelState
import Axidma.Translation
import Axidma.Transfers
import Axidma.TransferCalls
import Axidma.ProgrammedFrames
import Axidma.StartedTransfers
import Axidma.DeviceTree
import Axidma.ChannelTable
import Axidma.ChannelFit
import Axidma.CallbackSlots
import Axidma.CharDevice
import Axidma.Registration
import Axidma.Unregistration
import Axidma.MemoryMap
import Axidma.MappedRegions
import Axidma.BackedRanges
import Axidma.Engine
import Axidma.SlotWrites
import Axidma.Notifications
import Axidma.FailedTransfers
import Axidma.BufferLifetimes
import Axidma.Lookups
import Axidma.Sessions
import Axidma.Library
import Axidma.LibrarySessions
import Axidma.CallbackDelivery
import Axidma.ServedIoctls
import Axidma.LibraryTransfers
import Axidma.BitPacking
import Axidma.FrameHeader
import Axidma.FailedCopies
import Axidma.Ledger
import Axidma.DeviceFields
import Axidma.Probe
import Axidma.ProbeUnwinding
import Axidma.ClientAccess
import Axidma.Visibility
import Axidma.Categories
import Axidma.HeaderDecoding
import Axidma.WhileLoop
import Axidma.ReceivedDump
import Axidma.PosixThreads
import Axidma.CompletionWait
import Axidma.BenchmarkCheck
import Axidma.RobustTransfer
import Axidma.RecordedBuffer
import Axidma.ArrayHelpers
import Axidma.BufferFillers
import Axidma.Numerals
import Axidma.DecimalText
import Axidma.Ownership
import Axidma.ResourceAccounts
import Axidma.Unloading
import Axidma.FrameTransmission
import Axidma.Loopback
import Axidma.ParsedNumbers
import Axidma.ClientPrograms
import Axidma.FileTransfer
import Axidma.Benchmark
import Axidma.Serving
import Axidma.DmaHeap
import Axidma.DriverServer
import Axidma.ServedTransfers
import Axidma.GrantingKernel
import Axidma.DrivenTransfer
import Axidma.DrivenBenchmark
import Axidma.DisplayImage
import Axidma.DrivenDisplay
import Axidma.BinaryText
import Axidma.Interdma
import Axidma.DrivenInterdma
import Axidma.RegisteredBuffers
