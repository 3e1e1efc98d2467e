import Axidma.Interaction
import Axidma.DriverTypes

namespace Axidma
open Interaction

inductive DmaTransferDirection where
  | memToDev
  | devToMem
deriving DecidableEq

-- source is a ghost field: the translation that gave the address.
structure Scatterlist where
  dmaAddress : DmaAddr
  dmaLength : BitVec 32
  source : Option Source
deriving DecidableEq

structure XilinxVdmaConfig where
  frmDly : Nat
  genLock : Nat
  master : Nat
  frmCntEn : Nat
  park : Nat
  parkFrm : Nat
  coalesc : Nat
  delay : Nat
  reset : Nat
  extFsync : Nat
deriving DecidableEq

structure DmaInterleavedTemplate where
  srcStart : DmaAddr
  dstStart : DmaAddr
  dir : DmaTransferDirection
  numf : SizeT
  frameSize : SizeT
  sgl0Size : SizeT
  sgl0Icg : SizeT
  source : Option Source
deriving DecidableEq

inductive Prepared where
  | slaveSg (sgList : List Scatterlist) (sgLen : Int) (dir : DmaTransferDirection) (flags : Nat)
  | interleaved (template : DmaInterleavedTemplate) (flags : Nat)
deriving DecidableEq

def Prepared.sources : Prepared → List Source
  | .slaveSg sgList _ _ _ => sgList.filterMap (·.source)
  | .interleaved template _ => template.source.toList

def Prepared.dir : Prepared → DmaTransferDirection
  | .slaveSg _ _ dir _ => dir
  | .interleaved template _ => template.dir

-- requested is a ghost field: what the submitting transfer asked for. Only
-- callbackParam, the slot of cb_data, reaches the callback.
structure TxDescriptor where
  prepared : Prepared
  callbackParam : Int
  requested : Notification
deriving DecidableEq

inductive DmaStatus where
  | complete
  | inProgress
  | paused
  | error
deriving DecidableEq

structure UserVideoTransaction where
  channelId : CInt
  numFrameBuffers : CInt
  frameBuffers : UserAddr
  frame : AxidmaVideoFrame
deriving DecidableEq

inductive UserStruct where
  | channelInfo
  | registerBuffer
  | transaction
  | inoutTransaction
  | videoTransaction
  | frameBuffers (count : Nat)
  | chan

def UserStruct.Value : UserStruct → Type
  | .channelInfo => UserAddr
  | .registerBuffer => AxidmaRegisterBuffer
  | .transaction => AxidmaTransaction
  | .inoutTransaction => AxidmaInoutTransaction
  | .videoTransaction => UserVideoTransaction
  | .frameBuffers count => { buffers : List UserAddr // buffers.length = count }
  | .chan => AxidmaChan

inductive UserData where
  | numChannels (value : AxidmaNumChannels)
  | channels (value : List AxidmaChan)
deriving DecidableEq

structure VmAreaStruct where
  vmMm : Task
  vmStart : UserAddr
  vmEnd : UserAddr
deriving DecidableEq

-- The calls that leave the driver, and its stores to structures that other
-- functions or the engine see. Purely local computation is not an operation.
inductive KernelCall where
  | kmalloc (size : SizeT)
  | kfree (ptr : Nat)
  | accessOk (writable : Bool) (addr : UserAddr) (size : Nat)
  | copyFromUser (kind : UserStruct) (addr : UserAddr)
  | copyToUser (addr : UserAddr) (data : UserData)
  | readUserPointer (addr : UserAddr)
  | uninitialisedFrame
  | storeNotifySignal (signal : Int)
  | ofDmaConfigure
  | dmaAllocCoherent (size : SizeT)
  | dmaMmapCoherent (vma : VmAreaStruct) (alloc : AxidmaDmaAllocation)
  | dmaFreeCoherent (alloc : AxidmaDmaAllocation)
  | storeVmPrivateData (vma : VmAreaStruct) (alloc : AxidmaDmaAllocation)
  | listAddDmabuf (alloc : AxidmaDmaAllocation)
  | listDelDmabuf (alloc : AxidmaDmaAllocation)
  | dmaBufGet (fd : CInt)
  | dmaBufAttach (dmaBuf : Nat)
  | dmaBufMapAttachment (dmaAttach : Nat)
  | dmaBufUnmapAttachment (dmaAttach : Nat) (sgTable : SgTable)
  | dmaBufDetach (dmaBuf dmaAttach : Nat)
  | dmaBufPut (dmaBuf : Nat)
  | listAddExternal (alloc : AxidmaExternalAllocation)
  | xilinxVdmaChannelSetConfig (chan : DmaChan) (config : XilinxVdmaConfig)
  | dmaenginePrepSlaveSg (chan : DmaChan) (prepared : Prepared)
  | dmaenginePrepInterleavedDma (chan : DmaChan) (prepared : Prepared)
  | storeCbData (slot : Int) (cbData : AxidmaCbData)
  | initCompletion (comp : Completion)
  | dmaengineSubmit (chan : DmaChan) (txd : TxDescriptor)
  | dmaAsyncIssuePending (chan : DmaChan)
  | waitForCompletionTimeout (comp : Completion) (usecs : Nat)
  | dmaAsyncIsTxComplete (chan : DmaChan) (cookie : Int)
  | dmaengineTerminateAll (chan : DmaChan)
  | complete (comp : Completion)
  | sendSigInfo (signal : Int) (process : Option Task) (channelId : CInt)

-- copy_from_user replies with the bytes it left uncopied and whatever the
-- destination holds afterwards; a pointer is none when the call gives NULL, and
-- a read straight from the user's memory when nothing is mapped there.
abbrev KernelCall.Reply : KernelCall → Type
  | .kmalloc _ => Option Nat
  | .accessOk _ _ _ => Bool
  | .copyFromUser kind _ => Nat × kind.Value
  | .copyToUser _ _ => Nat
  | .readUserPointer _ => Option UserAddr
  | .uninitialisedFrame => AxidmaVideoFrame
  | .dmaAllocCoherent _ => Option (Nat × DmaAddr)
  | .dmaMmapCoherent _ _ => Int
  | .dmaBufGet _ => Except Errno Nat
  | .dmaBufAttach _ => Except Errno Nat
  | .dmaBufMapAttachment _ => Except Errno SgTable
  | .xilinxVdmaChannelSetConfig _ _ => Int
  | .dmaenginePrepSlaveSg _ _ => Bool
  | .dmaenginePrepInterleavedDma _ _ => Bool
  | .dmaengineSubmit _ _ => Int
  | .waitForCompletionTimeout _ _ => Nat
  | .dmaAsyncIsTxComplete _ _ => DmaStatus
  | .dmaengineTerminateAll _ => Int
  | _ => Unit

-- No allocation covers half of the address space, so a size that comes from a
-- negative int is always refused. The upper half is never the user's.
def KernelCall.Legal : (op : KernelCall) → op.Reply → Prop
  | .kmalloc size,reply => reply.isSome = true → size.toNat < 2^63
  | .accessOk _ addr size,reply => reply = true → addr.toNat+size ≤ 2^63
  | _,_ => True

abbrev kernel : Interface := ⟨KernelCall,KernelCall.Reply,KernelCall.Legal⟩
abbrev Driver := Prog kernel Fault

@[simp] def kcall (op : KernelCall) : Driver op.Reply := Prog.ask (I := kernel) op

def KernelCall.touches : KernelCall → Option DmaChan
  | .xilinxVdmaChannelSetConfig chan _ => some chan
  | .dmaenginePrepSlaveSg chan _ => some chan
  | .dmaenginePrepInterleavedDma chan _ => some chan
  | .dmaengineSubmit chan _ => some chan
  | .dmaAsyncIssuePending chan => some chan
  | .dmaengineTerminateAll chan => some chan
  | _ => none

end Axidma
