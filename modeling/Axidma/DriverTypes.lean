import Mathlib.Algebra.Ring.Nat

namespace Axidma

-- The kernel is a 64-bit one: pointers, size_t and dma_addr_t have one width,
-- int has 32 bits. Addresses wrap, so they are words and not numbers.
abbrev UserAddr := BitVec 64
abbrev SizeT := BitVec 64
abbrev DmaAddr := BitVec 64
abbrev CInt := BitVec 32
abbrev DmaChan := Nat
abbrev Task := Nat

def ENOENT : Int := 2
def ENOMEM : Int := 12
def EACCES : Int := 13
def EFAULT : Int := 14
def EBUSY : Int := 16
def ENODEV : Int := 19
def EINVAL : Int := 22
def ENOTTY : Int := 25
def ETIME : Int := 62

structure Errno where
  code : Nat
  positive : 0 < code
deriving DecidableEq

def Errno.rc (error : Errno) : Int := -(error.code : Int)

theorem Errno.rc_neg (error : Errno) : error.rc < 0 := by
  have positive := error.positive
  simp only [Errno.rc]
  omega

inductive Fault where
  | nullPointer
  | outOfBounds
  | badAddress
deriving DecidableEq

inductive AxidmaDir where
  | write
  | read
deriving DecidableEq

inductive AxidmaType where
  | dma
  | vdma
deriving DecidableEq

structure AxidmaVideoFrame where
  height : CInt
  width : CInt
  depth : CInt
deriving DecidableEq

structure AxidmaChan where
  dir : AxidmaDir
  type : AxidmaType
  channelId : CInt
  name : String
  chan : DmaChan
deriving DecidableEq

structure AxidmaNumChannels where
  numChannels : Nat
  numDmaTxChannels : Nat
  numDmaRxChannels : Nat
  numVdmaTxChannels : Nat
  numVdmaRxChannels : Nat
deriving DecidableEq

structure AxidmaRegisterBuffer where
  fd : CInt
  size : SizeT
  userAddr : UserAddr
deriving DecidableEq

structure AxidmaTransaction where
  wait : Bool
  channelId : CInt
  buf : UserAddr
  bufLen : SizeT
  frame : AxidmaVideoFrame
deriving DecidableEq

structure AxidmaInoutTransaction where
  wait : Bool
  txChannelId : CInt
  txBuf : UserAddr
  txBufLen : SizeT
  txFrame : AxidmaVideoFrame
  rxChannelId : CInt
  rxBuf : UserAddr
  rxBufLen : SizeT
  rxFrame : AxidmaVideoFrame
deriving DecidableEq

-- With the frame buffers copied: none when the count is negative.
structure AxidmaVideoTransaction where
  channelId : CInt
  numFrameBuffers : CInt
  frameBuffers : List UserAddr
  frame : AxidmaVideoFrame
  filled : frameBuffers.length = numFrameBuffers.toInt.toNat

structure SgTable where
  nents : Nat
  dmaAddress : DmaAddr
deriving DecidableEq

-- node is the address of the structure itself. session is a ghost: the open file the
-- buffer was made through, which no function of the driver stores or reads.
structure AxidmaDmaAllocation where
  node : Nat
  size : SizeT
  userAddr : UserAddr
  kernAddr : Nat
  dmaAddr : DmaAddr
  session : Nat
deriving DecidableEq

structure AxidmaExternalAllocation where
  node : Nat
  fd : CInt
  dmaBuf : Nat
  dmaAttach : Nat
  size : SizeT
  userAddr : UserAddr
  sgTable : SgTable
  session : Nat
deriving DecidableEq

structure AxidmaDevice where
  numDmaTxChans : Nat
  numDmaRxChans : Nat
  numVdmaTxChans : Nat
  numVdmaRxChans : Nat
  notifySignal : Int
  channels : List AxidmaChan
  dmabufList : List AxidmaDmaAllocation
  externalDmabufs : List AxidmaExternalAllocation
deriving DecidableEq

-- axidma_dma_init gives channels and cb_data exactly num_chans elements each.
def AxidmaDevice.numChans (dev : AxidmaDevice) : Nat := dev.channels.length

structure Completion where
  call : Nat
  dir : AxidmaDir
deriving DecidableEq

structure AxidmaCbData where
  channelId : CInt
  notifySignal : Int
  process : Option Task
  comp : Option Completion
deriving DecidableEq

inductive Notification where
  | completes (comp : Completion)
  | signals (signal : Int) (process : Option Task) (channelId : CInt)
  | nothing
deriving DecidableEq

inductive Source where
  | dmabuf (kernAddr : Nat)
  | external (dmaAttach : Nat)
deriving DecidableEq

end Axidma
