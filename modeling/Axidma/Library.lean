import Axidma.KernelCalls

namespace Axidma
open Interaction

-- len and data of the C structure, with a cell of data none until it is
-- written. overran is a ghost: some id was stored beyond the cells.
structure ArrayT where
  len : Nat
  data : List (Option CInt)
  overran : Bool
deriving DecidableEq

structure DmaChannel where
  dir : AxidmaDir
  type : AxidmaType
  channelId : CInt
  callback : Option Nat
  userData : Nat
deriving DecidableEq

structure AxidmaDev where
  initialized : Bool
  fd : Int
  dmaTxChans : ArrayT
  dmaRxChans : ArrayT
  vdmaTxChans : ArrayT
  vdmaRxChans : ArrayT
  numChannels : Nat
  channels : List DmaChannel
deriving DecidableEq

def zeroedDev : AxidmaDev := ⟨false,0,⟨0,[],false⟩,⟨0,[],false⟩,⟨0,[],false⟩,⟨0,[],false⟩,0,[]⟩

inductive Block where
  | driverChannels
  | channels
  | dmaTxData
  | dmaRxData
  | vdmaTxData
  | vdmaRxData
deriving DecidableEq

inductive IoctlArg where
  | transaction (trans : AxidmaTransaction)
  | inoutTransaction (trans : AxidmaInoutTransaction)
  | videoTransaction (trans : UserVideoTransaction)
  | chan (chanInfo : AxidmaChan)
deriving DecidableEq

inductive LibraryCall where
  | openDevice
  | getNumDmaChannels (fd : Int)
  | getDmaChannels (fd : Int) (numChannels : Nat)
  | malloc (block : Block) (count : Nat)
  | free (block : Block)
  | sigaction (signal : Int)
  | setDmaSignal (fd : Int) (signal : Int)
  | close (fd : Int)
  | uninitialisedFrame
  | uninitialisedChan
  | ioctl (fd : Int) (cmd : CInt) (arg : IoctlArg)
  | invokeCallback (callback : Nat) (channelId : CInt) (userData : Nat)

abbrev LibraryCall.Reply : LibraryCall → Type
  | .openDevice => Int
  | .getNumDmaChannels _ => Int × AxidmaNumChannels
  | .getDmaChannels _ numChannels => Int × { channels : List AxidmaChan // channels.length = numChannels }
  | .malloc _ _ => Bool
  | .free _ => Unit
  | .sigaction _ => Int
  | .setDmaSignal _ _ => Int
  | .close _ => Int
  | .uninitialisedFrame => AxidmaVideoFrame
  | .uninitialisedChan => AxidmaChan
  | .ioctl _ _ _ => Int
  | .invokeCallback _ _ _ => Unit

inductive LibraryFault where
  | assertion
  | outOfBounds
deriving DecidableEq

abbrev libc : Interface := ⟨LibraryCall,LibraryCall.Reply,fun _ _ => True⟩
abbrev Library := Prog libc LibraryFault

@[simp] def lcall (op : LibraryCall) : Library op.Reply := Prog.ask (I := libc) op

def ArrayT.allocated (array : ArrayT) (count : Nat) : ArrayT :=
  {array with data := List.replicate count none, overran := false}

-- A store beyond the cells is lost here; in C it hits whatever lies there.
def ArrayT.push (array : ArrayT) (channelId : CInt) : ArrayT where
  len := array.len+1
  data := array.data.set array.len (some channelId)
  overran := array.overran || decide (array.data.length ≤ array.len)

def toDmaChannel (chan : AxidmaChan) : DmaChannel where
  dir := chan.dir
  type := chan.type
  channelId := chan.channelId
  callback := none
  userData := 0

-- One pass of the loop: the id goes into the array of its kind, and the next
-- entry of the channel table is written.
def placeChannel (dev : AxidmaDev) (chan : AxidmaChan) : AxidmaDev :=
  let dev := {dev with channels := dev.channels++[toDmaChannel chan]}
  match chan.type,chan.dir with
  | .dma,.write => {dev with dmaTxChans := dev.dmaTxChans.push chan.channelId}
  | .dma,.read => {dev with dmaRxChans := dev.dmaRxChans.push chan.channelId}
  | .vdma,.write => {dev with vdmaTxChans := dev.vdmaTxChans.push chan.channelId}
  | .vdma,.read => {dev with vdmaRxChans := dev.vdmaRxChans.push chan.channelId}

def categorizeChannels (dev : AxidmaDev) (channels : List AxidmaChan) (numChan : AxidmaNumChannels) :
    Library (Int × AxidmaDev) := do
  let allocated : Bool ← lcall (.malloc .channels numChan.numChannels)
  let dev := {dev with channels := []}
  if !allocated then
    return (-ENOMEM,dev)
  let allocated : Bool ← lcall (.malloc .dmaTxData numChan.numDmaTxChannels)
  if !allocated then
    lcall (.free .channels)
    return (-ENOMEM,dev)
  let dev := {dev with dmaTxChans := dev.dmaTxChans.allocated numChan.numDmaTxChannels}
  let allocated : Bool ← lcall (.malloc .dmaRxData numChan.numDmaRxChannels)
  if !allocated then
    lcall (.free .channels)
    lcall (.free .dmaTxData)
    return (-ENOMEM,dev)
  let dev := {dev with dmaRxChans := dev.dmaRxChans.allocated numChan.numDmaRxChannels}
  let allocated : Bool ← lcall (.malloc .vdmaTxData numChan.numVdmaTxChannels)
  if !allocated then
    lcall (.free .channels)
    lcall (.free .dmaTxData)
    lcall (.free .dmaRxData)
    return (-ENOMEM,dev)
  let dev := {dev with vdmaTxChans := dev.vdmaTxChans.allocated numChan.numVdmaTxChannels}
  let allocated : Bool ← lcall (.malloc .vdmaRxData numChan.numVdmaRxChannels)
  if !allocated then
    lcall (.free .channels)
    lcall (.free .dmaTxData)
    lcall (.free .dmaRxData)
    lcall (.free .vdmaTxData)
    return (-ENOMEM,dev)
  let dev := {dev with vdmaRxChans := dev.vdmaRxChans.allocated numChan.numVdmaRxChannels}
  return (0,channels.foldl placeChannel {dev with numChannels := numChan.numChannels})

def probeChannels (dev : AxidmaDev) : Library (Int × AxidmaDev) := do
  let (rc,numChan) ← lcall (.getNumDmaChannels dev.fd)
  if rc < 0 then
    return (rc,dev)
  else if numChan.numChannels = 0 then
    return (-ENODEV,dev)
  let allocated : Bool ← lcall (.malloc .driverChannels numChan.numChannels)
  if !allocated then
    return (-ENOMEM,dev)
  let (rc,channels) ← lcall (.getDmaChannels dev.fd numChan.numChannels)
  if rc < 0 then
    lcall (.free .driverChannels)
    return (rc,dev)
  let (rc,dev) ← categorizeChannels dev channels.1 numChan
  lcall (.free .driverChannels)
  return (rc,dev)

-- The handler of the signal, with the int that came with it. The assertion lets
-- num_channels pass.
def axidmaCallback (dev : AxidmaDev) (siInt : CInt) : Library Unit := do
  if !(decide (0 ≤ siInt.toInt) && decide (siInt.toInt ≤ dev.numChannels)) then
    Prog.fault .assertion
  else
  let channelId := siInt
  let chan ← Prog.deref .outOfBounds dev.channels[channelId.toInt.toNat]?
  match chan.callback with
  | some callback => lcall (.invokeCallback callback channelId chan.userData)
  | none => return ()

-- SIGRTMIN of the C library, which keeps two real-time signals for itself.
def LIBRARY_SIGNAL : Int := 34

def setupDmaCallback (dev : AxidmaDev) : Library Int := do
  let rc : Int ← lcall (.sigaction LIBRARY_SIGNAL)
  if rc < 0 then
    return rc
  let rc : Int ← lcall (.setDmaSignal dev.fd LIBRARY_SIGNAL)
  if rc < 0 then
    return rc
  return 0

def findChannel (dev : AxidmaDev) (channelId : CInt) : Option DmaChannel :=
  (dev.channels.take dev.numChannels).find? fun dmaChan => decide (dmaChan.channelId = channelId)

-- The result says whether a handle is returned; the structure is global, and
-- comes back as the call leaves it.
def axidmaInit (dev : AxidmaDev) : Library (Bool × AxidmaDev) := do
  if dev.initialized then
    Prog.fault .assertion
  else
  let fd : Int ← lcall .openDevice
  let dev := {dev with fd := fd}
  if fd < 0 then
    return (false,dev)
  let (rc,dev) ← probeChannels dev
  if rc < 0 then
    let _ : Int ← lcall (.close dev.fd)
    return (false,dev)
  let rc ← setupDmaCallback dev
  if rc < 0 then
    let _ : Int ← lcall (.close dev.fd)
    return (false,dev)
  return (true,{dev with initialized := true})

-- The lengths stay as they are, and so do the dangling pointers.
def axidmaDestroy (dev : AxidmaDev) : Library AxidmaDev := do
  lcall (.free .vdmaRxData)
  lcall (.free .vdmaTxData)
  lcall (.free .dmaRxData)
  lcall (.free .dmaTxData)
  lcall (.free .channels)
  let rc : Int ← lcall (.close dev.fd)
  if rc < 0 then
    Prog.fault .assertion
  else
  return {dev with initialized := false}

def axidmaSetCallback (dev : AxidmaDev) (channel : CInt) (callback : Option Nat) (data : Nat) : Library AxidmaDev := do
  match findChannel dev channel with
  | none => Prog.fault .assertion
  | some _ =>
  if 0 ≤ channel.toInt ∧ channel.toInt < dev.channels.length then
    return {dev with channels := dev.channels.modify channel.toInt.toNat fun chan =>
      {chan with callback := callback, userData := data}}
  else
    Prog.fault .outOfBounds

end Axidma
