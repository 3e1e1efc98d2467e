import Axidma.KernelCalls
import Axidma.Translation

namespace Axidma
open Interaction

def AXIDMA_DMA_TIMEOUT : Nat := 1000
def SIGRTMIN : Int := 32
def SIGRTMAX : Int := 64
def DMA_PREP_INTERRUPT : Nat := 1
def DMA_CTRL_ACK : Nat := 2
def SIZEOF_SCATTERLIST : SizeT := 32

def VALID_NOTIFY_SIGNAL (signal : Int) : Bool := decide (SIGRTMIN ≤ signal) && decide (signal ≤ SIGRTMAX)

-- cbData is the index of the slot that the pointer cb_data points to. The frame
-- is none where the structure on the stack was never given one.
structure AxidmaTransfer where
  sgLen : Int
  sgList : List Scatterlist
  wait : Bool
  cookie : Int
  comp : Completion
  dir : AxidmaDir
  type : AxidmaType
  channelId : CInt
  notifySignal : Int
  process : Option Task
  cbData : Int
  frame : Option AxidmaVideoFrame

def axidmaToDmaDir : AxidmaDir → DmaTransferDirection
  | .write => .memToDev
  | .read => .devToMem

def axidmaInitSgEntry (dev : AxidmaDevice) (buf : UserAddr) (bufLen : SizeT) : Except Int Scatterlist :=
  let dmaAddr := axidmaUservirtToDma dev buf bufLen
  if dmaAddr = 0 then .error (-EFAULT)
  else .ok ⟨dmaAddr,bufLen.setWidth 32,translationSource dev buf bufLen⟩

def axidmaGetChan (dev : AxidmaDevice) (channelId : CInt) : Option AxidmaChan :=
  dev.channels.find? fun chan => decide (chan.channelId = channelId)

def axidmaDmaCallback (cbData : AxidmaCbData) : Driver Unit := do
  match cbData.comp with
  | some comp => kcall (.complete comp)
  | none =>
    if VALID_NOTIFY_SIGNAL cbData.notifySignal then
      kcall (.sendSigInfo cbData.notifySignal cbData.process cbData.channelId)

def axidmaSetupVdmaConfig : XilinxVdmaConfig where
  frmDly := 0
  genLock := 0
  master := 0
  frmCntEn := 1
  park := 0
  parkFrm := 0
  coalesc := 1
  delay := 0
  reset := 0
  extFsync := 0

def AxidmaTransfer.requested (tfr : AxidmaTransfer) : Notification :=
  if tfr.wait then .completes tfr.comp
  else if VALID_NOTIFY_SIGNAL tfr.notifySignal then .signals tfr.notifySignal tfr.process tfr.channelId
  else .nothing

-- The first half of axidma_prep_transfer, up to the descriptor; an error is the
-- code with which it jumps to stop_dma.
def axidmaPrepDescriptor (chan : DmaChan) (tfr : AxidmaTransfer) : Driver (Except Int Prepared) := do
  let dmaDir := axidmaToDmaDir tfr.dir
  let dmaFlags := DMA_CTRL_ACK ||| DMA_PREP_INTERRUPT
  match tfr.type with
  | .dma =>
    let prepared := Prepared.slaveSg tfr.sgList tfr.sgLen dmaDir dmaFlags
    let dmaTxnd : Bool ← kcall (.dmaenginePrepSlaveSg chan prepared)
    return if dmaTxnd then .ok prepared else .error (-EBUSY)
  | .vdma =>
    let rc : Int ← kcall (.xilinxVdmaChannelSetConfig chan axidmaSetupVdmaConfig)
    if rc < 0 then
      return .error rc
    let entry ← Prog.deref .outOfBounds tfr.sgList.head?
    let frame : AxidmaVideoFrame ← match tfr.frame with
      | some frame => pure frame
      | none => kcall .uninitialisedFrame
    let template : DmaInterleavedTemplate := {
      dstStart := entry.dmaAddress
      srcStart := entry.dmaAddress
      dir := dmaDir
      numf := frame.height.signExtend 64
      frameSize := 1
      sgl0Size := (frame.width*frame.depth).signExtend 64
      sgl0Icg := 0
      source := entry.source }
    let prepared := Prepared.interleaved template dmaFlags
    let dmaTxnd : Bool ← kcall (.dmaenginePrepInterleavedDma chan prepared)
    return if dmaTxnd then .ok prepared else .error (-EBUSY)

-- The slot of a waiting transfer points to the completion on the caller's stack.
def AxidmaTransfer.slotContent (tfr : AxidmaTransfer) : AxidmaCbData :=
  if tfr.wait then ⟨tfr.channelId,-1,none,some tfr.comp⟩
  else ⟨tfr.channelId,tfr.notifySignal,tfr.process,none⟩

def axidmaPrepTransfer (axidmaChan : AxidmaChan) (tfr : AxidmaTransfer) : Driver (Int × AxidmaTransfer) := do
  let chan := axidmaChan.chan
  match ← axidmaPrepDescriptor chan tfr with
  | .error rc =>
    let _ : Int ← kcall (.dmaengineTerminateAll chan)
    return (rc,tfr)
  | .ok prepared =>
    kcall (.storeCbData tfr.cbData tfr.slotContent)
    if tfr.wait then
      kcall (.initCompletion tfr.comp)
    let dmaCookie : Int ← kcall (.dmaengineSubmit chan ⟨prepared,tfr.cbData,tfr.requested⟩)
    if dmaCookie < 0 then
      let _ : Int ← kcall (.dmaengineTerminateAll chan)
      return (-EBUSY,tfr)
    return (0,{tfr with cookie := dmaCookie})

-- prep in parts: what follows the descriptor, and what follows the answer to its
-- submission.
def afterSubmission (chan : DmaChan) (tfr : AxidmaTransfer) (dmaCookie : Int) : Driver (Int × AxidmaTransfer) := do
  if dmaCookie < 0 then
    let _ : Int ← kcall (.dmaengineTerminateAll chan)
    return (-EBUSY,tfr)
  return (0,{tfr with cookie := dmaCookie})

def afterDescriptor (chan : DmaChan) (tfr : AxidmaTransfer) : Except Int Prepared → Driver (Int × AxidmaTransfer)
  | .error rc => do
    let _ : Int ← kcall (.dmaengineTerminateAll chan)
    return (rc,tfr)
  | .ok prepared => do
    kcall (.storeCbData tfr.cbData tfr.slotContent)
    if tfr.wait then
      kcall (.initCompletion tfr.comp)
    let dmaCookie : Int ← kcall (.dmaengineSubmit chan ⟨prepared,tfr.cbData,tfr.requested⟩)
    afterSubmission chan tfr dmaCookie

theorem prep_parts (axidmaChan : AxidmaChan) (tfr : AxidmaTransfer) : axidmaPrepTransfer axidmaChan tfr =
    axidmaPrepDescriptor axidmaChan.chan tfr >>= afterDescriptor axidmaChan.chan tfr := rfl

def axidmaStartTransfer (axidmaChan : AxidmaChan) (tfr : AxidmaTransfer) : Driver Int := do
  let chan := axidmaChan.chan
  kcall (.dmaAsyncIssuePending chan)
  if tfr.wait then
    let timeRemain : Nat ← kcall (.waitForCompletionTimeout tfr.comp AXIDMA_DMA_TIMEOUT)
    let status : DmaStatus ← kcall (.dmaAsyncIsTxComplete chan tfr.cookie)
    if timeRemain = 0 then
      let _ : Int ← kcall (.dmaengineTerminateAll chan)
      return -ETIME
    else if status ≠ .complete then
      let _ : Int ← kcall (.dmaengineTerminateAll chan)
      return -EBUSY
  return 0

def axidmaGetNumChannels (dev : AxidmaDevice) : AxidmaNumChannels where
  numChannels := dev.numChans
  numDmaTxChannels := dev.numDmaTxChans
  numDmaRxChannels := dev.numDmaRxChans
  numVdmaTxChannels := dev.numVdmaTxChans
  numVdmaRxChannels := dev.numVdmaRxChans

def axidmaGetChannelInfo (dev : AxidmaDevice) : List AxidmaChan := dev.channels

def axidmaSetSignal (signal : Int) : Driver Int := do
  if !VALID_NOTIFY_SIGNAL signal then
    return -EINVAL
  kcall (.storeNotifySignal signal)
  return 0

-- The caller of a driver function: the current task, the name of its stack frame,
-- which names the completions on it, and the open file it came through.
structure Caller where
  current : Task
  call : Nat
  session : Nat
deriving DecidableEq

-- The transfer structures as the four entry points fill them. The completion in
-- one is on the caller's stack; cookie is unset until the submission.
def onewayTfr (dev : AxidmaDevice) (caller : Caller) (chan : AxidmaChan) (trans : AxidmaTransaction)
    (entry : Scatterlist) : AxidmaTransfer where
  sgList := [entry]
  sgLen := 1
  dir := chan.dir
  type := chan.type
  wait := trans.wait
  cookie := 0
  comp := ⟨caller.call,chan.dir⟩
  channelId := trans.channelId
  notifySignal := dev.notifySignal
  process := some caller.current
  cbData := trans.channelId.toInt
  frame := none

def txTfr (dev : AxidmaDevice) (caller : Caller) (txChan : AxidmaChan) (trans : AxidmaInoutTransaction)
    (entry : Scatterlist) : AxidmaTransfer where
  sgList := [entry]
  sgLen := 1
  dir := txChan.dir
  type := txChan.type
  wait := false
  cookie := 0
  comp := ⟨caller.call,txChan.dir⟩
  channelId := trans.txChannelId
  notifySignal := dev.notifySignal
  process := some caller.current
  cbData := trans.txChannelId.toInt
  frame := if txChan.type = .vdma then some trans.txFrame else none

-- The receive frame is copied under a test of the transmit channel's type.
def rxTfr (dev : AxidmaDevice) (caller : Caller) (txChan rxChan : AxidmaChan)
    (trans : AxidmaInoutTransaction) (entry : Scatterlist) : AxidmaTransfer where
  sgList := [entry]
  sgLen := 1
  dir := rxChan.dir
  type := rxChan.type
  wait := trans.wait
  cookie := 0
  comp := ⟨caller.call,rxChan.dir⟩
  channelId := trans.rxChannelId
  notifySignal := dev.notifySignal
  process := some caller.current
  cbData := trans.rxChannelId.toInt
  frame := if txChan.type = .vdma then some trans.rxFrame else none

def videoTfr (dev : AxidmaDevice) (caller : Caller) (trans : AxidmaVideoTransaction) (dir : AxidmaDir)
    (sgList : List Scatterlist) : AxidmaTransfer where
  sgList := sgList
  sgLen := trans.numFrameBuffers.toInt
  dir := dir
  type := .vdma
  wait := false
  cookie := 0
  comp := ⟨caller.call,dir⟩
  channelId := trans.channelId
  notifySignal := dev.notifySignal
  process := some caller.current
  cbData := trans.channelId.toInt
  frame := some trans.frame

def onewayTransfer (dir : AxidmaDir) (dev : AxidmaDevice) (caller : Caller) (trans : AxidmaTransaction) :
    Driver Int := do
  match axidmaGetChan dev trans.channelId with
  | none => return -ENODEV
  | some chan =>
  if chan.dir ≠ dir then
    return -ENODEV
  match axidmaInitSgEntry dev trans.buf trans.bufLen with
  | .error rc => return rc
  | .ok entry =>
  let (rc,tfr) ← axidmaPrepTransfer chan (onewayTfr dev caller chan trans entry)
  if rc < 0 then
    return rc
  let rc ← axidmaStartTransfer chan tfr
  if rc < 0 then
    return rc
  return 0

def axidmaReadTransfer : AxidmaDevice → Caller → AxidmaTransaction → Driver Int := onewayTransfer .read
def axidmaWriteTransfer : AxidmaDevice → Caller → AxidmaTransaction → Driver Int := onewayTransfer .write

def axidmaRwTransfer (dev : AxidmaDevice) (caller : Caller) (trans : AxidmaInoutTransaction) : Driver Int := do
  match axidmaGetChan dev trans.txChannelId with
  | none => return -ENODEV
  | some txChan =>
  if txChan.dir ≠ .write then
    return -ENODEV
  match axidmaGetChan dev trans.rxChannelId with
  | none => return -ENODEV
  | some rxChan =>
  if rxChan.dir ≠ .read then
    return -ENODEV
  match axidmaInitSgEntry dev trans.txBuf trans.txBufLen with
  | .error rc => return rc
  | .ok txEntry =>
  match axidmaInitSgEntry dev trans.rxBuf trans.rxBufLen with
  | .error rc => return rc
  | .ok rxEntry =>
  let (rc,tx) ← axidmaPrepTransfer txChan (txTfr dev caller txChan trans txEntry)
  if rc < 0 then
    return rc
  let (rc,rx) ← axidmaPrepTransfer rxChan (rxTfr dev caller txChan rxChan trans rxEntry)
  if rc < 0 then
    return rc
  let rc ← axidmaStartTransfer txChan tx
  if rc < 0 then
    return rc
  let rc ← axidmaStartTransfer rxChan rx
  if rc < 0 then
    return rc
  return 0

def AxidmaVideoTransaction.sgList (trans : AxidmaVideoTransaction) (dev : AxidmaDevice) :
    Except Int (List Scatterlist) :=
  let imageSize : SizeT := (trans.frame.width*trans.frame.height*trans.frame.depth).signExtend 64
  trans.frameBuffers.mapM fun buf => axidmaInitSgEntry dev buf imageSize

-- What lies between kmalloc and free_sg_list; its result is the value of rc
-- there. The channel test reads the missing channel, and lets any other pass.
def videoTransferBody (dev : AxidmaDevice) (caller : Caller) (trans : AxidmaVideoTransaction)
    (dir : AxidmaDir) : Driver Int := do
  match trans.sgList dev with
  | .error rc => return rc
  | .ok sgList =>
  let chan := axidmaGetChan dev trans.channelId
  if ← (pure chan.isNone <&&> (do return (← Prog.deref .nullPointer chan).dir != dir) <&&>
      (do return (← Prog.deref .nullPointer chan).type != .vdma)) then
    return -ENODEV
  let chan ← Prog.deref .nullPointer chan
  let (rc,transfer) ← axidmaPrepTransfer chan (videoTfr dev caller trans dir sgList)
  if rc < 0 then
    return rc
  axidmaStartTransfer chan transfer

def axidmaVideoTransfer (dev : AxidmaDevice) (caller : Caller) (trans : AxidmaVideoTransaction)
    (dir : AxidmaDir) : Driver Int := do
  let reply ← kcall (.kmalloc (trans.numFrameBuffers.signExtend 64*SIZEOF_SCATTERLIST))
  match reply with
  | none => return 0
  | some sgList =>
    let _rc ← videoTransferBody dev caller trans dir
    kcall (.kfree sgList)
    return 0

def axidmaStopChannel (dev : AxidmaDevice) (chanInfo : AxidmaChan) : Driver Int := do
  let chan := axidmaGetChan dev chanInfo.channelId
  if ← (pure chan.isNone <&&> (do return (← Prog.deref .nullPointer chan).type != chanInfo.type) <&&>
      (do return (← Prog.deref .nullPointer chan).dir != chanInfo.dir)) then
    return -ENODEV
  let chan ← Prog.deref .nullPointer chan
  kcall (.dmaengineTerminateAll chan.chan)

inductive Request where
  | read (transaction : AxidmaTransaction)
  | write (transaction : AxidmaTransaction)
  | readwrite (transaction : AxidmaInoutTransaction)
  | video (transaction : AxidmaVideoTransaction) (dir : AxidmaDir)
  | stop (chanInfo : AxidmaChan)

def Request.program (dev : AxidmaDevice) (caller : Caller) : Request → Driver Int
  | .read transaction => axidmaReadTransfer dev caller transaction
  | .write transaction => axidmaWriteTransfer dev caller transaction
  | .readwrite transaction => axidmaRwTransfer dev caller transaction
  | .video transaction dir => axidmaVideoTransfer dev caller transaction dir
  | .stop chanInfo => axidmaStopChannel dev chanInfo

inductive BufferRequest where
  | oneway (dir : AxidmaDir) (transaction : AxidmaTransaction)
  | readwrite (transaction : AxidmaInoutTransaction)

def BufferRequest.request : BufferRequest → Request
  | .oneway .read transaction => .read transaction
  | .oneway .write transaction => .write transaction
  | .readwrite transaction => .readwrite transaction

theorem oneway_program {dev : AxidmaDevice} {caller : Caller} {dir : AxidmaDir} {transaction : AxidmaTransaction} :
    (BufferRequest.oneway dir transaction).request.program dev caller = onewayTransfer dir dev caller transaction := by
  cases dir <;> rfl

def Request.ranges : Request → List (UserAddr × SizeT)
  | .read transaction => [(transaction.buf,transaction.bufLen)]
  | .write transaction => [(transaction.buf,transaction.bufLen)]
  | .readwrite transaction => [(transaction.txBuf,transaction.txBufLen),(transaction.rxBuf,transaction.rxBufLen)]
  | .video transaction _ =>
    let imageSize : SizeT := (transaction.frame.width*transaction.frame.height*transaction.frame.depth).signExtend 64
    transaction.frameBuffers.map fun buf => (buf,imageSize)
  | .stop _ => []

def Request.translations (request : Request) (dev : AxidmaDevice) : List DmaAddr :=
  request.ranges.map fun range => axidmaUservirtToDma dev range.1 range.2

def Request.sources (request : Request) (dev : AxidmaDevice) : List Source :=
  request.ranges.filterMap fun range => translationSource dev range.1 range.2

end Axidma
