import Axidma.CharDevice
import Axidma.DeviceFields
import Axidma.TransferCalls

namespace Axidma.ClientAccess
open Interaction

-- The functions of the driver that clients get to, with each access to a field
-- of the structure where the source has it.
def axidmaGetChan (channelId : CInt) : OnDevice (Option AxidmaChan) := do
  let numChans : Int ← dcall (.load .numChans)
  if numChans ≤ 0 then
    return none
  let channels : Nat × List AxidmaChan ← dcall (.load .channels)
  return Axidma.axidmaGetChan {blankDevice with channels := channels.2.take numChans.toNat} channelId

-- The second list is walked when the first one has no buffer for the request.
def axidmaInitSgEntry (buf : UserAddr) (bufLen : SizeT) : OnDevice (Except Int Scatterlist) := do
  let dmabufs : List AxidmaDmaAllocation ← dcall (.load .dmabufList)
  if (dmabufs.find? fun alloc => validDmaRequest alloc.userAddr alloc.size buf bufLen).isSome then
    return Axidma.axidmaInitSgEntry {blankDevice with dmabufList := dmabufs} buf bufLen
  let external : List AxidmaExternalAllocation ← dcall (.load .externalDmabufs)
  return Axidma.axidmaInitSgEntry {blankDevice with dmabufList := dmabufs, externalDmabufs := external} buf bufLen

-- What a transfer structure takes from the device: the signal, and the address
-- of the array with the slots.
def loadNotification : OnDevice AxidmaDevice := do
  let notifySignal : Int ← dcall (.load .notifySignal)
  let _cbData : Nat ← dcall (.load .cbData)
  return {blankDevice with notifySignal := notifySignal}

def onewayTransfer (dir : AxidmaDir) (caller : Caller) (trans : AxidmaTransaction) : OnDevice Int := do
  match ← axidmaGetChan trans.channelId with
  | none => return -ENODEV
  | some chan =>
  if chan.dir ≠ dir then
    return -ENODEV
  match ← axidmaInitSgEntry trans.buf trans.bufLen with
  | .error rc => return rc
  | .ok entry =>
  let dev ← loadNotification
  let (rc,tfr) ← lift (axidmaPrepTransfer chan (onewayTfr dev caller chan trans entry))
  if rc < 0 then
    return rc
  let rc ← lift (axidmaStartTransfer chan tfr)
  if rc < 0 then
    return rc
  return 0

def axidmaReadTransfer : Caller → AxidmaTransaction → OnDevice Int := onewayTransfer .read
def axidmaWriteTransfer : Caller → AxidmaTransaction → OnDevice Int := onewayTransfer .write

def axidmaRwTransfer (caller : Caller) (trans : AxidmaInoutTransaction) : OnDevice Int := do
  match ← axidmaGetChan trans.txChannelId with
  | none => return -ENODEV
  | some txChan =>
  if txChan.dir ≠ .write then
    return -ENODEV
  match ← axidmaGetChan trans.rxChannelId with
  | none => return -ENODEV
  | some rxChan =>
  if rxChan.dir ≠ .read then
    return -ENODEV
  match ← axidmaInitSgEntry trans.txBuf trans.txBufLen with
  | .error rc => return rc
  | .ok txEntry =>
  match ← axidmaInitSgEntry trans.rxBuf trans.rxBufLen with
  | .error rc => return rc
  | .ok rxEntry =>
  let txDev ← loadNotification
  let rxDev ← loadNotification
  let (rc,tx) ← lift (axidmaPrepTransfer txChan (txTfr txDev caller txChan trans txEntry))
  if rc < 0 then
    return rc
  let (rc,rx) ← lift (axidmaPrepTransfer rxChan (rxTfr rxDev caller txChan rxChan trans rxEntry))
  if rc < 0 then
    return rc
  let rc ← lift (axidmaStartTransfer txChan tx)
  if rc < 0 then
    return rc
  let rc ← lift (axidmaStartTransfer rxChan rx)
  if rc < 0 then
    return rc
  return 0

def initSgEntries (imageSize : SizeT) : List UserAddr → OnDevice (Except Int (List Scatterlist))
  | [] => return .ok []
  | buf :: rest => do
    match ← axidmaInitSgEntry buf imageSize with
    | .error rc => return .error rc
    | .ok entry =>
    match ← initSgEntries imageSize rest with
    | .error rc => return .error rc
    | .ok entries => return .ok (entry :: entries)

def videoTransferBody (notifySignal : Int) (caller : Caller) (trans : AxidmaVideoTransaction) (dir : AxidmaDir) :
    OnDevice Int := do
  let imageSize : SizeT := (trans.frame.width*trans.frame.height*trans.frame.depth).signExtend 64
  match ← initSgEntries imageSize trans.frameBuffers with
  | .error rc => return rc
  | .ok sgList =>
  let chan ← axidmaGetChan trans.channelId
  -- The test that is meant to refuse a channel reads it when there is none.
  let chan ← Prog.deref .nullPointer chan
  let _cbData : Nat ← dcall (.load .cbData)
  let (rc,transfer) ← lift (axidmaPrepTransfer chan (videoTfr {blankDevice with notifySignal := notifySignal} caller trans dir sgList))
  if rc < 0 then
    return rc
  lift (axidmaStartTransfer chan transfer)

def axidmaVideoTransfer (caller : Caller) (trans : AxidmaVideoTransaction) (dir : AxidmaDir) : OnDevice Int := do
  let notifySignal : Int ← dcall (.load .notifySignal)
  let reply ← dcall (.kernel (.kmalloc (trans.numFrameBuffers.signExtend 64*SIZEOF_SCATTERLIST)))
  match reply with
  | none => return 0
  | some sgList =>
    let _rc ← videoTransferBody notifySignal caller trans dir
    dcall (.kernel (.kfree sgList))
    return 0

def axidmaStopChannel (chanInfo : AxidmaChan) : OnDevice Int := do
  let chan ← axidmaGetChan chanInfo.channelId
  let chan ← Prog.deref .nullPointer chan
  dcall (.kernel (.dmaengineTerminateAll chan.chan))

def axidmaGetNumChannels : OnDevice AxidmaNumChannels := do
  let numChans : Int ← dcall (.load .numChans)
  let numDmaTxChans : Nat ← dcall (.load .numDmaTxChans)
  let numDmaRxChans : Nat ← dcall (.load .numDmaRxChans)
  let numVdmaTxChans : Nat ← dcall (.load .numVdmaTxChans)
  let numVdmaRxChans : Nat ← dcall (.load .numVdmaRxChans)
  return ⟨numChans.toNat,numDmaTxChans,numDmaRxChans,numVdmaTxChans,numVdmaRxChans⟩

def fetch (kind : UserStruct) (arg : UserAddr) (next : kind.Value → OnDevice Int) : OnDevice Int := do
  let (left,value) ← dcall (.kernel (.copyFromUser kind arg))
  if left ≠ 0 then
    return -EFAULT
  next value

theorem buffers_filled (trans : UserVideoTransaction) (buffers : (UserStruct.frameBuffers trans.numFrameBuffers.toInt.toNat).Value) :
    buffers.1.length = trans.numFrameBuffers.toInt.toNat := buffers.2

def ioctlVideo (caller : Caller) (arg : UserAddr) (dir : AxidmaDir) : OnDevice Int :=
  fetch .videoTransaction arg fun (trans : UserVideoTransaction) => do
    match ← dcall (.kernel (.kmalloc (trans.numFrameBuffers.signExtend 64*SIZEOF_POINTER))) with
    | none => return -ENOMEM
    | some frameBuffers =>
    let user ← Prog.deref .badAddress (← dcall (.kernel (.readUserPointer arg)))
    let (left,buffers) ← dcall (.kernel (.copyFromUser (.frameBuffers trans.numFrameBuffers.toInt.toNat) user))
    if left ≠ 0 then
      dcall (.kernel (.kfree frameBuffers))
      return -EFAULT
    let rc ← axidmaVideoTransfer caller ⟨trans.channelId,trans.numFrameBuffers,buffers.1,trans.frame,buffers_filled trans buffers⟩ dir
    dcall (.kernel (.kfree frameBuffers))
    return rc

def getDmaChannels (channels : UserAddr) : OnDevice Int := do
  let _numChans ← axidmaGetNumChannels
  let kernChans : Nat × List AxidmaChan ← dcall (.load .channels)
  let left : Nat ← dcall (.kernel (.copyToUser channels (.channels kernChans.2)))
  return if left ≠ 0 then -EFAULT else 0

def axidmaPutExternal (userAddr : UserAddr) : OnDevice Int := do
  let external : List AxidmaExternalAllocation ← dcall (.load .externalDmabufs)
  lift (Axidma.axidmaPutExternal {blankDevice with externalDmabufs := external} userAddr)

def ioctlCommand (caller : Caller) (cmd : CInt) (arg : UserAddr) : OnDevice Int :=
  if cmd = AXIDMA_GET_NUM_DMA_CHANNELS then do
    let numChans ← axidmaGetNumChannels
    let left : Nat ← dcall (.kernel (.copyToUser arg (.numChannels numChans)))
    return if left ≠ 0 then -EFAULT else 0
  else if cmd = AXIDMA_GET_DMA_CHANNELS then
    fetch .channelInfo arg fun (channels : UserAddr) => getDmaChannels channels
  else if cmd = AXIDMA_SET_DMA_SIGNAL then
    lift (axidmaSetSignal (arg.setWidth 32).toInt)
  else if cmd = AXIDMA_REGISTER_BUFFER then
    fetch .registerBuffer arg fun (extBuf : AxidmaRegisterBuffer) => lift (axidmaGetExternal caller extBuf)
  else if cmd = AXIDMA_DMA_READ then
    fetch .transaction arg fun (trans : AxidmaTransaction) => axidmaReadTransfer caller trans
  else if cmd = AXIDMA_DMA_WRITE then
    fetch .transaction arg fun (trans : AxidmaTransaction) => axidmaWriteTransfer caller trans
  else if cmd = AXIDMA_DMA_READWRITE then
    fetch .inoutTransaction arg fun (trans : AxidmaInoutTransaction) => axidmaRwTransfer caller trans
  else if cmd = AXIDMA_DMA_VIDEO_READ then
    ioctlVideo caller arg .read
  else if cmd = AXIDMA_DMA_VIDEO_WRITE then
    ioctlVideo caller arg .write
  else if cmd = AXIDMA_STOP_DMA_CHANNEL then do
    let (_,chanInfo) ← dcall (.kernel (.copyFromUser .chan arg))
    axidmaStopChannel chanInfo
  else if cmd = AXIDMA_UNREGISTER_BUFFER then
    axidmaPutExternal arg
  else
    return -ENOTTY

def axidmaIoctl (caller : Caller) (cmd : CInt) (arg : UserAddr) : OnDevice Int := do
  if IOC_TYPE cmd ≠ AXIDMA_IOCTL_MAGIC then
    return -ENOTTY
  else if IOC_NR cmd ≥ AXIDMA_NUM_IOCTLS then
    return -ENOTTY
  let accessible : Bool ←
    if IOC_DIR cmd &&& IOC_READ ≠ 0 then lift (axidmaAccessOk arg (IOC_SIZE cmd) false)
    else if IOC_DIR cmd &&& IOC_WRITE ≠ 0 then lift (axidmaAccessOk arg (IOC_SIZE cmd) true)
    else pure true
  if !accessible then
    return -EFAULT
  ioctlCommand caller cmd arg

def axidmaDmaCallback (slot : Int) : OnDevice Int := do
  let cbData : AxidmaCbData ← dcall (.load (.slot slot))
  lift (Axidma.axidmaDmaCallback cbData)
  return 0

inductive ClientCall where
  | mmap (caller : Caller) (vma : VmAreaStruct)
  | munmap (alloc : AxidmaDmaAllocation)
  | ioctl (caller : Caller) (cmd : CInt) (arg : UserAddr)

def ClientCall.program : ClientCall → OnDevice Int
  | .mmap caller vma => lift (axidmaMmap caller vma)
  | .munmap alloc => do
    lift (axidmaVmaClose alloc)
    return 0
  | .ioctl caller cmd arg => axidmaIoctl caller cmd arg

-- The same functions on a structure that holds still: each access answered by
-- what one device says.
def fieldOf (dev : AxidmaDevice) : (field : Field) → field.Value
  | .numChans => (dev.numChans : Int)
  | .numDmaTxChans => dev.numDmaTxChans
  | .numDmaRxChans => dev.numDmaRxChans
  | .numVdmaTxChans => dev.numVdmaTxChans
  | .numVdmaRxChans => dev.numVdmaRxChans
  | .notifySignal => dev.notifySignal
  | .cbData => (0 : Nat)
  | .channels => ((0 : Nat),dev.channels)
  | .dmabufList => dev.dmabufList
  | .externalDmabufs => dev.externalDmabufs
  | .slot _ => ⟨0,-1,none,none⟩

def settled {α : Type} (dev : AxidmaDevice) : OnDevice α → Driver α
  | .ret value => .ret value
  | .fault error => .fault error
  | .call (.kernel op) next => .call op fun reply => settled dev (next reply)
  | .call (.load field) next => settled dev (next (fieldOf dev field))
  | .call _ _ => .fault .outOfBounds

section
variable {α β : Type} {dev : AxidmaDevice} {caller : Caller}

@[simp] theorem settled_ret (value : α) : settled dev (.ret value) = .ret value := rfl
@[simp] theorem settled_fault (error : Fault) : settled dev (.fault error : OnDevice α) = .fault error := rfl
@[simp] theorem settled_kernel (op : KernelCall) (next : op.Reply → OnDevice α) :
    settled dev (.call (.kernel op) next) = .call op fun reply => settled dev (next reply) := rfl
@[simp] theorem settled_load (field : Field) (next : field.Value → OnDevice α) :
    settled dev (.call (.load field) next) = settled dev (next (fieldOf dev field)) := rfl

@[simp] theorem settled_lift (p : Driver α) : settled dev (lift p) = p := by
  induction p with
  | ret value => rfl
  | fault error => rfl
  | call op next ih => simp [lift,ih]

@[simp] theorem settled_bind (p : OnDevice α) (f : α → OnDevice β) :
    settled dev (p >>= f) = settled dev p >>= fun value => settled dev (f value) := by
  induction p with
  | ret value => rfl
  | fault error => rfl
  | call op next ih =>
    cases op with
    | kernel op => simp [ih]
    | load field => simp [ih]
    | _ => rfl

@[simp] theorem settled_if {c : Prop} [Decidable c] (p q : OnDevice α) :
    settled dev (if c then p else q) = if c then settled dev p else settled dev q := by
  split
  · rfl
  · rfl

@[simp] theorem settled_deref (missing : Fault) (found : Option α) :
    settled dev (Prog.deref missing found) = Prog.deref missing found := by
  cases found <;> rfl

theorem getChan_settled {channelId : CInt} : settled dev (axidmaGetChan channelId) = .ret (Axidma.axidmaGetChan dev channelId) := by
  unfold axidmaGetChan
  simp only [dcall,Prog.ask,Prog.call_bind,Prog.ret_bind,Prog.pure_eq,settled_load,settled_if,settled_ret]
  split
  · rename_i empty
    change (dev.channels.length : Int) ≤ 0 at empty
    have none : dev.channels = [] := List.length_eq_zero_iff.mp (by omega)
    simp [Axidma.axidmaGetChan,none]
  · simp [Axidma.axidmaGetChan,fieldOf,AxidmaDevice.numChans]

theorem initSgEntry_settled {buf : UserAddr} {bufLen : SizeT} :
    settled dev (axidmaInitSgEntry buf bufLen) = .ret (Axidma.axidmaInitSgEntry dev buf bufLen) := by
  unfold axidmaInitSgEntry
  simp only [dcall,Prog.ask,Prog.call_bind,Prog.ret_bind,Prog.pure_eq,settled_load,settled_if,settled_ret]
  split
  · rename_i found
    change (dev.dmabufList.find? _).isSome = true at found
    obtain ⟨alloc,found⟩ := Option.isSome_iff_exists.mp found
    simp [Axidma.axidmaInitSgEntry,axidmaUservirtToDma,translationSource,fieldOf,found]
  · rfl

theorem notification_settled : settled dev loadNotification = .ret {blankDevice with notifySignal := dev.notifySignal} := rfl

theorem oneway_settled {dir : AxidmaDir} {trans : AxidmaTransaction} :
    settled dev (onewayTransfer dir caller trans) = Axidma.onewayTransfer dir dev caller trans := by
  unfold onewayTransfer Axidma.onewayTransfer
  simp only [settled_bind,getChan_settled,Prog.ret_bind]
  cases Axidma.axidmaGetChan dev trans.channelId with
  | none => rfl
  | some chan =>
    simp only [settled_if,settled_bind,initSgEntry_settled,Prog.ret_bind]
    cases Axidma.axidmaInitSgEntry dev trans.buf trans.bufLen with
    | error rc => rfl
    | ok entry =>
      simp only [settled_if,settled_bind,settled_lift,notification_settled,Prog.ret_bind,Prog.pure_eq,settled_ret]
      rfl

theorem rw_settled {trans : AxidmaInoutTransaction} :
    settled dev (axidmaRwTransfer caller trans) = Axidma.axidmaRwTransfer dev caller trans := by
  unfold axidmaRwTransfer Axidma.axidmaRwTransfer
  simp only [settled_bind,getChan_settled,Prog.ret_bind]
  cases Axidma.axidmaGetChan dev trans.txChannelId with
  | none => rfl
  | some txChan =>
    simp only [settled_if,settled_bind,getChan_settled,Prog.ret_bind]
    cases Axidma.axidmaGetChan dev trans.rxChannelId with
    | none => rfl
    | some rxChan =>
      simp only [settled_if,settled_bind,initSgEntry_settled,Prog.ret_bind]
      cases Axidma.axidmaInitSgEntry dev trans.txBuf trans.txBufLen with
      | error rc => rfl
      | ok txEntry =>
        simp only [settled_bind,initSgEntry_settled,Prog.ret_bind]
        cases Axidma.axidmaInitSgEntry dev trans.rxBuf trans.rxBufLen with
        | error rc => rfl
        | ok rxEntry =>
          simp only [settled_if,settled_bind,settled_lift,notification_settled,Prog.ret_bind,Prog.pure_eq,settled_ret]
          rfl

theorem entries_settled {imageSize : SizeT} {bufs : List UserAddr} : settled dev (initSgEntries imageSize bufs) =
    .ret (bufs.mapM fun buf => Axidma.axidmaInitSgEntry dev buf imageSize) := by
  induction bufs with
  | nil => rfl
  | cons buf rest ih =>
    unfold initSgEntries
    simp only [settled_bind,initSgEntry_settled,Prog.ret_bind,List.mapM_cons]
    cases Axidma.axidmaInitSgEntry dev buf imageSize with
    | error rc => rfl
    | ok entry =>
      simp only [settled_bind,ih,Prog.ret_bind]
      cases rest.mapM fun buf => Axidma.axidmaInitSgEntry dev buf imageSize with
      | error rc => rfl
      | ok entries => rfl

theorem body_settled {trans : AxidmaVideoTransaction} {dir : AxidmaDir} :
    settled dev (videoTransferBody dev.notifySignal caller trans dir) = Axidma.videoTransferBody dev caller trans dir := by
  have entries : settled dev (initSgEntries ((trans.frame.width*trans.frame.height*trans.frame.depth).signExtend 64)
      trans.frameBuffers) = .ret (trans.sgList dev) := entries_settled
  unfold videoTransferBody Axidma.videoTransferBody
  simp only [settled_bind,entries,Prog.ret_bind,channel_test]
  cases trans.sgList dev with
  | error rc => rfl
  | ok sgList =>
    simp only [settled_bind,getChan_settled,Prog.ret_bind]
    cases Axidma.axidmaGetChan dev trans.channelId with
    | none => rfl
    | some chan =>
      simp only [Prog.deref_some,Prog.ret_bind,dcall,Prog.ask,settled_ret,settled_load,settled_if,settled_lift,Prog.pure_eq]
      rfl

theorem video_settled {trans : AxidmaVideoTransaction} {dir : AxidmaDir} :
    settled dev (axidmaVideoTransfer caller trans dir) = Axidma.axidmaVideoTransfer dev caller trans dir := by
  unfold axidmaVideoTransfer Axidma.axidmaVideoTransfer
  simp only [dcall,kcall,Prog.ask,Prog.call_bind,Prog.ret_bind,settled_load,settled_kernel]
  congr 1
  funext reply
  cases reply with
  | none => rfl
  | some sgList =>
    have body : settled dev (videoTransferBody (fieldOf dev .notifySignal) caller trans dir) = _ := body_settled
    simp only [settled_bind,body,settled_kernel]
    rfl

theorem stop_settled {chanInfo : AxidmaChan} :
    settled dev (axidmaStopChannel chanInfo) = Axidma.axidmaStopChannel dev chanInfo := by
  unfold axidmaStopChannel Axidma.axidmaStopChannel
  simp only [settled_bind,getChan_settled,Prog.ret_bind,channel_test]
  cases Axidma.axidmaGetChan dev chanInfo.channelId with
  | none => rfl
  | some chan => rfl

theorem numChannels_settled : settled dev axidmaGetNumChannels = .ret (Axidma.axidmaGetNumChannels dev) := by
  unfold axidmaGetNumChannels
  simp [fieldOf,Axidma.axidmaGetNumChannels]

theorem fetch_settled {kind : UserStruct} {arg : UserAddr} {next : kind.Value → OnDevice Int} :
    settled dev (fetch kind arg next) = Axidma.fetch kind arg fun value => settled dev (next value) := by
  unfold fetch Axidma.fetch
  simp only [dcall,kcall,Prog.ask,Prog.call_bind,Prog.ret_bind,settled_kernel,settled_if]
  rfl

theorem ioctlVideo_settled {arg : UserAddr} {dir : AxidmaDir} :
    settled dev (ioctlVideo caller arg dir) = Axidma.ioctlVideo dev caller arg dir := by
  unfold ioctlVideo Axidma.ioctlVideo
  refine fetch_settled.trans (congrArg (Axidma.fetch .videoTransaction arg) (funext fun trans => ?_))
  unfold videoFetched
  simp only [dcall,kcall,Prog.ask,Prog.call_bind,Prog.ret_bind,settled_kernel]
  congr 1
  funext frameBuffers
  cases frameBuffers with
  | none => rfl
  | some frameBuffers =>
    simp only [settled_kernel,settled_if,settled_bind,settled_deref,video_settled]
    rfl

theorem put_settled {userAddr : UserAddr} :
    settled dev (axidmaPutExternal userAddr) = Axidma.axidmaPutExternal dev userAddr := by
  unfold axidmaPutExternal
  simp only [dcall,Prog.ask,Prog.call_bind,Prog.ret_bind,settled_load,settled_lift]
  rfl

theorem info_settled {channels : UserAddr} : settled dev (getDmaChannels channels) = (do
    let left : Nat ← kcall (.copyToUser channels (.channels (axidmaGetChannelInfo dev)))
    return if left ≠ 0 then -EFAULT else 0) := by
  unfold getDmaChannels
  simp only [settled_bind,numChannels_settled,Prog.ret_bind]
  rfl

theorem command_settled {cmd : CInt} {arg : UserAddr} :
    settled dev (ioctlCommand caller cmd arg) = Axidma.ioctlCommand dev caller cmd arg := by
  unfold ioctlCommand Axidma.ioctlCommand
  simp only [settled_if]
  refine ite_congr rfl (fun _ => ?_) fun _ => ?_
  · simp only [settled_bind,numChannels_settled,Prog.ret_bind]
    rfl
  refine ite_congr rfl (fun _ => ?_) fun _ => ?_
  · exact fetch_settled.trans (congrArg (Axidma.fetch .channelInfo arg) (funext fun _ => info_settled))
  refine ite_congr rfl (fun _ => settled_lift _) fun _ => ?_
  refine ite_congr rfl (fun _ => ?_) fun _ => ?_
  · exact fetch_settled.trans (congrArg (Axidma.fetch .registerBuffer arg) (funext fun _ => settled_lift _))
  refine ite_congr rfl (fun _ => ?_) fun _ => ?_
  · exact fetch_settled.trans (congrArg (Axidma.fetch .transaction arg) (funext fun _ => oneway_settled))
  refine ite_congr rfl (fun _ => ?_) fun _ => ?_
  · exact fetch_settled.trans (congrArg (Axidma.fetch .transaction arg) (funext fun _ => oneway_settled))
  refine ite_congr rfl (fun _ => ?_) fun _ => ?_
  · exact fetch_settled.trans (congrArg (Axidma.fetch .inoutTransaction arg) (funext fun _ => rw_settled))
  refine ite_congr rfl (fun _ => ioctlVideo_settled) fun _ => ?_
  refine ite_congr rfl (fun _ => ioctlVideo_settled) fun _ => ?_
  refine ite_congr rfl (fun _ => ?_) fun _ => ?_
  · exact congrArg (Prog.call (KernelCall.copyFromUser .chan arg)) (funext fun _ => stop_settled)
  refine ite_congr rfl (fun _ => put_settled) fun _ => rfl

-- On a structure at rest, the ioctl that goes to the fields is the one on the
-- device they make up.
theorem ioctl_settled {cmd : CInt} {arg : UserAddr} :
    settled dev (axidmaIoctl caller cmd arg) = Axidma.axidmaIoctl dev caller cmd arg := by
  unfold axidmaIoctl Axidma.axidmaIoctl
  simp only [settled_if,settled_bind,settled_lift,command_settled,settled_ret,Prog.pure_eq]

end
end Axidma.ClientAccess
