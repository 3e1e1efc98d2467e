import Axidma.Transfers

namespace Axidma
open Interaction

def O_EXCL : CInt := 0x80
def SIZEOF_DMA_ALLOCATION : SizeT := 48
def SIZEOF_EXTERNAL_ALLOCATION : SizeT := 64
def SIZEOF_POINTER : SizeT := 8

def AXIDMA_IOCTL_MAGIC : Nat := 0x57
def AXIDMA_NUM_IOCTLS : Nat := 10
def IOC_WRITE : Nat := 1
def IOC_READ : Nat := 2

def IOC (dir nr size : Nat) : CInt := BitVec.ofNat 32 (dir*2^30+size*2^16+AXIDMA_IOCTL_MAGIC*2^8+nr)
def IOC_DIR (cmd : CInt) : Nat := cmd.toNat/2^30
def IOC_SIZE (cmd : CInt) : Nat := cmd.toNat/2^16%2^14
def IOC_TYPE (cmd : CInt) : Nat := cmd.toNat/2^8%2^8
def IOC_NR (cmd : CInt) : Nat := cmd.toNat%2^8

def AXIDMA_GET_NUM_DMA_CHANNELS : CInt := IOC IOC_WRITE 0 20
def AXIDMA_GET_DMA_CHANNELS : CInt := IOC IOC_READ 1 8
def AXIDMA_SET_DMA_SIGNAL : CInt := IOC 0 2 0
def AXIDMA_REGISTER_BUFFER : CInt := IOC IOC_READ 3 24
def AXIDMA_DMA_READ : CInt := IOC IOC_READ 4 40
def AXIDMA_DMA_WRITE : CInt := IOC IOC_READ 5 40
def AXIDMA_DMA_READWRITE : CInt := IOC IOC_READ 6 72
def AXIDMA_DMA_VIDEO_READ : CInt := IOC IOC_READ 7 32
def AXIDMA_DMA_VIDEO_WRITE : CInt := IOC IOC_READ 8 32
def AXIDMA_STOP_DMA_CHANNEL : CInt := IOC IOC_READ 9 32
def AXIDMA_UNREGISTER_BUFFER : CInt := IOC 0 10 0

-- The address pushed last is at the head of the list, as list_add leaves it.
def axidmaGetExternal (caller : Caller) (extBuf : AxidmaRegisterBuffer) : Driver Int := do
  match ← kcall (.kmalloc SIZEOF_EXTERNAL_ALLOCATION) with
  | none => return -ENOMEM
  | some dmaAlloc =>
  match ← kcall (.dmaBufGet extBuf.fd) with
  | .error rc =>
    kcall (.kfree dmaAlloc)
    return rc.rc
  | .ok dmaBuf =>
  match ← kcall (.dmaBufAttach dmaBuf) with
  | .error rc =>
    kcall (.dmaBufPut dmaBuf)
    kcall (.kfree dmaAlloc)
    return rc.rc
  | .ok dmaAttach =>
  match ← kcall (.dmaBufMapAttachment dmaAttach) with
  | .error rc =>
    kcall (.dmaBufDetach dmaBuf dmaAttach)
    kcall (.dmaBufPut dmaBuf)
    kcall (.kfree dmaAlloc)
    return rc.rc
  | .ok sgTable =>
  if sgTable.nents ≠ 1 then
    kcall (.dmaBufUnmapAttachment dmaAttach sgTable)
    kcall (.dmaBufDetach dmaBuf dmaAttach)
    kcall (.dmaBufPut dmaBuf)
    kcall (.kfree dmaAlloc)
    return -EINVAL
  kcall (.listAddExternal {
    node := dmaAlloc
    fd := extBuf.fd
    dmaBuf := dmaBuf
    dmaAttach := dmaAttach
    size := extBuf.size
    userAddr := extBuf.userAddr
    sgTable := sgTable
    session := caller.session })
  return 0

-- The record is freed and stays on the list; the end of the range counts as in it.
def axidmaPutExternal (dev : AxidmaDevice) (userAddr : UserAddr) : Driver Int := do
  match dev.externalDmabufs.find? fun dmaAlloc =>
      decide (dmaAlloc.userAddr ≤ userAddr) && decide (userAddr ≤ dmaAlloc.userAddr+dmaAlloc.size) with
  | none => return -ENOENT
  | some dmaAlloc =>
    kcall (.dmaBufUnmapAttachment dmaAlloc.dmaAttach dmaAlloc.sgTable)
    kcall (.dmaBufDetach dmaAlloc.dmaBuf dmaAlloc.dmaAttach)
    kcall (.dmaBufPut dmaAlloc.dmaBuf)
    kcall (.kfree dmaAlloc.node)
    return 0

def axidmaVmaClose (dmaAlloc : AxidmaDmaAllocation) : Driver Unit := do
  kcall (.dmaFreeCoherent dmaAlloc)
  kcall (.listDelDmabuf dmaAlloc)
  kcall (.kfree dmaAlloc.node)

-- The private data of a file is the device or NULL, here true or false.
def axidmaOpen (capSysAdmin : Bool) (flags : CInt) : Int × Bool :=
  if !capSysAdmin then (-EACCES,false)
  else if flags &&& O_EXCL = 0 then (-EINVAL,false)
  else (0,true)

def axidmaRelease : Int × Bool := (0,false)

def axidmaMmap (caller : Caller) (vma : VmAreaStruct) : Driver Int := do
  match ← kcall (.kmalloc SIZEOF_DMA_ALLOCATION) with
  | none => return -ENOMEM
  | some dmaAlloc =>
  let size := vma.vmEnd-vma.vmStart
  kcall .ofDmaConfigure
  match ← kcall (.dmaAllocCoherent size) with
  | none =>
    kcall (.kfree dmaAlloc)
    return -ENOMEM
  | some (kernAddr,dmaAddr) =>
  let alloc : AxidmaDmaAllocation := {
    node := dmaAlloc
    size := size
    userAddr := vma.vmStart
    kernAddr := kernAddr
    dmaAddr := dmaAddr
    session := caller.session }
  let rc : Int ← kcall (.dmaMmapCoherent vma alloc)
  if rc < 0 then
    kcall (.dmaFreeCoherent alloc)
    kcall (.kfree dmaAlloc)
    return rc
  kcall (.storeVmPrivateData vma alloc)
  kcall (.listAddDmabuf alloc)
  return 0

def axidmaAccessOk (arg : UserAddr) (size : Nat) (readonly : Bool) : Driver Bool := do
  if !readonly then
    let writable : Bool ← kcall (.accessOk true arg size)
    if !writable then
      return false
  let readable : Bool ← kcall (.accessOk false arg size)
  return readable

-- One copy of an argument structure; a failed one ends the call.
def fetch (kind : UserStruct) (arg : UserAddr) (next : kind.Value → Driver Int) : Driver Int := do
  let (left,value) ← kcall (.copyFromUser kind arg)
  if left ≠ 0 then
    return -EFAULT
  next value

-- A video ioctl once it has its argument. The pointer to the frame buffers is read
-- straight from the user's memory.
def videoFetched (dev : AxidmaDevice) (caller : Caller) (arg : UserAddr) (dir : AxidmaDir) (trans : UserVideoTransaction) :
    Driver Int := do
  match ← kcall (.kmalloc (trans.numFrameBuffers.signExtend 64*SIZEOF_POINTER)) with
  | none => return -ENOMEM
  | some frameBuffers =>
  let user ← Prog.deref .badAddress (← kcall (.readUserPointer arg))
  let (left,buffers) ← kcall (.copyFromUser (.frameBuffers trans.numFrameBuffers.toInt.toNat) user)
  if left ≠ 0 then
    kcall (.kfree frameBuffers)
    return -EFAULT
  let rc ← axidmaVideoTransfer dev caller ⟨trans.channelId,trans.numFrameBuffers,buffers.1,trans.frame,buffers.2⟩ dir
  kcall (.kfree frameBuffers)
  return rc

def ioctlVideo (dev : AxidmaDevice) (caller : Caller) (arg : UserAddr) (dir : AxidmaDir) : Driver Int :=
  fetch .videoTransaction arg (videoFetched dev caller arg dir)

def ioctlCommand (dev : AxidmaDevice) (caller : Caller) (cmd : CInt) (arg : UserAddr) : Driver Int :=
  if cmd = AXIDMA_GET_NUM_DMA_CHANNELS then do
    let left : Nat ← kcall (.copyToUser arg (.numChannels (axidmaGetNumChannels dev)))
    return if left ≠ 0 then -EFAULT else 0
  else if cmd = AXIDMA_GET_DMA_CHANNELS then
    fetch .channelInfo arg fun (channels : UserAddr) => do
      let left : Nat ← kcall (.copyToUser channels (.channels (axidmaGetChannelInfo dev)))
      return if left ≠ 0 then -EFAULT else 0
  -- The signal is the int that the argument itself is cut down to.
  else if cmd = AXIDMA_SET_DMA_SIGNAL then
    axidmaSetSignal (arg.setWidth 32).toInt
  else if cmd = AXIDMA_REGISTER_BUFFER then
    fetch .registerBuffer arg fun (extBuf : AxidmaRegisterBuffer) => axidmaGetExternal caller extBuf
  else if cmd = AXIDMA_DMA_READ then
    fetch .transaction arg fun (trans : AxidmaTransaction) => axidmaReadTransfer dev caller trans
  else if cmd = AXIDMA_DMA_WRITE then
    fetch .transaction arg fun (trans : AxidmaTransaction) => axidmaWriteTransfer dev caller trans
  else if cmd = AXIDMA_DMA_READWRITE then
    fetch .inoutTransaction arg fun (trans : AxidmaInoutTransaction) => axidmaRwTransfer dev caller trans
  else if cmd = AXIDMA_DMA_VIDEO_READ then
    ioctlVideo dev caller arg .read
  else if cmd = AXIDMA_DMA_VIDEO_WRITE then
    ioctlVideo dev caller arg .write
  else if cmd = AXIDMA_STOP_DMA_CHANNEL then do
    -- A failed copy is reported, and the structure used as it is.
    let (_,chanInfo) ← kcall (.copyFromUser .chan arg)
    axidmaStopChannel dev chanInfo
  else if cmd = AXIDMA_UNREGISTER_BUFFER then
    axidmaPutExternal dev arg
  else
    return -ENOTTY

def axidmaIoctl (dev : AxidmaDevice) (caller : Caller) (cmd : CInt) (arg : UserAddr) : Driver Int := do
  if IOC_TYPE cmd ≠ AXIDMA_IOCTL_MAGIC then
    return -ENOTTY
  else if IOC_NR cmd ≥ AXIDMA_NUM_IOCTLS then
    return -ENOTTY
  let accessible : Bool ←
    if IOC_DIR cmd &&& IOC_READ ≠ 0 then axidmaAccessOk arg (IOC_SIZE cmd) false
    else if IOC_DIR cmd &&& IOC_WRITE ≠ 0 then axidmaAccessOk arg (IOC_SIZE cmd) true
    else pure true
  if !accessible then
    return -EFAULT
  ioctlCommand dev caller cmd arg

end Axidma
