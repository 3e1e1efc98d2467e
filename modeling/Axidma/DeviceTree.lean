import Axidma.DriverTypes

namespace Axidma

inductive Property (α : Type) where
  | missing
  | malformed
  | holds (value : α)
deriving DecidableEq

structure DeviceNode where
  deviceId : Property CInt
  compatible : Option (String → Bool)

structure PhandleArgs where
  np : List DeviceNode
  args : List CInt

structure DriverNode where
  dmaNames : Property (List String)
  dmas : Property (List (Except Errno PhandleArgs))

def ofDeviceIsCompatible (np : DeviceNode) (name : String) : Bool :=
  match np.compatible with
  | none => false
  | some matched => matched name

def errnoNoEntry : Errno := ⟨2,by decide⟩
def errnoInvalid : Errno := ⟨22,by decide⟩

def ofParsePhandleWithArgs (driverNode : DriverNode) (index : Nat) : Except Errno PhandleArgs :=
  match driverNode.dmas with
  | .missing => .error errnoNoEntry
  | .malformed => .error errnoInvalid
  | .holds dmas => dmas[index]?.getD (.error errnoNoEntry)

def ofPropertyReadStringIndex (driverNode : DriverNode) (index : Nat) : Except Errno String :=
  match driverNode.dmaNames with
  | .missing => .error errnoInvalid
  | .malformed => .error errnoInvalid
  | .holds names => match names[index]? with
    | none => .error errnoNoEntry
    | some name => .ok name

-- The helpers give the table entry and the device back as they leave them.
def axidmaParseCompatibleProperty (np : DeviceNode) (chan : AxidmaChan) (dev : AxidmaDevice) :
    Int × AxidmaChan × AxidmaDevice :=
  if ofDeviceIsCompatible np "xlnx,axi-dma-mm2s-channel" then
    (0,{chan with type := .dma, dir := .write},{dev with numDmaTxChans := dev.numDmaTxChans+1})
  else if ofDeviceIsCompatible np "xlnx,axi-dma-s2mm-channel" then
    (0,{chan with type := .dma, dir := .read},{dev with numDmaRxChans := dev.numDmaRxChans+1})
  else if ofDeviceIsCompatible np "xlnx,axi-vdma-mm2s-channel" then
    (0,{chan with type := .vdma, dir := .write},{dev with numVdmaTxChans := dev.numVdmaTxChans+1})
  else if ofDeviceIsCompatible np "xlnx,axi-vdma-s2mm-channel" then
    (0,{chan with type := .vdma, dir := .read},{dev with numVdmaRxChans := dev.numVdmaRxChans+1})
  -- The missing property is reported and then accepted.
  else if np.compatible.isNone then
    (0,chan,dev)
  else
    (-EINVAL,chan,dev)

def axidmaOfParseDmaName (driverNode : DriverNode) (index : Nat) (chan : AxidmaChan) : Int × AxidmaChan :=
  match ofPropertyReadStringIndex driverNode index with
  | .error _ => (-EINVAL,chan)
  | .ok name => (0,{chan with name := name})

def axidmaOfParseChannel (dmaNode : List DeviceNode) (channel : CInt) (chan : AxidmaChan) (dev : AxidmaDevice) :
    Except Fault (Int × AxidmaChan × AxidmaDevice) :=
  if dmaNode.length < 1 then
    .ok (-EINVAL,chan,dev)
  else if dmaNode.length > 2 then
    .ok (-EINVAL,chan,dev)
  else
    -- The message about a missing child prints the name of that child.
    match dmaNode[if channel = 1 then 1 else 0]? with
    | none => .error .nullPointer
    | some dmaChanNode =>
    match dmaChanNode.deviceId with
    | .missing => .ok (-EINVAL,chan,dev)
    | .malformed => .ok (-EINVAL,chan,dev)
    | .holds channelId => .ok (axidmaParseCompatibleProperty dmaChanNode {chan with channelId := channelId} dev)

def idsClash : List AxidmaChan → Bool
  | [] => false
  | chan1 :: rest => rest.any (fun chan2 => decide (chan1.channelId = chan2.channelId)) || idsClash rest

def axidmaCheckUniqueIds (dev : AxidmaDevice) : Int := if idsClash dev.channels then -EINVAL else 0

def axidmaOfNumChannels (driverNode : DriverNode) : Int :=
  match driverNode.dmaNames,driverNode.dmas with
  | .missing,_ => -EINVAL
  | _,.missing => -EINVAL
  | .malformed,_ => -EINVAL
  | .holds names,dmas =>
    if names.length = 0 then -EINVAL
    else match dmas with
    | .holds dmas =>
      if dmas.length = 0 then -EINVAL
      else if names.length ≠ dmas.length then -EINVAL
      else names.length
    | _ => -EINVAL

def axidmaOfParseDmaNode (driverNode : DriverNode) (i : Nat) (chan : AxidmaChan) (dev : AxidmaDevice) :
    Except Fault (Int × AxidmaChan × AxidmaDevice) := do
  match ofParsePhandleWithArgs driverNode i with
  | .error rc => return (rc.rc,chan,dev)
  | .ok phandleArgs =>
  match phandleArgs.args with
  | [] => return (-EINVAL,chan,dev)
  | channel :: _ =>
  if channel ≠ 0 ∧ channel ≠ 1 then
    return (-EINVAL,chan,dev)
  let (rc,chan,dev) ← axidmaOfParseChannel phandleArgs.np channel chan dev
  if rc < 0 then
    return (rc,chan,dev)
  let (rc,chan) := axidmaOfParseDmaName driverNode i chan
  return (rc,chan,dev)

def AxidmaDevice.setChannel (dev : AxidmaDevice) (i : Nat) (chan : AxidmaChan) : AxidmaDevice :=
  {dev with channels := dev.channels.set i chan}

def parseDmaNodesFrom (driverNode : DriverNode) : Nat → Nat → AxidmaDevice → Except Fault (Int × AxidmaDevice)
  | 0,_,dev => .ok (axidmaCheckUniqueIds dev,dev)
  | remaining+1,i,dev => do
    match dev.channels[i]? with
    | none => .error .outOfBounds
    | some entry =>
    let (rc,chan,dev) ← axidmaOfParseDmaNode driverNode i entry dev
    let dev := dev.setChannel i chan
    if rc < 0 then
      return (rc,dev)
    parseDmaNodesFrom driverNode remaining (i+1) dev

-- The table comes from kmalloc, so the entries hold anything at first.
def axidmaOfParseDmaNodes (driverNode : DriverNode) (dev : AxidmaDevice) : Except Fault (Int × AxidmaDevice) :=
  parseDmaNodesFrom driverNode dev.numChans 0
    {dev with numDmaTxChans := 0, numDmaRxChans := 0, numVdmaTxChans := 0, numVdmaRxChans := 0}

end Axidma
