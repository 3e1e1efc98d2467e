import Axidma.DeviceFields
import Axidma.DeviceTree

namespace Axidma
open Interaction

def ENOSYS : Int := 38
def SIZEOF_AXIDMA_DEVICE : SizeT := 224
def SIZEOF_AXIDMA_CHAN : SizeT := 32
def SIZEOF_AXIDMA_CB_DATA : SizeT := 24
def NUM_DEVICES : Nat := 1

structure ModuleParams where
  chrdevName : String
  minorNum : CInt

def CHRDEV_DEFAULTS : ModuleParams := ⟨"axidma",0⟩

def kmalloc (size : SizeT) : OnDevice (Option Nat) := dcall (.kernel (.kmalloc size))
def kfree (ptr : Nat) : OnDevice Unit := dcall (.kernel (.kfree ptr))

def dmaReleaseChannels : List AxidmaChan → OnDevice Unit
  | [] => return ()
  | chan :: rest => do
    dcall (.dmaReleaseChannel chan.chan)
    dmaReleaseChannels rest

-- The loop over the table: the first entries have got their channels, the other
-- ones are still to come. It ends with the table as it leaves it.
def requestChannelsFrom : List AxidmaChan → List AxidmaChan → OnDevice (Int × List AxidmaChan)
  | reserved,[] => return (0,reserved)
  | reserved,chan :: rest => do
    match ← dcall (.dmaRequestSlaveChannel chan.name) with
    | none =>
      dmaReleaseChannels reserved
      return (-ENODEV,reserved++chan :: rest)
    | some handle => requestChannelsFrom (reserved++[{chan with chan := handle}]) rest

def axidmaRequestChannels (channels : List AxidmaChan) : OnDevice (Int × List AxidmaChan) := requestChannelsFrom [] channels

-- The parser on a table; the counts come back in the other fields.
def parseTable (pdev : DriverNode) (channels : List AxidmaChan) : Except Fault (Int × AxidmaDevice) :=
  axidmaOfParseDmaNodes pdev {blankDevice with channels := channels}

def storeParsed (channels : Nat) (dev : AxidmaDevice) : OnDevice Unit := do
  dcall (.store .numDmaTxChans dev.numDmaTxChans)
  dcall (.store .numDmaRxChans dev.numDmaRxChans)
  dcall (.store .numVdmaTxChans dev.numVdmaTxChans)
  dcall (.store .numVdmaRxChans dev.numVdmaRxChans)
  dcall (.store .channels (channels,dev.channels))

def axidmaDmaInit (pdev : DriverNode) : OnDevice Int := do
  let rc : Int ← dcall .dmaSetCoherentMask
  if rc < 0 then
    return rc
  let numChans := axidmaOfNumChannels pdev
  dcall (.store .numChans numChans)
  if numChans < 0 then
    return numChans
  match ← kmalloc (BitVec.ofInt 64 numChans*SIZEOF_AXIDMA_CHAN) with
  | none => return -ENOMEM
  | some channels =>
  let table : { table : List AxidmaChan // table.length = numChans.toNat } ← dcall (.uninitialisedTable numChans.toNat)
  dcall (.store .channels (channels,table.1))
  match ← kmalloc (BitVec.ofInt 64 numChans*SIZEOF_AXIDMA_CB_DATA) with
  | none =>
    kfree channels
    return -ENOMEM
  | some cbData =>
  dcall (.store .cbData cbData)
  match parseTable pdev table.1 with
  | .error fault => .fault fault
  | .ok (rc,dev) =>
  storeParsed channels dev
  -- Here the jump to free_callback_data is missing.
  if rc < 0 then
    return rc
  let (rc,requested) ← axidmaRequestChannels dev.channels
  dcall (.store .channels (channels,requested))
  if rc < 0 then
    kfree cbData
    kfree channels
    return rc
  return 0

def terminateChannels : List AxidmaChan → OnDevice Unit
  | [] => return ()
  | chan :: rest => do
    let _ : Int ← dcall (.kernel (.dmaengineTerminateAll chan.chan))
    dcall (.dmaReleaseChannel chan.chan)
    terminateChannels rest

def axidmaDmaExit : OnDevice Unit := do
  let numChans : Int ← dcall (.load .numChans)
  let channels : Nat × List AxidmaChan ← dcall (.load .channels)
  terminateChannels (channels.2.take numChans.toNat)
  kfree channels.1
  let cbData : Nat ← dcall (.load .cbData)
  kfree cbData

def axidmaChrdevInit (params : ModuleParams) (dev : Nat) : OnDevice Int := do
  dcall (.storeAxidmaDev dev)
  match ← dcall (.allocChrdevRegion params.minorNum NUM_DEVICES params.chrdevName) with
  | .error rc => return rc.rc
  | .ok devNum =>
  match ← dcall (.classCreate params.chrdevName) with
  | .error rc =>
    dcall (.unregisterChrdevRegion devNum NUM_DEVICES)
    return rc.rc
  | .ok devClass =>
  match ← dcall (.deviceCreate devClass devNum params.chrdevName) with
  | .error rc =>
    dcall (.classDestroy devClass)
    dcall (.unregisterChrdevRegion devNum NUM_DEVICES)
    return rc.rc
  | .ok _ =>
  let rc : Int ← dcall (.cdevAdd devNum NUM_DEVICES)
  if rc < 0 then
    dcall (.deviceDestroy devClass devNum)
    dcall (.classDestroy devClass)
    dcall (.unregisterChrdevRegion devNum NUM_DEVICES)
    return rc
  -- The device is open to clients from here on.
  dcall (.store .dmabufList [])
  dcall (.store .externalDmabufs [])
  return 0

def axidmaProbe (params : ModuleParams) (pdev : DriverNode) : OnDevice Int := do
  match ← kmalloc SIZEOF_AXIDMA_DEVICE with
  | none => return -ENOMEM
  | some dev =>
  let rc ← axidmaDmaInit pdev
  if rc < 0 then
    kfree dev
    return -ENOSYS
  let rc ← axidmaChrdevInit params dev
  if rc < 0 then
    axidmaDmaExit
    kfree dev
    return -ENOSYS
  dcall (.devSetDrvdata dev)
  return 0

end Axidma
