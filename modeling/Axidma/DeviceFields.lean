import Mathlib.Logic.Function.Basic
import Axidma.KernelCalls
import Axidma.Ledger

namespace Axidma
open Interaction Ledger

-- The fields of struct axidma_device that other parties read, with the cells of
-- the array that cb_data points to. A table is named by the address of its block.
inductive Field where
  | numChans
  | numDmaTxChans
  | numDmaRxChans
  | numVdmaTxChans
  | numVdmaRxChans
  | notifySignal
  | cbData
  | channels
  | dmabufList
  | externalDmabufs
  | slot (index : Int)
deriving DecidableEq

abbrev Field.Value : Field → Type
  | .numChans => Int
  | .numDmaTxChans => Nat
  | .numDmaRxChans => Nat
  | .numVdmaTxChans => Nat
  | .numVdmaRxChans => Nat
  | .notifySignal => Int
  | .cbData => Nat
  | .channels => Nat × List AxidmaChan
  | .dmabufList => List AxidmaDmaAllocation
  | .externalDmabufs => List AxidmaExternalAllocation
  | .slot _ => AxidmaCbData

-- The calls of the driver and, beside them, its accesses to the structure and
-- what only loading it calls. dma_set_coherent_mask is given all ones.
inductive DeviceCall where
  | kernel (op : KernelCall)
  | load (field : Field)
  | store (field : Field) (value : field.Value)
  | dmaSetCoherentMask
  | uninitialisedTable (count : Nat)
  | dmaRequestSlaveChannel (name : String)
  | dmaReleaseChannel (chan : DmaChan)
  | storeAxidmaDev (dev : Nat)
  | allocChrdevRegion (minorNum : CInt) (numDevices : Nat) (name : String)
  | unregisterChrdevRegion (devNum numDevices : Nat)
  | classCreate (name : String)
  | classDestroy (devClass : Nat)
  | deviceCreate (devClass devNum : Nat) (name : String)
  | deviceDestroy (devClass devNum : Nat)
  | cdevAdd (devNum numDevices : Nat)
  | devSetDrvdata (dev : Nat)

abbrev DeviceCall.Reply : DeviceCall → Type
  | .kernel op => op.Reply
  | .load field => field.Value
  | .dmaSetCoherentMask => Int
  | .uninitialisedTable count => { table : List AxidmaChan // table.length = count }
  | .dmaRequestSlaveChannel _ => Option DmaChan
  | .allocChrdevRegion _ _ _ => Except Errno Nat
  | .classCreate _ => Except Errno Nat
  | .deviceCreate _ _ _ => Except Errno Nat
  | .cdevAdd _ _ => Int
  | _ => Unit

def DeviceCall.Legal : (op : DeviceCall) → op.Reply → Prop
  | .kernel op,reply => op.Legal reply
  | _,_ => True

abbrev device : Interface := ⟨DeviceCall,DeviceCall.Reply,DeviceCall.Legal⟩
abbrev OnDevice := Prog device Fault

@[simp] def dcall (op : DeviceCall) : OnDevice op.Reply := Prog.ask (I := device) op

def lift {α : Type} : Driver α → OnDevice α
  | .ret value => .ret value
  | .fault error => .fault error
  | .call op next => .call (.kernel op) fun reply => lift (next reply)

def blankDevice : AxidmaDevice where
  numDmaTxChans := 0
  numDmaRxChans := 0
  numVdmaTxChans := 0
  numVdmaRxChans := 0
  notifySignal := 0
  channels := []
  dmabufList := []
  externalDmabufs := []

inductive Resource where
  | block (ptr : Nat)
  | channel (chan : DmaChan)
  | chrdevRegion (devNum : Nat)
  | devClass (devClass : Nat)
  | deviceNode (devClass devNum : Nat)
deriving DecidableEq

-- memory is none where nothing has been written since the kmalloc. stale lists
-- the fields that were read like that, and pending the slots of the submitted
-- descriptors, which is where their callbacks will look.
structure DeviceState where
  account : Account Resource
  axidmaDev : Option Nat
  memory : (field : Field) → Option field.Value
  visible : Bool
  stale : List Field
  pending : List Int

-- The fields an operation goes to before it changes anything. list_add follows
-- the head of the list, and list_del only its own node.
def DeviceCall.reads : DeviceCall → List Field
  | .load field => [field]
  | .kernel (.listAddDmabuf _) => [.dmabufList]
  | .kernel (.listAddExternal _) => [.externalDmabufs]
  | _ => []

def DeviceCall.takes : (op : DeviceCall) → op.Reply → Option Resource
  | .kernel (.kmalloc _),some ptr => some (.block ptr)
  | .dmaRequestSlaveChannel _,some chan => some (.channel chan)
  | .allocChrdevRegion _ _ _,.ok devNum => some (.chrdevRegion devNum)
  | .classCreate _,.ok devClass => some (.devClass devClass)
  | .deviceCreate devClass devNum _,.ok _ => some (.deviceNode devClass devNum)
  | _,_ => none

def DeviceCall.givesBack : DeviceCall → Option Resource
  | .kernel (.kfree ptr) => some (.block ptr)
  | .dmaReleaseChannel chan => some (.channel chan)
  | .unregisterChrdevRegion devNum _ => some (.chrdevRegion devNum)
  | .classDestroy devClass => some (.devClass devClass)
  | .deviceDestroy devClass devNum => some (.deviceNode devClass devNum)
  | _ => none

def settle (account : Account Resource) (op : DeviceCall) (reply : op.Reply) : Account Resource :=
  match op.takes reply,op.givesBack with
  | some thing,_ => account.take thing
  | none,some thing => account.giveBack thing
  | none,none => account

def writeMemory (memory : (field : Field) → Option field.Value) : DeviceCall → (field : Field) → Option field.Value
  | .store field value => Function.update memory field (some value)
  | .kernel (.storeNotifySignal signal) => Function.update memory .notifySignal (some signal)
  | .kernel (.storeCbData index cbData) => Function.update memory (.slot index) (some cbData)
  | .kernel (.listAddDmabuf alloc) => Function.update memory .dmabufList ((memory .dmabufList).map (alloc :: ·))
  | .kernel (.listAddExternal alloc) => Function.update memory .externalDmabufs ((memory .externalDmabufs).map (alloc :: ·))
  | .kernel (.listDelDmabuf alloc) => Function.update memory .dmabufList
      ((memory .dmabufList).map fun entries => entries.filter fun entry => decide (entry.node ≠ alloc.node))
  | _ => memory

def DeviceState.perform (s : DeviceState) (op : DeviceCall) (reply : op.Reply) : DeviceState where
  account := settle s.account op reply
  axidmaDev := match op with
    | .storeAxidmaDev dev => some dev
    | _ => s.axidmaDev
  memory := writeMemory s.memory op
  visible := match op,reply with
    | .cdevAdd _ _,rc => s.visible || decide (0 ≤ rc)
    | _,_ => s.visible
  stale := (op.reads.filter fun field => (s.memory field).isNone)++s.stale
  pending := match op,reply with
    | .kernel (.dmaengineSubmit _ txd),cookie => if cookie < (0 : Int) then s.pending else txd.callbackParam :: s.pending
    | _,_ => s.pending

-- What is handed out is not in use, and a written field reads back as written.
def DeviceState.gives (s : DeviceState) : (op : DeviceCall) → op.Reply → Prop
  | .load field,reply => ∀ value, s.memory field = some value → reply = value
  | op,reply => op.Legal reply ∧ ∀ thing, op.takes reply = some thing → thing ∉ s.account.held

def deviceMachine : Machine device DeviceState := ⟨DeviceState.gives,DeviceState.perform⟩

theorem device_legal (s : DeviceState) (op : DeviceCall) (reply : op.Reply) (given : s.gives op reply) : op.Legal reply := by
  cases op with
  | load field => trivial
  | kernel op => exact given.1
  | _ => trivial

def DeviceState.allows (s : DeviceState) (op : DeviceCall) (reply : op.Reply) : Bool :=
  (match op,reply with
    | .kernel (.kmalloc size),some _ => decide (size.toNat < 2^63)
    | .kernel (.accessOk _ addr size),reply => !reply || decide (addr.toNat+size ≤ 2^63)
    | _,_ => true) &&
  match op.takes reply with
    | some thing => decide (thing ∉ s.account.held)
    | none => true

theorem allowed_given {s : DeviceState} {op : DeviceCall} {reply : op.Reply} (allowed : s.allows op reply = true) :
    op.Legal reply ∧ ∀ thing, op.takes reply = some thing → thing ∉ s.account.held := by
  obtain ⟨small,fresh⟩ := Bool.and_eq_true_iff.mp allowed
  constructor
  · cases op with
    | kernel op =>
      cases op with
      | kmalloc size =>
        cases reply with
        | none => exact nofun
        | some ptr => exact fun _ => of_decide_eq_true small
      | accessOk writable addr size =>
        intro accessible
        cases accessible
        exact of_decide_eq_true small
      | _ => trivial
    | _ => trivial
  · intro thing taken
    rw [taken] at fresh
    exact of_decide_eq_true fresh

-- What a system replies that grants everything but the refused. Its addresses
-- and handles count what is held.
def DeviceState.proposes (s : DeviceState) (refused : DeviceCall → Bool) (op : DeviceCall) : Option op.Reply :=
  match op with
  | .kernel (.kmalloc _) => some (if refused op then none else some (s.account.held.length+1))
  | .kernel (.kfree _) => some ()
  | .kernel (.dmaengineTerminateAll _) => some (0 : Int)
  | .kernel .ofDmaConfigure => some ()
  | .kernel (.dmaAllocCoherent _) => some (some ((0,0) : Nat × DmaAddr))
  | .kernel (.dmaMmapCoherent _ _) => some (0 : Int)
  | .kernel (.storeVmPrivateData _ _) => some ()
  | .kernel (.listAddDmabuf _) => some ()
  | .store _ _ => some ()
  | .dmaSetCoherentMask => some (0 : Int)
  | .uninitialisedTable count => some ⟨List.replicate count ⟨.write,.dma,0,"",0⟩,List.length_replicate⟩
  | .dmaRequestSlaveChannel _ => some (if refused op then none else some (s.account.held.length+1))
  | .dmaReleaseChannel _ => some ()
  | .storeAxidmaDev _ => some ()
  | .allocChrdevRegion _ _ _ => some (if refused op then .error ⟨16,by decide⟩ else .ok (s.account.held.length+1))
  | .classCreate _ => some (if refused op then .error ⟨12,by decide⟩ else .ok (s.account.held.length+1))
  | .deviceCreate _ _ _ => some (.ok 0)
  | .cdevAdd _ _ => some (0 : Int)
  | .unregisterChrdevRegion _ _ => some ()
  | .classDestroy _ => some ()
  | .deviceDestroy _ _ => some ()
  | .devSetDrvdata _ => some ()
  | _ => none

def granting (refused : DeviceCall → Bool) : Answers deviceMachine where
  reply := fun s op => match op with
    | .load field => s.memory field
    | op => (s.proposes refused op).filter (s.allows op)
  given := by
    intro s op reply settled
    cases op with
    | load field =>
      intro value written
      change s.memory field = some reply at settled
      exact Option.some.inj (settled.symm.trans written)
    | _ => exact allowed_given (Option.filter_eq_some_iff.mp settled).2

end Axidma
