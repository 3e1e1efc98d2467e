import Mathlib.Logic.Function.Basic
import Axidma.KernelCalls

namespace Axidma
open Interaction

inductive Stage where
  | submitted
  | issued
  | done
deriving DecidableEq

structure Descriptor where
  txd : TxDescriptor
  stage : Stage
deriving DecidableEq

structure Vma where
  area : VmAreaStruct
  privateData : AxidmaDmaAllocation
deriving DecidableEq

-- What the kernel holds for the driver. heap lists the live kmalloc objects.
-- A coherent region is named by its kernAddr: regions, mapped and freed are the
-- ones ever allocated, put in a VMA and given back.
structure KernelState where
  dev : AxidmaDevice
  heap : List Nat
  regions : List Nat
  mapped : List Nat
  freed : List Nat
  vmas : List Vma
  references : List Nat
  attachments : List Nat
  mappings : List Nat
  queue : DmaChan → List Descriptor
  slots : Int → AxidmaCbData
  done : Completion → Bool

def KernelState.loaded (dev : AxidmaDevice) : KernelState where
  dev := dev
  heap := []
  regions := []
  mapped := []
  freed := []
  vmas := []
  references := []
  attachments := []
  mappings := []
  queue := fun _ => []
  slots := fun _ => ⟨0,-1,none,none⟩
  done := fun _ => false

-- A device with a channel table and empty lists. Loading sets no signal, so -1
-- stands for whatever is in its place.
def loadedDevice (channels : List AxidmaChan) : AxidmaDevice where
  numDmaTxChans := channels.countP fun chan => decide (chan.type = .dma ∧ chan.dir = .write)
  numDmaRxChans := channels.countP fun chan => decide (chan.type = .dma ∧ chan.dir = .read)
  numVdmaTxChans := channels.countP fun chan => decide (chan.type = .vdma ∧ chan.dir = .write)
  numVdmaRxChans := channels.countP fun chan => decide (chan.type = .vdma ∧ chan.dir = .read)
  notifySignal := -1
  channels := channels
  dmabufList := []
  externalDmabufs := []

def issue (descriptor : Descriptor) : Descriptor :=
  if descriptor.stage = .submitted then {descriptor with stage := .issued} else descriptor

-- Which replies a state allows beyond the legal ones: new objects are new, and
-- a wait times out exactly when its completion has not been completed.
def KernelState.gives (s : KernelState) : (op : KernelCall) → op.Reply → Prop
  | .kmalloc size,reply => (reply.isSome = true → size.toNat < 2^63) ∧ ∀ ptr, reply = some ptr → ptr ∉ s.heap
  | .accessOk _ addr size,reply => reply = true → addr.toNat+size ≤ 2^63
  | .dmaAllocCoherent _,reply => ∀ region, reply = some region → region.1 ∉ s.regions
  | .dmaBufAttach _,reply => ∀ attachment, reply = .ok attachment → attachment ∉ s.attachments
  | .waitForCompletionTimeout comp _,reply => reply = 0 ↔ s.done comp = false
  | _,_ => True

def KernelState.perform (s : KernelState) : (op : KernelCall) → op.Reply → KernelState
  | .kmalloc _,some ptr => {s with heap := ptr :: s.heap}
  | .kfree ptr,_ => {s with heap := s.heap.erase ptr}
  | .storeNotifySignal signal,_ => {s with dev := {s.dev with notifySignal := signal}}
  | .dmaAllocCoherent _,some region => {s with regions := region.1 :: s.regions}
  | .dmaFreeCoherent alloc,_ => {s with freed := alloc.kernAddr :: s.freed}
  | .storeVmPrivateData vma alloc,_ => {s with vmas := ⟨vma,alloc⟩ :: s.vmas, mapped := alloc.kernAddr :: s.mapped}
  | .listAddDmabuf alloc,_ => {s with dev := {s.dev with dmabufList := alloc :: s.dev.dmabufList}}
  -- The list node is part of the structure, so its address says which entry goes.
  | .listDelDmabuf alloc,_ =>
    {s with dev := {s.dev with dmabufList := s.dev.dmabufList.filter fun entry => decide (entry.node ≠ alloc.node)}}
  | .dmaBufGet _,.ok dmaBuf => {s with references := dmaBuf :: s.references}
  | .dmaBufAttach _,.ok dmaAttach => {s with attachments := dmaAttach :: s.attachments}
  | .dmaBufMapAttachment dmaAttach,.ok _ => {s with mappings := dmaAttach :: s.mappings}
  | .dmaBufUnmapAttachment dmaAttach _,_ => {s with mappings := s.mappings.erase dmaAttach}
  | .dmaBufDetach _ dmaAttach,_ => {s with attachments := s.attachments.erase dmaAttach}
  | .dmaBufPut dmaBuf,_ => {s with references := s.references.erase dmaBuf}
  | .listAddExternal alloc,_ => {s with dev := {s.dev with externalDmabufs := alloc :: s.dev.externalDmabufs}}
  | .storeCbData slot cbData,_ => {s with slots := Function.update s.slots slot cbData}
  | .initCompletion comp,_ => {s with done := Function.update s.done comp false}
  | .dmaengineSubmit chan txd,cookie =>
    if cookie < 0 then s
    else {s with queue := Function.update s.queue chan (s.queue chan++[⟨txd,.submitted⟩])}
  | .dmaAsyncIssuePending chan,_ => {s with queue := Function.update s.queue chan ((s.queue chan).map issue)}
  | .dmaengineTerminateAll chan,_ => {s with queue := Function.update s.queue chan []}
  | .waitForCompletionTimeout comp _,_ => {s with done := Function.update s.done comp false}
  | .complete comp,_ => {s with done := Function.update s.done comp true}
  | _,_ => s

def kernelMachine : Machine kernel KernelState := ⟨KernelState.gives,KernelState.perform⟩

theorem gives_legal {s : KernelState} {op : KernelCall} {reply : op.Reply} (given : s.gives op reply) :
    op.Legal reply := by
  cases op with
  | kmalloc size => exact given.1
  | accessOk writable addr size => exact given
  | _ => trivial

end Axidma
