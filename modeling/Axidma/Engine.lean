import Axidma.TransferCalls
import Axidma.KernelState

namespace Axidma
open Interaction

-- The engine finishes the descriptors of a channel in submission order, once
-- they are issued. Later it takes a finished one off and runs its callback.
inductive EngineStep : KernelState → KernelState → Prop where
  | finish {s : KernelState} {chan : DmaChan} {before after : List Descriptor} {descriptor : Descriptor}
      (queued : s.queue chan = before++descriptor :: after) (earlier : ∀ other ∈ before, other.stage = .done)
      (issued : descriptor.stage = .issued) :
      EngineStep s {s with queue := Function.update s.queue chan (before++{descriptor with stage := .done} :: after)}
  | callback {s final : KernelState} {chan : DmaChan} {before after : List Descriptor} {descriptor : Descriptor}
      (queued : s.queue chan = before++descriptor :: after) (done : descriptor.stage = .done)
      (executed : Exec kernelMachine (axidmaDmaCallback (s.slots descriptor.txd.callbackParam))
        {s with queue := Function.update s.queue chan (before++after)} (.returned ()) final) : EngineStep s final

def AxidmaCbData.notification (cbData : AxidmaCbData) : Notification :=
  match cbData.comp with
  | some comp => .completes comp
  | none =>
    if VALID_NOTIFY_SIGNAL cbData.notifySignal then .signals cbData.notifySignal cbData.process cbData.channelId
    else .nothing

def Notification.program : Notification → Driver Unit
  | .completes comp => kcall (.complete comp)
  | .signals signal process channelId => kcall (.sendSigInfo signal process channelId)
  | .nothing => return ()

theorem callback_program (cbData : AxidmaCbData) : axidmaDmaCallback cbData = cbData.notification.program := by
  unfold axidmaDmaCallback AxidmaCbData.notification
  cases cbData.comp with
  | some comp => rfl
  | none =>
    cases VALID_NOTIFY_SIGNAL cbData.notifySignal with
    | true => rfl
    | false => rfl

theorem slotContent_notification (tfr : AxidmaTransfer) : tfr.slotContent.notification = tfr.requested := by
  unfold AxidmaTransfer.slotContent AxidmaTransfer.requested AxidmaCbData.notification
  cases tfr.wait with
  | true => rfl
  | false => rfl

-- The state after a callback: the descriptor is gone, and at most one
-- completion is completed.
def KernelState.notified (s : KernelState) : Notification → KernelState
  | .completes comp => {s with done := Function.update s.done comp true}
  | _ => s

theorem callback_ends {s : KernelState} (cbData : AxidmaCbData) :
    Ensures kernelMachine (fun _ after => after = s.notified cbData.notification) (axidmaDmaCallback cbData) s := by
  rw [callback_program]
  cases cbData.notification with
  | completes comp => exact fun _ _ => rfl
  | signals signal process channelId => exact fun _ _ => rfl
  | nothing => rfl

theorem callback_runs {s : KernelState} (cbData : AxidmaCbData) :
    Exec kernelMachine (axidmaDmaCallback cbData) s (.returned ()) (s.notified cbData.notification) := by
  rw [callback_program]
  cases cbData.notification with
  | completes comp => exact ⟨(),trivial,rfl,rfl⟩
  | signals signal process channelId => exact ⟨(),trivial,rfl,rfl⟩
  | nothing => exact ⟨rfl,rfl⟩

section
variable {kernel : KernelState} {chan : DmaChan}

theorem submit_queue {txd : TxDescriptor} {cookie : Int} (accepted : ¬ cookie < 0) (other : DmaChan) :
    (kernel.perform (.dmaengineSubmit chan txd) cookie).queue other =
      if other = chan then kernel.queue chan++[⟨txd,.submitted⟩] else kernel.queue other := by
  simp only [KernelState.perform,if_neg accepted]
  exact Function.update_apply ..

theorem submit_refused {txd : TxDescriptor} {cookie : Int} (refused : cookie < 0) :
    kernel.perform (.dmaengineSubmit chan txd) cookie = kernel := by
  simp only [KernelState.perform,if_pos refused]

theorem submit_slots {txd : TxDescriptor} {cookie : Int} :
    (kernel.perform (.dmaengineSubmit chan txd) cookie).slots = kernel.slots := by
  simp only [KernelState.perform]
  split <;> rfl

theorem submit_done {txd : TxDescriptor} {cookie : Int} :
    (kernel.perform (.dmaengineSubmit chan txd) cookie).done = kernel.done := by
  simp only [KernelState.perform]
  split <;> rfl

theorem submit_member {other : DmaChan} {txd : TxDescriptor} {cookie : Int} {descriptor : Descriptor}
    (queued : descriptor ∈ (kernel.perform (.dmaengineSubmit chan txd) cookie).queue other) :
    descriptor ∈ kernel.queue other ∨ (¬ cookie < 0 ∧ other = chan ∧ descriptor = ⟨txd,.submitted⟩) := by
  by_cases failed : cookie < 0
  · rw [submit_refused failed] at queued
    exact .inl queued
  · rw [submit_queue failed] at queued
    by_cases here : other = chan
    · rw [if_pos here] at queued
      rcases List.mem_append.mp queued with before | new
      · exact .inl (here ▸ before)
      · exact .inr ⟨failed,here,List.mem_singleton.mp new⟩
    · rw [if_neg here] at queued
      exact .inl queued

theorem terminate_queue {rc : Int} (other : DmaChan) :
    (kernel.perform (.dmaengineTerminateAll chan) rc).queue other = if other = chan then [] else kernel.queue other :=
  Function.update_apply ..

theorem issue_queue (other : DmaChan) :
    (kernel.perform (.dmaAsyncIssuePending chan) ()).queue other =
      if other = chan then (kernel.queue chan).map issue else kernel.queue other :=
  Function.update_apply ..

-- A source of a descriptor that the engine may still read or write.
def Active (kernel : KernelState) (source : Source) : Prop :=
  ∃ chan, ∃ descriptor ∈ kernel.queue chan, descriptor.stage ≠ .done ∧ source ∈ descriptor.txd.prepared.sources

structure SameMemory (kernel after : KernelState) : Prop where
  dmabufList : after.dev.dmabufList = kernel.dev.dmabufList
  externalDmabufs : after.dev.externalDmabufs = kernel.dev.externalDmabufs
  regions : after.regions = kernel.regions
  mapped : after.mapped = kernel.mapped
  freed : after.freed = kernel.freed
  vmas : after.vmas = kernel.vmas
  mappings : after.mappings = kernel.mappings

theorem transfers_memory {op : KernelCall} {reply : op.Reply} (transfers : op.transfers) :
    SameMemory kernel (kernel.perform op reply) := by
  have same : SameMemory kernel kernel := ⟨rfl,rfl,rfl,rfl,rfl,rfl,rfl⟩
  cases op with
  | kmalloc size =>
    cases reply with
    | none => exact same
    | some ptr => exact ⟨rfl,rfl,rfl,rfl,rfl,rfl,rfl⟩
  | dmaengineSubmit chan txd =>
    by_cases refused : reply < (0 : Int)
    · rw [submit_refused refused]
      exact same
    · simp only [KernelState.perform,if_neg refused]
      exact ⟨rfl,rfl,rfl,rfl,rfl,rfl,rfl⟩
  | kfree ptr => exact ⟨rfl,rfl,rfl,rfl,rfl,rfl,rfl⟩
  | uninitialisedFrame => exact same
  | xilinxVdmaChannelSetConfig chan config => exact same
  | dmaenginePrepSlaveSg chan prepared => exact same
  | dmaenginePrepInterleavedDma chan prepared => exact same
  | storeCbData slot cbData => exact ⟨rfl,rfl,rfl,rfl,rfl,rfl,rfl⟩
  | initCompletion comp => exact ⟨rfl,rfl,rfl,rfl,rfl,rfl,rfl⟩
  | dmaAsyncIssuePending chan => exact ⟨rfl,rfl,rfl,rfl,rfl,rfl,rfl⟩
  | waitForCompletionTimeout comp usecs => exact ⟨rfl,rfl,rfl,rfl,rfl,rfl,rfl⟩
  | dmaAsyncIsTxComplete chan cookie => exact same
  | dmaengineTerminateAll chan => exact ⟨rfl,rfl,rfl,rfl,rfl,rfl,rfl⟩
  | _ => exact transfers.elim

theorem engine_heap {after : KernelState} (taken : EngineStep kernel after) : after.heap = kernel.heap := by
  cases taken with
  | finish => rfl
  | @callback _ chan before rest descriptor was _ executed =>
    obtain rfl := ensures_iff.mp (callback_ends _) _ _ executed
    cases (kernel.slots descriptor.txd.callbackParam).notification <;> rfl

theorem engine_memory {after : KernelState} (taken : EngineStep kernel after) : SameMemory kernel after := by
  cases taken with
  | finish => exact ⟨rfl,rfl,rfl,rfl,rfl,rfl,rfl⟩
  | @callback _ chan before rest descriptor was _ executed =>
    obtain rfl := ensures_iff.mp (callback_ends _) _ _ executed
    cases (kernel.slots descriptor.txd.callbackParam).notification <;> exact ⟨rfl,rfl,rfl,rfl,rfl,rfl,rfl⟩

end

end Axidma
