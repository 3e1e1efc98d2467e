import Axidma.Engine
import Axidma.TransferCalls

namespace Axidma.SlotWrites
open Interaction

-- What a call has done so far: the completion it has a descriptor queued for,
-- the slot it wrote last, and the completion it has initialised.
structure Ghost where
  armed : Option (DmaChan × Completion)
  stored : Option (Int × AxidmaCbData)
  ready : Option Completion

def Ghost.start : Ghost := ⟨none,none,none⟩

def Ghost.admits (number : Nat) (ghost : Ghost) : KernelCall → Prop
  | .initCompletion _ => ghost.armed = none
  | .dmaengineSubmit _ txd =>
    (∃ cbData, ghost.stored = some (txd.callbackParam,cbData) ∧ cbData.notification = txd.requested) ∧
    ∀ comp, txd.requested = .completes comp → ghost.armed = none ∧ ghost.ready = some comp ∧ comp.call = number
  | .storeNotifySignal _ => True
  | .uninitialisedFrame => True
  | .xilinxVdmaChannelSetConfig _ _ => True
  | .dmaenginePrepSlaveSg _ _ => True
  | .dmaenginePrepInterleavedDma _ _ => True
  | .storeCbData _ _ => True
  | .dmaAsyncIssuePending _ => True
  | .waitForCompletionTimeout _ _ => True
  | .dmaAsyncIsTxComplete _ _ => True
  | .dmaengineTerminateAll _ => True
  | _ => False

def Ghost.advance (ghost : Ghost) : (op : KernelCall) → op.Reply → Ghost
  | .storeCbData slot cbData,_ => {ghost with stored := some (slot,cbData)}
  | .initCompletion comp,_ => {ghost with ready := some comp}
  | .dmaengineSubmit chan txd,cookie =>
    if cookie < 0 then ghost
    else match txd.requested with
    | .completes comp => {ghost with armed := some (chan,comp), ready := none}
    | _ => ghost
  | .waitForCompletionTimeout comp _,timeRemain =>
    if timeRemain = 0 then ghost else {ghost with armed := ghost.armed.filter fun armed => decide (armed.2 ≠ comp)}
  | .dmaengineTerminateAll chan,_ => {ghost with armed := ghost.armed.filter fun armed => decide (armed.1 ≠ chan)}
  | _,_ => ghost

def protocol (number : Nat) : Protocol kernel Ghost := ⟨Ghost.admits number,Ghost.advance⟩

def asks (comp : Completion) (descriptor : Descriptor) : Bool := decide (descriptor.txd.requested = .completes comp)

-- The engine's side of the ghost: every queued descriptor of a completion is
-- the one the call is armed for, and it and its completion are not both there.
structure Linked (kernel : KernelState) (number : Nat) (ghost : Ghost) : Prop where
  stored : ∀ slot cbData, ghost.stored = some (slot,cbData) → kernel.slots slot = cbData
  armed : ∀ chan, ∀ descriptor ∈ kernel.queue chan, ∀ comp, descriptor.txd.requested = .completes comp →
    ghost.armed = some (chan,comp)
  single : ∀ chan comp, ghost.armed = some (chan,comp) →
    (kernel.queue chan).countP (asks comp)+(if kernel.done comp then 1 else 0) ≤ 1
  own : ∀ chan comp, ghost.armed = some (chan,comp) → comp.call = number
  ready : ∀ comp, ghost.ready = some comp → kernel.done comp = false ∧ ghost.armed = none

def Slotted (kernel : KernelState) : Prop :=
  ∀ chan, ∀ descriptor ∈ kernel.queue chan,
    (kernel.slots descriptor.txd.callbackParam).notification = descriptor.txd.requested

section
variable {kernel : KernelState} {number : Nat} {ghost : Ghost}

theorem Linked.unqueued (linked : Linked kernel number ghost) (disarmed : ghost.armed = none) (chan : DmaChan)
    {descriptor : Descriptor} (queued : descriptor ∈ kernel.queue chan) (comp : Completion) :
    descriptor.txd.requested ≠ .completes comp := by
  intro requested
  have armed := linked.armed chan descriptor queued comp requested
  rw [disarmed] at armed
  cases armed

theorem store_linked {slot : Int} {cbData : AxidmaCbData} (linked : Linked kernel number ghost) :
    Linked (kernel.perform (.storeCbData slot cbData) ()) number (ghost.advance (.storeCbData slot cbData) ()) := by
  refine ⟨?_,linked.armed,linked.single,linked.own,linked.ready⟩
  intro slot' cbData' stored
  cases stored
  exact Function.update_self ..

theorem store_slotted {slot : Int} {cbData : AxidmaCbData} (slotted : Slotted kernel)
    (undisturbed : ∀ chan, ∀ descriptor ∈ kernel.queue chan, descriptor.txd.callbackParam = slot →
      descriptor.txd.requested = cbData.notification) : Slotted (kernel.perform (.storeCbData slot cbData) ()) := by
  intro chan descriptor queued
  show (Function.update kernel.slots slot cbData descriptor.txd.callbackParam).notification = _
  by_cases same : descriptor.txd.callbackParam = slot
  · rw [same,Function.update_self]
    exact (undisturbed chan descriptor queued same).symm
  · rw [Function.update_of_ne same]
    exact slotted chan descriptor queued

theorem init_linked {comp : Completion} (linked : Linked kernel number ghost) (disarmed : ghost.armed = none) :
    Linked (kernel.perform (.initCompletion comp) ()) number (ghost.advance (.initCompletion comp) ()) := by
  refine ⟨linked.stored,linked.armed,?_,linked.own,?_⟩
  · intro chan other armed
    have same : ghost.armed = some (chan,other) := armed
    rw [disarmed] at same
    cases same
  · intro other ready
    cases ready
    exact ⟨Function.update_self ..,disarmed⟩

theorem submit_slotted {chan : DmaChan} {txd : TxDescriptor} {cookie : Int} (linked : Linked kernel number ghost)
    (slotted : Slotted kernel) (admitted : ghost.admits number (.dmaengineSubmit chan txd)) :
    Slotted (kernel.perform (.dmaengineSubmit chan txd) cookie) := by
  obtain ⟨⟨cbData,stored,notification⟩,_⟩ := admitted
  intro other descriptor queued
  rw [submit_slots]
  rcases submit_member queued with before | ⟨_,_,rfl⟩
  · exact slotted other descriptor before
  · rw [linked.stored _ _ stored]
    exact notification

theorem submit_plain {chan : DmaChan} {txd : TxDescriptor} {cookie : Int} (linked : Linked kernel number ghost)
    (plain : ∀ comp, txd.requested ≠ .completes comp) :
    Linked (kernel.perform (.dmaengineSubmit chan txd) cookie) number ghost := by
  refine ⟨?_,?_,?_,linked.own,?_⟩
  · rw [submit_slots]
    exact linked.stored
  · intro other descriptor queued asked same
    rcases submit_member queued with before | ⟨_,_,rfl⟩
    · exact linked.armed other descriptor before asked same
    · exact absurd same (plain asked)
  · intro other asked armed
    have before := linked.single other asked armed
    have new : asks asked ⟨txd,.submitted⟩ = false := by simpa [asks] using plain asked
    rw [submit_done]
    by_cases failed : cookie < 0
    · rw [submit_refused failed]
      exact before
    · rw [submit_queue failed]
      by_cases here : other = chan
      · rw [if_pos here,List.countP_append,← here]
        simpa [new] using before
      · rw [if_neg here]
        exact before
  · rw [submit_done]
    exact linked.ready

theorem submit_arms {chan : DmaChan} {txd : TxDescriptor} {cookie : Int} {comp : Completion}
    (linked : Linked kernel number ghost) (accepted : ¬ cookie < 0) (requested : txd.requested = .completes comp)
    (disarmed : ghost.armed = none) (ready : ghost.ready = some comp) (own : comp.call = number) :
    Linked (kernel.perform (.dmaengineSubmit chan txd) cookie) number
      {ghost with armed := some (chan,comp), ready := none} := by
  refine ⟨?_,?_,?_,?_,?_⟩
  · rw [submit_slots]
    exact linked.stored
  · intro other descriptor queued asked same
    rcases submit_member queued with before | ⟨_,rfl,rfl⟩
    · exact absurd same (linked.unqueued disarmed other before asked)
    · cases requested.symm.trans same
      rfl
  · intro other asked armed
    cases armed
    have none : (kernel.queue chan).countP (asks comp) = 0 := by
      apply List.countP_eq_zero.mpr
      intro descriptor queued
      simpa [asks] using linked.unqueued disarmed chan queued comp
    rw [submit_queue accepted,if_pos rfl,submit_done,List.countP_append,none,(linked.ready comp ready).1]
    simp [asks,requested]
  · intro other asked armed
    cases armed
    exact own
  · intro other ready
    cases ready

theorem submit_linked {chan : DmaChan} {txd : TxDescriptor} {cookie : Int} (linked : Linked kernel number ghost)
    (admitted : ghost.admits number (.dmaengineSubmit chan txd)) :
    Linked (kernel.perform (.dmaengineSubmit chan txd) cookie) number (ghost.advance (.dmaengineSubmit chan txd) cookie) := by
  simp only [Ghost.advance]
  by_cases failed : cookie < 0
  · rw [if_pos failed,submit_refused failed]
    exact linked
  · rw [if_neg failed]
    cases requested : txd.requested with
    | completes comp =>
      obtain ⟨disarmed,ready,own⟩ := admitted.2 comp requested
      exact submit_arms linked failed requested disarmed ready own
    | signals signal process channelId => exact submit_plain linked fun comp same => by cases requested.symm.trans same
    | nothing => exact submit_plain linked fun comp same => by cases requested.symm.trans same

-- Stages come and go; the link is about the descriptors themselves.
structure Requeued (kernel after : KernelState) : Prop where
  slots : after.slots = kernel.slots
  done : after.done = kernel.done
  txds : ∀ chan, (after.queue chan).map (·.txd) = (kernel.queue chan).map (·.txd)

theorem Requeued.member {after : KernelState} (requeued : Requeued kernel after) {chan : DmaChan}
    {descriptor : Descriptor} (queued : descriptor ∈ after.queue chan) :
    ∃ before ∈ kernel.queue chan, before.txd = descriptor.txd := by
  have mapped : descriptor.txd ∈ (after.queue chan).map (·.txd) := List.mem_map_of_mem queued
  rw [requeued.txds chan] at mapped
  exact List.mem_map.mp mapped

theorem Requeued.slotted {after : KernelState} (requeued : Requeued kernel after) (slotted : Slotted kernel) :
    Slotted after := by
  intro chan descriptor queued
  obtain ⟨before,present,same⟩ := requeued.member queued
  rw [requeued.slots,← same]
  exact slotted chan before present

theorem Requeued.linked {after : KernelState} (requeued : Requeued kernel after) (linked : Linked kernel number ghost) :
    Linked after number ghost := by
  refine ⟨?_,?_,?_,linked.own,?_⟩
  · intro slot cbData stored
    rw [requeued.slots]
    exact linked.stored slot cbData stored
  · intro chan descriptor queued comp requested
    obtain ⟨before,present,same⟩ := requeued.member queued
    exact linked.armed chan before present comp (by rw [same]; exact requested)
  · intro chan comp armed
    have counts : (after.queue chan).countP (asks comp) = (kernel.queue chan).countP (asks comp) := by
      have mapped := congrArg (List.countP fun txd : TxDescriptor => decide (txd.requested = .completes comp)) (requeued.txds chan)
      rw [List.countP_map,List.countP_map] at mapped
      exact mapped
    rw [counts,requeued.done]
    exact linked.single chan comp armed
  · intro comp ready
    rw [requeued.done]
    exact linked.ready comp ready

theorem issue_requeued (chan : DmaChan) : Requeued kernel (kernel.perform (.dmaAsyncIssuePending chan) ()) := by
  refine ⟨rfl,rfl,fun other => ?_⟩
  rw [issue_queue]
  by_cases here : other = chan
  · rw [if_pos here,here,List.map_map]
    apply List.map_congr_left
    intro descriptor _
    show (issue descriptor).txd = descriptor.txd
    unfold issue
    split <;> rfl
  · rw [if_neg here]

theorem terminate_slotted {chan : DmaChan} {rc : Int} (slotted : Slotted kernel) :
    Slotted (kernel.perform (.dmaengineTerminateAll chan) rc) := by
  intro other descriptor queued
  rw [terminate_queue] at queued
  by_cases here : other = chan
  · rw [if_pos here] at queued
    cases queued
  · rw [if_neg here] at queued
    exact slotted other descriptor queued

theorem terminate_linked {chan : DmaChan} {rc : Int} (linked : Linked kernel number ghost) :
    Linked (kernel.perform (.dmaengineTerminateAll chan) rc) number (ghost.advance (.dmaengineTerminateAll chan) rc) := by
  have kept : ∀ other comp, (ghost.advance (.dmaengineTerminateAll chan) rc).armed = some (other,comp) →
      ghost.armed = some (other,comp) ∧ other ≠ chan := by
    intro other comp armed
    simpa using Option.filter_eq_some_iff.mp armed
  refine ⟨linked.stored,?_,?_,?_,?_⟩
  · intro other descriptor queued comp requested
    rw [terminate_queue] at queued
    by_cases here : other = chan
    · rw [if_pos here] at queued
      cases queued
    · rw [if_neg here] at queued
      have armed := linked.armed other descriptor queued comp requested
      exact Option.filter_eq_some_iff.mpr ⟨armed,by simpa using here⟩
  · intro other comp armed
    obtain ⟨before,differ⟩ := kept other comp armed
    rw [terminate_queue,if_neg differ]
    exact linked.single other comp before
  · intro other comp armed
    exact linked.own other comp (kept other comp armed).1
  · intro comp ready
    obtain ⟨undone,disarmed⟩ := linked.ready comp ready
    refine ⟨undone,?_⟩
    show ghost.armed.filter _ = none
    rw [disarmed]
    rfl

theorem reset_undone {comp other : Completion} (undone : kernel.done other = false) :
    Function.update kernel.done comp false other = false := by
  by_cases here : other = comp
  · rw [here,Function.update_self]
  · rw [Function.update_of_ne here]
    exact undone

theorem reset_single {comp other : Completion} {chan : DmaChan} (linked : Linked kernel number ghost)
    (armed : ghost.armed = some (chan,other)) :
    (kernel.queue chan).countP (asks other)+(if Function.update kernel.done comp false other then 1 else 0) ≤ 1 := by
  have before := linked.single chan other armed
  cases finished : kernel.done other with
  | false => simpa [reset_undone finished,finished] using before
  | true =>
    rw [finished,if_pos rfl] at before
    have bound : (if Function.update kernel.done comp false other then 1 else 0) ≤ 1 := by split <;> omega
    omega

theorem queued_undone {comp : Completion} {chan : DmaChan} {descriptor : Descriptor} (linked : Linked kernel number ghost)
    (queued : descriptor ∈ kernel.queue chan) (requested : descriptor.txd.requested = .completes comp) :
    kernel.done comp = false := by
  have single := linked.single chan comp (linked.armed chan descriptor queued comp requested)
  have counted : 0 < (kernel.queue chan).countP (asks comp) :=
    List.countP_pos_iff.mpr ⟨descriptor,queued,by simpa [asks] using requested⟩
  cases finished : kernel.done comp with
  | false => rfl
  | true =>
    rw [finished,if_pos rfl] at single
    omega

theorem wait_linked {comp : Completion} {usecs timeRemain : Nat} (linked : Linked kernel number ghost)
    (given : kernel.gives (.waitForCompletionTimeout comp usecs) timeRemain) :
    Linked (kernel.perform (.waitForCompletionTimeout comp usecs) timeRemain) number
      (ghost.advance (.waitForCompletionTimeout comp usecs) timeRemain) := by
  simp only [Ghost.advance]
  by_cases expired : timeRemain = 0
  · rw [if_pos expired]
    exact ⟨linked.stored,linked.armed,fun _ _ => reset_single linked,linked.own,
      fun other ready => ⟨reset_undone (linked.ready other ready).1,(linked.ready other ready).2⟩⟩
  · rw [if_neg expired]
    have finished : kernel.done comp = true := by
      have not := mt given.mpr expired
      simpa using not
    refine ⟨linked.stored,?_,?_,?_,?_⟩
    · intro chan descriptor queued other requested
      have armed := linked.armed chan descriptor queued other requested
      refine Option.filter_eq_some_iff.mpr ⟨armed,?_⟩
      by_contra same
      obtain rfl : other = comp := by simpa using same
      rw [queued_undone linked queued requested] at finished
      cases finished
    · intro chan other armed
      exact reset_single linked (Option.filter_eq_some_iff.mp armed).1
    · intro chan other armed
      exact linked.own chan other (Option.filter_eq_some_iff.mp armed).1
    · intro other ready
      obtain ⟨before,disarmed⟩ := linked.ready other ready
      refine ⟨reset_undone before,?_⟩
      show ghost.armed.filter _ = none
      rw [disarmed]
      rfl

theorem perform_linked {op : KernelCall} {reply : op.Reply} (linked : Linked kernel number ghost)
    (admitted : ghost.admits number op) (given : kernel.gives op reply) :
    Linked (kernel.perform op reply) number (ghost.advance op reply) := by
  cases op with
  | storeCbData slot cbData => exact store_linked linked
  | initCompletion comp => exact init_linked linked admitted
  | dmaengineSubmit chan txd => exact submit_linked linked admitted
  | dmaAsyncIssuePending chan => exact (issue_requeued chan).linked linked
  | waitForCompletionTimeout comp usecs => exact wait_linked linked given
  | dmaengineTerminateAll chan => exact terminate_linked linked
  | storeNotifySignal signal => exact ⟨linked.stored,linked.armed,linked.single,linked.own,linked.ready⟩
  | uninitialisedFrame => exact linked
  | xilinxVdmaChannelSetConfig chan config => exact linked
  | dmaenginePrepSlaveSg chan prepared => exact linked
  | dmaenginePrepInterleavedDma chan prepared => exact linked
  | dmaAsyncIsTxComplete chan cookie => exact linked
  | _ => exact admitted.elim

theorem perform_slotted {op : KernelCall} {reply : op.Reply} (linked : Linked kernel number ghost)
    (slotted : Slotted kernel) (admitted : ghost.admits number op)
    (undisturbed : ∀ slot cbData, op = .storeCbData slot cbData → ∀ chan, ∀ descriptor ∈ kernel.queue chan,
      descriptor.txd.callbackParam = slot → descriptor.txd.requested = cbData.notification) :
    Slotted (kernel.perform op reply) := by
  cases op with
  | storeCbData slot cbData => exact store_slotted slotted (undisturbed slot cbData rfl)
  | dmaengineSubmit chan txd => exact submit_slotted linked slotted admitted
  | dmaAsyncIssuePending chan => exact (issue_requeued chan).slotted slotted
  | dmaengineTerminateAll chan => exact terminate_slotted slotted
  | initCompletion comp => exact slotted
  | waitForCompletionTimeout comp usecs => exact slotted
  | storeNotifySignal signal => exact slotted
  | uninitialisedFrame => exact slotted
  | xilinxVdmaChannelSetConfig chan config => exact slotted
  | dmaenginePrepSlaveSg chan prepared => exact slotted
  | dmaenginePrepInterleavedDma chan prepared => exact slotted
  | dmaAsyncIsTxComplete chan cookie => exact slotted
  | _ => exact admitted.elim

theorem finish_requeued {chan : DmaChan} {before after : List Descriptor} {descriptor : Descriptor}
    (queued : kernel.queue chan = before++descriptor :: after) : Requeued kernel {kernel with
      queue := Function.update kernel.queue chan (before++{descriptor with stage := .done} :: after)} := by
  refine ⟨rfl,rfl,fun other => ?_⟩
  show (Function.update kernel.queue chan _ other).map (·.txd) = _
  by_cases here : other = chan
  · rw [here,Function.update_self,queued]
    simp
  · rw [Function.update_of_ne here]

def unqueue (kernel : KernelState) (chan : DmaChan) (rest : List Descriptor) : KernelState :=
  {kernel with queue := Function.update kernel.queue chan rest}

theorem unqueue_member {chan other : DmaChan} {before after : List Descriptor} {descriptor left : Descriptor}
    (queued : kernel.queue chan = before++descriptor :: after)
    (present : left ∈ (unqueue kernel chan (before++after)).queue other) : left ∈ kernel.queue other := by
  have present : left ∈ Function.update kernel.queue chan (before++after) other := present
  by_cases here : other = chan
  · rw [here,Function.update_self] at present
    rw [here,queued]
    rcases List.mem_append.mp present with early | late
    · exact List.mem_append_left _ early
    · exact List.mem_append_right _ (List.mem_cons_of_mem _ late)
  · rw [Function.update_of_ne here] at present
    exact present

theorem unqueue_linked {chan : DmaChan} {before after : List Descriptor} {descriptor : Descriptor}
    (linked : Linked kernel number ghost) (queued : kernel.queue chan = before++descriptor :: after) :
    Linked (unqueue kernel chan (before++after)) number ghost := by
  refine ⟨linked.stored,?_,?_,linked.own,linked.ready⟩
  · intro other left present comp requested
    exact linked.armed other left (unqueue_member queued present) comp requested
  · intro other comp armed
    have single := linked.single other comp armed
    show (Function.update kernel.queue chan (before++after) other).countP (asks comp)+(if kernel.done comp then 1 else 0) ≤ 1
    by_cases here : other = chan
    · rw [here,queued] at single
      rw [here,Function.update_self]
      simp only [List.countP_append,List.countP_cons] at single ⊢
      omega
    · rw [Function.update_of_ne here]
      exact single

theorem complete_linked {chan : DmaChan} {before after : List Descriptor} {descriptor : Descriptor} {comp : Completion}
    (linked : Linked kernel number ghost) (queued : kernel.queue chan = before++descriptor :: after)
    (requested : descriptor.txd.requested = .completes comp) :
    Linked ((unqueue kernel chan (before++after)).notified (.completes comp)) number ghost := by
  have rest := unqueue_linked linked queued
  have member : descriptor ∈ kernel.queue chan := by rw [queued]; simp
  have armed := linked.armed chan descriptor member comp requested
  refine ⟨rest.stored,rest.armed,?_,rest.own,?_⟩
  · intro other asked same
    cases armed.symm.trans same
    have single := linked.single chan comp armed
    have counted : asks comp descriptor = true := by simpa [asks] using requested
    show (Function.update kernel.queue chan (before++after) chan).countP (asks comp)+
      (if Function.update kernel.done comp true comp then 1 else 0) ≤ 1
    rw [Function.update_self,Function.update_self,if_pos rfl]
    rw [queued] at single
    simp only [List.countP_append,List.countP_cons,counted,if_true] at single ⊢
    omega
  · intro other ready
    have disarmed := (linked.ready other ready).2
    rw [armed] at disarmed
    cases disarmed

theorem engine_keeps {after : KernelState} (linked : Linked kernel number ghost) (slotted : Slotted kernel)
    (taken : EngineStep kernel after) : Linked after number ghost ∧ Slotted after := by
  cases taken with
  | finish queued _ _ => exact ⟨(finish_requeued queued).linked linked,(finish_requeued queued).slotted slotted⟩
  | @callback _ chan before rest descriptor queued _ executed =>
    obtain rfl := ensures_iff.mp (callback_ends _) _ _ executed
    have member : descriptor ∈ kernel.queue chan := by rw [queued]; simp
    rw [slotted chan descriptor member]
    have shorter : Slotted (unqueue kernel chan (before++rest)) :=
      fun other left present => slotted other left (unqueue_member queued present)
    cases requested : descriptor.txd.requested with
    | completes comp => exact ⟨complete_linked linked queued requested,shorter⟩
    | signals signal process channelId => exact ⟨unqueue_linked linked queued,shorter⟩
    | nothing => exact ⟨unqueue_linked linked queued,shorter⟩

end

section
variable {number : Nat} {ghost : Ghost} {chan : AxidmaChan} {tfr : AxidmaTransfer}

def Disarmed (ghost : Ghost) : Outcome Fault Int → Prop
  | .returned _ => ghost.armed = none
  | .faulted _ => True

def Described (before ghost : Ghost) : Outcome Fault (Except Int Prepared) → Prop
  | .returned (.ok _) => ghost = before
  | .returned (.error rc) => ghost = before ∧ rc < 0
  | .faulted _ => True

theorem descriptor_conforms :
    Conforms (protocol number) (Described ghost) ghost (axidmaPrepDescriptor chan.chan tfr) := by
  have tested : ∀ (prepared : Prepared) (dmaTxnd : Bool), Described ghost ghost
      (.returned (if dmaTxnd = true then .ok prepared else .error (-EBUSY))) := by
    intro prepared dmaTxnd
    cases dmaTxnd with
    | true => rfl
    | false => exact ⟨rfl,by decide⟩
  unfold axidmaPrepDescriptor
  cases tfr.type with
  | dma => exact ⟨trivial,fun dmaTxnd _ => tested _ dmaTxnd⟩
  | vdma =>
    refine ⟨trivial,fun rc _ => ?_⟩
    show Conforms _ _ _ (if (rc : Int) < 0 then _ else _)
    split
    · exact ⟨rfl,‹_›⟩
    · cases tfr.sgList.head? with
      | none => trivial
      | some entry =>
        cases tfr.frame with
        | none => exact ⟨trivial,fun frame _ => ⟨trivial,fun dmaTxnd _ => tested _ dmaTxnd⟩⟩
        | some frame => exact ⟨trivial,fun dmaTxnd _ => tested _ dmaTxnd⟩

-- What a preparation leaves armed: on success the completion of a waiting
-- transfer, otherwise nothing.
def Prepped (chan : DmaChan) (tfr : AxidmaTransfer) (ghost : Ghost) : Outcome Fault (Int × AxidmaTransfer) → Prop
  | .returned (rc,after) => (rc < 0 ∧ ghost.armed = none) ∨ (rc = 0 ∧ (∃ cookie, after = {tfr with cookie := cookie}) ∧
      ghost.armed = if tfr.wait then some (chan,tfr.comp) else none)
  | .faulted _ => True

theorem terminate_disarms (chan : DmaChan) (rc : Int) (armed : ∀ other comp, ghost.armed = some (other,comp) → other = chan) :
    (ghost.advance (.dmaengineTerminateAll chan) rc).armed = none := by
  apply Option.filter_eq_none_iff.mpr
  intro entry present
  simpa using armed entry.1 entry.2 present

theorem submit_armed {chan : DmaChan} {txd : TxDescriptor} {cookie : Int} (accepted : ¬ cookie < 0) {comp : Completion}
    (requested : txd.requested = .completes comp) :
    (ghost.advance (.dmaengineSubmit chan txd) cookie).armed = some (chan,comp) := by
  simp only [Ghost.advance,if_neg accepted,requested]

theorem submit_unarmed {chan : DmaChan} {txd : TxDescriptor} {cookie : Int} (disarmed : ghost.armed = none)
    (idle : cookie < 0 ∨ ∀ comp, txd.requested ≠ .completes comp) :
    (ghost.advance (.dmaengineSubmit chan txd) cookie).armed = none := by
  simp only [Ghost.advance]
  split
  · exact disarmed
  · have plain := idle.resolve_left ‹_›
    cases requested : txd.requested with
    | completes comp => exact absurd requested (plain comp)
    | signals signal process channelId => exact disarmed
    | nothing => exact disarmed

theorem submitted_conforms {cookie : Int} (refused : cookie < 0 → ghost.armed = none)
    (accepted : ¬ cookie < 0 → ghost.armed = if tfr.wait then some (chan.chan,tfr.comp) else none) :
    Conforms (protocol number) (Prepped chan.chan tfr) ghost (afterSubmission chan.chan tfr cookie) := by
  apply conforms_if
  · intro failed
    exact ⟨trivial,fun rc _ => .inl ⟨by decide,terminate_disarms chan.chan rc (by simp [refused failed])⟩⟩
  · intro passed
    exact .inr ⟨rfl,⟨cookie,rfl⟩,accepted passed⟩

theorem prep_conforms (disarmed : ghost.armed = none) (own : tfr.comp.call = number) :
    Conforms (protocol number) (Prepped chan.chan tfr) ghost (axidmaPrepTransfer chan tfr) := by
  rw [prep_parts]
  refine conforms_bind.mpr (descriptor_conforms.mono ?_)
  intro after outcome described
  cases outcome with
  | faulted error => trivial
  | returned result =>
    cases result with
    | error rc =>
      obtain ⟨rfl,negative⟩ := described
      exact ⟨trivial,fun rc _ => .inl ⟨negative,terminate_disarms chan.chan rc (by simp [disarmed])⟩⟩
    | ok prepared =>
      obtain rfl := described
      refine ⟨trivial,fun _ _ => ?_⟩
      split
      · have asked : tfr.requested = .completes tfr.comp := by rw [AxidmaTransfer.requested,if_pos ‹_›]
        refine ⟨disarmed,fun _ _ => ⟨⟨⟨_,rfl,slotContent_notification tfr⟩,?_⟩,fun cookie _ => ?_⟩⟩
        · intro comp same
          cases asked.symm.trans same
          exact ⟨disarmed,rfl,own⟩
        · refine submitted_conforms (fun refused => submit_unarmed disarmed (.inl refused)) fun accepted => ?_
          rw [if_pos ‹_›]
          exact submit_armed accepted asked
      · have plain : ∀ comp, tfr.requested ≠ .completes comp := by
          intro comp
          rw [AxidmaTransfer.requested,if_neg ‹_›]
          cases VALID_NOTIFY_SIGNAL tfr.notifySignal <;> exact Notification.noConfusion
        refine ⟨⟨⟨_,rfl,slotContent_notification tfr⟩,fun comp same => absurd same (plain comp)⟩,fun cookie _ => ?_⟩
        have unarmed : ∀ cookie, ((protocol number).advance ((protocol number).advance after
            (.storeCbData tfr.cbData tfr.slotContent) ()) (.dmaengineSubmit chan.chan
              ⟨prepared,tfr.cbData,tfr.requested⟩) cookie).armed = none :=
          fun cookie => submit_unarmed disarmed (.inr plain)
        apply submitted_conforms (fun _ => unarmed cookie)
        intro _
        rw [if_neg ‹_›]
        exact unarmed cookie

theorem start_plain (plain : tfr.wait = false) :
    Conforms (protocol number) (fun after outcome => after = ghost ∧ outcome = .returned 0) ghost
      (axidmaStartTransfer chan tfr) := by
  unfold axidmaStartTransfer
  refine ⟨trivial,fun _ _ => ?_⟩
  rw [plain]
  exact ⟨rfl,rfl⟩

theorem start_conforms (armed : ghost.armed = if tfr.wait then some (chan.chan,tfr.comp) else none) :
    Conforms (protocol number) Disarmed ghost (axidmaStartTransfer chan tfr) := by
  unfold axidmaStartTransfer
  refine ⟨trivial,fun _ _ => ?_⟩
  split
  · rw [if_pos ‹_›] at armed
    refine ⟨trivial,fun timeRemain _ => ⟨trivial,fun status _ => ?_⟩⟩
    show Conforms _ _ _ (if timeRemain = (0 : Nat) then _ else _)
    have waited : ∀ other comp, (ghost.advance (.waitForCompletionTimeout tfr.comp AXIDMA_DMA_TIMEOUT) timeRemain).armed =
        some (other,comp) → other = chan.chan ∧ timeRemain = (0 : Nat) := by
      intro other comp same
      simp only [Ghost.advance] at same
      split at same
      · cases armed.symm.trans same
        exact ⟨rfl,‹_›⟩
      · obtain ⟨same,differ⟩ := Option.filter_eq_some_iff.mp same
        cases armed.symm.trans same
        simp at differ
    split
    · exact ⟨trivial,fun rc _ => terminate_disarms chan.chan rc fun other comp same => (waited other comp same).1⟩
    · show Conforms _ _ _ (if (status : DmaStatus) ≠ .complete then _ else _)
      split
      · exact ⟨trivial,fun rc _ => terminate_disarms chan.chan rc fun other comp same => (waited other comp same).1⟩
      · apply Option.eq_none_iff_forall_ne_some.mpr
        intro entry same
        exact absurd (waited entry.1 entry.2 same).2 ‹_›
  · rw [if_neg ‹_›] at armed
    exact armed

theorem prep_then {rest : Int × AxidmaTransfer → Driver Int} (disarmed : ghost.armed = none)
    (own : tfr.comp.call = number)
    (failed : ∀ after rc same, rc < 0 → after.armed = none → Conforms (protocol number) Disarmed after (rest (rc,same)))
    (second : ∀ after cookie, after.armed = (if tfr.wait then some (chan.chan,tfr.comp) else none) →
      Conforms (protocol number) Disarmed after (rest (0,{tfr with cookie := cookie}))) :
    Conforms (protocol number) Disarmed ghost (axidmaPrepTransfer chan tfr >>= rest) := by
  refine conforms_bind.mpr ((prep_conforms disarmed own).mono ?_)
  intro after outcome prepped
  cases outcome with
  | faulted error => trivial
  | returned result =>
    obtain ⟨rc,same⟩ := result
    rcases prepped with ⟨negative,unarmed⟩ | ⟨rfl,⟨cookie,rfl⟩,armed⟩
    · exact failed after rc same negative unarmed
    · exact second after cookie armed

theorem start_then (armed : ghost.armed = if tfr.wait then some (chan.chan,tfr.comp) else none) :
    Conforms (protocol number) Disarmed ghost (axidmaStartTransfer chan tfr >>= fun rc => if rc < 0 then return rc else return 0) := by
  refine conforms_bind.mpr ((start_conforms armed).mono ?_)
  intro final outcome disarmed
  cases outcome with
  | faulted error => trivial
  | returned rc => exact conforms_if (fun _ => disarmed) fun _ => disarmed

theorem oneway_conforms {dir : AxidmaDir} {dev : AxidmaDevice} {caller : Caller} {trans : AxidmaTransaction} :
    Conforms (protocol caller.call) Disarmed Ghost.start (onewayTransfer dir dev caller trans) := by
  have finds := @oneway_finds dev caller dir trans
  generalize onewayTransfer dir dev caller trans = program at finds ⊢
  cases finds with
  | refused _ => rfl
  | untranslated _ => rfl
  | all =>
    refine prep_then ?_ ?_ ?_ fun after cookie armed => ?_
    · rfl
    · rfl
    · intro after rc same negative unarmed
      exact conforms_if (fun _ => unarmed) fun accepted => absurd negative accepted
    · apply conforms_if (fun negative => absurd negative (by decide))
      intro _
      exact start_then armed

theorem rw_conforms {dev : AxidmaDevice} {caller : Caller} {trans : AxidmaInoutTransaction} :
    Conforms (protocol caller.call) Disarmed Ghost.start (axidmaRwTransfer dev caller trans) := by
  have finds := @rw_finds dev caller trans
  generalize axidmaRwTransfer dev caller trans = program at finds ⊢
  cases finds with
  | refused _ => rfl
  | untranslated _ => rfl
  | all =>
    refine prep_then ?_ ?_ ?_ fun afterTx txCookie unarmed => ?_
    · rfl
    · rfl
    · intro after rc same negative unarmed
      exact conforms_if (fun _ => unarmed) fun accepted => absurd negative accepted
    apply conforms_if (fun negative => absurd negative (by decide))
    intro _
    refine prep_then ?_ ?_ ?_ fun after rxCookie armed => ?_
    · exact unarmed
    · rfl
    · intro after rc same negative unarmed
      exact conforms_if (fun _ => unarmed) fun accepted => absurd negative accepted
    apply conforms_if (fun negative => absurd negative (by decide))
    intro _
    refine conforms_bind.mpr ((start_plain rfl).mono ?_)
    intro final outcome started
    obtain ⟨rfl,rfl⟩ := started
    apply conforms_if (fun negative => absurd negative (by decide))
    intro _
    exact start_then armed

end

end Axidma.SlotWrites
