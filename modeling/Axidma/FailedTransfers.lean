import Mathlib.Data.List.Basic
import Axidma.Engine
import Axidma.Interleaving

namespace Axidma.FailedTransfers
open Interaction

-- The kernel beside a mark for each queued descriptor, in queue order: whether
-- the call in question submitted it.
structure Tagged where
  kernel : KernelState
  own : DmaChan → List Bool

def mark (own : DmaChan → List Bool) : (op : KernelCall) → op.Reply → DmaChan → List Bool
  | .dmaengineSubmit chan _,cookie => if cookie < 0 then own else Function.update own chan (own chan++[true])
  | .dmaengineTerminateAll chan,_ => Function.update own chan []
  | _,_ => own

def Tagged.perform (s : Tagged) (op : KernelCall) (reply : op.Reply) : Tagged := ⟨s.kernel.perform op reply,mark s.own op reply⟩

def taggedMachine : Machine kernel Tagged := ⟨fun s => s.kernel.gives,Tagged.perform⟩

-- The steps of the engine, where a descriptor goes together with its mark.
inductive TaggedStep : Tagged → Tagged → Prop where
  | finish {s : Tagged} {chan : DmaChan} {before after : List Descriptor} {descriptor : Descriptor}
      (queued : s.kernel.queue chan = before++descriptor :: after) (earlier : ∀ other ∈ before, other.stage = .done)
      (issued : descriptor.stage = .issued) :
      TaggedStep s {s with kernel := {s.kernel with
        queue := Function.update s.kernel.queue chan (before++{descriptor with stage := .done} :: after)}}
  | callback {s : Tagged} {final : KernelState} {chan : DmaChan} {before after : List Descriptor} {descriptor : Descriptor}
      {front back : List Bool} {tag : Bool}
      (queued : s.kernel.queue chan = before++descriptor :: after) (done : descriptor.stage = .done)
      (tags : s.own chan = front++tag :: back) (same : front.length = before.length)
      (executed : Exec kernelMachine (axidmaDmaCallback (s.kernel.slots descriptor.txd.callbackParam))
        {s.kernel with queue := Function.update s.kernel.queue chan (before++after)} (.returned ()) final) :
      TaggedStep s ⟨final,Function.update s.own chan (front++back)⟩

def Aligned (s : Tagged) : Prop := ∀ chan, (s.own chan).length = (s.kernel.queue chan).length

def untagged (kernel : KernelState) : Tagged := ⟨kernel,fun chan => List.replicate (kernel.queue chan).length false⟩

def LeftOn (s : Tagged) (chan : DmaChan) : Prop :=
  ∃ pair ∈ (s.kernel.queue chan).zip (s.own chan), pair.2 = true ∧ pair.1.stage ≠ .done

-- A call that fails with the engine running beside it leaves no descriptor of
-- its own pending or active, on any channel.
def LeavesNothing (kernel : KernelState) (request : BufferRequest) : Prop :=
  ∀ caller rc final, ExecAmid taggedMachine TaggedStep (request.request.program kernel.dev caller) (untagged kernel)
    (.returned rc) final → rc < 0 → ∀ chan, ¬ LeftOn final chan

-- Both sides of a readwrite request that gets to its channels use one of them.
def OneChannel (dev : AxidmaDevice) : BufferRequest → Prop
  | .oneway _ _ => True
  | .readwrite transaction => ∀ txChan rxChan txEntry rxEntry,
      axidmaGetChan dev transaction.txChannelId = some txChan → txChan.dir = .write →
      axidmaGetChan dev transaction.rxChannelId = some rxChan → rxChan.dir = .read →
      axidmaInitSgEntry dev transaction.txBuf transaction.txBufLen = .ok txEntry →
      axidmaInitSgEntry dev transaction.rxBuf transaction.rxBufLen = .ok rxEntry → txChan.chan = rxChan.chan

section
variable {s after : Tagged}

theorem untagged_aligned (kernel : KernelState) : Aligned (untagged kernel) := by
  intro chan
  simp [untagged]

-- The marks are a ghost: the steps are those of the engine, and each step of
-- the engine is one of them.
theorem TaggedStep.engine (step : TaggedStep s after) : EngineStep s.kernel after.kernel := by
  cases step with
  | finish queued earlier issued => exact .finish queued earlier issued
  | callback queued done _ _ executed => exact .callback queued done executed

theorem engine_tagged {final : KernelState} (aligned : Aligned s) (step : EngineStep s.kernel final) :
    ∃ own, TaggedStep s ⟨final,own⟩ := by
  cases step with
  | finish queued earlier issued => exact ⟨s.own,.finish queued earlier issued⟩
  | @callback _ chan before rest descriptor queued done executed =>
    have size := aligned chan
    rw [queued] at size
    obtain ⟨tag,back,cut⟩ : ∃ tag back, (s.own chan).drop before.length = tag :: back := by
      cases left : (s.own chan).drop before.length with
      | nil =>
        have short := congrArg List.length left
        simp at short
        simp at size
        omega
      | cons tag back => exact ⟨tag,back,rfl⟩
    have tags : s.own chan = (s.own chan).take before.length++tag :: back := by
      rw [← cut]
      exact (List.take_append_drop _ _).symm
    have same : ((s.own chan).take before.length).length = before.length := by
      simp at size
      simp
      omega
    exact ⟨_,.callback queued done tags same executed⟩

theorem perform_aligned (aligned : Aligned s) (op : KernelCall) (reply : op.Reply) : Aligned (s.perform op reply) := by
  intro other
  have size := aligned other
  cases op with
  | dmaengineSubmit chan txd =>
    simp only [Tagged.perform,mark]
    by_cases refused : reply < (0 : Int)
    · rw [if_pos refused,submit_refused refused]
      exact size
    · rw [if_neg refused,submit_queue refused,Function.update_apply]
      by_cases here : other = chan
      · subst here
        simp [size]
      · simp [here,size]
  | dmaengineTerminateAll chan =>
    simp only [Tagged.perform,mark]
    rw [terminate_queue,Function.update_apply]
    by_cases here : other = chan
    · simp [here]
    · simp [here,size]
  | dmaAsyncIssuePending chan =>
    simp only [Tagged.perform,mark]
    rw [issue_queue]
    by_cases here : other = chan
    · subst here
      simp [size]
    · simp [here,size]
  | kmalloc bytes => cases reply <;> exact size
  | dmaAllocCoherent bytes => cases reply <;> exact size
  | dmaBufGet fd => cases reply <;> exact size
  | dmaBufAttach dmaBuf => cases reply <;> exact size
  | dmaBufMapAttachment dmaAttach => cases reply <;> exact size
  | _ => exact size

theorem step_aligned (aligned : Aligned s) (step : TaggedStep s after) : Aligned after := by
  intro other
  have size := aligned other
  cases step with
  | @finish chan before rest descriptor queued _ _ =>
    by_cases here : other = chan
    · subst here
      rw [queued] at size
      simpa using size
    · simpa [Function.update_of_ne here] using size
  | @callback final chan before rest descriptor front back tag queued _ tags _ executed =>
    obtain rfl := ensures_iff.mp (callback_ends _) _ _ executed
    have queue : ∀ notification, (KernelState.notified {s.kernel with
        queue := Function.update s.kernel.queue chan (before++rest)} notification).queue other =
        Function.update s.kernel.queue chan (before++rest) other := by
      intro notification
      cases notification <;> rfl
    simp only [queue]
    by_cases here : other = chan
    · subst here
      rw [queued,tags] at size
      simp at size
      simp
      omega
    · simpa [Function.update_of_ne here] using size

end

-- The channels that may hold a descriptor of the call.
def armed : Protocol kernel (List DmaChan) where
  admits := fun _ _ => True
  advance := fun chans op reply =>
    match op,reply with
    | .dmaengineSubmit chan _,cookie => if (cookie : Int) < 0 then chans else chan :: chans
    | .dmaengineTerminateAll chan,_ => chans.filter fun other => decide (other ≠ chan)
    | _,_ => chans

def Within (chan : DmaChan) (chans : List DmaChan) : Prop := ∀ other ∈ chans, other = chan

-- Failing empties the list of channels again.
def Clears {α : Type} (chan : DmaChan) (failed : α → Prop) (chans : List DmaChan) (outcome : Outcome Fault α) : Prop :=
  Within chan chans ∧ ∀ value, outcome = .returned value → failed value → chans = []

section
variable {chan : AxidmaChan} {tfr : AxidmaTransfer} {chans : List DmaChan}

theorem terminate_clears {handle : DmaChan} (within : Within handle chans) :
    (chans.filter fun other => decide (other ≠ handle)) = [] := by
  apply List.filter_eq_nil_iff.mpr
  intro other member
  simp [within other member]

theorem descriptor_calm (chans : List DmaChan) :
    Conforms armed (fun after _ => after = chans) chans (axidmaPrepDescriptor chan.chan tfr) := by
  unfold axidmaPrepDescriptor
  cases tfr.type with
  | dma => exact ⟨trivial,fun _ _ => rfl⟩
  | vdma =>
    refine ⟨trivial,fun rc _ => ?_⟩
    apply conforms_if
    · intro _
      rfl
    · intro _
      cases tfr.sgList.head? with
      | none => rfl
      | some entry =>
        cases tfr.frame with
        | none => exact ⟨trivial,fun _ _ => ⟨trivial,fun _ _ => rfl⟩⟩
        | some frame => exact ⟨trivial,fun _ _ => rfl⟩

theorem prep_clears (within : Within chan.chan chans) :
    Conforms armed (Clears chan.chan fun result => result.1 < 0) chans (axidmaPrepTransfer chan tfr) := by
  have cleared : ∀ (now : List DmaChan) (result : Int × AxidmaTransfer), Within chan.chan now →
      Clears (α := Int × AxidmaTransfer) chan.chan (fun result => result.1 < 0)
        (now.filter fun other => decide (other ≠ chan.chan)) (.returned result) := by
    intro now result within
    rw [terminate_clears within]
    exact ⟨fun _ member => absurd member List.not_mem_nil,fun _ _ _ => rfl⟩
  rw [prep_parts]
  refine conforms_bind.mpr ((descriptor_calm chans).mono ?_)
  intro now outcome same
  have unchanged : now = chans := same
  rw [unchanged]
  cases outcome with
  | faulted error => exact ⟨within,fun _ same => by cases same⟩
  | returned result =>
    cases result with
    | error rc => exact ⟨trivial,fun _ _ => cleared _ _ within⟩
    | ok prepared =>
      have rest : ∀ txd cookie, Conforms armed (Clears chan.chan fun result => result.1 < 0)
          (armed.advance chans (.dmaengineSubmit chan.chan txd) cookie) (afterSubmission chan.chan tfr cookie) := by
        intro txd cookie
        apply conforms_if
        · intro refused
          simp only [armed,if_pos refused]
          exact ⟨trivial,fun _ _ => cleared _ _ within⟩
        · intro accepted
          simp only [armed,if_neg accepted]
          refine ⟨?_,?_⟩
          · intro other member
            rcases List.mem_cons.mp member with rfl | earlier
            · rfl
            · exact within other earlier
          · intro result same failed
            cases same
            cases failed
      refine ⟨trivial,fun _ _ => ?_⟩
      split
      · exact ⟨trivial,fun _ _ => ⟨trivial,fun cookie _ => rest _ cookie⟩⟩
      · exact ⟨trivial,fun cookie _ => rest _ cookie⟩

theorem start_clears (within : Within chan.chan chans) :
    Conforms armed (Clears chan.chan (· < 0)) chans (axidmaStartTransfer chan tfr) := by
  have cleared : ∀ rc : Int, Clears chan.chan (· < 0) (chans.filter fun other => decide (other ≠ chan.chan)) (.returned rc) := by
    intro rc
    rw [terminate_clears within]
    exact ⟨fun _ member => absurd member List.not_mem_nil,fun _ _ _ => rfl⟩
  have passed : Clears chan.chan (· < 0) chans (.returned (0 : Int)) := by
    refine ⟨within,?_⟩
    intro rc same failed
    cases same
    cases failed
  unfold axidmaStartTransfer
  refine ⟨trivial,fun _ _ => ?_⟩
  apply conforms_if
  · intro _
    refine ⟨trivial,fun timeRemain _ => ⟨trivial,fun status _ => ?_⟩⟩
    apply conforms_if
    · intro _
      exact ⟨trivial,fun _ _ => cleared (-ETIME)⟩
    · intro _
      apply conforms_if
      · intro _
        exact ⟨trivial,fun _ _ => cleared (-EBUSY)⟩
      · intro _
        exact passed
  · intro _
    exact passed

end

def Emptied (chans : List DmaChan) (outcome : Outcome Fault Int) : Prop := ∀ rc, outcome = .returned rc → rc < 0 → chans = []

section
variable {dev : AxidmaDevice} {caller : Caller}

theorem nothing_armed (outcome : Outcome Fault Int) : Emptied [] outcome := fun _ _ _ => rfl

theorem emptied_if {rc : Int} {chans : List DmaChan} {next : Driver Int} (clears : rc < 0 → chans = [])
    (passed : Conforms armed Emptied chans next) : Conforms armed Emptied chans (if rc < 0 then .ret rc else next) := by
  apply conforms_if
  · intro failed
    rw [clears failed]
    exact nothing_armed _
  · intro _
    exact passed

theorem zero_emptied {chans : List DmaChan} : Emptied chans (.returned 0) := by
  intro rc same failed
  cases same
  cases failed

theorem fault_emptied {chans : List DmaChan} {error : Fault} : Emptied chans (.faulted error) := by
  intro rc same
  cases same

theorem prep_then_empties {chan : AxidmaChan} {tfr : AxidmaTransfer} {chans : List DmaChan}
    {rest : Int × AxidmaTransfer → Driver Int} (within : Within chan.chan chans)
    (next : ∀ now result, Within chan.chan now → (result.1 < 0 → now = []) → Conforms armed Emptied now (rest result)) :
    Conforms armed Emptied chans (axidmaPrepTransfer chan tfr >>= rest) := by
  refine conforms_bind.mpr ((prep_clears within).mono ?_)
  intro now outcome clears
  cases outcome with
  | returned result => exact next now result clears.1 (clears.2 result rfl)
  | faulted error => exact fault_emptied

theorem start_then_empties {chan : AxidmaChan} {tfr : AxidmaTransfer} {chans : List DmaChan} {rest : Int → Driver Int}
    (within : Within chan.chan chans)
    (next : ∀ now rc, Within chan.chan now → (rc < 0 → now = []) → Conforms armed Emptied now (rest rc)) :
    Conforms armed Emptied chans (axidmaStartTransfer chan tfr >>= rest) := by
  refine conforms_bind.mpr ((start_clears within).mono ?_)
  intro now outcome clears
  cases outcome with
  | returned rc => exact next now rc clears.1 (clears.2 rc rfl)
  | faulted error => exact fault_emptied

theorem oneway_empties {dir : AxidmaDir} {transaction : AxidmaTransaction} :
    Conforms armed Emptied [] (onewayTransfer dir dev caller transaction) := by
  have finds := @oneway_finds dev caller dir transaction
  generalize onewayTransfer dir dev caller transaction = program at finds ⊢
  cases finds with
  | refused _ => exact nothing_armed _
  | untranslated _ => exact nothing_armed _
  | all =>
    apply prep_then_empties (fun _ member => absurd member List.not_mem_nil)
    intro chans result within clears
    apply emptied_if clears
    apply start_then_empties within
    intro chans rc _ clears
    exact emptied_if clears zero_emptied

theorem rw_empties {transaction : AxidmaInoutTransaction} (one : OneChannel dev (.readwrite transaction)) :
    Conforms armed Emptied [] (axidmaRwTransfer dev caller transaction) := by
  have finds := @rw_finds dev caller transaction
  generalize axidmaRwTransfer dev caller transaction = program at finds ⊢
  cases finds with
  | refused _ => exact nothing_armed _
  | untranslated _ => exact nothing_armed _
  | @all txChan rxChan txEntry rxEntry foundTx transmits foundRx receives translatedTx translatedRx =>
    have same : txChan.chan = rxChan.chan := one _ _ _ _ foundTx transmits foundRx receives translatedTx translatedRx
    apply prep_then_empties (fun _ member => absurd member List.not_mem_nil)
    intro chans result within clears
    apply emptied_if clears
    rw [same] at within
    apply prep_then_empties within
    intro chans result within clears
    apply emptied_if clears
    rw [← same] at within
    apply start_then_empties within
    intro chans rc within clears
    apply emptied_if clears
    rw [same] at within
    apply start_then_empties within
    intro chans rc _ clears
    exact emptied_if clears zero_emptied

theorem request_empties {request : BufferRequest} (one : OneChannel dev request) :
    Conforms armed Emptied [] (request.request.program dev caller) := by
  cases request with
  | oneway dir transaction =>
    rw [oneway_program]
    exact oneway_empties
  | readwrite transaction => exact rw_empties one

end

-- Every mark lies on a channel of the ghost.
def Accounted (chans : List DmaChan) (s : Tagged) : Prop := ∀ chan, true ∈ s.own chan → chan ∈ chans

section
variable {s after : Tagged} {chans : List DmaChan}

theorem perform_accounted (op : KernelCall) (reply : op.Reply) (accounted : Accounted chans s) :
    Accounted (armed.advance chans op reply) (s.perform op reply) := by
  intro other marked
  have before := accounted other
  cases op with
  | dmaengineSubmit chan txd =>
    simp only [Tagged.perform,mark] at marked
    simp only [armed]
    by_cases refused : reply < (0 : Int)
    · rw [if_pos refused] at marked ⊢
      exact before marked
    · rw [if_neg refused] at marked ⊢
      rw [Function.update_apply] at marked
      by_cases here : other = chan
      · rw [here]
        exact List.mem_cons_self
      · rw [if_neg here] at marked
        exact List.mem_cons_of_mem _ (before marked)
  | dmaengineTerminateAll chan =>
    simp only [Tagged.perform,mark,Function.update_apply] at marked
    by_cases here : other = chan
    · rw [if_pos here] at marked
      cases marked
    · rw [if_neg here] at marked
      exact List.mem_filter.mpr ⟨before marked,by simp [here]⟩
  | _ => exact before marked

theorem step_accounted (accounted : Accounted chans s) (step : TaggedStep s after) : Accounted chans after := by
  cases step with
  | finish => exact accounted
  | @callback final chan before rest descriptor front back tag _ _ tags _ _ =>
    intro other marked
    simp only [Function.update_apply] at marked
    by_cases here : other = chan
    · rw [if_pos here] at marked
      apply accounted
      rw [here,tags]
      rcases List.mem_append.mp marked with early | late
      · exact List.mem_append_left _ early
      · exact List.mem_append_right _ (List.mem_cons_of_mem _ late)
    · rw [if_neg here] at marked
      exact accounted other marked

theorem unmarked_nothing (accounted : Accounted [] s) (chan : DmaChan) : ¬ LeftOn s chan := by
  intro left
  obtain ⟨⟨descriptor,tag⟩,member,marked,_⟩ := left
  have present : tag ∈ s.own chan := (List.of_mem_zip member).2
  rw [show tag = true from marked] at present
  exact absurd (accounted chan present) List.not_mem_nil

end

section
variable {s : Tagged} {chan : AxidmaChan} {tfr : AxidmaTransfer}

theorem submit_left (aligned : Aligned s) (handle : DmaChan) (txd : TxDescriptor) :
    LeftOn (s.perform (.dmaengineSubmit handle txd) (0 : Int)) handle := by
  refine ⟨(⟨txd,.submitted⟩,true),?_,rfl,by simp⟩
  have accepted : ¬ (0 : Int) < 0 := by decide
  simp only [Tagged.perform,mark,if_neg accepted,Function.update_self]
  rw [submit_queue accepted,if_pos rfl,List.zip_append (aligned handle).symm]
  exact List.mem_append_right _ List.mem_cons_self

theorem terminate_left {handle other : DmaChan} {rc : Int} (left : LeftOn s handle) (apart : handle ≠ other) :
    LeftOn (s.perform (.dmaengineTerminateAll other) rc) handle := by
  obtain ⟨pair,member,marked,pending⟩ := left
  refine ⟨pair,?_,marked,pending⟩
  simp only [Tagged.perform,mark]
  rw [terminate_queue,if_neg apart,Function.update_of_ne apart]
  exact member

theorem descriptor_accepted (s : Tagged) (chan : AxidmaChan) {entry : Scatterlist} (first : tfr.sgList.head? = some entry) :
    ∃ prepared, Exec taggedMachine (axidmaPrepDescriptor chan.chan tfr) s (.returned (.ok prepared)) s := by
  unfold axidmaPrepDescriptor
  cases tfr.type with
  | dma => exact ⟨_,true,trivial,rfl,rfl⟩
  | vdma =>
    rw [first]
    cases tfr.frame with
    | none => exact ⟨_,(0 : Int),trivial,⟨0,0,0⟩,trivial,true,trivial,rfl,rfl⟩
    | some frame => exact ⟨_,(0 : Int),trivial,true,trivial,rfl,rfl⟩

theorem descriptor_refused (s : Tagged) (chan : AxidmaChan) (tfr : AxidmaTransfer) : ∃ rc, rc < 0 ∧
    Exec taggedMachine (axidmaPrepDescriptor chan.chan tfr) s (.returned (.error rc)) s := by
  unfold axidmaPrepDescriptor
  cases tfr.type with
  | dma => exact ⟨-EBUSY,by decide,false,trivial,rfl,rfl⟩
  | vdma => exact ⟨-1,by decide,(-1 : Int),trivial,Exec.taken (by decide) ⟨rfl,rfl⟩⟩

theorem prep_leaves {entry : Scatterlist} (chan : AxidmaChan) (aligned : Aligned s) (first : tfr.sgList.head? = some entry) :
    ∃ middle, Exec taggedMachine (axidmaPrepTransfer chan tfr) s (.returned (0,{tfr with cookie := 0})) middle ∧
      LeftOn middle chan.chan := by
  obtain ⟨prepared,described⟩ := descriptor_accepted s chan first
  have stored := perform_aligned aligned (.storeCbData tfr.cbData tfr.slotContent) ()
  rw [prep_parts]
  unfold afterDescriptor afterSubmission
  cases waits : tfr.wait with
  | true =>
    have ready := perform_aligned stored (.initCompletion tfr.comp) ()
    exact ⟨_,described.bind ⟨(),trivial,(),trivial,(0 : Int),trivial,rfl,rfl⟩,submit_left ready _ _⟩
  | false => exact ⟨_,described.bind ⟨(),trivial,(0 : Int),trivial,rfl,rfl⟩,submit_left stored _ _⟩

theorem prep_refused (s : Tagged) (chan : AxidmaChan) (tfr : AxidmaTransfer) : ∃ rc, rc < 0 ∧ Exec taggedMachine (axidmaPrepTransfer chan tfr) s (.returned (rc,tfr))
    (s.perform (.dmaengineTerminateAll chan.chan) (0 : Int)) := by
  obtain ⟨rc,failed,described⟩ := descriptor_refused s chan tfr
  refine ⟨rc,failed,described.bind ?_⟩
  exact ⟨(0 : Int),trivial,rfl,rfl⟩

end

section
variable {kernel : KernelState} {request : BufferRequest}

theorem leaves_nothing_of_one (one : OneChannel kernel.dev request) : LeavesNothing kernel request := by
  intro caller rc final path failed
  have start : Accounted [] (untagged kernel) := by
    intro chan marked
    simp [untagged] at marked
  obtain ⟨chans,accounted,empties⟩ := path.keeps Accounted (fun s op reply => gives_legal)
    (fun _ _ op reply accounted _ _ => perform_accounted op reply accounted) (fun _ _ _ => step_accounted)
    (request_empties one) start
  rw [empties rc rfl failed] at accounted
  exact unmarked_nothing accounted

theorem one_of_leaves_nothing {transaction : AxidmaInoutTransaction} (clean : LeavesNothing kernel (.readwrite transaction)) :
    OneChannel kernel.dev (.readwrite transaction) := by
  intro txChan rxChan txEntry rxEntry foundTx fitsTx foundRx fitsRx translatedTx translatedRx
  apply Classical.byContradiction
  intro apart
  have first : (txTfr kernel.dev ⟨0,0,0⟩ txChan transaction txEntry).sgList.head? = some txEntry := rfl
  obtain ⟨middle,submitted,left⟩ := prep_leaves txChan (untagged_aligned kernel) first
  obtain ⟨rc,failed,refused⟩ := prep_refused middle rxChan (rxTfr kernel.dev ⟨0,0,0⟩ txChan rxChan transaction rxEntry)
  have program : Exec taggedMachine (axidmaRwTransfer kernel.dev ⟨0,0,0⟩ transaction) (untagged kernel) (.returned rc)
      (middle.perform (.dmaengineTerminateAll rxChan.chan) (0 : Int)) := by
    rw [rw_found foundTx fitsTx foundRx fitsRx translatedTx translatedRx]
    refine submitted.bind ?_
    refine Exec.otherwise (Int.lt_irrefl 0) ?_
    refine refused.bind ?_
    exact Exec.taken failed ⟨rfl,rfl⟩
  exact clean ⟨0,0,0⟩ rc _ program.amid failed txChan.chan (terminate_left left apart)

theorem leaves_nothing_iff : LeavesNothing kernel request ↔ OneChannel kernel.dev request := by
  constructor
  · intro clean
    cases request with
    | oneway dir transaction => trivial
    | readwrite transaction => exact one_of_leaves_nothing clean
  · exact leaves_nothing_of_one

end

-- A page at 0x10000, with a channel for each direction.
def twoChannels : KernelState :=
  .loaded {Translation.onePage with channels := [⟨.write,.dma,0,"tx_channel",0⟩,⟨.read,.dma,1,"rx_channel",1⟩]}

def copyPage : AxidmaInoutTransaction where
  wait := true
  txChannelId := 0
  txBuf := 0x10000
  txBufLen := 0x800
  txFrame := ⟨0,0,0⟩
  rxChannelId := 1
  rxBuf := 0x10800
  rxBufLen := 0x800
  rxFrame := ⟨0,0,0⟩

-- The receive side is refused, and the transmit descriptor stays submitted.
theorem transmit_left_behind : ¬ LeavesNothing twoChannels (.readwrite copyPage) := by
  intro clean
  have same := one_of_leaves_nothing clean _ _ _ _ rfl rfl rfl rfl rfl rfl
  cases same

end Axidma.FailedTransfers
