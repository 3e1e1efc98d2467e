import Mathlib.Data.List.Forall2
import Axidma.Transfers

namespace Axidma
open Interaction

-- Every call that prep and start make for one transfer structure, with what the
-- structure and its channel fix about it. The cookie plays no part.
def TransferCall (chan : AxidmaChan) (tfr : AxidmaTransfer) : KernelCall → Prop
  | .xilinxVdmaChannelSetConfig handle _ => handle = chan.chan
  | .dmaenginePrepSlaveSg handle _ => handle = chan.chan
  | .dmaenginePrepInterleavedDma handle _ => handle = chan.chan
  | .uninitialisedFrame => True
  | .storeCbData slot cbData => slot = tfr.cbData ∧ cbData = tfr.slotContent
  | .initCompletion comp => comp = tfr.comp
  | .dmaengineSubmit handle txd => handle = chan.chan ∧ txd.callbackParam = tfr.cbData ∧
      txd.requested = tfr.requested ∧ ∀ source ∈ txd.prepared.sources, ∃ entry ∈ tfr.sgList, entry.source = some source
  | .dmaAsyncIssuePending handle => handle = chan.chan
  | .waitForCompletionTimeout comp _ => comp = tfr.comp
  | .dmaAsyncIsTxComplete handle _ => handle = chan.chan
  | .dmaengineTerminateAll handle => handle = chan.chan
  | _ => False

def KernelCall.transfers : KernelCall → Prop
  | .kmalloc _ => True
  | .kfree _ => True
  | .uninitialisedFrame => True
  | .xilinxVdmaChannelSetConfig _ _ => True
  | .dmaenginePrepSlaveSg _ _ => True
  | .dmaenginePrepInterleavedDma _ _ => True
  | .storeCbData _ _ => True
  | .initCompletion _ => True
  | .dmaengineSubmit _ _ => True
  | .dmaAsyncIssuePending _ => True
  | .waitForCompletionTimeout _ _ => True
  | .dmaAsyncIsTxComplete _ _ => True
  | .dmaengineTerminateAll _ => True
  | _ => False

-- What the kernel or the engine refuses to a call.
def Refused : Event kernel → Prop
  | ⟨.accessOk _ _ _,accessible⟩ => accessible = false
  | ⟨.kmalloc _,ptr⟩ => ptr = none
  | ⟨.copyFromUser _ _,copied⟩ => copied.1 ≠ 0
  | ⟨.readUserPointer _,user⟩ => user = none
  | ⟨.xilinxVdmaChannelSetConfig _ _,rc⟩ => rc < (0 : Int)
  | ⟨.dmaenginePrepSlaveSg _ _,dmaTxnd⟩ => dmaTxnd = false
  | ⟨.dmaenginePrepInterleavedDma _ _,dmaTxnd⟩ => dmaTxnd = false
  | ⟨.dmaengineSubmit _ _,cookie⟩ => cookie < (0 : Int)
  | _ => False

def Refusal (past : List (Event kernel)) : Prop := ∃ event ∈ past, Refused event

theorem refusal_grows (past : List (Event kernel)) (event : Event kernel) (refusal : Refusal past) : Refusal (past++[event]) := by
  obtain ⟨earlier,present,refused⟩ := refusal
  exact ⟨earlier,List.mem_append_left _ present,refused⟩

theorem refusal_last {past : List (Event kernel)} {event : Event kernel} (refused : Refused event) : Refusal (past++[event]) :=
  ⟨event,List.mem_append_right _ List.mem_cons_self,refused⟩

section
variable {chan : AxidmaChan} {tfr : AxidmaTransfer}

theorem transferCall_transfers {op : KernelCall} (call : TransferCall chan tfr op) : op.transfers := by
  cases op <;> first | exact trivial | exact call.elim

def PreparedFrom (tfr : AxidmaTransfer) : Outcome Fault (Except Int Prepared) → Prop
  | .returned (.ok prepared) => ∀ source ∈ prepared.sources, ∃ entry ∈ tfr.sgList, entry.source = some source
  | _ => True

theorem prepDescriptor_calls :
    Does (TransferCall chan tfr) (PreparedFrom tfr) (axidmaPrepDescriptor chan.chan tfr) := by
  unfold axidmaPrepDescriptor
  cases tfr.type with
  | dma =>
    simp only [kcall,Prog.ask,Prog.call_bind,Prog.ret_bind,Prog.pure_eq,does_call,does_ret]
    refine ⟨rfl,fun reply _ => ?_⟩
    cases reply with
    | false => trivial
    | true =>
      intro source member
      obtain ⟨entry,present,same⟩ := List.mem_filterMap.mp member
      exact ⟨entry,present,same⟩
  | vdma =>
    simp only [kcall,Prog.ask,Prog.call_bind,Prog.ret_bind,Prog.pure_eq,does_call]
    refine ⟨rfl,fun rc _ => ?_⟩
    split
    · trivial
    · cases first : tfr.sgList.head? with
      | none => trivial
      | some entry =>
        have member : entry ∈ tfr.sgList := List.mem_of_head? first
        have origin : ∀ source ∈ entry.source.toList, ∃ entry ∈ tfr.sgList, entry.source = some source :=
          fun source present => ⟨entry,member,by simpa using present⟩
        cases tfr.frame with
        | none =>
          refine ⟨trivial,fun frame _ => ⟨rfl,fun reply _ => ?_⟩⟩
          cases reply with
          | false => trivial
          | true => exact origin
        | some frame =>
          refine ⟨rfl,fun reply _ => ?_⟩
          cases reply with
          | false => trivial
          | true => exact origin

-- prep gives the structure back as it was, but for the cookie.
def SameTransfer (tfr : AxidmaTransfer) : Outcome Fault (Int × AxidmaTransfer) → Prop
  | .returned (_,after) => ∃ cookie, after = {tfr with cookie := cookie}
  | .faulted _ => True

-- A description of the calls for one transfer structure: what it has to allow
-- for prep and start to keep to it, with Good what it says of the prepared buffers.
structure Permits (Call : AxidmaChan → AxidmaTransfer → KernelCall → Prop) (Good : AxidmaTransfer → Prepared → Prop) :
    Prop where
  descriptor : ∀ chan tfr, Does (Call chan tfr)
    (fun outcome => ∀ prepared, outcome = .returned (.ok prepared) → Good tfr prepared) (axidmaPrepDescriptor chan.chan tfr)
  store : ∀ chan tfr, Call chan tfr (.storeCbData tfr.cbData tfr.slotContent)
  init : ∀ chan tfr, Call chan tfr (.initCompletion tfr.comp)
  submit : ∀ chan tfr prepared, Good tfr prepared →
    Call chan tfr (.dmaengineSubmit chan.chan ⟨prepared,tfr.cbData,tfr.requested⟩)
  issue : ∀ chan tfr, Call chan tfr (.dmaAsyncIssuePending chan.chan)
  wait : ∀ chan tfr usecs, Call chan tfr (.waitForCompletionTimeout tfr.comp usecs)
  status : ∀ chan tfr cookie, Call chan tfr (.dmaAsyncIsTxComplete chan.chan cookie)
  terminate : ∀ chan tfr, Call chan tfr (.dmaengineTerminateAll chan.chan)

section
variable {Call : AxidmaChan → AxidmaTransfer → KernelCall → Prop} {Good : AxidmaTransfer → Prepared → Prop}

theorem Permits.prep (permits : Permits Call Good) :
    Does (Call chan tfr) (SameTransfer tfr) (axidmaPrepTransfer chan tfr) := by
  rw [prep_parts]
  refine does_bind (permits.descriptor chan tfr) ?_ (fun _ _ => trivial)
  intro result good
  cases result with
  | error rc => exact ⟨permits.terminate chan tfr,fun _ _ => ⟨tfr.cookie,rfl⟩⟩
  | ok prepared =>
    have submitted := permits.submit chan tfr prepared (good prepared rfl)
    have rest : ∀ cookie, Does (Call chan tfr) (SameTransfer tfr) (afterSubmission chan.chan tfr cookie) := by
      intro cookie
      apply does_if
      · intro _
        exact ⟨permits.terminate chan tfr,fun _ _ => ⟨tfr.cookie,rfl⟩⟩
      · intro _
        exact ⟨cookie,rfl⟩
    refine ⟨permits.store chan tfr,fun _ _ => ?_⟩
    split
    · exact ⟨permits.init chan tfr,fun _ _ => ⟨submitted,fun cookie _ => rest cookie⟩⟩
    · exact ⟨submitted,fun cookie _ => rest cookie⟩

theorem Permits.start (permits : Permits Call Good) {cookie : Int} :
    Does (Call chan tfr) (fun outcome => ∃ rc, outcome = .returned rc)
      (axidmaStartTransfer chan {tfr with cookie := cookie}) := by
  have stop := permits.terminate chan tfr
  unfold axidmaStartTransfer
  refine ⟨permits.issue chan tfr,fun _ _ => ?_⟩
  split
  · refine ⟨permits.wait chan tfr _,fun timeRemain _ => ⟨permits.status chan tfr cookie,fun status _ => ?_⟩⟩
    split
    · exact ⟨stop,fun _ _ => ⟨_,rfl⟩⟩
    · cases (status : DmaStatus) with
      | complete => exact ⟨_,rfl⟩
      | inProgress => exact ⟨stop,fun _ _ => ⟨_,rfl⟩⟩
      | paused => exact ⟨stop,fun _ _ => ⟨_,rfl⟩⟩
      | error => exact ⟨stop,fun _ _ => ⟨_,rfl⟩⟩
  · exact ⟨_,rfl⟩

end

def FromEntries (tfr : AxidmaTransfer) (prepared : Prepared) : Prop :=
  ∀ source ∈ prepared.sources, ∃ entry ∈ tfr.sgList, entry.source = some source

theorem transfer_permits : Permits TransferCall FromEntries where
  descriptor := by
    intro chan tfr
    refine prepDescriptor_calls.mono (fun _ => id) ?_
    intro outcome origin prepared same
    rw [same] at origin
    exact origin
  store := fun _ _ => ⟨rfl,rfl⟩
  init := fun _ _ => rfl
  submit := fun _ _ _ origin => ⟨rfl,rfl,rfl,origin⟩
  issue := fun _ _ => rfl
  wait := fun _ _ _ => rfl
  status := fun _ _ _ => rfl
  terminate := fun _ _ => rfl

theorem prep_stores {entry : Scatterlist} (first : tfr.sgList.head? = some entry) :
    Somewhere (fun op : KernelCall => op = .storeCbData tfr.cbData tfr.slotContent) (axidmaPrepTransfer chan tfr) := by
  rw [prep_parts]
  unfold axidmaPrepDescriptor
  cases tfr.type with
  | dma => exact .inr ⟨true,trivial,Or.inl rfl⟩
  | vdma =>
    refine .inr ⟨(0 : Int),trivial,?_⟩
    rw [first]
    cases tfr.frame with
    | none => exact .inr ⟨⟨0,0,0⟩,trivial,.inr ⟨true,trivial,Or.inl rfl⟩⟩
    | some frame => exact .inr ⟨true,trivial,Or.inl rfl⟩

theorem descriptor_possible (chan : AxidmaChan) {entry : Scatterlist} (first : tfr.sgList.head? = some entry) :
    ∃ prepared, Possible (axidmaPrepDescriptor chan.chan tfr) (.returned (.ok prepared)) := by
  unfold axidmaPrepDescriptor
  cases tfr.type with
  | dma => exact ⟨_,true,trivial,rfl⟩
  | vdma =>
    rw [first]
    cases tfr.frame with
    | none => exact ⟨_,(0 : Int),trivial,⟨0,0,0⟩,trivial,true,trivial,rfl⟩
    | some frame => exact ⟨_,(0 : Int),trivial,true,trivial,rfl⟩

-- Nothing of the engine fails, and the submission gets the cookie 0.
theorem prep_possible {entry : Scatterlist} (first : tfr.sgList.head? = some entry) :
    Possible (axidmaPrepTransfer chan tfr) (.returned (0,{tfr with cookie := 0})) := by
  obtain ⟨prepared,described⟩ := descriptor_possible chan first
  refine described.bind ⟨(),trivial,?_⟩
  split
  · exact ⟨(),trivial,(0 : Int),trivial,rfl⟩
  · exact ⟨(0 : Int),trivial,rfl⟩

end

theorem mapM_each {ε α β : Type} {f : α → Except ε β} {list : List α} {results : List β}
    (mapped : list.mapM f = .ok results) : List.Forall₂ (fun value result => f value = .ok result) list results := by
  induction list generalizing results with
  | nil =>
    cases mapped
    exact .nil
  | cons value rest ih =>
    rw [List.mapM_cons] at mapped
    cases first : f value with
    | error error =>
      rw [first] at mapped
      cases mapped
    | ok result =>
      rw [first] at mapped
      cases others : rest.mapM f with
      | error error =>
        rw [others] at mapped
        cases mapped
      | ok results =>
        rw [others] at mapped
        cases mapped
        exact .cons first (ih others)

-- The transfers that a request gets as far as preparing, with their channels.
inductive Sets (dev : AxidmaDevice) (caller : Caller) : Request → AxidmaChan → AxidmaTransfer → Prop where
  | read {transaction : AxidmaTransaction} {chan : AxidmaChan} {entry : Scatterlist}
      (found : axidmaGetChan dev transaction.channelId = some chan) (fits : chan.dir = .read)
      (translated : axidmaInitSgEntry dev transaction.buf transaction.bufLen = .ok entry) :
      Sets dev caller (.read transaction) chan (onewayTfr dev caller chan transaction entry)
  | write {transaction : AxidmaTransaction} {chan : AxidmaChan} {entry : Scatterlist}
      (found : axidmaGetChan dev transaction.channelId = some chan) (fits : chan.dir = .write)
      (translated : axidmaInitSgEntry dev transaction.buf transaction.bufLen = .ok entry) :
      Sets dev caller (.write transaction) chan (onewayTfr dev caller chan transaction entry)
  | transmit {transaction : AxidmaInoutTransaction} {chan rxChan : AxidmaChan} {entry rxEntry : Scatterlist}
      (found : axidmaGetChan dev transaction.txChannelId = some chan) (fits : chan.dir = .write)
      (translated : axidmaInitSgEntry dev transaction.txBuf transaction.txBufLen = .ok entry)
      (foundRx : axidmaGetChan dev transaction.rxChannelId = some rxChan) (fitsRx : rxChan.dir = .read)
      (translatedRx : axidmaInitSgEntry dev transaction.rxBuf transaction.rxBufLen = .ok rxEntry) :
      Sets dev caller (.readwrite transaction) chan (txTfr dev caller chan transaction entry)
  | receive {transaction : AxidmaInoutTransaction} {txChan chan : AxidmaChan} {txEntry entry : Scatterlist}
      (found : axidmaGetChan dev transaction.rxChannelId = some chan) (fits : chan.dir = .read)
      (translated : axidmaInitSgEntry dev transaction.rxBuf transaction.rxBufLen = .ok entry)
      (foundTx : axidmaGetChan dev transaction.txChannelId = some txChan) (fitsTx : txChan.dir = .write)
      (translatedTx : axidmaInitSgEntry dev transaction.txBuf transaction.txBufLen = .ok txEntry) :
      Sets dev caller (.readwrite transaction) chan (rxTfr dev caller txChan chan transaction entry)
  | video {transaction : AxidmaVideoTransaction} {dir : AxidmaDir} {chan : AxidmaChan} {sgList : List Scatterlist}
      (found : axidmaGetChan dev transaction.channelId = some chan)
      (counted : 0 ≤ transaction.numFrameBuffers.toInt)
      (translated : transaction.sgList dev = .ok sgList) :
      Sets dev caller (.video transaction dir) chan (videoTfr dev caller transaction dir sgList)

def SetsCall (dev : AxidmaDevice) (caller : Caller) (request : Request) (op : KernelCall) : Prop :=
  ∃ chan tfr, Sets dev caller request chan tfr ∧ TransferCall chan tfr op

def RequestCall (dev : AxidmaDevice) (caller : Caller) (request : Request) (op : KernelCall) : Prop :=
  SetsCall dev caller request op ∨
  (∃ transaction dir, request = .video transaction dir ∧
    (op = .kmalloc (transaction.numFrameBuffers.signExtend 64*SIZEOF_SCATTERLIST) ∨ ∃ ptr, op = .kfree ptr)) ∨
  ∃ chanInfo chan, request = .stop chanInfo ∧ axidmaGetChan dev chanInfo.channelId = some chan ∧
    op = .dmaengineTerminateAll chan.chan

theorem requestCall_transfers {dev : AxidmaDevice} {caller : Caller} {request : Request} {op : KernelCall}
    (call : RequestCall dev caller request op) : op.transfers := by
  rcases call with ⟨chan,tfr,_,call⟩ | ⟨_,_,_,rfl | ⟨_,rfl⟩⟩ | ⟨_,_,_,_,rfl⟩
  · exact transferCall_transfers call
  · trivial
  · trivial
  · trivial

-- The calls of a request by any description of the calls of its transfers, and
-- what a request calls beside them.
def Setting (Call : AxidmaChan → AxidmaTransfer → KernelCall → Prop) (dev : AxidmaDevice) (caller : Caller)
    (request : Request) (op : KernelCall) : Prop :=
  ∃ chan tfr, Sets dev caller request chan tfr ∧ Call chan tfr op

def Beside (dev : AxidmaDevice) (request : Request) (op : KernelCall) : Prop :=
  (∃ transaction dir, request = .video transaction dir ∧
    (op = .kmalloc (transaction.numFrameBuffers.signExtend 64*SIZEOF_SCATTERLIST) ∨ ∃ ptr, op = .kfree ptr)) ∨
  ∃ chanInfo chan, request = .stop chanInfo ∧ axidmaGetChan dev chanInfo.channelId = some chan ∧
    op = .dmaengineTerminateAll chan.chan

theorem sg_list_size (count : CInt) :
    (count.signExtend 64*SIZEOF_SCATTERLIST).toNat < 2^63 ↔ 0 ≤ count.toInt := by
  rw [SIZEOF_SCATTERLIST,BitVec.toNat_mul,BitVec.toNat_signExtend,BitVec.toInt_eq_msb_cond]
  have bound := count.isLt
  cases sign : count.msb with
  | true =>
    have large : 2^31 ≤ count.toNat := by simpa using BitVec.toNat_ge_of_msb_true sign
    simp
    omega
  | false =>
    have small : count.toNat < 2^31 := by simpa using BitVec.toNat_lt_of_msb_false sign
    simp
    omega

section
variable {dev : AxidmaDevice} {caller : Caller} {request : Request}
  {Call : AxidmaChan → AxidmaTransfer → KernelCall → Prop} {Good : AxidmaTransfer → Prepared → Prop}

theorem found_member {channelId : CInt} {chan : AxidmaChan} (found : axidmaGetChan dev channelId = some chan) :
    chan ∈ dev.channels ∧ chan.channelId = channelId :=
  ⟨List.mem_of_find?_eq_some found,by simpa using List.find?_some found⟩

-- The channel test of the video and stop requests never refuses: with a channel
-- it stops at the first operand, and without one it reads the missing channel.
theorem channel_test {α : Type} {first second : AxidmaChan → Bool} {refused : Driver α} {next : Driver α}
    (chan : Option AxidmaChan) :
    (do
      if ← (pure chan.isNone <&&> (do return first (← Prog.deref Fault.nullPointer chan)) <&&>
          (do return second (← Prog.deref Fault.nullPointer chan))) then refused
      else next) =
    match chan with
    | none => .fault .nullPointer
    | some _ => next := by
  cases chan with
  | none => rfl
  | some chan => rfl

theorem prep_then {α : Type} {chan : AxidmaChan} {tfr : AxidmaTransfer} {rest : Int × AxidmaTransfer → Driver α}
    {post : Outcome Fault α → Prop} (permits : Permits Call Good) (sets : Sets dev caller request chan tfr)
    (faults : ∀ error, post (.faulted error))
    (second : ∀ rc cookie, Does (Setting Call dev caller request) post (rest (rc,{tfr with cookie := cookie}))) :
    Does (Setting Call dev caller request) post (axidmaPrepTransfer chan tfr >>= rest) := by
  refine does_bind (permits.prep.mono (fun op call => ⟨chan,tfr,sets,call⟩) fun _ => id) ?_
    (fun error _ => faults error)
  intro result kept
  obtain ⟨rc,after⟩ := result
  obtain ⟨cookie,rfl⟩ := kept
  exact second rc cookie

theorem start_then {α : Type} {chan : AxidmaChan} {tfr : AxidmaTransfer} {cookie : Int} {rest : Int → Driver α}
    {post : Outcome Fault α → Prop} (permits : Permits Call Good) (sets : Sets dev caller request chan tfr)
    (second : ∀ rc, Does (Setting Call dev caller request) post (rest rc)) :
    Does (Setting Call dev caller request) post
      (axidmaStartTransfer chan {tfr with cookie := cookie} >>= rest) := by
  refine does_bind (permits.start.mono (fun op call => ⟨chan,tfr,sets,call⟩) fun _ => id)
    (fun rc _ => second rc) ?_
  intro error returned
  obtain ⟨rc,same⟩ := returned
  cases same

-- The calls of the two requests on buffers, once everything is looked up.
def onewayCalls (chan : AxidmaChan) (tfr : AxidmaTransfer) : Driver Int := do
  let (rc,tfr) ← axidmaPrepTransfer chan tfr
  if rc < 0 then
    return rc
  let rc ← axidmaStartTransfer chan tfr
  if rc < 0 then
    return rc
  return 0

def rwCalls (txChan rxChan : AxidmaChan) (tx rx : AxidmaTransfer) : Driver Int := do
  let (rc,tx) ← axidmaPrepTransfer txChan tx
  if rc < 0 then
    return rc
  let (rc,rx) ← axidmaPrepTransfer rxChan rx
  if rc < 0 then
    return rc
  let rc ← axidmaStartTransfer txChan tx
  if rc < 0 then
    return rc
  let rc ← axidmaStartTransfer rxChan rx
  if rc < 0 then
    return rc
  return 0

-- What a request comes to, by what it finds before its first call.
inductive OnewayFinds (dir : AxidmaDir) (dev : AxidmaDevice) (caller : Caller) (transaction : AxidmaTransaction) :
    Driver Int → Prop where
  | refused (unfit : ∀ chan, axidmaGetChan dev transaction.channelId = some chan → chan.dir ≠ dir) :
      OnewayFinds dir dev caller transaction (return -ENODEV)
  | untranslated {rc : Int} (failed : axidmaInitSgEntry dev transaction.buf transaction.bufLen = .error rc) :
      OnewayFinds dir dev caller transaction (return rc)
  | all {chan : AxidmaChan} {entry : Scatterlist} (found : axidmaGetChan dev transaction.channelId = some chan)
      (fits : chan.dir = dir) (translated : axidmaInitSgEntry dev transaction.buf transaction.bufLen = .ok entry) :
      OnewayFinds dir dev caller transaction (onewayCalls chan (onewayTfr dev caller chan transaction entry))

inductive RwFinds (dev : AxidmaDevice) (caller : Caller) (transaction : AxidmaInoutTransaction) : Driver Int → Prop where
  | refused (unfit : ∀ txChan rxChan, axidmaGetChan dev transaction.txChannelId = some txChan → txChan.dir = .write →
      axidmaGetChan dev transaction.rxChannelId = some rxChan → rxChan.dir ≠ .read) :
      RwFinds dev caller transaction (return -ENODEV)
  | untranslated {buf : UserAddr} {bufLen : SizeT} {rc : Int} (failed : axidmaInitSgEntry dev buf bufLen = .error rc) :
      RwFinds dev caller transaction (return rc)
  | all {txChan rxChan : AxidmaChan} {txEntry rxEntry : Scatterlist}
      (foundTx : axidmaGetChan dev transaction.txChannelId = some txChan) (transmits : txChan.dir = .write)
      (foundRx : axidmaGetChan dev transaction.rxChannelId = some rxChan) (receives : rxChan.dir = .read)
      (translatedTx : axidmaInitSgEntry dev transaction.txBuf transaction.txBufLen = .ok txEntry)
      (translatedRx : axidmaInitSgEntry dev transaction.rxBuf transaction.rxBufLen = .ok rxEntry) :
      RwFinds dev caller transaction (rwCalls txChan rxChan (txTfr dev caller txChan transaction txEntry)
        (rxTfr dev caller txChan rxChan transaction rxEntry))

theorem oneway_unfit {dir : AxidmaDir} {transaction : AxidmaTransaction}
    (unfit : ∀ chan, axidmaGetChan dev transaction.channelId = some chan → chan.dir ≠ dir) :
    onewayTransfer dir dev caller transaction = return -ENODEV := by
  unfold onewayTransfer
  cases found : axidmaGetChan dev transaction.channelId with
  | none => rfl
  | some chan =>
    simp only [unfit chan found,ne_eq,not_false_eq_true,if_true]

theorem rw_unfit {transaction : AxidmaInoutTransaction}
    (unfit : ∀ txChan rxChan, axidmaGetChan dev transaction.txChannelId = some txChan → txChan.dir = .write →
      axidmaGetChan dev transaction.rxChannelId = some rxChan → rxChan.dir ≠ .read) :
    axidmaRwTransfer dev caller transaction = return -ENODEV := by
  unfold axidmaRwTransfer
  cases foundTx : axidmaGetChan dev transaction.txChannelId with
  | none => rfl
  | some txChan =>
    by_cases transmits : txChan.dir = .write
    · cases foundRx : axidmaGetChan dev transaction.rxChannelId with
      | none => simp only [transmits,ne_eq,not_true,if_false]
      | some rxChan =>
        have wrong := unfit txChan rxChan foundTx transmits foundRx
        simp only [transmits,wrong,ne_eq,not_true,not_false_eq_true,if_false,if_true]
    · simp only [transmits,ne_eq,not_false_eq_true,if_true]

theorem oneway_found {dir : AxidmaDir} {transaction : AxidmaTransaction} {chan : AxidmaChan} {entry : Scatterlist}
    (found : axidmaGetChan dev transaction.channelId = some chan) (fits : chan.dir = dir)
    (translated : axidmaInitSgEntry dev transaction.buf transaction.bufLen = .ok entry) :
    onewayTransfer dir dev caller transaction = onewayCalls chan (onewayTfr dev caller chan transaction entry) := by
  unfold onewayTransfer
  simp only [found,fits,translated,ne_eq,not_true,if_false]
  rfl

theorem rw_found {transaction : AxidmaInoutTransaction} {txChan rxChan : AxidmaChan} {txEntry rxEntry : Scatterlist}
    (foundTx : axidmaGetChan dev transaction.txChannelId = some txChan) (transmits : txChan.dir = .write)
    (foundRx : axidmaGetChan dev transaction.rxChannelId = some rxChan) (receives : rxChan.dir = .read)
    (translatedTx : axidmaInitSgEntry dev transaction.txBuf transaction.txBufLen = .ok txEntry)
    (translatedRx : axidmaInitSgEntry dev transaction.rxBuf transaction.rxBufLen = .ok rxEntry) :
    axidmaRwTransfer dev caller transaction = rwCalls txChan rxChan (txTfr dev caller txChan transaction txEntry)
      (rxTfr dev caller txChan rxChan transaction rxEntry) := by
  unfold axidmaRwTransfer
  simp only [foundTx,transmits,foundRx,receives,translatedTx,translatedRx,ne_eq,not_true,if_false]
  rfl

theorem oneway_finds {dir : AxidmaDir} {transaction : AxidmaTransaction} :
    OnewayFinds dir dev caller transaction (onewayTransfer dir dev caller transaction) := by
  by_cases unfit : ∀ chan, axidmaGetChan dev transaction.channelId = some chan → chan.dir ≠ dir
  · rw [oneway_unfit unfit]
    exact .refused unfit
  · simp only [Classical.not_forall,Classical.not_not] at unfit
    obtain ⟨chan,found,fits⟩ := unfit
    cases translated : axidmaInitSgEntry dev transaction.buf transaction.bufLen with
    | error rc =>
      unfold onewayTransfer
      simp only [found,fits,translated,ne_eq,not_true,if_false]
      exact .untranslated translated
    | ok entry =>
      rw [oneway_found found fits translated]
      exact .all found fits translated

theorem rw_finds {transaction : AxidmaInoutTransaction} :
    RwFinds dev caller transaction (axidmaRwTransfer dev caller transaction) := by
  by_cases unfit : ∀ txChan rxChan, axidmaGetChan dev transaction.txChannelId = some txChan → txChan.dir = .write →
      axidmaGetChan dev transaction.rxChannelId = some rxChan → rxChan.dir ≠ .read
  · rw [rw_unfit unfit]
    exact .refused unfit
  · simp only [Classical.not_forall,Classical.not_not] at unfit
    obtain ⟨txChan,rxChan,foundTx,transmits,foundRx,receives⟩ := unfit
    cases translatedTx : axidmaInitSgEntry dev transaction.txBuf transaction.txBufLen with
    | error rc =>
      unfold axidmaRwTransfer
      simp only [foundTx,transmits,foundRx,receives,translatedTx,ne_eq,not_true,if_false]
      exact .untranslated translatedTx
    | ok txEntry =>
      cases translatedRx : axidmaInitSgEntry dev transaction.rxBuf transaction.rxBufLen with
      | error rc =>
        unfold axidmaRwTransfer
        simp only [foundTx,transmits,foundRx,receives,translatedTx,translatedRx,ne_eq,not_true,if_false]
        exact .untranslated translatedRx
      | ok rxEntry =>
        rw [rw_found foundTx transmits foundRx receives translatedTx translatedRx]
        exact .all foundTx transmits foundRx receives translatedTx translatedRx

theorem oneway_calls (permits : Permits Call Good) {dir : AxidmaDir} {transaction : AxidmaTransaction}
    (sets : ∀ chan entry, axidmaGetChan dev transaction.channelId = some chan → chan.dir = dir →
      axidmaInitSgEntry dev transaction.buf transaction.bufLen = .ok entry →
      Sets dev caller request chan (onewayTfr dev caller chan transaction entry)) :
    Does (Setting Call dev caller request) (fun _ => True) (onewayTransfer dir dev caller transaction) := by
  have finds := @oneway_finds dev caller dir transaction
  generalize onewayTransfer dir dev caller transaction = program at finds ⊢
  cases finds with
  | refused _ => trivial
  | untranslated _ => trivial
  | @all chan entry found fits translated =>
    have set := sets chan entry found fits translated
    apply prep_then permits set (fun _ => trivial)
    intro rc cookie
    refine does_if (fun _ => trivial) fun _ => ?_
    apply start_then permits set
    intro rc
    exact does_if (fun _ => trivial) fun _ => trivial

theorem rw_calls (permits : Permits Call Good) {transaction : AxidmaInoutTransaction} :
    Does (Setting Call dev caller (.readwrite transaction)) (fun _ => True)
      (axidmaRwTransfer dev caller transaction) := by
  have finds := @rw_finds dev caller transaction
  generalize axidmaRwTransfer dev caller transaction = program at finds ⊢
  cases finds with
  | refused _ => trivial
  | untranslated _ => trivial
  | @all txChan rxChan txEntry rxEntry foundTx transmits foundRx receives translatedTx translatedRx =>
    have tx : Sets dev caller (.readwrite transaction) txChan (txTfr dev caller txChan transaction txEntry) :=
      .transmit foundTx transmits translatedTx foundRx receives translatedRx
    have rx : Sets dev caller (.readwrite transaction) rxChan (rxTfr dev caller txChan rxChan transaction rxEntry) :=
      .receive foundRx receives translatedRx foundTx transmits translatedTx
    apply prep_then permits tx (fun _ => trivial)
    intro rc _
    refine does_if (fun _ => trivial) fun _ => ?_
    apply prep_then permits rx (fun _ => trivial)
    intro rc _
    refine does_if (fun _ => trivial) fun _ => ?_
    apply start_then permits tx
    intro rc
    refine does_if (fun _ => trivial) fun _ => ?_
    apply start_then permits rx
    intro rc
    exact does_if (fun _ => trivial) fun _ => trivial

theorem video_body_calls (permits : Permits Call Good) {transaction : AxidmaVideoTransaction} {dir : AxidmaDir}
    (counted : 0 ≤ transaction.numFrameBuffers.toInt) :
    Does (Setting Call dev caller (.video transaction dir)) (fun _ => True)
      (videoTransferBody dev caller transaction dir) := by
  unfold videoTransferBody
  cases translated : transaction.sgList dev with
  | error rc => trivial
  | ok sgList =>
    simp only [channel_test]
    cases found : axidmaGetChan dev transaction.channelId with
    | none => trivial
    | some chan =>
      have set : Sets dev caller (.video transaction dir) chan (videoTfr dev caller transaction dir sgList) :=
        .video found counted translated
      simp only [Prog.deref_some,Prog.ret_bind]
      apply prep_then permits set (fun _ => trivial)
      intro rc _
      refine does_if (fun _ => trivial) fun _ => ?_
      rw [← Prog.bind_ret (axidmaStartTransfer _ _)]
      exact start_then permits set fun _ => trivial

theorem video_calls (permits : Permits Call Good) {transaction : AxidmaVideoTransaction} {dir : AxidmaDir} :
    Does (fun op => Setting Call dev caller (.video transaction dir) op ∨ Beside dev (.video transaction dir) op) (fun _ => True)
      (axidmaVideoTransfer dev caller transaction dir) := by
  unfold axidmaVideoTransfer
  simp only [kcall,Prog.ask,Prog.call_bind,Prog.ret_bind]
  refine ⟨.inr (.inl ⟨transaction,dir,rfl,.inl rfl⟩),fun reply legal => ?_⟩
  cases reply with
  | none => trivial
  | some sgList =>
    have counted := (sg_list_size _).mp (legal rfl)
    refine does_bind ((video_body_calls permits counted).mono (fun _ => .inl) fun _ => id) (fun _ _ => ?_) (fun _ _ => trivial)
    exact ⟨.inr (.inl ⟨transaction,dir,rfl,.inr ⟨_,rfl⟩⟩),fun _ _ => trivial⟩

theorem stop_calls {chanInfo : AxidmaChan} :
    Does (Beside dev (.stop chanInfo)) (fun _ => True) (axidmaStopChannel dev chanInfo) := by
  unfold axidmaStopChannel
  simp only [channel_test]
  cases found : axidmaGetChan dev chanInfo.channelId with
  | none => trivial
  | some chan => exact ⟨.inr ⟨chanInfo,chan,rfl,found,rfl⟩,fun _ _ => trivial⟩

theorem request_does (permits : Permits Call Good) :
    Does (fun op => Setting Call dev caller request op ∨ Beside dev request op) (fun _ => True) (request.program dev caller) := by
  cases request with
  | read transaction =>
    exact (oneway_calls permits fun _ _ found fits translated => .read found fits translated).mono (fun _ => .inl) fun _ => id
  | write transaction =>
    exact (oneway_calls permits fun _ _ found fits translated => .write found fits translated).mono (fun _ => .inl) fun _ => id
  | readwrite transaction => exact (rw_calls permits).mono (fun _ => .inl) fun _ => id
  | video transaction dir => exact video_calls permits
  | stop chanInfo => exact stop_calls.mono (fun _ => .inr) fun _ => id

theorem request_calls : Does (RequestCall dev caller request) (fun _ => True) (request.program dev caller) :=
  request_does transfer_permits

end
end Axidma
