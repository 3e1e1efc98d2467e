import Axidma.ProgrammedFrames
import Axidma.Questions

namespace Axidma.Lookups
open Interaction
open ProgrammedFrames

def Entry (_ : UserAddr × SizeT) : Except Int Scatterlist → Prop
  | .error rc => rc = -EFAULT
  | .ok entry => entry.dmaAddress ≠ 0

abbrev looking : Interface := kernel.asking Entry
abbrev Looking := Prog looking Fault

def entryAt (dev : AxidmaDevice) (range : UserAddr × SizeT) : Except Int Scatterlist :=
  axidmaInitSgEntry dev range.1 range.2

def askSgEntry (buf : UserAddr) (bufLen : SizeT) : Looking (Except Int Scatterlist) := Prog.question Entry (buf,bufLen)

-- The requests where the lists may change from one address to the next: each is
-- looked up when the driver comes to it.
def onewayTransfer (dir : AxidmaDir) (dev : AxidmaDevice) (caller : Caller) (trans : AxidmaTransaction) : Looking Int := do
  match axidmaGetChan dev trans.channelId with
  | none => return -ENODEV
  | some chan =>
  if chan.dir ≠ dir then
    return -ENODEV
  match ← askSgEntry trans.buf trans.bufLen with
  | .error rc => return rc
  | .ok entry => (onewayCalls chan (onewayTfr dev caller chan trans entry)).lift Entry

def axidmaRwTransfer (dev : AxidmaDevice) (caller : Caller) (trans : AxidmaInoutTransaction) : Looking Int := do
  match axidmaGetChan dev trans.txChannelId with
  | none => return -ENODEV
  | some txChan =>
  if txChan.dir ≠ .write then
    return -ENODEV
  match axidmaGetChan dev trans.rxChannelId with
  | none => return -ENODEV
  | some rxChan =>
  if rxChan.dir ≠ .read then
    return -ENODEV
  match ← askSgEntry trans.txBuf trans.txBufLen with
  | .error rc => return rc
  | .ok txEntry =>
  match ← askSgEntry trans.rxBuf trans.rxBufLen with
  | .error rc => return rc
  | .ok rxEntry =>
  (rwCalls txChan rxChan (txTfr dev caller txChan trans txEntry) (rxTfr dev caller txChan rxChan trans rxEntry)).lift Entry

def askSgList (imageSize : SizeT) : List UserAddr → Looking (Except Int (List Scatterlist))
  | [] => return .ok []
  | buf :: rest => do
    match ← askSgEntry buf imageSize with
    | .error rc => return .error rc
    | .ok entry =>
    match ← askSgList imageSize rest with
    | .error rc => return .error rc
    | .ok sgList => return .ok (entry :: sgList)

def videoCalls (dev : AxidmaDevice) (caller : Caller) (trans : AxidmaVideoTransaction) (dir : AxidmaDir)
    (sgList : List Scatterlist) : Driver Int := do
  let chan := axidmaGetChan dev trans.channelId
  if ← (pure chan.isNone <&&> (do return (← Prog.deref .nullPointer chan).dir != dir) <&&>
      (do return (← Prog.deref .nullPointer chan).type != .vdma)) then
    return -ENODEV
  let chan ← Prog.deref .nullPointer chan
  let (rc,transfer) ← axidmaPrepTransfer chan (videoTfr dev caller trans dir sgList)
  if rc < 0 then
    return rc
  axidmaStartTransfer chan transfer

def videoTransferBody (dev : AxidmaDevice) (caller : Caller) (trans : AxidmaVideoTransaction) (dir : AxidmaDir) : Looking Int := do
  let imageSize : SizeT := (trans.frame.width*trans.frame.height*trans.frame.depth).signExtend 64
  match ← askSgList imageSize trans.frameBuffers with
  | .error rc => return rc
  | .ok sgList => (videoCalls dev caller trans dir sgList).lift Entry

def axidmaVideoTransfer (dev : AxidmaDevice) (caller : Caller) (trans : AxidmaVideoTransaction) (dir : AxidmaDir) : Looking Int := do
  let reply ← (kcall (.kmalloc (trans.numFrameBuffers.signExtend 64*SIZEOF_SCATTERLIST))).lift Entry
  match reply with
  | none => return 0
  | some sgList =>
    let _rc ← videoTransferBody dev caller trans dir
    (kcall (.kfree sgList)).lift Entry
    return 0

def asking (dev : AxidmaDevice) (caller : Caller) : Request → Looking Int
  | .read transaction => onewayTransfer .read dev caller transaction
  | .write transaction => onewayTransfer .write dev caller transaction
  | .readwrite transaction => axidmaRwTransfer dev caller transaction
  | .video transaction dir => axidmaVideoTransfer dev caller transaction dir
  | .stop chanInfo => (axidmaStopChannel dev chanInfo).lift Entry

section
variable {dev : AxidmaDevice} {caller : Caller}

theorem oneway_at_once {dir : AxidmaDir} {trans : AxidmaTransaction} :
    (onewayTransfer dir dev caller trans).answered (entryAt dev) = Axidma.onewayTransfer dir dev caller trans := by
  unfold onewayTransfer Axidma.onewayTransfer
  cases axidmaGetChan dev trans.channelId with
  | none => rfl
  | some chan =>
    by_cases fits : chan.dir = dir
    · simp only [fits,ne_eq,not_true,if_false,askSgEntry,Prog.answered_question,entryAt]
      cases axidmaInitSgEntry dev trans.buf trans.bufLen with
      | error rc => rfl
      | ok entry => exact Prog.answered_lift _
    · simp only [fits,ne_eq,not_false_eq_true,if_true]
      rfl

theorem rw_at_once {trans : AxidmaInoutTransaction} :
    (axidmaRwTransfer dev caller trans).answered (entryAt dev) = Axidma.axidmaRwTransfer dev caller trans := by
  unfold axidmaRwTransfer Axidma.axidmaRwTransfer
  cases axidmaGetChan dev trans.txChannelId with
  | none => rfl
  | some txChan =>
    by_cases transmits : txChan.dir = .write
    · cases axidmaGetChan dev trans.rxChannelId with
      | none =>
        simp only [transmits,ne_eq,not_true,if_false]
        rfl
      | some rxChan =>
        by_cases receives : rxChan.dir = .read
        · simp only [transmits,receives,ne_eq,not_true,if_false,askSgEntry,Prog.answered_question,entryAt]
          cases axidmaInitSgEntry dev trans.txBuf trans.txBufLen with
          | error rc => rfl
          | ok txEntry =>
            simp only [Prog.answered_question,entryAt]
            cases axidmaInitSgEntry dev trans.rxBuf trans.rxBufLen with
            | error rc => rfl
            | ok rxEntry => exact Prog.answered_lift _
        · simp only [transmits,receives,ne_eq,not_true,not_false_eq_true,if_false,if_true]
          rfl
    · simp only [transmits,ne_eq,not_false_eq_true,if_true]
      rfl

theorem list_at_once {imageSize : SizeT} {buffers : List UserAddr} :
    (askSgList imageSize buffers).answered (entryAt dev) = .ret (buffers.mapM fun buf => axidmaInitSgEntry dev buf imageSize) := by
  induction buffers with
  | nil => rfl
  | cons buf rest ih =>
    rw [List.mapM_cons,askSgList,askSgEntry,Prog.answered_question]
    simp only [entryAt]
    cases axidmaInitSgEntry dev buf imageSize with
    | error rc => rfl
    | ok entry =>
      show (askSgList imageSize rest >>= _).answered _ = _
      rw [Prog.answered_bind,ih]
      cases rest.mapM fun buf => axidmaInitSgEntry dev buf imageSize with
      | error rc => rfl
      | ok sgList => rfl

theorem video_at_once {trans : AxidmaVideoTransaction} {dir : AxidmaDir} :
    (axidmaVideoTransfer dev caller trans dir).answered (entryAt dev) = Axidma.axidmaVideoTransfer dev caller trans dir := by
  have body : (videoTransferBody dev caller trans dir).answered (entryAt dev) = Axidma.videoTransferBody dev caller trans dir := by
    unfold videoTransferBody Axidma.videoTransferBody
    rw [Prog.answered_bind,list_at_once,Prog.ret_bind]
    unfold AxidmaVideoTransaction.sgList
    cases trans.frameBuffers.mapM fun buf => axidmaInitSgEntry dev buf _ with
    | error rc => rfl
    | ok sgList => exact Prog.answered_lift _
  unfold axidmaVideoTransfer Axidma.axidmaVideoTransfer
  rw [Prog.answered_bind,Prog.answered_lift]
  apply congrArg (Prog.call _)
  funext reply
  cases reply with
  | none => rfl
  | some sgList =>
    show (videoTransferBody dev caller trans dir >>= _).answered _ = _
    rw [Prog.answered_bind,body]
    rfl

-- While the lists stay as they are, it is the request as above.
theorem asking_at_once {request : Request} : (asking dev caller request).answered (entryAt dev) = request.program dev caller := by
  cases request with
  | read transaction => exact oneway_at_once
  | write transaction => exact oneway_at_once
  | readwrite transaction => exact rw_at_once
  | video transaction dir => exact video_at_once
  | stop chanInfo => exact Prog.answered_lift _

end

-- A request in progress. The ghost fields: the channels at its start, what it has
-- to kfree, the addresses its lookups found (0 where one was refused) and what
-- passed between it and the kernel.
structure Call where
  session : Nat
  channels : List AxidmaChan
  request : Request
  held : List Nat
  answers : List DmaAddr
  past : List (Event kernel)

def submits (event : Event kernel) : List DmaAddr := match event.1 with
  | .dmaengineSubmit _ txd => frameStarts txd.prepared
  | _ => []

def Call.programmed (call : Call) : List DmaAddr := call.past.flatMap submits

def Call.Accepted (call : Call) : Prop := call.answers.length = call.request.ranges.length ∧ 0 ∉ call.answers

def allocated (held : List Nat) : (op : KernelCall) → op.Reply → List Nat
  | .kmalloc _,some ptr => ptr :: held
  | .kfree ptr,_ => held.erase ptr
  | _,_ => held

def Call.admits (call : Call) : KernelCall → Prop
  | .kfree ptr => ptr ∈ call.held
  | .dmaengineSubmit _ txd => call.Accepted ∧ call.programmed++frameStarts txd.prepared <+: call.answers
  | op => op.transfers

def Call.advance (call : Call) (op : KernelCall) (reply : op.Reply) : Call :=
  {call with held := allocated call.held op reply, past := call.past++[⟨op,reply⟩]}

def base : Except Int Scatterlist → DmaAddr
  | .error _ => 0
  | .ok entry => entry.dmaAddress

theorem base_entry {dev : AxidmaDevice} {range : UserAddr × SizeT} :
    base (entryAt dev range) = axidmaUservirtToDma dev range.1 range.2 := by
  simp only [entryAt,axidmaInitSgEntry]
  split
  · exact (‹axidmaUservirtToDma dev range.1 range.2 = 0›).symm
  · rfl

theorem entry_legal {dev : AxidmaDevice} {range : UserAddr × SizeT} : Entry range (entryAt dev range) := by
  simp only [entryAt,axidmaInitSgEntry]
  split
  · rfl
  · assumption

-- An address is asked for in its turn, and none after a refusal.
def protocol : Protocol looking Call where
  admits := fun call op => match op with
    | .inl op => call.admits op
    | .inr range => call.request.ranges[call.answers.length]? = some range ∧ 0 ∉ call.answers
  advance := fun call op => match op with
    | .inl op => call.advance op
    | .inr _ => fun reply => {call with answers := call.answers++[base reply]}

def Fits (channels : List AxidmaChan) : Request → Prop
  | .read transaction => ∃ chan, channels.find? (fun chan => decide (chan.channelId = transaction.channelId)) = some chan ∧
      chan.dir = .read
  | .write transaction => ∃ chan, channels.find? (fun chan => decide (chan.channelId = transaction.channelId)) = some chan ∧
      chan.dir = .write
  | .readwrite transaction =>
    (∃ chan, channels.find? (fun chan => decide (chan.channelId = transaction.txChannelId)) = some chan ∧ chan.dir = .write) ∧
    ∃ chan, channels.find? (fun chan => decide (chan.channelId = transaction.rxChannelId)) = some chan ∧ chan.dir = .read
  | _ => True

-- The video request drops the code, and programs its first buffer only.
def refusal : Request → Int
  | .video _ _ => 0
  | _ => -EFAULT

def aimed : Request → List DmaAddr → List DmaAddr
  | .video _ _,answers => answers.take 1
  | _,answers => answers

-- How a request has come to its code: on the first refusal of an address it ends
-- there, and with all accepted it programs them, unless the kernel refuses.
inductive Ended (call : Call) : Int → Prop where
  | unfit (misfit : ¬ Fits call.channels call.request) (unasked : call.answers = []) : Ended call (-ENODEV)
  | refused (zero : 0 ∈ call.answers) : Ended call (refusal call.request)
  | stopped {rc : Int} (refusal : Refusal call.past) : Ended call rc
  | carried {rc : Int} (accepted : call.Accepted) (all : call.programmed = aimed call.request call.answers) : Ended call rc

def Ends (call : Call) (outcome : Outcome Fault Int) : Prop := ∀ rc, outcome = .returned rc → Ended call rc

-- What a request has programmed so far is in turn, and all its addresses accepted.
structure Sound (call : Call) : Prop where
  programmed : call.programmed <+: call.answers
  accepted : call.programmed ≠ [] → call.Accepted

theorem sound_advance {call : Call} {op : looking.Op} {reply : looking.Reply op} (sound : Sound call)
    (admitted : protocol.admits call op) : Sound (protocol.advance call op reply) := by
  cases op with
  | inl op =>
    have programmed : (call.advance op reply).programmed = call.programmed++submits ⟨op,reply⟩ := by
      simp [Call.programmed,Call.advance]
    have others : submits ⟨op,reply⟩ = [] → Sound (call.advance op reply) := by
      intro none
      rw [none,List.append_nil] at programmed
      refine ⟨?_,fun some => sound.accepted ?_⟩
      · rw [programmed]
        exact sound.programmed
      · rwa [programmed] at some
    cases op with
    | dmaengineSubmit chan txd =>
      refine ⟨?_,fun _ => admitted.1⟩
      have inside : call.programmed++submits ⟨.dmaengineSubmit chan txd,reply⟩ <+: call.answers := admitted.2
      rw [← programmed] at inside
      exact inside
    | _ => exact others rfl
  | inr range =>
    refine ⟨sound.programmed.trans (List.prefix_append ..),fun some => ?_⟩
    obtain ⟨turn,_⟩ := admitted
    obtain ⟨inside,_⟩ := List.getElem?_eq_some_iff.mp turn
    exact absurd (sound.accepted some).1 (Nat.ne_of_lt inside)

def Quiet : KernelCall → Prop
  | .kmalloc _ => False
  | .kfree _ => False
  | .dmaengineSubmit _ _ => False
  | op => op.transfers

def aims (tfr : AxidmaTransfer) : List DmaAddr := match tfr.type with
  | .dma => tfr.sgList.map (·.dmaAddress)
  | .vdma => (tfr.sgList.head?.map (·.dmaAddress)).toList

section
variable {call : Call} {chan : AxidmaChan} {tfr : AxidmaTransfer} {past : List (Event kernel)}

theorem quiet_follows {α : Type} {post : List (Event kernel) → Outcome Fault α → Prop} {p : Driver α}
    (quiet : Does Quiet (fun _ => True) p) (ends : Conforms history post call.past p) :
    Conforms protocol.operations (fun after outcome => after.programmed = call.programmed ∧
      after = {call with past := after.past} ∧ post after.past outcome) call p := by
  induction p generalizing call with
  | ret value => exact ⟨rfl,rfl,ends⟩
  | fault error => exact ⟨rfl,rfl,ends⟩
  | call op next ih =>
    have admitted : call.admits op := by
      have allowed := quiet.1
      cases op with
      | kmalloc size => exact allowed.elim
      | kfree ptr => exact allowed.elim
      | dmaengineSubmit chan txd => exact allowed.elim
      | _ => exact allowed
    refine ⟨admitted,fun reply legal => ?_⟩
    have held : allocated call.held op reply = call.held := by
      have allowed := quiet.1
      cases op with
      | kmalloc size => exact allowed.elim
      | kfree ptr => exact allowed.elim
      | _ => rfl
    have submitted : submits ⟨op,reply⟩ = [] := by
      have allowed := quiet.1
      cases op with
      | dmaengineSubmit chan txd => exact allowed.elim
      | _ => rfl
    have same : call.advance op reply = {call with past := call.past++[⟨op,reply⟩]} := by rw [Call.advance,held]
    have programmed : (call.advance op reply).programmed = call.programmed := by
      rw [same]
      simp [Call.programmed,submitted]
    have later := @ih reply (call.advance op reply) (quiet.2 reply legal) (ends.2 reply legal)
    refine later.mono fun after outcome holds => ?_
    obtain ⟨kept,moved,posted⟩ := holds
    refine ⟨kept.trans programmed,?_,posted⟩
    rw [moved,same]

theorem descriptor_quiet : Does Quiet (fun _ => True) (axidmaPrepDescriptor chan.chan tfr) := by
  unfold axidmaPrepDescriptor
  cases tfr.type with
  | dma => exact ⟨trivial,fun _ _ => trivial⟩
  | vdma =>
    refine ⟨trivial,fun rc _ => does_if (fun _ => trivial) fun _ => ?_⟩
    cases tfr.sgList.head? with
    | none => trivial
    | some entry =>
      cases tfr.frame with
      | none => exact ⟨trivial,fun _ _ => ⟨trivial,fun _ _ => trivial⟩⟩
      | some frame => exact ⟨trivial,fun _ _ => trivial⟩

theorem start_quiet : Does Quiet (fun _ => True) (axidmaStartTransfer chan tfr) := by
  unfold axidmaStartTransfer
  refine ⟨trivial,fun _ _ => ?_⟩
  apply does_if
  · intro _
    refine ⟨trivial,fun _ _ => ⟨trivial,fun _ _ => ?_⟩⟩
    apply does_if
    · exact fun _ => ⟨trivial,fun _ _ => trivial⟩
    · intro _
      apply does_if
      · exact fun _ => ⟨trivial,fun _ _ => trivial⟩
      · exact fun _ => trivial
  · exact fun _ => trivial

-- What a descriptor comes to: a refusal, or one for the addresses aimed at.
inductive Described (tfr : AxidmaTransfer) (past : List (Event kernel)) : Outcome Fault (Except Int Prepared) → Prop where
  | faulted {error : Fault} (empty : tfr.sgList.head? = none) : Described tfr past (.faulted error)
  | refused {rc : Int} (negative : rc < 0) (refusal : Refusal past) : Described tfr past (.returned (.error rc))
  | ready {prepared : Prepared} (starts : frameStarts prepared = aims tfr) : Described tfr past (.returned (.ok prepared))

theorem answer_described {prepared : Prepared} (dmaTxnd : Bool) (refuses : dmaTxnd = false → Refusal past)
    (starts : frameStarts prepared = aims tfr) :
    Described tfr past (.returned (if dmaTxnd then .ok prepared else .error (-EBUSY))) := by
  cases dmaTxnd with
  | false => exact .refused (by decide) (refuses rfl)
  | true => exact .ready starts

theorem descriptor_described : Conforms history (Described tfr) past (axidmaPrepDescriptor chan.chan tfr) := by
  unfold axidmaPrepDescriptor
  cases type : tfr.type with
  | dma =>
    refine ⟨trivial,fun dmaTxnd _ => ?_⟩
    refine answer_described dmaTxnd (fun refused => ?_) ?_
    · exact refusal_last refused
    · simp only [frameStarts,aims,type]
  | vdma =>
    refine ⟨trivial,fun rc _ => conforms_if (fun failed => .refused failed (refusal_last failed)) fun _ => ?_⟩
    cases first : tfr.sgList.head? with
    | none => exact .faulted first
    | some entry =>
      have starts : [entry.dmaAddress] = aims tfr := by simp [aims,type,first]
      have framed : ∀ (frame : AxidmaVideoFrame) flags,
          frameStarts (.interleaved (interleavedTemplate tfr entry frame) flags) = aims tfr := by
        intro frame flags
        rw [← starts]
        cases dir : tfr.dir with
        | read => simp [frameStarts,interleavedTemplate,axidmaToDmaDir,dir]
        | write => simp [frameStarts,interleavedTemplate,axidmaToDmaDir,dir]
      cases tfr.frame with
      | none =>
        refine ⟨trivial,fun frame _ => ⟨trivial,fun dmaTxnd _ => ?_⟩⟩
        refine answer_described dmaTxnd (fun refused => ?_) (framed frame _)
        exact refusal_last refused
      | some frame =>
        refine ⟨trivial,fun dmaTxnd _ => ?_⟩
        refine answer_described dmaTxnd (fun refused => ?_) (framed frame _)
        exact refusal_last refused

-- What a preparation comes to: a refusal, or its addresses are programmed.
inductive Laid (call : Call) (tfr : AxidmaTransfer) (after : Call) : Outcome Fault (Int × AxidmaTransfer) → Prop where
  | faulted {error : Fault} : Laid call tfr after (.faulted error)
  | refused {rc : Int} {last : AxidmaTransfer} (negative : rc < 0) (refusal : Refusal after.past) :
      Laid call tfr after (.returned (rc,last))
  | laid {cookie : Int} (all : after.programmed = call.programmed++aims tfr) :
      Laid call tfr after (.returned (0,{tfr with cookie := cookie}))

def Lays (call : Call) (tfr : AxidmaTransfer) (after : Call) (outcome : Outcome Fault (Int × AxidmaTransfer)) : Prop :=
  after = {call with past := after.past} ∧ Laid call tfr after outcome

theorem submit_follows {before : Call} {prepared : Prepared} (moved : before = {call with past := before.past})
    (same : before.programmed = call.programmed) (accepted : call.Accepted)
    (next : call.programmed++aims tfr <+: call.answers) (starts : frameStarts prepared = aims tfr) :
    Conforms protocol.operations (Lays call tfr) before
      (.call (.dmaengineSubmit chan.chan ⟨prepared,tfr.cbData,tfr.requested⟩) (afterSubmission chan.chan tfr)) := by
  have programmed : ∀ cookie, (before.advance (.dmaengineSubmit chan.chan ⟨prepared,tfr.cbData,tfr.requested⟩) cookie).programmed =
      call.programmed++aims tfr := by
    intro cookie
    rw [← same,← starts]
    simp [Call.programmed,Call.advance,submits]
  refine ⟨?_,fun cookie _ => ?_⟩
  · rw [← starts,← same] at next
    rw [moved] at next ⊢
    exact ⟨accepted,next⟩
  · apply conforms_if
    · intro failed
      refine ⟨trivial,fun reply _ => ⟨?_,.refused (by decide) (refusal_grows _ _ (refusal_last failed))⟩⟩
      rw [moved]
      rfl
    · intro _
      refine ⟨?_,.laid (programmed cookie)⟩
      rw [moved]
      rfl

theorem prep_follows (accepted : call.Accepted) (next : call.programmed++aims tfr <+: call.answers) :
    Conforms protocol.operations (Lays call tfr) call (axidmaPrepTransfer chan tfr) := by
  rw [prep_parts]
  refine conforms_bind.mpr ((quiet_follows descriptor_quiet descriptor_described).mono ?_)
  intro middle outcome reached
  obtain ⟨programmed,moved,described⟩ := reached
  cases described with
  | faulted _ => exact ⟨moved,.faulted⟩
  | refused negative refusal =>
    refine ⟨trivial,fun _ _ => ⟨?_,.refused negative (refusal_grows _ _ refusal)⟩⟩
    rw [moved]
    rfl
  | @ready prepared starts =>
    refine ⟨trivial,fun _ _ => ?_⟩
    split
    · refine ⟨trivial,fun _ _ => submit_follows ?_ ?_ accepted next starts⟩
      · rw [moved]
        rfl
      · rw [← programmed]
        simp [Call.programmed,Call.advance,submits,protocol,Protocol.operations]
    · refine submit_follows ?_ ?_ accepted next starts
      · rw [moved]
        rfl
      · rw [← programmed]
        simp [Call.programmed,Call.advance,submits,protocol,Protocol.operations]

-- With the addresses accepted, these are programmed unless the kernel refuses.
def Works (call : Call) (wanted : List DmaAddr) (after : Call) (outcome : Outcome Fault Int) : Prop :=
  after = {call with past := after.past} ∧ ∀ rc, outcome = .returned rc → Refusal after.past ∨ after.programmed = wanted

theorem quiet_works {before : Call} {wanted : List DmaAddr} {p : Driver Int} (moved : before = {call with past := before.past})
    (programmed : before.programmed = wanted) (quiet : Does Quiet (fun _ => True) p) :
    Conforms protocol.operations (Works call wanted) before p := by
  have anyhow : Conforms history (fun _ _ => True) before.past p := history_keeps (fun _ _ _ => trivial) trivial
  refine (quiet_follows quiet anyhow).mono fun after outcome holds => ?_
  obtain ⟨same,later,_⟩ := holds
  refine ⟨?_,fun _ _ => .inr (same.trans programmed)⟩
  rw [later,moved]

theorem prep_works {before : Call} {wanted : List DmaAddr} {rest : Int × AxidmaTransfer → Driver Int}
    (moved : before = {call with past := before.past}) (accepted : before.Accepted)
    (next : before.programmed++aims tfr <+: before.answers)
    (later : ∀ after cookie, after = {call with past := after.past} → after.programmed = before.programmed++aims tfr →
      Conforms protocol.operations (Works call wanted) after (rest (0,{tfr with cookie := cookie}))) :
    Conforms protocol.operations (Works call wanted) before (axidmaPrepTransfer chan tfr >>= fun result =>
      if result.1 < 0 then .ret result.1 else rest result) := by
  refine conforms_bind.mpr ((prep_follows accepted next).mono fun after outcome laid => ?_)
  obtain ⟨same,laid⟩ := laid
  have from_call : after = {call with past := after.past} := by
    rw [same,moved]
  cases laid with
  | faulted => exact ⟨from_call,fun rc same => by cases same⟩
  | @refused rc last negative refusal =>
    show Conforms _ _ _ (if rc < 0 then _ else _)
    rw [if_pos negative]
    exact ⟨from_call,fun _ _ => .inl refusal⟩
  | laid all => exact later after _ from_call all

theorem oneway_works {wanted : List DmaAddr} (accepted : call.Accepted) (fresh : call.programmed = [])
    (all : aims tfr = wanted) (inside : wanted <+: call.answers) :
    Conforms protocol.operations (Works call wanted) call (onewayCalls chan tfr) := by
  refine prep_works rfl accepted ?_ fun after cookie moved programmed => ?_
  · rw [fresh,all]
    exact inside
  · rw [fresh,all] at programmed
    refine quiet_works moved programmed (does_bind start_quiet (fun rc _ => ?_) fun _ _ => trivial)
    exact does_if (fun _ => trivial) fun _ => trivial

theorem rw_works {txChan rxChan : AxidmaChan} {tx rx : AxidmaTransfer} (accepted : call.Accepted) (fresh : call.programmed = [])
    (all : aims tx++aims rx = call.answers) :
    Conforms protocol.operations (Works call call.answers) call (rwCalls txChan rxChan tx rx) := by
  refine prep_works rfl accepted ?_ fun after cookie moved programmed => ?_
  · rw [fresh,← all]
    exact ⟨_,rfl⟩
  · rw [fresh] at programmed
    have answers : after.answers = call.answers := by rw [moved]
    have still : after.Accepted := by
      rw [moved]
      exact accepted
    refine prep_works moved still ?_ fun last cookie moved both => ?_
    · rw [programmed,answers,← all]
      exact List.prefix_rfl
    · rw [programmed] at both
      refine quiet_works moved (both.trans all) (does_bind start_quiet (fun rc _ => ?_) fun _ _ => trivial)
      refine does_if (fun _ => trivial) fun _ => does_bind start_quiet (fun rc _ => ?_) fun _ _ => trivial
      exact does_if (fun _ => trivial) fun _ => trivial

theorem video_works {dev : AxidmaDevice} {caller : Caller} {trans : AxidmaVideoTransaction} {dir : AxidmaDir}
    {sgList : List Scatterlist} (accepted : call.Accepted) (fresh : call.programmed = [])
    (all : sgList.map (·.dmaAddress) = call.answers) :
    Conforms protocol.operations (Works call (call.answers.take 1)) call (videoCalls dev caller trans dir sgList) := by
  unfold videoCalls
  simp only [channel_test]
  cases axidmaGetChan dev trans.channelId with
  | none => exact ⟨rfl,fun rc same => by cases same⟩
  | some chan =>
    have aim : aims (videoTfr dev caller trans dir sgList) = call.answers.take 1 := by
      rw [← all]
      cases sgList with
      | nil => rfl
      | cons entry rest => rfl
    refine prep_works rfl accepted ?_ fun after cookie moved programmed => ?_
    · rw [fresh,aim]
      exact List.take_prefix ..
    · rw [fresh,aim] at programmed
      exact quiet_works moved programmed start_quiet

end

def Call.start (session : Nat) (dev : AxidmaDevice) (request : Request) : Call := ⟨session,dev.channels,request,[],[],[]⟩

section
variable {dev : AxidmaDevice} {caller : Caller} {session : Nat}

theorem works_ends {call after : Call} {wanted : List DmaAddr} {outcome : Outcome Fault Int} (accepted : call.Accepted)
    (works : Works call wanted after outcome) (same : aimed call.request call.answers = wanted) : Ends after outcome := by
  obtain ⟨moved,ended⟩ := works
  intro rc returned
  rcases ended rc returned with refusal | programmed
  · exact .stopped refusal
  · refine .carried ?_ ?_
    · rw [moved]
      exact accepted
    · rw [programmed,moved]
      exact same.symm

-- A lookup is refused, or the request goes on with its address.
theorem asks {α : Type} {post : Call → Outcome Fault α → Prop} {call : Call} {buf : UserAddr} {bufLen : SizeT}
    {rest : Except Int Scatterlist → Looking α}
    (turn : call.request.ranges[call.answers.length]? = some (buf,bufLen)) (clean : 0 ∉ call.answers)
    (failed : Conforms protocol post {call with answers := call.answers++[0]} (rest (.error (-EFAULT))))
    (found : ∀ entry, entry.dmaAddress ≠ 0 →
      Conforms protocol post {call with answers := call.answers++[entry.dmaAddress]} (rest (.ok entry))) :
    Conforms protocol post call (askSgEntry buf bufLen >>= rest) := by
  refine ⟨⟨turn,clean⟩,fun reply legal => ?_⟩
  cases reply with
  | error rc =>
    cases legal
    exact failed
  | ok entry => exact found entry legal

theorem single_aims {tfr : AxidmaTransfer} {entry : Scatterlist} (single : tfr.sgList = [entry]) :
    aims tfr = [entry.dmaAddress] := by
  unfold aims
  rw [single]
  cases tfr.type with
  | dma => rfl
  | vdma => rfl

theorem oneway_ends {dir : AxidmaDir} {trans : AxidmaTransaction} {request : Request}
    (ranges : request.ranges = [(trans.buf,trans.bufLen)])
    (misfit : (∀ chan, axidmaGetChan dev trans.channelId = some chan → chan.dir ≠ dir) → ¬ Fits dev.channels request)
    (refuses : refusal request = -EFAULT) (whole : ∀ answers, aimed request answers = answers) :
    Conforms protocol Ends (.start session dev request) (onewayTransfer dir dev caller trans) := by
  have unfit : (∀ chan, axidmaGetChan dev trans.channelId = some chan → chan.dir ≠ dir) →
      Ends (.start session dev request) (.returned (-ENODEV)) := by
    intro none rc same
    cases same
    exact .unfit (misfit none) rfl
  unfold onewayTransfer
  cases found : axidmaGetChan dev trans.channelId with
  | none => exact unfit fun chan same => by cases found.symm.trans same
  | some chan =>
    apply conforms_if
    · intro wrong
      refine unfit fun other same => ?_
      cases found.symm.trans same
      exact wrong
    · intro _
      refine asks ?_ List.not_mem_nil ?_ fun entry nonzero => conforms_lift.mpr ?_
      · show request.ranges[0]? = _
        rw [ranges]
        rfl
      · intro rc same
        cases same
        rw [← refuses]
        exact .refused List.mem_cons_self
      · have accepted : Call.Accepted {Call.start session dev request with answers := [entry.dmaAddress]} := by
          refine ⟨?_,fun zero => nonzero (List.mem_singleton.mp zero).symm⟩
          show 1 = request.ranges.length
          rw [ranges]
          rfl
        refine (oneway_works accepted rfl (single_aims rfl) List.prefix_rfl).mono fun after outcome works => ?_
        exact works_ends accepted works (whole _)

theorem rw_ends {trans : AxidmaInoutTransaction} :
    Conforms protocol Ends (.start session dev (.readwrite trans)) (axidmaRwTransfer dev caller trans) := by
  have unfit : ¬ Fits dev.channels (.readwrite trans) → Ends (.start session dev (.readwrite trans)) (.returned (-ENODEV)) := by
    intro misfit rc same
    cases same
    exact .unfit misfit rfl
  unfold axidmaRwTransfer
  cases foundTx : axidmaGetChan dev trans.txChannelId with
  | none =>
    refine unfit fun fits => ?_
    obtain ⟨⟨chan,same,_⟩,_⟩ := fits
    cases foundTx.symm.trans same
  | some txChan =>
    apply conforms_if
    · intro wrong
      refine unfit fun fits => ?_
      obtain ⟨⟨chan,same,transmits⟩,_⟩ := fits
      cases foundTx.symm.trans same
      exact wrong transmits
    · intro _
      cases foundRx : axidmaGetChan dev trans.rxChannelId with
      | none =>
        refine unfit fun fits => ?_
        obtain ⟨_,chan,same,_⟩ := fits
        cases foundRx.symm.trans same
      | some rxChan =>
        apply conforms_if
        · intro wrong
          refine unfit fun fits => ?_
          obtain ⟨_,chan,same,receives⟩ := fits
          cases foundRx.symm.trans same
          exact wrong receives
        · intro _
          refine asks rfl List.not_mem_nil ?_ fun txEntry nonzero => ?_
          · intro rc same
            cases same
            exact .refused List.mem_cons_self
          · have clean : 0 ∉ [txEntry.dmaAddress] := fun zero => nonzero (List.mem_singleton.mp zero).symm
            refine asks rfl clean ?_ fun rxEntry filled => conforms_lift.mpr ?_
            · intro rc same
              cases same
              exact .refused (List.mem_cons_of_mem _ List.mem_cons_self)
            · have accepted : Call.Accepted {Call.start session dev (.readwrite trans) with
                  answers := [txEntry.dmaAddress,rxEntry.dmaAddress]} := by
                refine ⟨rfl,fun zero => ?_⟩
                rcases List.mem_cons.mp zero with first | second
                · exact nonzero first.symm
                · exact filled (List.mem_singleton.mp second).symm
              refine (rw_works accepted rfl ?_).mono fun after outcome works => works_ends accepted works rfl
              rw [single_aims rfl,single_aims rfl]
              rfl

theorem list_asks {α : Type} {post : Call → Outcome Fault α → Prop} {imageSize : SizeT} {buffers : List UserAddr} {call : Call}
    {rest : Except Int (List Scatterlist) → Looking α}
    (turns : call.request.ranges.drop call.answers.length = buffers.map fun buf => (buf,imageSize)) (clean : 0 ∉ call.answers)
    (failed : ∀ answers, 0 ∈ answers → Conforms protocol post {call with answers := answers} (rest (.error (-EFAULT))))
    (found : ∀ sgList : List Scatterlist, sgList.length = buffers.length → 0 ∉ call.answers++sgList.map (·.dmaAddress) →
      Conforms protocol post {call with answers := call.answers++sgList.map (·.dmaAddress)} (rest (.ok sgList))) :
    Conforms protocol post call (askSgList imageSize buffers >>= rest) := by
  induction buffers generalizing call rest with
  | nil =>
    have none := found [] rfl (by simpa using clean)
    simpa [askSgList] using none
  | cons buf others ih =>
    rw [askSgList,Prog.bind_assoc]
    refine asks ?_ clean ?_ fun entry nonzero => ?_
    · have first := congrArg (fun list => list[0]?) turns
      simpa using first
    · exact failed _ (List.mem_append_right _ List.mem_cons_self)
    · rw [Prog.bind_assoc]
      refine ih ?_ ?_ (fun answers zero => failed answers zero) fun sgList length clean => ?_
      · have later := congrArg List.tail turns
        simpa using later
      · intro zero
        rcases List.mem_append.mp zero with before | last
        · exact clean before
        · exact nonzero (List.mem_singleton.mp last).symm
      · have all := found (entry :: sgList) (by simp [length]) (by simpa using clean)
        simpa using all

theorem Ended.freed {call : Call} {rc : Int} {ptr : Nat} (ended : Ended call rc) : Ended (call.advance (.kfree ptr) ()) rc := by
  cases ended with
  | unfit misfit unasked => exact .unfit misfit unasked
  | refused zero => exact .refused zero
  | stopped refusal => exact .stopped (refusal_grows _ _ refusal)
  | carried accepted all =>
    have same : (call.advance (.kfree ptr) ()).programmed = call.programmed := by simp [Call.programmed,Call.advance,submits]
    exact .carried accepted (same.trans all)

-- Whatever the body ends with, the request returns 0 for it.
theorem body_ends {trans : AxidmaVideoTransaction} {dir : AxidmaDir} {ptr : Nat} {call : Call}
    (started : call.request = .video trans dir) (held : call.held = [ptr]) (unasked : call.answers = [])
    (fresh : call.programmed = []) :
    Conforms protocol (fun after outcome => after.held = [ptr] ∧ ∀ rc, outcome = .returned rc → Ended after 0) call
      (videoTransferBody dev caller trans dir) := by
  have none : refusal call.request = 0 := by rw [started]; rfl
  refine list_asks ?_ ?_ ?_ fun sgList length clean => conforms_lift.mpr ?_
  · rw [unasked,started]
    rfl
  · rw [unasked]
    exact List.not_mem_nil
  · refine fun answers zero => ⟨held,fun rc _ => ?_⟩
    rw [← none]
    exact .refused zero
  · have accepted : Call.Accepted {call with answers := call.answers++sgList.map (·.dmaAddress)} := by
      refine ⟨?_,clean⟩
      simp [unasked,started,length,Request.ranges]
    have all : sgList.map (·.dmaAddress) = call.answers++sgList.map (·.dmaAddress) := by rw [unasked]; rfl
    refine (video_works accepted fresh all).mono fun after outcome works => ?_
    have ended := works_ends accepted works (by rw [started]; rfl)
    obtain ⟨moved,_⟩ := works
    refine ⟨?_,fun rc returned => ?_⟩
    · rw [moved]
      exact held
    · cases ended rc returned with
      | unfit misfit =>
        rw [moved,started] at misfit
        exact absurd trivial misfit
      | refused zero =>
        rw [moved] at zero
        exact absurd zero clean
      | stopped refusal => exact .stopped refusal
      | carried accepted all => exact .carried accepted all

theorem video_ends {trans : AxidmaVideoTransaction} {dir : AxidmaDir} :
    Conforms protocol Ends (.start session dev (.video trans dir)) (axidmaVideoTransfer dev caller trans dir) := by
  refine ⟨trivial,fun reply _ => ?_⟩
  cases reply with
  | none =>
    intro rc same
    exact .stopped ⟨_,List.mem_cons_self,rfl⟩
  | some ptr =>
    show Conforms protocol Ends _ (videoTransferBody dev caller trans dir >>= fun _ => _)
    refine conforms_bind.mpr ((body_ends rfl rfl rfl rfl).mono fun after outcome ended => ?_)
    obtain ⟨held,ended⟩ := ended
    cases outcome with
    | faulted error => exact fun rc same => by cases same
    | returned rc =>
      refine ⟨?_,fun _ _ code same => ?_⟩
      · show ptr ∈ after.held
        rw [held]
        exact List.mem_cons_self
      · cases same
        exact (ended rc rfl).freed

theorem stop_ends {chanInfo : AxidmaChan} :
    Conforms protocol Ends (.start session dev (.stop chanInfo)) ((axidmaStopChannel dev chanInfo).lift Entry) := by
  refine conforms_lift.mpr ?_
  unfold axidmaStopChannel
  simp only [channel_test]
  cases axidmaGetChan dev chanInfo.channelId with
  | none => exact fun rc same => by cases same
  | some chan =>
    refine ⟨trivial,fun _ _ rc _ => .carried ⟨rfl,List.not_mem_nil⟩ ?_⟩
    rfl

theorem request_ends {request : Request} : Conforms protocol Ends (.start session dev request) (asking dev caller request) := by
  cases request with
  | read trans =>
    refine oneway_ends rfl (fun unfit fits => ?_) rfl fun _ => rfl
    obtain ⟨chan,found,same⟩ := fits
    exact unfit chan found same
  | write trans =>
    refine oneway_ends rfl (fun unfit fits => ?_) rfl fun _ => rfl
    obtain ⟨chan,found,same⟩ := fits
    exact unfit chan found same
  | readwrite trans => exact rw_ends
  | video trans dir => exact video_ends
  | stop chanInfo => exact stop_ends

end
end Axidma.Lookups
