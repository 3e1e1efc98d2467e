import Axidma.TransferCalls

namespace Axidma.StartedTransfers
open Interaction

-- The two sides of a readwrite request, or the one side of the others.
structure Side where
  channelId : CInt
  dir : AxidmaDir
  wait : Bool

-- The requests that start transfers, which leaves out stop.
inductive StartRequest where
  | buffers (request : BufferRequest)
  | video (transaction : AxidmaVideoTransaction) (dir : AxidmaDir)

def StartRequest.request : StartRequest → Request
  | .buffers request => request.request
  | .video transaction dir => .video transaction dir

def StartRequest.sides : StartRequest → List Side
  | .buffers (.oneway dir transaction) => [⟨transaction.channelId,dir,transaction.wait⟩]
  | .buffers (.readwrite transaction) =>
    [⟨transaction.txChannelId,.write,false⟩,⟨transaction.rxChannelId,.read,transaction.wait⟩]
  | .video transaction dir => [⟨transaction.channelId,dir,false⟩]

def prepares (chan : DmaChan) : Prepared → Event kernel
  | .slaveSg sgList sgLen dir flags => ⟨.dmaenginePrepSlaveSg chan (.slaveSg sgList sgLen dir flags),true⟩
  | .interleaved template flags => ⟨.dmaenginePrepInterleavedDma chan (.interleaved template flags),true⟩

def submits (chan : DmaChan) (txd : TxDescriptor) (cookie : Int) : Event kernel := ⟨.dmaengineSubmit chan txd,cookie⟩
def issues (chan : DmaChan) : Event kernel := ⟨.dmaAsyncIssuePending chan,()⟩
def completed (chan : DmaChan) (cookie : Int) : Event kernel := ⟨.dmaAsyncIsTxComplete chan cookie,DmaStatus.complete⟩

def awaited (wait : Bool) (chan : DmaChan) (cookie : Int) : List (Event kernel) :=
  if wait then [completed chan cookie] else []

-- The descriptor of a side was prepared, submitted with a valid cookie and
-- issued, in this order, and was complete where the caller waits.
def StartedOn (dev : AxidmaDevice) (side : Side) (past : List (Event kernel)) : Prop :=
  ∃ chan txd cookie, axidmaGetChan dev side.channelId = some chan ∧ chan.dir = side.dir ∧ 0 ≤ cookie ∧
    ([prepares chan.chan txd.prepared,submits chan.chan txd cookie,issues chan.chan]++
      awaited side.wait chan.chan cookie).Sublist past

structure Started (dev : AxidmaDevice) (request : StartRequest) (past : List (Event kernel)) : Prop where
  translated : ∀ addr ∈ request.request.translations dev, addr ≠ 0
  sides : ∀ side ∈ request.sides, StartedOn dev side past

def Reports (dev : AxidmaDevice) (request : StartRequest) (past : List (Event kernel)) (outcome : Outcome Fault Int) : Prop :=
  ∃ rc, outcome = .returned rc ∧ (rc = 0 ∧ Started dev request past ∨ rc < 0)

def ReportsStart (dev : AxidmaDevice) (request : StartRequest) : Prop :=
  ∀ caller, Conforms history (Reports dev request) [] (request.request.program dev caller)

section
variable {chan : AxidmaChan} {tfr : AxidmaTransfer} {past : List (Event kernel)}

def Described (chan : DmaChan) (past later : List (Event kernel)) (outcome : Outcome Fault (Except Int Prepared)) : Prop :=
  (∃ rc, outcome = .returned (.error rc) ∧ rc < 0) ∨
  ∃ prepared, outcome = .returned (.ok prepared) ∧ Adds past [prepares chan prepared] later

theorem descriptor_described {entry : Scatterlist} (first : tfr.sgList.head? = some entry) :
    Conforms history (Described chan.chan past) past (axidmaPrepDescriptor chan.chan tfr) := by
  have busy : ∀ later, Described chan.chan past later (.returned (.error (-EBUSY))) :=
    fun _ => .inl ⟨_,rfl,by decide⟩
  unfold axidmaPrepDescriptor
  cases tfr.type with
  | dma =>
    refine ⟨trivial,fun reply _ => ?_⟩
    cases reply with
    | false => exact busy _
    | true => exact .inr ⟨_,rfl,.keep .none⟩
  | vdma =>
    refine ⟨trivial,fun rc _ => ?_⟩
    apply conforms_if
    · intro failed
      exact .inl ⟨rc,rfl,failed⟩
    · intro _
      rw [first]
      cases tfr.frame with
      | none =>
        refine ⟨trivial,fun frame _ => ⟨trivial,fun reply _ => ?_⟩⟩
        cases reply with
        | false => exact busy _
        | true => exact .inr ⟨_,rfl,.skip (.skip (.keep .none))⟩
      | some frame =>
        refine ⟨trivial,fun reply _ => ?_⟩
        cases reply with
        | false => exact busy _
        | true => exact .inr ⟨_,rfl,.skip (.keep .none)⟩

def Submitted (chan : DmaChan) (tfr : AxidmaTransfer) (past later : List (Event kernel))
    (outcome : Outcome Fault (Int × AxidmaTransfer)) : Prop :=
  (∃ rc after, outcome = .returned (rc,after) ∧ rc < 0) ∨
  ∃ txd cookie, outcome = .returned (0,{tfr with cookie := cookie}) ∧ 0 ≤ cookie ∧
    Adds past [prepares chan txd.prepared,submits chan txd cookie] later

theorem prep_submitted {entry : Scatterlist} (first : tfr.sgList.head? = some entry) :
    Conforms history (Submitted chan.chan tfr past) past (axidmaPrepTransfer chan tfr) := by
  rw [prep_parts]
  refine conforms_bind.mpr ((descriptor_described first).mono ?_)
  intro middle outcome described
  rcases described with ⟨rc,rfl,failed⟩ | ⟨prepared,rfl,adds⟩
  · exact ⟨trivial,fun _ _ => .inl ⟨rc,tfr,rfl,failed⟩⟩
  · have rest : ∀ past' cookie, Adds middle [] past' →
        Conforms history (Submitted chan.chan tfr past) (past'++[submits chan.chan ⟨prepared,tfr.cbData,tfr.requested⟩ cookie])
          (afterSubmission chan.chan tfr cookie) := by
      intro past' cookie later
      apply conforms_if
      · intro _
        exact ⟨trivial,fun _ _ => .inl ⟨_,tfr,rfl,by decide⟩⟩
      · intro accepted
        exact .inr ⟨⟨prepared,tfr.cbData,tfr.requested⟩,cookie,rfl,Int.not_lt.mp accepted,(adds.trans later).trans (.keep .none)⟩
    refine ⟨trivial,fun _ _ => ?_⟩
    split
    · exact ⟨trivial,fun _ _ => ⟨trivial,fun cookie _ => rest _ cookie (.skip (.skip .none))⟩⟩
    · exact ⟨trivial,fun cookie _ => rest _ cookie (.skip .none)⟩

def Ran (chan : DmaChan) (tfr : AxidmaTransfer) (past later : List (Event kernel)) (outcome : Outcome Fault Int) : Prop :=
  ∃ rc, outcome = .returned rc ∧ (rc < 0 ∨ rc = 0 ∧ Adds past (issues chan :: awaited tfr.wait chan tfr.cookie) later)

theorem start_ran : Conforms history (Ran chan.chan tfr past) past (axidmaStartTransfer chan tfr) := by
  unfold axidmaStartTransfer Ran awaited
  refine ⟨trivial,fun _ _ => ?_⟩
  apply conforms_if
  · intro waits
    refine ⟨trivial,fun timeRemain _ => ⟨trivial,fun status _ => ?_⟩⟩
    rw [if_pos waits]
    apply conforms_if
    · intro _
      exact ⟨trivial,fun _ _ => ⟨_,rfl,.inl (by decide)⟩⟩
    · intro _
      apply conforms_if
      · intro _
        exact ⟨trivial,fun _ _ => ⟨_,rfl,.inl (by decide)⟩⟩
      · intro complete
        have same : status = DmaStatus.complete := not_not.mp complete
        subst same
        exact ⟨0,rfl,.inr ⟨rfl,.keep (.skip (.keep .none))⟩⟩
  · intro waits
    rw [if_neg waits]
    exact ⟨0,rfl,.inr ⟨rfl,.keep .none⟩⟩

end

section
variable {dev : AxidmaDevice} {caller : Caller}

theorem reports_failure {request : StartRequest} {rc : Int} (failed : rc < 0) (past : List (Event kernel)) :
    Reports dev request past (.returned rc) := ⟨rc,rfl,.inr failed⟩

theorem entry_translated {buf : UserAddr} {bufLen : SizeT} {entry : Scatterlist}
    (translated : axidmaInitSgEntry dev buf bufLen = .ok entry) : axidmaUservirtToDma dev buf bufLen ≠ 0 := by
  intro zero
  simp [axidmaInitSgEntry,zero] at translated

theorem entry_failed {buf : UserAddr} {bufLen : SizeT} {rc : Int} (failed : axidmaInitSgEntry dev buf bufLen = .error rc) :
    rc < 0 := by
  simp only [axidmaInitSgEntry] at failed
  split at failed
  · cases failed
    decide
  · cases failed

theorem oneway_translations {dir : AxidmaDir} {transaction : AxidmaTransaction} :
    (StartRequest.buffers (.oneway dir transaction)).request.translations dev =
      [axidmaUservirtToDma dev transaction.buf transaction.bufLen] := by
  cases dir <;> rfl

theorem oneway_reports {dir : AxidmaDir} {transaction : AxidmaTransaction} :
    Conforms history (Reports dev (.buffers (.oneway dir transaction))) [] (onewayTransfer dir dev caller transaction) := by
  have unknown : -ENODEV < 0 := by decide
  have finds := @oneway_finds dev caller dir transaction
  generalize onewayTransfer dir dev caller transaction = program at finds ⊢
  cases finds with
  | refused _ => exact reports_failure unknown _
  | untranslated failed => exact reports_failure (entry_failed failed) _
  | @all chan entry found fits translated =>
    have first : (onewayTfr dev caller chan transaction entry).sgList.head? = some entry := rfl
    refine conforms_bind.mpr ((prep_submitted first).mono ?_)
    intro submitted outcome prepared
    rcases prepared with ⟨rc,after,rfl,failed⟩ | ⟨txd,cookie,rfl,accepted,adds⟩
    · exact conforms_if (fun _ => reports_failure failed _) fun passed => absurd failed passed
    · refine conforms_bind.mpr (start_ran.mono ?_)
      intro later outcome ran
      obtain ⟨rc,rfl,failed | ⟨rfl,issued⟩⟩ := ran
      · exact conforms_if (fun _ => reports_failure failed _) fun passed => absurd failed passed
      · refine ⟨0,rfl,.inl ⟨rfl,?_,?_⟩⟩
        · rw [oneway_translations]
          intro addr member
          rw [List.mem_singleton.mp member]
          exact entry_translated translated
        · intro side member
          rw [List.mem_singleton.mp member]
          exact ⟨chan,txd,cookie,found,fits,accepted,(adds.trans issued).present⟩

theorem rw_reports {transaction : AxidmaInoutTransaction} :
    Conforms history (Reports dev (.buffers (.readwrite transaction))) [] (axidmaRwTransfer dev caller transaction) := by
  have unknown : -ENODEV < 0 := by decide
  have finds := @rw_finds dev caller transaction
  generalize axidmaRwTransfer dev caller transaction = program at finds ⊢
  cases finds with
  | refused _ => exact reports_failure unknown _
  | untranslated failed => exact reports_failure (entry_failed failed) _
  | @all txChan rxChan txEntry rxEntry foundTx transmits foundRx receives translatedTx translatedRx =>
    have firstTx : (txTfr dev caller txChan transaction txEntry).sgList.head? = some txEntry := rfl
    have firstRx : (rxTfr dev caller txChan rxChan transaction rxEntry).sgList.head? = some rxEntry := rfl
    refine conforms_bind.mpr ((prep_submitted firstTx).mono ?_)
    intro _ outcome prepared
    rcases prepared with ⟨rc,after,rfl,failed⟩ | ⟨txd,txCookie,rfl,acceptedTx,addsTx⟩
    · exact conforms_if (fun _ => reports_failure failed _) fun passed => absurd failed passed
    · refine conforms_bind.mpr ((prep_submitted firstRx).mono ?_)
      intro _ outcome prepared
      rcases prepared with ⟨rc,after,rfl,failed⟩ | ⟨rxd,rxCookie,rfl,acceptedRx,addsRx⟩
      · exact conforms_if (fun _ => reports_failure failed _) fun passed => absurd failed passed
      · refine conforms_bind.mpr (start_ran.mono ?_)
        intro _ outcome ran
        obtain ⟨rc,rfl,failed | ⟨rfl,issuedTx⟩⟩ := ran
        · exact conforms_if (fun _ => reports_failure failed _) fun passed => absurd failed passed
        · refine conforms_bind.mpr (start_ran.mono ?_)
          intro _ outcome ran
          obtain ⟨rc,rfl,failed | ⟨rfl,issuedRx⟩⟩ := ran
          · exact conforms_if (fun _ => reports_failure failed _) fun passed => absurd failed passed
          · have present := (((addsTx.trans addsRx).trans issuedTx).trans issuedRx).present
            refine ⟨0,rfl,.inl ⟨rfl,?_,?_⟩⟩
            · intro addr member
              rcases List.mem_pair.mp member with rfl | rfl
              · exact entry_translated translatedTx
              · exact entry_translated translatedRx
            · intro side member
              rcases List.mem_pair.mp member with rfl | rfl
              · refine ⟨txChan,txd,txCookie,foundTx,transmits,acceptedTx,.trans ?_ present⟩
                exact .cons_cons _ (.cons_cons _ (.cons _ (.cons _ (.cons_cons _ (List.nil_sublist _)))))
              · refine ⟨rxChan,rxd,rxCookie,foundRx,receives,acceptedRx,.trans ?_ present⟩
                exact .cons _ (.cons _ (.cons_cons _ (.cons_cons _ (.cons _ (List.Sublist.refl _)))))

-- Both exits of a video request return 0.
theorem video_returns_zero {transaction : AxidmaVideoTransaction} {dir : AxidmaDir} :
    Does (fun _ => True) (fun outcome => ∀ rc, outcome = .returned rc → rc = 0) (axidmaVideoTransfer dev caller transaction dir) := by
  unfold axidmaVideoTransfer
  simp only [kcall,Prog.ask,Prog.call_bind,Prog.ret_bind]
  refine ⟨trivial,fun reply _ => ?_⟩
  cases reply with
  | none =>
    intro rc same
    cases same
    rfl
  | some sgList =>
    refine does_bind (does_anything _) (fun _ _ => ⟨trivial,fun _ _ => ?_⟩) ?_
    · intro rc same
      cases same
      rfl
    · intro error _ rc same
      cases same

theorem buffers_of_reports {request : StartRequest} (reports : ReportsStart dev request) :
    ∃ buffers, request = .buffers buffers := by
  cases request with
  | buffers request => exact ⟨request,rfl⟩
  | video transaction dir =>
    -- Without memory for the scatter list nothing else is called.
    obtain ⟨rc,same,⟨_,started⟩ | failed⟩ := (reports ⟨0,0,0⟩).2 (none : Option Nat) (by simp [KernelCall.Legal])
    · obtain ⟨chan,txd,cookie,_,_,_,present⟩ := started.sides _ List.mem_cons_self
      have few := present.length_le
      simp [history] at few
    · cases same
      cases failed

theorem buffers_report (buffers : BufferRequest) : ReportsStart dev (.buffers buffers) := by
  intro caller
  cases buffers with
  | oneway dir transaction =>
    change Conforms history _ [] ((BufferRequest.oneway dir transaction).request.program dev caller)
    rw [oneway_program]
    exact oneway_reports
  | readwrite transaction => exact rw_reports

theorem reports_start_iff {request : StartRequest} :
    ReportsStart dev request ↔ ∃ buffers, request = .buffers buffers := by
  constructor
  · exact buffers_of_reports
  · intro moves
    obtain ⟨buffers,rfl⟩ := moves
    exact buffers_report buffers

end

-- A frame buffer that was never mapped.
def unmapped : AxidmaVideoTransaction := ⟨0,1,[0x20000],⟨1,1,1⟩,rfl⟩

-- The translation fails, and yet all the request can return is 0.
theorem unmapped_video_reported :
    (Request.video unmapped .write).translations Translation.onePage = [0] ∧
    (∀ caller, Does (fun _ => True) (fun outcome => ∀ rc, outcome = .returned rc → rc = 0)
      ((Request.video unmapped .write).program Translation.onePage caller)) ∧
    ¬ ReportsStart Translation.onePage (.video unmapped .write) := by
  refine ⟨by decide,fun _ => video_returns_zero,?_⟩
  intro reports
  obtain ⟨buffers,same⟩ := buffers_of_reports reports
  cases same

end Axidma.StartedTransfers
