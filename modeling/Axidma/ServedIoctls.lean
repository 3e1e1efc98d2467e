import Axidma.CharDevice
import Axidma.Lookups
import Axidma.LibrarySessions

namespace Axidma.ServedIoctls
open Interaction
open LibrarySessions

def argIds : IoctlArg → List CInt
  | .transaction transaction => [transaction.channelId]
  | .inoutTransaction transaction => [transaction.txChannelId,transaction.rxChannelId]
  | .videoTransaction transaction => [transaction.channelId]
  | .chan chanInfo => [chanInfo.channelId]

def Reads : IoctlArg → (kind : UserStruct) → kind.Value → Prop
  | .transaction transaction,.transaction,value => value = transaction
  | .inoutTransaction transaction,.inoutTransaction,value => value = transaction
  | .videoTransaction transaction,.videoTransaction,value => value = transaction
  | .chan chanInfo,.chan,value => value = chanInfo
  | _,_,_ => True

-- The memory of the caller holds the structure at the address, and -ENODEV is
-- none of the codes of the engine itself.
def Replies : IoctlArg → UserAddr → (op : KernelCall) → op.Reply → Prop
  | arg,addr,.copyFromUser kind source,reply => source = addr → reply.1 = 0 ∧ Reads arg kind reply.2
  | _,addr,.readUserPointer source,reply => source = addr → reply.isSome = true
  | _,_,.xilinxVdmaChannelSetConfig _ _,reply => reply ≠ -ENODEV
  | _,_,.dmaengineTerminateAll _,reply => reply ≠ -ENODEV
  | _,_,_,_ => True

def client (addr : UserAddr) (arg : IoctlArg) : Machine kernel Unit where
  gives := fun _ op reply => op.Legal reply ∧ Replies arg addr op reply
  perform := fun _ _ _ => ()

def Served (outcome : Outcome Fault Int) : Prop := outcome ≠ .returned (-ENODEV) ∧ outcome ≠ .faulted .nullPointer

-- All addresses of a request are those of buffers. The ones of frame buffers come
-- in the array that is copied.
def Translates (dev : AxidmaDevice) (past : List (Event kernel)) : IoctlArg → Prop
  | .transaction transaction => axidmaUservirtToDma dev transaction.buf transaction.bufLen ≠ 0
  | .inoutTransaction transaction => axidmaUservirtToDma dev transaction.txBuf transaction.txBufLen ≠ 0 ∧
      axidmaUservirtToDma dev transaction.rxBuf transaction.rxBufLen ≠ 0
  | .videoTransaction transaction => ∀ count source copied, ⟨.copyFromUser (.frameBuffers count) source,copied⟩ ∈ past →
      ∀ buf ∈ copied.2.1, axidmaUservirtToDma dev buf
        ((transaction.frame.width*transaction.frame.height*transaction.frame.depth).signExtend 64) ≠ 0
  | .chan _ => True

structure Granted (dev : AxidmaDevice) (arg : IoctlArg) (past : List (Event kernel)) : Prop where
  unrefused : ∀ event ∈ past, ¬ Refused event
  translates : Translates dev past arg

-- An operation on the channel of an entry, which prepares nothing but transfers of
-- that type in that direction.
def On (chan : AxidmaChan) : KernelCall → Prop
  | .dmaenginePrepSlaveSg handle prepared => handle = chan.chan ∧ chan.type = .dma ∧ prepared.dir = axidmaToDmaDir chan.dir
  | .dmaenginePrepInterleavedDma handle prepared => handle = chan.chan ∧ chan.type = .vdma ∧
      prepared.dir = axidmaToDmaDir chan.dir
  | op => op.touches = some chan.chan

-- What the driver does on an ioctl for these ids: it serves the command on the
-- entries that it finds for them, on all of them if nothing keeps it from it.
structure Acted (dev : AxidmaDevice) (arg : IoctlArg) (outcome : Outcome Fault Int) (past : List (Event kernel)) : Prop where
  code : Served outcome
  only : ∀ event ∈ past, event.1.touches ≠ none →
    ∃ channelId ∈ argIds arg, ∃ chan, axidmaGetChan dev channelId = some chan ∧ On chan event.1
  reached : Granted dev arg past → ∀ channelId ∈ argIds arg, ∀ chan, axidmaGetChan dev channelId = some chan →
    ∃ event ∈ past, event.1.touches = some chan.chan

section
variable {dev : AxidmaDevice} {caller : Caller} {addr : UserAddr} {arg : IoctlArg} {chan : AxidmaChan} {tfr : AxidmaTransfer}

theorem served_code {rc : Int} (apart : rc ≠ -ENODEV) : Served (.returned rc) := by
  refine ⟨?_,fun same => by cases same⟩
  intro same
  cases same
  exact apart rfl

def Usual (outcome : Outcome Fault (Int × AxidmaTransfer)) : Prop :=
  (∀ result, outcome = .returned result → result.1 ≠ -ENODEV) ∧ outcome ≠ .faulted .nullPointer

theorem usual_code {rc : Int} (apart : rc ≠ -ENODEV) : Usual (.returned (rc,tfr)) := by
  refine ⟨?_,fun same => by cases same⟩
  intro result same
  cases same
  exact apart

def Described (outcome : Outcome Fault (Except Int Prepared)) : Prop :=
  (∀ rc, outcome = .returned (.error rc) → rc ≠ -ENODEV) ∧ outcome ≠ .faulted .nullPointer

theorem descriptor_described :
    Ensures (client addr arg) (fun outcome _ => Described outcome) (axidmaPrepDescriptor chan.chan tfr) () := by
  have busy : -EBUSY ≠ -ENODEV := by decide
  have prepared : ∀ (accepted : Bool) prepared,
      Described (.returned (if accepted then .ok prepared else .error (-EBUSY))) := by
    intro accepted prepared
    refine ⟨?_,fun same => by cases same⟩
    intro rc same
    cases accepted with
    | true => cases same
    | false =>
      cases same
      exact busy
  unfold axidmaPrepDescriptor
  cases tfr.type with
  | dma => exact fun reply _ => prepared reply _
  | vdma =>
    intro rc configured
    apply ensures_if
    · intro _
      refine ⟨?_,fun same => by cases same⟩
      intro code same
      cases same
      exact configured.2
    · intro _
      cases tfr.sgList.head? with
      | none =>
        constructor
        · intro code same
          cases same
        · intro same
          cases same
      | some entry =>
        cases tfr.frame with
        | none => exact fun frame _ reply _ => prepared reply _
        | some frame => exact fun reply _ => prepared reply _

theorem prep_usual : Ensures (client addr arg) (fun outcome _ => Usual outcome) (axidmaPrepTransfer chan tfr) () := by
  have busy : -EBUSY ≠ -ENODEV := by decide
  rw [prep_parts]
  refine ensures_bind (descriptor_described.mono ?_)
  intro outcome _ described
  obtain ⟨codes,faults⟩ := described
  cases outcome with
  | returned result =>
    cases result with
    | error rc => exact fun _ _ => usual_code (codes rc rfl)
    | ok prepared =>
      have rest : ∀ cookie, Ensures (client addr arg) (fun outcome _ => Usual outcome) (afterSubmission chan.chan tfr cookie) () := by
        intro cookie
        apply ensures_if
        · exact fun _ _ _ => usual_code busy
        · exact fun _ => usual_code (by decide)
      intro _ _
      apply ensures_if
      · exact fun _ _ _ cookie _ => rest cookie
      · exact fun _ cookie _ => rest cookie
  | faulted error =>
    constructor
    · intro result same
      cases same
    · intro same
      cases same
      exact faults rfl

theorem start_served : Ensures (client addr arg) (fun outcome _ => Served outcome) (axidmaStartTransfer chan tfr) () := by
  unfold axidmaStartTransfer
  intro _ _
  apply ensures_if
  · intro _ timeRemain _ status _
    apply ensures_if
    · exact fun _ _ _ => served_code (by decide)
    · intro _
      apply ensures_if
      · exact fun _ _ _ => served_code (by decide)
      · exact fun _ => served_code (by decide)
  · exact fun _ => served_code (by decide)

theorem pass_served {rc : Int} {next : Driver Int} (apart : rc ≠ -ENODEV)
    (passed : Ensures (client addr arg) (fun outcome _ => Served outcome) next ()) :
    Ensures (client addr arg) (fun outcome _ => Served outcome) (if rc < 0 then .ret rc else next) () :=
  ensures_if (fun _ => served_code apart) fun _ => passed

theorem fault_served {α : Type} {error : Fault} (safe : (.faulted error : Outcome Fault α) ≠ .faulted .nullPointer) :
    Served (.faulted error) := by
  constructor
  · intro same
    cases same
  · intro same
    cases same
    exact safe rfl

theorem code_of_served {rc : Int} (served : Served (.returned rc)) : rc ≠ -ENODEV := by
  intro same
  rw [same] at served
  exact served.1 rfl

theorem entry_code {buf : UserAddr} {bufLen : SizeT} {rc : Int} (failed : axidmaInitSgEntry dev buf bufLen = .error rc) :
    rc ≠ -ENODEV := by
  simp only [axidmaInitSgEntry] at failed
  split at failed
  · cases failed
    decide
  · cases failed

theorem prep_then_served {rest : Int × AxidmaTransfer → Driver Int}
    (next : ∀ result : Int × AxidmaTransfer, result.1 ≠ -ENODEV → Ensures (client addr arg) (fun outcome _ => Served outcome) (rest result) ()) :
    Ensures (client addr arg) (fun outcome _ => Served outcome) (axidmaPrepTransfer chan tfr >>= rest) () := by
  refine ensures_bind (prep_usual.mono ?_)
  intro outcome _ usual
  cases outcome with
  | returned result => exact next result (usual.1 result rfl)
  | faulted error => exact fault_served usual.2

theorem start_then_served {rest : Int → Driver Int}
    (next : ∀ rc : Int, rc ≠ -ENODEV → Ensures (client addr arg) (fun outcome _ => Served outcome) (rest rc) ()) :
    Ensures (client addr arg) (fun outcome _ => Served outcome) (axidmaStartTransfer chan tfr >>= rest) () := by
  refine ensures_bind (start_served.mono ?_)
  intro outcome _ served
  cases outcome with
  | returned rc => exact next rc (code_of_served served)
  | faulted error => exact served

theorem oneway_served {dir : AxidmaDir} {transaction : AxidmaTransaction}
    (found : axidmaGetChan dev transaction.channelId = some chan) (fits : chan.dir = dir) :
    Ensures (client addr arg) (fun outcome _ => Served outcome) (onewayTransfer dir dev caller transaction) () := by
  have finds := @oneway_finds dev caller dir transaction
  generalize onewayTransfer dir dev caller transaction = program at finds ⊢
  cases finds with
  | refused unfit => exact absurd fits (unfit _ found)
  | untranslated failed => exact served_code (entry_code failed)
  | all =>
    apply prep_then_served
    intro result apart
    apply pass_served apart
    apply start_then_served
    intro rc apart
    exact pass_served apart (served_code (by decide))

theorem rw_served {transaction : AxidmaInoutTransaction} {txChan rxChan : AxidmaChan}
    (foundTx : axidmaGetChan dev transaction.txChannelId = some txChan) (transmits : txChan.dir = .write)
    (foundRx : axidmaGetChan dev transaction.rxChannelId = some rxChan) (receives : rxChan.dir = .read) :
    Ensures (client addr arg) (fun outcome _ => Served outcome) (axidmaRwTransfer dev caller transaction) () := by
  have finds := @rw_finds dev caller transaction
  generalize axidmaRwTransfer dev caller transaction = program at finds ⊢
  cases finds with
  | refused unfit => exact absurd receives (unfit _ _ foundTx transmits foundRx)
  | untranslated failed => exact served_code (entry_code failed)
  | all =>
    apply prep_then_served
    intro result apart
    apply pass_served apart
    apply prep_then_served
    intro result apart
    apply pass_served apart
    apply start_then_served
    intro rc apart
    apply pass_served apart
    apply start_then_served
    intro rc apart
    exact pass_served apart (served_code (by decide))

-- What the body ends with is dropped, so only its faults count.
theorem video_body_served {transaction : AxidmaVideoTransaction} {dir : AxidmaDir}
    (found : axidmaGetChan dev transaction.channelId = some chan) :
    Ensures (client addr arg) (fun outcome _ => outcome ≠ .faulted .nullPointer)
      (videoTransferBody dev caller transaction dir) () := by
  unfold videoTransferBody
  cases transaction.sgList dev with
  | error rc => exact fun same => by cases same
  | ok sgList =>
    simp only [channel_test]
    simp only [found,Prog.deref_some,Prog.ret_bind]
    refine ensures_bind (prep_usual.mono ?_)
    intro outcome _ usual
    cases outcome with
    | returned result =>
      apply ensures_if
      · exact fun _ same => by cases same
      · exact fun _ => start_served.mono fun _ _ served => served.2
    | faulted error => exact (fault_served usual.2).2

theorem video_served {transaction : AxidmaVideoTransaction} {dir : AxidmaDir}
    (found : axidmaGetChan dev transaction.channelId = some chan) :
    Ensures (client addr arg) (fun outcome _ => Served outcome) (Axidma.axidmaVideoTransfer dev caller transaction dir) () := by
  unfold Axidma.axidmaVideoTransfer
  simp only [kcall,Prog.ask,Prog.call_bind,Prog.ret_bind]
  intro reply _
  cases reply with
  | none => exact served_code (by decide)
  | some sgList =>
    refine ensures_bind ((video_body_served found).mono ?_)
    intro outcome _ safe
    cases outcome with
    | returned rc => exact fun _ _ => served_code (by decide)
    | faulted error => exact fault_served safe

theorem stop_served {chanInfo : AxidmaChan} (found : axidmaGetChan dev chanInfo.channelId = some chan) :
    Ensures (client addr arg) (fun outcome _ => Served outcome) (axidmaStopChannel dev chanInfo) () := by
  unfold axidmaStopChannel
  simp only [channel_test,found]
  exact fun rc apart => served_code apart.2

end

section
variable {dev : AxidmaDevice} {caller : Caller} {addr : UserAddr} {arg : IoctlArg} {chan : AxidmaChan} {tfr : AxidmaTransfer}
  {past later : List (Event kernel)}

def OnTfr (chan : AxidmaChan) (tfr : AxidmaTransfer) : KernelCall → Prop
  | .dmaenginePrepSlaveSg handle prepared => handle = chan.chan ∧ tfr.type = .dma ∧ prepared.dir = axidmaToDmaDir tfr.dir
  | .dmaenginePrepInterleavedDma handle prepared => handle = chan.chan ∧ tfr.type = .vdma ∧
      prepared.dir = axidmaToDmaDir tfr.dir
  | op => op.touches ≠ none → op.touches = some chan.chan

theorem descriptor_on : Does (OnTfr chan tfr) (fun _ => True) (axidmaPrepDescriptor chan.chan tfr) := by
  unfold axidmaPrepDescriptor
  cases type : tfr.type with
  | dma => exact ⟨⟨rfl,type,rfl⟩,fun _ _ => trivial⟩
  | vdma =>
    refine ⟨fun _ => rfl,fun rc _ => does_if (fun _ => trivial) fun _ => ?_⟩
    cases tfr.sgList.head? with
    | none => trivial
    | some entry =>
      cases tfr.frame with
      | none => exact ⟨fun touches => absurd rfl touches,fun frame _ => ⟨⟨rfl,type,rfl⟩,fun _ _ => trivial⟩⟩
      | some frame => exact ⟨⟨rfl,type,rfl⟩,fun _ _ => trivial⟩

theorem on_permits : Permits OnTfr fun _ _ => True where
  descriptor := fun _ _ => descriptor_on.mono (fun _ => id) fun _ _ _ _ => trivial
  store := fun _ _ touches => absurd rfl touches
  init := fun _ _ touches => absurd rfl touches
  submit := fun _ _ _ _ _ => rfl
  issue := fun _ _ _ => rfl
  wait := fun _ _ _ touches => absurd rfl touches
  status := fun _ _ _ touches => absurd rfl touches
  terminate := fun _ _ _ => rfl

theorem OnTfr.on {op : KernelCall} (type : tfr.type = chan.type) (dir : tfr.dir = chan.dir) (works : OnTfr chan tfr op)
    (touches : op.touches ≠ none) : On chan op := by
  cases op with
  | dmaenginePrepSlaveSg handle prepared => exact ⟨works.1,type.symm.trans works.2.1,works.2.2.trans (by rw [dir])⟩
  | dmaenginePrepInterleavedDma handle prepared => exact ⟨works.1,type.symm.trans works.2.1,works.2.2.trans (by rw [dir])⟩
  | _ => exact works touches

def OnListed (dev : AxidmaDevice) (ids : List CInt) (op : KernelCall) : Prop :=
  op.touches ≠ none → ∃ channelId ∈ ids, ∃ chan, axidmaGetChan dev channelId = some chan ∧ On chan op

theorem oneway_on {dir : AxidmaDir} {transaction : AxidmaTransaction} :
    Does (OnListed dev [transaction.channelId]) (fun _ => True) (onewayTransfer dir dev caller transaction) := by
  have sets : ∀ request, (∀ chan entry, axidmaGetChan dev transaction.channelId = some chan → chan.dir = dir →
      axidmaInitSgEntry dev transaction.buf transaction.bufLen = .ok entry →
      Sets dev caller request chan (onewayTfr dev caller chan transaction entry)) →
      (∀ chan tfr, Sets dev caller request chan tfr → axidmaGetChan dev transaction.channelId = some chan ∧
        tfr.type = chan.type ∧ tfr.dir = chan.dir) →
      Does (OnListed dev [transaction.channelId]) (fun _ => True) (onewayTransfer dir dev caller transaction) := by
    intro request sets entries
    refine (oneway_calls on_permits sets).mono (fun op made touches => ?_) fun _ => id
    obtain ⟨chan,tfr,set,works⟩ := made
    obtain ⟨found,type,dir⟩ := entries chan tfr set
    exact ⟨_,List.mem_cons_self,chan,found,works.on type dir touches⟩
  cases dir with
  | read =>
    refine sets (.read transaction) (fun _ _ found fits translated => .read found fits translated) ?_
    intro chan tfr set
    cases set with
    | read found => exact ⟨found,rfl,rfl⟩
  | write =>
    refine sets (.write transaction) (fun _ _ found fits translated => .write found fits translated) ?_
    intro chan tfr set
    cases set with
    | write found => exact ⟨found,rfl,rfl⟩

theorem rw_on {transaction : AxidmaInoutTransaction} :
    Does (OnListed dev [transaction.txChannelId,transaction.rxChannelId]) (fun _ => True)
      (axidmaRwTransfer dev caller transaction) := by
  refine (rw_calls on_permits).mono (fun op made touches => ?_) fun _ => id
  obtain ⟨chan,tfr,set,works⟩ := made
  cases set with
  | transmit found => exact ⟨_,List.mem_cons_self,chan,found,works.on rfl rfl touches⟩
  | receive found => exact ⟨_,List.mem_cons_of_mem _ List.mem_cons_self,chan,found,works.on rfl rfl touches⟩

theorem video_on {transaction : AxidmaVideoTransaction} (found : axidmaGetChan dev transaction.channelId = some chan)
    (display : chan.type = .vdma) :
    Does (OnListed dev [transaction.channelId]) (fun _ => True)
      (Axidma.axidmaVideoTransfer dev caller transaction chan.dir) := by
  refine (video_calls on_permits).mono (fun op made touches => ?_) fun _ => id
  rcases made with ⟨other,tfr,set,works⟩ | ⟨_,_,_,rfl | ⟨_,rfl⟩⟩ | ⟨_,_,same,_⟩
  · cases set with
    | video present =>
      cases found.symm.trans present
      exact ⟨_,List.mem_cons_self,chan,found,works.on display.symm rfl touches⟩
  · exact absurd rfl touches
  · exact absurd rfl touches
  · cases same

theorem stop_on {chanInfo : AxidmaChan} :
    Does (OnListed dev [chanInfo.channelId]) (fun _ => True) (axidmaStopChannel dev chanInfo) := by
  refine stop_calls.mono (fun op made touches => ?_) fun _ => id
  rcases made with ⟨_,_,same,_⟩ | ⟨_,chan,same,found,rfl⟩
  · cases same
  · cases same
    exact ⟨_,List.mem_cons_self,chan,found,rfl⟩

def Touched (chan : DmaChan) (past : List (Event kernel)) : Prop := ∃ event ∈ past, event.1.touches = some chan

def Reaches (dev : AxidmaDevice) (arg : IoctlArg) (past : List (Event kernel)) : Prop :=
  Granted dev arg past → ∀ channelId ∈ argIds arg, ∀ chan, axidmaGetChan dev channelId = some chan → Touched chan.chan past

theorem touched_grows {chan : DmaChan} (past : List (Event kernel)) (event : Event kernel) (touched : Touched chan past) :
    Touched chan (past++[event]) := by
  obtain ⟨earlier,present,touches⟩ := touched
  exact ⟨earlier,List.mem_append_left _ present,touches⟩

theorem reaches_refused (refusal : Refusal past) : Reaches dev arg past := by
  intro granted
  obtain ⟨event,present,refused⟩ := refusal
  exact absurd refused (granted.unrefused event present)

theorem refusal_reaches {p : Driver Int} (refusal : Refusal past) :
    Conforms history (fun later _ => Reaches dev arg later) past p :=
  (history_keeps refusal_grows refusal).mono fun _ _ => reaches_refused

theorem prep_first (chan : AxidmaChan) (tfr : AxidmaTransfer) :
    ∃ op next, axidmaPrepTransfer chan tfr = .call op next ∧ op.touches = some chan.chan := by
  rw [prep_parts]
  unfold axidmaPrepDescriptor
  cases tfr.type with
  | dma => exact ⟨_,_,rfl,rfl⟩
  | vdma => exact ⟨_,_,rfl,rfl⟩

theorem prep_touches {α : Type} {rest : Int × AxidmaTransfer → Driver α} :
    Conforms history (fun later _ => Touched chan.chan later) past (axidmaPrepTransfer chan tfr >>= rest) := by
  obtain ⟨op,next,same,touches⟩ := prep_first chan tfr
  rw [same]
  refine ⟨trivial,fun reply _ => history_keeps touched_grows ?_⟩
  exact ⟨⟨op,reply⟩,List.mem_append_right _ List.mem_cons_self,touches⟩

theorem descriptor_refused {entry : Scatterlist} (first : tfr.sgList.head? = some entry) :
    Conforms history (fun later outcome => Refusal later ∨ ∃ prepared, outcome = .returned (.ok prepared)) past
      (axidmaPrepDescriptor chan.chan tfr) := by
  refine Lookups.descriptor_described.mono fun later outcome described => ?_
  cases described with
  | faulted empty => cases first.symm.trans empty
  | refused _ refusal => exact .inl refusal
  | ready _ => exact .inr ⟨_,rfl⟩

theorem prep_refused {entry : Scatterlist} (first : tfr.sgList.head? = some entry) :
    Conforms history (fun later outcome => Refusal later ∨ ∃ after, outcome = .returned (0,after)) past
      (axidmaPrepTransfer chan tfr) := by
  rw [prep_parts]
  refine conforms_bind.mpr ((descriptor_refused first).mono ?_)
  intro middle outcome described
  rcases described with refusal | ⟨prepared,rfl⟩
  · cases outcome with
    | faulted error => exact .inl refusal
    | returned result => exact (history_keeps refusal_grows refusal).mono fun _ _ => .inl
  · have rest : ∀ before cookie, Conforms history (fun later outcome => Refusal later ∨ ∃ after, outcome = .returned (0,after))
        (before++[⟨.dmaengineSubmit chan.chan ⟨prepared,tfr.cbData,tfr.requested⟩,cookie⟩])
        (afterSubmission chan.chan tfr cookie) := by
      intro before cookie
      apply conforms_if
      · intro failed
        exact ⟨trivial,fun _ _ => .inl (refusal_grows _ _ (refusal_last failed))⟩
      · exact fun _ => .inr ⟨_,rfl⟩
    refine ⟨trivial,fun _ _ => ?_⟩
    split
    · exact ⟨trivial,fun _ _ => ⟨trivial,fun cookie _ => rest _ cookie⟩⟩
    · exact ⟨trivial,fun cookie _ => rest _ cookie⟩

theorem entry_zero {buf : UserAddr} {bufLen : SizeT} {rc : Int} (failed : axidmaInitSgEntry dev buf bufLen = .error rc) :
    axidmaUservirtToDma dev buf bufLen = 0 := by
  simp only [axidmaInitSgEntry] at failed
  split at failed
  · assumption
  · cases failed

theorem mapM_fails {ε α β : Type} {f : α → Except ε β} {list : List α} {error : ε} (failed : list.mapM f = .error error) :
    ∃ value ∈ list, f value = .error error := by
  induction list with
  | nil => cases failed
  | cons value rest ih =>
    rw [List.mapM_cons] at failed
    cases first : f value with
    | error other =>
      rw [first] at failed
      cases failed
      exact ⟨value,List.mem_cons_self,first⟩
    | ok result =>
      rw [first] at failed
      cases others : rest.mapM f with
      | error other =>
        rw [others] at failed
        cases failed
        obtain ⟨last,present,same⟩ := ih others
        exact ⟨last,List.mem_cons_of_mem _ present,same⟩
      | ok results =>
        rw [others] at failed
        cases failed

theorem oneway_reaches {dir : AxidmaDir} {transaction : AxidmaTransaction}
    (found : axidmaGetChan dev transaction.channelId = some chan) (fits : chan.dir = dir) :
    Conforms history (fun later _ => Reaches dev (.transaction transaction) later) past
      (onewayTransfer dir dev caller transaction) := by
  have finds := @oneway_finds dev caller dir transaction
  generalize onewayTransfer dir dev caller transaction = program at finds ⊢
  cases finds with
  | refused unfit => exact absurd fits (unfit _ found)
  | untranslated failed =>
    intro granted
    exact absurd (entry_zero failed) granted.translates
  | all present =>
    cases found.symm.trans present
    refine prep_touches.mono ?_
    intro later _ touched _ channelId member other same
    rw [List.mem_singleton.mp member] at same
    cases found.symm.trans same
    exact touched

theorem rw_untranslated {transaction : AxidmaInoutTransaction} {buf : UserAddr} {bufLen : SizeT} {rc : Int}
    (side : (buf = transaction.txBuf ∧ bufLen = transaction.txBufLen) ∨ (buf = transaction.rxBuf ∧ bufLen = transaction.rxBufLen))
    (failed : axidmaInitSgEntry dev buf bufLen = .error rc) : Reaches dev (.inoutTransaction transaction) past := by
  intro granted
  rcases side with ⟨rfl,rfl⟩ | ⟨rfl,rfl⟩
  · exact absurd (entry_zero failed) granted.translates.1
  · exact absurd (entry_zero failed) granted.translates.2

theorem rw_reaches {transaction : AxidmaInoutTransaction} {txChan rxChan : AxidmaChan}
    (foundTx : axidmaGetChan dev transaction.txChannelId = some txChan) (transmits : txChan.dir = .write)
    (foundRx : axidmaGetChan dev transaction.rxChannelId = some rxChan) (receives : rxChan.dir = .read) :
    Conforms history (fun later _ => Reaches dev (.inoutTransaction transaction) later) past
      (axidmaRwTransfer dev caller transaction) := by
  cases translatedTx : axidmaInitSgEntry dev transaction.txBuf transaction.txBufLen with
  | error rc =>
    unfold axidmaRwTransfer
    simp only [foundTx,transmits,foundRx,receives,translatedTx,ne_eq,not_true,if_false]
    exact rw_untranslated (.inl ⟨rfl,rfl⟩) translatedTx
  | ok txEntry =>
    cases translatedRx : axidmaInitSgEntry dev transaction.rxBuf transaction.rxBufLen with
    | error rc =>
      unfold axidmaRwTransfer
      simp only [foundTx,transmits,foundRx,receives,translatedTx,translatedRx,ne_eq,not_true,if_false]
      exact rw_untranslated (.inr ⟨rfl,rfl⟩) translatedRx
    | ok rxEntry =>
      rw [rw_found foundTx transmits foundRx receives translatedTx translatedRx]
      have first : (txTfr dev caller txChan transaction txEntry).sgList.head? = some txEntry := rfl
      have touches := @prep_touches txChan (txTfr dev caller txChan transaction txEntry) past _ Prog.ret
      rw [Prog.bind_ret] at touches
      refine conforms_bind.mpr ((touches.both (prep_refused first)).mono ?_)
      intro middle outcome prepared
      obtain ⟨touchedTx,refusal | ⟨after,rfl⟩⟩ := prepared
      · cases outcome with
        | faulted error => exact reaches_refused refusal
        | returned result => exact refusal_reaches refusal
      · refine ((history_keeps touched_grows touchedTx).both prep_touches).mono ?_
        intro later _ touched _ channelId member other same
        rcases List.mem_pair.mp member with rfl | rfl
        · cases foundTx.symm.trans same
          exact touched.1
        · cases foundRx.symm.trans same
          exact touched.2

theorem stop_reaches {chanInfo : AxidmaChan} (found : axidmaGetChan dev chanInfo.channelId = some chan) :
    Conforms history (fun later _ => Reaches dev (.chan chanInfo) later) past (axidmaStopChannel dev chanInfo) := by
  unfold axidmaStopChannel
  simp only [channel_test,found]
  refine ⟨trivial,fun rc _ _ channelId member other same => ?_⟩
  rw [List.mem_singleton.mp member] at same
  cases found.symm.trans same
  exact ⟨_,List.mem_append_right _ List.mem_cons_self,rfl⟩

end

section
variable {dev : AxidmaDevice} {caller : Caller} {addr : UserAddr} {arg : IoctlArg} {chan : AxidmaChan}
  {past : List (Event kernel)} {p : Driver Int}

def Ending (dev : AxidmaDevice) (arg : IoctlArg) (outcome : Outcome Fault Int) (after : Unit × List (Event kernel)) : Prop :=
  Acted dev arg outcome after.2

def Begun (past : List (Event kernel)) : Prop := ∀ event ∈ past, event.1.touches = none

theorem Begun.snoc {event : Event kernel} (begun : Begun past) (apart : event.1.touches = none) : Begun (past++[event]) := by
  intro other member
  rcases List.mem_append.mp member with early | last
  · exact begun other early
  · rw [List.mem_singleton.mp last]
    exact apart

theorem Begun.refused {rc : Int} (begun : Begun past) (apart : rc ≠ -ENODEV) (refusal : Refusal past) :
    Acted dev arg (.returned rc) past :=
  ⟨served_code apart,fun event member touches => absurd (begun event member) touches,(reaches_refused refusal)⟩

-- The driver's function from where it has its argument.
theorem Begun.acts (begun : Begun past) (served : Ensures (client addr arg) (fun outcome _ => Served outcome) p ())
    (listed : Does (OnListed dev (argIds arg)) (fun _ => True) p)
    (reaches : Conforms history (fun later _ => Reaches dev arg later) past p) :
    Ensures (client addr arg).recorded (Ending dev arg) p ((),past) := by
  have legal : ∀ s op reply, (client addr arg).gives s op reply → op.Legal reply := fun _ _ _ given => given.1
  refine (served.recorded.both ((listed.recorded legal).both (reaches.recorded legal))).mono ?_
  intro outcome after ends
  obtain ⟨served,⟨_,new,added,all⟩,reached⟩ := ends
  refine ⟨served,?_,reached⟩
  intro event member
  rw [added] at member
  rcases List.mem_append.mp member with early | late
  · exact fun touches => absurd (begun event early) touches
  · exact all event late

theorem access_acts {size : Nat} {readonly : Bool} {rest : Bool → Driver Int} (begun : Begun past)
    (next : ∀ accessible past, Begun past → (accessible = false → Refusal past) →
      Ensures (client addr arg).recorded (Ending dev arg) (rest accessible) ((),past)) :
    Ensures (client addr arg).recorded (Ending dev arg) (axidmaAccessOk addr size readonly >>= rest) ((),past) := by
  have readable : ∀ past, Begun past →
      Ensures (client addr arg).recorded (Ending dev arg) (.call (.accessOk false addr size) rest) ((),past) :=
    fun past begun readable _ => next readable _ (begun.snoc rfl) fun refused => refusal_last refused
  cases readonly with
  | false =>
    intro writable _
    cases writable with
    | false => exact next false _ (begun.snoc rfl) fun _ => refusal_last rfl
    | true => exact readable _ (begun.snoc rfl)
  | true => exact readable past begun

theorem ioctl_acts {cmd : CInt} (magic : IOC_TYPE cmd = AXIDMA_IOCTL_MAGIC) (known : ¬ IOC_NR cmd ≥ AXIDMA_NUM_IOCTLS)
    (command : ∀ past, Begun past → Ensures (client addr arg).recorded (Ending dev arg) (ioctlCommand dev caller cmd addr) ((),past)) :
    Ensures (client addr arg).recorded (Ending dev arg) (axidmaIoctl dev caller cmd addr) ((),[]) := by
  have empty : Begun [] := fun _ member => absurd member List.not_mem_nil
  have rest : ∀ (accessible : Bool) past, Begun past → (accessible = false → Refusal past) →
      Ensures (client addr arg).recorded (Ending dev arg)
        (if (!accessible) = true then .ret (-EFAULT) else ioctlCommand dev caller cmd addr) ((),past) := by
    intro accessible past begun refused
    refine ensures_if (fun inaccessible => ?_) fun _ => command past begun
    exact begun.refused (by decide) (refused (by simpa using inaccessible))
  unfold axidmaIoctl
  rw [if_neg (not_not.mpr magic),if_neg known]
  apply ensures_if
  · exact fun _ => access_acts empty rest
  · intro _
    apply ensures_if
    · exact fun _ => access_acts empty rest
    · exact fun _ => rest true [] empty nofun

theorem fetch_acts {kind : UserStruct} {next : kind.Value → Driver Int} (begun : Begun past)
    (copied : ∀ value past, Begun past → Reads arg kind value →
      Ensures (client addr arg).recorded (Ending dev arg) (next value) ((),past)) :
    Ensures (client addr arg).recorded (Ending dev arg) (fetch kind addr next) ((),past) := by
  unfold fetch
  intro reply given
  obtain ⟨whole,reads⟩ := given.2 rfl
  apply ensures_if
  · exact fun short => absurd whole short
  · exact fun _ => copied reply.2 _ (begun.snoc rfl) reads

-- A video request that is refused something, has reached its channel, or names a
-- frame buffer that does not translate.
def Settled (dev : AxidmaDevice) (transaction : UserVideoTransaction) (chan : DmaChan) (past : List (Event kernel)) : Prop :=
  Refusal past ∨ Touched chan past ∨ ¬ Translates dev past (.videoTransaction transaction)

theorem settled_grows {transaction : UserVideoTransaction} {chan : DmaChan} (past : List (Event kernel)) (event : Event kernel)
    (settled : Settled dev transaction chan past) : Settled dev transaction chan (past++[event]) := by
  rcases settled with refusal | touched | untranslated
  · exact .inl (refusal_grows past event refusal)
  · exact .inr (.inl (touched_grows past event touched))
  · refine .inr (.inr fun translates => untranslated ?_)
    exact fun count source copied present => translates count source copied (List.mem_append_left _ present)

theorem Settled.reaches {transaction : UserVideoTransaction} (found : axidmaGetChan dev transaction.channelId = some chan)
    (settled : Settled dev transaction chan.chan past) : Reaches dev (.videoTransaction transaction) past := by
  rcases settled with refusal | touched | untranslated
  · exact reaches_refused refusal
  · intro _ channelId member other same
    rw [List.mem_singleton.mp member] at same
    cases found.symm.trans same
    exact touched
  · exact fun granted => absurd granted.translates untranslated

theorem settled_then {α : Type} {transaction : UserVideoTransaction} {chan : DmaChan} {q : Driver α} {rest : α → Driver Int}
    (first : Conforms history (fun later _ => Settled dev transaction chan later) past q) :
    Conforms history (fun later _ => Settled dev transaction chan later) past (q >>= rest) := by
  refine conforms_bind.mpr (first.mono ?_)
  intro later outcome settled
  cases outcome with
  | returned value => exact history_keeps settled_grows settled
  | faulted error => exact settled

theorem video_body_settles {transaction : UserVideoTransaction} {frameBuffers : List UserAddr}
    {filled : frameBuffers.length = transaction.numFrameBuffers.toInt.toNat} {source : UserAddr} {left : Nat}
    {dir : AxidmaDir} (found : axidmaGetChan dev transaction.channelId = some chan)
    (copied : ⟨.copyFromUser (.frameBuffers transaction.numFrameBuffers.toInt.toNat) source,(left,⟨frameBuffers,filled⟩)⟩ ∈ past) :
    Conforms history (fun later _ => Settled dev transaction chan.chan later) past (videoTransferBody dev caller
      ⟨transaction.channelId,transaction.numFrameBuffers,frameBuffers,transaction.frame,filled⟩ dir) := by
  unfold videoTransferBody
  simp only [channel_test]
  cases translated : AxidmaVideoTransaction.sgList
      ⟨transaction.channelId,transaction.numFrameBuffers,frameBuffers,transaction.frame,filled⟩ dev with
  | error rc =>
    obtain ⟨buf,member,failed⟩ := mapM_fails translated
    refine .inr (.inr fun translates => ?_)
    exact translates _ _ _ copied buf member (entry_zero failed)
  | ok sgList =>
    simp only [found,Prog.deref_some,Prog.ret_bind]
    exact prep_touches.mono fun _ _ touched => .inr (.inl touched)

theorem video_transfer_settles {transaction : UserVideoTransaction} {frameBuffers : List UserAddr}
    {filled : frameBuffers.length = transaction.numFrameBuffers.toInt.toNat} {source : UserAddr} {left : Nat}
    {dir : AxidmaDir} (found : axidmaGetChan dev transaction.channelId = some chan)
    (copied : ⟨.copyFromUser (.frameBuffers transaction.numFrameBuffers.toInt.toNat) source,(left,⟨frameBuffers,filled⟩)⟩ ∈ past) :
    Conforms history (fun later _ => Settled dev transaction chan.chan later) past (Axidma.axidmaVideoTransfer dev caller
      ⟨transaction.channelId,transaction.numFrameBuffers,frameBuffers,transaction.frame,filled⟩ dir) := by
  unfold Axidma.axidmaVideoTransfer
  simp only [kcall,Prog.ask,Prog.call_bind,Prog.ret_bind]
  refine ⟨trivial,fun sgList _ => ?_⟩
  cases sgList with
  | none => exact .inl (refusal_last rfl)
  | some sgList => exact settled_then (video_body_settles found (List.mem_append_left _ copied))

theorem video_settles {transaction : UserVideoTransaction} {dir : AxidmaDir}
    (found : axidmaGetChan dev transaction.channelId = some chan) :
    Conforms history (fun later _ => Settled dev transaction chan.chan later) past (videoFetched dev caller addr dir transaction) := by
  refine ⟨trivial,fun reply _ => ?_⟩
  cases reply with
  | none => exact .inl (refusal_last rfl)
  | some frameBuffers =>
    refine ⟨trivial,fun user _ => ?_⟩
    cases user with
    | none => exact .inl (refusal_last rfl)
    | some user =>
      refine ⟨trivial,fun copied _ => ?_⟩
      apply conforms_if
      · intro short
        exact history_keeps settled_grows (.inl (refusal_last short))
      · intro _
        exact settled_then (video_transfer_settles found (List.mem_append_right _ List.mem_cons_self))

theorem video_fetched_served {transaction : UserVideoTransaction} {dir : AxidmaDir}
    (found : axidmaGetChan dev transaction.channelId = some chan) :
    Ensures (client addr arg) (fun outcome _ => Served outcome) (videoFetched dev caller addr dir transaction) () := by
  intro reply _
  cases reply with
  | none => exact served_code (by decide)
  | some frameBuffers =>
    intro user given
    cases user with
    | none => cases given.2 rfl
    | some user =>
      intro buffers _
      apply ensures_if
      · exact fun _ _ _ => served_code (by decide)
      · intro _
        refine ensures_bind ((video_served found).mono ?_)
        intro outcome _ served
        cases outcome with
        | returned rc => exact fun _ _ => served_code (code_of_served served)
        | faulted error => exact served

theorem video_fetched_on {transaction : UserVideoTransaction} (found : axidmaGetChan dev transaction.channelId = some chan)
    (display : chan.type = .vdma) :
    Does (OnListed dev [transaction.channelId]) (fun _ => True) (videoFetched dev caller addr chan.dir transaction) := by
  have apart : ∀ {op : KernelCall}, op.touches = none → OnListed dev [transaction.channelId] op :=
    fun same touches => absurd same touches
  refine ⟨apart rfl,fun reply _ => ?_⟩
  cases reply with
  | none => trivial
  | some frameBuffers =>
    refine ⟨apart rfl,fun user _ => ?_⟩
    cases user with
    | none => trivial
    | some user =>
      refine ⟨apart rfl,fun copied _ => ?_⟩
      apply does_if
      · exact fun _ => ⟨apart rfl,fun _ _ => trivial⟩
      · intro _
        exact does_bind (video_on found display) (fun _ _ => ⟨apart rfl,fun _ _ => trivial⟩) fun _ _ => trivial

theorem rw_acts {transaction : AxidmaInoutTransaction} {txChan rxChan : AxidmaChan} (begun : Begun past)
    (foundTx : axidmaGetChan dev transaction.txChannelId = some txChan) (transmits : txChan.dir = .write)
    (foundRx : axidmaGetChan dev transaction.rxChannelId = some rxChan) (receives : rxChan.dir = .read) :
    Ensures (client addr (.inoutTransaction transaction)).recorded (Ending dev (.inoutTransaction transaction))
      (ioctlCommand dev caller AXIDMA_DMA_READWRITE addr) ((),past) := by
  apply fetch_acts begun
  intro value past begun reads
  obtain rfl := reads
  exact begun.acts (rw_served foundTx transmits foundRx receives) rw_on (rw_reaches foundTx transmits foundRx receives)

theorem video_acts {transaction : UserVideoTransaction} (begun : Begun past)
    (found : axidmaGetChan dev transaction.channelId = some chan) (display : chan.type = .vdma) :
    Ensures (client addr (.videoTransaction transaction)).recorded (Ending dev (.videoTransaction transaction))
      (ioctlVideo dev caller addr chan.dir) ((),past) := by
  unfold ioctlVideo
  apply fetch_acts begun
  intro value past begun reads
  obtain rfl := reads
  exact begun.acts (video_fetched_served found) (video_fetched_on found display)
    ((video_settles found).mono fun _ _ => Settled.reaches found)

theorem stop_acts {chanInfo : AxidmaChan} (begun : Begun past) (found : axidmaGetChan dev chanInfo.channelId = some chan) :
    Ensures (client addr (.chan chanInfo)).recorded (Ending dev (.chan chanInfo))
      (ioctlCommand dev caller AXIDMA_STOP_DMA_CHANNEL addr) ((),past) := by
  intro reply given
  obtain ⟨_,reads⟩ := given.2 rfl
  obtain ⟨left,value⟩ := reply
  obtain rfl : value = chanInfo := reads
  exact (begun.snoc rfl).acts (stop_served found) stop_on (stop_reaches found)

end

end Axidma.ServedIoctls
