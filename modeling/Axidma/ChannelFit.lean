import Axidma.TransferCalls

namespace Axidma.ChannelFit
open Interaction

-- What a request asks of a channel. read, write and readwrite name no type.
structure Need where
  channelId : CInt
  dir : AxidmaDir
  type : Option AxidmaType

def Need.Fits (need : Need) (chan : AxidmaChan) : Prop :=
  chan.channelId = need.channelId ∧ chan.dir = need.dir ∧ ∀ type ∈ need.type, chan.type = type

def needs : Request → List Need
  | .read transaction => [⟨transaction.channelId,.read,none⟩]
  | .write transaction => [⟨transaction.channelId,.write,none⟩]
  | .readwrite transaction => [⟨transaction.txChannelId,.write,none⟩,⟨transaction.rxChannelId,.read,none⟩]
  | .video transaction dir => [⟨transaction.channelId,dir,some .vdma⟩]
  | .stop chanInfo => [⟨chanInfo.channelId,chanInfo.dir,some chanInfo.type⟩]

def Serves (dev : AxidmaDevice) (need : Need) (handle : DmaChan) : Prop :=
  ∃ chan ∈ dev.channels, need.Fits chan ∧ chan.chan = handle

def Missing (dev : AxidmaDevice) (need : Need) : Prop := ∀ chan ∈ dev.channels, ¬ need.Fits chan

structure Fitted (dev : AxidmaDevice) (request : Request) : Prop where
  touched : ∀ caller, Does (fun op : KernelCall => ∀ handle, op.touches = some handle → ∃ need ∈ needs request, Serves dev need handle)
    (fun _ => True) (request.program dev caller)
  refused : (∃ need ∈ needs request, Missing dev need) → ∀ caller,
    Does (fun op : KernelCall => op.touches = none) (fun outcome => outcome = .returned (-ENODEV)) (request.program dev caller)

section
variable {dev : AxidmaDevice} {caller : Caller} {handle : DmaChan}

theorem absent_missing {need : Need} (absent : axidmaGetChan dev need.channelId = none) : Missing dev need := by
  intro chan member fits
  have other := List.find?_eq_none.mp absent chan member
  simp [fits.1] at other

theorem transferCall_touches {chan : AxidmaChan} {tfr : AxidmaTransfer} {op : KernelCall}
    (call : TransferCall chan tfr op) (touches : op.touches = some handle) : handle = chan.chan := by
  cases op <;> simp_all [KernelCall.touches,TransferCall]

theorem requestCall_touches {request : Request} {op : KernelCall} (call : RequestCall dev caller request op)
    (touches : op.touches = some handle) :
    (∃ chan tfr, Sets dev caller request chan tfr ∧ handle = chan.chan) ∨
    ∃ chanInfo chan, request = .stop chanInfo ∧ axidmaGetChan dev chanInfo.channelId = some chan ∧
      handle = chan.chan := by
  rcases call with ⟨chan,tfr,set,call⟩ | ⟨_,_,_,rfl | ⟨_,rfl⟩⟩ | ⟨chanInfo,chan,same,found,rfl⟩
  · exact .inl ⟨chan,tfr,set,transferCall_touches call touches⟩
  · cases touches
  · cases touches
  · exact .inr ⟨chanInfo,chan,same,found,(Option.some.inj touches).symm⟩

theorem touched_of {request : Request}
    (sets : ∀ caller chan tfr, Sets dev caller request chan tfr → ∃ need ∈ needs request, Serves dev need chan.chan)
    (stops : ∀ chanInfo chan, request = .stop chanInfo → axidmaGetChan dev chanInfo.channelId = some chan →
      ∃ need ∈ needs request, Serves dev need chan.chan) (caller : Caller) :
    Does (fun op : KernelCall => ∀ handle, op.touches = some handle → ∃ need ∈ needs request, Serves dev need handle)
      (fun _ => True) (request.program dev caller) := by
  refine request_calls.mono (fun op call handle touches => ?_) fun _ => id
  rcases requestCall_touches call touches with ⟨chan,tfr,set,rfl⟩ | ⟨chanInfo,chan,same,found,rfl⟩
  · exact sets caller chan tfr set
  · exact stops chanInfo chan same found

theorem oneway_fits {channelId : CInt} {dir : AxidmaDir} {chan : AxidmaChan}
    (found : axidmaGetChan dev channelId = some chan) (fits : chan.dir = dir) :
    Serves dev ⟨channelId,dir,none⟩ chan.chan := by
  obtain ⟨member,named⟩ := found_member found
  exact ⟨chan,member,⟨named,fits,by simp⟩,rfl⟩

theorem missing_dir {channelId : CInt} {dir : AxidmaDir} {chan : AxidmaChan}
    (missing : Missing dev ⟨channelId,dir,none⟩) (found : axidmaGetChan dev channelId = some chan) :
    chan.dir ≠ dir := by
  intro fits
  obtain ⟨member,named⟩ := found_member found
  exact missing chan member ⟨named,fits,by simp⟩

theorem oneway_refused {dir : AxidmaDir} {transaction : AxidmaTransaction}
    (missing : Missing dev ⟨transaction.channelId,dir,none⟩) :
    onewayTransfer dir dev caller transaction = .ret (-ENODEV) :=
  oneway_unfit fun _ found => missing_dir missing found

theorem rw_refused {transaction : AxidmaInoutTransaction}
    (missing : Missing dev ⟨transaction.txChannelId,.write,none⟩ ∨
      Missing dev ⟨transaction.rxChannelId,.read,none⟩) :
    axidmaRwTransfer dev caller transaction = .ret (-ENODEV) := by
  apply rw_unfit
  intro txChan rxChan foundTx transmits foundRx
  rcases missing with missing | missing
  · exact absurd transmits (missing_dir missing foundTx)
  · exact missing_dir missing foundRx

theorem fitted_read {transaction : AxidmaTransaction} : Fitted dev (.read transaction) := by
  refine ⟨touched_of ?_ (by simp),?_⟩
  · intro caller chan tfr set
    cases set with
    | read found fits _ => exact ⟨_,by simp [needs],oneway_fits found fits⟩
  · intro unmet caller
    obtain ⟨need,member,missing⟩ := unmet
    obtain rfl := List.mem_singleton.mp member
    rw [Request.program,axidmaReadTransfer,oneway_refused missing]
    rfl

theorem fitted_write {transaction : AxidmaTransaction} : Fitted dev (.write transaction) := by
  refine ⟨touched_of ?_ (by simp),?_⟩
  · intro caller chan tfr set
    cases set with
    | write found fits _ => exact ⟨_,by simp [needs],oneway_fits found fits⟩
  · intro unmet caller
    obtain ⟨need,member,missing⟩ := unmet
    obtain rfl := List.mem_singleton.mp member
    rw [Request.program,axidmaWriteTransfer,oneway_refused missing]
    rfl

theorem fitted_readwrite {transaction : AxidmaInoutTransaction} : Fitted dev (.readwrite transaction) := by
  refine ⟨touched_of ?_ (by simp),?_⟩
  · intro caller chan tfr set
    cases set with
    | transmit found fits _ => exact ⟨_,by simp [needs],oneway_fits found fits⟩
    | receive found fits _ => exact ⟨_,List.mem_cons_of_mem _ (List.mem_singleton.mpr rfl),oneway_fits found fits⟩
  · intro unmet caller
    obtain ⟨need,member,missing⟩ := unmet
    have either : Missing dev ⟨transaction.txChannelId,.write,none⟩ ∨
        Missing dev ⟨transaction.rxChannelId,.read,none⟩ := by
      rcases List.mem_cons.mp member with rfl | later
      · exact .inl missing
      · obtain rfl := List.mem_singleton.mp later
        exact .inr missing
    rw [Request.program,rw_refused either]
    rfl

-- The stop request acts on the first entry with its id and looks at nothing else.
theorem fitted_stop {chanInfo : AxidmaChan} : Fitted dev (.stop chanInfo) ↔
    ∃ chan, axidmaGetChan dev chanInfo.channelId = some chan ∧
      Serves dev ⟨chanInfo.channelId,chanInfo.dir,some chanInfo.type⟩ chan.chan := by
  constructor
  · intro fitted
    cases found : axidmaGetChan dev chanInfo.channelId with
    | none =>
      have missing : Missing dev ⟨chanInfo.channelId,chanInfo.dir,some chanInfo.type⟩ := absent_missing found
      have faulted := fitted.refused ⟨_,List.mem_singleton.mpr rfl,missing⟩ ⟨0,0,0⟩
      simp only [Request.program,axidmaStopChannel,channel_test,found,does_fault] at faulted
      cases faulted
    | some chan =>
      have stopped := fitted.touched ⟨0,0,0⟩
      simp only [Request.program,axidmaStopChannel,found,Prog.deref_some,Prog.ret_bind,kcall,
        Prog.ask] at stopped
      obtain ⟨need,member,serves⟩ := stopped.1 chan.chan rfl
      obtain rfl := List.mem_singleton.mp member
      exact ⟨chan,rfl,serves⟩
  · intro acts
    obtain ⟨chan,found,serves⟩ := acts
    refine ⟨touched_of (fun _ _ _ set => by cases set) ?_,?_⟩
    · intro info other same foundOther
      cases same
      cases found.symm.trans foundOther
      exact ⟨_,List.mem_singleton.mpr rfl,serves⟩
    · intro unmet
      obtain ⟨need,member,missing⟩ := unmet
      obtain rfl := List.mem_singleton.mp member
      obtain ⟨fit,present,fits,_⟩ := serves
      exact absurd fits (missing fit present)

-- The video request has every frame translated before it looks at the channel.
def Reaches (dev : AxidmaDevice) (transaction : AxidmaVideoTransaction) : Prop :=
  0 ≤ transaction.numFrameBuffers.toInt ∧ ∃ sgList, transaction.sgList dev = .ok sgList

theorem video_touches {transaction : AxidmaVideoTransaction} {dir : AxidmaDir} {chan : AxidmaChan}
    {allowed : KernelCall → Prop} (does : Does allowed (fun _ => True) (axidmaVideoTransfer dev caller transaction dir))
    (reaches : Reaches dev transaction) (found : axidmaGetChan dev transaction.channelId = some chan) :
    allowed (.xilinxVdmaChannelSetConfig chan.chan axidmaSetupVdmaConfig) := by
  obtain ⟨counted,sgList,translated⟩ := reaches
  simp only [axidmaVideoTransfer,kcall,Prog.ask,Prog.call_bind,Prog.ret_bind,does_call] at does
  have body := does.2 (some 0) fun _ => (sg_list_size _).mpr counted
  simp only [videoTransferBody,translated,found,Prog.deref_some,Prog.ret_bind,axidmaPrepTransfer,
    axidmaPrepDescriptor,videoTfr,kcall,Prog.ask,Prog.call_bind] at body
  exact body.1

theorem video_unmet {transaction : AxidmaVideoTransaction} {dir : AxidmaDir} :
    ¬ Does (fun op : KernelCall => op.touches = none) (fun outcome => outcome = .returned (-ENODEV))
      (axidmaVideoTransfer dev caller transaction dir) := by
  intro does
  simp only [axidmaVideoTransfer,kcall,Prog.ask,Prog.call_bind,Prog.ret_bind,does_call] at does
  have returned := does.2 none (by simp [KernelCall.Legal])
  simp [ENODEV] at returned

theorem fitted_video {transaction : AxidmaVideoTransaction} {dir : AxidmaDir} :
    Fitted dev (.video transaction dir) ↔
      ¬ Missing dev ⟨transaction.channelId,dir,some .vdma⟩ ∧
      (Reaches dev transaction → ∀ chan, axidmaGetChan dev transaction.channelId = some chan →
        Serves dev ⟨transaction.channelId,dir,some .vdma⟩ chan.chan) := by
  constructor
  · intro fitted
    refine ⟨fun missing => ?_,fun reaches chan found => ?_⟩
    · exact video_unmet (fitted.refused ⟨_,List.mem_singleton.mpr rfl,missing⟩ ⟨0,0,0⟩)
    · obtain ⟨need,member,serves⟩ := video_touches (fitted.touched ⟨0,0,0⟩) reaches found chan.chan rfl
      obtain rfl := List.mem_singleton.mp member
      exact serves
  · intro admits
    obtain ⟨met,serves⟩ := admits
    refine ⟨touched_of ?_ (by simp),?_⟩
    · intro caller chan tfr set
      cases set with
      | video found counted translated =>
        exact ⟨_,List.mem_singleton.mpr rfl,serves ⟨counted,_,translated⟩ chan found⟩
    · intro unmet
      obtain ⟨need,member,missing⟩ := unmet
      obtain rfl := List.mem_singleton.mp member
      exact absurd missing met

-- The exact condition: nothing for read, write and readwrite; the other two
-- need a fitting entry, and for whatever they act on to be one.
def Admits (dev : AxidmaDevice) : Request → Prop
  | .video transaction dir =>
    ¬ Missing dev ⟨transaction.channelId,dir,some .vdma⟩ ∧
    (Reaches dev transaction → ∀ chan, axidmaGetChan dev transaction.channelId = some chan →
      Serves dev ⟨transaction.channelId,dir,some .vdma⟩ chan.chan)
  | .stop chanInfo => ∃ chan, axidmaGetChan dev chanInfo.channelId = some chan ∧
      Serves dev ⟨chanInfo.channelId,chanInfo.dir,some chanInfo.type⟩ chan.chan
  | _ => True

theorem fitted_iff_admits {request : Request} : Fitted dev request ↔ Admits dev request := by
  cases request with
  | read transaction => exact iff_of_true fitted_read trivial
  | write transaction => exact iff_of_true fitted_write trivial
  | readwrite transaction => exact iff_of_true fitted_readwrite trivial
  | video transaction dir => exact fitted_video
  | stop chanInfo => exact fitted_stop

end

def oneTransmitter : AxidmaDevice where
  numDmaTxChans := 1
  numDmaRxChans := 0
  numVdmaTxChans := 0
  numVdmaRxChans := 0
  notifySignal := -1
  channels := [⟨.write,.dma,0,"tx_channel",0⟩]
  dmabufList := []
  externalDmabufs := []

theorem stop_other_direction : ¬ Fitted oneTransmitter (.stop ⟨.read,.dma,0,"",0⟩) := by
  rw [fitted_stop]
  intro acts
  obtain ⟨_,_,chan,member,⟨_,dir,_⟩,_⟩ := acts
  obtain rfl := List.mem_singleton.mp member
  cases dir

end Axidma.ChannelFit
