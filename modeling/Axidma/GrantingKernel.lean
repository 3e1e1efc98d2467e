import Axidma.DriverServer

namespace Axidma.GrantingKernel
open Interaction
open ClientPrograms DmaHeap DriverServer

def unused (taken : List Nat) : Option Nat := if taken.length+1 ∈ taken then none else some (taken.length+1)

def dmaAddrOf (region : Nat) : DmaAddr := BitVec.ofNat 64 (0x10000000*region)

-- Where the first mapping of a client lies.
def FIRST_ADDRESS : UserAddr := 0x10000000

-- What the memory of the client holds for a call with this argument. All frames are in
-- the first mapping.
def copied : IoctlArg → (kind : UserStruct) → Option kind.Value
  | .transaction transaction,.transaction => some transaction
  | .inoutTransaction transaction,.inoutTransaction => some transaction
  | .videoTransaction transaction,.videoTransaction => some transaction
  | .chan chanInfo,.chan => some chanInfo
  | _,.channelInfo => some (0 : UserAddr)
  | _,.frameBuffers count => some ⟨List.replicate count FIRST_ADDRESS,List.length_replicate⟩
  | _,_ => none

-- A kernel that refuses nothing it can grant. A wait goes on until its completion.
def grant (arg : IoctlArg) (s : KernelState) : (op : KernelCall) → Option op.Reply
  | .kmalloc size => some (if size.toNat < 2^63 then unused s.heap else none)
  | .accessOk _ addr size => some (decide (addr.toNat+size ≤ 2^63))
  | .copyFromUser kind _ => (copied arg kind).map fun value => (0,value)
  | .copyToUser _ _ => some (0 : Nat)
  | .readUserPointer _ => some (some (0 : UserAddr))
  | .uninitialisedFrame => none
  | .dmaAllocCoherent _ => some ((unused s.regions).map fun region => (region,dmaAddrOf region))
  | .dmaMmapCoherent _ _ => some (0 : Int)
  | .dmaBufGet _ => none
  | .dmaBufAttach _ => none
  | .dmaBufMapAttachment _ => none
  | .xilinxVdmaChannelSetConfig _ _ => some (0 : Int)
  | .dmaenginePrepSlaveSg _ _ => some true
  | .dmaenginePrepInterleavedDma _ _ => some true
  | .dmaengineSubmit chan _ => some (((s.queue chan).length : Nat) : Int)
  | .waitForCompletionTimeout comp _ => if s.done comp then some (1 : Nat) else none
  | .dmaAsyncIsTxComplete _ _ => some DmaStatus.complete
  | .dmaengineTerminateAll _ => some (0 : Int)
  | .kfree _ => some ()
  | .storeNotifySignal _ => some ()
  | .ofDmaConfigure => some ()
  | .dmaFreeCoherent _ => some ()
  | .storeVmPrivateData _ _ => some ()
  | .listAddDmabuf _ => some ()
  | .listDelDmabuf _ => some ()
  | .dmaBufUnmapAttachment _ _ => some ()
  | .dmaBufDetach _ _ => some ()
  | .dmaBufPut _ => some ()
  | .listAddExternal _ => some ()
  | .storeCbData _ _ => some ()
  | .initCompletion _ => some ()
  | .dmaAsyncIssuePending _ => some ()
  | .complete _ => some ()
  | .sendSigInfo _ _ _ => some ()

-- The engine finishes the oldest transfer of the channel and calls back.
def finishes (s : KernelState) (chan : DmaChan) : KernelState := match s.queue chan with
  | descriptor :: later =>
    if descriptor.stage = .issued then
      KernelState.notified {s with queue := Function.update s.queue chan later} (s.slots descriptor.txd.callbackParam).notification
    else s
  | [] => s

def drained (s : Driven) : Driven := ((s.1.dev.channels.map (·.chan)).foldl finishes s.1,s.2)

section
variable {client : Task} {s : KernelState} {chan : DmaChan} {arg : IoctlArg} {addr : UserAddr}

theorem unused_fresh {taken : List Nat} {id : Nat} (found : unused taken = some id) : id ∉ taken := by
  unfold unused at found
  split at found
  · cases found
  · cases found
    assumption

theorem grant_given {op : KernelCall} {reply : op.Reply} (granted : grant arg s op = some reply) : s.gives op reply := by
  cases op with
  | kmalloc size =>
    cases granted
    constructor
    · intro present
      by_contra large
      rw [if_neg large] at present
      cases present
    · intro ptr found
      split at found
      · exact unused_fresh found
      · cases found
  | dmaAllocCoherent size =>
    cases granted
    intro region found
    obtain ⟨id,new,rfl⟩ := Option.map_eq_some_iff.mp found
    exact unused_fresh new
  | accessOk writable addr size =>
    cases granted
    exact of_decide_eq_true
  | dmaBufAttach dmaBuf => cases granted
  | waitForCompletionTimeout comp usecs =>
    simp only [grant] at granted
    split at granted
    · rename_i done
      cases granted
      simp [KernelState.gives,done]
    · cases granted
  | _ => trivial

theorem copied_reads {kind : UserStruct} {value : kind.Value} (holds : copied arg kind = some value) :
    ServedIoctls.Reads arg kind value := by
  cases arg <;> cases kind <;> first | trivial | exact (Option.some.inj holds).symm

theorem finishes_steps : Relation.ReflTransGen EngineStep s (finishes s chan) := by
  unfold finishes
  split
  case h_2 => exact .refl
  case h_1 descriptor later queued =>
    split
    · rename_i issued
      let middle := {s with queue := Function.update s.queue chan ({descriptor with stage := .done} :: later)}
      have finished : EngineStep s middle := @EngineStep.finish s chan [] later descriptor queued (fun _ none => absurd none List.not_mem_nil) issued
      have left : middle.queue chan = {descriptor with stage := .done} :: later := Function.update_self ..
      have taken : Function.update middle.queue chan later = Function.update s.queue chan later := Function.update_idem ..
      have called : EngineStep middle _ := @EngineStep.callback middle _ chan [] later _ left rfl (callback_runs _)
      rw [List.nil_append,taken] at called
      exact .tail (.single finished) called
    · exact .refl

theorem drained_works (s : Driven) : Relation.ReflTransGen working s (drained s) := by
  have moves : ∀ (chans : List DmaChan) (kernel : KernelState), Relation.ReflTransGen EngineStep kernel (chans.foldl finishes kernel) := by
    intro chans
    induction chans with
    | nil => exact fun _ => .refl
    | cons chan rest ih => exact fun kernel => finishes_steps.trans (ih _)
  exact (moves _ s.1).lift (fun kernel => (kernel,s.2)) fun _ _ step => ⟨step,rfl⟩

end

-- The copies of a call without an argument structure hold anything.
def noArg : IoctlArg := .chan ⟨.read,.dma,0,"",0⟩

def grants : Answers (kernelMachine.noting told) := ⟨fun s => grant noArg s.1,fun _ _ _ => grant_given⟩

def grantsHolding (addr : UserAddr) (arg : IoctlArg) : Answers ((holding addr (ServedIoctls.Reads arg)).noting told) where
  reply := fun s => grant arg s.1
  given := by
    intro s op reply granted
    refine ⟨grant_given granted,?_⟩
    cases op with
    | copyFromUser kind source =>
      obtain ⟨value,holds,rfl⟩ := Option.map_eq_some_iff.mp granted
      exact fun _ _ => copied_reads holds
    | _ => trivial

def MOST_CALLS : Nat := 40

-- A call of the driver that ends by itself, with nothing in between.
def ran {α : Type} (program : Driver α) (s : Driven) : Option (α × Driven) :=
  (grants.advance MOST_CALLS program s).1.result.map fun value => (value,(grants.advance MOST_CALLS program s).2)

-- A call that waits for the engine at most once.
def ranAmid {machine : Machine kernel KernelState} (answers : Answers (machine.noting told)) (program : Driver Int) (s : Driven) :
    Option (Int × Driven) :=
  let waits := answers.advance MOST_CALLS program s
  let ends := answers.advance MOST_CALLS waits.1 (drained waits.2)
  ends.1.result.map fun rc => (rc,ends.2)

section
variable {s : Driven}

theorem ran_exec {α : Type} {program : Driver α} {result : α × Driven} (ended : ran program s = some result) :
    Exec (kernelMachine.noting told) program s (.returned result.1) result.2 := by
  obtain ⟨value,returned,rfl⟩ := Option.map_eq_some_iff.mp ended
  exact grants.exec (Prog.result_ret returned)

theorem ranAmid_called {machine : Machine kernel KernelState} {answers : Answers (machine.noting told)} {program : Driver Int}
    {result : Int × Driven} (ended : ranAmid answers program s = some result) : Called machine program s result.1 result.2 := by
  obtain ⟨rc,returned,rfl⟩ := Option.map_eq_some_iff.mp ended
  exact answers.amid (ExecAmid.moves (drained_works _) (Exec.amid (answers.exec (Prog.result_ret returned))))

end

-- A client has its own addresses from here on.
def placed (s : Driven) : UserAddr := BitVec.ofNat 64 (0x10000000*(s.1.regions.length+1))

def areaFor (client : Task) (s : Driven) (length : SizeT) : VmAreaStruct := ⟨client,placed s,placed s+pageAlign length⟩

def Unused (s : Driven) (length : SizeT) (area : VmAreaStruct) : Prop :=
  area.vmStart < area.vmEnd ∧ area.vmEnd-area.vmStart = pageAlign length ∧ ∀ vma ∈ s.1.vmas, overlaps vma.area area = false

instance (s : Driven) (length : SizeT) (area : VmAreaStruct) : Decidable (Unused s length area) :=
  inferInstanceAs (Decidable (_ ∧ _ ∧ _))

-- held is what the client finds in its memory. There is no dma-buf to register.
def granting (client : Task) (held : UserAddr → BitPacking.Buffer) (s : Driven) : (op : ProgramCall) → Option (op.Reply × Driven)
  | .mmap _ length =>
    if Unused s length (areaFor client s length) then
      (ran (axidmaMmap ⟨client,0,0⟩ (areaFor client s length)) s).map fun result =>
        (if result.1 = 0 then some (placed s) else none,result.2)
    else none
  | .munmap addr length =>
    if addr < addr+pageAlign length then
      (ran (closeAll (removed (range client addr length) s.1.vmas)) (s.1.split (range client addr length),s.2)).map fun result =>
        ((0 : Int),result.2)
    else none
  | .registerBuffer _ _ => some ((-EINVAL : Int),s)
  | .unregisterBuffer _ _ => some ((-ENOTTY : Int),s)
  | .library (.ioctl _ cmd arg) => ranAmid (grantsHolding 0 arg) (axidmaIoctl s.1.dev ⟨client,0,0⟩ cmd 0) s
  | .library (.setDmaSignal _ signal) =>
    ranAmid grants (axidmaIoctl s.1.dev ⟨client,0,0⟩ AXIDMA_SET_DMA_SIGNAL (BitVec.ofInt 64 signal)) s
  | .library (.getNumDmaChannels _) =>
    (ranAmid grants (axidmaIoctl s.1.dev ⟨client,0,0⟩ AXIDMA_GET_NUM_DMA_CHANNELS 0) s).map fun result =>
      ((result.1,axidmaGetNumChannels s.1.dev),result.2)
  | .library (.getDmaChannels _ numChannels) =>
    if sized : (axidmaGetChannelInfo s.1.dev).length = numChannels then
      (ranAmid grants (axidmaIoctl s.1.dev ⟨client,0,0⟩ AXIDMA_GET_DMA_CHANNELS 0) s).map fun result =>
        ((result.1,⟨axidmaGetChannelInfo s.1.dev,sized⟩),result.2)
    else none
  | .library .openDevice => some ((3 : Int),s)
  | .library (.malloc _ _) => some (true,s)
  | .library (.free _) => some ((),s)
  | .library (.sigaction _) => some ((0 : Int),s)
  | .library (.close _) => some ((0 : Int),s)
  | .library .uninitialisedFrame => some ((⟨0,0,0⟩ : AxidmaVideoFrame),s)
  | .library .uninitialisedChan => some ((⟨.read,.vdma,0,"",0⟩ : AxidmaChan),s)
  | .library (.invokeCallback _ _ _) => some ((),s)
  | .openPath _ truncate => some ((if truncate then 5 else 4 : Int),s)
  | .fstat _ => some (((0 : Int),0x1000),s)
  | .robustRead _ _ bufSize => some ((bufSize.toInt,[.count bufSize.toInt.toNat]),s)
  | .robustWrite _ _ bufSize => some ((bufSize.toInt,[.count bufSize.toInt.toNat]),s)
  | .readImage _ _ imageByteSize => some ((imageByteSize.toInt,[.count imageByteSize.toInt.toNat]),s)
  | .load addr _ => some (held addr,s)
  | .store _ _ _ => some ((),s)
  | .malloc _ => some (some 0x5000,s)
  | .pthreadCreate => some ((0 : Int),s)

theorem granting_serves {client : Task} {held : UserAddr → BitPacking.Buffer} {s : Driven} {op : ProgramCall} {result : op.Reply × Driven}
    (granted : granting client held s op = some result) : serves client s op result.1 result.2 := by
  cases op with
  | mmap fd length =>
    simp only [granting] at granted
    split at granted
    · rename_i free
      obtain ⟨⟨rc,after⟩,ended,rfl⟩ := Option.map_eq_some_iff.mp granted
      exact .inr ⟨areaFor client s length,rc,0,0,rfl,free.1,free.2.1,free.2.2,(ran_exec ended).amid,rfl⟩
    · cases granted
  | munmap addr length =>
    simp only [granting] at granted
    split at granted
    · rename_i nonempty
      obtain ⟨⟨none,after⟩,ended,rfl⟩ := Option.map_eq_some_iff.mp granted
      exact .inr ⟨rfl,nonempty,(ran_exec ended).amid⟩
    · cases granted
  | registerBuffer fd extBuf =>
    cases granted
    exact .inl ⟨show (-EINVAL : Int) < 0 by decide,rfl⟩
  | unregisterBuffer fd userAddr =>
    cases granted
    exact .inl ⟨show (-ENOTTY : Int) < 0 by decide,rfl⟩
  | library op =>
    cases op with
    | ioctl fd cmd arg => exact .inr ⟨0,0,0,ranAmid_called granted⟩
    | setDmaSignal fd signal => exact .inr ⟨0,0,ranAmid_called granted⟩
    | getNumDmaChannels fd =>
      simp only [granting] at granted
      obtain ⟨⟨rc,after⟩,ended,rfl⟩ := Option.map_eq_some_iff.mp granted
      exact .inr ⟨⟨0,0,0,ranAmid_called ended⟩,fun _ => rfl⟩
    | getDmaChannels fd count =>
      simp only [granting] at granted
      split at granted
      · obtain ⟨⟨rc,after⟩,ended,rfl⟩ := Option.map_eq_some_iff.mp granted
        exact .inr ⟨⟨0,0,0,ranAmid_called ended⟩,fun _ => rfl⟩
      · cases granted
    | _ =>
      cases granted
      rfl
  | openPath path truncate =>
    cases granted
    rfl
  | fstat fd =>
    cases granted
    rfl
  | robustRead fd buf size =>
    cases granted
    rfl
  | robustWrite fd buf size =>
    cases granted
    rfl
  | readImage fd buf size =>
    cases granted
    rfl
  | load addr size =>
    cases granted
    rfl
  | store addr size contents =>
    cases granted
    rfl
  | malloc size =>
    cases granted
    rfl
  | pthreadCreate =>
    cases granted
    rfl

def granted (client : Task) (held : UserAddr → BitPacking.Buffer) : Serves (driverServer client) where
  serve := granting client held
  served := fun s _ _ granted => ⟨s,.refl,granting_serves granted⟩

end Axidma.GrantingKernel
