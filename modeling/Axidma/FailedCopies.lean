import Mathlib.Data.Fintype.EquivFin
import Axidma.Registration
import Axidma.TransferCalls

namespace Axidma.FailedCopies
open Interaction

-- access_ok judges nothing but the range, and takes none that is not the user's.
structure AccessOk where
  accepts : Bool → UserAddr → Nat → Bool
  user : ∀ writable addr size, accepts writable addr size = true → addr.toNat+size ≤ 2^63

def AccessOk.Judges (access : AccessOk) : (op : KernelCall) → op.Reply → Prop
  | .accessOk writable addr size,reply => reply = access.accepts writable addr size
  | _,_ => True

def accessing (access : AccessOk) : Machine kernel KernelState where
  gives := fun s op reply => s.gives op reply ∧ access.Judges op reply
  perform := KernelState.perform

def FailedCopy : Event kernel → Prop
  | ⟨.copyFromUser _ _,copied⟩ => copied.1 ≠ 0
  | ⟨.copyToUser _ _,left⟩ => left ≠ (0 : Nat)
  | ⟨.readUserPointer _,user⟩ => user = none
  | _ => False

def Releases (event : Event kernel) : Prop := ∃ ptr, event = ⟨.kfree ptr,()⟩

-- After a failed copy the call does nothing but free memory and return, so no
-- handler gets to run, and the kernel holds what it held before the call.
def StopsAtFailure (s : KernelState) (outcome : Outcome Fault Int) (after : KernelState × List (Event kernel)) : Prop :=
  ∀ earlier failed later, after.2 = earlier++failed :: later → FailedCopy failed →
    outcome = .returned (-EFAULT) ∧ after.1 = s ∧ ∀ event ∈ later, Releases event

def HasNoEffect (access : AccessOk) (s : KernelState) (cmd : CInt) (arg : UserAddr) : Prop :=
  ∀ caller outcome after, Exec (accessing access).recorded (axidmaIoctl s.dev caller cmd arg) (s,[]) outcome after →
    StopsAtFailure s outcome after

-- No copy has failed so far.
def Clean (past : List (Event kernel)) : Prop := ∀ event ∈ past, ¬ FailedCopy event

def NoCopy (op : KernelCall) : Prop := ∀ reply, ¬ FailedCopy ⟨op,reply⟩

section
variable {access : AccessOk} {s : KernelState} {past later : List (Event kernel)} {event : Event kernel} {outcome : Outcome Fault Int}
  {after : KernelState × List (Event kernel)}

theorem Clean.append (clean : Clean past) (added : ∀ event ∈ later, ¬ FailedCopy event) : Clean (past++later) := by
  intro event member
  rcases List.mem_append.mp member with early | late
  · exact clean event early
  · exact added event late

theorem Clean.snoc (clean : Clean past) (passed : ¬ FailedCopy event) : Clean (past++[event]) := by
  apply clean.append
  intro other member
  rw [List.mem_singleton.mp member]
  exact passed

theorem Releases.passed (releases : Releases event) : ¬ FailedCopy event := by
  obtain ⟨ptr,rfl⟩ := releases
  exact id

theorem Clean.stops (clean : Clean after.2) : StopsAtFailure s outcome after := by
  intro earlier failed later split bad
  exact absurd bad (clean failed (by simp [split]))

theorem refused_stops (clean : Clean past) (releases : ∀ event ∈ later, Releases event) :
    StopsAtFailure s (.returned (-EFAULT)) (s,past++event :: later) := by
  intro earlier failed rest split bad
  refine ⟨rfl,rfl,?_⟩
  rcases List.append_eq_append_iff.mp split with ⟨middle,_,behind⟩ | ⟨middle,front,_⟩
  · cases middle with
    | nil =>
      cases behind
      exact releases
    | cons first middle =>
      have member : failed ∈ later := by
        rw [List.cons_append] at behind
        simp [(List.cons.inj behind).2]
      exact absurd bad (releases failed member).passed
  · cases middle with
    | nil =>
      rename_i behind
      cases behind
      exact releases
    | cons first middle =>
      rename_i behind
      rw [List.cons_append] at behind
      obtain ⟨rfl,_⟩ := List.cons.inj behind
      exact absurd bad (clean failed (by simp [front]))

-- A handler copies nothing, so running it after clean copies is harmless here.
theorem handler_stops {t : KernelState} {p : Driver Int} (clean : Clean past) (does : Does NoCopy (fun _ => True) p) :
    Ensures (accessing access).recorded (StopsAtFailure s) p (t,past) := by
  have legal : ∀ s op reply, (accessing access).gives s op reply → op.Legal reply := fun _ _ _ given => gives_legal given.1
  refine (does.recorded legal).mono ?_
  intro outcome after ends
  obtain ⟨_,new,added,all⟩ := ends
  apply Clean.stops
  rw [added]
  exact clean.append fun event member => all event member event.2

theorem fetch_stops {kind : UserStruct} {arg : UserAddr} {next : kind.Value → Driver Int} (clean : Clean past)
    (continues : ∀ value past, Clean past → Ensures (accessing access).recorded (StopsAtFailure s) (next value) (s,past)) :
    Ensures (accessing access).recorded (StopsAtFailure s) (fetch kind arg next) (s,past) := by
  intro copied _
  refine ensures_if (fun _ => ?_) fun whole => ?_
  · exact refused_stops clean (by simp)
  · exact continues copied.2 _ (clean.snoc (not_not.mpr (not_not.mp whole)))

theorem copy_out_stops {arg : UserAddr} {data : UserData} (clean : Clean past) :
    Ensures (accessing access).recorded (StopsAtFailure s) (do
      let left : Nat ← kcall (.copyToUser arg data)
      return if left ≠ 0 then -EFAULT else 0) (s,past) := by
  intro left _
  show StopsAtFailure s (.returned (if left ≠ (0 : Nat) then -EFAULT else 0)) _
  split
  · exact refused_stops clean (by simp)
  · rename_i whole
    apply Clean.stops
    apply clean.snoc
    exact whole

end

section
variable {access : AccessOk} {s : KernelState} {past : List (Event kernel)} {dev : AxidmaDevice} {caller : Caller}

theorem request_copies {request : Request} : Does NoCopy (fun _ => True) (request.program dev caller) := by
  refine request_calls.mono (fun op call => ?_) fun _ => id
  have transfers := requestCall_transfers call
  intro reply failed
  cases op with
  | copyFromUser kind addr => exact transfers
  | copyToUser addr data => exact transfers
  | readUserPointer addr => exact transfers
  | _ => exact failed

theorem register_copies {extBuf : AxidmaRegisterBuffer} : Does NoCopy (fun _ => True) (axidmaGetExternal caller extBuf) := by
  refine register_calls.mono (fun op registers => ?_) fun _ => id
  intro reply failed
  cases op with
  | copyFromUser kind addr => exact registers
  | copyToUser addr data => exact registers
  | readUserPointer addr => exact registers
  | _ => exact failed

theorem unregister_copies {userAddr : UserAddr} : Does NoCopy (fun _ => True) (axidmaPutExternal dev userAddr) := by
  unfold axidmaPutExternal
  cases dev.externalDmabufs.find? _ with
  | none => trivial
  | some dmaAlloc =>
    refine ⟨fun _ => id,fun _ _ => ⟨fun _ => id,fun _ _ => ?_⟩⟩
    exact ⟨fun _ => id,fun _ _ => ⟨fun _ => id,fun _ _ => trivial⟩⟩

theorem signal_copies {signal : Int} : Does NoCopy (fun _ => True) (axidmaSetSignal signal) := by
  unfold axidmaSetSignal
  exact does_if (fun _ => trivial) fun _ => ⟨fun _ => id,fun _ _ => trivial⟩

-- The commands that go on after a failed copy, or read the user's memory without one.
def Unchecked (cmd : CInt) : Prop :=
  cmd = AXIDMA_STOP_DMA_CHANNEL ∨ cmd = AXIDMA_DMA_VIDEO_READ ∨ cmd = AXIDMA_DMA_VIDEO_WRITE

theorem command_stops {cmd : CInt} {arg : UserAddr} (other : ¬ Unchecked cmd) (clean : Clean past) :
    Ensures (accessing access).recorded (StopsAtFailure s) (ioctlCommand dev caller cmd arg) (s,past) := by
  unfold ioctlCommand
  refine ensures_if (fun _ => copy_out_stops clean) fun _ => ?_
  refine ensures_if (fun _ => fetch_stops clean fun _ _ clean => copy_out_stops clean) fun _ => ?_
  refine ensures_if (fun _ => handler_stops clean signal_copies) fun _ => ?_
  refine ensures_if (fun _ => fetch_stops clean fun _ _ clean => handler_stops clean register_copies) fun _ => ?_
  refine ensures_if (fun _ => fetch_stops clean fun transaction _ clean => ?_) fun _ => ?_
  · have runs : Does NoCopy (fun _ => True) (Request.program dev caller (.read transaction)) := request_copies
    exact handler_stops clean runs
  refine ensures_if (fun _ => fetch_stops clean fun transaction _ clean => ?_) fun _ => ?_
  · have runs : Does NoCopy (fun _ => True) (Request.program dev caller (.write transaction)) := request_copies
    exact handler_stops clean runs
  refine ensures_if (fun _ => fetch_stops clean fun transaction _ clean => ?_) fun _ => ?_
  · have runs : Does NoCopy (fun _ => True) (Request.program dev caller (.readwrite transaction)) := request_copies
    exact handler_stops clean runs
  refine ensures_if (fun reads => absurd (.inr (.inl reads)) other) fun _ => ?_
  refine ensures_if (fun writes => absurd (.inr (.inr writes)) other) fun _ => ?_
  refine ensures_if (fun stop => absurd (.inl stop) other) fun _ => ?_
  refine ensures_if (fun _ => handler_stops clean unregister_copies) fun _ => ?_
  exact clean.stops

theorem access_stops {arg : UserAddr} {size : Nat} {readonly : Bool} {next : Bool → Driver Int} (clean : Clean past)
    (continues : ∀ accessible past, Clean past → Ensures (accessing access).recorded (StopsAtFailure s) (next accessible) (s,past)) :
    Ensures (accessing access).recorded (StopsAtFailure s) (axidmaAccessOk arg size readonly >>= next) (s,past) := by
  cases readonly with
  | false =>
    intro writable _
    have asked : Clean (past++[⟨.accessOk true arg size,writable⟩]) := clean.snoc id
    cases writable with
    | false => exact continues false _ asked
    | true => exact fun readable _ => continues readable _ (asked.snoc id)
  | true => exact fun readable _ => continues readable _ (clean.snoc id)

theorem ioctl_stops {cmd : CInt} {arg : UserAddr} (other : ¬ Unchecked cmd) :
    Ensures (accessing access).recorded (StopsAtFailure s) (axidmaIoctl dev caller cmd arg) (s,[]) := by
  have clean : Clean [] := fun _ member => absurd member List.not_mem_nil
  have continues : ∀ (accessible : Bool) past, Clean past → Ensures (accessing access).recorded (StopsAtFailure s)
      (if !accessible then return -EFAULT else ioctlCommand dev caller cmd arg) (s,past) := by
    intro accessible past clean
    exact ensures_if (fun _ => clean.stops) fun _ => command_stops other clean
  unfold axidmaIoctl
  refine ensures_if (fun _ => clean.stops) fun _ => ?_
  refine ensures_if (fun _ => clean.stops) fun _ => ?_
  split
  · exact access_stops clean continues
  · split
    · exact access_stops clean continues
    · exact continues true [] clean

-- Each of the three checks its argument both ways, with the size of 32 bytes.
theorem refused_inaccessible {cmd : CInt} {arg : UserAddr} (unchecked : Unchecked cmd)
    (refused : access.accepts true arg 32 = false ∨ access.accepts false arg 32 = false) :
    Ensures (accessing access).recorded (StopsAtFailure s) (axidmaIoctl dev caller cmd arg) (s,[]) := by
  have clean : Clean [] := fun _ member => absurd member List.not_mem_nil
  have size : IOC_SIZE cmd = 32 := by rcases unchecked with rfl | rfl | rfl <;> decide
  have ends : ∀ (accessible : Bool) past, accessible = false → Clean past → Ensures (accessing access).recorded (StopsAtFailure s)
      (if !accessible then return -EFAULT else ioctlCommand dev caller cmd arg) (s,past) := by
    intro accessible past no clean
    exact ensures_if (fun _ => clean.stops) fun passed => absurd no (by simpa using passed)
  have checks : Ensures (accessing access).recorded (StopsAtFailure s) (axidmaAccessOk arg 32 false >>= fun accessible =>
      if !accessible then return -EFAULT else ioctlCommand dev caller cmd arg) (s,[]) := by
    intro writable judged
    have asked : Clean [⟨.accessOk true arg 32,writable⟩] := clean.snoc id
    cases writable with
    | false => exact ends false _ rfl asked
    | true =>
      intro readable judgedToo
      have accepted : true = access.accepts true arg 32 := judged.2
      have same : readable = access.accepts false arg 32 := judgedToo.2
      rw [← accepted,← same] at refused
      exact ends readable _ (by simpa using refused) (asked.snoc id)
  rcases unchecked with rfl | rfl | rfl <;> exact checks

def checked (arg : UserAddr) : List (Event kernel) := [⟨.accessOk true arg 32,true⟩,⟨.accessOk false arg 32,true⟩]

-- The argument is the user's, and the command gets to it.
structure Accessible (access : AccessOk) (arg : UserAddr) : Prop where
  written : access.accepts true arg 32 = true
  read : access.accepts false arg 32 = true

theorem Accessible.gets_to {outcome : Outcome Fault Int} {cmd : CInt} {arg : UserAddr}
    {after : KernelState × List (Event kernel)} (accessible : Accessible access arg) (unchecked : Unchecked cmd)
    (executed : Exec (accessing access).recorded (ioctlCommand s.dev ⟨0,0,0⟩ cmd arg) (s,checked arg) outcome after) :
    Exec (accessing access).recorded (axidmaIoctl s.dev ⟨0,0,0⟩ cmd arg) (s,[]) outcome after := by
  have written : (accessing access).gives s (.accessOk true arg 32) true :=
    ⟨fun _ => access.user _ _ _ accessible.written,accessible.written.symm⟩
  have read : (accessing access).gives s (.accessOk false arg 32) true :=
    ⟨fun _ => access.user _ _ _ accessible.read,accessible.read.symm⟩
  rcases unchecked with rfl | rfl | rfl <;> exact ⟨true,written,true,read,executed⟩

-- The copy fails, and the stop goes on with whatever is in the structure.
theorem stop_goes_on {arg : UserAddr} {chanInfo : AxidmaChan} {outcome : Outcome Fault Int} {final : KernelState}
    {later : List (Event kernel)} (accessible : Accessible access arg) (quiet : HasNoEffect access s AXIDMA_STOP_DMA_CHANNEL arg)
    (executed : Exec (accessing access).recorded (axidmaStopChannel s.dev chanInfo)
      (s,checked arg++[⟨.copyFromUser .chan arg,(1,chanInfo)⟩])
      outcome (final,checked arg++⟨.copyFromUser .chan arg,(1,chanInfo)⟩ :: later)) :
    outcome = .returned (-EFAULT) := by
  have path : Exec (accessing access).recorded (ioctlCommand s.dev ⟨0,0,0⟩ AXIDMA_STOP_DMA_CHANNEL arg) (s,checked arg) outcome
      (final,checked arg++⟨.copyFromUser .chan arg,(1,chanInfo)⟩ :: later) := ⟨(1,chanInfo),⟨trivial,trivial⟩,executed⟩
  have failed : FailedCopy ⟨.copyFromUser .chan arg,(1,chanInfo)⟩ := Nat.one_ne_zero
  exact (quiet _ _ _ (accessible.gets_to (.inl rfl) path) _ _ later rfl failed).1

theorem stop_has_effect {arg : UserAddr} (accessible : Accessible access arg) :
    ¬ HasNoEffect access s AXIDMA_STOP_DMA_CHANNEL arg := by
  intro quiet
  let chanInfo : AxidmaChan := ⟨.write,.dma,0,"",0⟩
  let past : List (Event kernel) := checked arg++[⟨.copyFromUser .chan arg,(1,chanInfo)⟩]
  cases found : axidmaGetChan s.dev 0 with
  | none =>
    have missing : Exec (accessing access).recorded (axidmaStopChannel s.dev chanInfo) (s,past) (.faulted .nullPointer) (s,past) := by
      unfold axidmaStopChannel
      simp only [channel_test,chanInfo,found]
      exact ⟨rfl,rfl⟩
    cases stop_goes_on accessible quiet missing
  | some chan =>
    have stopped : Exec (accessing access).recorded (axidmaStopChannel s.dev chanInfo) (s,past) (.returned 0)
        (s.perform (.dmaengineTerminateAll chan.chan) (0 : Int),past++[⟨.dmaengineTerminateAll chan.chan,(0 : Int)⟩]) := by
      unfold axidmaStopChannel
      simp only [channel_test,chanInfo,found]
      exact ⟨(0 : Int),⟨trivial,trivial⟩,rfl,rfl⟩
    cases stop_goes_on accessible quiet stopped

def noFrames : UserVideoTransaction := ⟨0,0,0,⟨0,0,0⟩⟩

-- The page goes after the first copy, and the pointer in it is read without one.
theorem video_faults {arg : UserAddr} {dir : AxidmaDir} {past : List (Event kernel)} :
    ∃ frameBuffers, Exec (accessing access).recorded (ioctlVideo s.dev ⟨0,0,0⟩ arg dir) (s,past) (.faulted .badAddress)
      ({s with heap := frameBuffers :: s.heap},past++[⟨.copyFromUser .videoTransaction arg,(0,noFrames)⟩]++
        [⟨.kmalloc 0,some frameBuffers⟩]++[⟨.readUserPointer arg,none⟩]) := by
  obtain ⟨frameBuffers,fresh⟩ := Infinite.exists_notMem_finset s.heap.toFinset
  refine ⟨frameBuffers,(0,noFrames),⟨trivial,trivial⟩,some frameBuffers,⟨⟨fun _ => by decide,?_⟩,trivial⟩,
    none,⟨trivial,trivial⟩,rfl,rfl⟩
  intro ptr same
  cases same
  exact fun member => fresh (List.mem_toFinset.mpr member)

theorem video_has_effect {arg : UserAddr} {cmd : CInt} (accessible : Accessible access arg)
    (video : cmd = AXIDMA_DMA_VIDEO_READ ∨ cmd = AXIDMA_DMA_VIDEO_WRITE) : ¬ HasNoEffect access s cmd arg := by
  intro quiet
  have failed : FailedCopy ⟨.readUserPointer arg,none⟩ := rfl
  rcases video with rfl | rfl
  · obtain ⟨frameBuffers,faults⟩ := @video_faults access s arg .read (checked arg)
    cases (quiet _ _ _ (accessible.gets_to (.inr (.inl rfl)) faults) _ _ [] rfl failed).1
  · obtain ⟨frameBuffers,faults⟩ := @video_faults access s arg .write (checked arg)
    cases (quiet _ _ _ (accessible.gets_to (.inr (.inr rfl)) faults) _ _ [] rfl failed).1

theorem has_no_effect_iff {cmd : CInt} {arg : UserAddr} : HasNoEffect access s cmd arg ↔
    ¬ Unchecked cmd ∨ access.accepts true arg 32 = false ∨ access.accepts false arg 32 = false := by
  constructor
  · intro quiet
    by_contra misses
    simp only [not_or,not_not,Bool.not_eq_false] at misses
    obtain ⟨unchecked,written,read⟩ := misses
    rcases unchecked with rfl | video
    · exact stop_has_effect ⟨written,read⟩ quiet
    · exact video_has_effect ⟨written,read⟩ video quiet
  · intro refused caller
    by_cases unchecked : Unchecked cmd
    · exact ensures_iff.mp (refused_inaccessible unchecked (refused.resolve_left (not_not.mpr unchecked)))
    · exact ensures_iff.mp (ioctl_stops unchecked)

end

-- Two channels with the ids 0 and 1, and nothing mapped or running.
def idle : KernelState := .loaded (loadedDevice [⟨.write,.dma,0,"tx_channel",0⟩,⟨.read,.dma,1,"rx_channel",1⟩])

-- The user has the addresses below this bound.
def below (bound : Nat) (low : bound ≤ 2^63) : AccessOk where
  accepts := fun _ addr size => decide (addr.toNat+size ≤ bound)
  user := fun _ _ _ accepted => le_trans (of_decide_eq_true accepted) low

theorem stop_not_refused : ¬ HasNoEffect (below (2^47) (by decide)) idle AXIDMA_STOP_DMA_CHANNEL 0x7f0000001000 :=
  stop_has_effect ⟨by decide,by decide⟩

end Axidma.FailedCopies
