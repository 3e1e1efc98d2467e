import Axidma.Benchmark
import Axidma.ServedTransfers
import Axidma.GrantingKernel

namespace Axidma.DrivenBenchmark
open Interaction WordRange
open BitPacking ClientPrograms DmaHeap DriverServer ServedTransfers Benchmark

-- What the engine was told in one transfer of the benchmark.
abbrev Pass := (AxidmaChan × Prepared) × (AxidmaChan × Prepared)

def passesTold (passes : List Pass) : List Told := passes.flatMap fun pass => pairTold pass.1 pass.2

-- The sizes are ints where they are handed on to the transfers.
structure Fits (args : Arguments) : Prop where
  tx : args.txSize.toNat < 2^31
  rx : args.rxSize.toNat < 2^31

structure Chosen (args : Arguments) (txChannel rxChannel : CInt) : Prop where
  channels : args.txChannel ≠ -1 ∨ args.rxChannel ≠ -1 → (txChannel,rxChannel) = (args.txChannel,args.rxChannel)

-- One transfer for the check and one for each that is timed, all of the same two buffers.
structure Repeated (channels : List AxidmaChan) (args : Arguments) (live : List (Window 64)) (log after : List Told)
    (txChannel rxChannel : CInt) (input output : Window 64) (passes : List Pass) : Prop where
  inputSize : input.size = pageAlign args.txSize
  outputSize : output.size = pageAlign args.rxSize
  apart : (output :: input :: live).Pairwise Window.Apart
  chosen : Chosen args txChannel rxChannel
  count : passes.length = args.numTransfers.toInt.toNat+1
  paired : ∀ pass ∈ passes, Paired channels txChannel rxChannel input output args.txSize args.rxSize
    (if args.useVdma then some args.txFrame else none) (if args.useVdma then some args.rxFrame else none) pass.1 pass.2
  told : after = log++passesTold passes

inductive PassesHeap (channels : List AxidmaChan) (txChannel rxChannel : CInt) (input output : Window 64) (txLen rxLen : SizeT)
    (txFrame rxFrame : Option AxidmaVideoFrame) (count : Nat) (t : Heap) : Outcome Abort Int → Option Heap → Prop where
  | returned {rc : Int} {after : Heap} (live : after.live = t.live)
      (passes : ¬ rc < 0 → ∃ passes : List Pass, passes.length = count ∧
        (∀ pass ∈ passes, Paired channels txChannel rxChannel input output txLen rxLen txFrame rxFrame pass.1 pass.2) ∧
        after.log = t.log++passesTold passes) :
      PassesHeap channels txChannel rxChannel input output txLen rxLen txFrame rxFrame count t (.returned rc) (some after)
  | aborted {error : Abort} {after : Option Heap} :
      PassesHeap channels txChannel rxChannel input output txLen rxLen txFrame rxFrame count t (.faulted error) after

inductive MainHeap (channels : List AxidmaChan) (garbage : Bool × Bool) (options : List GivenOption) (t : Heap) :
    Outcome Abort Int → Option Heap → Prop where
  | returned {rc : Int} {after : Heap} (unmapped : after.live.Perm t.live)
      (moved : rc = 0 → ∃ args txChannel rxChannel input output passes, parseArgs garbage options = .ok args ∧
        Repeated channels args t.live t.log after.log txChannel rxChannel input output passes) :
      MainHeap channels garbage options t (.returned rc) (some after)
  | aborted {error : Abort} {after : Option Heap} : MainHeap channels garbage options t (.faulted error) after

section
variable {channels : List AxidmaChan} {signed : Bool} {dev : AxidmaDev} {t : Heap} {txChannel rxChannel : CInt}
  {txFrame rxFrame : Option AxidmaVideoFrame} {input output : Window 64}

section
variable {txSize rxSize : CInt} (sending : input ∈ t.live) (receiving : output ∈ t.live)
  (sized : input.size = pageAlign (txSize.signExtend 64)) (sized' : output.size = pageAlign (rxSize.signExtend 64))

include sending receiving sized sized'

theorem singleTransferTest_heap :
    Promises (heapServer channels)
      (PassesHeap channels txChannel rxChannel input output (txSize.signExtend 64) (rxSize.signExtend 64) txFrame rxFrame 1 t)
      (singleTransferTest signed dev txChannel input.start txSize txFrame rxChannel output.start rxSize rxFrame) (some t) := by
  have aborted : ∀ error after, PassesHeap channels txChannel rxChannel input output (txSize.signExtend 64)
      (rxSize.signExtend 64) txFrame rxFrame 1 t (.faulted error) after := fun _ _ => .aborted
  unfold singleTransferTest
  refine aside_then (pcall_aside trivial) aborted fun txBefore _ => ?_
  refine aside_then (pcall_aside trivial) aborted fun rxBefore _ => ?_
  refine aside_then (pcall_aside trivial) aborted fun _ _ => ?_
  refine aside_then (pcall_aside trivial) aborted fun _ _ => ?_
  refine twoway_then aborted (fun _ => ⟨whole_proper sending sized,whole_proper receiving sized'⟩) fun rc told transfers => ?_
  refine promises_if (fun failed => .returned rfl fun fine => absurd failed fine) fun fine => ?_
  obtain ⟨tx,rx,paired,rfl⟩ := carried_paired sending receiving sized sized' transfers fine
  refine aside_then (pcall_aside trivial) aborted fun txAfter _ => ?_
  refine aside_then (pcall_aside trivial) aborted fun rxAfter _ => ?_
  refine .returned rfl fun _ => ⟨[(tx,rx)],rfl,?_,?_⟩
  · intro pass member
    rw [List.mem_singleton.mp member]
    exact paired
  · exact congrArg (t.log++·) (List.append_nil _).symm

-- Each transfer adds its part to the log, until one fails.
theorem timeDma_heap {count : Nat} :
    Promises (heapServer channels)
      (PassesHeap channels txChannel rxChannel input output (txSize.signExtend 64) (rxSize.signExtend 64) txFrame rxFrame count t)
      (timeDma dev txChannel input.start txSize txFrame rxChannel output.start rxSize rxFrame count) (some t) := by
  induction count generalizing t with
  | zero => exact .returned rfl fun _ => ⟨[],rfl,fun _ none => absurd none List.not_mem_nil,(List.append_nil _).symm⟩
  | succ count ih =>
    rw [timeDma]
    refine twoway_then (fun _ _ => .aborted) (fun _ => ⟨whole_proper sending sized,whole_proper receiving sized'⟩) fun rc told transfers => ?_
    refine promises_if (fun failed => .returned rfl fun fine => absurd failed fine) fun fine => ?_
    obtain ⟨tx,rx,paired,rfl⟩ := carried_paired sending receiving sized sized' transfers fine
    refine (@ih (t.tell (pairTold tx rx)) sending receiving).mono fun outcome after ends => ?_
    cases ends with
    | aborted => exact .aborted
    | returned live passes =>
      refine .returned live fun fine => ?_
      obtain ⟨passes,length,all,log⟩ := passes fine
      refine ⟨(tx,rx) :: passes,congrArg (·+1) length,?_,?_⟩
      · intro pass member
        rcases List.mem_cons.mp member with rfl | later
        · exact paired
        · exact all pass later
      · rw [log]
        exact List.append_assoc ..

end

section
variable {args : Arguments} {rc : Int} {post : Outcome Abort Int → Option Heap → Prop}

theorem destroyAxidma_heap (aborted : ∀ error after, post (.faulted error) after) (done : post (.returned rc) (some t)) :
    Promises (heapServer channels) post (destroyAxidma dev rc) (some t) :=
  aside_then (elsewhere_aside destroy_elsewhere) aborted fun _ _ => done

theorem freeTxBuf_heap {others : List (Window 64)} (aborted : ∀ error after, post (.faulted error) after)
    (owned : t.live.Perm (input :: others)) (sized : input.size = pageAlign args.txSize)
    (done : ∀ smaller : Heap, smaller.live.Perm others → smaller.log = t.log → post (.returned rc) (some smaller)) :
    Promises (heapServer channels) post (freeTxBuf dev input.start args.txSize rc) (some t) :=
  unmap_then aborted owned sized fun smaller owned log => destroyAxidma_heap aborted (done smaller owned log)

theorem freeRxBuf_heap {others : List (Window 64)} (aborted : ∀ error after, post (.faulted error) after)
    (owned : t.live.Perm (output :: input :: others)) (sized : input.size = pageAlign args.txSize)
    (sized' : output.size = pageAlign args.rxSize)
    (done : ∀ smaller : Heap, smaller.live.Perm others → smaller.log = t.log → post (.returned rc) (some smaller)) :
    Promises (heapServer channels) post (freeRxBuf dev input.start args.txSize output.start args.rxSize rc) (some t) := by
  refine unmap_then aborted owned sized' fun smaller owned log => ?_
  exact freeTxBuf_heap aborted owned sized fun last owned later => done last owned (later.trans log)

theorem withBuffers_heap {garbage : Bool × Bool} {options : List GivenOption} {origin : Heap}
    (parsed : parseArgs garbage options = .ok args) (fits : Fits args) (live : t.live = output :: input :: origin.live)
    (log : t.log = origin.log) (sized : input.size = pageAlign args.txSize) (sized' : output.size = pageAlign args.rxSize) :
    Promises (heapServer channels) (MainHeap channels garbage options origin)
      (withBuffers signed dev args input.start output.start) (some t) := by
  have aborted : ∀ error after, MainHeap channels garbage options origin (.faulted error) after := fun _ _ => .aborted
  have freed : ∀ (rc : Int) (t : Heap), t.live = output :: input :: origin.live →
      (rc = 0 → ∃ txChannel rxChannel passes, Repeated channels args origin.live origin.log t.log txChannel rxChannel input output passes) →
      Promises (heapServer channels) (MainHeap channels garbage options origin)
        (freeRxBuf dev input.start args.txSize output.start args.rxSize rc) (some t) := by
    intro rc t live moved
    refine freeRxBuf_heap aborted (.of_eq live) sized sized' fun last owned log => ?_
    refine .returned owned fun zero => ?_
    obtain ⟨txChannel,rxChannel,passes,repeated⟩ := moved zero
    exact ⟨args,txChannel,rxChannel,input,output,passes,parsed,log ▸ repeated⟩
  have sending : input ∈ t.live := by simp [live]
  have receiving : output ∈ t.live := by simp [live]
  have kept := int_kept fits.tx
  have kept' := int_kept fits.rx
  unfold withBuffers
  refine promises_if (fun _ => freed _ t live fun zero => absurd zero (by decide)) fun _ => ?_
  refine promises_if (fun _ => freed _ t live fun zero => absurd zero (by decide)) fun _ => ?_
  refine aside_then choose_aside aborted fun chosen given => ?_
  obtain ⟨txChannel,rxChannel⟩ := chosen
  refine promises_bind ((singleTransferTest_heap sending receiving (kept.symm ▸ sized) (kept'.symm ▸ sized')).mono ?_)
  intro outcome after ends
  cases ends with
  | aborted => exact .aborted
  | @returned rc first live1 passes1 =>
    have live1 : first.live = output :: input :: origin.live := live1.trans live
    refine promises_if (fun failed => freed rc first live1 fun zero => by omega) fun fine => ?_
    have sending : input ∈ first.live := by simp [live1]
    have receiving : output ∈ first.live := by simp [live1]
    refine promises_bind ((timeDma_heap sending receiving (kept.symm ▸ sized) (kept'.symm ▸ sized')).mono ?_)
    intro outcome after ends
    cases ends with
    | aborted => exact .aborted
    | @returned rc last live2 passes2 =>
      refine freed rc last (live2.trans live1) fun zero => ?_
      obtain ⟨early,one,all1,log1⟩ := passes1 fine
      obtain ⟨late,many,all2,log2⟩ := passes2 (by omega)
      rw [kept,kept'] at all1 all2
      refine ⟨txChannel,rxChannel,early++late,sized,sized',live ▸ t.apart,⟨given _ rfl⟩,?_,?_,?_⟩
      · rw [List.length_append,one,many,Nat.add_comm]
      · intro pass member
        rcases List.mem_append.mp member with before | after
        · exact all1 pass before
        · exact all2 pass after
      · rw [log2,log1,log,List.append_assoc]
        exact congrArg (origin.log++·) List.flatMap_append.symm

end

theorem main_heap {garbage : Bool × Bool} {options : List GivenOption} (fits : ∀ args, parseArgs garbage options = .ok args → Fits args) :
    Promises (heapServer channels) (MainHeap channels garbage options t) (main signed garbage options) (some t) := by
  have aborted : ∀ error after, MainHeap channels garbage options t (.faulted error) after := fun _ _ => .aborted
  have failing : ∀ {rc : Int} {after : Heap}, rc ≠ 0 → after.live.Perm t.live → MainHeap channels garbage options t (.returned rc) (some after) :=
    fun failed unmapped => .returned unmapped fun zero => absurd zero failed
  unfold main
  cases parsed : parseArgs garbage options with
  | error stop =>
    cases stop with
    | failed rc => exact failing (by decide) (.refl _)
    | help => exact .aborted
    | undefined => exact .aborted
  | ok args =>
    refine aside_then (elsewhere_aside init_elsewhere) aborted fun handle _ => ?_
    obtain ⟨initialised,dev⟩ := handle
    refine promises_if (fun _ => failing (by decide) (.refl _)) fun _ => ?_
    refine map_then (destroyAxidma_heap aborted (failing (by decide) (.refl _))) fun input t1 sized1 live1 log1 => ?_
    refine map_then ?_ fun output t2 sized2 live2 log2 => ?_
    · exact freeTxBuf_heap aborted (.of_eq live1) sized1 fun smaller owned _ => failing (by decide) owned
    · exact withBuffers_heap parsed (fits args parsed) (live2.trans (congrArg _ live1)) (log2.trans log1) sized1 sized2

-- What a run leaves of a driver that had no buffers.
structure Left (channels : List AxidmaChan) (garbage : Bool × Bool) (options : List GivenOption) (rc : Int) (after : Driven) : Prop where
  unmapped : after.1.vmas = []
  unlisted : after.1.dev.dmabufList = []
  moved : rc = 0 → ∃ args txChannel rxChannel input output passes, parseArgs garbage options = .ok args ∧
    Repeated channels args [] [] after.2 txChannel rxChannel input output passes

theorem benchmark_moves {client : Task} {garbage : Bool × Bool} {options : List GivenOption} {rc : Int} {after : Driven}
    (fits : ∀ args, parseArgs garbage options = .ok args → Fits args)
    (ran : ExecOn (driverServer client) (main signed garbage options) (loadedDriver channels) (.returned rc) after) :
    Left channels garbage options rc after := by
  have related : Related client channels (loadedDriver channels) (some noBuffers) := loaded_represents
  obtain ⟨last,related,ends⟩ := (driver_refines_heap client channels).promised related (main_heap fits) ran
  cases ends with
  | @returned _ heap unmapped moved =>
    obtain ⟨vmas,unlisted⟩ := Represents.emptied related unmapped
    refine ⟨vmas,unlisted,fun zero => ?_⟩
    obtain ⟨args,txChannel,rxChannel,input,output,passes,parsed,repeated⟩ := moved zero
    exact ⟨args,txChannel,rxChannel,input,output,passes,parsed,related.log ▸ repeated⟩

end

-- The test data is as it was sent, and zeros came back.
def held (addr : UserAddr) : Buffer := if addr = 0x10000000 then fun k => byteOf (BenchmarkCheck.txPattern (k/4)) (k%4) else fun _ => 0

def afterTwo : Driven := ((GrantingKernel.granted 7 held).advance 60 (main true (false,false) twoWords) (loadedDriver plainChannels)).2

theorem two_words_moved : Left plainChannels (false,false) twoWords 0 afterTwo := by
  refine benchmark_moves (fun args parsed => ?_) ((GrantingKernel.granted 7 held).exec (by decide +kernel))
  cases parsed
  exact ⟨by decide,by decide⟩

end Axidma.DrivenBenchmark
