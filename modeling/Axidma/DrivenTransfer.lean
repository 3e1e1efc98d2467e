import Axidma.FileTransfer
import Axidma.ServedTransfers
import Axidma.GrantingKernel

namespace Axidma.DrivenTransfer
open Interaction WordRange
open BitPacking ClientPrograms DmaHeap DriverServer ServedTransfers FileTransfer

-- The parts of a transfer that went through: two buffers of its own, each as long as
-- its part, a descriptor from the start of each, and the end was waited for.
structure Moved (channels : List AxidmaChan) (trans : DmaTransfer) (live : List (Window 64)) (log after : List Told)
    (input output : Window 64) (tx rx : AxidmaChan × Prepared) : Prop where
  inputSize : input.size = pageAlign (trans.inputSize.signExtend 64)
  outputSize : output.size = pageAlign (trans.outputSize.signExtend 64)
  apart : (output :: input :: live).Pairwise Window.Apart
  paired : Paired channels trans.inputChannel trans.outputChannel input output (trans.inputSize.signExtend 64)
    (trans.outputSize.signExtend 64) none none tx rx
  told : after = log++pairTold tx rx

-- A transfer that the arguments ask for.
structure Chosen (args : Arguments) (trans : DmaTransfer) : Prop where
  channels : args.inputChannel ≠ -1 ∨ args.outputChannel ≠ -1 →
    trans.inputChannel = args.inputChannel ∧ trans.outputChannel = args.outputChannel
  size : args.outputSize ≠ -1 → trans.outputSize = args.outputSize

inductive TransferHeap (channels : List AxidmaChan) (trans : DmaTransfer) (t : Heap) : Outcome Abort Int → Option Heap → Prop where
  | returned {rc : Int} {after : Heap} (unmapped : after.live.Perm t.live)
      (moved : ¬ rc < 0 → ∃ input output tx rx, Moved channels trans t.live t.log after.log input output tx rx) :
      TransferHeap channels trans t (.returned rc) (some after)
  | aborted {error : Abort} {after : Option Heap} : TransferHeap channels trans t (.faulted error) after

inductive MainHeap (channels : List AxidmaChan) (options : List GivenOption) (operands : List Path) (t : Heap) :
    Outcome Abort Int → Option Heap → Prop where
  | returned {rc : Int} {after : Heap} (unmapped : after.live.Perm t.live)
      (moved : rc = 0 → ∃ args trans input output tx rx, parseArgs options operands = .ok args ∧ Chosen args trans ∧
        Moved channels trans t.live t.log after.log input output tx rx) :
      MainHeap channels options operands t (.returned rc) (some after)
  | aborted {error : Abort} {after : Option Heap} : MainHeap channels options operands t (.faulted error) after

section
variable {channels : List AxidmaChan} {t : Heap} {dev : AxidmaDev} {trans : DmaTransfer} {post : Outcome Abort Int → Option Heap → Prop}
  {rc : Int} {inputFd outputFd : Int} {args : Arguments}

theorem freeInput_then {input : Window 64} {others : List (Window 64)} (aborted : ∀ error after, post (.faulted error) after)
    (owned : t.live.Perm (input :: others)) (sized : input.size = pageAlign (trans.inputSize.signExtend 64))
    (done : ∀ smaller : Heap, smaller.live.Perm others → smaller.log = t.log → post (.returned rc) (some smaller)) :
    Promises (heapServer channels) post (freeInputBuf trans input.start rc) (some t) := unmap_then aborted owned sized done

theorem freeOutput_then {input output : Window 64} {others : List (Window 64)} (aborted : ∀ error after, post (.faulted error) after)
    (owned : t.live.Perm (output :: input :: others)) (sized : input.size = pageAlign (trans.inputSize.signExtend 64))
    (sized' : output.size = pageAlign (trans.outputSize.signExtend 64))
    (done : ∀ smaller : Heap, smaller.live.Perm others → smaller.log = t.log → post (.returned rc) (some smaller)) :
    Promises (heapServer channels) post (freeOutputBuf trans input.start output.start rc) (some t) := by
  refine unmap_then aborted owned sized' fun smaller owned log => ?_
  refine freeInput_then aborted owned sized fun last owned later => ?_
  exact done last owned (later.trans log)

theorem transferFile_heap : Promises (heapServer channels) (TransferHeap channels trans t) (transferFile dev trans) (some t) := by
  have aborted : ∀ error after, TransferHeap channels trans t (.faulted error) after := fun _ _ => .aborted
  have failing : ∀ {rc : Int} {after : Heap}, rc < 0 → after.live.Perm t.live → TransferHeap channels trans t (.returned rc) (some after) :=
    fun failed unmapped => .returned unmapped fun fine => absurd failed fine
  unfold transferFile
  refine map_then (failing (by decide) (.refl _)) fun input t1 sized1 live1 log1 => ?_
  have owned1 : t1.live.Perm (input :: t.live) := live1 ▸ .refl _
  refine aside_then (pcall_aside trivial) aborted fun reply _ => ?_
  refine promises_if (fun failed => ?_) fun _ => ?_
  · refine unmap_then aborted owned1 sized1 fun t2 owned2 _ => ?_
    exact failing failed owned2
  refine map_then ?_ fun output t2 sized2 live2 log2 => ?_
  · exact freeInput_then aborted owned1 sized1 fun t2 owned2 _ => failing (by decide) owned2
  have both : t2.live = output :: input :: t.live := by rw [live2,live1]
  have owned2 : t2.live.Perm (output :: input :: t.live) := both ▸ .refl _
  have member1 : input ∈ t2.live := by simp [both]
  have member2 : output ∈ t2.live := by simp [both]
  refine twoway_then aborted (fun _ => ⟨whole_proper member1 sized1,whole_proper member2 sized2⟩) fun rc told transfers => ?_
  refine promises_if (fun failed => ?_) fun fine => ?_
  · exact freeOutput_then aborted owned2 sized1 sized2 fun last owned _ => failing failed owned
  obtain ⟨tx,rx,paired,rfl⟩ := carried_paired member1 member2 sized1 sized2 transfers fine
  refine aside_then (pcall_aside trivial) aborted fun written _ => ?_
  refine freeOutput_then aborted owned2 sized1 sized2 fun last owned log => ?_
  refine .returned owned fun _ => ⟨input,output,tx,rx,sized1,sized2,both ▸ t2.apart,paired,?_⟩
  rw [log]
  show t2.log++pairTold tx rx = _
  rw [log2,log1]

theorem close_aside {fd : Int} : Does Aside (fun _ => True) (closeAsserted fd) := by
  unfold closeAsserted
  exact ⟨trivial,fun _ _ => does_if (fun _ => trivial) fun _ => trivial⟩

theorem closeInput_aside : Does Aside (Returns rc) (closeInput inputFd rc) :=
  does_bind close_aside (fun _ _ => returns_self rc) fun error _ => returns_fault error

theorem closeOutput_aside : Does Aside (Returns rc) (closeOutput inputFd outputFd rc) :=
  does_bind close_aside (fun _ _ => closeInput_aside) fun error _ => returns_fault error

theorem destroyAxidma_aside : Does Aside (Returns rc) (destroyAxidma dev inputFd outputFd rc) :=
  does_bind (elsewhere_aside destroy_elsewhere) (fun _ _ => closeOutput_aside) fun error _ => returns_fault error

-- How the rest of the program ends that runs for these arguments.
inductive ArgsHeap (channels : List AxidmaChan) (args : Arguments) (t : Heap) : Outcome Abort Int → Option Heap → Prop where
  | returned {rc : Int} {after : Heap} (unmapped : after.live.Perm t.live)
      (moved : rc = 0 → ∃ trans input output tx rx, Chosen args trans ∧
        Moved channels trans t.live t.log after.log input output tx rx) : ArgsHeap channels args t (.returned rc) (some after)
  | aborted {error : Abort} {after : Option Heap} : ArgsHeap channels args t (.faulted error) after

theorem args_ends {p : Program Int} (does : Does Aside (Returns rc) p) (failed : rc ≠ 0) :
    Promises (heapServer channels) (ArgsHeap channels args t) p (some t) := by
  refine aside_ends does fun outcome returns => ?_
  cases outcome with
  | returned value =>
    obtain rfl := returns value rfl
    exact .returned (.refl _) fun zero => absurd zero failed
  | faulted error => exact .aborted

theorem withFiles_heap : Promises (heapServer channels) (ArgsHeap channels args t) (withFiles args inputFd outputFd) (some t) := by
  have aborted : ∀ error after, ArgsHeap channels args t (.faulted error) after := fun _ _ => .aborted
  unfold withFiles
  refine aside_then (elsewhere_aside init_elsewhere) aborted fun handle _ => ?_
  obtain ⟨initialised,dev⟩ := handle
  refine promises_if (fun _ => args_ends closeOutput_aside (by decide)) fun _ => ?_
  refine aside_then (pcall_aside trivial) aborted fun status _ => ?_
  refine promises_if (fun _ => args_ends destroyAxidma_aside (by decide)) fun _ => ?_
  refine promises_if (fun _ => args_ends destroyAxidma_aside (by decide)) fun _ => ?_
  refine promises_if (fun _ => args_ends destroyAxidma_aside (by decide)) fun _ => ?_
  refine aside_then choose_aside aborted fun chosen given => ?_
  obtain ⟨txChannel,rxChannel⟩ := chosen
  refine promises_bind (transferFile_heap.mono ?_)
  intro outcome after ends
  cases ends with
  | aborted => exact .aborted
  | @returned rc after unmapped moved =>
    refine aside_ends destroyAxidma_aside fun outcome returns => ?_
    cases outcome with
    | faulted error => exact .aborted
    | returned value =>
      obtain rfl := returns value rfl
      refine .returned unmapped fun zero => ?_
      have fine : ¬ rc < 0 := by
        intro negative
        rw [if_pos negative] at zero
        omega
      obtain ⟨input,output,tx,rx,moved⟩ := moved fine
      refine ⟨_,input,output,tx,rx,⟨fun some => ?_,fun some => ?_⟩,moved⟩
      · cases given _ rfl some
        exact ⟨rfl,rfl⟩
      · exact if_neg some

theorem main_heap {options : List GivenOption} {operands : List Path} :
    Promises (heapServer channels) (MainHeap channels options operands t) (main options operands) (some t) := by
  have aborted : ∀ error after, MainHeap channels options operands t (.faulted error) after := fun _ _ => .aborted
  have failing : ∀ {rc : Int}, rc ≠ 0 → MainHeap channels options operands t (.returned rc) (some t) :=
    fun failed => .returned (.refl _) fun zero => absurd zero failed
  unfold main
  cases parsed : parseArgs options operands with
  | error stop =>
    cases stop with
    | failed rc => exact failing (by decide)
    | help => exact .aborted
    | undefined => exact .aborted
  | ok args =>
    refine aside_then (pcall_aside trivial) aborted fun inputFd _ => promises_if (fun _ => failing (by decide)) fun _ => ?_
    refine aside_then (pcall_aside trivial) aborted fun outputFd _ => promises_if (fun _ => ?_) fun _ => ?_
    · refine aside_ends closeInput_aside fun outcome returns => ?_
      cases outcome with
      | returned value =>
        obtain rfl := returns value rfl
        exact failing (by decide)
      | faulted error => exact .aborted
    · refine withFiles_heap.mono fun outcome after ends => ?_
      cases ends with
      | aborted => exact .aborted
      | returned unmapped moved =>
        refine .returned unmapped fun zero => ?_
        obtain ⟨trans,input,output,tx,rx,chosen,moved⟩ := moved zero
        exact ⟨args,trans,input,output,tx,rx,parsed,chosen,moved⟩

-- What a run of the program leaves of a driver that had no buffers: none, and with the
-- status 0 a log of one transfer of two whole buffers.
structure Left (channels : List AxidmaChan) (options : List GivenOption) (operands : List Path) (rc : Int) (after : Driven) : Prop where
  unmapped : after.1.vmas = []
  unlisted : after.1.dev.dmabufList = []
  moved : rc = 0 → ∃ args trans input output tx rx, parseArgs options operands = .ok args ∧ Chosen args trans ∧
    Moved channels trans [] [] after.2 input output tx rx

theorem transfer_moves {client : Task} {options : List GivenOption} {operands : List Path} {after : Driven}
    (ran : ExecOn (driverServer client) (main options operands) (loadedDriver channels) (.returned rc) after) :
    Left channels options operands rc after := by
  have related : Related client channels (loadedDriver channels) (some noBuffers) := loaded_represents
  obtain ⟨last,related,ends⟩ := (driver_refines_heap client channels).promised related main_heap ran
  cases ends with
  | @returned _ heap unmapped moved =>
    obtain ⟨vmas,unlisted⟩ := Represents.emptied related unmapped
    refine ⟨vmas,unlisted,fun zero => ?_⟩
    obtain ⟨args,trans,input,output,tx,rx,parsed,chosen,moved⟩ := moved zero
    exact ⟨args,trans,input,output,tx,rx,parsed,chosen,related.log ▸ moved⟩

end

def afterPage : Driven := ((GrantingKernel.granted 7 fun _ _ => 0).advance 60 (main [] [inPath,outPath]) (loadedDriver plainChannels)).2

theorem page_moved : Left plainChannels [] [inPath,outPath] 0 afterPage :=
  transfer_moves ((GrantingKernel.granted 7 fun _ _ => 0).exec (by decide +kernel))

end Axidma.DrivenTransfer
