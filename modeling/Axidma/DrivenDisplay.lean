import Axidma.DisplayImage
import Axidma.ServedTransfers
import Axidma.GrantingKernel

namespace Axidma.DrivenDisplay
open Interaction WordRange
open ClientPrograms DmaHeap DriverServer ServedTransfers DisplayImage

def requestOf (frameBuffers : UserAddr) (args : Arguments) (txChannel : CInt) : UserVideoTransaction :=
  ⟨txChannel,1,frameBuffers,⟨args.imageHeight,args.imageWidth,4⟩⟩

-- What the engine is told. Status 0 comes with the end of a display, which need not
-- have begun.
inductive Tells (channels : List AxidmaChan) (frameBuffers : UserAddr) (args : Arguments) : Int → List Told → Prop where
  | nothing {rc : Int} (failed : rc ≠ 0) : Tells channels frameBuffers args rc []
  | begun {rc : Int} {txChannel : CInt} {told : List Told} (failed : rc ≠ 0) (given : args.txChannel ≠ -1 → txChannel = args.txChannel)
      (displays : Displays channels (requestOf frameBuffers args txChannel) .write 0 told) : Tells channels frameBuffers args rc told
  | ended {rc : Int} {txChannel : CInt} {told : List Told} {chan : AxidmaChan} (given : args.txChannel ≠ -1 → txChannel = args.txChannel)
      (displays : Displays channels (requestOf frameBuffers args txChannel) .write 0 told) (member : chan ∈ channels) :
      Tells channels frameBuffers args rc (told++[.terminated chan.chan])

-- The buffer may stay where the kernel refuses to take it back.
def Leaves (args : Arguments) (live after : List (Window 64)) : Prop :=
  after.Perm live ∨ ∃ win : Window 64, win.size = pageAlign (args.imageByteSize.signExtend 64) ∧ after.Perm (win :: live)

inductive ArgsHeap (channels : List AxidmaChan) (frameBuffers : UserAddr) (args : Arguments) (t : Heap) :
    Outcome Abort Int → Option Heap → Prop where
  | returned {rc : Int} {after : Heap} {told : List Told} (leaves : Leaves args t.live after.live)
      (tells : Tells channels frameBuffers args rc told) (log : after.log = t.log++told) :
      ArgsHeap channels frameBuffers args t (.returned rc) (some after)
  | aborted {error : Abort} {after : Option Heap} : ArgsHeap channels frameBuffers args t (.faulted error) after

inductive MainHeap (channels : List AxidmaChan) (frameBuffers : UserAddr) (options : List GivenOption) (operands : List Path) (t : Heap) :
    Outcome Abort Int → Option Heap → Prop where
  | refused : MainHeap channels frameBuffers options operands t (.returned 1) (some t)
  | ran {args : Arguments} {outcome : Outcome Abort Int} {after : Option Heap} (parsed : parseArgs options operands = .ok args)
      (ends : ArgsHeap channels frameBuffers args t outcome after) : MainHeap channels frameBuffers options operands t outcome after
  | aborted {error : Abort} {after : Option Heap} : MainHeap channels frameBuffers options operands t (.faulted error) after

section
variable {channels : List AxidmaChan} {frameBuffers : UserAddr} {args : Arguments} {t origin : Heap} {axidmaFd imageFd rc : Int}

theorem find_elsewhere : Does Elsewhere (fun _ => True) (findDmaChannel axidmaFd) := by
  unfold findDmaChannel
  refine ⟨trivial,fun _ _ => does_if (fun _ => trivial) fun _ => does_if (fun _ => trivial) fun _ => ?_⟩
  refine ⟨trivial,fun _ _ => does_if (fun _ => trivial) fun _ => ⟨trivial,fun table _ => does_if (fun _ => ?_) fun _ => ?_⟩⟩
  · exact ⟨trivial,fun _ _ => trivial⟩
  · cases table.2.1.find? fun chan => decide (chan.dir = .write ∧ chan.type = .dma) with
    | some found => exact ⟨trivial,fun _ _ => ⟨trivial,fun _ _ => trivial⟩⟩
    | none => exact ⟨trivial,fun _ _ => trivial⟩

theorem closeImage_aside : Does Aside (Returns rc) (closeImage imageFd rc) := ⟨trivial,fun _ _ => returns_self rc⟩

theorem closeAxidma_aside : Does Aside (Returns rc) (closeAxidma axidmaFd imageFd rc) :=
  ⟨trivial,fun _ _ => ⟨trivial,fun _ _ => returns_self rc⟩⟩

theorem closed_ends {p : Program Int} {told : List Told} (does : Does Aside (Returns rc) p) (leaves : Leaves args origin.live t.live)
    (tells : Tells channels frameBuffers args rc told) (log : t.log = origin.log++told) :
    Promises (heapServer channels) (ArgsHeap channels frameBuffers args origin) p (some t) := by
  refine aside_ends does fun outcome returns => ?_
  cases outcome with
  | faulted error => exact .aborted
  | returned value =>
    obtain rfl := returns value rfl
    exact .returned leaves tells log

theorem freeImageBuf_heap {win : Window 64} {told : List Told} (live : t.live = win :: origin.live)
    (sized : win.size = pageAlign (args.imageByteSize.signExtend 64)) (tells : Tells channels frameBuffers args rc told)
    (log : t.log = origin.log++told) :
    Promises (heapServer channels) (ArgsHeap channels frameBuffers args origin)
      (freeImageBuf win.start args.imageByteSize axidmaFd imageFd rc) (some t) := by
  refine unmap_either (.of_eq live) sized fun unmapped after left same => ?_
  refine closed_ends closeAxidma_aside ?_ tells (same.trans log)
  rcases left with freed | kept
  · exact .inl freed
  · exact .inr ⟨win,sized,.of_eq (kept.trans live)⟩

theorem withBuffer_heap {txChannel : CInt} {win : Window 64} (given : args.txChannel ≠ -1 → txChannel = args.txChannel)
    (live : t.live = win :: origin.live) (sized : win.size = pageAlign (args.imageByteSize.signExtend 64)) (log : t.log = origin.log) :
    Promises (heapServer channels) (ArgsHeap channels frameBuffers args origin)
      (withBuffer frameBuffers args txChannel win.start axidmaFd imageFd) (some t) := by
  have aborted : ∀ error after, ArgsHeap channels frameBuffers args origin (.faulted error) after := fun _ _ => .aborted
  have none : t.log = origin.log++[] := log.trans (List.append_nil _).symm
  unfold withBuffer
  refine aside_then (pcall_aside trivial) aborted fun status _ => ?_
  refine promises_if (fun _ => freeImageBuf_heap live sized (.nothing (by decide)) none) fun _ => ?_
  refine promises_if (fun _ => freeImageBuf_heap live sized (.nothing (by decide)) none) fun _ => ?_
  refine aside_then (pcall_aside trivial) aborted fun read _ => ?_
  refine promises_if (fun _ => freeImageBuf_heap live sized (.nothing (by decide)) none) fun _ => ?_
  refine display_then rfl rfl fun rc told displays => ?_
  refine promises_if (fun failed => ?_) fun fine => ?_
  · cases displays with
    | refused _ => exact freeImageBuf_heap live sized (.nothing (by decide)) ((List.append_nil _).trans none)
    | nothing => exact absurd failed (by decide)
    | stopped found => exact absurd failed (by decide)
    | begun found frames => exact absurd failed (by decide)
  · obtain rfl : rc = 0 := by
      cases displays with
      | refused failed => exact absurd failed fine
      | nothing => rfl
      | stopped found => rfl
      | begun found frames => rfl
    refine aside_then (elsewhere_aside ⟨trivial,fun _ _ => trivial⟩) aborted fun garbage _ => ?_
    refine stop_then (fun rc failed => ?_) fun rc chan member => ?_
    · refine promises_if (fun _ => ?_) fun fine => absurd failed fine
      exact freeImageBuf_heap live sized (.begun (by decide) given displays) (congrArg (·++told) log)
    · have told' : (t.log++told)++[.terminated chan.chan] = origin.log++(told++[.terminated chan.chan]) := by
        rw [log,List.append_assoc]
      refine promises_if (fun _ => ?_) fun _ => ?_
      · exact freeImageBuf_heap live sized (.ended given displays member) told'
      · exact freeImageBuf_heap live sized (.ended given displays member) told'

theorem withChannel_heap {txChannel : CInt} (given : args.txChannel ≠ -1 → txChannel = args.txChannel) :
    Promises (heapServer channels) (ArgsHeap channels frameBuffers args t)
      (withChannel frameBuffers args txChannel axidmaFd imageFd) (some t) := by
  unfold withChannel
  intro reply after allowed
  rcases allowed with ⟨rfl,rfl⟩ | ⟨win,larger,rfl,sized,rfl,live,_,log⟩
  · refine aside_then (p := pcall (.store frameBuffers POINTER_SIZE _)) (pcall_aside trivial) (fun _ _ => .aborted) fun _ _ => ?_
    exact closed_ends closeAxidma_aside (.inl (.refl _)) (.nothing (by decide)) (List.append_nil _).symm
  · refine aside_then (p := pcall (.store frameBuffers POINTER_SIZE _)) (pcall_aside trivial) (fun _ _ => .aborted) fun _ _ => ?_
    exact withBuffer_heap given live sized log

theorem main_heap {options : List GivenOption} {operands : List Path} :
    Promises (heapServer channels) (MainHeap channels frameBuffers options operands t) (main frameBuffers options operands) (some t) := by
  have aborted : ∀ error after, MainHeap channels frameBuffers options operands t (.faulted error) after := fun _ _ => .aborted
  unfold main
  cases parsed : parseArgs options operands with
  | error stop =>
    cases stop with
    | failed rc => exact .refused
    | help => exact .aborted
    | undefined => exact .aborted
  | ok args =>
    have closing : ∀ {imageFd rc : Int}, rc ≠ 0 →
        Promises (heapServer channels) (MainHeap channels frameBuffers options operands t) (closeImage imageFd rc) (some t) :=
      fun failed => (closed_ends closeImage_aside (.inl (.refl _)) (.nothing failed) (List.append_nil _).symm).mono
        fun _ _ ends => .ran parsed ends
    refine aside_then (pcall_aside trivial) aborted fun imageFd _ => promises_if (fun _ => .refused) fun _ => ?_
    refine aside_then (elsewhere_aside ⟨trivial,fun _ _ => trivial⟩) aborted fun axidmaFd _ => ?_
    refine promises_if (fun _ => closing (by decide)) fun _ => promises_if (fun search => ?_) fun _ => ?_
    · refine aside_then (elsewhere_aside find_elsewhere) aborted fun txChannel _ => ?_
      refine promises_if (fun failed => closing (by omega)) fun _ => ?_
      exact (withChannel_heap fun other => absurd search other).mono fun _ _ ends => .ran parsed ends
    · exact (withChannel_heap fun _ => rfl).mono fun _ _ ends => .ran parsed ends

-- What a run leaves of a driver that had no buffers, and what the engine has heard.
structure Left (channels : List AxidmaChan) (frameBuffers : UserAddr) (options : List GivenOption) (operands : List Path) (rc : Int)
    (after : Driven) : Prop where
  buffers : after.1.dev.dmabufList = [] ∨ ∃ args alloc, parseArgs options operands = .ok args ∧
    alloc.size = pageAlign (args.imageByteSize.signExtend 64) ∧ after.1.dev.dmabufList = [alloc]
  told : (rc = 1 ∧ after.2 = []) ∨ ∃ args, parseArgs options operands = .ok args ∧ Tells channels frameBuffers args rc after.2

theorem display_tells {client : Task} {options : List GivenOption} {operands : List Path} {after : Driven}
    (ran : ExecOn (driverServer client) (main frameBuffers options operands) (loadedDriver channels) (.returned rc) after) :
    Left channels frameBuffers options operands rc after := by
  have related : Related client channels (loadedDriver channels) (some noBuffers) := loaded_represents
  obtain ⟨last,related,ends⟩ := (driver_refines_heap client channels).promised related main_heap ran
  cases ends with
  | refused => exact ⟨.inl (related.emptied (.refl _)).2,.inl ⟨rfl,related.log.symm⟩⟩
  | @ran args _ _ parsed ends =>
    cases ends with
    | @returned _ heap told leaves tells log =>
      refine ⟨?_,.inr ⟨args,parsed,related.log ▸ log ▸ tells⟩⟩
      rcases leaves with none | ⟨win,sized,one⟩
      · exact .inl (related.emptied none).2
      · have listed : after.1.dev.dmabufList.map Translation.ofDmabuf = [win] := related.live.symm.trans one.eq_singleton
        obtain ⟨alloc,only,rfl⟩ := List.map_eq_singleton_iff.mp listed
        exact .inr ⟨args,alloc,parsed,sized,only⟩

end

def afterImage : Driven := ((GrantingKernel.granted 7 fun _ _ => 0).advance 60 (main 0x7ffc0 twoPixels [imagePath]) (loadedDriver plainChannels)).2

theorem two_pixels_told : Left plainChannels 0x7ffc0 twoPixels [imagePath] 0 afterImage :=
  display_tells ((GrantingKernel.granted 7 fun _ _ => 0).exec (by decide +kernel))

end Axidma.DrivenDisplay
