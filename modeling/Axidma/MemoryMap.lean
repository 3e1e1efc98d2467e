import Mathlib.Data.List.Perm.Basic
import Axidma.CharDevice
import Axidma.KernelState

namespace Axidma
open Interaction

def overlaps (first second : VmAreaStruct) : Bool :=
  decide (first.vmMm = second.vmMm) && decide (first.vmStart < second.vmEnd) &&
    decide (second.vmStart < first.vmEnd)

def within (inner outer : VmAreaStruct) : Bool :=
  decide (outer.vmStart ≤ inner.vmStart) && decide (inner.vmEnd ≤ outer.vmEnd)

-- What munmap of a range leaves of a VMA. The pieces keep vm_ops and
-- vm_private_data; axidma_vm_ops has no open, so nothing is called for them.
def Vma.pieces (range : VmAreaStruct) (vma : Vma) : List Vma :=
  if overlaps vma.area range then
    (if vma.area.vmStart < range.vmStart then [{vma with area := {vma.area with vmEnd := range.vmStart}}] else [])++
    (if range.vmEnd < vma.area.vmEnd then [{vma with area := {vma.area with vmStart := range.vmEnd}}] else [])
  else [vma]

def removed (range : VmAreaStruct) (vmas : List Vma) : List Vma := vmas.filter fun vma => overlaps vma.area range

def KernelState.split (s : KernelState) (range : VmAreaStruct) : KernelState :=
  {s with vmas := s.vmas.flatMap (Vma.pieces range)}

def closeAll : List Vma → Driver Unit
  | [] => return ()
  | vma :: rest => do
    axidmaVmaClose vma.privateData
    closeAll rest

def KernelState.place (s : KernelState) (area : VmAreaStruct) (alloc : AxidmaDmaAllocation) : KernelState :=
  {s with
    heap := alloc.node :: s.heap
    regions := alloc.kernAddr :: s.regions
    mapped := alloc.kernAddr :: s.mapped
    vmas := ⟨area,alloc⟩ :: s.vmas
    dev := {s.dev with dmabufList := alloc :: s.dev.dmabufList}}

def KernelState.close (s : KernelState) (alloc : AxidmaDmaAllocation) : KernelState :=
  {s with
    heap := s.heap.erase alloc.node
    freed := alloc.kernAddr :: s.freed
    dev := {s.dev with dmabufList := s.dev.dmabufList.filter fun entry => decide (entry.node ≠ alloc.node)}}

-- The ways out of axidma_mmap: nothing kept, the region given back, and the
-- mapping in place.
inductive MmapEnds (s : KernelState) (caller : Caller) (area : VmAreaStruct) : Outcome Fault Int → KernelState → Prop where
  | refused : MmapEnds s caller area (.returned (-ENOMEM)) s
  | undone {rc : Int} {region : Nat} (failed : rc < 0) (new : region ∉ s.regions) :
      MmapEnds s caller area (.returned rc) {s with regions := region :: s.regions, freed := region :: s.freed}
  | placed {alloc : AxidmaDmaAllocation} (start : alloc.userAddr = area.vmStart)
      (size : alloc.size = area.vmEnd-area.vmStart) (session : alloc.session = caller.session)
      (node : alloc.node ∉ s.heap) (new : alloc.kernAddr ∉ s.regions) :
      MmapEnds s caller area (.returned 0) (s.place area alloc)

theorem mmap_ends {s : KernelState} {caller : Caller} {area : VmAreaStruct} :
    Ensures kernelMachine (MmapEnds s caller area) (axidmaMmap caller area) s := by
  unfold axidmaMmap
  intro node fresh
  cases node with
  | none => exact .refused
  | some node =>
    have back : {s with heap := (node :: s.heap).erase node} = s := by rw [List.erase_cons_head]
    intro _ _ region new
    cases region with
    | none =>
      intro _ _
      show MmapEnds s caller area _ {s with heap := (node :: s.heap).erase node}
      rw [back]
      exact .refused
    | some region =>
      intro rc _
      refine ensures_if (fun failed => ?_) fun _ => ?_
      · intro _ _ _ _
        show MmapEnds s caller area _ {s with
          heap := (node :: s.heap).erase node, regions := region.1 :: s.regions, freed := region.1 :: s.freed}
        rw [List.erase_cons_head]
        exact .undone failed (new region rfl)
      · intro _ _ _ _
        exact .placed rfl rfl rfl (fresh.2 node rfl) (new region rfl)

theorem close_ends {s : KernelState} {alloc : AxidmaDmaAllocation} :
    Ensures kernelMachine (fun outcome after => outcome = .returned () ∧ after = s.close alloc) (axidmaVmaClose alloc) s := by
  intro _ _ _ _ _ _
  exact ⟨rfl,rfl⟩

inductive MemoryAction where
  | mmap (caller : Caller) (area : VmAreaStruct)
  | munmap (range : VmAreaStruct)

-- The kernel places a new mapping where its address space is free.
inductive MemoryStep : KernelState → MemoryAction → KernelState → Prop where
  | mmap {s after : KernelState} {caller : Caller} {area : VmAreaStruct} {rc : Int}
      (nonempty : area.vmStart < area.vmEnd) (free : ∀ vma ∈ s.vmas, overlaps vma.area area = false)
      (executed : Exec kernelMachine (axidmaMmap caller area) s (.returned rc) after) :
      MemoryStep s (.mmap caller area) after
  | munmap {s after : KernelState} {range : VmAreaStruct}
      (executed : Exec kernelMachine (closeAll (removed range s.vmas)) (s.split range) (.returned ()) after) :
      MemoryStep s (.munmap range) after

-- A munmap that splits nothing: what it touches it removes whole.
def Whole (s : KernelState) : MemoryAction → Prop
  | .mmap _ _ => True
  | .munmap range => ∀ vma ∈ s.vmas, overlaps vma.area range = true → within vma.area range = true

theorem split_whole {s : KernelState} {range : VmAreaStruct} (whole : Whole s (.munmap range)) :
    (s.split range).vmas = s.vmas.filter fun vma => !overlaps vma.area range := by
  have flat : ∀ vmas : List Vma, (∀ vma ∈ vmas, overlaps vma.area range = true → within vma.area range = true) →
      vmas.flatMap (Vma.pieces range) = vmas.filter fun vma => !overlaps vma.area range := by
    intro vmas
    induction vmas with
    | nil => intro _; rfl
    | cons vma rest ih =>
      intro whole
      have tail := ih fun other member => whole other (List.mem_cons_of_mem _ member)
      rw [List.flatMap_cons,tail,List.filter_cons]
      cases touched : overlaps vma.area range with
      | false => simp [Vma.pieces,touched]
      | true =>
        have inside := whole vma List.mem_cons_self touched
        simp only [within,Bool.and_eq_true,decide_eq_true_eq] at inside
        simp [Vma.pieces,touched,BitVec.not_lt.mpr inside.1,BitVec.not_lt.mpr inside.2]
  exact flat s.vmas whole

end Axidma
