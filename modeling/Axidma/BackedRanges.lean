import Mathlib.Data.List.Pairwise
import Axidma.MemoryMap
import Axidma.Registration
import Axidma.Transition

namespace Axidma.BackedRanges
open Interaction
open Transition
open WordRange

structure DeviceMemory where
  base : DmaAddr
  length : Nat
deriving DecidableEq

-- placed says whether the kernel can map the region, entry is the one scatter
-- entry that the dma-buf of the fd maps to, when it maps to one.
inductive RangeAction where
  | mmap (caller : Caller) (area : VmAreaStruct) (placed : Bool)
  | munmap (range : VmAreaStruct)
  | register (caller : Caller) (arg : UserAddr) (extBuf : AxidmaRegisterBuffer) (entry : Option DeviceMemory)

def RangeAction.placed : RangeAction → Bool
  | .mmap _ _ placed => placed
  | _ => false

def RangeAction.extBuf : RangeAction → Option AxidmaRegisterBuffer
  | .register _ _ extBuf _ => some extBuf
  | _ => none

def RangeAction.entry : RangeAction → Option DeviceMemory
  | .register _ _ _ entry => entry
  | _ => none

-- The kernel with the device memory it holds: coherent regions by kernAddr and
-- scatter entries by attachment.
structure Memory where
  kernel : KernelState
  coherent : Nat → Option DeviceMemory
  imported : Nat → Option DeviceMemory

section
variable (action : RangeAction)

def Memory.gives (t : Memory) : (op : KernelCall) → op.Reply → Prop
  | .dmaAllocCoherent _,reply => ∀ region, reply = some region → t.coherent region.1 = none
  | .dmaMmapCoherent _ _,rc => 0 ≤ rc → action.placed = true
  | .copyFromUser .registerBuffer _,copied => copied.1 = 0 → action.extBuf = some copied.2
  | .dmaBufMapAttachment _,reply => ∀ sgTable, reply = .ok sgTable → sgTable.nents = 1 →
      ∃ memory, action.entry = some memory ∧ memory.base = sgTable.dmaAddress
  | op,reply => t.kernel.gives op reply

def Memory.coherentAfter (t : Memory) : (op : KernelCall) → op.Reply → Nat → Option DeviceMemory
  | .dmaAllocCoherent size,some region => Function.update t.coherent region.1 (some ⟨region.2,size.toNat⟩)
  | .dmaFreeCoherent alloc,_ => Function.update t.coherent alloc.kernAddr none
  | _,_ => t.coherent

def Memory.importedAfter (t : Memory) : (op : KernelCall) → op.Reply → Nat → Option DeviceMemory
  | .dmaBufMapAttachment dmaAttach,.ok _ => Function.update t.imported dmaAttach action.entry
  | .dmaBufUnmapAttachment dmaAttach _,_ => Function.update t.imported dmaAttach none
  | _,_ => t.imported

def memoryMachine : Machine kernel Memory where
  gives := Memory.gives action
  perform t op reply := ⟨t.kernel.perform op reply,t.coherentAfter op reply,t.importedAfter action op reply⟩

end

def Clear (first second : VmAreaStruct) : Prop := first.vmEnd ≤ second.vmStart ∨ second.vmEnd ≤ first.vmStart

-- The kernel gives a new mapping a range apart from those of all live ones.
inductive RangeStep : Memory → RangeAction → Memory → Prop where
  | mmap {t after : Memory} {caller : Caller} {area : VmAreaStruct} {placed : Bool} {rc : Int}
      (nonempty : area.vmStart < area.vmEnd) (free : ∀ vma ∈ t.kernel.vmas, Clear area vma.area)
      (executed : Exec (memoryMachine (.mmap caller area placed)) (axidmaMmap caller area) t (.returned rc) after) :
      RangeStep t (.mmap caller area placed) after
  | munmap {t after : Memory} {range : VmAreaStruct} (forward : range.vmStart ≤ range.vmEnd)
      (executed : Exec (memoryMachine (.munmap range)) (closeAll (removed range t.kernel.vmas))
        {t with kernel := t.kernel.split range} (.returned ()) after) :
      RangeStep t (.munmap range) after
  | register {t after : Memory} {caller : Caller} {arg : UserAddr} {extBuf : AxidmaRegisterBuffer}
      {entry : Option DeviceMemory} {rc : Int}
      (executed : Exec (memoryMachine (.register caller arg extBuf entry))
        (axidmaIoctl t.kernel.dev caller AXIDMA_REGISTER_BUFFER arg) t (.returned rc) after) :
      RangeStep t (.register caller arg extBuf entry) after

def Backs (memory : Option DeviceMemory) (win : Window 64) : Prop :=
  ∃ found, memory = some found ∧ found.base = win.base ∧ win.size.toNat ≤ found.length

structure Backed (t : Memory) : Prop where
  dmabufList : ∀ alloc ∈ t.kernel.dev.dmabufList, Backs (t.coherent alloc.kernAddr) (Translation.ofDmabuf alloc)
  externalDmabufs : ∀ alloc ∈ t.kernel.dev.externalDmabufs,
    Backs (t.imported alloc.dmaAttach) (Translation.ofExternal alloc)
  apart : (Translation.windows t.kernel.dev).Pairwise Window.Apart

structure Loaded (t : Memory) : Prop where
  dmabufList : t.kernel.dev.dmabufList = []
  externalDmabufs : t.kernel.dev.externalDmabufs = []
  vmas : t.kernel.vmas = []

def span (area : VmAreaStruct) : Window 64 := ⟨area.vmStart,area.vmEnd-area.vmStart,0⟩

-- What the driver would have to check: a mapping is not placed over a registered
-- range, a registered range is apart from all others and no longer than the entry
-- behind it, and munmap meets no piece of a mapping that is already closed.
def Meets (t : Memory) : RangeAction → Prop
  | .mmap _ area placed => placed = true → ∀ alloc ∈ t.kernel.dev.externalDmabufs,
      Window.Apart (span area) (Translation.ofExternal alloc)
  | .munmap range => ∀ vma ∈ t.kernel.vmas, overlaps vma.area range = true →
      vma.privateData ∈ t.kernel.dev.dmabufList
  | .register _ _ extBuf entry => ∀ memory, entry = some memory → extBuf.size.toNat ≤ memory.length ∧
      ∀ win ∈ Translation.windows t.kernel.dev, Window.Apart ⟨extBuf.userAddr,extBuf.size,memory.base⟩ win

structure Piece (vma : Vma) : Prop where
  nonempty : vma.area.vmStart < vma.area.vmEnd
  starts : vma.privateData.userAddr ≤ vma.area.vmStart
  ends : vma.area.vmEnd.toNat ≤ vma.privateData.userAddr.toNat+vma.privateData.size.toNat

structure Entire (vma : Vma) : Prop where
  starts : vma.area.vmStart = vma.privateData.userAddr
  ends : vma.area.vmEnd.toNat = vma.privateData.userAddr.toNat+vma.privateData.size.toNat

-- What the lists, the VMAs and what they hold do not see may change.
structure Same (t after : Memory) : Prop where
  dev : after.kernel.dev = t.kernel.dev
  vmas : after.kernel.vmas = t.kernel.vmas
  heap : after.kernel.heap = t.kernel.heap
  attachments : after.kernel.attachments = t.kernel.attachments
  coherent : ∀ region, t.coherent region ≠ none → after.coherent region = t.coherent region
  imported : ∀ dmaAttach ∈ t.kernel.attachments, after.imported dmaAttach = t.imported dmaAttach

def Memory.mapped (t : Memory) (area : VmAreaStruct) (alloc : AxidmaDmaAllocation) : Memory where
  kernel := t.kernel.place area alloc
  coherent := Function.update t.coherent alloc.kernAddr (some ⟨alloc.dmaAddr,alloc.size.toNat⟩)
  imported := t.imported

def Memory.registered (t : Memory) (alloc : AxidmaExternalAllocation) (entry : Option DeviceMemory) : Memory where
  kernel := {t.kernel with
    heap := alloc.node :: t.kernel.heap
    references := alloc.dmaBuf :: t.kernel.references
    attachments := alloc.dmaAttach :: t.kernel.attachments
    mappings := alloc.dmaAttach :: t.kernel.mappings
    dev := {t.kernel.dev with externalDmabufs := alloc :: t.kernel.dev.externalDmabufs}}
  coherent := t.coherent
  imported := Function.update t.imported alloc.dmaAttach entry

inductive MmapLeaves (t : Memory) (area : VmAreaStruct) (placed : Bool) : Outcome Fault Int → Memory → Prop where
  | refused {rc : Int} {after : Memory} (failed : rc < 0) (same : Same t after) :
      MmapLeaves t area placed (.returned rc) after
  | mapped {alloc : AxidmaDmaAllocation} (granted : placed = true) (start : alloc.userAddr = area.vmStart)
      (size : alloc.size = area.vmEnd-area.vmStart) (node : alloc.node ∉ t.kernel.heap)
      (new : t.coherent alloc.kernAddr = none) : MmapLeaves t area placed (.returned 0) (t.mapped area alloc)

inductive RegisterLeaves (t : Memory) (extBuf : AxidmaRegisterBuffer) (entry : Option DeviceMemory) :
    Outcome Fault Int → Memory → Prop where
  | refused {rc : Int} {after : Memory} (failed : rc < 0) (same : Same t after) :
      RegisterLeaves t extBuf entry (.returned rc) after
  | registered {alloc : AxidmaExternalAllocation} {memory : DeviceMemory} (start : alloc.userAddr = extBuf.userAddr)
      (size : alloc.size = extBuf.size) (attach : alloc.dmaAttach ∉ t.kernel.attachments) (found : entry = some memory)
      (base : memory.base = alloc.sgTable.dmaAddress) :
      RegisterLeaves t extBuf entry (.returned 0) (t.registered alloc entry)

def Distinct (first second : AxidmaDmaAllocation) : Prop := first.node ≠ second.node ∧ first.kernAddr ≠ second.kernAddr

structure Held (t : Memory) : Prop where
  coherent : ∀ alloc ∈ t.kernel.dev.dmabufList, t.coherent alloc.kernAddr = some ⟨alloc.dmaAddr,alloc.size.toNat⟩
  imported : ∀ alloc ∈ t.kernel.dev.externalDmabufs, Backs (t.imported alloc.dmaAttach) (Translation.ofExternal alloc)
  attached : ∀ alloc ∈ t.kernel.dev.externalDmabufs, alloc.dmaAttach ∈ t.kernel.attachments
  live : ∀ alloc ∈ t.kernel.dev.dmabufList, alloc.node ∈ t.kernel.heap
  distinct : t.kernel.dev.dmabufList.Pairwise Distinct

-- Every record on the list has the VMA it was made with, still whole, or munmap
-- is closing that VMA.
structure Covered (closing : List Vma) (s : KernelState) : Prop where
  listed : ∀ vma ∈ closing, vma.privateData ∈ s.dev.dmabufList
  once : (closing.map (·.privateData)).Nodup
  entire : ∀ alloc ∈ s.dev.dmabufList, ∃ vma ∈ closing++s.vmas, vma.privateData = alloc ∧ Entire vma
  pieces : ∀ vma ∈ s.vmas, Piece vma
  clear : s.vmas.Pairwise fun first second => Clear first.area second.area

structure Founded (closing : List Vma) (t : Memory) : Prop where
  held : Held t
  covered : Covered closing t.kernel
  apart : (Translation.windows t.kernel.dev).Pairwise Window.Apart

section
variable {t after : Memory} {s : KernelState} {closing : List Vma} {action : RangeAction}

theorem Founded.backed (founded : Founded closing t) : Backed t := by
  refine ⟨?_,founded.held.imported,founded.apart⟩
  intro alloc member
  exact ⟨_,founded.held.coherent alloc member,rfl,Nat.le_refl _⟩

theorem Loaded.founded (loaded : Loaded t) : Founded [] t := by
  have windows : Translation.windows t.kernel.dev = [] := by
    simp [Translation.windows,loaded.dmabufList,loaded.externalDmabufs]
  constructor
  case held => constructor <;> simp [loaded.dmabufList,loaded.externalDmabufs]
  case covered => constructor <;> simp [loaded.dmabufList,loaded.vmas]
  case apart => simp [windows]

theorem Same.of_kernel (dev : s.dev = t.kernel.dev) (vmas : s.vmas = t.kernel.vmas) (heap : s.heap = t.kernel.heap)
    (attachments : s.attachments = t.kernel.attachments) : Same t ⟨s,t.coherent,t.imported⟩ where
  dev := dev
  vmas := vmas
  heap := heap
  attachments := attachments
  coherent _ _ := rfl
  imported _ _ := rfl

theorem Same.held (same : Same t after) (held : Held t) : Held after := by
  constructor
  case coherent =>
    rw [same.dev]
    intro alloc member
    have before := held.coherent alloc member
    have handedOut : t.coherent alloc.kernAddr ≠ none := by simp [before]
    rw [same.coherent _ handedOut]
    exact before
  case imported =>
    rw [same.dev]
    intro alloc member
    rw [same.imported _ (held.attached alloc member)]
    exact held.imported alloc member
  case attached =>
    rw [same.dev,same.attachments]
    exact held.attached
  case live =>
    rw [same.dev,same.heap]
    exact held.live
  case distinct =>
    rw [same.dev]
    exact held.distinct

theorem Same.covered (same : Same t after) (covered : Covered closing t.kernel) : Covered closing after.kernel := by
  constructor
  case listed =>
    rw [same.dev]
    exact covered.listed
  case once => exact covered.once
  case entire =>
    rw [same.dev,same.vmas]
    exact covered.entire
  case pieces =>
    rw [same.vmas]
    exact covered.pieces
  case clear =>
    rw [same.vmas]
    exact covered.clear

theorem Same.founded (same : Same t after) (founded : Founded closing t) : Founded closing after := by
  refine ⟨same.held founded.held,same.covered founded.covered,?_⟩
  rw [same.dev]
  exact founded.apart

instance : Std.Symm Distinct where
  symm _ _ distinct := ⟨distinct.1.symm,distinct.2.symm⟩

theorem close_left {gone alloc : AxidmaDmaAllocation} (distinct : s.dev.dmabufList.Pairwise Distinct)
    (here : gone ∈ s.dev.dmabufList) (member : alloc ∈ (s.close gone).dev.dmabufList) :
    alloc ∈ s.dev.dmabufList ∧ Distinct alloc gone := by
  obtain ⟨before,other⟩ := List.mem_filter.mp member
  have differ : alloc ≠ gone := by
    intro same
    rw [same] at other
    simp at other
  exact ⟨before,distinct.forall before here differ⟩

theorem close_kept {gone alloc : AxidmaDmaAllocation} (distinct : s.dev.dmabufList.Pairwise Distinct)
    (here : gone ∈ s.dev.dmabufList) (before : alloc ∈ s.dev.dmabufList) (differ : alloc ≠ gone) :
    alloc ∈ (s.close gone).dev.dmabufList := by
  have other := (distinct.forall before here differ).1
  exact List.mem_filter.mpr ⟨before,decide_eq_true other⟩

-- What a close leaves: the region is gone and so is its record.
def Memory.closed (t : Memory) (alloc : AxidmaDmaAllocation) : Memory where
  kernel := t.kernel.close alloc
  coherent := Function.update t.coherent alloc.kernAddr none
  imported := t.imported

theorem closed_held {gone : AxidmaDmaAllocation} (held : Held t) (here : gone ∈ t.kernel.dev.dmabufList) :
    Held (t.closed gone) := by
  constructor
  case coherent =>
    intro alloc member
    obtain ⟨before,distinct⟩ := close_left held.distinct here member
    show Function.update t.coherent gone.kernAddr none alloc.kernAddr = _
    rw [Function.update_of_ne distinct.2]
    exact held.coherent alloc before
  case imported => exact held.imported
  case attached => exact held.attached
  case live =>
    intro alloc member
    obtain ⟨before,distinct⟩ := close_left held.distinct here member
    exact (List.mem_erase_of_ne distinct.1).mpr (held.live alloc before)
  case distinct => exact held.distinct.sublist List.filter_sublist

theorem close_covered {vma : Vma} (distinct : s.dev.dmabufList.Pairwise Distinct)
    (covered : Covered (vma :: closing) s) : Covered closing (s.close vma.privateData) := by
  have here : vma.privateData ∈ s.dev.dmabufList := covered.listed vma List.mem_cons_self
  have once := List.nodup_cons.mp covered.once
  constructor
  case listed =>
    intro other member
    apply close_kept distinct here
    · exact covered.listed other (List.mem_cons_of_mem _ member)
    · intro same
      exact once.1 (List.mem_map.mpr ⟨other,member,same⟩)
  case once => exact once.2
  case entire =>
    intro alloc member
    obtain ⟨before,differ⟩ := close_left distinct here member
    obtain ⟨owner,present,owns,entire⟩ := covered.entire alloc before
    refine ⟨owner,?_,owns,entire⟩
    rcases List.mem_cons.mp present with rfl | other
    · rw [owns] at differ
      exact absurd rfl differ.1
    · exact other
  case pieces => exact covered.pieces
  case clear => exact covered.clear

theorem closed_founded {vma : Vma} (founded : Founded (vma :: closing) t) : Founded closing (t.closed vma.privateData) := by
  have here := founded.covered.listed vma List.mem_cons_self
  refine ⟨closed_held founded.held here,close_covered founded.held.distinct founded.covered,?_⟩
  have kept : (Translation.windows (t.kernel.close vma.privateData).dev).Sublist (Translation.windows t.kernel.dev) := by
    apply List.Sublist.append
    · exact List.filter_sublist.map _
    · exact List.Sublist.refl _
  exact founded.apart.sublist kept

theorem closeAll_founded (founded : Founded closing t) :
    Ensures (memoryMachine action) (fun _ after => Founded [] after) (closeAll closing) t := by
  induction closing generalizing t with
  | nil => exact founded
  | cons vma rest ih =>
    intro _ _ _ _ _ _
    exact ih (closed_founded founded)

theorem span_ends {area : VmAreaStruct} (nonempty : area.vmStart < area.vmEnd) :
    area.vmStart.toNat+(area.vmEnd-area.vmStart).toNat = area.vmEnd.toNat := by
  have order := BitVec.lt_def.mp nonempty
  rw [BitVec.toNat_sub_of_le (BitVec.le_of_lt nonempty)]
  omega

theorem apart_of_clear {area : VmAreaStruct} {vma : Vma} (nonempty : area.vmStart < area.vmEnd)
    (clear : Clear area vma.area) (entire : Entire vma) :
    Window.Apart (span area) (Translation.ofDmabuf vma.privateData) := by
  have ends : area.vmStart.toNat+(area.vmEnd-area.vmStart).toNat = area.vmEnd.toNat := span_ends nonempty
  have starts := entire.starts
  have behind := entire.ends
  rcases clear with below | above
  · apply Window.apart_of_below
    show area.vmStart.toNat+(area.vmEnd-area.vmStart).toNat ≤ vma.privateData.userAddr.toNat
    rw [ends,← starts]
    exact BitVec.le_def.mp below
  · apply Window.Apart.symm
    apply Window.apart_of_below
    show vma.privateData.userAddr.toNat+vma.privateData.size.toNat ≤ area.vmStart.toNat
    rw [← behind]
    exact BitVec.le_def.mp above

section
variable {area : VmAreaStruct} {alloc : AxidmaDmaAllocation}

theorem mapped_held (held : Held t) (node : alloc.node ∉ t.kernel.heap) (new : t.coherent alloc.kernAddr = none) :
    Held (t.mapped area alloc) := by
  have unlisted : ∀ {other : AxidmaDmaAllocation}, other ∈ t.kernel.dev.dmabufList → other.kernAddr ≠ alloc.kernAddr := by
    intro other member same
    have handedOut := held.coherent other member
    rw [same,new] at handedOut
    cases handedOut
  constructor
  case coherent =>
    intro other member
    rcases List.mem_cons.mp member with rfl | before
    · exact Function.update_self ..
    · show Function.update t.coherent alloc.kernAddr _ other.kernAddr = _
      rw [Function.update_of_ne (unlisted before)]
      exact held.coherent other before
  case imported => exact held.imported
  case attached => exact held.attached
  case live =>
    intro other member
    rcases List.mem_cons.mp member with rfl | before
    · exact List.mem_cons_self
    · exact List.mem_cons_of_mem _ (held.live other before)
  case distinct =>
    apply List.pairwise_cons.mpr
    refine ⟨?_,held.distinct⟩
    intro other before
    refine ⟨?_,(unlisted before).symm⟩
    intro same
    apply node
    rw [same]
    exact held.live other before

theorem place_covered (covered : Covered [] s) (nonempty : area.vmStart < area.vmEnd)
    (free : ∀ vma ∈ s.vmas, Clear area vma.area) (start : alloc.userAddr = area.vmStart)
    (size : alloc.size = area.vmEnd-area.vmStart) : Covered [] (s.place area alloc) := by
  have ends : alloc.userAddr.toNat+alloc.size.toNat = area.vmEnd.toNat := by
    rw [start,size]
    exact span_ends nonempty
  constructor
  case listed =>
    intro vma member
    cases member
  case once => exact covered.once
  case entire =>
    intro other member
    rcases List.mem_cons.mp member with rfl | before
    · exact ⟨⟨area,other⟩,List.mem_cons_self,rfl,start.symm,ends.symm⟩
    · obtain ⟨vma,present,owns,entire⟩ := covered.entire other before
      exact ⟨vma,List.mem_cons_of_mem _ present,owns,entire⟩
  case pieces =>
    intro vma member
    rcases List.mem_cons.mp member with rfl | before
    · exact ⟨nonempty,BitVec.le_of_eq start,Nat.le_of_eq ends.symm⟩
    · exact covered.pieces vma before
  case clear => exact List.pairwise_cons.mpr ⟨free,covered.clear⟩

theorem mapped_founded (founded : Founded [] t) (nonempty : area.vmStart < area.vmEnd)
    (free : ∀ vma ∈ t.kernel.vmas, Clear area vma.area)
    (external : ∀ alloc ∈ t.kernel.dev.externalDmabufs, Window.Apart (span area) (Translation.ofExternal alloc))
    (start : alloc.userAddr = area.vmStart) (size : alloc.size = area.vmEnd-area.vmStart)
    (node : alloc.node ∉ t.kernel.heap) (new : t.coherent alloc.kernAddr = none) : Founded [] (t.mapped area alloc) := by
  refine ⟨mapped_held founded.held node new,place_covered founded.covered nonempty free start size,?_⟩
  apply List.pairwise_cons.mpr
  refine ⟨?_,founded.apart⟩
  intro win member
  have spans : Window.Apart (span area) win := by
    rcases List.mem_append.mp member with ours | others
    · obtain ⟨other,before,rfl⟩ := List.mem_map.mp ours
      obtain ⟨vma,present,rfl,entire⟩ := founded.covered.entire other before
      exact apart_of_clear nonempty (free vma present) entire
    · obtain ⟨other,before,rfl⟩ := List.mem_map.mp others
      exact external other before
  show Window.Apart ⟨alloc.userAddr,alloc.size,alloc.dmaAddr⟩ win
  rw [start,size]
  exact spans

end

theorem mmap_leaves {caller : Caller} {area : VmAreaStruct} {placed : Bool} :
    Ensures (memoryMachine (.mmap caller area placed)) (MmapLeaves t area placed) (axidmaMmap caller area) t := by
  unfold axidmaMmap
  intro node fresh
  cases node with
  | none => exact .refused (by decide) (.of_kernel rfl rfl rfl rfl)
  | some node =>
    intro _ _ region new
    cases region with
    | none =>
      intro _ _
      exact .refused (by decide) (.of_kernel rfl rfl (List.erase_cons_head ..) rfl)
    | some region =>
      have unheld : t.coherent region.1 = none := new region rfl
      intro rc given
      refine ensures_if (fun failed => ?_) fun succeeded => ?_
      · intro _ _ _ _
        apply MmapLeaves.refused failed
        refine ⟨rfl,rfl,List.erase_cons_head ..,rfl,?_,fun _ _ => rfl⟩
        intro other handedOut
        have differ : other ≠ region.1 := by
          intro same
          rw [same] at handedOut
          exact handedOut unheld
        show Function.update (Function.update t.coherent region.1 _) region.1 none other = _
        rw [Function.update_of_ne differ,Function.update_of_ne differ]
      · intro _ _ _ _
        let alloc : AxidmaDmaAllocation :=
          ⟨node,area.vmEnd-area.vmStart,area.vmStart,region.1,region.2,caller.session⟩
        have node : alloc.node ∉ t.kernel.heap := fresh.2 node rfl
        have new : t.coherent alloc.kernAddr = none := unheld
        exact MmapLeaves.mapped (given (Int.not_lt.mp succeeded)) rfl rfl node new

theorem mmap_founded {caller : Caller} {area : VmAreaStruct} {placed : Bool} {outcome : Outcome Fault Int}
    (founded : Founded [] t) (nonempty : area.vmStart < area.vmEnd) (free : ∀ vma ∈ t.kernel.vmas, Clear area vma.area)
    (meets : Meets t (.mmap caller area placed)) (leaves : MmapLeaves t area placed outcome after) :
    Founded [] after := by
  cases leaves with
  | refused _ same => exact same.founded founded
  | mapped granted start size node new => exact mapped_founded founded nonempty free (meets granted) start size node new

structure PieceOf (vma piece : Vma) : Prop where
  nonempty : piece.area.vmStart < piece.area.vmEnd
  starts : vma.area.vmStart ≤ piece.area.vmStart
  ends : piece.area.vmEnd ≤ vma.area.vmEnd
  owner : piece.privateData = vma.privateData

theorem pieces_of {range : VmAreaStruct} {vma piece : Vma} (nonempty : vma.area.vmStart < vma.area.vmEnd)
    (member : piece ∈ vma.pieces range) : PieceOf vma piece := by
  unfold Vma.pieces at member
  cases touched : overlaps vma.area range with
  | false =>
    rw [touched,if_neg Bool.false_ne_true] at member
    obtain rfl := List.mem_singleton.mp member
    exact ⟨nonempty,BitVec.le_refl _,BitVec.le_refl _,rfl⟩
  | true =>
    rw [touched,if_pos rfl] at member
    simp only [overlaps,Bool.and_eq_true,decide_eq_true_eq] at touched
    obtain ⟨⟨_,first⟩,last⟩ := touched
    rcases List.mem_append.mp member with low | high
    · split at low
      · obtain rfl := List.mem_singleton.mp low
        exact ⟨‹_›,BitVec.le_refl _,BitVec.le_of_lt last,rfl⟩
      · cases low
    · split at high
      · obtain rfl := List.mem_singleton.mp high
        exact ⟨‹_›,BitVec.le_of_lt first,BitVec.le_refl _,rfl⟩
      · cases high

theorem pieces_clear {range : VmAreaStruct} {vma : Vma} (forward : range.vmStart ≤ range.vmEnd) :
    (vma.pieces range).Pairwise fun first second => Clear first.area second.area := by
  unfold Vma.pieces
  split
  · split
    · split
      · simp [Clear,forward]
      · simp
    · split <;> simp
  · simp

instance : Std.Symm fun first second : Vma => Clear first.area second.area where
  symm _ _ clear := clear.symm

theorem Covered.whole (covered : Covered [] s) {vma : Vma} (member : vma ∈ s.vmas)
    (listed : vma.privateData ∈ s.dev.dmabufList) : Entire vma := by
  obtain ⟨owner,present,owns,entire⟩ := covered.entire _ listed
  by_cases same : owner = vma
  · rw [same] at entire
    exact entire
  · have clear : Clear owner.area vma.area := covered.clear.forall present member same
    have piece := covered.pieces vma member
    have nonempty := BitVec.lt_def.mp piece.nonempty
    have starts := BitVec.le_def.mp piece.starts
    have ends := piece.ends
    have first := entire.starts
    have last := entire.ends
    rw [owns] at first last
    simp only [Clear,BitVec.le_def,first,last] at clear
    omega

theorem split_once {range : VmAreaStruct} (covered : Covered [] s)
    (listed : ∀ vma ∈ removed range s.vmas, vma.privateData ∈ s.dev.dmabufList) :
    ((removed range s.vmas).map (·.privateData)).Nodup := by
  apply List.pairwise_map.mpr
  have clear : (removed range s.vmas).Pairwise fun first second => Clear first.area second.area :=
    covered.clear.sublist List.filter_sublist
  apply clear.imp_of_mem
  intro first second here there apart same
  have present : ∀ {vma : Vma}, vma ∈ removed range s.vmas → vma ∈ s.vmas := fun member => (List.mem_filter.mp member).1
  -- Two whole VMAs of one record would have one area.
  have whole := covered.whole (present here) (listed first here)
  have whole' := covered.whole (present there) (listed second there)
  have nonempty := (covered.pieces first (present here)).nonempty
  have starts : first.area.vmStart = second.area.vmStart := by rw [whole.starts,whole'.starts,same]
  have ends : first.area.vmEnd = second.area.vmEnd := by
    apply BitVec.eq_of_toNat_eq
    rw [whole.ends,whole'.ends,same]
  rcases apart with below | above
  · rw [← starts] at below
    exact BitVec.not_le.mpr nonempty below
  · rw [← ends] at above
    exact BitVec.not_le.mpr nonempty above

theorem split_covered {range : VmAreaStruct} (covered : Covered [] s) (forward : range.vmStart ≤ range.vmEnd)
    (listed : ∀ vma ∈ removed range s.vmas, vma.privateData ∈ s.dev.dmabufList) :
    Covered (removed range s.vmas) (s.split range) := by
  constructor
  case listed => exact listed
  case once => exact split_once covered listed
  case entire =>
    intro alloc member
    obtain ⟨vma,present,owns,entire⟩ := covered.entire alloc member
    refine ⟨vma,?_,owns,entire⟩
    cases touched : overlaps vma.area range with
    | false =>
      apply List.mem_append_right
      refine List.mem_flatMap.mpr ⟨vma,present,?_⟩
      rw [Vma.pieces,touched]
      exact List.mem_singleton.mpr rfl
    | true => exact List.mem_append_left _ (List.mem_filter.mpr ⟨present,touched⟩)
  case pieces =>
    intro piece member
    obtain ⟨vma,present,left⟩ := List.mem_flatMap.mp member
    have whole := covered.pieces vma present
    have part := pieces_of whole.nonempty left
    refine ⟨part.nonempty,?_,?_⟩
    · rw [part.owner]
      exact BitVec.le_trans whole.starts part.starts
    · rw [part.owner]
      exact Nat.le_trans (BitVec.le_def.mp part.ends) whole.ends
  case clear =>
    apply List.pairwise_flatMap.mpr
    refine ⟨fun vma _ => pieces_clear forward,?_⟩
    apply covered.clear.imp_of_mem
    intro first second here there clear piece left other right
    have part := pieces_of (covered.pieces first here).nonempty left
    have part' := pieces_of (covered.pieces second there).nonempty right
    rcases clear with below | above
    · exact .inl (BitVec.le_trans part.ends (BitVec.le_trans below part'.starts))
    · exact .inr (BitVec.le_trans part'.ends (BitVec.le_trans above part.starts))

theorem split_founded {range : VmAreaStruct} (founded : Founded [] t) (forward : range.vmStart ≤ range.vmEnd)
    (meets : Meets t (.munmap range)) :
    Founded (removed range t.kernel.vmas) {t with kernel := t.kernel.split range} := by
  have listed : ∀ vma ∈ removed range t.kernel.vmas, vma.privateData ∈ t.kernel.dev.dmabufList := by
    intro vma member
    have parts := List.mem_filter.mp member
    exact meets vma parts.1 parts.2
  have held : Held {t with kernel := t.kernel.split range} :=
    ⟨founded.held.coherent,founded.held.imported,founded.held.attached,founded.held.live,founded.held.distinct⟩
  exact ⟨held,split_covered founded.covered forward listed,founded.apart⟩

theorem windows_registered {alloc : AxidmaExternalAllocation} {entry : Option DeviceMemory} :
    (Translation.windows (t.registered alloc entry).kernel.dev).Perm
      (Translation.ofExternal alloc :: Translation.windows t.kernel.dev) := List.perm_middle

theorem registered_held {alloc : AxidmaExternalAllocation} {entry : Option DeviceMemory} (held : Held t)
    (attach : alloc.dmaAttach ∉ t.kernel.attachments) (backs : Backs entry (Translation.ofExternal alloc)) :
    Held (t.registered alloc entry) := by
  constructor
  case coherent => exact held.coherent
  case imported =>
    intro other member
    rcases List.mem_cons.mp member with rfl | before
    · show Backs (Function.update t.imported other.dmaAttach entry other.dmaAttach) _
      rw [Function.update_self]
      exact backs
    · have differ : other.dmaAttach ≠ alloc.dmaAttach := by
        intro same
        apply attach
        rw [← same]
        exact held.attached other before
      show Backs (Function.update t.imported alloc.dmaAttach entry other.dmaAttach) _
      rw [Function.update_of_ne differ]
      exact held.imported other before
  case attached =>
    intro other member
    rcases List.mem_cons.mp member with rfl | before
    · exact List.mem_cons_self
    · exact List.mem_cons_of_mem _ (held.attached other before)
  case live => exact fun other member => List.mem_cons_of_mem _ (held.live other member)
  case distinct => exact held.distinct

theorem registered_founded {alloc : AxidmaExternalAllocation} {entry : Option DeviceMemory} (founded : Founded [] t)
    (attach : alloc.dmaAttach ∉ t.kernel.attachments) (backs : Backs entry (Translation.ofExternal alloc))
    (apart : ∀ win ∈ Translation.windows t.kernel.dev, Window.Apart (Translation.ofExternal alloc) win) :
    Founded [] (t.registered alloc entry) := by
  have covered : Covered [] (t.registered alloc entry).kernel :=
    ⟨founded.covered.listed,founded.covered.once,founded.covered.entire,founded.covered.pieces,founded.covered.clear⟩
  refine ⟨registered_held founded.held attach backs,covered,?_⟩
  apply (windows_registered.pairwise_iff Window.Apart.symm).mpr
  exact List.pairwise_cons.mpr ⟨apart,founded.apart⟩

theorem register_leaves (caller : Caller) (arg : UserAddr) {extBuf : AxidmaRegisterBuffer}
    {entry : Option DeviceMemory} :
    Ensures (memoryMachine (.register caller arg extBuf entry)) (RegisterLeaves t extBuf entry)
      (axidmaGetExternal caller extBuf) t := by
  unfold axidmaGetExternal
  intro node _
  cases node with
  | none => exact .refused (by decide) (.of_kernel rfl rfl rfl rfl)
  | some node =>
    intro dmaBuf _
    cases dmaBuf with
    | error error =>
      intro _ _
      exact .refused error.rc_neg (.of_kernel rfl rfl (List.erase_cons_head ..) rfl)
    | ok dmaBuf =>
      intro dmaAttach new
      cases dmaAttach with
      | error error =>
        intro _ _ _ _
        exact .refused error.rc_neg (.of_kernel rfl rfl (List.erase_cons_head ..) rfl)
      | ok dmaAttach =>
        have attach : dmaAttach ∉ t.kernel.attachments := new dmaAttach rfl
        intro sgTable single
        cases sgTable with
        | error error =>
          intro _ _ _ _ _ _
          exact .refused error.rc_neg (.of_kernel rfl rfl (List.erase_cons_head ..) (List.erase_cons_head ..))
        | ok sgTable =>
          refine ensures_if (fun _ => ?_) fun one => ?_
          · intro _ _ _ _ _ _ _ _
            apply RegisterLeaves.refused (by decide)
            refine ⟨rfl,rfl,List.erase_cons_head ..,List.erase_cons_head ..,fun _ _ => rfl,?_⟩
            intro other member
            have differ : other ≠ dmaAttach := by
              intro same
              rw [same] at member
              exact attach member
            show Function.update (Function.update t.imported dmaAttach _) dmaAttach none other = _
            rw [Function.update_of_ne differ,Function.update_of_ne differ]
          · intro _ _
            obtain ⟨memory,found,base⟩ := single sgTable rfl (not_not.mp one)
            let alloc : AxidmaExternalAllocation :=
              ⟨node,extBuf.fd,dmaBuf,dmaAttach,extBuf.size,extBuf.userAddr,sgTable,caller.session⟩
            have attach : alloc.dmaAttach ∉ t.kernel.attachments := attach
            exact RegisterLeaves.registered rfl rfl attach found base

theorem ioctl_leaves {caller : Caller} {arg : UserAddr} {extBuf : AxidmaRegisterBuffer}
    {entry : Option DeviceMemory} :
    Ensures (memoryMachine (.register caller arg extBuf entry)) (RegisterLeaves t extBuf entry)
      (axidmaIoctl t.kernel.dev caller AXIDMA_REGISTER_BUFFER arg) t := by
  apply register_ioctl
  · exact fun _ _ => rfl
  · exact fun _ => rfl
  · exact .refused (by decide) (.of_kernel rfl rfl rfl rfl)
  · intro copied given whole
    have same : extBuf = copied.2 := Option.some.inj (given whole)
    rw [← same]
    exact register_leaves caller arg

theorem register_founded {caller : Caller} {arg : UserAddr} {extBuf : AxidmaRegisterBuffer}
    {entry : Option DeviceMemory} {outcome : Outcome Fault Int} (founded : Founded [] t)
    (meets : Meets t (.register caller arg extBuf entry)) (leaves : RegisterLeaves t extBuf entry outcome after) :
    Founded [] after := by
  cases leaves with
  | refused _ same => exact same.founded founded
  | @registered alloc memory start size attach found base =>
    obtain ⟨fits,apart⟩ := meets memory found
    rw [← start,← size] at apart
    rw [← size] at fits
    exact registered_founded founded attach ⟨memory,found,base,fits⟩ apart

-- A step that succeeds keeps the law exactly when it meets its condition.
theorem mmap_backed_iff {caller : Caller} {area : VmAreaStruct} {placed : Bool} (founded : Founded [] t)
    (nonempty : area.vmStart < area.vmEnd) (free : ∀ vma ∈ t.kernel.vmas, Clear area vma.area)
    (executed : Exec (memoryMachine (.mmap caller area placed)) (axidmaMmap caller area) t (.returned 0) after) :
    Backed after ↔ Meets t (.mmap caller area placed) := by
  have leaves := ensures_iff.mp mmap_leaves _ _ executed
  constructor
  · intro backed _ other member
    cases leaves with
    | refused failed => exact absurd failed (Int.lt_irrefl 0)
    | @mapped alloc granted start size =>
      have heads := List.pairwise_cons.mp backed.apart
      have spans : Window.Apart ⟨alloc.userAddr,alloc.size,alloc.dmaAddr⟩ (Translation.ofExternal other) :=
        heads.1 _ (List.mem_append_right _ (List.mem_map_of_mem member))
      rw [start,size] at spans
      exact spans
  · intro meets
    exact (mmap_founded founded nonempty free meets leaves).backed

theorem register_backed_iff {caller : Caller} {arg : UserAddr} {extBuf : AxidmaRegisterBuffer}
    {entry : Option DeviceMemory} (founded : Founded [] t)
    (executed : Exec (memoryMachine (.register caller arg extBuf entry))
      (axidmaIoctl t.kernel.dev caller AXIDMA_REGISTER_BUFFER arg) t (.returned 0) after) :
    Backed after ↔ Meets t (.register caller arg extBuf entry) := by
  have leaves := ensures_iff.mp ioctl_leaves _ _ executed
  constructor
  · intro backed memory found
    cases leaves with
    | refused failed => exact absurd failed (Int.lt_irrefl 0)
    | @registered alloc _ start size attach =>
      obtain ⟨behind,same,_,fits⟩ := backed.externalDmabufs alloc List.mem_cons_self
      have entered : behind = memory := by
        change Function.update t.imported alloc.dmaAttach entry alloc.dmaAttach = some behind at same
        rw [Function.update_self,found] at same
        exact (Option.some.inj same).symm
      have apart := (windows_registered.pairwise_iff Window.Apart.symm).mp backed.apart
      rw [entered] at fits
      rw [← size,← start]
      exact ⟨fits,(List.pairwise_cons.mp apart).1⟩
  · intro meets
    exact (register_founded founded meets leaves).backed

theorem step_founded (founded : Founded [] t) (step : Restrict Meets RangeStep t action after) : Founded [] after := by
  obtain ⟨meets,step⟩ := step
  cases step with
  | mmap nonempty free executed =>
    exact mmap_founded founded nonempty free meets (ensures_iff.mp mmap_leaves _ _ executed)
  | munmap forward executed =>
    exact ensures_iff.mp (closeAll_founded (split_founded founded forward meets)) _ _ executed
  | register executed => exact register_founded founded meets (ensures_iff.mp ioctl_leaves _ _ executed)

theorem backed_of_meets {origin final : Memory} {actions : List RangeAction} (loaded : Loaded origin)
    (path : Runs (Restrict Meets RangeStep) origin actions final) : Backed final := by
  have founded : Founded [] final := path.keeps loaded.founded fun _ _ _ founded step => step_founded founded step
  exact founded.backed

end

def fresh : Memory := ⟨.loaded (loadedDevice []),fun _ => none,fun _ => none⟩

theorem fresh_loaded : Loaded fresh := ⟨rfl,rfl,rfl⟩

def client : Caller := ⟨0,0,0⟩
def onePage : DeviceMemory := ⟨0x40000000,0x1000⟩

def shared (size : SizeT) : AxidmaExternalAllocation where
  node := 1
  fd := 3
  dmaBuf := 7
  dmaAttach := 8
  size := size
  userAddr := 0x10000
  sgTable := ⟨1,onePage.base⟩
  session := 0

theorem registers_shared (size : SizeT) : RangeStep fresh (.register client 0x2000 ⟨3,size,0x10000⟩ (some onePage))
    (fresh.registered (shared size) (some onePage)) := by
  have executed : Exec (memoryMachine (.register client 0x2000 ⟨3,size,0x10000⟩ (some onePage)))
      (axidmaIoctl fresh.kernel.dev client AXIDMA_REGISTER_BUFFER 0x2000) fresh (.returned 0)
      (fresh.registered (shared size) (some onePage)) := by
    refine ⟨true,fun _ => by decide,true,fun _ => by decide,(0,⟨3,size,0x10000⟩),fun _ => rfl,some 1,⟨fun _ => by decide,?_⟩,?_⟩
    · exact fun _ _ => List.not_mem_nil
    · refine ⟨.ok 7,trivial,.ok 8,?_,.ok ⟨1,onePage.base⟩,?_,(),trivial,rfl,rfl⟩
      · exact fun _ _ => List.not_mem_nil
      · intro sgTable same _
        cases same
        exact ⟨onePage,rfl,rfl⟩
  exact .register executed

theorem backed_shared : Backed (fresh.registered (shared 0x1000) (some onePage)) := by
  apply backed_of_meets fresh_loaded (.snoc .start ⟨?_,registers_shared 0x1000⟩)
  intro memory found
  cases found
  refine ⟨Nat.le_refl _,?_⟩
  intro win member
  cases member

-- A page that is registered as two: the second one is memory of no one.
theorem shared_too_long : Loaded fresh ∧ ∃ final, Runs RangeStep fresh
    [.register client 0x2000 ⟨3,0x2000,0x10000⟩ (some onePage)] final ∧ ¬ Backed final := by
  refine ⟨fresh_loaded,_,.snoc .start (registers_shared 0x2000),?_⟩
  intro backed
  obtain ⟨found,same,_,fits⟩ := backed.externalDmabufs (shared 0x2000) List.mem_cons_self
  cases same
  exact absurd fits (by decide)

-- Why munmap has a condition: a region that was freed with the first page of a
-- mapping goes to a second mapping, and is freed again with the other page.
def mapping (node : Nat) (area : VmAreaStruct) : AxidmaDmaAllocation :=
  ⟨node,area.vmEnd-area.vmStart,area.vmStart,5,onePage.base,0⟩

theorem maps_region {t : Memory} {node : Nat} {area : VmAreaStruct} (nonempty : area.vmStart < area.vmEnd)
    (free : ∀ vma ∈ t.kernel.vmas, Clear area vma.area) (fresh : node ∉ t.kernel.heap) (new : t.coherent 5 = none) :
    RangeStep t (.mmap client area true) (t.mapped area (mapping node area)) := by
  have executed : Exec (memoryMachine (.mmap client area true)) (axidmaMmap client area) t (.returned 0)
      (t.mapped area (mapping node area)) := by
    refine ⟨some node,⟨fun _ => by decide,?_⟩,(),trivial,some (5,onePage.base),?_,?_⟩
    · intro ptr same
      cases same
      exact fresh
    · intro region same
      cases same
      exact new
    · exact ⟨(0 : Int),fun _ => rfl,(),trivial,(),trivial,rfl,rfl⟩
  exact .mmap nonempty free executed

theorem unmaps_region {t : Memory} {range : VmAreaStruct} {vma : Vma} (forward : range.vmStart ≤ range.vmEnd)
    (closing : removed range t.kernel.vmas = [vma]) : RangeStep t (.munmap range)
      (Memory.closed {t with kernel := t.kernel.split range} vma.privateData) := by
  apply RangeStep.munmap forward
  rw [closing]
  exact ⟨(),trivial,(),trivial,(),trivial,rfl,rfl⟩

def twoPages : VmAreaStruct := ⟨0,0x10000,0x12000⟩
def firstPage : VmAreaStruct := ⟨0,0x10000,0x11000⟩
def lastPage : VmAreaStruct := ⟨0,0x11000,0x12000⟩
def elsewhere : VmAreaStruct := ⟨0,0x20000,0x21000⟩

def owner : Vma := ⟨twoPages,mapping 1 twoPages⟩
def leftover : Vma := ⟨lastPage,mapping 1 twoPages⟩
def mappedTwo : Memory := fresh.mapped twoPages (mapping 1 twoPages)
def unmappedFirst : Memory := Memory.closed {mappedTwo with kernel := mappedTwo.kernel.split firstPage} owner.privateData
def mappedElsewhere : Memory := unmappedFirst.mapped elsewhere (mapping 2 elsewhere)

theorem closed_piece_frees : ∃ final, Runs RangeStep fresh [.mmap client twoPages true,.munmap firstPage,
    .mmap client elsewhere true,.munmap lastPage] final ∧ ¬ Backed final := by
  have first : RangeStep fresh (.mmap client twoPages true) mappedTwo := by
    apply maps_region
    · decide
    · intro vma member
      cases member
    · exact List.not_mem_nil
    · rfl
  have closing : removed firstPage mappedTwo.kernel.vmas = [owner] := by decide
  have second : RangeStep mappedTwo (.munmap firstPage) unmappedFirst := unmaps_region (by decide) closing
  have pieces : unmappedFirst.kernel.vmas = [leftover] := by decide
  have third : RangeStep unmappedFirst (.mmap client elsewhere true) mappedElsewhere := by
    apply maps_region
    · decide
    · intro vma member
      rw [pieces] at member
      obtain rfl := List.mem_singleton.mp member
      exact .inr (by decide)
    · decide
    · show Function.update mappedTwo.coherent 5 none 5 = none
      exact Function.update_self ..
  have closingPiece : removed lastPage mappedElsewhere.kernel.vmas = [leftover] := by decide
  refine ⟨_,.snoc (.snoc (.snoc (.snoc .start first) second) third) (unmaps_region (by decide) closingPiece),?_⟩
  intro backed
  have listed : mapping 2 elsewhere ∈
      ((mappedElsewhere.kernel.split lastPage).close leftover.privateData).dev.dmabufList := by decide
  obtain ⟨found,same,_⟩ := backed.dmabufList _ listed
  change Function.update mappedElsewhere.coherent 5 none 5 = some found at same
  rw [Function.update_self] at same
  cases same

end Axidma.BackedRanges
