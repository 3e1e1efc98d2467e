import Axidma.MemoryMap
import Axidma.Transition

namespace Axidma.MappedRegions
open Interaction
open Transition

structure FreedOnce (s : KernelState) : Prop where
  once : s.freed.Nodup
  unreferenced : ∀ region ∈ s.freed, ∀ vma ∈ s.vmas, vma.privateData.kernAddr ≠ region
  distinct : (s.dev.dmabufList.map (·.kernAddr)).Nodup
  listed : ∀ region, region ∈ s.dev.dmabufList.map (·.kernAddr) ↔ region ∈ s.mapped ∧ region ∉ s.freed

structure Unmapped (s : KernelState) : Prop where
  dmabufList : s.dev.dmabufList = []
  vmas : s.vmas = []
  regions : s.regions = []
  mapped : s.mapped = []
  freed : s.freed = []

-- The run invariant. Every record on the list belongs to one VMA, which is
-- still mapped or is one of those that munmap is closing.
structure Tidy (closing : List Vma) (s : KernelState) : Prop where
  owned : ((closing++s.vmas).map (·.privateData)).Perm s.dev.dmabufList
  nodes : (s.dev.dmabufList.map (·.node)).Nodup
  live : ∀ alloc ∈ s.dev.dmabufList, alloc.node ∈ s.heap
  known : ∀ region, region ∈ s.mapped ∨ region ∈ s.freed → region ∈ s.regions
  once : s.freed.Nodup
  distinct : (s.dev.dmabufList.map (·.kernAddr)).Nodup
  listed : ∀ region, region ∈ s.dev.dmabufList.map (·.kernAddr) ↔ region ∈ s.mapped ∧ region ∉ s.freed

section
variable {s : KernelState} {closing : List Vma}

theorem Tidy.freedOnce (tidy : Tidy [] s) : FreedOnce s := by
  refine ⟨tidy.once,?_,tidy.distinct,tidy.listed⟩
  intro region freed vma member same
  have present : vma.privateData ∈ s.dev.dmabufList :=
    tidy.owned.mem_iff.mp (List.mem_map_of_mem member)
  have mapped := (tidy.listed region).mp (List.mem_map.mpr ⟨_,present,same⟩)
  exact mapped.2 freed

theorem Unmapped.tidy (unmapped : Unmapped s) : Tidy [] s := by
  refine ⟨?_,?_,?_,?_,?_,?_,?_⟩ <;>
    simp [unmapped.dmabufList,unmapped.vmas,unmapped.mapped,unmapped.freed]

theorem closed_list {vma : Vma} (tidy : Tidy (vma :: closing) s) :
    ((closing++s.vmas).map (·.privateData)).Perm
      (s.dev.dmabufList.filter fun entry => decide (entry.node ≠ vma.privateData.node)) := by
  have nodes : (((vma :: closing)++s.vmas).map fun other => other.privateData.node).Nodup := by
    have same := (tidy.owned.map (·.node)).nodup_iff.mpr tidy.nodes
    rw [List.map_map] at same
    exact same
  rw [List.cons_append,List.map_cons,List.nodup_cons] at nodes
  have kept := tidy.owned.filter fun entry => decide (entry.node ≠ vma.privateData.node)
  rw [List.cons_append,List.map_cons,List.filter_cons] at kept
  have others : ((closing++s.vmas).map (·.privateData)).filter
      (fun entry => decide (entry.node ≠ vma.privateData.node)) = (closing++s.vmas).map (·.privateData) := by
    apply List.filter_eq_self.mpr
    intro entry member
    obtain ⟨other,present,rfl⟩ := List.mem_map.mp member
    have differ : other.privateData.node ≠ vma.privateData.node := by
      intro same
      exact nodes.1 (List.mem_map.mpr ⟨other,present,same⟩)
    simpa using differ
  rw [others] at kept
  simpa using kept

theorem close_tidy {vma : Vma} (tidy : Tidy (vma :: closing) s) : Tidy closing (s.close vma.privateData) := by
  have kept := closed_list tidy
  have smaller : (s.dev.dmabufList.filter fun entry => decide (entry.node ≠ vma.privateData.node)).Sublist
      s.dev.dmabufList := List.filter_sublist
  have regions := (tidy.owned.map (·.kernAddr)).nodup_iff.mpr tidy.distinct
  rw [List.cons_append,List.map_cons,List.map_cons,List.nodup_cons] at regions
  have member : vma.privateData.kernAddr ∈ s.dev.dmabufList.map (·.kernAddr) :=
    (tidy.owned.map (·.kernAddr)).mem_iff.mp (by simp)
  have mapped := (tidy.listed _).mp member
  refine ⟨kept,tidy.nodes.sublist (smaller.map _),?_,?_,?_,tidy.distinct.sublist (smaller.map _),?_⟩
  · intro alloc present
    have parts := List.mem_filter.mp present
    have other : alloc.node ≠ vma.privateData.node := by simpa using parts.2
    exact (List.mem_erase_of_ne other).mpr (tidy.live alloc parts.1)
  · intro region either
    rcases either with present | freed
    · exact tidy.known region (.inl present)
    · rcases List.mem_cons.mp freed with rfl | before
      · exact tidy.known _ (.inl mapped.1)
      · exact tidy.known region (.inr before)
  · exact List.nodup_cons.mpr ⟨mapped.2,tidy.once⟩
  · intro region
    have split : region ∈ s.dev.dmabufList.map (·.kernAddr) ↔
        region = vma.privateData.kernAddr ∨ region ∈ ((closing++s.vmas).map (·.privateData)).map (·.kernAddr) := by
      rw [← (tidy.owned.map (·.kernAddr)).mem_iff,List.cons_append,List.map_cons,List.map_cons,List.mem_cons]
    have before := tidy.listed region
    have now := (kept.map (·.kernAddr)).mem_iff (a := region)
    apply Iff.trans now.symm
    show _ ↔ region ∈ s.mapped ∧ region ∉ vma.privateData.kernAddr :: s.freed
    rw [List.mem_cons]
    constructor
    · intro present
      have listed := before.mp (split.mpr (.inr present))
      refine ⟨listed.1,fun either => ?_⟩
      rcases either with rfl | freed
      · exact regions.1 present
      · exact listed.2 freed
    · intro parts
      have listed := before.mpr ⟨parts.1,fun freed => parts.2 (.inr freed)⟩
      rcases split.mp listed with same | present
      · exact absurd (.inl same) parts.2
      · exact present

theorem closeAll_tidy (tidy : Tidy closing s) :
    Ensures kernelMachine (fun _ after => Tidy [] after) (closeAll closing) s := by
  induction closing generalizing s with
  | nil => exact tidy
  | cons vma rest ih =>
    refine ensures_bind (close_ends.mono ?_)
    intro outcome after ended
    obtain ⟨rfl,rfl⟩ := ended
    exact ih (close_tidy tidy)

theorem undone_tidy {region : Nat} (tidy : Tidy [] s) (new : region ∉ s.regions) :
    Tidy [] {s with regions := region :: s.regions, freed := region :: s.freed} := by
  have unmapped : region ∉ s.mapped := fun present => new (tidy.known _ (.inl present))
  have unfreed : region ∉ s.freed := fun present => new (tidy.known _ (.inr present))
  refine ⟨tidy.owned,tidy.nodes,tidy.live,?_,List.nodup_cons.mpr ⟨unfreed,tidy.once⟩,tidy.distinct,?_⟩
  · intro other either
    rcases either with present | freed
    · exact List.mem_cons_of_mem _ (tidy.known other (.inl present))
    · rcases List.mem_cons.mp freed with rfl | before
      · exact List.mem_cons_self
      · exact List.mem_cons_of_mem _ (tidy.known other (.inr before))
  · intro other
    apply Iff.trans (tidy.listed other)
    show _ ↔ other ∈ s.mapped ∧ other ∉ region :: s.freed
    rw [List.mem_cons]
    constructor
    · intro parts
      refine ⟨parts.1,fun either => ?_⟩
      rcases either with rfl | freed
      · exact unmapped parts.1
      · exact parts.2 freed
    · intro parts
      exact ⟨parts.1,fun freed => parts.2 (.inr freed)⟩

theorem placed_tidy {area : VmAreaStruct} {alloc : AxidmaDmaAllocation} (tidy : Tidy [] s)
    (node : alloc.node ∉ s.heap) (new : alloc.kernAddr ∉ s.regions) : Tidy [] (s.place area alloc) := by
  have unfreed : alloc.kernAddr ∉ s.freed := fun present => new (tidy.known _ (.inr present))
  have unlisted : alloc.kernAddr ∉ s.dev.dmabufList.map (·.kernAddr) :=
    fun present => new (tidy.known _ (.inl ((tidy.listed _).mp present).1))
  refine ⟨tidy.owned.cons _,?_,?_,?_,tidy.once,List.nodup_cons.mpr ⟨unlisted,tidy.distinct⟩,?_⟩
  · refine List.nodup_cons.mpr ⟨fun present => ?_,tidy.nodes⟩
    obtain ⟨other,member,same⟩ := List.mem_map.mp present
    have inHeap := tidy.live other member
    rw [same] at inHeap
    exact node inHeap
  · intro other present
    rcases List.mem_cons.mp present with rfl | before
    · exact List.mem_cons_self
    · exact List.mem_cons_of_mem _ (tidy.live other before)
  · intro other either
    rcases either with present | freed
    · rcases List.mem_cons.mp present with rfl | before
      · exact List.mem_cons_self
      · exact List.mem_cons_of_mem _ (tidy.known other (.inl before))
    · exact List.mem_cons_of_mem _ (tidy.known other (.inr freed))
  · intro other
    show other ∈ alloc.kernAddr :: s.dev.dmabufList.map (·.kernAddr) ↔
      other ∈ alloc.kernAddr :: s.mapped ∧ other ∉ s.freed
    rw [List.mem_cons,List.mem_cons,tidy.listed other]
    constructor
    · intro either
      rcases either with rfl | parts
      · exact ⟨.inl rfl,unfreed⟩
      · exact ⟨.inr parts.1,parts.2⟩
    · intro parts
      rcases parts.1 with same | mapped
      · exact .inl same
      · exact .inr ⟨mapped,parts.2⟩

theorem mmap_tidy {caller : Caller} {area : VmAreaStruct} {outcome : Outcome Fault Int} {after : KernelState}
    (tidy : Tidy [] s) (ends : MmapEnds s caller area outcome after) : Tidy [] after := by
  cases ends with
  | refused => exact tidy
  | undone _ new => exact undone_tidy tidy new
  | placed _ _ _ node new => exact placed_tidy tidy node new

theorem munmap_tidy {range : VmAreaStruct} (tidy : Tidy [] s) (whole : Whole s (.munmap range)) :
    Tidy (removed range s.vmas) (s.split range) := by
  have owned : ((removed range s.vmas++(s.split range).vmas).map (·.privateData)).Perm s.dev.dmabufList := by
    rw [split_whole whole]
    have parts := (List.filter_append_perm (fun vma : Vma => overlaps vma.area range) s.vmas).map (·.privateData)
    exact parts.trans tidy.owned
  exact ⟨owned,tidy.nodes,tidy.live,tidy.known,tidy.once,tidy.distinct,tidy.listed⟩

theorem step_tidy {after : KernelState} {action : MemoryAction} (tidy : Tidy [] s)
    (step : Restrict Whole MemoryStep s action after) : Tidy [] after := by
  obtain ⟨whole,step⟩ := step
  cases step with
  | mmap _ _ executed => exact mmap_tidy tidy (ensures_iff.mp mmap_ends _ _ executed)
  | munmap executed => exact ensures_iff.mp (closeAll_tidy (munmap_tidy tidy whole)) _ _ executed

theorem freedOnce_of_whole {origin final : KernelState} {actions : List MemoryAction} (unmapped : Unmapped origin)
    (path : Runs (Restrict Whole MemoryStep) origin actions final) : FreedOnce final :=
  (path.keeps unmapped.tidy fun _ _ _ tidy step => step_tidy tidy step).freedOnce

theorem pieces_left {range : VmAreaStruct} {vma : Vma} (member : vma ∈ s.vmas)
    (touched : overlaps vma.area range = true) (split : within vma.area range = false) :
    ∃ piece ∈ (s.split range).vmas, piece.privateData = vma.privateData := by
  have kept : ∃ piece ∈ vma.pieces range, piece.privateData = vma.privateData := by
    simp only [within,Bool.and_eq_false_iff,decide_eq_false_iff_not,BitVec.not_le] at split
    simp only [Vma.pieces,touched,if_true]
    rcases split with below | above
    · refine ⟨{vma with area := {vma.area with vmEnd := range.vmStart}},?_,rfl⟩
      exact List.mem_append_left _ (by rw [if_pos below]; exact List.mem_singleton.mpr rfl)
    · refine ⟨{vma with area := {vma.area with vmStart := range.vmEnd}},?_,rfl⟩
      exact List.mem_append_right _ (by rw [if_pos above]; exact List.mem_singleton.mpr rfl)
  obtain ⟨piece,present,same⟩ := kept
  exact ⟨piece,List.mem_flatMap.mpr ⟨vma,member,present⟩,same⟩

theorem closeAll_frees :
    Ensures kernelMachine (fun _ after => after.vmas = s.vmas ∧ (∀ region ∈ s.freed, region ∈ after.freed) ∧
      ∀ vma ∈ closing, vma.privateData.kernAddr ∈ after.freed) (closeAll closing) s := by
  induction closing generalizing s with
  | nil => exact ⟨rfl,fun _ freed => freed,fun _ member => absurd member List.not_mem_nil⟩
  | cons vma rest ih =>
    refine ensures_bind (close_ends.mono ?_)
    intro outcome after ended
    obtain ⟨rfl,rfl⟩ := ended
    apply ih.mono
    intro outcome final later
    obtain ⟨vmas,kept,freed⟩ := later
    refine ⟨vmas,fun region before => kept region (List.mem_cons_of_mem _ before),?_⟩
    intro other member
    rcases List.mem_cons.mp member with rfl | inRest
    · exact kept _ List.mem_cons_self
    · exact freed other inRest

-- A munmap that splits a mapping always breaks the law: it frees the region
-- while a piece still refers to it.
theorem split_breaks {range : VmAreaStruct} {after : KernelState} (step : MemoryStep s (.munmap range) after)
    (split : ¬ Whole s (.munmap range)) : ¬ FreedOnce after := by
  intro law
  cases step with
  | munmap executed =>
    obtain ⟨vmas,_,freed⟩ := ensures_iff.mp closeAll_frees _ _ executed
    simp only [Whole,not_forall,Bool.not_eq_true] at split
    obtain ⟨vma,member,touched,outside⟩ := split
    obtain ⟨piece,present,same⟩ := pieces_left member touched outside
    have closed := freed vma (List.mem_filter.mpr ⟨member,touched⟩)
    rw [← vmas] at present
    exact law.unreferenced _ closed piece present (by rw [same])

end

def fresh : KernelState := .loaded (loadedDevice [])

theorem fresh_unmapped : Unmapped fresh := ⟨rfl,rfl,rfl,rfl,rfl⟩

def client : Caller := ⟨0,0,0⟩
def twoPages : VmAreaStruct := ⟨0,0x10000,0x12000⟩
def onePage : VmAreaStruct := ⟨0,0x10000,0x11000⟩

def twoPagesBuffer : AxidmaDmaAllocation where
  node := 1
  size := 0x2000
  userAddr := 0x10000
  kernAddr := 5
  dmaAddr := 0x40000000
  session := 0

theorem mmap_twoPages : MemoryStep fresh (.mmap client twoPages) (fresh.place twoPages twoPagesBuffer) := by
  have executed : Exec kernelMachine (axidmaMmap client twoPages) fresh (.returned 0)
      (fresh.place twoPages twoPagesBuffer) := by
    refine ⟨some 1,⟨fun _ => by decide,fun _ _ => List.not_mem_nil⟩,(),trivial,some (5,0x40000000),?_,?_⟩
    · exact fun _ _ => List.not_mem_nil
    · exact ⟨(0 : Int),trivial,(),trivial,(),trivial,rfl,rfl⟩
  exact .mmap (by decide) (fun vma member => absurd member List.not_mem_nil) executed

theorem munmap_twoPages (range : VmAreaStruct) (touched : overlaps twoPages range = true) :
    MemoryStep (fresh.place twoPages twoPagesBuffer) (.munmap range)
      (((fresh.place twoPages twoPagesBuffer).split range).close twoPagesBuffer) := by
  refine .munmap ?_
  have closing : removed range (fresh.place twoPages twoPagesBuffer).vmas = [⟨twoPages,twoPagesBuffer⟩] :=
    List.filter_eq_self.mpr fun vma member => by
      obtain rfl := List.mem_singleton.mp member
      exact touched
  rw [closing]
  exact ⟨(),trivial,(),trivial,(),trivial,rfl,rfl⟩

theorem freedOnce_twoPages :
    FreedOnce (((fresh.place twoPages twoPagesBuffer).split twoPages).close twoPagesBuffer) := by
  have mapped : Runs (Restrict Whole MemoryStep) fresh [.mmap client twoPages] (fresh.place twoPages twoPagesBuffer) :=
    .snoc .start ⟨trivial,mmap_twoPages⟩
  refine freedOnce_of_whole fresh_unmapped (.snoc mapped ⟨?_,munmap_twoPages twoPages (by decide)⟩)
  intro vma member _
  obtain rfl := List.mem_singleton.mp member
  decide

-- The same mapping with its first page unmapped: the second page is still
-- mapped, and the region is free.
theorem half_unmapped : ∃ final, Runs MemoryStep fresh [.mmap client twoPages,.munmap onePage] final ∧ ¬ FreedOnce final := by
  refine ⟨_,.snoc (.snoc .start mmap_twoPages) (munmap_twoPages onePage (by decide)),?_⟩
  apply split_breaks (munmap_twoPages onePage (by decide))
  intro whole
  have inside := whole ⟨twoPages,twoPagesBuffer⟩ List.mem_cons_self (by decide)
  exact absurd inside (by decide)

end Axidma.MappedRegions
