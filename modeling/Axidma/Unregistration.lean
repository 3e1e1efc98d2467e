import Axidma.CharDevice
import Axidma.KernelState

namespace Axidma.Unregistration
open Interaction
open WordRange

def Owns (alloc : AxidmaExternalAllocation) (userAddr : UserAddr) : Prop :=
  (Translation.ofExternal alloc).Covers userAddr.toNat

def released (s : KernelState) (alloc : AxidmaExternalAllocation) : KernelState :=
  {s with
    mappings := s.mappings.erase alloc.dmaAttach
    attachments := s.attachments.erase alloc.dmaAttach
    references := s.references.erase alloc.dmaBuf
    heap := s.heap.erase alloc.node
    dev := {s.dev with externalDmabufs := s.dev.externalDmabufs.filter fun other => decide (other ≠ alloc)}}

-- The owner of the address is released and leaves the list, and without an
-- owner nothing happens.
structure ReleasesOwner (s after : KernelState) (userAddr : UserAddr) (outcome : Outcome Fault Int) : Prop where
  owned : ∀ alloc ∈ s.dev.externalDmabufs, Owns alloc userAddr → outcome = .returned 0 ∧ after = released s alloc
  unowned : (∀ alloc ∈ s.dev.externalDmabufs, ¬ Owns alloc userAddr) → outcome = .returned (-ENOENT) ∧ after = s

def Unregisters (s : KernelState) (userAddr : UserAddr) : Prop :=
  ∀ outcome after, Exec kernelMachine (axidmaPutExternal s.dev userAddr) s outcome after →
    ReleasesOwner s after userAddr outcome

def Disjoint (list : List AxidmaExternalAllocation) : Prop := (list.map Translation.ofExternal).Pairwise Window.Apart

def Touches (alloc : AxidmaExternalAllocation) (userAddr : UserAddr) : Prop :=
  alloc.userAddr.toNat ≤ userAddr.toNat ∧ userAddr.toNat ≤ alloc.userAddr.toNat+alloc.size.toNat

-- The test of axidma_put_external, whose end wraps.
def matched (userAddr : UserAddr) (dmaAlloc : AxidmaExternalAllocation) : Bool :=
  decide (dmaAlloc.userAddr ≤ userAddr) && decide (userAddr ≤ dmaAlloc.userAddr+dmaAlloc.size)

section
variable {s : KernelState} {userAddr : UserAddr} {alloc : AxidmaExternalAllocation}

theorem Owns.touches (owns : Owns alloc userAddr) : Touches alloc userAddr := ⟨owns.1,Nat.le_of_lt owns.2⟩

theorem touches_of_matched (found : matched userAddr alloc = true) : Touches alloc userAddr := by
  simp only [matched,Bool.and_eq_true,decide_eq_true_eq,BitVec.le_def,BitVec.toNat_add] at found
  obtain ⟨above,below⟩ := found
  have reduced := Nat.mod_le (alloc.userAddr.toNat+alloc.size.toNat) (2^64)
  exact ⟨above,Nat.le_trans below reduced⟩

-- A buffer whose end wraps is never matched, but then the address is one of its own.
theorem owns_of_unmatched (touches : Touches alloc userAddr) (unmatched : matched userAddr alloc = false) :
    Owns alloc userAddr := by
  obtain ⟨above,below⟩ := touches
  refine ⟨above,?_⟩
  show userAddr.toNat < alloc.userAddr.toNat+alloc.size.toNat
  by_cases fits : alloc.userAddr.toNat+alloc.size.toNat < 2^64
  · have accepted : matched userAddr alloc = true := by
      simp only [matched,Bool.and_eq_true,decide_eq_true_eq,BitVec.le_def,add_fits fits]
      exact ⟨above,below⟩
    rw [accepted] at unmatched
    cases unmatched
  · have bound := userAddr.isLt
    omega

theorem unmatched_refused (unmatched : s.dev.externalDmabufs.find? (matched userAddr) = none) :
    axidmaPutExternal s.dev userAddr = .ret (-ENOENT) := by
  unfold matched at unmatched
  unfold axidmaPutExternal
  rw [unmatched]
  rfl

theorem matched_kept (found : s.dev.externalDmabufs.find? (matched userAddr) = some alloc) :
    ∃ after, Exec kernelMachine (axidmaPutExternal s.dev userAddr) s (.returned 0) after ∧ after.dev = s.dev := by
  unfold matched at found
  unfold axidmaPutExternal
  rw [found]
  exact ⟨_,⟨(),trivial,(),trivial,(),trivial,(),trivial,rfl,rfl⟩,rfl⟩

theorem released_unlisted (present : alloc ∈ s.dev.externalDmabufs) : (released s alloc).dev ≠ s.dev := by
  intro same
  have listed : (released s alloc).dev.externalDmabufs = s.dev.externalDmabufs :=
    congrArg AxidmaDevice.externalDmabufs same
  rw [← listed] at present
  simp [released] at present

theorem untouched_of_unregisters (unregisters : Unregisters s userAddr) :
    ∀ alloc ∈ s.dev.externalDmabufs, ¬ Touches alloc userAddr := by
  intro alloc present touches
  cases found : s.dev.externalDmabufs.find? (matched userAddr) with
  | none =>
    have unmatched : matched userAddr alloc = false := by simpa using List.find?_eq_none.mp found alloc present
    have ended : Exec kernelMachine (axidmaPutExternal s.dev userAddr) s (.returned (-ENOENT)) s := by
      rw [unmatched_refused found]
      exact ⟨rfl,rfl⟩
    have released := (unregisters _ _ ended).owned alloc present (owns_of_unmatched touches unmatched)
    simp [ENOENT] at released
  | some victim =>
    obtain ⟨after,ended,kept⟩ := matched_kept found
    have releases := unregisters _ _ ended
    by_cases owned : ∃ owner ∈ s.dev.externalDmabufs, Owns owner userAddr
    · obtain ⟨owner,listed,owns⟩ := owned
      obtain ⟨_,rfl⟩ := releases.owned owner listed owns
      exact released_unlisted listed kept
    · have refused := releases.unowned fun owner listed owns => owned ⟨owner,listed,owns⟩
      simp [ENOENT] at refused

theorem unregisters_of_untouched (untouched : ∀ alloc ∈ s.dev.externalDmabufs, ¬ Touches alloc userAddr) :
    Unregisters s userAddr := by
  intro outcome after ended
  have unmatched : s.dev.externalDmabufs.find? (matched userAddr) = none := by
    apply List.find?_eq_none.mpr
    intro alloc present found
    exact untouched alloc present (touches_of_matched found)
  rw [unmatched_refused unmatched] at ended
  refine ⟨?_,fun _ => ended⟩
  intro alloc present owns
  exact absurd owns.touches (untouched alloc present)

theorem unregisters_iff_untouched :
    Unregisters s userAddr ↔ ∀ alloc ∈ s.dev.externalDmabufs, ¬ Touches alloc userAddr :=
  ⟨untouched_of_unregisters,unregisters_of_untouched⟩

end

def lower : AxidmaExternalAllocation := ⟨1,3,7,8,0x1000,0x10000,⟨1,0x40000000⟩,0⟩
def upper : AxidmaExternalAllocation := ⟨2,4,9,10,0x1000,0x11000,⟨1,0x50000000⟩,0⟩

def adjacent : KernelState :=
  {KernelState.loaded {loadedDevice [] with externalDmabufs := [lower,upper]} with
    heap := [1,2]
    references := [7,9]
    attachments := [8,10]
    mappings := [8,10]}

-- The start of the upper page is the end of the lower one, which is released.
theorem adjacent_not_unregistered : Disjoint adjacent.dev.externalDmabufs ∧ ¬ Unregisters adjacent 0x11000 := by
  constructor
  · refine List.pairwise_pair.mpr (Window.apart_of_below ?_)
    decide
  · intro unregisters
    apply untouched_of_unregisters unregisters lower List.mem_cons_self
    unfold Touches
    decide

end Axidma.Unregistration
