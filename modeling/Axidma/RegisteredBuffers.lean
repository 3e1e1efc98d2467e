import Axidma.ServedTransfers

namespace Axidma.RegisteredBuffers
open Interaction WordRange
open ClientPrograms DmaHeap DriverServer ServedTransfers

section
variable {client : Task} {s after : Driven}

theorem perform_lengthens {kernel : KernelState} {op : KernelCall} {reply : op.Reply} :
    kernel.dev.externalDmabufs <:+ (kernel.perform op reply).dev.externalDmabufs := by
  cases op with
  | listAddExternal alloc => exact List.suffix_cons _ _
  | dmaengineSubmit chan txd =>
    simp only [KernelState.perform]
    split <;> exact List.suffix_refl _
  | _ => first | exact List.suffix_refl _ | (cases reply <;> exact List.suffix_refl _)

theorem list_lengthens (listed : List AxidmaExternalAllocation) : Keeps fun s => listed <:+ s.1.dev.externalDmabufs where
  performed := fun _ _ _ start => start.trans perform_lengthens
  worked := fun _ _ start move => start.trans ⟨[],(engine_memory move.1).externalDmabufs.symm⟩
  cut := fun _ _ start => start

theorem moves_still (moves : Relation.ReflTransGen working s after) : Steady [] [] s.1 after.1 ∧ after.2 = s.2 := by
  induction moves with
  | refl => exact ⟨.refl _,rfl⟩
  | tail _ move ih => exact ⟨ih.1.engine move.1,move.2.trans ih.2⟩

theorem steady_windows {blocks : List Nat} {kernel last : KernelState} (still : Steady blocks [] kernel last) :
    Translation.windows last.dev = Translation.windows kernel.dev := by
  rw [Translation.windows,still.listed,still.lent,Translation.windows]
  rfl

theorem register_takes {dev : AxidmaDev} {dmabufFd : CInt} {userAddr : UserAddr} {size : SizeT}
    (ran : ExecOn (driverServer client) (axidmaRegisterBuffer dev dmabufFd userAddr size) s (.returned 0) after) :
    ∃ alloc, alloc.userAddr = userAddr ∧ alloc.size = size ∧ after.1.dev.externalDmabufs = alloc :: s.1.dev.externalDmabufs := by
  obtain ⟨rc,last,⟨worked,moves,service⟩,returned,rfl⟩ := ran
  cases returned
  rcases service with ⟨failed,_⟩ | ⟨addr,call,session,called⟩
  · exact absurd failed (Int.lt_irrefl 0)
  · obtain ⟨g,honest,follows,ended⟩ := called_traces (register_registered _) called
    obtain ⟨_,⟨failed,_⟩ | ⟨_,alloc,one,start,length⟩⟩ := ended honest 0 rfl
    · exact absurd failed (Int.lt_irrefl 0)
    · refine ⟨alloc,start,length,?_⟩
      rw [follows.still.lent,one,(moves_still moves).1.lent]
      rfl

-- A transfer over the driver, whatever else a client has done to it.
theorem transfer_served {fd : Int} {cmd : CInt} {arg : IoctlArg} {parts : List Part} {wait : Bool} {rc : Int}
    (asked : transferOf s.1.dev.channels cmd arg = some (parts,wait)) (proper : ∀ part ∈ parts, part.Proper)
    (served : driverServer client s (.library (.ioctl fd cmd arg)) rc after) :
    ∃ new, after.2 = s.2++new ∧ Transfers s.1.dev.channels (Translation.windows s.1.dev) parts wait rc new := by
  obtain ⟨worked,moves,service⟩ := served
  obtain ⟨still,quiet⟩ := moves_still moves
  have table : worked.1.dev.channels = s.1.dev.channels := congrArg LibrarySessions.DriverTable.channels still.table
  rcases service with ⟨failed,rfl⟩ | ⟨addr,call,session,called⟩
  · exact ⟨[],by rw [quiet,List.append_nil],.refused failed⟩
  · rw [← table] at asked
    obtain ⟨g,honest,follows,ended⟩ := called_traces (ioctl_answered asked proper) called
    obtain ⟨_,_,transfers⟩ := ended honest rc rfl
    rw [table,steady_windows still] at transfers
    exact ⟨g.told,by rw [follows.log,quiet],transfers⟩

end

section
variable {channels : List AxidmaChan} {windows others : List (Window 64)} {parts : List Part} {wait : Bool} {rc : Int} {new : List Told}

-- Only the buffers that take the ranges of a transfer matter to it.
theorem resolves_taken {resolved : List (AxidmaChan × Prepared)} (all : List.Forall₂ (Resolves channels windows) parts resolved)
    (same : ∀ part ∈ parts, taker windows part.buf part.bufLen = taker others part.buf part.bufLen) :
    List.Forall₂ (Resolves channels others) parts resolved := by
  induction all with
  | nil => exact .nil
  | cons first _ ih =>
    obtain ⟨win,taken,describes⟩ := first.described
    refine .cons ⟨first.found,first.fits,win,?_,describes⟩ (ih fun part member => same part (List.mem_cons_of_mem _ member))
    exact (same _ List.mem_cons_self).symm.trans taken

theorem transfers_taken (transfers : Transfers channels windows parts wait rc new)
    (same : ∀ part ∈ parts, taker windows part.buf part.bufLen = taker others part.buf part.bufLen) :
    Transfers channels others parts wait rc new := by
  cases transfers with
  | carried all => exact .carried (resolves_taken all same)
  | refused failed => exact .refused failed
  | stopped failed all begun one => exact .stopped failed (resolves_taken all same) begun one

theorem taker_behind {nearer farther : List (Window 64)} {win : Window 64} {addr : UserAddr} {size : SizeT}
    (free : taker nearer addr size = none) (ends : win.EndFits) (inside : win.Contains addr size) :
    taker (nearer++win :: farther) addr size = some win := by
  rw [taker] at free
  rw [taker,List.find?_append,free,List.find?_cons_of_pos (by simp [ends,inside])]
  rfl

end

-- A request of any client for ranges in the buffer that no buffer mapped by now and none
-- registered since takes goes where it would go were this the only buffer.
def Usable (alloc : AxidmaExternalAllocation) (newer : List AxidmaExternalAllocation) (s : Driven) : Prop :=
  ∀ (client : Task) (fd : Int) (cmd : CInt) (arg : IoctlArg) (parts : List Part) (wait : Bool) (rc : Int) (after : Driven),
    transferOf s.1.dev.channels cmd arg = some (parts,wait) →
    (∀ part ∈ parts, 0 < part.bufLen.toNat ∧ (Translation.ofExternal alloc).Contains part.buf part.bufLen ∧
      taker (s.1.dev.dmabufList.map Translation.ofDmabuf++newer.map Translation.ofExternal) part.buf part.bufLen = none) →
    driverServer client s (.library (.ioctl fd cmd arg)) rc after →
    ∃ new, after.2 = s.2++new ∧ Transfers s.1.dev.channels [Translation.ofExternal alloc] parts wait rc new

def Served (s after : Driven) : Prop := ∃ (client : Task) (op : ProgramCall) (reply : op.Reply), driverServer client s op reply after

theorem listed_usable {alloc : AxidmaExternalAllocation} {newer older : List AxidmaExternalAllocation} {s : Driven}
    (listed : s.1.dev.externalDmabufs = newer++alloc :: older) (ends : (Translation.ofExternal alloc).EndFits) :
    Usable alloc newer s := by
  intro client fd cmd arg parts wait rc after asked inside served
  have proper : ∀ part ∈ parts, part.Proper := fun part member =>
    ⟨(inside part member).1,(inside part member).2.1.fits ends⟩
  obtain ⟨new,log,transfers⟩ := transfer_served asked proper served
  refine ⟨new,log,transfers_taken transfers fun part member => ?_⟩
  obtain ⟨_,contains,free⟩ := inside part member
  have alone : taker [Translation.ofExternal alloc] part.buf part.bufLen = some (Translation.ofExternal alloc) :=
    @taker_behind [] [] _ _ _ rfl ends contains
  rw [alone,Translation.windows,listed,List.map_append,List.map_cons,← List.append_assoc]
  exact taker_behind free ends contains

theorem served_lengthens {s after : Driven} (calls : Relation.ReflTransGen Served s after) :
    s.1.dev.externalDmabufs <:+ after.1.dev.externalDmabufs := by
  induction calls with
  | refl => exact List.suffix_refl _
  | tail _ call ih =>
    obtain ⟨client,op,reply,worked,moves,service⟩ := call
    have keeps := list_lengthens s.1.dev.externalDmabufs
    exact keeps.serves service (keeps.moves moves ih)

theorem registered_usable {client : Task} {s registered : Driven} {dev : AxidmaDev} {dmabufFd : CInt} {userAddr : UserAddr} {size : SizeT}
    (ends : userAddr.toNat+size.toNat < 2^64)
    (took : ExecOn (driverServer client) (axidmaRegisterBuffer dev dmabufFd userAddr size) s (.returned 0) registered) :
    ∃ alloc : AxidmaExternalAllocation, alloc.userAddr = userAddr ∧ alloc.size = size ∧
      ∀ later, Relation.ReflTransGen Served registered later →
        ∃ newer, later.1.dev.externalDmabufs = newer++alloc :: s.1.dev.externalDmabufs ∧ Usable alloc newer later := by
  obtain ⟨alloc,rfl,rfl,listed⟩ := register_takes took
  refine ⟨alloc,rfl,rfl,fun later calls => ?_⟩
  obtain ⟨newer,grown⟩ := served_lengthens calls
  rw [listed] at grown
  exact ⟨newer,grown.symm,listed_usable grown.symm ends⟩

def shared : AxidmaExternalAllocation where
  node := 1
  fd := 3
  dmaBuf := 7
  dmaAttach := 8
  size := 0x1000
  userAddr := 0x10000
  sgTable := ⟨1,0x40000000⟩
  session := 0

def oneChannel : List AxidmaChan := [⟨.read,.dma,0,"rx_channel",7⟩]

def sharing : Driven :=
  ({KernelState.loaded (loadedDevice oneChannel) with
    dev := {loadedDevice oneChannel with externalDmabufs := [shared]}
    heap := [1]
    references := [7]
    attachments := [8]
    mappings := [8]},[])

theorem page_registers : Called (holding 0x2000 (readsBuffer ⟨3,0x1000,0x10000⟩))
    (axidmaIoctl (loadedDevice oneChannel) ⟨7,0,0⟩ AXIDMA_REGISTER_BUFFER 0x2000) (loadedDriver oneChannel) 0 sharing := by
  apply Exec.amid
  refine ⟨true,⟨fun _ => by decide,trivial⟩,true,⟨fun _ => by decide,trivial⟩,(0,⟨3,0x1000,0x10000⟩),⟨trivial,fun _ _ => rfl⟩,some 1,
    ⟨⟨fun _ => by decide,fun _ _ => List.not_mem_nil⟩,trivial⟩,?_⟩
  refine ⟨.ok 7,⟨trivial,trivial⟩,.ok 8,⟨fun _ _ => List.not_mem_nil,trivial⟩,.ok ⟨1,0x40000000⟩,⟨trivial,trivial⟩,?_⟩
  exact ⟨(),⟨trivial,trivial⟩,rfl,rfl⟩

theorem page_usable : ∃ alloc : AxidmaExternalAllocation, alloc.userAddr = 0x10000 ∧ alloc.size = 0x1000 ∧
    ∀ later, Relation.ReflTransGen Served sharing later →
      ∃ newer, later.1.dev.externalDmabufs = newer++alloc :: (loadedDriver oneChannel).1.dev.externalDmabufs ∧ Usable alloc newer later :=
  @registered_usable 7 (loadedDriver oneChannel) sharing zeroedDev 3 0x10000 0x1000 (by decide)
    ⟨0,sharing,⟨loadedDriver oneChannel,.refl,.inr ⟨0x2000,0,0,page_registers⟩⟩,rfl,rfl⟩

end Axidma.RegisteredBuffers
