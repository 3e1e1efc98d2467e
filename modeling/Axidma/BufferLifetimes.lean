import Axidma.Engine
import Axidma.Interleaving
import Axidma.MappedRegions
import Axidma.Registration
import Axidma.TransferCalls

namespace Axidma.BufferLifetimes
open Interaction
open Transition

-- What a call in progress holds: the buffers its addresses were translated from,
-- and the records it is to take off the list.
structure Holding where
  uses : List Source
  closing : List AxidmaDmaAllocation

structure System where
  kernel : KernelState
  running : List (Thread Axidma.kernel Fault Int Holding)
  calls : Nat

inductive Action where
  | mmap (caller : Caller) (area : VmAreaStruct)
  | munmap (range : VmAreaStruct)
  | register (caller : Caller) (extBuf : AxidmaRegisterBuffer)
  | request (client : Task) (session : Nat) (request : Request)
  | step
  | release
  | engine

def Holding.admits (holding : Holding) : KernelCall → Prop
  | .dmaengineSubmit _ txd => ∀ source ∈ txd.prepared.sources, source ∈ holding.uses
  | .dmaFreeCoherent alloc => alloc ∈ holding.closing
  | .listDelDmabuf alloc => alloc ∈ holding.closing
  | op => op.transfers

def Holding.advance (holding : Holding) : (op : KernelCall) → op.Reply → Holding
  | .listDelDmabuf alloc,_ => {holding with closing := holding.closing.filter fun other => decide (other ≠ alloc)}
  | _,_ => holding

def protocol : Protocol Axidma.kernel Holding := ⟨Holding.admits,Holding.advance⟩

def Released (holding : Holding) : Outcome Fault Int → Prop
  | .returned _ => holding.closing = []
  | .faulted _ => True

def System.unmap (s : System) (range : VmAreaStruct) : System := {s with
  kernel := s.kernel.split range
  running := ⟨⟨[],(removed range s.kernel.vmas).map (·.privateData)⟩,
    (do closeAll (removed range s.kernel.vmas); return 0)⟩ :: s.running}

def System.ask (s : System) (client : Task) (session : Nat) (request : Request) : System := {s with
  running := ⟨⟨request.sources s.kernel.dev,[]⟩,request.program s.kernel.dev ⟨client,s.calls,session⟩⟩ :: s.running
  calls := s.calls+1}

-- munmap and the requests go operation by operation. mmap and a registration are
-- one step: nobody sees what they do before their last call, the list_add. A
-- request reads the device once, when it translates; the kmalloc and the copies
-- from userspace before that commute with what others do.
inductive Step : System → Action → System → Prop where
  | mmap {s : System} {caller : Caller} {area : VmAreaStruct} {after : KernelState}
      (mapped : MemoryStep s.kernel (.mmap caller area) after) : Step s (.mmap caller area) {s with kernel := after}
  | munmap {s : System} {range : VmAreaStruct} (whole : Whole s.kernel (.munmap range)) :
      Step s (.munmap range) (s.unmap range)
  | register {s : System} {caller : Caller} {extBuf : AxidmaRegisterBuffer} {rc : Int} {after : KernelState}
      (executed : Exec kernelMachine (axidmaGetExternal caller extBuf) s.kernel (.returned rc) after) :
      Step s (.register caller extBuf) {s with kernel := after}
  | request {s : System} {client : Task} {session : Nat} {request : Request} :
      Step s (.request client session request) (s.ask client session request)
  | step {s : System} {after : KernelState} {running : List (Thread Axidma.kernel Fault Int Holding)}
      (taken : Interleave kernelMachine protocol s.kernel s.running after running) : Step s .step ⟨after,running,s.calls⟩
  -- axidma_release touches the private data of its file only.
  | release {s : System} : Step s .release s
  | engine {s : System} {after : KernelState} (taken : EngineStep s.kernel after) : Step s .engine {s with kernel := after}

def Live (kernel : KernelState) : Source → Prop
  | .dmabuf region => region ∉ kernel.freed
  | .external dmaAttach => dmaAttach ∈ kernel.mappings

structure Fresh (s : System) : Prop where
  unmapped : MappedRegions.Unmapped s.kernel
  externalDmabufs : s.kernel.dev.externalDmabufs = []
  queues : ∀ chan, s.kernel.queue chan = []
  running : s.running = []

def InUse (s : System) (source : Source) : Prop :=
  Active s.kernel source ∨ ∃ call ∈ s.running, source ∈ call.ghost.uses

def Closing (s : System) (alloc : AxidmaDmaAllocation) : Prop := ∃ call ∈ s.running, alloc ∈ call.ghost.closing

-- The client takes care: a munmap starts only where nothing uses the buffers, and
-- no request names a buffer that is being unmapped.
def Clear (s : System) : Action → Prop
  | .munmap range => ∀ vma ∈ removed range s.kernel.vmas, ¬ InUse s (.dmabuf vma.privateData.kernAddr)
  | .request _ _ request => ∀ alloc, Closing s alloc → .dmabuf alloc.kernAddr ∉ request.sources s.kernel.dev
  | _ => True

def Held (s : System) (alloc : AxidmaDmaAllocation) : Prop :=
  alloc ∈ s.kernel.vmas.map (·.privateData) ∨ Closing s alloc

-- The run invariant. What is in use is live and nobody is about to free it; a
-- record that is freed and still on the list belongs to a munmap in progress.
structure Guarded (s : System) : Prop where
  live : ∀ source, InUse s source → Live s.kernel source
  apart : ∀ alloc, Closing s alloc → ¬ InUse s (.dmabuf alloc.kernAddr)
  listed : ∀ entry ∈ s.kernel.dev.dmabufList, entry.kernAddr ∈ s.kernel.freed → Closing s entry
  matched : ∀ entry ∈ s.kernel.dev.dmabufList, ∀ alloc, Held s alloc → entry.kernAddr = alloc.kernAddr → entry = alloc
  freed : ∀ region ∈ s.kernel.freed, region ∈ s.kernel.regions
  used : ∀ region, InUse s (.dmabuf region) → region ∈ s.kernel.regions
  known : ∀ entry ∈ s.kernel.dev.dmabufList, entry.kernAddr ∈ s.kernel.regions
  held : ∀ alloc, Held s alloc → alloc.kernAddr ∈ s.kernel.regions
  distinct : (s.kernel.vmas.map (·.privateData)).Nodup
  registered : ∀ alloc ∈ s.kernel.dev.externalDmabufs, alloc.dmaAttach ∈ s.kernel.mappings
  conforming : Conforming protocol Released s.running

section
variable {s after : System}

theorem Fresh.guarded (fresh : Fresh s) : Guarded s := by
  have idle : ∀ source, ¬ InUse s source := by
    intro source used
    rcases used with ⟨chan,descriptor,queued,_⟩ | ⟨call,member,_⟩
    · rw [fresh.queues chan] at queued
      cases queued
    · rw [fresh.running] at member
      cases member
  have open' : ∀ alloc, ¬ Closing s alloc := by
    intro alloc closing
    obtain ⟨call,member,_⟩ := closing
    rw [fresh.running] at member
    cases member
  have held : ∀ alloc, ¬ Held s alloc := by
    intro alloc isHeld
    rcases isHeld with mapped | closing
    · simp [fresh.unmapped.vmas] at mapped
    · exact open' alloc closing
  refine ⟨?_,?_,?_,?_,?_,?_,?_,?_,?_,?_,?_⟩
  · exact fun source used => absurd used (idle source)
  · exact fun alloc closing => absurd closing (open' alloc)
  · simp [fresh.unmapped.dmabufList]
  · simp [fresh.unmapped.dmabufList]
  · simp [fresh.unmapped.freed]
  · exact fun region used => absurd used (idle _)
  · simp [fresh.unmapped.dmabufList]
  · exact fun alloc isHeld => absurd isHeld (held alloc)
  · simp [fresh.unmapped.vmas]
  · simp [fresh.externalDmabufs]
  · rw [fresh.running]
    exact fun _ member => absurd member List.not_mem_nil

structure Calm (s after : System) : Prop where
  memory : SameMemory s.kernel after.kernel
  uses : ∀ source, InUse after source → InUse s source
  closing : ∀ alloc, Closing after alloc ↔ Closing s alloc

theorem Guarded.calm (guarded : Guarded s) (calm : Calm s after) (conforming : Conforming protocol Released after.running) :
    Guarded after := by
  have held : ∀ alloc, Held after alloc → Held s alloc := by
    intro alloc held
    rw [Held,calm.memory.vmas,calm.closing] at held
    exact held
  have live : ∀ source, Live s.kernel source → Live after.kernel source := by
    intro source live
    cases source with
    | dmabuf region =>
      rw [Live,calm.memory.freed]
      exact live
    | external dmaAttach =>
      rw [Live,calm.memory.mappings]
      exact live
  refine ⟨?_,?_,?_,?_,?_,?_,?_,?_,?_,?_,conforming⟩
  · exact fun source used => live source (guarded.live source (calm.uses source used))
  · exact fun alloc closing used => guarded.apart alloc ((calm.closing alloc).mp closing) (calm.uses _ used)
  · rw [calm.memory.dmabufList,calm.memory.freed]
    exact fun entry member freed => (calm.closing entry).mpr (guarded.listed entry member freed)
  · rw [calm.memory.dmabufList]
    exact fun entry member alloc isHeld => guarded.matched entry member alloc (held alloc isHeld)
  · rw [calm.memory.freed,calm.memory.regions]
    exact guarded.freed
  · rw [calm.memory.regions]
    exact fun region used => guarded.used region (calm.uses _ used)
  · rw [calm.memory.dmabufList,calm.memory.regions]
    exact guarded.known
  · rw [calm.memory.regions]
    exact fun alloc isHeld => guarded.held alloc (held alloc isHeld)
  · rw [calm.memory.vmas]
    exact guarded.distinct
  · rw [calm.memory.externalDmabufs,calm.memory.mappings]
    exact guarded.registered

section
variable {kernel : KernelState} {before later : List (Thread Axidma.kernel Fault Int Holding)} {holding : Holding}
  {rest rest' : Driver Int} {calls : Nat}

end

end
def idle : System := ⟨.loaded (loadedDevice [⟨.read,.dma,0,"rx_channel",7⟩]),[],0⟩
def page : VmAreaStruct := ⟨0,0x10000,0x11000⟩
def buffer : AxidmaDmaAllocation := ⟨1,0x1000,0x10000,5,0x40000000,0⟩
def readPage : Request := .read ⟨false,0,0x10000,0x100,⟨0,0,0⟩⟩

theorem idle_fresh : Fresh idle := ⟨⟨rfl,rfl,rfl,rfl,rfl⟩,rfl,fun _ => rfl,rfl⟩

theorem mmap_page : Step idle (.mmap ⟨0,0,0⟩ page) {idle with kernel := idle.kernel.place page buffer} := by
  refine .mmap (@MemoryStep.mmap _ _ _ _ 0 (by decide) (fun vma member => absurd member List.not_mem_nil) ?_)
  refine ⟨some 1,⟨fun _ => by decide,fun _ _ => List.not_mem_nil⟩,(),trivial,some (5,0x40000000),?_,?_⟩
  · exact fun _ _ => List.not_mem_nil
  · exact ⟨(0 : Int),trivial,(),trivial,(),trivial,rfl,rfl⟩

theorem extend {taken : System → Action → System → Prop} {origin s : System} {actions : List Action} {holding : Holding}
    {op : KernelCall} {rest : op.Reply → Driver Int} {later : List (Thread Axidma.kernel Fault Int Holding)}
    (path : Runs taken origin actions s) (running : s.running = ⟨holding,.call op rest⟩ :: later) (reply : op.Reply)
    (given : s.kernel.gives op reply) (allowed : ∀ after, Step s .step after → taken s .step after) :
    Runs taken origin (actions++[.step]) ⟨s.kernel.perform op reply,⟨holding.advance op reply,rest reply⟩ :: later,s.calls⟩ := by
  refine .snoc path (allowed _ (.step ?_))
  rw [running]
  exact @Interleave.step _ _ _ _ _ kernelMachine protocol _ [] later holding op rest reply given

theorem reading : ∃ final, Runs (Restrict Clear Step) idle
    [.mmap ⟨0,0,0⟩ page,.request 0 0 readPage,.step,.step,.step,.step] final ∧ Active final.kernel (.dmabuf 5) ∧
    final.kernel.vmas = [⟨page,buffer⟩] := by
  have mapped : Runs (Restrict Clear Step) idle [.mmap ⟨0,0,0⟩ page] _ := .snoc .start ⟨trivial,mmap_page⟩
  have asked : Runs (Restrict Clear Step) idle [.mmap ⟨0,0,0⟩ page,.request 0 0 readPage] _ := .snoc mapped ⟨?_,.request⟩
  have prepared := extend asked rfl true trivial fun _ step => ⟨trivial,step⟩
  have stored := extend prepared rfl () trivial fun _ step => ⟨trivial,step⟩
  have submitted := extend stored rfl (1 : Int) trivial fun _ step => ⟨trivial,step⟩
  have issued := extend submitted rfl () trivial fun _ step => ⟨trivial,step⟩
  · refine ⟨_,issued,⟨7,_,List.mem_cons_self,?_,?_⟩,rfl⟩
    · decide
    · exact List.mem_cons_self
  · intro alloc closing
    obtain ⟨call,member,_⟩ := closing
    cases member

end Axidma.BufferLifetimes
