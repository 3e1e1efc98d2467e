import Mathlib.Logic.Relation
import Axidma.BackedRanges
import Axidma.DmaHeap
import Axidma.Sessions
import Axidma.LibraryTransfers

namespace Axidma.DriverServer
open Interaction WordRange
open ClientPrograms DmaHeap

def told : (op : KernelCall) → op.Reply → List Told
  | .dmaengineSubmit chan txd,cookie => if cookie < (0 : Int) then [] else [.submitted chan txd.prepared]
  | .dmaAsyncIssuePending chan,_ => [.issued chan]
  | .dmaAsyncIsTxComplete chan _,status => if status = DmaStatus.complete then [.completed chan] else []
  | .dmaengineTerminateAll chan,_ => [.terminated chan]
  | _,_ => []

-- What is there for the one client: the kernel, and what the engine was told.
abbrev Driven := KernelState × List Told

-- What a call finds where a structure of this kind should be.
abbrev Argument := (kind : UserStruct) → kind.Value → Prop

-- The argument structure of a call lies at the address, or cannot be copied.
def holding (addr : UserAddr) (reads : Argument) : Machine kernel KernelState where
  gives := fun s op reply => s.gives op reply ∧ match op,reply with
    | .copyFromUser kind source,reply => source = addr → reply.1 = 0 → reads kind reply.2
    | _,_ => True
  perform := KernelState.perform

-- The engine goes on by itself, also in the middle of a call.
def working (s after : Driven) : Prop := EngineStep s.1 after.1 ∧ after.2 = s.2

def Called {α : Type} (machine : Machine kernel KernelState) (program : Driver α) (s : Driven) (value : α) (after : Driven) : Prop :=
  ExecAmid (machine.noting told) working program s (.returned value) after

def readsBuffer (extBuf : AxidmaRegisterBuffer) : Argument
  | .registerBuffer,value => value = extBuf
  | _,_ => True

def range (client : Task) (addr : UserAddr) (length : SizeT) : VmAreaStruct := ⟨client,addr,addr+pageAlign length⟩

-- How the kernel serves a client, which has the device open. A call it refuses does
-- not reach the driver.
def serves (client : Task) (s : Driven) : (op : ProgramCall) → op.Reply → Driven → Prop
  | .mmap _ length,reply,after => (reply = none ∧ after = s) ∨
      ∃ area rc call session, area.vmMm = client ∧ area.vmStart < area.vmEnd ∧ area.vmEnd-area.vmStart = pageAlign length ∧
        (∀ vma ∈ s.1.vmas, overlaps vma.area area = false) ∧
        Called kernelMachine (axidmaMmap ⟨client,call,session⟩ area) s rc after ∧
        reply = if rc = 0 then some area.vmStart else none
  | .munmap addr length,rc,after => (rc < (0 : Int) ∧ after = s) ∨
      (rc = (0 : Int) ∧ addr < addr+pageAlign length ∧
        Called kernelMachine (closeAll (removed (range client addr length) s.1.vmas)) (s.1.split (range client addr length),s.2) () after)
  | .library (.ioctl _ cmd arg),rc,after => (rc < (0 : Int) ∧ after = s) ∨
      ∃ addr call session, Called (holding addr (ServedIoctls.Reads arg)) (axidmaIoctl s.1.dev ⟨client,call,session⟩ cmd addr)
        s rc after
  | .registerBuffer _ extBuf,rc,after => (rc < (0 : Int) ∧ after = s) ∨
      ∃ addr call session, Called (holding addr (readsBuffer extBuf))
        (axidmaIoctl s.1.dev ⟨client,call,session⟩ AXIDMA_REGISTER_BUFFER addr) s rc after
  | .unregisterBuffer _ userAddr,rc,after => (rc < (0 : Int) ∧ after = s) ∨
      ∃ call session, Called kernelMachine (axidmaIoctl s.1.dev ⟨client,call,session⟩ AXIDMA_UNREGISTER_BUFFER userAddr) s rc after
  | .library (.setDmaSignal _ signal),rc,after => (rc < (0 : Int) ∧ after = s) ∨
      ∃ call session, Called kernelMachine
        (axidmaIoctl s.1.dev ⟨client,call,session⟩ AXIDMA_SET_DMA_SIGNAL (BitVec.ofInt 64 signal)) s rc after
  | .library (.getNumDmaChannels _),reply,after => (reply.1 < (0 : Int) ∧ after = s) ∨
      (∃ addr call session, Called kernelMachine
        (axidmaIoctl s.1.dev ⟨client,call,session⟩ AXIDMA_GET_NUM_DMA_CHANNELS addr) s reply.1 after) ∧
        (reply.1 = 0 → reply.2 = axidmaGetNumChannels s.1.dev)
  | .library (.getDmaChannels _ _),reply,after => (reply.1 < (0 : Int) ∧ after = s) ∨
      (∃ addr call session, Called kernelMachine
        (axidmaIoctl s.1.dev ⟨client,call,session⟩ AXIDMA_GET_DMA_CHANNELS addr) s reply.1 after) ∧
        (reply.1 = 0 → reply.2.1 = axidmaGetChannelInfo s.1.dev)
  | _,_,after => after = s

def driverServer (client : Task) : Server process Driven := fun s op reply after =>
  ∃ middle, Relation.ReflTransGen working s middle ∧ serves client middle op reply after

def alone (kernel : KernelState) : Sessions.System := ⟨kernel,[],[],[]⟩

-- A mapping that no munmap has cut.
structure Uncut (vma : Vma) : Prop where
  start : vma.privateData.userAddr = vma.area.vmStart
  size : vma.privateData.size = vma.area.vmEnd-vma.area.vmStart
  nonempty : vma.area.vmStart < vma.area.vmEnd

structure Represents (client : Task) (channels : List AxidmaChan) (s : Driven) (t : Heap) : Prop where
  kept : Sessions.Kept (fun _ => client) (alone s.1)
  uncut : ∀ vma ∈ s.1.vmas, Uncut vma
  table : LibraryTransfers.driverTable s.1.dev = tableOf channels
  live : t.live = s.1.dev.dmabufList.map Translation.ofDmabuf
  lent : t.lent = s.1.dev.externalDmabufs.map Translation.ofExternal
  log : t.log = s.2

def Related (client : Task) (channels : List AxidmaChan) (s : Driven) : Option Heap → Prop
  | some t => Represents client channels s t
  | none => True

-- The driver before anyone has used it.
def loadedDriver (channels : List AxidmaChan) : Driven := (.loaded (loadedDevice channels),[])

def noBuffers : Heap := ⟨[],[],[],by simp,.nil⟩

-- The calls that leave the mappings alone. A block of memory may only be given back
-- by the call that took it, and no buffer that was registered goes.
def steady (blocks : List Nat) : KernelCall → Prop
  | .accessOk _ _ _ => True
  | .copyFromUser _ _ => True
  | .copyToUser _ _ => True
  | .readUserPointer _ => True
  | .storeNotifySignal _ => True
  | .kfree ptr => blocks.head? = some ptr
  | .dmaBufGet _ => True
  | .dmaBufAttach _ => True
  | .dmaBufMapAttachment _ => True
  | .dmaBufUnmapAttachment _ _ => True
  | .dmaBufDetach _ _ => True
  | .dmaBufPut _ => True
  | .listAddExternal _ => True
  | op => op.transfers

-- The blocks that a call has taken, the latest first.
def taken (blocks : List Nat) : (op : KernelCall) → op.Reply → List Nat
  | .kmalloc _,some ptr => ptr :: blocks
  | .kfree _,_ => blocks.tail
  | _,_ => blocks

def lending (lent : List AxidmaExternalAllocation) : KernelCall → List AxidmaExternalAllocation
  | .listAddExternal alloc => alloc :: lent
  | _ => lent

structure Steady (blocks : List Nat) (lent : List AxidmaExternalAllocation) (kernel after : KernelState) : Prop where
  listed : after.dev.dmabufList = kernel.dev.dmabufList
  lent : after.dev.externalDmabufs = lent++kernel.dev.externalDmabufs
  vmas : after.vmas = kernel.vmas
  heap : after.heap = blocks++kernel.heap
  table : LibraryTransfers.driverTable after.dev = LibraryTransfers.driverTable kernel.dev

section
variable {client : Task} {channels : List AxidmaChan} {blocks : List Nat} {lent : List AxidmaExternalAllocation}
  {kernel after : KernelState} {s : Driven} {t : Heap}

theorem Steady.refl (kernel : KernelState) : Steady [] [] kernel kernel := ⟨rfl,rfl,rfl,rfl,rfl⟩

theorem perform_lists {op : KernelCall} {reply : op.Reply} (admitted : steady blocks op) :
    (kernel.perform op reply).dev.dmabufList = kernel.dev.dmabufList ∧
      (kernel.perform op reply).dev.externalDmabufs = lending [] op++kernel.dev.externalDmabufs ∧
      (kernel.perform op reply).vmas = kernel.vmas ∧
      LibraryTransfers.driverTable (kernel.perform op reply).dev = LibraryTransfers.driverTable kernel.dev := by
  cases op with
  | dmaengineSubmit chan txd =>
    simp only [KernelState.perform]
    split <;> exact ⟨rfl,rfl,rfl,rfl⟩
  | _ => first | exact ⟨rfl,rfl,rfl,rfl⟩ | (cases reply <;> exact ⟨rfl,rfl,rfl,rfl⟩) | exact admitted.elim

theorem perform_heap {op : KernelCall} {reply : op.Reply} (admitted : steady blocks op)
    (heap : after.heap = blocks++kernel.heap) : (after.perform op reply).heap = taken blocks op reply++kernel.heap := by
  cases op with
  | kmalloc size =>
    cases reply with
    | none => exact heap
    | some ptr => exact congrArg (ptr :: ·) heap
  | kfree ptr =>
    cases blocks with
    | nil => cases admitted
    | cons first rest =>
      cases admitted
      show after.heap.erase ptr = _
      rw [heap,List.cons_append,List.erase_cons_head]
      rfl
  | dmaengineSubmit chan txd =>
    simp only [KernelState.perform]
    split <;> exact heap
  | _ => first | exact heap | (cases reply <;> exact heap)

theorem lending_append {op : KernelCall} : lending [] op++lent = lending lent op := by
  cases op <;> rfl

theorem Steady.perform {op : KernelCall} {reply : op.Reply} (still : Steady blocks lent kernel after)
    (admitted : steady blocks op) : Steady (taken blocks op reply) (lending lent op) kernel (after.perform op reply) := by
  obtain ⟨listed,external,vmas,table⟩ := @perform_lists blocks after op reply admitted
  refine ⟨listed.trans still.listed,?_,vmas.trans still.vmas,perform_heap admitted still.heap,table.trans still.table⟩
  rw [external,still.lent,← List.append_assoc,lending_append]

theorem Steady.engine {last : KernelState} (still : Steady blocks lent kernel after) (taken : EngineStep after last) :
    Steady blocks lent kernel last := by
  have memory := engine_memory taken
  refine ⟨memory.dmabufList.trans still.listed,memory.externalDmabufs.trans still.lent,memory.vmas.trans still.vmas,
    (engine_heap taken).trans still.heap,?_⟩
  cases taken with
  | finish => exact still.table
  | @callback _ chan before rest descriptor was _ executed =>
    obtain rfl := ensures_iff.mp (callback_ends _) _ _ executed
    cases (after.slots descriptor.txd.callbackParam).notification <;> exact still.table

-- What the client sees once a call has told the engine this and registered these.
def grown (t : Heap) (new : List Told) (lent : List AxidmaExternalAllocation) : Heap :=
  {t.tell new with lent := lent.map Translation.ofExternal++t.lent}

theorem Represents.steady {new : List Told} (rep : Represents client channels s t) (still : Steady blocks lent s.1 kernel) :
    Represents client channels (kernel,s.2++new) (grown t new lent) := by
  have kept := rep.kept
  have owned : Sessions.System.owned (alone kernel) = Sessions.System.owned (alone s.1) := by
    simp only [Sessions.System.owned,alone,still.vmas]
  refine ⟨⟨?_,?_,?_,?_,fun thread none => absurd none List.not_mem_nil⟩,?_,?_,?_,?_,?_⟩
  · exact (still.listed.trans kept.listed).trans (congrArg _ still.vmas.symm)
  · rw [owned]
    exact kept.distinct
  · rw [owned]
    intro ptr member
    exact still.heap ▸ List.mem_append_right _ (kept.live ptr member)
  · intro vma member
    exact kept.placed vma (still.vmas ▸ member)
  · intro vma member
    exact rep.uncut vma (still.vmas ▸ member)
  · exact still.table.trans rep.table
  · exact rep.live.trans (congrArg _ still.listed.symm)
  · show lent.map Translation.ofExternal++t.lent = _
    rw [rep.lent,still.lent,List.map_append]
  · exact congrArg (·++new) rep.log

theorem works_on {last : Driven} (rep : Represents client channels s t) (moves : Relation.ReflTransGen working s last) :
    Represents client channels last t := by
  induction moves with
  | refl => exact rep
  | @tail middle last _ moved ih =>
    obtain ⟨taken,same⟩ := moved
    have still : Represents client channels (last.1,middle.2++[]) (t.tell []) := ih.steady ((Steady.refl _).engine taken)
    rw [List.append_nil,tell_nothing,← same] at still
    exact still

theorem works_related {last : Driven} {upper : Option Heap} (related : Related client channels s upper)
    (moves : Relation.ReflTransGen working s last) : Related client channels last upper := by
  cases upper with
  | none => trivial
  | some t => exact works_on related moves

-- An uncut mapping and its window end at the same address.
theorem Uncut.window {vma : Vma} (uncut : Uncut vma) : (Translation.ofDmabuf vma.privateData).start = vma.area.vmStart ∧
    (Translation.ofDmabuf vma.privateData).start+(Translation.ofDmabuf vma.privateData).size = vma.area.vmEnd ∧
    0 < (Translation.ofDmabuf vma.privateData).size.toNat ∧ (Translation.ofDmabuf vma.privateData).EndFits := by
  have ends := BackedRanges.span_ends uncut.nonempty
  have order := BitVec.lt_def.mp uncut.nonempty
  have bound := vma.area.vmEnd.isLt
  have fits : vma.area.vmStart.toNat+(vma.area.vmEnd-vma.area.vmStart).toNat < 2^64 := by omega
  simp only [Translation.ofDmabuf,uncut.start,uncut.size,Window.EndFits]
  refine ⟨trivial,?_,by omega,fits⟩
  apply BitVec.eq_of_toNat_eq
  rw [add_fits fits,ends]

theorem window_touched {vma : Vma} {addr : UserAddr} {length : SizeT} (uncut : Uncut vma) (own : vma.area.vmMm = client) :
    overlaps vma.area (range client addr length) = touches addr (pageAlign length) (Translation.ofDmabuf vma.privateData) ∧
      within vma.area (range client addr length) = encloses addr (pageAlign length) (Translation.ofDmabuf vma.privateData) := by
  obtain ⟨start,ends,_,_⟩ := uncut.window
  rw [touches,encloses,ends,start]
  simp only [overlaps,within,range,own,decide_true,Bool.true_and]
  exact ⟨rfl,rfl⟩

theorem Represents.listed (rep : Represents client channels s t) :
    t.live = s.1.vmas.map fun vma => Translation.ofDmabuf vma.privateData := by
  have listed : s.1.dev.dmabufList = s.1.vmas.map (·.privateData) := rep.kept.listed
  rw [rep.live,listed,List.map_map]
  rfl

theorem Represents.own (rep : Represents client channels s t) {vma : Vma} (member : vma ∈ s.1.vmas) : vma.area.vmMm = client :=
  rep.kept.placed vma member

-- A new mapping lies beside the ones that are there.
theorem new_apart {area : VmAreaStruct} {alloc : AxidmaDmaAllocation} (rep : Represents client channels s t)
    (own : area.vmMm = client) (uncut : Uncut ⟨area,alloc⟩) (free : ∀ vma ∈ s.1.vmas, overlaps vma.area area = false) :
    ∀ win ∈ t.live, Window.Apart (Translation.ofDmabuf alloc) win := by
  intro win member
  rw [rep.listed] at member
  obtain ⟨vma,present,rfl⟩ := List.mem_map.mp member
  have clear := free vma present
  obtain ⟨start,ends,_,fits⟩ := (rep.uncut vma present).window
  obtain ⟨start',ends',_,fits'⟩ := uncut.window
  have bounds : vma.area.vmEnd ≤ area.vmStart ∨ area.vmEnd ≤ vma.area.vmStart := by
    simpa only [overlaps,rep.own present,own,decide_true,Bool.true_and,Bool.and_eq_false_iff,decide_eq_false_iff_not,
      BitVec.not_lt,or_comm] using clear
  rintro n ⟨⟨above,below⟩,⟨above',below'⟩⟩
  have first : n < area.vmEnd.toNat := by
    rw [← ends',add_fits fits']
    exact below
  have second : n < vma.area.vmEnd.toNat := by
    rw [← ends,add_fits fits]
    exact below'
  rw [start'] at above
  rw [start] at above'
  simp only at above
  rcases bounds with order | order
  · have order := BitVec.le_def.mp order
    omega
  · have order := BitVec.le_def.mp order
    omega

def Silent (op : KernelCall) : Prop := ∀ reply, told op reply = []

-- What mmap and munmap ask for. The engine does not look at any of it.
def maps : KernelCall → Prop
  | .kmalloc _ => True
  | .kfree _ => True
  | .ofDmaConfigure => True
  | .dmaAllocCoherent _ => True
  | .dmaFreeCoherent _ => True
  | .dmaMmapCoherent _ _ => True
  | .storeVmPrivateData _ _ => True
  | .listAddDmabuf _ => True
  | .listDelDmabuf _ => True
  | _ => False

theorem maps_silent {op : KernelCall} (mapping : maps op) : Silent op := by
  intro reply
  cases op with
  | kmalloc | kfree | ofDmaConfigure | dmaAllocCoherent | dmaFreeCoherent | dmaMmapCoherent | storeVmPrivateData => rfl
  | listAddDmabuf | listDelDmabuf => rfl
  | _ => exact mapping.elim

theorem gives_aside {op : KernelCall} {reply : op.Reply} (mapping : maps op) (memory : SameMemory kernel after)
    (heap : after.heap = kernel.heap) (given : after.gives op reply) : kernel.gives op reply := by
  cases op with
  | kmalloc size => exact ⟨given.1,heap ▸ given.2⟩
  | dmaAllocCoherent size =>
    intro region got
    exact memory.regions ▸ given region got
  | kfree | ofDmaConfigure | dmaFreeCoherent | dmaMmapCoherent | storeVmPrivateData | listAddDmabuf | listDelDmabuf => trivial
  | _ => exact mapping.elim

theorem queue_aside {op : KernelCall} {reply : op.Reply} (mapping : maps op) :
    (kernel.perform op reply).queue = kernel.queue ∧ (kernel.perform op reply).slots = kernel.slots := by
  cases op with
  | kmalloc | dmaAllocCoherent => cases reply <;> exact ⟨rfl,rfl⟩
  | kfree | ofDmaConfigure | dmaFreeCoherent | dmaMmapCoherent | storeVmPrivateData | listAddDmabuf | listDelDmabuf => exact ⟨rfl,rfl⟩
  | _ => exact mapping.elim

theorem requeued_aside {op : KernelCall} {reply : op.Reply} {queue : DmaChan → List Descriptor} (mapping : maps op) :
    ({kernel with queue := queue} : KernelState).perform op reply = {kernel.perform op reply with queue := queue} := by
  cases op with
  | kmalloc | dmaAllocCoherent => cases reply <;> rfl
  | kfree | ofDmaConfigure | dmaFreeCoherent | dmaMmapCoherent | storeVmPrivateData | listAddDmabuf | listDelDmabuf => rfl
  | _ => exact mapping.elim

theorem notified_aside {op : KernelCall} {reply : op.Reply} {notification : Notification} (mapping : maps op) :
    (kernel.notified notification).perform op reply = (kernel.perform op reply).notified notification := by
  cases notification with
  | signals | nothing => rfl
  | completes comp =>
    cases op with
    | kmalloc | dmaAllocCoherent => cases reply <;> rfl
    | kfree | ofDmaConfigure | dmaFreeCoherent | dmaMmapCoherent | storeVmPrivateData | listAddDmabuf | listDelDmabuf => rfl
    | _ => exact mapping.elim

theorem engine_aside {op : KernelCall} {reply : op.Reply} (mapping : maps op) (taken : EngineStep kernel after) :
    EngineStep (kernel.perform op reply) (after.perform op reply) := by
  obtain ⟨queue,slots⟩ := @queue_aside kernel op reply mapping
  cases taken with
  | @finish chan before rest descriptor queued earlier issued =>
    have same := @requeued_aside kernel op reply (Function.update kernel.queue chan (before++{descriptor with stage := .done} :: rest)) mapping
    rw [same,← queue]
    exact .finish (queue ▸ queued) earlier issued
  | @callback _ chan before rest descriptor queued done executed =>
    obtain rfl := ensures_iff.mp (callback_ends _) _ _ executed
    have same := @requeued_aside kernel op reply (Function.update kernel.queue chan (before++rest)) mapping
    rw [notified_aside mapping,same,← slots,← queue]
    exact .callback (queue ▸ queued) done (callback_runs _)

theorem working_aside {middle : Driven} {op : KernelCall} {reply : op.Reply} (mapping : maps op) (moved : working s middle)
    (given : (kernelMachine.noting told).gives middle op reply) : (kernelMachine.noting told).gives s op reply ∧
      working ((kernelMachine.noting told).perform s op reply) ((kernelMachine.noting told).perform middle op reply) := by
  obtain ⟨taken,same⟩ := moved
  exact ⟨gives_aside mapping (engine_memory taken) (engine_heap taken) given,engine_aside mapping taken,congrArg (·++told op reply) same⟩

-- The engine may go on in the middle of such a call. It could as well do so afterwards.
theorem maps_alone {α : Type} {program : Driver α} {value : α} {last : Driven} (does : Does maps (fun _ => True) program)
    (called : Called kernelMachine program s value last) : ∃ middle : KernelState,
      Exec kernelMachine program s.1 (.returned value) middle ∧ Relation.ReflTransGen working (middle,s.2) last := by
  obtain ⟨⟨middle,notes⟩,executed,moves⟩ := called.alone does (fun _ _ _ given => gives_legal given)
    fun _ _ _ _ => working_aside
  have log : notes = s.2 := does.unnoted (fun _ _ _ given => gives_legal given) (fun op reply mapping => maps_silent mapping reply) executed
  exact ⟨middle,executed.unnoted,log ▸ moves⟩

theorem mmap_maps {caller : Caller} {area : VmAreaStruct} : Does maps (fun _ => True) (axidmaMmap caller area) := by
  unfold axidmaMmap
  refine ⟨trivial,fun node _ => ?_⟩
  cases node with
  | none => trivial
  | some node =>
    refine ⟨trivial,fun _ _ => ⟨trivial,fun region _ => ?_⟩⟩
    cases region with
    | none => exact ⟨trivial,fun _ _ => trivial⟩
    | some region =>
      refine ⟨trivial,fun rc _ => does_if (fun _ => ?_) fun _ => ?_⟩
      · exact ⟨trivial,fun _ _ => ⟨trivial,fun _ _ => trivial⟩⟩
      · exact ⟨trivial,fun _ _ => ⟨trivial,fun _ _ => trivial⟩⟩

theorem close_maps {vmas : List Vma} : Does maps (fun _ => True) (closeAll vmas) := by
  induction vmas with
  | nil => trivial
  | cons vma rest ih => exact ⟨trivial,fun _ _ => ⟨trivial,fun _ _ => ⟨trivial,fun _ _ => ih⟩⟩⟩

theorem closeAll_table {vmas : List Vma} :
    Ensures kernelMachine (fun _ after => LibraryTransfers.driverTable after.dev = LibraryTransfers.driverTable kernel.dev)
      (closeAll vmas) kernel := by
  induction vmas generalizing kernel with
  | nil => rfl
  | cons vma rest ih =>
    refine ensures_bind (close_ends.mono ?_)
    intro outcome after ended
    obtain ⟨rfl,rfl⟩ := ended
    have table : LibraryTransfers.driverTable (kernel.close vma.privateData).dev = LibraryTransfers.driverTable kernel.dev := rfl
    rw [← table]
    exact ih

theorem map_served {length : SizeT} {area : VmAreaStruct} {rc : Int} {call session : Nat}
    (rep : Represents client channels s t) (own : area.vmMm = client) (nonempty : area.vmStart < area.vmEnd)
    (sized : area.vmEnd-area.vmStart = pageAlign length) (free : ∀ vma ∈ s.1.vmas, overlaps vma.area area = false)
    (executed : Exec kernelMachine (axidmaMmap ⟨client,call,session⟩ area) s.1 (.returned rc) kernel) :
    ∃ upper, Allowed channels t (.mmap 0 length) (if rc = 0 then some area.vmStart else none) upper ∧
      Related client channels (kernel,s.2) upper := by
  have ends := ensures_iff.mp mmap_ends _ _ executed
  have kept := @Sessions.mmap_kept (fun _ => client) (alone s.1) session area kernel (.returned rc) call rep.kept own ends
  have failed : rc < 0 → kernel.vmas = s.1.vmas → kernel.dev = s.1.dev →
      ∃ upper, Allowed channels t (.mmap 0 length) (if rc = 0 then some area.vmStart else none) upper ∧
        Related client channels (kernel,s.2) upper := by
    intro negative vmas dev
    refine ⟨some t,.inl ⟨if_neg (Int.ne_of_lt negative),rfl⟩,kept,?_,?_,?_,?_,rep.log⟩
    · exact fun vma member => rep.uncut vma (vmas ▸ member)
    · exact dev ▸ rep.table
    · exact dev ▸ rep.live
    · exact dev ▸ rep.lent
  cases ends with
  | refused => exact failed (by decide) rfl rfl
  | undone negative _ => exact failed negative rfl rfl
  | @placed alloc start size _ _ _ =>
    have uncut : Uncut ⟨area,alloc⟩ := ⟨start,size,nonempty⟩
    obtain ⟨_,_,some,fits⟩ := uncut.window
    have larger : ∀ win ∈ Translation.ofDmabuf alloc :: t.live, 0 < win.size.toNat ∧ win.EndFits := by
      intro win member
      rcases List.mem_cons.mp member with rfl | before
      · exact ⟨some,fits⟩
      · exact t.fits win before
    have apart : (Translation.ofDmabuf alloc :: t.live).Pairwise Window.Apart :=
      List.pairwise_cons.mpr ⟨new_apart rep own uncut free,t.apart⟩
    refine ⟨.some ⟨Translation.ofDmabuf alloc :: t.live,t.lent,t.log,larger,apart⟩,
      .inr ⟨Translation.ofDmabuf alloc,_,?_,?_,rfl,rfl,rfl,rfl⟩,kept,?_,rep.table,?_,rep.lent,rep.log⟩
    · rw [if_pos rfl]
      exact congrArg Option.some start.symm
    · exact size.trans sized
    · intro vma member
      rcases List.mem_cons.mp member with rfl | before
      · exact uncut
      · exact rep.uncut vma before
    · exact congrArg (Translation.ofDmabuf alloc :: ·) rep.live

theorem unmap_served {addr : UserAddr} {length : SizeT} (rep : Represents client channels s t)
    (whole : t.Whole addr (pageAlign length))
    (executed : Exec kernelMachine (closeAll (removed (range client addr length) s.1.vmas)) (s.1.split (range client addr length))
      (.returned ()) kernel) :
    ∃ smaller : Heap, smaller.live = t.live.filter (fun win => !touches addr (pageAlign length) win) ∧ smaller.lent = t.lent ∧
      smaller.log = t.log ∧ Represents client channels (kernel,s.2) smaller := by
  have table := ensures_iff.mp closeAll_table _ _ executed
  have cut : Whole s.1 (.munmap (range client addr length)) := by
    intro vma member touched
    obtain ⟨same,inside⟩ := @window_touched client vma addr length (rep.uncut vma member) (rep.own member)
    rw [same] at touched
    rw [inside]
    exact whole _ (rep.listed ▸ List.mem_map_of_mem member) touched
  obtain ⟨kept,vmas,external⟩ := Sessions.munmap_keeps rep.kept cut (.munmap executed)
  have vmas : kernel.vmas = s.1.vmas.filter fun vma => !overlaps vma.area (range client addr length) := vmas
  have listed : kernel.dev.dmabufList = kernel.vmas.map (·.privateData) := kept.listed
  have left : t.live.filter (fun win => !touches addr (pageAlign length) win) =
      kernel.dev.dmabufList.map Translation.ofDmabuf := by
    rw [listed,List.map_map,vmas,rep.listed,List.filter_map]
    refine congrArg _ (List.filter_congr fun vma member => ?_)
    show (!touches addr (pageAlign length) (Translation.ofDmabuf vma.privateData)) = _
    rw [(window_touched (rep.uncut vma member) (rep.own member)).1]
  refine ⟨⟨t.live.filter fun win => !touches addr (pageAlign length) win,t.lent,t.log,?_,t.apart.filter _⟩,rfl,rfl,rfl,
    kept,?_,?_,left,?_,?_⟩
  · exact fun win member => t.fits win (List.mem_of_mem_filter member)
  · intro vma member
    rw [vmas] at member
    exact rep.uncut vma (List.mem_of_mem_filter member)
  · exact table.trans rep.table
  · exact external ▸ rep.lent
  · exact rep.log

theorem loaded_table : LibraryTransfers.driverTable (loadedDevice channels) = tableOf channels := by
  have counts : ∀ kind : LibrarySessions.Kind, channels.countP (fun chan => decide (chan.type = kind.1 ∧ chan.dir = kind.2)) =
      (LibrarySessions.idsOf channels kind).length := by
    intro kind
    rw [LibrarySessions.idsOf,List.length_map,← List.countP_eq_length_filter]
    exact List.countP_congr fun chan _ => by simp [Prod.ext_iff]
  have tx := counts (.dma,.write)
  have rx := counts (.dma,.read)
  have vtx := counts (.vdma,.write)
  have vrx := counts (.vdma,.read)
  simp only [LibraryTransfers.driverTable,axidmaGetNumChannels,axidmaGetChannelInfo,AxidmaDevice.numChans,loadedDevice,tableOf,
    tx,rx,vtx,vrx]

theorem Represents.channels_eq (rep : Represents client channels s t) : s.1.dev.channels = channels :=
  congrArg LibrarySessions.DriverTable.channels rep.table

theorem loaded_represents : Represents client channels (loadedDriver channels) noBuffers where
  kept := Sessions.Fresh.kept ⟨rfl,rfl,rfl,rfl⟩
  uncut := fun _ none => absurd none List.not_mem_nil
  table := loaded_table
  live := rfl
  lent := rfl
  log := rfl

theorem Represents.emptied (rep : Represents client channels s t) (none : t.live.Perm []) : s.1.vmas = [] ∧ s.1.dev.dmabufList = [] := by
  have listed : s.1.dev.dmabufList = s.1.vmas.map (·.privateData) := rep.kept.listed
  have unlisted : s.1.dev.dmabufList = [] := List.map_eq_nil_iff.mp (rep.live.symm.trans none.eq_nil)
  exact ⟨List.map_eq_nil_iff.mp (listed.symm.trans unlisted),unlisted⟩

end

-- What every operation of a call, the engine and the cutting of mappings keep, every
-- call of a client keeps, whatever it asks for.
structure Keeps (holds : Driven → Prop) : Prop where
  performed : ∀ (s : Driven) (op : KernelCall) (reply : op.Reply), holds s → holds (s.1.perform op reply,s.2++told op reply)
  worked : ∀ s after, holds s → working s after → holds after
  cut : ∀ s cutting, holds s → holds (s.1.split cutting,s.2)

section
variable {client : Task} {s after : Driven} {holds : Driven → Prop}

theorem Keeps.amid {α : Type} {machine : Machine kernel KernelState} {program : Driver α} {outcome : Outcome Fault α}
    (keeps : Keeps holds) (performs : machine.perform = KernelState.perform)
    (path : ExecAmid (machine.noting told) working program s outcome after) (start : holds s) : holds after := by
  induction path with
  | ret => exact start
  | fault => exact start
  | @call s _ _ op _ reply _ _ ih =>
    have performed := keeps.performed s op reply start
    rw [← performs] at performed
    exact ih performed
  | moved move _ ih => exact ih (keeps.worked _ _ start move)

theorem Keeps.serves {op : ProgramCall} {reply : op.Reply} (keeps : Keeps holds) (served : serves client s op reply after)
    (start : holds s) : holds after := by
  cases op with
  | mmap fd length =>
    rcases served with ⟨_,rfl⟩ | ⟨area,rc,call,session,_,_,_,_,executed,_⟩
    · exact start
    · exact keeps.amid rfl executed start
  | munmap addr length =>
    rcases served with ⟨_,rfl⟩ | ⟨_,_,executed⟩
    · exact start
    · exact keeps.amid rfl executed (keeps.cut s _ start)
  | registerBuffer fd extBuf =>
    rcases served with ⟨_,rfl⟩ | ⟨addr,call,session,called⟩
    · exact start
    · exact keeps.amid rfl called start
  | unregisterBuffer fd userAddr =>
    rcases served with ⟨_,rfl⟩ | ⟨call,session,called⟩
    · exact start
    · exact keeps.amid rfl called start
  | library op =>
    cases op with
    | ioctl fd cmd arg =>
      rcases served with ⟨_,rfl⟩ | ⟨addr,call,session,called⟩
      · exact start
      · exact keeps.amid rfl called start
    | setDmaSignal fd signal =>
      rcases served with ⟨_,rfl⟩ | ⟨call,session,called⟩
      · exact start
      · exact keeps.amid rfl called start
    | getNumDmaChannels fd =>
      rcases served with ⟨_,rfl⟩ | ⟨⟨addr,call,session,called⟩,_⟩
      · exact start
      · exact keeps.amid rfl called start
    | getDmaChannels fd count =>
      rcases served with ⟨_,rfl⟩ | ⟨⟨addr,call,session,called⟩,_⟩
      · exact start
      · exact keeps.amid rfl called start
    | _ =>
      obtain rfl := served
      exact start
  | _ =>
    obtain rfl := served
    exact start

theorem Keeps.moves (keeps : Keeps holds) (moves : Relation.ReflTransGen working s after) (start : holds s) : holds after := by
  induction moves with
  | refl => exact start
  | tail _ move ih => exact keeps.worked _ _ ih move

end

end Axidma.DriverServer
