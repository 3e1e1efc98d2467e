import Axidma.Engine
import Axidma.MemoryMap
import Axidma.Ownership
import Axidma.TransferCalls
import Axidma.Transition

namespace Axidma.ResourceAccounts
open Interaction
open Transition

-- A kmalloc object, a coherent region by its kernAddr, and what the three steps of
-- an import of a DMA buffer take.
inductive Thing where
  | block (ptr : Nat)
  | region (kernAddr : Nat)
  | reference (dmaBuf : Nat)
  | attachment (dmaAttach : Nat)
  | mapping (dmaAttach : Nat)
deriving DecidableEq

def ofDmabuf (alloc : AxidmaDmaAllocation) : Multiset Thing := {.block alloc.node,.region alloc.kernAddr}

def ofExternal (alloc : AxidmaExternalAllocation) : Multiset Thing :=
  {.block alloc.node,.reference alloc.dmaBuf,.attachment alloc.dmaAttach,.mapping alloc.dmaAttach}

def brings : (op : KernelCall) → op.Reply → Multiset Thing
  | .kmalloc _,some ptr => {.block ptr}
  | .dmaAllocCoherent _,some region => {.region region.1}
  | .dmaBufGet _,.ok dmaBuf => {.reference dmaBuf}
  | .dmaBufAttach _,.ok dmaAttach => {.attachment dmaAttach}
  | .dmaBufMapAttachment dmaAttach,.ok _ => {.mapping dmaAttach}
  | _,_ => 0

def destroys : KernelCall → Multiset Thing
  | .kfree ptr => {.block ptr}
  | .dmaBufPut dmaBuf => {.reference dmaBuf}
  | .dmaBufDetach _ dmaAttach => {.attachment dmaAttach}
  | .dmaBufUnmapAttachment dmaAttach _ => {.mapping dmaAttach}
  | _ => 0

-- A region that is given back is in the books for ever, so that giving it back
-- again would show.
def leaves : KernelCall → Multiset Thing
  | .dmaFreeCoherent alloc => {.region alloc.kernAddr}
  | .storeVmPrivateData _ alloc => ofDmabuf alloc
  | .listAddExternal alloc => ofExternal alloc
  | _ => 0

def economy : Economy Axidma.kernel Thing := ⟨brings,destroys,leaves⟩

def each (thing : Nat → Thing) (names : List Nat) : Multiset Thing := (names.map thing : List Thing)

def exist (s : KernelState) : Multiset Thing :=
  each .block s.heap+each .region s.regions+each .reference s.references+each .attachment s.attachments+each .mapping s.mappings

def mapped (vmas : List Vma) : Multiset Thing := (vmas.map fun vma => ofDmabuf vma.privateData).sum
def registered (externalDmabufs : List AxidmaExternalAllocation) : Multiset Thing := (externalDmabufs.map ofExternal).sum

def kept (s : KernelState) : Multiset Thing :=
  each .region s.freed+mapped s.vmas+registered s.dev.externalDmabufs

section
variable {s : KernelState}

theorem each_cons {thing : Nat → Thing} {name : Nat} {names : List Nat} :
    each thing (name :: names) = {thing name}+each thing names := rfl

theorem each_mem {thing : Nat → Thing} {names : List Nat} {owned : Thing} :
    owned ∈ each thing names ↔ ∃ name ∈ names, thing name = owned := by simp [each]

theorem each_erase {thing : Nat → Thing} {name : Nat} {names : List Nat} (present : name ∈ names) :
    each thing names = {thing name}+each thing (names.erase name) := by
  rw [← each_cons]
  exact Multiset.coe_eq_coe.mpr ((List.perm_cons_erase present).map thing)

theorem taken_out {thing : Thing} {all rest : Multiset Thing} (split : all = {thing}+rest) : rest = all-{thing} := by
  rw [split,add_tsub_cancel_left]

theorem books : Books economy kernelMachine exist kept where
  exist := by
    intro s op reply _ there
    cases op with
    | kmalloc size =>
      cases reply with
      | none => simp [economy,kernelMachine,KernelState.perform,brings,destroys]
      | some ptr =>
        simp only [economy,kernelMachine,KernelState.perform,brings,destroys,exist,each_cons,Multiset.sub_zero]
        ac_rfl
    | dmaAllocCoherent size =>
      cases reply with
      | none => simp [economy,kernelMachine,KernelState.perform,brings,destroys]
      | some region =>
        simp only [economy,kernelMachine,KernelState.perform,brings,destroys,exist,each_cons,Multiset.sub_zero]
        ac_rfl
    | dmaBufGet fd =>
      cases reply with
      | error rc => simp [economy,kernelMachine,KernelState.perform,brings,destroys]
      | ok dmaBuf =>
        simp only [economy,kernelMachine,KernelState.perform,brings,destroys,exist,each_cons,Multiset.sub_zero]
        ac_rfl
    | dmaBufAttach dmaBuf =>
      cases reply with
      | error rc => simp [economy,kernelMachine,KernelState.perform,brings,destroys]
      | ok dmaAttach =>
        simp only [economy,kernelMachine,KernelState.perform,brings,destroys,exist,each_cons,Multiset.sub_zero]
        ac_rfl
    | dmaBufMapAttachment dmaAttach =>
      cases reply with
      | error rc => simp [economy,kernelMachine,KernelState.perform,brings,destroys]
      | ok sgTable =>
        simp only [economy,kernelMachine,KernelState.perform,brings,destroys,exist,each_cons,Multiset.sub_zero]
        ac_rfl
    | kfree ptr =>
      have present : ptr ∈ s.heap := by simpa [economy,destroys,exist,each_mem] using there
      refine (taken_out ?_).trans (zero_add _).symm
      simp only [exist,kernelMachine,KernelState.perform]
      rw [each_erase present]
      ac_rfl
    | dmaBufPut dmaBuf =>
      have present : dmaBuf ∈ s.references := by simpa [economy,destroys,exist,each_mem] using there
      refine (taken_out ?_).trans (zero_add _).symm
      simp only [exist,kernelMachine,KernelState.perform]
      rw [each_erase present]
      ac_rfl
    | dmaBufDetach dmaBuf dmaAttach =>
      have present : dmaAttach ∈ s.attachments := by simpa [economy,destroys,exist,each_mem] using there
      refine (taken_out ?_).trans (zero_add _).symm
      simp only [exist,kernelMachine,KernelState.perform]
      rw [each_erase present]
      ac_rfl
    | dmaBufUnmapAttachment dmaAttach sgTable =>
      have present : dmaAttach ∈ s.mappings := by simpa [economy,destroys,exist,each_mem] using there
      refine (taken_out ?_).trans (zero_add _).symm
      simp only [exist,kernelMachine,KernelState.perform]
      rw [each_erase present]
      ac_rfl
    | dmaengineSubmit chan txd =>
      simp only [economy,kernelMachine,KernelState.perform,brings,destroys,Multiset.sub_zero,zero_add]
      split <;> rfl
    | _ => simp [economy,kernelMachine,KernelState.perform,brings,destroys,exist]
  kept := by
    intro s op reply _
    cases op with
    | dmaFreeCoherent alloc =>
      simp only [economy,leaves,kernelMachine,KernelState.perform,kept,each_cons]
      ac_rfl
    | storeVmPrivateData area alloc =>
      simp only [economy,leaves,kernelMachine,KernelState.perform,kept,mapped,List.map_cons,List.sum_cons]
      ac_rfl
    | listAddExternal alloc =>
      simp only [economy,leaves,kernelMachine,KernelState.perform,kept,registered,List.map_cons,List.sum_cons]
      ac_rfl
    | kmalloc size => cases reply <;> simp [economy,leaves,kernelMachine,KernelState.perform,kept]
    | dmaAllocCoherent size => cases reply <;> simp [economy,leaves,kernelMachine,KernelState.perform,kept]
    | dmaBufGet fd => cases reply <;> simp [economy,leaves,kernelMachine,KernelState.perform,kept]
    | dmaBufAttach dmaBuf => cases reply <;> simp [economy,leaves,kernelMachine,KernelState.perform,kept]
    | dmaBufMapAttachment dmaAttach => cases reply <;> simp [economy,leaves,kernelMachine,KernelState.perform,kept]
    | dmaengineSubmit chan txd =>
      simp only [economy,leaves,kernelMachine,KernelState.perform,zero_add]
      split <;> rfl
    | _ => simp [economy,leaves,kernelMachine,KernelState.perform,kept]

end

def Free (op : KernelCall) : Prop := economy.gives op = 0 ∧ ∀ reply, economy.brings op reply = 0

theorem transferCall_free {chan : AxidmaChan} {tfr : AxidmaTransfer} {op : KernelCall} (call : TransferCall chan tfr op) :
    Free op := by
  cases op <;> first | exact ⟨rfl,fun _ => rfl⟩ | exact call.elim

-- A call that returns holds nothing. One that dies takes two blocks with it at
-- most: the frame buffers of a video ioctl and its scatter list.
def Ends (held : Multiset Thing) : Outcome Fault Int → Prop
  | .returned _ => held = 0
  | .faulted _ => ∃ lost : List Nat, lost.length ≤ 2 ∧ held = each .block lost

section
variable {dev : AxidmaDevice} {caller : Caller} {held : Multiset Thing} {op : KernelCall} {next : op.Reply → Driver Int}
  {post : Multiset Thing → Outcome Fault Int → Prop}

theorem takes (free : economy.gives op = 0)
    (later : ∀ reply, op.Legal reply → Conforms economy.protocol post (economy.brings op reply+held) (next reply)) :
    Conforms economy.protocol post held (.call op next) := Economy.conforms_gives (by rw [free,zero_add]) later

theorem gives {things : Multiset Thing} (given : economy.gives op = things) (nothing : ∀ reply, economy.brings op reply = 0)
    (later : ∀ reply, Conforms economy.protocol post held (next reply)) :
    Conforms economy.protocol post (things+held) (.call op next) := by
  refine Economy.conforms_gives (by rw [given]) fun reply _ => ?_
  rw [nothing,zero_add]
  exact later reply

theorem passes (free : Free op) (later : ∀ reply, op.Legal reply → Conforms economy.protocol post held (next reply)) :
    Conforms economy.protocol post held (.call op next) := by
  refine takes free.1 fun reply legal => ?_
  rw [free.2,zero_add]
  exact later reply legal

theorem mmap_settled {area : VmAreaStruct} : Conforms economy.protocol Ends 0 (axidmaMmap caller area) := by
  unfold axidmaMmap
  refine takes rfl fun node _ => ?_
  cases node with
  | none => rfl
  | some node =>
    show Conforms economy.protocol _ {.block node} _
    refine passes ⟨rfl,fun _ => rfl⟩ fun _ _ => takes rfl fun region _ => ?_
    cases region with
    | none =>
      show Conforms economy.protocol _ ({.block node}+0) _
      exact gives rfl (fun _ => rfl) fun _ => rfl
    | some region =>
      show Conforms economy.protocol _ {.region region.1,.block node} _
      refine passes ⟨rfl,fun _ => rfl⟩ fun rc _ => conforms_if (fun _ => ?_) fun _ => ?_
      · show Conforms economy.protocol _ ({.region region.1}+({.block node}+0)) _
        exact gives rfl (fun _ => rfl) fun _ => gives rfl (fun _ => rfl) fun _ => rfl
      · have split : ({.region region.1,.block node} : Multiset Thing) = {.block node,.region region.1}+0 := by
          rw [add_zero,Multiset.pair_comm]
        rw [split]
        exact gives rfl (fun _ => rfl) fun _ => passes ⟨rfl,fun _ => rfl⟩ fun _ _ => rfl

theorem register_settled {extBuf : AxidmaRegisterBuffer} :
    Conforms economy.protocol Ends 0 (axidmaGetExternal caller extBuf) := by
  unfold axidmaGetExternal
  refine takes rfl fun node _ => ?_
  cases node with
  | none => rfl
  | some node =>
    show Conforms economy.protocol _ {.block node} _
    refine takes rfl fun dmaBuf _ => ?_
    cases dmaBuf with
    | error rc =>
      show Conforms economy.protocol _ ({.block node}+0) _
      exact gives rfl (fun _ => rfl) fun _ => rfl
    | ok dmaBuf =>
      show Conforms economy.protocol _ {.reference dmaBuf,.block node} _
      refine takes rfl fun dmaAttach _ => ?_
      cases dmaAttach with
      | error rc =>
        show Conforms economy.protocol _ ({.reference dmaBuf}+({.block node}+0)) _
        exact gives rfl (fun _ => rfl) fun _ => gives rfl (fun _ => rfl) fun _ => rfl
      | ok dmaAttach =>
        show Conforms economy.protocol _ {.attachment dmaAttach,.reference dmaBuf,.block node} _
        refine takes rfl fun sgTable _ => ?_
        cases sgTable with
        | error rc =>
          show Conforms economy.protocol _ ({.attachment dmaAttach}+({.reference dmaBuf}+({.block node}+0))) _
          exact gives rfl (fun _ => rfl) fun _ => gives rfl (fun _ => rfl) fun _ => gives rfl (fun _ => rfl) fun _ => rfl
        | ok sgTable =>
          show Conforms economy.protocol _ {.mapping dmaAttach,.attachment dmaAttach,.reference dmaBuf,.block node} _
          refine conforms_if (fun _ => ?_) fun _ => ?_
          · show Conforms economy.protocol _ ({.mapping dmaAttach}+({.attachment dmaAttach}+({.reference dmaBuf}+({.block node}+0)))) _
            exact gives rfl (fun _ => rfl) fun _ => gives rfl (fun _ => rfl) fun _ => gives rfl (fun _ => rfl) fun _ =>
              gives rfl (fun _ => rfl) fun _ => rfl
          · have split : ({.mapping dmaAttach,.attachment dmaAttach,.reference dmaBuf,.block node} : Multiset Thing) =
                {.block node,.reference dmaBuf,.attachment dmaAttach,.mapping dmaAttach}+0 := by
              simp only [Multiset.insert_eq_cons,← Multiset.singleton_add,add_zero]
              ac_rfl
            rw [split]
            exact gives rfl (fun _ => rfl) fun _ => rfl

theorem settles {p : Driver Int} (back : Conforms economy.protocol (fun last _ => last = 0) 0 p) :
    Conforms economy.protocol Ends 0 p := by
  refine back.mono fun last outcome nothing => ?_
  cases outcome with
  | returned value => exact nothing
  | faulted error => exact ⟨[],Nat.zero_le 2,nothing⟩

theorem sets_back {request : Request} {p : Driver Int} (does : Does (SetsCall dev caller request) (fun _ => True) p) :
    Conforms economy.protocol (fun last _ => last = held) held p := by
  refine (Economy.conforms_free does ?_).mono fun _ _ ended => ended.1
  intro op call
  obtain ⟨chan,tfr,_,call⟩ := call
  exact transferCall_free call

def VideoEnds (held last : Multiset Thing) : Outcome Fault Int → Prop
  | .returned _ => last = held
  | .faulted _ => ∃ sgList, last = {.block sgList}+held

-- The scatter list lives from its kmalloc to the one kfree before both exits,
-- which a missing channel keeps the call from.
theorem video_back {transaction : AxidmaVideoTransaction} {dir : AxidmaDir} :
    Conforms economy.protocol (VideoEnds held) held (axidmaVideoTransfer dev caller transaction dir) := by
  unfold axidmaVideoTransfer
  simp only [kcall,Prog.ask,Prog.call_bind,Prog.ret_bind]
  refine takes rfl fun sgList legal => ?_
  cases sgList with
  | none => exact zero_add held
  | some sgList =>
    have counted := (sg_list_size _).mp (legal rfl)
    show Conforms economy.protocol _ ({.block sgList}+held) _
    refine conforms_bind.mpr ((sets_back (video_body_calls transfer_permits counted)).mono ?_)
    intro last outcome same
    cases outcome with
    | returned rc =>
      show Conforms economy.protocol _ last _
      rw [same]
      exact gives rfl (fun _ => rfl) fun _ => rfl
    | faulted error => exact ⟨sgList,same⟩

theorem fetch_settled {kind : UserStruct} {arg : UserAddr} {next : kind.Value → Driver Int}
    (later : ∀ value, Conforms economy.protocol Ends 0 (next value)) :
    Conforms economy.protocol Ends 0 (fetch kind arg next) :=
  passes ⟨rfl,fun _ => rfl⟩ fun reply _ => conforms_if (fun _ => rfl) fun _ => later reply.2

theorem ioctlVideo_settled {arg : UserAddr} {dir : AxidmaDir} :
    Conforms economy.protocol Ends 0 (ioctlVideo dev caller arg dir) := by
  refine fetch_settled fun trans => takes rfl fun frameBuffers _ => ?_
  cases frameBuffers with
  | none => rfl
  | some frameBuffers =>
    show Conforms economy.protocol _ ({.block frameBuffers}+0) _
    refine passes ⟨rfl,fun _ => rfl⟩ fun user _ => ?_
    cases user with
    | none => exact ⟨[frameBuffers],Nat.le_succ 1,rfl⟩
    | some user =>
      refine passes ⟨rfl,fun _ => rfl⟩ fun copied _ => conforms_if (fun _ => ?_) fun _ => ?_
      · exact gives rfl (fun _ => rfl) fun _ => rfl
      · refine conforms_bind.mpr (video_back.mono fun last outcome back => ?_)
        cases outcome with
        | returned rc =>
          rw [Then,show last = _ from back]
          exact gives rfl (fun _ => rfl) fun _ => rfl
        | faulted error =>
          obtain ⟨sgList,rfl⟩ := back
          exact ⟨[sgList,frameBuffers],Nat.le_refl 2,rfl⟩

theorem request_settled (request : Request) : Conforms economy.protocol Ends 0 (request.program dev caller) := by
  cases request with
  | read transaction =>
    exact settles (sets_back (oneway_calls transfer_permits fun _ _ found fits translated => .read found fits translated))
  | write transaction =>
    exact settles (sets_back (oneway_calls transfer_permits fun _ _ found fits translated => .write found fits translated))
  | readwrite transaction => exact settles (sets_back (rw_calls transfer_permits))
  | video transaction dir =>
    refine video_back.mono fun last outcome back => ?_
    cases outcome with
    | returned rc => exact back
    | faulted error =>
      obtain ⟨sgList,rfl⟩ := back
      exact ⟨[sgList],Nat.le_succ 1,rfl⟩
  | stop chanInfo =>
    show Conforms economy.protocol _ _ (axidmaStopChannel dev chanInfo)
    unfold axidmaStopChannel
    simp only [channel_test]
    cases axidmaGetChan dev chanInfo.channelId with
    | none => exact ⟨[],Nat.zero_le 2,rfl⟩
    | some chan => exact passes ⟨rfl,fun _ => rfl⟩ fun _ _ => rfl

theorem signal_settled {signal : Int} : Conforms economy.protocol Ends 0 (axidmaSetSignal signal) :=
  conforms_if (fun _ => rfl) fun _ => passes ⟨rfl,fun _ => rfl⟩ fun _ _ => rfl

-- The one command that would free a registered buffer has a number that the test
-- before the switch refuses.
theorem ioctl_settled {cmd : CInt} {arg : UserAddr} : Conforms economy.protocol Ends 0 (axidmaIoctl dev caller cmd arg) := by
  have command : IOC_NR cmd < AXIDMA_NUM_IOCTLS → Conforms economy.protocol Ends 0 (ioctlCommand dev caller cmd arg) := by
    intro numbered
    refine conforms_if (fun _ => passes ⟨rfl,fun _ => rfl⟩ fun _ _ => rfl) fun _ => ?_
    refine conforms_if (fun _ => fetch_settled fun _ => passes ⟨rfl,fun _ => rfl⟩ fun _ _ => rfl) fun _ => ?_
    refine conforms_if (fun _ => signal_settled) fun _ => ?_
    refine conforms_if (fun _ => fetch_settled fun _ => register_settled) fun _ => ?_
    refine conforms_if (fun _ => fetch_settled fun trans => request_settled (.read trans)) fun _ => ?_
    refine conforms_if (fun _ => fetch_settled fun trans => request_settled (.write trans)) fun _ => ?_
    refine conforms_if (fun _ => fetch_settled fun trans => request_settled (.readwrite trans)) fun _ => ?_
    refine conforms_if (fun _ => ioctlVideo_settled) fun _ => ?_
    refine conforms_if (fun _ => ioctlVideo_settled) fun _ => ?_
    refine conforms_if (fun _ => passes ⟨rfl,fun _ => rfl⟩ fun chanInfo _ => @request_settled dev caller (.stop chanInfo.2)) fun _ => ?_
    refine conforms_if (fun unregister => ?_) fun _ => rfl
    rw [unregister] at numbered
    exact absurd numbered (by decide)
  unfold axidmaIoctl
  refine conforms_if (fun _ => rfl) fun _ => conforms_if (fun _ => rfl) fun numbered => ?_
  have finish : ∀ accessible : Bool, Conforms economy.protocol Ends 0
      (if (!accessible) = true then pure (-EFAULT) else ioctlCommand dev caller cmd arg) :=
    fun _ => conforms_if (fun _ => rfl) fun _ => command (Nat.lt_of_not_le numbered)
  have checked : ∀ readonly : Bool, Conforms economy.protocol Ends 0 (axidmaAccessOk arg (IOC_SIZE cmd) readonly >>=
      fun accessible => if (!accessible) = true then pure (-EFAULT) else ioctlCommand dev caller cmd arg) := by
    intro readonly
    cases readonly with
    | true => exact passes ⟨rfl,fun _ => rfl⟩ fun reply _ => finish reply
    | false =>
      refine passes ⟨rfl,fun _ => rfl⟩ fun writable _ => ?_
      cases (writable : Bool) with
      | true => exact passes ⟨rfl,fun _ => rfl⟩ fun reply _ => finish reply
      | false => exact finish false
  by_cases reads : IOC_DIR cmd &&& IOC_READ ≠ 0
  · rw [if_pos reads]
    exact checked false
  · rw [if_neg reads]
    by_cases writes : IOC_DIR cmd &&& IOC_WRITE ≠ 0
    · rw [if_pos writes]
      exact checked true
    · rw [if_neg writes]
      exact finish true

theorem closeAll_settled {closing : List Vma} :
    Conforms economy.protocol Ends (mapped closing)
    (do closeAll closing; return 0 : Driver Int) := by
  induction closing with
  | nil => rfl
  | cons vma rest ih =>
    have split : mapped (vma :: rest) = {.region vma.privateData.kernAddr}+({.block vma.privateData.node}+mapped rest) := by
      simp only [mapped,ofDmabuf,List.map_cons,List.sum_cons,Multiset.insert_eq_cons,← Multiset.singleton_add]
      ac_rfl
    rw [split]
    show Conforms economy.protocol _ _ (.call (.dmaFreeCoherent vma.privateData) fun _ =>
      .call (.listDelDmabuf vma.privateData) fun _ => .call (.kfree vma.privateData.node) fun _ => do closeAll rest; return 0)
    refine gives rfl (fun _ => rfl) fun _ => ?_
    refine passes ⟨rfl,fun _ => rfl⟩ fun _ _ => ?_
    exact gives rfl (fun _ => rfl) fun _ => ih

end

structure System where
  kernel : KernelState
  running : List (Thread Axidma.kernel Fault Int (Multiset Thing))

inductive Action where
  | mmap (caller : Caller) (area : VmAreaStruct)
  | munmap (range : VmAreaStruct)
  | ioctl (dev : AxidmaDevice) (caller : Caller) (cmd : CInt) (arg : UserAddr)
  | step
  | engine

def System.begin (s : System) (held : Multiset Thing) (program : Driver Int) : System :=
  {s with running := ⟨held,program⟩ :: s.running}

-- All calls go operation by operation, in any order. dev is what an ioctl reads
-- of the device, which others may change before and after, so it is left open.
-- Opening and closing a file touch the private data of the file only.
inductive Step : System → Action → System → Prop where
  | mmap {s : System} {caller : Caller} {area : VmAreaStruct} : Step s (.mmap caller area) (s.begin 0 (axidmaMmap caller area))
  | munmap {s : System} {range : VmAreaStruct} : Step s (.munmap range)
      ({s with kernel := s.kernel.split range}.begin (mapped (removed range s.kernel.vmas))
        (do closeAll (removed range s.kernel.vmas); return 0))
  | ioctl {s : System} {dev : AxidmaDevice} {caller : Caller} {cmd : CInt} {arg : UserAddr} :
      Step s (.ioctl dev caller cmd arg) (s.begin 0 (axidmaIoctl dev caller cmd arg))
  | step {s : System} {after : KernelState} {running : List (Thread Axidma.kernel Fault Int (Multiset Thing))}
      (taken : Interleave kernelMachine economy.protocol s.kernel s.running after running) : Step s .step ⟨after,running⟩
  | engine {s : System} {after : KernelState} (taken : EngineStep s.kernel after) : Step s .engine {s with kernel := after}

-- A munmap that would cut a mapping in two is left out: the pieces keep the record.
def Uncut (s : System) : Action → Prop
  | .munmap range => Whole s.kernel (.munmap range)
  | _ => True

structure Fresh (s : System) : Prop where
  heap : s.kernel.heap = []
  regions : s.kernel.regions = []
  freed : s.kernel.freed = []
  references : s.kernel.references = []
  attachments : s.kernel.attachments = []
  mappings : s.kernel.mappings = []
  vmas : s.kernel.vmas = []
  externalDmabufs : s.kernel.dev.externalDmabufs = []
  running : s.running = []

-- The run invariant: every thing has one owner, and no name is in use twice.
structure Accounted (s : System) : Prop where
  balanced : Interaction.Balanced exist kept s.kernel s.running
  conforming : Conforming economy.protocol Ends s.running
  heap : s.kernel.heap.Nodup
  regions : s.kernel.regions.Nodup

section
variable {s after : System} {kernel : KernelState}

theorem Ends.settled {held : Multiset Thing} {outcome : Outcome Fault Int} (ends : Ends held outcome) : Settled held outcome := by
  cases outcome with
  | returned value => exact ends
  | faulted error => trivial

theorem Accounted.begin {held : Multiset Thing} {program : Driver Int} (accounted : Accounted s)
    (split : kept s.kernel = kept kernel+held) (same : exist kernel = exist s.kernel) (heap : kernel.heap = s.kernel.heap)
    (regions : kernel.regions = s.kernel.regions) (settled : Conforms economy.protocol Ends held program) :
    Accounted ({s with kernel := kernel}.begin held program) := by
  constructor
  case balanced =>
    show exist kernel = kept kernel+heldBy (⟨held,program⟩ :: s.running)
    rw [same,accounted.balanced,split,heldBy_cons]
    ac_rfl
  case conforming =>
    intro call member
    rcases List.mem_cons.mp member with rfl | before
    · exact settled
    · exact accounted.conforming call before
  case heap => exact heap ▸ accounted.heap
  case regions => exact regions ▸ accounted.regions

theorem mapped_append {first second : List Vma} : mapped (first++second) = mapped first+mapped second := by simp [mapped]

theorem split_kept {range : VmAreaStruct} (whole : Whole s.kernel (.munmap range)) :
    kept s.kernel = kept (s.kernel.split range)+mapped (removed range s.kernel.vmas) := by
  have parts := (List.filter_append_perm (fun vma : Vma => overlaps vma.area range) s.kernel.vmas).map
    fun vma => ofDmabuf vma.privateData
  have sums : mapped (removed range s.kernel.vmas)+mapped (s.kernel.vmas.filter fun vma => !overlaps vma.area range) =
      mapped s.kernel.vmas := by
    rw [← mapped_append]
    exact parts.sum_eq
  show each .region s.kernel.freed+mapped s.kernel.vmas+registered s.kernel.dev.externalDmabufs =
    each .region s.kernel.freed+mapped (s.kernel.split range).vmas+registered s.kernel.dev.externalDmabufs+_
  rw [split_whole whole,← sums]
  ac_rfl

theorem performed_distinct {op : KernelCall} {reply : op.Reply} (given : kernel.gives op reply) (heap : kernel.heap.Nodup)
    (regions : kernel.regions.Nodup) : (kernel.perform op reply).heap.Nodup ∧ (kernel.perform op reply).regions.Nodup := by
  cases op with
  | kmalloc size =>
    cases reply with
    | none => exact ⟨heap,regions⟩
    | some ptr => exact ⟨heap.cons (given.2 ptr rfl),regions⟩
  | kfree ptr => exact ⟨heap.erase ptr,regions⟩
  | dmaAllocCoherent size =>
    cases reply with
    | none => exact ⟨heap,regions⟩
    | some region => exact ⟨heap,regions.cons (given region rfl)⟩
  | dmaBufGet fd => cases reply <;> exact ⟨heap,regions⟩
  | dmaBufAttach dmaBuf => cases reply <;> exact ⟨heap,regions⟩
  | dmaBufMapAttachment dmaAttach => cases reply <;> exact ⟨heap,regions⟩
  | dmaengineSubmit chan txd =>
    simp only [KernelState.perform]
    split <;> exact ⟨heap,regions⟩
  | _ => exact ⟨heap,regions⟩

theorem engine_same {s after : KernelState} (taken : EngineStep s after) : exist after = exist s ∧ kept after = kept s := by
  cases taken with
  | finish => exact ⟨rfl,rfl⟩
  | @callback _ chan before rest descriptor _ _ executed =>
    obtain rfl := ensures_iff.mp (callback_ends _) _ _ executed
    cases (s.slots descriptor.txd.callbackParam).notification <;> exact ⟨rfl,rfl⟩

theorem step_accounted {action : Action} (accounted : Accounted s) (whole : Uncut s action) (step : Step s action after) :
    Accounted after := by
  cases step with
  | mmap => exact accounted.begin (add_zero _).symm rfl rfl rfl mmap_settled
  | munmap => exact accounted.begin (split_kept whole) rfl rfl rfl closeAll_settled
  | ioctl => exact accounted.begin (add_zero _).symm rfl rfl rfl ioctl_settled
  | @step kernel running taken =>
    have balanced := taken.balanced books (fun call member => (accounted.conforming call member).mono fun _ _ => Ends.settled)
      accounted.balanced
    have conforming := taken.conforming (fun _ _ _ given => gives_legal given) accounted.conforming
    obtain ⟨before,threads⟩ := s
    cases taken with
    | step reply given =>
      obtain ⟨heap,regions⟩ := performed_distinct given accounted.heap accounted.regions
      exact ⟨balanced,conforming,heap,regions⟩
    | leave => exact ⟨balanced,conforming,accounted.heap,accounted.regions⟩
  | engine taken =>
    have same := engine_same taken
    have memory := engine_memory taken
    refine ⟨?_,accounted.conforming,engine_heap taken ▸ accounted.heap,memory.regions ▸ accounted.regions⟩
    show exist _ = kept _+heldBy s.running
    rw [same.1,same.2]
    exact accounted.balanced

theorem fresh_accounted (fresh : Fresh s) : Accounted s := by
  refine ⟨?_,?_,fresh.heap ▸ List.nodup_nil,fresh.regions ▸ List.nodup_nil⟩
  · simp only [Interaction.Balanced,exist,kept,fresh.heap,fresh.regions,fresh.freed,fresh.references,fresh.attachments,fresh.mappings,
      fresh.vmas,fresh.externalDmabufs,fresh.running]
    rfl
  · rw [fresh.running]
    exact fun call member => absurd member List.not_mem_nil

theorem run_accounted {origin final : System} {actions : List Action} (fresh : Fresh origin)
    (path : Runs (Restrict Uncut Step) origin actions final) : Accounted final :=
  path.keeps (fresh_accounted fresh) fun _ _ _ accounted step => step_accounted accounted step.1 step.2

end

def Thing.ptr : Thing → Option Nat
  | .block ptr => some ptr
  | _ => none

def Thing.kernAddr : Thing → Option Nat
  | .region kernAddr => some kernAddr
  | _ => none

def Thing.dmaBuf : Thing → Option Nat
  | .reference dmaBuf => some dmaBuf
  | _ => none

def Thing.attached : Thing → Option Nat
  | .attachment dmaAttach => some dmaAttach
  | _ => none

def Thing.imported : Thing → Option Nat
  | .mapping dmaAttach => some dmaAttach
  | _ => none

section
variable {pick : Thing → Option Nat} {thing : Nat → Thing} {names : List Nat} {s : KernelState}

theorem each_names : (each thing names).filterMap pick = (names.filterMap fun name => pick (thing name) : List Nat) := by
  show ((names.map thing).filterMap pick : Multiset Nat) = _
  rw [List.filterMap_map]
  rfl

theorem mapped_kinds {vmas : List Vma} :
    mapped vmas = each .block (vmas.map (·.privateData.node))+each .region (vmas.map (·.privateData.kernAddr)) := by
  induction vmas with
  | nil => rfl
  | cons vma rest ih =>
    simp only [mapped,ofDmabuf,List.map_cons,List.sum_cons,each_cons,Multiset.insert_eq_cons,← Multiset.singleton_add] at ih ⊢
    rw [ih]
    ac_rfl

theorem registered_kinds {externalDmabufs : List AxidmaExternalAllocation} :
    registered externalDmabufs = each .block (externalDmabufs.map (·.node))+each .reference (externalDmabufs.map (·.dmaBuf))+
      each .attachment (externalDmabufs.map (·.dmaAttach))+each .mapping (externalDmabufs.map (·.dmaAttach)) := by
  induction externalDmabufs with
  | nil => rfl
  | cons alloc rest ih =>
    simp only [registered,ofExternal,List.map_cons,List.sum_cons,each_cons,Multiset.insert_eq_cons,← Multiset.singleton_add] at ih ⊢
    rw [ih]
    ac_rfl

theorem ptr_names : (exist s).filterMap Thing.ptr = s.heap ∧ (kept s).filterMap Thing.ptr =
    (s.vmas.map (·.privateData.node)++s.dev.externalDmabufs.map (·.node) : List Nat) := by
  constructor
  · simp [exist,each_names,Thing.ptr]
  · simp [kept,mapped_kinds,registered_kinds,each_names,Thing.ptr]

theorem kernAddr_names : (exist s).filterMap Thing.kernAddr = s.regions ∧ (kept s).filterMap Thing.kernAddr =
    (s.freed++s.vmas.map (·.privateData.kernAddr) : List Nat) := by
  constructor
  · simp [exist,each_names,Thing.kernAddr]
  · simp [kept,mapped_kinds,registered_kinds,each_names,Thing.kernAddr]

theorem dmaBuf_names : (exist s).filterMap Thing.dmaBuf = s.references ∧
    (kept s).filterMap Thing.dmaBuf = (s.dev.externalDmabufs.map (·.dmaBuf) : List Nat) := by
  constructor
  · simp [exist,each_names,Thing.dmaBuf]
  · simp [kept,mapped_kinds,registered_kinds,each_names,Thing.dmaBuf]

theorem attached_names : (exist s).filterMap Thing.attached = s.attachments ∧
    (kept s).filterMap Thing.attached = (s.dev.externalDmabufs.map (·.dmaAttach) : List Nat) := by
  constructor
  · simp [exist,each_names,Thing.attached]
  · simp [kept,mapped_kinds,registered_kinds,each_names,Thing.attached]

theorem imported_names : (exist s).filterMap Thing.imported = s.mappings ∧
    (kept s).filterMap Thing.imported = (s.dev.externalDmabufs.map (·.dmaAttach) : List Nat) := by
  constructor
  · simp [exist,each_names,Thing.imported]
  · simp [kept,mapped_kinds,registered_kinds,each_names,Thing.imported]

end

-- What is given back is there beside all that the mappings and the registered
-- buffers need, and beside the regions that were given back before.
def Apart (s : KernelState) : KernelCall → Prop
  | .kfree ptr => (ptr :: (s.vmas.map (·.privateData.node)++s.dev.externalDmabufs.map (·.node))).Subperm s.heap
  | .dmaFreeCoherent alloc => (alloc.kernAddr :: (s.freed++s.vmas.map (·.privateData.kernAddr))).Subperm s.regions
  | .dmaBufPut dmaBuf => (dmaBuf :: s.dev.externalDmabufs.map (·.dmaBuf)).Subperm s.references
  | .dmaBufDetach _ dmaAttach => (dmaAttach :: s.dev.externalDmabufs.map (·.dmaAttach)).Subperm s.attachments
  | .dmaBufUnmapAttachment dmaAttach _ => (dmaAttach :: s.dev.externalDmabufs.map (·.dmaAttach)).Subperm s.mappings
  | _ => True

theorem given_apart {s : KernelState} {op : KernelCall} (present : economy.gives op+kept s ≤ exist s) : Apart s op := by
  cases op with
  | kfree ptr =>
    have names := Multiset.filterMap_le_filterMap Thing.ptr present
    rw [Multiset.filterMap_add,ptr_names.1,ptr_names.2] at names
    exact names
  | dmaFreeCoherent alloc =>
    have names := Multiset.filterMap_le_filterMap Thing.kernAddr present
    rw [Multiset.filterMap_add,kernAddr_names.1,kernAddr_names.2] at names
    exact names
  | dmaBufPut dmaBuf =>
    have names := Multiset.filterMap_le_filterMap Thing.dmaBuf present
    rw [Multiset.filterMap_add,dmaBuf_names.1,dmaBuf_names.2] at names
    exact names
  | dmaBufDetach dmaBuf dmaAttach =>
    have names := Multiset.filterMap_le_filterMap Thing.attached present
    rw [Multiset.filterMap_add,attached_names.1,attached_names.2] at names
    exact names
  | dmaBufUnmapAttachment dmaAttach sgTable =>
    have names := Multiset.filterMap_le_filterMap Thing.imported present
    rw [Multiset.filterMap_add,imported_names.1,imported_names.2] at names
    exact names
  | _ => trivial

-- What is left is what mappings and registered buffers need, and the lost blocks.
structure Accounts (s : KernelState) (lost : List Nat) : Prop where
  heap : s.heap.Perm (lost++(s.vmas.map (·.privateData.node)++s.dev.externalDmabufs.map (·.node)))
  regions : s.regions.Perm (s.freed++s.vmas.map (·.privateData.kernAddr))
  references : s.references.Perm (s.dev.externalDmabufs.map (·.dmaBuf))
  attachments : s.attachments.Perm (s.dev.externalDmabufs.map (·.dmaAttach))
  mappings : s.mappings.Perm (s.dev.externalDmabufs.map (·.dmaAttach))

-- Every call has returned or died: an oops leaves a call where it is for good.
def Over (s : System) : Prop := ∀ call ∈ s.running, ∃ error, call.rest = .fault error

section
variable {origin final : System} {actions : List Action}

theorem releases_apart (fresh : Fresh origin) (path : Runs (Restrict Uncut Step) origin actions final) :
    final.kernel.heap.Nodup ∧ final.kernel.regions.Nodup ∧
      ∀ held op rest, ⟨held,.call op rest⟩ ∈ final.running → Apart final.kernel op := by
  have accounted := run_accounted fresh path
  refine ⟨accounted.heap,accounted.regions,fun held op rest running => ?_⟩
  exact given_apart (accounted.balanced.present accounted.conforming running)

theorem lost_blocks {calls : List (Thread Axidma.kernel Fault Int (Multiset Thing))}
    (conforming : Conforming economy.protocol Ends calls) (ended : ∀ call ∈ calls, ∃ error, call.rest = .fault error) :
    ∃ lost : List Nat, lost.length ≤ 2*calls.length ∧ heldBy calls = each .block lost := by
  induction calls with
  | nil => exact ⟨[],Nat.zero_le _,rfl⟩
  | cons call rest ih =>
    obtain ⟨lost,few,held⟩ := ih (fun other member => conforming other (List.mem_cons_of_mem _ member))
      fun other member => ended other (List.mem_cons_of_mem _ member)
    obtain ⟨error,dead⟩ := ended call List.mem_cons_self
    have ends := conforming call List.mem_cons_self
    rw [dead] at ends
    obtain ⟨own,two,same⟩ := ends
    refine ⟨own++lost,?_,?_⟩
    · rw [List.length_append,List.length_cons]
      omega
    · show call.ghost+heldBy rest = _
      rw [same,held]
      simp [each]

theorem nothing_leaks (fresh : Fresh origin) (path : Runs (Restrict Uncut Step) origin actions final)
    (ended : Over final) : ∃ lost, lost.length ≤ 2*final.running.length ∧ Accounts final.kernel lost := by
  have accounted := run_accounted fresh path
  obtain ⟨lost,few,held⟩ := lost_blocks accounted.conforming ended
  have same : exist final.kernel = kept final.kernel+each .block lost := by rw [← held]; exact accounted.balanced
  refine ⟨lost,few,?_⟩
  constructor
  case heap =>
    have names := congrArg (Multiset.filterMap Thing.ptr) same
    rw [Multiset.filterMap_add,ptr_names.1,ptr_names.2,each_names] at names
    refine (Multiset.coe_eq_coe.mp (names.trans ?_) : final.kernel.heap.Perm _)
    rw [add_comm]
    simp [Thing.ptr]
  case regions =>
    have names := congrArg (Multiset.filterMap Thing.kernAddr) same
    rw [Multiset.filterMap_add,kernAddr_names.1,kernAddr_names.2,each_names] at names
    exact Multiset.coe_eq_coe.mp (by simpa [Thing.kernAddr] using names)
  case references =>
    have names := congrArg (Multiset.filterMap Thing.dmaBuf) same
    rw [Multiset.filterMap_add,dmaBuf_names.1,dmaBuf_names.2,each_names] at names
    exact Multiset.coe_eq_coe.mp (by simpa [Thing.dmaBuf] using names)
  case attachments =>
    have names := congrArg (Multiset.filterMap Thing.attached) same
    rw [Multiset.filterMap_add,attached_names.1,attached_names.2,each_names] at names
    exact Multiset.coe_eq_coe.mp (by simpa [Thing.attached] using names)
  case mappings =>
    have names := congrArg (Multiset.filterMap Thing.imported) same
    rw [Multiset.filterMap_add,imported_names.1,imported_names.2,each_names] at names
    exact Multiset.coe_eq_coe.mp (by simpa [Thing.imported] using names)

theorem extend {s : System} {held : Multiset Thing} {op : KernelCall} {rest : op.Reply → Driver Int}
    {later : List (Thread Axidma.kernel Fault Int (Multiset Thing))} (path : Runs (Restrict Uncut Step) origin actions s)
    (running : s.running = ⟨held,.call op rest⟩ :: later) (reply : op.Reply) (given : s.kernel.gives op reply) :
    Runs (Restrict Uncut Step) origin (actions++[.step])
      ⟨s.kernel.perform op reply,⟨economy.protocol.advance held op reply,rest reply⟩ :: later⟩ := by
  refine .snoc path ⟨trivial,.step ?_⟩
  rw [running]
  exact @Interleave.step _ _ _ _ _ kernelMachine economy.protocol _ [] later held op rest reply given

theorem returns {s : System} {held : Multiset Thing} {rc : Int}
    {later : List (Thread Axidma.kernel Fault Int (Multiset Thing))} (path : Runs (Restrict Uncut Step) origin actions s)
    (running : s.running = ⟨held,.ret rc⟩ :: later) :
    Runs (Restrict Uncut Step) origin (actions++[.step]) ⟨s.kernel,later⟩ := by
  refine .snoc path ⟨trivial,.step ?_⟩
  rw [running]
  exact @Interleave.leave _ _ _ _ _ kernelMachine economy.protocol _ [] later held rc

end

def idle : System := ⟨.loaded (loadedDevice []),[]⟩
def page : VmAreaStruct := ⟨0,0x10000,0x11000⟩
def buffer : AxidmaDmaAllocation := ⟨1,0x11000-0x10000,0x10000,5,0x40000000,0⟩

theorem idle_fresh : Fresh idle := ⟨rfl,rfl,rfl,rfl,rfl,rfl,rfl,rfl,rfl⟩

theorem page_mapped : ∃ actions, Runs (Restrict Uncut Step) idle actions ⟨idle.kernel.place page buffer,[]⟩ := by
  have asked : Runs (Restrict Uncut Step) idle [.mmap ⟨0,0,0⟩ page] _ := .snoc .start ⟨trivial,.mmap⟩
  have record := extend asked rfl (some 1) ⟨fun _ => by decide,fun _ _ => List.not_mem_nil⟩
  have configured := extend record rfl () trivial
  have allocated := extend configured rfl (some (5,0x40000000)) fun _ _ => List.not_mem_nil
  have mapped := extend allocated rfl (0 : Int) trivial
  have stored := extend mapped rfl () trivial
  have listed := extend stored rfl () trivial
  exact ⟨_,returns listed rfl⟩

-- A video ioctl beside the page, whose argument goes away after the first copy.
theorem page_accounts : ∃ (final : System) (lost : List Nat), final.kernel.heap = [2,1] ∧ final.running.length = 1 ∧
    lost.length ≤ 2 ∧ Accounts final.kernel lost := by
  obtain ⟨actions,path⟩ := page_mapped
  let video : UserVideoTransaction := ⟨0,1,0,⟨1,1,1⟩⟩
  have asked : Runs (Restrict Uncut Step) idle (actions++[.ioctl (loadedDevice []) ⟨0,1,0⟩ AXIDMA_DMA_VIDEO_WRITE 0x20000]) _ :=
    path.snoc ⟨trivial,.ioctl⟩
  have written := extend asked rfl true fun _ => by decide
  have read := extend written rfl true fun _ => by decide
  have copied := extend read rfl (0,video) trivial
  have record := extend copied rfl (some 2) ⟨fun _ => by decide,by decide⟩
  have died := extend record rfl none trivial
  obtain ⟨lost,few,accounts⟩ := nothing_leaks idle_fresh died (by
    intro call member
    rw [List.mem_singleton.mp member]
    exact ⟨.badAddress,rfl⟩)
  exact ⟨_,lost,rfl,rfl,few,accounts⟩

theorem page_released : ∃ (final : System) (held : Multiset Thing) (rest : Unit → Driver Int),
    ⟨held,.call (.dmaFreeCoherent buffer) rest⟩ ∈ final.running ∧ Apart final.kernel (.dmaFreeCoherent buffer) := by
  obtain ⟨actions,path⟩ := page_mapped
  have whole : Whole (idle.kernel.place page buffer) (.munmap page) := by
    rw [Whole]
    decide
  have unmapped : Runs (Restrict Uncut Step) idle (actions++[.munmap page]) _ := path.snoc ⟨whole,.munmap⟩
  let rest : Unit → Driver Int := fun _ => do
    kcall (.listDelDmabuf buffer)
    kcall (.kfree buffer.node)
    return 0
  have running : ⟨mapped [⟨page,buffer⟩],.call (.dmaFreeCoherent buffer) rest⟩ ∈
    (System.begin ⟨(idle.kernel.place page buffer).split page,[]⟩ (mapped [⟨page,buffer⟩])
      (do closeAll [⟨page,buffer⟩]; return 0)).running := List.mem_cons_self
  exact ⟨_,_,rest,running,(releases_apart idle_fresh unmapped).2.2 _ _ _ running⟩

end Axidma.ResourceAccounts
