import Axidma.Engine
import Axidma.Interleaving
import Axidma.Lookups
import Axidma.MemoryMap
import Axidma.Registration
import Axidma.Transition

namespace Axidma.Sessions
open Interaction
open Lookups
open Transition
open WordRange

-- A session is one open file: known are the ones ever opened, opened those not
-- yet closed. A request stays among the calls when it has returned.
structure System where
  kernel : KernelState
  known : List Nat
  opened : List Nat
  calls : List (Thread looking Fault Int Call)

def sessionCalls (session : Nat) (calls : List (Thread looking Fault Int Call)) : List (Thread looking Fault Int Call) :=
  calls.filter fun call => decide (call.ghost.session = session)

-- base is the device address that a successful mmap or registration gets. A lookup
-- is one of the given request among those of its session.
inductive Action where
  | openFile (session : Nat) (capSysAdmin : Bool) (flags : CInt)
  | closeFile (session : Nat)
  | mmap (session : Nat) (area : VmAreaStruct) (rc : Int) (base : DmaAddr)
  | munmap (range : VmAreaStruct)
  | register (session : Nat) (extBuf : AxidmaRegisterBuffer) (rc : Int) (base : DmaAddr)
  | transfer (session : Nat) (request : Request)
  | lookup (session : Nat) (number : Nat) (range : UserAddr × SizeT)
  | work
  | engine

-- What a call does next, if it is the one after these.
def turn (before : List (Thread looking Fault Int Call)) (call : Call) : looking.Op → Action
  | .inl _ => .work
  | .inr range => .lookup call.session (sessionCalls call.session before).length range

def lookingMachine : Machine looking KernelState := kernelMachine.asking Entry fun kernel => entryAt kernel.dev

-- owner gives the process of each session. Processes take turns: whole calls of
-- mmap, munmap and the registration, single operations and lookups of transfers.
inductive Step (owner : Nat → Task) : System → Action → System → Prop where
  | openFile {s : System} {session : Nat} {capSysAdmin : Bool} {flags : CInt} (new : session ∉ s.known) :
      Step owner s (.openFile session capSysAdmin flags) {s with
        known := session :: s.known
        opened := if (axidmaOpen capSysAdmin flags).1 = 0 then session :: s.opened else s.opened}
  -- axidma_release touches the private data of its file only.
  | closeFile {s : System} {session : Nat} : Step owner s (.closeFile session) {s with opened := s.opened.erase session}
  | mmap {s : System} {session : Nat} {area : VmAreaStruct} {rc : Int} {base : DmaAddr} {after : KernelState}
      (isOpen : session ∈ s.opened) (own : area.vmMm = owner session) (nonempty : area.vmStart < area.vmEnd)
      (free : ∀ vma ∈ s.kernel.vmas, overlaps vma.area area = false)
      (executed : Exec kernelMachine (axidmaMmap ⟨owner session,s.calls.length,session⟩ area) s.kernel (.returned rc) after)
      (based : rc = 0 → (after.dev.dmabufList.head?.map (·.dmaAddr)) = some base) :
      Step owner s (.mmap session area rc base) {s with kernel := after}
  | munmap {s : System} {range : VmAreaStruct} {after : KernelState} (whole : Whole s.kernel (.munmap range))
      (unmapped : MemoryStep s.kernel (.munmap range) after) : Step owner s (.munmap range) {s with kernel := after}
  | register {s : System} {session : Nat} {extBuf : AxidmaRegisterBuffer} {rc : Int} {base : DmaAddr} {after : KernelState}
      (isOpen : session ∈ s.opened)
      (executed : Exec kernelMachine (axidmaGetExternal ⟨owner session,s.calls.length,session⟩ extBuf) s.kernel (.returned rc) after)
      (based : rc = 0 → (after.dev.externalDmabufs.head?.map (·.sgTable.dmaAddress)) = some base) :
      Step owner s (.register session extBuf rc base) {s with kernel := after}
  | transfer {s : System} {session : Nat} {request : Request} (isOpen : session ∈ s.opened) :
      Step owner s (.transfer session request) {s with
        calls := s.calls++[⟨.start session s.kernel.dev request,
          asking s.kernel.dev ⟨owner session,s.calls.length,session⟩ request⟩]}
  | proceed {s : System} {before later : List (Thread looking Fault Int Call)} {call : Call} {op : looking.Op}
      {rest : looking.Reply op → Looking Int} (running : s.calls = before++⟨call,.call op rest⟩ :: later) (reply : looking.Reply op)
      (given : lookingMachine.gives s.kernel op reply) :
      Step owner s (turn before call op) {s with
        kernel := lookingMachine.perform s.kernel op reply
        calls := before++⟨Lookups.protocol.advance call op reply,rest reply⟩ :: later}
  | engine {s : System} {after : KernelState} (taken : EngineStep s.kernel after) : Step owner s .engine {s with kernel := after}

structure Fresh (s : System) : Prop where
  dmabufList : s.kernel.dev.dmabufList = []
  externalDmabufs : s.kernel.dev.externalDmabufs = []
  vmas : s.kernel.vmas = []
  calls : s.calls = []

def mine (owner : Nat → Task) (session : Nat) : Action → Bool
  | .openFile other _ _ => decide (other = session)
  | .closeFile other => decide (other = session)
  | .mmap other _ _ _ => decide (other = session)
  | .munmap range => decide (range.vmMm = owner session)
  | .register other _ _ _ => decide (other = session)
  | .transfer other _ => decide (other = session)
  | .lookup other _ _ => decide (other = session)
  | .work => false
  | .engine => false

def firstOwner (dev : AxidmaDevice) (userAddr : UserAddr) (size : SizeT) : Option Nat :=
  match dev.dmabufList.find? fun alloc => validDmaRequest alloc.userAddr alloc.size userAddr size with
  | some alloc => some alloc.session
  | none =>
    (dev.externalDmabufs.find? fun alloc => validDmaRequest alloc.userAddr alloc.size userAddr size).map (·.session)

-- Each lookup of the session meets an entry of its own first, or none.
def OwnFirst (session : Nat) (s : System) : Action → Prop
  | .lookup other _ range => other = session → ∀ maker, firstOwner s.kernel.dev range.1 range.2 = some maker → maker = session
  | _ => True

-- What a request does follows from its answers: it programs these in turn when all
-- are accepted, and ends as they and the kernel have it.
structure Follows (call : Thread looking Fault Int Call) : Prop where
  sound : Sound call.ghost
  ended : ∀ rc, call.rest = .ret rc → Ended call.ghost rc

-- Two calls of one request that get the same answers and follow them.
structure Alike (one other : Thread looking Fault Int Call) : Prop where
  request : one.ghost.request = other.ghost.request
  answers : one.ghost.answers = other.ghost.answers
  follows : Follows one
  follows' : Follows other

-- What a session can know of the lists: its own windows, and its answers.
structure View where
  mapped : List (VmAreaStruct × Window 64)
  registered : List (Window 64)
  calls : List (Request × List DmaAddr)

def answersOf (calls : List (Thread looking Fault Int Call)) : List (Request × List DmaAddr) :=
  calls.map fun call => (call.ghost.request,call.ghost.answers)

def view (session : Nat) (s : System) : View where
  mapped := (s.kernel.vmas.filter fun vma => decide (vma.privateData.session = session)).map
    fun vma => (vma.area,Translation.ofDmabuf vma.privateData)
  registered := (s.kernel.dev.externalDmabufs.filter fun alloc => decide (alloc.session = session)).map Translation.ofExternal
  calls := answersOf (sessionCalls session s.calls)

def translate (windows : List (Window 64)) (range : UserAddr × SizeT) : DmaAddr :=
  ((windows.find? (Translation.accepts range.1 range.2)).map (·.image range.1)).getD 0

def View.windows (view : View) : List (Window 64) := view.mapped.map (·.2)++view.registered

def View.move (view : View) : Action → View
  | .mmap _ area rc base =>
    if rc = 0 then {view with mapped := (area,⟨area.vmStart,area.vmEnd-area.vmStart,base⟩) :: view.mapped} else view
  | .munmap range => {view with mapped := view.mapped.filter fun window => !overlaps window.1 range}
  | .register _ extBuf rc base =>
    if rc = 0 then {view with registered := ⟨extBuf.userAddr,extBuf.size,base⟩ :: view.registered} else view
  | .transfer _ request => {view with calls := view.calls++[(request,[])]}
  | .lookup _ number range => {view with
      calls := view.calls.modify number fun call => (call.1,call.2++[translate view.windows range])}
  | _ => view

def System.owned (s : System) : List Nat :=
  s.kernel.vmas.map (·.privateData.node)++s.calls.flatMap (·.ghost.held)

-- The run invariant: the list follows the mappings, each record is an object of
-- its own, and a mapping lies in the process of the session that made it.
structure Kept (owner : Nat → Task) (s : System) : Prop where
  listed : s.kernel.dev.dmabufList = s.kernel.vmas.map (·.privateData)
  distinct : s.owned.Nodup
  live : ∀ ptr ∈ s.owned, ptr ∈ s.kernel.heap
  placed : ∀ vma ∈ s.kernel.vmas, vma.area.vmMm = owner vma.privateData.session
  conforming : Conforming Lookups.protocol Ends s.calls

section
variable {owner : Nat → Task} {s after : System} {session : Nat}

theorem Fresh.kept (fresh : Fresh s) : Kept owner s := by
  have owned : s.owned = [] := by
    rw [System.owned,fresh.vmas,fresh.calls]
    rfl
  refine ⟨?_,?_,?_,?_,?_⟩
  · rw [fresh.dmabufList,fresh.vmas]
    rfl
  · rw [owned]
    exact List.nodup_nil
  · rw [owned]
    exact fun ptr member => absurd member List.not_mem_nil
  · rw [fresh.vmas]
    exact fun vma member => absurd member List.not_mem_nil
  · rw [fresh.calls]
    exact fun call member => absurd member List.not_mem_nil

theorem find_filter {α : Type} {test keep : α → Bool} {list : List α}
    (kept : ∀ value, list.find? test = some value → keep value = true) : (list.filter keep).find? test = list.find? test := by
  induction list with
  | nil => rfl
  | cons value rest ih =>
    rw [List.filter_cons]
    cases first : test value with
    | true =>
      have here := kept value (List.find?_cons_of_pos first)
      rw [if_pos here,List.find?_cons_of_pos first,List.find?_cons_of_pos first]
    | false =>
      have skip : (value :: rest).find? test = rest.find? test := List.find?_cons_of_neg (by simp [first])
      rw [skip] at kept ⊢
      split
      · rw [List.find?_cons_of_neg (by simp [first])]
        exact ih kept
      · exact ih kept

-- The device as the session alone would have made it.
def ownDevice (session : Nat) (dev : AxidmaDevice) : AxidmaDevice :=
  {dev with
    dmabufList := dev.dmabufList.filter fun alloc => decide (alloc.session = session)
    externalDmabufs := dev.externalDmabufs.filter fun alloc => decide (alloc.session = session)}

theorem own_translation {dev : AxidmaDevice} {userAddr : UserAddr} {size : SizeT}
    (own : ∀ maker, firstOwner dev userAddr size = some maker → maker = session) :
    axidmaUservirtToDma dev userAddr size = axidmaUservirtToDma (ownDevice session dev) userAddr size := by
  unfold firstOwner at own
  unfold axidmaUservirtToDma ownDevice
  cases found : dev.dmabufList.find? fun alloc => validDmaRequest alloc.userAddr alloc.size userAddr size with
  | some alloc =>
    rw [found] at own
    have first : (dev.dmabufList.filter fun alloc => decide (alloc.session = session)).find?
        (fun alloc => validDmaRequest alloc.userAddr alloc.size userAddr size) = some alloc := by
      rw [find_filter,found]
      intro value same
      cases found.symm.trans same
      exact decide_eq_true (own _ rfl)
    rw [first]
  | none =>
    rw [found] at own
    have first : (dev.dmabufList.filter fun alloc => decide (alloc.session = session)).find?
        (fun alloc => validDmaRequest alloc.userAddr alloc.size userAddr size) = none := by
      rw [find_filter,found]
      intro value same
      cases found.symm.trans same
    have second : (dev.externalDmabufs.filter fun alloc => decide (alloc.session = session)).find?
        (fun alloc => validDmaRequest alloc.userAddr alloc.size userAddr size) =
        dev.externalDmabufs.find? fun alloc => validDmaRequest alloc.userAddr alloc.size userAddr size := by
      apply find_filter
      intro value same
      rw [same] at own
      exact decide_eq_true (own _ rfl)
    rw [first,second]

theorem own_windows (kept : Kept owner s) :
    Translation.windows (ownDevice session s.kernel.dev) = (view session s).windows := by
  simp only [Translation.windows,ownDevice,View.windows,view,kept.listed,List.map_map,List.filter_map]
  rfl

theorem own_answer (kept : Kept owner s) {number : Nat} {range : UserAddr × SizeT}
    (own : OwnFirst session s (.lookup session number range)) :
    base (entryAt s.kernel.dev range) = translate (view session s).windows range := by
  rw [base_entry,own_translation (own rfl),Translation.translate_windows,own_windows kept]
  rfl

structure ClosedAll (closing : List Vma) (kernel after : KernelState) : Prop where
  vmas : after.vmas = kernel.vmas
  externalDmabufs : after.dev.externalDmabufs = kernel.dev.externalDmabufs
  dmabufList : after.dev.dmabufList =
    kernel.dev.dmabufList.filter fun alloc => decide (alloc.node ∉ closing.map (·.privateData.node))
  heap : ∀ ptr ∈ kernel.heap, ptr ∉ closing.map (·.privateData.node) → ptr ∈ after.heap

theorem closeAll_closes {closing : List Vma} {kernel : KernelState} :
    Ensures kernelMachine (fun _ after => ClosedAll closing kernel after) (closeAll closing) kernel := by
  induction closing generalizing kernel with
  | nil => exact ⟨rfl,rfl,by simp,fun ptr member _ => member⟩
  | cons vma rest ih =>
    refine ensures_bind (close_ends.mono ?_)
    intro outcome after ended
    obtain ⟨rfl,rfl⟩ := ended
    refine ih.mono fun _ final closed => ⟨closed.vmas,closed.externalDmabufs,?_,?_⟩
    · rw [closed.dmabufList]
      show (kernel.dev.dmabufList.filter _).filter _ = _
      rw [List.filter_filter]
      apply List.filter_congr
      intro alloc _
      simp only [List.map_cons,List.mem_cons,not_or,Bool.decide_and]
      exact Bool.and_comm ..
    · intro ptr member other
      rw [List.map_cons,List.mem_cons,not_or] at other
      refine closed.heap ptr ?_ other.2
      exact (List.mem_erase_of_ne other.1).mpr member

theorem taken_apart {range : VmAreaStruct} (kept : Kept owner s) {ptr : Nat}
    (left : ptr ∈ (s.kernel.vmas.filter fun vma => !overlaps vma.area range).map (·.privateData.node)++
      s.calls.flatMap (·.ghost.held)) : ptr ∉ (removed range s.kernel.vmas).map (·.privateData.node) := by
  have parts := ((List.filter_append_perm (fun vma : Vma => overlaps vma.area range) s.kernel.vmas).map
    (·.privateData.node)).append_right (s.calls.flatMap (·.ghost.held))
  rw [List.map_append,List.append_assoc] at parts
  have distinct := (parts.nodup_iff.mpr kept.distinct)
  exact fun taken => (List.nodup_append.mp distinct).2.2 ptr taken ptr left rfl

theorem munmap_list {range : VmAreaStruct} (kept : Kept owner s) :
    (s.kernel.dev.dmabufList.filter fun alloc =>
      decide (alloc.node ∉ (removed range s.kernel.vmas).map (·.privateData.node))) =
    (s.kernel.vmas.filter fun vma => !overlaps vma.area range).map (·.privateData) := by
  rw [kept.listed,List.filter_map]
  refine congrArg _ (List.filter_congr fun vma member => ?_)
  cases touched : overlaps vma.area range with
  | true =>
    have present : vma.privateData.node ∈ (removed range s.kernel.vmas).map (·.privateData.node) :=
      List.mem_map_of_mem (List.mem_filter.mpr ⟨member,touched⟩)
    simpa using present
  | false =>
    have left : vma ∈ s.kernel.vmas.filter fun vma => !overlaps vma.area range :=
      List.mem_filter.mpr ⟨member,by rw [touched]; rfl⟩
    have absent := taken_apart kept (List.mem_append_left _ (List.mem_map_of_mem left))
    simpa using absent

theorem munmap_keeps {range : VmAreaStruct} {kernel : KernelState} (kept : Kept owner s)
    (whole : Whole s.kernel (.munmap range)) (unmapped : MemoryStep s.kernel (.munmap range) kernel) :
    Kept owner {s with kernel := kernel} ∧
      kernel.vmas = (s.kernel.vmas.filter fun vma => !overlaps vma.area range) ∧
      kernel.dev.externalDmabufs = s.kernel.dev.externalDmabufs := by
  cases unmapped with
  | munmap executed =>
    have closed := ensures_iff.mp closeAll_closes _ _ executed
    have vmas : kernel.vmas = s.kernel.vmas.filter fun vma => !overlaps vma.area range := by
      rw [closed.vmas]
      exact split_whole whole
    refine ⟨⟨?_,?_,?_,?_,kept.conforming⟩,vmas,closed.externalDmabufs⟩
    · rw [closed.dmabufList,vmas]
      exact munmap_list kept
    · rw [System.owned,vmas]
      exact kept.distinct.sublist ((List.filter_sublist.map _).append_right _)
    · rw [System.owned,vmas]
      intro ptr member
      have earlier : ptr ∈ s.owned := ((List.filter_sublist.map _).append_right _).subset member
      exact closed.heap ptr (kept.live ptr earlier) (taken_apart kept member)
    · rw [vmas]
      exact fun vma member => kept.placed vma (List.mem_of_mem_filter member)

theorem munmap_view {range : VmAreaStruct} {kernel : KernelState}
    (vmas : kernel.vmas = s.kernel.vmas.filter fun vma => !overlaps vma.area range)
    (externalDmabufs : kernel.dev.externalDmabufs = s.kernel.dev.externalDmabufs) :
    view session {s with kernel := kernel} = (view session s).move (.munmap range) := by
  have mapped : ((s.kernel.vmas.filter fun vma => !overlaps vma.area range).filter fun vma =>
      decide (vma.privateData.session = session)) =
      (s.kernel.vmas.filter fun vma => decide (vma.privateData.session = session)).filter
        fun vma => !overlaps vma.area range := by
    rw [List.filter_filter,List.filter_filter]
    exact List.filter_congr fun vma _ => Bool.and_comm ..
  simp only [view,View.move,vmas,externalDmabufs,mapped,List.filter_map]
  rfl

theorem mmap_kept {area : VmAreaStruct} {kernel : KernelState} {outcome : Outcome Fault Int} {call : Nat}
    (kept : Kept owner s) (own : area.vmMm = owner session)
    (ends : MmapEnds s.kernel ⟨owner session,call,session⟩ area outcome kernel) : Kept owner {s with kernel := kernel} := by
  cases ends with
  | refused => exact kept
  | undone => exact ⟨kept.listed,kept.distinct,kept.live,kept.placed,kept.conforming⟩
  | @placed alloc _ _ made node _ =>
    refine ⟨congrArg _ kept.listed,?_,?_,?_,kept.conforming⟩
    · refine List.nodup_cons.mpr ⟨fun present => ?_,kept.distinct⟩
      exact node (kept.live _ present)
    · intro ptr member
      rcases List.mem_cons.mp member with rfl | before
      · exact List.mem_cons_self
      · exact List.mem_cons_of_mem _ (kept.live ptr before)
    · intro vma member
      rcases List.mem_cons.mp member with rfl | before
      · show area.vmMm = owner alloc.session
        rw [own,made]
      · exact kept.placed vma before

theorem mmap_view {other : Nat} {area : VmAreaStruct} {kernel : KernelState} {rc : Int} {base : DmaAddr} {call : Nat}
    (ends : MmapEnds s.kernel ⟨owner other,call,other⟩ area (.returned rc) kernel)
    (based : rc = 0 → (kernel.dev.dmabufList.head?.map (·.dmaAddr)) = some base) :
    view session {s with kernel := kernel} =
      if other = session then (view session s).move (.mmap other area rc base) else view session s := by
  have failed : rc < 0 → (view session s).move (.mmap other area rc base) = view session s :=
    fun negative => if_neg (Int.ne_of_lt negative)
  cases ends with
  | refused => rw [failed (by decide),ite_self]
  | undone negative => 
    rw [failed negative,ite_self]
    rfl
  | @placed alloc start size made _ _ =>
    obtain rfl : alloc.dmaAddr = base := Option.some.inj (based rfl)
    have window : Translation.ofDmabuf alloc = ⟨area.vmStart,area.vmEnd-area.vmStart,alloc.dmaAddr⟩ := by
      rw [Translation.ofDmabuf,start,size]
    have made : alloc.session = other := made
    by_cases same : other = session
    · have shown : decide (alloc.session = session) = true := by simp [made,same]
      rw [if_pos same]
      simp only [view,KernelState.place,List.filter_cons,shown,if_true,List.map_cons,window,View.move]
    · have hidden : decide (alloc.session = session) = false := by simp [made,same]
      rw [if_neg same]
      simp only [view,KernelState.place,List.filter_cons,hidden,Bool.false_eq_true,if_false]

theorem register_kept {extBuf : AxidmaRegisterBuffer} {kernel : KernelState} {outcome : Outcome Fault Int} {caller : Caller}
    (kept : Kept owner s) (ends : RegisterEnds s.kernel caller extBuf outcome kernel) :
    Kept owner {s with kernel := kernel} := by
  cases ends with
  | refused => exact kept
  | taken =>
    exact ⟨kept.listed,kept.distinct,fun ptr member => List.mem_cons_of_mem _ (kept.live ptr member),kept.placed,kept.conforming⟩

theorem register_view {other : Nat} {extBuf : AxidmaRegisterBuffer} {kernel : KernelState} {rc : Int} {base : DmaAddr}
    {call : Nat} (ends : RegisterEnds s.kernel ⟨owner other,call,other⟩ extBuf (.returned rc) kernel)
    (based : rc = 0 → (kernel.dev.externalDmabufs.head?.map (·.sgTable.dmaAddress)) = some base) :
    view session {s with kernel := kernel} =
      if other = session then (view session s).move (.register other extBuf rc base) else view session s := by
  have failed : rc < 0 → (view session s).move (.register other extBuf rc base) = view session s :=
    fun negative => if_neg (Int.ne_of_lt negative)
  cases ends with
  | refused negative => rw [failed negative,ite_self]
  | @taken alloc start size made =>
    obtain rfl : alloc.sgTable.dmaAddress = base := Option.some.inj (based rfl)
    have window : Translation.ofExternal alloc = ⟨extBuf.userAddr,extBuf.size,alloc.sgTable.dmaAddress⟩ := by
      rw [Translation.ofExternal,start,size]
    have made : alloc.session = other := made
    by_cases same : other = session
    · have shown : decide (alloc.session = session) = true := by simp [made,same]
      rw [if_pos same]
      simp only [view,List.filter_cons,shown,if_true,List.map_cons,window,View.move]
    · have hidden : decide (alloc.session = session) = false := by simp [made,same]
      rw [if_neg same]
      simp only [view,List.filter_cons,hidden,Bool.false_eq_true,if_false]

theorem memory_view {kernel : KernelState} {calls : List (Thread looking Fault Int Call)} (memory : SameMemory s.kernel kernel)
    (still : answersOf (sessionCalls session calls) = answersOf (sessionCalls session s.calls)) :
    view session {s with kernel := kernel, calls := calls} = view session s := by
  simp only [view,memory.vmas,memory.externalDmabufs,still]

section
variable {kernel : KernelState} {before later : List (Thread looking Fault Int Call)} {call moved : Call}
  {rest rest' : Looking Int} {known opened : List Nat}

theorem owned_perm : (System.owned ⟨kernel,known,opened,before++⟨call,rest⟩ :: later⟩).Perm
    (call.held++(kernel.vmas.map (·.privateData.node)++(before++later).flatMap (·.ghost.held))) := by
  simp only [System.owned,List.flatMap_append,List.flatMap_cons]
  rw [← List.append_assoc,← List.append_assoc (kernel.vmas.map _)]
  exact List.perm_append_comm_assoc ..

-- Whatever becomes of the objects of one call and of the heap, it stays kept as
-- long as each object has one owner and is there.
theorem Kept.working {kernel' : KernelState} (kept : Kept owner ⟨kernel,known,opened,before++⟨call,rest⟩ :: later⟩)
    (memory : SameMemory kernel kernel')
    (distinct : (moved.held++(kernel.vmas.map (·.privateData.node)++(before++later).flatMap (·.ghost.held))).Nodup)
    (live : ∀ ptr ∈ moved.held++(kernel.vmas.map (·.privateData.node)++(before++later).flatMap (·.ghost.held)), ptr ∈ kernel'.heap)
    (conforming : Conforming Lookups.protocol Ends (before++⟨moved,rest'⟩ :: later)) :
    Kept owner ⟨kernel',known,opened,before++⟨moved,rest'⟩ :: later⟩ := by
  have owned := @owned_perm kernel' before later moved rest' known opened
  rw [memory.vmas] at owned
  refine ⟨?_,owned.nodup_iff.mpr distinct,?_,?_,conforming⟩
  · rw [memory.dmabufList,memory.vmas]
    exact kept.listed
  · exact fun ptr member => live ptr (owned.mem_iff.mp member)
  · rw [memory.vmas]
    exact kept.placed

theorem transfers_heap {op : KernelCall} {reply : op.Reply} (transfers : op.transfers)
    (allocates : ∀ size, op ≠ .kmalloc size) (frees : ∀ ptr, op ≠ .kfree ptr) :
    (kernel.perform op reply).heap = kernel.heap := by
  cases op with
  | kmalloc size => exact absurd rfl (allocates size)
  | kfree ptr => exact absurd rfl (frees ptr)
  | dmaengineSubmit chan txd =>
    simp only [KernelState.perform]
    split <;> rfl
  | uninitialisedFrame => rfl
  | xilinxVdmaChannelSetConfig chan config => rfl
  | dmaenginePrepSlaveSg chan prepared => rfl
  | dmaenginePrepInterleavedDma chan prepared => rfl
  | storeCbData slot cbData => rfl
  | initCompletion comp => rfl
  | dmaAsyncIssuePending chan => rfl
  | waitForCompletionTimeout comp usecs => rfl
  | dmaAsyncIsTxComplete chan cookie => rfl
  | dmaengineTerminateAll chan => rfl
  | _ => exact transfers.elim

theorem admits_transfers {op : KernelCall} (admitted : call.admits op) : op.transfers := by
  cases op with
  | kfree ptr => trivial
  | dmaengineSubmit chan txd => trivial
  | _ => exact admitted

theorem perform_kept {op : KernelCall} {next : op.Reply → Looking Int} {reply : op.Reply}
    (kept : Kept owner ⟨kernel,known,opened,before++⟨call,.call (.inl op) next⟩ :: later⟩) (given : kernel.gives op reply)
    (conforming : Conforming Lookups.protocol Ends (before++⟨call.advance op reply,next reply⟩ :: later)) :
    Kept owner ⟨kernel.perform op reply,known,opened,before++⟨call.advance op reply,next reply⟩ :: later⟩ ∧
      SameMemory kernel (kernel.perform op reply) := by
  have admitted : call.admits op := (kept.conforming ⟨call,.call (.inl op) next⟩ (by simp)).1
  have owned := @owned_perm kernel before later call (.call (.inl op) next) known opened
  have distinct := owned.nodup_iff.mp kept.distinct
  have live : ∀ ptr ∈ call.held++(kernel.vmas.map (·.privateData.node)++(before++later).flatMap (·.ghost.held)), ptr ∈ kernel.heap :=
    fun ptr member => kept.live ptr (owned.mem_iff.mpr member)
  have memory : SameMemory kernel (kernel.perform op reply) := transfers_memory (admits_transfers admitted)
  have others : (∀ size, op ≠ .kmalloc size) → (∀ ptr, op ≠ .kfree ptr) → allocated call.held op reply = call.held →
      Kept owner ⟨kernel.perform op reply,known,opened,before++⟨call.advance op reply,next reply⟩ :: later⟩ ∧
        SameMemory kernel (kernel.perform op reply) := by
    intro allocates frees same
    refine ⟨kept.working memory ?_ ?_ conforming,memory⟩
    · rw [Call.advance,same]
      exact distinct
    · rw [Call.advance,same,transfers_heap (admits_transfers admitted) allocates frees]
      exact live
  cases op with
  | kmalloc size =>
    refine ⟨kept.working memory ?_ ?_ conforming,memory⟩
    · cases reply with
      | none => exact distinct
      | some ptr => exact List.nodup_cons.mpr ⟨fun member => given.2 ptr rfl (live ptr member),distinct⟩
    · cases reply with
      | none => exact live
      | some ptr =>
        intro other member
        rcases List.mem_cons.mp member with rfl | before
        · exact List.mem_cons_self
        · exact List.mem_cons_of_mem _ (live other before)
  | kfree ptr =>
    have freed : call.held.erase ptr++(kernel.vmas.map (·.privateData.node)++(before++later).flatMap (·.ghost.held)) =
        (call.held++(kernel.vmas.map (·.privateData.node)++(before++later).flatMap (·.ghost.held))).erase ptr :=
      (List.erase_append_left _ admitted).symm
    refine ⟨kept.working memory ?_ ?_ conforming,memory⟩
    · show (call.held.erase ptr++_).Nodup
      rw [freed]
      exact distinct.erase ptr
    · intro other member
      rw [show (call.advance (.kfree ptr) reply).held = call.held.erase ptr from rfl,freed,distinct.mem_erase_iff] at member
      exact (List.mem_erase_of_ne member.1).mpr (live other member.2)
  | _ => exact others (fun _ => KernelCall.noConfusion) (fun _ => KernelCall.noConfusion) rfl

theorem looking_legal {kernel : KernelState} {op : looking.Op} {reply : looking.Reply op}
    (given : lookingMachine.gives kernel op reply) : looking.Legal op reply := by
  cases op with
  | inl op => exact gives_legal given
  | inr range =>
    obtain rfl := given
    exact entry_legal

theorem proceed_kept {op : looking.Op} {next : looking.Reply op → Looking Int} {reply : looking.Reply op}
    (kept : Kept owner ⟨kernel,known,opened,before++⟨call,.call op next⟩ :: later⟩) (given : lookingMachine.gives kernel op reply) :
    Kept owner ⟨lookingMachine.perform kernel op reply,known,opened,
        before++⟨Lookups.protocol.advance call op reply,next reply⟩ :: later⟩ ∧
      SameMemory kernel (lookingMachine.perform kernel op reply) := by
  have taken : Interleave lookingMachine Lookups.protocol kernel (before++⟨call,.call op next⟩ :: later)
      (lookingMachine.perform kernel op reply) (before++⟨Lookups.protocol.advance call op reply,next reply⟩ :: later) :=
    .step reply given
  have conforming := taken.conforming (fun _ _ _ given => looking_legal given) kept.conforming
  cases op with
  | inl op => exact perform_kept kept given conforming
  | inr range =>
    have memory : SameMemory kernel kernel := ⟨rfl,rfl,rfl,rfl,rfl,rfl,rfl⟩
    have owned := @owned_perm kernel before later call (.call (.inr range) next) known opened
    exact ⟨kept.working memory (owned.nodup_iff.mp kept.distinct) (fun ptr member => kept.live ptr (owned.mem_iff.mpr member))
      conforming,memory⟩

end

theorem engine_kept {kernel : KernelState} (kept : Kept owner s) (taken : EngineStep s.kernel kernel) :
    Kept owner {s with kernel := kernel} := by
  have memory := engine_memory taken
  have owned : System.owned {s with kernel := kernel} = s.owned := by rw [System.owned,memory.vmas]; rfl
  refine ⟨?_,?_,?_,?_,kept.conforming⟩
  · rw [memory.dmabufList,memory.vmas]
    exact kept.listed
  · rw [owned]
    exact kept.distinct
  · rw [owned,engine_heap taken]
    exact kept.live
  · rw [memory.vmas]
    exact kept.placed

theorem start_kept {request : Request} {caller : Caller} (kept : Kept owner s) :
    Kept owner {s with calls := s.calls++[⟨.start session s.kernel.dev request,asking s.kernel.dev caller request⟩]} := by
  have owned : System.owned {s with calls := s.calls++[⟨.start session s.kernel.dev request,asking s.kernel.dev caller request⟩]} =
      s.owned := by simp [System.owned,Call.start]
  refine ⟨kept.listed,?_,?_,kept.placed,?_⟩
  · rw [owned]
    exact kept.distinct
  · rw [owned]
    exact kept.live
  · intro call member
    rcases List.mem_append.mp member with before | new
    · exact kept.conforming call before
    · obtain rfl := List.mem_singleton.mp new
      exact request_ends

theorem step_kept {action : Action} (kept : Kept owner s) (step : Step owner s action after) : Kept owner after := by
  cases step with
  | openFile => exact ⟨kept.listed,kept.distinct,kept.live,kept.placed,kept.conforming⟩
  | closeFile => exact ⟨kept.listed,kept.distinct,kept.live,kept.placed,kept.conforming⟩
  | mmap _ own _ _ executed _ => exact mmap_kept kept own (ensures_iff.mp mmap_ends _ _ executed)
  | munmap whole unmapped => exact (munmap_keeps kept whole unmapped).1
  | register _ executed _ => exact register_kept kept (ensures_iff.mp register_ends _ _ executed)
  | transfer _ => exact start_kept kept
  | proceed running reply given =>
    obtain ⟨kernel,known,opened,calls⟩ := s
    cases running
    exact (proceed_kept kept given).1
  | engine taken => exact engine_kept kept taken

theorem munmap_elsewhere {range : VmAreaStruct} (kept : Kept owner s) (other : range.vmMm ≠ owner session) :
    (view session s).move (.munmap range) = view session s := by
  have apart : ∀ window ∈ (view session s).mapped, (!overlaps window.1 range) = true := by
    intro window member
    obtain ⟨vma,present,rfl⟩ := List.mem_map.mp member
    obtain ⟨present,made⟩ := List.mem_filter.mp present
    have place := kept.placed vma present
    rw [of_decide_eq_true made] at place
    have differ : ¬ vma.area.vmMm = range.vmMm := by
      rw [place]
      exact fun same => other same.symm
    simp [overlaps,differ]
  simp only [View.move,List.filter_eq_self.mpr apart]

section
variable {before later : List (Thread looking Fault Int Call)} {call moved : Call} {rest rest' : Looking Int}

theorem answers_still (same : moved.session = call.session) (request : moved.request = call.request)
    (answers : moved.answers = call.answers) :
    answersOf (sessionCalls session (before++⟨moved,rest'⟩ :: later)) = answersOf (sessionCalls session (before++⟨call,rest⟩ :: later)) := by
  simp only [answersOf,sessionCalls,List.filter_append,List.filter_cons,same]
  split <;> simp [request,answers]

theorem answers_elsewhere (same : moved.session = call.session) (other : call.session ≠ session) :
    answersOf (sessionCalls session (before++⟨moved,rest'⟩ :: later)) = answersOf (sessionCalls session (before++⟨call,rest⟩ :: later)) := by
  simp [answersOf,sessionCalls,List.filter_append,same,other]

theorem modify_here {α : Type} {change : α → α} {early late : List α} {value : α} :
    (early++value :: late).modify early.length change = early++change value :: late := by
  induction early with
  | nil => rfl
  | cons first early ih => exact congrArg (List.cons first) ih

theorem answers_grow {change : Request × List DmaAddr → Request × List DmaAddr} (same : moved.session = call.session)
    (own : call.session = session) (changed : (moved.request,moved.answers) = change (call.request,call.answers)) :
    answersOf (sessionCalls session (before++⟨moved,rest'⟩ :: later)) =
      (answersOf (sessionCalls session (before++⟨call,rest⟩ :: later))).modify (sessionCalls session before).length change := by
  have length : (sessionCalls session before).length = (answersOf (sessionCalls session before)).length := (List.length_map _).symm
  simp only [answersOf,sessionCalls,List.filter_append,List.filter_cons,same,own,decide_true,if_true,List.map_append,List.map_cons]
    at length ⊢
  rw [changed,length,modify_here]

end

theorem proceed_view {before later : List (Thread looking Fault Int Call)} {call : Call} {op : looking.Op}
    {rest : looking.Reply op → Looking Int} {reply : looking.Reply op} (kept : Kept owner s)
    (own : OwnFirst session s (turn before call op)) (running : s.calls = before++⟨call,.call op rest⟩ :: later)
    (given : lookingMachine.gives s.kernel op reply) (memory : SameMemory s.kernel (lookingMachine.perform s.kernel op reply)) :
    view session {s with
        kernel := lookingMachine.perform s.kernel op reply
        calls := before++⟨Lookups.protocol.advance call op reply,rest reply⟩ :: later} =
      if mine owner session (turn before call op) = true then (view session s).move (turn before call op) else view session s := by
  cases op with
  | inl op =>
    rw [if_neg (by simp [turn,mine])]
    apply memory_view memory
    rw [running]
    exact answers_still rfl rfl rfl
  | inr range =>
    by_cases same : call.session = session
    · rw [if_pos (by simp [turn,mine,same])]
      have found : base reply = translate (view session s).windows range := by
        rw [show reply = entryAt s.kernel.dev range from given]
        subst same
        exact own_answer kept own
      subst same
      simp only [view,View.move,turn]
      rw [running]
      have grown := @answers_grow call.session before later call (Lookups.protocol.advance call (.inr range) reply)
        (.call (.inr range) rest) (rest reply) (fun asked => (asked.1,asked.2++[base reply])) rfl rfl rfl
      rw [grown,found]
      rfl
    · rw [if_neg (by simpa [turn,mine] using same)]
      apply memory_view memory
      rw [running]
      exact answers_elsewhere rfl same

theorem step_view {action : Action} (kept : Kept owner s) (own : OwnFirst session s action) (step : Step owner s action after) :
    view session after = if mine owner session action = true then (view session s).move action else view session s := by
  cases step with
  | openFile => exact (ite_self _).symm
  | closeFile => exact (ite_self _).symm
  | mmap _ _ _ _ executed based =>
    rw [mmap_view (ensures_iff.mp mmap_ends _ _ executed) based]
    simp [mine]
  | register _ executed based =>
    rw [register_view (ensures_iff.mp register_ends _ _ executed) based]
    simp [mine]
  | @munmap range kernel whole unmapped =>
    obtain ⟨_,vmas,externalDmabufs⟩ := munmap_keeps kept whole unmapped
    rw [munmap_view vmas externalDmabufs]
    by_cases same : range.vmMm = owner session
    · rw [if_pos (by simpa [mine] using same)]
    · rw [if_neg (by simpa [mine] using same)]
      exact munmap_elsewhere kept same
  | @transfer other request _ =>
    by_cases same : other = session
    · subst same
      simp [mine,view,View.move,answersOf,sessionCalls,Call.start]
    · simp [mine,view,answersOf,sessionCalls,Call.start,same]
  | proceed running reply given =>
    have memory : SameMemory s.kernel (lookingMachine.perform s.kernel _ reply) := by
      obtain ⟨kernel,known,opened,calls⟩ := s
      cases running
      exact (proceed_kept kept given).2
    exact proceed_view kept own running given memory
  | engine taken => exact memory_view (engine_memory taken) rfl

theorem run_view {origin final : System} {actions : List Action} (fresh : Fresh origin)
    (path : Runs (Restrict (OwnFirst session) (Step owner)) origin actions final) :
    view session final = (actions.filter (mine owner session)).foldl View.move ⟨[],[],[]⟩ := by
  have empty : view session origin = ⟨[],[],[]⟩ := by
    simp only [view,answersOf,sessionCalls,fresh.vmas,fresh.externalDmabufs,fresh.calls]
    rfl
  rw [← empty]
  have kept : Kept owner origin := fresh.kept
  refine path.view kept ?_ ?_ ?_
  · exact fun before action after kept step => step_kept kept step.2
  · intro before action after kept step own
    rw [step_view kept step.1 step.2,if_pos own]
  · intro before action after kept step other
    rw [step_view kept step.1 step.2,other]
    rfl

theorem step_sound {action : Action} (kept : Kept owner s) (sound : ∀ call ∈ s.calls, Sound call.ghost)
    (step : Step owner s action after) : ∀ call ∈ after.calls, Sound call.ghost := by
  cases step with
  | openFile => exact sound
  | closeFile => exact sound
  | mmap => exact sound
  | munmap => exact sound
  | register => exact sound
  | engine => exact sound
  | transfer =>
    intro call member
    rcases List.mem_append.mp member with before | new
    · exact sound call before
    · obtain rfl := List.mem_singleton.mp new
      exact ⟨List.prefix_rfl,fun some => absurd rfl some⟩
  | @proceed before later call op rest running reply given =>
    have here : ⟨call,.call op rest⟩ ∈ s.calls := by
      rw [running]
      exact List.mem_append_right _ List.mem_cons_self
    intro other member
    rcases List.mem_append.mp member with early | late
    · exact sound other (running ▸ List.mem_append_left _ early)
    · rcases List.mem_cons.mp late with rfl | late
      · exact sound_advance (sound _ here) (kept.conforming _ here).1
      · exact sound other (running ▸ List.mem_append_right _ (List.mem_cons_of_mem _ late))

def Traced (owner : Nat → Task) (s : System) : Prop := Kept owner s ∧ ∀ call ∈ s.calls, Sound call.ghost

theorem run_follows {origin final : System} {actions : List Action} (fresh : Fresh origin)
    (path : Runs (Step owner) origin actions final) : ∀ call ∈ final.calls, Follows call := by
  have begun : Traced owner origin := by
    refine ⟨fresh.kept,?_⟩
    rw [fresh.calls]
    exact fun call member => absurd member List.not_mem_nil
  have reached : Traced owner final := by
    refine path.keeps begun fun before action after holds step => ?_
    obtain ⟨kept,sound⟩ := holds
    exact ⟨step_kept kept step,step_sound kept sound step⟩
  obtain ⟨kept,sound⟩ := reached
  intro call member
  refine ⟨sound call member,fun rc returned => ?_⟩
  have conforms := kept.conforming call member
  rw [returned] at conforms
  exact conforms rc rfl

theorem alike_of_answers {calls calls' : List (Thread looking Fault Int Call)} (same : answersOf calls = answersOf calls')
    (follows : ∀ call ∈ calls, Follows call) (follows' : ∀ call ∈ calls', Follows call) : List.Forall₂ Alike calls calls' := by
  induction calls generalizing calls' with
  | nil =>
    cases calls' with
    | nil => exact .nil
    | cons other others => cases same
  | cons call rest ih =>
    cases calls' with
    | nil => cases same
    | cons other others =>
      obtain ⟨first,later⟩ := List.cons.inj same
      obtain ⟨request,answers⟩ := Prod.mk.inj first
      refine .cons ⟨request,answers,follows call List.mem_cons_self,follows' other List.mem_cons_self⟩ ?_
      exact ih later (fun call member => follows call (List.mem_cons_of_mem _ member))
        fun call member => follows' call (List.mem_cons_of_mem _ member)

-- Two runs that agree on what a session's process does give its requests the same
-- addresses, if each of its lookups meets an entry of its own first in both.
theorem same_answers {origin origin' final final' : System} {actions actions' : List Action} (fresh : Fresh origin)
    (fresh' : Fresh origin') (path : Runs (Restrict (OwnFirst session) (Step owner)) origin actions final)
    (path' : Runs (Restrict (OwnFirst session) (Step owner)) origin' actions' final')
    (agree : actions.filter (mine owner session) = actions'.filter (mine owner session)) :
    List.Forall₂ Alike (sessionCalls session final.calls) (sessionCalls session final'.calls) := by
  have one := run_view fresh path
  have two := run_view fresh' path'
  rw [agree,← two] at one
  have follows := run_follows fresh (path.widen fun _ _ _ => And.right)
  have follows' := run_follows fresh' (path'.widen fun _ _ _ => And.right)
  refine alike_of_answers (congrArg View.calls one) ?_ ?_
  · exact fun call member => follows call (List.mem_of_mem_filter member)
  · exact fun call member => follows' call (List.mem_of_mem_filter member)

end
-- A device with one receive channel. Session n is that of process n.
def idle : System := ⟨.loaded (loadedDevice [⟨.read,.dma,0,"rx_channel",7⟩]),[],[],[]⟩
def pageAt (process : Task) (start : UserAddr) : VmAreaStruct := ⟨process,start,start+0x1000⟩
def bufferAt (session : Nat) (start : UserAddr) (node : Nat) (base : DmaAddr) : AxidmaDmaAllocation :=
  ⟨node,start+0x1000-start,start,node,base,session⟩
def readPage : Request := .read ⟨false,0,0x10000,0x100,⟨0,0,0⟩⟩
def readRange : UserAddr × SizeT := (0x10000,0x100)

theorem idle_fresh : Fresh idle := ⟨rfl,rfl,rfl,rfl⟩

theorem mmap_step {s : System} (process : Nat) (start : UserAddr) (node : Nat) (base : DmaAddr)
    (isOpen : process ∈ s.opened) (nonempty : start < start+0x1000)
    (free : ∀ vma ∈ s.kernel.vmas, overlaps vma.area (pageAt process start) = false) (fresh : node ∉ s.kernel.heap)
    (new : node ∉ s.kernel.regions) : Step id s (.mmap process (pageAt process start) 0 base) {s with
      kernel := s.kernel.place (pageAt process start) (bufferAt process start node base)} := by
  refine .mmap isOpen rfl nonempty free ?_ fun _ => rfl
  refine ⟨some node,⟨fun _ => by decide,?_⟩,(),trivial,some (node,base),?_,?_⟩
  · intro ptr same
    cases same
    exact fresh
  · intro region same
    cases same
    exact new
  · exact ⟨(0 : Int),trivial,(),trivial,(),trivial,rfl,rfl⟩

section
variable {s : System} {call : Call}

theorem open_step (session : Nat) (new : session ∉ s.known) :
    Step id s (.openFile session true O_EXCL) {s with known := session :: s.known, opened := session :: s.opened} :=
  @Step.openFile id s session true O_EXCL new

theorem transfer_step (session : Nat) (request : Request) (isOpen : session ∈ s.opened) :
    Step id s (.transfer session request) {s with
      calls := s.calls++[⟨.start session s.kernel.dev request,asking s.kernel.dev ⟨session,s.calls.length,session⟩ request⟩]} :=
  .transfer isOpen

theorem lookup_step {rest : Except Int Scatterlist → Looking Int} (range : UserAddr × SizeT)
    (running : s.calls = [⟨call,.call (.inr range) rest⟩]) :
    Step id s (.lookup call.session 0 range) {s with
      calls := [⟨{call with answers := call.answers++[base (entryAt s.kernel.dev range)]},rest (entryAt s.kernel.dev range)⟩]} :=
  @Step.proceed id s [] [] call (.inr range) rest running _ rfl

theorem work_step (op : KernelCall) {rest : op.Reply → Looking Int} (running : s.calls = [⟨call,.call (.inl op) rest⟩])
    (reply : op.Reply) (given : s.kernel.gives op reply) :
    Step id s .work {s with kernel := s.kernel.perform op reply, calls := [⟨call.advance op reply,rest reply⟩]} :=
  @Step.proceed id s [] [] call (.inl op) rest running reply given

end

theorem readPage_own {s : System} {session number : Nat} (first : firstOwner s.kernel.dev 0x10000 0x100 = some session) :
    OwnFirst session s (.lookup session number readRange) := by
  intro _ maker found
  cases first.symm.trans found
  rfl

def neighbour (start : UserAddr) : System := {idle with
  known := [2]
  opened := [2]
  kernel := idle.kernel.place (pageAt 2 start) (bufferAt 2 start 1 0x50000000)}

def arrives (start : UserAddr) : List Action := [.openFile 2 true O_EXCL,.mmap 2 (pageAt 2 start) 0 0x50000000]

theorem neighbour_arrives {meets : System → Action → Prop} {start : UserAddr} (nonempty : start < start+0x1000)
    (met : ∀ s action, action ∈ arrives start → meets s action) :
    Runs (Restrict meets (Step id)) idle (arrives start) (neighbour start) := by
  have begun : Runs (Restrict meets (Step id)) idle [] idle := .start
  have opened := begun.meeting (open_step 2 (by decide)) (met _ _ List.mem_cons_self)
  exact opened.meeting (mmap_step 2 start 1 0x50000000 (by decide) nonempty
    (fun vma member => absurd member List.not_mem_nil) (by decide) (by decide)) (met _ _ (List.mem_cons_of_mem _ List.mem_cons_self))

def asks : List Action := [.openFile 1 true O_EXCL,.mmap 1 (pageAt 1 0x10000) 0 0x40000000,.transfer 1 readPage]
def reads : List Action := [.lookup 1 0 readRange,.work,.work,.work]

-- The first process maps a page and reads into it, once alone and once beside the
-- second, which has a page at the same address and maps another meanwhile.
theorem answers_beside_neighbour : ∃ final final', Runs (Step id) idle (asks++reads) final ∧
    Runs (Step id) idle (arrives 0x10000++asks++.mmap 2 (pageAt 2 0x20000) 0 0x60000000 :: reads) final' ∧
    List.Forall₂ Alike (sessionCalls 1 final.calls) (sessionCalls 1 final'.calls) ∧
    final.calls.map (·.ghost.programmed) = [[0x40000000]] ∧ final'.calls.map (·.ghost.programmed) = [[0x40000000]] := by
  have begun : Runs (Restrict (OwnFirst 1) (Step id)) idle [] idle := .start
  have opened := begun.meeting (open_step 1 (by decide)) trivial
  have mapped := opened.meeting (mmap_step 1 0x10000 1 0x40000000 (by decide) (by decide) (by decide) (by decide) (by decide)) trivial
  have asked := mapped.meeting (transfer_step 1 readPage (by decide)) trivial
  have found := asked.meeting (lookup_step readRange rfl) (readPage_own rfl)
  have prepared := found.meeting (work_step (.dmaenginePrepSlaveSg 7 _) rfl true trivial) trivial
  have stored := prepared.meeting (work_step (.storeCbData 0 _) rfl () trivial) trivial
  have read := stored.meeting (work_step (.dmaengineSubmit 7 _) rfl (0 : Int) trivial) trivial
  have arrived : Runs (Restrict (OwnFirst 1) (Step id)) idle (arrives 0x10000) _ := neighbour_arrives (by decide) fun _ action member => by
    rcases List.mem_cons.mp member with rfl | later
    · trivial
    · obtain rfl := List.mem_singleton.mp later
      trivial
  have opened' := arrived.meeting (open_step 1 (by decide)) trivial
  have mapped' := opened'.meeting (mmap_step 1 0x10000 2 0x40000000 (by decide) (by decide) (by decide) (by decide) (by decide)) trivial
  have asked' := mapped'.meeting (transfer_step 1 readPage (by decide)) trivial
  have meanwhile := asked'.meeting (mmap_step 2 0x20000 3 0x60000000 (by decide) (by decide) (by decide) (by decide) (by decide)) trivial
  have found' := meanwhile.meeting (lookup_step readRange rfl) (readPage_own rfl)
  have prepared' := found'.meeting (work_step (.dmaenginePrepSlaveSg 7 _) rfl true trivial) trivial
  have stored' := prepared'.meeting (work_step (.storeCbData 0 _) rfl () trivial) trivial
  have read' := stored'.meeting (work_step (.dmaengineSubmit 7 _) rfl (0 : Int) trivial) trivial
  refine ⟨_,_,read.widen fun _ _ _ => And.right,read'.widen fun _ _ _ => And.right,?_,rfl,rfl⟩
  exact same_answers idle_fresh idle_fresh read read' rfl

-- The first process has mapped nothing and asks for an address of the second: it
-- is refused alone, and beside the second it programs that one's buffer.
theorem answers_of_neighbour : Fresh idle ∧ ∃ actions actions' final final', Runs (Step id) idle actions final ∧
    Runs (Step id) idle actions' final' ∧ actions.filter (mine id 1) = actions'.filter (mine id 1) ∧
    (∃ call, sessionCalls 1 final.calls = [⟨call,.ret (-EFAULT)⟩]) ∧
    (sessionCalls 1 final'.calls).map (·.ghost.programmed) = [[0x50000000]] ∧
    ¬ List.Forall₂ Alike (sessionCalls 1 final.calls) (sessionCalls 1 final'.calls) := by
  have begun : Runs (Restrict (fun _ _ => True) (Step id)) idle [] idle := .start
  have opened := begun.meeting (open_step 1 (by decide)) trivial
  have asked := opened.meeting (transfer_step 1 readPage (by decide)) trivial
  have refused := asked.meeting (lookup_step readRange rfl) trivial
  have arrived : Runs (Restrict (fun _ _ => True) (Step id)) idle (arrives 0x10000) _ := neighbour_arrives (by decide) fun _ _ _ => trivial
  have opened' := arrived.meeting (open_step 1 (by decide)) trivial
  have asked' := opened'.meeting (transfer_step 1 readPage (by decide)) trivial
  have found' := asked'.meeting (lookup_step readRange rfl) trivial
  have prepared' := found'.meeting (work_step (.dmaenginePrepSlaveSg 7 _) rfl true trivial) trivial
  have stored' := prepared'.meeting (work_step (.storeCbData 0 _) rfl () trivial) trivial
  have read' := stored'.meeting (work_step (.dmaengineSubmit 7 _) rfl (0 : Int) trivial) trivial
  refine ⟨idle_fresh,_,_,_,_,refused.widen fun _ _ _ => And.right,read'.widen fun _ _ _ => And.right,rfl,⟨_,rfl⟩,rfl,?_⟩
  intro alike
  obtain ⟨first,_⟩ := List.forall₂_cons.mp alike
  have same : ([0] : List DmaAddr) = [0x50000000] := first.answers
  exact absurd same (by decide)

end Axidma.Sessions
