import Axidma.CharDevice
import Axidma.KernelState

namespace Axidma
open Interaction

-- The ways out of axidma_get_external: everything given back, and the record in
-- the list with what it holds.
inductive RegisterEnds (s : KernelState) (caller : Caller) (extBuf : AxidmaRegisterBuffer) :
    Outcome Fault Int → KernelState → Prop where
  | refused {rc : Int} (failed : rc < 0) : RegisterEnds s caller extBuf (.returned rc) s
  | taken {alloc : AxidmaExternalAllocation} (start : alloc.userAddr = extBuf.userAddr) (size : alloc.size = extBuf.size)
      (session : alloc.session = caller.session) :
      RegisterEnds s caller extBuf (.returned 0) {s with
        heap := alloc.node :: s.heap
        references := alloc.dmaBuf :: s.references
        attachments := alloc.dmaAttach :: s.attachments
        mappings := alloc.dmaAttach :: s.mappings
        dev := {s.dev with externalDmabufs := alloc :: s.dev.externalDmabufs}}

theorem register_ends {s : KernelState} {caller : Caller} {extBuf : AxidmaRegisterBuffer} :
    Ensures kernelMachine (RegisterEnds s caller extBuf) (axidmaGetExternal caller extBuf) s := by
  unfold axidmaGetExternal
  intro dmaAlloc _
  cases dmaAlloc with
  | none => exact .refused (by decide)
  | some dmaAlloc =>
    have heap : (dmaAlloc :: s.heap).erase dmaAlloc = s.heap := List.erase_cons_head ..
    intro dmaBuf _
    cases dmaBuf with
    | error error =>
      intro _ _
      show RegisterEnds s caller extBuf _ {s with heap := (dmaAlloc :: s.heap).erase dmaAlloc}
      rw [heap]
      exact .refused error.rc_neg
    | ok dmaBuf =>
      have references : (dmaBuf :: s.references).erase dmaBuf = s.references := List.erase_cons_head ..
      intro dmaAttach _
      cases dmaAttach with
      | error error =>
        intro _ _ _ _
        show RegisterEnds s caller extBuf _ {s with
          heap := (dmaAlloc :: s.heap).erase dmaAlloc, references := (dmaBuf :: s.references).erase dmaBuf}
        rw [heap,references]
        exact .refused error.rc_neg
      | ok dmaAttach =>
        have attachments : (dmaAttach :: s.attachments).erase dmaAttach = s.attachments := List.erase_cons_head ..
        intro sgTable _
        cases sgTable with
        | error error =>
          intro _ _ _ _ _ _
          show RegisterEnds s caller extBuf _ {s with
            heap := (dmaAlloc :: s.heap).erase dmaAlloc, references := (dmaBuf :: s.references).erase dmaBuf
            attachments := (dmaAttach :: s.attachments).erase dmaAttach}
          rw [heap,references,attachments]
          exact .refused error.rc_neg
        | ok sgTable =>
          have mappings : (dmaAttach :: s.mappings).erase dmaAttach = s.mappings := List.erase_cons_head ..
          refine ensures_if (fun _ => ?_) fun _ => ?_
          · intro _ _ _ _ _ _ _ _
            show RegisterEnds s caller extBuf _ {s with
              heap := (dmaAlloc :: s.heap).erase dmaAlloc, references := (dmaBuf :: s.references).erase dmaBuf
              attachments := (dmaAttach :: s.attachments).erase dmaAttach
              mappings := (dmaAttach :: s.mappings).erase dmaAttach}
            rw [heap,references,attachments,mappings]
            exact .refused (by decide)
          · exact fun _ _ => .taken rfl rfl rfl

def KernelCall.registers : KernelCall → Prop
  | .kmalloc _ => True
  | .kfree _ => True
  | .dmaBufGet _ => True
  | .dmaBufAttach _ => True
  | .dmaBufMapAttachment _ => True
  | .dmaBufUnmapAttachment _ _ => True
  | .dmaBufDetach _ _ => True
  | .dmaBufPut _ => True
  | .listAddExternal _ => True
  | _ => False

theorem register_calls {caller : Caller} {extBuf : AxidmaRegisterBuffer} :
    Does KernelCall.registers (fun _ => True) (axidmaGetExternal caller extBuf) := by
  unfold axidmaGetExternal
  refine ⟨trivial,fun dmaAlloc _ => ?_⟩
  cases dmaAlloc with
  | none => trivial
  | some dmaAlloc =>
    refine ⟨trivial,fun dmaBuf _ => ?_⟩
    cases dmaBuf with
    | error rc => exact ⟨trivial,fun _ _ => trivial⟩
    | ok dmaBuf =>
      refine ⟨trivial,fun dmaAttach _ => ?_⟩
      cases dmaAttach with
      | error rc => exact ⟨trivial,fun _ _ => ⟨trivial,fun _ _ => trivial⟩⟩
      | ok dmaAttach =>
        refine ⟨trivial,fun sgTable _ => ?_⟩
        cases sgTable with
        | error rc => exact ⟨trivial,fun _ _ => ⟨trivial,fun _ _ => ⟨trivial,fun _ _ => trivial⟩⟩⟩
        | ok sgTable =>
          refine does_if (fun _ => ?_) fun _ => ⟨trivial,fun _ _ => trivial⟩
          exact ⟨trivial,fun _ _ => ⟨trivial,fun _ _ => ⟨trivial,fun _ _ => ⟨trivial,fun _ _ => trivial⟩⟩⟩⟩

-- The ioctl copies the argument and registers what it says, on any machine where
-- the copy changes nothing.
theorem register_ioctl {σ : Type} {machine : Machine kernel σ} {post : Outcome Fault Int → σ → Prop} {s : σ}
    {dev : AxidmaDevice} {caller : Caller} {arg : UserAddr}
    (access : ∀ writable reply, machine.perform s (.accessOk writable arg (IOC_SIZE AXIDMA_REGISTER_BUFFER)) reply = s)
    (copy : ∀ copied, machine.perform s (.copyFromUser .registerBuffer arg) copied = s)
    (fault : post (.returned (-EFAULT)) s)
    (registers : ∀ copied : Nat × AxidmaRegisterBuffer, machine.gives s (.copyFromUser .registerBuffer arg) copied →
      copied.1 = 0 → Ensures machine post (axidmaGetExternal caller copied.2) s) :
    Ensures machine post (axidmaIoctl dev caller AXIDMA_REGISTER_BUFFER arg) s := by
  have command : ioctlCommand dev caller AXIDMA_REGISTER_BUFFER arg =
      fetch .registerBuffer arg fun (extBuf : AxidmaRegisterBuffer) => axidmaGetExternal caller extBuf := rfl
  unfold axidmaIoctl
  rw [command]
  intro writable _
  rw [access]
  cases writable with
  | false => exact fault
  | true =>
    intro readable _
    rw [access]
    cases readable with
    | false => exact fault
    | true =>
      intro copied given
      rw [copy]
      refine ensures_if (fun _ => fault) fun whole => ?_
      exact registers copied given (not_not.mp whole)

namespace Registration

structure Took (before registered : KernelState) (extBuf : AxidmaExternalAllocation) : Prop where
  listed : registered.dev = {before.dev with externalDmabufs := extBuf :: before.dev.externalDmabufs}
  references : registered.references = extBuf.dmaBuf :: before.references
  attachments : registered.attachments = extBuf.dmaAttach :: before.attachments
  mappings : registered.mappings = extBuf.dmaAttach :: before.mappings

-- What undoing it means: the ioctl succeeds, everything taken is given back and
-- translation is as it was before.
structure Undone (before after : KernelState) (outcome : Outcome Fault Int) : Prop where
  returned : outcome = .returned 0
  references : after.references = before.references
  attachments : after.attachments = before.attachments
  mappings : after.mappings = before.mappings
  translates : ∀ addr size, axidmaUservirtToDma after.dev addr size = axidmaUservirtToDma before.dev addr size

def RoundTrip (before registered : KernelState) (caller : Caller) (userAddr : UserAddr) : Prop :=
  ∀ outcome after, Exec kernelMachine
    (axidmaIoctl registered.dev caller AXIDMA_UNREGISTER_BUFFER userAddr) registered outcome after →
    Undone before after outcome

section
variable {before registered s : KernelState} {caller : Caller}

def Registers (before : KernelState) (outcome : Outcome Fault Int) (after : KernelState) : Prop :=
  outcome = .returned 0 → ∃ extBuf, Took before after extBuf

theorem registers_failed {after : KernelState} {rc : Int} (failed : rc ≠ 0) : Registers before (.returned rc) after := by
  intro zero
  exact absurd (Outcome.returned.inj zero) failed

theorem getExternal_takes (extBuf : AxidmaRegisterBuffer) :
    Ensures kernelMachine (Registers s) (axidmaGetExternal caller extBuf) s := by
  apply register_ends.mono
  intro outcome after ends
  cases ends with
  | refused failed => exact registers_failed (Int.ne_of_lt failed)
  | taken => exact fun _ => ⟨_,rfl,rfl,rfl,rfl⟩

theorem register_takes {dev : AxidmaDevice} {arg : UserAddr} :
    Ensures kernelMachine (Registers s) (axidmaIoctl dev caller AXIDMA_REGISTER_BUFFER arg) s := by
  apply register_ioctl
  · exact fun _ _ => rfl
  · exact fun _ => rfl
  · exact registers_failed (by decide)
  · exact fun copied _ _ => getExternal_takes copied.2

theorem unregister_not_dispatched {dev : AxidmaDevice} {userAddr : UserAddr} :
    axidmaIoctl dev caller AXIDMA_UNREGISTER_BUFFER userAddr = .ret (-ENOTTY) := by
  have magic : IOC_TYPE AXIDMA_UNREGISTER_BUFFER = AXIDMA_IOCTL_MAGIC := by decide
  have beyond : IOC_NR AXIDMA_UNREGISTER_BUFFER ≥ AXIDMA_NUM_IOCTLS := by decide
  unfold axidmaIoctl
  rw [if_neg (not_not.mpr magic),if_pos beyond]
  rfl

theorem unregister_refused {userAddr : UserAddr} : ¬ RoundTrip before registered caller userAddr := by
  intro roundTrip
  have executed : Exec kernelMachine (axidmaIoctl registered.dev caller AXIDMA_UNREGISTER_BUFFER userAddr)
      registered (.returned (-ENOTTY)) registered := by
    rw [unregister_not_dispatched]
    exact ⟨rfl,rfl⟩
  have undone := roundTrip _ _ executed
  have same := undone.returned
  simp [ENOTTY] at same

theorem registration_not_undone {arg : UserAddr}
    (registers : Exec kernelMachine (axidmaIoctl before.dev caller AXIDMA_REGISTER_BUFFER arg) before
      (.returned 0) registered) :
    ∃ extBuf, Took before registered extBuf ∧ ¬ RoundTrip before registered caller extBuf.userAddr := by
  obtain ⟨extBuf,took⟩ := ensures_iff.mp register_takes _ _ registers rfl
  exact ⟨extBuf,took,unregister_refused⟩

end

-- Even when called, axidma_put_external leaves the list as it is, with the
-- record that it has freed.
theorem putExternal_keeps_list {s : KernelState} {userAddr : UserAddr} :
    Ensures kernelMachine (fun _ after => after.dev = s.dev) (axidmaPutExternal s.dev userAddr) s := by
  unfold axidmaPutExternal
  cases s.dev.externalDmabufs.find? fun dmaAlloc =>
      decide (dmaAlloc.userAddr ≤ userAddr) && decide (userAddr ≤ dmaAlloc.userAddr+dmaAlloc.size) with
  | none => rfl
  | some dmaAlloc => exact fun _ _ _ _ _ _ _ _ => rfl

def idle : KernelState := .loaded (loadedDevice [])

def shared : AxidmaExternalAllocation where
  node := 1
  fd := 3
  dmaBuf := 7
  dmaAttach := 8
  size := 0x1000
  userAddr := 0x10000
  sgTable := ⟨1,0x40000000⟩
  session := 0

def sharing : KernelState :=
  {idle with
    dev := {idle.dev with externalDmabufs := [shared]}
    heap := [1]
    references := [7]
    attachments := [8]
    mappings := [8]}

theorem idle_registers : Exec kernelMachine (axidmaIoctl idle.dev ⟨0,0,0⟩ AXIDMA_REGISTER_BUFFER 0x2000) idle
    (.returned 0) sharing := by
  refine ⟨true,fun _ => by decide,true,fun _ => by decide,(0,⟨3,0x1000,0x10000⟩),trivial,some 1,⟨fun _ => by decide,?_⟩,?_⟩
  · exact fun _ _ => List.not_mem_nil
  · refine ⟨.ok 7,trivial,.ok 8,?_,.ok ⟨1,0x40000000⟩,trivial,(),trivial,rfl,rfl⟩
    exact fun _ _ => List.not_mem_nil

theorem idle_registration_not_undone :
    ∃ extBuf, Took idle sharing extBuf ∧ ¬ RoundTrip idle sharing ⟨0,0,0⟩ extBuf.userAddr :=
  registration_not_undone idle_registers

theorem unregister_keeps_shared : Exec kernelMachine (axidmaIoctl idle.dev ⟨0,0,0⟩ AXIDMA_REGISTER_BUFFER 0x2000) idle
      (.returned 0) sharing ∧ ¬ RoundTrip idle sharing ⟨0,0,0⟩ shared.userAddr :=
  ⟨idle_registers,unregister_refused⟩

end Registration
end Axidma
