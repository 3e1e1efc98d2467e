import Axidma.ClientAccess
import Axidma.Interleaving
import Axidma.ProbeUnwinding
import Axidma.Registration
import Axidma.Transition

namespace Axidma.Visibility
open Interaction Ledger Transition ClientAccess

-- What loading has written before the device can be opened.
def base : List Field :=
  [.numChans,.numDmaTxChans,.numDmaRxChans,.numVdmaTxChans,.numVdmaRxChans,.cbData,.channels]

def writes : DeviceCall → List Field
  | .store field _ => [field]
  | .kernel (.storeNotifySignal _) => [.notifySignal]
  | .kernel (.storeCbData index _) => [.slot index]
  | _ => []

-- The fields that have to be written by now: the ones an operation reads, and
-- the ones that others will read because of it.
def demands : DeviceCall → List Field
  | .cdevAdd _ _ => base
  | .kernel (.dmaengineSubmit _ txd) => [.slot txd.callbackParam]
  | op => op.reads

def knows : Protocol device (List Field) where
  admits := fun known op => demands op ⊆ known
  advance := fun known op _ => writes op++known

structure System where
  device : DeviceState
  files : Nat
  threads : List (Thread Axidma.device Fault Int (List Field))

inductive Action where
  | work
  | open (capSysAdmin : Bool) (flags : CInt)
  | call (call : ClientCall)
  | callback (slot : Int)

def transfers : List CInt :=
  [AXIDMA_DMA_READ,AXIDMA_DMA_WRITE,AXIDMA_DMA_READWRITE,AXIDMA_DMA_VIDEO_READ,AXIDMA_DMA_VIDEO_WRITE]

def needs : ClientCall → List Field
  | .mmap _ _ => [.dmabufList]
  | .munmap _ => []
  | .ioctl _ cmd _ =>
    if cmd = AXIDMA_REGISTER_BUFFER then [.externalDmabufs]
    else if cmd ∈ transfers then [.dmabufList,.externalDmabufs,.notifySignal]
    else []

-- The probe and the calls go operation by operation, on their own threads. A file
-- can be opened once cdev_add has succeeded, and a callback runs for a descriptor
-- that was submitted.
inductive Step : System → Action → System → Prop where
  | work {s : System} {after : DeviceState} {threads : List (Thread Axidma.device Fault Int (List Field))}
      (taken : Interleave deviceMachine knows s.device s.threads after threads) :
      Step s .work {s with device := after, threads := threads}
  | open {s : System} {capSysAdmin : Bool} {flags : CInt} (visible : s.device.visible = true) :
      Step s (.open capSysAdmin flags) {s with files := s.files+if (axidmaOpen capSysAdmin flags).1 = 0 then 1 else 0}
  | call {s : System} {call : ClientCall} (opened : 0 < s.files) :
      Step s (.call call) {s with threads := ⟨base++needs call,call.program⟩ :: s.threads}
  | callback {s : System} {slot : Int} (pending : slot ∈ s.device.pending) :
      Step s (.callback slot) {s with threads := ⟨[.slot slot],ClientAccess.axidmaDmaCallback slot⟩ :: s.threads}

-- The structure comes from kmalloc, with nothing in it.
def loading (account : Account Resource) (axidmaDev : Option Nat) (params : ModuleParams) (pdev : DriverNode) : System where
  device := ⟨account,axidmaDev,fun _ => none,false,[],[]⟩
  files := 0
  threads := [⟨[],axidmaProbe params pdev⟩]

-- A call starts only when the lists it goes to have been initialised, and a
-- transfer only when some call has stored a signal.
def Ready (s : System) : Action → Prop
  | .call call => ∀ field ∈ needs call, s.device.memory field ≠ none
  | _ => True

def Ends : List Field → Outcome Fault Int → Prop := fun _ _ => True

structure Sound (s : System) : Prop where
  calm : s.device.stale = []
  shown : s.device.visible = true → ∀ field ∈ base, s.device.memory field ≠ none
  slots : ∀ slot ∈ s.device.pending, s.device.memory (.slot slot) ≠ none
  opened : 0 < s.files → s.device.visible = true
  known : ∀ thread ∈ s.threads, ∀ field ∈ thread.ghost, s.device.memory field ≠ none
  conforming : Conforming knows Ends s.threads

-- A program that keeps to the protocol from these fields on, or from more.
def Safe {α : Type} (known : List Field) (p : OnDevice α) : Prop :=
  ∀ more, known ⊆ more → Conforms knows (fun ghost _ => more ⊆ ghost) more p

section
variable {α β : Type} {known more : List Field} {caller : Caller}

theorem safe_ret (value : α) : Safe known (.ret value) := fun _ _ => List.Subset.refl _
theorem safe_fault (error : Fault) : Safe known (.fault error : OnDevice α) := fun _ _ => List.Subset.refl _

theorem safe_call {op : DeviceCall} {next : op.Reply → OnDevice α} (allowed : demands op ⊆ known)
    (rest : ∀ reply, op.Legal reply → Safe (writes op++known) (next reply)) : Safe known (.call op next) := by
  intro more wider
  refine ⟨fun _ member => wider (allowed member),fun reply legal => ?_⟩
  refine (rest reply legal (writes op++more) ?_).mono ?_
  · exact List.append_subset.mpr ⟨List.subset_append_left _ _,fun _ member => List.mem_append_right _ (wider member)⟩
  · intro ghost outcome kept field member
    exact kept (List.mem_append_right _ member)

theorem Safe.widen {p : OnDevice α} (safe : Safe known p) (wider : known ⊆ more) : Safe more p :=
  fun _ widest => safe _ fun _ member => widest (wider member)

theorem safe_then {op : DeviceCall} {next : op.Reply → OnDevice α} (allowed : demands op ⊆ known)
    (rest : ∀ reply, op.Legal reply → Safe known (next reply)) : Safe known (.call op next) :=
  safe_call allowed fun reply legal => (rest reply legal).widen (List.subset_append_right _ _)

theorem safe_bind {p : OnDevice α} {f : α → OnDevice β} (first : Safe known p) (second : ∀ value, Safe known (f value)) :
    Safe known (p >>= f) := by
  intro more wider
  refine conforms_bind.mpr ((first more wider).mono ?_)
  intro ghost outcome kept
  cases outcome with
  | returned value =>
    refine (second value ghost fun _ member => kept (wider member)).mono ?_
    intro last outcome further field member
    exact further (kept member)
  | faulted error => exact kept

theorem safe_if {c : Prop} [Decidable c] {p q : OnDevice α} (yes : c → Safe known p) (no : ¬ c → Safe known q) :
    Safe known (if c then p else q) := by
  split
  · exact yes ‹c›
  · exact no ‹¬ c›

def Inert (op : KernelCall) : Prop := demands (.kernel op) = []

theorem inert_demands {op : KernelCall} (inert : Inert op) : demands (.kernel op) ⊆ known := by
  rw [inert]
  exact List.nil_subset known

theorem lift_safe {p : Driver α} {post : Outcome Fault α → Prop} (does : Does (fun op => demands (.kernel op) ⊆ known) post p) :
    Safe known (lift p) := by
  induction p with
  | ret value => exact safe_ret value
  | fault error => exact safe_fault error
  | call op next ih => exact safe_then does.1 fun reply legal => ih reply (does.2 reply legal)

theorem safe_lift {p : Driver α} {post : Outcome Fault α → Prop} (does : Does Inert post p) : Safe known (lift p) :=
  lift_safe (does.mono (fun _ => inert_demands) fun _ => id)

theorem lift_bind (p : Driver α) (f : α → Driver β) : lift (p >>= f) = lift p >>= fun value => lift (f value) := by
  induction p with
  | ret value => rfl
  | fault error => rfl
  | call op next ih => simp [lift,ih]

theorem load_safe {field : Field} {next : field.Value → OnDevice α} (present : field ∈ known)
    (rest : ∀ value, Safe known (next value)) : Safe known (.call (.load field) next) :=
  safe_then (List.cons_subset.mpr ⟨present,List.nil_subset _⟩) fun value _ => rest value

theorem inert_safe {op : KernelCall} {next : op.Reply → OnDevice α} (inert : Inert op)
    (rest : ∀ reply, op.Legal reply → Safe known (next reply)) : Safe known (.call (.kernel op) next) :=
  safe_then (inert_demands inert) rest

theorem getChan_safe {channelId : CInt} (shown : base ⊆ known) : Safe known (ClientAccess.axidmaGetChan channelId) := by
  unfold ClientAccess.axidmaGetChan
  apply load_safe (shown (by simp [base]))
  intro numChans
  refine safe_if (fun _ => safe_ret _) fun _ => ?_
  exact load_safe (shown (by simp [base])) fun channels => safe_ret _

theorem numChannels_safe (shown : base ⊆ known) : Safe known ClientAccess.axidmaGetNumChannels := by
  unfold ClientAccess.axidmaGetNumChannels
  apply load_safe (shown (by simp [base]))
  intro numChans
  apply load_safe (shown (by simp [base]))
  intro numDmaTxChans
  apply load_safe (shown (by simp [base]))
  intro numDmaRxChans
  apply load_safe (shown (by simp [base]))
  intro numVdmaTxChans
  exact load_safe (shown (by simp [base])) fun numVdmaRxChans => safe_ret _

theorem stop_safe {chanInfo : AxidmaChan} (shown : base ⊆ known) : Safe known (ClientAccess.axidmaStopChannel chanInfo) := by
  unfold ClientAccess.axidmaStopChannel
  refine safe_bind (getChan_safe shown) fun chan => ?_
  cases chan with
  | none => exact safe_fault _
  | some chan => exact inert_safe rfl fun rc _ => safe_ret rc

theorem entry_safe {buf : UserAddr} {bufLen : SizeT} (dmabufs : .dmabufList ∈ known) (external : .externalDmabufs ∈ known) :
    Safe known (ClientAccess.axidmaInitSgEntry buf bufLen) := by
  unfold ClientAccess.axidmaInitSgEntry
  apply load_safe dmabufs
  intro entries
  refine safe_if (fun _ => safe_ret _) fun _ => ?_
  exact load_safe external fun entries => safe_ret _

theorem descriptor_inert {chan : DmaChan} {tfr : AxidmaTransfer} : Does Inert (fun _ => True) (axidmaPrepDescriptor chan tfr) := by
  unfold axidmaPrepDescriptor
  cases tfr.type with
  | dma => exact ⟨rfl,fun _ _ => trivial⟩
  | vdma =>
    refine ⟨rfl,fun rc _ => does_if (fun _ => trivial) fun _ => ?_⟩
    cases tfr.sgList.head? with
    | none => trivial
    | some entry =>
      cases tfr.frame with
      | none => exact ⟨rfl,fun _ _ => ⟨rfl,fun _ _ => trivial⟩⟩
      | some frame => exact ⟨rfl,fun _ _ => trivial⟩

-- The slot is filled before the descriptor that leads the callback to it is
-- submitted.
theorem prep_safe {chan : AxidmaChan} {tfr : AxidmaTransfer} : Safe known (lift (axidmaPrepTransfer chan tfr)) := by
  rw [prep_parts,lift_bind]
  refine safe_bind (safe_lift descriptor_inert) fun result => ?_
  cases result with
  | error rc => exact inert_safe rfl fun _ _ => safe_ret _
  | ok prepared =>
    have ends : ∀ more cookie, Safe more (lift (afterSubmission chan.chan tfr cookie)) := by
      intro more cookie
      unfold afterSubmission
      split
      · exact inert_safe rfl fun _ _ => safe_ret _
      · exact safe_ret _
    refine safe_call (List.nil_subset _) fun _ _ => ?_
    have filled : [Field.slot tfr.cbData] ⊆ writes (.kernel (.storeCbData tfr.cbData tfr.slotContent))++known :=
      List.subset_append_left _ _
    split
    · exact inert_safe rfl fun _ _ => safe_then filled fun cookie _ => ends _ cookie
    · exact safe_then filled fun cookie _ => ends _ cookie

theorem start_safe {chan : AxidmaChan} {tfr : AxidmaTransfer} : Safe known (lift (axidmaStartTransfer chan tfr)) := by
  have inert : Does Inert (fun _ => True) (axidmaStartTransfer chan tfr) := by
    unfold axidmaStartTransfer
    refine ⟨rfl,fun _ _ => does_if (fun _ => ?_) fun _ => trivial⟩
    refine ⟨rfl,fun timeRemain _ => ⟨rfl,fun status _ => ?_⟩⟩
    refine does_if (fun _ => ⟨rfl,fun _ _ => trivial⟩) fun _ => ?_
    exact does_if (fun _ => ⟨rfl,fun _ _ => trivial⟩) fun _ => trivial
  exact safe_lift inert

structure Lists (known : List Field) : Prop where
  shown : base ⊆ known
  dmabufs : .dmabufList ∈ known
  external : .externalDmabufs ∈ known
  signal : .notifySignal ∈ known

theorem notification_safe (lists : Lists known) : Safe known loadNotification := by
  unfold loadNotification
  apply load_safe lists.signal
  intro notifySignal
  exact load_safe (lists.shown (by simp [base])) fun cbData => safe_ret _

theorem started_safe {chan : AxidmaChan} {tfr : AxidmaTransfer} {next : Int → OnDevice Int}
    (rest : ∀ rc, Safe known (next rc)) : Safe known (lift (axidmaStartTransfer chan tfr) >>= fun rc => if rc < 0 then .ret rc else next rc) :=
  safe_bind start_safe fun rc => safe_if (fun _ => safe_ret _) fun _ => rest rc

theorem prepared_safe {chan : AxidmaChan} {tfr : AxidmaTransfer} {next : Int × AxidmaTransfer → OnDevice Int}
    (rest : ∀ result, Safe known (next result)) :
    Safe known (lift (axidmaPrepTransfer chan tfr) >>= fun result => if result.1 < 0 then .ret result.1 else next result) :=
  safe_bind prep_safe fun result => safe_if (fun _ => safe_ret _) fun _ => rest result

theorem oneway_safe {dir : AxidmaDir} {trans : AxidmaTransaction} (lists : Lists known) :
    Safe known (ClientAccess.onewayTransfer dir caller trans) := by
  unfold ClientAccess.onewayTransfer
  refine safe_bind (getChan_safe lists.shown) fun chan => ?_
  cases chan with
  | none => exact safe_ret _
  | some chan =>
    refine safe_if (fun _ => safe_ret _) fun _ => ?_
    refine safe_bind (entry_safe lists.dmabufs lists.external) fun entry => ?_
    cases entry with
    | error rc => exact safe_ret _
    | ok entry =>
      refine safe_bind (notification_safe lists) fun dev => ?_
      exact prepared_safe fun result => started_safe fun rc => safe_ret _

theorem rw_safe {trans : AxidmaInoutTransaction} (lists : Lists known) : Safe known (ClientAccess.axidmaRwTransfer caller trans) := by
  unfold ClientAccess.axidmaRwTransfer
  refine safe_bind (getChan_safe lists.shown) fun txChan => ?_
  cases txChan with
  | none => exact safe_ret _
  | some txChan =>
    refine safe_if (fun _ => safe_ret _) fun _ => ?_
    refine safe_bind (getChan_safe lists.shown) fun rxChan => ?_
    cases rxChan with
    | none => exact safe_ret _
    | some rxChan =>
      refine safe_if (fun _ => safe_ret _) fun _ => ?_
      refine safe_bind (entry_safe lists.dmabufs lists.external) fun txEntry => ?_
      cases txEntry with
      | error rc => exact safe_ret _
      | ok txEntry =>
        refine safe_bind (entry_safe lists.dmabufs lists.external) fun rxEntry => ?_
        cases rxEntry with
        | error rc => exact safe_ret _
        | ok rxEntry =>
          refine safe_bind (notification_safe lists) fun txDev => ?_
          refine safe_bind (notification_safe lists) fun rxDev => ?_
          apply prepared_safe
          intro tx
          apply prepared_safe
          intro rx
          exact started_safe fun _ => started_safe fun _ => safe_ret _

theorem entries_safe {imageSize : SizeT} {bufs : List UserAddr} (lists : Lists known) :
    Safe known (initSgEntries imageSize bufs) := by
  induction bufs with
  | nil => exact safe_ret _
  | cons buf rest ih =>
    refine safe_bind (entry_safe lists.dmabufs lists.external) fun entry => ?_
    cases entry with
    | error rc => exact safe_ret _
    | ok entry =>
      refine safe_bind ih fun entries => ?_
      cases entries with
      | error rc => exact safe_ret _
      | ok entries => exact safe_ret _

theorem body_safe {notifySignal : Int} {trans : AxidmaVideoTransaction} {dir : AxidmaDir} (lists : Lists known) :
    Safe known (ClientAccess.videoTransferBody notifySignal caller trans dir) := by
  unfold ClientAccess.videoTransferBody
  refine safe_bind (entries_safe lists) fun entries => ?_
  cases entries with
  | error rc => exact safe_ret _
  | ok sgList =>
    refine safe_bind (getChan_safe lists.shown) fun chan => ?_
    cases chan with
    | none => exact safe_fault _
    | some chan =>
      apply load_safe (lists.shown (by simp [base]))
      intro cbData
      exact prepared_safe fun _ => start_safe

theorem video_safe {trans : AxidmaVideoTransaction} {dir : AxidmaDir} (lists : Lists known) :
    Safe known (ClientAccess.axidmaVideoTransfer caller trans dir) := by
  unfold ClientAccess.axidmaVideoTransfer
  apply load_safe lists.signal
  intro notifySignal
  refine inert_safe rfl fun sgList _ => ?_
  cases sgList with
  | none => exact safe_ret _
  | some sgList =>
    refine safe_bind (p := ClientAccess.videoTransferBody notifySignal caller trans dir) (body_safe lists) fun _ => ?_
    exact inert_safe rfl fun _ _ => safe_ret _

theorem fetch_safe {kind : UserStruct} {arg : UserAddr} {next : kind.Value → OnDevice Int}
    (rest : ∀ value, Safe known (next value)) : Safe known (ClientAccess.fetch kind arg next) := by
  unfold ClientAccess.fetch
  refine inert_safe rfl fun copied _ => ?_
  exact safe_if (fun _ => safe_ret _) fun _ => rest copied.2

theorem ioctlVideo_safe {arg : UserAddr} {dir : AxidmaDir} (lists : Lists known) :
    Safe known (ClientAccess.ioctlVideo caller arg dir) := by
  apply fetch_safe
  intro trans
  refine inert_safe rfl fun frameBuffers _ => ?_
  cases frameBuffers with
  | none => exact safe_ret _
  | some frameBuffers =>
    refine inert_safe rfl fun user _ => ?_
    cases user with
    | none => exact safe_fault _
    | some user =>
      refine inert_safe rfl fun copied _ => ?_
      refine safe_if (fun _ => inert_safe rfl fun _ _ => safe_ret _) fun _ => ?_
      exact safe_bind (video_safe lists) fun _ => inert_safe rfl fun _ _ => safe_ret _

theorem register_safe {extBuf : AxidmaRegisterBuffer} (external : .externalDmabufs ∈ known) :
    Safe known (lift (axidmaGetExternal caller extBuf)) := by
  refine lift_safe (register_calls.mono (fun op registers => ?_) fun _ => id)
  cases op with
  | listAddExternal alloc => exact List.cons_subset.mpr ⟨external,List.nil_subset _⟩
  | listAddDmabuf alloc => exact registers.elim
  | dmaengineSubmit chan txd => exact registers.elim
  | _ => exact List.nil_subset _

theorem signal_inert {signal : Int} : Does Inert (fun _ => True) (axidmaSetSignal signal) := by
  unfold axidmaSetSignal
  exact does_if (fun _ => trivial) fun _ => ⟨rfl,fun _ _ => trivial⟩

theorem access_inert {arg : UserAddr} {size : Nat} {readonly : Bool} :
    Does Inert (fun _ => True) (axidmaAccessOk arg size readonly) := by
  unfold axidmaAccessOk
  cases readonly with
  | false => exact ⟨rfl,fun writable _ => does_if (fun _ => trivial) fun _ => ⟨rfl,fun _ _ => trivial⟩⟩
  | true => exact ⟨rfl,fun _ _ => trivial⟩

theorem lists_needed {cmd : CInt} {arg : UserAddr} (member : cmd ∈ transfers) (shown : base ⊆ known)
    (has : needs (.ioctl caller cmd arg) ⊆ known) : Lists known := by
  have other : cmd ≠ AXIDMA_REGISTER_BUFFER := by
    intro same
    rw [same] at member
    exact absurd member (by decide)
  rw [needs,if_neg other,if_pos member] at has
  exact ⟨shown,has (by simp),has (by simp),has (by simp)⟩

theorem command_safe {cmd : CInt} {arg : UserAddr} (shown : base ⊆ known) (has : needs (.ioctl caller cmd arg) ⊆ known)
    (listed : cmd ≠ AXIDMA_UNREGISTER_BUFFER) : Safe known (ClientAccess.ioctlCommand caller cmd arg) := by
  unfold ClientAccess.ioctlCommand
  refine safe_if (fun _ => ?_) fun _ => ?_
  · exact safe_bind (numChannels_safe shown) fun _ => inert_safe rfl fun _ _ => safe_ret _
  refine safe_if (fun _ => ?_) fun _ => ?_
  · refine fetch_safe fun channels => safe_bind (numChannels_safe shown) fun _ => ?_
    exact load_safe (shown (by simp [base])) fun _ => inert_safe rfl fun _ _ => safe_ret _
  refine safe_if (fun _ => ?_) fun _ => ?_
  · exact safe_lift signal_inert
  refine safe_if (fun same => ?_) fun _ => ?_
  · rw [needs,if_pos same] at has
    exact fetch_safe fun _ => register_safe (has (by simp))
  have lists : ∀ other ∈ transfers, cmd = other → Lists known := by
    intro other member same
    exact lists_needed (same ▸ member) shown has
  refine safe_if (fun same => fetch_safe fun _ => oneway_safe (lists _ (by simp [transfers]) same)) fun _ => ?_
  refine safe_if (fun same => fetch_safe fun _ => oneway_safe (lists _ (by simp [transfers]) same)) fun _ => ?_
  refine safe_if (fun same => fetch_safe fun _ => rw_safe (lists _ (by simp [transfers]) same)) fun _ => ?_
  refine safe_if (fun same => ioctlVideo_safe (lists _ (by simp [transfers]) same)) fun _ => ?_
  refine safe_if (fun same => ioctlVideo_safe (lists _ (by simp [transfers]) same)) fun _ => ?_
  refine safe_if (fun _ => inert_safe rfl fun _ _ => stop_safe shown) fun _ => ?_
  refine safe_if (fun same => absurd same listed) fun _ => safe_ret _

theorem ioctl_safe {cmd : CInt} {arg : UserAddr} (shown : base ⊆ known) (has : needs (.ioctl caller cmd arg) ⊆ known) :
    Safe known (ClientAccess.axidmaIoctl caller cmd arg) := by
  unfold ClientAccess.axidmaIoctl
  refine safe_if (fun _ => safe_ret _) fun _ => ?_
  refine safe_if (fun _ => safe_ret _) fun inRange => ?_
  have listed : cmd ≠ AXIDMA_UNREGISTER_BUFFER := by
    intro same
    rw [same] at inRange
    exact inRange (by decide)
  have command : ∀ accessible : Bool, Safe known (if !accessible then .ret (-EFAULT) else ClientAccess.ioctlCommand caller cmd arg) :=
    fun accessible => safe_if (fun _ => safe_ret _) fun _ => command_safe shown has listed
  split
  · exact safe_bind (safe_lift access_inert) command
  · split
    · exact safe_bind (safe_lift access_inert) command
    · exact command true

theorem mmap_safe {vma : VmAreaStruct} (dmabufs : .dmabufList ∈ known) : Safe known (lift (axidmaMmap caller vma)) := by
  have quiet : ∀ {op : KernelCall}, Inert op → demands (.kernel op) ⊆ known := inert_demands
  have does : Does (fun op => demands (.kernel op) ⊆ known) (fun _ => True) (axidmaMmap caller vma) := by
    unfold axidmaMmap
    refine ⟨quiet rfl,fun dmaAlloc _ => ?_⟩
    cases dmaAlloc with
    | none => trivial
    | some dmaAlloc =>
      refine ⟨quiet rfl,fun _ _ => ⟨quiet rfl,fun region _ => ?_⟩⟩
      cases region with
      | none => exact ⟨quiet rfl,fun _ _ => trivial⟩
      | some region =>
        refine ⟨quiet rfl,fun rc _ => does_if (fun _ => ⟨quiet rfl,fun _ _ => ⟨quiet rfl,fun _ _ => trivial⟩⟩) fun _ => ?_⟩
        refine ⟨quiet rfl,fun _ _ => ⟨?_,fun _ _ => trivial⟩⟩
        exact List.cons_subset.mpr ⟨dmabufs,List.nil_subset _⟩
  exact lift_safe does

theorem call_safe {call : ClientCall} : Safe (base++needs call) call.program := by
  have shown : base ⊆ base++needs call := List.subset_append_left _ _
  have has : needs call ⊆ base++needs call := List.subset_append_right _ _
  cases call with
  | mmap caller vma => exact mmap_safe (has (by simp [needs]))
  | munmap alloc => exact inert_safe rfl fun _ _ => inert_safe rfl fun _ _ => inert_safe rfl fun _ _ => safe_ret _
  | ioctl caller cmd arg => exact ioctl_safe shown has

theorem callback_safe {slot : Int} : Safe [.slot slot] (ClientAccess.axidmaDmaCallback slot) := by
  unfold ClientAccess.axidmaDmaCallback
  apply load_safe (by simp)
  intro cbData
  have inert : Does Inert (fun _ => True) (Axidma.axidmaDmaCallback cbData) := by
    unfold Axidma.axidmaDmaCallback
    cases cbData.comp with
    | some comp => exact ⟨rfl,fun _ _ => trivial⟩
    | none => exact does_if (fun _ => ⟨rfl,fun _ _ => trivial⟩) fun _ => trivial
  exact safe_bind (p := lift (Axidma.axidmaDmaCallback cbData)) (safe_lift inert) fun _ => safe_ret _

theorem Safe.conforms {p : OnDevice Int} (safe : Safe known p) : Conforms knows Ends known p :=
  (safe known (List.Subset.refl _)).mono fun _ _ _ => trivial

theorem release_safe {table : List AxidmaChan} : Safe known (dmaReleaseChannels table) := by
  induction table with
  | nil => exact safe_ret _
  | cons chan rest ih => exact safe_then (List.nil_subset _) fun _ _ => ih

theorem request_safe {reserved todo : List AxidmaChan} : Safe known (requestChannelsFrom reserved todo) := by
  induction todo generalizing reserved with
  | nil => exact safe_ret _
  | cons chan rest ih =>
    refine safe_then (List.nil_subset _) fun handle _ => ?_
    cases handle with
    | none => exact safe_bind (p := dmaReleaseChannels reserved) release_safe fun _ => safe_ret _
    | some handle => exact ih

-- When axidma_dma_init succeeds, the fields of the base are written.
def Loaded (known : List Field) (outcome : Outcome Fault Int) : Prop :=
  ∀ rc, outcome = .returned rc → ¬ rc < 0 → base ⊆ known

theorem init_conforms {pdev : DriverNode} : Conforms knows Loaded known (axidmaDmaInit pdev) := by
  have failed : ∀ {more : List Field} {rc : Int}, rc < 0 → Loaded more (.returned rc) := by
    intro more rc negative other same passes
    cases same
    exact absurd negative passes
  have nothing : ∀ more : List Field, [] ⊆ more := List.nil_subset
  unfold axidmaDmaInit
  refine ⟨nothing _,fun rc _ => conforms_if failed fun _ => ⟨nothing _,fun _ _ => conforms_if failed fun _ => ⟨nothing _,fun channels _ => ?_⟩⟩⟩
  cases channels with
  | none => exact failed (by decide)
  | some channels =>
    refine ⟨nothing _,fun table _ => ⟨nothing _,fun _ _ => ⟨nothing _,fun cbData _ => ?_⟩⟩⟩
    cases cbData with
    | none => exact ⟨nothing _,fun _ _ => failed (by decide)⟩
    | some cbData =>
      refine ⟨nothing _,fun _ _ => ?_⟩
      cases parseTable pdev table.1 with
      | error fault => exact nofun
      | ok result =>
        rcases result with ⟨rc,dev⟩
        refine ⟨nothing _,fun _ _ => ⟨nothing _,fun _ _ => ⟨nothing _,fun _ _ => ⟨nothing _,fun _ _ => ⟨nothing _,fun _ _ => ?_⟩⟩⟩⟩⟩
        refine conforms_if failed fun _ => ?_
        refine conforms_bind.mpr ((request_safe _ (List.Subset.refl _)).mono ?_)
        intro ghost outcome kept
        cases outcome with
        | faulted error => exact nofun
        | returned requested =>
          refine ⟨nothing _,fun _ _ => conforms_if (fun negative => ⟨nothing _,fun _ _ => ⟨nothing _,fun _ _ => failed negative⟩⟩) fun _ => ?_⟩
          intro rc same passes field member
          apply List.mem_append_right
          apply kept
          have stored : base ⊆ [.channels,.numVdmaRxChans,.numVdmaTxChans,.numDmaRxChans,.numDmaTxChans,.cbData,.channels,.numChans] := by
            decide
          exact List.mem_append_left known (stored member)

theorem terminate_safe {table : List AxidmaChan} : Safe known (terminateChannels table) := by
  induction table with
  | nil => exact safe_ret _
  | cons chan rest ih => exact inert_safe rfl fun _ _ => safe_then (List.nil_subset _) fun _ _ => ih

theorem exit_safe (shown : base ⊆ known) : Safe known axidmaDmaExit := by
  unfold axidmaDmaExit
  apply load_safe (shown (by simp [base]))
  intro numChans
  apply load_safe (shown (by simp [base]))
  intro channels
  refine safe_bind (p := terminateChannels (channels.2.take numChans.toNat)) terminate_safe fun _ => ?_
  refine inert_safe rfl fun _ _ => ?_
  apply load_safe (shown (by simp [base]))
  intro cbData
  exact inert_safe rfl fun _ _ => safe_ret _

theorem chrdev_safe {params : ModuleParams} {dev : Nat} (shown : base ⊆ known) : Safe known (axidmaChrdevInit params dev) := by
  unfold axidmaChrdevInit
  have nothing : [] ⊆ known := List.nil_subset _
  refine safe_then nothing fun _ _ => safe_then nothing fun devNum _ => ?_
  cases devNum with
  | error rc => exact safe_ret _
  | ok devNum =>
    refine safe_then nothing fun devClass _ => ?_
    cases devClass with
    | error rc => exact safe_then nothing fun _ _ => safe_ret _
    | ok devClass =>
      refine safe_then nothing fun node _ => ?_
      cases node with
      | error rc => exact safe_then nothing fun _ _ => safe_then nothing fun _ _ => safe_ret _
      | ok node =>
        refine safe_then shown fun rc _ => safe_if (fun _ => ?_) fun _ => ?_
        · exact safe_then nothing fun _ _ => safe_then nothing fun _ _ => safe_then nothing fun _ _ => safe_ret _
        · exact safe_then nothing fun _ _ => safe_then nothing fun _ _ => safe_ret _

theorem probe_conforms {params : ModuleParams} {pdev : DriverNode} : Conforms knows Ends known (axidmaProbe params pdev) := by
  unfold axidmaProbe
  refine ⟨List.nil_subset _,fun dev _ => ?_⟩
  cases dev with
  | none => trivial
  | some dev =>
    refine (conforms_bind (p := axidmaDmaInit pdev)).mpr (init_conforms.mono ?_)
    intro ghost outcome loaded
    cases outcome with
    | faulted error => trivial
    | returned rc =>
      refine conforms_if (fun _ => ⟨List.nil_subset _,fun _ _ => trivial⟩) fun passes => ?_
      have shown : base ⊆ ghost := loaded rc rfl passes
      have safe : Safe ghost (axidmaChrdevInit params dev >>= fun rc => if rc < 0 then do
            axidmaDmaExit
            kfree dev
            return -ENOSYS
          else do
            dcall (.devSetDrvdata dev)
            return 0) := by
        refine safe_bind (chrdev_safe shown) fun rc => safe_if (fun _ => ?_) fun _ => ?_
        · exact safe_bind (exit_safe shown) fun _ => inert_safe rfl fun _ _ => safe_ret _
        · exact safe_then (List.nil_subset _) fun _ _ => safe_ret _
      exact safe.conforms

end

section
variable {memory : (field : Field) → Option field.Value} {op : DeviceCall} {field : Field}

theorem update_kept {place : Field} {value : Option place.Value} (written : memory field ≠ none)
    (filled : memory place ≠ none → value ≠ none) : Function.update memory place value field ≠ none := by
  by_cases here : field = place
  · subst here
    rw [Function.update_self]
    exact filled written
  · rw [Function.update_of_ne here]
    exact written

theorem memory_kept (written : memory field ≠ none) : writeMemory memory op field ≠ none := by
  have some' : ∀ {place : Field} {value : place.Value}, memory place ≠ none → some value ≠ none :=
    fun _ => Option.some_ne_none _
  cases op with
  | store place value => exact update_kept written some'
  | kernel op =>
    cases op with
    | storeNotifySignal signal => exact update_kept written some'
    | storeCbData index cbData => exact update_kept written some'
    | listAddDmabuf alloc => exact update_kept written fun filled => by simpa using filled
    | listAddExternal alloc => exact update_kept written fun filled => by simpa using filled
    | listDelDmabuf alloc => exact update_kept written fun filled => by simpa using filled
    | _ => exact written
  | _ => exact written

theorem memory_written (member : field ∈ writes op) : writeMemory memory op field ≠ none := by
  have updated : ∀ {place : Field} {value : place.Value}, field ∈ [place] → Function.update memory place (some value) field ≠ none := by
    intro place value here
    obtain rfl := List.mem_singleton.mp here
    rw [Function.update_self]
    exact Option.some_ne_none _
  cases op with
  | store place value => exact updated member
  | kernel op =>
    cases op with
    | storeNotifySignal signal => exact updated member
    | storeCbData index cbData => exact updated member
    | _ => exact absurd member List.not_mem_nil
  | _ => exact absurd member List.not_mem_nil

theorem reads_demanded : op.reads ⊆ demands op := by
  cases op with
  | kernel op =>
    cases op with
    | dmaengineSubmit chan txd => exact List.nil_subset _
    | _ => exact List.Subset.refl _
  | cdevAdd devNum numDevices => exact List.nil_subset _
  | _ => exact List.Subset.refl _

end

section
variable {t : DeviceState} {op : DeviceCall} {reply : op.Reply} {field : Field} {known : List Field}

theorem perform_calm (calm : t.stale = []) (written : ∀ field ∈ op.reads, t.memory field ≠ none) :
    (t.perform op reply).stale = [] := by
  show (op.reads.filter fun field => (t.memory field).isNone)++t.stale = []
  rw [calm,List.append_nil,List.filter_eq_nil_iff]
  intro field member
  simpa using written field member

theorem perform_kept (written : t.memory field ≠ none) : (t.perform op reply).memory field ≠ none := memory_kept written

theorem perform_known (written : ∀ field ∈ known, t.memory field ≠ none) :
    ∀ field ∈ knows.advance known op reply, (t.perform op reply).memory field ≠ none := by
  intro field member
  rcases List.mem_append.mp member with here | before
  · exact memory_written here
  · exact perform_kept (written field before)

-- cdev_add is what makes the device visible, and it demands the base.
theorem perform_shown (shown : t.visible = true → ∀ field ∈ base, t.memory field ≠ none)
    (demanded : ∀ field ∈ demands op, t.memory field ≠ none) :
    (t.perform op reply).visible = true → ∀ field ∈ base, (t.perform op reply).memory field ≠ none := by
  intro visible field member
  apply perform_kept
  cases op with
  | cdevAdd devNum numDevices => exact demanded field member
  | _ => exact shown visible field member

theorem perform_visible (visible : t.visible = true) : (t.perform op reply).visible = true := by
  cases op with
  | cdevAdd devNum numDevices =>
    show (t.visible || _) = true
    rw [visible]
    rfl
  | _ => exact visible

theorem perform_slots (slots : ∀ slot ∈ t.pending, t.memory (.slot slot) ≠ none)
    (demanded : ∀ field ∈ demands op, t.memory field ≠ none) :
    ∀ slot ∈ (t.perform op reply).pending, (t.perform op reply).memory (.slot slot) ≠ none := by
  intro slot member
  apply perform_kept
  cases op with
  | kernel op =>
    cases op with
    | dmaengineSubmit chan txd =>
      change slot ∈ (if reply < (0 : Int) then t.pending else txd.callbackParam :: t.pending) at member
      split at member
      · exact slots slot member
      · rcases List.mem_cons.mp member with rfl | before
        · exact demanded _ List.mem_cons_self
        · exact slots slot before
    | _ => exact slots slot member
  | _ => exact slots slot member

end

section
variable {s after : System} {action : Action}

theorem Sound.work {device : DeviceState} {threads : List (Thread Axidma.device Fault Int (List Field))} (sound : Sound s)
    (taken : Interleave deviceMachine knows s.device s.threads device threads) :
    Sound {s with device := device, threads := threads} := by
  have conforming : Conforming knows Ends threads := taken.conforming device_legal sound.conforming
  rcases s with ⟨before,files,running⟩
  cases taken with
  | @step early late ghost op rest reply given =>
    have member : ⟨ghost,.call op rest⟩ ∈ early++⟨ghost,.call op rest⟩ :: late := by simp
    have admitted : demands op ⊆ ghost := (sound.conforming _ member).1
    have demanded : ∀ field ∈ demands op, before.memory field ≠ none := fun field demanded =>
      sound.known _ member field (admitted demanded)
    constructor
    case calm => exact perform_calm sound.calm fun field read => demanded field (reads_demanded read)
    case shown => exact perform_shown sound.shown demanded
    case slots => exact perform_slots sound.slots demanded
    case opened => exact fun some => perform_visible (sound.opened some)
    case known =>
      intro thread running
      rcases List.mem_append.mp running with inFront | behind
      · exact fun field held => perform_kept (sound.known thread (List.mem_append_left _ inFront) field held)
      · rcases List.mem_cons.mp behind with rfl | behind
        · exact perform_known fun field held => sound.known _ member field held
        · exact fun field held => perform_kept (sound.known thread (by simp [behind]) field held)
    case conforming => exact conforming
  | @leave early late ghost value =>
    constructor
    case calm => exact sound.calm
    case shown => exact sound.shown
    case slots => exact sound.slots
    case opened => exact sound.opened
    case known =>
      intro thread running
      apply sound.known thread
      rcases List.mem_append.mp running with inFront | behind
      · exact List.mem_append_left _ inFront
      · exact List.mem_append_right _ (List.mem_cons_of_mem _ behind)
    case conforming => exact conforming

theorem Sound.join {known : List Field} {p : OnDevice Int} (sound : Sound s) (safe : Safe known p)
    (written : ∀ field ∈ known, s.device.memory field ≠ none) : Sound {s with threads := ⟨known,p⟩ :: s.threads} := by
  constructor
  case calm => exact sound.calm
  case shown => exact sound.shown
  case slots => exact sound.slots
  case opened => exact sound.opened
  case known =>
    intro thread member
    rcases List.mem_cons.mp member with rfl | before
    · exact written
    · exact sound.known thread before
  case conforming =>
    intro thread member
    rcases List.mem_cons.mp member with rfl | before
    · exact safe.conforms
    · exact sound.conforming thread before

theorem Sound.step (sound : Sound s) (taken : Restrict Ready Step s action after) : Sound after := by
  obtain ⟨ready,taken⟩ := taken
  cases taken with
  | work taken => exact sound.work taken
  | «open» visible => exact ⟨sound.calm,sound.shown,sound.slots,fun _ => visible,sound.known,sound.conforming⟩
  | call opened =>
    refine sound.join call_safe fun field member => ?_
    rcases List.mem_append.mp member with shown | extra
    · exact sound.shown (sound.opened opened) field shown
    · exact ready field extra
  | callback pending =>
    refine sound.join callback_safe fun field member => ?_
    rw [List.mem_singleton.mp member]
    exact sound.slots _ pending

variable {account : Account Resource} {axidmaDev : Option Nat} {params : ModuleParams} {pdev : DriverNode}
  {actions : List Action}

theorem loading_sound : Sound (loading account axidmaDev params pdev) := by
  constructor
  case calm => rfl
  case shown => exact nofun
  case slots => exact fun _ => nofun
  case opened => exact nofun
  case known =>
    intro thread member
    rw [List.mem_singleton.mp member]
    exact fun _ => nofun
  case conforming =>
    intro thread member
    rw [List.mem_singleton.mp member]
    exact probe_conforms

end

section
variable {meets : System → Action → Prop} {origin : System} {t : DeviceState} {files : Nat} {known : List Field} {p : OnDevice Int}
  {others : List (Thread Axidma.device Fault Int (List Field))} {done : List Action}

theorem working (answers : Answers deviceMachine) (steps : Nat) (free : ∀ s, meets s .work)
    (path : Runs (Restrict meets Step) origin done ⟨t,files,⟨known,p⟩ :: others⟩) :
    ∃ more last, Runs (Restrict meets Step) origin more
      ⟨(answers.advance steps p t).2,files,⟨last,(answers.advance steps p t).1⟩ :: others⟩ := by
  induction steps generalizing p t known done with
  | zero => exact ⟨done,known,by cases p <;> exact path⟩
  | succ steps ih =>
    cases p with
    | ret value => exact ⟨done,known,path⟩
    | fault error => exact ⟨done,known,path⟩
    | call op next =>
      simp only [Answers.advance]
      cases settled : answers.reply t op with
      | none => exact ⟨done,known,path⟩
      | some reply =>
        have taken : Interleave deviceMachine knows t (⟨known,.call op next⟩ :: others) (deviceMachine.perform t op reply)
            (⟨knows.advance known op reply,next reply⟩ :: others) :=
          @Interleave.step _ _ _ _ _ deviceMachine knows t [] others known op next reply (answers.given t op reply settled)
        exact ih (path.snoc ⟨free _,.work taken⟩)

end

-- The probe of a board with two channels, so many operations far, and then an
-- open and a mapping.
def probed (steps : Nat) : OnDevice Int × DeviceState :=
  (granting fun _ => false).advance steps (axidmaProbe CHRDEV_DEFAULTS ProbeUnwinding.twoChannels) ProbeUnwinding.unloaded

def mapping : ClientCall := .mmap ⟨1,0,0⟩ ⟨1,0x10000,0x11000⟩
def mapped (steps : Nat) : OnDevice Int × DeviceState := (granting fun _ => false).advance 10 mapping.program (probed steps).2

theorem mapped_reached {meets : System → Action → Prop} (steps : Nat) (free : ∀ s, meets s .work)
    (opens : ∀ s capSysAdmin flags, meets s (.open capSysAdmin flags))
    (ready : ∀ files threads, meets ⟨(probed steps).2,files,threads⟩ (.call mapping))
    (visible : (probed steps).2.visible = true) :
    ∃ actions files threads, Runs (Restrict meets Step) (loading ⟨[],[]⟩ none CHRDEV_DEFAULTS ProbeUnwinding.twoChannels) actions
      ⟨(mapped steps).2,files,threads⟩ := by
  have begun : Runs (Restrict meets Step) (loading ⟨[],[]⟩ none CHRDEV_DEFAULTS ProbeUnwinding.twoChannels) []
      ⟨ProbeUnwinding.unloaded,0,[⟨[],axidmaProbe CHRDEV_DEFAULTS ProbeUnwinding.twoChannels⟩]⟩ := .start
  obtain ⟨work,known,path⟩ := working (granting fun _ => false) steps free begun
  have entered := path.snoc ⟨opens _ true O_EXCL,.open visible⟩
  have accepted : 0 < 0+if (axidmaOpen true O_EXCL).1 = 0 then 1 else 0 := by decide
  have called := entered.snoc ⟨ready _ _,.call accepted⟩
  obtain ⟨more,last,path⟩ := working (granting fun _ => false) 10 free called
  exact ⟨more,_,_,path⟩

section
variable {after : System} {account : Account Resource} {axidmaDev : Option Nat} {params : ModuleParams} {pdev : DriverNode}
  {actions : List Action}

theorem nothing_stale (path : Runs (Restrict Ready Step) (loading account axidmaDev params pdev) actions after) :
    after.device.stale = [] := by
  have sound : Sound after := path.keeps loading_sound fun before action after sound taken => sound.step taken
  exact sound.calm

end

-- A mapping that comes when the lists are there.
theorem late_mapping_reads_lists : (mapped 23).2.stale = [] := by
  have ready : ∀ files threads, Ready ⟨(probed 23).2,files,threads⟩ (.call mapping) := by
    intro files threads field member
    have stored : (probed 23).2.memory .dmabufList = some [] := rfl
    rw [List.mem_singleton.mp member]
    exact stored ▸ Option.some_ne_none _
  obtain ⟨actions,files,threads,path⟩ := mapped_reached 23 (fun _ => trivial) (fun _ _ _ => trivial) ready rfl
  exact nothing_stale path

-- The same mapping right after cdev_add, which is the 21st operation.
theorem early_mapping_stale : ¬ ∀ account axidmaDev params pdev actions final,
    Runs Step (loading account axidmaDev params pdev) actions final → final.device.stale = [] := by
  intro never
  obtain ⟨actions,files,threads,path⟩ := @mapped_reached (fun _ _ => True) 21 (fun _ => trivial) (fun _ _ _ => trivial)
    (fun _ _ => trivial) rfl
  have calm := never _ _ _ _ _ _ (path.widen fun before action after taken => taken.2)
  have read : (mapped 21).2.stale = [.dmabufList] := rfl
  rw [read] at calm
  exact List.cons_ne_nil _ _ calm

end Axidma.Visibility
