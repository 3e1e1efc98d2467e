import Axidma.Ledger
import Axidma.LibraryTransfers
import Axidma.RobustTransfer

namespace Axidma.ClientPrograms
open Interaction Ledger
open BitPacking RobustTransfer

abbrev Path := List (BitVec 8)

-- What the example programs ask for beside what the library asks for. The loops of
-- reads or writes come back with their result and what each of their calls came to.
inductive ProgramCall where
  | library (op : LibraryCall)
  | mmap (fd : Int) (length : SizeT)
  | munmap (addr : UserAddr) (length : SizeT)
  | registerBuffer (fd : Int) (registerBuffer : AxidmaRegisterBuffer)
  | unregisterBuffer (fd : Int) (userAddr : UserAddr)
  | openPath (path : Path) (truncate : Bool)
  | fstat (fd : Int)
  | robustRead (fd : Int) (buf : UserAddr) (bufSize : CInt)
  | robustWrite (fd : Int) (buf : UserAddr) (bufSize : CInt)
  | readImage (fd : Int) (buf : UserAddr) (imageByteSize : CInt)
  | load (addr : UserAddr) (size : Nat)
  | store (addr : UserAddr) (size : Nat) (contents : Buffer)
  | malloc (size : Nat)
  | pthreadCreate

abbrev ProgramCall.Reply : ProgramCall → Type
  | .library op => op.Reply
  | .mmap _ _ => Option UserAddr
  | .munmap _ _ => Int
  | .registerBuffer _ _ => Int
  | .unregisterBuffer _ _ => Int
  | .openPath _ _ => Int
  | .fstat _ => Int × BitVec 64
  | .robustRead _ _ _ => Int × List Result
  | .robustWrite _ _ _ => Int × List Result
  | .readImage _ _ _ => Int × List Result
  | .load _ _ => Buffer
  | .store _ _ _ => Unit
  | .malloc _ => Option UserAddr
  | .pthreadCreate => Int

inductive Abort where
  | library (fault : LibraryFault)
  | exited (status : Int)
  | undefined
deriving DecidableEq

abbrev process : Interface := ⟨ProgramCall,ProgramCall.Reply,fun _ _ => True⟩
abbrev Program := Prog process Abort

@[simp] def pcall (op : ProgramCall) : Program op.Reply := Prog.ask (I := process) op

def inProgram {α : Type} : Library α → Program α
  | .ret value => .ret value
  | .fault error => .fault (.library error)
  | .call op next => .call (.library op) fun reply => inProgram (next reply)

def ofLibrary {α : Type} : Outcome LibraryFault α → Outcome Abort α
  | .returned value => .returned value
  | .faulted error => .faulted (.library error)

-- None for MAP_FAILED, and so for the NULL that is returned.
def axidmaMalloc (dev : AxidmaDev) (size : SizeT) : Program (Option UserAddr) := pcall (.mmap dev.fd size)

def axidmaFree (addr : UserAddr) (size : SizeT) : Program Unit := do
  let rc : Int ← pcall (.munmap addr size)
  if rc < 0 then
    Prog.fault (.library .assertion)
  else
  return ()

def axidmaRegisterBuffer (dev : AxidmaDev) (dmabufFd : CInt) (userAddr : UserAddr) (size : SizeT) : Program Int :=
  pcall (.registerBuffer dev.fd {fd := dmabufFd, size := size, userAddr := userAddr})

def axidmaUnregisterBuffer (dev : AxidmaDev) (userAddr : UserAddr) : Program Unit := do
  let rc : Int ← pcall (.unregisterBuffer dev.fd userAddr)
  if rc < 0 then
    Prog.fault (.library .assertion)
  else
  return ()

def axidmaGetDmaTx (dev : AxidmaDev) : ArrayT := dev.dmaTxChans
def axidmaGetDmaRx (dev : AxidmaDev) : ArrayT := dev.dmaRxChans
def axidmaGetVdmaTx (dev : AxidmaDev) : ArrayT := dev.vdmaTxChans
def axidmaGetVdmaRx (dev : AxidmaDev) : ArrayT := dev.vdmaRxChans

def firstId (array : ArrayT) : Program CInt := Prog.deref (.library .outOfBounds) array.data[0]?.join

def chooseChannels (txChannel rxChannel : CInt) (txChans rxChans : ArrayT) : Program (CInt × CInt) := do
  if txChannel = -1 ∧ rxChannel = -1 then
    let txChannel ← firstId txChans
    let rxChannel ← firstId rxChans
    return (txChannel,rxChannel)
  else
    return (txChannel,rxChannel)

def closeAsserted (fd : Int) : Program Unit := do
  let rc : Int ← inProgram (lcall (.close fd))
  if rc ≠ 0 then
    Prog.fault (.library .assertion)
  else
  return ()

inductive Held where
  | descriptor (fd : Int)
  | mapping (addr : UserAddr) (length : SizeT)
  | block (block : Block)
  | heap (addr : UserAddr)
deriving DecidableEq

structure Inode where
  contents : Buffer
  size : Nat

-- A display that was accepted: the request, and the memory of the process at the time.
structure Shown where
  request : UserVideoTransaction
  memory : Buffer

-- The process, its memory by address, and the files. opened has what a descriptor
-- was last opened for, with the position in it, and shown the displays, the latest first.
structure Host where
  account : Account Held
  memory : Buffer
  disk : Path → Inode
  opened : Int → Option (Path × Nat)
  shown : List Shown

def Host.file (s : Host) (fd : Int) : File := match s.opened fd with
  | some (path,position) => ⟨(s.disk path).contents,position⟩
  | none => ⟨fun _ => 0,0⟩

def Host.remaining (s : Host) (fd : Int) : Nat := match s.opened fd with
  | some (path,position) => (s.disk path).size-position
  | none => 0

def Host.view (s : Host) (addr : UserAddr) : Buffer := fun k => s.memory (addr.toNat+k)

def Host.put (s : Host) (addr : UserAddr) (size : Nat) (contents : Buffer) : Host :=
  {s with memory := place s.memory addr.toNat contents 0 size}

def firstBytes (contents : Buffer) (size : Nat) : List (BitVec 8) := (List.range size).map contents

def bufferOf (bytes : List (BitVec 8)) : Buffer := fun k => bytes.getD k 0

-- The loop that fills an image. It keeps the result of its last read, and ends
-- with it when the image is full.
def imageLoop {σ : Type} (moves : Nat → Nat → σ → σ) (bufSize bytesRemain : Int) (s : σ) : List Result → Run σ
  | [] => ⟨[],s,none⟩
  | result :: results =>
    let pass := pass moves bufSize bytesRemain s result
    if (result.value > 0 ∨ result.value = -EINTR) ∧ pass.bytesRemain > 0 then
      let run := imageLoop moves bufSize pass.bytesRemain pass.state results
      ⟨pass.call :: run.calls,run.state,run.returned⟩
    else ⟨[pass.call],pass.state,some result.value⟩

def readImage (file : File) (buf : Buffer) (imageByteSize : Int) (results : List Result) : Run (Buffer × File) :=
  imageLoop readBytes imageByteSize imageByteSize (buf,file) results

-- Results of calls for what remains, where so much is left to deliver.
def Delivers : Nat → Nat → List Result → Prop
  | _,_,[] => True
  | left,remain,result :: results => remain = 0 ∨ match result with
    | .count n => 0 < n ∧ n ≤ remain ∧ n ≤ left ∧ Delivers (left-n) (remain-n) results
    | .endOfFile => left = 0
    | .failed _ => True

def Apart (addr : UserAddr) (length : SizeT) : Held → Prop
  | .mapping other size => addr.toNat+length.toNat ≤ other.toNat ∨ other.toNat+size.toNat ≤ addr.toNat
  | _ => True

instance decidableApart (addr : UserAddr) (length : SizeT) : (held : Held) → Decidable (Apart addr length held)
  | .mapping _ _ => inferInstanceAs (Decidable (_ ∨ _))
  | .descriptor _ => .isTrue trivial
  | .block _ => .isTrue trivial
  | .heap _ => .isTrue trivial

def Room (s : Host) (addr : UserAddr) (length : SizeT) : Prop :=
  0 < length.toNat ∧ length.toNat < 2^63 ∧ addr.toNat+length.toNat ≤ 2^64 ∧ ∀ held ∈ s.account.held, Apart addr length held

instance (s : Host) (addr : UserAddr) (length : SizeT) : Decidable (Room s addr length) :=
  inferInstanceAs (Decidable (_ ∧ _ ∧ _ ∧ _))

def Mapped (s : Host) (addr : UserAddr) (size : Nat) : Prop :=
  ∃ base length, Held.mapping base length ∈ s.account.held ∧ base.toNat ≤ addr.toNat ∧ addr.toNat+size ≤ base.toNat+length.toNat

def Host.readInto (s : Host) (fd : Int) (buf : UserAddr) (size : CInt) (run : Run (Buffer × File)) : Host :=
  {s.put buf size.toInt.toNat run.state.1 with
    opened := Function.update s.opened fd ((s.opened fd).map fun entry => (entry.1,run.state.2.position))}

def Host.wrote (s : Host) (fd : Int) (run : Run (Buffer × File)) : Host := match s.opened fd with
  | some (path,_) => {s with
      opened := Function.update s.opened fd (some (path,run.state.2.position))
      disk := Function.update s.disk path ⟨run.state.2.contents,max (s.disk path).size run.state.2.position⟩}
  | none => s

section
variable (fabric : List (BitVec 8) → List (BitVec 8))

-- A transfer that succeeds sends its bytes to the fabric, and as much of the
-- answer as fits arrives.
def Host.transfer (s : Host) (trans : AxidmaInoutTransaction) : Host :=
  let reply := fabric (firstBytes (s.view trans.txBuf) trans.txBufLen.toNat)
  s.put trans.rxBuf (min trans.rxBufLen.toNat reply.length) (bufferOf reply)

def libcMachine : Machine libc Host where
  gives := fun s op reply => match op,reply with
    | .openDevice,fd => (0 : Int) ≤ fd → Held.descriptor fd ∉ s.account.held
    | _,_ => True
  perform := fun s op reply => match op,reply with
    | .openDevice,fd => if (0 : Int) ≤ fd then {s with account := s.account.take (.descriptor fd)} else s
    | .malloc block _,true => {s with account := s.account.take (.block block)}
    | .free block,_ => {s with account := s.account.giveBack (.block block)}
    | .close fd,_ => {s with account := s.account.giveBack (.descriptor fd)}
    | .ioctl _ _ (.inoutTransaction transaction),rc => if (0 : Int) ≤ rc then s.transfer fabric transaction else s
    | .ioctl _ cmd (.videoTransaction request),rc =>
        if cmd = AXIDMA_DMA_VIDEO_WRITE ∧ (0 : Int) ≤ rc then {s with shown := ⟨request,s.memory⟩ :: s.shown} else s
    | _,_ => s

def host : Machine process Host where
  gives := fun s op reply => match op,reply with
    | .library op,reply => (libcMachine fabric).gives s op reply
    | .mmap _ length,reply => ∀ addr, reply = some addr → Room s addr length
    | .openPath _ _,fd => (0 : Int) ≤ fd → Held.descriptor fd ∉ s.account.held
    | .fstat fd,reply => ∀ path position, s.opened fd = some (path,position) → reply.2 = BitVec.ofNat 64 (s.disk path).size
    | .robustRead fd buf bufSize,reply => Delivers (s.remaining fd) bufSize.toInt.toNat reply.2 ∧
        (RobustTransfer.robustRead (s.file fd) (s.view buf) bufSize.toInt reply.2).returned = some reply.1
    | .robustWrite fd buf bufSize,reply => Delivers bufSize.toInt.toNat bufSize.toInt.toNat reply.2 ∧
        (RobustTransfer.robustWrite (s.file fd) (s.view buf) bufSize.toInt reply.2).returned = some reply.1
    | .readImage fd buf imageByteSize,reply => Delivers (s.remaining fd) imageByteSize.toInt.toNat reply.2 ∧
        (readImage (s.file fd) (s.view buf) imageByteSize.toInt reply.2).returned = some reply.1
    | .load addr _,reply => reply = s.view addr
    | .malloc _,reply => ∀ addr, reply = some addr → Held.heap addr ∉ s.account.held
    | _,_ => True
  perform := fun s op reply => match op,reply with
    | .library op,reply => (libcMachine fabric).perform s op reply
    | .mmap _ length,some addr => {s with account := s.account.take (.mapping addr length)}
    | .munmap addr length,rc => if (0 : Int) ≤ rc then {s with account := s.account.giveBack (.mapping addr length)} else s
    | .openPath path truncate,fd => if (0 : Int) ≤ fd then
        {s with
          account := s.account.take (.descriptor fd)
          opened := Function.update s.opened fd (some (path,0))
          disk := if truncate then Function.update s.disk path ⟨(s.disk path).contents,0⟩ else s.disk}
      else s
    | .robustRead fd buf bufSize,reply =>
        s.readInto fd buf bufSize (RobustTransfer.robustRead (s.file fd) (s.view buf) bufSize.toInt reply.2)
    | .readImage fd buf imageByteSize,reply =>
        s.readInto fd buf imageByteSize (readImage (s.file fd) (s.view buf) imageByteSize.toInt reply.2)
    | .robustWrite fd buf bufSize,reply =>
        s.wrote fd (RobustTransfer.robustWrite (s.file fd) (s.view buf) bufSize.toInt reply.2)
    | .store addr size contents,_ => s.put addr size contents
    | .malloc _,some addr => {s with account := s.account.take (.heap addr)}
    | _,_ => s

end

structure Quiet (s after : Host) : Prop where
  memory : after.memory = s.memory
  disk : after.disk = s.disk
  opened : after.opened = s.opened
  shown : after.shown = s.shown

def handleBlocks : List Held :=
  [.block .vdmaRxData,.block .vdmaTxData,.block .dmaRxData,.block .dmaTxData,.block .channels]

-- The calls of the library among those of a program.
def ofLibc (occurs : Event process → Prop) : Event libc → Prop := fun event => occurs ⟨.library event.1,event.2⟩

-- The signal that is to invoke the callbacks could not be set up.
inductive Unsignalled (occurs : Event libc → Prop) : Prop where
  | handler {rc signal : Int} (failed : rc < 0) (answered : occurs ⟨.sigaction signal,rc⟩) : Unsignalled occurs
  | driver {rc fd signal : Int} (failed : rc < 0) (answered : occurs ⟨.setDmaSignal fd signal,rc⟩) : Unsignalled occurs

-- Nothing is left of what was taken, or the arrays of a handle that was not set up.
def Settled (occurs : Event process → Prop) (before : Account Held) (rc : Int) (after : Host) : Prop :=
  ∃ left, (left = [] ∨ (left = handleBlocks ∧ rc = 1 ∧ Unsignalled (ofLibc occurs))) ∧ Owes before left after.account

section
variable {fabric : List (BitVec 8) → List (BitVec 8)} {occurs : Event libc → Prop} {before : Account Held} {things : List Held}
  {s after : Host} {dev lib : AxidmaDev} {thing : Held}

theorem Quiet.refl (s : Host) : Quiet s s := ⟨rfl,rfl,rfl,rfl⟩

theorem Quiet.view {addr : UserAddr} (quiet : Quiet s after) : after.view addr = s.view addr := by
  unfold Host.view
  rw [quiet.memory]

theorem ensures_inProgram {α : Type} {occurs : Event process → Prop} {p : Library α} {post : Outcome Abort α → Host → Prop}
    (ends : Ensures ((libcMachine fabric).only (ofLibc occurs)) (fun outcome after => post (ofLibrary outcome) after) p s) :
    Ensures ((host fabric).only occurs) post (inProgram p) s := by
  induction p generalizing s with
  | ret value => exact ends
  | fault error => exact ends
  | call op next ih => exact fun reply given => ih reply (ends reply given)

inductive CategorizeEnds (before : Account Held) (things : List Held) (s : Host) (dev : AxidmaDev) :
    Outcome LibraryFault (Int × AxidmaDev) → Host → Prop where
  | placed {lib : AxidmaDev} {after : Host} (quiet : Quiet s after) (owes : Owes before (handleBlocks++things) after.account)
      (same : lib.fd = dev.fd) : CategorizeEnds before things s dev (.returned (0,lib)) after
  | refused {lib : AxidmaDev} {after : Host} (quiet : Quiet s after) (owes : Owes before things after.account)
      (same : lib.fd = dev.fd) : CategorizeEnds before things s dev (.returned (-ENOMEM,lib)) after

theorem Quiet.trans {last : Host} (first : Quiet s after) (second : Quiet after last) : Quiet s last :=
  ⟨second.memory.trans first.memory,second.disk.trans first.disk,second.opened.trans first.opened,
    second.shown.trans first.shown⟩

theorem malloc_then {α : Type} {post : Outcome LibraryFault α → Host → Prop} {block : Block} {count : Nat}
    {rest : Bool → Library α} (owes : Owes before things s.account) (failed : Ensures ((libcMachine fabric).only occurs) post (rest false) s)
    (got : ∀ after, Quiet s after → Owes before (.block block :: things) after.account →
      Ensures ((libcMachine fabric).only occurs) post (rest true) after) : Ensures ((libcMachine fabric).only occurs) post (.call (.malloc block count) rest) s := by
  intro allocated _
  cases allocated with
  | false => exact failed
  | true => exact got _ ⟨rfl,rfl,rfl,rfl⟩ owes.take

theorem free_then {α : Type} {post : Outcome LibraryFault α → Host → Prop} {block : Block} {rest : Unit → Library α}
    (owes : Owes before (.block block :: things) s.account)
    (freed : ∀ after, Quiet s after → Owes before things after.account → Ensures ((libcMachine fabric).only occurs) post (rest ()) after) :
    Ensures ((libcMachine fabric).only occurs) post (.call (.free block) rest) s := fun _ _ => freed _ ⟨rfl,rfl,rfl,rfl⟩ owes.giveBack

def freeing {α : Type} : List Block → α → Library α
  | [],value => .ret value
  | block :: blocks,value => .call (.free block) fun _ => freeing blocks value

theorem freeing_ends {α : Type} {post : Outcome LibraryFault α → Host → Prop} {blocks : List Block} {value : α}
    (owes : Owes before (blocks.map Held.block++things) s.account)
    (freed : ∀ after, Quiet s after → Owes before things after.account → post (.returned value) after) :
    Ensures ((libcMachine fabric).only occurs) post (freeing blocks value) s := by
  induction blocks generalizing s with
  | nil => exact freed s (.refl s) owes
  | cons block blocks ih =>
    refine free_then owes fun middle stepped owes => ?_
    exact ih owes fun after quiet owes => freed after (stepped.trans quiet) owes

theorem unwound {blocks : List Block} (quiet : Quiet s after) (owes : Owes before (blocks.reverse.map Held.block++things) after.account)
    (same : lib.fd = dev.fd) :
    Ensures ((libcMachine fabric).only occurs) (CategorizeEnds before things s dev) (freeing blocks (-ENOMEM,lib)) after := by
  have order := (List.reverse_perm blocks).map Held.block
  refine freeing_ends (owes.perm (order.append_right things)) ?_
  intro last later owes
  exact .refused (quiet.trans later) owes same

theorem categorize_ends {channels : List AxidmaChan} {numChan : AxidmaNumChannels} (owes : Owes before things s.account) :
    Ensures ((libcMachine fabric).only occurs) (CategorizeEnds before things s dev) (categorizeChannels dev channels numChan) s := by
  have fill : ∀ (chans : List AxidmaChan) (lib : AxidmaDev), (chans.foldl placeChannel lib).fd = lib.fd := by
    intro chans
    induction chans with
    | nil => exact fun _ => rfl
    | cons chan rest ih =>
      intro lib
      rw [List.foldl_cons,ih]
      rcases chan with ⟨_ | _,_ | _,channelId,name,handle⟩ <;> rfl
  unfold categorizeChannels
  refine malloc_then owes (.refused (.refl s) owes rfl) fun s1 quiet1 owes1 => ?_
  refine malloc_then owes1 (@unwound fabric occurs before things s s1 dev _ [.channels] quiet1 owes1 rfl) fun s2 quiet2 owes2 => ?_
  have quiet2 := quiet1.trans quiet2
  refine malloc_then owes2 (@unwound fabric occurs before things s s2 dev _ [.channels,.dmaTxData] quiet2 owes2 rfl)
    fun s3 quiet3 owes3 => ?_
  have quiet3 := quiet2.trans quiet3
  refine malloc_then owes3 (@unwound fabric occurs before things s s3 dev _ [.channels,.dmaTxData,.dmaRxData] quiet3 owes3 rfl)
    fun s4 quiet4 owes4 => ?_
  have quiet4 := quiet3.trans quiet4
  refine malloc_then owes4
    (@unwound fabric occurs before things s s4 dev _ [.channels,.dmaTxData,.dmaRxData,.vdmaTxData] quiet4 owes4 rfl)
    fun s5 quiet5 owes5 => ?_
  exact .placed (quiet4.trans quiet5) owes5 (fill _ _)

inductive ProbeEnds (before : Account Held) (things : List Held) (s : Host) (dev : AxidmaDev) :
    Outcome LibraryFault (Int × AxidmaDev) → Host → Prop where
  | probed {rc : Int} {lib : AxidmaDev} {after : Host} (fine : ¬ rc < 0) (quiet : Quiet s after)
      (owes : Owes before (handleBlocks++things) after.account) (same : lib.fd = dev.fd) :
      ProbeEnds before things s dev (.returned (rc,lib)) after
  | failed {rc : Int} {lib : AxidmaDev} {after : Host} (failed : rc < 0) (quiet : Quiet s after)
      (owes : Owes before things after.account) (same : lib.fd = dev.fd) : ProbeEnds before things s dev (.returned (rc,lib)) after

theorem probe_ends (owes : Owes before things s.account) :
    Ensures ((libcMachine fabric).only occurs) (ProbeEnds before things s dev) (probeChannels dev) s := by
  unfold probeChannels
  intro counted _
  refine ensures_if (fun failed => .failed failed ⟨rfl,rfl,rfl,rfl⟩ owes rfl) fun _ => ?_
  refine ensures_if (fun _ => .failed (by decide) ⟨rfl,rfl,rfl,rfl⟩ owes rfl) fun _ => ?_
  refine malloc_then owes (.failed (by decide) ⟨rfl,rfl,rfl,rfl⟩ owes rfl) fun s1 quiet1 owes1 => ?_
  intro table _
  refine ensures_if (fun failed => ?_) fun _ => ?_
  · intro reply _
    exact .failed failed (quiet1.trans ⟨rfl,rfl,rfl,rfl⟩) owes1.giveBack rfl
  · refine ensures_bind (p := categorizeChannels dev table.2.1 counted.2) ((categorize_ends owes1).mono ?_)
    intro outcome after ends
    cases ends with
    | placed quiet owes same =>
      intro reply _
      have order : (handleBlocks++.block .driverChannels :: things).Perm (.block .driverChannels :: (handleBlocks++things)) :=
        List.perm_middle
      exact .probed (by decide) (quiet1.trans (quiet.trans ⟨rfl,rfl,rfl,rfl⟩)) (owes.perm order).giveBack same
    | refused quiet owes same =>
      intro reply _
      exact .failed (by decide) (quiet1.trans (quiet.trans ⟨rfl,rfl,rfl,rfl⟩)) owes.giveBack same

theorem setup_ends : Ensures ((libcMachine fabric).only occurs)
    (fun outcome after => after = s ∧ ∃ rc, outcome = .returned rc ∧ (rc < 0 → Unsignalled occurs)) (setupDmaCallback dev) s := by
  unfold setupDmaCallback
  intro rc given
  refine ensures_if (fun _ => ⟨rfl,rc,rfl,fun failed => .handler failed given.2⟩) fun _ => ?_
  intro rc given
  refine ensures_if (fun _ => ⟨rfl,rc,rfl,fun failed => .driver failed given.2⟩) fun _ => ?_
  exact ⟨rfl,0,rfl,fun failed => absurd failed (by decide)⟩

def handleThings (lib : AxidmaDev) : List Held := .descriptor lib.fd :: handleBlocks

inductive InitEnds (occurs : Event libc → Prop) (before : Account Held) (things : List Held) (s : Host) :
    Outcome LibraryFault (Bool × AxidmaDev) → Host → Prop where
  | ready {lib : AxidmaDev} {after : Host} (quiet : Quiet s after) (owes : Owes before (handleThings lib++things) after.account) :
      InitEnds occurs before things s (.returned (true,lib)) after
  | refused {lib : AxidmaDev} {after : Host} (left : List Held) (only : left = [] ∨ (left = handleBlocks ∧ Unsignalled occurs))
      (quiet : Quiet s after) (owes : Owes before (left++things) after.account) :
      InitEnds occurs before things s (.returned (false,lib)) after
  | faulted {fault : LibraryFault} {after : Host} : InitEnds occurs before things s (.faulted fault) after

theorem init_ends (owes : Owes before things s.account) :
    Ensures ((libcMachine fabric).only occurs) (InitEnds occurs before things s) (axidmaInit dev) s := by
  unfold axidmaInit
  refine ensures_if (fun _ => .faulted) fun _ => ?_
  intro fd _
  by_cases refused : fd < 0
  · have none : ((libcMachine fabric).only occurs).perform s .openDevice fd = s := if_neg (Int.not_le.mpr refused)
    rw [none]
    exact ensures_if (fun _ => .refused [] (.inl rfl) (.refl s) owes) fun given => absurd refused given
  · have taken : ((libcMachine fabric).only occurs).perform s .openDevice fd = {s with account := s.account.take (.descriptor fd)} :=
      if_pos (Int.not_lt.mp refused)
    rw [taken]
    refine ensures_if (fun failed => absurd failed refused) fun _ => ?_
    have opened : Owes before (.descriptor fd :: things) (s.account.take (.descriptor fd)) := owes.take
    refine ensures_bind (p := probeChannels {dev with fd := fd}) ((probe_ends opened).mono ?_)
    intro outcome after ends
    cases ends with
    | failed failed quiet owes same =>
      refine ensures_if (fun _ => ?_) fun fine => absurd failed fine
      intro rc _
      rw [same]
      exact .refused [] (.inl rfl) ⟨quiet.memory,quiet.disk,quiet.opened,quiet.shown⟩ owes.giveBack
    | @probed rc lib _ fine quiet owes same =>
      refine ensures_if (fun failed => absurd failed fine) fun _ => ?_
      refine ensures_bind (p := setupDmaCallback lib) (setup_ends.mono ?_)
      intro outcome last ends
      obtain ⟨rfl,rc,rfl,why⟩ := ends
      have order : (handleBlocks++.descriptor fd :: things).Perm (handleThings lib++things) := by
        rw [handleThings,same]
        exact List.perm_middle
      have owed := owes.perm order
      refine ensures_if (fun unsignalled => ?_) fun _ => ?_
      · intro rc _
        exact .refused handleBlocks (.inr ⟨rfl,why unsignalled⟩) ⟨quiet.memory,quiet.disk,quiet.opened,quiet.shown⟩ owed.giveBack
      · exact .ready ⟨quiet.memory,quiet.disk,quiet.opened,quiet.shown⟩ owed

theorem destroy_ends (owes : Owes before (handleThings lib++things) s.account) :
    Ensures ((libcMachine fabric).only occurs) (fun outcome after => Quiet s after ∧ ∀ value, outcome = .returned value → Owes before things after.account)
      (axidmaDestroy lib) s := by
  have order : (handleThings lib++things).Perm (handleBlocks++(.descriptor lib.fd :: things)) := List.perm_middle.symm
  have owed := owes.perm order
  unfold axidmaDestroy
  refine free_then owed fun s1 quiet1 owed => ?_
  refine free_then owed fun s2 quiet2 owed => ?_
  refine free_then owed fun s3 quiet3 owed => ?_
  refine free_then owed fun s4 quiet4 owed => ?_
  refine free_then owed fun s5 quiet5 owed => ?_
  have quiet := ((quiet1.trans quiet2).trans (quiet3.trans quiet4)).trans quiet5
  intro rc _
  have closed : Quiet s (((libcMachine fabric).only occurs).perform s5 (.close lib.fd) rc) := quiet.trans ⟨rfl,rfl,rfl,rfl⟩
  refine ensures_if (fun _ => ?_) fun _ => ?_
  · exact ⟨closed,fun value same => by cases same⟩
  · exact ⟨closed,fun value _ => owed.giveBack⟩

end

section
variable {σ : Type} {moves : Nat → Nat → σ → σ} {offset remain left n : Nat} {s : σ} {results : List Result} {value : Int}

theorem Delivers.count (delivers : Delivers left remain (.count n :: results)) (some : remain ≠ 0) :
    0 < n ∧ n ≤ remain ∧ n ≤ left ∧ Delivers (left-n) (remain-n) results := delivers.resolve_left some

-- A loop that does not report a failure has moved all there is, up to the size asked for.
theorem loop_delivers (compose : ∀ offset n m s, moves (offset+n) m (moves offset n s) = moves offset (n+m) s)
    (delivers : Delivers left remain results) (ended : (loop moves (offset+remain) remain s results).returned = some value)
    (fine : 0 ≤ value) : (loop moves (offset+remain) remain s results).state = moves offset (min remain left) s := by
  induction results generalizing offset remain left s with
  | nil =>
    by_cases none : remain = 0
    · subst none
      rw [loop_done,Nat.zero_min]
    · rw [loop_waits none] at ended
      cases ended
  | cons result results ih =>
    by_cases none : remain = 0
    · subst none
      rw [loop_done,Nat.zero_min]
    · cases result with
      | count n =>
        obtain ⟨positive,below,there,delivers⟩ := delivers.count none
        rw [loop_count positive below] at ended ⊢
        have all : n+min (remain-n) (left-n) = min remain left := by omega
        rw [ih delivers ended,compose,all]
      | endOfFile =>
        have empty : left = 0 := delivers.resolve_left none
        rw [loop_endOfFile none,empty,Nat.min_zero]
      | failed errno =>
        rw [loop_failed none] at ended
        cases ended
        exact absurd fine (by decide)

theorem robustRead_filled {file : File} {buf : Buffer} {size : Int} (sized : 0 ≤ size) (delivers : Delivers left size.toNat results)
    (ended : (robustRead file buf size results).returned = some value) (fine : 0 ≤ value) :
    (robustRead file buf size results).state = readBytes 0 (min size.toNat left) (buf,file) := by
  have whole : size = (0 : Nat)+(size.toNat : Nat) := by omega
  have same : size = (size.toNat : Nat) := by omega
  have moved := @loop_delivers _ readBytes 0 size.toNat left (buf,file) results value readBytes_compose delivers
  rw [← whole,← same] at moved
  exact moved ended fine

theorem robustWrite_filled {file : File} {buf : Buffer} {size : Int} (sized : 0 ≤ size)
    (delivers : Delivers size.toNat size.toNat results) (ended : (robustWrite file buf size results).returned = some value)
    (fine : 0 ≤ value) : (robustWrite file buf size results).state = writeBytes 0 size.toNat (buf,file) := by
  have whole : size = (0 : Nat)+(size.toNat : Nat) := by omega
  have same : size = (size.toNat : Nat) := by omega
  have moved := @loop_delivers _ writeBytes 0 size.toNat size.toNat (buf,file) results value writeBytes_compose delivers
  rw [← whole,← same,Nat.min_self] at moved
  exact moved ended fine

theorem imageLoop_count (positive : 0 < n) (below : n ≤ remain) : imageLoop moves (offset+remain) remain s (.count n :: results) =
    if remain = n then ⟨[⟨offset,remain,.count n⟩],moves offset n s,some (n : Int)⟩
    else
      let run := imageLoop moves ((offset+n : Nat)+(remain-n : Nat)) (remain-n : Nat) (moves offset n s) results
      ⟨⟨offset,remain,.count n⟩ :: run.calls,run.state,run.returned⟩ := by
  have size : ((offset+n : Nat) : Int)+(remain-n : Nat) = offset+remain := by omega
  rw [imageLoop,pass_count positive below,size]
  by_cases last : remain = n
  · subst last
    simp [Result.value]
  · have more : ((remain-n : Nat) : Int) > 0 := by omega
    have goes : ((n : Int) > 0 ∨ (n : Int) = -EINTR) ∧ ((remain-n : Nat) : Int) > 0 := ⟨.inl (by omega),more⟩
    rw [if_neg last]
    simp only [Result.value,goes,and_self,if_true]

theorem image_delivers (compose : ∀ offset n m s, moves (offset+n) m (moves offset n s) = moves offset (n+m) s)
    (wanted : remain ≠ 0) (delivers : Delivers left remain results)
    (ended : (imageLoop moves (offset+remain) remain s results).returned = some value) (fine : 0 ≤ value) :
    (imageLoop moves (offset+remain) remain s results).state = moves offset (min remain left) s := by
  induction results generalizing offset remain left s with
  | nil => cases ended
  | cons result results ih =>
    cases result with
    | count n =>
      obtain ⟨positive,below,there,delivers⟩ := delivers.count wanted
      rw [imageLoop_count positive below] at ended ⊢
      by_cases last : remain = n
      · rw [if_pos last,last,Nat.min_eq_left there]
      · rw [if_neg last] at ended ⊢
        have all : n+min (remain-n) (left-n) = min remain left := by omega
        rw [ih (Nat.sub_ne_zero_of_lt (Nat.lt_of_le_of_ne below (Ne.symm last))) delivers ended,compose,all]
    | endOfFile =>
      have empty : left = 0 := delivers.resolve_left wanted
      rw [imageLoop,pass_endOfFile,empty,Nat.min_zero]
      rfl
    | failed errno =>
      rw [imageLoop,pass_failed] at ended
      cases ended
      have negative : (0 : Int) ≤ -1 := fine
      exact absurd negative (by decide)

end

-- The rules by which a program is followed, one call after the other. A program
-- that aborts is not followed any further.
section
variable {α : Type} {fabric : List (BitVec 8) → List (BitVec 8)} {occurs : Event process → Prop} {before : Account Held}
  {things : List Held} {s : Host} {dev lib : AxidmaDev} {post : Outcome Abort α → Host → Prop}

theorem init_then {rest : Bool × AxidmaDev → Program α} (aborted : ∀ error after, post (.faulted error) after)
    (owes : Owes before things s.account)
    (ready : ∀ lib after, Quiet s after → Owes before (handleThings lib++things) after.account →
      Ensures ((host fabric).only occurs) post (rest (true,lib)) after)
    (refused : ∀ lib left after, left = [] ∨ (left = handleBlocks ∧ Unsignalled (ofLibc occurs)) → Quiet s after → Owes before (left++things) after.account →
      Ensures ((host fabric).only occurs) post (rest (false,lib)) after) :
    Ensures ((host fabric).only occurs) post (inProgram (axidmaInit dev) >>= rest) s := by
  refine ensures_bind (ensures_inProgram ((init_ends owes).mono ?_))
  intro outcome after ends
  cases ends with
  | ready quiet owes => exact ready _ _ quiet owes
  | refused left only quiet owes => exact refused _ left _ only quiet owes
  | faulted => exact aborted _ _

theorem destroy_then {rest : AxidmaDev → Program α} (aborted : ∀ error after, post (.faulted error) after)
    (owes : Owes before (handleThings lib++things) s.account)
    (next : ∀ lib after, Quiet s after → Owes before things after.account → Ensures ((host fabric).only occurs) post (rest lib) after) :
    Ensures ((host fabric).only occurs) post (inProgram (axidmaDestroy lib) >>= rest) s := by
  refine ensures_bind (ensures_inProgram ((destroy_ends owes).mono ?_))
  intro outcome after ends
  cases outcome with
  | returned value => exact next value after ends.1 (ends.2 value rfl)
  | faulted error => exact aborted _ _

theorem close_then {fd : Int} {rest : Unit → Program α} (aborted : ∀ error after, post (.faulted error) after)
    (owes : Owes before (.descriptor fd :: things) s.account)
    (next : ∀ after, Quiet s after → Owes before things after.account → Ensures ((host fabric).only occurs) post (rest ()) after) :
    Ensures ((host fabric).only occurs) post (closeAsserted fd >>= rest) s := by
  refine ensures_bind ?_
  unfold closeAsserted
  intro rc _
  refine ensures_if (fun _ => aborted _ _) fun _ => ?_
  exact next _ ⟨rfl,rfl,rfl,rfl⟩ owes.giveBack

theorem free_then_program {addr : UserAddr} {size : SizeT} {rest : Unit → Program α}
    (aborted : ∀ error after, post (.faulted error) after) (owes : Owes before (.mapping addr size :: things) s.account)
    (next : ∀ after, Quiet s after → Owes before things after.account → Ensures ((host fabric).only occurs) post (rest ()) after) :
    Ensures ((host fabric).only occurs) post (axidmaFree addr size >>= rest) s := by
  refine ensures_bind ?_
  unfold axidmaFree
  intro rc _
  refine ensures_if (fun _ => aborted _ _) fun fine => ?_
  have freed : ((host fabric).only occurs).perform s (.munmap addr size) rc = {s with account := s.account.giveBack (.mapping addr size)} :=
    if_pos (Int.not_lt.mp fine)
  rw [freed]
  exact next _ ⟨rfl,rfl,rfl,rfl⟩ owes.giveBack

theorem malloc_then_program {size : SizeT} {rest : Option UserAddr → Program α} (owes : Owes before things s.account)
    (failed : Ensures ((host fabric).only occurs) post (rest none) s)
    (got : ∀ addr after, Room s addr size → Quiet s after →
      Owes before (.mapping addr size :: things) after.account → Ensures ((host fabric).only occurs) post (rest (some addr)) after) :
    Ensures ((host fabric).only occurs) post (axidmaMalloc dev size >>= rest) s := by
  intro addr given
  cases addr with
  | none => exact failed
  | some addr =>
    exact got addr _ (given.1 addr rfl) ⟨rfl,rfl,rfl,rfl⟩ owes.take

theorem open_performed {path : Path} {truncate : Bool} {fd : Int} : ((host fabric).only occurs).perform s (.openPath path truncate) fd =
    if (0 : Int) ≤ fd then {s with
      account := s.account.take (.descriptor fd)
      opened := Function.update s.opened fd (some (path,0))
      disk := if truncate then Function.update s.disk path ⟨(s.disk path).contents,0⟩ else s.disk} else s := rfl

theorem open_then {path : Path} {truncate : Bool} {rest : Int → Program α} (owes : Owes before things s.account)
    (failed : ∀ fd, fd < 0 → Ensures ((host fabric).only occurs) post (rest fd) s)
    (opened : ∀ fd after, ¬ fd < 0 → Held.descriptor fd ∉ s.account.held → Owes before (.descriptor fd :: things) after.account →
      after.memory = s.memory → after.opened = Function.update s.opened fd (some (path,0)) →
      after.disk = (if truncate then Function.update s.disk path ⟨(s.disk path).contents,0⟩ else s.disk) → after.shown = s.shown →
      Ensures ((host fabric).only occurs) post (rest fd) after) :
    Ensures ((host fabric).only occurs) post (pcall (.openPath path truncate) >>= rest) s := by
  intro fd answered
  by_cases refused : fd < 0
  · rw [open_performed,if_neg (Int.not_le.mpr refused)]
    exact failed fd refused
  · have given := Int.not_lt.mp refused
    rw [open_performed,if_pos given]
    exact opened fd _ refused (answered.1 given) owes.take rfl rfl rfl rfl

theorem choose_then {txChannel rxChannel : CInt} {txChans rxChans : ArrayT} {rest : CInt × CInt → Program α}
    (aborted : ∀ error after, post (.faulted error) after) (next : ∀ channels, Ensures ((host fabric).only occurs) post (rest channels) s) :
    Ensures ((host fabric).only occurs) post (chooseChannels txChannel rxChannel txChans rxChans >>= rest) s := by
  refine ensures_bind ?_
  unfold chooseChannels firstId
  refine ensures_if (fun _ => ?_) fun _ => next _
  cases txChans.data[0]?.join with
  | none => exact aborted _ _
  | some txChannel =>
    cases rxChans.data[0]?.join with
    | none => exact aborted _ _
    | some rxChannel => exact next _

theorem fstat_then {fd : Int} {path : Path} {position : Nat} {rest : Int × BitVec 64 → Program α}
    (entry : s.opened fd = some (path,position))
    (next : ∀ rc stSize, stSize = BitVec.ofNat 64 (s.disk path).size → Ensures ((host fabric).only occurs) post (rest (rc,stSize)) s) :
    Ensures ((host fabric).only occurs) post (pcall (.fstat fd) >>= rest) s := fun reply given => next reply.1 reply.2 (given.1 path position entry)

theorem transfer_performed {fd rc : Int} {cmd : CInt} {transaction : AxidmaInoutTransaction} :
    ((libcMachine fabric).only (ofLibc occurs)).perform s (.ioctl fd cmd (.inoutTransaction transaction)) rc =
      if (0 : Int) ≤ rc then s.transfer fabric transaction else s := rfl

theorem twoway_then {txChannel rxChannel : CInt} {txBuf rxBuf : UserAddr} {txLen rxLen : SizeT}
    {txFrame rxFrame : Option AxidmaVideoFrame} {wait : Bool} {rest : Int → Program α}
    (aborted : ∀ error after, post (.faulted error) after)
    (failed : ∀ rc, rc < 0 → Ensures ((host fabric).only occurs) post (rest rc) s)
    (moved : ∀ rc transaction, ¬ rc < 0 → transaction.txBuf = txBuf → transaction.txBufLen = txLen → transaction.rxBuf = rxBuf →
      transaction.rxBufLen = rxLen → Ensures ((host fabric).only occurs) post (rest rc) (s.transfer fabric transaction)) :
    Ensures ((host fabric).only occurs) post (inProgram (LibraryTransfers.axidmaTwowayTransfer lib txChannel txBuf txLen txFrame
      rxChannel rxBuf rxLen rxFrame wait) >>= rest) s := by
  refine ensures_bind (ensures_inProgram ?_)
  unfold LibraryTransfers.axidmaTwowayTransfer
  cases findChannel lib txChannel with
  | none => exact aborted _ _
  | some txChan =>
    refine ensures_if (fun _ => aborted _ _) fun _ => ?_
    cases findChannel lib rxChannel with
    | none => exact aborted _ _
    | some rxChan =>
      refine ensures_if (fun _ => aborted _ _) fun _ => ?_
      intro rc _
      rw [transfer_performed]
      by_cases negative : rc < 0
      · rw [if_neg (Int.not_le.mpr negative)]
        exact failed rc negative
      · rw [if_pos (Int.not_lt.mp negative)]
        exact moved rc _ negative rfl rfl rfl rfl

theorem view_put {addr : UserAddr} {size k : Nat} {contents : Buffer} (inside : k < size) :
    (s.put addr size contents).view addr k = contents k := by
  have here : addr.toNat ≤ addr.toNat+k ∧ addr.toNat+k < addr.toNat+size := by omega
  have place0 : 0+(addr.toNat+k-addr.toNat) = k := by omega
  simp only [Host.view,Host.put,place,here,and_self,if_true,place0]

theorem put_beside {addr : UserAddr} {size n : Nat} {contents : Buffer} (beside : n < addr.toNat ∨ addr.toNat+size ≤ n) :
    (s.put addr size contents).memory n = s.memory n := by
  have outside : ¬ (addr.toNat ≤ n ∧ n < addr.toNat+size) := by omega
  simp only [Host.put,place,outside,if_false]

theorem view_put_behind {addr : UserAddr} {size k : Nat} {contents : Buffer} (behind : size ≤ k) :
    (s.put addr size contents).view addr k = s.view addr k := by
  have outside : ¬ (addr.toNat ≤ addr.toNat+k ∧ addr.toNat+k < addr.toNat+size) := by omega
  simp only [Host.view,Host.put,place,outside,if_false]

theorem view_put_apart {addr other : UserAddr} {size length k : Nat} {contents : Buffer} (inside : k < length)
    (apart : other.toNat+length ≤ addr.toNat ∨ addr.toNat+size ≤ other.toNat) :
    (s.put addr size contents).view other k = s.view other k := by
  have outside : ¬ (addr.toNat ≤ other.toNat+k ∧ other.toNat+k < addr.toNat+size) := by omega
  simp only [Host.view,Host.put,place,outside,if_false]

theorem firstBytes_congr {contents other : Buffer} {n : Nat} (same : ∀ k, k < n → contents k = other k) :
    firstBytes contents n = firstBytes other n := List.map_congr_left fun k member => same k (List.mem_range.mp member)

-- What a transfer leaves in the buffer it received into: the answer of the fabric, as far
-- as there is one.
theorem transfer_view {transaction : AxidmaInoutTransaction} {k : Nat} {byte : BitVec 8}
    (inside : k < transaction.rxBufLen.toNat)
    (answered : (fabric (firstBytes (s.view transaction.txBuf) transaction.txBufLen.toNat))[k]? = some byte) :
    (s.transfer fabric transaction).view transaction.rxBuf k = byte := by
  have there : k < (fabric (firstBytes (s.view transaction.txBuf) transaction.txBufLen.toNat)).length :=
    (List.getElem?_eq_some_iff.mp answered).1
  refine (view_put (Nat.lt_min.mpr ⟨inside,there⟩)).trans ?_
  rw [bufferOf,List.getD_eq_getElem?_getD,answered]
  rfl

theorem transfer_view_behind {transaction : AxidmaInoutTransaction} {k : Nat}
    (unanswered : (fabric (firstBytes (s.view transaction.txBuf) transaction.txBufLen.toNat))[k]? = none) :
    (s.transfer fabric transaction).view transaction.rxBuf k = s.view transaction.rxBuf k :=
  view_put_behind (Nat.le_trans (Nat.min_le_right _ _) (List.getElem?_eq_none_iff.mp unanswered))

theorem extended_toInt {size : CInt} (small : (size.signExtend 64).toNat < 2^63) : ((size.signExtend 64).toNat : Int) = size.toInt := by
  rw [← BitVec.toInt_signExtend_of_le (by decide : 32 ≤ 64),BitVec.toInt_eq_toNat_of_lt (by omega)]

theorem load_then {addr : UserAddr} {size : Nat} {rest : Buffer → Program α} (next : Ensures ((host fabric).only occurs) post (rest (s.view addr)) s) :
    Ensures ((host fabric).only occurs) post (pcall (.load addr size) >>= rest) s := fun _ given => given.1 ▸ next

theorem store_then {addr : UserAddr} {size : Nat} {contents : Buffer} {rest : Unit → Program α}
    (next : Ensures ((host fabric).only occurs) post (rest ()) (s.put addr size contents)) :
    Ensures ((host fabric).only occurs) post (pcall (.store addr size contents) >>= rest) s := fun _ _ => next

theorem read_back {buf contents : Buffer} {count k : Nat} (inside : k < count) :
    (readBytes 0 count (buf,⟨contents,0⟩)).1 k = contents k := by
  have here : 0 ≤ k ∧ k < 0+count := by omega
  have place0 : 0+(k-0) = k := by omega
  simp only [readBytes,place,here,and_self,if_true,place0]

theorem read_then {fd : Int} {buf : UserAddr} {size : CInt} {path : Path} {rest : Int × List Result → Program α}
    (entry : s.opened fd = some (path,0)) (positive : 0 < size.toInt)
    (next : ∀ rc results after, after.account = s.account → after.disk = s.disk →
      (∀ other, other ≠ fd → after.opened other = s.opened other) →
      (¬ rc < 0 → ∀ k, k < min size.toInt.toNat (s.disk path).size → after.view buf k = (s.disk path).contents k) →
      Ensures ((host fabric).only occurs) post (rest (rc,results)) after) :
    Ensures ((host fabric).only occurs) post (pcall (.robustRead fd buf size) >>= rest) s := by
  intro reply given
  obtain ⟨rc,results⟩ := reply
  obtain ⟨⟨delivers,ended⟩,_⟩ := given
  refine next rc results _ rfl rfl (fun other apart => Function.update_of_ne apart _ _) ?_
  intro fine k inside
  have file : s.file fd = ⟨(s.disk path).contents,0⟩ := by rw [Host.file,entry]
  have left : s.remaining fd = (s.disk path).size := by rw [Host.remaining,entry]; rfl
  rw [left] at delivers
  rw [file] at ended
  have filled := robustRead_filled (Int.le_of_lt positive) delivers ended (Int.not_lt.mp fine)
  refine (view_put (Nat.lt_of_lt_of_le inside (Nat.min_le_left _ _))).trans ?_
  rw [file,filled]
  exact read_back inside

-- A write that does not fail fills an empty file with all that was to be written.
theorem write_then {fd : Int} {buf : UserAddr} {size : CInt} {path : Path} {rest : Int × List Result → Program α}
    (entry : s.opened fd = some (path,0)) (empty : (s.disk path).size = 0) (positive : 0 < size.toInt)
    (next : ∀ rc results after, after.account = s.account → (∀ other, other ≠ path → after.disk other = s.disk other) →
      (¬ rc < 0 → (after.disk path).size = size.toInt.toNat ∧
        ∀ k, k < size.toInt.toNat → (after.disk path).contents k = s.view buf k) →
      Ensures ((host fabric).only occurs) post (rest (rc,results)) after) :
    Ensures ((host fabric).only occurs) post (pcall (.robustWrite fd buf size) >>= rest) s := by
  intro reply given
  obtain ⟨rc,results⟩ := reply
  obtain ⟨⟨delivers,ended⟩,_⟩ := given
  have file : s.file fd = ⟨(s.disk path).contents,0⟩ := by rw [Host.file,entry]
  have written : ((host fabric).only occurs).perform s (.robustWrite fd buf size) (rc,results) =
      s.wrote fd (RobustTransfer.robustWrite (s.file fd) (s.view buf) size.toInt results) := rfl
  rw [written,Host.wrote,entry]
  refine next rc results _ rfl (fun other apart => Function.update_of_ne apart _ _) ?_
  intro fine
  rw [file] at ended ⊢
  have filled := robustWrite_filled (Int.le_of_lt positive) delivers ended (Int.not_lt.mp fine)
  rw [filled]
  simp only [Function.update_self,writeBytes,empty,Nat.zero_max,Nat.zero_add]
  refine ⟨trivial,fun k inside => ?_⟩
  have here : 0 ≤ k ∧ k < 0+size.toInt.toNat := by omega
  have place0 : 0+(k-0) = k := by omega
  rw [place,if_pos here,place0]

end

-- Surroundings in which everything goes well: a device with a channel each way, reads
-- and writes that move all at once, and addresses and numbers that have not been given.
instance decidableDelivers : (left remain : Nat) → (results : List Result) → Decidable (Delivers left remain results)
  | _,_,[] => .isTrue trivial
  | left,remain,.count n :: results =>
    have := decidableDelivers (left-n) (remain-n) results
    inferInstanceAs (Decidable (_ ∨ (_ ∧ _ ∧ _ ∧ _)))
  | _,_,.endOfFile :: _ => inferInstanceAs (Decidable (_ ∨ _))
  | _,_,.failed _ :: _ => inferInstanceAs (Decidable (_ ∨ True))

def plainCounts : AxidmaNumChannels := ⟨2,1,1,0,0⟩
def plainChannels : List AxidmaChan := [⟨.write,.dma,0,"tx_channel",0⟩,⟨.read,.dma,1,"rx_channel",1⟩]

def unusedFd (s : Host) : Int := 3+s.account.held.length
def unusedAddr (s : Host) : UserAddr := BitVec.ofNat 64 (0x100000*(s.account.held.length+1))

def freshFd (s : Host) : Option Int := if Held.descriptor (unusedFd s) ∉ s.account.held then some (unusedFd s) else none

def plainLibrary (s : Host) : (op : LibraryCall) → Option op.Reply
  | .openDevice => freshFd s
  | .getNumDmaChannels _ => some (0,plainCounts)
  | .getDmaChannels _ numChannels => if sized : plainChannels.length = numChannels then some (0,⟨plainChannels,sized⟩) else none
  | .malloc _ _ => some true
  | .free _ => some ()
  | .sigaction _ => some (0 : Int)
  | .setDmaSignal _ _ => some (0 : Int)
  | .close _ => some (0 : Int)
  | .ioctl _ _ _ => some (0 : Int)
  | .uninitialisedFrame => none
  | .uninitialisedChan => some ⟨.read,.vdma,0,"",0⟩
  | .invokeCallback _ _ _ => some ()

def stSizeOf (s : Host) (fd : Int) : BitVec 64 := match s.opened fd with
  | some (path,_) => BitVec.ofNat 64 (s.disk path).size
  | none => 0

def atOnce (left : Nat) (size : CInt) (returned : List Result → Option Int) : Option (Int × List Result) :=
  if Delivers left size.toInt.toNat [.count size.toInt.toNat] ∧ returned [.count size.toInt.toNat] = some size.toInt then
    some (size.toInt,[.count size.toInt.toNat])
  else none

theorem atOnce_given {left : Nat} {size : CInt} {returned : List Result → Option Int} {reply : Int × List Result}
    (settled : atOnce left size returned = some reply) :
    Delivers left size.toInt.toNat reply.2 ∧ returned reply.2 = some reply.1 := by
  unfold atOnce at settled
  split at settled
  · cases settled
    assumption
  · cases settled

theorem freshFd_given {s : Host} {fd : Int} (settled : freshFd s = some fd) : Held.descriptor fd ∉ s.account.held := by
  unfold freshFd at settled
  split at settled
  · cases settled
    assumption
  · cases settled

def freshAddr (s : Host) (length : SizeT) : Option (Option UserAddr) :=
  if Room s (unusedAddr s) length then some (some (unusedAddr s)) else none

theorem freshAddr_given {s : Host} {length : SizeT} {addr : UserAddr} (settled : freshAddr s length = some (some addr)) :
    Room s addr length := by
  unfold freshAddr at settled
  by_cases room : Room s (unusedAddr s) length
  · rw [if_pos room] at settled
    rw [← Option.some.inj (Option.some.inj settled)]
    exact room
  · rw [if_neg room] at settled
    cases settled

def freshHeap (s : Host) : Option UserAddr := if Held.heap (unusedAddr s) ∉ s.account.held then some (unusedAddr s) else none

theorem freshHeap_given {s : Host} {addr : UserAddr} (settled : freshHeap s = some addr) : Held.heap addr ∉ s.account.held := by
  unfold freshHeap at settled
  by_cases fresh : Held.heap (unusedAddr s) ∉ s.account.held
  · rw [if_pos fresh] at settled
    rw [← Option.some.inj settled]
    exact fresh
  · rw [if_neg fresh] at settled
    cases settled

def plainReply (s : Host) : (op : ProgramCall) → Option op.Reply
  | .library op => plainLibrary s op
  | .mmap _ length => freshAddr s length
  | .munmap _ _ => some (0 : Int)
  | .registerBuffer _ _ => some (0 : Int)
  | .unregisterBuffer _ _ => some (-ENOTTY : Int)
  | .openPath _ _ => freshFd s
  | .fstat fd => some (0,stSizeOf s fd)
  | .robustRead fd buf size =>
    atOnce (s.remaining fd) size fun results => (RobustTransfer.robustRead (s.file fd) (s.view buf) size.toInt results).returned
  | .robustWrite fd buf size =>
    atOnce size.toInt.toNat size fun results => (RobustTransfer.robustWrite (s.file fd) (s.view buf) size.toInt results).returned
  | .readImage fd buf size =>
    atOnce (s.remaining fd) size fun results => (readImage (s.file fd) (s.view buf) size.toInt results).returned
  | .load addr _ => some (s.view addr)
  | .store _ _ _ => some ()
  | .malloc _ => some (freshHeap s)
  | .pthreadCreate => some (11 : Int)

def plain (fabric : List (BitVec 8) → List (BitVec 8)) : Answers (host fabric) where
  reply := plainReply
  given := by
    intro s op reply settled
    cases op with
    | library op =>
      cases op with
      | openDevice => exact fun _ => freshFd_given settled
      | _ => trivial
    | mmap fd length =>
      intro addr same
      subst same
      exact freshAddr_given settled
    | openPath path truncate => exact fun _ => freshFd_given settled
    | fstat fd =>
      intro path position entry
      cases settled
      simp only [stSizeOf,entry]
    | robustRead fd buf size =>
      exact @atOnce_given (s.remaining fd) size (fun results => (RobustTransfer.robustRead (s.file fd) (s.view buf) size.toInt results).returned)
        reply settled
    | robustWrite fd buf size =>
      exact @atOnce_given (size.toInt.toNat) size (fun results => (RobustTransfer.robustWrite (s.file fd) (s.view buf) size.toInt results).returned)
        reply settled
    | readImage fd buf size =>
      exact @atOnce_given (s.remaining fd) size (fun results => (readImage (s.file fd) (s.view buf) size.toInt results).returned)
        reply settled
    | load addr size => exact (Option.some.inj settled).symm
    | malloc size =>
      intro addr same
      subst same
      exact freshHeap_given (Option.some.inj settled)
    | _ => trivial

def result {α : Type} : Program α → Option α
  | .ret value => some value
  | _ => none

theorem answered_exec {α σ : Type} {machine : Machine process σ} {answers : Answers machine} {steps : Nat} {p : Program α} {s : σ}
    {value : α} (done : result (answers.advance steps p s).1 = some value) :
    Exec machine p s (.returned value) (answers.advance steps p s).2 := by
  apply answers.exec
  cases ended : (answers.advance steps p s).1 with
  | ret other =>
    rw [ended] at done
    rw [Option.some.inj done]
  | fault error =>
    rw [ended] at done
    cases done
  | call op next =>
    rw [ended] at done
    cases done

end Axidma.ClientPrograms
