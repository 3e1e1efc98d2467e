import Mathlib.Data.List.Pairwise
import Axidma.Serving
import Axidma.ClientPrograms
import Axidma.Translation

namespace Axidma.DmaHeap
open Interaction WordRange
open ClientPrograms LibrarySessions

inductive Told where
  | submitted (chan : DmaChan) (prepared : Prepared)
  | issued (chan : DmaChan)
  | completed (chan : DmaChan)
  | terminated (chan : DmaChan)
deriving DecidableEq

-- What a client knows of the driver: the buffers it has mapped, each from its own
-- addresses to those of the engine, the ranges it has registered others for, and what
-- the engine was told so far. Only the mapped ones are known to lie apart.
structure Heap where
  live : List (Window 64)
  lent : List (Window 64)
  log : List Told
  fits : ∀ win ∈ live, 0 < win.size.toNat ∧ win.EndFits
  apart : live.Pairwise Window.Apart

def Heap.tell (t : Heap) (told : List Told) : Heap := {t with log := t.log++told}

def Heap.windows (t : Heap) : List (Window 64) := t.live++t.lent

def taker (windows : List (Window 64)) (addr : UserAddr) (size : SizeT) : Option (Window 64) :=
  windows.find? fun win => decide (win.EndFits ∧ win.Contains addr size)

structure Part where
  channelId : CInt
  dir : AxidmaDir
  buf : UserAddr
  bufLen : SizeT
  frame : Option AxidmaVideoFrame

def Part.Proper (part : Part) : Prop := 0 < part.bufLen.toNat ∧ part.buf.toNat+part.bufLen.toNat < 2^64

instance (part : Part) : Decidable part.Proper := inferInstanceAs (Decidable (_ ∧ _))

def Extends (frame : AxidmaVideoFrame) (template : DmaInterleavedTemplate) : Prop :=
  template.numf = frame.height.signExtend 64 ∧ template.sgl0Size = (frame.width*frame.depth).signExtend 64

-- A descriptor at the address. On a DMA channel it has the length as far as its 32 bits
-- go, on a video channel the extent of the frame, or of garbage if there is none.
def Describes (chan : AxidmaChan) (addr : DmaAddr) (bufLen : SizeT) (frame : Option AxidmaVideoFrame) : Prepared → Prop
  | .slaveSg sgList sgLen dir _ => chan.type = .dma ∧ (∃ source, sgList = [⟨addr,bufLen.setWidth 32,source⟩]) ∧ sgLen = 1 ∧
      dir = axidmaToDmaDir chan.dir
  | .interleaved template _ => chan.type = .vdma ∧ template.srcStart = addr ∧ template.dstStart = addr ∧
      template.dir = axidmaToDmaDir chan.dir ∧ ∀ given, frame = some given → Extends given template

structure Resolves (channels : List AxidmaChan) (windows : List (Window 64)) (part : Part) (resolved : AxidmaChan × Prepared) : Prop where
  found : channels.find? (fun chan => decide (chan.channelId = part.channelId)) = some resolved.1
  fits : resolved.1.dir = part.dir
  described : ∃ win, taker windows part.buf part.bufLen = some win ∧
    Describes resolved.1 (win.image part.buf) part.bufLen part.frame resolved.2

-- Every descriptor comes before the first channel starts.
def telling (wait : Bool) (resolved : List (AxidmaChan × Prepared)) : List Told :=
  resolved.map (fun side => .submitted side.1.chan side.2)++(resolved.map (fun side => .issued side.1.chan)++
    if wait then (resolved.getLast?.map fun side => Told.completed side.1.chan).toList else [])

inductive Transfers (channels : List AxidmaChan) (windows : List (Window 64)) (parts : List Part) (wait : Bool) : Int → List Told → Prop where
  | carried {resolved : List (AxidmaChan × Prepared)} (all : List.Forall₂ (Resolves channels windows) parts resolved) :
      Transfers channels windows parts wait 0 (telling wait resolved)
  | refused {rc : Int} (failed : rc < 0) : Transfers channels windows parts wait rc []
  | stopped {rc : Int} {resolved : List (AxidmaChan × Prepared)} {told : List Told} {last : AxidmaChan × Prepared} (failed : rc < 0)
      (all : List.Forall₂ (Resolves channels windows) parts resolved) (begun : told <+: telling wait resolved) (one : last ∈ resolved) :
      Transfers channels windows parts wait rc (told++[.terminated last.1.chan])

-- Both frames of a two-way transfer are taken over when it transmits on a video channel.
def takenOver (channels : List AxidmaChan) (txChannelId : CInt) (frame : AxidmaVideoFrame) : Option AxidmaVideoFrame :=
  (channels.find? fun chan => decide (chan.channelId = txChannelId)).bind fun chan =>
    if chan.type = .vdma then some frame else none

def twoWayParts (channels : List AxidmaChan) (request : AxidmaInoutTransaction) : List Part :=
  [⟨request.txChannelId,.write,request.txBuf,request.txBufLen,takenOver channels request.txChannelId request.txFrame⟩,
    ⟨request.rxChannelId,.read,request.rxBuf,request.rxBufLen,takenOver channels request.txChannelId request.rxFrame⟩]

def transferOf (channels : List AxidmaChan) (cmd : CInt) : IoctlArg → Option (List Part × Bool)
  | .transaction request =>
    if cmd = AXIDMA_DMA_READ then some ([⟨request.channelId,.read,request.buf,request.bufLen,none⟩],request.wait)
    else if cmd = AXIDMA_DMA_WRITE then some ([⟨request.channelId,.write,request.buf,request.bufLen,none⟩],request.wait)
    else none
  | .inoutTransaction request =>
    if cmd = AXIDMA_DMA_READWRITE then some (twoWayParts channels request,request.wait) else none
  | _ => none

def displayOf (cmd : CInt) : IoctlArg → Option (UserVideoTransaction × AxidmaDir)
  | .videoTransaction request =>
    if cmd = AXIDMA_DMA_VIDEO_READ then some (request,.read)
    else if cmd = AXIDMA_DMA_VIDEO_WRITE then some (request,.write)
    else none
  | _ => none

-- Where the frames are is in the memory of the client, which is not part of this.
def Frames (request : UserVideoTransaction) (dir : AxidmaDir) : Prepared → Prop
  | .slaveSg _ _ _ _ => False
  | .interleaved template _ => template.srcStart = template.dstStart ∧ template.dir = axidmaToDmaDir dir ∧
      Extends request.frame template

-- A display that cannot be set up ends like one that can.
inductive Displays (channels : List AxidmaChan) (request : UserVideoTransaction) (dir : AxidmaDir) : Int → List Told → Prop where
  | refused {rc : Int} (failed : rc < 0) : Displays channels request dir rc []
  | nothing : Displays channels request dir 0 []
  | stopped {chan : AxidmaChan} (found : channels.find? (fun chan => decide (chan.channelId = request.channelId)) = some chan) :
      Displays channels request dir 0 [.terminated chan.chan]
  | begun {chan : AxidmaChan} {prepared : Prepared}
      (found : channels.find? (fun chan => decide (chan.channelId = request.channelId)) = some chan)
      (frames : Frames request dir prepared) : Displays channels request dir 0 [.submitted chan.chan prepared,.issued chan.chan]

def stops (cmd : CInt) : IoctlArg → Bool
  | .chan _ => decide (cmd = AXIDMA_STOP_DMA_CHANNEL)
  | _ => false

def PAGE_SIZE : Nat := 4096

def pageAlign (length : SizeT) : SizeT := BitVec.ofNat 64 ((length.toNat+(PAGE_SIZE-1))/PAGE_SIZE*PAGE_SIZE)

def touches (addr : UserAddr) (size : SizeT) (win : Window 64) : Bool :=
  decide (win.start < addr+size) && decide (addr < win.start+win.size)

def encloses (addr : UserAddr) (size : SizeT) (win : Window 64) : Bool :=
  decide (addr ≤ win.start) && decide (win.start+win.size ≤ addr+size)

def Heap.Whole (t : Heap) (addr : UserAddr) (size : SizeT) : Prop :=
  ∀ win ∈ t.live, touches addr size win = true → encloses addr size win = true

instance (t : Heap) (addr : UserAddr) (size : SizeT) : Decidable (t.Whole addr size) :=
  inferInstanceAs (Decidable (∀ win ∈ t.live, _))

def tableOf (channels : List AxidmaChan) : DriverTable where
  numChan := {
    numChannels := channels.length
    numDmaTxChannels := (idsOf channels (.dma,.write)).length
    numDmaRxChannels := (idsOf channels (.dma,.read)).length
    numVdmaTxChannels := (idsOf channels (.vdma,.write)).length
    numVdmaRxChannels := (idsOf channels (.vdma,.read)).length }
  channels := channels
  sized := rfl

-- What a client may count on. A munmap of part of a buffer and a range that is empty
-- or runs over the end of the address space are not covered: from there on anything
-- can come, which none stands for. What was registered stays registered.
def Allowed (channels : List AxidmaChan) (t : Heap) : (op : ProgramCall) → op.Reply → Option Heap → Prop
  | .mmap _ length,reply,after => (reply = none ∧ after = some t) ∨
      ∃ win larger, reply = some win.start ∧ win.size = pageAlign length ∧ after = some larger ∧ larger.live = win :: t.live ∧
        larger.lent = t.lent ∧ larger.log = t.log
  | .munmap addr length,rc,after =>
    if t.Whole addr (pageAlign length) then (rc < (0 : Int) ∧ after = some t) ∨
      (rc = (0 : Int) ∧ ∃ smaller, after = some smaller ∧ smaller.live = t.live.filter (fun win => !touches addr (pageAlign length) win) ∧
        smaller.lent = t.lent ∧ smaller.log = t.log)
    else after = none
  | .registerBuffer _ extBuf,rc,after => (rc < (0 : Int) ∧ after = some t) ∨
      (rc = (0 : Int) ∧ ∃ win : Window 64, win.start = extBuf.userAddr ∧ win.size = extBuf.size ∧
        after = some {t with lent := win :: t.lent})
  | .unregisterBuffer _ _,rc,after => rc < (0 : Int) ∧ after = some t
  | .library (.ioctl _ cmd arg),rc,after => match transferOf channels cmd arg with
    | some (parts,wait) =>
      if ∀ part ∈ parts, part.Proper then ∃ told, Transfers channels t.windows parts wait rc told ∧ after = some (t.tell told)
      else after = none
    | none => match displayOf cmd arg with
      | some (request,dir) => ∃ told, Displays channels request dir rc told ∧ after = some (t.tell told)
      | none =>
        if stops cmd arg = true then
          ∃ told, (rc < (0 : Int) ∧ told = [] ∨ ∃ chan ∈ channels, told = [.terminated chan.chan]) ∧ after = some (t.tell told)
        else after = none
  | .library (.getNumDmaChannels _),reply,after => (0 ≤ reply.1 → reply.2 = (tableOf channels).numChan) ∧ after = some t
  | .library (.getDmaChannels _ _),reply,after => (0 ≤ reply.1 → reply.2.1 = channels) ∧ after = some t
  | _,_,after => after = some t

structure Paired (channels : List AxidmaChan) (txChannel rxChannel : CInt) (input output : Window 64) (txLen rxLen : SizeT)
    (txFrame rxFrame : Option AxidmaVideoFrame) (tx rx : AxidmaChan × Prepared) : Prop where
  transmits : channels.find? (fun chan => decide (chan.channelId = txChannel)) = some tx.1 ∧ tx.1.dir = .write
  receives : channels.find? (fun chan => decide (chan.channelId = rxChannel)) = some rx.1 ∧ rx.1.dir = .read
  sent : Describes tx.1 input.base txLen (takenOver channels txChannel (LibraryTransfers.givenFrame txFrame)) tx.2
  received : Describes rx.1 output.base rxLen (takenOver channels txChannel (LibraryTransfers.givenFrame rxFrame)) rx.2

def pairTold (tx rx : AxidmaChan × Prepared) : List Told :=
  [.submitted tx.1.chan tx.2,.submitted rx.1.chan rx.2,.issued tx.1.chan,.issued rx.1.chan,.completed rx.1.chan]

def heapServer (channels : List AxidmaChan) : Server process (Option Heap) := fun s op reply after => match s with
  | some t => Allowed channels t op reply after
  | none => after = none

section
variable {α : Type} {channels : List AxidmaChan} {t : Heap} {post : Outcome Abort α → Option Heap → Prop}

@[simp] theorem tell_nothing (t : Heap) : t.tell [] = t := by simp [Heap.tell]

theorem pageAlign_covers {length : SizeT} (some : 0 < (pageAlign length).toNat) : length.toNat ≤ (pageAlign length).toNat := by
  have bound := length.isLt
  unfold pageAlign PAGE_SIZE at some ⊢
  rw [BitVec.toNat_ofNat] at some ⊢
  by_cases last : (length.toNat+(4096-1))/4096*4096 < 2^64
  · rw [Nat.mod_eq_of_lt last]
    omega
  · have full : (length.toNat+(4096-1))/4096*4096 = 2^64 := by omega
    rw [full,Nat.mod_self] at some
    exact absurd some (Nat.lt_irrefl 0)

theorem touches_iff {addr : UserAddr} {size : SizeT} {win : Window 64} (fits : addr.toNat+size.toNat < 2^64) (ends : win.EndFits) :
    touches addr size win = true ↔ win.start.toNat < addr.toNat+size.toNat ∧ addr.toNat < win.start.toNat+win.size.toNat := by
  simp only [touches,Bool.and_eq_true,decide_eq_true_eq,BitVec.lt_def,add_fits fits,add_fits ends]

theorem apart_symm : Std.Symm (Window.Apart (w := 64)) := ⟨fun _ _ => Window.Apart.symm⟩

theorem only_window {win other : Window 64} {n : Nat} (member : win ∈ t.live) (also : other ∈ t.live) (holds : win.Covers n)
    (holds' : other.Covers n) : win = other := by
  have := apart_symm
  apply Classical.byContradiction
  intro differ
  exact t.apart.forall member also differ n ⟨holds,holds'⟩

theorem untouched {win other : Window 64} (ends : win.EndFits) (ends' : other.EndFits) (some : 0 < win.size.toNat)
    (some' : 0 < other.size.toNat) (apart : win.Apart other) : touches win.start win.size other = false := by
  apply Bool.eq_false_iff.mpr
  intro touched
  obtain ⟨first,second⟩ := (touches_iff ends ends').mp touched
  refine apart (max win.start.toNat other.start.toNat) ⟨⟨Nat.le_max_left _ _,?_⟩,⟨Nat.le_max_right _ _,?_⟩⟩
  · omega
  · omega

theorem left_over {win : Window 64} {others : List (Window 64)} (owned : t.live.Perm (win :: others)) :
    t.Whole win.start win.size ∧ (t.live.filter fun other => !touches win.start win.size other).Perm others := by
  have := apart_symm
  have apart := (owned.pairwise_iff (fun apart => apart_symm.symm _ _ apart)).mp t.apart
  have fits : ∀ other ∈ win :: others, 0 < other.size.toNat ∧ other.EndFits := fun other member => t.fits other (owned.mem_iff.mpr member)
  obtain ⟨some,ends⟩ := fits win List.mem_cons_self
  have away : ∀ other ∈ others, touches win.start win.size other = false := by
    intro other member
    obtain ⟨some',ends'⟩ := fits other (List.mem_cons_of_mem _ member)
    exact untouched ends ends' some some' ((List.pairwise_cons.mp apart).1 other member)
  have own : touches win.start win.size win = true := (touches_iff ends ends).mpr (by omega)
  constructor
  · intro other member touched
    rcases List.mem_cons.mp (owned.mem_iff.mp member) with rfl | later
    · simp [encloses]
    · rw [away other later] at touched
      cases touched
  · refine (owned.filter _).trans ?_
    rw [List.filter_cons,own]
    have kept : (others.filter fun other => !touches win.start win.size other) = others := by
      apply List.filter_eq_self.mpr
      intro other member
      rw [away other member]
      rfl
    rw [kept]
    exact .refl _

def Elsewhere : LibraryCall → Prop
  | .ioctl _ _ _ => False
  | _ => True

def Aside : ProgramCall → Prop
  | .mmap _ _ => False
  | .munmap _ _ => False
  | .registerBuffer _ _ => False
  | .unregisterBuffer _ _ => False
  | .library op => Elsewhere op
  | _ => True

theorem aside_same {op : ProgramCall} {reply : op.Reply} {after : Option Heap} (aside : Aside op)
    (allowed : Allowed channels t op reply after) : after = some t := by
  cases op with
  | mmap fd length => exact aside.elim
  | munmap addr length => exact aside.elim
  | registerBuffer fd extBuf => exact aside.elim
  | unregisterBuffer fd userAddr => exact aside.elim
  | library op =>
    cases op with
    | ioctl fd cmd arg => exact aside.elim
    | getNumDmaChannels fd => exact allowed.2
    | getDmaChannels fd count => exact allowed.2
    | _ => exact allowed
  | _ => exact allowed

theorem does_inProgram {p : Library α} {ends : Outcome Abort α → Prop} (does : Does Elsewhere (fun outcome => ends (ofLibrary outcome)) p) :
    Does Aside ends (inProgram p) := by
  induction p with
  | ret value => exact does
  | fault error => exact does
  | call op next ih => exact ⟨does.1,fun reply _ => ih reply (does.2 reply trivial)⟩

theorem aside_ends {p : Program α} {ends : Outcome Abort α → Prop} (does : Does Aside ends p)
    (after : ∀ outcome, ends outcome → post outcome (some t)) : Promises (heapServer channels) post p (some t) := by
  induction p with
  | ret value => exact after _ does
  | fault error => exact after _ does
  | call op next ih =>
    intro reply middle allowed
    rw [aside_same does.1 allowed]
    exact ih reply (does.2 reply trivial)

theorem aside_then {β : Type} {p : Program β} {ends : Outcome Abort β → Prop} {rest : β → Program α} (does : Does Aside ends p)
    (aborted : ∀ error after, post (.faulted error) after)
    (next : ∀ value, ends (.returned value) → Promises (heapServer channels) post (rest value) (some t)) :
    Promises (heapServer channels) post (p >>= rest) (some t) := by
  refine promises_bind (aside_ends does ?_)
  intro outcome ended
  cases outcome with
  | returned value => exact next value ended
  | faulted error => exact aborted error _

def onLibrary {σ : Type} (server : Server process σ) : Server libc σ := fun s op reply after => server s (.library op) reply after

theorem promises_inProgram {σ : Type} {server : Server process σ} {s : σ} {p : Library α} {post : Outcome Abort α → σ → Prop}
    (promises : Promises (onLibrary server) (fun outcome after => post (ofLibrary outcome) after) p s) :
    Promises server post (inProgram p) s := by
  induction p generalizing s with
  | ret value => exact promises
  | fault error => exact promises
  | call op next ih => exact fun reply middle served => ih reply (promises reply middle served)

-- Away from the ioctls, the library finds the surroundings that its sessions have.
theorem sessions_promise {p : Library α} {ends : Outcome LibraryFault α → Prop} (does : Does Elsewhere (fun _ => True) p)
    (ensures : Ensures (surroundings (tableOf channels)) (fun outcome _ => ends outcome) p ()) :
    Promises (onLibrary (heapServer channels)) (fun outcome after => ends outcome ∧ after = some t) p (some t) := by
  induction p with
  | ret value => exact ⟨ensures,rfl⟩
  | fault error => exact ⟨ensures,rfl⟩
  | call op next ih =>
    intro reply after allowed
    have aside : Aside (.library op) := does.1
    rw [aside_same aside allowed]
    refine ih reply (does.2 reply trivial) (ensures reply ?_)
    cases op with
    | getNumDmaChannels fd => exact allowed.1
    | getDmaChannels fd count => exact allowed.1
    | _ => trivial

theorem map_then {dev : AxidmaDev} {size : SizeT} {rest : Option UserAddr → Program α}
    (failed : Promises (heapServer channels) post (rest none) (some t))
    (got : ∀ win (larger : Heap), win.size = pageAlign size → larger.live = win :: t.live → larger.log = t.log →
      Promises (heapServer channels) post (rest (some win.start)) (some larger)) :
    Promises (heapServer channels) post (axidmaMalloc dev size >>= rest) (some t) := by
  intro reply after allowed
  rcases allowed with ⟨rfl,rfl⟩ | ⟨win,larger,rfl,sized,rfl,live,_,log⟩
  · exact failed
  · exact got win larger sized live log

theorem unmap_then {win : Window 64} {others : List (Window 64)} {size : SizeT} {rest : Unit → Program α}
    (aborted : ∀ error after, post (.faulted error) after) (owned : t.live.Perm (win :: others)) (sized : win.size = pageAlign size)
    (next : ∀ smaller : Heap, smaller.live.Perm others → smaller.log = t.log → Promises (heapServer channels) post (rest ()) (some smaller)) :
    Promises (heapServer channels) post (axidmaFree win.start size >>= rest) (some t) := by
  obtain ⟨whole,remains⟩ := left_over owned
  refine promises_bind ?_
  unfold axidmaFree
  intro rc after allowed
  simp only [heapServer,Allowed,← sized,if_pos whole] at allowed
  rcases allowed with ⟨failed,_⟩ | ⟨rfl,smaller,rfl,live,_,log⟩
  · exact promises_if (fun _ => aborted _ _) fun fine => absurd failed fine
  · exact next smaller (live ▸ remains) log

-- Where the result of munmap is not looked at, the buffer may stay.
theorem unmap_either {win : Window 64} {others : List (Window 64)} {size : SizeT} {rest : Int → Program α}
    (owned : t.live.Perm (win :: others)) (sized : win.size = pageAlign size)
    (next : ∀ rc (after : Heap), after.live.Perm others ∨ after.live = t.live → after.log = t.log →
      Promises (heapServer channels) post (rest rc) (some after)) :
    Promises (heapServer channels) post (pcall (.munmap win.start size) >>= rest) (some t) := by
  obtain ⟨whole,remains⟩ := left_over owned
  intro rc after allowed
  simp only [heapServer,Allowed,← sized,if_pos whole] at allowed
  rcases allowed with ⟨_,rfl⟩ | ⟨rfl,smaller,rfl,live,_,log⟩
  · exact next rc t (.inr rfl) rfl
  · exact next 0 smaller (.inl (live ▸ remains)) log

theorem display_then {fd : Int} {cmd : CInt} {arg : IoctlArg} {request : UserVideoTransaction} {dir : AxidmaDir} {rest : Int → Program α}
    (other : transferOf channels cmd arg = none) (shown : displayOf cmd arg = some (request,dir))
    (next : ∀ rc told, Displays channels request dir rc told → Promises (heapServer channels) post (rest rc) (some (t.tell told))) :
    Promises (heapServer channels) post (inProgram (lcall (.ioctl fd cmd arg)) >>= rest) (some t) := by
  intro rc after allowed
  simp only [heapServer,Allowed,other,shown] at allowed
  obtain ⟨told,displays,rfl⟩ := allowed
  exact next rc told displays

theorem stop_then {fd : Int} {chanInfo : AxidmaChan} {rest : Int → Program α}
    (refused : ∀ rc, rc < 0 → Promises (heapServer channels) post (rest rc) (some t))
    (stopped : ∀ rc, ∀ chan ∈ channels, Promises (heapServer channels) post (rest rc) (some (t.tell [.terminated chan.chan]))) :
    Promises (heapServer channels) post (inProgram (lcall (.ioctl fd AXIDMA_STOP_DMA_CHANNEL (.chan chanInfo))) >>= rest) (some t) := by
  intro rc after allowed
  obtain ⟨told,⟨failed,rfl⟩ | ⟨chan,member,rfl⟩,rfl⟩ := allowed
  · rw [tell_nothing]
    exact refused rc failed
  · exact stopped rc chan member

theorem transfer_then {β : Type} {fd : Int} {cmd : CInt} {arg : IoctlArg} {parts : List Part} {wait : Bool} {rest : Int → Library β}
    {ends : Outcome LibraryFault β → Option Heap → Prop} (asked : transferOf channels cmd arg = some (parts,wait))
    (proper : ∀ part ∈ parts, part.Proper)
    (next : ∀ rc told, Transfers channels t.windows parts wait rc told →
      Promises (onLibrary (heapServer channels)) ends (rest rc) (some (t.tell told))) :
    Promises (onLibrary (heapServer channels)) ends (.call (.ioctl fd cmd arg) rest) (some t) := by
  intro rc after allowed
  simp only [onLibrary,heapServer,Allowed,asked,if_pos proper] at allowed
  obtain ⟨told,transfers,rfl⟩ := allowed
  exact next rc told transfers

theorem twoway_then {lib : AxidmaDev} {txChannel rxChannel : CInt} {txBuf rxBuf : UserAddr} {txLen rxLen : SizeT}
    {txFrame rxFrame : Option AxidmaVideoFrame} {wait : Bool} {rest : Int → Program α}
    (aborted : ∀ error after, post (.faulted error) after)
    (proper : ∀ frame, Part.Proper ⟨txChannel,.write,txBuf,txLen,frame⟩ ∧ Part.Proper ⟨rxChannel,.read,rxBuf,rxLen,frame⟩)
    (next : ∀ rc told, Transfers channels t.windows
      [⟨txChannel,.write,txBuf,txLen,takenOver channels txChannel (LibraryTransfers.givenFrame txFrame)⟩,
        ⟨rxChannel,.read,rxBuf,rxLen,takenOver channels txChannel (LibraryTransfers.givenFrame rxFrame)⟩] wait rc told →
      Promises (heapServer channels) post (rest rc) (some (t.tell told))) :
    Promises (heapServer channels) post (inProgram (LibraryTransfers.axidmaTwowayTransfer lib txChannel txBuf txLen txFrame
      rxChannel rxBuf rxLen rxFrame wait) >>= rest) (some t) := by
  refine promises_bind (promises_inProgram ?_)
  unfold LibraryTransfers.axidmaTwowayTransfer
  cases findChannel lib txChannel with
  | none => exact aborted _ _
  | some txChan =>
    refine promises_if (fun _ => aborted _ _) fun _ => ?_
    cases findChannel lib rxChannel with
    | none => exact aborted _ _
    | some rxChan =>
      refine promises_if (fun _ => aborted _ _) fun _ => ?_
      refine transfer_then rfl ?_ next
      intro part member
      rcases List.mem_pair.mp member with rfl | rfl
      · exact (proper _).1
      · exact (proper _).2

end

section
variable {channels : List AxidmaChan} {t : Heap} {dev : AxidmaDev}

theorem categorize_elsewhere {table : List AxidmaChan} {numChan : AxidmaNumChannels} :
    Does Elsewhere (fun _ => True) (categorizeChannels dev table numChan) := by
  unfold categorizeChannels
  refine ⟨trivial,fun _ _ => does_if (fun _ => trivial) fun _ => ⟨trivial,fun _ _ => does_if (fun _ => ?_) fun _ => ?_⟩⟩
  · exact ⟨trivial,fun _ _ => trivial⟩
  refine ⟨trivial,fun _ _ => does_if (fun _ => ?_) fun _ => ?_⟩
  · exact ⟨trivial,fun _ _ => ⟨trivial,fun _ _ => trivial⟩⟩
  refine ⟨trivial,fun _ _ => does_if (fun _ => ?_) fun _ => ?_⟩
  · exact ⟨trivial,fun _ _ => ⟨trivial,fun _ _ => ⟨trivial,fun _ _ => trivial⟩⟩⟩
  refine ⟨trivial,fun _ _ => does_if (fun _ => ?_) fun _ => trivial⟩
  exact ⟨trivial,fun _ _ => ⟨trivial,fun _ _ => ⟨trivial,fun _ _ => ⟨trivial,fun _ _ => trivial⟩⟩⟩⟩

theorem probe_elsewhere : Does Elsewhere (fun _ => True) (probeChannels dev) := by
  unfold probeChannels
  refine ⟨trivial,fun _ _ => does_if (fun _ => trivial) fun _ => does_if (fun _ => trivial) fun _ => ?_⟩
  refine ⟨trivial,fun _ _ => does_if (fun _ => trivial) fun _ => ⟨trivial,fun _ _ => does_if (fun _ => ?_) fun _ => ?_⟩⟩
  · exact ⟨trivial,fun _ _ => trivial⟩
  · exact does_bind categorize_elsewhere (fun _ _ => ⟨trivial,fun _ _ => trivial⟩) fun _ _ => trivial

theorem setup_elsewhere : Does Elsewhere (fun _ => True) (setupDmaCallback dev) :=
  ⟨trivial,fun _ _ => does_if (fun _ => trivial) fun _ => ⟨trivial,fun _ _ => does_if (fun _ => trivial) fun _ => trivial⟩⟩

theorem init_elsewhere : Does Elsewhere (fun _ => True) (axidmaInit dev) := by
  unfold axidmaInit
  refine does_if (fun _ => trivial) fun _ => ⟨trivial,fun _ _ => does_if (fun _ => trivial) fun _ => ?_⟩
  refine does_bind probe_elsewhere (fun _ _ => does_if (fun _ => ⟨trivial,fun _ _ => trivial⟩) fun _ => ?_) fun _ _ => trivial
  exact does_bind setup_elsewhere (fun _ _ => does_if (fun _ => ⟨trivial,fun _ _ => trivial⟩) fun _ => trivial) fun _ _ => trivial

theorem destroy_elsewhere : Does Elsewhere (fun _ => True) (axidmaDestroy dev) := by
  unfold axidmaDestroy
  refine ⟨trivial,fun _ _ => ⟨trivial,fun _ _ => ⟨trivial,fun _ _ => ⟨trivial,fun _ _ => ⟨trivial,fun _ _ => ?_⟩⟩⟩⟩⟩
  exact ⟨trivial,fun _ _ => does_if (fun _ => trivial) fun _ => trivial⟩

theorem elsewhere_aside {α : Type} {p : Library α} (does : Does Elsewhere (fun _ => True) p) :
    Does Aside (fun _ => True) (inProgram p) := does_inProgram does

theorem pcall_aside {op : ProgramCall} (aside : Aside op) : Does Aside (fun _ => True) (pcall op) := ⟨aside,fun _ _ => trivial⟩

def Returns (rc : Int) (outcome : Outcome Abort Int) : Prop := ∀ value, outcome = .returned value → value = rc

theorem returns_self (rc : Int) : Returns rc (.returned rc) := by
  intro value same
  cases same
  rfl

theorem returns_fault {rc : Int} (error : Abort) : Returns rc (.faulted error) := by
  intro value same
  cases same

theorem pageAlign_zero {length : SizeT} (some : 0 < (pageAlign length).toNat) : 0 < length.toNat := by
  apply Nat.pos_of_ne_zero
  intro zero
  have none : pageAlign length = 0 := by rw [pageAlign,zero]; rfl
  rw [none] at some
  exact absurd some (Nat.lt_irrefl 0)

theorem whole_proper {win : Window 64} {id : CInt} {dir : AxidmaDir} {len : SizeT} {frame : Option AxidmaVideoFrame}
    (member : win ∈ t.live) (sized : win.size = pageAlign len) : Part.Proper ⟨id,dir,win.start,len,frame⟩ := by
  obtain ⟨some,ends⟩ := t.fits win member
  rw [sized] at some
  have covers := pageAlign_covers some
  have ends : win.start.toNat+win.size.toNat < 2^64 := ends
  rw [sized] at ends
  exact ⟨pageAlign_zero some,Nat.lt_of_le_of_lt (Nat.add_le_add_left covers _) ends⟩

theorem own_taken {win : Window 64} {addr : UserAddr} {len : SizeT} (member : win ∈ t.live) (some : 0 < len.toNat)
    (holds : win.Contains addr len) : taker t.windows addr len = .some win := by
  have taken : decide (win.EndFits ∧ win.Contains addr len) = true := decide_eq_true ⟨(t.fits win member).2,holds⟩
  rw [taker,Heap.windows,List.find?_append]
  cases found : t.live.find? fun win => decide (win.EndFits ∧ win.Contains addr len) with
  | none => exact absurd taken (List.find?_eq_none.mp found win member)
  | some other =>
    obtain ⟨_,holds'⟩ := of_decide_eq_true (List.find?_some found :)
    have same := only_window member (List.mem_of_find?_eq_some found) ⟨holds.1,by have := holds.2; omega⟩
      (⟨holds'.1,by have := holds'.2; omega⟩ : other.Covers addr.toNat)
    rw [same]
    rfl

theorem whole_described {win : Window 64} {id : CInt} {dir : AxidmaDir} {len : SizeT} {frame : Option AxidmaVideoFrame}
    {side : AxidmaChan × Prepared} (member : win ∈ t.live) (sized : win.size = pageAlign len)
    (resolves : Resolves channels t.windows ⟨id,dir,win.start,len,frame⟩ side) : Describes side.1 win.base len frame side.2 := by
  obtain ⟨some,_⟩ := t.fits win member
  rw [sized] at some
  have covers : len.toNat ≤ win.size.toNat := sized ▸ pageAlign_covers some
  obtain ⟨other,taken,describes⟩ := resolves.described
  rw [own_taken member (pageAlign_zero some) ⟨Nat.le_refl _,Nat.add_le_add_left covers _⟩] at taken
  obtain rfl := Option.some.inj taken
  have base : win.image win.start = win.base := by simp [Window.image]
  exact base ▸ describes

theorem carried_paired {txChannel rxChannel : CInt} {input output : Window 64} {txLen rxLen : SizeT}
    {txFrame rxFrame : Option AxidmaVideoFrame} {rc : Int} {told : List Told} (sending : input ∈ t.live) (receiving : output ∈ t.live)
    (sized : input.size = pageAlign txLen) (sized' : output.size = pageAlign rxLen) (transfers : Transfers channels t.windows
      [⟨txChannel,.write,input.start,txLen,takenOver channels txChannel (LibraryTransfers.givenFrame txFrame)⟩,
        ⟨rxChannel,.read,output.start,rxLen,takenOver channels txChannel (LibraryTransfers.givenFrame rxFrame)⟩] true rc told)
    (fine : ¬ rc < 0) :
    ∃ tx rx, Paired channels txChannel rxChannel input output txLen rxLen txFrame rxFrame tx rx ∧ told = pairTold tx rx := by
  cases transfers with
  | refused failed => exact absurd failed fine
  | stopped failed => exact absurd failed fine
  | @carried resolved all =>
    cases all with
    | @cons _ tx _ _ sent rest =>
    cases rest with
    | @cons _ rx _ _ received rest =>
    cases rest with
    | nil =>
      exact ⟨tx,rx,⟨⟨sent.found,sent.fits⟩,⟨received.found,received.fits⟩,whole_described sending sized sent,
        whole_described receiving sized' received⟩,rfl⟩

theorem choose_aside {txChannel rxChannel : CInt} {txChans rxChans : ArrayT} :
    Does Aside (fun outcome => ∀ channels, outcome = .returned channels → txChannel ≠ -1 ∨ rxChannel ≠ -1 →
      channels = (txChannel,rxChannel)) (chooseChannels txChannel rxChannel txChans rxChans) := by
  unfold chooseChannels firstId
  apply does_if
  · intro neither
    have given : ¬ (txChannel ≠ -1 ∨ rxChannel ≠ -1) := by
      rintro (other | other)
      · exact other neither.1
      · exact other neither.2
    cases txChans.data[0]?.join with
    | none => exact fun _ _ some => absurd some given
    | some txChannel =>
      cases rxChans.data[0]?.join with
      | none => exact fun _ _ some => absurd some given
      | some rxChannel => exact fun _ _ some => absurd some given
  · intro _ channels same _
    cases same
    rfl

end

end Axidma.DmaHeap
