import Mathlib.Data.List.Nodup
import Axidma.Categories
import Axidma.Interdma
import Axidma.ServedTransfers
import Axidma.GrantingKernel

namespace Axidma.DrivenInterdma
open Interaction WordRange
open LibrarySessions BitPacking FrameTransmission ClientPrograms DmaHeap DriverServer ServedTransfers Interdma
open ReceivedDump (MAX_SIZE)

-- What the engine hears of a transfer in one direction that is not waited for.
inductive OnewayTold (chan : AxidmaChan) (base : DmaAddr) (len : SizeT) : List Told → Prop where
  | refused : OnewayTold chan base len []
  | begun {prepared : Prepared} (describes : Describes chan base len none prepared) :
      OnewayTold chan base len [.submitted chan.chan prepared,.issued chan.chan]
  | stopped {prepared : Prepared} {told : List Told} (describes : Describes chan base len none prepared)
      (first : told <+: [.submitted chan.chan prepared,.issued chan.chan]) : OnewayTold chan base len (told++[.terminated chan.chan])

-- The first channels of the two kinds, and the two buffers of MAX_SIZE bytes.
structure Setting (channels : List AxidmaChan) (m : Started) (tx rx : AxidmaChan) (input output : Window 64) : Prop where
  transmits : channels.find? (fun chan => decide ((chan.type,chan.dir) = (.dma,.write))) = some tx
  receives : channels.find? (fun chan => decide ((chan.type,chan.dir) = (.dma,.read))) = some rx
  txChannel : m.txChannel = tx.channelId
  rxChannel : m.rxChannel = rx.channelId
  txBuf : m.txBuf = input.start
  rxBuf : m.rxBuf = output.start
  inputSize : input.size = pageAlign (BitVec.ofInt 64 MAX_SIZE)
  outputSize : output.size = pageAlign (BitVec.ofInt 64 MAX_SIZE)

-- The log of so many frames and so many receptions: every frame in its turn, from the
-- start of the one buffer, and whole receptions into the other.
inductive Sends (chance : Chance) (tx rx : AxidmaChan) (input output : Window 64) : Nat → Nat → List Told → Prop where
  | nothing : Sends chance tx rx input output 0 0 []
  | frame {n k : Nat} {log told : List Told} {msf : FrameHeader.Mm2sF} (before : Sends chance tx rx input output n k log)
      (chosen : sent chance.rand chance.times (n+1) = some msf) (inside : ((8+704*blocks msf : Nat) : Int) ≤ MAX_SIZE)
      (oneway : OnewayTold tx input.base (BitVec.ofNat 64 (8+704*blocks msf)) told) :
      Sends chance tx rx input output (n+1) k (log++told)
  | reception {n k : Nat} {log told : List Told} (before : Sends chance tx rx input output n k log)
      (oneway : OnewayTold rx output.base (BitVec.ofInt 64 MAX_SIZE) told) : Sends chance tx rx input output n (k+1) (log++told)

inductive MainHeap (channels : List AxidmaChan) (t : Heap) : Outcome Abort Ending → Option Heap → Prop where
  | exits {rc : Int} {after : Heap} (unmapped : after.live.Perm t.live) (silent : after.log = t.log) :
      MainHeap channels t (.returned (.exits rc)) (some after)
  | runs {m : Started} {tx rx : AxidmaChan} {input output : Window 64} {after : Heap} (setting : Setting channels m tx rx input output)
      (live : after.live = output :: input :: t.live) (silent : after.log = t.log) :
      MainHeap channels t (.returned (.runs m)) (some after)
  | aborted {error : Abort} {after : Option Heap} : MainHeap channels t (.faulted error) after

section
variable {channels : List AxidmaChan} {t origin : Heap} {dev : AxidmaDev} {input output : Window 64} {rc garbage : Int}

theorem destroyAxidma_heap (unmapped : t.live.Perm origin.live) (silent : t.log = origin.log) :
    Promises (heapServer channels) (MainHeap channels origin) (destroyAxidma dev rc) (some t) :=
  aside_then (elsewhere_aside destroy_elsewhere) (fun _ _ => .aborted) fun _ _ => .exits unmapped silent

theorem freeTxBuf_heap (owned : t.live.Perm (input :: origin.live)) (sized : input.size = pageAlign initArgs.txSize)
    (silent : t.log = origin.log) :
    Promises (heapServer channels) (MainHeap channels origin) (freeTxBuf dev initArgs input.start rc) (some t) :=
  unmap_then (fun _ _ => .aborted) owned sized fun _ owned log => destroyAxidma_heap owned (log.trans silent)

theorem freeRxBuf_heap (live : t.live = output :: input :: origin.live) (sized : input.size = pageAlign initArgs.txSize)
    (sized' : output.size = pageAlign initArgs.rxSize) (silent : t.log = origin.log) :
    Promises (heapServer channels) (MainHeap channels origin) (freeRxBuf dev initArgs input.start output.start rc) (some t) :=
  unmap_then (fun _ _ => .aborted) (live ▸ .refl _) sized' fun _ owned log => freeTxBuf_heap owned sized (log.trans silent)

-- The first id in an array of a handle is that of the first channel of the kind.
theorem first_channel {array : ArrayT} {kind : Kind} {id : CInt} (held : contents array = (idsOf channels kind).map some)
    (some : ¬ array.len < 1) (first : array.data[0]?.join = .some id) :
    ∃ chan, channels.find? (fun chan => decide ((chan.type,chan.dir) = kind)) = .some chan ∧ id = chan.channelId := by
  have cell := congrArg (·[0]?) held
  simp only [contents,List.getElem?_take_of_lt (Nat.lt_of_lt_of_le Nat.zero_lt_one (Nat.not_lt.mp some)),
    ← List.head?_eq_getElem?,idsOf,List.head?_map,List.head?_filter] at cell
  cases found : channels.find? fun chan => decide ((chan.type,chan.dir) = kind) with
  | none =>
    rw [found] at cell
    rw [← List.head?_eq_getElem?,cell] at first
    cases first
  | some chan =>
    rw [found] at cell
    rw [← List.head?_eq_getElem?,cell] at first
    cases first
    exact ⟨chan,rfl,rfl⟩

theorem chosen_first {txChans rxChans : ArrayT} : Does Aside (fun outcome => ∀ chosen, outcome = .returned chosen →
    txChans.data[0]?.join = some chosen.1 ∧ rxChans.data[0]?.join = some chosen.2) (chooseChannels (-1) (-1) txChans rxChans) := by
  unfold chooseChannels firstId
  rw [if_pos ⟨rfl,rfl⟩]
  cases firstTx : txChans.data[0]?.join with
  | none => exact fun _ same => by cases same
  | some txChannel =>
    cases firstRx : rxChans.data[0]?.join with
    | none => exact fun _ same => by cases same
    | some rxChannel =>
      intro chosen same
      cases same
      exact ⟨rfl,rfl⟩

theorem setCallback_heap {α : Type} {post : Outcome Abort α → Option Heap → Prop} {channel : CInt} {callback : Option Nat} {data : Nat}
    {rest : AxidmaDev → Program α} (aborted : ∀ error after, post (.faulted error) after)
    (next : ∀ lib, Promises (heapServer channels) post (rest lib) (some t)) :
    Promises (heapServer channels) post (inProgram (axidmaSetCallback dev channel callback data) >>= rest) (some t) := by
  unfold axidmaSetCallback
  cases findChannel dev channel with
  | none => exact aborted _ _
  | some _ =>
    by_cases inside : 0 ≤ channel.toInt ∧ channel.toInt < dev.channels.length
    · rw [if_pos inside]
      exact next _
    · rw [if_neg inside]
      exact aborted _ _

theorem withBuffers_heap (ids : ∀ kind, contents (array dev kind) = (idsOf channels kind).map some)
    (live : t.live = output :: input :: origin.live) (sized : input.size = pageAlign initArgs.txSize)
    (sized' : output.size = pageAlign initArgs.rxSize) (silent : t.log = origin.log) :
    Promises (heapServer channels) (MainHeap channels origin) (withBuffers dev initArgs garbage input.start output.start) (some t) := by
  have aborted : ∀ error after, MainHeap channels origin (.faulted error) after := fun _ _ => .aborted
  have freed : ∀ (lib : AxidmaDev) (rc : Int), Promises (heapServer channels) (MainHeap channels origin)
      (freeRxBuf lib initArgs input.start output.start rc) (some t) := fun _ _ => freeRxBuf_heap live sized sized' silent
  unfold withBuffers
  refine promises_if (fun _ => freed _ _) fun someTx => promises_if (fun _ => freed _ _) fun someRx => ?_
  refine aside_then chosen_first aborted fun chosen first => ?_
  obtain ⟨txChannel,rxChannel⟩ := chosen
  obtain ⟨firstTx,firstRx⟩ := first _ rfl
  obtain ⟨tx,transmits,idTx⟩ := first_channel (ids (.dma,.write)) someTx firstTx
  obtain ⟨rx,receives,idRx⟩ := first_channel (ids (.dma,.read)) someRx firstRx
  refine aside_then (@pcall_aside (.malloc 4) trivial) aborted fun pTxcall _ => ?_
  cases pTxcall with
  | none => exact .aborted
  | some pTxcall =>
    refine setCallback_heap aborted fun lib => setCallback_heap aborted fun last => ?_
    refine aside_then (@pcall_aside .pthreadCreate trivial) aborted fun ret _ => ?_
    refine promises_if (fun _ => freed _ _) fun _ => ?_
    exact .runs ⟨transmits,receives,idTx,idRx,rfl,rfl,sized,sized'⟩ live silent

theorem table_counted : Categories.Counted channels (tableOf channels).numChan where
  total := rfl
  kinds := by
    intro kind
    rcases kind with ⟨_ | _,_ | _⟩ <;> rfl

theorem main_heap : Promises (heapServer channels) (MainHeap channels t) (main garbage) (some t) := by
  have aborted : ∀ error after, MainHeap channels t (.faulted error) after := fun _ _ => .aborted
  unfold main
  refine promises_bind (promises_inProgram ((sessions_promise init_elsewhere init_ends).mono ?_))
  rintro outcome after ⟨attempted,rfl⟩
  cases attempted with
  | aborted _ => exact .aborted
  | refused _ => exact .exits (.refl _) rfl
  | filled _ => exact .exits (.refl _) rfl
  | @succeeded fd _ =>
    have ids := (Categories.built_partitioned fd (@table_counted channels)).ids
    refine map_then (destroyAxidma_heap (.refl _) rfl) fun input t1 sized1 live1 log1 => ?_
    have owned1 : t1.live.Perm (input :: t.live) := live1 ▸ .refl _
    refine map_then (freeTxBuf_heap owned1 sized1 log1) fun output t2 sized2 live2 log2 => ?_
    refine withBuffers_heap (fun kind => ?_) (live2.trans (congrArg _ live1)) sized1 sized2 (log2.trans log1)
    rcases kind with ⟨_ | _,_ | _⟩
    · exact ids (.dma,.write)
    · exact ids (.dma,.read)
    · exact ids (.vdma,.write)
    · exact ids (.vdma,.read)

theorem oneway_told {windows : List (Window 64)} {part : Part} {chan : AxidmaChan} {win : Window 64} {rc : Int} {told : List Told}
    (distinct : (channels.map (·.channelId)).Nodup) (member : chan ∈ channels) (id : part.channelId = chan.channelId)
    (unframed : part.frame = none) (taken : taker windows part.buf part.bufLen = some win)
    (transfers : Transfers channels windows [part] false rc told) : OnewayTold chan (win.image part.buf) part.bufLen told := by
  have only : ∀ {resolved : List (AxidmaChan × Prepared)}, List.Forall₂ (Resolves channels windows) [part] resolved →
      ∃ prepared, resolved = [(chan,prepared)] ∧ Describes chan (win.image part.buf) part.bufLen none prepared := by
    intro resolved all
    cases all with
    | @cons _ side _ _ resolves none =>
      cases none
      obtain ⟨other,prepared⟩ := side
      obtain ⟨win',taken',describes⟩ := resolves.described
      obtain rfl := Option.some.inj (taken.symm.trans taken')
      have found := resolves.found
      have same : other.channelId = chan.channelId := (of_decide_eq_true (List.find?_some found :)).trans id
      obtain rfl := List.inj_on_of_nodup_map distinct (List.mem_of_find?_eq_some found) member same
      exact ⟨prepared,rfl,unframed ▸ describes⟩
  cases transfers with
  | carried all =>
    obtain ⟨prepared,rfl,describes⟩ := only all
    exact .begun describes
  | refused _ => exact .refused
  | stopped _ all begun one =>
    obtain ⟨prepared,rfl,describes⟩ := only all
    obtain rfl := List.mem_singleton.mp one
    exact .stopped describes begun

theorem chosen_inRange {flag : CInt} {rand : Rand} {first second : Seed} {msf : FrameHeader.Mm2sF}
    (chosen : chooseFrame flag rand first second = some msf) : InRange msf := by
  unfold chooseFrame at chosen
  split_ifs at chosen
  · obtain ⟨drawn,made,ranges⟩ := @random_drawn rand first second
    obtain rfl := Option.some.inj (made.symm.trans chosen)
    exact ⟨ranges.mb.1 ▸ ranges.mb.2,ranges.ldpcNum⟩
  · cases chosen
    exact ⟨by decide,by decide⟩
  · cases chosen
    exact ⟨by decide,by decide⟩

-- Every frame is sent in its whole length, even once the counter has wrapped.
theorem sent_length {chance : Chance} {n : Nat} {msf : FrameHeader.Mm2sF} {held : Buffer}
    (chosen : sent chance.rand chance.times (n+1) = some msf) :
    (fillFrame chance.signed msf (chance.scratch n) (RecordedBuffer.fresh held)).2 = BitVec.ofNat 64 (8+704*blocks msf) ∧
      ((8+704*blocks msf : Nat) : Int) ≤ MAX_SIZE := by
  have framed : Framed chance.signed msf (chance.scratch n) held := frame_framed (chosen_inRange chosen)
  refine ⟨?_,framed.fits⟩
  rw [← framed.length,BitVec.ofNat_toNat,BitVec.setWidth_eq]

end

section
variable {channels : List AxidmaChan} {chance : Chance} {m : Started} {tx rx : AxidmaChan} {input output : Window 64}

-- The one call of a round that the driver sees, for the round after the first n.
def Asks (chance : Chance) (m : Started) (n : Nat) : Side → Part → Prop
  | .udpRecv,part => ∃ msf, sent chance.rand chance.times (n+1) = some msf ∧ ((8+704*blocks msf : Nat) : Int) ≤ MAX_SIZE ∧
      part.channelId = m.txChannel ∧ part.buf = m.txBuf ∧ part.bufLen = BitVec.ofNat 64 (8+704*blocks msf)
  | .main,part => part.channelId = m.rxChannel ∧ part.buf = m.rxBuf ∧ part.bufLen = BitVec.ofInt 64 MAX_SIZE

def looping (chance : Chance) (m : Started) (side : Side) : Protocol process Nat where
  admits := fun n op => match op with
    | .library (.ioctl _ cmd arg) => ∃ part, (∀ channels, transferOf channels cmd arg = some ([part],false)) ∧ part.frame = none ∧
        Asks chance m n side part
    | op => Aside op
  advance := fun n op _ => match op with
    | .library (.ioctl _ _ _) => n+1
    | _ => n

def Streaming (chance : Chance) (tx rx : AxidmaChan) (input output : Window 64) (counts : Side → Nat) (state : Option Heap) : Prop :=
  ∃ t, state = some t ∧ t.live = [output,input] ∧ Sends chance tx rx input output (counts .udpRecv) (counts .main) t.log

theorem oneway_loops {side : Side} {n : Nat} {channel : CInt} {buf : UserAddr} {len : SizeT} {rest : Int → Program Nat}
    {post : Nat → Outcome Abort Nat → Prop} (aborted : ∀ error, post n (.faulted error))
    (asks : ∀ dir, Asks chance m n side ⟨channel,dir,buf,len,none⟩)
    (next : ∀ rc, Conforms (looping chance m side) post (n+1) (rest rc)) :
    Conforms (looping chance m side) post n
      (inProgram (LibraryTransfers.axidmaOnewayTransfer m.dev channel buf len false) >>= rest) := by
  unfold LibraryTransfers.axidmaOnewayTransfer
  cases findChannel m.dev channel with
  | none => exact aborted _
  | some dmaChan =>
    refine ⟨trivial,fun frame _ => ⟨⟨⟨channel,dmaChan.dir,buf,len,none⟩,fun channels => ?_,rfl,asks dmaChan.dir⟩,fun rc _ => ?_⟩⟩
    · cases dmaChan.dir <;> rfl
    · show Conforms _ post (n+1) (inProgram (if rc < 0 then pure rc else pure 0) >>= rest)
      split
      · exact next _
      · exact next _

-- A round asks once, and the next one is numbered by what was asked.
theorem round_loops (side : Side) (n : Nat) : Conforms (looping chance m side)
    (fun count outcome => ∀ value, outcome = .returned value → value = count) n (Interdma.round chance m side n) := by
  have aborted : ∀ error, ∀ value, (Outcome.faulted error : Outcome Abort Nat) = .returned value → value = n := fun _ _ same => by cases same
  have ended : ∀ value, (Outcome.returned (n+1) : Outcome Abort Nat) = .returned value → value = n+1 := by
    intro value same
    cases same
    rfl
  cases side with
  | udpRecv =>
    unfold Interdma.round mm2sAllTest
    refine ⟨trivial,fun held _ => ?_⟩
    cases chosen : sent chance.rand chance.times (n+1) with
    | none => exact aborted _
    | some msf =>
      obtain ⟨length,inside⟩ := @sent_length chance n msf held chosen
      refine ⟨trivial,fun _ _ => oneway_loops aborted (fun dir => ?_) fun _ => ended⟩
      exact ⟨msf,chosen,inside,rfl,rfl,length⟩
  | main =>
    refine ⟨trivial,fun held _ => ⟨trivial,fun _ _ => oneway_loops aborted (fun dir => ⟨rfl,rfl,rfl⟩) fun _ => ?_⟩⟩
    refine ⟨trivial,fun processdata _ => ?_⟩
    cases processdata with
    | none => exact fun _ same => by cases same
    | some processdata => exact ⟨trivial,fun _ _ => ⟨trivial,fun _ _ => ⟨trivial,fun _ _ => ended⟩⟩⟩

-- What is no longer than a buffer was mapped for is found at its start.
theorem start_taken {t : Heap} {win : Window 64} {id : CInt} {dir : AxidmaDir} {len : SizeT} {frame : Option AxidmaVideoFrame}
    (member : win ∈ t.live) (sized : win.size = pageAlign (BitVec.ofInt 64 MAX_SIZE)) (some : 0 < len.toNat)
    (inside : len.toNat ≤ (BitVec.ofInt 64 MAX_SIZE).toNat) :
    Part.Proper ⟨id,dir,win.start,len,frame⟩ ∧ taker t.windows win.start len = .some win := by
  obtain ⟨positive,ends⟩ := t.fits win member
  rw [sized] at positive
  have covers : len.toNat ≤ win.size.toNat := sized ▸ inside.trans (pageAlign_covers positive)
  have fits : win.start.toNat+win.size.toNat < 2^64 := ends
  exact ⟨⟨some,Nat.lt_of_le_of_lt (Nat.add_le_add_left covers _) fits⟩,own_taken member some ⟨Nat.le_refl _,Nat.add_le_add_left covers _⟩⟩

theorem part_told {t : Heap} {part : Part} {chan : AxidmaChan} {win : Window 64} {fd : Int} {cmd : CInt} {arg : IoctlArg} {rc : Int}
    {after : Option Heap} (distinct : (channels.map (·.channelId)).Nodup) (here : chan ∈ channels) (member : win ∈ t.live)
    (sized : win.size = pageAlign (BitVec.ofInt 64 MAX_SIZE)) (id : part.channelId = chan.channelId) (start : part.buf = win.start)
    (some : 0 < part.bufLen.toNat) (inside : part.bufLen.toNat ≤ (BitVec.ofInt 64 MAX_SIZE).toNat)
    (asked : transferOf channels cmd arg = .some ([part],false)) (unframed : part.frame = none) (allowed : Allowed channels t (.library (.ioctl fd cmd arg)) rc after) :
    ∃ told, OnewayTold chan win.base part.bufLen told ∧ after = .some (t.tell told) := by
  obtain ⟨proper,taken⟩ := @start_taken t win part.channelId part.dir part.bufLen part.frame member sized some inside
  rw [← start] at proper taken
  simp only [Allowed,asked,List.forall_mem_singleton,if_pos proper] at allowed
  obtain ⟨told,transfers,rfl⟩ := allowed
  have told' := oneway_told distinct here id unframed taken transfers
  have base : win.image part.buf = win.base := by simp [start,Window.image]
  exact ⟨told,base ▸ told',rfl⟩

theorem turn_streams (setting : Setting channels m tx rx input output) (distinct : (channels.map (·.channelId)).Nodup)
    {counts : Side → Nat} {side : Side} {op : ProgramCall} {reply : op.Reply} {state after : Option Heap}
    (streaming : Streaming chance tx rx input output counts state) (admitted : (looping chance m side).admits (counts side) op)
    (served : heapServer channels state op reply after) :
    Streaming chance tx rx input output (Function.update counts side ((looping chance m side).advance (counts side) op reply)) after := by
  obtain ⟨t,rfl,live,sends⟩ := streaming
  have still : Aside op → (looping chance m side).advance (counts side) op reply = counts side →
      Streaming chance tx rx input output (Function.update counts side ((looping chance m side).advance (counts side) op reply)) after := by
    intro aside same
    rw [same,Function.update_eq_self,aside_same aside served]
    exact ⟨t,rfl,live,sends⟩
  cases op with
  | library op =>
    cases op with
    | ioctl fd cmd arg =>
      obtain ⟨part,asked,unframed,asks⟩ := admitted
      cases side with
      | udpRecv =>
        obtain ⟨msf,chosen,inside,id,start,length⟩ := asks
        rw [max_size] at inside
        have size : part.bufLen.toNat = 8+704*blocks msf := by
          rw [length,BitVec.toNat_ofNat,Nat.mod_eq_of_lt (by omega)]
        have whole : (BitVec.ofInt 64 MAX_SIZE).toNat = 359744 := size_of (by decide)
        obtain ⟨told,oneway,rfl⟩ := part_told distinct (List.mem_of_find?_eq_some setting.transmits) (by simp [live])
          setting.inputSize (id.trans setting.txChannel) (start.trans setting.txBuf) (by omega) (by omega) (asked channels) unframed served
        exact ⟨t.tell told,rfl,live,.frame sends chosen inside (length ▸ oneway)⟩
      | main =>
        obtain ⟨id,start,length⟩ := asks
        have whole : 0 < part.bufLen.toNat := by
          rw [length]
          decide
        obtain ⟨told,oneway,rfl⟩ := part_told distinct (List.mem_of_find?_eq_some setting.receives) (by simp [live])
          setting.outputSize (id.trans setting.rxChannel) (start.trans setting.rxBuf) whole (by rw [length]) (asked channels) unframed served
        exact ⟨t.tell told,rfl,live,.reception sends (length ▸ oneway)⟩
    | _ => exact still admitted rfl
  | _ => exact still admitted rfl

-- What is there while the loops run: the two buffers, apart, and a log of whole frames
-- and receptions.
structure Streams (chance : Chance) (tx rx : AxidmaChan) (input output : Window 64) (last : Driven) : Prop where
  buffers : last.1.dev.dmabufList.map Translation.ofDmabuf = [output,input]
  apart : Window.Apart output input
  sends : ∃ frames receptions, Sends chance tx rx input output frames receptions last.2

theorem streaming_streams {client : Task} {counts : Side → Nat} {last : Driven} {above : Option Heap}
    (streaming : Streaming chance tx rx input output counts above) (related : Related client channels last above) :
    Streams chance tx rx input output last := by
  obtain ⟨t,rfl,live,sends⟩ := streaming
  have rep : Represents client channels last t := related
  have apart := t.apart
  rw [live] at apart
  exact ⟨rep.live.symm.trans live,(List.pairwise_cons.mp apart).1 input (by simp),_,_,rep.log ▸ sends⟩

end

-- What a run of main leaves, or goes on to in any order in which its loops take turns.
inductive Afterwards (client : Task) (channels : List AxidmaChan) (chance : Chance) : Ending → Driven → Prop where
  | exits {rc : Int} {after : Driven} (unmapped : after.1.vmas = []) (unlisted : after.1.dev.dmabufList = []) (silent : after.2 = []) :
      Afterwards client channels chance (.exits rc) after
  | runs {m : Started} {tx rx : AxidmaChan} {input output : Window 64} {after : Driven} (setting : Setting channels m tx rx input output)
      (streams : ∀ last workers, Relation.ReflTransGen (Turn (driverServer client) (Interdma.round chance m)) (after,begun chance m) (last,workers) →
        Streams chance tx rx input output last) : Afterwards client channels chance (.runs m) after

theorem interdma_streams {client : Task} {channels : List AxidmaChan} {garbage : Int} {ending : Ending} {after : Driven} (chance : Chance)
    (distinct : (channels.map (·.channelId)).Nodup)
    (ran : ExecOn (driverServer client) (main garbage) (loadedDriver channels) (.returned ending) after) :
    Afterwards client channels chance ending after := by
  have related : Related client channels (loadedDriver channels) (some noBuffers) := loaded_represents
  obtain ⟨above,related,ends⟩ := (driver_refines_heap client channels).promised related main_heap ran
  cases ends with
  | @exits rc heap unmapped silent =>
    obtain ⟨vmas,unlisted⟩ := Represents.emptied related unmapped
    exact .exits vmas unlisted (related.log.symm.trans silent)
  | @runs m tx rx input output heap setting live silent =>
    refine .runs setting fun last workers path => ?_
    obtain ⟨top,path,related⟩ := (driver_refines_heap client channels).turns related path
    have start : Streaming chance tx rx input output (fun _ => 0) (some heap) := ⟨heap,rfl,live,silent ▸ .nothing⟩
    obtain ⟨counts,streaming,_⟩ := Turn.keeps (looping chance m) (fun _ count value => value = count) (Streaming chance tx rx input output)
      (fun _ _ _ _ _ => trivial)
      (fun _ _ _ _ _ _ streaming admitted served => turn_streams setting distinct streaming admitted served)
      (fun side _ value same => by
        obtain rfl := same
        exact round_loops side _) path start fun side => round_loops side 0
    exact streaming_streams streaming related

def chance : Chance := ⟨true,fun _ => 77,fun n => (BitVec.ofNat 32 n,BitVec.ofNat 32 n),fun _ => ⟨fun _ => 0,fun _ => 0,fun _ => 0,fun _ => 0⟩⟩

def started : Program Ending × Driven := (GrantingKernel.granted 7 fun _ _ => 0).advance 60 (main 0) (loadedDriver plainChannels)

def handle : AxidmaDev where
  initialized := true
  fd := 3
  dmaTxChans := ⟨1,[some 0],false⟩
  dmaRxChans := ⟨1,[some 1],false⟩
  vdmaTxChans := ⟨0,[],false⟩
  vdmaRxChans := ⟨0,[],false⟩
  numChannels := 2
  channels := [⟨.write,.dma,0,some TXCALL,0x5000⟩,⟨.read,.dma,1,some RXCALL,0⟩]

def running : Started := ⟨handle,0,1,0x10000000,0x20000000⟩

-- A round of the one loop, and then one of the other.
def afterFrame : Program Nat × Driven :=
  (GrantingKernel.granted 7 fun _ _ => 0).advance 40 (Interdma.round chance running .udpRecv 0) started.2

def afterReception : Program Nat × Driven :=
  (GrantingKernel.granted 7 fun _ _ => 0).advance 40 (Interdma.round chance running .main 0) afterFrame.2

def toldBoth : List Told :=
  [.submitted 0 (.slaveSg [⟨0x10000000,254856,some (.dmabuf 1)⟩] 1 .memToDev 3),.issued 0,
    .submitted 1 (.slaveSg [⟨0x20000000,359744,some (.dmabuf 2)⟩] 1 .devToMem 3),.issued 1]

theorem both_told : ∃ workers, Relation.ReflTransGen (Turn (driverServer 7) (Interdma.round chance running))
    (started.2,begun chance running) (afterReception.2,workers) ∧ afterReception.2.2 = toldBoth := by
  let sending := Function.update (begun chance running) .udpRecv afterFrame.1
  have frame : Relation.ReflTransGen (Turn (driverServer 7) (Interdma.round chance running))
      (started.2,begun chance running) (afterFrame.2,sending) := (GrantingKernel.granted 7 fun _ _ => 0).turns rfl
  have reception : Relation.ReflTransGen (Turn (driverServer 7) (Interdma.round chance running))
      (afterFrame.2,sending) (afterReception.2,Function.update sending .main afterReception.1) :=
    (GrantingKernel.granted 7 fun _ _ => 0).turns (Function.update_of_ne (by decide) _ _)
  exact ⟨_,frame.trans reception,by decide +kernel⟩

theorem two_channels_stream : Afterwards 7 plainChannels chance (.runs running) started.2 ∧
    ∃ workers, Relation.ReflTransGen (Turn (driverServer 7) (Interdma.round chance running)) (started.2,begun chance running)
      (afterReception.2,workers) ∧ afterReception.2.2 = toldBoth :=
  ⟨interdma_streams chance (by decide) ((GrantingKernel.granted 7 fun _ _ => 0).exec (by decide +kernel)),both_told⟩

end Axidma.DrivenInterdma
