import Axidma.ClientPrograms
import Axidma.FrameTransmission

namespace Axidma.Interdma
open Interaction Ledger
open BitPacking BufferFillers FrameTransmission RecordedBuffer ClientPrograms
open ReceivedDump (MAX_SIZE)

def TXCALL : Nat := 1
def RXCALL : Nat := 2

structure Arguments where
  txChannel : CInt
  rxChannel : CInt
  txSize : SizeT
  rxSize : SizeT

def initArgs : Arguments := ⟨-1,-1,BitVec.ofInt 64 MAX_SIZE,BitVec.ofInt 64 MAX_SIZE⟩

structure Started where
  dev : AxidmaDev
  txChannel : CInt
  rxChannel : CInt
  txBuf : UserAddr
  rxBuf : UserAddr
deriving DecidableEq

inductive Ending where
  | exits (rc : Int)
  | runs (started : Started)
deriving DecidableEq

section
variable (dev : AxidmaDev) (args : Arguments)

def destroyAxidma (rc : Int) : Program Ending := do
  let _ ← inProgram (axidmaDestroy dev)
  return .exits rc

def freeTxBuf (txBuf : UserAddr) (rc : Int) : Program Ending := do
  axidmaFree txBuf args.txSize
  destroyAxidma dev rc

def freeRxBuf (txBuf rxBuf : UserAddr) (rc : Int) : Program Ending := do
  axidmaFree rxBuf args.rxSize
  freeTxBuf dev args txBuf rc

-- From the buffers on. If the thread cannot be created, rc was never set.
def withBuffers (garbage : Int) (txBuf rxBuf : UserAddr) : Program Ending := do
  let txChans := axidmaGetDmaTx dev
  let rxChans := axidmaGetDmaRx dev
  if txChans.len < 1 then
    freeRxBuf dev args txBuf rxBuf (-ENODEV)
  else if rxChans.len < 1 then
    freeRxBuf dev args txBuf rxBuf (-ENODEV)
  else
  let (txChannel,rxChannel) ← chooseChannels args.txChannel args.rxChannel txChans rxChans
  match ← pcall (.malloc 4) with
  | none => Prog.fault .undefined
  | some pTxcall =>
  let dev ← inProgram (axidmaSetCallback dev txChannel (some TXCALL) pTxcall.toNat)
  let dev ← inProgram (axidmaSetCallback dev rxChannel (some RXCALL) 0)
  let ret : Int ← pcall .pthreadCreate
  if ret ≠ 0 then
    freeRxBuf dev args txBuf rxBuf garbage
  else
  return .runs ⟨dev,txChannel,rxChannel,txBuf,rxBuf⟩

end

def main (garbage : Int) : Program Ending := do
  let args := initArgs
  let (initialised,dev) ← inProgram (axidmaInit zeroedDev)
  if !initialised then
    return .exits 1
  else
  match ← axidmaMalloc dev args.txSize with
  | none => destroyAxidma dev (-1)
  | some txBuf =>
  match ← axidmaMalloc dev args.rxSize with
  | none => freeTxBuf dev args txBuf (-1)
  | some rxBuf => withBuffers dev args garbage txBuf rxBuf

structure Chance where
  signed : Bool
  rand : Rand
  times : Nat → Seed × Seed
  scratch : Nat → Scratch

def mm2sAllTest (chance : Chance) (m : Started) (n : Nat) : Program Nat := do
  let held : Buffer ← pcall (.load m.txBuf MAX_SIZE.toNat)
  match sent chance.rand chance.times (n+1) with
  -- The switch leaves modu_cal unset.
  | none => Prog.fault .undefined
  | some msf =>
  let (filled,length) := fillFrame chance.signed msf (chance.scratch n) (fresh held)
  pcall (.store m.txBuf MAX_SIZE.toNat filled.cells)
  let _ ← inProgram (LibraryTransfers.axidmaOnewayTransfer m.dev m.txChannel m.txBuf length false)
  return n+1

-- The wait for the completion is left out, and so is the thread that prints the copy.
def s2mmAllTest (m : Started) (n : Nat) : Program Nat := do
  let held : Buffer ← pcall (.load m.rxBuf MAX_SIZE.toNat)
  pcall (.store m.rxBuf MAX_SIZE.toNat (cleanRxData (fresh held) (BitVec.ofInt 64 MAX_SIZE)).cells)
  let _ ← inProgram (LibraryTransfers.axidmaOnewayTransfer m.dev m.rxChannel m.rxBuf (BitVec.ofInt 64 MAX_SIZE) false)
  match ← pcall (.malloc MAX_SIZE.toNat) with
  | none => Prog.fault .undefined
  | some processdata =>
  let received : Buffer ← pcall (.load m.rxBuf MAX_SIZE.toNat)
  pcall (.store processdata MAX_SIZE.toNat received)
  -- Without a thread the function returns with the mutex locked.
  let _ : Int ← pcall .pthreadCreate
  return n+1

inductive Side where
  | udpRecv
  | main
deriving DecidableEq

def round (chance : Chance) (m : Started) : Side → Nat → Program Nat
  | .udpRecv => mm2sAllTest chance m
  | .main => s2mmAllTest m

def begun (chance : Chance) (m : Started) (side : Side) : Program Nat := round chance m side 0

-- What is left of a handle that could not be set up, or the text for txcall.
inductive Leftover (garbage : Int) : Int → List Held → Prop where
  | nothing {rc : Int} (failed : rc ≠ 0) : Leftover garbage rc []
  | arrays : Leftover garbage 1 handleBlocks
  | text {pTxcall : UserAddr} : Leftover garbage garbage [.heap pTxcall]

inductive MainEnds (garbage : Int) (before : Account Held) : Outcome Abort Ending → Host → Prop where
  | exits {rc : Int} {after : Host} {left : List Held} (leftover : Leftover garbage rc left) (owes : Owes before left after.account) :
      MainEnds garbage before (.returned (.exits rc)) after
  | runs {m : Started} {after : Host} {pTxcall : UserAddr} (owes : Owes before (.mapping m.rxBuf initArgs.rxSize ::
      .mapping m.txBuf initArgs.txSize :: (handleThings m.dev++[.heap pTxcall])) after.account) :
      MainEnds garbage before (.returned (.runs m)) after
  | aborted {error : Abort} {after : Host} : MainEnds garbage before (.faulted error) after

section
variable {fabric : List (BitVec 8) → List (BitVec 8)} {occurs : Event process → Prop} {before : Account Held} {things : List Held} {s : Host}
  {dev : AxidmaDev} {txBuf rxBuf : UserAddr} {rc garbage : Int}

theorem destroyAxidma_ends (leftover : Leftover garbage rc things) (owes : Owes before (handleThings dev++things) s.account) :
    Ensures ((host fabric).only occurs) (MainEnds garbage before) (destroyAxidma dev rc) s :=
  destroy_then (fun _ _ => .aborted) owes fun _ _ _ owes => .exits leftover owes

theorem freeTxBuf_ends (leftover : Leftover garbage rc things)
    (owes : Owes before (.mapping txBuf initArgs.txSize :: (handleThings dev++things)) s.account) :
    Ensures ((host fabric).only occurs) (MainEnds garbage before) (freeTxBuf dev initArgs txBuf rc) s :=
  free_then_program (fun _ _ => .aborted) owes fun _ _ owes => destroyAxidma_ends leftover owes

theorem freeRxBuf_ends (leftover : Leftover garbage rc things)
    (owes : Owes before (.mapping rxBuf initArgs.rxSize :: .mapping txBuf initArgs.txSize :: (handleThings dev++things)) s.account) :
    Ensures ((host fabric).only occurs) (MainEnds garbage before) (freeRxBuf dev initArgs txBuf rxBuf rc) s :=
  free_then_program (fun _ _ => .aborted) owes fun _ _ owes => freeTxBuf_ends leftover owes

theorem setCallback_then {α : Type} {post : Outcome Abort α → Host → Prop} {channel : CInt} {callback : Option Nat} {data : Nat}
    {rest : AxidmaDev → Program α} (aborted : ∀ error after, post (.faulted error) after)
    (next : ∀ lib : AxidmaDev, lib.fd = dev.fd → Ensures ((host fabric).only occurs) post (rest lib) s) :
    Ensures ((host fabric).only occurs) post (inProgram (axidmaSetCallback dev channel callback data) >>= rest) s := by
  unfold axidmaSetCallback
  cases findChannel dev channel with
  | none => exact aborted _ _
  | some _ =>
    by_cases inside : 0 ≤ channel.toInt ∧ channel.toInt < dev.channels.length
    · rw [if_pos inside]
      exact next _ rfl
    · rw [if_neg inside]
      exact aborted _ _

theorem withBuffers_ends (owes : Owes before (.mapping rxBuf initArgs.rxSize :: .mapping txBuf initArgs.txSize ::
    (handleThings dev++[])) s.account) : Ensures ((host fabric).only occurs) (MainEnds garbage before) (withBuffers dev initArgs garbage txBuf rxBuf) s := by
  have aborted : ∀ error after, MainEnds garbage before (.faulted error) after := fun _ _ => .aborted
  unfold withBuffers
  refine ensures_if (fun _ => freeRxBuf_ends (.nothing (by decide)) owes) fun _ => ensures_if (fun _ => freeRxBuf_ends (.nothing (by decide)) owes) fun _ => ?_
  refine choose_then aborted fun channels => ?_
  intro pTxcall _
  cases pTxcall with
  | none => exact .aborted
  | some pTxcall =>
    have taken := (Owes.take owes : Owes before (.heap pTxcall :: _) _).perm (@List.perm_append_comm _ [Held.heap pTxcall] _)
    refine setCallback_then aborted fun lib same => setCallback_then aborted fun last same' => ?_
    have things : handleThings last = handleThings dev := by rw [handleThings,same',same,handleThings]
    have owes : Owes before (.mapping rxBuf initArgs.rxSize :: .mapping txBuf initArgs.txSize ::
        (handleThings last++[.heap pTxcall])) (s.account.take (.heap pTxcall)) := by
      rw [things]
      simpa using taken
    intro ret _
    exact ensures_if (fun _ => freeRxBuf_ends .text owes) fun _ => .runs owes

theorem main_ends : Ensures ((host fabric).only occurs) (MainEnds garbage s.account) (main garbage) s := by
  unfold main
  refine init_then (fun _ _ => .aborted) .start (fun dev s1 _ owes1 => ?_) fun dev left s1 only _ owes => ?_
  · refine malloc_then_program owes1 (destroyAxidma_ends (.nothing (by decide)) owes1) fun txBuf s2 _ _ owes2 => ?_
    refine malloc_then_program owes2 (freeTxBuf_ends (.nothing (by decide)) owes2) fun rxBuf s3 _ _ owes3 => ?_
    exact withBuffers_ends owes3
  · have owes : Owes s.account left s1.account := by simpa using owes
    rcases only with rfl | ⟨rfl,_⟩
    · exact .exits (.nothing (by decide)) owes
    · exact .exits .arrays owes

theorem interdma_owes {ending : Ending} {after : Host} (ran : Exec (host fabric) (main garbage) s (.returned ending) after) :
    MainEnds garbage s.account (.returned ending) after := ensures_iff.mp main_ends _ _ ran.anything

end

def idle : Host := ⟨⟨[],[]⟩,fun _ => 0,fun _ => ⟨fun _ => 0,0⟩,fun _ => none,[]⟩

def threadless : Host := ((plain id).advance 60 (main 5) idle).2

theorem no_thread_ends : MainEnds 5 idle.account (.returned (.exits 5)) threadless := interdma_owes (answered_exec (by decide +kernel))

end Axidma.Interdma
