import Axidma.BenchmarkCheck
import Axidma.ClientPrograms
import Axidma.ParsedNumbers

namespace Axidma.Benchmark
open Interaction Ledger
open BitPacking BenchmarkCheck ParsedNumbers ClientPrograms

-- (int)(1920*1080*sizeof(int))
def DEFAULT_TRANSFER_SIZE : SizeT := 8294400
def DEFAULT_NUM_TRANSFERS : CInt := 1000

-- The options as getopt hands them out. -i and -o come with the result of
-- parse_double and what the number of MiB comes to in bytes.
inductive GivenOption where
  | v
  | t (optarg : List (BitVec 8))
  | r (optarg : List (BitVec 8))
  | i (rc : Int) (size : SizeT)
  | b (optarg : List (BitVec 8))
  | f (optarg : List (BitVec 8))
  | o (rc : Int) (size : SizeT)
  | s (optarg : List (BitVec 8))
  | g (optarg : List (BitVec 8))
  | n (optarg : List (BitVec 8))
  | h
  | unknown

structure Arguments where
  txChannel : CInt
  rxChannel : CInt
  txSize : SizeT
  txFrame : AxidmaVideoFrame
  rxSize : SizeT
  rxFrame : AxidmaVideoFrame
  numTransfers : CInt
  useVdma : Bool
  txFrameSpecified : Bool
  rxFrameSpecified : Bool

def withResolution (optarg : List (BitVec 8)) (frame : AxidmaVideoFrame) (store : AxidmaVideoFrame → Arguments) : Except Stop Arguments :=
  if optarg = [] then .error (.failed (-EINVAL))
  else
  match parseResolution optarg frame with
  | none => .error .undefined
  | some (rc,frame) => if rc < 0 then .error (.failed (-EINVAL)) else .ok (store frame)

def frameSize (frame : AxidmaVideoFrame) : SizeT := (frame.height*frame.width*frame.depth).signExtend 64

def parseOption (args : Arguments) : GivenOption → Except Stop Arguments
  | .v => .ok {args with useVdma := true}
  | .t optarg => withInt (fun _ => -EINVAL) optarg fun intArg => {args with txChannel := intArg}
  | .r optarg => withInt (fun _ => -EINVAL) optarg fun intArg => {args with rxChannel := intArg}
  | .i rc size => if rc < 0 then .error (.failed (-EINVAL)) else .ok {args with txSize := size}
  | .b optarg => withInt (fun _ => -EINVAL) optarg fun intArg => {args with txSize := intArg.signExtend 64}
  | .f optarg => withResolution optarg args.txFrame fun frame =>
      {args with txFrame := frame, txSize := frameSize frame, txFrameSpecified := true}
  | .o rc size => if rc < 0 then .error (.failed (-EINVAL)) else .ok {args with rxSize := size}
  | .s optarg => withInt (fun _ => -EINVAL) optarg fun intArg => {args with rxSize := intArg.signExtend 64}
  | .g optarg => withResolution optarg args.rxFrame fun frame =>
      {args with rxFrame := frame, rxSize := frameSize frame, rxFrameSpecified := true}
  | .n optarg => withInt (fun _ => -EINVAL) optarg fun intArg => {args with numTransfers := intArg}
  | .h => .error .help
  | .unknown => .error (.failed (-EINVAL))

-- The two flags on the frames are not set before the options are, so they start as
-- the stack has them.
def parseArgs (garbage : Bool × Bool) (options : List GivenOption) : Except Stop Arguments := do
  let args ← options.foldlM parseOption ⟨-1,-1,DEFAULT_TRANSFER_SIZE,⟨-1,-1,-1⟩,DEFAULT_TRANSFER_SIZE,⟨-1,-1,-1⟩,
    DEFAULT_NUM_TRANSFERS,false,garbage.1,garbage.2⟩
  if (decide (args.txChannel = -1) ^^ decide (args.rxChannel = -1)) = true then
    .error (.failed (-EINVAL))
  else if (decide (args.txSize = DEFAULT_TRANSFER_SIZE) ^^ decide (args.rxSize = DEFAULT_TRANSFER_SIZE)) = true then
    .error (.failed (-EINVAL))
  else if args.useVdma && (!args.txFrameSpecified || !args.rxFrameSpecified) then
    .error (.failed (-EINVAL))
  else
    .ok args

section
variable (signed : Bool) (dev : AxidmaDev)

-- The sizes are ints here, and become size_t again where they are passed on.
def singleTransferTest (txChannel : CInt) (txBuf : UserAddr) (txSize : CInt) (txFrame : Option AxidmaVideoFrame)
    (rxChannel : CInt) (rxBuf : UserAddr) (rxSize : CInt) (rxFrame : Option AxidmaVideoFrame) : Program Int := do
  let txSize : SizeT := txSize.signExtend 64
  let rxSize : SizeT := rxSize.signExtend 64
  let txBefore : Buffer ← pcall (.load txBuf txSize.toNat)
  let rxBefore : Buffer ← pcall (.load rxBuf rxSize.toNat)
  let filled := initData txBefore rxBefore txSize rxSize
  pcall (.store txBuf txSize.toNat filled.1)
  pcall (.store rxBuf rxSize.toNat filled.2)
  let rc ← inProgram (LibraryTransfers.axidmaTwowayTransfer dev txChannel txBuf txSize txFrame rxChannel rxBuf rxSize rxFrame true)
  if rc < 0 then
    return rc
  else
  let txAfter : Buffer ← pcall (.load txBuf txSize.toNat)
  let rxAfter : Buffer ← pcall (.load rxBuf rxSize.toNat)
  return verifyData signed txAfter rxAfter txSize rxSize

-- The timing is left out: the transfers, up to the first that fails.
def timeDma (txChannel : CInt) (txBuf : UserAddr) (txSize : CInt) (txFrame : Option AxidmaVideoFrame)
    (rxChannel : CInt) (rxBuf : UserAddr) (rxSize : CInt) (rxFrame : Option AxidmaVideoFrame) : Nat → Program Int
  | 0 => return 0
  | transfers+1 => do
    let rc ← inProgram (LibraryTransfers.axidmaTwowayTransfer dev txChannel txBuf (txSize.signExtend 64) txFrame
      rxChannel rxBuf (rxSize.signExtend 64) rxFrame true)
    if rc < 0 then
      return rc
    else
      timeDma txChannel txBuf txSize txFrame rxChannel rxBuf rxSize rxFrame transfers

def destroyAxidma (rc : Int) : Program Int := do
  let _ ← inProgram (axidmaDestroy dev)
  return rc

def freeTxBuf (txBuf : UserAddr) (txSize : SizeT) (rc : Int) : Program Int := do
  axidmaFree txBuf txSize
  destroyAxidma dev rc

def freeRxBuf (txBuf : UserAddr) (txSize : SizeT) (rxBuf : UserAddr) (rxSize : SizeT) (rc : Int) : Program Int := do
  axidmaFree rxBuf rxSize
  freeTxBuf dev txBuf txSize rc

def withBuffers (args : Arguments) (txBuf rxBuf : UserAddr) : Program Int := do
  let txChans := if args.useVdma then axidmaGetVdmaTx dev else axidmaGetDmaTx dev
  let rxChans := if args.useVdma then axidmaGetVdmaRx dev else axidmaGetDmaRx dev
  let txFrame := if args.useVdma then some args.txFrame else none
  let rxFrame := if args.useVdma then some args.rxFrame else none
  if txChans.len < 1 then
    freeRxBuf dev txBuf args.txSize rxBuf args.rxSize (-ENODEV)
  else if rxChans.len < 1 then
    freeRxBuf dev txBuf args.txSize rxBuf args.rxSize (-ENODEV)
  else
  let (txChannel,rxChannel) ← chooseChannels args.txChannel args.rxChannel txChans rxChans
  let rc ← singleTransferTest signed dev txChannel txBuf (args.txSize.setWidth 32) txFrame
    rxChannel rxBuf (args.rxSize.setWidth 32) rxFrame
  if rc < 0 then
    freeRxBuf dev txBuf args.txSize rxBuf args.rxSize rc
  else
  let rc ← timeDma dev txChannel txBuf (args.txSize.setWidth 32) txFrame rxChannel rxBuf (args.rxSize.setWidth 32) rxFrame
    args.numTransfers.toInt.toNat
  freeRxBuf dev txBuf args.txSize rxBuf args.rxSize rc

end

def main (signed : Bool) (garbage : Bool × Bool) (options : List GivenOption) : Program Int := do
  match parseArgs garbage options with
  | .error (.failed _) => return 1
  | .error .help => Prog.fault (.exited 0)
  | .error .undefined => Prog.fault .undefined
  | .ok args =>
  let (initialised,dev) ← inProgram (axidmaInit zeroedDev)
  if !initialised then
    return 1
  else
  match ← axidmaMalloc dev args.txSize with
  | none => destroyAxidma dev (-1)
  | some txBuf =>
  match ← axidmaMalloc dev args.rxSize with
  | none => freeTxBuf dev txBuf args.txSize (-1)
  | some rxBuf => withBuffers signed dev args txBuf rxBuf

def patternBytes (pattern : Nat → CInt) (size : Nat) : List (BitVec 8) :=
  firstBytes (fun k => byteOf (pattern (k/SIZEOF_INT)) (k%SIZEOF_INT)) size

-- The fabric answers the test data with a byte that the receive buffer did not hold.
def AnswersAnew (fabric : List (BitVec 8) → List (BitVec 8)) (txSize rxSize : SizeT) : Prop :=
  ∃ k byte, k < rxSize.toNat ∧ (fabric (patternBytes txPattern txSize.toNat))[k]? = some byte ∧
    byte ≠ byteOf (rxPattern txSize (k/SIZEOF_INT)) (k%SIZEOF_INT)

structure Regular (txBuf rxBuf : UserAddr) (txSize rxSize : SizeT) : Prop where
  txAligned : txSize.toNat%SIZEOF_INT = 0
  rxAligned : rxSize.toNat%SIZEOF_INT = 0
  apart : txBuf.toNat+txSize.toNat ≤ rxBuf.toNat ∨ rxBuf.toNat+rxSize.toNat ≤ txBuf.toNat

inductive TestEnds (fabric : List (BitVec 8) → List (BitVec 8)) (s : Host) (txBuf rxBuf : UserAddr) (txSize rxSize : SizeT) :
    Outcome Abort Int → Host → Prop where
  | returned {rc : Int} {after : Host} (account : after.account = s.account)
      (answers : ¬ rc < 0 → Regular txBuf rxBuf txSize rxSize → AnswersAnew fabric txSize rxSize) :
      TestEnds fabric s txBuf rxBuf txSize rxSize (.returned rc) after
  | aborted {error : Abort} {after : Host} : TestEnds fabric s txBuf rxBuf txSize rxSize (.faulted error) after

section
variable {signed : Bool} {fabric : List (BitVec 8) → List (BitVec 8)} {occurs : Event process → Prop} {before : Account Held}
  {things : List Held} {s after : Host}
  {dev : AxidmaDev} {txChannel rxChannel : CInt} {txBuf rxBuf : UserAddr} {txFrame rxFrame : Option AxidmaVideoFrame}

theorem fill_aligned {pattern leftover : Nat → CInt} {size : SizeT} {old : Buffer} {k : Nat} (aligned : size.toNat%SIZEOF_INT = 0)
    (below : k < size.toNat) : fill pattern leftover size old k = byteOf (pattern (k/SIZEOF_INT)) (k%SIZEOF_INT) := by
  have inside : k/SIZEOF_INT < size.toNat/SIZEOF_INT := by
    unfold SIZEOF_INT at aligned ⊢
    omega
  rw [fill_apply,aligned,if_neg (Nat.not_lt_zero k),if_pos inside]

-- If the answer is all that was there, the check finds the receive buffer as it was.
theorem unanswered_fails {txSize rxSize : SizeT} {old : Buffer} {transaction : AxidmaInoutTransaction}
    (regular : Regular txBuf rxBuf txSize rxSize) (txAt : transaction.txBuf = txBuf) (txLen : transaction.txBufLen = txSize)
    (rxAt : transaction.rxBuf = rxBuf) (rxLen : transaction.rxBufLen = rxSize)
    (filledTx : ∀ k, k < txSize.toNat → s.view txBuf k = byteOf (txPattern (k/SIZEOF_INT)) (k%SIZEOF_INT))
    (filledRx : ∀ k, k < rxSize.toNat → s.view rxBuf k = byteOf (rxPattern txSize (k/SIZEOF_INT)) (k%SIZEOF_INT))
    (none : ¬ AnswersAnew fabric txSize rxSize) (txAfter : Buffer) :
    verifyData signed txAfter ((s.transfer fabric transaction).view rxBuf) txSize rxSize < 0 := by
  have sent : firstBytes (s.view transaction.txBuf) transaction.txBufLen.toNat = patternBytes txPattern txSize.toNat := by
    rw [txAt,txLen]
    exact firstBytes_congr filledTx
  refine verifyData_neg.mpr (.inr ((@exact_aligned signed _ _ rxSize old regular.rxAligned _).mpr ?_))
  intro k below
  rw [fill_aligned regular.rxAligned below,← rxAt]
  cases answered : (fabric (firstBytes (s.view transaction.txBuf) transaction.txBufLen.toNat))[k]? with
  | none =>
    rw [transfer_view_behind answered,rxAt]
    exact filledRx k below
  | some byte =>
    rw [transfer_view (rxLen ▸ below) answered]
    rw [sent] at answered
    apply Classical.byContradiction
    exact fun other => none ⟨k,byte,below,answered,other⟩

theorem singleTransferTest_ends {txSize rxSize : CInt} :
    Ensures ((host fabric).only occurs) (TestEnds fabric s txBuf rxBuf (txSize.signExtend 64) (rxSize.signExtend 64))
      (singleTransferTest signed dev txChannel txBuf txSize txFrame rxChannel rxBuf rxSize rxFrame) s := by
  have aborted : ∀ error after, TestEnds fabric s txBuf rxBuf (txSize.signExtend 64) (rxSize.signExtend 64) (.faulted error) after :=
    fun _ _ => .aborted
  unfold singleTransferTest
  refine load_then (load_then (store_then (store_then ?_)))
  refine twoway_then aborted (fun rc negative => ?_) fun rc transaction fine txAt txLen rxAt rxLen => ?_
  · exact ensures_if (fun _ => .returned rfl fun fine => absurd negative fine) fun fine => absurd negative fine
  · refine ensures_if (fun negative => absurd negative fine) fun _ => ?_
    refine load_then (load_then ?_)
    refine .returned rfl fun fine regular => ?_
    apply Classical.byContradiction
    intro none
    refine fine (@unanswered_fails _ _ _ _ _ _ _ (s.view rxBuf) _ regular txAt txLen rxAt rxLen ?_ ?_ none _)
    · intro k below
      rw [view_put_apart below (regular.apart.imp id id),view_put below]
      exact fill_aligned regular.txAligned below
    · intro k below
      rw [view_put below]
      exact fill_aligned regular.rxAligned below

theorem timeDma_ends {txSize rxSize : CInt} {transfers : Nat} :
    Ensures ((host fabric).only occurs) (fun outcome after => ∀ rc, outcome = .returned rc → after.account = s.account)
      (timeDma dev txChannel txBuf txSize txFrame rxChannel rxBuf rxSize rxFrame transfers) s := by
  induction transfers generalizing s with
  | zero => exact fun _ _ => rfl
  | succ transfers ih =>
    have aborted : ∀ (error : Abort) (after : Host), ∀ rc : Int, Outcome.faulted error = .returned rc → after.account = s.account :=
      fun _ _ _ same => by cases same
    rw [timeDma]
    refine twoway_then aborted (fun rc negative => ?_) fun rc transaction fine _ _ _ _ => ?_
    · exact ensures_if (fun _ _ _ => rfl) fun fine => absurd negative fine
    · exact ensures_if (fun negative => absurd negative fine) fun _ => @ih (s.transfer fabric transaction)

structure Plain (args : Arguments) : Prop where
  txFits : args.txSize.toNat < 2^31
  rxFits : args.rxSize.toNat < 2^31
  txAligned : args.txSize.toNat%SIZEOF_INT = 0
  rxAligned : args.rxSize.toNat%SIZEOF_INT = 0

theorem int_kept {size : SizeT} (fits : size.toNat < 2^31) : (size.setWidth 32 : CInt).signExtend 64 = size := by
  have low : (size.setWidth 32 : CInt).toNat = size.toNat := by
    rw [BitVec.toNat_setWidth,Nat.mod_eq_of_lt (by omega)]
  have positive : (size.setWidth 32 : CInt).msb = false := BitVec.msb_eq_false_iff_two_mul_lt.mpr (by omega)
  apply BitVec.eq_of_toNat_eq
  rw [BitVec.signExtend_eq_setWidth_of_msb_false positive,BitVec.toNat_setWidth,low,Nat.mod_eq_of_lt size.isLt]

inductive MainEnds (fabric : List (BitVec 8) → List (BitVec 8)) (occurs : Event process → Prop) (garbage : Bool × Bool)
    (options : List GivenOption) (s : Host) : Outcome Abort Int → Host → Prop where
  | returned {rc : Int} {after : Host} (settled : Settled occurs s.account rc after)
      (answers : rc = 0 → ∃ args, parseArgs garbage options = .ok args ∧ (Plain args → AnswersAnew fabric args.txSize args.rxSize)) :
      MainEnds fabric occurs garbage options s (.returned rc) after
  | aborted {error : Abort} {after : Host} : MainEnds fabric occurs garbage options s (.faulted error) after

section
variable {txSize rxSize : SizeT} {rc : Int} {ends : Outcome Abort Int → Host → Prop}

theorem destroyAxidma_ends (aborted : ∀ error after, ends (.faulted error) after)
    (owes : Owes before (handleThings dev++things) s.account)
    (done : ∀ after, Owes before things after.account → ends (.returned rc) after) :
    Ensures ((host fabric).only occurs) ends (destroyAxidma dev rc) s := destroy_then aborted owes fun _ after _ owes => done after owes

theorem freeTxBuf_ends (aborted : ∀ error after, ends (.faulted error) after)
    (owes : Owes before (.mapping txBuf txSize :: (handleThings dev++things)) s.account)
    (done : ∀ after, Owes before things after.account → ends (.returned rc) after) :
    Ensures ((host fabric).only occurs) ends (freeTxBuf dev txBuf txSize rc) s :=
  free_then_program aborted owes fun _ _ owes => destroyAxidma_ends aborted owes done

theorem freeRxBuf_ends (aborted : ∀ error after, ends (.faulted error) after)
    (owes : Owes before (.mapping rxBuf rxSize :: .mapping txBuf txSize :: (handleThings dev++things)) s.account)
    (done : ∀ after, Owes before things after.account → ends (.returned rc) after) :
    Ensures ((host fabric).only occurs) ends (freeRxBuf dev txBuf txSize rxBuf rxSize rc) s :=
  free_then_program aborted owes fun _ _ owes => freeTxBuf_ends aborted owes done

theorem withBuffers_ends {garbage : Bool × Bool} {options : List GivenOption} {origin : Host} {args : Arguments}
    (parsed : parseArgs garbage options = .ok args) (room : Apart rxBuf args.rxSize (.mapping txBuf args.txSize))
    (owes : Owes origin.account (.mapping rxBuf args.rxSize :: .mapping txBuf args.txSize :: (handleThings dev++[])) s.account) :
    Ensures ((host fabric).only occurs) (MainEnds fabric occurs garbage options origin) (withBuffers signed dev args txBuf rxBuf) s := by
  have aborted : ∀ error after, MainEnds fabric occurs garbage options origin (.faulted error) after := fun _ _ => .aborted
  have freed : ∀ (rc : Int) (s : Host), (rc = 0 → Plain args → AnswersAnew fabric args.txSize args.rxSize) →
      Owes origin.account (.mapping rxBuf args.rxSize :: .mapping txBuf args.txSize :: (handleThings dev++[])) s.account →
      Ensures ((host fabric).only occurs) (MainEnds fabric occurs garbage options origin)
        (freeRxBuf dev txBuf args.txSize rxBuf args.rxSize rc) s := by
    intro rc s answers owes
    refine freeRxBuf_ends aborted owes fun after owes => ?_
    exact .returned ⟨[],.inl rfl,owes⟩ fun zero => ⟨args,parsed,answers zero⟩
  unfold withBuffers
  refine ensures_if (fun _ => freed _ _ (fun zero => absurd zero (by decide)) owes) fun _ => ?_
  refine ensures_if (fun _ => freed _ _ (fun zero => absurd zero (by decide)) owes) fun _ => ?_
  refine choose_then aborted fun channels => ?_
  refine ensures_bind (singleTransferTest_ends.mono ?_)
  intro outcome s1 ends
  cases ends with
  | aborted => exact .aborted
  | @returned rc _ account answers =>
    have owes1 := account.symm ▸ owes
    refine ensures_if (fun negative => freed _ _ (fun zero => ?_) owes1) fun fine => ?_
    · omega
    · have answered : Plain args → AnswersAnew fabric args.txSize args.rxSize := by
        intro plain
        rw [int_kept plain.txFits,int_kept plain.rxFits] at answers
        refine answers fine ⟨plain.txAligned,plain.rxAligned,?_⟩
        rcases room with below | above
        · exact .inr below
        · exact .inl above
      refine ensures_bind (timeDma_ends.mono ?_)
      intro outcome s2 same
      cases outcome with
      | faulted error => exact .aborted
      | returned rc => exact freed rc s2 (fun _ => answered) (same rc rfl ▸ owes1)

theorem main_ends {garbage : Bool × Bool} {options : List GivenOption} :
    Ensures ((host fabric).only occurs) (MainEnds fabric occurs garbage options s) (main signed garbage options) s := by
  have aborted : ∀ error after, MainEnds fabric occurs garbage options s (.faulted error) after := fun _ _ => .aborted
  unfold main
  cases parsed : parseArgs garbage options with
  | error stop =>
    cases stop with
    | failed rc => exact .returned ⟨[],.inl rfl,.start⟩ fun zero => absurd zero (by decide)
    | help => exact .aborted
    | undefined => exact .aborted
  | ok args =>
    refine init_then aborted .start (fun dev s1 _ owes1 => ?_) fun dev left s1 only _ owes => ?_
    · refine malloc_then_program owes1 ?_ fun txBuf s2 _ _ owes2 => ?_
      · refine destroyAxidma_ends aborted owes1 fun after owes => ?_
        exact .returned ⟨[],.inl rfl,owes⟩ fun zero => absurd zero (by decide)
      · refine malloc_then_program owes2 ?_ fun rxBuf s3 room _ owes3 => ?_
        · refine freeTxBuf_ends aborted owes2 fun after owes => ?_
          exact .returned ⟨[],.inl rfl,owes⟩ fun zero => absurd zero (by decide)
        · have apart := room.2.2.2 _ (owes2.held.mem_iff.mpr List.mem_cons_self)
          exact withBuffers_ends parsed apart owes3
    · refine .returned ⟨left,?_,by simpa using owes⟩ fun zero => absurd zero (by decide)
      rcases only with none | ⟨arrays,unsignalled⟩
      · exact .inl none
      · exact .inr ⟨arrays,rfl,unsignalled⟩

end

theorem benchmark_returns_everything {garbage : Bool × Bool} {options : List GivenOption} {rc : Int} {record : Host × List (Event process)}
    (ran : Exec (host fabric).recorded (main signed garbage options) (s,[]) (.returned rc) record) :
    Settled (fun event => event ∈ record.2) s.account rc record.1 := by
  cases ensures_iff.mp main_ends _ _ ran.only.2 with
  | returned settled _ => exact settled

-- A main that returns 0 takes a fabric that answers the test data with something new.
theorem success_answered {garbage : Bool × Bool} {options : List GivenOption}
    (ran : Exec (host fabric) (main signed garbage options) s (.returned 0) after) :
    ∃ args, parseArgs garbage options = .ok args ∧ (Plain args → AnswersAnew fabric args.txSize args.rxSize) := by
  cases ensures_iff.mp main_ends _ _ ran.anything with
  | returned _ answers => exact answers rfl

end

def idle : Host := ⟨⟨[],[]⟩,fun _ => 0,fun _ => ⟨fun _ => 0,0⟩,fun _ => none,[]⟩

-- -b 8 -s 8 -n 2
def twoWords : List GivenOption := [.b [56],.s [56],.n [50]]

def benchmarked : Host := ((plain id).advance 60 (main true (false,false) twoWords) idle).2

theorem two_words_ran : Exec (host id) (main true (false,false) twoWords) idle (.returned 0) benchmarked :=
  answered_exec (by decide +kernel)

def recordedRun : Host × List (Event process) := ((plain id).recorded.advance 60 (main true (false,false) twoWords) (idle,[])).2

theorem two_words_recorded : Exec (host id).recorded (main true (false,false) twoWords) (idle,[]) (.returned 0) recordedRun :=
  answered_exec (by decide +kernel)

theorem two_words_settled : Settled (fun event => event ∈ recordedRun.2) idle.account 0 recordedRun.1 :=
  benchmark_returns_everything two_words_recorded

theorem two_words_answered : ∃ args, parseArgs (false,false) twoWords = .ok args ∧ (Plain args → AnswersAnew id args.txSize args.rxSize) :=
  success_answered two_words_ran

end Axidma.Benchmark
