import Axidma.BufferFillers
import Axidma.ReceivedDump

namespace Axidma.FrameTransmission
open BitPacking FrameHeader BufferFillers RecordedBuffer
open ReceivedDump (LDPC_K MAX_SIZE)

def CHANNEL_CORRECT_GROUP : Int := 69
def DATA_EQU_BLOCK : Int := 10
def MODU_CHARACTOR : Int := 448
def DATA_MAX : Int := MODU_CHARACTOR*(CHANNEL_CORRECT_GROUP*DATA_EQU_BLOCK-1)
def HOLE : Int := 512
def DATA_TR (mb : Int) : Int := (mb+22)*256-HOLE

def RAND_MAX : Nat := 2^31-1

-- What time says, cut down to the unsigned that srand gets.
abbrev Seed := BitVec 32

-- The first number that rand gives after srand.
abbrev Rand := Seed → Fin (RAND_MAX+1)

def randBtw (rand : Rand) (time : Seed) (small big : Int) : Int :=
  let (small,big) := if small > big then
      let big := small+big
      let small := big-small
      let big := big-small
      (small,big)
    else (small,big)
  ((rand time).val : Int).tmod (big-small+1)+small

def moduCal : MMod → Int
  | .BPSK => 1
  | .QPSK => 2
  | .QAM16 => 4
  | .QAM64 => 6

-- The quotient and one more if there is a rest, as the source spells it out.
def roundedUp (whole part : Int) : Int := if whole.tmod part = 0 then whole.tdiv part else whole.tdiv part+1

def ldpcBlocks (mb : Int) (modu : MMod) : Int :=
  let calU := DATA_MAX*moduCal modu
  let calD := DATA_TR mb
  roundedUp calU calD

-- None where the switch would leave modu_cal unset. Each draw seeds anew.
def randomMm2s (rand : Rand) (first second : Seed) : Option Mm2sF :=
  let mb := randBtw rand first 0 63
  let modu := randBtw rand second 0 3
  (MMod.ofValue (BitVec.ofInt 32 modu)).map fun modulation =>
    { modulation := modulation
      mb := BitVec.ofInt 32 mb
      ldpcNum := BitVec.ofInt 32 (ldpcBlocks mb modulation) }

def chooseFrame (randomFlag : CInt) (rand : Rand) (first second : Seed) : Option Mm2sF :=
  if randomFlag = 0 then randomMm2s rand first second
  else if randomFlag = 1 then some ⟨.BPSK,63,16⟩
  else some ⟨.QAM64,0,362⟩

def datalenInbyte (msf : Mm2sF) : Int :=
  let datalenInbit := msf.ldpcNum.toInt*LDPC_K
  roundedUp datalenInbit 8

-- The arrays on the stack and the heap, with what they held before.
structure Scratch where
  stack : Buffer
  rData : Buffer
  pack : Buffer
  packR : Buffer

def headerBytes (signed : Bool) (msf : Mm2sF) (scratch : Scratch) : Buffer :=
  revertChar (constrM2S signed msf scratch.stack scratch.rData scratch.pack) HEAD_SIZE scratch.packR

-- mm2s_all_test from the chosen frame on: what it leaves in the buffer, and the
-- length that it hands to axidma_oneway_transfer.
def fillFrame (signed : Bool) (msf : Mm2sF) (scratch : Scratch) (txBuf : Recorded CChar) : Recorded CChar × SizeT :=
  let txBuf := cleanTxData txBuf (BitVec.ofInt 64 MAX_SIZE)
  let txBuf := txBuf.writing 0 HEAD_SIZE (headerBytes signed msf scratch)
  let txBuf := txBuf.behind HEAD_SIZE fun buf => initTxData buf (BitVec.ofInt 64 (datalenInbyte msf))
  (txBuf,BitVec.ofInt 64 (datalenInbyte msf+HEAD_SIZE))

-- The loop of udp_recv: its count of frames, and the flag that it counts down.
structure Sender where
  total : CInt
  randomFlag : CInt

def Sender.start : Sender := ⟨0,2⟩

def Sender.next (s : Sender) : Sender :=
  let total := s.total+1
  let randomFlag := if total = 2 then s.randomFlag-1 else s.randomFlag
  let randomFlag := if total = 3 then randomFlag-1 else randomFlag
  ⟨total,randomFlag⟩

def sent (rand : Rand) (times : Nat → Seed × Seed) (n : Nat) : Option Mm2sF :=
  chooseFrame (Sender.next^[n] Sender.start).randomFlag rand (times n).1 (times n).2

section
variable {rand : Rand} {time first second : Seed} {small big mb : Int} {modu : MMod} {msf : Mm2sF}

theorem randBtw_between : min small big ≤ randBtw rand time small big ∧ randBtw rand time small big ≤ max small big := by
  have ordered : ∀ low high : Int, low ≤ high → low ≤ ((rand time).val : Int).tmod (high-low+1)+low ∧
      ((rand time).val : Int).tmod (high-low+1)+low ≤ high := by
    intro low high order
    have positive : 0 < high-low+1 := by omega
    have reduced := Int.tmod_lt_of_pos ((rand time).val : Int) positive
    have natural := Int.tmod_nonneg (high-low+1) (Int.natCast_nonneg (rand time).val)
    omega
  by_cases swapped : small > big
  · have turned := ordered big small (Int.le_of_lt swapped)
    have low : small+big-small = big := by omega
    have high : small+big-big = small := by omega
    simp only [randBtw,if_pos swapped,low,high]
    omega
  · have turned := ordered small big (Int.not_lt.mp swapped)
    simp only [randBtw,if_neg swapped]
    omega

theorem rounded_least {whole part : Int} (positive : 0 < part) (some : 0 < whole) :
    whole ≤ roundedUp whole part*part ∧ (roundedUp whole part-1)*part < whole := by
  have split := Int.mul_tdiv_add_tmod whole part
  have below := Int.tmod_lt_of_pos whole positive
  have natural := Int.tmod_nonneg part (Int.le_of_lt some)
  rw [Int.mul_comm] at split
  unfold roundedUp
  split_ifs with rest
  · rw [Int.sub_mul]
    omega
  · rw [Int.add_mul,Int.add_sub_cancel]
    omega

theorem moduCal_between : 1 ≤ moduCal modu ∧ moduCal modu ≤ 6 := by
  cases modu <;> decide

-- The least number of blocks that carries the frame, between 15 and 362.
theorem ldpcBlocks_least (low : 0 ≤ mb) (high : mb ≤ 63) :
    (DATA_MAX*moduCal modu ≤ ldpcBlocks mb modu*DATA_TR mb ∧ (ldpcBlocks mb modu-1)*DATA_TR mb < DATA_MAX*moduCal modu) ∧
      15 ≤ ldpcBlocks mb modu ∧ ldpcBlocks mb modu ≤ 362 := by
  have part : DATA_TR mb = 256*mb+5120 := by
    unfold DATA_TR HOLE
    omega
  have whole : DATA_MAX*moduCal modu = 308672*moduCal modu := rfl
  obtain ⟨one,six⟩ := @moduCal_between modu
  have least := @rounded_least (DATA_MAX*moduCal modu) (DATA_TR mb) (by omega) (by omega)
  have count : ldpcBlocks mb modu = roundedUp (DATA_MAX*moduCal modu) (DATA_TR mb) := rfl
  rw [← count] at least
  refine ⟨least,?_,?_⟩
  · apply Int.not_lt.mp
    intro few
    have short : ldpcBlocks mb modu*DATA_TR mb ≤ 14*DATA_TR mb := Int.mul_le_mul_of_nonneg_right (by omega) (by omega)
    omega
  · apply Int.not_lt.mp
    intro many
    have long : 362*DATA_TR mb ≤ (ldpcBlocks mb modu-1)*DATA_TR mb := Int.mul_le_mul_of_nonneg_right (by omega) (by omega)
    omega

theorem int_of {value : Int} (low : 0 ≤ value) (high : value < 2^31) : (BitVec.ofInt 32 value).toInt = value :=
  BitVec.toInt_ofInt_eq_self (by decide) (by omega) (by omega)

theorem modulation_of {value : Int} (low : 0 ≤ value) (high : value ≤ 3) :
    ∃ modu, MMod.ofValue (BitVec.ofInt 32 value) = some modu ∧ modu.value.toInt = value := by
  have four : value = 0 ∨ value = 1 ∨ value = 2 ∨ value = 3 := by omega
  rcases four with rfl | rfl | rfl | rfl
  · exact ⟨.BPSK,rfl,rfl⟩
  · exact ⟨.QPSK,rfl,rfl⟩
  · exact ⟨.QAM16,rfl,rfl⟩
  · exact ⟨.QAM64,rfl,rfl⟩

-- What random_mm2s makes of two draws: every field in its range, and the least
-- number of blocks that the other two need.
structure Drawn (drawnMb drawnModu : Int) (msf : Mm2sF) : Prop where
  mb : msf.mb.toInt = drawnMb ∧ 0 ≤ drawnMb ∧ drawnMb ≤ 63
  modulation : msf.modulation.value.toInt = drawnModu
  enough : DATA_MAX*moduCal msf.modulation ≤ msf.ldpcNum.toInt*DATA_TR drawnMb
  least : ∀ fewer : Int, fewer < msf.ldpcNum.toInt → fewer*DATA_TR drawnMb < DATA_MAX*moduCal msf.modulation
  ldpcNum : 15 ≤ msf.ldpcNum.toInt ∧ msf.ldpcNum.toInt ≤ 362

theorem random_drawn : ∃ msf, randomMm2s rand first second = some msf ∧
    Drawn (randBtw rand first 0 63) (randBtw rand second 0 3) msf := by
  have mbBounds := @randBtw_between rand first 0 63
  have moduBounds := @randBtw_between rand second 0 3
  obtain ⟨modu,named,value⟩ := @modulation_of (randBtw rand second 0 3) (by omega) (by omega)
  obtain ⟨least,low,high⟩ := @ldpcBlocks_least (randBtw rand first 0 63) modu (by omega) (by omega)
  have part : 0 ≤ DATA_TR (randBtw rand first 0 63) := by
    unfold DATA_TR HOLE
    omega
  have count : (BitVec.ofInt 32 (ldpcBlocks (randBtw rand first 0 63) modu)).toInt =
      ldpcBlocks (randBtw rand first 0 63) modu := int_of (by omega) (by omega)
  refine ⟨_,by rw [randomMm2s,named]; rfl,?_⟩
  constructor
  case mb => exact ⟨int_of (by omega) (by omega),by omega,by omega⟩
  case modulation => exact value
  case enough =>
    rw [count]
    exact least.1
  case least =>
    rw [count]
    intro fewer below
    have short : fewer*DATA_TR (randBtw rand first 0 63) ≤
        (ldpcBlocks (randBtw rand first 0 63) modu-1)*DATA_TR (randBtw rand first 0 63) :=
      Int.mul_le_mul_of_nonneg_right (by omega) part
    exact Int.lt_of_le_of_lt short least.2
  case ldpcNum =>
    rw [count]
    exact ⟨low,high⟩

theorem randBtw_zero {top : Int} (natural : 0 ≤ top) : randBtw rand time 0 top = ((rand time).val : Int)%(top+1) := by
  have ordered : ¬ 0 > top := Int.not_lt.mpr natural
  simp only [randBtw,if_neg ordered,Int.sub_zero,Int.add_zero]
  exact Int.tmod_eq_emod_of_nonneg (Int.natCast_nonneg _)

-- Draws within one second get the same number, so the modulation follows from Mb.
theorem random_mm2s_least (rand : Rand) (first second : Seed) : ∃ msf, randomMm2s rand first second = some msf ∧
    Drawn ((rand first).val%64) ((rand second).val%4) msf ∧
    (first = second → msf.modulation.value.toInt = msf.mb.toInt%4) := by
  have mb := @randBtw_zero rand first 63 (by decide)
  have modu := @randBtw_zero rand second 3 (by decide)
  obtain ⟨msf,made,drawn⟩ := @random_drawn rand first second
  rw [mb,modu] at drawn
  refine ⟨msf,made,drawn,fun same => ?_⟩
  subst same
  rw [drawn.modulation,drawn.mb.1]
  omega

-- The flag goes 2, 1, 0 over the first three frames and stays there.
theorem sender_flag {n : Nat} (early : n < 2^31) : (Sender.next^[n] Sender.start).total.toNat = n ∧
    (Sender.next^[n] Sender.start).randomFlag = if n < 2 then 2 else if n = 2 then 1 else 0 := by
  induction n with
  | zero => exact ⟨rfl,rfl⟩
  | succ n ih =>
    obtain ⟨total,flag⟩ := ih (by omega)
    rw [Function.iterate_succ_apply']
    generalize Sender.next^[n] Sender.start = s at total flag ⊢
    have next : (s.total+1).toNat = n+1 := by
      rw [BitVec.toNat_add,total]
      exact Nat.mod_eq_of_lt (by simp; omega)
    have second : s.total+1 = 2 ↔ n+1 = 2 := by
      rw [← BitVec.toNat_inj,next]
      rfl
    have third : s.total+1 = 3 ↔ n+1 = 3 := by
      rw [← BitVec.toNat_inj,next]
      rfl
    refine ⟨next,?_⟩
    simp only [Sender.next,second,third,flag]
    by_cases two : n = 1
    · subst two
      rfl
    · by_cases three : n = 2
      · subst three
        rfl
      · have notSecond : ¬ n+1 = 2 := by omega
        have notThird : ¬ n+1 = 3 := by omega
        rw [if_neg notThird,if_neg notSecond]
        by_cases first : n < 2
        · rw [if_pos first,if_pos (by omega)]
        · rw [if_neg first,if_neg three,if_neg (by omega),if_neg notSecond]

theorem sent_frame (rand : Rand) (times : Nat → Seed × Seed) {n : Nat} (begun : 1 ≤ n) (early : n < 2^31) :
    sent rand times n = if n = 1 then some ⟨.QAM64,0,362⟩ else if n = 2 then some ⟨.BPSK,63,16⟩
      else randomMm2s rand (times n).1 (times n).2 := by
  rw [sent,(sender_flag early).2]
  by_cases first : n = 1
  · rw [if_pos first,if_pos (by omega)]
    rfl
  · rw [if_neg first,if_neg (by omega)]
    by_cases second : n = 2
    · rw [if_pos second,if_pos second]
      rfl
    · rw [if_neg second,if_neg second]
      rfl

structure InRange (msf : Mm2sF) : Prop where
  mb : 0 ≤ msf.mb.toInt ∧ msf.mb.toInt ≤ 63
  ldpcNum : 15 ≤ msf.ldpcNum.toInt ∧ msf.ldpcNum.toInt ≤ 362

theorem sent_inRange (rand : Rand) (times : Nat → Seed × Seed) {n : Nat} (begun : 1 ≤ n) (early : n < 2^31) :
    ∃ msf, sent rand times n = some msf ∧ InRange msf := by
  rw [sent_frame rand times begun early]
  split_ifs
  · exact ⟨_,rfl,by decide,by decide⟩
  · exact ⟨_,rfl,by decide,by decide⟩
  · obtain ⟨msf,made,drawn⟩ := @random_drawn rand (times n).1 (times n).2
    exact ⟨msf,made,drawn.mb.1 ▸ drawn.mb.2,drawn.ldpcNum⟩

end

section
variable {signed : Bool} {msf : Mm2sF} {scratch : Scratch} {txBuf buf : Buffer} {k n : Nat}

theorem longs_cells {r : Recorded CChar} {value : Nat → CLong} :
    (upTo (fun i buf => storeLong buf i (value i)) n r).cells k =
      if k < SIZEOF_LONG*n then byteOf (value (k/SIZEOF_LONG)) (k%SIZEOF_LONG) else r.cells k := by
  induction n with
  | zero => rfl
  | succ n ih =>
    have next : SIZEOF_LONG*(n+1) = SIZEOF_LONG*n+SIZEOF_LONG := Nat.mul_succ SIZEOF_LONG n
    show (if SIZEOF_LONG*n ≤ k ∧ k < SIZEOF_LONG*n+SIZEOF_LONG then byteOf (value n) (k-SIZEOF_LONG*n) else _) = _
    rw [ih,next]
    by_cases here : SIZEOF_LONG*n ≤ k ∧ k < SIZEOF_LONG*n+SIZEOF_LONG
    · have word : k/SIZEOF_LONG = n := by
        unfold SIZEOF_LONG at *
        omega
      have place : k%SIZEOF_LONG = k-SIZEOF_LONG*n := by
        unfold SIZEOF_LONG at *
        omega
      rw [if_pos here,if_pos here.2,word,place]
    · rw [if_neg here]
      by_cases earlier : k < SIZEOF_LONG*n
      · rw [if_pos earlier,if_pos (by omega)]
      · rw [if_neg earlier,if_neg (by omega)]

theorem init_cells {size : SizeT} (aligned : size.toNat%SIZEOF_LONG = 0) (inside : k < size.toNat) :
    (initTxData (fresh buf) size).cells k = byteOf (pattern (BitVec.ofNat 64 (k/SIZEOF_LONG))) (k%SIZEOF_LONG) := by
  have words : k < SIZEOF_LONG*(size.toNat/SIZEOF_LONG) := by
    unfold SIZEOF_LONG at *
    omega
  simp only [initTxData,aligned,upTo]
  rw [longs_cells,if_pos words]

theorem init_beyond {size : SizeT} (aligned : size.toNat%SIZEOF_LONG = 0) (beyond : ¬ k < size.toNat) :
    (initTxData (fresh buf) size).cells k = buf k := by
  have words : ¬ k < SIZEOF_LONG*(size.toNat/SIZEOF_LONG) := by
    unfold SIZEOF_LONG at *
    omega
  simp only [initTxData,aligned,upTo]
  rw [longs_cells,if_neg words]
  rfl

def blocks (msf : Mm2sF) : Nat := msf.ldpcNum.toInt.toNat

structure Framed (signed : Bool) (msf : Mm2sF) (scratch : Scratch) (txBuf : Buffer) : Prop where
  inside : ∀ k ∈ (fillFrame signed msf scratch (fresh txBuf)).1.written, (k : Int) < MAX_SIZE
  length : (fillFrame signed msf scratch (fresh txBuf)).2.toNat = 8+704*blocks msf
  fits : ((8+704*blocks msf : Nat) : Int) ≤ MAX_SIZE
  header : ∀ k, k < 8 → (fillFrame signed msf scratch (fresh txBuf)).1.cells k = headerBytes signed msf scratch k
  payload : ∀ i j, i < 88*blocks msf → j < 8 →
    (fillFrame signed msf scratch (fresh txBuf)).1.cells (8+8*i+j) = byteOf (pattern (BitVec.ofNat 64 i)) j
  rest : ∀ k, 8+704*blocks msf ≤ k → (k : Int) < MAX_SIZE → (fillFrame signed msf scratch (fresh txBuf)).1.cells k = 0

theorem size_of (small : n < 2^64) : (BitVec.ofInt 64 (n : Int)).toNat = n := by
  rw [BitVec.ofInt_natCast,BitVec.toNat_ofNat,Nat.mod_eq_of_lt small]

theorem max_size : MAX_SIZE = ((359744 : Nat) : Int) := rfl

theorem datalen_blocks (natural : 0 ≤ msf.ldpcNum.toInt) : datalenInbyte msf = ((704*blocks msf : Nat) : Int) := by
  have count : msf.ldpcNum.toInt = (blocks msf : Int) := (Int.toNat_of_nonneg natural).symm
  have bits : msf.ldpcNum.toInt*LDPC_K = ((704*blocks msf : Nat) : Int)*8 := by
    rw [count]
    show (blocks msf : Int)*5632 = _
    push_cast
    omega
  simp only [datalenInbyte,roundedUp]
  rw [bits,Int.mul_tmod_left,if_pos rfl,Int.mul_tdiv_cancel _ (by decide)]

theorem frame_framed (range : InRange msf) : Framed signed msf scratch txBuf := by
  have few : blocks msf ≤ 362 := by
    have high := range.ldpcNum.2
    unfold blocks
    omega
  have natural : 0 ≤ msf.ldpcNum.toInt := by
    have low := range.ldpcNum.1
    omega
  have datalen := datalen_blocks natural
  have size : (BitVec.ofInt 64 (datalenInbyte msf)).toNat = 704*blocks msf := by
    rw [datalen]
    exact size_of (by omega)
  have aligned : (BitVec.ofInt 64 (datalenInbyte msf)).toNat%SIZEOF_LONG = 0 := by
    rw [size]
    unfold SIZEOF_LONG
    omega
  have total : (BitVec.ofInt 64 MAX_SIZE).toNat = 359744 := by
    rw [max_size]
    exact size_of (by decide)
  constructor
  case inside =>
    intro k member
    rw [max_size]
    rcases mem_behind.mp member with data | before
    · have written := init_written.mp data.2
      rw [aligned,size] at written
      have place := data.1
      unfold SIZEOF_LONG HEAD_SIZE at *
      omega
    · rcases mem_writing.mp before with head | clean
      · unfold HEAD_SIZE at head
        omega
      · have below := cleanTx_written.mp clean
        omega
  case length =>
    show (BitVec.ofInt 64 (datalenInbyte msf+(HEAD_SIZE : Int))).toNat = _
    have sum : datalenInbyte msf+(HEAD_SIZE : Int) = ((8+704*blocks msf : Nat) : Int) := by
      rw [datalen]
      unfold HEAD_SIZE
      omega
    rw [sum]
    exact size_of (by omega)
  case fits =>
    rw [max_size]
    omega
  case header =>
    intro k head
    have first : k < HEAD_SIZE := head
    have within : 0 ≤ k ∧ k < 0+HEAD_SIZE := by omega
    show (if k < HEAD_SIZE then _ else _) = _
    rw [if_pos first]
    show (if 0 ≤ k ∧ k < 0+HEAD_SIZE then _ else _) = _
    rw [if_pos within]
    rfl
  case payload =>
    intro i j word byte
    have behind : ¬ 8+8*i+j < HEAD_SIZE := by
      unfold HEAD_SIZE
      omega
    have place : 8+8*i+j-HEAD_SIZE = 8*i+j := by
      unfold HEAD_SIZE
      omega
    have number : (8*i+j)/SIZEOF_LONG = i := by
      unfold SIZEOF_LONG
      omega
    have offset : (8*i+j)%SIZEOF_LONG = j := by
      unfold SIZEOF_LONG
      omega
    show (if 8+8*i+j < HEAD_SIZE then _ else _) = _
    rw [if_neg behind,place,init_cells aligned (by omega),number,offset]
  case rest =>
    intro k after below
    have behind : ¬ k < HEAD_SIZE := by
      unfold HEAD_SIZE
      omega
    have beyond : ¬ k-HEAD_SIZE < (BitVec.ofInt 64 (datalenInbyte msf)).toNat := by
      unfold HEAD_SIZE
      omega
    have place : HEAD_SIZE+(k-HEAD_SIZE) = k := Nat.add_sub_cancel' (Nat.not_lt.mp behind)
    have head : ¬ (0 ≤ k ∧ k < 0+HEAD_SIZE) := by omega
    show (if k < HEAD_SIZE then _ else _) = _
    rw [if_neg behind,init_beyond aligned beyond,place]
    show (if 0 ≤ k ∧ k < 0+HEAD_SIZE then _ else _) = _
    rw [if_neg head]
    apply cleanTx_filled
    rw [cleanTx_written,total]
    rw [max_size] at below
    omega

theorem frames_framed (rand : Rand) (times : Nat → Seed × Seed) (signed : Bool) (scratch : Scratch) (txBuf : Buffer) (n : Nat)
    (begun : 1 ≤ n) (early : n < 2^31) : ∃ msf, sent rand times n = some msf ∧ Framed signed msf scratch txBuf := by
  obtain ⟨msf,made,range⟩ := sent_inRange rand times begun early
  exact ⟨msf,made,frame_framed range⟩

theorem third_frame_framed : ∃ msf, sent (fun _ => 77) (fun n => (BitVec.ofNat 32 n,BitVec.ofNat 32 n)) 3 = some msf ∧
    Framed true msf ⟨fun _ => 0xff,fun _ => 0xff,fun _ => 0xff,fun _ => 0xff⟩ fun _ => 0xff :=
  frames_framed (fun _ => 77) (fun n => (BitVec.ofNat 32 n,BitVec.ofNat 32 n)) true
    ⟨fun _ => 0xff,fun _ => 0xff,fun _ => 0xff,fun _ => 0xff⟩ (fun _ => 0xff) 3 (by decide) (by decide)

end

end Axidma.FrameTransmission
