import Axidma.HeaderDecoding
import Axidma.WhileLoop

namespace Axidma.ReceivedDump
open BitPacking FrameHeader HeaderDecoding WhileLoop

def LDPC_K : Int := 5632
def TRANS_NUM : Int := 8
def MAX_DATA_NUM : Int := (LDPC_K*((2 <<< 8)-1)).tdiv (8*TRANS_NUM)
def MAX_SIZE : Int := TRANS_NUM*MAX_DATA_NUM

-- The variables of the loop, with the pointer as a number of words from the
-- start of the buffer. None of them leaves the range of an int.
structure Dump where
  it : Int
  indexL : Int
  ct : Int
deriving DecidableEq

def totalct (sf : S2mmF) : Int := (sf.ldpcnum.toInt*LDPC_K).tdiv PACK_LEN+1

def startDump (totalct : Int) : Dump := ⟨0,0,totalct+5⟩

def printing (s : Dump) : Bool := decide (s.ct ≠ 0)

-- One pass; the word it prints is the one at indexL before it.
def printWord (totalct : Int) (s : Dump) : Dump :=
  let s : Dump := ⟨s.it+1,s.indexL+1,s.ct-1⟩
  if s.it = 5 then
    let skip := totalct-30
    ⟨s.it+skip,s.indexL+skip,s.ct-skip⟩
  else s

structure Dumped (totalct : Int) : Prop where
  ends : Ends printing (printWord totalct) (startDump totalct)
  inside : ∀ s, Visits printing (printWord totalct) (startDump totalct) s → printing s = true →
    0 ≤ s.indexL ∧ s.indexL ≤ MAX_SIZE/8-1

def DumpsAccepted (info : CInt × Option S2mmF) : Prop := ∀ sf, info.2 = some sf → Dumped (totalct sf)

def sentBlocks (rxBuf : Buffer) : Nat := ((loadLong rxBuf).extractLsb' 11 9).toNat

def Accepted (signed : Bool) (rxBuf : Buffer) : Prop :=
  topBits (loadLong rxBuf) = 0x1234 ∨ topBits (loadLong rxBuf) ∈ lookalikes signed

section
variable {s : Dump} {total : Int}

theorem printWord_fifth (fifth : s.it+1 = 5) :
    printWord total s = ⟨s.it+1+(total-30),s.indexL+1+(total-30),s.ct-1-(total-30)⟩ := if_pos fifth

theorem printWord_other (other : s.it+1 ≠ 5) : printWord total s = ⟨s.it+1,s.indexL+1,s.ct-1⟩ := if_neg other

-- The position and the count move against each other, skip or no skip. Before
-- the skip come the first five words, after it the last thirty.
structure Along (total : Int) (s : Dump) : Prop where
  same : s.it = s.indexL
  sum : s.indexL+s.ct = total+5
  place : (0 ≤ s.indexL ∧ s.indexL ≤ 4) ∨ (total-25 ≤ s.indexL ∧ s.indexL ≤ total+5)

theorem start_along : Along total (startDump total) := ⟨rfl,by simp [startDump],.inl (by simp [startDump])⟩

theorem Along.left (along : Along total s) (long : 31 ≤ total) (again : printing s = true) : 0 < s.ct := by
  have some : s.ct ≠ 0 := of_decide_eq_true again
  have sum := along.sum
  rcases along.place with early | late
  · omega
  · omega

theorem along_step (long : 31 ≤ total) (along : Along total s) (again : printing s = true) :
    Along total (printWord total s) ∧ (printWord total s).ct < s.ct := by
  have left := along.left long again
  have same := along.same
  have sum := along.sum
  by_cases fifth : s.it+1 = 5
  · have place : total-25 ≤ s.indexL+1+(total-30) ∧ s.indexL+1+(total-30) ≤ total+5 := by omega
    rw [printWord_fifth fifth]
    refine ⟨⟨?_,?_,.inr place⟩,?_⟩
    · show s.it+1+(total-30) = s.indexL+1+(total-30)
      rw [same]
    · show s.indexL+1+(total-30)+(s.ct-1-(total-30)) = total+5
      omega
    · show s.ct-1-(total-30) < s.ct
      omega
  · have place : (0 ≤ s.indexL+1 ∧ s.indexL+1 ≤ 4) ∨ (total-25 ≤ s.indexL+1 ∧ s.indexL+1 ≤ total+5) := by
      have before := along.place
      omega
    rw [printWord_other fifth]
    refine ⟨⟨?_,?_,place⟩,?_⟩
    · show s.it+1 = s.indexL+1
      rw [same]
    · show s.indexL+1+(s.ct-1) = total+5
      omega
    · show s.ct-1 < s.ct
      omega

theorem long_dumped (long : 31 ≤ total) (short : total+4 ≤ MAX_SIZE/8-1) : Dumped total := by
  have kept : ∀ s, Along total s → printing s = true → Along total (printWord total s) :=
    fun s along again => (along_step long along again).1
  constructor
  case ends =>
    apply ends_of_decreasing (fun s => s.ct.toNat) start_along kept
    intro s along again
    have less := (along_step long along again).2
    have left := along.left long again
    omega
  case inside =>
    intro s visits again
    have along := visits.keeps start_along kept
    have left := along.left long again
    have sum := along.sum
    rcases along.place with early | late
    · omega
    · omega

-- A frame without blocks: the skip goes back, again and again.
structure Circling (s : Dump) : Prop where
  same : s.it = s.indexL
  sum : s.indexL+s.ct = 6
  place : s.indexL ≤ 4

theorem circling_step (circling : Circling s) : Circling (printWord 1 s) := by
  have same := circling.same
  have sum := circling.sum
  have place := circling.place
  by_cases fifth : s.it+1 = 5
  · rw [printWord_fifth fifth]
    refine ⟨?_,?_,?_⟩
    · show s.it+1+(1-30) = s.indexL+1+(1-30)
      rw [same]
    · show s.indexL+1+(1-30)+(s.ct-1-(1-30)) = 6
      omega
    · show s.indexL+1+(1-30) ≤ 4
      omega
  · rw [printWord_other fifth]
    refine ⟨?_,?_,?_⟩
    · show s.it+1 = s.indexL+1
      rw [same]
    · show s.indexL+1+(s.ct-1) = 6
      omega
    · show s.indexL+1 ≤ 4
      omega

theorem empty_circles : ¬ Ends printing (printWord 1) (startDump 1) := by
  have start : Circling (startDump 1) := ⟨rfl,rfl,by decide⟩
  refine never_ends start (fun s circling => ?_) fun s => circling_step
  have sum := circling.sum
  have place := circling.place
  exact decide_eq_true (by omega)

-- A full frame: the last word printed is the sixth behind the buffer.
theorem full_overruns : ¬ Dumped (88*511+1) := by
  intro dumped
  have again : ∀ n, n < 34 → printing ((printWord (88*511+1))^[n] (startDump (88*511+1))) = true := by decide
  have read := dumped.inside _ (visits_iterate again) (by decide)
  exact absurd read.2 (by decide)

end

section
variable {signed : Bool} {rxBuf charpackS bitpackS rData : Buffer} {sf : S2mmF}

theorem field_toInt (w : CLong) : (field w 11 9).toInt = ((w.extractLsb' 11 9).toNat : Int) := by
  have small := (w.extractLsb' 11 9).isLt
  have value : (field w 11 9).toNat = (w.extractLsb' 11 9).toNat := by
    rw [field,BitVec.toNat_setWidth]
    omega
  rw [BitVec.toInt_eq_toNat_of_lt (by omega),value]

theorem totalct_sent (read : sf.ldpcnum = field (loadLong rxBuf) 11 9) : totalct sf = 88*(sentBlocks rxBuf : Int)+1 := by
  have blocks : (sentBlocks rxBuf : Int)*LDPC_K = 88*(sentBlocks rxBuf : Int)*(PACK_LEN : Int) := by
    show (sentBlocks rxBuf : Int)*5632 = 88*(sentBlocks rxBuf : Int)*64
    omega
  rw [totalct,read,field_toInt]
  show ((sentBlocks rxBuf : Int)*LDPC_K).tdiv PACK_LEN+1 = _
  rw [blocks,Int.mul_tdiv_cancel _ (by decide)]

theorem dumped_iff (n : Nat) (field : n < 512) : Dumped (88*n+1) ↔ 1 ≤ n ∧ n ≤ 510 := by
  have words : MAX_SIZE/8-1 = 44967 := rfl
  constructor
  · intro dumped
    constructor
    · apply Nat.pos_of_ne_zero
      intro none
      subst none
      exact empty_circles dumped.ends
    · apply Nat.le_of_lt_succ
      apply Nat.lt_of_le_of_ne (Nat.le_of_lt_succ field)
      intro full
      subst full
      exact full_overruns dumped
  · intro bounds
    apply long_dumped
    · omega
    · omega

theorem accepted_info (accepted : Accepted signed rxBuf) : ∃ sf,
    getInfo signed rxBuf charpackS bitpackS rData = (1234,some sf) ∧ totalct sf = 88*(sentBlocks rxBuf : Int)+1 := by
  have head : getHeadS2M signed (long2char (loadLong rxBuf) charpackS) = 1234 := head_accepted.mpr accepted
  refine ⟨getParamS2M signed (char2bit signed (long2char (loadLong rxBuf) charpackS) 8 bitpackS) rData,?_,?_⟩
  · simp only [getInfo,head,if_true]
  · exact totalct_sent decodes.ldpcnum

theorem refused_info (refused : ¬ Accepted signed rxBuf) : (getInfo signed rxBuf charpackS bitpackS rData).2 = none := by
  have other : getHeadS2M signed (long2char (loadLong rxBuf) charpackS) ≠ 1234 := fun same => refused (head_accepted.mp same)
  simp only [getInfo,if_neg other]

theorem dump_inside_iff (signed : Bool) (rxBuf charpackS bitpackS rData : Buffer) :
    DumpsAccepted (getInfo signed rxBuf charpackS bitpackS rData) ↔
      ¬ Accepted signed rxBuf ∨ (1 ≤ sentBlocks rxBuf ∧ sentBlocks rxBuf ≤ 510) := by
  have field : sentBlocks rxBuf < 512 := ((loadLong rxBuf).extractLsb' 11 9).isLt
  by_cases accepted : Accepted signed rxBuf
  · obtain ⟨sf,info,total⟩ := @accepted_info signed rxBuf charpackS bitpackS rData accepted
    have only : DumpsAccepted (1234,some sf) ↔ Dumped (totalct sf) := by
      constructor
      · exact fun dumps => dumps sf rfl
      · intro dumped other same
        obtain rfl := Option.some.inj same
        exact dumped
    rw [info,only,total,dumped_iff _ field]
    constructor
    · exact .inr
    · exact fun either => either.resolve_left fun refused => refused accepted
  · have none := @refused_info signed rxBuf charpackS bitpackS rData accepted
    refine iff_of_true (fun sf same => ?_) (.inl accepted)
    rw [none] at same
    cases same

def headOnly : Buffer := fun i => if i = 7 then 0x12 else if i = 6 then 0x34 else 0

theorem empty_frame_circles : ¬ ∀ signed rxBuf charpackS bitpackS rData,
    DumpsAccepted (getInfo signed rxBuf charpackS bitpackS rData) := by
  intro always
  have accepted : Accepted true headOnly := .inl (by decide)
  obtain ⟨sf,info,total⟩ := @accepted_info true headOnly headOnly headOnly headOnly accepted
  have dumped : Dumped (totalct sf) := always true headOnly headOnly headOnly headOnly sf (by rw [info])
  have blocks : sentBlocks headOnly = 0 := by decide
  rw [total,blocks] at dumped
  exact empty_circles dumped.ends

end
end Axidma.ReceivedDump
