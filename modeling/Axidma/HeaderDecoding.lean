import Mathlib.Data.List.Basic
import Axidma.FrameHeader

namespace Axidma.HeaderDecoding
open BitPacking FrameHeader

def field (w : CLong) (lo count : Nat) : CInt := (w.extractLsb' lo count).setWidth 32

structure Decodes (w : CLong) (sf : S2mmF) : Prop where
  crcR : sf.crcR = field w 39 1
  ldpcTnum : sf.ldpcTnum = field w 30 9
  ampDresult : sf.ampDresult = field w 28 2
  modu : sf.modu = field w 26 2
  mb : sf.mb = field w 20 6
  ldpcnum : sf.ldpcnum = field w 11 9

structure Agrees (msf : Mm2sF) (sf : S2mmF) : Prop where
  modulation : msf.modulation.value = sf.modu
  mb : msf.mb = sf.mb
  ldpcNum : msf.ldpcNum = sf.ldpcnum

-- The head, the three fields of a sent frame and nothing else.
structure SentLayout (w : CLong) : Prop where
  head : w.extractLsb' 48 16 = 0x1234
  between : w.extractLsb' 28 20 = 0
  below : w.extractLsb' 0 11 = 0

section
variable {signed : Bool} {w : CLong} {str bitpack rData stack data : Buffer} {msf : Mm2sF}

theorem field_bit {lo count k : Nat} (below : k < 32) :
    (field w lo count).getLsbD k = (decide (k < count) && w.getLsbD (lo+k)) := by
  rw [field,BitVec.getLsbD_setWidth,BitVec.getLsbD_extractLsb']
  simp only [below,decide_true,Bool.true_and]

theorem unpacked_field {lo count : Nat} (fits : lo+count ≤ 64) :
    readField signed (revertChar (char2bit signed (long2char w str) 8 bitpack) PACK_LEN rData) lo count = field w lo count := by
  apply BitVec.eq_of_getLsbD_eq
  intro k below
  rw [readField_bits below,field_bit below]
  by_cases inside : k < count
  · rw [unpacked_cell (by omega)]
  · simp [inside]

theorem two_bits (temp : CInt) (bits : ∀ k, k < 32 → 2 ≤ k → temp.getLsbD k = false) :
    ∃ modulation, MMod.ofValue temp = some modulation ∧ modulation.value = temp := by
  have small : temp.toNat < 2^2 := by
    apply Nat.lt_pow_two_of_testBit
    intro k above
    by_cases below : k < 32
    · exact bits k below above
    · exact BitVec.getLsbD_of_ge temp k (by omega)
  have values : temp = 0 ∨ temp = 1 ∨ temp = 2 ∨ temp = 3 := by
    have cases : temp.toNat = 0 ∨ temp.toNat = 1 ∨ temp.toNat = 2 ∨ temp.toNat = 3 := by omega
    rcases cases with same | same | same | same
    · exact .inl (BitVec.eq_of_toNat_eq same)
    · exact .inr (.inl (BitVec.eq_of_toNat_eq same))
    · exact .inr (.inr (.inl (BitVec.eq_of_toNat_eq same)))
    · exact .inr (.inr (.inr (BitVec.eq_of_toNat_eq same)))
  rcases values with rfl | rfl | rfl | rfl
  · exact ⟨.BPSK,rfl,rfl⟩
  · exact ⟨.QPSK,rfl,rfl⟩
  · exact ⟨.QAM16,rfl,rfl⟩
  · exact ⟨.QAM64,rfl,rfl⟩

theorem decodes : Decodes w (getParamS2M signed (char2bit signed (long2char w str) 8 bitpack) rData) := by
  constructor
  case crcR => exact unpacked_field (by decide)
  case ldpcTnum => exact unpacked_field (by decide)
  case ampDresult => exact unpacked_field (by decide)
  case modu => exact unpacked_field (by decide)
  case mb => exact unpacked_field (by decide)
  case ldpcnum => exact unpacked_field (by decide)

theorem decoded_m2s : ∃ modulation, modulation.value = field w 26 2 ∧
    getParamM2S signed (char2bit signed (long2char w str) 8 bitpack) rData =
      some ⟨modulation,field w 20 6,field w 11 9⟩ := by
  have bits : ∀ k, k < 32 → 2 ≤ k → (field w 26 2).getLsbD k = false := by
    intro k below above
    have outside : ¬ k < 2 := by omega
    rw [field_bit below]
    simp [outside]
  obtain ⟨modulation,named,value⟩ := two_bits (field w 26 2) bits
  refine ⟨modulation,value,?_⟩
  simp only [getParamM2S]
  rw [unpacked_field (by decide),unpacked_field (by decide),unpacked_field (by decide),named]
  rfl

theorem extracted_bit {lo count k : Nat} {value : BitVec count} (same : w.extractLsb' lo count = value) (inside : k < count) :
    w.getLsbD (lo+k) = value.getLsbD k := by
  rw [← same,BitVec.getLsbD_extractLsb']
  simp [inside]

theorem field_value {lo count k : Nat} {value : CInt} (same : value = field w lo count) (inside : k < count) (short : count ≤ 32) :
    w.getLsbD (lo+k) = value.getLsbD k := by
  rw [same,field_bit (by omega)]
  simp [inside]

theorem clear_bit {j : Nat} (outside : j < 11 ∨ 28 ≤ j) (below : j < 48) : headerBit msf stack j = false := by
  have clear : ¬ (j = 60 ∨ j = 57 ∨ j = 53 ∨ j = 52 ∨ j = 50) := by omega
  rw [head_bit outside (by omega)]
  simp [clear]

theorem sent_carries (sent : SentLayout w) (modulation : msf.modulation.value = field w 26 2) (mb : msf.mb = field w 20 6)
    (ldpcNum : msf.ldpcNum = field w 11 9) : Carries w msf stack := by
  have head : ∀ k, k < 16 →
      (0x1234 : BitVec 16).getLsbD k = decide (48+k = 60 ∨ 48+k = 57 ∨ 48+k = 53 ∨ 48+k = 52 ∨ 48+k = 50) := by decide
  intro n inside
  have region : n < 11 ∨ (11 ≤ n ∧ n < 20) ∨ (20 ≤ n ∧ n < 26) ∨ (26 ≤ n ∧ n < 28) ∨ (28 ≤ n ∧ n < 48) ∨ 48 ≤ n := by omega
  rcases region with low | ⟨above,below⟩ | ⟨above,below⟩ | ⟨above,below⟩ | ⟨above,below⟩ | above
  · have zero := extracted_bit sent.below low
    rw [Nat.zero_add] at zero
    rw [clear_bit (.inl low) (by omega),zero]
    simp
  · obtain ⟨k,rfl⟩ := Nat.exists_eq_add_of_le above
    rw [ldpcNum_bit (by omega)]
    exact field_value ldpcNum (by omega) (by decide)
  · obtain ⟨k,rfl⟩ := Nat.exists_eq_add_of_le above
    rw [mb_bit (by omega)]
    exact field_value mb (by omega) (by decide)
  · obtain ⟨k,rfl⟩ := Nat.exists_eq_add_of_le above
    rw [modulation_bit (by omega)]
    exact field_value modulation (by omega) (by decide)
  · obtain ⟨k,rfl⟩ := Nat.exists_eq_add_of_le above
    rw [clear_bit (.inr above) below,extracted_bit sent.between (by omega)]
    simp
  · obtain ⟨k,rfl⟩ := Nat.exists_eq_add_of_le above
    have last : k < 16 := by omega
    rw [head_bit (.inr (by omega)) inside,extracted_bit sent.head last]
    exact head k last

theorem header_layout (signed : Bool) (w : CLong) (str bitpack rDataS rDataM : Buffer) :
    Decodes w (getParamS2M signed (char2bit signed (long2char w str) 8 bitpack) rDataS) ∧
    ∃ msf, getParamM2S signed (char2bit signed (long2char w str) 8 bitpack) rDataM = some msf ∧
      Agrees msf (getParamS2M signed (char2bit signed (long2char w str) 8 bitpack) rDataS) ∧
      (SentLayout w → ∀ stack rData data i, i < 8 → constrM2S signed msf stack rData data i = long2char w str i) := by
  have read : Decodes w (getParamS2M signed (char2bit signed (long2char w str) 8 bitpack) rDataS) := decodes
  obtain ⟨modulation,value,decoded⟩ := decoded_m2s
  refine ⟨read,_,decoded,⟨value.trans read.modu.symm,read.mb.symm,read.ldpcnum.symm⟩,?_⟩
  intro sent stack rData data i inside
  have carries : Carries w ⟨modulation,field w 20 6,field w 11 9⟩ stack := sent_carries sent value rfl rfl
  apply BitVec.eq_of_getLsbD_eq
  intro k below
  rw [constrM2S_bits inside below,long2char_bits inside below,carries _ (by omega)]

theorem sent_layout_rebuilt : ∃ msf,
    getParamM2S true (char2bit true (long2char 0x1234000008532000 fun _ => 0xff) 8 fun _ => 0xff) (fun _ => 0xff) = some msf ∧
    ∀ stack rData data i, i < 8 → constrM2S true msf stack rData data i = long2char 0x1234000008532000 (fun _ => 0xff) i := by
  have sent : SentLayout 0x1234000008532000 := by
    constructor
    case head => decide
    case between => decide
    case below => decide
  obtain ⟨_,msf,decoded,_,rebuilt⟩ := header_layout true 0x1234000008532000 (fun _ => 0xff) (fun _ => 0xff) (fun _ => 0xff) fun _ => 0xff
  exact ⟨msf,decoded,rebuilt sent⟩

-- The upper digit of a byte as getHeadS2M takes it: a negative char shifts its
-- sign in, and the mask keeps eight bits.
def highDigit (signed : Bool) (byte : CChar) : Nat := if signed && byte.msb then 240+byte.toNat/16 else byte.toNat/16

theorem high_digit (byte : CChar) : ((promote signed byte).sshiftRight 4 &&& 0xff).toNat = highDigit signed byte := by
  revert byte
  cases signed <;> decide

theorem low_digit (byte : CChar) : (promote signed byte &&& 0x0f).toNat = byte.toNat%16 := by
  revert byte
  cases signed <;> decide

theorem highDigit_lt (byte : CChar) : highDigit signed byte < 256 := by
  rw [← high_digit byte,BitVec.toNat_and]
  exact Nat.lt_of_le_of_lt Nat.and_le_right (by decide)

theorem getHeadS2M_toNat : (getHeadS2M signed data).toNat =
    highDigit signed (data 0)*1000+(data 0).toNat%16*100+highDigit signed (data 1)*10+(data 1).toNat%16 := by
  have first := @highDigit_lt signed (data 0)
  have three := @highDigit_lt signed (data 1)
  simp only [getHeadS2M,BitVec.toNat_add,BitVec.toNat_mul,high_digit,low_digit]
  have thousand : (1000 : CInt).toNat = 1000 := rfl
  have hundred : (100 : CInt).toNat = 100 := rfl
  have ten : (10 : CInt).toNat = 10 := rfl
  rw [thousand,hundred,ten]
  omega

-- The other pairs of bytes whose digits come to the same sum.
def lookalikes (signed : Bool) : List (BitVec 16) :=
  if signed then [0x122e,0x0c34,0x0c2e] else [0x122e,0x0c34,0x0c2e,0x11d4,0x11ce,0x0bd4,0x0bce]

def topBits (w : CLong) : BitVec 16 := w.extractLsb' 48 16

theorem topBits_toNat : (topBits w).toNat = 256*(long2char w str 0).toNat+(long2char w str 1).toNat := by
  have first : long2char w str 0 = w.extractLsb' 56 8 := by
    apply BitVec.eq_of_getLsbD_eq
    intro k below
    rw [long2char_bits (by decide) below,BitVec.getLsbD_extractLsb']
    simp [below]
  have second : long2char w str 1 = w.extractLsb' 48 8 := by
    apply BitVec.eq_of_getLsbD_eq
    intro k below
    rw [long2char_bits (by decide) below,BitVec.getLsbD_extractLsb']
    simp [below]
  rw [first,second,topBits]
  simp only [BitVec.extractLsb'_toNat,Nat.shiftRight_eq_div_pow]
  omega

theorem unsigned_digits {first second : Nat} (inSecond : second < 256) :
    first/16*1000+first%16*100+second/16*10+second%16 = 1234 ↔
      256*first+second ∈ [0x1234,0x122e,0x0c34,0x0c2e,0x11d4,0x11ce,0x0bd4,0x0bce] := by
  simp only [List.mem_cons,List.not_mem_nil,or_false]
  omega

-- A digit from 240 on is too much for both places, so these bytes stay below 0x80.
theorem signed_digits {first second : Nat} (inFirst : first < 256) (inSecond : second < 256) :
    (if 128 ≤ first then 240+first/16 else first/16)*1000+first%16*100+
        (if 128 ≤ second then 240+second/16 else second/16)*10+second%16 = 1234 ↔
      256*first+second ∈ [0x1234,0x122e,0x0c34,0x0c2e] := by
  simp only [List.mem_cons,List.not_mem_nil,or_false]
  split
  · omega
  · split
    · omega
    · omega

theorem head_accepted : getHeadS2M signed (long2char w str) = 1234 ↔ topBits w = 0x1234 ∨ topBits w ∈ lookalikes signed := by
  have first := (long2char w str 0).isLt
  have second := (long2char w str 1).isLt
  have top := @topBits_toNat w str
  have value := @getHeadS2M_toNat signed (long2char w str)
  have listed : topBits w = 0x1234 ∨ topBits w ∈ lookalikes signed ↔
      (topBits w).toNat ∈ ((0x1234 : BitVec 16) :: lookalikes signed).map BitVec.toNat := by
    rw [List.mem_map_of_injective fun x y => BitVec.eq_of_toNat_eq,List.mem_cons]
  rw [← BitVec.toNat_inj,value,listed,top]
  cases signed with
  | false => exact unsigned_digits second
  | true =>
    simp only [highDigit,Bool.true_and,BitVec.msb_eq_decide,decide_eq_true_eq]
    exact signed_digits first second

-- A word is taken for a header exactly as it should be unless its head is one of
-- the others with that sum.
theorem magic_iff (signed : Bool) (w : CLong) (str : Buffer) :
    (getHeadS2M signed (long2char w str) = 1234 ↔ topBits w = 0x1234) ↔ topBits w ∉ lookalikes signed := by
  have apart : 0x1234 ∉ lookalikes signed := by cases signed <;> decide
  rw [head_accepted]
  constructor
  · intro same listed
    have head := same.mp (.inr listed)
    exact apart (head ▸ listed)
  · intro unlisted
    exact or_iff_left unlisted

theorem other_word_accepted : ¬ ∀ signed w str, getHeadS2M signed (long2char w str) = 1234 ↔ topBits w = 0x1234 := by
  intro always
  have accepted : getHeadS2M true (long2char 0x122e000000000000 fun _ => 0) = 1234 := by decide
  exact absurd ((always true 0x122e000000000000 fun _ => 0).mp accepted) (by decide)

end
end Axidma.HeaderDecoding
