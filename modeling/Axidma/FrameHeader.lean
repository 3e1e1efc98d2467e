import Axidma.BitPacking
import Axidma.DriverTypes

namespace Axidma.FrameHeader
open BitPacking

abbrev CChar := BitVec 8
abbrev CLong := BitVec 64

def PACK_LEN : Nat := 64
def HEAD_SIZE : Nat := 8

inductive MMod where
  | BPSK
  | QPSK
  | QAM16
  | QAM64
deriving DecidableEq

def MMod.value : MMod → CInt
  | .BPSK => 0
  | .QPSK => 1
  | .QAM16 => 2
  | .QAM64 => 3

def MMod.ofValue (temp : CInt) : Option MMod :=
  if temp = 0 then some .BPSK else if temp = 1 then some .QPSK else if temp = 2 then some .QAM16 else if temp = 3 then some .QAM64 else none

structure Mm2sF where
  modulation : MMod
  mb : CInt
  ldpcNum : CInt

structure S2mmF where
  crcR : CInt
  ldpcTnum : CInt
  ampDresult : CInt
  modu : CInt
  mb : CInt
  ldpcnum : CInt

-- One more byte than len is copied before the first len are reversed.
def revertChar (data : Buffer) (len : Nat) (rData : Buffer) : Buffer :=
  reverseBetween (copy rData data (len+1)) 0 (len-1)

def long2char (num : CLong) (str : Buffer) : Buffer :=
  let count := 8
  upTo (fun i str => store str i ((num.sshiftRight ((count-1-i)*8) &&& 0xff).setWidth 8)) count str

-- The arrays that a function gets from malloc, or leaves unset, are parameters.
section
variable (signed : Bool)

-- The promotion of a char to int, for either kind of char.
def promote (c : CChar) : CInt := if signed then c.signExtend 32 else c.setWidth 32

def char2bit (pack : Buffer) (len : Nat) (bitpack : Buffer) : Buffer :=
  upTo (fun i bitpack =>
    let index := i/8
    store bitpack i (((promote signed (pack index)).sshiftRight (7-i%8) &&& 1).setWidth 8)) (len*8) bitpack

def bit2char (bitpack : Buffer) (lenInchar : Nat) (pack : Buffer) : Buffer :=
  upTo (fun i pack =>
    let index := i/8
    store pack index ((promote signed (pack index) <<< 1 ||| (1 &&& promote signed (bitpack i))).setWidth 8))
    (lenInchar*8) pack

def getHeadS2M (data : Buffer) : CInt :=
  let first := (promote signed (data 0)).sshiftRight 4 &&& 0xff
  let second := promote signed (data 0) &&& 0x0f
  let three := (promote signed (data 1)).sshiftRight 4 &&& 0xff
  let four := promote signed (data 1) &&& 0x0f
  first*1000+second*100+three*10+four

def readField (rData : Buffer) (lo count : Nat) : CInt :=
  downTo (fun i temp => temp <<< 1+(promote signed (rData i) &&& 1)) lo count 0

def getParamS2M (data rData : Buffer) : S2mmF :=
  let rData := revertChar data PACK_LEN rData
  { crcR := readField signed rData 39 1
    ldpcTnum := readField signed rData 30 9
    ampDresult := readField signed rData 28 2
    modu := readField signed rData 26 2
    mb := readField signed rData 20 6
    ldpcnum := readField signed rData 11 9 }

-- None when the two bits of the modulation named no enumerator.
def getParamM2S (data rData : Buffer) : Option Mm2sF :=
  let rData := revertChar data PACK_LEN rData
  (MMod.ofValue (readField signed rData 26 2)).map fun modulation =>
    { modulation := modulation
      mb := readField signed rData 20 6
      ldpcNum := readField signed rData 11 9 }

def writeField (value : CInt) (lo count : Nat) (pack : Buffer) : Buffer :=
  downTo (fun i pack => store pack i ((value.sshiftRight (i-lo) &&& 1).setWidth 8)) lo count pack

def writeModulation (modu : MMod) (pack : Buffer) : Buffer :=
  match modu with
  | .BPSK => store (store pack 27 0) 26 0
  | .QPSK => store (store pack 27 0) 26 1
  | .QAM16 => store (store pack 27 1) 26 0
  | .QAM64 => store (store pack 27 1) 26 1

-- char pack[64], with what lies behind it on the stack.
def packM2S (mm2sFirst : Mm2sF) (stack : Buffer) : Buffer :=
  let pack : Buffer := fun i => if i < 64 then 0 else stack i
  let pack := store pack 60 1
  let pack := store pack 57 1
  let pack := store pack 53 1
  let pack := store pack 52 1
  let pack := store pack 50 1
  let pack := writeModulation mm2sFirst.modulation pack
  let pack := writeField mm2sFirst.mb 20 6 pack
  writeField mm2sFirst.ldpcNum 11 9 pack

def constrM2S (mm2sFirst : Mm2sF) (stack rData data : Buffer) : Buffer :=
  bit2char signed (revertChar (packM2S mm2sFirst stack) PACK_LEN rData) 8 data

-- What mm2s_all_test does with the header, up to the copy to the buffer.
def mm2sAllTest (msf : Mm2sF) (stack rData pack packR txBuf : Buffer) : Buffer :=
  let pack := constrM2S signed msf stack rData pack
  let packR := revertChar pack HEAD_SIZE packR
  copy txBuf packR HEAD_SIZE

def loadLong (buf : Buffer) : CLong := BitVec.ofNat 64 (littleEndian buf 8)

-- The head, and the fields when it is the right one; *lcnum is set to their ldpcnum.
def getInfo (rxBuf charpackS bitpackS rData : Buffer) : CInt × Option S2mmF :=
  let dataS := loadLong rxBuf
  let charpackS := long2char dataS charpackS
  let j := getHeadS2M signed charpackS
  if j = 1234 then (j,some (getParamS2M signed (char2bit signed charpackS 8 bitpackS) rData)) else (j,none)

end

structure Matches (msf : Mm2sF) (sf : S2mmF) : Prop where
  modu : sf.modu = msf.modulation.value
  mb : sf.mb.toInt = msf.mb.toInt%64
  mbFits : 0 ≤ msf.mb.toInt → msf.mb.toInt < 64 → sf.mb = msf.mb
  ldpcnum : sf.ldpcnum.toInt = msf.ldpcNum.toInt%512
  ldpcnumFits : 0 ≤ msf.ldpcNum.toInt → msf.ldpcNum.toInt < 512 → sf.ldpcnum = msf.ldpcNum
  crcR : sf.crcR = 0
  ldpcTnum : sf.ldpcTnum = 0
  ampDresult : sf.ampDresult = 0

def Recovers (msf : Mm2sF) (info : CInt × Option S2mmF) : Prop :=
  info.1 = 1234 ∧ ∃ sf, info.2 = some sf ∧ Matches msf sf

section
variable {signed : Bool} {msf : Mm2sF} {stack rData pack packR txBuf rxBuf charpackS bitpackS data : Buffer}

theorem promote_low (c : CChar) {k : Nat} (below : k < 8) : (promote signed c).getLsbD k = c.getLsbD k := by
  have inside : k < 32 := by omega
  cases signed with
  | true =>
    rw [promote,if_pos rfl,BitVec.getLsbD_signExtend]
    simp [below,inside]
  | false => simp [promote,inside]

theorem promote_back (c : CChar) : (promote signed c).setWidth 8 = c := by
  apply BitVec.eq_of_getLsbD_eq
  intro k below
  rw [BitVec.getLsbD_setWidth,promote_low c below]
  simp only [below,decide_true,Bool.true_and]

theorem revertChar_apply {len k : Nat} (inside : k < len) : revertChar data len rData k = data (len-1-k) := by
  have bounds : 0 ≤ k ∧ k ≤ len-1 := by omega
  have copied : 0+(len-1)-k < len+1 := by omega
  rw [revertChar,reverseBetween_apply,if_pos bounds,copy,if_pos copied,Nat.zero_add]

-- What the loops keep: which cells are done after n steps, or with i to go.
def LongChars (num : CLong) (n : Nat) (str : Buffer) : Prop :=
  ∀ j k, j < n → k < 8 → (str j).getLsbD k = num.getLsbD ((7-j)*8+k)

theorem longChars_step {num : CLong} {str : Buffer} {n : Nat} (inside : n < 8) (holds : LongChars num n str) :
    LongChars num (n+1) (store str n ((num.sshiftRight ((8-1-n)*8) &&& 0xff).setWidth 8)) := by
  have mask : ∀ k, k < 8 → (0xff : CLong).getLsbD k = true := by decide
  intro j k earlier below
  by_cases here : j = n
  · subst here
    have fits : (8-1-j)*8+k < 64 := by omega
    have word : ¬ 64 ≤ k := by omega
    rw [store,if_pos rfl,BitVec.getLsbD_setWidth,BitVec.getLsbD_and,BitVec.getLsbD_sshiftRight,mask k below,if_pos fits]
    simp only [below,word,decide_true,decide_false,Bool.not_false,Bool.true_and,Bool.and_true]
  · rw [store,if_neg here]
    exact holds j k (by omega) below

theorem long2char_bits {num : CLong} {str : Buffer} {i k : Nat} (inside : i < 8) (below : k < 8) :
    (long2char num str i).getLsbD k = num.getLsbD ((7-i)*8+k) := by
  have start : LongChars num 0 str := fun j k earlier => absurd earlier (Nat.not_lt_zero j)
  have written : LongChars num 8 (long2char num str) := upTo_keeps (LongChars num) start fun n str => longChars_step
  exact written i k inside below

theorem char2bit_apply {bitpack : Buffer} {len i : Nat} : char2bit signed pack len bitpack i =
    if i < len*8 then ((promote signed (pack (i/8))).sshiftRight (7-i%8) &&& 1).setWidth 8 else bitpack i :=
  upTo_store fun i => ((promote signed (pack (i/8))).sshiftRight (7-i%8) &&& 1).setWidth 8

theorem char2bit_bit {bitpack : Buffer} {len i : Nat} (inside : i < len*8) :
    (char2bit signed pack len bitpack i).getLsbD 0 = (pack (i/8)).getLsbD (7-i%8) := by
  have shift : 7-i%8 < 32 := by omega
  have bit : 7-i%8 < 8 := by omega
  rw [char2bit_apply,if_pos inside,BitVec.getLsbD_setWidth,masked_bit _ shift,promote_low _ bit]
  rfl

theorem unpacked_cell {num : CLong} {j : Nat} (inside : j < 64) :
    (revertChar (char2bit signed (long2char num charpackS) 8 bitpackS) PACK_LEN rData j).getLsbD 0 = num.getLsbD j := by
  have place : j < PACK_LEN := inside
  have within : PACK_LEN-1-j < 8*8 := by
    unfold PACK_LEN
    omega
  have byte : (PACK_LEN-1-j)/8 < 8 := by omega
  have bit : 7-(PACK_LEN-1-j)%8 < 8 := by omega
  have cell : (7-(PACK_LEN-1-j)/8)*8+(7-(PACK_LEN-1-j)%8) = j := by
    unfold PACK_LEN
    omega
  rw [revertChar_apply place,char2bit_bit within,long2char_bits byte bit,cell]

-- After n steps the cell j has taken in the first n-8*j of its bits, up to 8.
def TakenIn (bitpack pack : Buffer) (n : Nat) (now : Buffer) : Prop :=
  ∀ j k, k < 8 → (now j).getLsbD k =
    if k < min 8 (n-8*j) then (bitpack (8*j+min 8 (n-8*j)-1-k)).getLsbD 0 else (pack j).getLsbD (k-min 8 (n-8*j))

theorem takenIn_step {bitpack now : Buffer} {n : Nat} (holds : TakenIn bitpack pack n now) :
    TakenIn bitpack pack (n+1) (store now (n/8)
      ((promote signed (now (n/8)) <<< 1 ||| (1 &&& promote signed (bitpack n))).setWidth 8)) := by
  intro j k below
  by_cases here : j = n/8
  · subst here
    have now' : min 8 (n-8*(n/8)) = n%8 := by omega
    have next : min 8 (n+1-8*(n/8)) = n%8+1 := by omega
    have word : k < 32 := by omega
    rw [store,if_pos rfl,BitVec.getLsbD_setWidth,push_or _ _ word,next]
    by_cases zero : k = 0
    · have last : 8*(n/8)+(n%8+1)-1-k = n := by omega
      have taken : k < n%8+1 := by omega
      rw [if_pos zero,if_pos taken,last,promote_low _ (by decide)]
      simp only [below,decide_true,Bool.true_and]
    · have lower : k-1 < 8 := by omega
      have cell := holds (n/8) (k-1) lower
      have bit : 8*(n/8)+(n%8+1)-1-k = 8*(n/8)+n%8-1-(k-1) := by omega
      have old : k-(n%8+1) = k-1-n%8 := by omega
      have either : k < n%8+1 ↔ k-1 < n%8 := by omega
      rw [now'] at cell
      rw [if_neg zero,promote_low _ lower,cell,bit,old]
      simp only [below,decide_true,Bool.true_and,either]
  · rw [store,if_neg here,holds j k below]
    have same : min 8 (n+1-8*j) = min 8 (n-8*j) := by omega
    rw [same]

theorem bit2char_bits {bitpack : Buffer} {len j k : Nat} (inside : j < len) (below : k < 8) :
    (bit2char signed bitpack len pack j).getLsbD k = (bitpack (8*j+7-k)).getLsbD 0 := by
  have start : TakenIn bitpack pack 0 pack := by
    intro j k below
    simp
  have taken : TakenIn bitpack pack (len*8) (bit2char signed bitpack len pack) :=
    upTo_keeps (TakenIn bitpack pack) start fun n now _ => takenIn_step
  have all : min 8 (len*8-8*j) = 8 := by omega
  have cell : 8*j+8-1-k = 8*j+7-k := by omega
  rw [taken j k below,all,if_pos below,cell]

def ReadDown (data : Buffer) (lo count i : Nat) (temp : CInt) : Prop :=
  ∀ k, k < 32 → temp.getLsbD k = (decide (k < count-i) && (data (lo+i+k)).getLsbD 0)

theorem readDown_step {lo count i : Nat} {temp : CInt} (inside : i < count) (holds : ReadDown data lo count (i+1) temp) :
    ReadDown data lo count i (temp <<< 1+(promote signed (data (lo+i)) &&& 1)) := by
  intro k below
  rw [push_add _ _ below]
  by_cases zero : k = 0
  · have some : 0 < count-i := by omega
    rw [if_pos zero,promote_low _ (by decide),zero,Nat.add_zero]
    simp only [some,decide_true,Bool.true_and]
  · have cell : lo+(i+1)+(k-1) = lo+i+k := by omega
    have left : k-1 < count-(i+1) ↔ k < count-i := by omega
    rw [if_neg zero,holds (k-1) (by omega),cell]
    simp only [left]

theorem readField_bits {lo count k : Nat} (below : k < 32) :
    (readField signed data lo count).getLsbD k = (decide (k < count) && (data (lo+k)).getLsbD 0) := by
  have start : ReadDown data lo count count 0 := by
    intro k _
    simp
  have read : ReadDown data lo count 0 (readField signed data lo count) :=
    downTo_keeps (ReadDown data lo count) start fun i temp => readDown_step
  exact read k below

def WrittenDown (value : CInt) (pack : Buffer) (lo count i : Nat) (now : Buffer) : Prop :=
  ∀ k, (now k).getLsbD 0 = if lo+i ≤ k ∧ k < lo+count then value.getLsbD (k-lo) else (pack k).getLsbD 0

theorem writtenDown_step {value : CInt} {lo count i : Nat} {now : Buffer} (short : count ≤ 32) (inside : i < count)
    (holds : WrittenDown value pack lo count (i+1) now) :
    WrittenDown value pack lo count i (store now (lo+i) ((value.sshiftRight (lo+i-lo) &&& 1).setWidth 8)) := by
  intro k
  by_cases here : k = lo+i
  · have shift : lo+i-lo = i := by omega
    have within : lo+i ≤ k ∧ k < lo+count := by omega
    have last : k-lo = i := by omega
    have word : i < 32 := by omega
    rw [store,if_pos here,if_pos within,last,shift,BitVec.getLsbD_setWidth,masked_bit _ word]
    rfl
  · have same : (lo+(i+1) ≤ k ∧ k < lo+count) ↔ (lo+i ≤ k ∧ k < lo+count) := by omega
    rw [store,if_neg here,holds k]
    simp only [same]

theorem writeField_bit {value : CInt} {lo count : Nat} (short : count ≤ 32) (k : Nat) :
    (writeField value lo count pack k).getLsbD 0 =
      if lo ≤ k ∧ k < lo+count then value.getLsbD (k-lo) else (pack k).getLsbD 0 := by
  have start : WrittenDown value pack lo count count pack := by
    intro k
    have none : ¬ (lo+count ≤ k ∧ k < lo+count) := by omega
    rw [if_neg none]
  have written : WrittenDown value pack lo count 0 (writeField value lo count pack) :=
    downTo_keeps (WrittenDown value pack lo count) start fun i now => writtenDown_step short
  exact written k

end

section
variable {signed : Bool} {msf : Mm2sF} {stack rData pack packR txBuf rxBuf charpackS bitpackS : Buffer}

def headerBit (msf : Mm2sF) (stack : Buffer) (j : Nat) : Bool := (packM2S msf stack j).getLsbD 0

theorem ldpcNum_bit {k : Nat} (inside : k < 9) : headerBit msf stack (11+k) = msf.ldpcNum.getLsbD k := by
  have field : 11 ≤ 11+k ∧ 11+k < 11+9 := by omega
  unfold headerBit packM2S
  rw [writeField_bit (by decide),if_pos field,Nat.add_sub_cancel_left]

theorem mb_bit {k : Nat} (inside : k < 6) : headerBit msf stack (20+k) = msf.mb.getLsbD k := by
  have other : ¬ (11 ≤ 20+k ∧ 20+k < 11+9) := by omega
  have field : 20 ≤ 20+k ∧ 20+k < 20+6 := by omega
  unfold headerBit packM2S
  rw [writeField_bit (by decide),if_neg other,writeField_bit (by decide),if_pos field,Nat.add_sub_cancel_left]

theorem outer_bit {j : Nat} (outside : j < 11 ∨ 26 ≤ j) : headerBit msf stack j =
    (writeModulation msf.modulation (store (store (store (store (store (fun i => if i < 64 then 0 else stack i)
      60 1) 57 1) 53 1) 52 1) 50 1) j).getLsbD 0 := by
  have first : ¬ (11 ≤ j ∧ j < 11+9) := by omega
  have second : ¬ (20 ≤ j ∧ j < 20+6) := by omega
  unfold headerBit packM2S
  rw [writeField_bit (by decide),if_neg first,writeField_bit (by decide),if_neg second]

theorem modulation_bit {k : Nat} (inside : k < 2) : headerBit msf stack (26+k) = msf.modulation.value.getLsbD k := by
  rw [outer_bit (by omega)]
  have cells : k = 0 ∨ k = 1 := by omega
  rcases cells with rfl | rfl
  · cases msf.modulation <;> simp [writeModulation,store,MMod.value]
  · cases msf.modulation <;> simp [writeModulation,store,MMod.value]

theorem head_bit {j : Nat} (outside : j < 11 ∨ 28 ≤ j) (below : j < 64) :
    headerBit msf stack j = decide (j = 60 ∨ j = 57 ∨ j = 53 ∨ j = 52 ∨ j = 50) := by
  have passed : ∀ modu (pack : Buffer), writeModulation modu pack j = pack j := by
    intro modu pack
    have first : j ≠ 26 := by omega
    have second : j ≠ 27 := by omega
    cases modu <;> simp [writeModulation,store,first,second]
  rw [outer_bit (by omega),passed]
  simp only [store,below,if_true]
  split_ifs <;> simp [*]

-- The bytes as constrM2S leaves them have the header's last cell in front.
theorem constrM2S_bits {data : Buffer} {i k : Nat} (inside : i < 8) (below : k < 8) :
    (constrM2S signed msf stack rData data i).getLsbD k = headerBit msf stack ((7-i)*8+k) := by
  have cell : 8*i+7-k < PACK_LEN := by
    unfold PACK_LEN
    omega
  have mirrored : PACK_LEN-1-(8*i+7-k) = (7-i)*8+k := by
    unfold PACK_LEN
    omega
  rw [constrM2S,bit2char_bits inside below,revertChar_apply cell,mirrored]
  rfl

-- The bytes go out with the header's first cell as the lowest bit.
theorem mm2sAllTest_bits {i k : Nat} (inside : i < 8) (below : k < 8) :
    (mm2sAllTest signed msf stack rData pack packR txBuf i).getLsbD k = headerBit msf stack (8*i+k) := by
  have byte : 8-1-i < 8 := by omega
  have mirrored : (7-(8-1-i))*8+k = 8*i+k := by omega
  simp only [mm2sAllTest,copy,HEAD_SIZE,if_pos inside]
  rw [revertChar_apply inside,constrM2S_bits byte below,mirrored]

def Carries (num : CLong) (msf : Mm2sF) (stack : Buffer) : Prop := ∀ n, n < 64 → num.getLsbD n = headerBit msf stack n

theorem loadLong_carries (arrived : ∀ i, i < 8 → rxBuf i = mm2sAllTest signed msf stack rData pack packR txBuf i) :
    Carries (loadLong rxBuf) msf stack := by
  intro n inside
  have byte : n/8 < 8 := by omega
  have bit : n%8 < 8 := Nat.mod_lt n (by decide)
  have whole : 8*(n/8)+n%8 = n := Nat.div_add_mod n 8
  rw [loadLong,BitVec.getLsbD_ofNat,littleEndian_testBit,arrived _ byte,mm2sAllTest_bits byte bit,whole]
  simp only [inside,decide_true,Bool.true_and]

theorem carries_long2char {num : CLong} {i k : Nat} (carries : Carries num msf stack) (inside : i < 8) (below : k < 8) :
    (long2char num charpackS i).getLsbD k = headerBit msf stack ((7-i)*8+k) := by
  rw [long2char_bits inside below]
  exact carries _ (by omega)

theorem carries_cell {num : CLong} {j : Nat} (carries : Carries num msf stack) (inside : j < 64) :
    (revertChar (char2bit signed (long2char num charpackS) 8 bitpackS) PACK_LEN rData j).getLsbD 0 =
      headerBit msf stack j := by
  rw [unpacked_cell inside]
  exact carries j inside

theorem carries_field {num : CLong} {lo count k : Nat} (carries : Carries num msf stack) (fits : lo+count ≤ 64)
    (below : k < 32) :
    (readField signed (revertChar (char2bit signed (long2char num charpackS) 8 bitpackS) PACK_LEN rData) lo count).getLsbD k =
      (decide (k < count) && headerBit msf stack (lo+k)) := by
  rw [readField_bits below]
  by_cases inside : k < count
  · rw [carries_cell carries (by omega)]
  · simp [inside]

theorem carries_head {num : CLong} (carries : Carries num msf stack) : getHeadS2M signed (long2char num charpackS) = 1234 := by
  have first : long2char num charpackS 0 = 0x12 := by
    apply BitVec.eq_of_getLsbD_eq
    intro k below
    rw [carries_long2char carries (by decide) below,head_bit (by omega) (by omega)]
    revert k
    decide
  have second : long2char num charpackS 1 = 0x34 := by
    apply BitVec.eq_of_getLsbD_eq
    intro k below
    rw [carries_long2char carries (by decide) below,head_bit (by omega) (by omega)]
    revert k
    decide
  rw [getHeadS2M,first,second]
  cases signed with
  | true => rfl
  | false => rfl

theorem carries_zero {num : CLong} {lo count : Nat} (carries : Carries num msf stack) (above : 28 ≤ lo)
    (fits : lo+count ≤ 50) :
    readField signed (revertChar (char2bit signed (long2char num charpackS) 8 bitpackS) PACK_LEN rData) lo count = 0 := by
  apply BitVec.eq_of_getLsbD_eq
  intro k below
  rw [carries_field carries (by omega) below]
  by_cases inside : k < count
  · have clear : ¬ (lo+k = 60 ∨ lo+k = 57 ∨ lo+k = 53 ∨ lo+k = 52 ∨ lo+k = 50) := by omega
    rw [head_bit (by omega) (by omega)]
    simp [clear]
  · simp [inside]

-- A field that was written from the low bits of a word comes back as that word, modulo the field's range.
theorem carries_word {num : CLong} {word : CInt} {lo count : Nat} (carries : Carries num msf stack) (fits : lo+count ≤ 64)
    (short : count < 32) (written : ∀ k, k < count → headerBit msf stack (lo+k) = word.getLsbD k) :
    (readField signed (revertChar (char2bit signed (long2char num charpackS) 8 bitpackS) PACK_LEN rData) lo count).toInt =
      word.toInt%2^count := by
  apply toInt_low short
  intro k below
  rw [carries_field carries fits below]
  by_cases inside : k < count
  · rw [written k inside]
  · simp [inside]

theorem same_word {read word : CInt} {range : Int} (low : read.toInt = word.toInt%range) (sign : 0 ≤ word.toInt)
    (inside : word.toInt < range) : read = word := by
  apply BitVec.eq_of_toInt_eq
  rw [low,Int.emod_eq_of_lt sign inside]

theorem matches_of_carries {num : CLong} (carries : Carries num msf stack) :
    Matches msf (getParamS2M signed (char2bit signed (long2char num charpackS) 8 bitpackS) rData) := by
  let sf := getParamS2M signed (char2bit signed (long2char num charpackS) 8 bitpackS) rData
  have modu : sf.modu.toInt = msf.modulation.value.toInt%4 :=
    carries_word carries (by decide) (by decide) fun k => modulation_bit
  have mb : sf.mb.toInt = msf.mb.toInt%64 := carries_word carries (by decide) (by decide) fun k => mb_bit
  have ldpcnum : sf.ldpcnum.toInt = msf.ldpcNum.toInt%512 :=
    carries_word carries (by decide) (by decide) fun k => ldpcNum_bit
  constructor
  case modu =>
    apply same_word modu
    · cases msf.modulation <;> decide
    · cases msf.modulation <;> decide
  case mb => exact mb
  case mbFits => exact same_word mb
  case ldpcnum => exact ldpcnum
  case ldpcnumFits => exact same_word ldpcnum
  case crcR => exact carries_zero carries (by decide) (by decide)
  case ldpcTnum => exact carries_zero carries (by decide) (by decide)
  case ampDresult => exact carries_zero carries (by decide) (by decide)

theorem header_survives (signed : Bool) (msf : Mm2sF) (stack rDataTx pack packR txBuf rxBuf charpackS bitpackS rDataRx : Buffer)
    (arrived : ∀ i, i < 8 → rxBuf i = mm2sAllTest signed msf stack rDataTx pack packR txBuf i) :
    Recovers msf (getInfo signed rxBuf charpackS bitpackS rDataRx) := by
  have carries := loadLong_carries arrived
  have head : getHeadS2M signed (long2char (loadLong rxBuf) charpackS) = 1234 := carries_head carries
  have info : getInfo signed rxBuf charpackS bitpackS rDataRx =
      (1234,some (getParamS2M signed (char2bit signed (long2char (loadLong rxBuf) charpackS) 8 bitpackS) rDataRx)) := by
    simp only [getInfo,head,if_true]
  rw [info]
  exact ⟨rfl,_,rfl,matches_of_carries carries⟩

-- Mb and ldpcNum outside their fields, sent over memory that was not clean.
theorem header_survives_wrapped : Recovers ⟨.QAM64,-1,600⟩ (getInfo true
    (mm2sAllTest true ⟨.QAM64,-1,600⟩ (fun _ => 0xff) (fun _ => 0xff) (fun _ => 0xff) (fun _ => 0xff) (fun _ => 0xff))
    (fun _ => 0xff) (fun _ => 0xff) (fun _ => 0xff)) :=
  header_survives true ⟨.QAM64,-1,600⟩ _ _ _ _ _ _ _ _ _ fun _ _ => rfl

end

end Axidma.FrameHeader
