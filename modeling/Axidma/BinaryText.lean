import Axidma.BitPacking
import Axidma.Numerals

namespace Axidma.BinaryText
open BitPacking Numerals

def LONG_BIT_COUNT : Nat := 64

-- One pass of the loop: the lowest bit becomes a character, and n moves down by one.
def itobsStep (j : Nat) (s : BitVec 64 × Buffer) : BitVec 64 × Buffer :=
  (s.1.sshiftRight 1,store s.2 j (((1 &&& s.1)+48).setWidth 8))

def itobs (n : BitVec 64) (ps : Buffer) : Buffer :=
  store (downTo itobsStep 0 LONG_BIT_COUNT (n,ps)).2 LONG_BIT_COUNT 0

def decimal (n : BitVec 64) : List (BitVec 8) := (lowDigits 10 n.toNat).reverse.map fun digit => BitVec.ofNat 8 (48+digit)

-- while (length-- > 0), where length is the number of bits that are left.
def printBits (data : BitVec 64) : (length counter : Nat) → List (BitVec 8)
  | 0,_ => []
  | length+1,counter => decimal ((data >>> length) &&& 1)++((if (counter+1)%8 = 0 then [32] else [])++printBits data length (counter+1))

def printB (data : BitVec 64) (size : Nat) : List (BitVec 8) := [98,105,110,58,32]++(printBits data (size*8) 0++[10])

def bitChar (data : BitVec 64) (k : Nat) : BitVec 8 := if data.getLsbD k then 49 else 48

def bits (data : BitVec 64) (count : Nat) : List Nat := (List.range count).map fun k => (data.getLsbD (count-1-k)).toNat

section
variable {n data : BitVec 64} {ps : Buffer} {k count : Nat}

theorem low_bit : 1 &&& n = if n.getLsbD 0 then 1 else 0 := by
  apply BitVec.eq_of_toNat_eq
  rw [BitVec.toNat_and,BitVec.getLsbD,Nat.testBit_zero]
  show 1 &&& n.toNat = _
  rw [Nat.and_comm,Nat.and_one_is_mod]
  rcases Nat.mod_two_eq_zero_or_one n.toNat with even | odd
  · simp [even]
  · simp [odd]

theorem low_char : ((1 &&& n)+48).setWidth 8 = bitChar n 0 := by
  rw [low_bit,bitChar]
  split <;> rfl

-- The characters from some cell on are done, and what is left of n has the other bits.
structure Filled (n : BitVec 64) (ps : Buffer) (left : Nat) (s : BitVec 64 × Buffer) : Prop where
  bits : ∀ i, i < left → s.1.getLsbD i = n.getLsbD (LONG_BIT_COUNT-left+i)
  cells : ∀ k, s.2 k = if left ≤ k ∧ k < LONG_BIT_COUNT then bitChar n (LONG_BIT_COUNT-1-k) else ps k

theorem itobsStep_filled {left : Nat} {s : BitVec 64 × Buffer} (below : left < LONG_BIT_COUNT) (filled : Filled n ps (left+1) s) :
    Filled n ps left (itobsStep (0+left) s) := by
  unfold LONG_BIT_COUNT at below
  constructor
  · intro i inside
    have narrow : ¬ 64 ≤ i := by omega
    have next : 1+i < 64 := by omega
    have place : LONG_BIT_COUNT-(left+1)+(1+i) = LONG_BIT_COUNT-left+i := by
      unfold LONG_BIT_COUNT
      omega
    rw [itobsStep,BitVec.getLsbD_sshiftRight,if_pos next,filled.bits (1+i) (by omega),place]
    simp [narrow]
  · intro k
    simp only [itobsStep,store,low_char,Nat.zero_add]
    by_cases here : k = left
    · subst here
      have low := filled.bits 0 (Nat.succ_pos k)
      have place : LONG_BIT_COUNT-(k+1)+0 = LONG_BIT_COUNT-1-k := by
        unfold LONG_BIT_COUNT
        omega
      rw [place] at low
      have inside : k ≤ k ∧ k < LONG_BIT_COUNT := ⟨Nat.le_refl k,below⟩
      rw [if_pos rfl,if_pos inside,bitChar,low,bitChar]
    · have same : left+1 ≤ k ↔ left ≤ k := by omega
      rw [if_neg here,filled.cells k]
      simp only [same]

theorem itobs_apply : itobs n ps k =
    if k = LONG_BIT_COUNT then 0 else if k < LONG_BIT_COUNT then bitChar n (LONG_BIT_COUNT-1-k) else ps k := by
  have start : Filled n ps LONG_BIT_COUNT (n,ps) := by
    constructor
    · intro i _
      rw [Nat.sub_self,Nat.zero_add]
    · intro k
      rw [if_neg (by omega)]
  have filled := @downTo_keeps _ itobsStep LONG_BIT_COUNT (n,ps) (Filled n ps) 0 start fun i s below => itobsStep_filled below
  rw [itobs,store,filled.cells k]
  simp only [Nat.zero_le,true_and]

theorem shifted_bit {length : Nat} : (data >>> length) &&& 1 = if data.getLsbD length then 1 else 0 := by
  rw [BitVec.and_comm,low_bit,BitVec.getLsbD_ushiftRight,Nat.add_zero]

theorem decimal_bit {length : Nat} : decimal ((data >>> length) &&& 1) = [bitChar data length] := by
  rw [shifted_bit,bitChar]
  split
  · simp [decimal,lowDigits]
  · simp [decimal,lowDigits]

theorem printBits_within {length count counter : Nat} (inside : counter%8+count < 8) : printBits data (length+count) counter =
    (List.range count).map (fun k => bitChar data (length+count-1-k))++printBits data length (counter+count) := by
  induction count generalizing counter with
  | zero => rfl
  | succ count ih =>
    have blank : ¬ (counter+1)%8 = 0 := by omega
    have next : counter+1+count = counter+(count+1) := by omega
    have later : ∀ k, length+(count+1)-1-(k+1) = length+count-1-k := by omega
    rw [← Nat.add_assoc,printBits,decimal_bit,if_neg blank,ih (by omega),List.range_succ_eq_map,List.map_cons,List.map_map,next]
    simp only [Function.comp_def,Nat.succ_eq_add_one,Nat.add_assoc,later]
    rfl

theorem printBits_group {g length : Nat} : printBits data (length+8) (8*g) =
    (List.range 8).map (fun k => bitChar data (length+8-1-k))++32 :: printBits data length (8*(g+1)) := by
  have inside : 8*g%8+7 < 8 := by omega
  have blank : (8*g+7+1)%8 = 0 := by omega
  have split : length+8 = length+1+7 := rfl
  have eight : List.range 8 = List.range 7++[7] := List.range_succ
  rw [split,printBits_within inside,printBits,decimal_bit,if_pos blank,eight,List.map_append,List.append_assoc]
  rfl

theorem printBits_groups {g groups : Nat} : printBits data (groups*8) (8*g) =
    (List.range groups).flatMap fun i => (List.range 8).map (fun k => bitChar data (groups*8-1-(8*i+k)))++[32] := by
  induction groups generalizing g with
  | zero => rfl
  | succ groups ih =>
    have size : (groups+1)*8 = groups*8+8 := Nat.succ_mul ..
    have later : ∀ i k, groups*8+8-1-(8*(i+1)+k) = groups*8-1-(8*i+k) := by omega
    rw [size,printBits_group,ih,@List.range_succ_eq_map groups,List.flatMap_cons,List.flatMap_map]
    simp only [Nat.succ_eq_add_one,later,Nat.mul_zero,Nat.zero_add,List.append_assoc,List.singleton_append]

theorem spelled_from (digits : List Nat) (value : Nat) :
    digits.foldl (fun value d => 2*value+d) value = 2^digits.length*value+spelled 2 digits := by
  induction digits generalizing value with
  | nil => simp [spelled]
  | cons d digits ih =>
    rw [spelled,List.foldl_cons,List.foldl_cons,ih,ih (2*0+d),List.length_cons,Nat.pow_succ]
    ring

theorem bits_succ : bits data (count+1) = (data.getLsbD count).toNat :: bits data count := by
  have later : ∀ k, count+1-1-(k+1) = count-1-k := by omega
  rw [bits,List.range_succ_eq_map,List.map_cons,List.map_map]
  refine congrArg (_ :: ·) (List.map_congr_left fun k _ => ?_)
  show (data.getLsbD (count+1-1-(k+1))).toNat = _
  rw [later]

theorem spelled_bits : spelled 2 (bits data count) = data.toNat%2^count := by
  induction count with
  | zero => simp [bits,spelled,Nat.mod_one]
  | succ count ih =>
    have size : (bits data count).length = count := by simp [bits]
    have top : (data.getLsbD count).toNat = data.toNat/2^count%2 := Nat.toNat_testBit ..
    rw [bits_succ,spelled,List.foldl_cons,spelled_from,size,ih,Nat.mod_pow_succ,top,Nat.mul_zero,Nat.zero_add,Nat.add_comm]

end

-- What print_b prints are the last groups of what itobs writes, and they are the number
-- in binary.
structure PrintsText (data : BitVec 64) (ps : Buffer) (size : Nat) : Prop where
  text : printB data size = [98,105,110,58,32]++(((List.range size).flatMap fun i =>
    (List.range 8).map (fun k => itobs data ps (LONG_BIT_COUNT-size*8+8*i+k))++[32])++[10])
  value : spelled 2 ((List.range (size*8)).map fun k => (itobs data ps (LONG_BIT_COUNT-size*8+k)).toNat-48) = data.toNat%2^(size*8)

theorem prints_itobs (data : BitVec 64) (ps : Buffer) (size : Nat) (small : size ≤ 8) : PrintsText data ps size := by
  have digit : ∀ k, k < size*8 → itobs data ps (LONG_BIT_COUNT-size*8+k) = bitChar data (size*8-1-k) := by
    intro k below
    have place : LONG_BIT_COUNT-1-(LONG_BIT_COUNT-size*8+k) = size*8-1-k := by
      unfold LONG_BIT_COUNT
      omega
    rw [itobs_apply,place,if_neg (by unfold LONG_BIT_COUNT; omega),if_pos (by unfold LONG_BIT_COUNT; omega)]
  constructor
  · have groups := @printBits_groups data 0 size
    rw [Nat.mul_zero] at groups
    rw [printB,groups]
    refine congrArg (fun text => _++(text++_)) (List.flatMap_congr fun i low => ?_)
    refine congrArg (·++[32]) (List.map_congr_left fun k below => ?_)
    rw [Nat.add_assoc,digit]
    have low := List.mem_range.mp low
    have below := List.mem_range.mp below
    omega
  · rw [← spelled_bits,bits]
    refine congrArg (spelled 2) (List.map_congr_left fun k below => ?_)
    rw [digit k (List.mem_range.mp below),bitChar]
    cases data.getLsbD (size*8-1-k) <;> rfl

theorem byte_printed : PrintsText 0xa5 (fun _ => 0) 1 := prints_itobs 0xa5 (fun _ => 0) 1 (by decide)

example : printB 0xa5 1 = [98,105,110,58,32,49,48,49,48,48,49,48,49,32,10] := by decide +kernel

end Axidma.BinaryText
