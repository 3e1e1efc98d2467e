import Mathlib.Algebra.Ring.Int.Defs
import Mathlib.Algebra.Ring.Nat

namespace BitPacking

abbrev Buffer := Nat → BitVec 8

def store (buf : Buffer) (i : Nat) (byte : BitVec 8) : Buffer := fun j => if j = i then byte else buf j

def copy (dst src : Buffer) (len : Nat) : Buffer := fun i => if i < len then src i else dst i

section
variable {σ : Type} {body : Nat → σ → σ} {n : Nat} {s : σ}

-- for (i = 0; i < n; ++i) body
def upTo (body : Nat → σ → σ) : Nat → σ → σ
  | 0,s => s
  | n+1,s => body n (upTo body n s)

-- for (i = lo+n-1; i >= lo; --i) body
def downTo (body : Nat → σ → σ) (lo : Nat) : Nat → σ → σ
  | 0,s => s
  | n+1,s => downTo body lo n (body (lo+n) s)

theorem upTo_keeps (holds : Nat → σ → Prop) (start : holds 0 s)
    (step : ∀ i s, i < n → holds i s → holds (i+1) (body i s)) : holds n (upTo body n s) := by
  induction n with
  | zero => exact start
  | succ n ih =>
    apply step n
    · exact Nat.lt_succ_self n
    · exact ih fun i s below => step i s (Nat.lt_succ_of_lt below)

theorem downTo_keeps (holds : Nat → σ → Prop) {lo : Nat} (start : holds n s)
    (step : ∀ i s, i < n → holds (i+1) s → holds i (body (lo+i) s)) : holds 0 (downTo body lo n s) := by
  induction n generalizing s with
  | zero => exact start
  | succ n ih =>
    apply ih
    · exact step n s (Nat.lt_succ_self n) start
    · exact fun i s below => step i s (Nat.lt_succ_of_lt below)

end

theorem upTo_store (value : Nat → BitVec 8) {buf : Buffer} {n k : Nat} :
    upTo (fun i buf => store buf i (value i)) n buf k = if k < n then value k else buf k := by
  induction n with
  | zero => simp [upTo]
  | succ n ih =>
    rw [upTo,store,ih]
    by_cases here : k = n
    · simp [here]
    · have same : k < n+1 ↔ k < n := by omega
      simp only [here,same,if_false]

-- while (p < p1) swaps the two ends and moves them together.
def reverseBetween (buf : Buffer) (p p1 : Nat) : Buffer :=
  if p < p1 then reverseBetween (store (store buf p (buf p1)) p1 (buf p)) (p+1) (p1-1) else buf
termination_by p1-p

theorem reverseBetween_apply (buf : Buffer) (p p1 k : Nat) :
    reverseBetween buf p p1 k = if p ≤ k ∧ k ≤ p1 then buf (p+p1-k) else buf k := by
  induction buf, p, p1 using reverseBetween.induct with
  | case1 buf p p1 apart ih =>
    rw [reverseBetween,if_pos apart,ih]
    have sum : p+1+(p1-1)-k = p+p1-k := by omega
    rw [sum]
    by_cases inside : p+1 ≤ k ∧ k ≤ p1-1
    · have within : p ≤ k ∧ k ≤ p1 := by omega
      have low : p+p1-k ≠ p := by omega
      have high : p+p1-k ≠ p1 := by omega
      rw [if_pos inside,if_pos within,store,store,if_neg high,if_neg low]
    · rw [if_neg inside,store,store]
      by_cases last : k = p1
      · have within : p ≤ k ∧ k ≤ p1 := by omega
        have other : p+p1-k = p := by omega
        rw [if_pos last,if_pos within,other]
      · rw [if_neg last]
        by_cases first : k = p
        · have within : p ≤ k ∧ k ≤ p1 := by omega
          have other : p+p1-k = p1 := by omega
          rw [if_pos first,if_pos within,other]
        · have without : ¬ (p ≤ k ∧ k ≤ p1) := by omega
          rw [if_neg first,if_neg without]
  | case2 buf p p1 met =>
    rw [reverseBetween,if_neg met]
    split
    · have middle : p+p1-k = k := by omega
      rw [middle]
    · rfl

section
variable {w : Nat}

theorem push_or (word bit : BitVec w) {k : Nat} (below : k < w) :
    (word <<< 1 ||| (1 &&& bit)).getLsbD k = if k = 0 then bit.getLsbD 0 else word.getLsbD (k-1) := by
  by_cases zero : k = 0
  · subst zero
    simp [below]
  · have up : ¬ k < 1 := by omega
    have inside : k-1 < w := by omega
    simp [below,zero,up,BitVec.getLsbD_eq_getElem inside]

theorem push_add (word bit : BitVec w) {k : Nat} (below : k < w) :
    (word <<< 1+(bit &&& 1)).getLsbD k = if k = 0 then bit.getLsbD 0 else word.getLsbD (k-1) := by
  have apart : word <<< 1 &&& (1 &&& bit) = 0#w := by
    apply BitVec.eq_of_getLsbD_eq
    intro i inside
    by_cases zero : i = 0
    · simp [zero]
    · simp [zero]
  rw [BitVec.and_comm bit,BitVec.add_eq_or_of_and_eq_zero _ _ apart]
  exact push_or word bit below

theorem masked_bit (word : BitVec w) {shift : Nat} (inside : shift < w) :
    (word.sshiftRight shift &&& 1).getLsbD 0 = word.getLsbD shift := by
  have wide : ¬ w ≤ 0 := by omega
  have one : (1 : BitVec w).getLsbD 0 = true := by simp [Nat.pos_of_ne_zero fun zero => wide (Nat.le_of_eq zero)]
  rw [BitVec.getLsbD_and,BitVec.getLsbD_sshiftRight,one,Nat.add_zero,if_pos inside]
  simp [wide]

-- A word whose bits are the n lowest of another is the other modulo 2^n.
theorem toInt_low {x y : BitVec w} {n : Nat} (short : n < w)
    (bits : ∀ k, k < w → x.getLsbD k = (decide (k < n) && y.getLsbD k)) : x.toInt = y.toInt%2^n := by
  have low : x.toNat = y.toNat%2^n := by
    apply Nat.eq_of_testBit_eq
    intro k
    rw [Nat.testBit_mod_two_pow]
    by_cases below : k < w
    · exact bits k below
    · have beyond : ¬ k < n := by omega
      simp [beyond,BitVec.testBit_toNat,BitVec.getLsbD_of_ge x k (Nat.le_of_not_lt below)]
  have small : x.toNat < 2^n := by
    rw [low]
    exact Nat.mod_lt _ (Nat.two_pow_pos n)
  have double : 2*2^n ≤ 2^w := by
    calc 2*2^n = 2^(n+1) := by rw [Nat.pow_succ,Nat.mul_comm]
      _ ≤ 2^w := Nat.pow_le_pow_right (by decide) short
  have split : ((2^w : Nat) : Int) = 2^n*2^(w-n) := by
    rw [← Int.pow_add,Nat.add_sub_cancel' (Nat.le_of_lt short)]
    norm_cast
  have unsigned : y.toInt%2^n = (y.toNat : Int)%2^n := by
    rw [BitVec.toInt_eq_toNat_bmod,Int.bmod_eq_self_sub_mul_bdiv,split,Int.mul_assoc,Int.sub_mul_emod_self_left]
  rw [BitVec.toInt_eq_toNat_of_lt (by omega),unsigned,low]
  norm_cast

end

-- The number that the first n bytes spell, the lowest first.
def littleEndian (buf : Buffer) : Nat → Nat
  | 0 => 0
  | n+1 => 2^(8*n)*(buf n).toNat+littleEndian buf n

theorem littleEndian_lt (buf : Buffer) (n : Nat) : littleEndian buf n < 2^(8*n) := by
  induction n with
  | zero => simp [littleEndian]
  | succ n ih =>
    have byte : (buf n).toNat+1 ≤ 2^8 := (buf n).isLt
    have scaled := Nat.mul_le_mul_left (2^(8*n)) byte
    rw [← Nat.pow_add,Nat.mul_add] at scaled
    rw [littleEndian,Nat.mul_succ]
    omega

theorem littleEndian_testBit (buf : Buffer) (n i : Nat) :
    (littleEndian buf n).testBit i = (decide (i < 8*n) && (buf (i/8)).getLsbD (i%8)) := by
  induction n with
  | zero => simp [littleEndian]
  | succ n ih =>
    rw [littleEndian,Nat.testBit_two_pow_mul_add _ (littleEndian_lt buf n)]
    by_cases earlier : i < 8*n
    · have inside : i < 8*(n+1) := by omega
      rw [if_pos earlier,ih]
      simp [earlier,inside]
    · rw [if_neg earlier,BitVec.testBit_toNat]
      by_cases inside : i < 8*(n+1)
      · have byte : i/8 = n := by omega
        have bit : i%8 = i-8*n := by omega
        simp [inside,byte,bit]
      · have beyond : 8 ≤ i-8*n := by omega
        simp [inside,BitVec.getLsbD_of_ge _ _ beyond]

def byteOf {w : Nat} (value : BitVec w) (j : Nat) : BitVec 8 := (value >>> (8*j)).setWidth 8

theorem littleEndian_eq_iff {buf : Buffer} {n : Nat} {value : BitVec (8*n)} :
    BitVec.ofNat (8*n) (littleEndian buf n) = value ↔ ∀ j, j < n → buf j = byteOf value j := by
  constructor
  · intro same j inside
    apply BitVec.eq_of_getLsbD_eq
    intro k below
    have bit : 8*j+k < 8*n := by omega
    have byte : (8*j+k)/8 = j := by omega
    have place : (8*j+k)%8 = k := by omega
    rw [← same,byteOf,BitVec.getLsbD_setWidth,BitVec.getLsbD_ushiftRight,BitVec.getLsbD_ofNat,littleEndian_testBit,byte,place]
    simp only [bit,below,decide_true,Bool.true_and]
  · intro bytes
    apply BitVec.eq_of_getLsbD_eq
    intro i inside
    have byte : i/8 < n := by omega
    have place : i%8 < 8 := Nat.mod_lt i (by decide)
    have whole : 8*(i/8)+i%8 = i := Nat.div_add_mod i 8
    rw [BitVec.getLsbD_ofNat,littleEndian_testBit,bytes _ byte,byteOf,BitVec.getLsbD_setWidth,BitVec.getLsbD_ushiftRight,whole]
    simp only [inside,place,decide_true,Bool.true_and]

-- A loop that counts has counted every step only if every step counted.
theorem upTo_count (counts : Nat → Bool) (n start : Nat) :
    upTo (fun i same => if counts i then same+1 else same) n start ≤ start+n ∧
      (upTo (fun i same => if counts i then same+1 else same) n start = start+n ↔ ∀ i, i < n → counts i = true) := by
  induction n with
  | zero => simp [upTo]
  | succ n ih =>
    obtain ⟨most,all⟩ := ih
    rw [upTo]
    cases here : counts n with
    | true =>
      rw [if_pos rfl]
      refine ⟨by omega,?_⟩
      rw [← Nat.add_assoc,Nat.succ_inj,all]
      constructor
      · intro before i below
        by_cases last : i = n
        · rw [last]
          exact here
        · exact before i (by omega)
      · exact fun every i below => every i (Nat.lt_succ_of_lt below)
    | false =>
      rw [if_neg Bool.false_ne_true]
      refine ⟨by omega,iff_of_false (by omega) fun every => ?_⟩
      rw [every n (Nat.lt_succ_self n)] at here
      cases here

end BitPacking
