import Axidma.FrameHeader

namespace Axidma.BenchmarkCheck
open BitPacking FrameHeader

def TEST_PATTERN (i : SizeT) : CInt := (0x1234acde ^^^ i).setWidth 32

def SIZEOF_INT : Nat := 4

-- An array of int over the bytes of a buffer, the lowest byte first.
def loadInt (buf : Buffer) (i : Nat) : CInt := BitVec.ofNat 32 (littleEndian (fun j => buf (SIZEOF_INT*i+j)) SIZEOF_INT)

def storeInt (buf : Buffer) (i : Nat) (value : CInt) : Buffer :=
  fun k => if k/SIZEOF_INT = i then byteOf value (k%SIZEOF_INT) else buf k

-- The two loops of init_data on one buffer: the words, and the left-over bytes
-- by their own index from the start of the buffer.
def fill (pattern leftover : Nat → CInt) (size : SizeT) (buf : Buffer) : Buffer :=
  let buf := upTo (fun i buf => storeInt buf i (pattern i)) (size.toNat/SIZEOF_INT) buf
  upTo (fun i buf => store buf i ((leftover i).setWidth 8)) (size.toNat%SIZEOF_INT) buf

def txPattern (i : Nat) : CInt := TEST_PATTERN (BitVec.ofNat 64 i)
def txLeftover (txBufSize : SizeT) (i : Nat) : CInt := TEST_PATTERN (BitVec.ofNat 64 i+txBufSize/4)
def rxPattern (txBufSize : SizeT) (i : Nat) : CInt := TEST_PATTERN (BitVec.ofNat 64 i+txBufSize)
def rxLeftover (txBufSize rxBufSize : SizeT) (i : Nat) : CInt := TEST_PATTERN (BitVec.ofNat 64 i+txBufSize+rxBufSize/4)

def initData (txBuf rxBuf : Buffer) (txBufSize rxBufSize : SizeT) : Buffer × Buffer :=
  (fill txPattern (txLeftover txBufSize) txBufSize txBuf,
   fill (rxPattern txBufSize) (rxLeftover txBufSize rxBufSize) rxBufSize rxBuf)

-- The comparisons with an int promote the char. What the warning says is left
-- out; the result is the same with it.
def verifyData (signed : Bool) (txBuf rxBuf : Buffer) (txBufSize rxBufSize : SizeT) : Int :=
  if (List.range (txBufSize.toNat/SIZEOF_INT)).any fun i => decide (loadInt txBuf i ≠ txPattern i) then
    -EINVAL
  else if (List.range (txBufSize.toNat%SIZEOF_INT)).any fun i => decide (promote signed (txBuf i) ≠ txLeftover txBufSize i) then
    -EINVAL
  else
    let rxDataSame := upTo (fun i same => if loadInt rxBuf i = rxPattern txBufSize i then same+1 else same)
      (rxBufSize.toNat/SIZEOF_INT) 0
    let rxDataSame := upTo
      (fun i same => if promote signed (rxBuf i) = rxLeftover txBufSize rxBufSize i then same+1 else same)
      (rxBufSize.toNat%SIZEOF_INT) rxDataSame
    let rxDataUnits := rxBufSize.toNat/SIZEOF_INT+rxBufSize.toNat%SIZEOF_INT
    if rxDataSame = rxDataUnits then -EINVAL else 0

-- What the check should find, of the contents after the transfer.
def ChecksWhatWasWritten (signed : Bool) (txBufSize rxBufSize : SizeT) (txBuf rxBuf : Buffer) : Prop :=
  ∀ txAfter rxAfter, verifyData signed txAfter rxAfter txBufSize rxBufSize < 0 ↔
    (∃ k, k < txBufSize.toNat ∧ txAfter k ≠ (initData txBuf rxBuf txBufSize rxBufSize).1 k) ∨
    ∀ k, k < rxBufSize.toNat → rxAfter k = (initData txBuf rxBuf txBufSize rxBufSize).2 k

def FitsChar (signed : Bool) (value : CInt) : Prop := promote signed (value.setWidth 8) = value

def Matches (signed : Bool) (pattern leftover : Nat → CInt) (size : SizeT) (buf : Buffer) : Prop :=
  (∀ i, i < size.toNat/SIZEOF_INT → loadInt buf i = pattern i) ∧
    ∀ i, i < size.toNat%SIZEOF_INT → promote signed (buf i) = leftover i

def Equal (size : SizeT) (buf other : Buffer) : Prop := ∀ k, k < size.toNat → buf k = other k

def Exact (signed : Bool) (pattern leftover : Nat → CInt) (size : SizeT) (old : Buffer) : Prop :=
  ∀ buf, Matches signed pattern leftover size buf ↔ Equal size buf (fill pattern leftover size old)

section
variable {signed : Bool} {pattern leftover : Nat → CInt} {size : SizeT} {buf old : Buffer}

theorem loadInt_eq_iff {i : Nat} {value : CInt} :
    loadInt buf i = value ↔ ∀ j, j < SIZEOF_INT → buf (SIZEOF_INT*i+j) = byteOf value j :=
  littleEndian_eq_iff (n := SIZEOF_INT)

theorem words_filled {n k : Nat} : upTo (fun i buf => storeInt buf i (pattern i)) n buf k =
    if k/SIZEOF_INT < n then byteOf (pattern (k/SIZEOF_INT)) (k%SIZEOF_INT) else buf k := by
  induction n with
  | zero => simp [upTo]
  | succ n ih =>
    rw [upTo,storeInt,ih]
    by_cases here : k/SIZEOF_INT = n
    · simp [here]
    · have same : k/SIZEOF_INT < n+1 ↔ k/SIZEOF_INT < n := by omega
      simp only [here,same,if_false]

theorem fill_apply (k : Nat) : fill pattern leftover size old k =
    if k < size.toNat%SIZEOF_INT then (leftover k).setWidth 8
    else if k/SIZEOF_INT < size.toNat/SIZEOF_INT then byteOf (pattern (k/SIZEOF_INT)) (k%SIZEOF_INT) else old k := by
  rw [fill,upTo_store fun i => (leftover i).setWidth 8,words_filled]

theorem words_match : (∀ i, i < size.toNat/SIZEOF_INT → loadInt buf i = pattern i) ↔
    ∀ k, k/SIZEOF_INT < size.toNat/SIZEOF_INT → buf k = byteOf (pattern (k/SIZEOF_INT)) (k%SIZEOF_INT) := by
  constructor
  · intro words k inside
    have byte := loadInt_eq_iff.mp (words _ inside) (k%SIZEOF_INT) (Nat.mod_lt k (by decide))
    rw [Nat.div_add_mod] at byte
    exact byte
  · intro bytes i inside
    refine loadInt_eq_iff.mpr fun j below => ?_
    have word : (SIZEOF_INT*i+j)/SIZEOF_INT = i := by
      unfold SIZEOF_INT at below ⊢
      omega
    have place : (SIZEOF_INT*i+j)%SIZEOF_INT = j := by
      unfold SIZEOF_INT at below ⊢
      omega
    have byte := bytes (SIZEOF_INT*i+j) (by rw [word]; exact inside)
    rw [word,place] at byte
    exact byte

theorem exact_aligned (aligned : size.toNat%SIZEOF_INT = 0) : Exact signed pattern leftover size old := by
  intro buf
  have inside : ∀ k, k/SIZEOF_INT < size.toNat/SIZEOF_INT ↔ k < size.toNat := by
    unfold SIZEOF_INT at aligned ⊢
    omega
  have filled : ∀ k, k < size.toNat → fill pattern leftover size old k = byteOf (pattern (k/SIZEOF_INT)) (k%SIZEOF_INT) := by
    intro k below
    rw [fill_apply,aligned,if_neg (Nat.not_lt_zero k),if_pos ((inside k).mpr below)]
  unfold Matches Equal
  rw [words_match,aligned]
  constructor
  · intro both k below
    rw [filled k below]
    exact both.1 k ((inside k).mpr below)
  · intro equal
    refine ⟨fun k word => ?_,fun i below => absurd below (Nat.not_lt_zero i)⟩
    have below := (inside k).mp word
    rw [equal k below,filled k below]

theorem exact_short (short : size.toNat < SIZEOF_INT) (fits : ∀ i, i < size.toNat → FitsChar signed (leftover i)) :
    Exact signed pattern leftover size old := by
  intro buf
  have words : size.toNat/SIZEOF_INT = 0 := Nat.div_eq_of_lt short
  have bytes : size.toNat%SIZEOF_INT = size.toNat := Nat.mod_eq_of_lt short
  have filled : ∀ k, k < size.toNat → fill pattern leftover size old k = (leftover k).setWidth 8 := by
    intro k below
    rw [fill_apply,bytes,if_pos below]
  unfold Matches Equal
  rw [words,bytes]
  constructor
  · intro both k below
    rw [filled k below,← both.2 k below]
    exact (promote_back (buf k)).symm
  · intro equal
    refine ⟨fun i below => absurd below (Nat.not_lt_zero i),fun i below => ?_⟩
    rw [equal i below,filled i below]
    exact fits i below

-- The byte behind the last whole word is neither written nor looked at.
theorem unchecked_byte (long : SIZEOF_INT ≤ size.toNat) (odd : size.toNat%SIZEOF_INT ≠ 0) : ¬ Exact signed pattern leftover size old := by
  intro same
  let filled := fill pattern leftover size old
  let last := size.toNat-1
  let changed : Buffer := store filled last (filled last+1)
  have other : ∀ k, k ≠ last → changed k = filled k := fun k apart => if_neg apart
  have passes : Matches signed pattern leftover size filled := (same filled).mpr fun _ _ => rfl
  have still : Matches signed pattern leftover size changed := by
    refine ⟨words_match.mpr fun k word => ?_,fun i below => ?_⟩
    · have apart : k ≠ last := by
        unfold last SIZEOF_INT at *
        omega
      rw [other k apart]
      exact words_match.mp passes.1 k word
    · have apart : i ≠ last := by
        unfold last SIZEOF_INT at *
        omega
      rw [other i apart]
      exact passes.2 i below
  have inside : last < size.toNat := by
    unfold last SIZEOF_INT at *
    omega
  have moved : ∀ byte : BitVec 8, byte+1 ≠ byte := by decide
  have equal : changed last = filled last := (same changed).mp still last inside
  exact moved (filled last) ((if_pos rfl).symm.trans equal)

theorem exact_iff : Exact signed pattern leftover size old ↔
    size.toNat%SIZEOF_INT = 0 ∨ (size.toNat < SIZEOF_INT ∧ ∀ i, i < size.toNat → FitsChar signed (leftover i)) := by
  constructor
  · intro exact'
    by_cases aligned : size.toNat%SIZEOF_INT = 0
    · exact .inl aligned
    · right
      have short : size.toNat < SIZEOF_INT := Nat.lt_of_not_le fun long => unchecked_byte long aligned exact'
      refine ⟨short,fun i below => ?_⟩
      have bytes : size.toNat%SIZEOF_INT = size.toNat := Nat.mod_eq_of_lt short
      have filled := ((exact' (fill pattern leftover size old)).mpr fun _ _ => rfl).2 i (by rw [bytes]; exact below)
      rw [fill_apply,bytes,if_pos below] at filled
      exact filled
  · intro either
    rcases either with aligned | ⟨short,fits⟩
    · exact exact_aligned aligned
    · exact exact_short short fits

end

section
variable {signed : Bool} {txBufSize rxBufSize : SizeT} {txBuf rxBuf : Buffer}

theorem any_range (n : Nat) (bad : Nat → Prop) [DecidablePred bad] :
    (List.range n).any (fun i => decide (bad i)) = true ↔ ∃ i, i < n ∧ bad i := by
  simp [List.any_eq_true]

-- Two counting loops, one after the other, come to the sum of their lengths only
-- together.
theorem both_counted (first second : Nat → Bool) (n m : Nat) :
    upTo (fun i same => if second i then same+1 else same) m (upTo (fun i same => if first i then same+1 else same) n 0) = n+m ↔
      (∀ i, i < n → first i = true) ∧ ∀ i, i < m → second i = true := by
  obtain ⟨most,all⟩ := upTo_count first n 0
  obtain ⟨most',all'⟩ := upTo_count second m (upTo (fun i same => if first i then same+1 else same) n 0)
  rw [← all,← all']
  omega

theorem verifyData_neg : verifyData signed txBuf rxBuf txBufSize rxBufSize < 0 ↔
    ¬ Matches signed txPattern (txLeftover txBufSize) txBufSize txBuf ∨
      Matches signed (rxPattern txBufSize) (rxLeftover txBufSize rxBufSize) rxBufSize rxBuf := by
  have einval : -EINVAL < 0 := by decide
  unfold verifyData
  split
  case isTrue bad =>
    obtain ⟨i,below,wrong⟩ := (any_range _ _).mp bad
    exact iff_of_true einval (.inl fun passes => wrong (passes.1 i below))
  case isFalse words =>
    split
    case isTrue bad =>
      obtain ⟨i,below,wrong⟩ := (any_range _ _).mp bad
      exact iff_of_true einval (.inl fun passes => wrong (passes.2 i below))
    case isFalse bytes =>
      have passes : Matches signed txPattern (txLeftover txBufSize) txBufSize txBuf := by
        constructor
        · intro i below
          apply Classical.byContradiction
          exact fun wrong => words ((any_range _ _).mpr ⟨i,below,wrong⟩)
        · intro i below
          apply Classical.byContradiction
          exact fun wrong => bytes ((any_range _ _).mpr ⟨i,below,wrong⟩)
      have counted := both_counted (fun i => decide (loadInt rxBuf i = rxPattern txBufSize i))
        (fun i => decide (promote signed (rxBuf i) = rxLeftover txBufSize rxBufSize i))
        (rxBufSize.toNat/SIZEOF_INT) (rxBufSize.toNat%SIZEOF_INT)
      simp only [decide_eq_true_eq] at counted
      have only : ∀ same : Prop, same ↔ ¬ Matches signed txPattern (txLeftover txBufSize) txBufSize txBuf ∨ same :=
        fun same => (or_iff_right fun fails => fails passes).symm
      have error : ∀ (c : Prop) [Decidable c], (if c then -EINVAL else 0) < 0 ↔ c := by
        intro c _
        by_cases holds : c
        · rw [if_pos holds]
          exact iff_of_true einval holds
        · rw [if_neg holds]
          exact iff_of_false (Int.lt_irrefl 0) holds
      exact ((error _).trans counted).trans (only _)

theorem checks_apart : ChecksWhatWasWritten signed txBufSize rxBufSize txBuf rxBuf ↔ ∀ txAfter rxAfter,
    (¬ Matches signed txPattern (txLeftover txBufSize) txBufSize txAfter ∨
      Matches signed (rxPattern txBufSize) (rxLeftover txBufSize rxBufSize) rxBufSize rxAfter) ↔
    (¬ Equal txBufSize txAfter (fill txPattern (txLeftover txBufSize) txBufSize txBuf) ∨
      Equal rxBufSize rxAfter (fill (rxPattern txBufSize) (rxLeftover txBufSize rxBufSize) rxBufSize rxBuf)) := by
  have differs : ∀ txAfter, (∃ k, k < txBufSize.toNat ∧ txAfter k ≠ (initData txBuf rxBuf txBufSize rxBufSize).1 k) ↔
      ¬ Equal txBufSize txAfter (fill txPattern (txLeftover txBufSize) txBufSize txBuf) := by
    intro txAfter
    unfold Equal
    simp only [Classical.not_forall,exists_prop]
    rfl
  unfold ChecksWhatWasWritten
  simp only [verifyData_neg,differs]
  rfl

theorem other_byte (a b : BitVec 8) : ∃ c, c ≠ a ∧ c ≠ b := by
  have apart : ∀ byte : BitVec 8, byte+1 ≠ byte ∧ byte+2 ≠ byte ∧ byte+2 ≠ byte+1 := by decide
  by_cases next : a+1 = b
  · subst next
    exact ⟨a+2,(apart a).2.1,(apart a).2.2⟩
  · exact ⟨a+1,(apart a).1,next⟩

theorem some_other {pattern leftover : Nat → CInt} {size : SizeT} {old : Buffer} (some : size.toNat ≠ 0) :
    ∃ buf, ¬ Equal size buf (fill pattern leftover size old) ∧ ¬ Matches signed pattern leftover size buf := by
  have first : 0 < size.toNat := Nat.pos_of_ne_zero some
  by_cases words : 0 < size.toNat/SIZEOF_INT
  · obtain ⟨c,changed,wrong⟩ := other_byte (fill pattern leftover size old 0) (byteOf (pattern 0) 0)
    refine ⟨fun _ => c,fun equal => changed (equal 0 first),fun passes => ?_⟩
    exact wrong (loadInt_eq_iff.mp (passes.1 0 words) 0 (by decide))
  · have bytes : 0 < size.toNat%SIZEOF_INT := by
      unfold SIZEOF_INT at words ⊢
      omega
    obtain ⟨c,changed,wrong⟩ := other_byte (fill pattern leftover size old 0) ((leftover 0).setWidth 8)
    refine ⟨fun _ => c,fun equal => changed (equal 0 first),fun passes => ?_⟩
    rw [← passes.2 0 bytes] at wrong
    exact wrong (promote_back c).symm

-- A buffer that is received into decides nothing only when it is empty.
theorem checks_exact : ChecksWhatWasWritten signed txBufSize rxBufSize txBuf rxBuf ↔ rxBufSize.toNat = 0 ∨
    (Exact signed txPattern (txLeftover txBufSize) txBufSize txBuf ∧
      Exact signed (rxPattern txBufSize) (rxLeftover txBufSize rxBufSize) rxBufSize rxBuf) := by
  rw [checks_apart]
  constructor
  · intro checks
    by_cases empty : rxBufSize.toNat = 0
    · exact .inl empty
    · right
      obtain ⟨rxAfter,changed,wrong⟩ := @some_other signed (rxPattern txBufSize) (rxLeftover txBufSize rxBufSize) rxBufSize rxBuf empty
      have tx : Exact signed txPattern (txLeftover txBufSize) txBufSize txBuf := by
        intro txAfter
        have both := checks txAfter rxAfter
        rw [or_iff_left wrong,or_iff_left changed] at both
        exact not_iff_not.mp both
      refine ⟨tx,fun rxAfter => ?_⟩
      have equal : Equal txBufSize (fill txPattern (txLeftover txBufSize) txBufSize txBuf)
          (fill txPattern (txLeftover txBufSize) txBufSize txBuf) := fun _ _ => rfl
      have both := checks (fill txPattern (txLeftover txBufSize) txBufSize txBuf) rxAfter
      rw [or_iff_right fun fails => fails ((tx _).mpr equal),or_iff_right fun differs => differs equal] at both
      exact both
  · intro either txAfter rxAfter
    rcases either with empty | ⟨tx,rx⟩
    · have words : rxBufSize.toNat/SIZEOF_INT = 0 := by rw [empty,Nat.zero_div]
      have bytes : rxBufSize.toNat%SIZEOF_INT = 0 := by rw [empty,Nat.zero_mod]
      refine iff_of_true (.inr ⟨fun i below => ?_,fun i below => ?_⟩) (.inr fun k below => ?_)
      · exact absurd (words ▸ below) (Nat.not_lt_zero i)
      · exact absurd (bytes ▸ below) (Nat.not_lt_zero i)
      · exact absurd (empty ▸ below) (Nat.not_lt_zero k)
    · rw [tx txAfter,rx rxAfter]

-- Without a whole word in the transmit buffer its first left-over byte is given
-- the pattern of 0, which no char can hold.
theorem tx_exact_iff : Exact signed txPattern (txLeftover txBufSize) txBufSize txBuf ↔ txBufSize.toNat%SIZEOF_INT = 0 := by
  rw [exact_iff]
  refine or_iff_left_of_imp fun ⟨short,fits⟩ => ?_
  by_cases empty : txBufSize.toNat = 0
  · rw [empty,Nat.zero_mod]
  · have noWord : txBufSize/4 = 0 := by
      apply BitVec.eq_of_toNat_eq
      exact Nat.div_eq_of_lt short
    have first := fits 0 (Nat.pos_of_ne_zero empty)
    unfold txLeftover at first
    rw [noWord] at first
    have wide : ∀ kind, ¬ FitsChar kind (TEST_PATTERN (BitVec.ofNat 64 0+0)) := by
      unfold FitsChar
      decide
    exact absurd first (wide signed)

theorem checks_iff (signed : Bool) (txBufSize rxBufSize : SizeT) (txBuf rxBuf : Buffer) :
    ChecksWhatWasWritten signed txBufSize rxBufSize txBuf rxBuf ↔ rxBufSize.toNat = 0 ∨
      (txBufSize.toNat%SIZEOF_INT = 0 ∧ (rxBufSize.toNat%SIZEOF_INT = 0 ∨
        (rxBufSize.toNat < SIZEOF_INT ∧ ∀ i, i < rxBufSize.toNat → FitsChar signed (rxLeftover txBufSize rxBufSize i)))) := by
  rw [checks_exact,tx_exact_iff,exact_iff]

theorem odd_sizes_unchecked :
    ¬ ∀ signed txBufSize rxBufSize txBuf rxBuf, ChecksWhatWasWritten signed txBufSize rxBufSize txBuf rxBuf := by
  intro checks
  rcases checks_exact.mp (checks true 6 6 (fun _ => 0) fun _ => 0) with empty | ⟨tx,_⟩
  · exact absurd empty (by decide)
  · exact absurd (tx_exact_iff.mp tx) (by decide)

end
end Axidma.BenchmarkCheck
