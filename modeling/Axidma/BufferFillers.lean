import Axidma.FrameHeader
import Axidma.RecordedBuffer

namespace Axidma.BufferFillers
open BitPacking FrameHeader RecordedBuffer

def SIZEOF_LONG : Nat := 8

-- An array of long over the bytes of a buffer, the lowest byte first.
def storeLong (buf : Recorded CChar) (i : Nat) (value : CLong) : Recorded CChar :=
  buf.writing (SIZEOF_LONG*i) SIZEOF_LONG (byteOf value)

def pattern (i : SizeT) : CLong := 0x0102030400000000 ||| i

-- The second loop counts the left-over bytes, and stores longs.
def initTxData (txBuf : Recorded CChar) (txBufSize : SizeT) : Recorded CChar :=
  let words := txBufSize.toNat/SIZEOF_LONG
  let txBuf := upTo (fun i buf => storeLong buf i (pattern (BitVec.ofNat 64 i))) words txBuf
  upTo (fun i buf => storeLong buf (i+words) (pattern (BitVec.ofNat 64 (i+words)))) (txBufSize.toNat%SIZEOF_LONG) txBuf

def cleanTxData (txBuf : Recorded CChar) (txBufSize : SizeT) : Recorded CChar :=
  upTo (fun i buf => buf.set i 0) txBufSize.toNat txBuf

-- The second loop stores bytes, at the indices behind the last long.
def cleanRxData (rxBuf : Recorded CChar) (rxBufSize : SizeT) : Recorded CChar :=
  let words := rxBufSize.toNat/SIZEOF_LONG
  let rxBuf := upTo (fun i buf => storeLong buf i 0) words rxBuf
  upTo (fun i buf => buf.set (i+words) 0) (rxBufSize.toNat%SIZEOF_LONG) rxBuf

inductive Filler where
  | initTxData
  | cleanTxData
  | cleanRxData
deriving DecidableEq

def Filler.run : Filler → Recorded CChar → SizeT → Recorded CChar
  | .initTxData => BufferFillers.initTxData
  | .cleanTxData => BufferFillers.cleanTxData
  | .cleanRxData => BufferFillers.cleanRxData

def WritesExactly (size : SizeT) (after : Recorded CChar) : Prop := ∀ k, k ∈ after.written ↔ k < size.toNat

structure Fills (filler : Filler) (size : SizeT) (buf : Buffer) : Prop where
  exact : WritesExactly size (filler.run (fresh buf) size)
  clean : filler ≠ .initTxData → ∀ k, k < size.toNat → (filler.run (fresh buf) size).cells k = 0

section
variable {size : SizeT} {buf : Buffer} {k : Nat}

theorem mem_longs {r : Recorded CChar} {value : Nat → CLong} {first n : Nat} :
    k ∈ (upTo (fun i buf => storeLong buf (i+first) (value i)) n r).written ↔
      (SIZEOF_LONG*first ≤ k ∧ k < SIZEOF_LONG*(first+n)) ∨ k ∈ r.written := by
  apply mem_blocks
  intro i r
  rw [storeLong,mem_writing,Nat.add_comm i first]

theorem mem_bytes {r : Recorded CChar} {first n : Nat} :
    k ∈ (upTo (fun i buf => buf.set (i+first) (0 : CChar)) n r).written ↔ (first ≤ k ∧ k < first+n) ∨ k ∈ r.written := by
  have blocks := @mem_blocks CChar r n k (fun i buf => buf.set (i+first) 0) 1 first
  simp only [Nat.one_mul] at blocks
  apply blocks
  intro i r
  rw [Recorded.set,mem_writing,Nat.add_comm i first]

theorem not_written : k ∉ (fresh buf).written := List.not_mem_nil

theorem init_written : k ∈ (initTxData (fresh buf) size).written ↔
    k < SIZEOF_LONG*(size.toNat/SIZEOF_LONG+size.toNat%SIZEOF_LONG) := by
  have words := @mem_longs k (fresh buf) (fun i => pattern (BitVec.ofNat 64 i)) 0 (size.toNat/SIZEOF_LONG)
  have low : SIZEOF_LONG*(size.toNat/SIZEOF_LONG) ≤ SIZEOF_LONG*(size.toNat/SIZEOF_LONG+size.toNat%SIZEOF_LONG) :=
    Nat.mul_le_mul_left SIZEOF_LONG (Nat.le_add_right _ _)
  rw [or_iff_left not_written,Nat.mul_zero,Nat.zero_add] at words
  refine mem_longs.trans ((or_congr_right words).trans ?_)
  omega

theorem cleanTx_written : k ∈ (cleanTxData (fresh buf) size).written ↔ k < size.toNat := by
  have bytes := @mem_bytes k (fresh buf) 0 size.toNat
  rw [or_iff_left not_written,Nat.zero_add] at bytes
  refine Iff.trans bytes ?_
  omega

theorem cleanRx_written : k ∈ (cleanRxData (fresh buf) size).written ↔ k < SIZEOF_LONG*(size.toNat/SIZEOF_LONG) ∨
    (size.toNat/SIZEOF_LONG ≤ k ∧ k < size.toNat/SIZEOF_LONG+size.toNat%SIZEOF_LONG) := by
  have words := @mem_longs k (fresh buf) (fun _ => 0) 0 (size.toNat/SIZEOF_LONG)
  rw [or_iff_left not_written,Nat.mul_zero,Nat.zero_add] at words
  refine mem_bytes.trans ((or_congr_right words).trans ?_)
  omega

theorem fresh_filled : Filled 0 (fresh buf) := fun _ member => absurd member List.not_mem_nil

theorem zero_byte (j : Nat) : byteOf (0 : CLong) j = 0 := by simp [byteOf]

theorem cleanTx_filled : Filled 0 (cleanTxData (fresh buf) size) :=
  upTo_keeps (fun _ => Filled 0) fresh_filled fun _ _ _ filled => filled.writing fun _ => rfl

theorem cleanRx_filled : Filled 0 (cleanRxData (fresh buf) size) := by
  have longs : Filled 0 (upTo (fun i buf => storeLong buf i 0) (size.toNat/SIZEOF_LONG) (fresh buf)) :=
    upTo_keeps (fun _ => Filled 0) fresh_filled fun _ _ _ filled => filled.writing zero_byte
  exact upTo_keeps (fun _ => Filled 0) longs fun _ _ _ filled => filled.writing fun _ => rfl

theorem init_exact_iff : WritesExactly size (initTxData (fresh buf) size) ↔ size.toNat%SIZEOF_LONG = 0 := by
  have whole : SIZEOF_LONG*(size.toNat/SIZEOF_LONG)+size.toNat%SIZEOF_LONG = size.toNat := Nat.div_add_mod _ _
  constructor
  · intro exact'
    apply Classical.byContradiction
    intro left
    -- The first byte behind the buffer is in the long of its first left-over byte.
    have beyond : size.toNat < SIZEOF_LONG*(size.toNat/SIZEOF_LONG+size.toNat%SIZEOF_LONG) := by
      unfold SIZEOF_LONG at *
      omega
    exact Nat.lt_irrefl _ ((exact' size.toNat).mp (init_written.mpr beyond))
  · intro aligned k
    rw [init_written,aligned,Nat.add_zero]
    omega

theorem cleanRx_exact_iff : WritesExactly size (cleanRxData (fresh buf) size) ↔
    size.toNat%SIZEOF_LONG = 0 ∨ size.toNat < SIZEOF_LONG := by
  constructor
  · intro exact'
    apply Classical.byContradiction
    intro neither
    -- The first byte behind the last long is left as it was.
    have last : SIZEOF_LONG*(size.toNat/SIZEOF_LONG) < size.toNat := by
      unfold SIZEOF_LONG at *
      omega
    have written := cleanRx_written.mp ((exact' _).mpr last)
    unfold SIZEOF_LONG at *
    omega
  · intro either k
    rw [cleanRx_written]
    unfold SIZEOF_LONG at *
    omega

theorem fills_iff (filler : Filler) (size : SizeT) (buf : Buffer) : Fills filler size buf ↔ filler = .cleanTxData ∨
    size.toNat%SIZEOF_LONG = 0 ∨ (filler = .cleanRxData ∧ size.toNat < SIZEOF_LONG) := by
  have cleans : Filled 0 (filler.run (fresh buf) size) ∨ filler = .initTxData := by
    cases filler with
    | initTxData => exact .inr rfl
    | cleanTxData => exact .inl cleanTx_filled
    | cleanRxData => exact .inl cleanRx_filled
  have fills : Fills filler size buf ↔ WritesExactly size (filler.run (fresh buf) size) := by
    refine ⟨Fills.exact,fun exact' => ⟨exact',fun other k below => ?_⟩⟩
    exact cleans.resolve_right other k ((exact' k).mpr below)
  rw [fills]
  cases filler with
  | initTxData => simpa [Filler.run] using init_exact_iff
  | cleanTxData => exact iff_of_true (fun _ => cleanTx_written) (.inl rfl)
  | cleanRxData => simpa [Filler.run] using cleanRx_exact_iff

theorem nine_bytes_not_filled : ¬ ∀ filler size buf, Fills filler size buf := by
  intro always
  have aligned := init_exact_iff.mp (always .initTxData 9 fun _ => 0).exact
  exact absurd aligned (by decide)

end
end Axidma.BufferFillers
