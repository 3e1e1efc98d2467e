import Axidma.FrameHeader
import Axidma.RecordedBuffer

namespace Axidma.ArrayHelpers
open BitPacking FrameHeader RecordedBuffer

section
variable {signed : Bool} {n i k : Nat}

theorem low_bit (word : CInt) {shift : Nat} (inside : shift < 32) :
    (word.sshiftRight shift &&& 1).setWidth 8 = if word.getLsbD shift then (1 : CChar) else 0 := by
  apply BitVec.eq_of_getLsbD_eq
  intro k below
  rw [BitVec.getLsbD_setWidth]
  by_cases zero : k = 0
  · subst zero
    rw [masked_bit word inside]
    cases word.getLsbD shift with
    | true => rfl
    | false => rfl
  · have high : (1 : CInt).getLsbD k = false := by simp [zero]
    have none : ∀ bit : Bool, (if bit then (1 : CChar) else 0).getLsbD k = false := by
      intro bit
      cases bit with
      | true => simp [zero]
      | false => simp
    rw [BitVec.getLsbD_and,high,none,Bool.and_false,Bool.and_false]

theorem masked_cell (cell : CChar) : cell &&& 1 = if cell.getLsbD 0 then (1 : CChar) else 0 := by
  revert cell
  decide

theorem bytes_back {bytes bitpack out : Buffer} (inside : i < n) :
    bit2char signed (char2bit signed bytes n bitpack) n out i = bytes i := by
  apply BitVec.eq_of_getLsbD_eq
  intro k below
  have cell : 8*i+7-k < n*8 := by omega
  have byte : (8*i+7-k)/8 = i := by omega
  have bit : 7-(8*i+7-k)%8 = k := by omega
  rw [bit2char_bits inside below,char2bit_bit cell,byte,bit]

theorem cells_back {cells bitpack out : Buffer} (inside : i < 8*n) :
    char2bit signed (bit2char signed cells n out) n bitpack i = cells i &&& 1 := by
  have cell : i < n*8 := by omega
  have byte : i/8 < n := by omega
  have shift : 7-i%8 < 32 := by omega
  have bit : 7-i%8 < 8 := by omega
  have place : 8*(i/8)+7-(7-i%8) = i := by omega
  rw [char2bit_apply,if_pos cell,low_bit _ shift,promote_low _ bit,bit2char_bits byte bit,place,masked_cell]

-- The one array is turned into the other and back, whatever both held before.
theorem converts_back (signed : Bool) (n : Nat) (bitpack out : Buffer) :
    (∀ (bytes : Buffer) (i : Nat), i < n → bit2char signed (char2bit signed bytes n bitpack) n out i = bytes i) ∧
    ∀ (cells : Buffer) (i : Nat), i < 8*n → char2bit signed (bit2char signed cells n out) n bitpack i = cells i &&& 1 :=
  ⟨fun _ _ => bytes_back,fun _ _ => cells_back⟩

end

-- revert_char with its accesses: the source and the destination after it.
def revertChar (data : Recorded CChar) (len : Nat) (rData : Recorded CChar) : Recorded CChar × Recorded CChar :=
  let copied := memcpy rData data (len+1)
  (copied.2,reversing copied.1 0 (len-1))

structure Reverts (room len : Nat) (data rData : Buffer) : Prop where
  source : ∀ k, Touches (revertChar (fresh data) len (fresh rData)).1 k → k < room
  destination : ∀ k, Touches (revertChar (fresh data) len (fresh rData)).2 k → k < room
  reversed : ∀ i, i < len → (revertChar (fresh data) len (fresh rData)).2.cells i = data (len-1-i)

section
variable {room len : Nat} {data rData : Buffer}

theorem copied_cells {β : Type} (dst src : Recorded β) (n k : Nat) :
    (memcpy dst src n).1.cells k = if k < n then src.cells k else dst.cells k := by
  have start : (0 ≤ k ∧ k < 0+n) ↔ k < n := by omega
  simp only [memcpy,Recorded.writing,start,Nat.sub_zero]

theorem revertChar_cells : (revertChar (fresh data) len (fresh rData)).2.cells = FrameHeader.revertChar data len rData := by
  have copied : (memcpy (fresh rData) (fresh data) (len+1)).1.cells = copy rData data (len+1) := by
    funext k
    rw [copied_cells]
    rfl
  rw [revertChar,reversing_cells,copied]
  rfl

theorem source_touched {k : Nat} : Touches (revertChar (fresh data) len (fresh rData)).1 k ↔ k < len+1 := by
  have start : (0 ≤ k ∧ k < 0+(len+1)) ↔ k < len+1 := by omega
  have none : k ∉ (fresh data).read ∧ k ∉ (fresh data).written := ⟨List.not_mem_nil,List.not_mem_nil⟩
  unfold Touches revertChar memcpy
  rw [mem_reading,start,reading_written,or_iff_left none.1,or_iff_left none.2]

theorem destination_touched {k : Nat} (touched : Touches (revertChar (fresh data) len (fresh rData)).2 k) : k < len+1 := by
  rcases reversing_touches touched with copied | inside
  · rcases copied with read | written
    · cases read
    · rcases mem_writing.mp written with inside | before
      · omega
      · cases before
  · omega

-- The copy takes one cell more than is reversed, so that much room is needed.
theorem reverts_iff : Reverts room len data rData ↔ len < room := by
  constructor
  · exact fun reverts => reverts.source len (source_touched.mpr (Nat.lt_succ_self len))
  · intro enough
    constructor
    case source => exact fun k touched => Nat.lt_of_lt_of_le (source_touched.mp touched) enough
    case destination => exact fun k touched => Nat.lt_of_lt_of_le (destination_touched touched) enough
    case reversed =>
      intro i inside
      rw [revertChar_cells]
      exact revertChar_apply inside

theorem never_inside (len : Nat) (data rData : Buffer) : ¬ Reverts len len data rData :=
  fun reverts => Nat.lt_irrefl len (reverts_iff.mp reverts)

theorem packs_overrun : ¬ ∀ len data rData, 1 ≤ len → Reverts len len data rData := by
  intro always
  have reverts := always HEAD_SIZE (fun _ => 0) (fun _ => 0) (by decide)
  exact Nat.lt_irrefl HEAD_SIZE (reverts_iff.mp reverts)

end
end Axidma.ArrayHelpers
