import Axidma.BitPacking

namespace RecordedBuffer
open BitPacking

-- Cells from some address on, with the offsets that have been read and written.
structure Recorded (β : Type) where
  cells : Nat → β
  read : List Nat
  written : List Nat

section
variable {β : Type}

def fresh (cells : Nat → β) : Recorded β := ⟨cells,[],[]⟩

def Recorded.reading (r : Recorded β) (start n : Nat) : Recorded β := {r with read := List.range' start n++r.read}

def Recorded.writing (r : Recorded β) (start n : Nat) (values : Nat → β) : Recorded β where
  cells := fun k => if start ≤ k ∧ k < start+n then values (k-start) else r.cells k
  read := r.read
  written := List.range' start n++r.written

def Recorded.set (r : Recorded β) (i : Nat) (value : β) : Recorded β := r.writing i 1 fun _ => value

-- What a function does that is handed the address of a later cell.
def Recorded.behind (r : Recorded β) (offset : Nat) (f : Recorded β → Recorded β) : Recorded β :=
  let inner := f (fresh fun k => r.cells (offset+k))
  { cells := fun k => if k < offset then r.cells k else inner.cells (k-offset)
    read := inner.read.map (offset+·)++r.read
    written := inner.written.map (offset+·)++r.written }

def memcpy (dst src : Recorded β) (n : Nat) : Recorded β × Recorded β := (dst.writing 0 n src.cells,src.reading 0 n)

-- temp = *p; *p = *p1; *p1 = temp
def Recorded.exchange (r : Recorded β) (p p1 : Nat) : Recorded β :=
  let temp := r.cells p
  let r := r.reading p 1
  let other := r.cells p1
  let r := r.reading p1 1
  (r.set p other).set p1 temp

def reversing (r : Recorded β) (p p1 : Nat) : Recorded β :=
  if p < p1 then reversing (r.exchange p p1) (p+1) (p1-1) else r
termination_by p1-p

def Touches (r : Recorded β) (k : Nat) : Prop := k ∈ r.read ∨ k ∈ r.written

def Filled (value : β) (r : Recorded β) : Prop := ∀ k ∈ r.written, r.cells k = value

variable {r : Recorded β} {start n i k : Nat} {values : Nat → β} {value : β}

@[simp] theorem reading_cells : (r.reading start n).cells = r.cells := rfl
@[simp] theorem reading_written : (r.reading start n).written = r.written := rfl
@[simp] theorem set_read : (r.set i value).read = r.read := rfl

theorem mem_reading : k ∈ (r.reading start n).read ↔ (start ≤ k ∧ k < start+n) ∨ k ∈ r.read := by
  rw [Recorded.reading,List.mem_append,List.mem_range'_1]

theorem mem_writing : k ∈ (r.writing start n values).written ↔ (start ≤ k ∧ k < start+n) ∨ k ∈ r.written := by
  rw [Recorded.writing,List.mem_append,List.mem_range'_1]

theorem mem_behind {offset : Nat} {f : Recorded β → Recorded β} : k ∈ (r.behind offset f).written ↔
    (offset ≤ k ∧ k-offset ∈ (f (fresh fun k => r.cells (offset+k))).written) ∨ k ∈ r.written := by
  rw [Recorded.behind,List.mem_append,List.mem_map]
  apply or_congr_left
  constructor
  · intro found
    obtain ⟨inner,member,rfl⟩ := found
    exact ⟨Nat.le_add_right _ _,by rwa [Nat.add_sub_cancel_left]⟩
  · intro found
    exact ⟨k-offset,found.2,Nat.add_sub_cancel' found.1⟩

theorem mem_set : k ∈ (r.set i value).written ↔ k = i ∨ k ∈ r.written := by
  have one : (i ≤ k ∧ k < i+1) ↔ k = i := by omega
  rw [Recorded.set,mem_writing,one]

theorem set_cells : (r.set i value).cells k = if k = i then value else r.cells k := by
  have one : (i ≤ k ∧ k < i+1) ↔ k = i := by omega
  simp only [Recorded.set,Recorded.writing,one]

theorem Filled.writing (filled : Filled value r) (same : ∀ j, values j = value) : Filled value (r.writing start n values) := by
  intro k member
  by_cases inside : start ≤ k ∧ k < start+n
  · exact (if_pos inside).trans (same _)
  · exact (if_neg inside).trans (filled k ((mem_writing.mp member).resolve_left inside))

-- A loop whose passes write one block after the other, each of w cells.
theorem mem_blocks {body : Nat → Recorded β → Recorded β} {w first : Nat}
    (block : ∀ i r, k ∈ (body i r).written ↔ (w*(first+i) ≤ k ∧ k < w*(first+i)+w) ∨ k ∈ r.written) :
    k ∈ (upTo body n r).written ↔ (w*first ≤ k ∧ k < w*(first+n)) ∨ k ∈ r.written := by
  induction n with
  | zero =>
    rw [upTo,Nat.add_zero]
    exact (or_iff_right fun none => Nat.lt_irrefl _ (Nat.lt_of_le_of_lt none.1 none.2)).symm
  | succ n ih =>
    have low : w*first ≤ w*(first+n) := Nat.mul_le_mul_left w (Nat.le_add_right first n)
    have next : w*(first+(n+1)) = w*(first+n)+w := Nat.mul_succ w (first+n)
    rw [upTo,block,ih,next,← or_assoc]
    apply or_congr_left
    omega

end

section
variable {r : Recorded (BitVec 8)} {p p1 k : Nat}

theorem exchange_cells : (r.exchange p p1).cells = store (store r.cells p (r.cells p1)) p1 (r.cells p) := by
  funext k
  simp only [Recorded.exchange,set_cells,reading_cells]
  rfl

theorem reversing_cells : (reversing r p p1).cells = reverseBetween r.cells p p1 := by
  induction r, p, p1 using reversing.induct with
  | case1 r p p1 apart ih => rw [reversing,if_pos apart,reverseBetween,if_pos apart,ih,exchange_cells]
  | case2 r p p1 met => rw [reversing,if_neg met,reverseBetween,if_neg met]

end

section
variable {β : Type} {r : Recorded β} {p p1 k : Nat}

theorem exchange_touches : Touches (r.exchange p p1) k ↔ k = p ∨ k = p1 ∨ Touches r k := by
  have one : ∀ i, (i ≤ k ∧ k < i+1) ↔ k = i := fun i => by omega
  simp only [Touches,Recorded.exchange,set_read,mem_set,mem_reading,reading_written,one]
  grind

theorem reversing_touches (touched : Touches (reversing r p p1) k) : Touches r k ∨ (p ≤ k ∧ k ≤ p1) := by
  induction r, p, p1 using reversing.induct with
  | case1 r p p1 apart ih =>
    rw [reversing,if_pos apart] at touched
    rcases ih touched with before | inside
    · rcases exchange_touches.mp before with rfl | rfl | before
      · exact .inr ⟨Nat.le_refl _,Nat.le_of_lt apart⟩
      · exact .inr ⟨Nat.le_of_lt apart,Nat.le_refl _⟩
      · exact .inl before
    · exact .inr (by omega)
  | case2 r p p1 met =>
    rw [reversing,if_neg met] at touched
    exact .inl touched

end
end RecordedBuffer
