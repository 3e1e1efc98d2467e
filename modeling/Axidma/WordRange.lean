import Mathlib.Algebra.Ring.Nat

namespace WordRange

variable {w : Nat} {a n : BitVec w}

theorem add_fits (fits : a.toNat+n.toNat < 2^w) : (a+n).toNat = a.toNat+n.toNat := by
  rw [BitVec.toNat_add]
  exact Nat.mod_eq_of_lt fits

theorem add_wraps (wraps : 2^w ≤ a.toNat+n.toNat) : (a+n).toNat = a.toNat+n.toNat-2^w := by
  have left := a.isLt
  have right := n.isLt
  rw [BitVec.toNat_add,Nat.mod_eq_sub_mod wraps]
  exact Nat.mod_eq_of_lt (by omega)

-- A range of one address space together with the place it is mapped to.
structure Window (w : Nat) where
  start : BitVec w
  size : BitVec w
  base : BitVec w
deriving DecidableEq

namespace Window
variable {win : Window w}

def EndFits (win : Window w) : Prop := win.start.toNat+win.size.toNat < 2^w

-- The window holds the whole range of n words from a, in unbounded integers.
def Contains (win : Window w) (a n : BitVec w) : Prop :=
  win.start.toNat ≤ a.toNat ∧ a.toNat+n.toNat ≤ win.start.toNat+win.size.toNat

-- What is left of that test when the end of the range is computed modulo 2^w.
def ContainsWrapped (win : Window w) (a n : BitVec w) : Prop :=
  win.start.toNat ≤ a.toNat ∧ a.toNat+n.toNat ≤ 2^w+(win.start.toNat+win.size.toNat)

instance : Decidable (win.EndFits) := inferInstanceAs (Decidable (_ < _))
instance : Decidable (win.Contains a n) := inferInstanceAs (Decidable (_ ∧ _))
instance : Decidable (win.ContainsWrapped a n) := inferInstanceAs (Decidable (_ ∧ _))

def image (win : Window w) (a : BitVec w) : BitVec w := win.base+(a-win.start)

def imageNat (win : Window w) (a : BitVec w) : Nat :=
  (win.base.toNat+(a.toNat-win.start.toNat)) % 2^w

theorem image_toNat (above : win.start.toNat ≤ a.toNat) : (win.image a).toNat = win.imageNat a := by
  have offset := BitVec.toNat_sub_of_le (BitVec.le_def.mpr above)
  simp only [image,imageNat,BitVec.toNat_add,offset]

theorem image_eq_zero (above : win.start.toNat ≤ a.toNat) : win.image a = 0 ↔ win.imageNat a = 0 := by
  rw [←image_toNat above]
  constructor
  · intro zero
    simp [zero]
  · intro zero
    apply BitVec.eq_of_toNat_eq
    simpa using zero

theorem Contains.fits (holds : win.Contains a n) (ends : win.EndFits) : a.toNat+n.toNat < 2^w :=
  Nat.lt_of_le_of_lt holds.2 ends

theorem image_inside (holds : win.Contains a n) {k : Nat} (inside : k < n.toNat) :
    ∃ j, j < win.size.toNat ∧ win.image a+BitVec.ofNat w k = win.base+BitVec.ofNat w j := by
  obtain ⟨above,below⟩ := holds
  refine ⟨a.toNat-win.start.toNat+k,by omega,?_⟩
  have offset : a-win.start = BitVec.ofNat w (a.toNat-win.start.toNat) := by
    apply BitVec.eq_of_toNat_eq
    have bound := a.isLt
    rw [BitVec.toNat_sub_of_le (BitVec.le_def.mpr above),BitVec.toNat_ofNat]
    exact (Nat.mod_eq_of_lt (by omega)).symm
  rw [image,offset,BitVec.add_assoc,BitVec.ofNat_add]

theorem image_bounds (holds : win.Contains a n) (fits : win.base.toNat+win.size.toNat ≤ 2^w)
    (nonzero : win.image a ≠ 0) :
    win.base.toNat ≤ (win.image a).toNat ∧
      (win.image a).toNat+n.toNat ≤ win.base.toNat+win.size.toNat := by
  obtain ⟨above,below⟩ := holds
  have value := image_toNat above
  have notZero : win.imageNat a ≠ 0 := fun zero => nonzero ((image_eq_zero above).mpr zero)
  have small : win.base.toNat+(a.toNat-win.start.toNat) < 2^w := by
    apply Classical.byContradiction
    intro large
    have full : win.base.toNat+(a.toNat-win.start.toNat) = 2^w := by omega
    exact notZero (by rw [imageNat,full,Nat.mod_self])
  rw [imageNat,Nat.mod_eq_of_lt small] at value
  omega

def Covers (win : Window w) (n : Nat) : Prop := win.start.toNat ≤ n ∧ n < win.start.toNat+win.size.toNat

instance {n : Nat} : Decidable (win.Covers n) := inferInstanceAs (Decidable (_ ∧ _))

def Apart (win other : Window w) : Prop := ∀ n, ¬ (win.Covers n ∧ other.Covers n)

theorem Apart.symm {other : Window w} (apart : Apart win other) : Apart other win :=
  fun n both => apart n both.symm

theorem apart_of_below {other : Window w} (below : win.start.toNat+win.size.toNat ≤ other.start.toNat) :
    Apart win other := by
  rintro n ⟨⟨_,ends⟩,⟨starts,_⟩⟩
  omega

end Window
end WordRange
