import Mathlib.Data.Nat.Digits.Lemmas

namespace Numerals

def spelled (base : Nat) (digits : List Nat) : Nat := digits.foldl (fun value d => base*value+d) 0

-- The digits of a number, the highest first.
structure IsNumeral (base m : Nat) (digits : List Nat) : Prop where
  nonempty : digits ≠ []
  each : ∀ d ∈ digits, d < base
  leading : digits.head? = some 0 → digits = [0]
  value : spelled base digits = m

-- The digits in the order in which division takes them, of 0 too.
def lowDigits (base m : Nat) : List Nat := if m = 0 then [0] else Nat.digits base m

section
variable {base m k : Nat}

theorem lowDigits_zero : lowDigits base 0 = [0] := if_pos rfl

theorem lowDigits_pos (positive : m ≠ 0) : lowDigits base m = Nat.digits base m := if_neg positive

theorem lowDigits_next (wide : 1 < base) : lowDigits base m = m%base :: if m/base = 0 then [] else lowDigits base (m/base) := by
  by_cases zero : m = 0
  · simp [zero,lowDigits_zero]
  · rw [lowDigits_pos zero,Nat.digits_eq_cons_digits_div wide zero]
    by_cases last : m/base = 0
    · rw [if_pos last,last,Nat.digits_zero]
    · rw [if_neg last,lowDigits_pos last]

theorem spelled_reverse (digits : List Nat) : spelled base digits.reverse = Nat.ofDigits base digits := by
  induction digits with
  | nil => rfl
  | cons d digits ih =>
    rw [spelled] at ih ⊢
    rw [List.reverse_cons,List.foldl_append,ih,Nat.ofDigits_cons]
    simp [Nat.add_comm]

theorem lowDigits_numeral (wide : 1 < base) : IsNumeral base m (lowDigits base m).reverse := by
  by_cases zero : m = 0
  · subst zero
    rw [lowDigits_zero]
    constructor
    case nonempty => decide
    case each =>
      intro d member
      rw [List.mem_singleton.mp member]
      exact Nat.lt_of_succ_lt wide
    case leading => exact fun _ => rfl
    case value => rfl
  · have some : Nat.digits base m ≠ [] := Nat.digits_ne_nil_iff_ne_zero.mpr zero
    rw [lowDigits_pos zero]
    constructor
    case nonempty => simpa using some
    case each =>
      intro d member
      exact Nat.digits_lt_base wide (List.mem_reverse.mp member)
    case leading =>
      intro top
      rw [List.head?_reverse,List.getLast?_eq_getLast_of_ne_nil some] at top
      exact absurd (Option.some.inj top) (Nat.getLast_digit_ne_zero base zero)
    case value => rw [spelled_reverse,Nat.ofDigits_digits]

theorem lowDigits_length (wide : 1 < base) (positive : 0 < k) (small : m < base^k) : (lowDigits base m).length ≤ k := by
  by_cases zero : m = 0
  · rw [zero,lowDigits_zero]
    exact positive
  · rw [lowDigits_pos zero]
    exact (Nat.digits_length_le_iff wide m).mpr small

end
end Numerals
