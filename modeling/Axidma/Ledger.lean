import Mathlib.Data.List.Perm.Basic

namespace Ledger

variable {ρ : Type}

-- What is held, each thing as often as it was taken, and what was given back
-- without being held.
structure Account (ρ : Type) where
  held : List ρ
  strays : List ρ
deriving DecidableEq

def Account.take (account : Account ρ) (thing : ρ) : Account ρ := {account with held := thing :: account.held}

-- Since the earlier account exactly these things were taken and not given back,
-- and nothing was given back that was not held.
structure Owes (before : Account ρ) (things : List ρ) (after : Account ρ) : Prop where
  held : after.held.Perm (things++before.held)
  strays : after.strays = before.strays

section
variable {before after : Account ρ} {things others : List ρ} {thing : ρ}

theorem Owes.start : Owes before [] before := ⟨.refl _,rfl⟩

theorem Owes.perm (owes : Owes before things after) (same : things.Perm others) : Owes before others after :=
  ⟨owes.held.trans (same.append_right _),owes.strays⟩

theorem Owes.take (owes : Owes before things after) : Owes before (thing :: things) (after.take thing) :=
  ⟨owes.held.cons thing,owes.strays⟩

theorem Owes.length (owes : Owes before things after) (also : Owes before others after) : things.length = others.length := by
  have same := owes.held.symm.trans also.held
  simpa using same.length_eq

end

variable [DecidableEq ρ]

def Account.giveBack (account : Account ρ) (thing : ρ) : Account ρ :=
  if thing ∈ account.held then {account with held := account.held.erase thing}
  else {account with strays := thing :: account.strays}

theorem Owes.giveBack {before after : Account ρ} {things : List ρ} {thing : ρ} (owes : Owes before (thing :: things) after) :
    Owes before things (after.giveBack thing) := by
  have present : thing ∈ after.held := owes.held.mem_iff.mpr (by simp)
  unfold Account.giveBack
  rw [if_pos present]
  refine ⟨?_,owes.strays⟩
  have erased := owes.held.erase thing
  rwa [List.cons_append,List.erase_cons_head] at erased

theorem Owes.giveBack_last {before after : Account ρ} {things : List ρ} {thing : ρ} (owes : Owes before (things++[thing]) after) :
    Owes before things (after.giveBack thing) := (owes.perm (List.perm_append_singleton thing things)).giveBack

end Ledger
