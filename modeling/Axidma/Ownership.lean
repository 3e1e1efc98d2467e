import Mathlib.Algebra.Order.Group.Multiset
import Mathlib.Algebra.BigOperators.Group.List.Basic
import Axidma.Interleaving

namespace Interaction

variable {I : Interface} {ε α σ ρ : Type}

-- What each operation makes and destroys, and what it leaves with the state.
structure Economy (I : Interface) (ρ : Type) where
  brings : (op : I.Op) → I.Reply op → Multiset ρ
  destroys : I.Op → Multiset ρ
  leaves : I.Op → Multiset ρ

def Economy.gives (economy : Economy I ρ) (op : I.Op) : Multiset ρ := economy.destroys op+economy.leaves op

structure Books [DecidableEq ρ] (economy : Economy I ρ) (machine : Machine I σ) (exist kept : σ → Multiset ρ) : Prop where
  exist : ∀ s op reply, machine.gives s op reply → economy.destroys op ≤ exist s →
    exist (machine.perform s op reply) = economy.brings op reply+(exist s-economy.destroys op)
  kept : ∀ s op reply, machine.gives s op reply → kept (machine.perform s op reply) = economy.leaves op+kept s

def heldBy (threads : List (Thread I ε α (Multiset ρ))) : Multiset ρ := (threads.map (·.ghost)).sum

-- Everything that exists has exactly one owner, the state or a program.
def Balanced (exist kept : σ → Multiset ρ) (s : σ) (threads : List (Thread I ε α (Multiset ρ))) : Prop :=
  exist s = kept s+heldBy threads

-- A program that returns holds nothing. One that faults never runs again.
def Settled (held : Multiset ρ) : Outcome ε α → Prop
  | .returned _ => held = 0
  | .faulted _ => True

theorem heldBy_append {before after : List (Thread I ε α (Multiset ρ))} :
    heldBy (before++after) = heldBy before+heldBy after := by simp [heldBy]

theorem heldBy_cons {held : Multiset ρ} {p : Prog I ε α} {after : List (Thread I ε α (Multiset ρ))} :
    heldBy (⟨held,p⟩ :: after) = held+heldBy after := by simp [heldBy]

section
variable [DecidableEq ρ]

def Economy.protocol (economy : Economy I ρ) : Protocol I (Multiset ρ) where
  admits := fun held op => economy.gives op ≤ held
  advance := fun held op reply => economy.brings op reply+(held-economy.gives op)

variable {economy : Economy I ρ} {machine : Machine I σ} {exist kept : σ → Multiset ρ} {s after : σ}
  {threads left : List (Thread I ε α (Multiset ρ))} {post : Multiset ρ → Outcome ε α → Prop}

theorem Economy.conforms_gives {op : I.Op} {next : I.Reply op → Prog I ε α} {held rest : Multiset ρ}
    (split : held = economy.gives op+rest)
    (later : ∀ reply, I.Legal op reply → Conforms economy.protocol post (economy.brings op reply+rest) (next reply)) :
    Conforms economy.protocol post held (.call op next) := by
  subst split
  refine ⟨Multiset.le_add_right _ _,fun reply legal => ?_⟩
  show Conforms _ _ (economy.brings op reply+(economy.gives op+rest-economy.gives op)) _
  rw [add_tsub_cancel_left]
  exact later reply legal

theorem Economy.conforms_free {p : Prog I ε α} {held : Multiset ρ} {allowed : I.Op → Prop} {ends : Outcome ε α → Prop}
    (does : Does allowed ends p) (free : ∀ op, allowed op → economy.gives op = 0 ∧ ∀ reply, economy.brings op reply = 0) :
    Conforms economy.protocol (fun last outcome => last = held ∧ ends outcome) held p := by
  refine does.conforms ?_ ?_ fun _ reached => ⟨rfl,reached⟩
  · intro op op_allowed
    show economy.gives op ≤ held
    rw [(free op op_allowed).1]
    exact Multiset.zero_le held
  · intro op op_allowed reply
    show economy.brings op reply+(held-economy.gives op) = held
    rw [(free op op_allowed).1,(free op op_allowed).2 reply,Multiset.sub_zero,zero_add]

theorem Books.performed (books : Books economy machine exist kept) {before later : List (Thread I ε α (Multiset ρ))}
    {held : Multiset ρ} {op : I.Op} {rest : I.Reply op → Prog I ε α} {reply : I.Reply op}
    (balanced : Balanced exist kept s (before++⟨held,.call op rest⟩ :: later)) (given : machine.gives s op reply)
    (admitted : economy.gives op ≤ held) : Balanced exist kept (machine.perform s op reply)
      (before++⟨economy.protocol.advance held op reply,rest reply⟩ :: later) := by
  obtain ⟨others,rfl⟩ := Multiset.le_iff_exists_add.mp admitted
  unfold Balanced at balanced ⊢
  simp only [heldBy_append,heldBy_cons] at balanced ⊢
  have all : exist s = economy.destroys op+(kept s+economy.leaves op+others+heldBy before+heldBy later) := by
    rw [balanced,Economy.gives]
    ac_rfl
  have there : economy.destroys op ≤ exist s := by
    rw [all]
    exact Multiset.le_add_right _ _
  rw [books.exist s op reply given there,books.kept s op reply given,all,add_tsub_cancel_left]
  show _ = economy.leaves op+kept s+(heldBy before+(economy.brings op reply+(economy.gives op+others-economy.gives op)+heldBy later))
  rw [add_tsub_cancel_left]
  ac_rfl

theorem Interleave.balanced (books : Books economy machine exist kept) (conforming : Conforming economy.protocol Settled threads)
    (balanced : Balanced exist kept s threads) (step : Interleave machine economy.protocol s threads after left) :
    Balanced exist kept after left := by
  cases step with
  | @step before later held op rest reply given =>
    have admitted := (conforming ⟨held,.call op rest⟩ (by simp)).1
    exact books.performed balanced given admitted
  | @leave before later held value =>
    have nothing : held = 0 := conforming ⟨held,.ret value⟩ (by simp)
    unfold Balanced at balanced ⊢
    rw [balanced,heldBy_append,heldBy_append,heldBy_cons,nothing,zero_add]

theorem Balanced.present (balanced : Balanced exist kept s threads) (conforming : Conforming economy.protocol post threads)
    {held : Multiset ρ} {op : I.Op} {rest : I.Reply op → Prog I ε α} (running : ⟨held,.call op rest⟩ ∈ threads) :
    economy.gives op+kept s ≤ exist s := by
  obtain ⟨before,later,rfl⟩ := List.append_of_mem running
  have admitted : economy.gives op ≤ held := (conforming _ running).1
  rw [balanced,heldBy_append,heldBy_cons]
  calc economy.gives op+kept s ≤ held+kept s := add_le_add_left admitted (kept s)
    _ ≤ held+kept s+(heldBy before+heldBy later) := Multiset.le_add_right _ _
    _ = kept s+(heldBy before+(held+heldBy later)) := by ac_rfl

end

end Interaction
