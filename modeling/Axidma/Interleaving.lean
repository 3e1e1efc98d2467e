import Mathlib.Logic.Relation
import Axidma.Interaction

namespace Interaction

variable {I : Interface} {ε α γ σ : Type}

structure Thread (I : Interface) (ε α γ : Type) where
  ghost : γ
  rest : Prog I ε α

-- Programs in progress on one machine: one of them performs its next operation,
-- or returns and is gone. Others may have come between any two of its steps.
inductive Interleave (machine : Machine I σ) (protocol : Protocol I γ) :
    σ → List (Thread I ε α γ) → σ → List (Thread I ε α γ) → Prop where
  | step {s : σ} {before after : List (Thread I ε α γ)} {ghost : γ} {op : I.Op} {rest : I.Reply op → Prog I ε α}
      (reply : I.Reply op) (given : machine.gives s op reply) :
      Interleave machine protocol s (before++⟨ghost,.call op rest⟩ :: after) (machine.perform s op reply)
        (before++⟨protocol.advance ghost op reply,rest reply⟩ :: after)
  | leave {s : σ} {before after : List (Thread I ε α γ)} {ghost : γ} {value : α} :
      Interleave machine protocol s (before++⟨ghost,.ret value⟩ :: after) s (before++after)

def Conforming (protocol : Protocol I γ) (post : γ → Outcome ε α → Prop) (threads : List (Thread I ε α γ)) : Prop :=
  ∀ thread ∈ threads, Conforms protocol post thread.ghost thread.rest

section
variable {machine : Machine I σ} {protocol : Protocol I γ} {post : γ → Outcome ε α → Prop} {s after : σ}
  {threads left : List (Thread I ε α γ)}

theorem Interleave.conforming (step : Interleave machine protocol s threads after left)
    (legal : ∀ s op reply, machine.gives s op reply → I.Legal op reply) (conforming : Conforming protocol post threads) :
    Conforming protocol post left := by
  cases step with
  | @step before after ghost op rest reply given =>
    intro thread member
    rcases List.mem_append.mp member with early | late
    · exact conforming thread (List.mem_append_left _ early)
    · rcases List.mem_cons.mp late with rfl | late
      · have here := conforming ⟨ghost,.call op rest⟩ (by simp)
        exact here.2 reply (legal s op reply given)
      · exact conforming thread (by simp [late])
  | leave =>
    intro thread member
    apply conforming thread
    rcases List.mem_append.mp member with early | late
    · exact List.mem_append_left _ early
    · exact List.mem_append_right _ (List.mem_cons_of_mem _ late)

theorem Does.conforms {allowed : I.Op → Prop} {after : Outcome ε α → Prop} {ghost : γ} {p : Prog I ε α}
    (does : Does allowed after p) (admitted : ∀ op, allowed op → protocol.admits ghost op)
    (still : ∀ op, allowed op → ∀ reply, protocol.advance ghost op reply = ghost)
    (ends : ∀ outcome, after outcome → post ghost outcome) : Conforms protocol post ghost p := by
  induction p with
  | ret value => exact ends _ does
  | fault error => exact ends _ does
  | call op next ih =>
    refine ⟨admitted op does.1,fun reply legal => ?_⟩
    rw [still op does.1 reply]
    exact ih reply (does.2 reply legal)

end

inductive ExecAmid (machine : Machine I σ) (env : σ → σ → Prop) : Prog I ε α → σ → Outcome ε α → σ → Prop where
  | ret {s : σ} {value : α} : ExecAmid machine env (.ret value) s (.returned value) s
  | fault {s : σ} {error : ε} : ExecAmid machine env (.fault error) s (.faulted error) s
  | call {s next : σ} {outcome : Outcome ε α} {op : I.Op} {rest : I.Reply op → Prog I ε α} (reply : I.Reply op)
      (given : machine.gives s op reply) (later : ExecAmid machine env (rest reply) (machine.perform s op reply) outcome next) :
      ExecAmid machine env (.call op rest) s outcome next
  | moved {s middle next : σ} {outcome : Outcome ε α} {p : Prog I ε α} (move : env s middle)
      (later : ExecAmid machine env p middle outcome next) : ExecAmid machine env p s outcome next

section
variable {machine : Machine I σ} {env : σ → σ → Prop} {protocol : Protocol I γ} {post : γ → Outcome ε α → Prop}
  {s next : σ} {outcome : Outcome ε α}

theorem Exec.amid {p : Prog I ε α} (executed : Exec machine p s outcome next) : ExecAmid machine env p s outcome next := by
  induction p generalizing s with
  | ret value =>
    obtain ⟨rfl,rfl⟩ := executed
    exact .ret
  | fault error =>
    obtain ⟨rfl,rfl⟩ := executed
    exact .fault
  | call op rest ih =>
    obtain ⟨reply,given,later⟩ := executed
    exact .call reply given (ih reply later)

-- A relation of the ghost and the state that the operations of the program and
-- the moves around it keep, up to the end of the program.
theorem ExecAmid.keeps (holds : γ → σ → Prop) {ghost : γ} {p : Prog I ε α} (path : ExecAmid machine env p s outcome next)
    (legal : ∀ s op reply, machine.gives s op reply → I.Legal op reply)
    (performed : ∀ ghost s op reply, holds ghost s → protocol.admits ghost op → machine.gives s op reply →
      holds (protocol.advance ghost op reply) (machine.perform s op reply))
    (calm : ∀ ghost s middle, holds ghost s → env s middle → holds ghost middle)
    (conforms : Conforms protocol post ghost p) (start : holds ghost s) : ∃ last, holds last next ∧ post last outcome := by
  induction path generalizing ghost with
  | ret => exact ⟨ghost,start,conforms⟩
  | fault => exact ⟨ghost,start,conforms⟩
  | call reply given _ ih => exact ih (conforms.2 reply (legal _ _ _ given)) (performed _ _ _ _ start conforms.1 given)
  | moved move _ ih => exact ih conforms (calm _ _ _ start move)

end

section
variable {machine : Machine I σ} {env : σ → σ → Prop} {allowed : I.Op → Prop} {s middle next : σ} {outcome : Outcome ε α}

-- A move that does not touch what the program works on may as well come after it.
theorem Exec.ahead {p : Prog I ε α} (does : Does allowed (fun _ => True) p) (legal : ∀ s op reply, machine.gives s op reply → I.Legal op reply)
    (aside : ∀ s middle op reply, allowed op → env s middle → machine.gives middle op reply →
      machine.gives s op reply ∧ env (machine.perform s op reply) (machine.perform middle op reply))
    (move : env s middle) (executed : Exec machine p middle outcome next) : ∃ last, Exec machine p s outcome last ∧ env last next := by
  induction p generalizing s middle with
  | ret value =>
    obtain ⟨rfl,rfl⟩ := executed
    exact ⟨s,⟨rfl,rfl⟩,move⟩
  | fault error =>
    obtain ⟨rfl,rfl⟩ := executed
    exact ⟨s,⟨rfl,rfl⟩,move⟩
  | call op rest ih =>
    obtain ⟨reply,given,executed⟩ := executed
    obtain ⟨here,moved⟩ := aside s middle op reply does.1 move given
    obtain ⟨last,ran,later⟩ := ih reply (does.2 reply (legal _ _ _ given)) moved executed
    exact ⟨last,⟨reply,here,ran⟩,later⟩

theorem ExecAmid.alone {p : Prog I ε α} (path : ExecAmid machine env p s outcome next) (does : Does allowed (fun _ => True) p)
    (legal : ∀ s op reply, machine.gives s op reply → I.Legal op reply)
    (aside : ∀ s middle op reply, allowed op → env s middle → machine.gives middle op reply →
      machine.gives s op reply ∧ env (machine.perform s op reply) (machine.perform middle op reply)) :
    ∃ last, Exec machine p s outcome last ∧ Relation.ReflTransGen env last next := by
  induction path with
  | @ret s => exact ⟨s,⟨rfl,rfl⟩,.refl⟩
  | @fault s => exact ⟨s,⟨rfl,rfl⟩,.refl⟩
  | call reply given _ ih =>
    obtain ⟨last,ran,moves⟩ := ih (does.2 reply (legal _ _ _ given))
    exact ⟨last,⟨reply,given,ran⟩,moves⟩
  | moved move _ ih =>
    obtain ⟨last,ran,moves⟩ := ih does
    obtain ⟨sooner,ran,later⟩ := Exec.ahead does legal aside move ran
    exact ⟨sooner,ran,.head later moves⟩

end

end Interaction
