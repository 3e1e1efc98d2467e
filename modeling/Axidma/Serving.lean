import Mathlib.Logic.Relation
import Mathlib.Logic.Function.Basic
import Axidma.Interleaving

namespace Interaction

variable {I : Interface} {ε α β σ τ ν : Type}

-- An operation that is served by something that takes steps of its own: which
-- replies and which states afterwards can come of it.
abbrev Server (I : Interface) (σ : Type) := σ → (op : I.Op) → I.Reply op → σ → Prop

def ExecOn (server : Server I σ) : Prog I ε α → σ → Outcome ε α → σ → Prop
  | .ret value,s,outcome,after => outcome = .returned value ∧ after = s
  | .fault error,s,outcome,after => outcome = .faulted error ∧ after = s
  | .call op rest,s,outcome,after => ∃ reply middle, server s op reply middle ∧ ExecOn server (rest reply) middle outcome after

def Promises (server : Server I σ) (post : Outcome ε α → σ → Prop) : Prog I ε α → σ → Prop
  | .ret value,s => post (.returned value) s
  | .fault error,s => post (.faulted error) s
  | .call op rest,s => ∀ reply middle, server s op reply middle → Promises server post (rest reply) middle

def Refines (relate : σ → τ → Prop) (lower : Server I σ) (upper : Server I τ) : Prop :=
  ∀ s t op reply after, relate s t → lower s op reply after → ∃ last, upper t op reply last ∧ relate after last

section
variable {server lower : Server I σ} {upper : Server I τ} {relate : σ → τ → Prop} {s after : σ} {t : τ}
  {outcome : Outcome ε α} {post : Outcome ε α → σ → Prop}

theorem promises_iff {p : Prog I ε α} :
    Promises server post p s ↔ ∀ outcome after, ExecOn server p s outcome after → post outcome after := by
  induction p generalizing s with
  | ret value =>
    constructor
    · intro holds outcome after ended
      obtain ⟨rfl,rfl⟩ := ended
      exact holds
    · intro ends
      exact ends _ _ ⟨rfl,rfl⟩
  | fault error =>
    constructor
    · intro holds outcome after ended
      obtain ⟨rfl,rfl⟩ := ended
      exact holds
    · intro ends
      exact ends _ _ ⟨rfl,rfl⟩
  | call op rest ih =>
    constructor
    · intro holds outcome after ended
      obtain ⟨reply,middle,served,ended⟩ := ended
      exact (ih reply).mp (holds reply middle served) outcome after ended
    · intro ends reply middle served
      exact (ih reply).mpr fun outcome after ended => ends outcome after ⟨reply,middle,served,ended⟩

theorem promises_if {c : Prop} [Decidable c] {p q : Prog I ε α} (yes : c → Promises server post p s)
    (no : ¬ c → Promises server post q s) : Promises server post (if c then p else q) s := by
  split
  · exact yes ‹c›
  · exact no ‹¬ c›

theorem promises_bind {p : Prog I ε α} {f : α → Prog I ε β} {post : Outcome ε β → σ → Prop}
    (first : Promises server (fun outcome after => match outcome with
      | .returned value => Promises server post (f value) after
      | .faulted error => post (.faulted error) after) p s) : Promises server post (p >>= f) s := by
  induction p generalizing s with
  | ret value => exact first
  | fault error => exact first
  | call op rest ih => exact fun reply middle served => ih reply (first reply middle served)

theorem Promises.mono {post' : Outcome ε α → σ → Prop} {p : Prog I ε α} (holds : Promises server post p s)
    (weaker : ∀ outcome after, post outcome after → post' outcome after) : Promises server post' p s := by
  induction p generalizing s with
  | ret value => exact weaker _ _ holds
  | fault error => exact weaker _ _ holds
  | call op rest ih => exact fun reply middle served => ih reply (holds reply middle served)

-- A program cannot tell that it is served below.
theorem Refines.exec (refines : Refines relate lower upper) {p : Prog I ε α} (related : relate s t)
    (ran : ExecOn lower p s outcome after) : ∃ last, ExecOn upper p t outcome last ∧ relate after last := by
  induction p generalizing s t with
  | ret value =>
    obtain ⟨rfl,rfl⟩ := ran
    exact ⟨t,⟨rfl,rfl⟩,related⟩
  | fault error =>
    obtain ⟨rfl,rfl⟩ := ran
    exact ⟨t,⟨rfl,rfl⟩,related⟩
  | call op rest ih =>
    obtain ⟨reply,middle,served,ran⟩ := ran
    obtain ⟨above,allowed,related⟩ := refines s t op reply middle related served
    obtain ⟨last,ran,related⟩ := ih reply related ran
    exact ⟨last,⟨reply,above,allowed,ran⟩,related⟩

theorem Refines.promised (refines : Refines relate lower upper) {p : Prog I ε α} {post : Outcome ε α → τ → Prop}
    (related : relate s t) (promises : Promises upper post p t) (ran : ExecOn lower p s outcome after) :
    ∃ last, relate after last ∧ post outcome last := by
  obtain ⟨last,ran,related⟩ := refines.exec related ran
  exact ⟨last,related,promises_iff.mp promises outcome last ran⟩

end

-- Several programs on one server, a call of one between calls of the others. One that
-- has come to the end of its round begins the next from where it left off.
inductive Turn {ι : Type} [DecidableEq ι] (server : Server I σ) (round : ι → ν → Prog I ε ν) :
    σ × (ι → Prog I ε ν) → σ × (ι → Prog I ε ν) → Prop where
  | call {s after : σ} {workers : ι → Prog I ε ν} {i : ι} {op : I.Op} {rest : I.Reply op → Prog I ε ν} {reply : I.Reply op}
      (asks : workers i = .call op rest) (served : server s op reply after) :
      Turn server round (s,workers) (after,Function.update workers i (rest reply))
  | again {s : σ} {workers : ι → Prog I ε ν} {i : ι} {value : ν} (ended : workers i = .ret value) :
      Turn server round (s,workers) (s,Function.update workers i (round i value))

section
variable {ι : Type} [DecidableEq ι] {server lower : Server I σ} {upper : Server I τ} {relate : σ → τ → Prop}
  {round : ι → ν → Prog I ε ν} {workers last : ι → Prog I ε ν} {s after : σ} {t : τ}

theorem Refines.turns (refines : Refines relate lower upper) (related : relate s t)
    (path : Relation.ReflTransGen (Turn lower round) (s,workers) (after,last)) :
    ∃ above, Relation.ReflTransGen (Turn upper round) (t,workers) (above,last) ∧ relate after above := by
  generalize reached : (after,last) = state at path
  induction path generalizing after last with
  | refl =>
    cases reached
    exact ⟨t,.refl,related⟩
  | tail _ turn ih =>
    cases turn with
    | call asks served =>
      cases reached
      obtain ⟨above,path,related⟩ := ih rfl
      obtain ⟨next,allowed,related⟩ := refines _ above _ _ _ related served
      exact ⟨next,path.tail (.call asks allowed),related⟩
    | again ended =>
      cases reached
      obtain ⟨above,path,related⟩ := ih rfl
      exact ⟨above,path.tail (.again ended),related⟩

variable {γ : Type} {protocol : ι → Protocol I γ} {ready : ι → γ → ν → Prop}

-- A worker keeps to its protocol, from wherever it is, until it is ready for a round.
def Keeping (protocol : ι → Protocol I γ) (ready : ι → γ → ν → Prop) (ghosts : ι → γ) (workers : ι → Prog I ε ν) : Prop :=
  ∀ i, Conforms (protocol i) (fun ghost outcome => ∀ value, outcome = .returned value → ready i ghost value) (ghosts i) (workers i)

theorem Keeping.update {ghosts : ι → γ} {i : ι} {ghost : γ} {rest : Prog I ε ν} (keeping : Keeping protocol ready ghosts workers)
    (conforms : Conforms (protocol i) (fun ghost outcome => ∀ value, outcome = .returned value → ready i ghost value) ghost rest) :
    Keeping protocol ready (Function.update ghosts i ghost) (Function.update workers i rest) := by
  intro j
  by_cases same : j = i
  · subst same
    rw [Function.update_self,Function.update_self]
    exact conforms
  · rw [Function.update_of_ne same,Function.update_of_ne same]
    exact keeping j

-- What every admitted call of one worker preserves holds however they take turns.
theorem Turn.keeps (protocol : ι → Protocol I γ) (ready : ι → γ → ν → Prop) (holds : (ι → γ) → σ → Prop)
    (legal : ∀ s op reply after, server s op reply after → I.Legal op reply)
    (performed : ∀ ghosts i op reply s after, holds ghosts s → (protocol i).admits (ghosts i) op → server s op reply after →
      holds (Function.update ghosts i ((protocol i).advance (ghosts i) op reply)) after)
    (rounds : ∀ i ghost value, ready i ghost value →
      Conforms (protocol i) (fun ghost outcome => ∀ value, outcome = .returned value → ready i ghost value) ghost (round i value))
    (path : Relation.ReflTransGen (Turn server round) (s,workers) (after,last)) {ghosts : ι → γ} (start : holds ghosts s)
    (keeping : Keeping protocol ready ghosts workers) : ∃ ghosts, holds ghosts after ∧ Keeping protocol ready ghosts last := by
  generalize reached : (after,last) = state at path
  induction path generalizing after last with
  | refl =>
    cases reached
    exact ⟨ghosts,start,keeping⟩
  | tail _ turn ih =>
    cases turn with
    | @call middle _ workers i op rest reply asks served =>
      cases reached
      obtain ⟨ghosts,held,keeping⟩ := ih rfl
      have conforms := keeping i
      rw [asks] at conforms
      exact ⟨_,performed ghosts i op reply _ _ held conforms.1 served,keeping.update (conforms.2 reply (legal _ _ _ _ served))⟩
    | @again middle workers i value ended =>
      cases reached
      obtain ⟨ghosts,held,keeping⟩ := ih rfl
      have conforms := keeping i
      rw [ended] at conforms
      refine ⟨ghosts,held,?_⟩
      have renewed := keeping.update (rounds i (ghosts i) value (conforms value rfl))
      rwa [Function.update_eq_self] at renewed

end

-- One way to serve some operations, so that a program runs by computation as long as
-- it asks for no other.
structure Serves (server : Server I σ) where
  serve : σ → (op : I.Op) → Option (I.Reply op × σ)
  served : ∀ s op result, serve s op = some result → server s op result.1 result.2

def Serves.advance {server : Server I σ} (serves : Serves server) : Nat → Prog I ε α → σ → Prog I ε α × σ
  | steps+1,.call op rest,s => match serves.serve s op with
    | some (reply,middle) => serves.advance steps (rest reply) middle
    | none => (.call op rest,s)
  | _,p,s => (p,s)

def Prog.result : Prog I ε α → Option α
  | .ret value => some value
  | _ => none

section
variable {server : Server I σ} {machine : Machine I σ} {env : σ → σ → Prop} {s middle next : σ} {outcome : Outcome ε α}

theorem Prog.result_ret {p : Prog I ε α} {value : α} (ended : p.result = some value) : p = .ret value := by
  cases p with
  | ret other =>
    cases ended
    rfl
  | fault error => cases ended
  | call op rest => cases ended

theorem Serves.exec (serves : Serves server) {steps : Nat} {p : Prog I ε α} {value : α}
    (done : (serves.advance steps p s).1.result = some value) :
    ExecOn server p s (.returned value) (serves.advance steps p s).2 := by
  induction steps generalizing p s with
  | zero => cases p with
    | ret result =>
      cases done
      exact ⟨rfl,rfl⟩
    | fault error => cases done
    | call op rest => cases done
  | succ steps ih =>
    cases p with
    | ret result =>
      cases done
      exact ⟨rfl,rfl⟩
    | fault error => cases done
    | call op rest =>
      simp only [Serves.advance] at done ⊢
      cases settled : serves.serve s op with
      | none =>
        rw [settled] at done
        cases done
      | some result =>
        rw [settled] at done
        exact ⟨result.1,result.2,serves.served s op result settled,ih done⟩

theorem Serves.turns {ι : Type} [DecidableEq ι] {round : ι → ν → Prog I ε ν} {workers : ι → Prog I ε ν} {i : ι} {p : Prog I ε ν}
    (serves : Serves server) {steps : Nat} (here : workers i = p) : Relation.ReflTransGen (Turn server round) (s,workers)
      ((serves.advance steps p s).2,Function.update workers i (serves.advance steps p s).1) := by
  have still : Relation.ReflTransGen (Turn server round) (s,workers) (s,Function.update workers i p) := by
    rw [← here,Function.update_eq_self]
  induction steps generalizing p s workers with
  | zero => cases p <;> exact still
  | succ steps ih =>
    cases p with
    | ret value => exact still
    | fault error => exact still
    | call op rest =>
      simp only [Serves.advance]
      cases settled : serves.serve s op with
      | none => exact still
      | some result =>
        obtain ⟨reply,middle⟩ := result
        have first : Turn server round (s,workers) (middle,Function.update workers i (rest reply)) :=
          .call here (serves.served s op (reply,middle) settled)
        have there : Function.update workers i (rest reply) i = rest reply := Function.update_self ..
        have later := @ih middle _ _ there (by rw [Function.update_idem])
        rw [Function.update_idem] at later
        exact .head first later

theorem ExecAmid.moves {p : Prog I ε α} (moves : Relation.ReflTransGen env s middle)
    (later : ExecAmid machine env p middle outcome next) : ExecAmid machine env p s outcome next := by
  induction moves using Relation.ReflTransGen.head_induction_on with
  | refl => exact later
  | head move _ ih => exact .moved move ih

theorem Answers.amid (answers : Answers machine) {steps : Nat} {p : Prog I ε α}
    (later : ExecAmid machine env (answers.advance steps p s).1 (answers.advance steps p s).2 outcome next) :
    ExecAmid machine env p s outcome next := by
  induction steps generalizing p s with
  | zero => cases p <;> exact later
  | succ steps ih =>
    cases p with
    | ret result => exact later
    | fault error => exact later
    | call op rest =>
      simp only [Answers.advance] at later
      cases settled : answers.reply s op with
      | none =>
        rw [settled] at later
        exact later
      | some reply =>
        rw [settled] at later
        exact .call reply (answers.given s op reply settled) (ih later)

end

-- The machine with a note beside its state of what its operations came to.
def Machine.noting (machine : Machine I σ) (note : (op : I.Op) → I.Reply op → List ν) : Machine I (σ × List ν) where
  gives := fun s => machine.gives s.1
  perform := fun s op reply => ⟨machine.perform s.1 op reply,s.2++note op reply⟩

section
variable {machine : Machine I σ} {note : (op : I.Op) → I.Reply op → List ν} {s after : σ × List ν} {outcome : Outcome ε α}

theorem Exec.unnoted {p : Prog I ε α} (executed : Exec (machine.noting note) p s outcome after) :
    Exec machine p s.1 outcome after.1 := by
  induction p generalizing s with
  | ret value =>
    obtain ⟨rfl,rfl⟩ := executed
    exact ⟨rfl,rfl⟩
  | fault error =>
    obtain ⟨rfl,rfl⟩ := executed
    exact ⟨rfl,rfl⟩
  | call op rest ih =>
    obtain ⟨reply,given,executed⟩ := executed
    exact ⟨reply,given,ih reply executed⟩

theorem Does.unnoted {allowed : I.Op → Prop} {ends : Outcome ε α → Prop} {p : Prog I ε α} (does : Does allowed ends p)
    (legal : ∀ s op reply, machine.gives s op reply → I.Legal op reply) (silent : ∀ op reply, allowed op → note op reply = [])
    (executed : Exec (machine.noting note) p s outcome after) : after.2 = s.2 := by
  induction p generalizing s with
  | ret value => rw [executed.2]
  | fault error => rw [executed.2]
  | call op rest ih =>
    obtain ⟨reply,given,executed⟩ := executed
    have later := ih reply (does.2 reply (legal _ _ _ given)) executed
    rw [later]
    show s.2++note op reply = s.2
    rw [silent op reply does.1,List.append_nil]

end

end Interaction
