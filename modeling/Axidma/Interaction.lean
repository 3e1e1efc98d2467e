import Mathlib.Logic.Basic

namespace Interaction

-- What a program may ask of its surroundings and which replies it can get.
-- Legal rules out replies that no surroundings ever give; which of the legal
-- ones comes in a given state is left to a Machine below.
structure Interface where
  Op : Type
  Reply : Op → Type
  Legal : (op : Op) → Reply op → Prop

inductive Outcome (ε α : Type) where
  | returned (value : α)
  | faulted (error : ε)
deriving DecidableEq

-- A program is the tree of its calls: a node asks one operation and continues
-- with the reply. One text serves runs without interference and interleavings.
inductive Prog (I : Interface) (ε α : Type) where
  | ret (value : α)
  | fault (error : ε)
  | call (op : I.Op) (next : I.Reply op → Prog I ε α)

variable {I : Interface} {ε α β γ σ : Type}

namespace Prog

def bind : Prog I ε α → (α → Prog I ε β) → Prog I ε β
  | .ret value,f => f value
  | .fault error,_ => .fault error
  | .call op next,f => .call op fun reply => (next reply).bind f

instance : Monad (Prog I ε) where
  pure := .ret
  bind := Prog.bind

@[simp] theorem pure_eq (value : α) : (pure value : Prog I ε α) = .ret value := rfl
@[simp] theorem ret_bind (value : α) (f : α → Prog I ε β) : (Prog.ret value >>= f) = f value := rfl
@[simp] theorem fault_bind (error : ε) (f : α → Prog I ε β) :
    (Prog.fault error >>= f) = .fault error := rfl
@[simp] theorem call_bind (op : I.Op) (next : I.Reply op → Prog I ε α) (f : α → Prog I ε β) :
    (Prog.call op next >>= f) = .call op fun reply => next reply >>= f := rfl

theorem bind_ret (p : Prog I ε α) : (p >>= Prog.ret) = p := by
  induction p with
  | ret value => rfl
  | fault error => rfl
  | call op next ih => simp [ih]

@[simp] theorem bind_assoc (p : Prog I ε α) (f : α → Prog I ε β) (g : β → Prog I ε γ) :
    ((p >>= f) >>= g) = p >>= fun value => f value >>= g := by
  induction p with
  | ret value => rfl
  | fault error => rfl
  | call op next ih => simp [ih]

instance : LawfulMonad (Prog I ε) := LawfulMonad.mk' _ bind_ret (fun _ _ => rfl) bind_assoc

@[simp] def ask (op : I.Op) : Prog I ε (I.Reply op) := .call op .ret

def deref (missing : ε) : Option α → Prog I ε α
  | some value => .ret value
  | none => .fault missing

@[simp] theorem deref_some (missing : ε) (value : α) :
    (deref missing (some value) : Prog I ε α) = .ret value := rfl

end Prog

-- A protocol follows a program with a ghost state: admits says which operation
-- may come in a ghost state, advance is the ghost state after its reply.
structure Protocol (I : Interface) (γ : Type) where
  admits : γ → I.Op → Prop
  advance : γ → (op : I.Op) → I.Reply op → γ

-- Every operation along every legal path is admitted, and whatever the path
-- ends with satisfies the postcondition. The recursion is the program's own.
def Conforms (protocol : Protocol I γ) (post : γ → Outcome ε α → Prop) : γ → Prog I ε α → Prop
  | ghost,.ret value => post ghost (.returned value)
  | ghost,.fault error => post ghost (.faulted error)
  | ghost,.call op next => protocol.admits ghost op ∧
      ∀ reply, I.Legal op reply → Conforms protocol post (protocol.advance ghost op reply) (next reply)

section
variable {protocol : Protocol I γ} {post post' : γ → Outcome ε α → Prop} {ghost : γ}

@[simp] theorem conforms_ret {value : α} :
    Conforms protocol post ghost (.ret value) ↔ post ghost (.returned value) := Iff.rfl
@[simp] theorem conforms_fault {error : ε} :
    Conforms protocol post ghost (.fault error) ↔ post ghost (.faulted error) := Iff.rfl
@[simp] theorem conforms_call {op : I.Op} {next : I.Reply op → Prog I ε α} :
    Conforms protocol post ghost (.call op next) ↔ protocol.admits ghost op ∧
      ∀ reply, I.Legal op reply →
        Conforms protocol post (protocol.advance ghost op reply) (next reply) := Iff.rfl

theorem Conforms.mono {p : Prog I ε α} (weaker : ∀ ghost outcome, post ghost outcome → post' ghost outcome)
    (conforms : Conforms protocol post ghost p) : Conforms protocol post' ghost p := by
  induction p generalizing ghost with
  | ret value => exact weaker _ _ conforms
  | fault error => exact weaker _ _ conforms
  | call op next ih => exact ⟨conforms.1,fun reply legal => ih reply (conforms.2 reply legal)⟩

theorem Conforms.both {p : Prog I ε α} (first : Conforms protocol post ghost p) (second : Conforms protocol post' ghost p) :
    Conforms protocol (fun ghost outcome => post ghost outcome ∧ post' ghost outcome) ghost p := by
  induction p generalizing ghost with
  | ret value => exact ⟨first,second⟩
  | fault error => exact ⟨first,second⟩
  | call op next ih => exact ⟨first.1,fun reply legal => ih reply (first.2 reply legal) (second.2 reply legal)⟩

theorem conforms_if {c : Prop} [Decidable c] {p q : Prog I ε α} (yes : c → Conforms protocol post ghost p)
    (no : ¬ c → Conforms protocol post ghost q) : Conforms protocol post ghost (if c then p else q) := by
  split
  · exact yes ‹c›
  · exact no ‹¬ c›

def Then (protocol : Protocol I γ) (post : γ → Outcome ε β → Prop) (f : α → Prog I ε β) :
    γ → Outcome ε α → Prop
  | ghost,.returned value => Conforms protocol post ghost (f value)
  | ghost,.faulted error => post ghost (.faulted error)

theorem conforms_bind {post : γ → Outcome ε β → Prop} {p : Prog I ε α} {f : α → Prog I ε β} :
    Conforms protocol post ghost (p >>= f) ↔ Conforms protocol (Then protocol post f) ghost p := by
  induction p generalizing ghost with
  | ret value => rfl
  | fault error => rfl
  | call op next ih => simp [ih]

end

abbrev Event (I : Interface) := Σ op : I.Op, I.Reply op

-- The protocol that keeps every call with its reply, the latest last.
def history : Protocol I (List (Event I)) where
  admits := fun _ _ => True
  advance := fun past op reply => past++[⟨op,reply⟩]

def Adds (past events later : List (Event I)) : Prop := ∃ new, later = past++new ∧ events.Sublist new

section
variable {past middle later events others : List (Event I)} {event : Event I}

theorem Adds.none : Adds past [] past := ⟨[],by simp,.slnil⟩

theorem Adds.keep (adds : Adds (past++[event]) events later) : Adds past (event :: events) later := by
  obtain ⟨new,rfl,present⟩ := adds
  exact ⟨event :: new,by simp,present.cons_cons event⟩

theorem Adds.skip (adds : Adds (past++[event]) events later) : Adds past events later := by
  obtain ⟨new,rfl,present⟩ := adds
  exact ⟨event :: new,by simp,present.cons event⟩

theorem Adds.trans (first : Adds past events middle) (second : Adds middle others later) :
    Adds past (events++others) later := by
  obtain ⟨new,rfl,present⟩ := first
  obtain ⟨newer,rfl,also⟩ := second
  exact ⟨new++newer,by simp,present.append also⟩

theorem Adds.present (adds : Adds [] events later) : events.Sublist later := by
  obtain ⟨new,rfl,present⟩ := adds
  exact present

end

def always (allowed : I.Op → Prop) : Protocol I Unit where
  admits := fun _ op => allowed op
  advance := fun _ _ _ => ()

-- Every operation the program can perform is allowed, and everything it can end
-- with satisfies the postcondition.
def Does (allowed : I.Op → Prop) (post : Outcome ε α → Prop) (p : Prog I ε α) : Prop :=
  Conforms (always allowed) (fun _ => post) () p

def Somewhere (wanted : I.Op → Prop) : Prog I ε α → Prop
  | .ret _ => False
  | .fault _ => False
  | .call op next => wanted op ∨ ∃ reply, I.Legal op reply ∧ Somewhere wanted (next reply)

def Possible : Prog I ε α → Outcome ε α → Prop
  | .ret value,outcome => outcome = .returned value
  | .fault error,outcome => outcome = .faulted error
  | .call op next,outcome => ∃ reply, I.Legal op reply ∧ Possible (next reply) outcome

section
variable {allowed allowed' wanted : I.Op → Prop} {post post' : Outcome ε α → Prop}

@[simp] theorem does_ret {value : α} : Does allowed post (.ret value : Prog I ε α) ↔ post (.returned value) := Iff.rfl
@[simp] theorem does_fault {error : ε} : Does allowed post (.fault error : Prog I ε α) ↔ post (.faulted error) := Iff.rfl
@[simp] theorem does_call {op : I.Op} {next : I.Reply op → Prog I ε α} :
    Does allowed post (.call op next) ↔
      allowed op ∧ ∀ reply, I.Legal op reply → Does allowed post (next reply) := Iff.rfl

theorem Does.mono {p : Prog I ε α} (does : Does allowed post p)
    (weaker : ∀ op, allowed op → allowed' op) (after : ∀ outcome, post outcome → post' outcome) :
    Does allowed' post' p := by
  induction p with
  | ret value => exact after _ does
  | fault error => exact after _ does
  | call op next ih => exact ⟨weaker _ does.1,fun reply legal => ih reply (does.2 reply legal)⟩

theorem Does.both {p : Prog I ε α} (first : Does allowed post p) (second : Does allowed' post' p) :
    Does (fun op => allowed op ∧ allowed' op) (fun outcome => post outcome ∧ post' outcome) p := by
  induction p with
  | ret value => exact ⟨first,second⟩
  | fault error => exact ⟨first,second⟩
  | call op next ih =>
    exact ⟨⟨first.1,second.1⟩,fun reply legal => ih reply (first.2 reply legal) (second.2 reply legal)⟩

theorem does_anything (p : Prog I ε α) : Does (fun _ => True) (fun _ => True) p := by
  induction p with
  | ret value => trivial
  | fault error => trivial
  | call op next ih => exact ⟨trivial,fun reply _ => ih reply⟩

theorem does_bind {p : Prog I ε α} {f : α → Prog I ε β} {mid : Outcome ε α → Prop}
    {post : Outcome ε β → Prop} (first : Does allowed mid p)
    (second : ∀ value, mid (.returned value) → Does allowed post (f value))
    (faults : ∀ error, mid (.faulted error) → post (.faulted error)) :
    Does allowed post (p >>= f) := by
  refine conforms_bind.mpr (Conforms.mono ?_ first)
  intro _ outcome holds
  cases outcome with
  | returned value => exact second value holds
  | faulted error => exact faults error holds

theorem Possible.bind {p : Prog I ε α} {f : α → Prog I ε β} {value : α} {outcome : Outcome ε β}
    (first : Possible p (.returned value)) (second : Possible (f value) outcome) : Possible (p >>= f) outcome := by
  induction p with
  | ret other =>
    cases first
    exact second
  | fault error => cases first
  | call op next ih =>
    obtain ⟨reply,legal,first⟩ := first
    exact ⟨reply,legal,ih reply first⟩

theorem Does.first {p : Prog I ε α} {f : α → Prog I ε β} {post : Outcome ε β → Prop}
    (does : Does allowed post (p >>= f)) : Does allowed (fun _ => True) p :=
  Conforms.mono (fun _ _ _ => trivial) (conforms_bind.mp does)

theorem Does.ends {p : Prog I ε α} {outcome : Outcome ε α} (does : Does allowed post p) (possible : Possible p outcome) :
    post outcome := by
  induction p with
  | ret value =>
    cases possible
    exact does
  | fault error =>
    cases possible
    exact does
  | call op next ih =>
    obtain ⟨reply,legal,possible⟩ := possible
    exact ih reply (does.2 reply legal) possible

theorem Does.after {p : Prog I ε α} {f : α → Prog I ε β} {post : Outcome ε β → Prop} {value : α}
    (does : Does allowed post (p >>= f)) (possible : Possible p (.returned value)) : Does allowed post (f value) := by
  have first : Does allowed (fun outcome => Then (always allowed) (fun _ => post) f () outcome) p :=
    conforms_bind.mp does
  exact first.ends possible

theorem does_if {c : Prop} [Decidable c] {p q : Prog I ε α} (yes : c → Does allowed post p)
    (no : ¬ c → Does allowed post q) : Does allowed post (if c then p else q) := conforms_if yes no

theorem somewhere_bind {p : Prog I ε α} {f : α → Prog I ε β} (somewhere : Somewhere wanted p) :
    Somewhere wanted (p >>= f) := by
  induction p with
  | ret value => exact somewhere.elim
  | fault error => exact somewhere.elim
  | call op next ih =>
    rcases somewhere with here | ⟨reply,legal,later⟩
    · exact .inl here
    · exact .inr ⟨reply,legal,ih reply later⟩

theorem Does.somewhere {p : Prog I ε α} (does : Does allowed post p) (somewhere : Somewhere wanted p) :
    ∃ op, allowed op ∧ wanted op := by
  induction p with
  | ret value => exact somewhere.elim
  | fault error => exact somewhere.elim
  | call op next ih =>
    rcases somewhere with here | ⟨reply,legal,later⟩
    · exact ⟨op,does.1,here⟩
    · exact ih reply (does.2 reply legal) later

end

-- A machine performs operations on a state. gives says which replies it may
-- give there and perform is the state afterwards.
structure Machine (I : Interface) (σ : Type) where
  gives : σ → (op : I.Op) → I.Reply op → Prop
  perform : σ → (op : I.Op) → I.Reply op → σ

def Exec (machine : Machine I σ) : Prog I ε α → σ → Outcome ε α → σ → Prop
  | .ret value,s,outcome,next => outcome = .returned value ∧ next = s
  | .fault error,s,outcome,next => outcome = .faulted error ∧ next = s
  | .call op rest,s,outcome,next =>
      ∃ reply, machine.gives s op reply ∧ Exec machine (rest reply) (machine.perform s op reply) outcome next

-- Whatever replies the machine gives, the program ends as the postcondition says.
def Ensures (machine : Machine I σ) (post : Outcome ε α → σ → Prop) : Prog I ε α → σ → Prop
  | .ret value,s => post (.returned value) s
  | .fault error,s => post (.faulted error) s
  | .call op rest,s => ∀ reply, machine.gives s op reply →
      Ensures machine post (rest reply) (machine.perform s op reply)

-- The machine with every event it took part in beside its state, the latest last.
def Machine.recorded (machine : Machine I σ) : Machine I (σ × List (Event I)) where
  gives := fun s => machine.gives s.1
  perform := fun s op reply => ⟨machine.perform s.1 op reply,s.2++[⟨op,reply⟩]⟩

-- The machine as far as only these events occur.
def Machine.only (machine : Machine I σ) (occurs : Event I → Prop) : Machine I σ where
  gives := fun s op reply => machine.gives s op reply ∧ occurs ⟨op,reply⟩
  perform := machine.perform

-- Surroundings that settle on one possible reply to some operations, so that a
-- program runs by computation as long as it asks for no other.
structure Answers (machine : Machine I σ) where
  reply : σ → (op : I.Op) → Option (I.Reply op)
  given : ∀ s op reply', reply s op = some reply' → machine.gives s op reply'

def Answers.advance {machine : Machine I σ} (answers : Answers machine) : Nat → Prog I ε α → σ → Prog I ε α × σ
  | steps+1,.call op rest,s => match answers.reply s op with
    | some reply => answers.advance steps (rest reply) (machine.perform s op reply)
    | none => (.call op rest,s)
  | _,p,s => (p,s)

def Answers.recorded {machine : Machine I σ} (answers : Answers machine) : Answers machine.recorded :=
  ⟨fun s => answers.reply s.1,fun s => answers.given s.1⟩

section
variable {machine : Machine I σ} {s next : σ} {outcome : Outcome ε α} {post : Outcome ε α → σ → Prop}

theorem Answers.exec (answers : Answers machine) {steps : Nat} {p : Prog I ε α} {value : α}
    (done : (answers.advance steps p s).1 = .ret value) : Exec machine p s (.returned value) (answers.advance steps p s).2 := by
  induction steps generalizing p s with
  | zero =>
    cases p with
    | ret result =>
      cases done
      exact ⟨rfl,rfl⟩
    | fault error => cases done
    | call op rest => cases done
  | succ steps ih =>
    cases p with
    | ret result =>
      cases done
      exact ⟨rfl,rfl⟩
    | fault error => cases done
    | call op rest =>
      simp only [Answers.advance] at done ⊢
      cases settled : answers.reply s op with
      | none =>
        rw [settled] at done
        cases done
      | some reply =>
        rw [settled] at done
        exact ⟨reply,answers.given s op reply settled,ih done⟩

theorem Exec.bind {p : Prog I ε α} {f : α → Prog I ε β} {outcome : Outcome ε β} {value : α} {middle : σ}
    (first : Exec machine p s (.returned value) middle) (second : Exec machine (f value) middle outcome next) :
    Exec machine (p >>= f) s outcome next := by
  induction p generalizing s with
  | ret result =>
    obtain ⟨same,rfl⟩ := first
    cases same
    exact second
  | fault error =>
    cases first.1
  | call op rest ih =>
    obtain ⟨reply,given,first⟩ := first
    exact ⟨reply,given,ih reply first⟩

theorem Exec.only {p : Prog I ε α} {past : List (Event I)} {last : σ × List (Event I)}
    (ran : Exec machine.recorded p (s,past) outcome last) :
    past <+: last.2 ∧ Exec (machine.only fun event => event ∈ last.2) p s outcome last.1 := by
  induction p generalizing s past with
  | ret value =>
    obtain ⟨same,rfl⟩ := ran
    exact ⟨List.prefix_refl _,same,rfl⟩
  | fault error =>
    obtain ⟨same,rfl⟩ := ran
    exact ⟨List.prefix_refl _,same,rfl⟩
  | call op rest ih =>
    obtain ⟨reply,given,ran⟩ := ran
    obtain ⟨begun,executed⟩ := ih reply ran
    have member : ⟨op,reply⟩ ∈ last.2 := begun.subset (List.mem_append_right _ List.mem_cons_self)
    exact ⟨(List.prefix_append _ _).trans begun,reply,⟨given,member⟩,executed⟩

theorem Exec.anything {p : Prog I ε α} (ran : Exec machine p s outcome next) : Exec (machine.only fun _ => True) p s outcome next := by
  induction p generalizing s with
  | ret value => exact ran
  | fault error => exact ran
  | call op rest ih =>
    obtain ⟨reply,given,ran⟩ := ran
    exact ⟨reply,⟨given,trivial⟩,ih reply ran⟩

theorem Exec.taken {c : Prop} [Decidable c] {p q : Prog I ε α} (yes : c) (taken : Exec machine p s outcome next) :
    Exec machine (if c then p else q) s outcome next := by
  rw [if_pos yes]
  exact taken

theorem Exec.otherwise {c : Prop} [Decidable c] {p q : Prog I ε α} (no : ¬ c) (taken : Exec machine q s outcome next) :
    Exec machine (if c then p else q) s outcome next := by
  rw [if_neg no]
  exact taken

theorem ensures_iff {p : Prog I ε α} :
    Ensures machine post p s ↔ ∀ outcome next, Exec machine p s outcome next → post outcome next := by
  induction p generalizing s with
  | ret value =>
    constructor
    · intro holds outcome next ended
      obtain ⟨rfl,rfl⟩ := ended
      exact holds
    · intro ends
      exact ends _ _ ⟨rfl,rfl⟩
  | fault error =>
    constructor
    · intro holds outcome next ended
      obtain ⟨rfl,rfl⟩ := ended
      exact holds
    · intro ends
      exact ends _ _ ⟨rfl,rfl⟩
  | call op rest ih =>
    constructor
    · intro holds outcome next ended
      obtain ⟨reply,given,ended⟩ := ended
      exact (ih reply).mp (holds reply given) outcome next ended
    · intro ends reply given
      exact (ih reply).mpr fun outcome next ended => ends outcome next ⟨reply,given,ended⟩

theorem Ensures.mono {post' : Outcome ε α → σ → Prop} {p : Prog I ε α} (holds : Ensures machine post p s)
    (weaker : ∀ outcome after, post outcome after → post' outcome after) : Ensures machine post' p s := by
  induction p generalizing s with
  | ret value => exact weaker _ _ holds
  | fault error => exact weaker _ _ holds
  | call op rest ih => exact fun reply given => ih reply (holds reply given)

theorem ensures_if {c : Prop} [Decidable c] {p q : Prog I ε α} (yes : c → Ensures machine post p s)
    (no : ¬ c → Ensures machine post q s) : Ensures machine post (if c then p else q) s := by
  split
  · exact yes ‹c›
  · exact no ‹¬ c›

theorem ensures_bind {p : Prog I ε α} {f : α → Prog I ε β} {post : Outcome ε β → σ → Prop}
    (first : Ensures machine (fun outcome after => match outcome with
      | .returned value => Ensures machine post (f value) after
      | .faulted error => post (.faulted error) after) p s) : Ensures machine post (p >>= f) s := by
  induction p generalizing s with
  | ret value => exact first
  | fault error => exact first
  | call op rest ih => exact fun reply given => ih reply (first reply given)

theorem Does.recorded {allowed : I.Op → Prop} {post : Outcome ε α → Prop} {p : Prog I ε α} {past : List (Event I)}
    (legal : ∀ s op reply, machine.gives s op reply → I.Legal op reply) (does : Does allowed post p) :
    Ensures machine.recorded (fun outcome after => post outcome ∧
      ∃ new, after.2 = past++new ∧ ∀ event ∈ new, allowed event.1) p (s,past) := by
  induction p generalizing s past with
  | ret value => exact ⟨does,[],by simp⟩
  | fault error => exact ⟨does,[],by simp⟩
  | call op rest ih =>
    intro reply given
    refine (ih reply (does.2 reply (legal _ _ _ given))).mono ?_
    intro outcome after ends
    obtain ⟨holds,new,added,all⟩ := ends
    refine ⟨holds,⟨op,reply⟩ :: new,by simp [added],?_⟩
    intro event member
    rcases List.mem_cons.mp member with rfl | later
    · exact does.1
    · exact all event later

theorem Ensures.both {post' : Outcome ε α → σ → Prop} {p : Prog I ε α} (first : Ensures machine post p s)
    (second : Ensures machine post' p s) : Ensures machine (fun outcome after => post outcome after ∧ post' outcome after) p s := by
  induction p generalizing s with
  | ret value => exact ⟨first,second⟩
  | fault error => exact ⟨first,second⟩
  | call op rest ih => exact fun reply given => ih reply (first reply given) (second reply given)

theorem Ensures.recorded {p : Prog I ε α} {past : List (Event I)} (holds : Ensures machine post p s) :
    Ensures machine.recorded (fun outcome after => post outcome after.1) p (s,past) := by
  induction p generalizing s past with
  | ret value => exact holds
  | fault error => exact holds
  | call op rest ih => exact fun reply given => ih reply (holds reply given)

theorem history_keeps {holds : List (Event I) → Prop} {p : Prog I ε α} {past : List (Event I)}
    (grows : ∀ past event, holds past → holds (past++[event])) (begun : holds past) :
    Conforms history (fun later _ => holds later) past p := by
  induction p generalizing past with
  | ret value => exact begun
  | fault error => exact begun
  | call op rest ih => exact ⟨trivial,fun reply _ => ih reply (grows _ _ begun)⟩

theorem Conforms.recorded {post : List (Event I) → Outcome ε α → Prop} {p : Prog I ε α} {past : List (Event I)}
    (legal : ∀ s op reply, machine.gives s op reply → I.Legal op reply) (conforms : Conforms history post past p) :
    Ensures machine.recorded (fun outcome after => post after.2 outcome) p (s,past) := by
  induction p generalizing s past with
  | ret value => exact conforms
  | fault error => exact conforms
  | call op rest ih => exact fun reply given => ih reply (conforms.2 reply (legal _ _ _ given))

end

end Interaction
