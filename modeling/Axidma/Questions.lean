import Axidma.Interaction

namespace Interaction

variable {I : Interface} {Q A ε α β γ σ : Type} {fair : Q → A → Prop}

-- The operations of an interface, and questions beside them: an answer moves
-- nothing. fair rules out the answers that no surroundings ever give.
def Interface.asking (I : Interface) (fair : Q → A → Prop) : Interface where
  Op := I.Op ⊕ Q
  Reply := Sum.elim I.Reply fun _ => A
  Legal := fun op => match op with
    | .inl op => I.Legal op
    | .inr question => fair question

namespace Prog

def lift (fair : Q → A → Prop) : Prog I ε α → Prog (I.asking fair) ε α
  | .ret value => .ret value
  | .fault error => .fault error
  | .call op next => .call (.inl op) fun reply => (next reply).lift fair

def question (fair : Q → A → Prop) (asked : Q) : Prog (I.asking fair) ε A := .call (.inr asked) .ret

def answered (answer : Q → A) : Prog (I.asking fair) ε α → Prog I ε α
  | .ret value => .ret value
  | .fault error => .fault error
  | .call (.inl op) next => .call op fun reply => (next reply).answered answer
  | .call (.inr asked) next => (next (answer asked)).answered answer

section
variable {answer : Q → A}

@[simp] theorem answered_ret (value : α) : (.ret value : Prog (I.asking fair) ε α).answered answer = .ret value := rfl

theorem answered_question (asked : Q) (f : A → Prog (I.asking fair) ε α) :
    (question fair asked >>= f).answered answer = (f (answer asked)).answered answer := rfl

theorem answered_lift (p : Prog I ε α) : (p.lift fair).answered answer = p := by
  induction p with
  | ret value => rfl
  | fault error => rfl
  | call op next ih => exact congrArg (Prog.call op) (funext ih)

theorem answered_bind (p : Prog (I.asking fair) ε α) (f : α → Prog (I.asking fair) ε β) :
    (p >>= f).answered answer = p.answered answer >>= fun value => (f value).answered answer := by
  induction p with
  | ret value => rfl
  | fault error => rfl
  | call op next ih =>
    cases op with
    | inl op => exact congrArg (Prog.call op) (funext ih)
    | inr asked => exact ih (answer asked)

end
end Prog

def Machine.asking (machine : Machine I σ) (fair : Q → A → Prop) (answer : σ → Q → A) : Machine (I.asking fair) σ where
  gives := fun s op => match op with
    | .inl op => machine.gives s op
    | .inr asked => fun reply => reply = answer s asked
  perform := fun s op => match op with
    | .inl op => machine.perform s op
    | .inr _ => fun _ => s

def Protocol.operations (protocol : Protocol (I.asking fair) γ) : Protocol I γ where
  admits := fun ghost op => protocol.admits ghost (.inl op)
  advance := fun ghost op reply => protocol.advance ghost (.inl op) reply

theorem conforms_lift {protocol : Protocol (I.asking fair) γ} {post : γ → Outcome ε α → Prop} {ghost : γ} {p : Prog I ε α} :
    Conforms protocol post ghost (p.lift fair) ↔ Conforms protocol.operations post ghost p := by
  induction p generalizing ghost with
  | ret value => rfl
  | fault error => rfl
  | call op next ih =>
    constructor
    · intro conforms
      exact ⟨conforms.1,fun reply legal => (ih reply).mp (conforms.2 reply legal)⟩
    · intro conforms
      exact ⟨conforms.1,fun reply legal => (ih reply).mpr (conforms.2 reply legal)⟩

end Interaction
