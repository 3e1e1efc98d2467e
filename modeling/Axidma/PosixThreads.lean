import Mathlib.Logic.Function.Basic
import Axidma.Transition

namespace PosixThreads

inductive Stmt where
  | start
  | lock
  | wait
  | spawn
  | signal
  | unlock
deriving DecidableEq

structure Program where
  function : List Stmt
  callback : List Stmt

inductive Thread where
  | submitter
  | other (work : Nat)
deriving DecidableEq

inductive Sleep where
  | awake
  | asleep
  | woken
deriving DecidableEq

def Sleep.signalled : Sleep → Sleep
  | .asleep => .woken
  | sleep => sleep

inductive Status where
  | none
  | pending
  | running (thread : Thread) (rest : List Stmt)
  | finished
deriving DecidableEq

structure State where
  owner : Option Thread
  sleep : Sleep
  rest : List Stmt
  started : Nat
  work : Nat → Status

def idle : State := ⟨none,.awake,[],0,fun _ => .none⟩

def Free (s : State) : Prop := ∀ i rest, s.work i ≠ .running .submitter rest

def State.put (s : State) (i : Nat) (status : Status) : State := {s with work := Function.update s.work i status}

inductive Action where
  | call
  | start (succeeds : Bool)
  | lock
  | sleep
  | spurious
  | resume
  | spawn (succeeds : Bool)
  | unlock
  | begins (i : Nat) (onTop : Bool)
  | callbackLock (i : Nat)
  | callbackSignal (i : Nat)
  | callbackUnlock (i : Nat)
  | callbackReturn (i : Nat)
deriving DecidableEq

def threadOf (i : Nat) (onTop : Bool) : Thread := if onTop then .submitter else .other i

-- The function is called again and again. A callback runs in a thread of its own or
-- on top of the submitter, which then stands still.
inductive Step (p : Program) : State → Action → State → Prop where
  | call {s : State} (free : Free s) (returned : s.rest = []) : Step p s .call {s with rest := p.function}
  | start {s : State} {rest : List Stmt} (succeeds : Bool) (free : Free s) (here : s.rest = .start :: rest) :
      Step p s (.start succeeds)
        {s.put s.started (if succeeds then .pending else .none) with started := s.started+1, rest := rest}
  | lock {s : State} {rest : List Stmt} (free : Free s) (here : s.rest = .lock :: rest) (unowned : s.owner = none) :
      Step p s .lock {s with owner := some .submitter, rest := rest}
  | sleep {s : State} {rest : List Stmt} (free : Free s) (here : s.rest = .wait :: rest) (awake : s.sleep = .awake)
      (owned : s.owner = some .submitter) : Step p s .sleep {s with owner := none, sleep := .asleep}
  | spurious {s : State} (asleep : s.sleep = .asleep) : Step p s .spurious {s with sleep := .woken}
  | resume {s : State} {rest : List Stmt} (free : Free s) (here : s.rest = .wait :: rest) (woken : s.sleep = .woken)
      (unowned : s.owner = none) : Step p s .resume {s with owner := some .submitter, sleep := .awake, rest := rest}
  | spawn {s : State} {rest : List Stmt} (succeeds : Bool) (free : Free s) (here : s.rest = .spawn :: rest) :
      Step p s (.spawn succeeds) {s with rest := if succeeds then rest else []}
  | unlock {s : State} {rest : List Stmt} (free : Free s) (here : s.rest = .unlock :: rest) :
      Step p s .unlock {s with owner := none, rest := rest}
  | begins {s : State} {i : Nat} (onTop : Bool) (pending : s.work i = .pending) (free : onTop = true → Free s) :
      Step p s (.begins i onTop) (s.put i (.running (threadOf i onTop) p.callback))
  | callbackLock {s : State} {i : Nat} {thread : Thread} {rest : List Stmt} (here : s.work i = .running thread (.lock :: rest))
      (unowned : s.owner = none) : Step p s (.callbackLock i) {s.put i (.running thread rest) with owner := some thread}
  | callbackSignal {s : State} {i : Nat} {thread : Thread} {rest : List Stmt}
      (here : s.work i = .running thread (.signal :: rest)) :
      Step p s (.callbackSignal i) {s.put i (.running thread rest) with sleep := s.sleep.signalled}
  | callbackUnlock {s : State} {i : Nat} {thread : Thread} {rest : List Stmt}
      (here : s.work i = .running thread (.unlock :: rest)) :
      Step p s (.callbackUnlock i) {s.put i (.running thread rest) with owner := none}
  | callbackReturn {s : State} {i : Nat} {thread : Thread} (here : s.work i = .running thread []) :
      Step p s (.callbackReturn i) (s.put i .finished)

def Current (s : State) (i : Nat) : Prop := i+1 = s.started

-- The submitting thread is blocked in the wait, or on the mutex it already holds.
def Blocked (s : State) : Prop :=
  s.sleep = .asleep ∨ s.owner = some .submitter ∧
    ((Free s ∧ s.rest.head? = some .lock) ∨ ∃ i rest, s.work i = .running .submitter (.lock :: rest))

def Completed (s : State) : Prop :=
  ∃ i, Current s i ∧ (s.work i = .finished ∨ ∃ thread rest, s.work i = .running thread (.lock :: rest) ∧ s.owner ≠ none)

def SleptThrough (s : State) : Prop := Blocked s ∧ Completed s

def LeftLocked (s : State) : Prop := s.rest = [] ∧ Free s ∧ s.owner = some .submitter

end PosixThreads
