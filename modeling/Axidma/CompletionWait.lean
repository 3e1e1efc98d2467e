import Axidma.PosixThreads

namespace Axidma.CompletionWait
open PosixThreads Transition

-- What the two functions and the two callbacks do with mutex_mm2s and flag_mm2s,
-- or mutex_s2mm and flag_s2mm. The code of the transfer is not looked at.
def mm2sAllTest : List Stmt := [.start,.lock,.wait,.unlock]
def s2mmAllTest : List Stmt := [.start,.lock,.wait,.spawn,.unlock]
def txcall : List Stmt := [.lock,.signal,.unlock]
def rxcall : List Stmt := [.lock,.signal,.unlock]

inductive Side where
  | mm2s
  | s2mm
deriving DecidableEq

def Side.program : Side → Program
  | .mm2s => ⟨mm2sAllTest,txcall⟩
  | .s2mm => ⟨s2mmAllTest,rxcall⟩

-- A callback on top of the submitter begins only while that does not hold the
-- mutex. The callback of the current transfer does not get the mutex before the
-- function does, nor does it find it taken while the function sleeps. The thread
-- for the received data can be created.
def Meets (s : State) : Action → Prop
  | .begins i onTop => (onTop = true → s.owner ≠ some .submitter) ∧ (Current s i → s.sleep = .asleep → s.owner = none)
  | .callbackLock i => ¬ (Current s i ∧ s.rest.head? = some .lock) ∧
      (s.sleep = .asleep → ∀ j, j ≠ i → Current s j → ∀ thread rest, s.work j ≠ .running thread (.lock :: rest))
  | .spawn succeeds => succeeds = true
  | _ => True

inductive Phase where
  | returned
  | called
  | submitted
  | locked
  | asleep
  | woken
  | resumed
  | spawned
deriving DecidableEq

def Phase.rest (side : Side) : Phase → List Stmt
  | .returned => []
  | .called => side.program.function
  | .submitted => side.program.function.drop 1
  | .locked => side.program.function.drop 2
  | .asleep => side.program.function.drop 2
  | .woken => side.program.function.drop 2
  | .resumed => side.program.function.drop 3
  | .spawned => [.unlock]

def Phase.sleep : Phase → Sleep
  | .asleep => .asleep
  | .woken => .woken
  | _ => .awake

def Phase.holds : Phase → Bool
  | .locked => true
  | .resumed => true
  | .spawned => true
  | _ => false

def Phase.early : Phase → Bool
  | .submitted => true
  | .locked => true
  | .asleep => true
  | _ => false

def Stage (rest : List Stmt) : Prop := rest = [.lock,.signal,.unlock] ∨ rest = [.signal,.unlock] ∨ rest = [.unlock] ∨ rest = []

def Holding (rest : List Stmt) : Prop := rest = [.signal,.unlock] ∨ rest = [.unlock]

def Holds (status : Status) (thread : Thread) : Prop := ∃ rest, status = .running thread rest ∧ Holding rest

-- Who has the mutex: nobody, the function, or one callback.
inductive Owned (s : State) : Bool → Prop where
  | nobody (unowned : s.owner = none) (idle : ∀ i thread, ¬ Holds (s.work i) thread) : Owned s false
  | function (mine : s.owner = some .submitter) (free : Free s) (idle : ∀ i thread, ¬ Holds (s.work i) thread) : Owned s true
  | callback {i : Nat} {thread : Thread} (mine : s.owner = some thread) (holds : Holds (s.work i) thread)
      (others : ∀ j other, Holds (s.work j) other → j = i) : Owned s false

-- Where a callback of the current transfer can be in an early phase.
inductive Early (phase : Phase) : Status → Prop where
  | none : Early phase .none
  | pending : Early phase .pending
  | arriving {thread : Thread} : Early phase (.running thread [.lock,.signal,.unlock])
  | signalling {thread : Thread} (asleep : phase = .asleep) : Early phase (.running thread [.signal,.unlock])

structure Tidy (s : State) : Prop where
  stages : ∀ i thread rest, s.work i = .running thread rest → Stage rest
  alone : ∀ i j rest other, s.work i = .running .submitter rest → s.work j = .running .submitter other → i = j
  unborn : ∀ i, s.started ≤ i → s.work i = .none

structure Sound (side : Side) (s : State) (phase : Phase) : Prop where
  rest : s.rest = phase.rest side
  sleep : s.sleep = phase.sleep
  owned : Owned s phase.holds
  tidy : Tidy s
  early : phase.early = true → ∀ i, Current s i → Early phase (s.work i)
  unhindered : phase = .asleep → s.owner ≠ none → ∀ i, Current s i → ∀ thread rest, s.work i ≠ .running thread (.lock :: rest)

section
variable {side : Side} {s : State} {phase : Phase}

theorem idle_sound : Sound side idle .returned := by
  constructor
  case rest => rfl
  case sleep => rfl
  case owned =>
    refine .nobody rfl fun i thread holds => ?_
    obtain ⟨rest,running,_⟩ := holds
    cases running
  case tidy =>
    constructor
    case stages =>
      intro i thread rest running
      cases running
    case alone =>
      intro i j rest other running
      cases running
    case unborn => exact fun _ _ => rfl
  case early => exact nofun
  case unhindered => exact nofun

theorem lock_not_holding {rest : List Stmt} : ¬ Holding (.lock :: rest) := by
  intro holding
  rcases holding with same | same
  · cases same
  · cases same

theorem done_not_holding : ¬ Holding [] := by
  intro holding
  rcases holding with same | same
  · cases same
  · cases same

theorem Sound.asleep (sound : Sound side s .asleep) : s.sleep = .asleep := sound.sleep

theorem asleep_phase (sound : Sound side s phase) (asleep : s.sleep = .asleep) : phase = .asleep := by
  have sleep := sound.sleep
  rw [asleep] at sleep
  cases phase with
  | asleep => rfl
  | _ => cases sleep

theorem holds_not_locking (holds : phase.holds = true) : (phase.rest side).head? ≠ some .lock := by
  cases phase with
  | locked => cases side <;> exact nofun
  | resumed => cases side <;> exact nofun
  | spawned => exact nofun
  | _ => cases holds

theorem Sound.not_stuck (sound : Sound side s phase) (mine : s.owner = some .submitter) :
    ¬ ((Free s ∧ s.rest.head? = some .lock) ∨ ∃ i rest, s.work i = .running .submitter (.lock :: rest)) := by
  intro stuck
  have owned := sound.owned
  generalize held : phase.holds = holds at owned
  cases owned with
  | nobody unowned _ =>
    rw [mine] at unowned
    cases unowned
  | function _ free _ =>
    rcases stuck with ⟨_,locking⟩ | ⟨i,rest,running⟩
    · rw [sound.rest] at locking
      exact holds_not_locking held locking
    · exact free i _ running
  | @callback i thread taken holds others =>
    rw [mine] at taken
    cases taken
    obtain ⟨rest,running,holding⟩ := holds
    rcases stuck with ⟨free,_⟩ | ⟨j,other,locking⟩
    · exact free i rest running
    · obtain rfl := sound.tidy.alone i j _ _ running locking
      rw [running] at locking
      cases locking
      exact lock_not_holding holding

theorem Sound.awake (sound : Sound side s phase) : ¬ SleptThrough s := by
  intro slept
  obtain ⟨blocked,i,current,completed⟩ := slept
  rcases blocked with asleep | ⟨mine,stuck⟩
  · obtain rfl := asleep_phase sound asleep
    have early := sound.early rfl i current
    rcases completed with finished | ⟨thread,rest,waiting,taken⟩
    · rw [finished] at early
      cases early
    · exact sound.unhindered rfl taken i current thread rest waiting
  · exact sound.not_stuck mine stuck

theorem returned_not_holding (returned : phase.rest side = []) : phase.holds = false := by
  cases phase with
  | returned => rfl
  | called => rfl
  | submitted => rfl
  | asleep => rfl
  | woken => rfl
  | _ => cases side <;> cases returned

theorem Sound.released (sound : Sound side s phase) : ¬ LeftLocked s := by
  intro left
  obtain ⟨returned,free,mine⟩ := left
  have owned := sound.owned
  rw [returned_not_holding (sound.rest.symm.trans returned)] at owned
  cases owned with
  | nobody unowned _ =>
    rw [mine] at unowned
    cases unowned
  | @callback i thread taken holds others =>
    rw [mine] at taken
    cases taken
    obtain ⟨rest,running,_⟩ := holds
    exact free i rest running

end

section
variable {side : Side} {s : State} {phase : Phase} {i j : Nat} {thread : Thread} {rest : List Stmt} {status : Status}

theorem put_same : (s.put i status).work i = status := Function.update_self ..
theorem put_other (other : j ≠ i) : (s.put i status).work j = s.work j := Function.update_of_ne other ..

theorem stage_lock (stage : Stage (.lock :: rest)) : rest = [.signal,.unlock] := by
  rcases stage with same | same | same | same
  · cases same
    rfl
  all_goals cases same

theorem stage_signal (stage : Stage (.signal :: rest)) : rest = [.unlock] := by
  rcases stage with same | same | same | same
  · cases same
  · cases same
    rfl
  all_goals cases same

theorem stage_unlock (stage : Stage (.unlock :: rest)) : rest = [] := by
  rcases stage with same | same | same | same
  · cases same
  · cases same
  · cases same
    rfl
  · cases same

theorem phase_returned (here : phase.rest side = []) : phase = .returned := by
  cases phase with
  | returned => rfl
  | _ => cases side <;> cases here

theorem phase_called (here : phase.rest side = .start :: rest) : phase = .called ∧ rest = Phase.submitted.rest side := by
  cases phase with
  | called => cases side <;> cases here <;> exact ⟨rfl,rfl⟩
  | _ => cases side <;> cases here

theorem phase_submitted (here : phase.rest side = .lock :: rest) : phase = .submitted ∧ rest = Phase.locked.rest side := by
  cases phase with
  | submitted => cases side <;> cases here <;> exact ⟨rfl,rfl⟩
  | _ => cases side <;> cases here

theorem phase_waiting (here : phase.rest side = .wait :: rest) :
    (phase = .locked ∨ phase = .asleep ∨ phase = .woken) ∧ rest = Phase.resumed.rest side := by
  cases phase with
  | locked => cases side <;> cases here <;> exact ⟨.inl rfl,rfl⟩
  | asleep => cases side <;> cases here <;> exact ⟨.inr (.inl rfl),rfl⟩
  | woken => cases side <;> cases here <;> exact ⟨.inr (.inr rfl),rfl⟩
  | _ => cases side <;> cases here

theorem phase_spawning (here : phase.rest side = .spawn :: rest) : phase = .resumed ∧ rest = [.unlock] := by
  cases phase with
  | resumed =>
    cases side with
    | mm2s => cases here
    | s2mm =>
      cases here
      exact ⟨rfl,rfl⟩
  | _ => cases side <;> cases here

theorem phase_leaving (here : phase.rest side = .unlock :: rest) : phase.holds = true ∧ rest = [] := by
  cases phase with
  | resumed =>
    cases side with
    | mm2s =>
      cases here
      exact ⟨rfl,rfl⟩
    | s2mm => cases here
  | spawned =>
    cases here
    exact ⟨rfl,rfl⟩
  | _ => cases side <;> cases here

theorem Owned.idle {holds : Bool} (owned : Owned s holds) (unowned : s.owner = none) :
    holds = false ∧ ∀ i thread, ¬ Holds (s.work i) thread := by
  cases owned with
  | nobody _ idle => exact ⟨rfl,idle⟩
  | function mine _ _ =>
    rw [unowned] at mine
    cases mine
  | callback mine _ _ =>
    rw [unowned] at mine
    cases mine

theorem Owned.mine (owned : Owned s true) : s.owner = some .submitter ∧ Free s ∧ ∀ i thread, ¬ Holds (s.work i) thread := by
  cases owned with
  | function mine free idle => exact ⟨mine,free,idle⟩

theorem Early.move {later : Phase} (early : Early phase status) (other : phase ≠ .asleep) : Early later status := by
  cases early with
  | none => exact .none
  | pending => exact .pending
  | arriving => exact .arriving
  | signalling asleep => exact absurd asleep other

theorem Sound.moves {later : Phase} {owner : Option Thread} {sleep : Sleep} (sound : Sound side s phase)
    (here : rest = later.rest side) (sleeps : sleep = later.sleep)
    (owned : Owned {s with owner := owner, sleep := sleep, rest := rest} later.holds)
    (early : later.early = true → phase.early = true ∧ phase ≠ .asleep) (unowned : later = .asleep → owner = none) :
    Sound side {s with owner := owner, sleep := sleep, rest := rest} later := by
  constructor
  case rest => exact here
  case sleep => exact sleeps
  case owned => exact owned
  case tidy => exact ⟨sound.tidy.stages,sound.tidy.alone,sound.tidy.unborn⟩
  case early =>
    intro now i current
    obtain ⟨before,other⟩ := early now
    exact (sound.early before i current).move other
  case unhindered =>
    intro asleep taken
    exact absurd (unowned asleep) taken

theorem Owned.keep {holds : Bool} {later : State} (owned : Owned s holds) (owner : later.owner = s.owner)
    (same : ∀ i thread, Holds (later.work i) thread ↔ Holds (s.work i) thread) (free : holds = true → Free s → Free later) :
    Owned later holds := by
  cases owned with
  | nobody unowned idle => exact .nobody (owner.trans unowned) fun i thread holds => idle i thread ((same i thread).mp holds)
  | function mine alone idle =>
    exact .function (owner.trans mine) (free rfl alone) fun i thread holds => idle i thread ((same i thread).mp holds)
  | @callback i thread mine holds others =>
    exact .callback (owner.trans mine) ((same i thread).mpr holds) fun j other holds => others j other ((same j other).mp holds)

theorem Owned.still {holds : Bool} {later : State} (owned : Owned s holds) (owner : later.owner = s.owner)
    (work : later.work = s.work) : Owned later holds := by
  refine owned.keep owner (fun i thread => by rw [work]) fun _ free i rest => ?_
  rw [work]
  exact free i rest

theorem call_sound (sound : Sound side s phase) (returned : s.rest = []) :
    Sound side {s with rest := side.program.function} .called := by
  obtain rfl := phase_returned (sound.rest.symm.trans returned)
  exact sound.moves rfl sound.sleep (sound.owned.still rfl rfl) nofun nofun

theorem lock_sound (sound : Sound side s phase) (free : Free s) (here : s.rest = .lock :: rest) (unowned : s.owner = none) :
    Sound side {s with owner := some .submitter, rest := rest} .locked := by
  obtain ⟨rfl,rfl⟩ := phase_submitted (sound.rest.symm.trans here)
  have idle := (sound.owned.idle unowned).2
  exact sound.moves rfl sound.sleep (.function rfl free idle) (fun _ => ⟨rfl,nofun⟩) nofun

theorem sleep_sound (sound : Sound side s phase) (here : s.rest = .wait :: rest) (awake : s.sleep = .awake) :
    Sound side {s with owner := none, sleep := .asleep} .asleep := by
  obtain ⟨waiting,rfl⟩ := phase_waiting (sound.rest.symm.trans here)
  have locked : phase = .locked := by
    have sleep := sound.sleep
    rw [awake] at sleep
    rcases waiting with same | same | same
    · exact same
    · rw [same] at sleep
      cases sleep
    · rw [same] at sleep
      cases sleep
  subst locked
  have idle := sound.owned.mine.2.2
  exact sound.moves sound.rest rfl (.nobody rfl idle) (fun _ => ⟨rfl,nofun⟩) fun _ => rfl

theorem spurious_sound (sound : Sound side s phase) (asleep : s.sleep = .asleep) : Sound side {s with sleep := .woken} .woken := by
  obtain rfl := asleep_phase sound asleep
  exact sound.moves sound.rest rfl (sound.owned.still rfl rfl) nofun nofun

theorem resume_sound (sound : Sound side s phase) (free : Free s) (here : s.rest = .wait :: rest) (unowned : s.owner = none) :
    Sound side {s with owner := some .submitter, sleep := .awake, rest := rest} .resumed := by
  obtain ⟨_,rfl⟩ := phase_waiting (sound.rest.symm.trans here)
  have idle := (sound.owned.idle unowned).2
  exact sound.moves rfl rfl (.function rfl free idle) nofun nofun

theorem spawn_sound (sound : Sound side s phase) (here : s.rest = .spawn :: rest) : Sound side {s with rest := rest} .spawned := by
  obtain ⟨rfl,rfl⟩ := phase_spawning (sound.rest.symm.trans here)
  exact sound.moves rfl sound.sleep (sound.owned.still rfl rfl) nofun nofun

theorem unlock_sound (sound : Sound side s phase) (here : s.rest = .unlock :: rest) :
    Sound side {s with owner := none, rest := rest} .returned := by
  obtain ⟨holds,rfl⟩ := phase_leaving (sound.rest.symm.trans here)
  have awake : s.sleep = .awake := by
    rw [sound.sleep]
    cases phase with
    | locked => rfl
    | resumed => rfl
    | spawned => rfl
    | _ => cases holds
  have owned := sound.owned
  rw [holds] at owned
  exact sound.moves rfl awake (.nobody rfl owned.mine.2.2) nofun nofun

theorem put_holds (same : ∀ thread, Holds status thread ↔ Holds (s.work i) thread) (j : Nat) (thread : Thread) :
    Holds ((s.put i status).work j) thread ↔ Holds (s.work j) thread := by
  by_cases here : j = i
  · subst here
    rw [put_same]
    exact same thread
  · rw [put_other here]

theorem running_put {holder : Thread} {later : List Stmt} (running : (s.put i status).work j = .running holder later) :
    (j = i ∧ status = .running holder later) ∨ (j ≠ i ∧ s.work j = .running holder later) := by
  by_cases here : j = i
  · subst here
    rw [put_same] at running
    exact .inl ⟨rfl,running⟩
  · rw [put_other here] at running
    exact .inr ⟨here,running⟩

theorem put_free (off : ∀ later, status ≠ .running .submitter later) (free : Free s) : Free (s.put i status) := by
  intro j later running
  rcases running_put running with ⟨_,same⟩ | ⟨_,before⟩
  · exact off _ same
  · exact free j later before

theorem not_holds (still : ∀ holder later, status ≠ .running holder later) (thread : Thread) : ¬ Holds status thread := by
  intro holds
  obtain ⟨rest,running,_⟩ := holds
  exact still _ _ running

theorem start_sound {succeeds : Bool} (sound : Sound side s phase) (here : s.rest = .start :: rest) :
    Sound side {s.put s.started (if succeeds then .pending else .none) with started := s.started+1, rest := rest} .submitted := by
  obtain ⟨rfl,rfl⟩ := phase_called (sound.rest.symm.trans here)
  have fresh : Early .submitted (if succeeds then .pending else .none) := by
    cases succeeds with
    | true => exact .pending
    | false => exact .none
  have still : ∀ holder later, (if succeeds then Status.pending else .none) ≠ .running holder later := by
    cases succeeds with
    | true => exact fun _ _ => nofun
    | false => exact fun _ _ => nofun
  have old : ∀ {j holder later}, (s.put s.started (if succeeds then .pending else .none)).work j = .running holder later →
      s.work j = .running holder later := by
    intro j holder later running
    rcases running_put running with ⟨_,same⟩ | ⟨_,before⟩
    · exact absurd same (still holder later)
    · exact before
  constructor
  case rest => rfl
  case sleep => exact sound.sleep
  case owned =>
    have unborn : ∀ holder, ¬ Holds (s.work s.started) holder := by
      apply not_holds
      rw [sound.tidy.unborn _ (Nat.le_refl _)]
      exact fun _ _ => nofun
    have same : ∀ j thread, Holds ((s.put s.started (if succeeds then .pending else .none)).work j) thread ↔ Holds (s.work j) thread :=
      put_holds fun thread => iff_of_false (not_holds still thread) (unborn thread)
    exact sound.owned.keep rfl same fun _ => put_free (still _)
  case tidy =>
    constructor
    case stages => exact fun j holder later running => sound.tidy.stages j holder later (old running)
    case alone => exact fun j k later other first second => sound.tidy.alone j k later other (old first) (old second)
    case unborn =>
      intro j above
      have other : j ≠ s.started := Nat.ne_of_gt above
      exact (put_other other).trans (sound.tidy.unborn j (Nat.le_of_succ_le above))
  case early =>
    intro _ j current
    obtain rfl : j = s.started := Nat.succ_inj.mp current
    show Early .submitted ((s.put s.started _).work s.started)
    rw [put_same]
    exact fresh
  case unhindered => exact nofun

theorem Tidy.put (tidy : Tidy s) (born : s.work i ≠ .none) (stages : ∀ holder later, status = .running holder later → Stage later)
    (alone : ∀ later, status = .running .submitter later → ∀ j other, s.work j = .running .submitter other → j = i) :
    Tidy (s.put i status) := by
  constructor
  case stages =>
    intro j holder later running
    rcases running_put running with ⟨_,now⟩ | ⟨_,before⟩
    · exact stages holder later now
    · exact tidy.stages j holder later before
  case alone =>
    intro j k later other first second
    rcases running_put first with ⟨rfl,now⟩ | ⟨_,before⟩
    · rcases running_put second with ⟨rfl,_⟩ | ⟨_,also⟩
      · rfl
      · exact (alone later now k other also).symm
    · rcases running_put second with ⟨rfl,now⟩ | ⟨_,also⟩
      · exact alone other now j later before
      · exact tidy.alone j k later other before also
  case unborn =>
    intro j above
    have other : j ≠ i := by
      intro same
      subst same
      exact born (tidy.unborn j above)
    exact (put_other other).trans (tidy.unborn j above)

theorem Tidy.goesOn (tidy : Tidy s) (here : s.work i = .running thread rest)
    (same : ∀ holder later, status = .running holder later → holder = thread ∧ Stage later) : Tidy (s.put i status) := by
  apply tidy.put
  · rw [here]
    exact nofun
  · exact fun holder later running => (same holder later running).2
  · intro later running j other before
    obtain ⟨rfl,_⟩ := same _ _ running
    exact tidy.alone j i other rest before here

theorem put_early (early : ∀ j, Current s j → Early phase (s.work j)) (now : Current s i → Early phase status) (j : Nat)
    (current : Current s j) : Early phase ((s.put i status).work j) := by
  by_cases here : j = i
  · subst here
    rw [put_same]
    exact now current
  · rw [put_other here]
    exact early j current

theorem callback_text : side.program.callback = [.lock,.signal,.unlock] := by
  cases side <;> rfl

theorem begins_sound {onTop : Bool} (sound : Sound side s phase) (meets : Meets s (.begins i onTop)) (pending : s.work i = .pending)
    (free : onTop = true → Free s) : Sound side (s.put i (.running (threadOf i onTop) side.program.callback)) phase := by
  rw [callback_text]
  have quiet : ∀ thread, ¬ Holds (.running (threadOf i onTop) [.lock,.signal,.unlock]) thread := by
    intro thread holds
    obtain ⟨rest,running,holding⟩ := holds
    cases running
    exact lock_not_holding holding
  have same : ∀ j thread, Holds ((s.put i (.running (threadOf i onTop) [.lock,.signal,.unlock])).work j) thread ↔ Holds (s.work j) thread := by
    refine put_holds fun thread => iff_of_false (quiet thread) ?_
    apply not_holds
    rw [pending]
    exact fun _ _ => nofun
  have onTop' : ∀ later, Status.running (threadOf i onTop) [.lock,.signal,.unlock] = .running .submitter later → onTop = true := by
    intro later running
    cases onTop with
    | true => rfl
    | false => cases running
  constructor
  case rest => exact sound.rest
  case sleep => exact sound.sleep
  case owned =>
    refine sound.owned.keep rfl same fun holds free => put_free (fun later running => ?_) free
    have owned := sound.owned
    rw [holds] at owned
    exact meets.1 (onTop' later running) owned.mine.1
  case tidy =>
    apply sound.tidy.put
    · rw [pending]
      exact nofun
    · intro holder later running
      cases running
      exact .inl rfl
    · exact fun later running j other before => absurd before (free (onTop' later running) j other)
  case early => exact fun now => put_early (sound.early now) fun _ => .arriving
  case unhindered =>
    intro asleep taken j current thread later running
    subst asleep
    rcases running_put running with ⟨rfl,_⟩ | ⟨_,before⟩
    · exact taken (meets.2 current sound.asleep)
    · exact sound.unhindered rfl taken j current thread later before

theorem holds_running {holder : Thread} (holding : Holding rest) : Holds (.running thread rest) holder ↔ holder = thread := by
  constructor
  · intro holds
    obtain ⟨later,running,_⟩ := holds
    cases running
    rfl
  · intro same
    rw [same]
    exact ⟨rest,rfl,holding⟩

theorem callbackLock_sound (sound : Sound side s phase) (meets : Meets s (.callbackLock i))
    (here : s.work i = .running thread (.lock :: rest)) (unowned : s.owner = none) :
    Sound side {s.put i (.running thread rest) with owner := some thread} phase := by
  obtain rfl := stage_lock (sound.tidy.stages i thread _ here)
  obtain ⟨free,idle⟩ := sound.owned.idle unowned
  have tidy : Tidy (s.put i (.running thread [.signal,.unlock])) := by
    refine sound.tidy.goesOn here fun holder later same => ?_
    cases same
    exact ⟨rfl,.inr (.inl rfl)⟩
  constructor
  case rest => exact sound.rest
  case sleep => exact sound.sleep
  case owned =>
    rw [free]
    refine .callback (i := i) rfl ⟨_,put_same,.inl rfl⟩ fun j other holds => ?_
    apply Classical.byContradiction
    intro apart
    have before : Holds (s.work j) other := put_other apart ▸ holds
    exact idle j other before
  case tidy => exact ⟨tidy.stages,tidy.alone,tidy.unborn⟩
  case early =>
    refine fun now => put_early (sound.early now) fun current => ?_
    cases phase with
    | submitted =>
      have locking : s.rest.head? = some .lock := by
        rw [sound.rest]
        cases side <;> rfl
      exact absurd ⟨current,locking⟩ meets.1
    | locked => cases free
    | asleep => exact .signalling rfl
    | _ => cases now
  case unhindered =>
    intro asleep _ j current holder later running
    subst asleep
    rcases running_put running with ⟨rfl,same⟩ | ⟨other,before⟩
    · cases same
    · exact meets.2 sound.asleep j other current holder later before

def Phase.signalled : Phase → Phase
  | .asleep => .woken
  | phase => phase

theorem signalled_asleep : phase.signalled ≠ .asleep := by
  cases phase <;> exact nofun

theorem signalled_early (early : phase.signalled.early = true) : phase.early = true ∧ phase ≠ .asleep := by
  cases phase with
  | asleep => cases early
  | _ => exact ⟨early,nofun⟩

theorem callbackSignal_sound (sound : Sound side s phase) (here : s.work i = .running thread (.signal :: rest)) :
    Sound side {s.put i (.running thread rest) with sleep := s.sleep.signalled} phase.signalled := by
  obtain rfl := stage_signal (sound.tidy.stages i thread _ here)
  have tidy : Tidy (s.put i (.running thread [.unlock])) := by
    refine sound.tidy.goesOn here fun holder later same => ?_
    cases same
    exact ⟨rfl,.inr (.inr (.inl rfl))⟩
  constructor
  case rest =>
    have same : phase.signalled.rest side = phase.rest side := by cases phase <;> rfl
    exact sound.rest.trans same.symm
  case sleep =>
    show s.sleep.signalled = _
    rw [sound.sleep]
    cases phase <;> rfl
  case owned =>
    have same : phase.signalled.holds = phase.holds := by cases phase <;> rfl
    rw [same]
    refine sound.owned.keep rfl (put_holds fun holder => ?_) fun _ free => put_free (fun later running => ?_) free
    · rw [here,holds_running (.inr rfl),holds_running (.inl rfl)]
    · cases running
      exact free i _ here
  case tidy => exact ⟨tidy.stages,tidy.alone,tidy.unborn⟩
  case early =>
    intro now
    obtain ⟨before,awake⟩ := signalled_early now
    refine put_early (fun j current => (sound.early before j current).move awake) fun current => ?_
    have early := sound.early before i current
    rw [here] at early
    cases early with
    | signalling asleep => exact absurd asleep awake
  case unhindered => exact fun asleep => absurd asleep signalled_asleep

theorem callbackUnlock_sound (sound : Sound side s phase) (here : s.work i = .running thread (.unlock :: rest)) :
    Sound side {s.put i (.running thread rest) with owner := none} phase := by
  obtain rfl := stage_unlock (sound.tidy.stages i thread _ here)
  have held : Holds (s.work i) thread := here ▸ ⟨_,rfl,.inr rfl⟩
  have tidy : Tidy (s.put i (.running thread [])) := by
    refine sound.tidy.goesOn here fun holder later same => ?_
    cases same
    exact ⟨rfl,.inr (.inr (.inr rfl))⟩
  constructor
  case rest => exact sound.rest
  case sleep => exact sound.sleep
  case owned =>
    have owned := sound.owned
    generalize phase.holds = holds at owned
    cases owned with
    | nobody _ idle => exact absurd held (idle i thread)
    | function _ _ idle => exact absurd held (idle i thread)
    | callback _ _ others =>
      obtain rfl := others i thread held
      refine .nobody rfl fun j other holds => ?_
      by_cases same : j = i
      · subst same
        have gone : Holds ((s.put j (.running thread [])).work j) other := holds
        rw [put_same] at gone
        obtain ⟨later,running,holding⟩ := gone
        cases running
        exact done_not_holding holding
      · have before : Holds (s.work j) other := put_other same ▸ holds
        exact same (others j other before)
  case tidy => exact ⟨tidy.stages,tidy.alone,tidy.unborn⟩
  case early =>
    refine fun now => put_early (sound.early now) fun current => ?_
    have early := sound.early now i current
    rw [here] at early
    cases early
  case unhindered => exact fun _ taken => absurd rfl taken

theorem callbackReturn_sound (sound : Sound side s phase) (here : s.work i = .running thread []) :
    Sound side (s.put i .finished) phase := by
  have gone : ∀ holder later, Status.finished ≠ .running holder later := fun _ _ => nofun
  constructor
  case rest => exact sound.rest
  case sleep => exact sound.sleep
  case owned =>
    refine sound.owned.keep rfl (put_holds fun holder => iff_of_false (not_holds gone holder) fun holds => ?_) fun _ => put_free (gone _)
    rw [here] at holds
    obtain ⟨later,running,holding⟩ := holds
    cases running
    exact done_not_holding holding
  case tidy => exact sound.tidy.goesOn here fun holder later same => absurd same (gone holder later)
  case early =>
    refine fun now => put_early (sound.early now) fun current => ?_
    have early := sound.early now i current
    rw [here] at early
    cases early
  case unhindered =>
    intro asleep taken j current holder later running
    rcases running_put running with ⟨_,same⟩ | ⟨_,before⟩
    · exact gone _ _ same
    · exact sound.unhindered asleep taken j current holder later before

variable {after : State} {action : Action}

theorem step_sound (sound : Sound side s phase) (taken : Restrict Meets (Step side.program) s action after) :
    ∃ later, Sound side after later := by
  obtain ⟨meets,taken⟩ := taken
  cases taken with
  | call free returned => exact ⟨_,call_sound sound returned⟩
  | start succeeds free here => exact ⟨_,start_sound sound here⟩
  | lock free here unowned => exact ⟨_,lock_sound sound free here unowned⟩
  | sleep free here awake owned => exact ⟨_,sleep_sound sound here awake⟩
  | spurious asleep => exact ⟨_,spurious_sound sound asleep⟩
  | resume free here woken unowned => exact ⟨_,resume_sound sound free here unowned⟩
  | spawn succeeds free here =>
    have created : succeeds = true := meets
    subst created
    exact ⟨_,spawn_sound sound here⟩
  | unlock free here => exact ⟨_,unlock_sound sound here⟩
  | begins onTop pending free => exact ⟨_,begins_sound sound meets pending free⟩
  | callbackLock here unowned => exact ⟨_,callbackLock_sound sound meets here unowned⟩
  | callbackSignal here => exact ⟨_,callbackSignal_sound sound here⟩
  | callbackUnlock here => exact ⟨_,callbackUnlock_sound sound here⟩
  | callbackReturn here => exact ⟨_,callbackReturn_sound sound here⟩

-- In a run whose steps all meet the condition, over any number of rounds, no
-- completion is slept through and no call leaves the mutex locked.
theorem never_slept_through (side : Side) (actions : List Action) (path : Runs (Restrict Meets (Step side.program)) idle actions after) :
    ¬ SleptThrough after ∧ ¬ LeftLocked after := by
  let invariant : State → Prop := fun s => ∃ phase, Sound side s phase
  have sound : invariant after := by
    refine path.keeps ⟨_,idle_sound⟩ fun before action after sound taken => ?_
    obtain ⟨phase,sound⟩ := sound
    exact step_sound sound taken
  obtain ⟨phase,sound⟩ := sound
  exact ⟨sound.awake,sound.released⟩

end

def round (owner : Option Thread) (sleep : Sleep) (rest : List Stmt) (status : Status) : State :=
  State.put ⟨owner,sleep,rest,1,fun _ => .none⟩ 0 status

section
variable {p : Program} {owner : Option Thread} {sleep : Sleep} {rest left : List Stmt} {status : Status}

theorem round_put (before : Status) : (round owner sleep rest before).put 0 status = round owner sleep rest status := by
  unfold round State.put
  rw [Function.update_idem]

theorem round_free (off : ∀ later, status ≠ .running .submitter later) : Free (round owner sleep rest status) :=
  put_free off fun _ _ => nofun

theorem round_work : (round owner sleep rest status).work 0 = status := put_same

def called (side : Side) : State := {idle with rest := side.program.function}

theorem round_called (side : Side) : Step side.program idle .call (called side) := .call (fun _ _ => nofun) rfl

theorem round_started (side : Side) : Step side.program (called side) (.start true)
    (round none .awake (Phase.submitted.rest side) .pending) := by
  have free : Free (called side) := fun _ _ => nofun
  cases side with
  | mm2s => exact .start true free rfl
  | s2mm => exact .start true free rfl

theorem round_begins : Step p (round owner sleep rest .pending) (.begins 0 false)
    (round owner sleep rest (.running (.other 0) p.callback)) := by
  have taken : Step p (round owner sleep rest .pending) (.begins 0 false)
      ((round owner sleep rest .pending).put 0 (.running (.other 0) p.callback)) := .begins false round_work nofun
  rw [round_put] at taken
  exact taken

theorem round_callbackLock : Step p (round none sleep rest (.running (.other 0) (.lock :: left))) (.callbackLock 0)
    (round (some (.other 0)) sleep rest (.running (.other 0) left)) := by
  have taken : Step p (round none sleep rest (.running (.other 0) (.lock :: left))) (.callbackLock 0)
      ((round (some (.other 0)) sleep rest (.running (.other 0) (.lock :: left))).put 0 (.running (.other 0) left)) :=
    .callbackLock round_work rfl
  rw [round_put] at taken
  exact taken

theorem round_callbackSignal : Step p (round owner sleep rest (.running (.other 0) (.signal :: left))) (.callbackSignal 0)
    (round owner sleep.signalled rest (.running (.other 0) left)) := by
  have taken : Step p (round owner sleep rest (.running (.other 0) (.signal :: left))) (.callbackSignal 0)
      ((round owner sleep.signalled rest (.running (.other 0) (.signal :: left))).put 0 (.running (.other 0) left)) :=
    .callbackSignal round_work
  rw [round_put] at taken
  exact taken

theorem round_callbackUnlock : Step p (round owner sleep rest (.running (.other 0) (.unlock :: left))) (.callbackUnlock 0)
    (round none sleep rest (.running (.other 0) left)) := by
  have taken : Step p (round owner sleep rest (.running (.other 0) (.unlock :: left))) (.callbackUnlock 0)
      ((round none sleep rest (.running (.other 0) (.unlock :: left))).put 0 (.running (.other 0) left)) :=
    .callbackUnlock round_work
  rw [round_put] at taken
  exact taken

theorem round_callbackReturn : Step p (round owner sleep rest (.running (.other 0) [])) (.callbackReturn 0)
    (round owner sleep rest .finished) := by
  have taken : Step p (round owner sleep rest (.running (.other 0) [])) (.callbackReturn 0)
      ((round owner sleep rest (.running (.other 0) [])).put 0 .finished) := .callbackReturn round_work
  rw [round_put] at taken
  exact taken

theorem round_lock (off : ∀ later, status ≠ .running .submitter later) : Step p (round none sleep (.lock :: rest) status) .lock
    (round (some .submitter) sleep rest status) := .lock (round_free off) rfl rfl

theorem round_sleep (off : ∀ later, status ≠ .running .submitter later) :
    Step p (round (some .submitter) .awake (.wait :: rest) status) .sleep (round none .asleep (.wait :: rest) status) :=
  .sleep (round_free off) rfl rfl rfl

end

-- The callback arrives while the function holds the mutex, and gets it when the
-- function waits.
theorem waited_round : ¬ SleptThrough (round (some (.other 0)) .woken [.wait,.unlock] (.running (.other 0) [.unlock])) ∧
    ¬ LeftLocked (round (some (.other 0)) .woken [.wait,.unlock] (.running (.other 0) [.unlock])) := by
  let actions : List Action := [.call,.start true,.lock,.begins 0 false,.sleep,.callbackLock 0,.callbackSignal 0]
  have path : Runs (Restrict Meets (Step Side.mm2s.program)) idle actions
      (round (some (.other 0)) .woken [.wait,.unlock] (.running (.other 0) [.unlock])) := by
    have begins : Runs (Restrict Meets (Step Side.mm2s.program)) idle [] idle := .start
    have started := (begins.meeting (round_called .mm2s) trivial).meeting (round_started .mm2s) trivial
    have locked := started.meeting (round_lock fun _ => nofun) trivial
    have begun := locked.meeting round_begins ⟨nofun,fun _ => nofun⟩
    have slept := begun.meeting (round_sleep fun _ => nofun) trivial
    have waiting : Meets (round none .asleep [.wait,.unlock] (.running (.other 0) [.lock,.signal,.unlock])) (.callbackLock 0) := by
      refine ⟨nofun,fun _ j other current => ?_⟩
      exact absurd (Nat.succ_inj.mp current) other
    exact (slept.meeting round_callbackLock waiting).meeting round_callbackSignal trivial
  exact never_slept_through .mm2s actions path

-- The transfer is complete before the function has the mutex: its wait has
-- nothing left to wake it.
theorem early_completion_lost : ¬ ∀ side actions after, Runs (Step (Side.program side)) idle actions after →
    ¬ SleptThrough after ∧ ¬ LeftLocked after := by
  intro never
  have begun := ((Runs.start.snoc (round_called .mm2s)).snoc (round_started .mm2s)).snoc round_begins
  have signalled := (begun.snoc round_callbackLock).snoc round_callbackSignal
  have done := (signalled.snoc round_callbackUnlock).snoc round_callbackReturn
  have slept := (done.snoc (round_lock fun _ => nofun)).snoc (round_sleep fun _ => nofun)
  exact (never .mm2s _ _ slept).1 ⟨.inl rfl,0,rfl,.inl rfl⟩

end Axidma.CompletionWait
