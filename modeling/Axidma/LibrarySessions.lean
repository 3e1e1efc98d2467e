import Axidma.Library
import Axidma.Transition

namespace Axidma.LibrarySessions
open Interaction
open Transition

abbrev Kind := AxidmaType × AxidmaDir

def array (dev : AxidmaDev) : Kind → ArrayT
  | (.dma,.write) => dev.dmaTxChans
  | (.dma,.read) => dev.dmaRxChans
  | (.vdma,.write) => dev.vdmaTxChans
  | (.vdma,.read) => dev.vdmaRxChans

def counted (numChan : AxidmaNumChannels) : Kind → Nat
  | (.dma,.write) => numChan.numDmaTxChannels
  | (.dma,.read) => numChan.numDmaRxChannels
  | (.vdma,.write) => numChan.numVdmaTxChannels
  | (.vdma,.read) => numChan.numVdmaRxChannels

-- What the driver answers: its counts, and as many channels as the first says.
structure DriverTable where
  numChan : AxidmaNumChannels
  channels : List AxidmaChan
  sized : channels.length = numChan.numChannels

-- Any call may fail; a query that succeeds gives what the driver holds.
def surroundings (table : DriverTable) : Machine libc Unit where
  gives := fun _ op reply => match op,reply with
    | .getNumDmaChannels _,reply => 0 ≤ reply.1 → reply.2 = table.numChan
    | .getDmaChannels _ _,reply => 0 ≤ reply.1 → reply.2.1 = table.channels
    | _,_ => True
  perform := fun _ _ _ => ()

inductive Result where
  | refused
  | filled
  | succeeded
deriving DecidableEq

inductive SessionAction where
  | attempt (table : DriverTable) (result : Result)
  | destroy

def SameLengths (dev after : AxidmaDev) : Prop := ∀ kind, (array after kind).len = (array dev kind).len

-- A failed attempt is refused when it leaves the four lengths alone and filled
-- when it has put ids into the arrays before it failed.
inductive SessionStep : AxidmaDev → SessionAction → AxidmaDev → Prop where
  | refused {dev after : AxidmaDev} {table : DriverTable}
      (executed : Exec (surroundings table) (axidmaInit dev) () (.returned (false,after)) ())
      (same : SameLengths dev after) : SessionStep dev (.attempt table .refused) after
  | filled {dev after : AxidmaDev} {table : DriverTable}
      (executed : Exec (surroundings table) (axidmaInit dev) () (.returned (false,after)) ())
      (longer : ¬ SameLengths dev after) : SessionStep dev (.attempt table .filled) after
  | succeeded {dev after : AxidmaDev} {table : DriverTable}
      (executed : Exec (surroundings table) (axidmaInit dev) () (.returned (true,after)) ()) :
      SessionStep dev (.attempt table .succeeded) after
  | destroy {dev after : AxidmaDev} {table : DriverTable} (live : dev.initialized = true)
      (executed : Exec (surroundings table) (axidmaDestroy dev) () (.returned after) ()) :
      SessionStep dev .destroy after

def contents (array : ArrayT) : List (Option CInt) := array.data.take array.len

structure BuildsFirst (table : DriverTable) (after : AxidmaDev) : Prop where
  inside : ∀ kind, (array after kind).overran = false
  same : ∀ first, Exec (surroundings table) (axidmaInit zeroedDev) () (.returned (true,first)) () →
    (∀ kind, (array after kind).len = (array first kind).len ∧
      contents (array after kind) = contents (array first kind)) ∧ after.channels = first.channels

def idsOf (channels : List AxidmaChan) (kind : Kind) : List CInt :=
  (channels.filter fun chan => decide ((chan.type,chan.dir) = kind)).map (·.channelId)

-- The counts of the driver are enough for its channels.
def Covers (table : DriverTable) : Prop := ∀ kind, (idsOf table.channels kind).length ≤ counted table.numChan kind

def Fills : SessionAction → Bool
  | .attempt _ .refused => false
  | .attempt _ _ => true
  | .destroy => false

section
variable {dev after : AxidmaDev} {table : DriverTable}

theorem place_array (chan : AxidmaChan) (kind : Kind) :
    array (placeChannel dev chan) kind =
      if (chan.type,chan.dir) = kind then (array dev kind).push chan.channelId else array dev kind := by
  rcases chan with ⟨_ | _,_ | _,channelId,name,handle⟩ <;> rcases kind with ⟨_ | _,_ | _⟩ <;> rfl

theorem place_channels (chan : AxidmaChan) : (placeChannel dev chan).channels = dev.channels++[toDmaChannel chan] := by
  rcases chan with ⟨_ | _,_ | _,channelId,name,handle⟩ <;> rfl

theorem fill_array (channels : List AxidmaChan) (kind : Kind) :
    array (channels.foldl placeChannel dev) kind = (idsOf channels kind).foldl ArrayT.push (array dev kind) := by
  induction channels generalizing dev with
  | nil => rfl
  | cons chan rest ih =>
    rw [List.foldl_cons,ih,place_array]
    unfold idsOf
    by_cases same : (chan.type,chan.dir) = kind
    · simp [same]
    · simp [same]

theorem fill_channels (channels : List AxidmaChan) :
    (channels.foldl placeChannel dev).channels = dev.channels++channels.map toDmaChannel := by
  induction channels generalizing dev with
  | nil => simp
  | cons chan rest ih => rw [List.foldl_cons,ih,place_channels]; simp

theorem fill_count (channels : List AxidmaChan) : (channels.foldl placeChannel dev).numChannels = dev.numChannels := by
  induction channels generalizing dev with
  | nil => rfl
  | cons chan rest ih =>
    rw [List.foldl_cons,ih]
    rcases chan with ⟨_ | _,_ | _,channelId,name,handle⟩ <;> rfl

theorem push_len (ids : List CInt) (array : ArrayT) : (ids.foldl ArrayT.push array).len = array.len+ids.length := by
  induction ids generalizing array with
  | nil => rfl
  | cons channelId rest ih =>
    rw [List.foldl_cons,ih,List.length_cons]
    simp only [ArrayT.push]
    omega

theorem push_overran (ids : List CInt) (array : ArrayT) : (ids.foldl ArrayT.push array).overran = false ↔
    array.overran = false ∧ (ids = [] ∨ array.len+ids.length ≤ array.data.length) := by
  induction ids generalizing array with
  | nil => simp
  | cons channelId rest ih =>
    rw [List.foldl_cons,ih]
    simp only [ArrayT.push,Bool.or_eq_false_iff,decide_eq_false_iff_not,List.length_set,List.length_cons,
      reduceCtorEq,false_or]
    constructor
    · intro parts
      refine ⟨parts.1.1,?_⟩
      rcases parts.2 with rfl | fits
      · have inside := parts.1.2
        simp only [List.length_nil]
        omega
      · omega
    · intro parts
      refine ⟨⟨parts.1,by omega⟩,?_⟩
      cases rest with
      | nil => exact .inl rfl
      | cons other rest =>
        have fits := parts.2
        simp only [List.length_cons] at fits ⊢
        exact .inr (by omega)

def allocated (dev : AxidmaDev) (table : DriverTable) : AxidmaDev :=
  {dev with
    dmaTxChans := dev.dmaTxChans.allocated table.numChan.numDmaTxChannels
    dmaRxChans := dev.dmaRxChans.allocated table.numChan.numDmaRxChannels
    vdmaTxChans := dev.vdmaTxChans.allocated table.numChan.numVdmaTxChannels
    vdmaRxChans := dev.vdmaRxChans.allocated table.numChan.numVdmaRxChannels
    channels := []
    numChannels := table.numChan.numChannels}

def built (dev : AxidmaDev) (table : DriverTable) : AxidmaDev := table.channels.foldl placeChannel (allocated dev table)

theorem allocated_array (kind : Kind) :
    array (allocated dev table) kind = (array dev kind).allocated (counted table.numChan kind) := by
  rcases kind with ⟨_ | _,_ | _⟩ <;> rfl

theorem built_array (kind : Kind) : array (built dev table) kind =
    (idsOf table.channels kind).foldl ArrayT.push ((array dev kind).allocated (counted table.numChan kind)) := by
  rw [built,fill_array,allocated_array]

inductive Categorized (dev : AxidmaDev) (table : DriverTable) : Outcome LibraryFault (Int × AxidmaDev) → Prop where
  | refused {rc : Int} {after : AxidmaDev} (failed : rc < 0) (same : SameLengths dev after) :
      Categorized dev table (.returned (rc,after))
  | filled (nonempty : table.numChan.numChannels ≠ 0) : Categorized dev table (.returned (0,built dev table))

theorem sameLengths {after : AxidmaDev} (dmaTx : after.dmaTxChans.len = dev.dmaTxChans.len)
    (dmaRx : after.dmaRxChans.len = dev.dmaRxChans.len) (vdmaTx : after.vdmaTxChans.len = dev.vdmaTxChans.len)
    (vdmaRx : after.vdmaRxChans.len = dev.vdmaRxChans.len) : SameLengths dev after := by
  intro kind
  rcases kind with ⟨_ | _,_ | _⟩
  · exact dmaTx
  · exact dmaRx
  · exact vdmaTx
  · exact vdmaRx

theorem categorize_ends (nonempty : table.numChan.numChannels ≠ 0) :
    Ensures (surroundings table) (fun outcome _ => Categorized dev table outcome)
      (categorizeChannels dev table.channels table.numChan) () := by
  have enomem : -ENOMEM < 0 := by decide
  unfold categorizeChannels
  intro first _
  refine ensures_if (fun _ => ?_) fun _ => ?_
  · exact .refused enomem (sameLengths rfl rfl rfl rfl)
  intro second _
  refine ensures_if (fun _ => ?_) fun _ => ?_
  · intro _ _
    exact .refused enomem (sameLengths rfl rfl rfl rfl)
  intro third _
  refine ensures_if (fun _ => ?_) fun _ => ?_
  · intro _ _ _ _
    exact .refused enomem (sameLengths rfl rfl rfl rfl)
  intro fourth _
  refine ensures_if (fun _ => ?_) fun _ => ?_
  · intro _ _ _ _ _ _
    exact .refused enomem (sameLengths rfl rfl rfl rfl)
  intro fifth _
  refine ensures_if (fun _ => ?_) fun _ => ?_
  · intro _ _ _ _ _ _ _ _
    exact .refused enomem (sameLengths rfl rfl rfl rfl)
  · exact .filled nonempty

theorem probe_ends : Ensures (surroundings table) (fun outcome _ => Categorized dev table outcome)
    (probeChannels dev) () := by
  unfold probeChannels
  intro answered given
  obtain ⟨rc,numChan⟩ := answered
  refine ensures_if (fun failed => .refused failed fun _ => rfl) fun succeeded => ?_
  obtain rfl : numChan = table.numChan := given (Int.not_lt.mp succeeded)
  refine ensures_if (fun _ => .refused (by decide) fun _ => rfl) fun nonempty => ?_
  intro allocation _
  refine ensures_if (fun _ => .refused (by decide) fun _ => rfl) fun _ => ?_
  intro listed given
  refine ensures_if (fun failed => ?_) fun succeeded => ?_
  · intro _ _
    exact .refused failed fun _ => rfl
  · have channels : listed.2.1 = table.channels := given (Int.not_lt.mp succeeded)
    rw [channels]
    refine ensures_bind ((categorize_ends nonempty).mono fun outcome _ ended => ?_)
    cases ended with
    | refused failed same => exact fun _ _ => .refused failed same
    | filled nonempty => exact fun _ _ => .filled nonempty

inductive Attempted (dev : AxidmaDev) (table : DriverTable) : Outcome LibraryFault (Bool × AxidmaDev) → Prop where
  | aborted (live : dev.initialized = true) : Attempted dev table (.faulted .assertion)
  | refused {after : AxidmaDev} (same : SameLengths dev after) : Attempted dev table (.returned (false,after))
  | filled {fd : Int} (nonempty : table.numChan.numChannels ≠ 0) :
      Attempted dev table (.returned (false,built {dev with fd := fd} table))
  | succeeded {fd : Int} (nonempty : table.numChan.numChannels ≠ 0) :
      Attempted dev table (.returned (true,{built {dev with fd := fd} table with initialized := true}))

theorem init_ends : Ensures (surroundings table) (fun outcome _ => Attempted dev table outcome) (axidmaInit dev) () := by
  unfold axidmaInit
  refine ensures_if (fun live => .aborted live) fun _ => ?_
  intro fd _
  refine ensures_if (fun _ => ?_) fun _ => ?_
  · exact .refused (sameLengths rfl rfl rfl rfl)
  refine ensures_bind (probe_ends.mono fun outcome _ ended => ?_)
  cases ended with
  | refused failed same =>
    refine ensures_if (fun _ => ?_) fun passed => absurd failed passed
    intro _ _
    exact .refused (fun kind => (same kind).trans (by rcases kind with ⟨_ | _,_ | _⟩ <;> rfl))
  | filled nonempty =>
    apply ensures_if (fun failed => absurd failed (by decide))
    intro _
    unfold setupDmaCallback
    intro registered _
    refine ensures_bind (ensures_if (fun failed => ?_) fun passed => ?_)
    · refine ensures_if (fun _ => ?_) fun passed => absurd failed passed
      intro _ _
      exact .filled nonempty
    · intro signalled _
      refine ensures_if (fun failed => ?_) fun passed => ?_
      · refine ensures_if (fun _ => ?_) fun passed => absurd failed passed
        intro _ _
        exact .filled nonempty
      · apply ensures_if (fun failed => absurd failed (by decide))
        intro _
        exact .succeeded nonempty

theorem built_len (kind : Kind) :
    (array (built dev table) kind).len = (array dev kind).len+(idsOf table.channels kind).length := by
  rw [built_array,push_len]
  rfl

theorem built_overran (kind : Kind) : (array (built dev table) kind).overran = false ↔
    idsOf table.channels kind = [] ∨
      (array dev kind).len+(idsOf table.channels kind).length ≤ counted table.numChan kind := by
  rw [built_array,push_overran]
  simp [ArrayT.allocated]

def AllZero (dev : AxidmaDev) : Prop := ∀ kind, (array dev kind).len = 0

-- A filled handle has a length that is not zero, since no table is empty.
theorem built_not_zero (nonempty : table.numChan.numChannels ≠ 0) : ¬ AllZero (built dev table) := by
  intro zero
  cases present : table.channels with
  | nil =>
    have sized := table.sized
    rw [present] at sized
    exact nonempty sized.symm
  | cons chan rest =>
    have none := zero (chan.type,chan.dir)
    rw [built_len,present] at none
    simp [idsOf] at none

theorem destroy_ends : Ensures (surroundings table)
    (fun outcome _ => ∀ after, outcome = .returned after → after = {dev with initialized := false}) (axidmaDestroy dev) () := by
  intro _ _ _ _ _ _ _ _ _ _ rc _
  refine ensures_if (fun _ => ?_) fun _ => ?_
  · intro after returned
    cases returned
  · intro after returned
    cases returned
    rfl

theorem init_built (success : SessionStep dev (.attempt table .succeeded) after) :
    table.numChan.numChannels ≠ 0 ∧ ∃ fd, after = {built {dev with fd := fd} table with initialized := true} := by
  cases success with
  | succeeded executed =>
    have ended := ensures_iff.mp init_ends _ _ executed
    generalize returned : Outcome.returned (true,after) = outcome at ended
    cases ended with
    | aborted _ => cases returned
    | refused _ => cases returned
    | filled _ => cases returned
    | succeeded nonempty =>
      cases returned
      exact ⟨nonempty,_,rfl⟩

theorem step_zero {action : SessionAction} (step : SessionStep dev action after) :
    AllZero after ↔ AllZero dev ∧ Fills action = false := by
  cases step with
  | refused executed same =>
    refine ⟨fun zero => ⟨fun kind => ?_,rfl⟩,fun zero kind => ?_⟩
    · rw [← same kind]
      exact zero kind
    · rw [same kind]
      exact zero.1 kind
  | filled executed longer =>
    refine iff_of_false ?_ fun zero => by cases zero.2
    have ended := ensures_iff.mp init_ends _ _ executed
    generalize returned : Outcome.returned (false,after) = outcome at ended
    cases ended with
    | aborted _ => cases returned
    | refused same =>
      cases returned
      exact absurd same longer
    | filled nonempty =>
      cases returned
      exact built_not_zero nonempty
    | succeeded _ => cases returned
  | succeeded executed =>
    obtain ⟨nonempty,fd,rfl⟩ := init_built (.succeeded executed)
    exact iff_of_false (built_not_zero nonempty) fun zero => by cases zero.2
  | destroy _ executed =>
    obtain rfl := ensures_iff.mp destroy_ends _ _ executed after rfl
    exact ⟨fun zero => ⟨zero,rfl⟩,fun zero => zero.1⟩

theorem zeroed_zero : AllZero zeroedDev := by
  intro kind
  rcases kind with ⟨_ | _,_ | _⟩ <;> rfl

theorem run_zero {actions : List SessionAction} (path : Runs SessionStep zeroedDev actions dev) :
    AllZero dev ↔ ∀ action ∈ actions, Fills action = false := by
  induction path with
  | start => exact iff_of_true zeroed_zero fun action member => absurd member List.not_mem_nil
  | snoc _ step ih => rw [step_zero step,ih]; simp [or_imp,forall_and]

theorem probe_succeeds (nonempty : table.numChan.numChannels ≠ 0) :
    Exec (surroundings table) (probeChannels dev) () (.returned (0,built dev table)) () := by
  refine ⟨(0,table.numChan),fun _ => rfl,.otherwise nonempty ?_⟩
  refine ⟨true,trivial,(0,⟨table.channels,table.sized⟩),fun _ => rfl,?_⟩
  have categorized : Exec (surroundings table) (categorizeChannels dev table.channels table.numChan) ()
      (.returned (0,built dev table)) () :=
    ⟨true,trivial,true,trivial,true,trivial,true,trivial,true,trivial,rfl,rfl⟩
  exact categorized.bind ⟨(),trivial,rfl,rfl⟩

theorem first_succeeds (nonempty : table.numChan.numChannels ≠ 0) :
    Exec (surroundings table) (axidmaInit zeroedDev) ()
      (.returned (true,{built {zeroedDev with fd := 0} table with initialized := true})) () := by
  refine ⟨(0 : Int),trivial,(probe_succeeds nonempty).bind ?_⟩
  have registered : Exec (surroundings table) (setupDmaCallback (built {zeroedDev with fd := 0} table)) ()
      (.returned 0) () := ⟨(0 : Int),trivial,(0 : Int),trivial,rfl,rfl⟩
  exact registered.bind ⟨rfl,rfl⟩

@[simp] theorem ready_array (fd : Int) (kind : Kind) :
    array {built {dev with fd := fd} table with initialized := true} kind = array (built dev table) kind := by
  have same : array {dev with fd := fd} kind = array dev kind := by rcases kind with ⟨_ | _,_ | _⟩ <;> rfl
  have ready : array {built {dev with fd := fd} table with initialized := true} kind =
      array (built {dev with fd := fd} table) kind := by rcases kind with ⟨_ | _,_ | _⟩ <;> rfl
  rw [ready,built_array,built_array,same]

theorem built_channels : (built dev table).channels = table.channels.map toDmaChannel := by
  rw [built,fill_channels]
  rfl

-- What a successful init copies of the driver's table, whatever came before.
theorem init_copies (executed : Exec (surroundings table) (axidmaInit dev) () (.returned (true,after)) ()) :
    after.numChannels = table.channels.length ∧ after.channels = table.channels.map toDmaChannel := by
  obtain ⟨_,fd,rfl⟩ := init_built (.succeeded executed)
  constructor
  · rw [table.sized]
    exact fill_count _
  · exact built_channels

theorem built_from_zero (zero : AllZero dev) (kind : Kind) : array (built dev table) kind = array (built zeroedDev table) kind := by
  have fresh : ∀ start : ArrayT, start.len = 0 → start.allocated (counted table.numChan kind) =
      ⟨0,List.replicate (counted table.numChan kind) none,false⟩ := by
    intro start none
    rw [ArrayT.allocated,none]
  rw [built_array,built_array,fresh _ (zero kind),fresh _ (zeroed_zero kind)]

theorem buildsFirst_iff (success : SessionStep dev (.attempt table .succeeded) after) :
    BuildsFirst table after ↔ AllZero dev ∧ Covers table := by
  obtain ⟨nonempty,fd,rfl⟩ := init_built success
  constructor
  · intro builds
    have same := (builds.same _ (first_succeeds nonempty)).1
    have zero : AllZero dev := by
      intro kind
      have lengths := (same kind).1
      rw [ready_array,ready_array,built_len,built_len,zeroed_zero kind] at lengths
      omega
    refine ⟨zero,fun kind => ?_⟩
    have inside := builds.inside kind
    rw [ready_array,built_overran,zero kind] at inside
    rcases inside with empty | fits
    · rw [empty]
      exact Nat.zero_le _
    · omega
  · intro both
    obtain ⟨zero,covers⟩ := both
    refine ⟨fun kind => ?_,fun first executed => ?_⟩
    · rw [ready_array,built_overran,zero kind]
      have fits := covers kind
      exact .inr (by omega)
    · obtain ⟨_,fd',rfl⟩ := init_built (.succeeded executed)
      refine ⟨fun kind => ?_,?_⟩
      · rw [ready_array,ready_array,built_from_zero zero]
        exact ⟨rfl,rfl⟩
      · show (built _ table).channels = (built _ table).channels
        rw [built_channels,built_channels]

-- In any run, an init that succeeds builds what the first one would exactly
-- when no earlier attempt has filled the arrays and the counts are enough.
theorem init_independent_iff {actions : List SessionAction} (path : Runs SessionStep zeroedDev actions dev)
    (success : SessionStep dev (.attempt table .succeeded) after) :
    BuildsFirst table after ↔ (∀ action ∈ actions, Fills action = false) ∧ Covers table := by
  rw [buildsFirst_iff success,run_zero path]

end

def oneChannel : DriverTable where
  numChan := ⟨1,1,0,0,0⟩
  channels := [⟨.write,.dma,7,"tx_channel",0⟩]
  sized := rfl

def opened (dev : AxidmaDev) : AxidmaDev := {built {dev with fd := 0} oneChannel with initialized := true}

theorem oneChannel_opens (dev : AxidmaDev) (closed : dev.initialized = false) :
    SessionStep dev (.attempt oneChannel .succeeded) (opened dev) := by
  have built : Exec (surroundings oneChannel) (axidmaInit dev) () (.returned (true,opened dev)) () := by
    refine .otherwise (by simp [closed]) ⟨(0 : Int),trivial,(probe_succeeds (by decide)).bind ?_⟩
    have registered : Exec (surroundings oneChannel) (setupDmaCallback (built {dev with fd := 0} oneChannel)) ()
      (.returned 0) () := ⟨(0 : Int),trivial,(0 : Int),trivial,rfl,rfl⟩
    exact registered.bind ⟨rfl,rfl⟩
  exact .succeeded built

theorem opened_closes (dev : AxidmaDev) : SessionStep (opened dev) .destroy {opened dev with initialized := false} := by
  have executed : Exec (surroundings oneChannel) (axidmaDestroy (opened dev)) ()
      (.returned {opened dev with initialized := false}) () :=
    ⟨(),trivial,(),trivial,(),trivial,(),trivial,(),trivial,(0 : Int),trivial,rfl,rfl⟩
  exact .destroy rfl executed

-- The device cannot be opened.
def unopened : AxidmaDev := {zeroedDev with fd := -1}

theorem zeroed_refused : SessionStep zeroedDev (.attempt oneChannel .refused) unopened := by
  have executed : Exec (surroundings oneChannel) (axidmaInit zeroedDev) () (.returned (false,unopened)) () :=
    .otherwise (by decide) ⟨(-1 : Int),trivial,.taken (by decide) ⟨rfl,rfl⟩⟩
  exact .refused executed (sameLengths rfl rfl rfl rfl)

-- The first init is refused, and the second is as if it were the first.
theorem first_init_independent : BuildsFirst oneChannel (opened unopened) ↔
    (∀ action ∈ [SessionAction.attempt oneChannel .refused], Fills action = false) ∧ Covers oneChannel :=
  init_independent_iff (Runs.snoc Runs.start zeroed_refused) (oneChannel_opens unopened rfl)

-- Init, destroy, init: the transmit array of the second session has length 2
-- and one cell, with the id stored beyond it.
theorem reopened_differs : ∃ before after, Runs SessionStep zeroedDev [.attempt oneChannel .succeeded,.destroy] before ∧
    SessionStep before (.attempt oneChannel .succeeded) after ∧ ¬ BuildsFirst oneChannel after := by
  have once := Runs.snoc Runs.start (oneChannel_opens zeroedDev rfl)
  have reopened := oneChannel_opens {opened zeroedDev with initialized := false} rfl
  refine ⟨_,_,once.snoc (opened_closes zeroedDev),reopened,fun builds => ?_⟩
  have inside := builds.inside (.dma,.write)
  exact absurd inside (by decide)

end Axidma.LibrarySessions
