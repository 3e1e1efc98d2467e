import Axidma.LibrarySessions

namespace Axidma.CallbackDelivery
open Interaction
open LibrarySessions

structure Setting where
  channel : CInt
  callback : Option Nat
  data : Nat

def setAll (dev : AxidmaDev) : List Setting → Library AxidmaDev
  | [] => return dev
  | setting :: rest => do
    let dev ← axidmaSetCallback dev setting.channel setting.callback setting.data
    setAll dev rest

-- What is set for an id, the callback with its data, where held was set before.
def lastSet (settings : List Setting) (channelId : CInt) (held : Option Nat × Nat) : Option Nat × Nat :=
  settings.foldl (fun held setting => if setting.channel = channelId then (setting.callback,setting.data) else held) held

def invocation (channelId : CInt) (held : Option Nat × Nat) : Library Unit :=
  match held.1 with
  | some callback => lcall (.invokeCallback callback channelId held.2)
  | none => return ()

def Listed (dev : AxidmaDev) (channelId : CInt) : Prop := ∃ chan, findChannel dev channelId = some chan

structure Delivered (dev after : AxidmaDev) (settings : List Setting) (payload : CInt) : Prop where
  invoked : Listed dev payload → axidmaCallback after payload = invocation payload (lastSet settings payload (none,0))
  untouched : ∀ (setting : Setting) (later : AxidmaDev), setting.channel ≠ payload → Listed dev payload →
    axidmaSetCallback after setting.channel setting.callback setting.data = .ret later →
    axidmaCallback later payload = axidmaCallback after payload
  inside : axidmaCallback after payload ≠ .fault .outOfBounds

-- After these settings the signal with this payload runs what was set for its
-- channel, and its access stays inside the table.
def Delivers (dev : AxidmaDev) (settings : List Setting) (payload : CInt) : Prop :=
  ∃ after, setAll dev settings = .ret after ∧ Delivered dev after settings payload

def Indexed (dev : AxidmaDev) (channelId : CInt) : Prop := 0 ≤ channelId.toInt ∧ channelId.toInt < dev.numChannels

-- The ids in use are indices of the table, and the payload is not the one behind
-- the last that the assertion lets pass.
structure InRange (dev : AxidmaDev) (settings : List Setting) (payload : CInt) : Prop where
  set : ∀ setting ∈ settings, Indexed dev setting.channel
  signalled : Listed dev payload → Indexed dev payload
  below : payload.toInt ≠ dev.numChannels

def held (dev : AxidmaDev) (channelId : CInt) : Option Nat × Nat :=
  match dev.channels[channelId.toInt.toNat]? with
  | some chan => (chan.callback,chan.userData)
  | none => (none,0)

def Full (dev : AxidmaDev) : Prop := dev.numChannels = dev.channels.length

-- Both tables list the same ids in the same places.
structure SameIds (dev after : AxidmaDev) : Prop where
  count : after.numChannels = dev.numChannels
  ids : after.channels.map (·.channelId) = dev.channels.map (·.channelId)

section
variable {dev after : AxidmaDev} {payload : CInt} {setting : Setting} {settings : List Setting}

theorem listed_iff (full : Full dev) (channelId : CInt) :
    Listed dev channelId ↔ channelId ∈ dev.channels.map (·.channelId) := by
  have all : dev.channels.take dev.numChannels = dev.channels := by rw [full,List.take_length]
  unfold Listed findChannel
  rw [all]
  constructor
  · intro found
    obtain ⟨chan,found⟩ := found
    have same : chan.channelId = channelId := by simpa using List.find?_some found
    exact List.mem_map.mpr ⟨chan,List.mem_of_find?_eq_some found,same⟩
  · intro member
    obtain ⟨chan,present,same⟩ := List.mem_map.mp member
    apply Option.isSome_iff_exists.mp
    apply List.find?_isSome.mpr
    exact ⟨chan,present,by simp [same]⟩

theorem SameIds.full (same : SameIds dev after) (full : Full dev) : Full after := by
  have lengths := congrArg List.length same.ids
  simp at lengths
  rw [Full,same.count,full,lengths]

theorem SameIds.listed (same : SameIds dev after) (full : Full dev) (channelId : CInt) :
    Listed after channelId ↔ Listed dev channelId := by
  rw [listed_iff full,listed_iff (same.full full),same.ids]

theorem SameIds.indexed (same : SameIds dev after) (channelId : CInt) : Indexed after channelId ↔ Indexed dev channelId := by
  rw [Indexed,Indexed,same.count]

theorem SameIds.trans {later : AxidmaDev} (first : SameIds dev after) (second : SameIds after later) : SameIds dev later :=
  ⟨second.count.trans first.count,second.ids.trans first.ids⟩

theorem modify_map {α β : Type} {view : α → β} {list : List α} {i : Nat} {change : α → α}
    (kept : ∀ value, view (change value) = view value) : (list.modify i change).map view = list.map view := by
  apply List.ext_getElem?
  intro j
  rw [List.getElem?_map,List.getElem?_map,List.getElem?_modify]
  cases list[j]? with
  | none => rfl
  | some value =>
    by_cases here : i = j
    · simp [here,kept]
    · simp [here]

theorem indexed_nat {channelId : CInt} (full : Full dev) (indexed : Indexed dev channelId) :
    channelId.toInt.toNat < dev.channels.length := by
  obtain ⟨nonneg,below⟩ := indexed
  rw [full] at below
  omega

theorem index_injective {channelId other : CInt} (indexed : Indexed dev channelId) (alike : Indexed dev other) :
    channelId.toInt.toNat = other.toInt.toNat ↔ channelId = other := by
  obtain ⟨nonneg,_⟩ := indexed
  obtain ⟨also,_⟩ := alike
  rw [← BitVec.toInt_inj]
  omega

-- One setting writes the entry at the index, or faults.
theorem set_cases (full : Full dev) (listed : Listed dev setting.channel) :
    (Indexed dev setting.channel ∧ ∃ after,
      axidmaSetCallback dev setting.channel setting.callback setting.data = .ret after ∧ SameIds dev after ∧
      ∀ channelId, Indexed dev channelId → held after channelId =
        if setting.channel = channelId then (setting.callback,setting.data) else held dev channelId) ∨
    (¬ Indexed dev setting.channel ∧
      axidmaSetCallback dev setting.channel setting.callback setting.data = .fault .outOfBounds) := by
  obtain ⟨chan,found⟩ := listed
  unfold axidmaSetCallback
  simp only [found]
  by_cases indexed : Indexed dev setting.channel
  · refine .inl ⟨indexed,_,if_pos ?_,?_,?_⟩
    · rw [← full]
      exact indexed
    · exact ⟨rfl,modify_map fun _ => rfl⟩
    · intro channelId alike
      have inside := List.getElem?_eq_getElem (indexed_nat full alike)
      unfold held
      simp only [List.getElem?_modify,inside]
      by_cases same : setting.channel = channelId
      · simp [same]
      · have apart : setting.channel.toInt.toNat ≠ channelId.toInt.toNat :=
          fun equal => same ((index_injective indexed alike).mp equal)
        simp [same,apart]
  · refine .inr ⟨indexed,if_neg ?_⟩
    rw [← full]
    exact indexed

theorem set_all (full : Full dev) (accepted : ∀ setting ∈ settings, Listed dev setting.channel)
    (indexed : ∀ setting ∈ settings, Indexed dev setting.channel) :
    ∃ after, setAll dev settings = .ret after ∧ SameIds dev after ∧
      ∀ channelId, Indexed dev channelId → held after channelId = lastSet settings channelId (held dev channelId) := by
  induction settings generalizing dev with
  | nil => exact ⟨dev,rfl,⟨rfl,rfl⟩,fun _ _ => rfl⟩
  | cons setting rest ih =>
    rcases set_cases full (accepted setting List.mem_cons_self) with ⟨_,middle,ran,same,holds⟩ | ⟨beyond,_⟩
    · have first : ∀ other ∈ rest, other ∈ setting :: rest := fun other => List.mem_cons_of_mem _
      obtain ⟨after,rans,others,held⟩ := ih (same.full full)
        (fun other member => (same.listed full _).mpr (accepted other (first other member)))
        (fun other member => (same.indexed _).mpr (indexed other (first other member)))
      refine ⟨after,?_,same.trans others,?_⟩
      · rw [setAll,ran]
        exact rans
      · intro channelId inside
        rw [held channelId ((same.indexed _).mpr inside),holds channelId inside]
        rfl
    · exact absurd (indexed setting List.mem_cons_self) beyond

theorem all_indexed (full : Full dev) (accepted : ∀ setting ∈ settings, Listed dev setting.channel)
    (ran : setAll dev settings = .ret after) : ∀ setting ∈ settings, Indexed dev setting.channel := by
  induction settings generalizing dev with
  | nil => exact fun _ member => absurd member List.not_mem_nil
  | cons setting rest ih =>
    rcases set_cases full (accepted setting List.mem_cons_self) with ⟨inside,middle,first,same,_⟩ | ⟨_,faulted⟩
    · rw [setAll,first] at ran
      have others := ih (same.full full)
        (fun other member => (same.listed full _).mpr (accepted other (List.mem_cons_of_mem _ member))) ran
      intro other member
      rcases List.mem_cons.mp member with rfl | later
      · exact inside
      · exact (same.indexed _).mp (others other later)
    · rw [setAll,faulted] at ran
      cases ran

theorem callback_indexed (full : Full dev) (indexed : Indexed dev payload) :
    axidmaCallback dev payload = invocation payload (held dev payload) := by
  have passes : (decide (0 ≤ payload.toInt) && decide (payload.toInt ≤ dev.numChannels)) = true := by
    obtain ⟨nonneg,below⟩ := indexed
    simp [nonneg,Int.le_of_lt below]
  obtain ⟨chan,entry⟩ : ∃ chan, dev.channels[payload.toInt.toNat]? = some chan :=
    ⟨_,List.getElem?_eq_getElem (indexed_nat full indexed)⟩
  have kept : held dev payload = (chan.callback,chan.userData) := by rw [held,entry]
  unfold axidmaCallback
  rw [kept]
  simp only [passes,entry]
  rfl

theorem callback_beyond (full : Full dev) (last : payload.toInt = dev.numChannels) :
    axidmaCallback dev payload = .fault .outOfBounds := by
  have passes : (decide (0 ≤ payload.toInt) && decide (payload.toInt ≤ dev.numChannels)) = true := by
    simp [last]
  have outside : dev.channels[payload.toInt.toNat]? = none := by
    apply List.getElem?_eq_none
    rw [last,full]
    simp
  unfold axidmaCallback
  simp only [passes,outside]
  rfl

theorem callback_outside (unindexed : ¬ Indexed dev payload) (apart : payload.toInt ≠ dev.numChannels) :
    axidmaCallback dev payload = .fault .assertion := by
  have fails : (decide (0 ≤ payload.toInt) && decide (payload.toInt ≤ dev.numChannels)) = false := by
    unfold Indexed at unindexed
    simp only [Bool.and_eq_false_iff,decide_eq_false_iff_not]
    omega
  unfold axidmaCallback
  simp only [fails]
  rfl

theorem invocation_returns (channelId : CInt) (held : Option Nat × Nat) (fault : LibraryFault) :
    invocation channelId held ≠ .fault fault := by
  unfold invocation
  cases held.1 with
  | none => simp
  | some callback => simp

theorem untouched_other (full : Full dev) (indexed : Indexed dev payload) {later : AxidmaDev}
    (apart : setting.channel ≠ payload)
    (ran : axidmaSetCallback dev setting.channel setting.callback setting.data = .ret later) :
    axidmaCallback later payload = axidmaCallback dev payload := by
  have listed : Listed dev setting.channel := by
    unfold axidmaSetCallback at ran
    cases found : findChannel dev setting.channel with
    | none =>
      simp only [found] at ran
      cases ran
    | some chan => exact ⟨chan,found⟩
  rcases set_cases full listed with ⟨_,after,first,same,holds⟩ | ⟨_,faulted⟩
  · rw [first] at ran
    cases ran
    rw [callback_indexed (same.full full) ((same.indexed _).mpr indexed),callback_indexed full indexed,
      holds payload indexed,if_neg apart]
  · rw [faulted] at ran
    cases ran

theorem delivers_of_full (full : Full dev) (unset : ∀ channelId, held dev channelId = (none,0))
    (accepted : ∀ setting ∈ settings, Listed dev setting.channel) :
    Delivers dev settings payload ↔ InRange dev settings payload := by
  constructor
  · intro delivers
    obtain ⟨after,ran,delivered⟩ := delivers
    have indexed := all_indexed full accepted ran
    obtain ⟨same,again,ids,_⟩ := set_all full accepted indexed
    rw [ran] at again
    cases again
    have apart : payload.toInt ≠ dev.numChannels := by
      intro last
      rw [← ids.count] at last
      exact delivered.inside (callback_beyond (ids.full full) last)
    refine ⟨indexed,?_,apart⟩
    intro listed
    apply Classical.byContradiction
    intro unindexed
    have invoked := delivered.invoked listed
    have beyond : ¬ Indexed after payload := fun inside => unindexed ((ids.indexed _).mp inside)
    rw [← ids.count] at apart
    rw [callback_outside beyond apart] at invoked
    exact invocation_returns _ _ _ invoked.symm
  · intro range
    obtain ⟨after,ran,same,holds⟩ := set_all full accepted range.set
    have whole := same.full full
    refine ⟨after,ran,?_,?_,?_⟩
    · intro listed
      have indexed := range.signalled listed
      rw [callback_indexed whole ((same.indexed _).mpr indexed),holds payload indexed,unset]
    · intro setting later apart listed set
      exact untouched_other whole ((same.indexed _).mpr (range.signalled listed)) apart set
    · by_cases indexed : Indexed dev payload
      · rw [callback_indexed whole ((same.indexed _).mpr indexed)]
        exact invocation_returns _ _ _
      · have apart := range.below
        rw [← same.count] at apart
        rw [callback_outside (fun inside => indexed ((same.indexed _).mp inside)) apart]
        intro equal
        cases equal

theorem none_set {table : DriverTable} (copied : dev.channels = table.channels.map toDmaChannel) (channelId : CInt) :
    held dev channelId = (none,0) := by
  unfold held
  rw [copied,List.getElem?_map]
  cases table.channels[channelId.toInt.toNat]? with
  | none => rfl
  | some chan => rfl

end

-- The handle is the one that an init gives for the driver's table.
theorem delivers_iff_inRange {table : DriverTable} {before dev : AxidmaDev} {settings : List Setting} {payload : CInt}
    (executed : Exec (surroundings table) (axidmaInit before) () (.returned (true,dev)) ())
    (accepted : ∀ setting ∈ settings, Listed dev setting.channel) :
    Delivers dev settings payload ↔ InRange dev settings payload := by
  obtain ⟨count,copied⟩ := init_copies executed
  have full : Full dev := by rw [Full,count,copied,List.length_map]
  exact delivers_of_full full (none_set copied) accepted

def single (channelId : CInt) : DriverTable where
  numChan := ⟨1,1,0,0,0⟩
  channels := [⟨.write,.dma,channelId,"tx_channel",0⟩]
  sized := rfl

def handle (channelId : CInt) : AxidmaDev := {built {zeroedDev with fd := 0} (single channelId) with initialized := true}

theorem single_opens (channelId : CInt) :
    Exec (surroundings (single channelId)) (axidmaInit zeroedDev) () (.returned (true,handle channelId)) () :=
  first_succeeds (by simp [single])

theorem delivers_single : Delivers (handle 0) [⟨0,some 7,0⟩] 0 ↔ InRange (handle 0) [⟨0,some 7,0⟩] 0 := by
  apply delivers_iff_inRange (single_opens 0)
  intro setting member
  rw [List.mem_singleton.mp member]
  exact ⟨_,rfl⟩

-- The one channel has the id 1, which find_channel accepts: the store goes behind
-- the table.
theorem id_behind_table : Exec (surroundings (single 1)) (axidmaInit zeroedDev) () (.returned (true,handle 1)) () ∧
    Listed (handle 1) 1 ∧ ¬ Delivers (handle 1) [⟨1,some 7,0⟩] 1 := by
  refine ⟨single_opens 1,⟨_,rfl⟩,?_⟩
  intro delivers
  obtain ⟨after,ran,_⟩ := delivers
  cases ran

end Axidma.CallbackDelivery
