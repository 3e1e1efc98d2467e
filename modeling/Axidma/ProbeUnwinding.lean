import Axidma.ChannelTable
import Axidma.Probe

namespace Axidma.ProbeUnwinding
open Interaction Ledger

abbrev Recorded := DeviceState × List (Event device)

-- What the probe asked for and did not get, short of the character device.
def Refuses : Event device → Prop
  | ⟨.kernel (.kmalloc _),ptr⟩ => ptr = none
  | ⟨.dmaSetCoherentMask,rc⟩ => rc < (0 : Int)
  | ⟨.dmaRequestSlaveChannel _,chan⟩ => chan = none
  | _ => False

def ChrdevRefuses : Event device → Prop
  | ⟨.allocChrdevRegion _ _ _,devNum⟩ => ∃ rc, devNum = .error rc
  | ⟨.classCreate _,devClass⟩ => ∃ rc, devClass = .error rc
  | ⟨.deviceCreate _ _ _,node⟩ => ∃ rc, node = .error rc
  | ⟨.cdevAdd _ _,rc⟩ => rc < (0 : Int)
  | _ => False

def Saw (bad : Event device → Prop) (events : List (Event device)) : Prop := ∃ event ∈ events, bad event

structure NoTrace (before after : DeviceState) : Prop where
  settled : Owes before.account [] after.account
  global : after.axidmaDev = before.axidmaDev

-- The probe failed at the channel count, at something it was refused, or at the
-- character device with the global already holding the new structure's address.
def FailedEarly (pdev : DriverNode) (before : DeviceState) (events : List (Event device)) : Prop :=
  axidmaOfNumChannels pdev < 0 ∨ Saw Refuses events ∨
    events.head? = some ⟨.kernel (.kmalloc SIZEOF_AXIDMA_DEVICE),before.axidmaDev⟩ ∧ Saw ChrdevRefuses events

def Passed (events : List (Event device)) : Prop := ∀ event ∈ events, ¬ Refuses event ∧ ¬ ChrdevRefuses event

-- A stretch of the probe that leaves the global pointer and the fields alone.
structure Extends (t after : Recorded) : Prop where
  global : after.1.axidmaDev = t.1.axidmaDev
  memory : after.1.memory = t.1.memory
  events : t.2 <+: after.2

section
variable {before : Account Resource} {t after last : Recorded} {things : List Resource} {past : List (Event device)}
  {event : Event device}

theorem Extends.refl (t : Recorded) : Extends t t := ⟨rfl,rfl,List.prefix_rfl⟩

theorem Extends.trans (first : Extends t after) (second : Extends after last) : Extends t last :=
  ⟨second.global.trans first.global,second.memory.trans first.memory,first.events.trans second.events⟩

theorem Extends.step {op : DeviceCall} {reply : op.Reply} (extended : Extends t after)
    (global : (after.1.perform op reply).axidmaDev = after.1.axidmaDev)
    (memory : (after.1.perform op reply).memory = after.1.memory) : Extends t (deviceMachine.recorded.perform after op reply) :=
  ⟨global.trans extended.global,memory.trans extended.memory,extended.events.trans (List.prefix_append _ _)⟩

theorem Passed.snoc (passed : Passed past) (here : ¬ Refuses event ∧ ¬ ChrdevRefuses event) : Passed (past++[event]) := by
  intro other member
  rcases List.mem_append.mp member with early | late
  · exact passed other early
  · rw [List.mem_singleton.mp late]
    exact here

theorem Passed.mask {rc : Int} (passed : Passed past) (masked : ¬ rc < 0) : Passed (past++[⟨.dmaSetCoherentMask,rc⟩]) :=
  passed.snoc ⟨masked,id⟩

theorem Passed.store {field : Field} {value : field.Value} (passed : Passed past) : Passed (past++[⟨.store field value,()⟩]) :=
  passed.snoc ⟨id,id⟩

theorem Passed.kmalloc {size : SizeT} {ptr : Nat} (passed : Passed past) :
    Passed (past++[⟨.kernel (.kmalloc size),some ptr⟩]) := passed.snoc ⟨Option.some_ne_none ptr,id⟩

theorem Passed.table {count : Nat} {table : { table : List AxidmaChan // table.length = count }} (passed : Passed past) :
    Passed (past++[⟨.uninitialisedTable count,table⟩]) := passed.snoc ⟨id,id⟩

def Granted (events : List (Event device)) : Prop := ∀ event ∈ events, ¬ Refuses event

theorem Passed.granted (passed : Passed past) : Granted past := fun event member => (passed event member).1

theorem Granted.snoc (granted : Granted past) (here : ¬ Refuses event) : Granted (past++[event]) := by
  intro other member
  rcases List.mem_append.mp member with early | late
  · exact granted other early
  · rw [List.mem_singleton.mp late]
    exact here

theorem saw_here {bad : Event device → Prop} (here : bad event) : Saw bad (past++[event]) := ⟨event,by simp,here⟩

theorem Saw.snoc {bad : Event device → Prop} (saw : Saw bad past) : Saw bad (past++[event]) := by
  obtain ⟨other,member,here⟩ := saw
  exact ⟨other,List.mem_append_left _ member,here⟩

theorem Saw.extend {bad : Event device → Prop} (saw : Saw bad t.2) (extended : Extends t after) : Saw bad after.2 := by
  obtain ⟨other,member,here⟩ := saw
  exact ⟨other,extended.events.subset member,here⟩

def channelsOf (table : List AxidmaChan) : List Resource := table.map fun chan => .channel chan.chan

-- What giving things back leaves, and that nothing is asked for meanwhile.
structure Released (before : Account Resource) (things : List Resource) (t : Recorded) (outcome : Outcome Fault Unit)
    (after : Recorded) : Prop where
  returned : outcome = .returned ()
  extended : Extends t after
  owes : Owes before things after.1.account
  granted : Granted t.2 → Granted after.2

theorem release_ends {reserved : List AxidmaChan} (owes : Owes before (channelsOf reserved++things) t.1.account) :
    Ensures deviceMachine.recorded (Released before things t) (dmaReleaseChannels reserved) t := by
  induction reserved generalizing t with
  | nil => exact ⟨rfl,.refl t,owes,id⟩
  | cons chan rest ih =>
    intro reply _
    have stepped : Extends t (deviceMachine.recorded.perform t (.dmaReleaseChannel chan.chan) reply) :=
      (Extends.refl t).step rfl rfl
    have released : Owes before (channelsOf rest++things) (t.1.account.giveBack (.channel chan.chan)) := owes.giveBack
    refine (ih released).mono ?_
    intro outcome after ends
    exact ⟨ends.returned,stepped.trans ends.extended,ends.owes,fun granted => ends.granted (granted.snoc id)⟩

inductive RequestEnds (before : Account Resource) (things : List Resource) (size : Nat) (t : Recorded) :
    Outcome Fault (Int × List AxidmaChan) → Recorded → Prop where
  | reserved {requested : List AxidmaChan} {after : Recorded} (whole : requested.length = size) (extended : Extends t after)
      (owes : Owes before (channelsOf requested++things) after.1.account) (passed : Passed after.2) :
      RequestEnds before things size t (.returned (0,requested)) after
  | refused {requested : List AxidmaChan} {after : Recorded} (extended : Extends t after)
      (owes : Owes before things after.1.account) (refused : Saw Refuses after.2) :
      RequestEnds before things size t (.returned (-ENODEV,requested)) after

-- Induction on the entries still to come: the channels reserved so far are the
-- ones that are owed, and exactly these are released when one is refused.
theorem request_ends {reserved todo : List AxidmaChan} {size : Nat} (whole : reserved.length+todo.length = size)
    (owes : Owes before (channelsOf reserved++things) t.1.account) (passed : Passed t.2) :
    Ensures deviceMachine.recorded (RequestEnds before things size t) (requestChannelsFrom reserved todo) t := by
  induction todo generalizing reserved t with
  | nil => exact .reserved whole (.refl t) owes passed
  | cons chan rest ih =>
    intro reply _
    have stepped : Extends t (deviceMachine.recorded.perform t (.dmaRequestSlaveChannel chan.name) reply) :=
      (Extends.refl t).step rfl rfl
    cases reply with
    | none =>
      show Ensures _ _ (dmaReleaseChannels reserved >>= fun _ => .ret (-ENODEV,reserved++chan :: rest)) _
      have owed : Owes before (channelsOf reserved++things)
          (deviceMachine.recorded.perform t (.dmaRequestSlaveChannel chan.name) none).1.account := owes
      apply ensures_bind
      refine (release_ends owed).mono ?_
      intro outcome after ends
      obtain ⟨rfl,extended,settled,_⟩ := ends
      have here : Saw Refuses (t.2++[⟨.dmaRequestSlaveChannel chan.name,none⟩]) := saw_here rfl
      exact .refused (stepped.trans extended) settled (here.extend extended)
    | some handle =>
      have taken : Owes before (channelsOf (reserved++[{chan with chan := handle}])++things) (t.1.account.take (.channel handle)) := by
        apply owes.take.perm
        simp only [channelsOf,List.map_append,List.map_cons,List.map_nil,List.append_assoc]
        exact List.perm_middle.symm
      have longer : (reserved++[{chan with chan := handle}]).length+rest.length = size := by
        simp at whole ⊢
        omega
      refine (ih longer taken (passed.snoc (by simp [Refuses,ChrdevRefuses]))).mono ?_
      intro outcome after ends
      cases ends with
      | reserved whole extended owes passed => exact .reserved whole (stepped.trans extended) owes passed
      | refused extended owes refused => exact .refused (stepped.trans extended) owes refused

-- What axidma_dma_exit will find in the fields.
structure Stored (requested : List AxidmaChan) (channels cbData : Nat) (memory : (field : Field) → Option field.Value) : Prop where
  numChans : memory .numChans = some (requested.length : Int)
  channels : memory .channels = some (channels,requested)
  cbData : memory .cbData = some cbData

inductive InitEnds (pdev : DriverNode) (before : Account Resource) (things : List Resource) (t : Recorded) :
    Outcome Fault Int → Recorded → Prop where
  | ready {requested : List AxidmaChan} {channels cbData : Nat} {after : Recorded} (global : after.1.axidmaDev = t.1.axidmaDev)
      (events : t.2 <+: after.2) (stored : Stored requested channels cbData after.1.memory)
      (owes : Owes before (channelsOf requested++.block channels :: .block cbData :: things) after.1.account)
      (passed : Passed after.2) (counted : ¬ axidmaOfNumChannels pdev < 0) : InitEnds pdev before things t (.returned 0) after
  | unwound {rc : Int} {after : Recorded} (failed : rc < 0) (global : after.1.axidmaDev = t.1.axidmaDev)
      (owes : Owes before things after.1.account) (early : axidmaOfNumChannels pdev < 0 ∨ Saw Refuses after.2) :
      InitEnds pdev before things t (.returned rc) after
  | leaked {rc : Int} {channels cbData : Nat} {after : Recorded} (failed : rc < 0)
      (owes : Owes before (.block cbData :: .block channels :: things) after.1.account)
      (passed : Passed after.2) (counted : ¬ axidmaOfNumChannels pdev < 0) : InitEnds pdev before things t (.returned rc) after
  | faulted {fault : Fault} {after : Recorded} : InitEnds pdev before things t (.faulted fault) after

-- The end of axidma_dma_init, from the parsed table on.
theorem reserve_ends {pdev : DriverNode} {middle : Recorded} {channels cbData : Nat} {table : List AxidmaChan}
    (global : middle.1.axidmaDev = t.1.axidmaDev) (events : t.2 <+: middle.2)
    (numChans : middle.1.memory .numChans = some (table.length : Int)) (stored : middle.1.memory .cbData = some cbData)
    (owes : Owes before (.block cbData :: .block channels :: things) middle.1.account) (passed : Passed middle.2)
    (counted : ¬ axidmaOfNumChannels pdev < 0) :
    Ensures deviceMachine.recorded (InitEnds pdev before things t) (do
      let (rc,requested) ← axidmaRequestChannels table
      dcall (.store .channels (channels,requested))
      if rc < 0 then
        kfree cbData
        kfree channels
        return rc
      return 0) middle := by
  have start : ([] : List AxidmaChan).length+table.length = table.length := by simp
  refine ensures_bind ?_
  refine (request_ends start owes passed).mono ?_
  intro outcome after ends
  cases ends with
  | @reserved requested _ whole extended owes passed =>
    intro _ _
    have owed : Owes before (channelsOf requested++.block channels :: .block cbData :: things) after.1.account :=
      owes.perm ((List.Perm.swap ..).append_left _)
    have fields : Stored requested channels cbData
        (Function.update after.1.memory .channels (some (channels,requested))) := by
      constructor
      case numChans => rw [Function.update_of_ne (by decide),extended.memory,numChans,whole]
      case channels => exact Function.update_self ..
      case cbData => rw [Function.update_of_ne (by decide),extended.memory,stored]
    have longer : t.2 <+: after.2++[⟨.store .channels (channels,requested),()⟩] :=
      (events.trans extended.events).trans (List.prefix_append _ _)
    exact .ready (extended.global.trans global) longer fields owed passed.store counted
  | refused extended owes refused =>
    intro _ _ _ _ _ _
    exact .unwound (by decide) (extended.global.trans global) owes.giveBack.giveBack (.inr refused.snoc.snoc.snoc)

theorem parsed_whole {pdev : DriverNode} {table : List AxidmaChan} {rc : Int} {dev : AxidmaDevice}
    (parsed : parseTable pdev table = .ok (rc,dev)) (accepted : ¬ rc < 0) : dev.channels.length = table.length := by
  have ends := @ChannelTable.parse_ends pdev {blankDevice with channels := table}
  unfold parseTable at parsed
  rw [parsed] at ends
  cases ends with
  | rejected _ _ _ negative => exact absurd negative accepted
  | passed _ _ size => exact size

theorem init_ends {pdev : DriverNode} (owes : Owes before things t.1.account) (passed : Passed t.2) :
    Ensures deviceMachine.recorded (InitEnds pdev before things t) (axidmaDmaInit pdev) t := by
  unfold axidmaDmaInit
  intro rc _
  refine ensures_if (fun failed => ?_) fun masked => ?_
  · exact .unwound failed rfl owes (.inr (saw_here failed))
  intro _ _
  refine ensures_if (fun failed => ?_) fun counted => ?_
  · exact .unwound failed rfl owes (.inl failed)
  intro channels _
  cases channels with
  | none => exact .unwound (by decide) rfl owes (.inr (saw_here rfl))
  | some channels =>
    intro table _ _ _ cbData _
    cases cbData with
    | none =>
      intro _ _
      have refuses : Refuses ⟨.kernel (.kmalloc (BitVec.ofInt 64 (axidmaOfNumChannels pdev)*SIZEOF_AXIDMA_CB_DATA)),none⟩ := rfl
      exact .unwound (by decide) rfl owes.take.giveBack (.inr (saw_here refuses).snoc)
    | some cbData =>
      intro _ _
      cases parsed : parseTable pdev table.1 with
      | error fault => exact .faulted
      | ok result =>
        rcases result with ⟨rc,dev⟩
        intro _ _ _ _ _ _ _ _ _ _
        refine ensures_if (fun failed => ?_) fun accepted => ?_
        · refine .leaked failed owes.take.take ?_ counted
          exact ((((((((((passed.mask masked).store.kmalloc).table).store).kmalloc).store).store).store).store).store).store
        · refine reserve_ends rfl ?_ ?_ ?_ owes.take.take ?_ counted
          · simp [Machine.recorded]
          · have whole := parsed_whole parsed accepted
            rw [whole,table.2,Int.toNat_of_nonneg (Int.not_lt.mp counted)]
            rfl
          · rfl
          · exact ((((((((((passed.mask masked).store.kmalloc).table).store).kmalloc).store).store).store).store).store).store

theorem terminate_ends {table : List AxidmaChan} (owes : Owes before (channelsOf table++things) t.1.account) :
    Ensures deviceMachine.recorded (Released before things t) (terminateChannels table) t := by
  induction table generalizing t with
  | nil => exact ⟨rfl,.refl t,owes,id⟩
  | cons chan rest ih =>
    intro rc _ reply _
    let terminated := deviceMachine.recorded.perform t (.kernel (.dmaengineTerminateAll chan.chan)) rc
    let released := deviceMachine.recorded.perform terminated (.dmaReleaseChannel chan.chan) reply
    have stepped : Extends t released := ((Extends.refl t).step rfl rfl).step rfl rfl
    have owed : Owes before (channelsOf rest++things) released.1.account := owes.giveBack
    refine (ih owed).mono ?_
    intro outcome after ends
    exact ⟨ends.returned,stepped.trans ends.extended,ends.owes,fun granted => ends.granted ((granted.snoc id).snoc id)⟩

theorem exit_ends {requested : List AxidmaChan} {channels cbData : Nat} (stored : Stored requested channels cbData t.1.memory)
    (owes : Owes before (channelsOf requested++.block channels :: .block cbData :: things) t.1.account) :
    Ensures deviceMachine.recorded (Released before things t) axidmaDmaExit t := by
  unfold axidmaDmaExit
  intro numChans counted table found
  obtain rfl : numChans = (requested.length : Int) := counted _ stored.numChans
  obtain rfl : table = (channels,requested) := found _ stored.channels
  let sized := deviceMachine.recorded.perform t (.load .numChans) (requested.length : Int)
  let loaded := deviceMachine.recorded.perform sized (.load .channels) (channels,requested)
  have started : Extends t loaded := ((Extends.refl t).step rfl rfl).step rfl rfl
  have owed : Owes before (channelsOf requested++.block channels :: .block cbData :: things) loaded.1.account := owes
  have all : requested.take (requested.length : Int).toNat = requested := by simp
  show Ensures _ _ (terminateChannels (requested.take (requested.length : Int).toNat) >>= fun _ => do
    kfree channels
    let cbData : Nat ← dcall (.load .cbData)
    kfree cbData) loaded
  rw [all]
  apply ensures_bind
  refine (terminate_ends owed).mono ?_
  intro outcome after ends
  obtain ⟨rfl,extended,settled,allowed⟩ := ends
  have reached := started.trans extended
  intro _ _ cells given _ _
  obtain rfl : cells = cbData := given _ (reached.memory ▸ stored.cbData)
  refine ⟨rfl,((reached.step rfl rfl).step rfl rfl).step rfl rfl,settled.giveBack.giveBack,fun granted => ?_⟩
  exact (((allowed ((granted.snoc id).snoc id)).snoc id).snoc id).snoc id

inductive ChrdevEnds (before : Account Resource) (things : List Resource) (dev : Nat) (t : Recorded) :
    Outcome Fault Int → Recorded → Prop where
  | added {after : Recorded} : ChrdevEnds before things dev t (.returned 0) after
  | refused {rc : Int} {after : Recorded} (failed : rc < 0) (global : after.1.axidmaDev = some dev)
      (memory : after.1.memory = t.1.memory) (events : t.2 <+: after.2) (owes : Owes before things after.1.account)
      (granted : Granted after.2) (refused : Saw ChrdevRefuses after.2) :
      ChrdevEnds before things dev t (.returned rc) after

theorem chrdev_ends {params : ModuleParams} {dev : Nat} (owes : Owes before things t.1.account) (passed : Passed t.2) :
    Ensures deviceMachine.recorded (ChrdevEnds before things dev t) (axidmaChrdevInit params dev) t := by
  have started : Granted (t.2++[⟨.storeAxidmaDev dev,()⟩]) := passed.granted.snoc id
  unfold axidmaChrdevInit
  intro _ _ devNum _
  cases devNum with
  | error rc =>
    refine .refused rc.rc_neg rfl rfl ?_ owes ((started.snoc id)) (saw_here ⟨rc,rfl⟩)
    simp [Machine.recorded]
  | ok devNum =>
    have region : Granted (t.2++[⟨.storeAxidmaDev dev,()⟩]++
      [⟨.allocChrdevRegion params.minorNum NUM_DEVICES params.chrdevName,.ok devNum⟩]) := started.snoc id
    intro devClass _
    cases devClass with
    | error rc =>
      intro _ _
      refine .refused rc.rc_neg rfl rfl ?_ owes.take.giveBack ((region.snoc id).snoc id) (saw_here ⟨rc,rfl⟩).snoc
      simp [Machine.recorded]
    | ok devClass =>
      have named : Granted (_++[⟨.classCreate params.chrdevName,.ok devClass⟩]) := region.snoc id
      intro node _
      cases node with
      | error rc =>
        intro _ _ _ _
        refine .refused rc.rc_neg rfl rfl ?_ owes.take.take.giveBack.giveBack (((named.snoc id).snoc id).snoc id)
          (saw_here ⟨rc,rfl⟩).snoc.snoc
        simp [Machine.recorded]
      | ok node =>
        have listed : Granted (_++[⟨.deviceCreate devClass devNum params.chrdevName,.ok node⟩]) := named.snoc id
        intro rc _
        refine ensures_if (fun failed => ?_) fun _ => ?_
        · intro _ _ _ _ _ _
          have turned : ChrdevRefuses ⟨.cdevAdd devNum NUM_DEVICES,rc⟩ := failed
          refine .refused failed rfl rfl ?_ owes.take.take.take.giveBack.giveBack.giveBack
            ((((listed.snoc id).snoc id).snoc id).snoc id) (saw_here turned).snoc.snoc.snoc
          simp [Machine.recorded]
        · intro _ _ _ _
          exact .added

def allocated (dev : Nat) : Event device := ⟨.kernel (.kmalloc SIZEOF_AXIDMA_DEVICE),some dev⟩

inductive ProbeEnds (pdev : DriverNode) (s : DeviceState) : Outcome Fault Int → Recorded → Prop where
  | loaded {after : Recorded} : ProbeEnds pdev s (.returned 0) after
  | unwound {rc : Int} {after : Recorded} (clean : NoTrace s after.1)
      (early : axidmaOfNumChannels pdev < 0 ∨ Saw Refuses after.2) : ProbeEnds pdev s (.returned rc) after
  -- The parser refused the tree: both tables stay allocated.
  | leaked {rc : Int} {channels cbData : Nat} {after : Recorded} (owes : Owes s.account [.block cbData,.block channels] after.1.account)
      (passed : Passed after.2) (counted : ¬ axidmaOfNumChannels pdev < 0) : ProbeEnds pdev s (.returned rc) after
  -- The character device was refused: the global points to a freed structure.
  | dangling {rc : Int} {dev : Nat} {after : Recorded} (settled : Owes s.account [] after.1.account)
      (global : after.1.axidmaDev = some dev) (first : after.2.head? = some (allocated dev))
      (granted : Granted after.2) (refused : Saw ChrdevRefuses after.2) (counted : ¬ axidmaOfNumChannels pdev < 0) :
      ProbeEnds pdev s (.returned rc) after
  | faulted {fault : Fault} {after : Recorded} : ProbeEnds pdev s (.faulted fault) after

theorem head_of_prefix {first : Event device} {events : List (Event device)} (longer : [first] <+: events) :
    events.head? = some first := by
  obtain ⟨rest,rfl⟩ := longer
  rfl

theorem probe_ends {s : DeviceState} {params : ModuleParams} {pdev : DriverNode} :
    Ensures deviceMachine.recorded (ProbeEnds pdev s) (axidmaProbe params pdev) (s,[]) := by
  unfold axidmaProbe
  intro dev _
  cases dev with
  | none => exact .unwound ⟨.start,rfl⟩ (.inr (saw_here rfl))
  | some dev =>
    let opened : Recorded := deviceMachine.recorded.perform (s,[]) (.kernel (.kmalloc SIZEOF_AXIDMA_DEVICE)) (some dev)
    have passed : Passed opened.2 := by
      intro event member
      rw [List.mem_singleton.mp member]
      exact ⟨Option.some_ne_none dev,id⟩
    have owes : Owes s.account [.block dev] opened.1.account := Owes.start.take
    refine ensures_bind (p := axidmaDmaInit pdev) ?_
    refine (init_ends owes passed).mono ?_
    intro outcome after ends
    cases ends with
    | faulted => exact .faulted
    | @leaked rc channels cbData after failed owes passed counted =>
      refine ensures_if (fun _ => ?_) fun passes => absurd failed passes
      intro _ _
      have owed : Owes s.account ([.block cbData,.block channels]++[.block dev]) after.1.account := owes
      exact .leaked owed.giveBack_last (passed.snoc ⟨id,id⟩) counted
    | unwound failed global owes early =>
      refine ensures_if (fun _ => ?_) fun passes => absurd failed passes
      intro _ _
      exact .unwound ⟨owes.giveBack,global⟩ (early.imp_right Saw.snoc)
    | ready global events stored owes passed counted =>
      refine ensures_if (fun failed => absurd failed (by decide)) fun _ => ?_
      refine ensures_bind (p := axidmaChrdevInit params dev) ?_
      refine (chrdev_ends owes passed).mono ?_
      intro outcome later ends
      cases ends with
      | added =>
        refine ensures_if (fun failed => absurd failed (by decide)) fun _ => ?_
        intro _ _
        exact .loaded
      | refused failed named memory longer owes granted refused =>
        refine ensures_if (fun _ => ?_) fun passes => absurd failed passes
        refine ensures_bind (p := axidmaDmaExit) ?_
        refine (exit_ends (memory ▸ stored) owes).mono ?_
        intro outcome last ends
        obtain ⟨rfl,extended,settled,allowed⟩ := ends
        intro _ _
        have first : [allocated dev] <+: last.2 := (events.trans longer).trans extended.events
        refine .dangling settled.giveBack (extended.global.trans named) ?_ ((allowed granted).snoc id)
          (refused.extend extended).snoc counted
        exact head_of_prefix (first.trans (List.prefix_append _ _))

theorem no_trace_iff {params : ModuleParams} {pdev : DriverNode} {s : DeviceState} {rc : Int} {final : Recorded}
    (path : Exec deviceMachine.recorded (axidmaProbe params pdev) (s,[]) (.returned rc) final) (failed : rc < 0) :
    NoTrace s final.1 ↔ FailedEarly pdev s final.2 := by
  cases ensures_iff.mp probe_ends _ _ path with
  | loaded => exact absurd failed (by decide)
  | unwound clean early => exact ⟨fun _ => early.imp_right .inl,fun _ => clean⟩
  | leaked owes passed counted =>
    constructor
    · intro clean
      have same := owes.length clean.settled
      exact absurd same (by simp)
    · intro early
      rcases early with negative | ⟨event,member,bad⟩ | ⟨_,event,member,bad⟩
      · exact absurd negative counted
      · exact absurd bad (passed event member).1
      · exact absurd bad (passed event member).2
  | dangling settled global first granted refused counted =>
    constructor
    · intro clean
      refine .inr (.inr ⟨?_,refused⟩)
      rw [first,← clean.global,global]
      rfl
    · intro early
      rcases early with negative | ⟨event,member,bad⟩ | ⟨same,_⟩
      · exact absurd negative counted
      · exact absurd bad (granted event member)
      · refine ⟨settled,?_⟩
        rw [first] at same
        rw [global]
        exact eq_of_heq (Sigma.mk.inj (Option.some.inj same)).2

end

def unloaded : DeviceState := ⟨⟨[],[]⟩,none,fun _ => none,false,[],[]⟩

def runs (refused : DeviceCall → Bool) (pdev : DriverNode) : OnDevice Int × Recorded :=
  (granting refused).recorded.advance 40 (axidmaProbe CHRDEV_DEFAULTS pdev) (unloaded,[])

def twoChannels : DriverNode where
  dmaNames := .holds ["tx_channel","rx_channel"]
  dmas := .holds [
    .ok ⟨[⟨.holds 0,some (· = "xlnx,axi-dma-mm2s-channel")⟩],[0]⟩,
    .ok ⟨[⟨.holds 1,some (· = "xlnx,axi-dma-s2mm-channel")⟩],[0]⟩]

def noReceive (op : DeviceCall) : Bool := op matches .dmaRequestSlaveChannel "rx_channel"

-- The second channel is not to be had, and the first one is given back.
theorem second_channel_refused : NoTrace unloaded (runs noReceive twoChannels).2.1 := by
  have ended : (runs noReceive twoChannels).1 = .ret (-ENOSYS) := rfl
  have asked : (runs noReceive twoChannels).2.2[14]? = some ⟨.dmaRequestSlaveChannel "rx_channel",none⟩ := rfl
  refine (no_trace_iff ((granting noReceive).recorded.exec ended) (by decide)).mpr (.inr (.inl ?_))
  exact ⟨_,List.mem_of_getElem? asked,rfl⟩

-- One channel whose DMA node has no children.
def childless : DriverNode := ⟨.holds ["tx_channel"],.holds [.ok ⟨[],[0]⟩]⟩

theorem childless_leaves_tables : ¬ ∀ params pdev s rc final,
    Exec deviceMachine.recorded (axidmaProbe params pdev) (s,[]) (.returned rc) final → rc < 0 → NoTrace s final.1 := by
  intro clean
  have ended : (runs (fun _ => false) childless).1 = .ret (-ENOSYS) := rfl
  have trace : NoTrace unloaded (runs (fun _ => false) childless).2.1 :=
    clean _ _ _ _ _ ((granting fun _ => false).recorded.exec ended) (by decide)
  have left : (runs (fun _ => false) childless).2.1.account.held = [.block 3,.block 2] := rfl
  have same := trace.settled.held
  rw [left] at same
  exact absurd same.length_eq (by decide)

end Axidma.ProbeUnwinding
