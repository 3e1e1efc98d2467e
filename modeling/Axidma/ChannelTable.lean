import Mathlib.Data.List.Nodup
import Axidma.DeviceTree

namespace Axidma.ChannelTable

abbrev Kind := AxidmaType × AxidmaDir

def kinds : List (String × Kind) :=
  [("xlnx,axi-dma-mm2s-channel",.dma,.write),("xlnx,axi-dma-s2mm-channel",.dma,.read),
   ("xlnx,axi-vdma-mm2s-channel",.vdma,.write),("xlnx,axi-vdma-s2mm-channel",.vdma,.read)]

def kindOf (matched : String → Bool) : Option Kind := (kinds.find? fun kind => matched kind.1).map (·.2)

def counter (dev : AxidmaDevice) : Kind → Nat
  | (.dma,.write) => dev.numDmaTxChans
  | (.dma,.read) => dev.numDmaRxChans
  | (.vdma,.write) => dev.numVdmaTxChans
  | (.vdma,.read) => dev.numVdmaRxChans

-- The node that entry i of 'dmas' points to with its first cell.
def Selects (tree : DriverNode) (i : Nat) (node : DeviceNode) : Prop :=
  ∃ phandle channel rest, ofParsePhandleWithArgs tree i = .ok phandle ∧ phandle.args = channel :: rest ∧
    ((channel = 0 ∧ phandle.np[0]? = some node) ∨ (channel = 1 ∧ phandle.np[1]? = some node))

def SetFrom (tree : DriverNode) (i : Nat) (chan : AxidmaChan) : Prop :=
  ∃ node, Selects tree i node ∧ node.deviceId = .holds chan.channelId ∧
    (∃ matched, node.compatible = some matched ∧ kindOf matched = some (chan.type,chan.dir)) ∧
    ofPropertyReadStringIndex tree i = .ok chan.name

def kindIs (kind : Kind) (chan : AxidmaChan) : Bool := decide ((chan.type,chan.dir) = kind)

structure Consistent (tree : DriverNode) (numChans : Nat) (dev : AxidmaDevice) : Prop where
  size : dev.numChans = numChans
  set : ∀ i chan, dev.channels[i]? = some chan → SetFrom tree i chan
  unique : dev.channels.Pairwise fun chan1 chan2 => chan1.channelId ≠ chan2.channelId
  counters : ∀ kind, counter dev kind = dev.channels.countP (kindIs kind)
  total : dev.numDmaTxChans+dev.numDmaRxChans+dev.numVdmaTxChans+dev.numVdmaRxChans = numChans

def ParsesWell (tree : DriverNode) (dev : AxidmaDevice) : Prop :=
  ∃ rc after, axidmaOfParseDmaNodes tree dev = .ok (rc,after) ∧
    (rc < 0 ∨ (rc = 0 ∧ Consistent tree dev.numChans after))

-- What the tree says about entry i, in the order of the checks.
inductive Entry where
  | rejected
  | noSecondChild
  | parsed (node : DeviceNode) (channelId : CInt) (name : String)

def named (tree : DriverNode) (i : Nat) (node : DeviceNode) (channelId : CInt) : Entry :=
  match ofPropertyReadStringIndex tree i with
  | .error _ => .rejected
  | .ok name => .parsed node channelId name

def child (tree : DriverNode) (i : Nat) (node : DeviceNode) : Entry :=
  match node.deviceId,node.compatible with
  | .holds channelId,none => named tree i node channelId
  | .holds channelId,some matched => if kindOf matched = none then .rejected else named tree i node channelId
  | _,_ => .rejected

def entry (tree : DriverNode) (i : Nat) : Entry :=
  match ofParsePhandleWithArgs tree i with
  | .error _ => .rejected
  | .ok phandle =>
  match phandle.args,phandle.np with
  | 0 :: _,[node] => child tree i node
  | 0 :: _,[node,_] => child tree i node
  | 1 :: _,[_] => .noSecondChild
  | 1 :: _,[_,node] => child tree i node
  | _,_ => .rejected

-- The kind of a parsed node; a node without the property has none.
def kind? (node : DeviceNode) : Option Kind := node.compatible.bind kindOf

def bump (dev : AxidmaDevice) : Option Kind → AxidmaDevice
  | none => dev
  | some (.dma,.write) => {dev with numDmaTxChans := dev.numDmaTxChans+1}
  | some (.dma,.read) => {dev with numDmaRxChans := dev.numDmaRxChans+1}
  | some (.vdma,.write) => {dev with numVdmaTxChans := dev.numVdmaTxChans+1}
  | some (.vdma,.read) => {dev with numVdmaRxChans := dev.numVdmaRxChans+1}

-- An entry without a kind keeps the type and direction it had.
def setKind (chan : AxidmaChan) : Option Kind → AxidmaChan
  | none => chan
  | some (type,dir) => {chan with type := type, dir := dir}

def filledIn (chan : AxidmaChan) (node : DeviceNode) (channelId : CInt) (name : String) : AxidmaChan :=
  {setKind {chan with channelId := channelId} (kind? node) with name := name}

section
variable {tree : DriverNode} {i : Nat} {node : DeviceNode} {chan : AxidmaChan} {dev : AxidmaDevice}

@[simp] theorem bump_channels (kind : Option Kind) : (bump dev kind).channels = dev.channels := by
  rcases kind with _ | ⟨_ | _,_ | _⟩ <;> rfl

@[simp] theorem filledIn_channelId {channelId : CInt} {name : String} :
    (filledIn chan node channelId name).channelId = channelId := by
  unfold filledIn
  cases kind? node <;> rfl

theorem filledIn_kind {channelId : CInt} {name : String} {kind : Kind} (same : kind? node = some kind) :
    ((filledIn chan node channelId name).type,(filledIn chan node channelId name).dir) = kind := by
  rw [filledIn,same]
  rfl

@[simp] theorem counter_setChannel (kind : Kind) : counter (dev.setChannel i chan) kind = counter dev kind := by
  rcases kind with ⟨_ | _,_ | _⟩ <;> rfl

theorem bump_counter (found kind : Kind) :
    counter (bump dev (some found)) kind = counter dev kind+if found = kind then 1 else 0 := by
  rcases found with ⟨_ | _,_ | _⟩ <;> rcases kind with ⟨_ | _,_ | _⟩ <;> rfl

theorem compatible_eq {matched : String → Bool} (present : node.compatible = some matched) :
    axidmaParseCompatibleProperty node chan dev =
      match kindOf matched with
      | none => (-EINVAL,chan,dev)
      | some kind => (0,setKind chan (some kind),bump dev (some kind)) := by
  simp only [axidmaParseCompatibleProperty,ofDeviceIsCompatible,present,kindOf,kinds,List.find?]
  cases matched "xlnx,axi-dma-mm2s-channel" with
  | true => rfl
  | false =>
    cases matched "xlnx,axi-dma-s2mm-channel" with
    | true => rfl
    | false =>
      cases matched "xlnx,axi-vdma-mm2s-channel" with
      | true => rfl
      | false => cases matched "xlnx,axi-vdma-s2mm-channel" <;> rfl

theorem compatible_missing (absent : node.compatible = none) :
    axidmaParseCompatibleProperty node chan dev = (0,chan,dev) := by
  simp [axidmaParseCompatibleProperty,ofDeviceIsCompatible,absent]

-- What one pass of the loop does, by what the tree says about its entry.
def Follows (chan : AxidmaChan) (dev : AxidmaDevice) (result : Except Fault (Int × AxidmaChan × AxidmaDevice)) :
    Entry → Prop
  | .rejected => ∃ rc chan' dev', result = .ok (rc,chan',dev') ∧ rc < 0
  | .noSecondChild => result = .error .nullPointer
  | .parsed node channelId name =>
    result = .ok (0,filledIn chan node channelId name,bump dev (kind? node))

theorem rejects {rc : Int} (negative : rc < 0) : Follows chan dev (.ok (rc,chan,dev)) .rejected :=
  ⟨rc,chan,dev,rfl,negative⟩

theorem rejects_invalid : Follows chan dev (.ok (-EINVAL,chan,dev)) .rejected := rejects (by decide)

theorem child_follows :
    Follows chan dev (do
      let (rc,chan,dev) ← (match node.deviceId with
        | .missing => .ok (-EINVAL,chan,dev)
        | .malformed => .ok (-EINVAL,chan,dev)
        | .holds channelId => .ok (axidmaParseCompatibleProperty node {chan with channelId := channelId} dev) :
          Except Fault (Int × AxidmaChan × AxidmaDevice))
      if rc < 0 then
        return (rc,chan,dev)
      let (rc,chan) := axidmaOfParseDmaName tree i chan
      return (rc,chan,dev)) (child tree i node) := by
  unfold child
  cases node.deviceId with
  | missing => exact rejects_invalid
  | malformed => exact rejects_invalid
  | holds channelId =>
    cases present : node.compatible with
    | none =>
      simp only [named,axidmaOfParseDmaName]
      cases read : ofPropertyReadStringIndex tree i with
      | error rc =>
        refine ⟨-EINVAL,{chan with channelId := channelId},dev,?_,by decide⟩
        simp [bind,Except.bind,pure,Except.pure,compatible_missing present]
      | ok name =>
        simp [Follows,bind,Except.bind,pure,Except.pure,compatible_missing present,filledIn,kind?,present,setKind,bump]
    | some matched =>
      cases known : kindOf matched with
      | none =>
        simp only [known,if_true]
        refine ⟨-EINVAL,{chan with channelId := channelId},dev,?_,by decide⟩
        simp [bind,Except.bind,pure,Except.pure,compatible_eq present,known,EINVAL]
      | some kind =>
        simp only [known,reduceCtorEq,if_false,named,axidmaOfParseDmaName]
        cases read : ofPropertyReadStringIndex tree i with
        | error rc =>
          refine ⟨-EINVAL,setKind {chan with channelId := channelId} (some kind),bump dev (some kind),?_,by decide⟩
          simp [bind,Except.bind,pure,Except.pure,compatible_eq present,known]
        | ok name =>
          simp [Follows,bind,Except.bind,pure,Except.pure,compatible_eq present,filledIn,kind?,present,known]

theorem node_follows : Follows chan dev (axidmaOfParseDmaNode tree i chan dev) (entry tree i) := by
  unfold axidmaOfParseDmaNode entry
  cases ofParsePhandleWithArgs tree i with
  | error rc => exact rejects rc.rc_neg
  | ok phandle =>
    rcases phandle with ⟨np,args⟩
    cases args with
    | nil => exact rejects_invalid
    | cons channel rest =>
      by_cases first : channel = 0
      · subst first
        match np with
        | [] => exact rejects_invalid
        | [node] => exact child_follows
        | [node,_] => exact child_follows
        | _ :: _ :: _ :: _ => exact rejects_invalid
      · by_cases second : channel = 1
        · subst second
          match np with
          | [] => exact rejects_invalid
          | [_] => rfl
          | [_,node] => exact child_follows
          | _ :: _ :: _ :: _ => exact rejects_invalid
        · have other : (match channel :: rest,np with
              | 0 :: _,[node] => child tree i node
              | 0 :: _,[node,_] => child tree i node
              | 1 :: _,[_] => .noSecondChild
              | 1 :: _,[_,node] => child tree i node
              | _,_ => .rejected) = Entry.rejected := by
            split <;> simp_all
          simp only [other]
          rw [if_pos ⟨first,second⟩]
          exact rejects_invalid

def entryKind (tree : DriverNode) (i : Nat) : Option Kind :=
  match entry tree i with
  | .parsed node _ _ => kind? node
  | _ => none

def entryId (tree : DriverNode) (i : Nat) : Option CInt :=
  match entry tree i with
  | .parsed _ channelId _ => some channelId
  | _ => none

def Reaches (tree : DriverNode) (i : Nat) : Prop := ∀ j < i, ∃ node channelId name, entry tree j = .parsed node channelId name

-- The loop invariant: what the passes over the first i entries have left.
structure Filled (tree : DriverNode) (i : Nat) (dev : AxidmaDevice) : Prop where
  set : ∀ j < i, ∀ chan, dev.channels[j]? = some chan → ∃ node, entry tree j = .parsed node chan.channelId chan.name ∧
    ∀ kind, kind? node = some kind → (chan.type,chan.dir) = kind
  counters : ∀ kind, counter dev kind = (List.range i).countP fun j => decide (entryKind tree j = some kind)

theorem filled_step {found : AxidmaChan} {channelId : CInt} {name : String} (filled : Filled tree i dev)
    (present : dev.channels[i]? = some found) (parsed : entry tree i = .parsed node channelId name) :
    Filled tree (i+1) ((bump dev (kind? node)).setChannel i (filledIn found node channelId name)) := by
  have bound : i < dev.channels.length := (List.getElem?_eq_some_iff.mp present).1
  refine ⟨fun j small chan at_j => ?_,fun kind => ?_⟩
  · rw [AxidmaDevice.setChannel,bump_channels] at at_j
    by_cases here : j = i
    · subst here
      rw [List.getElem?_set_self bound] at at_j
      cases at_j
      exact ⟨node,by rw [parsed,filledIn_channelId]; rfl,fun kind same => filledIn_kind same⟩
    · rw [List.getElem?_set_ne (Ne.symm here)] at at_j
      exact filled.set j (by omega) chan at_j
  · have passed : entryKind tree i = kind? node := by simp [entryKind,parsed]
    rw [counter_setChannel,List.range_succ,List.countP_append,← filled.counters kind,List.countP_singleton,passed]
    cases kind? node with
    | none => simp [bump]
    | some found => simpa using bump_counter found kind

theorem unfold_pass {remaining : Nat} {found : AxidmaChan} (present : dev.channels[i]? = some found) :
    parseDmaNodesFrom tree (remaining+1) i dev = (axidmaOfParseDmaNode tree i found dev).bind fun result =>
      if result.1 < 0 then .ok (result.1,result.2.2.setChannel i result.2.1)
      else parseDmaNodesFrom tree remaining (i+1) (result.2.2.setChannel i result.2.1) := by
  rw [parseDmaNodesFrom]
  simp only [present]
  rfl

-- Where the loop ends: at a missing second child, at a rejected entry, or past
-- the last entry with the uniqueness check still to answer.
inductive Ends (tree : DriverNode) (numChans : Nat) : Except Fault (Int × AxidmaDevice) → Prop where
  | faulted {j : Nat} (small : j < numChans) (reaches : Reaches tree j) (missing : entry tree j = .noSecondChild) :
      Ends tree numChans (.error .nullPointer)
  | rejected {j : Nat} {rc : Int} {after : AxidmaDevice} (small : j < numChans) (reaches : Reaches tree j)
      (refused : entry tree j = .rejected) (negative : rc < 0) : Ends tree numChans (.ok (rc,after))
  | passed {after : AxidmaDevice} (reaches : Reaches tree numChans) (filled : Filled tree numChans after)
      (size : after.numChans = numChans) : Ends tree numChans (.ok (axidmaCheckUniqueIds after,after))

-- Induction on the entries that are left, each pass extending what is filled.
theorem loop_ends {remaining numChans : Nat} (rest : i+remaining = numChans) (size : dev.numChans = numChans)
    (reaches : Reaches tree i) (filled : Filled tree i dev) :
    Ends tree numChans (parseDmaNodesFrom tree remaining i dev) := by
  induction remaining generalizing i dev with
  | zero =>
    obtain rfl : i = numChans := by omega
    exact .passed reaches filled size
  | succ remaining ih =>
    have bound : i < dev.channels.length := by rw [← AxidmaDevice.numChans]; omega
    have present := List.getElem?_eq_getElem bound
    rw [unfold_pass present]
    have follows : Follows dev.channels[i] dev (axidmaOfParseDmaNode tree i dev.channels[i] dev) (entry tree i) :=
      node_follows
    cases state : entry tree i with
    | rejected =>
      rw [state] at follows
      obtain ⟨rc,chan,after,same,negative⟩ := follows
      rw [same,Except.bind,if_pos negative]
      exact .rejected (by omega) reaches state negative
    | noSecondChild =>
      rw [state] at follows
      have same : axidmaOfParseDmaNode tree i dev.channels[i] dev = .error .nullPointer := follows
      rw [same]
      exact .faulted (by omega) reaches state
    | parsed node channelId name =>
      rw [state] at follows
      simp only [Follows] at follows
      rw [follows]
      refine ih (by omega) ?_ ?_ (filled_step filled present state)
      · simpa [AxidmaDevice.setChannel,AxidmaDevice.numChans] using size
      · intro j small
        by_cases here : j = i
        · exact ⟨node,channelId,name,here ▸ state⟩
        · exact reaches j (by omega)

theorem parse_ends : Ends tree dev.numChans (axidmaOfParseDmaNodes tree dev) := by
  refine loop_ends (by omega) rfl (fun j small => absurd small (by omega)) ⟨fun j small => absurd small (by omega),?_⟩
  intro kind
  rcases kind with ⟨_ | _,_ | _⟩ <;> rfl

theorem child_parsed {node' : DeviceNode} {channelId : CInt} {name : String}
    (parsed : child tree i node = .parsed node' channelId name) :
    node' = node ∧ node.deviceId = .holds channelId ∧ ofPropertyReadStringIndex tree i = .ok name := by
  unfold child named at parsed
  split at parsed
  · cases read : ofPropertyReadStringIndex tree i <;> simp_all
  · split at parsed
    · cases parsed
    · cases read : ofPropertyReadStringIndex tree i <;> simp_all
  · cases parsed

theorem entry_parsed {channelId : CInt} {name : String} (parsed : entry tree i = .parsed node channelId name) :
    Selects tree i node ∧ node.deviceId = .holds channelId ∧ ofPropertyReadStringIndex tree i = .ok name := by
  unfold entry at parsed
  cases present : ofParsePhandleWithArgs tree i with
  | error rc => simp [present] at parsed
  | ok phandle =>
    rcases phandle with ⟨np,args⟩
    simp only [present] at parsed
    split at parsed
    · obtain ⟨rfl,same⟩ := child_parsed parsed
      exact ⟨⟨_,0,_,present,rfl,.inl ⟨rfl,rfl⟩⟩,same⟩
    · obtain ⟨rfl,same⟩ := child_parsed parsed
      exact ⟨⟨_,0,_,present,rfl,.inl ⟨rfl,rfl⟩⟩,same⟩
    · cases parsed
    · obtain ⟨rfl,same⟩ := child_parsed parsed
      exact ⟨⟨_,1,_,present,rfl,.inr ⟨rfl,rfl⟩⟩,same⟩
    · cases parsed

theorem selects_unique {other : DeviceNode} (selects : Selects tree i node) (selects' : Selects tree i other) :
    other = node := by
  obtain ⟨phandle,channel,rest,present,args,chosen⟩ := selects
  obtain ⟨phandle',channel',rest',present',args',chosen'⟩ := selects'
  cases present.symm.trans present'
  cases args.symm.trans args'
  rcases chosen with ⟨zero,chosen⟩ | ⟨one,chosen⟩ <;> rcases chosen' with ⟨zero',chosen'⟩ | ⟨one',chosen'⟩
  · exact Option.some.inj (chosen'.symm.trans chosen)
  · cases zero.symm.trans one'
  · cases one.symm.trans zero'
  · exact Option.some.inj (chosen'.symm.trans chosen)

def Distinct (tree : DriverNode) (numChans : Nat) : Prop :=
  ∀ i j, i < j → j < numChans → entryId tree i ≠ entryId tree j

theorem filled_entryId {numChans : Nat} (filled : Filled tree numChans dev) (size : dev.numChans = numChans)
    (small : i < dev.channels.length) : entryId tree i = some (dev.channels[i]).channelId := by
  obtain ⟨node,parsed,_⟩ := filled.set i (size ▸ small) _ (List.getElem?_eq_getElem small)
  simp [entryId,parsed]

theorem idsClash_iff {channels : List AxidmaChan} :
    idsClash channels = false ↔ channels.Pairwise fun chan1 chan2 => chan1.channelId ≠ chan2.channelId := by
  induction channels with
  | nil => simp [idsClash]
  | cons chan rest ih => simp [idsClash,ih]

theorem filled_distinct {numChans : Nat} (filled : Filled tree numChans dev) (size : dev.numChans = numChans) :
    idsClash dev.channels = false ↔ Distinct tree numChans := by
  rw [idsClash_iff,List.pairwise_iff_getElem]
  constructor
  · intro pairwise i j less small
    have smallJ : j < dev.channels.length := by rw [← AxidmaDevice.numChans,size]; exact small
    have smallI : i < dev.channels.length := by omega
    rw [filled_entryId filled size smallI,filled_entryId filled size smallJ]
    simpa using pairwise i j smallI smallJ less
  · intro distinct i j smallI smallJ less
    have differ := distinct i j less (size ▸ smallJ)
    rw [filled_entryId filled size smallI,filled_entryId filled size smallJ] at differ
    simpa using differ

theorem kinds_total (channels : List AxidmaChan) :
    channels.countP (kindIs (.dma,.write))+channels.countP (kindIs (.dma,.read))+
      channels.countP (kindIs (.vdma,.write))+channels.countP (kindIs (.vdma,.read)) = channels.length := by
  induction channels with
  | nil => rfl
  | cons chan rest ih =>
    rcases chan with ⟨_ | _,_ | _,channelId,name,handle⟩ <;> simp [kindIs] at ih ⊢ <;> omega

theorem filled_consistent {numChans : Nat} (filled : Filled tree numChans dev) (size : dev.numChans = numChans)
    (distinct : idsClash dev.channels = false) (kinds : ∀ i < numChans, entryKind tree i ≠ none) :
    Consistent tree numChans dev := by
  have kindAt : ∀ i (small : i < dev.channels.length),
      entryKind tree i = some ((dev.channels[i]).type,(dev.channels[i]).dir) := by
    intro i small
    obtain ⟨node,parsed,same⟩ := filled.set i (size ▸ small) _ (List.getElem?_eq_getElem small)
    have known := kinds i (size ▸ small)
    simp only [entryKind,parsed] at known ⊢
    obtain ⟨kind,found⟩ := Option.ne_none_iff_exists'.mp known
    rw [found,same kind found]
  have counted : ∀ kind, counter dev kind = dev.channels.countP (kindIs kind) := by
    intro kind
    have listed : (List.range numChans).map (entryKind tree) =
        dev.channels.map fun chan => some (chan.type,chan.dir) := by
      apply List.ext_getElem (by simp [← size,AxidmaDevice.numChans])
      intro i _ small
      simpa using kindAt i (by simpa using small)
    have same := congrArg (List.countP fun found => decide (found = some kind)) listed
    rw [List.countP_map,List.countP_map] at same
    rw [filled.counters kind]
    refine Eq.trans same (List.countP_congr fun chan _ => ?_)
    simp [kindIs]
  refine ⟨size,fun i chan present => ?_,idsClash_iff.mp distinct,counted,?_⟩
  · have small := (List.getElem?_eq_some_iff.mp present).1
    obtain ⟨node,parsed,same⟩ := filled.set i (size ▸ small) chan present
    obtain ⟨selects,identified,read⟩ := entry_parsed parsed
    have known := kinds i (size ▸ small)
    simp only [entryKind,parsed] at known
    obtain ⟨kind,found⟩ := Option.ne_none_iff_exists'.mp known
    obtain ⟨matched,compatible,recognised⟩ := Option.bind_eq_some_iff.mp found
    exact ⟨node,selects,identified,⟨matched,compatible,by rw [recognised,same kind found]⟩,read⟩
  · have total := kinds_total dev.channels
    rw [← counted,← counted,← counted,← counted] at total
    exact total.trans size

-- An entry of a consistent table has a kind: the node that the tree selects for
-- it has a property with a known name.
theorem consistent_kinds {numChans : Nat} (consistent : Consistent tree numChans dev)
    (reaches : Reaches tree numChans) (small : i < numChans) : entryKind tree i ≠ none := by
  have bound : i < dev.channels.length := by rw [← AxidmaDevice.numChans,consistent.size]; exact small
  obtain ⟨node,selects,_,⟨matched,compatible,recognised⟩,_⟩ :=
    consistent.set i _ (List.getElem?_eq_getElem bound)
  obtain ⟨other,channelId,name,parsed⟩ := reaches i small
  obtain rfl := selects_unique selects (entry_parsed parsed).1
  simp [entryKind,parsed,kind?,compatible,recognised]

-- The exact condition: the loop does not come to an entry that asks for a
-- second child of a node that has one, and no tree with distinct ids passes
-- every check with a channel node that lacks 'compatible'.
structure Supported (tree : DriverNode) (numChans : Nat) : Prop where
  children : ∀ i < numChans, Reaches tree i → entry tree i ≠ .noSecondChild
  compatible : Reaches tree numChans → Distinct tree numChans → ∀ i < numChans, entryKind tree i ≠ none

theorem stops_once {j : Nat} (reaches : Reaches tree j)
    (stops : ∀ node channelId name, entry tree i ≠ .parsed node channelId name) : j ≤ i := by
  by_contra later
  obtain ⟨node,channelId,name,parsed⟩ := reaches i (by omega)
  exact stops node channelId name parsed

-- A loop that an entry has turned back comes to no missing child.
theorem rejected_supported {j numChans : Nat} (small : j < numChans) (reaches : Reaches tree j)
    (refused : entry tree j = .rejected) : Supported tree numChans := by
  have halts : ∀ node channelId name, entry tree j ≠ .parsed node channelId name := by simp [refused]
  constructor
  case children =>
    intro i below reached missing
    have before := stops_once reached halts
    have behind := stops_once reaches fun node channelId name parsed => by cases missing.symm.trans parsed
    obtain rfl : i = j := by omega
    cases refused.symm.trans missing
  case compatible =>
    intro reached
    have before := stops_once reached halts
    omega

theorem reached_children {numChans : Nat} (reaches : Reaches tree numChans) :
    ∀ i < numChans, Reaches tree i → entry tree i ≠ .noSecondChild := by
  intro i small _ missing
  obtain ⟨node,channelId,name,parsed⟩ := reaches i small
  cases parsed.symm.trans missing

theorem parsesWell_iff_supported : ParsesWell tree dev ↔ Supported tree dev.numChans := by
  have ends : Ends tree dev.numChans (axidmaOfParseDmaNodes tree dev) := parse_ends
  unfold ParsesWell
  generalize axidmaOfParseDmaNodes tree dev = result at ends ⊢
  cases ends with
  | @faulted j small reaches missing =>
    constructor
    · intro parses
      obtain ⟨rc,after,same,_⟩ := parses
      cases same
    · intro supported
      exact absurd missing (supported.children j small reaches)
  | @rejected j rc after small reaches refused negative =>
    exact iff_of_true ⟨rc,after,rfl,.inl negative⟩ (rejected_supported small reaches refused)
  | passed reaches filled size =>
    rename_i after
    have children := reached_children reaches
    have clash := filled_distinct filled size
    unfold axidmaCheckUniqueIds
    cases same : idsClash after.channels with
    | true =>
      refine iff_of_true ⟨_,after,rfl,.inl (by decide)⟩ ⟨children,fun _ distinct => ?_⟩
      rw [clash.mpr distinct] at same
      cases same
    | false =>
      constructor
      · intro parses
        obtain ⟨rc,other,returned,negative | ⟨_,consistent⟩⟩ := parses
        · cases returned
          cases negative
        · cases returned
          exact ⟨children,fun _ _ i small => consistent_kinds consistent reaches small⟩
      · intro supported
        exact ⟨0,after,rfl,.inr ⟨rfl,filled_consistent filled size same
          (supported.compatible reaches (clash.mp same))⟩⟩

end
def secondOfOne : DriverNode where
  dmaNames := .holds ["rx_channel"]
  dmas := .holds [.ok ⟨[⟨.holds 0,some (· = "xlnx,axi-dma-s2mm-channel")⟩],[1]⟩]

def unparsed : AxidmaDevice where
  numDmaTxChans := 0
  numDmaRxChans := 0
  numVdmaTxChans := 0
  numVdmaRxChans := 0
  notifySignal := 0
  channels := [⟨.write,.vdma,0,"",0⟩]
  dmabufList := []
  externalDmabufs := []

example : axidmaOfParseDmaNodes secondOfOne unparsed = .error .nullPointer := rfl

def noCompatible : DriverNode where
  dmaNames := .holds ["rx_channel"]
  dmas := .holds [.ok ⟨[⟨.holds 0,none⟩],[0]⟩]

theorem noCompatible_accepted : ¬ ParsesWell noCompatible unparsed := by
  intro parses
  obtain ⟨rc,after,same,outcome⟩ := parses
  cases same
  rcases outcome with negative | ⟨_,consistent⟩
  · exact absurd negative (by decide)
  · obtain ⟨node,selects,_,⟨matched,compatible,_⟩,_⟩ := consistent.set 0 _ rfl
    obtain ⟨_,channel,rest,present,args,chosen⟩ := selects
    cases present
    rcases chosen with ⟨_,chosen⟩ | ⟨_,chosen⟩
    · cases chosen
      cases compatible
    · cases chosen

end Axidma.ChannelTable
