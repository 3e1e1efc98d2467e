import Axidma.ProbeUnwinding
import Axidma.ResourceAccounts

namespace Axidma.Unloading
open Interaction Ledger
open ProbeUnwinding
open Transition

-- What only unloading calls, and its reads of the fields that axidma_chrdev_init
-- left in the structure.
inductive ModuleCall where
  | device (op : DeviceCall)
  | devGetDrvdata
  | cdevDel
  | loadDevClass
  | loadDevNum

abbrev ModuleCall.Reply : ModuleCall → Type
  | .device op => op.Reply
  | .devGetDrvdata => Nat
  | .cdevDel => Unit
  | .loadDevClass => Nat
  | .loadDevNum => Nat

def ModuleCall.Legal : (op : ModuleCall) → op.Reply → Prop
  | .device op,reply => op.Legal reply
  | _,_ => True

abbrev loader : Interface := ⟨ModuleCall,ModuleCall.Reply,ModuleCall.Legal⟩
abbrev OnModule := Prog loader Fault

@[simp] def mcall (op : ModuleCall) : OnModule op.Reply := Prog.ask (I := loader) op

def onModule {α : Type} : OnDevice α → OnModule α
  | .ret value => .ret value
  | .fault error => .fault error
  | .call op next => .call (.device op) fun reply => onModule (next reply)

def axidmaChrdevExit : OnModule Unit := do
  mcall .cdevDel
  let devClass : Nat ← mcall .loadDevClass
  let devNum : Nat ← mcall .loadDevNum
  mcall (.device (.deviceDestroy devClass devNum))
  mcall (.device (.classDestroy devClass))
  mcall (.device (.unregisterChrdevRegion devNum NUM_DEVICES))

def axidmaRemove : OnModule Int := do
  let axidmaDev : Nat ← mcall .devGetDrvdata
  axidmaChrdevExit
  onModule axidmaDmaExit
  onModule (kfree axidmaDev)
  return 0

-- What the calls since the probe began left in the structure and the device.
def devNumIn : Event device → Option Nat
  | ⟨.allocChrdevRegion _ _ _,.ok devNum⟩ => some devNum
  | _ => none

def devClassIn : Event device → Option Nat
  | ⟨.classCreate _,.ok devClass⟩ => some devClass
  | _ => none

def drvdataIn : Event device → Option Nat
  | ⟨.devSetDrvdata dev,_⟩ => some dev
  | _ => none

def latest (pick : Event device → Option Nat) (events : List (Event device)) : Option Nat := events.reverse.findSome? pick

def moduleMachine : Machine loader Recorded where
  gives := fun t op reply => match op,reply with
    | .device op,reply => deviceMachine.recorded.gives t op reply
    | .devGetDrvdata,dev => ∀ stored, latest drvdataIn t.2 = some stored → dev = stored
    | .loadDevClass,devClass => ∀ stored, latest devClassIn t.2 = some stored → devClass = stored
    | .loadDevNum,devNum => ∀ stored, latest devNumIn t.2 = some stored → devNum = stored
    | .cdevDel,_ => True
  perform := fun t op reply => match op,reply with
    | .device op,reply => deviceMachine.recorded.perform t op reply
    | .cdevDel,_ => ({t.1 with visible := false},t.2)
    | _,_ => t

structure Made where
  requested : List AxidmaChan
  channels : Nat
  cbData : Nat
  dev : Nat
  devClass : Nat
  devNum : Nat

def Made.things (made : Made) : List Resource :=
  .deviceNode made.devClass made.devNum :: .devClass made.devClass :: .chrdevRegion made.devNum ::
    (channelsOf made.requested++[.block made.channels,.block made.cbData,.block made.dev])

section
variable {t after : Recorded} {past new : List (Event device)} {event : Event device} {pick : Event device → Option Nat}
  {value : Nat} {before : Account Resource} {things held : List Resource} {made : Made}

theorem ensures_onModule {α : Type} {post : Outcome Fault α → Recorded → Prop} {p : OnDevice α}
    (ends : Ensures deviceMachine.recorded post p t) : Ensures moduleMachine post (onModule p) t := by
  induction p generalizing t with
  | ret value => exact ends
  | fault error => exact ends
  | call op next ih => exact fun reply given => ih reply (ends reply given)

theorem latest_here (here : pick event = some value) : latest pick (past++[event]) = some value := by simp [latest,here]

theorem latest_past (other : pick event = none) : latest pick (past++[event]) = latest pick past := by simp [latest,other]

structure Loaded (before : Account Resource) (held : List Resource) (t : Recorded) (made : Made) : Prop where
  stored : Stored made.requested made.channels made.cbData t.1.memory
  drvdata : latest drvdataIn t.2 = some made.dev
  devClass : latest devClassIn t.2 = some made.devClass
  devNum : latest devNumIn t.2 = some made.devNum
  owes : Owes before (held++made.things) t.1.account

structure Added (before : Account Resource) (things : List Resource) (t after : Recorded) (node num : Nat) : Prop where
  memory : ∀ field, field ≠ .dmabufList → field ≠ .externalDmabufs → after.1.memory field = t.1.memory field
  devClass : latest devClassIn after.2 = some node
  devNum : latest devNumIn after.2 = some num
  owes : Owes before (.deviceNode node num :: .devClass node :: .chrdevRegion num :: things) after.1.account

theorem ensures_anyway {I : Interface} {ε α σ : Type} {machine : Machine I σ} {s : σ} (p : Prog I ε α) :
    Ensures machine (fun _ _ => True) p s := by
  induction p generalizing s with
  | ret value => trivial
  | fault error => trivial
  | call op next ih => exact fun reply _ => ih reply

theorem chrdev_added {params : ModuleParams} {dev : Nat} (owes : Owes before things t.1.account) :
    Ensures deviceMachine.recorded (fun outcome after => ∀ rc, outcome = .returned rc → ¬ rc < 0 →
      ∃ devClass devNum, Added before things t after devClass devNum) (axidmaChrdevInit params dev) t := by
  unfold axidmaChrdevInit
  intro _ _ devNum _
  cases devNum with
  | error rc =>
    intro value same accepted
    cases same
    exact absurd rc.rc_neg accepted
  | ok devNum =>
    intro devClass _
    cases devClass with
    | error rc =>
      intro _ _ value same accepted
      cases same
      exact absurd rc.rc_neg accepted
    | ok devClass =>
      intro node _
      cases node with
      | error rc =>
        intro _ _ _ _ value same accepted
        cases same
        exact absurd rc.rc_neg accepted
      | ok node =>
        intro rc _
        refine ensures_if (fun failed => ?_) fun _ => ?_
        · intro _ _ _ _ _ _ value same accepted
          cases same
          exact absurd failed accepted
        · intro _ _ _ _ _ _ _
          refine ⟨devClass,devNum,?_,?_,?_,owes.take.take.take⟩
          · intro field dmabufs externals
            show Function.update (Function.update t.1.memory .dmabufList _) .externalDmabufs _ field = _
            rw [Function.update_of_ne externals,Function.update_of_ne dmabufs]
          · exact (latest_past rfl).trans ((latest_past rfl).trans ((latest_past rfl).trans ((latest_past rfl).trans
              (latest_here rfl))))
          · exact (latest_past rfl).trans ((latest_past rfl).trans ((latest_past rfl).trans ((latest_past rfl).trans
              ((latest_past rfl).trans (latest_here rfl)))))

theorem probe_loads {s : DeviceState} {params : ModuleParams} {pdev : DriverNode} :
    Ensures deviceMachine.recorded (fun outcome after => outcome = .returned 0 → ∃ made, Loaded s.account [] after made)
      (axidmaProbe params pdev) (s,[]) := by
  unfold axidmaProbe
  intro dev _
  cases dev with
  | none => exact fun same => absurd (Outcome.returned.inj same) (by decide)
  | some dev =>
    let opened : Recorded := deviceMachine.recorded.perform (s,[]) (.kernel (.kmalloc SIZEOF_AXIDMA_DEVICE)) (some dev)
    have passed : Passed opened.2 := by
      intro event member
      rw [List.mem_singleton.mp member]
      exact ⟨Option.some_ne_none dev,id⟩
    have owes : Owes s.account [.block dev] opened.1.account := Owes.start.take
    refine ensures_bind (p := axidmaDmaInit pdev) ?_
    refine (init_ends owes passed).mono ?_
    intro outcome after ends
    cases ends with
    | faulted => exact fun same => by cases same
    | leaked failed =>
      refine ensures_if (fun _ => ?_) fun passes => absurd failed passes
      exact fun _ _ same => absurd (Outcome.returned.inj same) (by decide)
    | unwound failed =>
      refine ensures_if (fun _ => ?_) fun passes => absurd failed passes
      exact fun _ _ same => absurd (Outcome.returned.inj same) (by decide)
    | @ready requested channels cbData _ global events stored owes passed counted =>
      refine ensures_if (fun failed => absurd failed (by decide)) fun _ => ?_
      refine ensures_bind (p := axidmaChrdevInit params dev) ?_
      refine (chrdev_added owes).mono ?_
      intro outcome later added
      cases outcome with
      | faulted error => exact fun same => by cases same
      | returned rc =>
        refine ensures_if (fun failed => ?_) fun accepted => ?_
        · refine ensures_bind (p := axidmaDmaExit) ((ensures_anyway _).mono ?_)
          intro outcome last _
          cases outcome with
          | faulted error => exact fun same => by cases same
          | returned value => exact fun _ _ same => absurd (Outcome.returned.inj same) (by decide)
        · obtain ⟨devClass,devNum,added⟩ := added rc rfl accepted
          intro _ _ _
          refine ⟨⟨requested,channels,cbData,dev,devClass,devNum⟩,?_,latest_here rfl,?_,?_,?_⟩
          · constructor
            case numChans => exact (added.memory _ (by decide) (by decide)).trans stored.numChans
            case channels => exact (added.memory _ (by decide) (by decide)).trans stored.channels
            case cbData => exact (added.memory _ (by decide) (by decide)).trans stored.cbData
          · exact (latest_past rfl).trans added.devClass
          · exact (latest_past rfl).trans added.devNum
          · exact added.owes

-- What goes on between loading and unloading: the calls of clients in any order,
-- operation by operation, the callbacks, and reads of the structure. No munmap cuts
-- a mapping, since the driver would then free its record once for each piece.
inductive Serves (t : Recorded) : ResourceAccounts.System → Recorded → Prop where
  | start {s : ResourceAccounts.System} (fresh : ResourceAccounts.Fresh s) : Serves t s t
  | load {s : ResourceAccounts.System} {after : Recorded} {field : Field} {value : field.Value} (served : Serves t s after)
      (given : deviceMachine.gives after.1 (.load field) value) :
      Serves t s (deviceMachine.recorded.perform after (.load field) value)
  | call {kernel : KernelState} {before later : List (Thread Axidma.kernel Fault Int (Multiset ResourceAccounts.Thing))}
      {held : Multiset ResourceAccounts.Thing} {op : KernelCall} {rest : op.Reply → Driver Int} {after : Recorded}
      {reply : op.Reply} (served : Serves t ⟨kernel,before++⟨held,.call op rest⟩ :: later⟩ after)
      (given : kernel.gives op reply) (granted : deviceMachine.gives after.1 (.kernel op) reply) :
      Serves t ⟨kernel.perform op reply,
          before++⟨ResourceAccounts.economy.protocol.advance held op reply,rest reply⟩ :: later⟩
        (deviceMachine.recorded.perform after (.kernel op) reply)
  | leave {kernel : KernelState} {before later : List (Thread Axidma.kernel Fault Int (Multiset ResourceAccounts.Thing))}
      {held : Multiset ResourceAccounts.Thing} {rc : Int} {after : Recorded}
      (served : Serves t ⟨kernel,before++⟨held,.ret rc⟩ :: later⟩ after) : Serves t ⟨kernel,before++later⟩ after
  | other {s next : ResourceAccounts.System} {action : ResourceAccounts.Action} {after : Recorded} (served : Serves t s after)
      (apart : action ≠ .step) (step : Restrict ResourceAccounts.Uncut ResourceAccounts.Step s action next) :
      Serves t next after

def blocks (kernel : KernelState) : List Resource := kernel.heap.map .block

theorem serves_runs {s : ResourceAccounts.System} (served : Serves t s after) : ∃ origin actions,
    ResourceAccounts.Fresh origin ∧ Runs (Restrict ResourceAccounts.Uncut ResourceAccounts.Step) origin actions s := by
  induction served with
  | start fresh => exact ⟨_,_,fresh,.start⟩
  | load _ _ ih => exact ih
  | @call kernel before later held op rest _ reply _ given _ ih =>
    obtain ⟨origin,actions,fresh,path⟩ := ih
    have taken := @Interleave.step _ _ _ _ _ kernelMachine ResourceAccounts.economy.protocol kernel before later held op rest
      reply given
    exact ⟨origin,_,fresh,path.meeting (.step taken) trivial⟩
  | @leave kernel before later held rc _ _ ih =>
    obtain ⟨origin,actions,fresh,path⟩ := ih
    have taken : Interleave kernelMachine ResourceAccounts.economy.protocol kernel
      (before++⟨held,(.ret rc : Driver Int)⟩ :: later) _ _ := .leave
    exact ⟨origin,_,fresh,path.meeting (.step taken) trivial⟩
  | other _ _ step ih =>
    obtain ⟨origin,actions,fresh,path⟩ := ih
    exact ⟨origin,_,fresh,path.snoc step⟩

-- A call frees no block but one that a client has got.
theorem call_own {kernel : KernelState} {before later : List (Thread Axidma.kernel Fault Int (Multiset ResourceAccounts.Thing))}
    {held : Multiset ResourceAccounts.Thing} {ptr : Nat} {rest : Unit → Driver Int}
    (served : Serves t ⟨kernel,before++⟨held,.call (.kfree ptr) rest⟩ :: later⟩ after) : ptr ∈ kernel.heap := by
  obtain ⟨origin,actions,fresh,path⟩ := serves_runs served
  have accounted := ResourceAccounts.run_accounted fresh path
  have apart := ResourceAccounts.given_apart (accounted.balanced.present accounted.conforming
    (List.mem_append_right _ List.mem_cons_self))
  exact apart.subset List.mem_cons_self

theorem call_owes {kernel : KernelState} {op : KernelCall} {reply : op.Reply}
    (owes : Owes before (blocks kernel++things) t.1.account) (own : ∀ ptr, op = .kfree ptr → ptr ∈ kernel.heap) :
    Owes before (blocks (kernel.perform op reply)++things) (deviceMachine.recorded.perform t (.kernel op) reply).1.account := by
  cases op with
  | kmalloc size =>
    cases reply with
    | none => exact owes
    | some ptr => exact owes.take
  | kfree ptr =>
    have first := (((List.perm_cons_erase (own ptr rfl)).map Resource.block).append_right things)
    exact (owes.perm first).giveBack
  | dmaengineSubmit chan txd =>
    have same : blocks (kernel.perform (.dmaengineSubmit chan txd) reply) = blocks kernel := by
      simp only [KernelState.perform]
      split <;> rfl
    rw [same]
    exact owes
  | dmaAllocCoherent size => cases reply <;> exact owes
  | dmaBufGet fd => cases reply <;> exact owes
  | dmaBufAttach dmaBuf => cases reply <;> exact owes
  | dmaBufMapAttachment dmaAttach => cases reply <;> exact owes
  | _ => exact owes

theorem other_blocks {s next : ResourceAccounts.System} {action : ResourceAccounts.Action} (apart : action ≠ .step)
    (step : ResourceAccounts.Step s action next) : blocks next.kernel = blocks s.kernel := by
  cases step with
  | mmap => rfl
  | munmap => rfl
  | ioctl => rfl
  | step _ => exact absurd rfl apart
  | engine taken => rw [blocks,blocks,engine_heap taken]

theorem call_stored {op : KernelCall} {reply : op.Reply}
    (stored : Stored made.requested made.channels made.cbData t.1.memory) :
    Stored made.requested made.channels made.cbData (deviceMachine.recorded.perform t (.kernel op) reply).1.memory := by
  obtain ⟨numChans,channels,cbData⟩ := stored
  cases op with
  | storeNotifySignal signal => exact ⟨numChans,channels,cbData⟩
  | storeCbData slot cbData' => exact ⟨numChans,channels,cbData⟩
  | listAddDmabuf alloc => exact ⟨numChans,channels,cbData⟩
  | listAddExternal alloc => exact ⟨numChans,channels,cbData⟩
  | listDelDmabuf alloc => exact ⟨numChans,channels,cbData⟩
  | _ => exact ⟨numChans,channels,cbData⟩

theorem serves_loaded {s : ResourceAccounts.System} (loaded : Loaded before [] t made) (served : Serves t s after) :
    Loaded before (blocks s.kernel) after made := by
  induction served with
  | start fresh =>
    have empty : blocks _ = [] := congrArg (List.map Resource.block) fresh.heap
    rw [empty]
    exact loaded
  | load _ _ ih =>
    obtain ⟨stored,drvdata,devClass,devNum,owes⟩ := ih
    exact ⟨stored,(latest_past rfl).trans drvdata,(latest_past rfl).trans devClass,(latest_past rfl).trans devNum,owes⟩
  | call served _ _ ih =>
    obtain ⟨stored,drvdata,devClass,devNum,owes⟩ := ih
    refine ⟨call_stored stored,(latest_past rfl).trans drvdata,(latest_past rfl).trans devClass,(latest_past rfl).trans devNum,
      call_owes owes ?_⟩
    intro ptr same
    subst same
    exact call_own served
  | leave _ ih => exact ih
  | other _ apart step ih =>
    rw [other_blocks apart step.2]
    exact ih

theorem remove_ends (loaded : Loaded before held t made) :
    Ensures moduleMachine (fun outcome after => outcome = .returned 0 ∧ Owes before held after.1.account) axidmaRemove t := by
  obtain ⟨stored,drvdata,devClass,devNum,owes⟩ := loaded
  unfold axidmaRemove
  intro dev found _ _ node classed num numbered _ _ _ _ _ _
  obtain rfl : dev = made.dev := found _ drvdata
  obtain rfl : node = made.devClass := classed _ devClass
  obtain rfl : num = made.devNum := numbered _ devNum
  have order : (held++made.things).Perm (.deviceNode made.devClass made.devNum :: .devClass made.devClass ::
      .chrdevRegion made.devNum :: (channelsOf made.requested++.block made.channels :: .block made.cbData ::
        .block made.dev :: held)) := by
    refine List.perm_append_comm.trans ?_
    simp [Made.things]
  refine ensures_bind (p := onModule axidmaDmaExit) (ensures_onModule ?_)
  have owed := (owes.perm order).giveBack.giveBack.giveBack
  refine Ensures.mono (exit_ends stored owed) ?_
  intro outcome after ends
  obtain ⟨rfl,_,settled,_⟩ := ends
  exact fun _ _ => ⟨rfl,settled.giveBack⟩

end

-- One round: a probe that is refused, or a loaded driver that serves its clients
-- and is removed. left is what the clients never gave back.
structure Round where
  loads : Bool
  params : ModuleParams
  pdev : DriverNode
  left : List Resource

inductive RoundStep : DeviceState → Round → DeviceState → Prop where
  | refused {s : DeviceState} {params : ModuleParams} {pdev : DriverNode} {rc : Int} {after : Recorded}
      (probed : Exec deviceMachine.recorded (axidmaProbe params pdev) (s,[]) (.returned rc) after) (failed : rc < 0) :
      RoundStep s ⟨false,params,pdev,[]⟩ after.1
  | unloaded {s : DeviceState} {params : ModuleParams} {pdev : DriverNode} {clients : ResourceAccounts.System}
      {loaded used after : Recorded} (probed : Exec deviceMachine.recorded (axidmaProbe params pdev) (s,[]) (.returned 0) loaded)
      (served : Serves loaded clients used) (removed : Exec moduleMachine axidmaRemove used (.returned 0) after) :
      RoundStep s ⟨true,params,pdev,blocks clients.kernel⟩ after.1

def blocksOf (tables : List Nat) : List Resource := tables.map .block

section
variable {origin final s after : DeviceState} {round : Round} {rounds : List Round} {before : Account Resource}
  {things others : List Resource}

theorem owes_trans {middle last : Account Resource} (first : Owes before things middle) (second : Owes middle others last) :
    Owes before (others++things) last :=
  ⟨(second.held.trans (first.held.append_left others)).trans (by simp),second.strays.trans first.strays⟩

-- What a round leaves of its own: nothing, or the two tables of a probe whose
-- device tree the parser refused.
theorem round_owes (step : RoundStep s round after) : ∃ tables, tables.length ≤ 2*[round].countP (!·.loads) ∧
    Owes s.account (blocksOf tables++round.left) after.account := by
  cases step with
  | refused probed failed =>
    cases ensures_iff.mp probe_ends _ _ probed with
    | loaded => exact absurd failed (by decide)
    | unwound clean _ => exact ⟨[],Nat.zero_le _,clean.settled⟩
    | @leaked rc channels cbData _ owes _ _ => exact ⟨[cbData,channels],Nat.le_refl 2,owes⟩
    | dangling settled => exact ⟨[],Nat.zero_le _,settled⟩
  | unloaded probed served removed =>
    obtain ⟨made,loaded⟩ := ensures_iff.mp probe_loads _ _ probed rfl
    exact ⟨[],Nat.zero_le _,(ensures_iff.mp (remove_ends (serves_loaded loaded served)) _ _ removed).2⟩

theorem rounds_owe (path : Runs RoundStep origin rounds final) : ∃ tables, tables.length ≤ 2*rounds.countP (!·.loads) ∧
    Owes origin.account (blocksOf tables++rounds.flatMap (·.left)) final.account := by
  induction path with
  | start => exact ⟨[],Nat.zero_le _,.start⟩
  | @snoc done before after round _ step ih =>
    obtain ⟨tables,bounded,owes⟩ := ih
    obtain ⟨more,few,owed⟩ := round_owes step
    refine ⟨more++tables,?_,(owes_trans owes owed).perm ?_⟩
    · rw [List.countP_append,List.length_append]
      omega
    · simp only [blocksOf,List.map_append,List.flatMap_append,List.flatMap_cons,List.flatMap_nil,List.append_nil]
      grind

end

-- Surroundings that grant everything, to loading and unloading alike.
def loading : Answers deviceMachine := granting fun _ => false

def unloading : Answers moduleMachine where
  reply := fun t op => match op with
    | .device op => loading.recorded.reply t op
    | .devGetDrvdata => latest drvdataIn t.2
    | .cdevDel => some ()
    | .loadDevClass => latest devClassIn t.2
    | .loadDevNum => latest devNumIn t.2
  given := by
    intro t op reply settled
    cases op with
    | device op => exact loading.recorded.given t op reply settled
    | devGetDrvdata => exact fun stored found => Option.some.inj (settled.symm.trans found)
    | loadDevClass => exact fun stored found => Option.some.inj (settled.symm.trans found)
    | loadDevNum => exact fun stored found => Option.some.inj (settled.symm.trans found)
    | cdevDel => trivial

section
variable {t after : Recorded}

theorem Serves.extend {s : ResourceAccounts.System} {held : Multiset ResourceAccounts.Thing} {op : KernelCall}
    {rest : op.Reply → Driver Int} {later : List (Thread Axidma.kernel Fault Int (Multiset ResourceAccounts.Thing))}
    (served : Serves t s after) (running : s.running = ⟨held,.call op rest⟩ :: later) (reply : op.Reply)
    (given : s.kernel.gives op reply) (allowed : after.1.allows (.kernel op) reply = true) :
    Serves t ⟨s.kernel.perform op reply,⟨ResourceAccounts.economy.protocol.advance held op reply,rest reply⟩ :: later⟩
      (deviceMachine.recorded.perform after (.kernel op) reply) := by
  obtain ⟨kernel,calls⟩ := s
  obtain rfl := running
  exact @Serves.call t kernel [] later held op rest after reply served given (allowed_given allowed)

theorem Serves.returns {s : ResourceAccounts.System} {held : Multiset ResourceAccounts.Thing} {rc : Int}
    {later : List (Thread Axidma.kernel Fault Int (Multiset ResourceAccounts.Thing))} (served : Serves t s after)
    (running : s.running = ⟨held,.ret rc⟩ :: later) : Serves t ⟨s.kernel,later⟩ after := by
  obtain ⟨kernel,calls⟩ := s
  obtain rfl := running
  exact @Serves.leave t kernel [] later held rc after served

end

def loadedTwo : Recorded := (loading.recorded.advance 40 (axidmaProbe CHRDEV_DEFAULTS twoChannels) (unloaded,[])).2

-- The page that a client maps and unmaps in between.
def buffer : AxidmaDmaAllocation := {ResourceAccounts.buffer with node := 50, kernAddr := 60}

def mapsPage : List (Event Axidma.kernel) := [⟨.kmalloc SIZEOF_DMA_ALLOCATION,some 50⟩,⟨.ofDmaConfigure,()⟩,
  ⟨.dmaAllocCoherent 0x1000,some (60,0x40000000)⟩,⟨.dmaMmapCoherent ResourceAccounts.page buffer,(0 : Int)⟩,
  ⟨.storeVmPrivateData ResourceAccounts.page buffer,()⟩,⟨.listAddDmabuf buffer,()⟩,
  ⟨.dmaFreeCoherent buffer,()⟩,⟨.listDelDmabuf buffer,()⟩,⟨.kfree 50,()⟩]

def usedTwo : Recorded := mapsPage.foldl (fun t event => deviceMachine.recorded.perform t (.kernel event.1) event.2) loadedTwo

theorem page_used : ∃ clients, Serves loadedTwo clients usedTwo ∧ blocks clients.kernel = [] := by
  have begun : Serves loadedTwo ResourceAccounts.idle loadedTwo := .start ResourceAccounts.idle_fresh
  have asked := @Serves.other loadedTwo _ _ (.mmap ⟨0,0,0⟩ ResourceAccounts.page) _ begun (fun same => by cases same) ⟨trivial,.mmap⟩
  have record := asked.extend rfl (some 50) ⟨fun _ => by decide,fun _ _ => List.not_mem_nil⟩ rfl
  have configured := record.extend rfl () trivial rfl
  have allocated := configured.extend rfl (some (60,0x40000000)) (fun _ _ => List.not_mem_nil) rfl
  have mapped := allocated.extend rfl (0 : Int) trivial rfl
  have stored := mapped.extend rfl () trivial rfl
  have listed := (stored.extend rfl () trivial rfl).returns rfl
  have whole : ∀ vma ∈ [(⟨ResourceAccounts.page,buffer⟩ : Vma)], overlaps vma.area ResourceAccounts.page = true →
      within vma.area ResourceAccounts.page = true := by decide
  have unmapping := @Serves.other loadedTwo _ _ (.munmap ResourceAccounts.page) _ listed (fun same => by cases same) ⟨whole,.munmap⟩
  have region := unmapping.extend rfl () trivial rfl
  have unlisted := region.extend rfl () trivial rfl
  have freed := (unlisted.extend rfl () trivial rfl).returns rfl
  exact ⟨_,freed,rfl⟩

def removedTwo : Recorded := (unloading.advance 40 axidmaRemove usedTwo).2
def refusedAfter : Recorded := (loading.recorded.advance 40 (axidmaProbe CHRDEV_DEFAULTS childless) (removedTwo.1,[])).2

-- A driver with two channels comes, serves a client and goes, and then a tree is refused.
theorem two_rounds : ∃ tables : List Nat, tables.length ≤ 2 ∧ Owes unloaded.account (blocksOf tables++[]) refusedAfter.1.account := by
  have probed : Exec deviceMachine.recorded (axidmaProbe CHRDEV_DEFAULTS twoChannels) (unloaded,[]) (.returned 0) loadedTwo :=
    loading.recorded.exec rfl
  obtain ⟨clients,served,none⟩ := page_used
  have removed : Exec moduleMachine axidmaRemove usedTwo (.returned 0) removedTwo := unloading.exec rfl
  have refused : Exec deviceMachine.recorded (axidmaProbe CHRDEV_DEFAULTS childless) (removedTwo.1,[]) (.returned (-ENOSYS))
      refusedAfter := loading.recorded.exec rfl
  have first : Runs RoundStep unloaded [⟨true,CHRDEV_DEFAULTS,twoChannels,[]⟩] removedTwo.1 :=
    .snoc .start (none ▸ .unloaded probed served removed)
  exact rounds_owe (first.snoc (.refused refused (by decide)))

end Axidma.Unloading
