import Axidma.SlotWrites
import Axidma.Transition

namespace Axidma.Notifications
open Interaction
open SlotWrites
open Transition

inductive ClientCall where
  | read (transaction : AxidmaTransaction)
  | write (transaction : AxidmaTransaction)
  | readwrite (transaction : AxidmaInoutTransaction)
  | setSignal (signal : Int)

def ClientCall.program (dev : AxidmaDevice) (caller : Caller) : ClientCall → Driver Int
  | .read transaction => axidmaReadTransfer dev caller transaction
  | .write transaction => axidmaWriteTransfer dev caller transaction
  | .readwrite transaction => axidmaRwTransfer dev caller transaction
  | .setSignal signal => axidmaSetSignal signal

-- The transfers a client asks for, by where they move the data: the id of the
-- channel, and whether it waits. Nobody waits for the transmit half of two ways.
def ClientCall.half : ClientCall → DmaTransferDirection → Option (CInt × Bool)
  | .read transaction,.devToMem => some (transaction.channelId,transaction.wait)
  | .write transaction,.memToDev => some (transaction.channelId,transaction.wait)
  | .readwrite transaction,.memToDev => some (transaction.txChannelId,false)
  | .readwrite transaction,.devToMem => some (transaction.rxChannelId,transaction.wait)
  | _,_ => none

def completionDir : DmaTransferDirection → AxidmaDir
  | .memToDev => .write
  | .devToMem => .read

-- What a client asks to be told of a transfer it makes under a signal: a call
-- that waits, its own completion; any other, the signal, if it is a valid one.
def ClientCall.asked (client : Task) (number : Nat) (signal : Int) (call : ClientCall) (dir : DmaTransferDirection) :
    Notification :=
  match call.half dir with
  | none => .nothing
  | some (channelId,wait) =>
    if wait then .completes ⟨number,completionDir dir⟩
    else if VALID_NOTIFY_SIGNAL signal then .signals signal (some client) channelId
    else .nothing

structure Running where
  number : Nat
  call : ClientCall
  rest : Driver Int

structure System where
  kernel : KernelState
  running : Option Running
  calls : Nat

inductive Action where
  | issue (call : ClientCall)
  | step
  | leave
  | engine

-- An operation of a call. Whatever the driver writes there, the ghost field of
-- the descriptor it submits says what the client asked, by the signal in force.
def ClientCall.perform (client : Task) (number : Nat) (call : ClientCall) (kernel : KernelState) :
    (op : KernelCall) → op.Reply → KernelState
  | .dmaengineSubmit chan txd,cookie => kernel.perform (.dmaengineSubmit chan
      {txd with requested := call.asked client number kernel.dev.notifySignal txd.prepared.dir}) cookie
  | op,reply => kernel.perform op reply

inductive Step (client : Task) : System → Action → System → Prop where
  | issue {s : System} (idle : s.running = none) (call : ClientCall) :
      Step client s (.issue call) {s with
        running := some ⟨s.calls,call,call.program s.kernel.dev ⟨client,s.calls,0⟩⟩, calls := s.calls+1}
  | step {s : System} {number : Nat} {call : ClientCall} {op : KernelCall} {rest : op.Reply → Driver Int}
      (running : s.running = some ⟨number,call,.call op rest⟩) (reply : op.Reply) (given : s.kernel.gives op reply) :
      Step client s .step {s with
        kernel := call.perform client number s.kernel op reply, running := some ⟨number,call,rest reply⟩}
  | leave {s : System} {number : Nat} {call : ClientCall} {rc : Int} (running : s.running = some ⟨number,call,.ret rc⟩) :
      Step client s .leave {s with running := none}
  | engine {s : System} {after : KernelState} (taken : EngineStep s.kernel after) :
      Step client s .engine {s with kernel := after}

-- A callback that can run now does what the client asked of that transfer, and
-- the completion it completes belongs to the call that is still in progress.
structure Answered (s : System) : Prop where
  notified : ∀ chan, ∀ descriptor ∈ s.kernel.queue chan, descriptor.stage = .done →
    axidmaDmaCallback (s.kernel.slots descriptor.txd.callbackParam) = descriptor.txd.requested.program
  waiting : ∀ chan, ∀ descriptor ∈ s.kernel.queue chan, descriptor.stage = .done → ∀ comp,
    descriptor.txd.requested = .completes comp → ∃ running, s.running = some running ∧ running.number = comp.call

-- The table of a client whose callback slots are in range and distinct, with
-- nothing outstanding.
structure Quiet (s : System) : Prop where
  inRange : ∀ chan ∈ s.kernel.dev.channels, 0 ≤ chan.channelId.toInt ∧
    chan.channelId.toInt < s.kernel.dev.numChans
  distinct : (s.kernel.dev.channels.map (·.channelId)).Nodup
  queues : ∀ chan, s.kernel.queue chan = []
  running : s.running = none

-- A call writes the slot of one of its channels only while every descriptor that
-- still points to it, if any, was asked to tell the same as that transfer is.
def Undisturbed (client : Task) (s : System) : Action → Prop
  | .step => ∀ number call slot cbData rest, s.running = some ⟨number,call,.call (.storeCbData slot cbData) rest⟩ →
      ∀ dir channelId wait, call.half dir = some (channelId,wait) → channelId.toInt = slot →
      ∀ chan, ∀ descriptor ∈ s.kernel.queue chan, descriptor.txd.callbackParam = slot →
        descriptor.txd.requested = call.asked client number s.kernel.dev.notifySignal dir
  | _ => True

theorem call_conforms {dev : AxidmaDevice} {caller : Caller} (call : ClientCall) :
    Conforms (protocol caller.call) Disarmed Ghost.start (call.program dev caller) := by
  cases call with
  | read transaction => exact oneway_conforms
  | write transaction => exact oneway_conforms
  | readwrite transaction => exact rw_conforms
  | setSignal signal =>
    show Conforms _ _ _ (axidmaSetSignal signal)
    unfold axidmaSetSignal
    exact conforms_if (fun _ => rfl) fun _ => ⟨trivial,fun _ _ => rfl⟩

def TfrCall (_chan : AxidmaChan) (tfr : AxidmaTransfer) : KernelCall → Prop
  | .dmaengineSubmit _ txd => txd.requested = tfr.requested ∧ txd.prepared.dir = axidmaToDmaDir tfr.dir
  | .storeCbData slot cbData => slot = tfr.cbData ∧ cbData = tfr.slotContent
  | .storeNotifySignal _ => False
  | _ => True

-- Every descriptor of a call asks what its client asked, and so does what the
-- call writes to a slot, which is the slot of that transfer's channel.
def Obeys (client : Task) (number : Nat) (signal : Int) (call : ClientCall) : KernelCall → Prop
  | .dmaengineSubmit _ txd => txd.requested = call.asked client number signal txd.prepared.dir
  | .storeCbData slot cbData => ∃ dir channelId wait, call.half dir = some (channelId,wait) ∧ channelId.toInt = slot ∧
      cbData.notification = call.asked client number signal dir
  | .storeNotifySignal _ => ∀ dir, call.half dir = none
  | _ => True

section
variable {client : Task} {number : Nat} {signal : Int} {dev : AxidmaDevice} {call : ClientCall}
  {chan : AxidmaChan} {tfr : AxidmaTransfer}

theorem descriptor_dir : Does (TfrCall chan tfr) (fun outcome => ∀ prepared, outcome = .returned (.ok prepared) →
    prepared.dir = axidmaToDmaDir tfr.dir) (axidmaPrepDescriptor chan.chan tfr) := by
  have tested : ∀ (prepared : Prepared), prepared.dir = axidmaToDmaDir tfr.dir → ∀ (dmaTxnd : Bool) other,
      (Outcome.returned (if dmaTxnd = true then .ok prepared else .error (-EBUSY)) : Outcome Fault (Except Int Prepared)) =
        .returned (.ok other) → other.dir = axidmaToDmaDir tfr.dir := by
    intro prepared same dmaTxnd other ended
    cases dmaTxnd with
    | true =>
      cases ended
      exact same
    | false => cases ended
  unfold axidmaPrepDescriptor
  cases tfr.type with
  | dma => exact ⟨trivial,fun dmaTxnd _ => tested _ rfl dmaTxnd⟩
  | vdma =>
    refine ⟨trivial,fun rc _ => ?_⟩
    apply does_if
    · intro _ prepared ended
      cases ended
    · intro _
      cases tfr.sgList.head? with
      | none =>
        intro prepared ended
        cases ended
      | some entry =>
        cases tfr.frame with
        | none => exact ⟨trivial,fun frame _ => ⟨trivial,fun dmaTxnd _ => tested _ rfl dmaTxnd⟩⟩
        | some frame => exact ⟨trivial,fun dmaTxnd _ => tested _ rfl dmaTxnd⟩

theorem tfr_permits : Permits TfrCall fun tfr prepared => prepared.dir = axidmaToDmaDir tfr.dir where
  descriptor := fun _ _ => descriptor_dir
  store := fun _ _ => ⟨rfl,rfl⟩
  init := fun _ _ => trivial
  submit := fun _ _ _ dir => ⟨rfl,dir⟩
  issue := fun _ _ => trivial
  wait := fun _ _ _ => trivial
  status := fun _ _ _ => trivial
  terminate := fun _ _ => trivial

-- A transfer structure that carries out a half of the call.
structure Carries (client : Task) (number : Nat) (signal : Int) (call : ClientCall) (tfr : AxidmaTransfer) : Prop where
  half : ∃ channelId wait, call.half (axidmaToDmaDir tfr.dir) = some (channelId,wait) ∧ channelId.toInt = tfr.cbData
  requested : tfr.requested = call.asked client number signal (axidmaToDmaDir tfr.dir)

theorem Carries.obeys {op : KernelCall} (carries : Carries client number signal call tfr) (made : TfrCall chan tfr op) :
    Obeys client number signal call op := by
  cases op with
  | dmaengineSubmit handle txd =>
    show txd.requested = call.asked client number signal txd.prepared.dir
    rw [made.1,made.2]
    exact carries.requested
  | storeCbData slot cbData =>
    obtain ⟨rfl,rfl⟩ := made
    obtain ⟨channelId,wait,half,same⟩ := carries.half
    exact ⟨_,channelId,wait,half,same,(slotContent_notification tfr).trans carries.requested⟩
  | storeNotifySignal signal => exact made.elim
  | _ => trivial

theorem read_carries {transaction : AxidmaTransaction} (sets : Sets dev ⟨client,number,0⟩ (.read transaction) chan tfr) :
    Carries client number dev.notifySignal (.read transaction) tfr := by
  cases sets with
  | read found fits translated =>
    refine ⟨⟨transaction.channelId,transaction.wait,?_,rfl⟩,?_⟩
    · simp only [onewayTfr,fits,axidmaToDmaDir,ClientCall.half]
    · simp only [AxidmaTransfer.requested,onewayTfr,fits,axidmaToDmaDir,ClientCall.asked,ClientCall.half,completionDir]

theorem write_carries {transaction : AxidmaTransaction} (sets : Sets dev ⟨client,number,0⟩ (.write transaction) chan tfr) :
    Carries client number dev.notifySignal (.write transaction) tfr := by
  cases sets with
  | write found fits translated =>
    refine ⟨⟨transaction.channelId,transaction.wait,?_,rfl⟩,?_⟩
    · simp only [onewayTfr,fits,axidmaToDmaDir,ClientCall.half]
    · simp only [AxidmaTransfer.requested,onewayTfr,fits,axidmaToDmaDir,ClientCall.asked,ClientCall.half,completionDir]

theorem readwrite_carries {transaction : AxidmaInoutTransaction}
    (sets : Sets dev ⟨client,number,0⟩ (.readwrite transaction) chan tfr) :
    Carries client number dev.notifySignal (.readwrite transaction) tfr := by
  cases sets with
  | transmit found fits translated foundRx fitsRx translatedRx =>
    refine ⟨⟨transaction.txChannelId,false,?_,rfl⟩,?_⟩
    · simp only [txTfr,fits,axidmaToDmaDir,ClientCall.half]
    · simp only [AxidmaTransfer.requested,txTfr,fits,axidmaToDmaDir,ClientCall.asked,ClientCall.half,completionDir]
  | receive found fits translated foundTx fitsTx translatedTx =>
    refine ⟨⟨transaction.rxChannelId,transaction.wait,?_,rfl⟩,?_⟩
    · simp only [rxTfr,fits,axidmaToDmaDir,ClientCall.half]
    · simp only [AxidmaTransfer.requested,rxTfr,fits,axidmaToDmaDir,ClientCall.asked,ClientCall.half,completionDir]

theorem setting_obeys {request : Request} {op : KernelCall}
    (carries : ∀ chan tfr, Sets dev ⟨client,number,0⟩ request chan tfr → Carries client number dev.notifySignal call tfr)
    (made : Setting TfrCall dev ⟨client,number,0⟩ request op) : Obeys client number dev.notifySignal call op := by
  obtain ⟨chan,tfr,sets,made⟩ := made
  exact (carries chan tfr sets).obeys made

theorem call_obeys (call : ClientCall) :
    Does (Obeys client number dev.notifySignal call) (fun _ => True) (call.program dev ⟨client,number,0⟩) := by
  cases call with
  | read transaction =>
    have does := @oneway_calls dev ⟨client,number,0⟩ (.read transaction) _ _ tfr_permits .read transaction
      fun _ _ found fits translated => .read found fits translated
    exact does.mono (fun _ => setting_obeys fun _ _ => read_carries) fun _ => id
  | write transaction =>
    have does := @oneway_calls dev ⟨client,number,0⟩ (.write transaction) _ _ tfr_permits .write transaction
      fun _ _ found fits translated => .write found fits translated
    exact does.mono (fun _ => setting_obeys fun _ _ => write_carries) fun _ => id
  | readwrite transaction => exact (rw_calls tfr_permits).mono (fun _ => setting_obeys fun _ _ => readwrite_carries) fun _ => id
  | setSignal signal =>
    show Does _ _ (axidmaSetSignal signal)
    unfold axidmaSetSignal
    exact does_if (fun _ => trivial) fun _ => ⟨fun dir => by cases dir <;> rfl,fun _ _ => trivial⟩

theorem asked_nothing (idle : ∀ dir, call.half dir = none) (dir : DmaTransferDirection) :
    call.asked client number signal dir = .nothing := by
  unfold ClientCall.asked
  rw [idle dir]

-- A call that sets the signal makes no transfer, so no signal matters to it.
theorem Obeys.under {op : KernelCall} (idle : ∀ dir, call.half dir = none) (other : Int)
    (obeys : Obeys client number signal call op) : Obeys client number other call op := by
  cases op with
  | dmaengineSubmit chan txd =>
    show txd.requested = _
    rw [asked_nothing idle]
    exact obeys.trans (asked_nothing idle _)
  | storeCbData slot cbData =>
    obtain ⟨dir,channelId,wait,half,_⟩ := obeys
    rw [idle dir] at half
    cases half
  | storeNotifySignal signal => exact idle
  | _ => trivial

-- So the ghost field that the client's request gives is the one the driver wrote.
theorem obeys_perform {kernel : KernelState} {op : KernelCall} {reply : op.Reply}
    (obeys : Obeys client number kernel.dev.notifySignal call op) :
    call.perform client number kernel op reply = kernel.perform op reply := by
  cases op with
  | dmaengineSubmit chan txd =>
    show kernel.perform (.dmaengineSubmit chan
      {txd with requested := call.asked client number kernel.dev.notifySignal txd.prepared.dir}) reply = _
    rw [← (show txd.requested = _ from obeys)]
  | _ => rfl

theorem perform_signal {kernel : KernelState} {op : KernelCall} {reply : op.Reply} (kept : ∀ signal, op ≠ .storeNotifySignal signal) :
    (kernel.perform op reply).dev.notifySignal = kernel.dev.notifySignal := by
  cases op with
  | storeNotifySignal signal => exact absurd rfl (kept signal)
  | dmaengineSubmit chan txd =>
    simp only [KernelState.perform]
    split <;> rfl
  | _ => first | rfl | (cases reply <;> rfl)

theorem engine_signal {kernel after : KernelState} (taken : EngineStep kernel after) :
    after.dev.notifySignal = kernel.dev.notifySignal := by
  cases taken with
  | finish => rfl
  | @callback _ chan before rest descriptor queued _ executed =>
    obtain rfl := ensures_iff.mp (callback_ends _) _ _ executed
    cases (kernel.slots descriptor.txd.callbackParam).notification <;> rfl

theorem obeys_after {kernel : KernelState} {op : KernelCall} {reply : op.Reply} {rest : Driver Int}
    (obeys : Obeys client number kernel.dev.notifySignal call op)
    (does : Does (Obeys client number kernel.dev.notifySignal call) (fun _ => True) rest) :
    Does (Obeys client number (kernel.perform op reply).dev.notifySignal call) (fun _ => True) rest := by
  by_cases set : ∃ signal, op = .storeNotifySignal signal
  · obtain ⟨signal,rfl⟩ := set
    exact does.mono (fun _ => Obeys.under obeys _) fun _ => id
  · rw [perform_signal (by simpa using set)]
    exact does

end

def InProgress (number : Nat) (ghost : Ghost) : Option Running → Prop
  | none => ghost.armed = none
  | some running => running.number = number ∧ Conforms (protocol number) Disarmed ghost running.rest

structure Serving (client : Task) (s : System) : Prop where
  slotted : Slotted s.kernel
  linked : ∃ number ghost, Linked s.kernel number ghost ∧ InProgress number ghost s.running
  obeys : ∀ running, s.running = some running →
    Does (Obeys client running.number s.kernel.dev.notifySignal running.call) (fun _ => True) running.rest

section
variable {client : Task} {s after : System}

theorem linked_start {kernel : KernelState} {number : Nat}
    (plain : ∀ chan, ∀ descriptor ∈ kernel.queue chan, ∀ comp, descriptor.txd.requested ≠ .completes comp) :
    Linked kernel number Ghost.start := by
  refine ⟨?_,?_,?_,?_,?_⟩
  · intro slot cbData same
    cases same
  · intro chan descriptor queued comp requested
    exact absurd requested (plain chan descriptor queued comp)
  · intro chan comp same
    cases same
  · intro chan comp same
    cases same
  · intro comp same
    cases same

theorem Quiet.serving (quiet : Quiet s) : Serving client s := by
  have empty : ∀ chan, ∀ descriptor, descriptor ∉ s.kernel.queue chan := by
    intro chan descriptor queued
    rw [quiet.queues chan] at queued
    cases queued
  refine ⟨fun chan descriptor queued => absurd queued (empty chan descriptor),⟨0,Ghost.start,?_,?_⟩,?_⟩
  · exact linked_start fun chan descriptor queued => absurd queued (empty chan descriptor)
  · rw [quiet.running]
    rfl
  · intro running same
    rw [quiet.running] at same
    cases same

theorem Serving.answered (serving : Serving client s) : Answered s := by
  obtain ⟨slotted,⟨number,ghost,linked,progress⟩,_⟩ := serving
  refine ⟨?_,?_⟩
  · intro chan descriptor queued _
    rw [callback_program,slotted chan descriptor queued]
  · intro chan descriptor queued _ comp requested
    have armed := linked.armed chan descriptor queued comp requested
    have own := linked.own chan comp armed
    cases running : s.running with
    | none =>
      rw [running] at progress
      cases armed.symm.trans progress
    | some call =>
      rw [running] at progress
      exact ⟨call,rfl,progress.1.trans own.symm⟩

theorem step_serving {action : Action} (serving : Serving client s) (undisturbed : Undisturbed client s action)
    (step : Step client s action after) : Serving client after := by
  obtain ⟨slotted,⟨number,ghost,linked,progress⟩,obeys⟩ := serving
  cases step with
  | issue idle call =>
    rw [idle] at progress
    refine ⟨slotted,⟨s.calls,Ghost.start,?_,rfl,@call_conforms s.kernel.dev ⟨client,s.calls,0⟩ call⟩,?_⟩
    · exact linked_start fun chan descriptor queued comp => linked.unqueued progress chan queued comp
    · intro running same
      cases same
      exact call_obeys call
  | @step called call op rest running reply given =>
    rw [running] at progress
    obtain ⟨rfl,admitted,conforms⟩ := progress
    obtain ⟨obeyed,later⟩ := obeys _ running
    have same := @obeys_perform client called call s.kernel op reply obeyed
    refine ⟨?_,⟨called,_,?_,rfl,conforms reply (gives_legal given)⟩,?_⟩
    · show Slotted (call.perform client called s.kernel op reply)
      rw [same]
      apply perform_slotted linked slotted admitted
      intro slot cbData stored chan descriptor queued pointing
      subst stored
      obtain ⟨dir,channelId,wait,half,rfl,notification⟩ := obeyed
      rw [notification]
      exact undisturbed called call _ cbData rest running dir channelId wait half rfl chan descriptor queued pointing
    · show Linked (call.perform client called s.kernel op reply) _ _
      rw [same]
      exact perform_linked linked admitted given
    · intro next started
      cases started
      show Does (I := kernel) (Obeys client called (call.perform client called s.kernel op reply).dev.notifySignal call) _ _
      rw [same]
      exact obeys_after obeyed (later reply (gives_legal given))
  | leave running =>
    rw [running] at progress
    refine ⟨slotted,⟨number,ghost,linked,progress.2⟩,?_⟩
    intro next started
    cases started
  | engine taken =>
    obtain ⟨kept,still⟩ := engine_keeps linked slotted taken
    refine ⟨still,⟨number,ghost,kept,progress⟩,?_⟩
    intro running same
    rw [engine_signal taken]
    exact obeys running same

theorem answered_of_undisturbed {origin final : System} {actions : List Action} (quiet : Quiet origin)
    (path : Runs (Restrict (Undisturbed client) (Step client)) origin actions final) : Answered final :=
  (path.keeps quiet.serving fun _ _ _ serving step => step_serving serving step.1 step.2).answered

end

def receiver : AxidmaChan := ⟨.read,.dma,0,"rx_channel",7⟩
def page : AxidmaDmaAllocation := ⟨1,0x1000,0x10000,5,0x40000000,0⟩

-- One receive channel, one mapped page and signal 34.
def ready : System where
  kernel := {KernelState.loaded {loadedDevice [receiver] with notifySignal := 34, dmabufList := [page]} with
    heap := [1]
    regions := [5]
    mapped := [5]
    vmas := [⟨⟨0,0x10000,0x11000⟩,page⟩] }
  running := none
  calls := 0

theorem ready_quiet : Quiet ready := by
  refine ⟨?_,by decide,fun _ => rfl,rfl⟩
  decide

def request (wait : Bool) : AxidmaTransaction := ⟨wait,0,0x10000,0x100,⟨0,0,0⟩⟩

def finishedRead : Descriptor where
  txd := ⟨.slaveSg [⟨0x40000000,0x100,some (.dmabuf 5)⟩] 1 .devToMem 3,0,.signals 34 (some 0) 0⟩
  stage := .done

theorem calm_of_plain {client : Task} {s : System} {number : Nat} {call : ClientCall} {op : KernelCall} {rest : op.Reply → Driver Int}
    (running : s.running = some ⟨number,call,.call op rest⟩) (plain : ∀ slot cbData, op ≠ .storeCbData slot cbData) :
    Undisturbed client s .step := by
  intro _ _ slot cbData _ same
  cases running.symm.trans same
  exact absurd rfl (plain slot cbData)

theorem calm_of_empty {client : Task} {s : System} (empty : ∀ chan, s.kernel.queue chan = []) : Undisturbed client s .step := by
  intro _ _ _ _ _ _ _ _ _ _ _ chan descriptor queued
  rw [empty chan] at queued
  cases queued

theorem extend {client : Task} {taken : System → Action → System → Prop} {origin s : System} {actions : List Action}
    {number : Nat} {call : ClientCall} {op : KernelCall} {rest : op.Reply → Driver Int} (path : Runs taken origin actions s)
    (running : s.running = some ⟨number,call,.call op rest⟩) (reply : op.Reply) (given : s.kernel.gives op reply)
    (allowed : ∀ after, Step client s .step after → taken s .step after) :
    Runs taken origin (actions++[.step])
      {s with kernel := call.perform client number s.kernel op reply, running := some ⟨number,call,rest reply⟩} :=
  .snoc path (allowed _ (.step running reply given))

-- A read without wait, completed by the engine; its callback is still to come.
theorem async_read : ∃ final, Runs (Restrict (Undisturbed 0) (Step 0)) ready
    [.issue (.read (request false)),.step,.step,.step,.step,.leave,.engine] final ∧
    final.kernel.queue 7 = [finishedRead] ∧ final.kernel.dev = ready.kernel.dev ∧ final.running = none := by
  have issued : Runs (Restrict (Undisturbed 0) (Step 0)) ready [.issue (.read (request false))] _ :=
    .snoc .start ⟨trivial,.issue rfl _⟩
  have prepared := extend issued rfl true trivial fun _ step => ⟨calm_of_empty fun _ => rfl,step⟩
  have stored := extend prepared rfl () trivial fun _ step => ⟨calm_of_empty fun _ => rfl,step⟩
  have submitted := extend stored rfl (1 : Int) trivial fun _ step => ⟨calm_of_empty fun _ => rfl,step⟩
  have pending := extend submitted rfl () trivial fun _ step => ⟨calm_of_plain rfl fun _ _ => KernelCall.noConfusion,step⟩
  have left := Runs.snoc pending (⟨trivial,.leave rfl⟩ : Restrict (Undisturbed 0) (Step 0) _ .leave _)
  refine ⟨_,.snoc left ⟨trivial,.engine (@EngineStep.finish _ 7 [] [] {finishedRead with stage := .issued} rfl ?_ rfl)⟩,rfl,rfl,rfl⟩
  exact fun _ member => absurd member List.not_mem_nil

theorem answered_async_read : ∃ final, final.kernel.queue 7 = [finishedRead] ∧ Answered final := by
  obtain ⟨final,path,queued,_⟩ := async_read
  exact ⟨final,queued,answered_of_undisturbed ready_quiet path⟩

-- A second call that waits overwrites the slot of the first, whose transfer is
-- done: its callback completes the second call and the signal is never sent.
theorem overwritten_slot : Quiet ready ∧ ∃ actions final, Runs (Step 0) ready actions final ∧ ¬ Answered final := by
  obtain ⟨final,path,queued,dev,idle⟩ := async_read
  have path := path.widen fun _ _ _ step => step.2
  have again := Runs.snoc path (.issue idle (.read (request true)))
  rw [dev] at again
  have prepared := extend again rfl true trivial fun _ => id
  have stored := extend prepared rfl () trivial fun _ => id
  refine ⟨ready_quiet,_,_,stored,fun answered => ?_⟩
  have member : finishedRead ∈ final.kernel.queue 7 := by rw [queued]; exact List.mem_cons_self
  have wrong := answered.notified 7 finishedRead member rfl
  cases wrong

end Axidma.Notifications
