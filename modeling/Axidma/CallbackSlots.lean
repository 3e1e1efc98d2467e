import Axidma.TransferCalls
import Axidma.ChannelTable

namespace Axidma.CallbackSlots
open Interaction

-- The table that the transfers see is the parsed one, but for the engine
-- channels that axidma_request_channels fills in.
def unassigned (chan : AxidmaChan) : AxidmaChan := {chan with chan := 0}

def Installed (table : List AxidmaChan) (dev : AxidmaDevice) : Prop :=
  dev.channels.map unassigned = table.map unassigned

def slot? : KernelCall → Option Int
  | .storeCbData slot _ => some slot
  | .dmaengineSubmit _ txd => some txd.callbackParam
  | _ => none

def Stores (slot : Int) (content : AxidmaCbData) (op : KernelCall) : Prop := op = .storeCbData slot content

-- cb_data has as many slots as the table has entries. The content of a slot
-- carries the id of the channel that it was written for.
structure SlotsSafe (table : List AxidmaChan) : Prop where
  inRange : ∀ dev caller (request : Request), Installed table dev →
    Does (fun op : KernelCall => ∀ slot, slot? op = some slot → 0 ≤ slot ∧ slot < table.length) (fun _ => True)
      (request.program dev caller)
  apart : ∀ dev caller (request : Request) dev' caller' (request' : Request), Installed table dev →
    Installed table dev' → ∀ slot content content', Somewhere (Stores slot content) (request.program dev caller) →
    Somewhere (Stores slot content') (request'.program dev' caller') →
    ∀ chan ∈ table, ∀ chan' ∈ table, chan.channelId = content.channelId → chan'.channelId = content'.channelId →
      chan = chan'

def IdsIndex (table : List AxidmaChan) : Prop :=
  ∀ chan ∈ table, 0 ≤ chan.channelId.toInt ∧ chan.channelId.toInt < table.length

section
variable {table : List AxidmaChan} {dev : AxidmaDevice} {caller : Caller} {request : Request}

theorem installed_member (installed : Installed table dev) {chan : AxidmaChan} (present : chan ∈ dev.channels) :
    ∃ parsed ∈ table, parsed.channelId = chan.channelId := by
  have mapped : unassigned chan ∈ table.map unassigned := installed ▸ List.mem_map_of_mem present
  obtain ⟨parsed,member,same⟩ := List.mem_map.mp mapped
  have ids := congrArg AxidmaChan.channelId same
  exact ⟨parsed,member,ids⟩

theorem sets_found {chan : AxidmaChan} {tfr : AxidmaTransfer} (set : Sets dev caller request chan tfr) :
    axidmaGetChan dev tfr.channelId = some chan ∧ tfr.cbData = tfr.channelId.toInt := by
  cases set with
  | read found _ _ => exact ⟨found,rfl⟩
  | write found _ _ => exact ⟨found,rfl⟩
  | transmit found _ _ => exact ⟨found,rfl⟩
  | receive found _ _ => exact ⟨found,rfl⟩
  | video found _ _ => exact ⟨found,rfl⟩

theorem sets_slot {chan : AxidmaChan} {tfr : AxidmaTransfer} (set : Sets dev caller request chan tfr) :
    chan ∈ dev.channels ∧ tfr.cbData = chan.channelId.toInt ∧ tfr.channelId = chan.channelId := by
  obtain ⟨found,index⟩ := sets_found set
  obtain ⟨member,named⟩ := found_member found
  exact ⟨member,by rw [index,named],named.symm⟩

theorem slotContent_channelId {tfr : AxidmaTransfer} : tfr.slotContent.channelId = tfr.channelId := by
  unfold AxidmaTransfer.slotContent
  cases tfr.wait <;> rfl

theorem requestCall_slot {op : KernelCall} {slot : Int} (call : RequestCall dev caller request op)
    (uses : slot? op = some slot) : ∃ chan tfr, Sets dev caller request chan tfr ∧ slot = tfr.cbData ∧
      ∀ content, Stores slot content op → content = tfr.slotContent := by
  rcases call with ⟨chan,tfr,set,call⟩ | ⟨_,_,_,rfl | ⟨_,rfl⟩⟩ | ⟨_,_,_,_,rfl⟩
  · refine ⟨chan,tfr,set,?_,?_⟩
    · cases op <;> simp_all [slot?,TransferCall]
    · intro content stores
      obtain rfl := stores
      exact call.2
  · cases uses
  · cases uses
  · cases uses

theorem stores_id {slot : Int} {content : AxidmaCbData}
    (somewhere : Somewhere (Stores slot content) (request.program dev caller)) :
    slot = content.channelId.toInt := by
  obtain ⟨op,call,rfl⟩ := request_calls.somewhere somewhere
  obtain ⟨chan,tfr,set,same,stored⟩ := requestCall_slot call rfl
  obtain ⟨_,index,named⟩ := sets_slot set
  rw [stored content rfl,slotContent_channelId,named,same,index]

theorem slotsSafe_of (indexed : IdsIndex table) (unique : (table.map (·.channelId)).Nodup) : SlotsSafe table := by
  refine ⟨fun dev caller request installed => ?_,?_⟩
  · refine request_calls.mono (fun op call slot uses => ?_) fun _ => id
    obtain ⟨chan,tfr,set,rfl,_⟩ := requestCall_slot call uses
    obtain ⟨present,index,_⟩ := sets_slot set
    obtain ⟨parsed,member,same⟩ := installed_member installed present
    rw [index,← same]
    exact indexed parsed member
  · intro dev caller request dev' caller' request' _ _ slot content content' stores stores' chan member chan' member' named named'
    have ids : content.channelId = content'.channelId :=
      BitVec.eq_of_toInt_eq ((stores_id stores).symm.trans (stores_id stores'))
    exact List.inj_on_of_nodup_map unique member member' (by rw [named,named',ids])

def oneBuffer : AxidmaDmaAllocation where
  node := 0
  size := 1
  userAddr := 0
  kernAddr := 0
  dmaAddr := 1
  session := 0

def withBuffer (dev : AxidmaDevice) : AxidmaDevice := {dev with dmabufList := [oneBuffer]}

theorem withBuffer_translates : axidmaInitSgEntry (withBuffer dev) 0 1 = .ok ⟨1,1,some (.dmabuf 0)⟩ := rfl

def transferOn (channelId : CInt) : AxidmaTransaction where
  wait := false
  channelId := channelId
  buf := 0
  bufLen := 1
  frame := ⟨0,0,0⟩

theorem oneway_stores (caller : Caller) {chan : AxidmaChan} (found : axidmaGetChan dev chan.channelId = some chan) :
    ∃ content, Somewhere (Stores chan.channelId.toInt content)
      (onewayTransfer chan.dir (withBuffer dev) caller (transferOn chan.channelId)) := by
  have found' : axidmaGetChan (withBuffer dev) (transferOn chan.channelId).channelId = some chan := found
  have translated : axidmaInitSgEntry (withBuffer dev) (transferOn chan.channelId).buf
      (transferOn chan.channelId).bufLen = .ok ⟨1,1,some (.dmabuf 0)⟩ := withBuffer_translates
  rw [oneway_found found' rfl translated]
  let tfr := onewayTfr (withBuffer dev) caller chan (transferOn chan.channelId) ⟨1,1,some (.dmabuf 0)⟩
  have first : tfr.sgList.head? = some ⟨1,1,some (.dmabuf 0)⟩ := rfl
  have stores : Somewhere (Stores tfr.cbData tfr.slotContent) (axidmaPrepTransfer chan tfr) := prep_stores first
  exact ⟨tfr.slotContent,somewhere_bind stores⟩

theorem getChan_unique (unique : (dev.channels.map (·.channelId)).Nodup) {chan : AxidmaChan}
    (present : chan ∈ dev.channels) : axidmaGetChan dev chan.channelId = some chan := by
  unfold axidmaGetChan
  cases found : dev.channels.find? fun other => decide (other.channelId = chan.channelId) with
  | none =>
    have absent := List.find?_eq_none.mp found chan present
    simp at absent
  | some other =>
    have member := List.mem_of_find?_eq_some found
    have same : other.channelId = chan.channelId := by simpa using List.find?_some found
    rw [List.inj_on_of_nodup_map unique member present same]

theorem indexed_of (safe : SlotsSafe dev.channels) (unique : (dev.channels.map (·.channelId)).Nodup) :
    IdsIndex dev.channels := by
  intro chan present
  have found := getChan_unique unique present
  obtain ⟨content,stores⟩ := oneway_stores ⟨0,0,0⟩ found
  have does : Does (fun op : KernelCall => ∀ slot, slot? op = some slot → 0 ≤ slot ∧ slot < dev.channels.length)
      (fun _ => True) (onewayTransfer chan.dir (withBuffer dev) ⟨0,0,0⟩ (transferOn chan.channelId)) := by
    cases dir : chan.dir with
    | read => exact safe.inRange (withBuffer dev) ⟨0,0,0⟩ (.read (transferOn chan.channelId)) rfl
    | write => exact safe.inRange (withBuffer dev) ⟨0,0,0⟩ (.write (transferOn chan.channelId)) rfl
  obtain ⟨op,inside,rfl⟩ := does.somewhere stores
  exact inside _ rfl

theorem accepted_table {tree : DriverNode} {fresh : AxidmaDevice}
    (accepted : axidmaOfParseDmaNodes tree fresh = .ok (0,dev)) :
    dev.numChans = fresh.numChans ∧ (dev.channels.map (·.channelId)).Nodup := by
  have ends : ChannelTable.Ends tree fresh.numChans (axidmaOfParseDmaNodes tree fresh) := ChannelTable.parse_ends
  rw [accepted] at ends
  generalize zero : (0 : Int) = rc at ends
  cases ends with
  | rejected _ _ _ negative => omega
  | passed _ _ size =>
    refine ⟨size,?_⟩
    rw [List.nodup_iff_pairwise_ne,List.pairwise_map]
    apply ChannelTable.idsClash_iff.mp
    cases clash : idsClash dev.channels with
    | false => rfl
    | true => simp [axidmaCheckUniqueIds,clash,EINVAL] at zero

theorem slotsSafe_iff_indexed {tree : DriverNode} {fresh dev : AxidmaDevice}
    (accepted : axidmaOfParseDmaNodes tree fresh = .ok (0,dev)) :
    SlotsSafe dev.channels ↔ ∀ chan ∈ dev.channels, 0 ≤ chan.channelId.toInt ∧ chan.channelId.toInt < fresh.numChans := by
  obtain ⟨size,unique⟩ := accepted_table accepted
  rw [← size]
  exact ⟨fun safe => indexed_of safe unique,fun indexed => slotsSafe_of indexed unique⟩

end

def receiver (deviceId : CInt) : DriverNode where
  dmaNames := .holds ["rx_channel"]
  dmas := .holds [.ok ⟨[⟨.holds deviceId,some (· = "xlnx,axi-dma-s2mm-channel")⟩],[0]⟩]

def receiverDevice (deviceId : CInt) : AxidmaDevice where
  numDmaTxChans := 0
  numDmaRxChans := 1
  numVdmaTxChans := 0
  numVdmaRxChans := 0
  notifySignal := 0
  channels := [⟨.read,.dma,deviceId,"rx_channel",0⟩]
  dmabufList := []
  externalDmabufs := []

theorem receiver_accepted (deviceId : CInt) :
    axidmaOfParseDmaNodes (receiver deviceId) ChannelTable.unparsed = .ok (0,receiverDevice deviceId) := by
  rfl

theorem slotsSafe_receiver : SlotsSafe (receiverDevice 0).channels ↔
    ∀ chan ∈ (receiverDevice 0).channels, 0 ≤ chan.channelId.toInt ∧
      chan.channelId.toInt < ChannelTable.unparsed.numChans :=
  slotsSafe_iff_indexed (receiver_accepted 0)

-- The accepted tree with the one id 1 has one slot, and its transfers use the next.
theorem id_beyond_table : axidmaOfParseDmaNodes (receiver 1) ChannelTable.unparsed = .ok (0,receiverDevice 1) ∧
    ¬ SlotsSafe (receiverDevice 1).channels := by
  refine ⟨receiver_accepted 1,fun safe => ?_⟩
  have indexed := indexed_of safe (by decide) _ (List.mem_singleton.mpr rfl)
  exact absurd indexed.2 (by decide)

end Axidma.CallbackSlots
