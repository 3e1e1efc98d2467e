import Axidma.ServedIoctls
import Axidma.CallbackDelivery

namespace Axidma.LibraryTransfers
open Interaction
open LibrarySessions
open ServedIoctls

def dirToIoctl : AxidmaDir → CInt
  | .read => AXIDMA_DMA_READ
  | .write => AXIDMA_DMA_WRITE

def axidmaOnewayTransfer (dev : AxidmaDev) (channel : CInt) (buf : UserAddr) (len : SizeT) (wait : Bool) : Library Int := do
  match findChannel dev channel with
  | none => Prog.fault .assertion
  | some dmaChan =>
  -- The frame of the structure on the stack is left as it is.
  let frame : AxidmaVideoFrame ← lcall .uninitialisedFrame
  let trans : AxidmaTransaction := {
    wait := wait
    channelId := channel
    buf := buf
    bufLen := len
    frame := frame }
  let rc : Int ← lcall (.ioctl dev.fd (dirToIoctl dmaChan.dir) (.transaction trans))
  if rc < 0 then
    return rc
  return 0

-- A frame that is not given is filled with bytes of all ones.
def givenFrame : Option AxidmaVideoFrame → AxidmaVideoFrame
  | some frame => frame
  | none => ⟨-1,-1,-1⟩

def axidmaTwowayTransfer (dev : AxidmaDev) (txChannel : CInt) (txBuf : UserAddr) (txLen : SizeT)
    (txFrame : Option AxidmaVideoFrame) (rxChannel : CInt) (rxBuf : UserAddr) (rxLen : SizeT)
    (rxFrame : Option AxidmaVideoFrame) (wait : Bool) : Library Int := do
  match findChannel dev txChannel with
  | none => Prog.fault .assertion
  | some txChan =>
  if txChan.dir ≠ .write then
    Prog.fault .assertion
  else
  match findChannel dev rxChannel with
  | none => Prog.fault .assertion
  | some rxChan =>
  if rxChan.dir ≠ .read then
    Prog.fault .assertion
  else
  let trans : AxidmaInoutTransaction := {
    wait := wait
    txChannelId := txChannel
    txBuf := txBuf
    txBufLen := txLen
    txFrame := givenFrame txFrame
    rxChannelId := rxChannel
    rxBuf := rxBuf
    rxBufLen := rxLen
    rxFrame := givenFrame rxFrame }
  lcall (.ioctl dev.fd AXIDMA_DMA_READWRITE (.inoutTransaction trans))

def axidmaVideoTransfer (dev : AxidmaDev) (displayChannel : CInt) (width height depth : SizeT)
    (frameBuffers : UserAddr) (numBuffers : CInt) : Library Int := do
  match findChannel dev displayChannel with
  | none => Prog.fault .assertion
  | some dmaChan =>
  if dmaChan.type ≠ .vdma then
    Prog.fault .assertion
  else
  let trans : UserVideoTransaction := {
    channelId := displayChannel
    numFrameBuffers := numBuffers
    frameBuffers := frameBuffers
    frame := ⟨height.setWidth 32,width.setWidth 32,depth.setWidth 32⟩ }
  let axidmaCmd := if dmaChan.dir = .read then AXIDMA_DMA_VIDEO_READ else AXIDMA_DMA_VIDEO_WRITE
  lcall (.ioctl dev.fd axidmaCmd (.videoTransaction trans))

def axidmaStopTransfer (dev : AxidmaDev) (channel : CInt) : Library Unit := do
  match findChannel dev channel with
  | none => Prog.fault .assertion
  | some dmaChan =>
  let chan : AxidmaChan ← lcall .uninitialisedChan
  let rc : Int ← lcall (.ioctl dev.fd AXIDMA_STOP_DMA_CHANNEL
    (.chan {chan with channelId := channel, dir := dmaChan.dir, type := dmaChan.type}))
  if rc < 0 then
    Prog.fault .assertion
  else
  return ()

inductive ChannelCall where
  | oneway (channel : CInt) (buf : UserAddr) (len : SizeT) (wait : Bool)
  | twoway (txChannel : CInt) (txBuf : UserAddr) (txLen : SizeT) (txFrame : Option AxidmaVideoFrame)
      (rxChannel : CInt) (rxBuf : UserAddr) (rxLen : SizeT) (rxFrame : Option AxidmaVideoFrame) (wait : Bool)
  | video (displayChannel : CInt) (width height depth : SizeT) (frameBuffers : UserAddr) (numBuffers : CInt)
  | stop (channel : CInt)

-- The function that returns nothing is given the result 0.
def ChannelCall.program (dev : AxidmaDev) : ChannelCall → Library Int
  | .oneway channel buf len wait => axidmaOnewayTransfer dev channel buf len wait
  | .twoway txChannel txBuf txLen txFrame rxChannel rxBuf rxLen rxFrame wait =>
    axidmaTwowayTransfer dev txChannel txBuf txLen txFrame rxChannel rxBuf rxLen rxFrame wait
  | .video displayChannel width height depth frameBuffers numBuffers =>
    axidmaVideoTransfer dev displayChannel width height depth frameBuffers numBuffers
  | .stop channel => do
    axidmaStopTransfer dev channel
    return 0

def ChannelCall.ids : ChannelCall → List CInt
  | .oneway channel _ _ _ => [channel]
  | .twoway txChannel _ _ _ rxChannel _ _ _ _ => [txChannel,rxChannel]
  | .video displayChannel _ _ _ _ _ => [displayChannel]
  | .stop channel => [channel]

-- The table that the driver's two queries hand out.
def driverTable (dev : AxidmaDevice) : DriverTable := ⟨axidmaGetNumChannels dev,axidmaGetChannelInfo dev,rfl⟩

-- The handle of a session: from init on, with any callbacks set since.
inductive Session (dev : AxidmaDevice) : AxidmaDev → Prop where
  | init {before lib : AxidmaDev}
      (executed : Exec (surroundings (driverTable dev)) (axidmaInit before) () (.returned (true,lib)) ()) : Session dev lib
  | setCallback {lib after : AxidmaDev} {channel : CInt} {callback : Option Nat} {data : Nat} (prior : Session dev lib)
      (ran : axidmaSetCallback lib channel callback data = .ret after) : Session dev after

-- The driver is handed the ids of the call, and acts on the entries that the
-- library found.
structure Agrees (dev : AxidmaDevice) (lib : AxidmaDev) (call : ChannelCall) (cmd : CInt) (arg : IoctlArg) : Prop where
  ids : argIds arg = call.ids
  entries : ∀ channelId ∈ call.ids, ∃ entry chan, findChannel lib channelId = some entry ∧
    axidmaGetChan dev channelId = some chan ∧ chan.channelId = entry.channelId ∧ chan.dir = entry.dir ∧ chan.type = entry.type
  acted : ∀ caller addr outcome after,
    Exec (client addr arg).recorded (axidmaIoctl dev caller cmd addr) ((),[]) outcome after → Acted dev arg outcome after.2

def Listed (dev : AxidmaDevice) (channelId : CInt) (fits : AxidmaChan → Prop) : Prop :=
  ∃ chan, dev.channels.find? (fun chan => decide (chan.channelId = channelId)) = some chan ∧ fits chan

-- The calls that the assertions of the library let through.
def Admissible (dev : AxidmaDevice) : ChannelCall → Prop
  | .oneway channel _ _ _ => Listed dev channel fun _ => True
  | .twoway txChannel _ _ _ rxChannel _ _ _ _ =>
    Listed dev txChannel (fun chan => chan.dir = .write) ∧ Listed dev rxChannel fun chan => chan.dir = .read
  | .video displayChannel _ _ _ _ _ => Listed dev displayChannel fun chan => chan.type = .vdma
  | .stop channel => Listed dev channel fun _ => True

-- The ioctl of a library call, if it is one.
def issued (event : Event libc) : Option (Int × CInt × IoctlArg) := match event.1 with
  | .ioctl fd cmd arg => some (fd,cmd,arg)
  | _ => none

-- A call that the assertions let through is one ioctl, any other stops at them.
structure ResolvesAlike (dev : AxidmaDevice) (lib : AxidmaDev) (call : ChannelCall) : Prop where
  through : Admissible dev call → Conforms history (fun past _ => ∃ cmd arg,
    past.filterMap issued = [(lib.fd,cmd,arg)] ∧ Agrees dev lib call cmd arg) [] (call.program lib)
  stopped : ¬ Admissible dev call →
    Does (fun op : LibraryCall => ∀ fd cmd arg, op ≠ .ioctl fd cmd arg) (fun outcome => outcome = .faulted .assertion) (call.program lib)
  unknown : (∃ channelId ∈ call.ids, ∀ chan ∈ dev.channels, chan.channelId ≠ channelId) →
    Does (fun op : LibraryCall => ∀ fd cmd arg, op ≠ .ioctl fd cmd arg) (fun outcome => outcome = .faulted .assertion) (call.program lib)

abbrev Key := CInt × AxidmaDir × AxidmaType

def libKey (chan : DmaChannel) : Key := (chan.channelId,chan.dir,chan.type)
def driverKey (chan : AxidmaChan) : Key := (chan.channelId,chan.dir,chan.type)

structure Copied (dev : AxidmaDevice) (lib : AxidmaDev) : Prop where
  count : lib.numChannels = lib.channels.length
  keys : lib.channels.map libKey = dev.channels.map driverKey

section
variable {dev : AxidmaDevice} {lib : AxidmaDev} {channelId : CInt}

-- A setting changes nothing of an entry that a lookup compares or reports.
theorem set_copied {channel : CInt} {callback : Option Nat} {data : Nat} {after : AxidmaDev} (copied : Copied dev lib)
    (ran : axidmaSetCallback lib channel callback data = .ret after) : Copied dev after := by
  unfold axidmaSetCallback at ran
  cases found : findChannel lib channel with
  | none =>
    simp only [found] at ran
    cases ran
  | some chan =>
    simp only [found] at ran
    split at ran
    · cases ran
      refine ⟨?_,?_⟩
      · simp [copied.count]
      · rw [← copied.keys]
        exact CallbackDelivery.modify_map fun _ => rfl
    · cases ran

theorem session_copied (session : Session dev lib) : Copied dev lib := by
  induction session with
  | init executed =>
    obtain ⟨count,copied⟩ := init_copies executed
    refine ⟨by rw [count,copied,List.length_map],?_⟩
    rw [copied,List.map_map]
    rfl
  | setCallback _ ran ih => exact set_copied ih ran

theorem same_entry (copied : Copied dev lib) (channelId : CInt) :
    (findChannel lib channelId).map libKey = (axidmaGetChan dev channelId).map driverKey := by
  have keys := congrArg (List.find? fun key : Key => decide (key.1 = channelId)) copied.keys
  rw [List.find?_map,List.find?_map] at keys
  rw [findChannel,copied.count,List.take_length]
  exact keys

theorem found_entry (copied : Copied dev lib) {entry : DmaChannel} (found : findChannel lib channelId = some entry) :
    ∃ chan, axidmaGetChan dev channelId = some chan ∧ chan.channelId = entry.channelId ∧ chan.dir = entry.dir ∧
      chan.type = entry.type := by
  have same := same_entry copied channelId
  rw [found] at same
  cases driver : axidmaGetChan dev channelId with
  | none =>
    rw [driver] at same
    cases same
  | some chan =>
    rw [driver] at same
    simp only [Option.map_some,Option.some.injEq,libKey,driverKey,Prod.mk.injEq] at same
    obtain ⟨ids,dirs,types⟩ := same
    exact ⟨chan,rfl,ids.symm,dirs.symm,types.symm⟩

end

section
variable {dev : AxidmaDevice} {lib : AxidmaDev} {call : ChannelCall}

theorem dir_acts {caller : Caller} {addr : UserAddr} {chan : AxidmaChan} {past : List (Event kernel)}
    {transaction : AxidmaTransaction} (begun : Begun past)
    (found : axidmaGetChan dev transaction.channelId = some chan) :
    Ensures (client addr (.transaction transaction)).recorded (Ending dev (.transaction transaction))
      (ioctlCommand dev caller (dirToIoctl chan.dir) addr) ((),past) := by
  cases fits : chan.dir with
  | read =>
    apply fetch_acts begun
    intro value past begun reads
    obtain rfl := reads
    exact begun.acts (oneway_served found fits) oneway_on (oneway_reaches found fits)
  | write =>
    apply fetch_acts begun
    intro value past begun reads
    obtain rfl := reads
    exact begun.acts (oneway_served found fits) oneway_on (oneway_reaches found fits)

theorem agrees_of {cmd : CInt} {arg : IoctlArg} (copied : Copied dev lib) (ids : argIds arg = call.ids)
    (found : ∀ channelId ∈ call.ids, ∃ entry, findChannel lib channelId = some entry)
    (magic : IOC_TYPE cmd = AXIDMA_IOCTL_MAGIC) (known : ¬ IOC_NR cmd ≥ AXIDMA_NUM_IOCTLS)
    (command : ∀ caller addr past, Begun past →
      Ensures (client addr arg).recorded (Ending dev arg) (ioctlCommand dev caller cmd addr) ((),past)) :
    Agrees dev lib call cmd arg := by
  refine ⟨ids,?_,?_⟩
  · intro channelId member
    obtain ⟨entry,entered⟩ := found channelId member
    obtain ⟨chan,present,same⟩ := found_entry copied entered
    exact ⟨entry,chan,entered,present,same⟩
  · intro caller addr outcome after executed
    exact ensures_iff.mp (ioctl_acts magic known (command caller addr)) outcome after executed

-- The library finds what is listed, with the fields that its assertions test.
theorem listed_found (copied : Copied dev lib) {channelId : CInt} {fits : AxidmaChan → Prop} (listed : Listed dev channelId fits) :
    ∃ entry chan, findChannel lib channelId = some entry ∧ axidmaGetChan dev channelId = some chan ∧ fits chan ∧
      chan.dir = entry.dir ∧ chan.type = entry.type := by
  obtain ⟨chan,present,holds⟩ := listed
  have same := same_entry copied channelId
  rw [show axidmaGetChan dev channelId = some chan from present] at same
  obtain ⟨entry,entered,keys⟩ := Option.map_eq_some_iff.mp same
  simp only [libKey,driverKey,Prod.mk.injEq] at keys
  exact ⟨entry,chan,entered,present,holds,keys.2.1.symm,keys.2.2.symm⟩

theorem found_listed (copied : Copied dev lib) {channelId : CInt} {entry : DmaChannel} {fits : AxidmaChan → Prop}
    (found : findChannel lib channelId = some entry)
    (holds : ∀ chan : AxidmaChan, chan.dir = entry.dir → chan.type = entry.type → fits chan) : Listed dev channelId fits := by
  obtain ⟨chan,present,_,dirs,types⟩ := found_entry copied found
  exact ⟨chan,present,holds chan dirs types⟩

theorem dir_magic (dir : AxidmaDir) : IOC_TYPE (dirToIoctl dir) = AXIDMA_IOCTL_MAGIC ∧ ¬ IOC_NR (dirToIoctl dir) ≥ AXIDMA_NUM_IOCTLS := by
  cases dir <;> decide

theorem oneway_through (copied : Copied dev lib) {channel : CInt} {buf : UserAddr} {len : SizeT} {wait : Bool}
    (listed : Listed dev channel fun _ => True) :
    Conforms history (fun past _ => ∃ cmd arg, past.filterMap issued = [(lib.fd,cmd,arg)] ∧
      Agrees dev lib (.oneway channel buf len wait) cmd arg) [] (axidmaOnewayTransfer lib channel buf len wait) := by
  obtain ⟨entry,chan,entered,present,_,dirs,_⟩ := listed_found copied listed
  unfold axidmaOnewayTransfer
  simp only [entered]
  refine ⟨trivial,fun frame _ => ⟨trivial,fun rc _ => ?_⟩⟩
  have agrees : Agrees dev lib (.oneway channel buf len wait) (dirToIoctl entry.dir) (.transaction ⟨wait,channel,buf,len,frame⟩) := by
    apply agrees_of copied rfl _ (dir_magic _).1 (dir_magic _).2
    · intro caller addr past begun
      rw [← dirs]
      exact dir_acts begun present
    · intro channelId member
      rw [List.mem_singleton.mp member]
      exact ⟨entry,entered⟩
  exact conforms_if (fun _ => ⟨_,_,rfl,agrees⟩) fun _ => ⟨_,_,rfl,agrees⟩

theorem twoway_through (copied : Copied dev lib) {txChannel rxChannel : CInt} {txBuf rxBuf : UserAddr} {txLen rxLen : SizeT}
    {txFrame rxFrame : Option AxidmaVideoFrame} {wait : Bool} (transmits : Listed dev txChannel fun chan => chan.dir = .write)
    (receives : Listed dev rxChannel fun chan => chan.dir = .read) :
    Conforms history (fun past _ => ∃ cmd arg, past.filterMap issued = [(lib.fd,cmd,arg)] ∧
      Agrees dev lib (.twoway txChannel txBuf txLen txFrame rxChannel rxBuf rxLen rxFrame wait) cmd arg) []
      (axidmaTwowayTransfer lib txChannel txBuf txLen txFrame rxChannel rxBuf rxLen rxFrame wait) := by
  obtain ⟨txEntry,txChan,enteredTx,presentTx,write,dirsTx,_⟩ := listed_found copied transmits
  obtain ⟨rxEntry,rxChan,enteredRx,presentRx,read,dirsRx,_⟩ := listed_found copied receives
  unfold axidmaTwowayTransfer
  simp only [enteredTx,enteredRx]
  rw [if_neg (not_not.mpr (dirsTx.symm.trans write)),if_neg (not_not.mpr (dirsRx.symm.trans read))]
  refine ⟨trivial,fun rc _ => ⟨_,_,rfl,?_⟩⟩
  apply agrees_of copied rfl
  · intro channelId member
    rcases List.mem_pair.mp member with rfl | rfl
    · exact ⟨txEntry,enteredTx⟩
    · exact ⟨rxEntry,enteredRx⟩
  · decide
  · decide
  · exact fun caller addr past begun => rw_acts begun presentTx write presentRx read

theorem video_through (copied : Copied dev lib) {displayChannel : CInt} {width height depth : SizeT}
    {frameBuffers : UserAddr} {numBuffers : CInt} (listed : Listed dev displayChannel fun chan => chan.type = .vdma) :
    Conforms history (fun past _ => ∃ cmd arg, past.filterMap issued = [(lib.fd,cmd,arg)] ∧
      Agrees dev lib (.video displayChannel width height depth frameBuffers numBuffers) cmd arg) []
      (axidmaVideoTransfer lib displayChannel width height depth frameBuffers numBuffers) := by
  obtain ⟨entry,chan,entered,present,display,dirs,types⟩ := listed_found copied listed
  unfold axidmaVideoTransfer
  simp only [entered]
  rw [if_neg (not_not.mpr (types.symm.trans display))]
  refine ⟨trivial,fun rc _ => ⟨_,_,rfl,?_⟩⟩
  have acts := fun caller addr past begun => @video_acts dev caller addr chan past
    ⟨displayChannel,numBuffers,frameBuffers,⟨height.setWidth 32,width.setWidth 32,depth.setWidth 32⟩⟩ begun present display
  have ids : ∀ channelId ∈ (ChannelCall.video displayChannel width height depth frameBuffers numBuffers).ids,
      ∃ entry, findChannel lib channelId = some entry := by
    intro channelId member
    rw [List.mem_singleton.mp member]
    exact ⟨entry,entered⟩
  cases dir : chan.dir with
  | read =>
    rw [if_pos (dirs.symm.trans dir)]
    rw [dir] at acts
    exact agrees_of copied rfl ids (by decide) (by decide) acts
  | write =>
    rw [if_neg (by rw [← dirs,dir]; decide)]
    rw [dir] at acts
    exact agrees_of copied rfl ids (by decide) (by decide) acts

theorem stop_through (copied : Copied dev lib) {channel : CInt} (listed : Listed dev channel fun _ => True) :
    Conforms history (fun past _ => ∃ cmd arg, past.filterMap issued = [(lib.fd,cmd,arg)] ∧
      Agrees dev lib (.stop channel) cmd arg) [] (axidmaStopTransfer lib channel) := by
  obtain ⟨entry,chan,entered,present,_⟩ := listed_found copied listed
  unfold axidmaStopTransfer
  simp only [entered]
  refine ⟨trivial,fun garbage _ => ⟨trivial,fun rc _ => ?_⟩⟩
  have agrees : Agrees dev lib (.stop channel) AXIDMA_STOP_DMA_CHANNEL
      (.chan {garbage with channelId := channel, dir := entry.dir, type := entry.type}) := by
    apply agrees_of copied rfl
    · intro channelId member
      rw [List.mem_singleton.mp member]
      exact ⟨entry,entered⟩
    · decide
    · decide
    · exact fun caller addr past begun => stop_acts begun present
  exact conforms_if (fun _ => ⟨_,_,rfl,agrees⟩) fun _ => ⟨_,_,rfl,agrees⟩

-- A call that an assertion of the library does not let through ends there.
theorem inadmissible_stops (copied : Copied dev lib) (refused : ¬ Admissible dev call) :
    Does (fun op : LibraryCall => ∀ fd cmd arg, op ≠ .ioctl fd cmd arg) (fun outcome => outcome = .faulted .assertion)
      (call.program lib) := by
  cases call with
  | oneway channel buf len wait =>
    simp only [ChannelCall.program,axidmaOnewayTransfer]
    cases entered : findChannel lib channel with
    | none => rfl
    | some entry => exact absurd (found_listed copied entered fun _ _ _ => trivial) refused
  | twoway txChannel txBuf txLen txFrame rxChannel rxBuf rxLen rxFrame wait =>
    simp only [ChannelCall.program,axidmaTwowayTransfer]
    cases enteredTx : findChannel lib txChannel with
    | none => rfl
    | some txEntry =>
      refine does_if (fun _ => rfl) fun write => ?_
      cases enteredRx : findChannel lib rxChannel with
      | none => rfl
      | some rxEntry =>
        refine does_if (fun _ => rfl) fun read => absurd ⟨?_,?_⟩ refused
        · exact found_listed copied enteredTx fun _ dirs _ => dirs.trans (not_not.mp write)
        · exact found_listed copied enteredRx fun _ dirs _ => dirs.trans (not_not.mp read)
  | video displayChannel width height depth frameBuffers numBuffers =>
    simp only [ChannelCall.program,axidmaVideoTransfer]
    cases entered : findChannel lib displayChannel with
    | none => rfl
    | some entry =>
      refine does_if (fun _ => rfl) fun display => absurd ?_ refused
      exact found_listed copied entered fun _ _ types => types.trans (not_not.mp display)
  | stop channel =>
    simp only [ChannelCall.program,axidmaStopTransfer]
    cases entered : findChannel lib channel with
    | none => rfl
    | some entry => exact absurd (found_listed copied entered fun _ _ _ => trivial) refused

theorem unlisted {channelId : CInt} {fits : AxidmaChan → Prop} (unknown : ∀ chan ∈ dev.channels, chan.channelId ≠ channelId) :
    ¬ Listed dev channelId fits := by
  rintro ⟨chan,present,_⟩
  exact unknown chan (List.mem_of_find?_eq_some present) (by simpa using List.find?_some present)

theorem unknown_inadmissible {channelId : CInt} (named : channelId ∈ call.ids)
    (unknown : ∀ chan ∈ dev.channels, chan.channelId ≠ channelId) : ¬ Admissible dev call := by
  cases call with
  | oneway channel buf len wait => exact List.mem_singleton.mp named ▸ unlisted unknown
  | twoway txChannel txBuf txLen txFrame rxChannel rxBuf rxLen rxFrame wait =>
    rcases List.mem_pair.mp named with rfl | rfl
    · exact fun both => unlisted unknown both.1
    · exact fun both => unlisted unknown both.2
  | video displayChannel width height depth frameBuffers numBuffers => exact List.mem_singleton.mp named ▸ unlisted unknown
  | stop channel => exact List.mem_singleton.mp named ▸ unlisted unknown

theorem resolves_alike (session : Session dev lib) (call : ChannelCall) : ResolvesAlike dev lib call := by
  have copied := session_copied session
  refine ⟨?_,inadmissible_stops copied,?_⟩
  · intro admissible
    cases call with
    | oneway channel buf len wait => exact oneway_through copied admissible
    | twoway txChannel txBuf txLen txFrame rxChannel rxBuf rxLen rxFrame wait =>
      exact twoway_through copied admissible.1 admissible.2
    | video displayChannel width height depth frameBuffers numBuffers => exact video_through copied admissible
    | stop channel =>
      refine conforms_bind.mpr ((stop_through copied admissible).mono ?_)
      intro past outcome agrees
      cases outcome with
      | returned _ => exact agrees
      | faulted error => exact agrees
  · rintro ⟨channelId,named,unknown⟩
    exact inadmissible_stops copied (unknown_inadmissible named unknown)

end

def opened : AxidmaDev := {built {zeroedDev with fd := 0} (driverTable Translation.onePage) with initialized := true}

theorem opened_session : Session Translation.onePage opened := .init (first_succeeds (by decide))

theorem write_resolves_alike : ResolvesAlike Translation.onePage opened (.oneway 0 0x10000 0x800 false) :=
  resolves_alike opened_session _

end Axidma.LibraryTransfers
