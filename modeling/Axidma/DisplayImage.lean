import Axidma.ClientPrograms
import Axidma.ParsedNumbers

namespace Axidma.DisplayImage
open Interaction Ledger
open BitPacking RobustTransfer ParsedNumbers ClientPrograms

def DEFAULT_IMAGE_WIDTH : CInt := 640
def DEFAULT_IMAGE_HEIGHT : CInt := 480

-- The options as getopt hands them out. The file has a copy of parse_int of its own.
inductive GivenOption where
  | w (optarg : List (BitVec 8))
  | i (optarg : List (BitVec 8))
  | t (optarg : List (BitVec 8))
  | h
  | unknown

structure Settings where
  imageWidth : CInt
  imageHeight : CInt
  txChannel : CInt

structure Arguments where
  imagePath : Path
  imageWidth : CInt
  imageHeight : CInt
  txChannel : CInt

def parseOption (settings : Settings) : GivenOption → Except Stop Settings
  | .w optarg => withInt id optarg fun width => {settings with imageWidth := width}
  | .i optarg => withInt id optarg fun height => {settings with imageHeight := height}
  | .t optarg => withInt id optarg fun txChannelId => {settings with txChannel := txChannelId}
  | .h => .error .help
  | .unknown => .error (.failed (-EINVAL))

def parseArgs (options : List GivenOption) (operands : List Path) : Except Stop Arguments := do
  if options.isEmpty && operands.isEmpty then
    .error (.failed (-EINVAL))
  else
  let settings ← options.foldlM parseOption ⟨DEFAULT_IMAGE_WIDTH,DEFAULT_IMAGE_HEIGHT,-1⟩
  match operands with
  | [imagePath] =>
    if settings.imageWidth.toInt ≤ 0 then .error (.failed (-EINVAL))
    else if settings.imageHeight.toInt ≤ 0 then .error (.failed (-EINVAL))
    else .ok ⟨imagePath,settings.imageWidth,settings.imageHeight,settings.txChannel⟩
  | _ => .error (.failed (-EINVAL))

-- The product of the two ints wraps, and so does what is left of it in an int.
def Arguments.imageByteSize (args : Arguments) : CInt := ((args.imageWidth*args.imageHeight).signExtend 64*4).setWidth 32

def findDmaChannel (axidmaFd : Int) : Library Int := do
  let (rc,numChan) ← lcall (.getNumDmaChannels axidmaFd)
  if rc < 0 then
    return rc
  else if numChan.numChannels = 0 then
    return -ENODEV
  else
  let allocated : Bool ← lcall (.malloc .channels numChan.numChannels)
  if !allocated then
    return -ENOMEM
  else
  let (rc,channels) ← lcall (.getDmaChannels axidmaFd numChan.numChannels)
  if rc < 0 then
    lcall (.free .channels)
    return rc
  else
  match channels.1.find? fun chan => decide (chan.dir = .write ∧ chan.type = .dma) with
  | some _ =>
    -- The id is read from the list after the list was freed.
    lcall (.free .channels)
    let chan ← lcall .uninitialisedChan
    return chan.channelId.toInt
  | none =>
    lcall (.free .channels)
    return -ENODEV

def closeImage (imageFd : Int) (rc : Int) : Program Int := do
  let _ : Int ← inProgram (lcall (.close imageFd))
  return rc

def closeAxidma (axidmaFd imageFd : Int) (rc : Int) : Program Int := do
  let _ : Int ← inProgram (lcall (.close axidmaFd))
  closeImage imageFd rc

def freeImageBuf (imageBuf : UserAddr) (imageByteSize : CInt) (axidmaFd imageFd : Int) (rc : Int) : Program Int := do
  let _ : Int ← pcall (.munmap imageBuf (imageByteSize.signExtend 64))
  closeAxidma axidmaFd imageFd rc

-- From the buffer on. frameBuffers is the address of the variable that points to it.
def withBuffer (frameBuffers : UserAddr) (args : Arguments) (txChannel : CInt) (imageBuf : UserAddr) (axidmaFd imageFd : Int) :
    Program Int := do
  let imageByteSize := args.imageByteSize
  let (rc,stSize) ← pcall (.fstat imageFd)
  if rc < 0 then
    freeImageBuf imageBuf imageByteSize axidmaFd imageFd 1
  else if stSize.toInt < imageByteSize.toInt then
    freeImageBuf imageBuf imageByteSize axidmaFd imageFd 1
  else
  let (rc,_) ← pcall (.readImage imageFd imageBuf imageByteSize)
  if rc < 0 then
    freeImageBuf imageBuf imageByteSize axidmaFd imageFd (-1)
  else
  let trans : UserVideoTransaction := ⟨txChannel,1,frameBuffers,⟨args.imageHeight,args.imageWidth,4⟩⟩
  let rc : Int ← inProgram (lcall (.ioctl axidmaFd AXIDMA_DMA_VIDEO_WRITE (.videoTransaction trans)))
  if rc < 0 then
    freeImageBuf imageBuf imageByteSize axidmaFd imageFd (-1)
  else
  -- The wait for the user is left out.
  let chanInfo : AxidmaChan ← inProgram (lcall .uninitialisedChan)
  let chanInfo := {chanInfo with channelId := txChannel, dir := .write, type := .dma}
  let rc : Int ← inProgram (lcall (.ioctl axidmaFd AXIDMA_STOP_DMA_CHANNEL (.chan chanInfo)))
  if rc < 0 then
    freeImageBuf imageBuf imageByteSize axidmaFd imageFd (-1)
  else
  freeImageBuf imageBuf imageByteSize axidmaFd imageFd 0

def MAP_FAILED : UserAddr := -1
def POINTER_SIZE : Nat := 8

def pointerBytes (pointer : UserAddr) : Buffer := fun k => pointer.extractLsb' (8*k) 8

def withChannel (frameBuffers : UserAddr) (args : Arguments) (txChannel : CInt) (axidmaFd imageFd : Int) : Program Int := do
  let imageBuf : Option UserAddr ← pcall (.mmap axidmaFd (args.imageByteSize.signExtend 64))
  pcall (.store frameBuffers POINTER_SIZE (pointerBytes (imageBuf.getD MAP_FAILED)))
  match imageBuf with
  | none => closeAxidma axidmaFd imageFd 1
  | some imageBuf => withBuffer frameBuffers args txChannel imageBuf axidmaFd imageFd

def main (frameBuffers : UserAddr) (options : List GivenOption) (operands : List Path) : Program Int := do
  match parseArgs options operands with
  | .error (.failed _) => return 1
  | .error .help => Prog.fault (.exited 0)
  | .error .undefined => Prog.fault .undefined
  | .ok args =>
  let imageFd : Int ← pcall (.openPath args.imagePath false)
  if imageFd < 0 then
    return 1
  else
  let axidmaFd : Int ← inProgram (lcall .openDevice)
  if axidmaFd < 0 then
    closeImage imageFd 1
  else if args.txChannel = -1 then
    let txChannel ← inProgram (findDmaChannel axidmaFd)
    if txChannel < 0 then
      -- The device stays open.
      closeImage imageFd txChannel
    else
      withChannel frameBuffers args (BitVec.ofInt 32 txChannel) axidmaFd imageFd
  else
    withChannel frameBuffers args args.txChannel axidmaFd imageFd

-- Why there is no channel to be found. An id that was freed can be anything.
inductive Channelless (occurs : Event libc → Prop) (axidmaFd : Int) : Int → Prop where
  | uncounted {rc : Int} {numChan : AxidmaNumChannels} (failed : rc < 0)
      (answered : occurs ⟨.getNumDmaChannels axidmaFd,(rc,numChan)⟩) : Channelless occurs axidmaFd rc
  | empty {rc : Int} {numChan : AxidmaNumChannels} (none : numChan.numChannels = 0)
      (answered : occurs ⟨.getNumDmaChannels axidmaFd,(rc,numChan)⟩) : Channelless occurs axidmaFd (-ENODEV)
  | unallocated {count : Nat} (answered : occurs ⟨.malloc .channels count,false⟩) : Channelless occurs axidmaFd (-ENOMEM)
  | unlisted {rc : Int} {count : Nat} {channels : {channels : List AxidmaChan // channels.length = count}} (failed : rc < 0)
      (answered : occurs ⟨.getDmaChannels axidmaFd count,(rc,channels)⟩) : Channelless occurs axidmaFd rc
  | unfit {rc : Int} {count : Nat} {channels : {channels : List AxidmaChan // channels.length = count}}
      (none : ∀ chan ∈ channels.1, ¬ (chan.dir = .write ∧ chan.type = .dma))
      (answered : occurs ⟨.getDmaChannels axidmaFd count,(rc,channels)⟩) : Channelless occurs axidmaFd (-ENODEV)
  | freed {chan : AxidmaChan} (answered : occurs ⟨.uninitialisedChan,chan⟩) : Channelless occurs axidmaFd chan.channelId.toInt

-- What may be left: the buffer if the kernel did not take it back, which is not
-- checked, and the device if no channel was found.
inductive Leftover (occurs : Event process → Prop) (args : Arguments) : Int → List Held → Prop where
  | nothing {rc : Int} : Leftover occurs args rc []
  | mapped {rc reply : Int} {imageBuf : UserAddr} (failed : reply < 0)
      (answered : occurs ⟨.munmap imageBuf (args.imageByteSize.signExtend 64),reply⟩) :
      Leftover occurs args rc [.mapping imageBuf (args.imageByteSize.signExtend 64)]
  | opened {rc axidmaFd : Int} (failed : rc < 0) (search : args.txChannel = -1) (answered : occurs ⟨.library .openDevice,axidmaFd⟩)
      (none : Channelless (ofLibc occurs) axidmaFd rc) : Leftover occurs args rc [.descriptor axidmaFd]

-- A display of the mapped buffer, which the variable points to and which has the image.
structure ShowsImage (occurs : Event process → Prop) (frameBuffers : UserAddr) (args : Arguments) (image : Inode) (imageBuf : UserAddr)
    (shown : Shown) : Prop where
  mapped : ∃ axidmaFd, occurs ⟨.mmap axidmaFd (args.imageByteSize.signExtend 64),some imageBuf⟩
  request : ∃ txChannel, shown.request = ⟨txChannel,1,frameBuffers,⟨args.imageHeight,args.imageWidth,4⟩⟩
  pointed : ∀ k, k < POINTER_SIZE → shown.memory (frameBuffers.toNat+k) = pointerBytes imageBuf k
  bytes : ∀ k, k < args.imageByteSize.toInt.toNat → shown.memory (imageBuf.toNat+k) = image.contents k

-- The one display of the run shows the image, which the file is long enough for.
structure Filled (occurs : Event process → Prop) (frameBuffers : UserAddr) (args : Arguments) (s after : Host) : Prop where
  positive : 0 < args.imageByteSize.toInt
  long : args.imageByteSize.toInt.toNat ≤ (s.disk args.imagePath).size
  shows : ∃ imageBuf shown, ShowsImage occurs frameBuffers args (s.disk args.imagePath) imageBuf shown ∧ after.shown = shown :: s.shown

inductive ArgsEnd (occurs : Event process → Prop) (frameBuffers : UserAddr) (args : Arguments) (s : Host) :
    Outcome Abort Int → Host → Prop where
  | returned {rc : Int} {after : Host} {left : List Held} (leftover : Leftover occurs args rc left) (owes : Owes s.account left after.account)
      (disk : after.disk = s.disk) (filled : rc = 0 → Mapped s frameBuffers POINTER_SIZE → Filled occurs frameBuffers args s after) :
      ArgsEnd occurs frameBuffers args s (.returned rc) after
  | aborted {error : Abort} {after : Host} : ArgsEnd occurs frameBuffers args s (.faulted error) after

inductive MainEnds (occurs : Event process → Prop) (frameBuffers : UserAddr) (options : List GivenOption) (operands : List Path) (s : Host) :
    Outcome Abort Int → Host → Prop where
  | refused : MainEnds occurs frameBuffers options operands s (.returned 1) s
  | ran {args : Arguments} {outcome : Outcome Abort Int} {after : Host} (parsed : parseArgs options operands = .ok args)
      (ends : ArgsEnd occurs frameBuffers args s outcome after) : MainEnds occurs frameBuffers options operands s outcome after
  | aborted {error : Abort} {after : Host} : MainEnds occurs frameBuffers options operands s (.faulted error) after

section
variable {α : Type} {fabric : List (BitVec 8) → List (BitVec 8)} {occurs : Event process → Prop} {before : Account Held}
  {things : List Held} {s origin : Host} {post : Outcome Abort α → Host → Prop} {frameBuffers imageBuf : UserAddr} {args : Arguments}
  {txChannel : CInt} {imageFd axidmaFd rc : Int}

theorem findDmaChannel_ends {occurs : Event libc → Prop} (owes : Owes before things s.account) :
    Ensures ((libcMachine fabric).only occurs) (fun outcome after => Quiet s after ∧ Owes before things after.account ∧
      ∀ rc, outcome = .returned rc → rc < 0 → Channelless occurs axidmaFd rc) (findDmaChannel axidmaFd) s := by
  have why : ∀ {rc : Int}, Channelless occurs axidmaFd rc → ∀ rc', (.returned rc : Outcome LibraryFault Int) = .returned rc' → rc' < 0 →
      Channelless occurs axidmaFd rc' := by
    intro rc channelless rc' same _
    cases same
    exact channelless
  unfold findDmaChannel
  intro count counted
  refine ensures_if (fun failed => ⟨.refl s,owes,why (.uncounted failed counted.2)⟩) fun _ => ?_
  refine ensures_if (fun none => ⟨.refl s,owes,why (.empty none counted.2)⟩) fun _ => ?_
  intro allocated answered
  cases allocated with
  | false => exact ⟨.refl s,owes,why (.unallocated answered.2)⟩
  | true =>
    have taken : Owes before (.block .channels :: things) (s.account.take (.block .channels)) := owes.take
    intro table listed
    refine ensures_if (fun failed => ?_) fun _ => ?_
    · exact free_then taken fun after quiet owes =>
        ⟨⟨quiet.memory,quiet.disk,quiet.opened,quiet.shown⟩,owes,why (.unlisted failed listed.2)⟩
    cases found : table.2.1.find? fun chan => decide (chan.dir = .write ∧ chan.type = .dma) with
    | some _ =>
      exact free_then taken fun after quiet owes chan read =>
        ⟨⟨quiet.memory,quiet.disk,quiet.opened,quiet.shown⟩,owes,why (.freed read.2)⟩
    | none =>
      have unfit : ∀ chan ∈ table.2.1, ¬ (chan.dir = .write ∧ chan.type = .dma) :=
        fun chan member fits => List.find?_eq_none.mp found chan member (decide_eq_true fits)
      exact free_then taken fun after quiet owes =>
        ⟨⟨quiet.memory,quiet.disk,quiet.opened,quiet.shown⟩,owes,why (.unfit unfit listed.2)⟩

theorem image_then {fd : Int} {buf : UserAddr} {size : CInt} {path : Path} {rest : Int × List Result → Program α}
    (entry : s.opened fd = some (path,0)) (positive : 0 < size.toInt)
    (next : ∀ rc results after, after.account = s.account → after.disk = s.disk → after.shown = s.shown →
      (∀ n, n < buf.toNat ∨ buf.toNat+size.toInt.toNat ≤ n → after.memory n = s.memory n) →
      (¬ rc < 0 → ∀ k, k < min size.toInt.toNat (s.disk path).size → after.view buf k = (s.disk path).contents k) →
      Ensures ((host fabric).only occurs) post (rest (rc,results)) after) :
    Ensures ((host fabric).only occurs) post (pcall (.readImage fd buf size) >>= rest) s := by
  intro reply given
  obtain ⟨rc,results⟩ := reply
  obtain ⟨⟨delivers,ended⟩,_⟩ := given
  refine next rc results _ rfl rfl rfl (fun n beside => put_beside beside) ?_
  intro fine k inside
  have file : s.file fd = ⟨(s.disk path).contents,0⟩ := by rw [Host.file,entry]
  have left : s.remaining fd = (s.disk path).size := by rw [Host.remaining,entry]; rfl
  rw [left] at delivers
  rw [file] at ended
  have whole : size.toInt = (0 : Nat)+(size.toInt.toNat : Nat) := by omega
  have same : size.toInt = (size.toInt.toNat : Nat) := by omega
  have wanted : size.toInt.toNat ≠ 0 := by omega
  have moved := @image_delivers _ readBytes 0 size.toInt.toNat (s.disk path).size (s.view buf,⟨(s.disk path).contents,0⟩) results rc
    readBytes_compose wanted delivers
  rw [← whole,← same] at moved
  refine (view_put (Nat.lt_of_lt_of_le inside (Nat.min_le_left _ _))).trans ?_
  rw [file,show (readImage ⟨(s.disk path).contents,0⟩ (s.view buf) size.toInt results).state = _ from moved ended (Int.not_lt.mp fine)]
  exact read_back inside

theorem closeImage_ends {post : Outcome Abort Int → Host → Prop} (owes : Owes before (.descriptor imageFd :: things) s.account)
    (done : ∀ after, Quiet s after → Owes before things after.account → post (.returned rc) after) :
    Ensures ((host fabric).only occurs) post (closeImage imageFd rc) s := fun _ _ => done _ ⟨rfl,rfl,rfl,rfl⟩ owes.giveBack

theorem closeAxidma_ends {post : Outcome Abort Int → Host → Prop}
    (owes : Owes before (.descriptor axidmaFd :: .descriptor imageFd :: things) s.account)
    (done : ∀ after, Quiet s after → Owes before things after.account → post (.returned rc) after) :
    Ensures ((host fabric).only occurs) post (closeAxidma axidmaFd imageFd rc) s := by
  intro reply _
  have closed : Owes before (.descriptor imageFd :: things) (s.account.giveBack (.descriptor axidmaFd)) := owes.giveBack
  exact @closeImage_ends fabric occurs before things {s with account := s.account.giveBack (.descriptor axidmaFd)} imageFd rc _ closed
    fun after quiet owes => done after ⟨quiet.memory,quiet.disk,quiet.opened,quiet.shown⟩ owes

theorem freeImageBuf_ends (same : s.disk = origin.disk) (owes : Owes origin.account
      (.mapping imageBuf (args.imageByteSize.signExtend 64) :: .descriptor axidmaFd :: [.descriptor imageFd]) s.account)
    (filled : rc = 0 → Mapped origin frameBuffers POINTER_SIZE → Filled occurs frameBuffers args origin s) :
    Ensures ((host fabric).only occurs) (ArgsEnd occurs frameBuffers args origin)
      (freeImageBuf imageBuf args.imageByteSize axidmaFd imageFd rc) s := by
  have kept : ∀ after, Quiet s after → rc = 0 → Mapped origin frameBuffers POINTER_SIZE →
      Filled occurs frameBuffers args origin after := by
    intro after quiet zero stack
    obtain ⟨positive,long,shows⟩ := filled zero stack
    rw [← quiet.shown] at shows
    exact ⟨positive,long,shows⟩
  intro reply answered
  by_cases freed : (0 : Int) ≤ reply
  · have performed : ((host fabric).only occurs).perform s (.munmap imageBuf (args.imageByteSize.signExtend 64)) reply =
        {s with account := s.account.giveBack (.mapping imageBuf (args.imageByteSize.signExtend 64))} := if_pos freed
    rw [performed]
    refine closeAxidma_ends owes.giveBack fun after quiet owes => ?_
    exact .returned .nothing owes (quiet.disk.trans same) (kept after ⟨quiet.memory,quiet.disk,quiet.opened,quiet.shown⟩)
  · have performed : ((host fabric).only occurs).perform s (.munmap imageBuf (args.imageByteSize.signExtend 64)) reply = s := if_neg freed
    rw [performed]
    refine closeAxidma_ends (owes.perm (List.perm_append_comm : List.Perm ([_]++[_,_]) _)) fun after quiet owes => ?_
    exact .returned (.mapped (Int.not_le.mp freed) answered.2) owes (quiet.disk.trans same) (kept after quiet)

theorem display_performed {fd rc : Int} {request : UserVideoTransaction} :
    ((host fabric).only occurs).perform s (.library (.ioctl fd AXIDMA_DMA_VIDEO_WRITE (.videoTransaction request))) rc =
      if AXIDMA_DMA_VIDEO_WRITE = AXIDMA_DMA_VIDEO_WRITE ∧ (0 : Int) ≤ rc then {s with shown := ⟨request,s.memory⟩ :: s.shown} else s := rfl

structure Points (occurs : Event process → Prop) (frameBuffers : UserAddr) (args : Arguments) (imageBuf : UserAddr) (origin s : Host) :
    Prop where
  mapped : ∃ axidmaFd, occurs ⟨.mmap axidmaFd (args.imageByteSize.signExtend 64),some imageBuf⟩
  room : 0 < (args.imageByteSize.signExtend 64).toNat ∧ (args.imageByteSize.signExtend 64).toNat < 2^63
  clear : Mapped origin frameBuffers POINTER_SIZE → frameBuffers.toNat+POINTER_SIZE ≤ imageBuf.toNat ∨
    imageBuf.toNat+(args.imageByteSize.signExtend 64).toNat ≤ frameBuffers.toNat
  pointed : ∀ k, k < POINTER_SIZE → s.memory (frameBuffers.toNat+k) = pointerBytes imageBuf k

theorem withBuffer_ends (input : s.opened imageFd = some (args.imagePath,0)) (same : s.disk = origin.disk) (unshown : s.shown = origin.shown)
    (points : Points occurs frameBuffers args imageBuf origin s) (owes : Owes origin.account
      (.mapping imageBuf (args.imageByteSize.signExtend 64) :: .descriptor axidmaFd :: [.descriptor imageFd]) s.account) :
    Ensures ((host fabric).only occurs) (ArgsEnd occurs frameBuffers args origin)
      (withBuffer frameBuffers args txChannel imageBuf axidmaFd imageFd) s := by
  have failing : ∀ {rc : Int} (t : Host), rc ≠ 0 → t.account = s.account → t.disk = s.disk →
      Ensures ((host fabric).only occurs) (ArgsEnd occurs frameBuffers args origin)
        (freeImageBuf imageBuf args.imageByteSize axidmaFd imageFd rc) t :=
    fun t failed account disk => freeImageBuf_ends (disk.trans same) (account ▸ owes) fun zero => absurd zero failed
  obtain ⟨mapped,room,clear,pointed⟩ := points
  have value := extended_toInt room.2
  have positive : 0 < args.imageByteSize.toInt := by omega
  unfold withBuffer
  refine fstat_then input fun rc stSize read => ?_
  refine ensures_if (fun _ => failing s (by decide) rfl rfl) fun _ => ?_
  refine ensures_if (fun _ => failing s (by decide) rfl rfl) fun long => ?_
  refine image_then input positive fun rc results s1 account1 disk1 shown1 beside1 bytes1 => ?_
  refine ensures_if (fun _ => failing s1 (by decide) account1 disk1) fun fine => ?_
  have enough : args.imageByteSize.toInt.toNat ≤ (s.disk args.imagePath).size := by
    have below := (BitVec.ofNat 64 (s.disk args.imagePath).size).toInt_eq_toNat_cond
    have small : (BitVec.ofNat 64 (s.disk args.imagePath).size).toNat ≤ (s.disk args.imagePath).size := by
      rw [BitVec.toNat_ofNat]
      exact Nat.mod_le _ _
    rw [read] at long
    omega
  intro displayed _
  rw [display_performed]
  by_cases refused : displayed < 0
  · rw [if_neg fun accepted => absurd refused (Int.not_lt.mpr accepted.2)]
    exact ensures_if (fun _ => failing s1 (by decide) account1 disk1) fun passed => absurd refused passed
  rw [if_pos ⟨rfl,Int.not_lt.mp refused⟩]
  refine ensures_if (fun failed => absurd failed refused) fun _ => ?_
  intro garbage _ stopped _
  refine ensures_if (fun _ => failing _ (by decide) account1 disk1) fun _ => ?_
  let request : UserVideoTransaction := ⟨txChannel,1,frameBuffers,⟨args.imageHeight,args.imageWidth,4⟩⟩
  refine freeImageBuf_ends (disk1.trans same) (account1 ▸ owes) fun _ stack =>
    ⟨positive,same ▸ enough,imageBuf,⟨request,s1.memory⟩,?_,congrArg (_ :: ·) (shown1.trans unshown)⟩
  · refine ⟨mapped,⟨_,rfl⟩,fun k inside => ?_,fun k inside => ?_⟩
    · rw [← pointed k inside]
      refine beside1 _ ?_
      have apart := clear stack
      omega
    · rw [← same]
      exact bytes1 fine k (by omega)

theorem withChannel_ends (input : s.opened imageFd = some (args.imagePath,0)) (same : s.disk = origin.disk)
    (unshown : s.shown = origin.shown) (owes : Owes origin.account (.descriptor axidmaFd :: [.descriptor imageFd]) s.account) :
    Ensures ((host fabric).only occurs) (ArgsEnd occurs frameBuffers args origin)
      (withChannel frameBuffers args txChannel axidmaFd imageFd) s := by
  unfold withChannel
  intro reply given
  refine store_then ?_
  cases reply with
  | none =>
    exact closeAxidma_ends owes fun after quiet owes => .returned .nothing owes (quiet.disk.trans same) fun zero => absurd zero (by decide)
  | some imageBuf =>
    obtain ⟨positive,below,_,apart⟩ := given.1 imageBuf rfl
    refine withBuffer_ends ?_ ?_ ?_ ⟨⟨_,given.2⟩,⟨positive,below⟩,?_,?_⟩ owes.take
    · exact input
    · exact same
    · exact unshown
    · rintro ⟨base,length,held,low,high⟩
      have present : Held.mapping base length ∈ s.account.held := owes.held.mem_iff.mpr (List.mem_append_right _ held)
      rcases apart _ present with before | behind
      · exact .inr (Nat.le_trans before low)
      · exact .inl (Nat.le_trans high behind)
    · exact fun k inside => view_put inside

theorem main_ends {options : List GivenOption} {operands : List Path} :
    Ensures ((host fabric).only occurs) (MainEnds occurs frameBuffers options operands s) (main frameBuffers options operands) s := by
  unfold main
  cases parsed : parseArgs options operands with
  | error stop =>
    cases stop with
    | failed rc => exact .refused
    | help => exact .aborted
    | undefined => exact .aborted
  | ok args =>
    have chosen : ∀ (txChannel : CInt) (axidmaFd imageFd : Int) (t : Host), t.opened imageFd = some (args.imagePath,0) → t.disk = s.disk →
        t.shown = s.shown → Owes s.account (.descriptor axidmaFd :: [.descriptor imageFd]) t.account →
        Ensures ((host fabric).only occurs) (MainEnds occurs frameBuffers options operands s)
          (withChannel frameBuffers args txChannel axidmaFd imageFd) t :=
      fun _ _ _ t input same unshown owes => (withChannel_ends input same unshown owes).mono fun _ _ ends => .ran parsed ends
    refine open_then .start (fun _ refused => ensures_if (fun _ => .refused) fun given => absurd refused given)
      fun imageFd s1 given1 _ owes1 _ opened1 disk1 shown1 => ?_
    refine ensures_if (fun refused => absurd refused given1) fun _ => ?_
    have input1 : s1.opened imageFd = some (args.imagePath,0) := by rw [opened1,Function.update_self]
    intro axidmaFd answered
    refine ensures_if (fun refused => ?_) fun given2 => ?_
    · have performed : ((host fabric).only occurs).perform s1 (.library .openDevice) axidmaFd = s1 := if_neg (Int.not_le.mpr refused)
      rw [performed]
      refine closeImage_ends owes1 fun after quiet owes => ?_
      exact .ran parsed (.returned .nothing owes (quiet.disk.trans disk1) fun zero => absurd zero (by decide))
    · have performed : ((host fabric).only occurs).perform s1 (.library .openDevice) axidmaFd =
          {s1 with account := s1.account.take (.descriptor axidmaFd)} := if_pos (Int.not_lt.mp given2)
      rw [performed]
      refine ensures_if (fun search => ?_) fun _ => chosen _ _ _ _ input1 disk1 shown1 owes1.take
      refine ensures_bind (ensures_inProgram ((findDmaChannel_ends owes1.take).mono ?_))
      intro outcome s2 ends
      obtain ⟨quiet2,owes2,why⟩ := ends
      cases outcome with
      | faulted error => exact .aborted
      | returned rc =>
        refine ensures_if (fun failed => ?_) fun _ => ?_
        · refine closeImage_ends (owes2.perm (.swap _ _ _)) fun after quiet owes => ?_
          exact .ran parsed (.returned (.opened failed search answered.2 (why rc rfl failed)) owes
            ((quiet.disk.trans quiet2.disk).trans disk1) fun zero => absurd failed (by omega))
        · refine chosen _ _ _ s2 ?_ (quiet2.disk.trans disk1) (quiet2.shown.trans shown1) owes2
          rw [quiet2.opened]
          exact input1

theorem parsed_positive {options : List GivenOption} {operands : List Path} (parsed : parseArgs options operands = .ok args) :
    0 < args.imageWidth.toInt ∧ 0 < args.imageHeight.toInt := by
  unfold parseArgs at parsed
  split at parsed
  · cases parsed
  · cases settings : options.foldlM parseOption ⟨DEFAULT_IMAGE_WIDTH,DEFAULT_IMAGE_HEIGHT,-1⟩ with
    | error stop =>
      rw [settings] at parsed
      cases parsed
    | ok settings' =>
      rw [settings] at parsed
      simp only [bind,Except.bind] at parsed
      split at parsed
      · split at parsed
        · cases parsed
        · rename_i wide
          split at parsed
          · cases parsed
          · rename_i high
            cases parsed
            exact ⟨Int.not_le.mp wide,Int.not_le.mp high⟩
      · cases parsed

theorem imageByteSize_exact (positive : 0 < args.imageWidth.toInt ∧ 0 < args.imageHeight.toInt)
    (small : args.imageWidth.toInt*args.imageHeight.toInt*4 < 2^31) :
    args.imageByteSize.toInt = args.imageWidth.toInt*args.imageHeight.toInt*4 := by
  have width := args.imageWidth.toInt_eq_toNat_cond
  have height := args.imageHeight.toInt_eq_toNat_cond
  have width : args.imageWidth.toInt = args.imageWidth.toNat := by omega
  have height : args.imageHeight.toInt = args.imageHeight.toNat := by omega
  rw [width,height] at small ⊢
  have product : args.imageWidth.toNat*args.imageHeight.toNat*4 < 2^31 := by exact_mod_cast small
  have kept : (args.imageWidth*args.imageHeight).toNat = args.imageWidth.toNat*args.imageHeight.toNat := by
    rw [BitVec.toNat_mul,Nat.mod_eq_of_lt (by omega)]
  have unsigned : (args.imageWidth*args.imageHeight).msb = false := BitVec.msb_eq_false_iff_two_mul_lt.mpr (by omega)
  have size : args.imageByteSize.toNat = args.imageWidth.toNat*args.imageHeight.toNat*4 := by
    rw [Arguments.imageByteSize,BitVec.toNat_setWidth,BitVec.toNat_mul,BitVec.signExtend_eq_setWidth_of_msb_false unsigned,
      BitVec.toNat_setWidth,kept]
    have four : (4 : BitVec 64).toNat = 4 := rfl
    rw [four]
    omega
  rw [BitVec.toInt_eq_toNat_of_lt (by omega),size]
  push_cast
  rfl

-- All is given back but what Leftover has, and no file is changed.
theorem display_gives_back {options : List GivenOption} {operands : List Path} {record : Host × List (Event process)}
    (ran : Exec (host fabric).recorded (main frameBuffers options operands) (s,[]) (.returned rc) record) :
    ∃ left, (left = [] ∨ ∃ args, parseArgs options operands = .ok args ∧ Leftover (fun event => event ∈ record.2) args rc left) ∧
      Owes s.account left record.1.account ∧ record.1.disk = s.disk := by
  cases ensures_iff.mp main_ends _ _ ran.only.2 with
  | refused => exact ⟨[],.inl rfl,.start,rfl⟩
  | ran parsed ends =>
    cases ends with
    | @returned _ _ left leftover owes disk _ => exact ⟨left,.inr ⟨_,parsed,leftover⟩,owes,disk⟩

-- The variable that points to the buffer lies in memory that the process has from the start.
theorem whole_image_read {options : List GivenOption} {operands : List Path} {record : Host × List (Event process)}
    (stack : Mapped s frameBuffers POINTER_SIZE)
    (ran : Exec (host fabric).recorded (main frameBuffers options operands) (s,[]) (.returned 0) record) :
    ∃ args, parseArgs options operands = .ok args ∧ Filled (fun event => event ∈ record.2) frameBuffers args s record.1 ∧
      (args.imageWidth.toInt*args.imageHeight.toInt*4 < 2^31 →
        args.imageByteSize.toInt = args.imageWidth.toInt*args.imageHeight.toInt*4) := by
  cases ensures_iff.mp main_ends _ _ ran.only.2 with
  | ran parsed ends =>
    cases ends with
    | returned _ _ _ filled => exact ⟨_,parsed,filled rfl stack,imageByteSize_exact (parsed_positive parsed)⟩

end

-- -w 1 -i 2
def twoPixels : List GivenOption := [.w [49],.i [50]]
def imagePath : Path := [112]

def oneImage : Host where
  account := ⟨[.mapping 0x7ff00 0x100],[]⟩
  memory := fun _ => 0
  disk := fun _ => ⟨fun k => BitVec.ofNat 8 (9+k),12⟩
  opened := fun _ => none
  shown := []

def displayed : Host × List (Event process) :=
  ((plain id).recorded.advance 60 (main 0x7ffc0 twoPixels [imagePath]) (oneImage,[])).2

theorem two_pixels_recorded : Exec (host id).recorded (main 0x7ffc0 twoPixels [imagePath]) (oneImage,[]) (.returned 0) displayed :=
  answered_exec (by decide +kernel)

theorem two_pixels_given_back : ∃ left,
    (left = [] ∨ ∃ args, parseArgs twoPixels [imagePath] = .ok args ∧ Leftover (fun event => event ∈ displayed.2) args 0 left) ∧
    Owes oneImage.account left displayed.1.account ∧ displayed.1.disk = oneImage.disk := display_gives_back two_pixels_recorded

theorem two_pixels_read : ∃ args, parseArgs twoPixels [imagePath] = .ok args ∧
    Filled (fun event => event ∈ displayed.2) 0x7ffc0 args oneImage displayed.1 ∧
    (args.imageWidth.toInt*args.imageHeight.toInt*4 < 2^31 →
      args.imageByteSize.toInt = args.imageWidth.toInt*args.imageHeight.toInt*4) :=
  whole_image_read ⟨0x7ff00,0x100,List.mem_cons_self,by decide,by decide⟩ two_pixels_recorded

end Axidma.DisplayImage
