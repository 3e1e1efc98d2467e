import Axidma.TransferCalls

namespace Axidma.ProgrammedFrames
open Interaction

def FrameOf (frame : AxidmaVideoFrame) (template : DmaInterleavedTemplate) : Prop :=
  template.numf = frame.height.signExtend 64 ∧ template.sgl0Size = (frame.width*frame.depth).signExtend 64

-- What prep makes of a transfer structure. The template starts at the first
-- entry of the list; an unset frame may be any.
def Programmed (tfr : AxidmaTransfer) : Prepared → Prop
  | .slaveSg _ _ _ _ => tfr.type = .dma
  | .interleaved template _ => tfr.type = .vdma ∧ template.dir = axidmaToDmaDir tfr.dir ∧
      (∃ entry, tfr.sgList.head? = some entry ∧ template.srcStart = entry.dmaAddress ∧ template.dstStart = entry.dmaAddress) ∧
      ∃ frame, FrameOf frame template ∧ ∀ given, tfr.frame = some given → given = frame

def FrameCall (_ : AxidmaChan) (tfr : AxidmaTransfer) : KernelCall → Prop
  | .uninitialisedFrame => tfr.type = .vdma ∧ tfr.frame = none
  | .dmaenginePrepInterleavedDma _ prepared => Programmed tfr prepared
  | .dmaengineSubmit _ txd => Programmed tfr txd.prepared
  | _ => True

def interleavedTemplate (tfr : AxidmaTransfer) (entry : Scatterlist) (frame : AxidmaVideoFrame) :
    DmaInterleavedTemplate where
  srcStart := entry.dmaAddress
  dstStart := entry.dmaAddress
  dir := axidmaToDmaDir tfr.dir
  numf := frame.height.signExtend 64
  frameSize := 1
  sgl0Size := (frame.width*frame.depth).signExtend 64
  sgl0Icg := 0
  source := entry.source

section
variable {chan : AxidmaChan} {tfr : AxidmaTransfer}

theorem answered_programmed {prepared : Prepared} (programmed : Programmed tfr prepared) (dmaTxnd : Bool) :
    ∀ given, (.returned (if dmaTxnd then .ok prepared else .error (-EBUSY)) : Outcome Fault (Except Int Prepared)) =
      .returned (.ok given) → Programmed tfr given := by
  intro given same
  cases dmaTxnd with
  | false => cases same
  | true =>
    cases same
    exact programmed

theorem template_programmed {entry : Scatterlist} {frame : AxidmaVideoFrame} (type : tfr.type = .vdma)
    (first : tfr.sgList.head? = some entry) (given : ∀ given, tfr.frame = some given → given = frame) (flags : Nat) :
    Programmed tfr (.interleaved (interleavedTemplate tfr entry frame) flags) :=
  ⟨type,rfl,⟨entry,first,rfl,rfl⟩,frame,⟨rfl,rfl⟩,given⟩

theorem descriptor_frames : Does (FrameCall chan tfr)
    (fun outcome => ∀ prepared, outcome = .returned (.ok prepared) → Programmed tfr prepared)
    (axidmaPrepDescriptor chan.chan tfr) := by
  unfold axidmaPrepDescriptor
  cases type : tfr.type with
  | dma =>
    have programmed : Programmed tfr (.slaveSg tfr.sgList tfr.sgLen (axidmaToDmaDir tfr.dir) (DMA_CTRL_ACK ||| DMA_PREP_INTERRUPT)) := type
    exact ⟨trivial,fun dmaTxnd _ => answered_programmed programmed dmaTxnd⟩
  | vdma =>
    refine ⟨trivial,fun rc _ => ?_⟩
    apply does_if
    · intro _ prepared same
      cases same
    · intro _
      cases first : tfr.sgList.head? with
      | none =>
        intro prepared same
        cases same
      | some entry =>
        cases frame : tfr.frame with
        | none =>
          refine ⟨⟨type,frame⟩,fun unset _ => ?_⟩
          have programmed := template_programmed type first (by simp [frame] : ∀ given, tfr.frame = some given → given = unset)
            (DMA_CTRL_ACK ||| DMA_PREP_INTERRUPT)
          exact ⟨programmed,fun dmaTxnd _ => answered_programmed programmed dmaTxnd⟩
        | some given =>
          have programmed := template_programmed type first (by simp [frame] : ∀ other, tfr.frame = some other → other = given)
            (DMA_CTRL_ACK ||| DMA_PREP_INTERRUPT)
          exact ⟨programmed,fun dmaTxnd _ => answered_programmed programmed dmaTxnd⟩

theorem frame_permits : Permits FrameCall Programmed where
  descriptor := fun _ _ => descriptor_frames
  store := fun _ _ => trivial
  init := fun _ _ => trivial
  submit := fun _ _ _ programmed => programmed
  issue := fun _ _ => trivial
  wait := fun _ _ _ => trivial
  status := fun _ _ _ => trivial
  terminate := fun _ _ => trivial

-- What a program allowed some calls is bound to call, since nothing need fail.
theorem prep_programs {allowed : KernelCall → Prop} {entry : Scatterlist} {frame : AxidmaVideoFrame}
    (does : Does allowed (fun _ => True) (axidmaPrepTransfer chan tfr)) (type : tfr.type = .vdma)
    (first : tfr.sgList.head? = some entry) (given : tfr.frame = some frame) :
    ∃ flags, allowed (.dmaenginePrepInterleavedDma chan.chan (.interleaved (interleavedTemplate tfr entry frame) flags)) ∧
      allowed (.dmaengineSubmit chan.chan
        ⟨.interleaved (interleavedTemplate tfr entry frame) flags,tfr.cbData,tfr.requested⟩) := by
  unfold axidmaPrepTransfer axidmaPrepDescriptor at does
  simp only [type,first,given,Prog.deref_some,kcall,Prog.ask,Prog.call_bind,Prog.ret_bind,does_call] at does
  have configured := does.2 (0 : Int) trivial
  obtain ⟨prepares,prepared⟩ := configured
  have stored := (prepared true trivial).2 () trivial
  refine ⟨_,prepares,?_⟩
  cases waits : tfr.wait with
  | true =>
    simp only [waits,if_true] at stored
    exact (stored.2 () trivial).1
  | false =>
    simp only [waits] at stored
    exact stored.1

theorem prep_unset {allowed : KernelCall → Prop} {entry : Scatterlist}
    (does : Does allowed (fun _ => True) (axidmaPrepTransfer chan tfr)) (type : tfr.type = .vdma)
    (first : tfr.sgList.head? = some entry) (unset : tfr.frame = none) : allowed .uninitialisedFrame := by
  unfold axidmaPrepTransfer axidmaPrepDescriptor at does
  simp only [type,first,unset,Prog.deref_some,kcall,Prog.ask,Prog.call_bind,Prog.ret_bind,does_call] at does
  have configured := does.2 (0 : Int) trivial
  exact configured.1

end

theorem entry_address {dev : AxidmaDevice} {buf : UserAddr} {bufLen : SizeT} {entry : Scatterlist}
    (translated : axidmaInitSgEntry dev buf bufLen = .ok entry) :
    entry.dmaAddress = axidmaUservirtToDma dev buf bufLen := by
  simp only [axidmaInitSgEntry] at translated
  split at translated
  · cases translated
  · cases translated
    rfl

section
variable {dev : AxidmaDevice} {caller : Caller} {trans : AxidmaVideoTransaction} {dir : AxidmaDir}
  {sgList : List Scatterlist}

theorem sgList_addresses (translated : trans.sgList dev = .ok sgList) :
    sgList.map (·.dmaAddress) = (Request.video trans dir).translations dev := by
  have each := mapM_each translated
  have same : ∀ bufs entries, List.Forall₂ (fun buf entry => axidmaInitSgEntry dev buf
      ((trans.frame.width*trans.frame.height*trans.frame.depth).signExtend 64) = .ok entry) bufs entries →
      entries.map (·.dmaAddress) = bufs.map fun buf => axidmaUservirtToDma dev buf
        ((trans.frame.width*trans.frame.height*trans.frame.depth).signExtend 64) := by
    intro bufs entries each
    induction each with
    | nil => rfl
    | cons first _ ih => rw [List.map_cons,List.map_cons,entry_address first,ih]
  rw [same _ _ each]
  simp [Request.translations,Request.ranges]

-- The request has a frame buffer, each one translates and some channel has the id.
def ReachesEngine (dev : AxidmaDevice) (trans : AxidmaVideoTransaction) : Prop :=
  0 < trans.numFrameBuffers.toInt ∧ (∃ sgList, trans.sgList dev = .ok sgList) ∧
    ∃ chan, axidmaGetChan dev trans.channelId = some chan

theorem video_prepares {allowed : KernelCall → Prop} {chan : AxidmaChan}
    (does : Does allowed (fun _ => True) (axidmaVideoTransfer dev caller trans dir))
    (counted : 0 ≤ trans.numFrameBuffers.toInt) (translated : trans.sgList dev = .ok sgList)
    (found : axidmaGetChan dev trans.channelId = some chan) :
    Does allowed (fun _ => True) (axidmaPrepTransfer chan (videoTfr dev caller trans dir sgList)) := by
  unfold axidmaVideoTransfer at does
  have body : Does allowed (fun _ => True) (do
      let _rc ← videoTransferBody dev caller trans dir
      kcall (.kfree 0)
      return (0 : Int)) := does.2 (some 0) fun _ => (sg_list_size _).mpr counted
  have body := body.first
  unfold videoTransferBody at body
  simp only [translated,channel_test] at body
  simp only [found,Prog.deref_some,Prog.ret_bind] at body
  exact body.first

theorem some_entry (counted : 0 < trans.numFrameBuffers.toInt) (translated : trans.sgList dev = .ok sgList) :
    ∃ entry, sgList.head? = some entry := by
  have size := (mapM_each translated).length_eq
  have filled := trans.filled
  cases sgList with
  | nil =>
    rw [List.length_nil] at size
    omega
  | cons entry rest => exact ⟨entry,rfl⟩

-- How far a word is moved up when it is widened with its sign.
theorem signExtend_toNat (x : CInt) :
    (x.signExtend 64).toNat = if x.toNat < 2^31 then x.toNat else x.toNat+(2^64-2^32) := by
  rw [BitVec.toNat_signExtend]
  have bound := x.isLt
  cases sign : x.msb with
  | true =>
    have large : 2^31 ≤ x.toNat := by simpa using BitVec.toNat_ge_of_msb_true sign
    rw [if_neg (Nat.not_lt.mpr large)]
    simp
    omega
  | false =>
    have small : x.toNat < 2^31 := by simpa using BitVec.toNat_lt_of_msb_false sign
    rw [if_pos small]
    simp
    omega

-- The extent in unbounded numbers against the image size, which wraps at 2^32
-- and is then widened with its sign.
theorem product_extent {rows line : Nat} (small : rows < 2^31) (word : line < 2^32) :
    rows*(if line < 2^31 then line else line+(2^64-2^32)) =
      (if rows*line%2^32 < 2^31 then rows*line%2^32 else rows*line%2^32+(2^64-2^32)) ↔
    rows ≤ 1 ∨ rows*line < 2^31 := by
  have below : rows*line%2^32 < 2^32 := Nat.mod_lt _ (by omega)
  by_cases many : rows ≤ 1
  · have cases : rows = 0 ∨ rows = 1 := by omega
    rcases cases with rfl | rfl
    · simp
    · simp only [Nat.one_mul,Nat.mod_eq_of_lt word]
      simp
  · have twice : 2*line ≤ rows*line := Nat.mul_le_mul_right line (by omega)
    by_cases sign : line < 2^31
    · have most : rows*line < 2^31*2^31 := by
        calc rows*line ≤ rows*2^31 := Nat.mul_le_mul_left rows (by omega)
          _ < 2^31*2^31 := by omega
      rw [if_pos sign]
      generalize rows*line = area at *
      split
      · omega
      · omega
    · have huge : ∀ shift, 2*shift ≤ rows*shift := fun shift => Nat.mul_le_mul_right shift (by omega)
      have huge := huge (2^64-2^32)
      rw [if_neg sign,Nat.mul_add]
      split
      · omega
      · omega

structure NonNegative (frame : AxidmaVideoFrame) : Prop where
  height : 0 ≤ frame.height.toInt
  width : 0 ≤ frame.width.toInt
  depth : 0 ≤ frame.depth.toInt

-- The product of width and depth is taken as the machine takes it, modulo 2^32.
def FrameFits (frame : AxidmaVideoFrame) : Prop :=
  NonNegative frame ∧ (frame.height.toNat ≤ 1 ∨ frame.height.toNat*(frame.width*frame.depth).toNat < 2^31)

def extent (template : DmaInterleavedTemplate) : Nat := template.numf.toNat*template.sgl0Size.toNat

def imageSize (frame : AxidmaVideoFrame) : SizeT := (frame.width*frame.height*frame.depth).signExtend 64

theorem nonneg_small {x : CInt} (nonneg : 0 ≤ x.toInt) : x.toNat < 2^31 := by
  rw [BitVec.toInt_eq_toNat_cond] at nonneg
  have bound := x.isLt
  split at nonneg
  · omega
  · omega

theorem extent_iff {frame : AxidmaVideoFrame} {template : DmaInterleavedTemplate} (nonneg : NonNegative frame)
    (frameOf : FrameOf frame template) : extent template = (imageSize frame).toNat ↔ FrameFits frame := by
  have rows := nonneg_small nonneg.height
  have image : frame.width*frame.height*frame.depth = frame.height*(frame.width*frame.depth) := by
    rw [BitVec.mul_comm frame.width,BitVec.mul_assoc]
  rw [extent,frameOf.1,frameOf.2,imageSize,image,signExtend_toNat frame.height,if_pos rows,signExtend_toNat,signExtend_toNat,
    BitVec.toNat_mul frame.height,product_extent rows (frame.width*frame.depth).isLt]
  exact ⟨fun either => ⟨nonneg,either⟩,And.right⟩

-- Every template the engine gets moves the bytes that the buffers were checked
-- for, in a frame without negative sides.
def ExtentValidated (dev : AxidmaDevice) (trans : AxidmaVideoTransaction) (dir : AxidmaDir) : Prop :=
  ∀ caller, Does (fun op : KernelCall => ∀ handle template flags, op = .dmaenginePrepInterleavedDma handle (.interleaved template flags) →
      (∀ range ∈ (Request.video trans dir).ranges, extent template = range.2.toNat) ∧ NonNegative trans.frame)
    (fun _ => True) (axidmaVideoTransfer dev caller trans dir)

theorem video_sets {request : Request} {chan : AxidmaChan} {tfr : AxidmaTransfer} (sets : Sets dev caller request chan tfr)
    (video : request = .video trans dir) :
    ∃ sgList, trans.sgList dev = .ok sgList ∧ 0 ≤ trans.numFrameBuffers.toInt ∧
      axidmaGetChan dev trans.channelId = some chan ∧ tfr = videoTfr dev caller trans dir sgList := by
  cases sets with
  | video found counted translated =>
    cases video
    exact ⟨_,translated,counted,found,rfl⟩
  | read => cases video
  | write => cases video
  | transmit => cases video
  | receive => cases video

-- A template is only built from a first entry, so there is a frame buffer.
theorem video_reaches {chan : AxidmaChan} {prepared : Prepared} (translated : trans.sgList dev = .ok sgList)
    (counted : 0 ≤ trans.numFrameBuffers.toInt) (found : axidmaGetChan dev trans.channelId = some chan)
    (programmed : Programmed (videoTfr dev caller trans dir sgList) prepared) : ReachesEngine dev trans := by
  cases prepared with
  | slaveSg => cases programmed
  | interleaved template flags =>
    obtain ⟨_,_,⟨entry,first,_,_⟩,_⟩ := programmed
    have size := (mapM_each translated).length_eq
    have filled := trans.filled
    refine ⟨?_,⟨sgList,translated⟩,chan,found⟩
    cases sgList with
    | nil => cases first
    | cons => 
      rw [List.length_cons] at size
      omega

theorem fits_of_validated (validated : ExtentValidated dev trans dir) (reaches : ReachesEngine dev trans) :
    FrameFits trans.frame := by
  obtain ⟨counted,⟨sgList,translated⟩,chan,found⟩ := reaches
  obtain ⟨entry,first⟩ := some_entry counted translated
  have prepares := video_prepares (validated ⟨0,0,0⟩) (Int.le_of_lt counted) translated found
  obtain ⟨flags,programs,_⟩ := prep_programs prepares rfl first rfl
  obtain ⟨same,nonneg⟩ := programs _ _ _ rfl
  have filled := trans.filled
  obtain ⟨buf,present⟩ : ∃ buf, buf ∈ trans.frameBuffers := List.exists_mem_of_length_pos (by omega)
  have checked := same (buf,imageSize trans.frame) (List.mem_map.mpr ⟨buf,present,rfl⟩)
  exact (extent_iff nonneg ⟨rfl,rfl⟩).mp checked

theorem validated_of_fits (fits : ReachesEngine dev trans → FrameFits trans.frame) : ExtentValidated dev trans dir := by
  intro caller
  refine (video_calls frame_permits).mono ?_ fun _ => id
  rintro op called handle template flags rfl
  rcases called with ⟨chan,tfr,sets,programmed⟩ | ⟨_,_,_,same | ⟨_,same⟩⟩ | ⟨_,_,same,_⟩
  · obtain ⟨sgList,translated,counted,found,rfl⟩ := video_sets sets rfl
    have programmed : Programmed _ (.interleaved template flags) := programmed
    have frame := fits (video_reaches translated counted found programmed)
    obtain ⟨_,_,_,used,frameOf,given⟩ := programmed
    have same := given trans.frame rfl
    subst same
    refine ⟨?_,frame.1⟩
    intro range member
    obtain ⟨buf,_,rfl⟩ := List.mem_map.mp member
    exact (extent_iff frame.1 frameOf).mpr frame
  · cases same
  · cases same
  · cases same

theorem extent_validated_iff :
    ExtentValidated dev trans dir ↔ (ReachesEngine dev trans → FrameFits trans.frame) :=
  ⟨fits_of_validated,validated_of_fits⟩

-- Where the engine finds the frames of a prepared transfer.
def frameStarts : Prepared → List DmaAddr
  | .slaveSg sgList _ _ _ => sgList.map (·.dmaAddress)
  | .interleaved template _ =>
    match template.dir with
    | .memToDev => [template.srcStart]
    | .devToMem => [template.dstStart]

-- What is submitted starts at every buffer in order, and with a buffer nothing
-- is read outside the list.
def CoversBuffers (dev : AxidmaDevice) (trans : AxidmaVideoTransaction) (dir : AxidmaDir) : Prop :=
  ∀ caller, Does (fun op : KernelCall => ∀ handle txd, op = .dmaengineSubmit handle txd →
      1 ≤ trans.numFrameBuffers.toInt ∧ frameStarts txd.prepared = (Request.video trans dir).translations dev)
    (fun outcome => 1 ≤ trans.numFrameBuffers.toInt → outcome ≠ .faulted .outOfBounds) (axidmaVideoTransfer dev caller trans dir)

theorem one_start {tfr : AxidmaTransfer} {entry : Scatterlist} {prepared : Prepared}
    (type : tfr.type = .vdma) (first : tfr.sgList.head? = some entry) (programmed : Programmed tfr prepared) :
    frameStarts prepared = [entry.dmaAddress] := by
  cases prepared with
  | slaveSg sgList sgLen dir flags =>
    rw [programmed] at type
    cases type
  | interleaved template flags =>
    obtain ⟨_,_,⟨used,same,source,dest⟩,_⟩ := programmed
    rw [first] at same
    cases same
    simp only [frameStarts]
    cases template.dir with
    | memToDev => rw [source]
    | devToMem => rw [dest]

theorem descriptor_returns {chan : DmaChan} {tfr : AxidmaTransfer} {entry : Scatterlist}
    (first : tfr.sgList.head? = some entry) :
    Does (fun _ => True) (fun outcome => ∃ result, outcome = .returned result) (axidmaPrepDescriptor chan tfr) := by
  unfold axidmaPrepDescriptor
  cases tfr.type with
  | dma => exact ⟨trivial,fun reply _ => ⟨_,rfl⟩⟩
  | vdma =>
    refine ⟨trivial,fun rc _ => ?_⟩
    apply does_if
    · intro _
      exact ⟨_,rfl⟩
    · intro _
      rw [first]
      cases tfr.frame with
      | none => exact ⟨trivial,fun frame _ => ⟨trivial,fun reply _ => ⟨_,rfl⟩⟩⟩
      | some frame => exact ⟨trivial,fun reply _ => ⟨_,rfl⟩⟩

theorem prep_returns {chan : AxidmaChan} {tfr : AxidmaTransfer} {entry : Scatterlist}
    (first : tfr.sgList.head? = some entry) :
    Does (fun _ => True) (fun outcome => ∃ result, outcome = .returned result) (axidmaPrepTransfer chan tfr) := by
  rw [prep_parts]
  refine does_bind (descriptor_returns first) ?_ ?_
  · intro result _
    cases result with
    | error rc => exact ⟨trivial,fun _ _ => ⟨_,rfl⟩⟩
    | ok prepared =>
      have rest : ∀ cookie, Does (fun _ => True) (fun outcome => ∃ result, outcome = .returned result)
          (afterSubmission chan.chan tfr cookie) := by
        intro cookie
        apply does_if
        · intro _
          exact ⟨trivial,fun _ _ => ⟨_,rfl⟩⟩
        · intro _
          exact ⟨_,rfl⟩
      refine ⟨trivial,fun _ _ => ?_⟩
      split
      · exact ⟨trivial,fun _ _ => ⟨trivial,fun cookie _ => rest cookie⟩⟩
      · exact ⟨trivial,fun cookie _ => rest cookie⟩
  · intro error returned
    obtain ⟨_,same⟩ := returned
    cases same

theorem video_bounded (counted : 1 ≤ trans.numFrameBuffers.toInt) :
    Does (fun _ => True) (fun outcome => outcome ≠ .faulted .outOfBounds) (axidmaVideoTransfer dev caller trans dir) := by
  have body : Does (fun _ => True) (fun outcome => outcome ≠ .faulted .outOfBounds) (videoTransferBody dev caller trans dir) := by
    unfold videoTransferBody
    cases translated : trans.sgList dev with
    | error rc => exact fun same => by cases same
    | ok sgList =>
      simp only [channel_test]
      cases axidmaGetChan dev trans.channelId with
      | none => exact fun same => by cases same
      | some chan =>
        obtain ⟨entry,first⟩ := some_entry counted translated
        have headed : (videoTfr dev caller trans dir sgList).sgList.head? = some entry := first
        simp only [Prog.deref_some,Prog.ret_bind]
        refine does_bind (prep_returns headed) ?_ ?_
        · intro result _
          obtain ⟨rc,transfer⟩ := result
          apply does_if
          · intro _ same
            cases same
          · intro _
            have started : Does (FrameCall chan transfer) (fun outcome => ∃ rc, outcome = .returned rc)
                (axidmaStartTransfer chan transfer) := frame_permits.start
            refine started.mono (fun _ _ => trivial) ?_
            intro outcome returned same
            obtain ⟨rc,code⟩ := returned
            rw [code] at same
            cases same
        · intro error returned
          obtain ⟨_,same⟩ := returned
          cases same
  unfold axidmaVideoTransfer
  simp only [kcall,Prog.ask,Prog.call_bind,Prog.ret_bind]
  refine ⟨trivial,fun reply _ => ?_⟩
  cases reply with
  | none => exact fun same => by cases same
  | some sgList =>
    refine does_bind body (fun _ _ => ⟨trivial,fun _ _ same => by cases same⟩) ?_
    intro error bounded same
    cases same
    exact bounded rfl

theorem single_of_covers (covers : CoversBuffers dev trans dir) (reaches : ReachesEngine dev trans) :
    trans.numFrameBuffers.toInt = 1 := by
  obtain ⟨counted,⟨sgList,translated⟩,chan,found⟩ := reaches
  obtain ⟨entry,first⟩ := some_entry counted translated
  have plain := (covers ⟨0,0,0⟩).mono (fun _ => id) (fun _ _ => trivial)
  have prepares := video_prepares plain (Int.le_of_lt counted) translated found
  obtain ⟨flags,_,submits⟩ := prep_programs prepares rfl first rfl
  obtain ⟨_,starts⟩ := submits _ _ rfl
  have sizes := congrArg List.length starts
  have filled := trans.filled
  have one : (frameStarts (.interleaved (interleavedTemplate (videoTfr dev ⟨0,0,0⟩ trans dir sgList) entry trans.frame)
      flags)).length = 1 := by
    cases dir with
    | write => rfl
    | read => rfl
  simp only [one,Request.translations,Request.ranges,List.length_map] at sizes
  omega

-- With one buffer, the first entry is all there is.
theorem single_translation {entry : Scatterlist} (translated : trans.sgList dev = .ok sgList)
    (single : trans.numFrameBuffers.toInt = 1) (first : sgList.head? = some entry) :
    [entry.dmaAddress] = (Request.video trans dir).translations dev := by
  have size := (mapM_each translated).length_eq
  have filled := trans.filled
  rw [← sgList_addresses translated]
  cases sgList with
  | nil => cases first
  | cons head rest =>
    cases first
    have short : rest = [] := by
      apply List.eq_nil_of_length_eq_zero
      rw [List.length_cons] at size
      omega
    rw [short]
    rfl

theorem covers_of_single (single : ReachesEngine dev trans → trans.numFrameBuffers.toInt = 1) :
    CoversBuffers dev trans dir := by
  intro caller
  have calls : Does (fun op => Setting FrameCall dev caller (.video trans dir) op ∨ Beside dev (.video trans dir) op)
      (fun _ => True) (axidmaVideoTransfer dev caller trans dir) := video_calls frame_permits
  have bounded : Does (fun _ => True) (fun outcome => 1 ≤ trans.numFrameBuffers.toInt → outcome ≠ .faulted .outOfBounds)
      (axidmaVideoTransfer dev caller trans dir) := by
    by_cases counted : 1 ≤ trans.numFrameBuffers.toInt
    · exact (video_bounded counted).mono (fun _ _ => trivial) fun _ safe _ => safe
    · exact calls.mono (fun _ _ => trivial) fun _ _ filled => absurd filled counted
  refine (calls.both bounded).mono ?_ fun _ holds => holds.2
  rintro op ⟨called,_⟩ handle txd rfl
  rcases called with ⟨chan,tfr,sets,programmed⟩ | ⟨_,_,_,same | ⟨_,same⟩⟩ | ⟨_,_,same,_⟩
  · obtain ⟨sgList,translated,counted,found,rfl⟩ := video_sets sets rfl
    have programmed : Programmed _ txd.prepared := programmed
    have reaches := video_reaches translated counted found programmed
    have count := single reaches
    obtain ⟨entry,first⟩ := some_entry reaches.1 translated
    refine ⟨Int.le_of_eq count.symm,?_⟩
    rw [one_start rfl first programmed]
    exact single_translation translated count first
  · cases same
  · cases same
  · cases same

theorem covers_buffers_iff :
    CoversBuffers dev trans dir ↔ (ReachesEngine dev trans → trans.numFrameBuffers.toInt = 1) :=
  ⟨single_of_covers,covers_of_single⟩

end

def area (frame : AxidmaVideoFrame) : Int := frame.height.toInt*frame.width.toInt*frame.depth.toInt

-- The frame and the checked length of the side of a request that moves data so.
def given : BufferRequest → DmaTransferDirection → Option (AxidmaVideoFrame × SizeT)
  | .oneway dir transaction,side =>
    if axidmaToDmaDir dir = side then some (transaction.frame,transaction.bufLen) else none
  | .readwrite transaction,.memToDev => some (transaction.txFrame,transaction.txBufLen)
  | .readwrite transaction,.devToMem => some (transaction.rxFrame,transaction.rxBufLen)

def KeepsToFrame (request : BufferRequest) : KernelCall → Prop
  | .uninitialisedFrame => False
  | .dmaenginePrepInterleavedDma _ (.interleaved template _) => ∃ frame bufLen,
      given request template.dir = some (frame,bufLen) ∧ FrameOf frame template ∧ area frame ≤ bufLen.toNat
  | _ => True

def UsesFrames (dev : AxidmaDevice) (request : BufferRequest) : Prop :=
  ∀ caller, Does (KeepsToFrame request) (fun _ => True) (request.request.program dev caller)

-- A request that gets to its VDMA channels was given frames that fit. The frame
-- of a one-way request is never used.
def FramesFit (dev : AxidmaDevice) : BufferRequest → Prop
  | .oneway dir transaction => ∀ chan entry, axidmaGetChan dev transaction.channelId = some chan → chan.dir = dir →
      axidmaInitSgEntry dev transaction.buf transaction.bufLen = .ok entry → chan.type = .dma
  | .readwrite transaction => ∀ txChan rxChan txEntry rxEntry,
      axidmaGetChan dev transaction.txChannelId = some txChan → txChan.dir = .write →
      axidmaGetChan dev transaction.rxChannelId = some rxChan → rxChan.dir = .read →
      axidmaInitSgEntry dev transaction.txBuf transaction.txBufLen = .ok txEntry →
      axidmaInitSgEntry dev transaction.rxBuf transaction.rxBufLen = .ok rxEntry →
      (txChan.type = .vdma → area transaction.txFrame ≤ transaction.txBufLen.toNat) ∧
      (rxChan.type = .vdma → txChan.type = .vdma ∧ area transaction.rxFrame ≤ transaction.rxBufLen.toNat)

section
variable {dev : AxidmaDevice} {caller : Caller} {allowed : KernelCall → Prop}

theorem frame_fields {frame used : AxidmaVideoFrame} {template : DmaInterleavedTemplate} (frameOf : FrameOf used template)
    (same : frame = used) : FrameOf frame template := by
  rw [same]
  exact frameOf

theorem dma_keeps {request : BufferRequest} {chan : AxidmaChan} {tfr : AxidmaTransfer} {op : KernelCall}
    (type : tfr.type = .dma) (call : FrameCall chan tfr op) : KeepsToFrame request op := by
  cases op with
  | uninitialisedFrame =>
    rw [call.1] at type
    cases type
  | dmaenginePrepInterleavedDma handle prepared =>
    cases prepared with
    | slaveSg => trivial
    | interleaved template flags =>
      have programmed : Programmed tfr (.interleaved template flags) := call
      rw [programmed.1] at type
      cases type
  | _ => trivial

theorem vdma_keeps {request : BufferRequest} {chan : AxidmaChan} {tfr : AxidmaTransfer} {op : KernelCall}
    {frame : AxidmaVideoFrame} {bufLen : SizeT} (side : given request (axidmaToDmaDir tfr.dir) = some (frame,bufLen))
    (set : tfr.frame = some frame) (fits : area frame ≤ bufLen.toNat) (call : FrameCall chan tfr op) :
    KeepsToFrame request op := by
  cases op with
  | uninitialisedFrame =>
    rw [call.2] at set
    cases set
  | dmaenginePrepInterleavedDma handle prepared =>
    cases prepared with
    | slaveSg => trivial
    | interleaved template flags =>
      obtain ⟨_,dir,_,used,frameOf,same⟩ := (call : Programmed tfr (.interleaved template flags))
      refine ⟨frame,bufLen,?_,frame_fields frameOf (same frame set),fits⟩
      rw [dir]
      exact side
  | _ => trivial

theorem nothing_beside {request : BufferRequest} {op : KernelCall} : ¬ Beside dev request.request op := by
  intro beside
  rcases beside with ⟨_,_,same,_⟩ | ⟨_,_,same,_⟩
  all_goals cases request with
    | oneway dir transaction => cases dir <;> cases same
    | readwrite transaction => cases same

theorem oneway_prepares {dir : AxidmaDir} {transaction : AxidmaTransaction} {chan : AxidmaChan} {entry : Scatterlist}
    (does : Does allowed (fun _ => True) (onewayTransfer dir dev caller transaction))
    (found : axidmaGetChan dev transaction.channelId = some chan) (fits : chan.dir = dir)
    (translated : axidmaInitSgEntry dev transaction.buf transaction.bufLen = .ok entry) :
    Does allowed (fun _ => True) (axidmaPrepTransfer chan (onewayTfr dev caller chan transaction entry)) := by
  rw [oneway_found found fits translated] at does
  exact does.first

section
variable {transaction : AxidmaInoutTransaction} {txChan rxChan : AxidmaChan} {txEntry rxEntry : Scatterlist}

theorem rw_prepares (does : Does allowed (fun _ => True) (axidmaRwTransfer dev caller transaction))
    (foundTx : axidmaGetChan dev transaction.txChannelId = some txChan) (fitsTx : txChan.dir = .write)
    (foundRx : axidmaGetChan dev transaction.rxChannelId = some rxChan) (fitsRx : rxChan.dir = .read)
    (translatedTx : axidmaInitSgEntry dev transaction.txBuf transaction.txBufLen = .ok txEntry)
    (translatedRx : axidmaInitSgEntry dev transaction.rxBuf transaction.rxBufLen = .ok rxEntry) :
    Does allowed (fun _ => True) (axidmaPrepTransfer txChan (txTfr dev caller txChan transaction txEntry)) ∧
    Does allowed (fun _ => True) (axidmaPrepTransfer rxChan (rxTfr dev caller txChan rxChan transaction rxEntry)) := by
  rw [rw_found foundTx fitsTx foundRx fitsRx translatedTx translatedRx] at does
  refine ⟨does.first,?_⟩
  have first : (txTfr dev caller txChan transaction txEntry).sgList.head? = some txEntry := rfl
  have second := does.after (prep_possible first)
  exact second.first

end

theorem sets_keep {request : BufferRequest} {chan : AxidmaChan} {tfr : AxidmaTransfer} {op : KernelCall}
    (fit : FramesFit dev request) (sets : Sets dev caller request.request chan tfr) (call : FrameCall chan tfr op) :
    KeepsToFrame request op := by
  cases request with
  | oneway dir transaction =>
    cases dir with
    | read =>
      cases sets with
      | read found fits translated => exact dma_keeps (fit _ _ found fits translated) call
    | write =>
      cases sets with
      | write found fits translated => exact dma_keeps (fit _ _ found fits translated) call
  | readwrite transaction =>
    cases sets with
    | transmit found fits translated foundRx fitsRx translatedRx =>
      obtain ⟨transmits,_⟩ := fit _ _ _ _ found fits foundRx fitsRx translated translatedRx
      cases type : chan.type with
      | dma => exact dma_keeps type call
      | vdma =>
        apply vdma_keeps _ _ (transmits type) call
        · simp [txTfr,fits,axidmaToDmaDir,given]
        · simp [txTfr,type]
    | receive found fits translated foundTx fitsTx translatedTx =>
      obtain ⟨_,receives⟩ := fit _ _ _ _ foundTx fitsTx found fits translatedTx translated
      cases type : chan.type with
      | dma => exact dma_keeps type call
      | vdma =>
        obtain ⟨typeTx,within⟩ := receives type
        apply vdma_keeps _ _ within call
        · simp [rxTfr,fits,axidmaToDmaDir,given]
        · simp [rxTfr,typeTx]

theorem fit_of_uses {request : BufferRequest} (uses : UsesFrames dev request) : FramesFit dev request := by
  have program := uses ⟨0,0,0⟩
  cases request with
  | oneway dir transaction =>
    intro chan entry found fits translated
    rw [oneway_program] at program
    cases type : chan.type with
    | dma => rfl
    | vdma => exact (prep_unset (oneway_prepares program found fits translated) type rfl rfl).elim
  | readwrite transaction =>
    intro txChan rxChan txEntry rxEntry foundTx fitsTx foundRx fitsRx translatedTx translatedRx
    obtain ⟨tx,rx⟩ := rw_prepares program foundTx fitsTx foundRx fitsRx translatedTx translatedRx
    constructor
    · intro type
      obtain ⟨_,programs,_⟩ := prep_programs tx type rfl (if_pos type)
      obtain ⟨frame,bufLen,side,_,within⟩ := programs
      simp only [interleavedTemplate,txTfr,fitsTx,axidmaToDmaDir,given] at side
      cases side
      exact within
    · intro type
      cases typeTx : txChan.type with
      | dma =>
        exact (prep_unset rx type rfl (if_neg (by simp [typeTx]))).elim
      | vdma =>
        obtain ⟨_,programs,_⟩ := prep_programs rx type rfl (if_pos typeTx)
        obtain ⟨frame,bufLen,side,_,within⟩ := programs
        simp only [interleavedTemplate,rxTfr,fitsRx,axidmaToDmaDir,given] at side
        cases side
        exact ⟨rfl,within⟩

theorem uses_of_fit {request : BufferRequest} (fit : FramesFit dev request) : UsesFrames dev request := by
  intro caller
  refine (request_does frame_permits).mono ?_ fun _ => id
  intro op called
  rcases called with ⟨chan,tfr,sets,call⟩ | beside
  · exact sets_keep fit sets call
  · exact (nothing_beside beside).elim

theorem uses_frames_iff {request : BufferRequest} : UsesFrames dev request ↔ FramesFit dev request :=
  ⟨fit_of_uses,uses_of_fit⟩

end

-- One page at 0x10000 with device address 0x40000000, for a display.
def display : AxidmaDevice := {Translation.onePage with channels := [⟨.write,.vdma,0,"display",0⟩]}

-- The image size of 2^16 by 2^16 bytes wraps to 0.
def hugeFrame : AxidmaVideoTransaction := ⟨0,1,[0x10000],⟨0x10000,0x10000,1⟩,rfl⟩
def twoBuffers : AxidmaVideoTransaction := ⟨0,2,[0x10000,0x10800],⟨1,0x400,1⟩,rfl⟩

theorem huge_frame_reaches : ReachesEngine display hugeFrame := ⟨by decide,⟨_,rfl⟩,_,rfl⟩
theorem two_buffers_reach : ReachesEngine display twoBuffers := ⟨by decide,⟨_,rfl⟩,_,rfl⟩

-- No byte of the buffer is checked, and 4 GiB are programmed.
theorem huge_frame_not_validated : ¬ ExtentValidated display hugeFrame .write := by
  intro validated
  obtain ⟨_,few | small⟩ := fits_of_validated validated huge_frame_reaches
  · exact absurd few (by decide)
  · exact absurd small (by decide)

theorem second_buffer_not_covered : ¬ CoversBuffers display twoBuffers .write := by
  intro covers
  exact absurd (single_of_covers covers two_buffers_reach) (by decide)

-- The frame of the transaction is not copied for a one-way request.
theorem oneway_frame_unset : ¬ UsesFrames display (.oneway .write ⟨false,0,0x10000,0x1000,⟨1,1,1⟩⟩) := by
  intro uses
  have fit := fit_of_uses uses
  cases fit _ _ rfl rfl rfl

end Axidma.ProgrammedFrames
