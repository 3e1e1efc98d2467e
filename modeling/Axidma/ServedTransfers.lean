import Axidma.DriverServer
import Axidma.StartedTransfers

namespace Axidma.ServedTransfers
open Interaction WordRange
open ClientPrograms DmaHeap DriverServer

-- What a call has told the engine, which blocks it holds and which buffers it has
-- registered, as long as the copies of its argument are good.
structure Trace where
  honest : Prop
  told : List Told
  blocks : List Nat
  lent : List AxidmaExternalAllocation

def Trace.tell (g : Trace) (new : List Told) : Trace := {g with told := g.told++new}

def reporting (addr : UserAddr) (reads : Argument) : Protocol kernel Trace where
  admits := fun g op => g.honest → steady g.blocks op
  advance := fun g op reply => match op,reply with
    | .copyFromUser kind source,reply =>
      {g with honest := g.honest ∧ (source = addr → reply.1 = 0 → reads kind reply.2)}
    | .dmaengineSubmit chan txd,cookie => if cookie < (0 : Int) then g else g.tell [.submitted chan txd.prepared]
    | .dmaAsyncIssuePending chan,_ => g.tell [.issued chan]
    | .dmaAsyncIsTxComplete chan _,status => if status = DmaStatus.complete then g.tell [.completed chan] else g
    | .dmaengineTerminateAll chan,_ => g.tell [.terminated chan]
    | .kmalloc _,some ptr => {g with blocks := ptr :: g.blocks}
    | .kfree _,_ => {g with blocks := g.blocks.tail}
    | .listAddExternal alloc,_ => {g with lent := alloc :: g.lent}
    | _,_ => g

def Answered (holds : List Told → Int → Prop) (g : Trace) (outcome : Outcome Fault Int) : Prop :=
  g.honest → ∀ rc, outcome = .returned rc → g.blocks = [] ∧ g.lent = [] ∧ holds g.told rc

structure Follows (s : Driven) (told : List Told) (blocks : List Nat) (lent : List AxidmaExternalAllocation) (after : Driven) : Prop where
  still : Steady blocks lent s.1 after.1
  log : after.2 = s.2++told

structure Quietly (op : KernelCall) : Prop where
  steady : steady [] op
  blocks : ∀ reply, taken [] op reply = []
  lent : lending [] op = []
  silent : Silent op

section
variable {client : Task} {channels : List AxidmaChan} {s : Driven} {t : Heap} {addr : UserAddr} {reads : Argument} {g : Trace}

@[simp] theorem tell_told (new : List Told) : (g.tell new).told = g.told++new := rfl
@[simp] theorem tell_honest (new : List Told) : (g.tell new).honest = g.honest := rfl

theorem tell_tell (new later : List Told) : (g.tell new).tell later = g.tell (new++later) := by
  simp [Trace.tell]

theorem advance_told {op : KernelCall} {reply : op.Reply} :
    ((reporting addr reads).advance g op reply).told = g.told++told op reply := by
  cases op with
  | dmaengineSubmit chan txd =>
    simp only [reporting,told]
    split <;> simp
  | dmaAsyncIsTxComplete chan cookie =>
    simp only [reporting,told]
    split <;> simp
  | dmaAsyncIssuePending chan => rfl
  | dmaengineTerminateAll chan => rfl
  | kmalloc size => cases reply <;> exact (List.append_nil _).symm
  | _ => exact (List.append_nil _).symm

theorem advance_blocks {op : KernelCall} {reply : op.Reply} :
    ((reporting addr reads).advance g op reply).blocks = taken g.blocks op reply := by
  cases op with
  | dmaengineSubmit chan txd =>
    simp only [reporting]
    split <;> rfl
  | dmaAsyncIsTxComplete chan cookie =>
    simp only [reporting]
    split <;> rfl
  | kmalloc size => cases reply <;> rfl
  | _ => rfl

theorem advance_lent {op : KernelCall} {reply : op.Reply} :
    ((reporting addr reads).advance g op reply).lent = lending g.lent op := by
  cases op with
  | dmaengineSubmit chan txd =>
    simp only [reporting]
    split <;> rfl
  | dmaAsyncIsTxComplete chan cookie =>
    simp only [reporting]
    split <;> rfl
  | kmalloc size => cases reply <;> rfl
  | _ => rfl

-- Only a copy of the argument can show that no memory gives this path.
theorem advance_honest {op : KernelCall} {reply : op.Reply} :
    ((reporting addr reads).advance g op reply).honest ↔ g.honest ∧ match op,reply with
      | .copyFromUser kind source,reply => source = addr → reply.1 = 0 → reads kind reply.2
      | _,_ => True := by
  cases op with
  | copyFromUser kind source => exact Iff.rfl
  | dmaengineSubmit chan txd =>
    simp only [reporting]
    split <;> exact iff_of_eq (and_true _).symm
  | dmaAsyncIsTxComplete chan cookie =>
    simp only [reporting]
    split <;> exact iff_of_eq (and_true _).symm
  | kmalloc size => cases reply <;> exact iff_of_eq (and_true _).symm
  | _ => exact iff_of_eq (and_true _).symm

-- Of a path that no memory gives, nothing is asked.
theorem dishonest_conforms {α : Type} {holds : Trace → Outcome Fault α → Prop} {p : Driver α} (dishonest : ¬ g.honest) :
    Conforms (reporting addr reads) (fun g' outcome => g'.honest → holds g' outcome) g p := by
  induction p generalizing g with
  | ret value => exact fun honest => absurd honest dishonest
  | fault error => exact fun honest => absurd honest dishonest
  | call op next ih => exact ⟨fun honest => absurd honest dishonest,fun reply _ => ih reply fun honest => dishonest (advance_honest.mp honest).1⟩

theorem Follows.represents {last : Driven} {new : List Told} {blocks : List Nat} {lent : List AxidmaExternalAllocation}
    (rep : Represents client channels s t) (follows : Follows s new blocks lent last) :
    Represents client channels last (grown t new lent) := by
  have represents : Represents client channels (last.1,s.2++new) (grown t new lent) := rep.steady follows.still
  rw [← follows.log] at represents
  exact represents

theorem grown_told (new : List Told) : grown t new [] = t.tell new := rfl

theorem called_traces {post : Trace → Outcome Fault Int → Prop} {program : Driver Int} {rc : Int} {last : Driven}
    (conforms : Conforms (reporting addr reads) post ⟨True,[],[],[]⟩ program) (called : Called (holding addr reads) program s rc last) :
    ∃ g : Trace, g.honest ∧ Follows s g.told g.blocks g.lent last ∧ post g (.returned rc) := by
  have kept : ∃ g : Trace, (g.honest ∧ Follows s g.told g.blocks g.lent last) ∧ post g (.returned rc) := by
    refine ExecAmid.keeps (fun g after => g.honest ∧ Follows s g.told g.blocks g.lent after) called ?_ ?_ ?_ conforms ?_
    · exact fun _ _ _ given => gives_legal given.1
    · intro g after op reply held admitted given
      obtain ⟨honest,still,log⟩ := held
      refine ⟨advance_honest.mpr ⟨honest,given.2⟩,advance_blocks ▸ advance_lent ▸ still.perform (admitted honest),?_⟩
      rw [advance_told,← List.append_assoc,← log]
      rfl
    · intro g after middle held moved
      obtain ⟨honest,still,log⟩ := held
      exact ⟨honest,still.engine moved.1,moved.2.trans log⟩
    · exact ⟨trivial,.refl _,(List.append_nil _).symm⟩
  obtain ⟨g,⟨honest,follows⟩,ended⟩ := kept
  exact ⟨g,honest,follows,ended⟩

theorem called_represents {holds : List Told → Int → Prop} {program : Driver Int} {rc : Int} {last : Driven}
    (rep : Represents client channels s t) (conforms : Conforms (reporting addr reads) (Answered holds) ⟨True,[],[],[]⟩ program)
    (called : Called (holding addr reads) program s rc last) :
    ∃ new, holds new rc ∧ Represents client channels last (t.tell new) := by
  obtain ⟨g,honest,follows,ended⟩ := called_traces conforms called
  obtain ⟨_,unlent,holds⟩ := ended honest rc rfl
  have represents := follows.represents rep
  rw [unlent,grown_told] at represents
  exact ⟨g.told,holds,represents⟩

theorem silent_represents {program : Driver Int} {ends : Outcome Fault Int → Prop} {rc : Int} {last : Driven}
    (rep : Represents client channels s t) (does : Does Quietly ends program) (called : Called kernelMachine program s rc last) :
    Represents client channels last t ∧ ends (.returned rc) := by
  have kept : ∃ _ : Unit, Follows s [] [] [] last ∧ ends (.returned rc) := by
    refine ExecAmid.keeps (fun _ after => Follows s [] [] [] after) called ?_ ?_ ?_ does ?_
    · exact fun _ _ _ given => gives_legal given
    · intro _ after op reply follows admitted _
      obtain ⟨calm,none,unlent,silent⟩ := admitted
      refine ⟨none reply ▸ unlent ▸ follows.still.perform calm,?_⟩
      show after.2++told op reply = s.2++[]
      rw [silent reply,List.append_nil,follows.log]
    · exact fun _ after middle follows moved => ⟨follows.still.engine moved.1,moved.2.trans follows.log⟩
    · exact ⟨.refl _,(List.append_nil _).symm⟩
  obtain ⟨_,follows,ended⟩ := kept
  have represents := follows.represents rep
  rw [grown_told,tell_nothing] at represents
  exact ⟨represents,ended⟩

end

section
variable {addr : UserAddr} {reads : Argument} {g : Trace} {chan : AxidmaChan} {tfr : AxidmaTransfer} {base : DmaAddr} {len : SizeT}
  {frame : Option AxidmaVideoFrame}

structure Carries (chan : AxidmaChan) (base : DmaAddr) (len : SizeT) (frame : Option AxidmaVideoFrame) (tfr : AxidmaTransfer) : Prop where
  type : tfr.type = chan.type
  dir : tfr.dir = chan.dir
  sgList : ∃ source, tfr.sgList = [⟨base,len.setWidth 32,source⟩]
  sgLen : tfr.sgLen = 1
  frame : tfr.frame = frame

def Described (describes : Prepared → Prop) (g g' : Trace) (outcome : Outcome Fault (Except Int Prepared)) : Prop :=
  g' = g ∧ ((∃ rc, outcome = .returned (.error rc) ∧ rc < 0) ∨
    ∃ prepared, outcome = .returned (.ok prepared) ∧ describes prepared)

theorem descriptor_described (carries : Carries chan base len frame tfr) :
    Conforms (reporting addr reads) (Described (Describes chan base len frame) g) g (axidmaPrepDescriptor chan.chan tfr) := by
  have busy : Described (Describes chan base len frame) g g (.returned (.error (-EBUSY))) := ⟨rfl,.inl ⟨_,rfl,by decide⟩⟩
  obtain ⟨source,entries⟩ := carries.sgList
  have dirs : axidmaToDmaDir tfr.dir = axidmaToDmaDir chan.dir := congrArg _ carries.dir
  unfold axidmaPrepDescriptor
  cases type : tfr.type with
  | dma =>
    have same : chan.type = .dma := carries.type.symm.trans type
    refine ⟨fun _ => trivial,fun reply _ => ?_⟩
    cases reply with
    | false => exact busy
    | true => exact ⟨rfl,.inr ⟨_,rfl,same,⟨source,entries⟩,carries.sgLen,dirs⟩⟩
  | vdma =>
    have same : chan.type = .vdma := carries.type.symm.trans type
    refine ⟨fun _ => trivial,fun rc _ => conforms_if (fun failed => ⟨rfl,.inl ⟨rc,rfl,failed⟩⟩) fun _ => ?_⟩
    rw [entries,carries.frame]
    cases frame with
    | none =>
      refine ⟨fun _ => trivial,fun frame _ => ⟨fun _ => trivial,fun reply _ => ?_⟩⟩
      cases reply with
      | false => exact busy
      | true => exact ⟨rfl,.inr ⟨_,rfl,same,rfl,rfl,dirs,fun given none => by cases none⟩⟩
    | some frame =>
      refine ⟨fun _ => trivial,fun reply _ => ?_⟩
      cases reply with
      | false => exact busy
      | true =>
        refine ⟨rfl,.inr ⟨_,rfl,same,rfl,rfl,dirs,fun given one => ?_⟩⟩
        cases one
        exact ⟨rfl,rfl⟩

theorem descriptor_framed {request : UserVideoTransaction} {dir : AxidmaDir} {entry : Scatterlist} (type : tfr.type = .vdma)
    (dirs : tfr.dir = dir) (first : tfr.sgList.head? = some entry) (frame : tfr.frame = some request.frame) :
    Conforms (reporting addr reads) (Described (Frames request dir) g) g (axidmaPrepDescriptor chan.chan tfr) := by
  unfold axidmaPrepDescriptor
  rw [type,first,frame]
  refine ⟨fun _ => trivial,fun rc _ => conforms_if (fun failed => ⟨rfl,.inl ⟨rc,rfl,failed⟩⟩) fun _ => ?_⟩
  refine ⟨fun _ => trivial,fun reply _ => ?_⟩
  cases reply with
  | false => exact ⟨rfl,.inl ⟨_,rfl,by decide⟩⟩
  | true => exact ⟨rfl,.inr ⟨_,rfl,rfl,congrArg axidmaToDmaDir dirs,rfl,rfl⟩⟩

def Prepares (chan : AxidmaChan) (describes : Prepared → Prop) (tfr : AxidmaTransfer) (g g' : Trace)
    (outcome : Outcome Fault (Int × AxidmaTransfer)) : Prop :=
  (∃ rc after, outcome = .returned (rc,after) ∧ rc < 0 ∧ g' = g.tell [.terminated chan.chan]) ∨
  ∃ prepared cookie, outcome = .returned (0,{tfr with cookie := cookie}) ∧ describes prepared ∧
    g' = g.tell [.submitted chan.chan prepared]

theorem prep_prepares {describes : Prepared → Prop}
    (descriptor : Conforms (reporting addr reads) (Described describes g) g (axidmaPrepDescriptor chan.chan tfr)) :
    Conforms (reporting addr reads) (Prepares chan describes tfr g) g (axidmaPrepTransfer chan tfr) := by
  rw [prep_parts]
  refine conforms_bind.mpr (descriptor.mono ?_)
  intro middle outcome described
  obtain ⟨rfl,⟨rc,rfl,failed⟩ | ⟨prepared,rfl,holds⟩⟩ := described
  · exact ⟨fun _ => trivial,fun _ _ => .inl ⟨rc,tfr,rfl,failed,rfl⟩⟩
  · have rest : ∀ cookie, Conforms (reporting addr reads) (Prepares chan describes tfr middle)
        ((reporting addr reads).advance middle (.dmaengineSubmit chan.chan ⟨prepared,tfr.cbData,tfr.requested⟩) cookie)
        (afterSubmission chan.chan tfr cookie) := by
      intro cookie
      unfold afterSubmission
      by_cases negative : cookie < 0
      · simp only [reporting,if_pos negative]
        exact ⟨fun _ => trivial,fun _ _ => .inl ⟨_,tfr,rfl,by decide,rfl⟩⟩
      · simp only [reporting,if_neg negative]
        exact .inr ⟨prepared,cookie,rfl,holds,rfl⟩
    refine ⟨fun _ => trivial,fun _ _ => ?_⟩
    split
    · exact ⟨fun _ => trivial,fun _ _ => ⟨fun _ => trivial,fun cookie _ => rest cookie⟩⟩
    · exact ⟨fun _ => trivial,fun cookie _ => rest cookie⟩

-- Without a frame buffer there is no descriptor, but the read of one that is not there.
theorem prep_unframed (type : tfr.type = .vdma) (empty : tfr.sgList = []) :
    Conforms (reporting addr reads) (fun g' outcome => (∃ error, outcome = .faulted error) ∨
      ∃ rc after, outcome = .returned (rc,after) ∧ rc < 0 ∧ g' = g.tell [.terminated chan.chan]) g (axidmaPrepTransfer chan tfr) := by
  have descriptor : Conforms (reporting addr reads) (fun g' outcome => g' = g ∧ ((∃ error, outcome = .faulted error) ∨
      ∃ rc, outcome = .returned (.error rc) ∧ rc < 0)) g (axidmaPrepDescriptor chan.chan tfr) := by
    unfold axidmaPrepDescriptor
    rw [type,empty]
    exact ⟨fun _ => trivial,fun rc _ => conforms_if (fun failed => ⟨rfl,.inr ⟨rc,rfl,failed⟩⟩) fun _ => ⟨rfl,.inl ⟨_,rfl⟩⟩⟩
  rw [prep_parts]
  refine conforms_bind.mpr (descriptor.mono ?_)
  rintro g1 outcome ⟨rfl,⟨error,rfl⟩ | ⟨rc,rfl,failed⟩⟩
  · exact .inl ⟨error,rfl⟩
  · exact ⟨fun _ => trivial,fun _ _ => .inr ⟨rc,tfr,rfl,failed,rfl⟩⟩

def finishing (wait : Bool) (chan : AxidmaChan) : List Told := if wait then [.completed chan.chan] else []

def Starts (chan : AxidmaChan) (wait : Bool) (g g' : Trace) (outcome : Outcome Fault Int) : Prop :=
  ∃ rc, outcome = .returned rc ∧ (rc = 0 ∧ g' = g.tell (.issued chan.chan :: finishing wait chan) ∨
    rc < 0 ∧ wait = true ∧ ∃ heard, heard <+: finishing wait chan ∧ g' = g.tell (.issued chan.chan :: heard++[.terminated chan.chan]))

theorem start_starts : Conforms (reporting addr reads) (Starts chan tfr.wait g) g (axidmaStartTransfer chan tfr) := by
  unfold axidmaStartTransfer
  refine ⟨fun _ => trivial,fun _ _ => conforms_if (fun waits => ?_) fun waits => ?_⟩
  · have stopped : ∀ (heard : List Told) (rc : Int), rc < 0 → heard <+: [.completed chan.chan] →
        Starts chan tfr.wait g ((g.tell (.issued chan.chan :: heard)).tell [.terminated chan.chan]) (.returned rc) := by
      intro heard rc failed begun
      refine ⟨rc,rfl,.inr ⟨failed,waits,heard,?_,?_⟩⟩
      · rw [finishing,if_pos waits]
        exact begun
      · rw [tell_tell,List.cons_append]
    refine ⟨fun _ => trivial,fun timeRemain _ => ⟨fun _ => trivial,fun status _ => ?_⟩⟩
    by_cases complete : status = DmaStatus.complete
    · subst complete
      have heard : (reporting addr reads).advance (g.tell [.issued chan.chan]) (.dmaAsyncIsTxComplete chan.chan tfr.cookie)
          DmaStatus.complete = g.tell [.issued chan.chan,.completed chan.chan] := tell_tell _ _
      show Conforms _ _ ((reporting addr reads).advance (g.tell [.issued chan.chan]) _ _) _
      rw [heard]
      refine conforms_if (fun _ => ⟨fun _ => trivial,fun _ _ => stopped [.completed chan.chan] _ (by decide) (List.prefix_refl _)⟩) fun _ => ?_
      refine conforms_if (fun other => absurd rfl other) fun _ => ⟨0,rfl,.inl ⟨rfl,?_⟩⟩
      rw [finishing,if_pos waits]
    · have heard : (reporting addr reads).advance (g.tell [.issued chan.chan]) (.dmaAsyncIsTxComplete chan.chan tfr.cookie)
          status = g.tell [.issued chan.chan] := if_neg complete
      show Conforms _ _ ((reporting addr reads).advance (g.tell [.issued chan.chan]) _ _) _
      rw [heard]
      refine conforms_if (fun _ => ⟨fun _ => trivial,fun _ _ => stopped [] _ (by decide) (List.nil_prefix)⟩) fun _ => ?_
      refine conforms_if (fun _ => ⟨fun _ => trivial,fun _ _ => stopped [] _ (by decide) (List.nil_prefix)⟩) fun same => ?_
      exact absurd (not_not.mp same) complete
  · refine ⟨0,rfl,.inl ⟨rfl,?_⟩⟩
    rw [finishing,if_neg waits]
    rfl

end

def Carried (channels : List AxidmaChan) (windows : List (Window 64)) (parts : List Part) (wait : Bool) (g g' : Trace)
    (outcome : Outcome Fault Int) : Prop :=
  ∃ rc told, outcome = .returned rc ∧ Transfers channels windows parts wait rc told ∧ g' = g.tell told

section
variable {dev : AxidmaDevice} {caller : Caller} {addr : UserAddr} {reads : Argument} {g : Trace} {parts : List Part} {wait : Bool}

theorem tell_nil : g.tell [] = g := by
  simp [Trace.tell]

theorem telling_one {side : AxidmaChan × Prepared} :
    telling wait [side] = .submitted side.1.chan side.2 :: .issued side.1.chan :: finishing wait side.1 := by
  cases wait <;> rfl

theorem telling_two {tx rx : AxidmaChan × Prepared} : telling wait [tx,rx] = .submitted tx.1.chan tx.2 ::
    .submitted rx.1.chan rx.2 :: .issued tx.1.chan :: .issued rx.1.chan :: finishing wait rx.1 := by
  cases wait <;> rfl

theorem refused_carried {channels : List AxidmaChan} {windows : List (Window 64)} {rc : Int} (failed : rc < 0) :
    Carried channels windows parts wait g g (.returned rc) := ⟨rc,[],rfl,.refused failed,tell_nil.symm⟩

theorem describes_some (chan : AxidmaChan) (base : DmaAddr) (len : SizeT) (frame : Option AxidmaVideoFrame) :
    ∃ prepared, Describes chan base len frame prepared := by
  cases type : chan.type with
  | dma => exact ⟨.slaveSg [⟨base,len.setWidth 32,none⟩] 1 (axidmaToDmaDir chan.dir) 0,type,⟨none,rfl⟩,rfl,rfl⟩
  | vdma =>
    let extent := frame.getD ⟨0,0,0⟩
    refine ⟨.interleaved ⟨base,base,axidmaToDmaDir chan.dir,extent.height.signExtend 64,0,
      (extent.width*extent.depth).signExtend 64,0,none⟩ 0,type,rfl,rfl,rfl,fun given some => ?_⟩
    have same : extent = given := by rw [show extent = frame.getD ⟨0,0,0⟩ from rfl,some,Option.getD_some]
    exact same ▸ ⟨rfl,rfl⟩

theorem accepts_taken {win : Window 64} {addr : UserAddr} {size : SizeT} (some : 0 < size.toNat)
    (proper : addr.toNat+size.toNat < 2^64) : Translation.accepts addr size win = true ↔ win.EndFits ∧ win.Contains addr size := by
  by_cases ends : win.EndFits
  · rw [Translation.accepts_fits ends proper]
    exact (and_iff_right ends).symm
  -- Past the end of the address space the sum falls below the start of the window.
  · have past : 2^64 ≤ win.start.toNat+win.size.toNat := Nat.not_lt.mp ends
    have wrapped := BitVec.toNat_add win.start win.size
    have bound := win.size.isLt
    refine iff_of_false (fun accepted => ?_) fun fits => ends fits.1
    simp only [Translation.accepts,validDmaRequest,Bool.and_eq_true,decide_eq_true_eq,BitVec.le_def,add_fits proper,
      wrapped] at accepted
    omega

-- A range that is translated is taken by one of the buffers, and the entry is its image.
theorem entry_image {part : Part} {entry : Scatterlist} (proper : part.Proper)
    (translated : axidmaInitSgEntry dev part.buf part.bufLen = .ok entry) :
    ∃ win, taker (Translation.windows dev) part.buf part.bufLen = some win ∧
      ∃ source, entry = ⟨win.image part.buf,part.bufLen.setWidth 32,source⟩ := by
  have nonzero := StartedTransfers.entry_translated translated
  have value : axidmaUservirtToDma dev part.buf part.bufLen =
      ((taker (Translation.windows dev) part.buf part.bufLen).map (·.image part.buf)).getD 0 := by
    rw [Translation.translate_windows,taker,Translation.find_congr fun win _ => ?_]
    rw [accepts_taken proper.1 proper.2,decide_eq_true_eq]
  cases found : taker (Translation.windows dev) part.buf part.bufLen with
  | none =>
    rw [found] at value
    exact absurd value nonzero
  | some win =>
    rw [found] at value
    refine ⟨win,rfl,?_⟩
    simp only [axidmaInitSgEntry,if_neg nonzero,Except.ok.injEq] at translated
    refine ⟨translationSource dev part.buf part.bufLen,?_⟩
    rw [← translated,value]
    rfl

theorem resolves_of {part : Part} {chan : AxidmaChan} {win : Window 64} {prepared : Prepared}
    (found : axidmaGetChan dev part.channelId = some chan) (fits : chan.dir = part.dir)
    (taken : taker (Translation.windows dev) part.buf part.bufLen = some win)
    (describes : Describes chan (win.image part.buf) part.bufLen part.frame prepared) :
    Resolves dev.channels (Translation.windows dev) part (chan,prepared) :=
  ⟨found,fits,win,taken,describes⟩

theorem oneway_carried {dir : AxidmaDir} {transaction : AxidmaTransaction}
    (proper : Part.Proper ⟨transaction.channelId,dir,transaction.buf,transaction.bufLen,none⟩) :
    Conforms (reporting addr reads) (Carried dev.channels (Translation.windows dev)
      [⟨transaction.channelId,dir,transaction.buf,transaction.bufLen,none⟩] transaction.wait g) g
      (onewayTransfer dir dev caller transaction) := by
  have finds := @oneway_finds dev caller dir transaction
  generalize onewayTransfer dir dev caller transaction = program at finds ⊢
  cases finds with
  | refused _ => exact refused_carried (by decide)
  | untranslated failed => exact refused_carried (StartedTransfers.entry_failed failed)
  | @all chan entry found fits translated =>
    obtain ⟨win,taken,source,rfl⟩ := @entry_image dev ⟨transaction.channelId,dir,transaction.buf,transaction.bufLen,none⟩ _
      proper translated
    have resolves : ∀ prepared, Describes chan (win.image transaction.buf) transaction.bufLen none prepared →
        List.Forall₂ (Resolves dev.channels (Translation.windows dev))
          [⟨transaction.channelId,dir,transaction.buf,transaction.bufLen,none⟩] [(chan,prepared)] :=
      fun prepared describes => .cons (resolves_of found fits taken describes) .nil
    have carries : Carries chan (win.image transaction.buf) transaction.bufLen none (onewayTfr dev caller chan transaction
        ⟨win.image transaction.buf,transaction.bufLen.setWidth 32,source⟩) := ⟨rfl,rfl,⟨source,rfl⟩,rfl,rfl⟩
    refine conforms_bind.mpr ((prep_prepares (descriptor_described carries)).mono ?_)
    intro g1 outcome prepares
    rcases prepares with ⟨rc,after,rfl,failed,rfl⟩ | ⟨prepared,cookie,rfl,describes,rfl⟩
    · refine conforms_if (fun _ => ?_) fun passed => absurd failed passed
      obtain ⟨prepared,describes⟩ := describes_some chan (win.image transaction.buf) transaction.bufLen none
      exact ⟨rc,_,rfl,.stopped failed (resolves prepared describes) List.nil_prefix List.mem_cons_self,rfl⟩
    · refine conforms_if (fun failed => absurd failed (by decide)) fun _ => ?_
      refine conforms_bind.mpr (start_starts.mono ?_)
      intro g2 outcome starts
      obtain ⟨rc,rfl,⟨rfl,rfl⟩ | ⟨failed,_,heard,begun,rfl⟩⟩ := starts
      · refine conforms_if (fun failed => absurd failed (by decide)) fun _ => ?_
        refine ⟨0,_,rfl,.carried (resolves prepared describes),?_⟩
        rw [tell_tell,telling_one]
        rfl
      · refine conforms_if (fun _ => ?_) fun passed => absurd failed passed
        refine ⟨rc,.submitted chan.chan prepared :: .issued chan.chan :: heard++[.terminated chan.chan],rfl,
          .stopped failed (resolves prepared describes) ?_ List.mem_cons_self,tell_tell _ _⟩
        rw [telling_one]
        exact List.cons_prefix_cons.mpr ⟨rfl,List.cons_prefix_cons.mpr ⟨rfl,begun⟩⟩

theorem rw_carried {transaction : AxidmaInoutTransaction} (proper : ∀ part ∈ twoWayParts dev.channels transaction, part.Proper) :
    Conforms (reporting addr reads) (Carried dev.channels (Translation.windows dev) (twoWayParts dev.channels transaction)
      transaction.wait g) g (axidmaRwTransfer dev caller transaction) := by
  have finds := @rw_finds dev caller transaction
  generalize axidmaRwTransfer dev caller transaction = program at finds ⊢
  cases finds with
  | refused _ => exact refused_carried (by decide)
  | untranslated failed => exact refused_carried (StartedTransfers.entry_failed failed)
  | @all txChan rxChan txEntry rxEntry foundTx transmits foundRx receives translatedTx translatedRx =>
    have frames : ∀ frame, takenOver dev.channels transaction.txChannelId frame = if txChan.type = .vdma then some frame else none :=
      fun frame => congrArg (·.bind fun chan => if chan.type = .vdma then some frame else none) foundTx
    rw [twoWayParts,frames,frames] at proper ⊢
    have properTx := proper _ List.mem_cons_self
    have properRx := proper _ (List.mem_cons_of_mem _ List.mem_cons_self)
    obtain ⟨txWin,takenTx,txSource,rfl⟩ := entry_image properTx translatedTx
    obtain ⟨rxWin,takenRx,rxSource,rfl⟩ := entry_image properRx translatedRx
    let txTaken := if txChan.type = .vdma then some transaction.txFrame else none
    let rxTaken := if txChan.type = .vdma then some transaction.rxFrame else none
    have resolves : ∀ tx rx, Describes txChan (txWin.image transaction.txBuf) transaction.txBufLen txTaken tx →
        Describes rxChan (rxWin.image transaction.rxBuf) transaction.rxBufLen rxTaken rx →
        List.Forall₂ (Resolves dev.channels (Translation.windows dev))
          [⟨transaction.txChannelId,.write,transaction.txBuf,transaction.txBufLen,txTaken⟩,
            ⟨transaction.rxChannelId,.read,transaction.rxBuf,transaction.rxBufLen,rxTaken⟩] [(txChan,tx),(rxChan,rx)] :=
      fun tx rx describesTx describesRx => .cons (resolves_of foundTx transmits takenTx describesTx)
        (.cons (resolves_of foundRx receives takenRx describesRx) .nil)
    have carriesTx : Carries txChan (txWin.image transaction.txBuf) transaction.txBufLen txTaken (txTfr dev caller txChan transaction
        ⟨txWin.image transaction.txBuf,transaction.txBufLen.setWidth 32,txSource⟩) := ⟨rfl,rfl,⟨txSource,rfl⟩,rfl,rfl⟩
    have carriesRx : Carries rxChan (rxWin.image transaction.rxBuf) transaction.rxBufLen rxTaken (rxTfr dev caller txChan rxChan transaction
        ⟨rxWin.image transaction.rxBuf,transaction.rxBufLen.setWidth 32,rxSource⟩) := ⟨rfl,rfl,⟨rxSource,rfl⟩,rfl,rfl⟩
    obtain ⟨someRx,describesSome⟩ := describes_some rxChan (rxWin.image transaction.rxBuf) transaction.rxBufLen rxTaken
    refine conforms_bind.mpr ((prep_prepares (descriptor_described carriesTx)).mono ?_)
    intro g1 outcome prepares
    rcases prepares with ⟨rc,after,rfl,failed,rfl⟩ | ⟨tx,txCookie,rfl,describesTx,rfl⟩
    · refine conforms_if (fun _ => ?_) fun passed => absurd failed passed
      obtain ⟨someTx,describesTx⟩ := describes_some txChan (txWin.image transaction.txBuf) transaction.txBufLen txTaken
      exact ⟨rc,_,rfl,.stopped failed (resolves someTx someRx describesTx describesSome) List.nil_prefix List.mem_cons_self,rfl⟩
    · refine conforms_if (fun failed => absurd failed (by decide)) fun _ => ?_
      refine conforms_bind.mpr ((prep_prepares (descriptor_described carriesRx)).mono ?_)
      intro g2 outcome prepares
      rcases prepares with ⟨rc,after,rfl,failed,rfl⟩ | ⟨rx,rxCookie,rfl,describesRx,rfl⟩
      · refine conforms_if (fun _ => ?_) fun passed => absurd failed passed
        refine ⟨rc,[.submitted txChan.chan tx,.terminated rxChan.chan],rfl,?_,tell_tell _ _⟩
        have begun : [Told.submitted txChan.chan tx] <+: telling transaction.wait [(txChan,tx),(rxChan,someRx)] := by
          rw [telling_two]
          exact List.cons_prefix_cons.mpr ⟨rfl,List.nil_prefix⟩
        exact .stopped failed (resolves tx someRx describesTx describesSome) begun (List.mem_cons_of_mem _ List.mem_cons_self)
      · refine conforms_if (fun failed => absurd failed (by decide)) fun _ => ?_
        refine conforms_bind.mpr (start_starts.mono ?_)
        intro g3 outcome starts
        -- The transmit side never waits.
        obtain ⟨rc,rfl,⟨rfl,rfl⟩ | ⟨_,waits,_⟩⟩ := starts
        · refine conforms_if (fun failed => absurd failed (by decide)) fun _ => ?_
          refine conforms_bind.mpr (start_starts.mono ?_)
          intro g4 outcome starts
          obtain ⟨rc,rfl,⟨rfl,rfl⟩ | ⟨failed,_,heard,begun,rfl⟩⟩ := starts
          · refine conforms_if (fun failed => absurd failed (by decide)) fun _ => ?_
            refine ⟨0,_,rfl,.carried (resolves tx rx describesTx describesRx),?_⟩
            rw [tell_tell,tell_tell,tell_tell,telling_two]
            rfl
          · refine conforms_if (fun _ => ?_) fun passed => absurd failed passed
            refine ⟨rc,.submitted txChan.chan tx :: .submitted rxChan.chan rx :: .issued txChan.chan :: .issued rxChan.chan ::
              heard++[.terminated rxChan.chan],rfl,
              .stopped failed (resolves tx rx describesTx describesRx) ?_ (List.mem_cons_of_mem _ List.mem_cons_self),?_⟩
            · rw [telling_two]
              refine List.cons_prefix_cons.mpr ⟨rfl,List.cons_prefix_cons.mpr ⟨rfl,?_⟩⟩
              exact List.cons_prefix_cons.mpr ⟨rfl,List.cons_prefix_cons.mpr ⟨rfl,begun⟩⟩
            · rw [tell_tell,tell_tell,tell_tell]
              rfl
        · cases waits

end

section
variable {γ : Type} {protocol : Protocol kernel γ} {post : γ → Outcome Fault Int → Prop} {ghost : γ} {dev : AxidmaDevice}
  {caller : Caller} {cmd : CInt} {arg : UserAddr}

theorem access_then {size : Nat} {readonly : Bool} {rest : Bool → Driver Int}
    (admitted : ∀ writable, protocol.admits ghost (.accessOk writable arg size))
    (still : ∀ writable reply, protocol.advance ghost (.accessOk writable arg size) reply = ghost)
    (next : ∀ accessible, Conforms protocol post ghost (rest accessible)) :
    Conforms protocol post ghost (axidmaAccessOk arg size readonly >>= rest) := by
  have readable : Conforms protocol post ghost (.call (.accessOk false arg size) rest) := by
    refine ⟨admitted false,fun reply _ => ?_⟩
    rw [still]
    exact next reply
  cases readonly with
  | true => exact readable
  | false =>
    refine ⟨admitted true,fun reply _ => ?_⟩
    rw [still]
    cases reply with
    | false => exact next false
    | true => exact readable

theorem ioctl_conforms (admitted : ∀ writable size, protocol.admits ghost (.accessOk writable arg size))
    (still : ∀ writable size reply, protocol.advance ghost (.accessOk writable arg size) reply = ghost)
    (refused : ∀ rc, rc < 0 → post ghost (.returned rc)) (command : Conforms protocol post ghost (ioctlCommand dev caller cmd arg)) :
    Conforms protocol post ghost (axidmaIoctl dev caller cmd arg) := by
  have rest : ∀ accessible : Bool, Conforms protocol post ghost
      (if (!accessible) = true then .ret (-EFAULT) else ioctlCommand dev caller cmd arg) :=
    fun accessible => conforms_if (fun _ => refused _ (by decide)) fun _ => command
  unfold axidmaIoctl
  refine conforms_if (fun _ => refused _ (by decide)) fun _ => conforms_if (fun _ => refused _ (by decide)) fun _ => ?_
  apply conforms_if
  · exact fun _ => access_then (fun _ => admitted _ _) (fun _ _ => still _ _ _) rest
  · intro _
    apply conforms_if
    · exact fun _ => access_then (fun _ => admitted _ _) (fun _ _ => still _ _ _) rest
    · exact fun _ => rest true

end

section
variable {dev : AxidmaDevice} {caller : Caller} {cmd : CInt} {addr : UserAddr} {arg : IoctlArg} {reads : Argument}
  {g : Trace} {holds : List Told → Int → Prop} {parts : List Part} {wait : Bool}

theorem answered_refused {rc : Int} (freed : g.blocks = []) (unlent : g.lent = []) (refused : ∀ rc, rc < 0 → holds g.told rc) (failed : rc < 0) :
    Answered holds g (.returned rc) := by
  intro _ rc' same
  cases same
  exact ⟨freed,unlent,refused rc failed⟩

theorem fetch_conforms {post : Trace → Outcome Fault Int → Prop} {kind : UserStruct} {next : kind.Value → Driver Int}
    (refused : ∀ honest, post {g with honest := honest} (.returned (-EFAULT)))
    (copied : ∀ value, reads kind value → ∀ honest, Conforms (reporting addr reads) post {g with honest := honest} (next value))
    (dishonest : ∀ g outcome, ¬ g.honest → post g outcome) :
    Conforms (reporting addr reads) post g (fetch kind addr next) := by
  unfold fetch
  refine ⟨fun _ => trivial,fun reply _ => ?_⟩
  obtain ⟨left,value⟩ := reply
  apply conforms_if
  · exact fun _ => refused _
  · intro whole
    by_cases good : reads kind value
    · exact copied value good _
    · refine (@dishonest_conforms addr reads _ _ (fun g outcome => post g outcome) _ ?_).mono fun g outcome ends => ?_
      · exact fun honest => good (honest.2 rfl (not_not.mp whole))
      · by_cases honest : g.honest
        · exact ends honest
        · exact dishonest g outcome honest

theorem fetch_answered {kind : UserStruct} {next : kind.Value → Driver Int} (freed : g.blocks = []) (unlent : g.lent = [])
    (refused : ∀ rc, rc < 0 → holds g.told rc)
    (copied : ∀ value, reads kind value → ∀ honest,
      Conforms (reporting addr reads) (Answered holds) {g with honest := honest} (next value)) :
    Conforms (reporting addr reads) (Answered holds) g (fetch kind addr next) :=
  fetch_conforms (fun _ => answered_refused freed unlent refused (by decide)) copied fun _ _ dishonest honest => absurd honest dishonest

theorem carried_answered {channels : List AxidmaChan} {windows : List (Window 64)} {honest : Prop} {g' : Trace} {outcome : Outcome Fault Int}
    (carried : Carried channels windows parts wait ⟨honest,[],[],[]⟩ g' outcome) :
    Answered (fun told rc => Transfers channels windows parts wait rc told) g' outcome := by
  obtain ⟨rc,told,rfl,transfers,rfl⟩ := carried
  intro _ rc' same
  cases same
  exact ⟨rfl,rfl,transfers⟩

theorem ioctl_answered (asked : transferOf dev.channels cmd arg = some (parts,wait)) (proper : ∀ part ∈ parts, part.Proper) :
    Conforms (reporting addr (ServedIoctls.Reads arg)) (Answered fun told rc => Transfers dev.channels (Translation.windows dev) parts wait rc told)
      ⟨True,[],[],[]⟩ (axidmaIoctl dev caller cmd addr) := by
  refine ioctl_conforms (fun _ _ _ => trivial) (fun _ _ _ => rfl) ?_ ?_
  · exact fun rc failed => answered_refused rfl rfl (fun _ negative => .refused negative) failed
  · cases arg with
    | transaction request =>
      simp only [transferOf] at asked
      by_cases read : cmd = AXIDMA_DMA_READ
      · rw [if_pos read] at asked
        cases asked
        subst read
        apply fetch_answered rfl rfl (fun _ negative => .refused negative)
        intro value reads honest
        obtain rfl := reads
        exact (oneway_carried (proper _ List.mem_cons_self)).mono fun _ _ => carried_answered
      · rw [if_neg read] at asked
        by_cases write : cmd = AXIDMA_DMA_WRITE
        · rw [if_pos write] at asked
          cases asked
          subst write
          apply fetch_answered rfl rfl (fun _ negative => .refused negative)
          intro value reads honest
          obtain rfl := reads
          exact (oneway_carried (proper _ List.mem_cons_self)).mono fun _ _ => carried_answered
        · rw [if_neg write] at asked
          cases asked
    | inoutTransaction request =>
      simp only [transferOf] at asked
      by_cases readwrite : cmd = AXIDMA_DMA_READWRITE
      · rw [if_pos readwrite] at asked
        cases asked
        subst readwrite
        apply fetch_answered rfl rfl (fun _ negative => .refused negative)
        intro value reads honest
        obtain rfl := reads
        exact (rw_carried proper).mono fun _ _ => carried_answered
      · rw [if_neg readwrite] at asked
        cases asked
    | videoTransaction request => cases asked
    | chan chanInfo => cases asked

theorem stop_answered (stopping : stops cmd arg = true) :
    Conforms (reporting addr (ServedIoctls.Reads arg)) (Answered fun told rc => rc < 0 ∧ told = [] ∨ ∃ chan ∈ dev.channels, told = [.terminated chan.chan])
      ⟨True,[],[],[]⟩ (axidmaIoctl dev caller cmd addr) := by
  refine ioctl_conforms (fun _ _ _ => trivial) (fun _ _ _ => rfl) ?_ ?_
  · exact fun rc failed => answered_refused rfl rfl (fun _ negative => .inl ⟨negative,rfl⟩) failed
  cases arg with
  | chan chanInfo =>
    obtain rfl := of_decide_eq_true stopping
    refine ⟨fun _ => trivial,fun reply _ => ?_⟩
    obtain ⟨left,chanInfo⟩ := reply
    show Conforms _ _ _ (axidmaStopChannel dev chanInfo)
    unfold axidmaStopChannel
    simp only [channel_test]
    cases found : axidmaGetChan dev chanInfo.channelId with
    | none => exact fun _ rc same => by cases same
    | some chan => exact ⟨fun _ => trivial,fun rc _ _ _ _ => ⟨rfl,rfl,.inr ⟨chan,(found_member found).1,rfl⟩⟩⟩
  | transaction request => cases stopping
  | inoutTransaction request => cases stopping
  | videoTransaction request => cases stopping

def Displayed (channels : List AxidmaChan) (request : UserVideoTransaction) (dir : AxidmaDir) (g g' : Trace)
    (outcome : Outcome Fault Int) : Prop :=
  (∃ error, outcome = .faulted error) ∨
    ∃ rc told, outcome = .returned rc ∧ g' = g.tell told ∧ Displays channels request dir 0 told

section
variable {request : UserVideoTransaction} {dir : AxidmaDir} {trans : AxidmaVideoTransaction}

theorem body_displayed (id : trans.channelId = request.channelId) (frame : trans.frame = request.frame) :
    Conforms (reporting addr reads) (Displayed dev.channels request dir g) g (videoTransferBody dev caller trans dir) := by
  have nothing : ∀ rc, Displayed dev.channels request dir g g (.returned rc) := fun rc => .inr ⟨rc,[],rfl,tell_nil.symm,.nothing⟩
  unfold videoTransferBody
  cases trans.sgList dev with
  | error rc => exact nothing rc
  | ok sgList =>
    simp only [channel_test]
    cases found : axidmaGetChan dev trans.channelId with
    | none => exact .inl ⟨_,rfl⟩
    | some chan =>
      rw [id] at found
      simp only [Prog.deref_some,Prog.ret_bind]
      cases first : sgList.head? with
      | none =>
        have empty : (videoTfr dev caller trans dir sgList).sgList = [] := List.head?_eq_none_iff.mp first
        refine conforms_bind.mpr ((prep_unframed rfl empty).mono ?_)
        rintro g1 outcome (⟨error,rfl⟩ | ⟨rc,after,rfl,failed,rfl⟩)
        · exact .inl ⟨error,rfl⟩
        · exact conforms_if (fun _ => .inr ⟨rc,_,rfl,rfl,.stopped found⟩) fun passed => absurd failed passed
      | some entry =>
        have framed : (videoTfr dev caller trans dir sgList).frame = some request.frame := congrArg some frame
        refine conforms_bind.mpr ((prep_prepares (descriptor_framed rfl rfl first framed)).mono ?_)
        intro g1 outcome prepares
        rcases prepares with ⟨rc,after,rfl,failed,rfl⟩ | ⟨prepared,cookie,rfl,frames,rfl⟩
        · exact conforms_if (fun _ => .inr ⟨rc,_,rfl,rfl,.stopped found⟩) fun passed => absurd failed passed
        · refine conforms_if (fun failed => absurd failed (Int.lt_irrefl 0)) fun _ => start_starts.mono ?_
          intro g2 outcome starts
          obtain ⟨rc,rfl,⟨rfl,rfl⟩ | ⟨_,waits,_⟩⟩ := starts
          · exact .inr ⟨0,_,rfl,tell_tell _ _,.begun found frames⟩
          · cases waits

-- The list of entries is given back however the transfer ends, unless it never does.
theorem video_displayed {honest : Prop} {blocks : List Nat} (id : trans.channelId = request.channelId) (frame : trans.frame = request.frame) :
    Conforms (reporting addr reads) (fun g' outcome => (∃ error, outcome = .faulted error) ∨
      ∃ told, outcome = .returned 0 ∧ g' = Trace.tell ⟨honest,[],blocks,[]⟩ told ∧ Displays dev.channels request dir 0 told)
      ⟨honest,[],blocks,[]⟩ (axidmaVideoTransfer dev caller trans dir) := by
  refine ⟨fun _ => trivial,fun reply _ => ?_⟩
  cases reply with
  | none => exact .inr ⟨[],rfl,tell_nil.symm,.nothing⟩
  | some sgList =>
    show Conforms _ _ _ (videoTransferBody dev caller trans dir >>= fun _ => kcall (.kfree sgList) >>= fun _ => pure 0)
    refine conforms_bind.mpr ((body_displayed id frame).mono ?_)
    rintro g1 outcome (⟨error,rfl⟩ | ⟨rc,told,rfl,rfl,displays⟩)
    · exact .inl ⟨error,rfl⟩
    · exact ⟨fun _ => rfl,fun _ _ => .inr ⟨told,rfl,rfl,displays⟩⟩

theorem ioctlVideo_answered :
    Conforms (reporting addr (ServedIoctls.Reads (.videoTransaction request))) (Answered fun told rc => Displays dev.channels request dir rc told)
      ⟨True,[],[],[]⟩ (ioctlVideo dev caller addr dir) := by
  apply fetch_answered rfl rfl (fun _ negative => .refused negative)
  intro value reads honest
  obtain rfl := reads
  refine ⟨fun _ => trivial,fun reply _ => ?_⟩
  cases reply with
  | none => exact answered_refused rfl rfl (fun _ negative => .refused negative) (by decide)
  | some frameBuffers =>
    refine ⟨fun _ => trivial,fun user _ => ?_⟩
    cases user with
    | none => exact fun _ rc same => by cases same
    | some user =>
      refine ⟨fun _ => trivial,fun copy _ => ?_⟩
      obtain ⟨left,buffers⟩ := copy
      apply conforms_if
      · intro _
        exact ⟨fun _ => rfl,fun _ _ => answered_refused rfl rfl (fun _ negative => .refused negative) (by decide)⟩
      · intro _
        refine conforms_bind.mpr ((video_displayed rfl rfl).mono ?_)
        rintro g1 outcome (⟨error,rfl⟩ | ⟨told,rfl,rfl,displays⟩)
        · exact fun _ rc same => by cases same
        · refine ⟨fun _ => rfl,fun _ _ _ rc same => ?_⟩
          cases same
          exact ⟨rfl,rfl,displays⟩

theorem display_answered (shown : displayOf cmd arg = some (request,dir)) :
    Conforms (reporting addr (ServedIoctls.Reads arg)) (Answered fun told rc => Displays dev.channels request dir rc told)
      ⟨True,[],[],[]⟩ (axidmaIoctl dev caller cmd addr) := by
  refine ioctl_conforms (fun _ _ _ => trivial) (fun _ _ _ => rfl) ?_ ?_
  · exact fun rc failed => answered_refused rfl rfl (fun _ negative => .refused negative) failed
  · cases arg with
    | videoTransaction given =>
      simp only [displayOf] at shown
      by_cases read : cmd = AXIDMA_DMA_VIDEO_READ
      · rw [if_pos read] at shown
        cases shown
        subst read
        exact ioctlVideo_answered
      · rw [if_neg read] at shown
        by_cases write : cmd = AXIDMA_DMA_VIDEO_WRITE
        · rw [if_pos write] at shown
          cases shown
          subst write
          exact ioctlVideo_answered
        · rw [if_neg write] at shown
          cases shown
    | transaction given => cases shown
    | inoutTransaction given => cases shown
    | chan chanInfo => cases shown

end

-- What a registration comes to: it tells the engine nothing, and adds one buffer if it
-- is accepted.
def Registered (extBuf : AxidmaRegisterBuffer) (g : Trace) (outcome : Outcome Fault Int) : Prop :=
  g.honest → ∀ rc, outcome = .returned rc → g.told = [] ∧ ((rc < 0 ∧ g.lent = []) ∨
    (rc = 0 ∧ ∃ alloc, g.lent = [alloc] ∧ alloc.userAddr = extBuf.userAddr ∧ alloc.size = extBuf.size))

theorem registered_refused {extBuf : AxidmaRegisterBuffer} {rc : Int} (silent : g.told = []) (unlent : g.lent = []) (failed : rc < 0) :
    Registered extBuf g (.returned rc) := by
  intro _ rc' same
  cases same
  exact ⟨silent,.inl ⟨failed,unlent⟩⟩

theorem getExternal_registered {honest : Prop} (extBuf : AxidmaRegisterBuffer) :
    Conforms (reporting addr reads) (Registered extBuf) ⟨honest,[],[],[]⟩ (axidmaGetExternal caller extBuf) := by
  unfold axidmaGetExternal
  refine ⟨fun _ => trivial,fun dmaAlloc _ => ?_⟩
  cases dmaAlloc with
  | none => exact registered_refused rfl rfl (by decide)
  | some dmaAlloc =>
    refine ⟨fun _ => trivial,fun dmaBuf _ => ?_⟩
    cases dmaBuf with
    | error error => exact ⟨fun _ => rfl,fun _ _ => registered_refused rfl rfl error.rc_neg⟩
    | ok dmaBuf =>
      refine ⟨fun _ => trivial,fun dmaAttach _ => ?_⟩
      cases dmaAttach with
      | error error => exact ⟨fun _ => trivial,fun _ _ => ⟨fun _ => rfl,fun _ _ => registered_refused rfl rfl error.rc_neg⟩⟩
      | ok dmaAttach =>
        refine ⟨fun _ => trivial,fun sgTable _ => ?_⟩
        cases sgTable with
        | error error =>
          refine ⟨fun _ => trivial,fun _ _ => ⟨fun _ => trivial,fun _ _ => ⟨fun _ => rfl,fun _ _ => ?_⟩⟩⟩
          exact registered_refused rfl rfl error.rc_neg
        | ok sgTable =>
          refine conforms_if (fun _ => ?_) fun _ => ⟨fun _ => trivial,fun _ _ => ?_⟩
          · refine ⟨fun _ => trivial,fun _ _ => ⟨fun _ => trivial,fun _ _ => ⟨fun _ => trivial,fun _ _ => ⟨fun _ => rfl,fun _ _ => ?_⟩⟩⟩⟩
            exact registered_refused rfl rfl (by decide)
          · intro _ rc same
            cases same
            exact ⟨rfl,.inr ⟨rfl,_,rfl,rfl,rfl⟩⟩

theorem register_registered (extBuf : AxidmaRegisterBuffer) :
    Conforms (reporting addr (readsBuffer extBuf)) (Registered extBuf) ⟨True,[],[],[]⟩
      (axidmaIoctl dev caller AXIDMA_REGISTER_BUFFER addr) := by
  refine ioctl_conforms (fun _ _ _ => trivial) (fun _ _ _ => rfl) (fun _ failed => registered_refused rfl rfl failed) ?_
  show Conforms _ _ _ (fetch .registerBuffer addr fun (extBuf : AxidmaRegisterBuffer) => axidmaGetExternal caller extBuf)
  refine fetch_conforms (fun _ => registered_refused rfl rfl (by decide)) ?_ fun _ _ dishonest honest => absurd honest dishonest
  intro value good honest
  obtain rfl := good
  exact getExternal_registered value

theorem ioctl_silent {ends : Outcome Fault Int → Prop} {at' : UserAddr} (refused : ∀ rc, rc < 0 → ends (.returned rc))
    (command : Does Quietly ends (ioctlCommand dev caller cmd at')) : Does Quietly ends (axidmaIoctl dev caller cmd at') :=
  ioctl_conforms (fun _ _ => ⟨trivial,fun _ => rfl,rfl,fun _ => rfl⟩) (fun _ _ _ => rfl) refused command

theorem signal_silent {signal : UserAddr} :
    Does Quietly (fun _ => True) (axidmaIoctl dev caller AXIDMA_SET_DMA_SIGNAL signal) := by
  apply ioctl_silent fun _ _ => trivial
  show Does _ _ (axidmaSetSignal _)
  unfold axidmaSetSignal
  exact does_if (fun _ => trivial) fun _ => ⟨⟨trivial,fun _ => rfl,rfl,fun _ => rfl⟩,fun _ _ => trivial⟩

def Queried (outcome : Outcome Fault Int) : Prop := ∀ rc, outcome = .returned rc → rc ≤ 0

theorem queried_self {rc : Int} (low : rc ≤ 0) : Queried (.returned rc) := by
  intro rc' same
  cases same
  exact low

theorem count_silent : Does Quietly Queried (axidmaIoctl dev caller AXIDMA_GET_NUM_DMA_CHANNELS addr) := by
  refine ioctl_silent (fun rc failed => queried_self (Int.le_of_lt failed)) ⟨⟨trivial,fun _ => rfl,rfl,fun _ => rfl⟩,fun left _ => ?_⟩
  exact queried_self (by split <;> decide)

theorem table_silent : Does Quietly Queried (axidmaIoctl dev caller AXIDMA_GET_DMA_CHANNELS addr) := by
  apply ioctl_silent fun rc failed => queried_self (Int.le_of_lt failed)
  unfold ioctlCommand fetch
  rw [if_neg (by decide),if_pos rfl]
  refine ⟨⟨trivial,fun _ => rfl,rfl,fun _ => rfl⟩,fun reply _ => does_if (fun _ => queried_self (by decide)) fun _ => ?_⟩
  refine ⟨⟨trivial,fun _ => rfl,rfl,fun _ => rfl⟩,fun left _ => ?_⟩
  exact queried_self (by split <;> decide)

end

section
variable {client : Task} {channels : List AxidmaChan} {s : Driven} {t : Heap}

theorem represents_windows (rep : Represents client channels s t) : Translation.windows s.1.dev = t.windows := by
  rw [Translation.windows,Heap.windows,rep.live,rep.lent]

theorem ioctl_served {fd : Int} {cmd : CInt} {arg : IoctlArg} {rc : Int} {last : Driven} (rep : Represents client channels s t)
    (served : serves client s (.library (.ioctl fd cmd arg)) rc last) :
    ∃ upper, Allowed channels t (.library (.ioctl fd cmd arg)) rc upper ∧ Related client channels last upper := by
  have same := tell_nothing t
  simp only [Allowed]
  cases asked : transferOf channels cmd arg with
  | some transfer =>
    obtain ⟨parts,wait⟩ := transfer
    by_cases proper : ∀ part ∈ parts, part.Proper
    · simp only [if_pos proper]
      rcases served with ⟨failed,rfl⟩ | ⟨addr,call,session,called⟩
      · exact ⟨some t,⟨[],.refused failed,congrArg some same.symm⟩,rep⟩
      · rw [← rep.channels_eq] at asked
        obtain ⟨new,transfers,represents⟩ := called_represents rep (ioctl_answered asked proper) called
        rw [represents_windows rep,rep.channels_eq] at transfers
        exact ⟨some (t.tell new),⟨new,transfers,rfl⟩,represents⟩
    · simp only [if_neg proper]
      exact ⟨none,rfl,trivial⟩
  | none =>
    cases shown : displayOf cmd arg with
    | some display =>
      obtain ⟨request,dir⟩ := display
      rcases served with ⟨failed,rfl⟩ | ⟨addr,call,session,called⟩
      · exact ⟨some t,⟨[],.refused failed,congrArg some same.symm⟩,rep⟩
      · obtain ⟨new,displays,represents⟩ := called_represents rep (display_answered shown) called
        rw [rep.channels_eq] at displays
        exact ⟨some (t.tell new),⟨new,displays,rfl⟩,represents⟩
    | none =>
      by_cases stopping : stops cmd arg = true
      · simp only [if_pos stopping]
        rcases served with ⟨failed,rfl⟩ | ⟨addr,call,session,called⟩
        · exact ⟨some t,⟨[],.inl ⟨failed,rfl⟩,congrArg some same.symm⟩,rep⟩
        · obtain ⟨new,stopped,represents⟩ := called_represents rep (stop_answered stopping) called
          rw [rep.channels_eq] at stopped
          exact ⟨some (t.tell new),⟨new,stopped,rfl⟩,represents⟩
      · simp only [if_neg stopping]
        exact ⟨none,rfl,trivial⟩

theorem register_served {fd : Int} {extBuf : AxidmaRegisterBuffer} {rc : Int} {last : Driven} (rep : Represents client channels s t)
    (served : serves client s (.registerBuffer fd extBuf) rc last) :
    ∃ upper, Allowed channels t (.registerBuffer fd extBuf) rc upper ∧ Related client channels last upper := by
  rcases served with ⟨failed,rfl⟩ | ⟨addr,call,session,called⟩
  · exact ⟨some t,.inl ⟨failed,rfl⟩,rep⟩
  · obtain ⟨g,honest,follows,ended⟩ := called_traces (register_registered extBuf) called
    obtain ⟨silent,registered⟩ := ended honest rc rfl
    have represents := follows.represents rep
    rw [silent] at represents
    rcases registered with ⟨failed,unlent⟩ | ⟨rfl,alloc,one,start,size⟩
    · rw [unlent,grown_told,tell_nothing] at represents
      exact ⟨some t,.inl ⟨failed,rfl⟩,represents⟩
    · rw [one,grown,tell_nothing] at represents
      exact ⟨_,.inr ⟨rfl,Translation.ofExternal alloc,start,size,rfl⟩,represents⟩

-- The command has a number that the dispatch refuses.
theorem unregister_served {fd : Int} {userAddr : UserAddr} {rc : Int} {last : Driven} (rep : Represents client channels s t)
    (served : serves client s (.unregisterBuffer fd userAddr) rc last) :
    ∃ upper, Allowed channels t (.unregisterBuffer fd userAddr) rc upper ∧ Related client channels last upper := by
  rcases served with ⟨failed,rfl⟩ | ⟨call,session,called⟩
  · exact ⟨some t,⟨failed,rfl⟩,rep⟩
  · rw [Registration.unregister_not_dispatched] at called
    have refused : Does Quietly (fun outcome => outcome = .returned (-ENOTTY)) (Prog.ret (I := kernel) (ε := Fault) (-ENOTTY)) := rfl
    obtain ⟨represents,same⟩ := silent_represents rep refused called
    cases same
    have failed : (-ENOTTY : Int) < 0 := by decide
    exact ⟨some t,⟨failed,rfl⟩,represents⟩

-- Whatever a client does, the driver serves it as its mappings alone would have it.
theorem driver_refines_heap (client : Task) (channels : List AxidmaChan) :
    Refines (Related client channels) (driverServer client) (heapServer channels) := by
  intro s state op reply last related served
  obtain ⟨middle,worked,served⟩ := served
  cases state with
  | none => exact ⟨none,rfl,trivial⟩
  | some t =>
    have rep : Represents client channels middle t := works_on related worked
    cases op with
    | mmap fd length =>
      rcases served with ⟨rfl,rfl⟩ | ⟨area,rc,call,session,own,nonempty,sized,free,called,rfl⟩
      · exact ⟨some t,.inl ⟨rfl,rfl⟩,rep⟩
      · obtain ⟨mapped,executed,moves⟩ := maps_alone mmap_maps called
        obtain ⟨upper,allowed,represents⟩ := map_served rep own nonempty sized free executed
        exact ⟨upper,allowed,works_related represents moves⟩
    | munmap addr length =>
      by_cases whole : t.Whole addr (pageAlign length)
      · simp only [heapServer,Allowed,if_pos whole]
        rcases served with ⟨failed,rfl⟩ | ⟨rfl,_,called⟩
        · exact ⟨some t,.inl ⟨failed,rfl⟩,rep⟩
        · obtain ⟨closed,executed,moves⟩ := maps_alone close_maps called
          obtain ⟨smaller,live,lent,log,represents⟩ := unmap_served rep whole executed
          exact ⟨some smaller,.inr ⟨rfl,smaller,rfl,live,lent,log⟩,works_on represents moves⟩
      · simp only [heapServer,Allowed,if_neg whole]
        exact ⟨none,rfl,trivial⟩
    | registerBuffer fd extBuf => exact register_served rep served
    | unregisterBuffer fd userAddr => exact unregister_served rep served
    | library op =>
      cases op with
      | ioctl fd cmd arg => exact ioctl_served rep served
      | setDmaSignal fd signal =>
        rcases served with ⟨_,rfl⟩ | ⟨call,session,called⟩
        · exact ⟨some t,rfl,rep⟩
        · exact ⟨some t,rfl,(silent_represents rep signal_silent called).1⟩
      | getNumDmaChannels fd =>
        rcases served with ⟨failed,rfl⟩ | ⟨⟨addr,call,session,called⟩,answer⟩
        · exact ⟨some t,⟨fun fine => absurd failed (Int.not_lt.mpr fine),rfl⟩,rep⟩
        · obtain ⟨represents,queried⟩ := silent_represents rep count_silent called
          refine ⟨some t,⟨fun fine => ?_,rfl⟩,represents⟩
          rw [answer (Int.le_antisymm (queried _ rfl) fine)]
          exact congrArg LibrarySessions.DriverTable.numChan rep.table
      | getDmaChannels fd count =>
        rcases served with ⟨failed,rfl⟩ | ⟨⟨addr,call,session,called⟩,answer⟩
        · exact ⟨some t,⟨fun fine => absurd failed (Int.not_lt.mpr fine),rfl⟩,rep⟩
        · obtain ⟨represents,queried⟩ := silent_represents rep table_silent called
          refine ⟨some t,⟨fun fine => ?_,rfl⟩,represents⟩
          rw [answer (Int.le_antisymm (queried _ rfl) fine)]
          exact rep.channels_eq
      | _ => exact ⟨some t,rfl,served ▸ rep⟩
    | _ => exact ⟨some t,rfl,served ▸ rep⟩

theorem unregister_aborts {dev : AxidmaDev} {userAddr : UserAddr} {outcome : Outcome Abort Unit} {last : Driven}
    (rep : Represents client channels s t) (ran : ExecOn (driverServer client) (axidmaUnregisterBuffer dev userAddr) s outcome last) :
    outcome = .faulted (.library .assertion) ∧ Represents client channels last t := by
  have promises : Promises (heapServer channels) (fun outcome after => outcome = .faulted (.library .assertion) ∧ after = some t)
      (axidmaUnregisterBuffer dev userAddr) (some t) := by
    intro rc after allowed
    obtain ⟨failed,rfl⟩ := allowed
    exact promises_if (fun _ => ⟨rfl,rfl⟩) fun fine => absurd failed fine
  have related : Related client channels s (some t) := rep
  obtain ⟨above,related,rfl,rfl⟩ := (driver_refines_heap client channels).promised related promises ran
  exact ⟨rfl,related⟩

end

end Axidma.ServedTransfers
