import Axidma.ClientPrograms
import Axidma.ParsedNumbers

namespace Axidma.FileTransfer
open Interaction Ledger
open BitPacking ParsedNumbers ClientPrograms

-- The options as getopt hands them out. -o comes with the result of parse_double and
-- what its number of MiB comes to in bytes.
inductive GivenOption where
  | t (optarg : List (BitVec 8))
  | r (optarg : List (BitVec 8))
  | s (optarg : List (BitVec 8))
  | o (rc : Int) (size : CInt)
  | h
  | unknown

structure Settings where
  inputChannel : CInt
  outputChannel : CInt
  outputSize : CInt
  oSpecified : Bool
  sSpecified : Bool

structure Arguments where
  inputPath : Path
  outputPath : Path
  inputChannel : CInt
  outputChannel : CInt
  outputSize : CInt

def parseOption (settings : Settings) : GivenOption → Except Stop Settings
  | .t optarg => withInt id optarg fun intArg => {settings with inputChannel := intArg}
  | .r optarg => withInt id optarg fun intArg => {settings with outputChannel := intArg}
  | .s optarg => withInt id optarg fun intArg => {settings with outputSize := intArg, sSpecified := true}
  | .o rc size => if rc < 0 then .error (.failed rc) else .ok {settings with outputSize := size, oSpecified := true}
  | .h => .error .help
  | .unknown => .error (.failed (-EINVAL))

def parseArgs (options : List GivenOption) (operands : List Path) : Except Stop Arguments := do
  let settings ← options.foldlM parseOption ⟨-1,-1,-1,false,false⟩
  if (decide (settings.inputChannel = -1) ^^ decide (settings.outputChannel = -1)) = true then
    .error (.failed (-EINVAL))
  else if settings.sSpecified && settings.oSpecified then
    .error (.failed (-EINVAL))
  else
  match operands with
  | [inputPath,outputPath] =>
    .ok ⟨inputPath,outputPath,settings.inputChannel,settings.outputChannel,settings.outputSize⟩
  | _ => .error (.failed (-EINVAL))

structure DmaTransfer where
  inputFd : Int
  inputChannel : CInt
  inputSize : CInt
  outputFd : Int
  outputChannel : CInt
  outputSize : CInt

def freeInputBuf (trans : DmaTransfer) (inputBuf : UserAddr) (rc : Int) : Program Int := do
  axidmaFree inputBuf (trans.inputSize.signExtend 64)
  return rc

def freeOutputBuf (trans : DmaTransfer) (inputBuf outputBuf : UserAddr) (rc : Int) : Program Int := do
  axidmaFree outputBuf (trans.outputSize.signExtend 64)
  freeInputBuf trans inputBuf rc

def transferFile (dev : AxidmaDev) (trans : DmaTransfer) : Program Int := do
  match ← axidmaMalloc dev (trans.inputSize.signExtend 64) with
  | none => return -ENOMEM
  | some inputBuf =>
  let (rc,_) ← pcall (.robustRead trans.inputFd inputBuf trans.inputSize)
  if rc < 0 then
    axidmaFree inputBuf (trans.inputSize.signExtend 64)
    return rc
  else
  match ← axidmaMalloc dev (trans.outputSize.signExtend 64) with
  | none => freeInputBuf trans inputBuf (-ENOMEM)
  | some outputBuf =>
  let rc ← inProgram (LibraryTransfers.axidmaTwowayTransfer dev trans.inputChannel inputBuf (trans.inputSize.signExtend 64) none
    trans.outputChannel outputBuf (trans.outputSize.signExtend 64) none true)
  if rc < 0 then
    freeOutputBuf trans inputBuf outputBuf rc
  else
  let (rc,_) ← pcall (.robustWrite trans.outputFd outputBuf trans.outputSize)
  freeOutputBuf trans inputBuf outputBuf rc

def closeInput (inputFd : Int) (rc : Int) : Program Int := do
  closeAsserted inputFd
  return rc

def closeOutput (inputFd outputFd : Int) (rc : Int) : Program Int := do
  closeAsserted outputFd
  closeInput inputFd rc

def destroyAxidma (dev : AxidmaDev) (inputFd outputFd : Int) (rc : Int) : Program Int := do
  let _ ← inProgram (axidmaDestroy dev)
  closeOutput inputFd outputFd rc

-- From the two open files on, with the global handle as the process starts.
def withFiles (args : Arguments) (inputFd outputFd : Int) : Program Int := do
  let (initialised,dev) ← inProgram (axidmaInit zeroedDev)
  if !initialised then
    closeOutput inputFd outputFd 1
  else
  let (rc,stSize) ← pcall (.fstat inputFd)
  if rc < 0 then
    destroyAxidma dev inputFd outputFd 1
  else
  let inputSize : CInt := stSize.setWidth 32
  let outputSize := if args.outputSize = -1 then inputSize else args.outputSize
  if (axidmaGetDmaTx dev).len < 1 then
    destroyAxidma dev inputFd outputFd (-ENODEV)
  else if (axidmaGetDmaRx dev).len < 1 then
    destroyAxidma dev inputFd outputFd (-ENODEV)
  else
  let (inputChannel,outputChannel) ← chooseChannels args.inputChannel args.outputChannel (axidmaGetDmaTx dev) (axidmaGetDmaRx dev)
  let rc ← transferFile dev ⟨inputFd,inputChannel,inputSize,outputFd,outputChannel,outputSize⟩
  destroyAxidma dev inputFd outputFd (if rc < 0 then -rc else 0)

def main (options : List GivenOption) (operands : List Path) : Program Int := do
  match parseArgs options operands with
  | .error (.failed _) => return 1
  | .error .help => Prog.fault (.exited 0)
  | .error .undefined => Prog.fault .undefined
  | .ok args =>
  let inputFd : Int ← pcall (.openPath args.inputPath false)
  if inputFd < 0 then
    return 1
  else
  let outputFd : Int ← pcall (.openPath args.outputPath true)
  if outputFd < 0 then
    closeInput inputFd (-1)
  else
  withFiles args inputFd outputFd

-- The size of the input file as an int, which is less than the file from 2 GiB on.
def sizeRead (args : Arguments) (s : Host) : CInt := (BitVec.ofNat 64 (s.disk args.inputPath).size).setWidth 32

def sizeWritten (args : Arguments) (s : Host) : CInt := if args.outputSize = -1 then sizeRead args s else args.outputSize

structure Moved (fabric : List (BitVec 8) → List (BitVec 8)) (input output : Inode) (inputSize outputSize : CInt) : Prop where
  sent : 0 < inputSize.toInt
  received : 0 < outputSize.toInt
  size : output.size = outputSize.toInt.toNat
  bytes : ∀ k, k < outputSize.toInt.toNat → ∀ byte, (fabric (firstBytes input.contents inputSize.toInt.toNat))[k]? = some byte →
    output.contents k = byte

structure Copied (fabric : List (BitVec 8) → List (BitVec 8)) (args : Arguments) (s after : Host) : Prop where
  apart : args.inputPath ≠ args.outputPath
  moved : Moved fabric (s.disk args.inputPath) (after.disk args.outputPath) (sizeRead args s) (sizeWritten args s)
  whole : (s.disk args.inputPath).size < 2^31 → (sizeRead args s).toInt = (s.disk args.inputPath).size
  others : ∀ other, other ≠ args.outputPath → after.disk other = s.disk other

section
variable {α : Type} {fabric : List (BitVec 8) → List (BitVec 8)} {occurs : Event process → Prop} {before : Account Held}
  {things : List Held} {s after : Host} {dev : AxidmaDev} {post : Outcome Abort α → Host → Prop} {trans : DmaTransfer}

inductive TransferEnds (fabric : List (BitVec 8) → List (BitVec 8)) (before : Account Held) (things : List Held) (s : Host)
    (trans : DmaTransfer) (inputPath outputPath : Path) : Outcome Abort Int → Host → Prop where
  | returned {rc : Int} {after : Host} (owes : Owes before things after.account)
      (others : ∀ other, other ≠ outputPath → after.disk other = s.disk other)
      (moved : ¬ rc < 0 → Moved fabric (s.disk inputPath) (after.disk outputPath) trans.inputSize trans.outputSize) :
      TransferEnds fabric before things s trans inputPath outputPath (.returned rc) after
  | aborted {error : Abort} {after : Host} : TransferEnds fabric before things s trans inputPath outputPath (.faulted error) after

theorem freeInputBuf_ends {inputBuf : UserAddr} {rc : Int} {ends : Outcome Abort Int → Host → Prop}
    (aborted : ∀ error after, ends (.faulted error) after)
    (owes : Owes before (.mapping inputBuf (trans.inputSize.signExtend 64) :: things) s.account)
    (done : ∀ after, Quiet s after → Owes before things after.account → ends (.returned rc) after) :
    Ensures ((host fabric).only occurs) ends (freeInputBuf trans inputBuf rc) s := free_then_program aborted owes done

theorem freeOutputBuf_ends {inputBuf outputBuf : UserAddr} {rc : Int} {ends : Outcome Abort Int → Host → Prop}
    (aborted : ∀ error after, ends (.faulted error) after)
    (owes : Owes before (.mapping outputBuf (trans.outputSize.signExtend 64) ::
      .mapping inputBuf (trans.inputSize.signExtend 64) :: things) s.account)
    (done : ∀ after, Quiet s after → Owes before things after.account → ends (.returned rc) after) :
    Ensures ((host fabric).only occurs) ends (freeOutputBuf trans inputBuf outputBuf rc) s := by
  refine free_then_program aborted owes fun s1 quiet1 owes => ?_
  exact freeInputBuf_ends aborted owes fun s2 quiet2 owes => done s2 (quiet1.trans quiet2) owes

theorem transferFile_ends {inputPath outputPath : Path} (owes : Owes before things s.account)
    (apart : trans.inputFd ≠ trans.outputFd) (input : s.opened trans.inputFd = some (inputPath,0))
    (output : s.opened trans.outputFd = some (outputPath,0)) (fits : trans.inputSize.toInt.toNat ≤ (s.disk inputPath).size)
    (empty : (s.disk outputPath).size = 0) :
    Ensures ((host fabric).only occurs) (TransferEnds fabric before things s trans inputPath outputPath) (transferFile dev trans) s := by
  have aborted : ∀ error after, TransferEnds fabric before things s trans inputPath outputPath (.faulted error) after :=
    fun _ _ => .aborted
  unfold transferFile
  refine malloc_then_program owes ?_ fun inputBuf s1 room1 quiet1 owes => ?_
  · exact .returned owes (fun _ _ => rfl) fun fine => absurd (by decide) fine
  have positive1 := room1.1
  have value1 := extended_toInt room1.2.1
  have sent : 0 < trans.inputSize.toInt := by omega
  have input1 : s1.opened trans.inputFd = some (inputPath,0) := by rw [quiet1.opened,input]
  refine read_then input1 sent fun rc results s2 account2 disk2 opened2 bytes2 => ?_
  rw [← account2] at owes
  have disk2 : s2.disk = s.disk := disk2.trans quiet1.disk
  refine ensures_if (fun negative => ?_) fun fine2 => ?_
  · refine free_then_program aborted owes fun s3 quiet3 owes => ?_
    exact .returned owes (fun other _ => by rw [quiet3.disk,disk2]) fun fine => absurd negative fine
  · refine malloc_then_program owes ?_ fun outputBuf s3 room3 quiet3 owes3 => ?_
    · refine freeInputBuf_ends aborted owes fun s3 quiet3 owes => ?_
      exact .returned owes (fun other _ => by rw [quiet3.disk,disk2]) fun fine => absurd (by decide) fine
    · have positive3 := room3.1
      have value3 := extended_toInt room3.2.1
      have received : 0 < trans.outputSize.toInt := by omega
      have disk3 : s3.disk = s.disk := quiet3.disk.trans disk2
      refine twoway_then aborted (fun rc negative => ?_) fun rc transaction fine4 txBuf txLen rxBuf rxLen => ?_
      · refine ensures_if (fun _ => ?_) fun fine => absurd negative fine
        refine freeOutputBuf_ends aborted owes3 fun s4 quiet4 owes => ?_
        exact .returned owes (fun other _ => by rw [quiet4.disk,disk3]) fun fine => absurd negative fine
      · refine ensures_if (fun negative => absurd negative fine4) fun _ => ?_
        have output3 : s3.opened trans.outputFd = some (outputPath,0) := by
          rw [quiet3.opened,opened2 _ apart.symm,quiet1.opened,output]
        have empty3 : (s3.disk outputPath).size = 0 := by rw [disk3,empty]
        refine write_then output3 empty3 received fun rc results s5 account5 others5 written5 => ?_
        refine freeOutputBuf_ends aborted (account5 ▸ owes3) fun s6 quiet6 owes => ?_
        refine .returned owes (fun other away => ?_) fun fine => ?_
        · rw [quiet6.disk,others5 other away]
          exact congrFun disk3 other
        · obtain ⟨size,bytes⟩ := written5 fine
          rw [← quiet6.disk] at size bytes
          refine ⟨sent,received,size,fun k inside byte answered => (bytes k inside).trans ?_⟩
          rw [← rxBuf]
          apply transfer_view
          · rw [rxLen]
            omega
          · have length : (trans.inputSize.signExtend 64).toNat = trans.inputSize.toInt.toNat := by omega
            have whole : firstBytes (s3.view inputBuf) trans.inputSize.toInt.toNat =
                firstBytes (s.disk inputPath).contents trans.inputSize.toInt.toNat := by
              apply firstBytes_congr
              intro j below
              rw [quiet3.view,bytes2 fine2 j (by rw [quiet1.disk]; omega),quiet1.disk]
            rw [txBuf,txLen,length,whole]
            exact answered

inductive FilesEnd (fabric : List (BitVec 8) → List (BitVec 8)) (occurs : Event process → Prop) (before : Account Held) (s : Host)
    (args : Arguments) : Outcome Abort Int → Host → Prop where
  | returned {rc : Int} {after : Host} (settled : Settled occurs before rc after)
      (others : ∀ other, other ≠ args.outputPath → after.disk other = s.disk other)
      (moved : rc = 0 → Moved fabric (s.disk args.inputPath) (after.disk args.outputPath) (sizeRead args s) (sizeWritten args s)) :
      FilesEnd fabric occurs before s args (.returned rc) after
  | aborted {error : Abort} {after : Host} : FilesEnd fabric occurs before s args (.faulted error) after

inductive MainEnds (fabric : List (BitVec 8) → List (BitVec 8)) (occurs : Event process → Prop) (options : List GivenOption)
    (operands : List Path) (s : Host) : Outcome Abort Int → Host → Prop where
  | returned {rc : Int} {after : Host} (settled : Settled occurs s.account rc after)
      (copied : rc = 0 → ∃ args, parseArgs options operands = .ok args ∧ Copied fabric args s after) :
      MainEnds fabric occurs options operands s (.returned rc) after
  | aborted {error : Abort} {after : Host} : MainEnds fabric occurs options operands s (.faulted error) after

section
variable {args : Arguments} {inputFd outputFd : Int} {left : List Held} {rc : Int} {ends : Outcome Abort Int → Host → Prop}

theorem closeOutput_ends (aborted : ∀ error after, ends (.faulted error) after)
    (owes : Owes before (.descriptor outputFd :: .descriptor inputFd :: things) s.account)
    (done : ∀ after, Quiet s after → Owes before things after.account → ends (.returned rc) after) :
    Ensures ((host fabric).only occurs) ends (closeOutput inputFd outputFd rc) s := by
  refine close_then aborted owes fun s1 quiet1 owes => ?_
  exact close_then aborted owes fun s2 quiet2 owes => done s2 (quiet1.trans quiet2) owes

theorem destroyAxidma_ends (aborted : ∀ error after, ends (.faulted error) after)
    (owes : Owes before (handleThings dev++(.descriptor outputFd :: .descriptor inputFd :: things)) s.account)
    (done : ∀ after, Quiet s after → Owes before things after.account → ends (.returned rc) after) :
    Ensures ((host fabric).only occurs) ends (destroyAxidma dev inputFd outputFd rc) s := by
  refine destroy_then aborted owes fun _ s1 quiet1 owes => ?_
  exact closeOutput_ends aborted owes fun s2 quiet2 owes => done s2 (quiet1.trans quiet2) owes

theorem sizeRead_below (size : Nat) : ((BitVec.ofNat 64 size).setWidth 32 : CInt).toInt.toNat ≤ size := by
  have low : ((BitVec.ofNat 64 size).setWidth 32 : CInt).toNat ≤ size := by
    rw [BitVec.toNat_setWidth,BitVec.toNat_ofNat]
    exact Nat.le_trans (Nat.mod_le _ _) (Nat.mod_le _ _)
  have value := ((BitVec.ofNat 64 size).setWidth 32 : CInt).toInt_eq_toNat_cond
  omega

theorem sizeRead_whole (small : (s.disk args.inputPath).size < 2^31) : (sizeRead args s).toInt = (s.disk args.inputPath).size := by
  have kept : (sizeRead args s).toNat = (s.disk args.inputPath).size := by
    rw [sizeRead,BitVec.toNat_setWidth,BitVec.toNat_ofNat]
    omega
  rw [BitVec.toInt_eq_toNat_of_lt (by omega),kept]

theorem withFiles_ends (owes : Owes before (.descriptor outputFd :: [.descriptor inputFd]) s.account) (apart : inputFd ≠ outputFd)
    (input : s.opened inputFd = some (args.inputPath,0)) (output : s.opened outputFd = some (args.outputPath,0))
    (empty : (s.disk args.outputPath).size = 0) :
    Ensures ((host fabric).only occurs) (FilesEnd fabric occurs before s args) (withFiles args inputFd outputFd) s := by
  have aborted : ∀ error after, FilesEnd fabric occurs before s args (.faulted error) after := fun _ _ => .aborted
  unfold withFiles
  refine init_then aborted owes (fun lib s1 quiet1 owes => ?_) fun lib left s1 only quiet1 owes => ?_
  · have input1 : s1.opened inputFd = some (args.inputPath,0) := by rw [quiet1.opened,input]
    have output1 : s1.opened outputFd = some (args.outputPath,0) := by rw [quiet1.opened,output]
    have empty1 : (s1.disk args.outputPath).size = 0 := by rw [quiet1.disk,empty]
    have unwinds : ∀ rc, rc ≠ 0 → Ensures ((host fabric).only occurs) (FilesEnd fabric occurs before s args)
        (destroyAxidma lib inputFd outputFd rc) s1 := by
      intro rc other
      refine destroyAxidma_ends aborted owes fun after quiet owes => ?_
      exact .returned ⟨[],.inl rfl,owes⟩ (fun other _ => by rw [quiet.disk,quiet1.disk]) fun zero => absurd zero other
    refine fstat_then input1 fun rc stSize sized => ?_
    refine ensures_if (fun _ => unwinds 1 (by decide)) fun _ => ?_
    refine ensures_if (fun _ => unwinds (-ENODEV) (by decide)) fun _ => ?_
    refine ensures_if (fun _ => unwinds (-ENODEV) (by decide)) fun _ => ?_
    refine choose_then aborted fun channels => ?_
    have fits : (stSize.setWidth 32 : CInt).toInt.toNat ≤ (s1.disk args.inputPath).size := by
      have below := sizeRead_below (s1.disk args.inputPath).size
      rw [sized]
      exact below
    refine ensures_bind ((transferFile_ends owes apart input1 output1 fits empty1).mono ?_)
    intro outcome s2 ends
    cases ends with
    | aborted => exact .aborted
    | @returned rc _ owes others moved =>
      refine destroyAxidma_ends aborted owes fun s3 quiet3 owes => ?_
      refine .returned ⟨[],.inl rfl,owes⟩ (fun other away => ?_) fun zero => ?_
      · rw [quiet3.disk,others other away,quiet1.disk]
      · have fine : ¬ rc < 0 := by
          intro negative
          rw [if_pos negative] at zero
          omega
        have result := moved fine
        rw [← quiet3.disk,sized,quiet1.disk] at result
        exact result
  · have owed : Owes before (.descriptor outputFd :: .descriptor inputFd :: left) s1.account := owes.perm List.perm_append_comm
    refine closeOutput_ends aborted owed fun s2 quiet2 owed => ?_
    refine .returned ⟨left,?_,owed⟩ (fun other _ => by rw [quiet2.disk,quiet1.disk]) fun zero => absurd zero (by decide)
    rcases only with none | ⟨arrays,unsignalled⟩
    · exact .inl none
    · exact .inr ⟨arrays,rfl,unsignalled⟩

-- A path that is both input and output is empty by the time it is measured.
theorem copied_of {opened : Host} (truncated : opened.disk = Function.update s.disk args.outputPath ⟨(s.disk args.outputPath).contents,0⟩)
    (others : ∀ other, other ≠ args.outputPath → after.disk other = opened.disk other)
    (moved : Moved fabric (opened.disk args.inputPath) (after.disk args.outputPath) (sizeRead args opened) (sizeWritten args opened)) :
    Copied fabric args s after := by
  have apart : args.inputPath ≠ args.outputPath := by
    intro same
    have none : sizeRead args opened = 0 := by
      rw [sizeRead,truncated,same,Function.update_self]
      rfl
    have sent := moved.sent
    rw [none] at sent
    exact absurd sent (by decide)
  have input : opened.disk args.inputPath = s.disk args.inputPath := by rw [truncated,Function.update_of_ne apart]
  have read : sizeRead args opened = sizeRead args s := by rw [sizeRead,input,sizeRead]
  refine ⟨apart,?_,sizeRead_whole,fun other away => ?_⟩
  · rw [sizeWritten,read,input] at moved
    exact moved
  · rw [others other away,truncated,Function.update_of_ne away]

theorem main_ends {options : List GivenOption} {operands : List Path} :
    Ensures ((host fabric).only occurs) (MainEnds fabric occurs options operands s) (main options operands) s := by
  have aborted : ∀ error after, MainEnds fabric occurs options operands s (.faulted error) after := fun _ _ => .aborted
  unfold main
  cases parsed : parseArgs options operands with
  | error stop =>
    cases stop with
    | failed rc => exact .returned ⟨[],.inl rfl,.start⟩ fun zero => absurd zero (by decide)
    | help => exact .aborted
    | undefined => exact .aborted
  | ok args =>
    refine open_then .start (fun fd refused => ?_) fun inputFd s1 given1 _ owes1 _ opened1 disk1 _ => ?_
    · exact ensures_if (fun _ => .returned ⟨[],.inl rfl,.start⟩ fun zero => absurd zero (by decide)) fun fine => absurd refused fine
    · refine ensures_if (fun refused => absurd refused given1) fun _ => ?_
      refine open_then owes1 (fun fd refused => ?_) fun outputFd s2 given2 fresh owes2 _ opened2 disk2 _ => ?_
      · refine ensures_if (fun _ => ?_) fun fine => absurd refused fine
        refine close_then aborted owes1 fun s2 _ owes => ?_
        exact .returned ⟨[],.inl rfl,owes⟩ fun zero => absurd zero (by decide)
      · refine ensures_if (fun refused => absurd refused given2) fun _ => ?_
        have apart : inputFd ≠ outputFd := by
          rintro rfl
          exact fresh (owes1.held.mem_iff.mpr List.mem_cons_self)
        have input : s2.opened inputFd = some (args.inputPath,0) := by
          rw [opened2,Function.update_of_ne apart,opened1,Function.update_self]
        have output : s2.opened outputFd = some (args.outputPath,0) := by rw [opened2,Function.update_self]
        have disk1 : s1.disk = s.disk := disk1
        have disk2 : s2.disk = Function.update s.disk args.outputPath ⟨(s.disk args.outputPath).contents,0⟩ := by
          rw [← disk1]
          exact disk2
        have empty : (s2.disk args.outputPath).size = 0 := by rw [disk2,Function.update_self]
        refine (withFiles_ends owes2 apart input output empty).mono ?_
        intro outcome after ends
        cases ends with
        | aborted => exact .aborted
        | returned settled others moved => exact .returned settled fun zero => ⟨args,parsed,copied_of disk2 others (moved zero)⟩

end

-- Whatever fails on the way, the descriptors, the mappings and the arrays of the handle
-- are given back once each before main returns.
theorem returns_everything {options : List GivenOption} {operands : List Path} {rc : Int} {record : Host × List (Event process)}
    (ran : Exec (host fabric).recorded (main options operands) (s,[]) (.returned rc) record) :
    Settled (fun event => event ∈ record.2) s.account rc record.1 := by
  cases ensures_iff.mp main_ends _ _ ran.only.2 with
  | returned settled _ => exact settled

end

def inPath : Path := [105]
def outPath : Path := [111]

def twoFiles : Host where
  account := ⟨[],[]⟩
  memory := fun _ => 0
  disk := fun path => if path = inPath then ⟨fun k => BitVec.ofNat 8 (7+k),3⟩ else ⟨fun _ => 1,5⟩
  opened := fun _ => none
  shown := []

def recordedRun : Host × List (Event process) := ((plain List.reverse).recorded.advance 60 (main [] [inPath,outPath]) (twoFiles,[])).2

theorem three_bytes_recorded : Exec (host List.reverse).recorded (main [] [inPath,outPath]) (twoFiles,[]) (.returned 0) recordedRun :=
  answered_exec (by decide +kernel)

theorem three_bytes_settled : Settled (fun event => event ∈ recordedRun.2) twoFiles.account 0 recordedRun.1 :=
  returns_everything three_bytes_recorded

end Axidma.FileTransfer
