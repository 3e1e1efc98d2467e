import Axidma.BitPacking
import Axidma.DriverTypes

namespace Axidma.RobustTransfer
open BitPacking

def EINTR : Int := 4

-- What one call of read or write comes to.
inductive Result where
  | count (n : Nat)
  | endOfFile
  | failed (errno : Int)
deriving DecidableEq

def Result.interrupted : Result := .failed EINTR

-- The reason for a failure is in errno alone.
def Result.value : Result → Int
  | .count n => n
  | .endOfFile => 0
  | .failed _ => -1

def Result.moved : Result → Nat
  | .count n => n
  | .endOfFile => 0
  | .failed _ => 0

structure Call where
  offset : Int
  requested : Int
  result : Result
deriving DecidableEq

structure Run (σ : Type) where
  calls : List Call
  state : σ
  -- None as long as the results do not take the function to its end.
  returned : Option Int

def Run.last {σ : Type} (run : Run σ) : Option Result := (run.calls.map Call.result).getLast?

section
variable {σ : Type} (moves : Nat → Nat → σ → σ)

structure Pass (σ : Type) where
  call : Call
  bytesRemain : Int
  state : σ
  returned : Option Int

-- One pass of the loop of either function, for the bytes that its system call moves.
def pass (bufSize bytesRemain : Int) (s : σ) (result : Result) : Pass σ :=
  let bufOffset := bufSize-bytesRemain
  let bytes := result.value
  let remain := if bytes > 0 then bytesRemain-bytes else bytesRemain
  ⟨⟨bufOffset,bytesRemain,result⟩,remain,moves bufOffset.toNat result.moved s,
    if bytes < 0 ∧ bytes ≠ -EINTR then some bytes else if bytes = 0 then some (bufSize-remain) else none⟩

-- A call for no bytes returns 0 and takes none of the results.
def loop (bufSize bytesRemain : Int) (s : σ) : List Result → Run σ
  | [] =>
    let pass := pass moves bufSize bytesRemain s .endOfFile
    if bytesRemain = 0 then ⟨[pass.call],pass.state,pass.returned⟩ else ⟨[],s,none⟩
  | result :: results =>
    let pass := pass moves bufSize bytesRemain s (if bytesRemain = 0 then .endOfFile else result)
    match pass.returned with
    | some value => ⟨[pass.call],pass.state,some value⟩
    | none =>
      let run := loop bufSize pass.bytesRemain pass.state results
      ⟨pass.call :: run.calls,run.state,run.returned⟩

end

structure File where
  contents : Buffer
  position : Nat

def place (dst : Buffer) (start : Nat) (src : Buffer) (origin n : Nat) : Buffer :=
  fun k => if start ≤ k ∧ k < start+n then src (origin+(k-start)) else dst k

def readBytes (offset n : Nat) (s : Buffer × File) : Buffer × File :=
  (place s.1 offset s.2.contents s.2.position n,⟨s.2.contents,s.2.position+n⟩)

def writeBytes (offset n : Nat) (s : Buffer × File) : Buffer × File :=
  (s.1,⟨place s.2.contents s.2.position s.1 offset n,s.2.position+n⟩)

def robustRead (file : File) (buf : Buffer) (bufSize : Int) (results : List Result) : Run (Buffer × File) :=
  loop readBytes bufSize bufSize (buf,file) results

def robustWrite (file : File) (buf : Buffer) (bufSize : Int) (results : List Result) : Run (Buffer × File) :=
  loop writeBytes bufSize bufSize (buf,file) results

def Result.Answers (remain : Nat) : Result → Prop
  | .count n => 0 < n ∧ n ≤ remain
  | .endOfFile => True
  | .failed _ => True

-- The results that calls for what is left to move can have.
def Posix : Nat → List Result → Prop
  | _,[] => True
  | remain,result :: results => remain = 0 ∨ (result.Answers remain ∧ Posix (remain-result.moved) results)

def total (calls : List Call) : Nat := (calls.map fun call => call.result.moved).sum

-- Each call begins where the one before it ended, and none goes beyond the buffer.
def Consecutive (bufSize : Nat) : Nat → List Call → Prop
  | _,[] => True
  | offset,call :: calls => call.offset = offset ∧ call.result.moved ≤ call.requested ∧ call.offset+call.requested ≤ bufSize ∧
      Consecutive bufSize (offset+call.result.moved) calls

-- What a run does from some offset in the buffer on.
structure MovesEveryByte {σ : Type} (moves : Nat → Nat → σ → σ) (bufSize offset : Nat) (s : σ) (results : List Result)
    (run : Run σ) : Prop where
  consecutive : Consecutive bufSize offset run.calls
  moved : run.state = moves offset (total run.calls) s
  goesOn : run.returned = none → run.calls.map Call.result = results ∧ offset+total run.calls < bufSize
  retried : run.last = some .interrupted → run.returned = none
  ended : run.last = some .endOfFile → run.returned = some (offset+total run.calls)
  returned : ∀ value, run.returned = some value → value = offset+total run.calls ∨
    (value < 0 ∧ ∃ errno, errno ≠ EINTR ∧ run.last = some (.failed errno))

-- An interruption right after counts comes only when these have filled the buffer.
def Uninterrupted (bufSize : Nat) (results : List Result) : Prop :=
  ∀ (counts : List Nat) (after : List Result), results = counts.map .count ++ .interrupted :: after → bufSize ≤ counts.sum

section
variable {σ : Type} {moves : Nat → Nat → σ → σ} {bufSize offset remain n : Nat} {s : σ} {results : List Result}

theorem pass_count (positive : 0 < n) (below : n ≤ remain) : pass moves (offset+remain) remain s (.count n) =
    ⟨⟨offset,remain,.count n⟩,(remain-n : Nat),moves offset n s,none⟩ := by
  have start : ((offset : Int)+remain)-remain = offset := by omega
  have left : (remain : Int)-n = (remain-n : Nat) := by omega
  have kept : ¬ (n : Int) < 0 := by omega
  have more : n ≠ 0 := by omega
  simp [pass,Result.value,Result.moved,start,left,kept,positive,more]

theorem pass_endOfFile : pass moves (offset+remain) remain s .endOfFile =
    ⟨⟨offset,remain,.endOfFile⟩,remain,moves offset 0 s,some offset⟩ := by
  have start : ((offset : Int)+remain)-remain = offset := by omega
  simp [pass,Result.value,Result.moved,start]

-- -1 is not -EINTR, whatever errno says.
theorem pass_failed {errno : Int} : pass moves (offset+remain) remain s (.failed errno) =
    ⟨⟨offset,remain,.failed errno⟩,remain,moves offset 0 s,some (-1)⟩ := by
  have start : ((offset : Int)+remain)-remain = offset := by omega
  simp [pass,Result.value,Result.moved,start,EINTR]

theorem loop_done : loop moves (offset+(0 : Nat)) (0 : Nat) s results = ⟨[⟨offset,(0 : Nat),.endOfFile⟩],moves offset 0 s,some offset⟩ := by
  cases results with
  | nil => rw [loop,if_pos Nat.cast_zero,pass_endOfFile]
  | cons result results => rw [loop,if_pos Nat.cast_zero,pass_endOfFile]

theorem loop_count (positive : 0 < n) (below : n ≤ remain) : loop moves (offset+remain) remain s (.count n :: results) =
    let run := loop moves ((offset+n : Nat)+(remain-n : Nat)) (remain-n : Nat) (moves offset n s) results
    ⟨⟨offset,remain,.count n⟩ :: run.calls,run.state,run.returned⟩ := by
  have some : (remain : Int) ≠ 0 := by omega
  have size : ((offset+n : Nat) : Int)+(remain-n : Nat) = offset+remain := by omega
  rw [loop,if_neg some,pass_count positive below,size]

theorem loop_endOfFile (left : remain ≠ 0) : loop moves (offset+remain) remain s (.endOfFile :: results) =
    ⟨[⟨offset,remain,.endOfFile⟩],moves offset 0 s,some offset⟩ := by
  rw [loop,if_neg (Nat.cast_ne_zero.mpr left),pass_endOfFile]

theorem loop_failed {errno : Int} (left : remain ≠ 0) : loop moves (offset+remain) remain s (.failed errno :: results) =
    ⟨[⟨offset,remain,.failed errno⟩],moves offset 0 s,some (-1)⟩ := by
  rw [loop,if_neg (Nat.cast_ne_zero.mpr left),pass_failed]

theorem loop_waits (left : remain ≠ 0) : loop moves (offset+remain) remain s [] = ⟨[],s,none⟩ := by
  rw [loop,if_neg (Nat.cast_ne_zero.mpr left)]

theorem ended_moves : MovesEveryByte moves (offset+remain) offset s results ⟨[⟨offset,remain,.endOfFile⟩],moves offset 0 s,some offset⟩ := by
  constructor
  case consecutive => exact ⟨rfl,Int.natCast_nonneg remain,Int.le_refl _,trivial⟩
  case moved => rfl
  case goesOn => exact fun waits => by cases waits
  case retried => exact fun last => by cases last
  case ended => exact fun _ => rfl
  case returned => exact fun value returned => .inl (Option.some.inj returned).symm

theorem failed_moves {errno : Int} (other : errno ≠ EINTR) :
    MovesEveryByte moves (offset+remain) offset s results ⟨[⟨offset,remain,.failed errno⟩],moves offset 0 s,some (-1)⟩ := by
  constructor
  case consecutive => exact ⟨rfl,Int.natCast_nonneg remain,Int.le_refl _,trivial⟩
  case moved => rfl
  case goesOn => exact fun waits => by cases waits
  case retried =>
    intro last
    cases last
    exact absurd rfl other
  case ended => exact fun last => by cases last
  case returned =>
    intro value returned
    cases returned
    exact .inr ⟨by decide,errno,other,rfl⟩

theorem done_moves : MovesEveryByte moves (offset+0) offset s results (loop moves (offset+(0 : Nat)) (0 : Nat) s results) := by
  rw [loop_done]
  exact ended_moves

theorem waiting_moves (nothing : ∀ offset s, moves offset 0 s = s) (left : remain ≠ 0) :
    MovesEveryByte moves (offset+remain) offset s [] ⟨[],s,none⟩ := by
  constructor
  case consecutive => exact trivial
  case moved => exact (nothing offset s).symm
  case goesOn => exact fun _ => ⟨rfl,Nat.add_lt_add_left (Nat.pos_of_ne_zero left) offset⟩
  case retried => exact fun _ => rfl
  case ended => exact fun last => by cases last
  case returned => exact fun value returned => by cases returned

theorem last_cons {call : Call} {run : Run σ} {result : Result} (other : call.result ≠ result) :
    (Run.mk (call :: run.calls) run.state run.returned).last = some result ↔ run.last = some result := by
  unfold Run.last
  cases run.calls with
  | nil => simpa using other
  | cons next calls => simp

theorem count_moves {run : Run σ} (compose : ∀ offset n m s, moves (offset+n) m (moves offset n s) = moves offset (n+m) s)
    (below : n ≤ remain) (rest : MovesEveryByte moves (offset+n+(remain-n)) (offset+n) (moves offset n s) results run) :
    MovesEveryByte moves (offset+remain) offset s (.count n :: results)
      ⟨⟨offset,remain,.count n⟩ :: run.calls,run.state,run.returned⟩ := by
  have size : offset+n+(remain-n) = offset+remain := by omega
  rw [size] at rest
  have sum : total (⟨offset,remain,.count n⟩ :: run.calls) = n+total run.calls := rfl
  constructor
  case consecutive => exact ⟨rfl,Int.ofNat_le.mpr below,Int.le_refl _,rest.consecutive⟩
  case moved =>
    rw [sum]
    exact rest.moved.trans (compose offset n _ s)
  case goesOn =>
    intro waits
    obtain ⟨used,inside⟩ := rest.goesOn waits
    refine ⟨by rw [List.map_cons,used],?_⟩
    rw [sum]
    omega
  case retried => exact fun last => rest.retried ((last_cons (by simp [Result.interrupted])).mp last)
  case ended =>
    intro last
    rw [rest.ended ((last_cons (by simp)).mp last),sum]
    apply congrArg some
    omega
  case returned =>
    intro value returned
    rcases rest.returned value returned with all | ⟨negative,errno,other,last⟩
    · left
      rw [sum,all]
      omega
    · exact .inr ⟨negative,errno,other,(last_cons (by simp)).mpr last⟩

theorem Uninterrupted.tail (whole : Uninterrupted remain (.count n :: results)) : Uninterrupted (remain-n) results := by
  intro counts after split
  have filled := whole (n :: counts) after (by rw [split]; rfl)
  rw [List.sum_cons] at filled
  omega

theorem loop_moves (compose : ∀ offset n m s, moves (offset+n) m (moves offset n s) = moves offset (n+m) s)
    (nothing : ∀ offset s, moves offset 0 s = s) (posix : Posix remain results) (uninterrupted : Uninterrupted remain results) :
    MovesEveryByte moves (offset+remain) offset s results (loop moves (offset+remain) remain s results) := by
  induction results generalizing offset remain s with
  | nil =>
    by_cases left : remain = 0
    · subst left
      exact done_moves
    · rw [loop_waits left]
      exact waiting_moves nothing left
  | cons result results ih =>
    by_cases left : remain = 0
    · subst left
      exact done_moves
    · obtain ⟨answers,posix⟩ := posix.resolve_left left
      cases result with
      | count n =>
        rw [loop_count answers.1 answers.2]
        exact count_moves compose answers.2 (ih posix uninterrupted.tail)
      | endOfFile =>
        rw [loop_endOfFile left]
        exact ended_moves
      | failed errno =>
        rw [loop_failed left]
        apply failed_moves
        intro same
        subst same
        exact left (Nat.le_zero.mp (uninterrupted [] results rfl))

-- After such counts the function takes the interruption for an error.
theorem loop_gives_up {counts : List Nat} {after : List Result} (posix : Posix remain (counts.map .count ++ .interrupted :: after))
    (short : counts.sum < remain) :
    (loop moves (offset+remain) remain s (counts.map .count ++ .interrupted :: after)).last = some .interrupted ∧
      (loop moves (offset+remain) remain s (counts.map .count ++ .interrupted :: after)).returned = some (-1) := by
  have left : remain ≠ 0 := by omega
  induction counts generalizing offset remain s with
  | nil =>
    rw [List.map_nil,List.nil_append,Result.interrupted,loop_failed left]
    exact ⟨rfl,rfl⟩
  | cons n counts ih =>
    obtain ⟨answers,posix⟩ := posix.resolve_left left
    rw [List.sum_cons] at short
    have less : counts.sum < remain-n := by omega
    obtain ⟨last,returned⟩ := @ih (offset+n) (remain-n) (moves offset n s) posix less (by omega)
    rw [List.map_cons,List.cons_append,loop_count answers.1 answers.2]
    exact ⟨(last_cons (by simp [Result.interrupted])).mpr last,returned⟩

theorem loop_moves_iff (compose : ∀ offset n m s, moves (offset+n) m (moves offset n s) = moves offset (n+m) s)
    (nothing : ∀ offset s, moves offset 0 s = s) (posix : Posix bufSize results) :
    MovesEveryByte moves bufSize 0 s results (loop moves bufSize bufSize s results) ↔ Uninterrupted bufSize results := by
  have start : ((0 : Nat) : Int)+bufSize = bufSize := Int.zero_add _
  constructor
  · intro every counts after split
    subst split
    apply Nat.le_of_not_lt
    intro short
    obtain ⟨last,returned⟩ := @loop_gives_up σ moves 0 bufSize s counts after posix short
    rw [start] at last returned
    rw [every.retried last] at returned
    cases returned
  · intro uninterrupted
    have every := @loop_moves σ moves 0 bufSize s results compose nothing posix uninterrupted
    rw [start,Nat.zero_add] at every
    exact every

end

section
variable {dst src : Buffer} {start origin n m : Nat}

theorem place_place : place (place dst start src origin n) (start+n) src (origin+n) m = place dst start src origin (n+m) := by
  funext k
  unfold place
  by_cases second : start+n ≤ k ∧ k < start+n+m
  · have inside : start ≤ k ∧ k < start+(n+m) := by omega
    have same : origin+n+(k-(start+n)) = origin+(k-start) := by omega
    rw [if_pos second,if_pos inside,same]
  · have same : (start ≤ k ∧ k < start+(n+m)) ↔ start ≤ k ∧ k < start+n := by omega
    simp only [second,same,if_false]

theorem place_nothing : place dst start src origin 0 = dst := by
  funext k
  have empty : ¬ (start ≤ k ∧ k < start+0) := by omega
  exact if_neg empty

end

theorem readBytes_compose (offset n m : Nat) (s : Buffer × File) :
    readBytes (offset+n) m (readBytes offset n s) = readBytes offset (n+m) s := by
  simp only [readBytes,place_place,Nat.add_assoc]

theorem writeBytes_compose (offset n m : Nat) (s : Buffer × File) :
    writeBytes (offset+n) m (writeBytes offset n s) = writeBytes offset (n+m) s := by
  simp only [writeBytes,place_place,Nat.add_assoc]

theorem robust_iff (bufSize : Nat) (file : File) (buf : Buffer) (results : List Result) (posix : Posix bufSize results) :
    (MovesEveryByte readBytes bufSize 0 (buf,file) results (robustRead file buf bufSize results) ↔ Uninterrupted bufSize results) ∧
    (MovesEveryByte writeBytes bufSize 0 (buf,file) results (robustWrite file buf bufSize results) ↔ Uninterrupted bufSize results) := by
  constructor
  · exact loop_moves_iff readBytes_compose (fun offset s => by simp only [readBytes,place_nothing,Nat.add_zero]) posix
  · exact loop_moves_iff writeBytes_compose (fun offset s => by simp only [writeBytes,place_nothing,Nat.add_zero]) posix

theorem both_parts_moved :
    MovesEveryByte readBytes 2 0 (fun _ => 0,⟨fun _ => 7,0⟩) [.count 1,.count 1] (robustRead ⟨fun _ => 7,0⟩ (fun _ => 0) 2 [.count 1,.count 1]) := by
  have posix : Posix 2 [.count 1,.count 1] := by simp [Posix,Result.Answers,Result.moved]
  apply (robust_iff 2 ⟨fun _ => 7,0⟩ (fun _ => 0) _ posix).1.mpr
  intro counts after split
  have present : Result.interrupted ∈ [.count 1,.count 1] := by
    rw [split]
    exact List.mem_append_right _ List.mem_cons_self
  exact absurd present (by decide)

-- A signal comes when one of the two bytes has been moved.
theorem interrupted_gives_up : ¬ ∀ bufSize file buf results, Posix bufSize results →
    MovesEveryByte readBytes bufSize 0 (buf,file) results (robustRead file buf bufSize results) ∧
      MovesEveryByte writeBytes bufSize 0 (buf,file) results (robustWrite file buf bufSize results) := by
  intro every
  have posix : Posix 2 [.count 1,.interrupted,.count 1] := by simp [Posix,Result.interrupted,Result.Answers,Result.moved]
  have moves := (every 2 ⟨fun _ => 7,0⟩ (fun _ => 0) _ posix).1
  have waits := moves.retried rfl
  cases waits

end Axidma.RobustTransfer
