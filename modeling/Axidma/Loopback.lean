import Axidma.FrameTransmission

namespace Axidma.Loopback
open BitPacking FrameHeader BufferFillers RecordedBuffer WhileLoop
open ReceivedDump FrameTransmission

-- What s2mm_all_test hands to the thread that prints it: the buffer, cleaned
-- before the engine writes to it, copied to new memory.
def s2mmAllTest (arrive : Buffer → Buffer) (rxBuf processdata : Buffer) : Buffer :=
  let rxBuf := (cleanRxData (fresh rxBuf) (BitVec.ofInt 64 MAX_SIZE)).cells
  let rxBuf := arrive rxBuf
  copy processdata rxBuf MAX_SIZE.toNat

def loopback (frame : Recorded CChar × SizeT) (rxBuf : Buffer) : Buffer := copy rxBuf frame.1.cells frame.2.toNat

-- index_l[i], for a pointer to the start of the buffer.
def wordAt (buf : Buffer) (i : Nat) : CLong := loadLong fun k => buf (8*i+k)

-- The header, the data by its patterns, and nothing behind them.
def expected (signed : Bool) (msf : Mm2sF) (scratch : Scratch) (i : Nat) : CLong :=
  if i = 0 then loadLong (headerBytes signed msf scratch)
  else if i ≤ 88*blocks msf then pattern (BitVec.ofNat 64 (i-1))
  else 0

def received (signed : Bool) (msf : Mm2sF) (scratch : Scratch) (txBuf rxBuf processdata : Buffer) : Buffer :=
  s2mmAllTest (loopback (fillFrame signed msf scratch (fresh txBuf))) rxBuf processdata

structure Printed (signed : Bool) (msf : Mm2sF) (scratch : Scratch) (buf : Buffer) (sf : S2mmF) : Prop where
  modu : sf.modu = msf.modulation.value
  mb : sf.mb = msf.mb
  ldpcnum : sf.ldpcnum = msf.ldpcNum
  crcR : sf.crcR = 0
  ldpcTnum : sf.ldpcTnum = 0
  ampDresult : sf.ampDresult = 0
  dumped : Dumped (totalct sf)
  words : ∀ s, Visits printing (printWord (totalct sf)) (startDump (totalct sf)) s → printing s = true →
    wordAt buf s.indexL.toNat = expected signed msf scratch s.indexL.toNat

section
variable {signed : Bool} {msf : Mm2sF} {scratch : Scratch} {txBuf rxBuf processdata charpackS bitpackS rData buf : Buffer}
  {i k : Nat}

theorem word_of {value : CLong} (bytes : ∀ j, j < 8 → buf (8*i+j) = byteOf value j) : wordAt buf i = value :=
  (@littleEndian_eq_iff (fun k => buf (8*i+k)) 8 value).mpr bytes

theorem received_cells (range : InRange msf) (inside : (k : Int) < MAX_SIZE) :
    received signed msf scratch txBuf rxBuf processdata k = if k < 8 then headerBytes signed msf scratch k
      else if k < 8+704*blocks msf then byteOf (pattern (BitVec.ofNat 64 ((k-8)/8))) (k%8) else 0 := by
  have framed := @frame_framed signed msf scratch txBuf range
  have below : k < MAX_SIZE.toNat := by
    rw [max_size] at inside ⊢
    omega
  show (if k < MAX_SIZE.toNat then if k < _ then _ else _ else _) = _
  rw [if_pos below,framed.length]
  by_cases sent : k < 8+704*blocks msf
  · rw [if_pos sent]
    by_cases head : k < 8
    · rw [if_pos head,framed.header k head]
    · have split : 8+8*((k-8)/8)+k%8 = k := by omega
      have data := framed.payload ((k-8)/8) (k%8) (by omega) (by omega)
      rw [split] at data
      rw [if_neg head,if_pos sent,data]
  · have behind : ¬ k < 8 := by omega
    rw [if_neg sent,if_neg behind,if_neg sent]
    apply cleanRx_filled
    have size : (BitVec.ofInt 64 MAX_SIZE).toNat = 359744 := by
      rw [max_size]
      exact size_of (by decide)
    rw [cleanRx_written,size]
    rw [max_size] at inside
    unfold SIZEOF_LONG
    omega

theorem received_word (range : InRange msf) (inside : (i : Int) ≤ MAX_SIZE/8-1) :
    wordAt (received signed msf scratch txBuf rxBuf processdata) i = expected signed msf scratch i := by
  have cell : ∀ j, j < 8 → ((8*i+j : Nat) : Int) < MAX_SIZE := by
    intro j below
    rw [max_size] at inside ⊢
    omega
  unfold expected
  split_ifs with first data
  · subst first
    apply word_of
    intro j below
    rw [received_cells range (cell j below),if_pos (by omega),Nat.mul_zero,Nat.zero_add]
    exact (@littleEndian_eq_iff _ 8 (loadLong (headerBytes signed msf scratch))).mp rfl j below
  · apply word_of
    intro j below
    have number : (8*i+j-8)/8 = i-1 := by omega
    have place : (8*i+j)%8 = j := by omega
    rw [received_cells range (cell j below),if_neg (by omega),if_pos (by omega),number,place]
  · apply word_of
    intro j below
    rw [received_cells range (cell j below),if_neg (by omega),if_neg (by omega)]
    exact (zero_byte j).symm

theorem totalct_blocks {sf : S2mmF} (natural : 0 ≤ msf.ldpcNum.toInt) (same : sf.ldpcnum = msf.ldpcNum) :
    totalct sf = 88*(blocks msf : Int)+1 := by
  have count : msf.ldpcNum.toInt = (blocks msf : Int) := (Int.toNat_of_nonneg natural).symm
  have bits : (blocks msf : Int)*LDPC_K = 88*(blocks msf : Int)*(PACK_LEN : Int) := by
    show (blocks msf : Int)*5632 = 88*(blocks msf : Int)*64
    omega
  rw [totalct,same,count,bits,Int.mul_tdiv_cancel _ (by decide)]

theorem received_info (range : InRange msf) : ∃ sf,
    getInfo signed (received signed msf scratch txBuf rxBuf processdata) charpackS bitpackS rData = (1234,some sf) ∧
      Printed signed msf scratch (received signed msf scratch txBuf rxBuf processdata) sf := by
  have arrived : ∀ k, k < 8 → received signed msf scratch txBuf rxBuf processdata k =
      mm2sAllTest signed msf scratch.stack scratch.rData scratch.pack scratch.packR txBuf k := by
    intro k below
    rw [received_cells range (by rw [max_size]; omega),if_pos below]
    exact (if_pos below).symm
  obtain ⟨head,sf,read,same⟩ := header_survives signed msf scratch.stack scratch.rData scratch.pack scratch.packR txBuf
    (received signed msf scratch txBuf rxBuf processdata) charpackS bitpackS rData arrived
  have mb := range.mb
  have ldpcNum := range.ldpcNum
  have count := same.ldpcnumFits (by omega) (by omega)
  have total := totalct_blocks (by omega) count
  have some : 15 ≤ (blocks msf : Int) ∧ (blocks msf : Int) ≤ 362 := by
    unfold blocks
    omega
  have words : MAX_SIZE/8-1 = 44967 := rfl
  have dumped : Dumped (totalct sf) := long_dumped (by omega) (by omega)
  refine ⟨sf,Prod.ext head read,?_⟩
  constructor
  case modu => exact same.modu
  case mb => exact same.mbFits (by omega) (by omega)
  case ldpcnum => exact count
  case crcR => exact same.crcR
  case ldpcTnum => exact same.ldpcTnum
  case ampDresult => exact same.ampDresult
  case dumped => exact dumped
  case words =>
    intro s visits again
    obtain ⟨low,high⟩ := dumped.inside s visits again
    exact received_word range (by rw [Int.toNat_of_nonneg low]; exact high)

end

-- Whatever a run draws, every frame comes back over a loopback with its three
-- parameters, and all that is printed of it is what was sent.
theorem loopback_printed (rand : Rand) (times : Nat → Seed × Seed) (signed : Bool) (scratch : Scratch)
    (txBuf rxBuf processdata charpackS bitpackS rData : Buffer) (n : Nat) (begun : 1 ≤ n) (early : n < 2^31) :
    ∃ msf sf, sent rand times n = some msf ∧
      getInfo signed (received signed msf scratch txBuf rxBuf processdata) charpackS bitpackS rData = (1234,some sf) ∧
      Printed signed msf scratch (received signed msf scratch txBuf rxBuf processdata) sf := by
  obtain ⟨msf,made,range⟩ := sent_inRange rand times begun early
  obtain ⟨sf,read,printed⟩ := @received_info signed msf scratch txBuf rxBuf processdata charpackS bitpackS rData range
  exact ⟨msf,sf,made,read,printed⟩

def ones : Buffer := fun _ => 0xff

theorem second_frame_printed : ∃ msf sf, sent (fun _ => 77) (fun _ => (0,0)) 2 = some msf ∧
    getInfo true (received true msf ⟨ones,ones,ones,ones⟩ ones ones ones) ones ones ones = (1234,some sf) ∧
    Printed true msf ⟨ones,ones,ones,ones⟩ (received true msf ⟨ones,ones,ones,ones⟩ ones ones ones) sf :=
  loopback_printed (fun _ => 77) (fun _ => (0,0)) true ⟨ones,ones,ones,ones⟩ ones ones ones ones ones ones 2
    (by decide) (by decide)

end Axidma.Loopback
