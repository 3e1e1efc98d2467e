import Axidma.DriverTypes
import Axidma.WordRange

namespace Axidma
open WordRange

def validDmaRequest (dmaStart : UserAddr) (dmaSize : SizeT) (userAddr : UserAddr)
    (userSize : SizeT) : Bool :=
  decide (dmaStart ≤ userAddr) && decide (userAddr+userSize ≤ dmaStart+dmaSize)

def axidmaUservirtToDma (dev : AxidmaDevice) (userAddr : UserAddr) (size : SizeT) : DmaAddr :=
  match dev.dmabufList.find? fun alloc => validDmaRequest alloc.userAddr alloc.size userAddr size with
  | some alloc => alloc.dmaAddr+(userAddr-alloc.userAddr)
  | none =>
    match dev.externalDmabufs.find? fun alloc => validDmaRequest alloc.userAddr alloc.size userAddr size with
    | some alloc => alloc.sgTable.dmaAddress+(userAddr-alloc.userAddr)
    | none => 0

def translationSource (dev : AxidmaDevice) (userAddr : UserAddr) (size : SizeT) : Option Source :=
  match dev.dmabufList.find? fun alloc => validDmaRequest alloc.userAddr alloc.size userAddr size with
  | some alloc => some (.dmabuf alloc.kernAddr)
  | none =>
    (dev.externalDmabufs.find? fun alloc => validDmaRequest alloc.userAddr alloc.size userAddr size).map
      fun alloc => .external alloc.dmaAttach

namespace Translation

def ofDmabuf (alloc : AxidmaDmaAllocation) : Window 64 := ⟨alloc.userAddr,alloc.size,alloc.dmaAddr⟩
def ofExternal (alloc : AxidmaExternalAllocation) : Window 64 :=
  ⟨alloc.userAddr,alloc.size,alloc.sgTable.dmaAddress⟩

-- What the two lists say: windows from user to device addresses, in search order.
def windows (dev : AxidmaDevice) : List (Window 64) :=
  dev.dmabufList.map ofDmabuf ++ dev.externalDmabufs.map ofExternal

def accepts (userAddr : UserAddr) (size : SizeT) (win : Window 64) : Bool :=
  validDmaRequest win.start win.size userAddr size

theorem translate_windows (dev : AxidmaDevice) (userAddr : UserAddr) (size : SizeT) :
    axidmaUservirtToDma dev userAddr size =
      (((windows dev).find? (accepts userAddr size)).map (·.image userAddr)).getD 0 := by
  rw [windows,List.find?_append,List.find?_map,List.find?_map]
  change _ = (Option.map _ (((dev.dmabufList.find? fun alloc =>
    validDmaRequest alloc.userAddr alloc.size userAddr size).map ofDmabuf).or
    ((dev.externalDmabufs.find? fun alloc =>
      validDmaRequest alloc.userAddr alloc.size userAddr size).map ofExternal))).getD 0
  unfold axidmaUservirtToDma
  cases dev.dmabufList.find? fun alloc => validDmaRequest alloc.userAddr alloc.size userAddr size with
  | some alloc => rfl
  | none =>
    cases dev.externalDmabufs.find? fun alloc => validDmaRequest alloc.userAddr alloc.size userAddr size with
    | some alloc => rfl
    | none => rfl

theorem accepts_fits {win : Window 64} {userAddr : UserAddr} {size : SizeT} (ends : win.EndFits)
    (fits : userAddr.toNat+size.toNat < 2^64) :
    accepts userAddr size win = true ↔ win.Contains userAddr size := by
  simp only [accepts,validDmaRequest,Bool.and_eq_true,decide_eq_true_eq,BitVec.le_def,
    add_fits fits,add_fits ends,Window.Contains]

theorem accepts_wraps {win : Window 64} {userAddr : UserAddr} {size : SizeT} (ends : win.EndFits)
    (wraps : 2^64 ≤ userAddr.toNat+size.toNat) :
    accepts userAddr size win = true ↔ win.ContainsWrapped userAddr size := by
  simp only [accepts,validDmaRequest,Bool.and_eq_true,decide_eq_true_eq,BitVec.le_def,
    add_wraps wraps,add_fits ends,Window.ContainsWrapped]
  omega

def EndsFit (dev : AxidmaDevice) : Prop := ∀ win ∈ windows dev, win.EndFits

instance {dev : AxidmaDevice} : Decidable (EndsFit dev) :=
  inferInstanceAs (Decidable (∀ win ∈ windows dev, win.EndFits))

theorem find_congr {wins : List (Window 64)} {test test' : Window 64 → Bool}
    (same : ∀ win ∈ wins, (test win = true ↔ test' win = true)) : wins.find? test = wins.find? test' := by
  induction wins with
  | nil => rfl
  | cons win rest ih =>
    have here : test win = test' win := Bool.eq_iff_iff.mpr (same win (by simp))
    rw [List.find?_cons,List.find?_cons,here,ih fun other member => same other (List.mem_cons_of_mem _ member)]

-- The n bytes from the result are bytes of the window's device range: as device
-- addresses always, and as unbounded numbers when that range does not wrap.
def StaysInside (win : Window 64) (result : DmaAddr) (size : SizeT) : Prop :=
  (∀ k, k < size.toNat → ∃ j, j < win.size.toNat ∧
    result+BitVec.ofNat 64 k = win.base+BitVec.ofNat 64 j) ∧
  (win.base.toNat+win.size.toNat ≤ 2^64 →
    win.base.toNat ≤ result.toNat ∧ result.toNat+size.toNat ≤ win.base.toNat+win.size.toNat)

-- A non-null result comes exactly for a contained range, and is then the image
-- under the first window that contains it.
def Safe (dev : AxidmaDevice) (userAddr : UserAddr) (size : SizeT) : Prop :=
  (axidmaUservirtToDma dev userAddr size ≠ 0 ↔ ∃ win ∈ windows dev, win.Contains userAddr size) ∧
  (axidmaUservirtToDma dev userAddr size ≠ 0 →
    ∃ win, (windows dev).find? (fun win => decide (win.Contains userAddr size)) = some win ∧
      axidmaUservirtToDma dev userAddr size = win.base+(userAddr-win.start) ∧
      StaysInside win (axidmaUservirtToDma dev userAddr size) size)

-- The request ends below 2^64 and its image is not device address 0, or it wraps
-- and no window takes it for its reduced end (save one that maps it to 0).
def Regular (dev : AxidmaDevice) (userAddr : UserAddr) (size : SizeT) : Prop :=
  (userAddr.toNat+size.toNat < 2^64 →
    ∀ win, (windows dev).find? (fun win => decide (win.Contains userAddr size)) = some win →
      win.imageNat userAddr ≠ 0) ∧
  (2^64 ≤ userAddr.toNat+size.toNat →
    ∀ win, (windows dev).find? (fun win => decide (win.ContainsWrapped userAddr size)) = some win →
      win.imageNat userAddr = 0)

theorem translate_fits {dev : AxidmaDevice} {userAddr : UserAddr} {size : SizeT} (ends : EndsFit dev)
    (fits : userAddr.toNat+size.toNat < 2^64) :
    axidmaUservirtToDma dev userAddr size = (((windows dev).find?
      fun win => decide (win.Contains userAddr size)).map (·.image userAddr)).getD 0 := by
  rw [translate_windows,find_congr fun win member => ?_]
  rw [accepts_fits (ends win member) fits,decide_eq_true_eq]

theorem translate_wraps {dev : AxidmaDevice} {userAddr : UserAddr} {size : SizeT} (ends : EndsFit dev)
    (wraps : 2^64 ≤ userAddr.toNat+size.toNat) :
    axidmaUservirtToDma dev userAddr size = (((windows dev).find?
      fun win => decide (win.ContainsWrapped userAddr size)).map (·.image userAddr)).getD 0 := by
  rw [translate_windows,find_congr fun win member => ?_]
  rw [accepts_wraps (ends win member) wraps,decide_eq_true_eq]

theorem safe_of_regular_fits {dev : AxidmaDevice} {userAddr : UserAddr} {size : SizeT}
    (ends : EndsFit dev) (fits : userAddr.toNat+size.toNat < 2^64)
    (regular : Regular dev userAddr size) : Safe dev userAddr size := by
  have value := translate_fits ends fits
  cases found : (windows dev).find? fun win => decide (win.Contains userAddr size) with
  | none =>
    have zero : axidmaUservirtToDma dev userAddr size = 0 := by rw [value,found]; rfl
    have nowhere : ¬ ∃ win ∈ windows dev, win.Contains userAddr size := by
      rintro ⟨win,member,holds⟩
      exact absurd (decide_eq_true holds) (List.find?_eq_none.mp found win member)
    exact ⟨⟨fun nonzero => absurd zero nonzero,fun somewhere => absurd somewhere nowhere⟩,
      fun nonzero => absurd zero nonzero⟩
  | some win =>
    have holds : win.Contains userAddr size := of_decide_eq_true (List.find?_some found :)
    have member := List.mem_of_find?_eq_some found
    have result : axidmaUservirtToDma dev userAddr size = win.image userAddr := by rw [value,found]; rfl
    have nonzero : win.image userAddr ≠ 0 := fun zero =>
      regular.1 fits win found ((Window.image_eq_zero holds.1).mp zero)
    rw [Safe,result]
    refine ⟨⟨fun _ => ⟨win,member,holds⟩,fun _ => nonzero⟩,fun _ => ⟨win,found,rfl,?_,?_⟩⟩
    · intro k inside
      exact Window.image_inside holds inside
    · intro unwrapped
      exact Window.image_bounds holds unwrapped nonzero

theorem safe_of_regular_wraps {dev : AxidmaDevice} {userAddr : UserAddr} {size : SizeT}
    (ends : EndsFit dev) (wraps : 2^64 ≤ userAddr.toNat+size.toNat)
    (regular : Regular dev userAddr size) : Safe dev userAddr size := by
  have value := translate_wraps ends wraps
  have nowhere : ¬ ∃ win ∈ windows dev, win.Contains userAddr size := by
    rintro ⟨win,member,holds⟩
    exact absurd (holds.fits (ends win member)) (Nat.not_lt.mpr wraps)
  have zero : axidmaUservirtToDma dev userAddr size = 0 := by
    cases found : (windows dev).find? fun win => decide (win.ContainsWrapped userAddr size) with
    | none => rw [value,found]; rfl
    | some win =>
      have holds : win.ContainsWrapped userAddr size := of_decide_eq_true (List.find?_some found :)
      rw [value,found]
      exact (Window.image_eq_zero holds.1).mpr (regular.2 wraps win found)
  exact ⟨⟨fun nonzero => absurd zero nonzero,fun somewhere => absurd somewhere nowhere⟩,
    fun nonzero => absurd zero nonzero⟩

theorem regular_of_safe {dev : AxidmaDevice} {userAddr : UserAddr} {size : SizeT}
    (ends : EndsFit dev) (safe : Safe dev userAddr size) : Regular dev userAddr size := by
  constructor
  · intro fits win found zero
    have holds : win.Contains userAddr size := of_decide_eq_true (List.find?_some found :)
    refine safe.1.mpr ⟨win,List.mem_of_find?_eq_some found,holds⟩ ?_
    rw [translate_fits ends fits,found]
    exact (Window.image_eq_zero holds.1).mpr zero
  · intro wraps win found
    have holds : win.ContainsWrapped userAddr size := of_decide_eq_true (List.find?_some found :)
    apply Classical.byContradiction
    intro nonzero
    have accepted : axidmaUservirtToDma dev userAddr size ≠ 0 := by
      rw [translate_wraps ends wraps,found]
      exact fun zero => nonzero ((Window.image_eq_zero holds.1).mp zero)
    obtain ⟨other,member,contained⟩ := safe.1.mp accepted
    exact absurd (contained.fits (ends other member)) (Nat.not_lt.mpr wraps)

theorem safe_iff_regular (dev : AxidmaDevice) (userAddr : UserAddr) (size : SizeT) (ends : EndsFit dev) :
    Safe dev userAddr size ↔ Regular dev userAddr size := by
  constructor
  · exact regular_of_safe ends
  · intro regular
    by_cases fits : userAddr.toNat+size.toNat < 2^64
    · exact safe_of_regular_fits ends fits regular
    · exact safe_of_regular_wraps ends (Nat.le_of_not_lt fits) regular

def onePage : AxidmaDevice where
  numDmaTxChans := 1
  numDmaRxChans := 0
  numVdmaTxChans := 0
  numVdmaRxChans := 0
  notifySignal := 34
  channels := [⟨.write,.dma,0,"tx_channel",0⟩]
  dmabufList := [⟨0,0x1000,0x10000,1,0x40000000,0⟩]
  externalDmabufs := []

theorem onePage_fits : EndsFit onePage := by decide

theorem safe_iff_regular_onePage : Safe onePage 0x10800 0x800 ↔ Regular onePage 0x10800 0x800 :=
  safe_iff_regular onePage 0x10800 0x800 onePage_fits

-- A length of 2^64-0x10000 ends at 0 in the machine's arithmetic: the page of
-- 0x1000 bytes is taken to hold it, and its first byte is programmed.
theorem wrapped_length_accepted : EndsFit onePage ∧
    axidmaUservirtToDma onePage 0x10000 0xFFFFFFFFFFFF0000 = 0x40000000 ∧
    ¬ Safe onePage 0x10000 0xFFFFFFFFFFFF0000 := by
  have result : axidmaUservirtToDma onePage 0x10000 0xFFFFFFFFFFFF0000 = 0x40000000 := by decide
  refine ⟨onePage_fits,result,fun safe => ?_⟩
  obtain ⟨win,member,holds⟩ := safe.1.mp (by rw [result]; decide)
  have bad : ∀ win ∈ windows onePage, ¬ win.Contains 0x10000 0xFFFFFFFFFFFF0000 := by decide
  exact bad win member holds

end Translation
end Axidma
