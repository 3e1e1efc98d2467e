import Axidma.LibrarySessions
import Mathlib.Data.List.Basic
import Mathlib.Data.Set.Function

namespace Axidma.Categories
open Interaction LibrarySessions

def kindOf (chan : AxidmaChan) : Kind := (chan.type,chan.dir)

-- The handle as axidma_init passes it on for the first time.
def fresh (fd : Int) : AxidmaDev := {zeroedDev with fd := fd}

structure Counted (channels : List AxidmaChan) (numChan : AxidmaNumChannels) : Prop where
  total : channels.length = numChan.numChannels
  kinds : ∀ kind, counted numChan kind = (idsOf channels kind).length

-- The array and the position in it that a channel of the table goes to.
def cellOf (channels : List AxidmaChan) (i : Fin channels.length) : Kind × Nat :=
  (kindOf channels[i],channels.countPBefore (fun chan => decide (kindOf chan = kindOf channels[i])) i)

structure Partitioned (channels : List AxidmaChan) (numChan : AxidmaNumChannels) (after : AxidmaDev) : Prop where
  len : ∀ kind, (array after kind).len = (idsOf channels kind).length
  ids : ∀ kind, contents (array after kind) = (idsOf channels kind).map some
  cells : ∀ kind, (array after kind).data.length = counted numChan kind
  inside : ∀ kind, (array after kind).overran = false
  once : Set.BijOn (cellOf channels) Set.univ {cell | cell.2 < (array after cell.1).len}
  holds : ∀ i, (array after (cellOf channels i).1).data[(cellOf channels i).2]? = some (some channels[i].channelId)
  table : after.channels = channels.map toDmaChannel
  count : after.numChannels = channels.length

section
variable {α : Type} {items : List α} {p : α → Bool} {i : Nat}

theorem filter_countPBefore (inside : i < items.length) (here : p items[i]) :
    (items.filter p)[items.countPBefore p i]? = some items[i] := by
  induction items generalizing i with
  | nil => exact absurd inside (Nat.not_lt_zero i)
  | cons item rest ih =>
    cases i with
    | zero =>
      have here : p item = true := here
      simp [here]
    | succ i =>
      have later := ih (Nat.lt_of_succ_lt_succ inside) here
      rw [List.countPBefore_cons_succ,List.filter_cons]
      by_cases first : p item = true
      · simpa [first] using later
      · simpa [first] using later

end

section
variable {dev : AxidmaDev} {channels : List AxidmaChan} {numChan : AxidmaNumChannels}

theorem push_contents (array : ArrayT) (channelId : CInt) (fits : array.len < array.data.length) :
    contents (array.push channelId) = contents array++[some channelId] := by
  simp only [contents,ArrayT.push]
  rw [List.take_add_one,List.getElem?_set_self fits,List.take_set_of_le (Nat.le_refl _)]
  rfl

theorem push_data (ids : List CInt) (array : ArrayT) : (ids.foldl ArrayT.push array).data.length = array.data.length := by
  induction ids generalizing array with
  | nil => rfl
  | cons channelId rest ih =>
    rw [List.foldl_cons,ih]
    exact List.length_set

-- The invariant of the loop on one array: so far it holds the ids in order, and
-- the cells left are enough for the ids that are still to come.
theorem pushes_contents (ids : List CInt) (array : ArrayT) (fits : array.len+ids.length ≤ array.data.length) :
    contents (ids.foldl ArrayT.push array) = contents array++ids.map some := by
  induction ids generalizing array with
  | nil => simp
  | cons channelId rest ih =>
    rw [List.length_cons] at fits
    have room : (array.push channelId).len+rest.length ≤ (array.push channelId).data.length := by
      simp only [ArrayT.push,List.length_set]
      omega
    rw [List.foldl_cons,ih _ room,push_contents array channelId (by omega)]
    simp

theorem idsOf_length (kind : Kind) :
    (idsOf channels kind).length = channels.countP fun chan => decide (kindOf chan = kind) := by
  rw [idsOf,List.length_map,List.countP_eq_length_filter]
  rfl

theorem cell_inside (i : Fin channels.length) : (cellOf channels i).2 < (idsOf channels (cellOf channels i).1).length := by
  rw [idsOf_length]
  exact List.countPBefore_lt_countP_of_lt_length_of_pos (h := i.isLt) (by simp)

theorem cell_id (i : Fin channels.length) :
    (idsOf channels (cellOf channels i).1)[(cellOf channels i).2]? = some channels[i].channelId := by
  have here := filter_countPBefore (p := fun chan => decide (kindOf chan = kindOf channels[i])) i.isLt (by simp)
  rw [idsOf,List.getElem?_map]
  exact congrArg (Option.map (·.channelId)) here

-- The position in its array and the kind give the channel back.
theorem cell_find (i : Fin channels.length) :
    channels.findIdxNth (fun chan => decide (kindOf chan = (cellOf channels i).1)) (cellOf channels i).2 = i :=
  List.findIdxNth_countPBefore_of_lt_length_of_pos (h := i.isLt) (by simp [cellOf])

theorem cells_bijective : Set.BijOn (cellOf channels) Set.univ {cell | cell.2 < (idsOf channels cell.1).length} := by
  refine ⟨fun i _ => cell_inside i,?_,?_⟩
  · intro i _ j _ same
    have first := cell_find i
    rw [same,cell_find j] at first
    exact Fin.ext first.symm
  · intro cell inside
    rcases cell with ⟨kind,position⟩
    change position < (idsOf channels kind).length at inside
    rw [idsOf_length] at inside
    have found := List.findIdxNth_lt_length_of_lt_countP inside
    have kinds : kindOf channels[channels.findIdxNth (fun chan => decide (kindOf chan = kind)) position] = kind := by
      simpa using List.pos_findIdxNth_getElem (h := found)
    refine ⟨⟨_,found⟩,trivial,?_⟩
    refine Prod.ext kinds ?_
    show channels.countPBefore (fun chan =>
        decide (kindOf chan = kindOf channels[channels.findIdxNth (fun chan => decide (kindOf chan = kind)) position]))
      (channels.findIdxNth (fun chan => decide (kindOf chan = kind)) position) = position
    rw [kinds]
    exact List.countPBefore_findIdxNth_of_lt_countP inside

theorem fresh_len (fd : Int) (kind : Kind) : (array (fresh fd) kind).len = 0 := by
  rcases kind with ⟨_ | _,_ | _⟩ <;> rfl

theorem built_partitioned (fd : Int) (counts : Counted channels numChan) :
    Partitioned channels numChan (built (fresh fd) ⟨numChan,channels,counts.total⟩) := by
  have len : ∀ kind, (array (built (fresh fd) ⟨numChan,channels,counts.total⟩) kind).len = (idsOf channels kind).length := by
    intro kind
    rw [built_len,fresh_len,Nat.zero_add]
  have fits : ∀ kind, ((array (fresh fd) kind).allocated (counted numChan kind)).len+(idsOf channels kind).length ≤
      ((array (fresh fd) kind).allocated (counted numChan kind)).data.length := by
    intro kind
    simp [ArrayT.allocated,fresh_len,counts.kinds kind]
  have ids : ∀ kind, contents (array (built (fresh fd) ⟨numChan,channels,counts.total⟩) kind) = (idsOf channels kind).map some := by
    intro kind
    rw [built_array,pushes_contents _ _ (fits kind)]
    simp [contents,ArrayT.allocated,fresh_len]
  constructor
  case len => exact len
  case ids => exact ids
  case cells =>
    intro kind
    rw [built_array,push_data]
    exact List.length_replicate
  case inside =>
    intro kind
    rw [built_overran,fresh_len,counts.kinds kind,Nat.zero_add]
    exact .inr (Nat.le_refl _)
  case once =>
    simp only [len]
    exact cells_bijective
  case holds =>
    intro i
    have inside : (cellOf channels i).2 < (array (built (fresh fd) ⟨numChan,channels,counts.total⟩) (cellOf channels i).1).len := by
      rw [len]
      exact cell_inside i
    have held := congrArg (·[(cellOf channels i).2]?) (ids (cellOf channels i).1)
    simp only [List.getElem?_map,cell_id i,contents,List.getElem?_take_of_lt inside] at held
    exact held
  case table => exact built_channels
  case count =>
    rw [counts.total]
    exact fill_count channels

end

end Axidma.Categories
