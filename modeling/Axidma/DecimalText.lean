import Axidma.FrameHeader
import Axidma.Numerals
import Axidma.RecordedBuffer

namespace Axidma.DecimalText
open BitPacking FrameHeader Numerals RecordedBuffer

theorem quotient_toInt (num : CInt) : (num.sdiv 10).toInt = num.toInt.tdiv 10 :=
  BitVec.toInt_sdiv_of_ne_or_ne num 10 (.inr (by decide))

theorem quotient_less {num : CInt} (more : num.sdiv 10 ≠ 0) : (num.sdiv 10).toInt.natAbs < num.toInt.natAbs := by
  rw [quotient_toInt,Int.natAbs_tdiv]
  apply Nat.div_lt_self
  · apply Nat.pos_of_ne_zero
    intro zero
    apply more
    apply BitVec.eq_of_toInt_eq
    rw [quotient_toInt,Int.natAbs_eq_zero.mp zero]
    rfl
  · decide

-- The do loop, which takes the lowest digit first. It comes back with i and str.
def digitsFrom (num : CInt) (i : Nat) (str : Recorded CChar) : Nat × Recorded CChar :=
  let str := str.set i ((num.srem 10+48).setWidth 8)
  if num.sdiv 10 ≠ 0 then digitsFrom (num.sdiv 10) (i+1) str else (i+1,str)
termination_by num.toInt.natAbs
decreasing_by exact quotient_less ‹_›

-- The array, with what the first of three assignments has added up each time.
structure Conversion where
  str : Recorded CChar
  sums : List CInt

section
variable (signed : Bool)

-- a=a+b; b=a-b; a=a-b
def addSwap (a b : Nat) (s : Conversion) : Conversion :=
  let sum := promote signed (s.str.cells a)+promote signed (s.str.cells b)
  let str := s.str.set a (sum.setWidth 8)
  let str := str.set b ((promote signed (str.cells a)-promote signed (str.cells b)).setWidth 8)
  let str := str.set a ((promote signed (str.cells a)-promote signed (str.cells b)).setWidth 8)
  ⟨str,sum :: s.sums⟩

def swapFrom (i j : Nat) (s : Conversion) : Conversion :=
  if j < i/2 then swapFrom i (j+1) (addSwap signed j (i-1-j) s) else s
termination_by i/2-j

def int2String (num : CInt) (str : Recorded CChar) : Conversion :=
  let i := 0
  let (num,i,str) := if num.slt 0 then (-num,i+1,str.set i 45) else (num,i,str)
  let (i,str) := digitsFrom num i str
  let str := str.set i 0
  let j := 0
  let (j,i) := if str.cells 0 = 45 then (1,i+1) else (j,i)
  swapFrom signed i j ⟨str,[]⟩

end

def digit (d : Nat) : CChar := BitVec.ofNat 8 (48+d)

def textOf (num : CInt) (digits : List Nat) : List CChar := (if num.toInt < 0 then [45] else [])++digits.map digit

-- The number that a text of a sign and digits stands for.
def readBack (text : List CChar) : Int :=
  if text.head? = some 45 then -(spelled 10 (text.tail.map fun c => c.toNat-48)) else spelled 10 (text.map fun c => c.toNat-48)

-- A string of C ends with its first 0.
structure IsString (buf : Buffer) (text : List CChar) : Prop where
  cells : ∀ k c, text[k]? = some c → buf k = c ∧ c ≠ 0
  ends : buf text.length = 0

structure Writes (text : List CChar) (after : Conversion) : Prop where
  string : IsString after.str.cells text
  inside : ∀ k ∈ after.str.written, k ≤ text.length
  short : text.length+1 ≤ 12
  small : ∀ sum ∈ after.sums, sum.toInt ≤ 127

def WritesDecimal (signed : Bool) (num : CInt) (str : Buffer) : Prop :=
  ∃ digits, IsNumeral 10 num.toInt.natAbs digits ∧ Writes (textOf num digits) (int2String signed num (fresh str)) ∧
    readBack (textOf num digits) = num.toInt

section
variable {signed : Bool} {num : CInt} {m i : Nat} {str : Recorded CChar}

theorem digit_taken (value : num.toInt = m) : (num.srem 10+48).setWidth 8 = digit (m%10) := by
  have below : m%10 < 10 := Nat.mod_lt m (by decide)
  have low : num.srem 10 = BitVec.ofNat 32 (m%10) := by
    have small : (BitVec.ofNat 32 (m%10)).toNat = m%10 := by
      rw [BitVec.toNat_ofNat,Nat.mod_eq_of_lt (by omega)]
    have unsigned : (BitVec.ofNat 32 (m%10)).toInt = (m%10 : Nat) := by
      rw [BitVec.toInt_eq_toNat_of_lt (by omega),small]
    apply BitVec.eq_of_toInt_eq
    rw [BitVec.toInt_srem,value,unsigned]
    rfl
  have all : ∀ d, d < 10 → (BitVec.ofNat 32 d+48).setWidth 8 = digit d := by decide
  rw [low]
  exact all _ below

-- What the loop leaves: its digits from i on, and nothing else.
structure Wrote (digits : List Nat) (i : Nat) (before after : Recorded CChar) : Prop where
  row : ∀ j d, digits[j]? = some d → after.cells (i+j) = digit d
  rest : ∀ k, k < i → after.cells k = before.cells k
  written : ∀ k, k ∈ after.written ↔ (i ≤ k ∧ k < i+digits.length) ∨ k ∈ before.written

theorem Wrote.one {d : Nat} : Wrote [d] i str (str.set i (digit d)) := by
  constructor
  case row =>
    intro j other here
    cases j with
    | zero =>
      cases here
      rw [set_cells,Nat.add_zero,if_pos rfl]
    | succ j => cases here
  case rest => exact fun k below => by rw [set_cells,if_neg (Nat.ne_of_lt below)]
  case written =>
    intro k
    have one : (i ≤ k ∧ k < i+[d].length) ↔ k = i := by
      rw [List.length_singleton]
      omega
    rw [mem_set,one]

theorem Wrote.cons {d : Nat} {digits : List Nat} {after : Recorded CChar}
    (later : Wrote digits (i+1) (str.set i (digit d)) after) : Wrote (d :: digits) i str after := by
  constructor
  case row =>
    intro j other here
    cases j with
    | zero =>
      cases here
      rw [Nat.add_zero,later.rest _ (Nat.lt_succ_self i),set_cells,if_pos rfl]
    | succ j =>
      have place : i+(j+1) = i+1+j := by omega
      rw [place]
      exact later.row j other here
  case rest =>
    intro k below
    rw [later.rest k (Nat.lt_succ_of_lt below),set_cells,if_neg (Nat.ne_of_lt below)]
  case written =>
    intro k
    rw [later.written,mem_set,List.length_cons,← or_assoc]
    apply or_congr_left
    omega

theorem digitsFrom_ends (value : num.toInt = m) :
    ∃ after, digitsFrom num i str = (i+(lowDigits 10 m).length,after) ∧ Wrote (lowDigits 10 m) i str after := by
  induction m using Nat.strongRecOn generalizing num i str with
  | ind m ih =>
    have next : (num.sdiv 10).toInt = (m/10 : Nat) := by
      rw [quotient_toInt,value]
      rfl
    rw [digitsFrom,digit_taken value,lowDigits_next (by decide)]
    by_cases last : m/10 = 0
    · have ends : num.sdiv 10 = 0 := by
        apply BitVec.eq_of_toInt_eq
        rw [next,last]
        rfl
      simp only [ends,last,ne_eq,not_true,if_false,if_true]
      exact ⟨_,rfl,.one⟩
    · have more : num.sdiv 10 ≠ 0 := by
        intro ends
        rw [ends] at next
        exact last (Int.natCast_eq_zero.mp next.symm)
      have less : m/10 < m := by omega
      have length : i+1+(lowDigits 10 (m/10)).length = i+(m%10 :: lowDigits 10 (m/10)).length := by
        rw [List.length_cons]
        omega
      obtain ⟨after,done,wrote⟩ := @ih _ less (num.sdiv 10) (i+1) (str.set i (digit (m%10))) next
      simp only [more,last,ne_eq,not_false_eq_true,if_false,if_true]
      exact ⟨after,length ▸ done,wrote.cons⟩

end

section
variable {signed : Bool} {s : Conversion} {i j k : Nat}

theorem promote_add (a b : CChar) : (promote signed a+promote signed b).setWidth 8 = a+b := by
  rw [BitVec.setWidth_add _ _ (by decide),promote_back,promote_back]

theorem promote_sub (a b : CChar) : (promote signed a-promote signed b).setWidth 8 = a-b := by
  rw [BitVec.sub_eq_add_neg,BitVec.setWidth_add _ _ (by decide),BitVec.setWidth_neg_of_le (by decide),promote_back,promote_back,
    BitVec.sub_eq_add_neg]

-- A character of ASCII is what it is for either kind of char.
theorem promote_ascii {c : CChar} (ascii : c.toNat < 128) : (promote signed c).toInt = c.toNat := by
  have wide : (c.setWidth 32).toNat = c.toNat := by
    rw [BitVec.toNat_setWidth,Nat.mod_eq_of_lt (by omega)]
  have same : promote signed c = c.setWidth 32 := by
    cases signed with
    | true => exact BitVec.signExtend_eq_setWidth_of_msb_false (BitVec.msb_eq_false_iff_two_mul_lt.mpr (by omega))
    | false => rfl
  rw [same,BitVec.toInt_eq_toNat_of_lt (by omega),wide]

theorem sum_small {a b : CChar} (first : a.toNat ≤ 57) (second : b.toNat ≤ 57) :
    (promote signed a+promote signed b).toInt ≤ 127 := by
  have sum : (a.toNat+b.toNat : Int) ≤ 114 := by omega
  rw [BitVec.toInt_add,promote_ascii (by omega),promote_ascii (by omega),Int.bmod_eq_of_le (by omega) (by omega)]
  omega

-- The three assignments exchange two different cells.
theorem addSwap_cells {a b : Nat} (apart : a ≠ b) :
    (addSwap signed a b s).str.cells = store (store s.str.cells a (s.str.cells b)) b (s.str.cells a) := by
  funext k
  simp only [addSwap,set_cells,promote_add,promote_sub,store,apart,apart.symm,if_true,if_false]
  by_cases first : k = a
  · subst first
    simp only [apart,if_true,if_false]
    rw [BitVec.add_sub_cancel,BitVec.add_comm,BitVec.add_sub_cancel]
  · by_cases second : k = b
    · subst second
      simp only [first,if_true,if_false]
      rw [BitVec.add_sub_cancel]
    · simp only [first,second,if_false]

theorem addSwap_written {a b : Nat} : k ∈ (addSwap signed a b s).str.written ↔ k = a ∨ k = b ∨ k ∈ s.str.written := by
  simp only [addSwap,mem_set]
  grind

theorem swapFrom_cells : (swapFrom signed i j s).str.cells = reverseBetween s.str.cells j (i-1-j) := by
  induction j, s using swapFrom.induct signed i with
  | case1 j s more ih =>
    have apart : j < i-1-j := by omega
    have inner : i-1-(j+1) = i-1-j-1 := by omega
    rw [swapFrom,if_pos more,reverseBetween,if_pos apart,ih,addSwap_cells (Nat.ne_of_lt apart),inner]
  | case2 j s done =>
    have met : ¬ j < i-1-j := by omega
    rw [swapFrom,if_neg done,reverseBetween,if_neg met]

theorem swapFrom_written (written : k ∈ (swapFrom signed i j s).str.written) : k ∈ s.str.written ∨ (j ≤ k ∧ k ≤ i-1-j) := by
  induction j, s using swapFrom.induct signed i with
  | case1 j s more ih =>
    rw [swapFrom,if_pos more] at written
    rcases ih written with before | inside
    · rcases addSwap_written.mp before with rfl | rfl | before
      · exact .inr (by omega)
      · exact .inr (by omega)
      · exact .inl before
    · exact .inr (by omega)
  | case2 j s done =>
    rw [swapFrom,if_neg done] at written
    exact .inl written

theorem swapFrom_sums (digits : ∀ k, j ≤ k → k ≤ i-1-j → (s.str.cells k).toNat ≤ 57) (before : ∀ sum ∈ s.sums, sum.toInt ≤ 127) :
    ∀ sum ∈ (swapFrom signed i j s).sums, sum.toInt ≤ 127 := by
  induction j, s using swapFrom.induct signed i with
  | case1 j s more ih =>
    rw [swapFrom,if_pos more]
    apply ih
    · intro k above below
      have first : k ≠ j := by omega
      have second : k ≠ i-1-j := by omega
      rw [addSwap_cells (by omega),store,store,if_neg second,if_neg first]
      exact digits k (by omega) (by omega)
    · intro sum member
      rcases List.mem_cons.mp member with rfl | member
      · exact sum_small (digits j (by omega) (by omega)) (digits (i-1-j) (by omega) (by omega))
      · exact before sum member
  | case2 j s done =>
    rw [swapFrom,if_neg done]
    exact before

end

section
variable {d : Nat}

theorem digit_toNat (below : d < 10) : (digit d).toNat = 48+d := by
  rw [digit,BitVec.toNat_ofNat,Nat.mod_eq_of_lt (by omega)]

theorem digit_ne {c : CChar} (below : d < 10) (outside : c.toNat < 48) : digit d ≠ c := by
  intro same
  have value := digit_toNat below
  rw [same] at value
  omega

theorem digits_back {digits : List Nat} (each : ∀ d ∈ digits, d < 10) :
    (digits.map digit).map (fun c => c.toNat-48) = digits := by
  have same : ∀ d ∈ digits, ((fun c : CChar => c.toNat-48) ∘ digit) d = id d := by
    intro d member
    rw [Function.comp_apply,digit_toNat (each d member),Nat.add_sub_cancel_left]
    rfl
  rw [List.map_map,List.map_congr_left same,List.map_id]

end

section
variable {signed : Bool} {digits : List Nat} {o : Nat} {before after : Recorded CChar}

-- Digits written from o on, ended with a 0 and turned round.
def turned (signed : Bool) (digits : List Nat) (o : Nat) (after : Recorded CChar) : Conversion :=
  swapFrom signed (2*o+digits.length) o ⟨after.set (o+digits.length) 0,[]⟩

theorem turned_cells (nonempty : digits ≠ []) (k : Nat) : (turned signed digits o after).str.cells k =
    if o ≤ k ∧ k < o+digits.length then after.cells (2*o+digits.length-1-k)
    else if k = o+digits.length then 0 else after.cells k := by
  have some := List.length_pos_iff.mpr nonempty
  have range : (o ≤ k ∧ k ≤ 2*o+digits.length-1-o) ↔ (o ≤ k ∧ k < o+digits.length) := by omega
  rw [turned,swapFrom_cells,reverseBetween_apply]
  simp only [range,set_cells]
  by_cases inside : o ≤ k ∧ k < o+digits.length
  · have place : o+(2*o+digits.length-1-o)-k = 2*o+digits.length-1-k := by omega
    have other : 2*o+digits.length-1-k ≠ o+digits.length := by omega
    rw [if_pos inside,if_pos inside,place,if_neg other]
  · rw [if_neg inside,if_neg inside]

theorem turned_written {k : Nat} (wrote : Wrote digits o before after)
    (written : k ∈ (turned signed digits o after).str.written) : k ≤ o+digits.length ∨ k ∈ before.written := by
  rcases swapFrom_written written with earlier | inside
  · rcases mem_set.mp earlier with rfl | earlier
    · exact .inl (Nat.le_refl _)
    · rcases (wrote.written k).mp earlier with row | earlier
      · exact .inl (Nat.le_of_lt row.2)
      · exact .inr earlier
  · exact .inl (by omega)

theorem turned_small (wrote : Wrote digits o before after) (each : ∀ d ∈ digits, d < 10) :
    ∀ sum ∈ (turned signed digits o after).sums, sum.toInt ≤ 127 := by
  have cells : ∀ k, o ≤ k → k ≤ 2*o+digits.length-1-o → ((after.set (o+digits.length) 0).cells k).toNat ≤ 57 := by
    intro k above below
    by_cases last : k = o+digits.length
    · rw [set_cells,if_pos last]
      decide
    · have row : k-o < digits.length := by omega
      have place : o+(k-o) = k := by omega
      have here := wrote.row _ _ (List.getElem?_eq_getElem row)
      have small := each _ (List.getElem_mem row)
      rw [place] at here
      rw [set_cells,if_neg last,here,digit_toNat small]
      omega
  exact swapFrom_sums cells fun sum none => absurd none List.not_mem_nil

theorem turned_string {sign : List CChar} (wrote : Wrote digits sign.length before after) (nonempty : digits ≠ [])
    (each : ∀ d ∈ digits, d < 10) (put : ∀ k c, sign[k]? = some c → before.cells k = c ∧ c ≠ 0) :
    IsString (turned signed digits sign.length after).str.cells (sign++digits.reverse.map digit) := by
  have length : (sign++digits.reverse.map digit).length = sign.length+digits.length := by
    rw [List.length_append,List.length_map,List.length_reverse]
  constructor
  case cells =>
    intro k c here
    have below : k < sign.length+digits.length := length ▸ (List.getElem?_eq_some_iff.mp here).1
    rw [turned_cells nonempty]
    by_cases first : k < sign.length
    · have outside : ¬ (sign.length ≤ k ∧ k < sign.length+digits.length) := by omega
      rw [List.getElem?_append_left first] at here
      rw [if_neg outside,if_neg (Nat.ne_of_lt below),wrote.rest k first]
      exact put k c here
    · have inside : sign.length ≤ k ∧ k < sign.length+digits.length := by omega
      have row : k-sign.length < digits.length := by omega
      have place : 2*sign.length+digits.length-1-k = sign.length+(digits.length-1-(k-sign.length)) := by omega
      rw [List.getElem?_append_right inside.1,List.getElem?_map,List.getElem?_reverse row,Option.map_eq_some_iff] at here
      obtain ⟨d,found,rfl⟩ := here
      rw [if_pos inside,place]
      exact ⟨wrote.row _ d found,digit_ne (each d (List.mem_of_getElem? found)) (by decide)⟩
  case ends => rw [length,turned_cells nonempty,if_neg fun inside => Nat.lt_irrefl _ inside.2,if_pos rfl]

end

section
variable {signed : Bool} {num : CInt} {str : Buffer} {m : Nat}

-- What the digits of m leave behind a sign that is in place.
theorem turned_writes (sign : List CChar) {before after : Recorded CChar}
    (wrote : Wrote (lowDigits 10 m) sign.length before after) (fits : m < 2^31) (one : sign.length ≤ 1)
    (put : ∀ k c, sign[k]? = some c → before.cells k = c ∧ c ≠ 0) (only : ∀ k ∈ before.written, k < sign.length) :
    Writes (sign++(lowDigits 10 m).reverse.map digit) (turned signed (lowDigits 10 m) sign.length after) := by
  have numeral : IsNumeral 10 m (lowDigits 10 m).reverse := lowDigits_numeral (by decide)
  have nonempty : lowDigits 10 m ≠ [] := fun none => numeral.nonempty (List.reverse_eq_nil_iff.mpr none)
  have each : ∀ d ∈ lowDigits 10 m, d < 10 := fun d member => numeral.each d (List.mem_reverse.mpr member)
  have length : (sign++(lowDigits 10 m).reverse.map digit).length = sign.length+(lowDigits 10 m).length := by
    rw [List.length_append,List.length_map,List.length_reverse]
  constructor
  case string => exact turned_string wrote nonempty each put
  case inside =>
    intro k written
    rw [length]
    rcases turned_written wrote written with inside | earlier
    · exact inside
    · exact Nat.le_trans (Nat.le_of_lt (only k earlier)) (Nat.le_add_right _ _)
  case short =>
    have ten : (lowDigits 10 m).length ≤ 10 := lowDigits_length (by decide) (by decide) (by omega)
    rw [length]
    omega
  case small => exact turned_small wrote each

theorem int2String_nonneg (value : num.toInt = m) : ∃ after, Wrote (lowDigits 10 m) 0 (fresh str) after ∧
    int2String signed num (fresh str) = turned signed (lowDigits 10 m) 0 after := by
  have positive : num.slt 0 = false := by
    rw [BitVec.slt_eq_decide,value]
    exact decide_eq_false (Int.not_lt.mpr (Int.natCast_nonneg m))
  obtain ⟨after,done,wrote⟩ := @digitsFrom_ends num m 0 (fresh str) value
  have lowest : lowDigits 10 m = m%10 :: if m/10 = 0 then [] else lowDigits 10 (m/10) := lowDigits_next (by decide)
  have first : (after.set (0+(lowDigits 10 m).length) 0).cells 0 ≠ 45 := by
    have low : after.cells (0+0) = digit (m%10) := wrote.row 0 (m%10) (by rw [lowest,List.getElem?_cons_zero])
    have some : 0 ≠ 0+(lowDigits 10 m).length := by
      rw [lowest,List.length_cons]
      omega
    rw [set_cells,if_neg some,low]
    exact digit_ne (Nat.mod_lt m (by decide)) (by decide)
  refine ⟨after,wrote,?_⟩
  unfold int2String
  simp only [positive,done,first,Bool.false_eq_true,if_false]
  rfl

theorem int2String_neg (defined : num ≠ BitVec.intMin 32) (sign : num.toInt < 0) (value : num.toInt = -m) :
    ∃ after, Wrote (lowDigits 10 m) 1 ((fresh str).set 0 45) after ∧
      int2String signed num (fresh str) = turned signed (lowDigits 10 m) 1 after := by
  have negative : num.slt 0 = true := decide_eq_true sign
  have negated : (-num).toInt = m := by rw [BitVec.toInt_neg_of_ne_intMin defined,value,Int.neg_neg]
  obtain ⟨after,done,wrote⟩ := @digitsFrom_ends (-num) m 1 ((fresh str).set 0 45) negated
  have first : (after.set (1+(lowDigits 10 m).length) 0).cells 0 = 45 := by
    have other : 0 ≠ 1+(lowDigits 10 m).length := by omega
    rw [set_cells,if_neg other,wrote.rest 0 Nat.one_pos,set_cells,if_pos rfl]
  have axis : 1+(lowDigits 10 m).length+1 = 2*1+(lowDigits 10 m).length := by omega
  refine ⟨after,wrote,?_⟩
  unfold int2String
  simp only [negative,done,first,if_true]
  rw [axis]
  rfl

theorem writes_nonneg (value : num.toInt = m) (fits : m < 2^31) :
    Writes ((lowDigits 10 m).reverse.map digit) (int2String signed num (fresh str)) := by
  obtain ⟨after,wrote,result⟩ := @int2String_nonneg signed num str m value
  rw [result]
  apply turned_writes [] wrote fits (by decide)
  · intro k c here
    cases here
  · intro k member
    cases member

theorem writes_neg (defined : num ≠ BitVec.intMin 32) (sign : num.toInt < 0) (value : num.toInt = -m) (fits : m < 2^31) :
    Writes (45 :: (lowDigits 10 m).reverse.map digit) (int2String signed num (fresh str)) := by
  obtain ⟨after,wrote,result⟩ := @int2String_neg signed num str m defined sign value
  rw [result]
  apply turned_writes [45] wrote fits (by decide)
  · intro k c here
    cases k with
    | zero =>
      cases here
      exact ⟨set_cells.trans (if_pos rfl),by decide⟩
    | succ k => cases here
  · intro k member
    rcases mem_set.mp member with rfl | none
    · exact Nat.one_pos
    · cases none

theorem readBack_textOf {digits : List Nat} (numeral : IsNumeral 10 num.toInt.natAbs digits) :
    readBack (textOf num digits) = num.toInt := by
  have back : spelled 10 ((digits.map digit).map fun c => c.toNat-48) = num.toInt.natAbs := by
    rw [digits_back numeral.each]
    exact numeral.value
  by_cases sign : num.toInt < 0
  · rw [textOf,if_pos sign,readBack]
    simp only [List.singleton_append,List.head?_cons,List.tail_cons,if_true]
    rw [back]
    omega
  · have first : (digits.map digit).head? ≠ some 45 := by
      intro minus
      rw [List.head?_map,Option.map_eq_some_iff] at minus
      obtain ⟨d,top,same⟩ := minus
      exact digit_ne (numeral.each d (List.mem_of_mem_head? top)) (by decide) same
    rw [textOf,if_neg sign,List.nil_append,readBack,if_neg first,back]
    omega

theorem natAbs_fits (defined : num ≠ BitVec.intMin 32) : num.toInt.natAbs < 2^31 := by
  have above := num.le_toInt
  have below := num.toInt_lt
  have lowest : num.toInt ≠ -2^31 := fun least => defined (BitVec.eq_of_toInt_eq least)
  omega

theorem int2String_decimal (signed : Bool) (num : CInt) (str : Buffer) (defined : num ≠ BitVec.intMin 32) :
    WritesDecimal signed num str := by
  have numeral : IsNumeral 10 num.toInt.natAbs (lowDigits 10 num.toInt.natAbs).reverse := lowDigits_numeral (by decide)
  have fits := natAbs_fits defined
  refine ⟨(lowDigits 10 num.toInt.natAbs).reverse,numeral,?_,readBack_textOf numeral⟩
  by_cases sign : num.toInt < 0
  · rw [textOf,if_pos sign]
    exact writes_neg defined sign (by omega) fits
  · rw [textOf,if_neg sign]
    exact writes_nonneg (by omega) fits

theorem lowest_decimal : WritesDecimal true (-2147483647) fun _ => 0 :=
  int2String_decimal true (-2147483647) (fun _ => 0) (by decide)

end

end Axidma.DecimalText
