import Axidma.DecimalText

namespace Axidma.ParsedNumbers
open BitPacking FrameHeader Numerals RecordedBuffer DecimalText

def isSpace (c : CChar) : Bool := decide (c = 32 ∨ (9 ≤ c.toNat ∧ c.toNat ≤ 13))

def isDigit (c : CChar) : Bool := decide (48 ≤ c.toNat ∧ c.toNat ≤ 57)

-- What %d finds in a text: a number with what is left behind it, a text that ends
-- before one, or something else.
inductive Taken where
  | ended
  | mismatch
  | value (n : Int) (rest : List CChar)

def takeSign : List CChar → Bool × List CChar
  | [] => (false,[])
  | c :: rest => if c = 45 then (true,rest) else if c = 43 then (false,rest) else (false,c :: rest)

def takeInt (text : List CChar) : Taken :=
  let text := text.dropWhile isSpace
  if text = [] then .ended
  else
  let (negative,text) := takeSign text
  let digits := text.takeWhile isDigit
  if digits = [] then .mismatch
  else
  let n : Int := spelled 10 (digits.map fun c => c.toNat-48)
  .value (if negative then -n else n) (text.dropWhile isDigit)

inductive Directive where
  | number
  | literal (c : CChar)
  | blanks

-- The result of sscanf, with the numbers it has assigned so far. A text that ends
-- counts as EOF only before the first of them.
def sscanf : List Directive → List CChar → List Int → Int × List Int
  | [],_,values => (values.length,values)
  | .number :: directives,text,values => match takeInt text with
    | .ended => (if values = [] then -1 else values.length,values)
    | .mismatch => (values.length,values)
    | .value n rest => sscanf directives rest (values++[n])
  | .literal c :: directives,text,values => match text with
    | [] => (if values = [] then -1 else values.length,values)
    | d :: rest => if d = c then sscanf directives rest values else (values.length,values)
  | .blanks :: directives,text,values => sscanf directives (text.dropWhile isSpace) values

def FitsInt (n : Int) : Prop := -2^31 ≤ n ∧ n < 2^31

instance (n : Int) : Decidable (FitsInt n) := inferInstanceAs (Decidable (_ ∧ _))

def stored (values : List Int) (k : Nat) (before : CInt) : CInt := (values[k]?.map (BitVec.ofInt 32)).getD before

-- None where C leaves the conversion undefined, as a number does not fit.
def parseInt (optarg : List CChar) (data : CInt) : Option (Int × CInt) :=
  let (rc,values) := sscanf [.number] optarg []
  if ¬ ∀ n ∈ values, FitsInt n then none
  else
  let data := stored values 0 data
  if rc < 0 then some (rc,data)
  else if rc ≠ 1 then some (-EINVAL,data)
  else some (0,data)

-- %dx%dx%d and a line feed, for which any blanks or none will do.
def parseResolution (optarg : List CChar) (resolution : AxidmaVideoFrame) : Option (Int × AxidmaVideoFrame) :=
  let (rc,values) := sscanf [.number,.literal 120,.number,.literal 120,.number,.blanks] optarg []
  if ¬ ∀ n ∈ values, FitsInt n then none
  else
  let resolution := ⟨stored values 0 resolution.height,stored values 1 resolution.width,stored values 2 resolution.depth⟩
  if rc < 0 then some (rc,resolution)
  else if rc ≠ 3 then some (-EINVAL,resolution)
  else some (0,resolution)

-- What the parsing of options comes to where it does not go on.
inductive Stop where
  | failed (rc : Int)
  | help
  | undefined

-- An option that is a number. The code is what is returned of a failure.
def withInt {α : Type} (code : Int → Int) (optarg : List CChar) (store : CInt → α) : Except Stop α :=
  match parseInt optarg 0 with
  | none => .error .undefined
  | some (rc,intArg) => if rc < 0 then .error (.failed (code rc)) else .ok (store intArg)

-- A decimal text of a number, which may have a sign and leading zeros.
inductive Spells : List CChar → Int → Prop where
  | plain {digits : List CChar} (some : digits ≠ []) (each : ∀ c ∈ digits, isDigit c = true) :
      Spells digits (spelled 10 (digits.map fun c => c.toNat-48))
  | plus {digits : List CChar} (some : digits ≠ []) (each : ∀ c ∈ digits, isDigit c = true) :
      Spells (43 :: digits) (spelled 10 (digits.map fun c => c.toNat-48))
  | minus {digits : List CChar} (some : digits ≠ []) (each : ∀ c ∈ digits, isDigit c = true) :
      Spells (45 :: digits) (-(spelled 10 (digits.map fun c => c.toNat-48) : Int))

def Stops (rest : List CChar) : Prop := ∀ c, rest.head? = some c → isDigit c = false

-- Blanks, a spelling of the number, and a rest that does not go on with a digit.
def Begins (text : List CChar) (n : Int) (rest : List CChar) : Prop :=
  ∃ blanks spelling, text = blanks++(spelling++rest) ∧ (∀ c ∈ blanks, isSpace c = true) ∧ Spells spelling n ∧ Stops rest

section
variable {text rest spelling digits : List CChar} {n : Int} {c : CChar}

theorem isDigit_iff : isDigit c = true ↔ 48 ≤ c.toNat ∧ c.toNat ≤ 57 := decide_eq_true_iff

theorem isSpace_iff : isSpace c = true ↔ c = 32 ∨ (9 ≤ c.toNat ∧ c.toNat ≤ 13) := decide_eq_true_iff

theorem space_below (space : isSpace c = true) : c.toNat ≤ 32 := by
  rcases isSpace_iff.mp space with rfl | between
  · decide
  · omega

theorem Spells.first (spells : Spells spelling n) : ∃ c tail, spelling = c :: tail ∧ 43 ≤ c.toNat := by
  cases spells with
  | plain some each =>
    cases spelling with
    | nil => exact absurd rfl some
    | cons c tail =>
      have digit := isDigit_iff.mp (each c List.mem_cons_self)
      exact ⟨c,tail,rfl,by omega⟩
  | plus some each => exact ⟨43,_,rfl,by decide⟩
  | minus some each => exact ⟨45,_,rfl,by decide⟩

theorem takeSign_digits (each : ∀ c ∈ digits, isDigit c = true) (some : digits ≠ []) :
    takeSign (digits++rest) = (false,digits++rest) := by
  cases digits with
  | nil => exact absurd rfl some
  | cons c tail =>
    have digit := isDigit_iff.mp (each c List.mem_cons_self)
    have other : c ≠ 45 ∧ c ≠ 43 := by
      constructor
      · rintro rfl
        exact absurd digit (by decide)
      · rintro rfl
        exact absurd digit (by decide)
    rw [List.cons_append,takeSign,if_neg other.1,if_neg other.2]

theorem stops_takeWhile (stops : Stops rest) : rest.takeWhile isDigit = [] := by
  cases rest with
  | nil => rfl
  | cons c tail => rw [List.takeWhile_cons,if_neg (by rw [stops c rfl]; decide)]

theorem stops_dropWhile (stops : Stops rest) : rest.dropWhile isDigit = rest := by
  cases rest with
  | nil => rfl
  | cons c tail => rw [List.dropWhile_cons,if_neg (by rw [stops c rfl]; decide)]

theorem dropWhile_stops : Stops (text.dropWhile isDigit) := by
  intro c first
  have refused := List.head?_dropWhile_not isDigit text
  rw [first] at refused
  exact refused

theorem takeInt_digits (sign : List CChar) {blanks : List CChar} {negative : Bool} (blank : ∀ c ∈ blanks, isSpace c = true)
    (first : ∀ c, (sign++(digits++rest)).head? = some c → isSpace c = false)
    (signed : takeSign (sign++(digits++rest)) = (negative,digits++rest)) (some : digits ≠ [])
    (each : ∀ c ∈ digits, isDigit c = true) (stops : Stops rest) :
    takeInt (blanks++(sign++(digits++rest))) =
      .value (if negative then -(spelled 10 (digits.map fun c => c.toNat-48) : Int) else spelled 10 (digits.map fun c => c.toNat-48))
        rest := by
  have skipped : (blanks++(sign++(digits++rest))).dropWhile isSpace = sign++(digits++rest) := by
    rw [List.dropWhile_append_of_pos blank]
    cases whole : sign++(digits++rest) with
    | nil => rfl
    | cons c tail => rw [List.dropWhile_cons,if_neg (by rw [first c (by rw [whole]; rfl)]; decide)]
  have more : sign++(digits++rest) ≠ [] := by
    intro none
    exact some (List.append_eq_nil_iff.mp (List.append_eq_nil_iff.mp none).2).1
  have taken : (digits++rest).takeWhile isDigit = digits := by
    rw [List.takeWhile_append_of_pos each,stops_takeWhile stops,List.append_nil]
  have left : (digits++rest).dropWhile isDigit = rest := by
    rw [List.dropWhile_append_of_pos each,stops_dropWhile stops]
  simp only [takeInt,skipped,more,signed,taken,left,some,if_false]

theorem takeInt_begins (begins : Begins text n rest) : takeInt text = .value n rest := by
  obtain ⟨blanks,spelling,rfl,blank,spells,stops⟩ := begins
  obtain ⟨c,tail,starts,above⟩ := spells.first
  have first : ∀ other, (spelling++rest).head? = some other → isSpace other = false := by
    intro other here
    rw [starts] at here
    cases here
    apply Bool.eq_false_iff.mpr
    intro space
    have below := space_below space
    omega
  cases spells with
  | plain some each =>
    have unsigned : takeSign (spelling++rest) = (false,spelling++rest) := takeSign_digits each some
    exact takeInt_digits [] blank first unsigned some each stops
  | plus some each => exact takeInt_digits [43] blank first rfl some each stops
  | minus some each => exact takeInt_digits [45] blank first rfl some each stops

-- The text is the sign that was taken and what is behind it.
theorem takeSign_spells {negative : Bool} (taken : takeSign text = (negative,digits++rest)) (some : digits ≠ [])
    (each : ∀ c ∈ digits, isDigit c = true) : ∃ spelling, text = spelling++rest ∧
      Spells spelling (if negative then -(spelled 10 (digits.map fun c => c.toNat-48) : Int) else spelled 10 (digits.map fun c => c.toNat-48)) := by
  cases text with
  | nil =>
    obtain ⟨rfl,none⟩ := Prod.mk.inj taken
    exact absurd (List.append_eq_nil_iff.mp none.symm).1 some
  | cons c tail =>
    rw [takeSign] at taken
    by_cases minus : c = 45
    · rw [if_pos minus] at taken
      obtain ⟨rfl,rfl⟩ := Prod.mk.inj taken
      exact ⟨45 :: digits,by rw [minus]; rfl,.minus some each⟩
    · by_cases plus : c = 43
      · rw [if_neg minus,if_pos plus] at taken
        obtain ⟨rfl,rfl⟩ := Prod.mk.inj taken
        exact ⟨43 :: digits,by rw [plus]; rfl,.plus some each⟩
      · rw [if_neg minus,if_neg plus] at taken
        obtain ⟨rfl,same⟩ := Prod.mk.inj taken
        exact ⟨digits,same,.plain some each⟩

theorem takeInt_iff : takeInt text = .value n rest ↔ Begins text n rest := by
  refine ⟨fun taken => ?_,takeInt_begins⟩
  have blank : ∀ c ∈ text.takeWhile isSpace, isSpace c = true := List.all_eq_true.mp List.all_takeWhile
  have whole : text = text.takeWhile isSpace++text.dropWhile isSpace := List.takeWhile_append_dropWhile.symm
  generalize text.takeWhile isSpace = blanks at blank whole
  simp only [takeInt] at taken
  generalize text.dropWhile isSpace = behind at taken whole
  by_cases none : behind = []
  · rw [if_pos none] at taken
    cases taken
  · rw [if_neg none] at taken
    cases signed : takeSign behind with
    | mk negative digitsOn =>
      rw [signed] at taken
      have each : ∀ c ∈ digitsOn.takeWhile isDigit, isDigit c = true := List.all_eq_true.mp List.all_takeWhile
      have split : digitsOn = digitsOn.takeWhile isDigit++digitsOn.dropWhile isDigit := List.takeWhile_append_dropWhile.symm
      by_cases some : digitsOn.takeWhile isDigit = []
      · rw [if_pos some] at taken
        cases taken
      · rw [if_neg some] at taken
        obtain ⟨rfl,rfl⟩ := Taken.value.inj taken
        rw [split] at signed
        obtain ⟨spelling,spelt,spells⟩ := takeSign_spells signed some each
        exact ⟨blanks,spelling,by rw [whole,spelt],blank,spells,dropWhile_stops⟩

end

-- The string in an array of so many cells.
def stringIn (buf : Buffer) (size : Nat) : List CChar := ((List.range size).map buf).takeWhile fun c => decide (c ≠ 0)

section
variable {text rest optarg digits : List CChar} {signed : Bool} {num data n : CInt} {resolution found : AxidmaVideoFrame} {str buf : Buffer}
  {m : Int} {rc : Int} {size : Nat}

theorem fits_toInt : FitsInt n.toInt := ⟨n.le_toInt,n.toInt_lt⟩

theorem ofInt_toInt (fits : FitsInt m) : (BitVec.ofInt 32 m).toInt = m := by
  have above := fits.1
  have below := fits.2
  rw [BitVec.toInt_ofInt,Int.bmod_eq_of_le (by omega) (by omega)]

theorem parseInt_value (taken : takeInt optarg = .value m rest) :
    parseInt optarg data = if FitsInt m then some (0,BitVec.ofInt 32 m) else none := by
  by_cases fits : FitsInt m
  · simp [parseInt,sscanf,taken,fits,stored]
  · simp [parseInt,sscanf,taken,fits]

theorem parseInt_refused (refused : ∀ m rest, takeInt optarg ≠ .value m rest) : ∃ rc, rc < 0 ∧ parseInt optarg data = some (rc,data) := by
  cases taken : takeInt optarg with
  | ended => exact ⟨-1,by decide,by simp [parseInt,sscanf,taken,stored]⟩
  | mismatch => exact ⟨-EINVAL,by decide,by simp [parseInt,sscanf,taken,stored]⟩
  | value m rest => exact absurd taken (refused m rest)

theorem parseInt_accepts : parseInt optarg data = some (0,n) ↔ ∃ rest, Begins optarg n.toInt rest := by
  constructor
  · intro parsed
    cases taken : takeInt optarg with
    | value m rest =>
      rw [parseInt_value taken] at parsed
      by_cases fits : FitsInt m
      · rw [if_pos fits] at parsed
        have same : BitVec.ofInt 32 m = n := (Prod.mk.inj (Option.some.inj parsed)).2
        refine ⟨rest,takeInt_iff.mp ?_⟩
        rw [← same,ofInt_toInt fits]
        exact taken
      · rw [if_neg fits] at parsed
        cases parsed
    | _ =>
      obtain ⟨rc,negative,refused⟩ := @parseInt_refused optarg data (by rw [taken]; exact fun _ _ same => by cases same)
      rw [refused] at parsed
      have zero : rc = 0 := (Prod.mk.inj (Option.some.inj parsed)).1
      omega
  · intro begins
    obtain ⟨rest,begins⟩ := begins
    rw [parseInt_value (takeInt_begins begins),if_pos fits_toInt,BitVec.ofInt_toInt]

-- What is assigned of a number, an x and what comes of the rest.
theorem sscanf_term {directives : List Directive} {values : List Int} :
    (sscanf (.number :: .literal 120 :: directives) optarg values).1 ≤ values.length+1 ∨
      ∃ m rest, Begins optarg m (120 :: rest) ∧
        sscanf (.number :: .literal 120 :: directives) optarg values = sscanf directives rest (values++[m]) := by
  have eof : (if values = [] then -1 else (values.length : Int)) ≤ values.length+1 := by
    split
    · omega
    · omega
  cases taken : takeInt optarg with
  | ended => exact .inl (by simpa only [sscanf,taken] using eof)
  | mismatch => exact .inl (by simp only [sscanf,taken]; omega)
  | value m rest =>
    cases rest with
    | nil => exact .inl (by simp [sscanf,taken])
    | cons c rest =>
      by_cases same : c = 120
      · subst same
        exact .inr ⟨m,rest,takeInt_iff.mp taken,by simp only [sscanf,taken,if_true]⟩
      · exact .inl (by simp only [sscanf,taken,same,if_false,List.length_append,List.length_singleton]; omega)

theorem sscanf_last {values : List Int} :
    (sscanf [.number,.blanks] optarg values).1 ≤ values.length ∨
      ∃ m rest, Begins optarg m rest ∧ sscanf [.number,.blanks] optarg values = ((values.length : Int)+1,values++[m]) := by
  have eof : (if values = [] then -1 else (values.length : Int)) ≤ values.length := by
    split
    · omega
    · omega
  cases taken : takeInt optarg with
  | ended => exact .inl (by simpa only [sscanf,taken] using eof)
  | mismatch => exact .inl (by simp only [sscanf,taken]; omega)
  | value m rest => exact .inr ⟨m,rest,takeInt_iff.mp taken,by simp [sscanf,taken]⟩

def Reads (optarg : List CChar) (height width depth : Int) : Prop :=
  ∃ afterHeight afterWidth rest, Begins optarg height (120 :: afterHeight) ∧ Begins afterHeight width (120 :: afterWidth) ∧
    Begins afterWidth depth rest

theorem parseResolution_reads {height width depth : Int} (reads : Reads optarg height width depth) :
    parseResolution optarg resolution = if FitsInt height ∧ FitsInt width ∧ FitsInt depth then
      some (0,⟨BitVec.ofInt 32 height,BitVec.ofInt 32 width,BitVec.ofInt 32 depth⟩) else none := by
  obtain ⟨afterHeight,afterWidth,rest,first,second,third⟩ := reads
  have scanned : sscanf [.number,.literal 120,.number,.literal 120,.number,.blanks] optarg [] = (3,[height,width,depth]) := by
    simp [sscanf,takeInt_begins first,takeInt_begins second,takeInt_begins third]
  have all : (∀ n ∈ [height,width,depth], FitsInt n) ↔ FitsInt height ∧ FitsInt width ∧ FitsInt depth := by simp
  simp only [parseResolution,scanned,all]
  by_cases fits : FitsInt height ∧ FitsInt width ∧ FitsInt depth
  · simp [fits,stored]
  · simp only [fits,not_false_eq_true,if_true,if_false]

theorem parseResolution_refused (refused : ∀ height width depth, ¬ Reads optarg height width depth) :
    (parseResolution optarg resolution).map Prod.fst ≠ some 0 := by
  have short : (sscanf [.number,.literal 120,.number,.literal 120,.number,.blanks] optarg []).1 ≠ 3 := by
    rcases @sscanf_term optarg [.number,.literal 120,.number,.blanks] [] with few | ⟨height,afterHeight,first,scanned⟩
    · exact fun three => by rw [three] at few; exact absurd few (by decide)
    · rw [scanned,List.nil_append]
      rcases @sscanf_term afterHeight [.number,.blanks] [height] with few | ⟨width,afterWidth,second,scanned⟩
      · exact fun three => by rw [three] at few; exact absurd few (by simp)
      · rw [scanned,List.singleton_append]
        rcases @sscanf_last afterWidth [height,width] with few | ⟨depth,rest,third,scanned⟩
        · exact fun three => by rw [three] at few; exact absurd few (by simp)
        · exact absurd ⟨afterHeight,afterWidth,rest,first,second,third⟩ (refused height width depth)
  intro accepted
  cases scanned : sscanf [.number,.literal 120,.number,.literal 120,.number,.blanks] optarg [] with
  | mk rc values =>
    rw [scanned] at short
    simp only [parseResolution,scanned] at accepted
    split at accepted
    · cases accepted
    · split at accepted
      · have zero : rc = 0 := Option.some.inj accepted
        omega
      · have zero : -EINVAL = 0 := Option.some.inj accepted
        exact absurd zero (by decide)

theorem parseResolution_accepts : parseResolution optarg resolution = some (0,found) ↔
    Reads optarg found.height.toInt found.width.toInt found.depth.toInt := by
  constructor
  · intro parsed
    by_cases reads : ∃ height width depth, Reads optarg height width depth
    · obtain ⟨height,width,depth,reads⟩ := reads
      rw [parseResolution_reads reads] at parsed
      by_cases fits : FitsInt height ∧ FitsInt width ∧ FitsInt depth
      · rw [if_pos fits] at parsed
        obtain rfl := (Prod.mk.inj (Option.some.inj parsed)).2
        simp only [ofInt_toInt fits.1,ofInt_toInt fits.2.1,ofInt_toInt fits.2.2]
        exact reads
      · rw [if_neg fits] at parsed
        cases parsed
    · refine absurd ?_ (@parseResolution_refused optarg resolution fun height width depth here => reads ⟨height,width,depth,here⟩)
      rw [parsed]
      rfl
  · intro reads
    rw [parseResolution_reads reads,if_pos ⟨fits_toInt,fits_toInt,fits_toInt⟩]
    simp only [BitVec.ofInt_toInt]

-- No number that is taken of the text is beyond int.
def WithinInt (optarg : List CChar) : Prop := ∀ m rest, Begins optarg m rest → FitsInt m

def AllWithinInt (optarg : List CChar) : Prop := WithinInt optarg ∧ ∀ height afterHeight, Begins optarg height (120 :: afterHeight) →
  WithinInt afterHeight ∧ ∀ width afterWidth, Begins afterHeight width (120 :: afterWidth) → WithinInt afterWidth

theorem value_within {m : Int} (taken : takeInt optarg = .value m rest) : WithinInt optarg ↔ FitsInt m := by
  constructor
  · exact fun within => within m rest (takeInt_iff.mp taken)
  · intro fits other behind begins
    cases taken.symm.trans (takeInt_begins begins)
    exact fits

theorem none_within (refused : ∀ m rest, takeInt optarg ≠ .value m rest) : WithinInt optarg :=
  fun m rest begins => absurd (takeInt_begins begins) (refused m rest)

theorem sscanf_keeps {directives : List Directive} {text : List CChar} {values : List Int} {m : Int} (member : m ∈ values) :
    m ∈ (sscanf directives text values).2 := by
  induction directives generalizing text values with
  | nil => exact member
  | cons directive directives ih =>
    cases directive with
    | number =>
      simp only [sscanf]
      cases takeInt text with
      | ended => exact member
      | mismatch => exact member
      | value n rest => exact ih (List.mem_append_left _ member)
    | literal c =>
      cases text with
      | nil => exact member
      | cons d rest =>
        simp only [sscanf]
        split
        · exact ih member
        · exact member
    | blanks => exact ih member

def AllFit (directives : List Directive) (text : List CChar) (values : List Int) : Prop :=
  ∀ n ∈ (sscanf directives text values).2, FitsInt n

theorem fits_more {values : List Int} {m : Int} (before : ∀ n ∈ values, FitsInt n) :
    (∀ n ∈ values++[m], FitsInt n) ↔ FitsInt m := by
  constructor
  · exact fun all => all m (List.mem_append_right _ List.mem_cons_self)
  · intro fits n member
    rcases List.mem_append.mp member with early | last
    · exact before n early
    · obtain rfl := List.mem_singleton.mp last
      exact fits

theorem term_fits {directives : List Directive} {values : List Int} (before : ∀ n ∈ values, FitsInt n) :
    AllFit (.number :: .literal 120 :: directives) optarg values ↔ WithinInt optarg ∧
      ∀ m rest, Begins optarg m (120 :: rest) → AllFit directives rest (values++[m]) := by
  by_cases some : ∃ m rest, takeInt optarg = .value m rest
  · obtain ⟨m,rest,taken⟩ := some
    rw [value_within taken]
    by_cases behind : ∃ after, rest = 120 :: after
    · obtain ⟨after,rfl⟩ := behind
      have goes : sscanf (.number :: .literal 120 :: directives) optarg values = sscanf directives after (values++[m]) := by
        simp [sscanf,taken]
      rw [AllFit,goes]
      constructor
      · intro all
        refine ⟨all m (sscanf_keeps (List.mem_append_right _ List.mem_cons_self)),fun other rest begins => ?_⟩
        cases taken.symm.trans (takeInt_begins begins)
        exact all
      · exact fun holds => holds.2 m after (takeInt_iff.mp taken)
    · have stays : (sscanf (.number :: .literal 120 :: directives) optarg values).2 = values++[m] := by
        cases rest with
        | nil => simp [sscanf,taken]
        | cons c after =>
          have other : c ≠ 120 := fun same => behind ⟨after,by rw [same]⟩
          simp only [sscanf,taken,if_neg other]
      rw [AllFit,stays,fits_more before]
      refine ⟨fun fits => ⟨fits,fun other rest begins => ?_⟩,And.left⟩
      cases taken.symm.trans (takeInt_begins begins)
      exact absurd ⟨rest,rfl⟩ behind
  · have refused : ∀ m rest, takeInt optarg ≠ .value m rest := fun m rest taken => some ⟨m,rest,taken⟩
    have stays : (sscanf (.number :: .literal 120 :: directives) optarg values).2 = values := by
      cases taken : takeInt optarg with
      | value m rest => exact absurd taken (refused m rest)
      | _ => simp [sscanf,taken]
    rw [AllFit,stays]
    refine ⟨fun _ => ⟨none_within refused,fun m rest begins => ?_⟩,fun _ => before⟩
    exact absurd (takeInt_begins begins) (refused m _)

theorem last_fits {directives : List Directive} {values : List Int} (before : ∀ n ∈ values, FitsInt n)
    (silent : ∀ text others, (sscanf directives text others).2 = others) :
    AllFit (.number :: directives) optarg values ↔ WithinInt optarg := by
  by_cases some : ∃ m rest, takeInt optarg = .value m rest
  · obtain ⟨m,rest,taken⟩ := some
    have goes : (sscanf (.number :: directives) optarg values).2 = values++[m] := by simp [sscanf,taken,silent]
    rw [value_within taken,AllFit,goes,fits_more before]
  · have refused : ∀ m rest, takeInt optarg ≠ .value m rest := fun m rest taken => some ⟨m,rest,taken⟩
    have stays : (sscanf (.number :: directives) optarg values).2 = values := by
      cases taken : takeInt optarg with
      | value m rest => exact absurd taken (refused m rest)
      | _ => simp [sscanf,taken]
    rw [AllFit,stays]
    exact ⟨fun _ => none_within refused,fun _ => before⟩

theorem answered_iff {α : Type} {fits failed short : Prop} [Decidable fits] [Decidable failed] [Decidable short] {a b c : α} :
    (if ¬ fits then none else if failed then some a else if short then some b else some c) ≠ none ↔ fits := by
  by_cases holds : fits
  · rw [if_neg (not_not_intro holds)]
    refine ⟨fun _ => holds,fun _ => ?_⟩
    split
    · exact Option.some_ne_none a
    · split
      · exact Option.some_ne_none b
      · exact Option.some_ne_none c
  · rw [if_pos holds]
    exact ⟨fun absent => absurd rfl absent,fun fits => absurd fits holds⟩

theorem parseInt_defined : parseInt optarg data ≠ none ↔ WithinInt optarg := by
  have none : ∀ n ∈ ([] : List Int), FitsInt n := fun n member => absurd member List.not_mem_nil
  rw [← @last_fits optarg [] [] none fun _ _ => rfl]
  exact answered_iff

theorem parseResolution_defined : parseResolution optarg resolution ≠ none ↔ AllWithinInt optarg := by
  have none : ∀ n ∈ ([] : List Int), FitsInt n := fun n member => absurd member List.not_mem_nil
  have fitting : AllFit [.number,.literal 120,.number,.literal 120,.number,.blanks] optarg [] ↔ AllWithinInt optarg := by
    rw [term_fits none]
    refine and_congr_right fun within => forall_congr' fun height => forall_congr' fun afterHeight => ?_
    refine imp_congr_right fun first => ?_
    have one : ∀ n ∈ [height], FitsInt n := (fits_more none).mpr (within height _ first)
    rw [List.nil_append,term_fits one]
    refine and_congr_right fun also => forall_congr' fun width => forall_congr' fun afterWidth => ?_
    refine imp_congr_right fun second => ?_
    exact last_fits ((fits_more one).mpr (also width _ second)) fun _ _ => rfl
  rw [← fitting]
  exact answered_iff

-- What the two functions take is the decimal text, to the character. A number
-- beyond int is where C leaves them undefined.
theorem parses_iff (optarg : List CChar) :
    (∀ data n, parseInt optarg data = some (0,n) ↔ ∃ rest, Begins optarg n.toInt rest) ∧
    (∀ data, (∀ m rest, ¬ Begins optarg m rest) → ∃ rc, rc < 0 ∧ parseInt optarg data = some (rc,data)) ∧
    (∀ data, parseInt optarg data ≠ none ↔ WithinInt optarg) ∧
    (∀ resolution found, parseResolution optarg resolution = some (0,found) ↔
      Reads optarg found.height.toInt found.width.toInt found.depth.toInt) ∧
    (∀ resolution, parseResolution optarg resolution ≠ none ↔ AllWithinInt optarg) := by
  refine ⟨fun _ _ => parseInt_accepts,fun data refused => ?_,fun _ => parseInt_defined,fun _ _ => parseResolution_accepts,
    fun _ => parseResolution_defined⟩
  exact parseInt_refused fun m rest taken => refused m rest (takeInt_iff.mp taken)

end

section
variable {signed : Bool} {num : CInt} {text rest : List CChar} {digits : List Nat} {str buf : Buffer} {size : Nat}

theorem stringIn_eq (string : IsString buf text) (fits : text.length < size) : stringIn buf size = text := by
  have front : (List.range text.length).map buf = text := by
    apply List.ext_getElem
    · simp
    · intro k _ inside
      rw [List.getElem_map,List.getElem_range]
      exact (string.cells k _ (List.getElem?_eq_getElem inside)).1
  have cut : List.range size = List.range text.length++(List.range (size-text.length)).map (text.length+·) := by
    rw [← List.range_add,Nat.add_sub_cancel' (Nat.le_of_lt fits)]
  have some : List.range (size-text.length) = 0 :: (List.range (size-text.length-1)).map (·+1) := by
    rw [← List.range_succ_eq_map,Nat.sub_add_cancel (Nat.sub_pos_of_lt fits)]
  have all : ∀ c ∈ text, decide (c ≠ 0) = true := by
    intro c member
    obtain ⟨k,inside,rfl⟩ := List.getElem_of_mem member
    exact decide_eq_true (string.cells k _ (List.getElem?_eq_getElem inside)).2
  rw [stringIn,cut,List.map_append,front,List.takeWhile_append_of_pos all,some]
  simp [string.ends]

theorem digit_isDigit {d : Nat} (below : d < 10) : isDigit (digit d) = true := by
  rw [isDigit_iff,digit_toNat below]
  omega

theorem textOf_spells (numeral : IsNumeral 10 num.toInt.natAbs digits) : Spells (textOf num digits) num.toInt := by
  have some : digits.map digit ≠ [] := fun none => numeral.nonempty (List.map_eq_nil_iff.mp none)
  have each : ∀ c ∈ digits.map digit, isDigit c = true := by
    intro c member
    obtain ⟨d,inside,rfl⟩ := List.mem_map.mp member
    exact digit_isDigit (numeral.each d inside)
  have value : spelled 10 ((digits.map digit).map fun c => c.toNat-48) = num.toInt.natAbs := by
    rw [digits_back numeral.each]
    exact numeral.value
  by_cases sign : num.toInt < 0
  · have spells := Spells.minus some each
    have below : -((num.toInt.natAbs : Nat) : Int) = num.toInt := by omega
    rw [value,below] at spells
    rw [textOf,if_pos sign]
    exact spells
  · have spells := Spells.plain some each
    have above : ((num.toInt.natAbs : Nat) : Int) = num.toInt := by omega
    rw [value,above] at spells
    rw [textOf,if_neg sign]
    exact spells

-- The string that Int2String leaves spells its number and fits twelve cells.
theorem printed_spells (defined : num ≠ BitVec.intMin 32) : Spells (stringIn (int2String signed num (fresh str)).str.cells 12) num.toInt := by
  have numeral : IsNumeral 10 num.toInt.natAbs (lowDigits 10 num.toInt.natAbs).reverse := lowDigits_numeral (by decide)
  have fits := natAbs_fits defined
  have writes : Writes (textOf num (lowDigits 10 num.toInt.natAbs).reverse) (int2String signed num (fresh str)) := by
    by_cases sign : num.toInt < 0
    · rw [textOf,if_pos sign]
      exact writes_neg defined sign (by omega) fits
    · rw [textOf,if_neg sign]
      exact writes_nonneg (by omega) fits
  rw [stringIn_eq writes.string writes.short]
  exact textOf_spells numeral

theorem spells_begins {n : Int} {blanks : List CChar} (blank : ∀ c ∈ blanks, isSpace c = true) (spells : Spells text n)
    (stops : Stops rest) : Begins (blanks++(text++rest)) n rest := ⟨blanks,text,rfl,blank,spells,stops⟩

theorem stops_x : Stops (120 :: rest) := by
  intro c first
  cases first
  decide

end

def printed (signed : Bool) (num : CInt) (str : Buffer) : List CChar := stringIn (int2String signed num (fresh str)).str.cells 12

-- Options made of the texts of Int2String are read back.
theorem reads_back (signed : Bool) (str : Buffer) (height width depth : CInt) (blanks rest : List CChar)
    (data : CInt) (resolution : AxidmaVideoFrame) (defined : height ≠ BitVec.intMin 32 ∧ width ≠ BitVec.intMin 32 ∧ depth ≠ BitVec.intMin 32)
    (blank : ∀ c ∈ blanks, isSpace c = true) (stops : Stops rest) :
    parseInt (blanks++(printed signed height str++rest)) data = some (0,height) ∧
      parseResolution (blanks++(printed signed height str++120 :: printed signed width str++120 :: printed signed depth str++rest))
        resolution = some (0,⟨height,width,depth⟩) := by
  obtain ⟨first,second,third⟩ := defined
  constructor
  · exact parseInt_accepts.mpr ⟨rest,spells_begins blank (printed_spells first) stops⟩
  · apply parseResolution_accepts.mpr
    refine ⟨printed signed width str++120 :: (printed signed depth str++rest),printed signed depth str++rest,rest,?_,?_,?_⟩
    · have behind : Stops (120 :: (printed signed width str++120 :: (printed signed depth str++rest))) := stops_x
      have spells : Spells (printed signed height str) height.toInt := printed_spells first
      simpa using spells_begins blank spells behind
    · exact ⟨[],_,rfl,fun c none => absurd none List.not_mem_nil,printed_spells second,stops_x⟩
    · exact ⟨[],_,rfl,fun c none => absurd none List.not_mem_nil,printed_spells third,stops⟩

theorem full_frame_read :
    parseInt ([32]++(printed true 1080 (fun _ => 0)++[])) 7 = some (0,1080) ∧
      parseResolution ([32]++(printed true 1080 (fun _ => 0)++120 :: printed true 1920 (fun _ => 0)++
        120 :: printed true 4 (fun _ => 0)++[])) ⟨-1,-1,-1⟩ = some (0,⟨1080,1920,4⟩) := by
  apply reads_back true (fun _ => 0) 1080 1920 4 [32] [] 7 ⟨-1,-1,-1⟩ (by decide) (by decide)
  exact fun c none => by cases none

end Axidma.ParsedNumbers
