import Elevation.Coverage.Index
import Elevation.Proofs.Grid.Name

/-!
How codes are spelled. A code and the name of its cell are the same text, except that a name has the
digits of ASCII and that zero degrees are north and east in it; and every name of a cell on the globe
is a code of that cell.
-/

namespace Elevation

namespace Decimal

theorem padded_succ {places : Nat} (some : 0 < places) (n : Nat) :
    padded (places + 1) n = padded places (n / 10) ++ [Nat.digitChar (n % 10)] := by
  simp only [padded, digitChars]
  rw [Nat.toDigits_eq_if (by decide : 1 < 10)]
  by_cases small : n < 10
  · have zeros : List.replicate places '0' = List.replicate (places - 1) '0' ++ ['0'] := by
      rw [← List.replicate_succ', Nat.sub_add_cancel some]
    rw [if_pos small, Nat.div_eq_of_lt small, Nat.toDigits_zero, Nat.mod_eq_of_lt small]
    simp [zeros]
  · rw [if_neg small, List.length_append, List.length_singleton, Nat.add_sub_add_right,
      ← List.append_assoc]

theorem padded_ofDigits {digits : List Nat} (some : digits ≠ []) (small : ∀ digit ∈ digits, digit < 10) :
    padded digits.length (Text.ofDigits digits) = digits.map Nat.digitChar := by
  induction digits using List.reverseRecOn with
  | nil => exact absurd rfl some
  | append_singleton front digit ih =>
    have last : digit < 10 := small digit (by simp)
    by_cases only : front = []
    · subst only
      have value : Text.ofDigits ([] ++ [digit]) = digit := by simp [Text.ofDigits, Text.ofDigitsFrom]
      rw [value]
      simp [padded, digitChars, Nat.toDigits_of_lt_base last]
    · have value : Text.ofDigits (front ++ [digit]) = 10 * Text.ofDigits front + digit := by
        simp [Text.ofDigits, Text.ofDigitsFrom]
      have rest := ih only fun digit present => small digit (List.mem_append_left _ present)
      have tenth : (10 * Text.ofDigits front + digit) / 10 = Text.ofDigits front := by omega
      have unit : (10 * Text.ofDigits front + digit) % 10 = digit := by omega
      rw [value, List.length_append, List.length_singleton,
        padded_succ (List.length_pos_iff.mpr only), tenth, unit, rest, List.map_append]
      rfl

theorem exists_ofDigits {places n : Nat} (fits : n < 10 ^ places) :
    ∃ digits : List Nat, digits.length = places ∧ (∀ digit ∈ digits, digit < 10) ∧
      Text.ofDigits digits = n := by
  induction places generalizing n with
  | zero => exact ⟨[], rfl, by simp, by simp at fits; simp [fits, Text.ofDigits, Text.ofDigitsFrom]⟩
  | succ places ih =>
    rw [Nat.pow_succ] at fits
    obtain ⟨front, length, small, value⟩ := ih (by omega : n / 10 < 10 ^ places)
    refine ⟨front ++ [n % 10], by simp [length], ?_, ?_⟩
    · intro digit present
      rcases List.mem_append.mp present with old | new
      · exact small digit old
      · rw [List.mem_singleton.mp new]
        omega
    · have tail : Text.ofDigits (front ++ [n % 10]) = 10 * Text.ofDigits front + n % 10 := by
        simp [Text.ofDigits, Text.ofDigitsFrom]
      rw [tail, value]
      omega

end Decimal

namespace Text

variable {c : Char} {digit : Nat}

theorem digitValue?_lt (read : digitValue? c = some digit) : digit < 10 := by
  obtain ⟨origin, found, rfl⟩ := Option.map_eq_some_iff.mp read
  have run := List.find?_some found
  simp only [Bool.and_eq_true, decide_eq_true_eq] at run
  omega

theorem digitValue?_digitChar (small : digit < 10) : digitValue? (Nat.digitChar digit) = some digit := by
  revert digit
  decide

/-- A digit as ASCII has it. -/
def asciiDigit (c : Char) : Char := Nat.digitChar ((digitValue? c).getD 0)

theorem asciiDigit_of_read (read : digitValue? c = some digit) : asciiDigit c = Nat.digitChar digit := by
  rw [asciiDigit, read]
  rfl

theorem asciiDigit_eq_self_iff (read : digitValue? c = some digit) : asciiDigit c = c ↔ c.toNat < 128 := by
  have small := digitValue?_lt read
  have code : (Nat.digitChar digit).toNat = 48 + digit := Nat.toNat_digitChar_of_lt_ten small
  rw [asciiDigit_of_read read]
  constructor
  · intro same
    rw [← same, code]
    omega
  · intro low
    obtain ⟨origin, found, rfl⟩ := Option.map_eq_some_iff.mp read
    have run := List.find?_some found
    simp only [Bool.and_eq_true, decide_eq_true_eq] at run
    have first : ∀ origin ∈ zeroDigits, origin < 128 → origin = 48 := by decide
    have zero := first origin (List.mem_of_find?_eq_some found) (by omega)
    apply Char.toNat_inj.mp
    omega

end Text

namespace Coverage

open Elevation.Text

/-! ### Parts of a code -/

/-- A hemisphere letter and digits as names have them: zero degrees are under the positive letter. -/
def normalPart (positive : Char) : List Char → List Char
  | [] => []
  | letter :: digits =>
    let plain := digits.map asciiDigit
    (if ∀ c ∈ plain, c = '0' then positive else letter) :: plain

def normal (code : List Char) : List Char :=
  normalPart 'N' (code.take 3) ++ normalPart 'E' (code.drop 3)

/-- A code that is in the form of names: it is written in ASCII and gives zero degrees no sign. -/
def IsNormal (code : List Char) : Prop :=
  (∀ c ∈ code, c.toNat < 128) ∧ code.take 3 ≠ ['S', '0', '0'] ∧ code.drop 3 ≠ ['W', '0', '0', '0']

variable {positive negative : Char} {sign : Bool} {text rest rest' : List Char} {count : Nat}
  {digits : List Nat}

theorem takeSign?_eq_some (taken : takeSign? positive negative text = some (sign, rest)) :
    text = (if sign then negative else positive) :: rest := by
  cases text with
  | nil => cases taken
  | cons c text =>
    rw [takeSign?] at taken
    split_ifs at taken with first second
    · cases taken
      rw [first]
      rfl
    · cases taken
      rw [second]
      rfl

theorem takeDigits?_eq_some (taken : takeDigits? count text = some (digits, rest)) :
    ∃ front, text = front ++ rest ∧ front.length = count ∧ front.map digitValue? = digits.map some := by
  induction count generalizing text digits with
  | zero =>
    cases taken
    exact ⟨[], rfl, rfl, rfl⟩
  | succ count ih =>
    cases text with
    | nil => cases taken
    | cons c text =>
      rw [takeDigits?] at taken
      split at taken
      next digit more rest' read left =>
        cases taken
        obtain ⟨front, rfl, length, values⟩ := ih left
        exact ⟨c :: front, rfl, by rw [List.length_cons, length], by rw [List.map_cons, read, values]; rfl⟩
      next => cases taken

theorem takeDigits?_append (front rest : List Char) (values : front.map digitValue? = digits.map some) :
    takeDigits? front.length (front ++ rest) = some (digits, rest) := by
  induction front generalizing digits with
  | nil =>
    cases digits with
    | nil => rfl
    | cons digit digits => cases values
  | cons c front ih =>
    cases digits with
    | nil => cases values
    | cons digit digits =>
      obtain ⟨read, values⟩ := List.cons.inj values
      rw [List.length_cons, List.cons_append, takeDigits?, read, ih values]

def partOf (positive negative : Char) (places : Nat) (n : Int) : List Char :=
  (if 0 ≤ n then positive else negative) :: Cell.degrees places n

theorem nameChars_eq (cell : Cell) :
    cell.nameChars = partOf 'N' 'S' 2 cell.lat ++ partOf 'E' 'W' 3 cell.lon := rfl

theorem forall_small {front : List Char} (values : front.map digitValue? = digits.map some) :
    ∀ digit ∈ digits, digit < 10 := by
  intro digit present
  have listed : some digit ∈ front.map digitValue? := values ▸ List.mem_map_of_mem present
  obtain ⟨c, -, read⟩ := List.mem_map.mp listed
  exact digitValue?_lt read

theorem map_asciiDigit {front : List Char} (values : front.map digitValue? = digits.map some) :
    front.map asciiDigit = digits.map Nat.digitChar := by
  have own := congrArg (List.map fun value : Option Nat => Nat.digitChar (value.getD 0)) values
  rw [List.map_map, List.map_map] at own
  exact own

theorem ofDigits_eq_zero_iff : ofDigits digits = 0 ↔ ∀ digit ∈ digits, digit = 0 := by
  induction digits using List.reverseRecOn with
  | nil => simp [ofDigits, ofDigitsFrom]
  | append_singleton front digit ih =>
    have value : ofDigits (front ++ [digit]) = 10 * ofDigits front + digit := by
      simp [ofDigits, ofDigitsFrom]
    rw [value, Nat.add_eq_zero_iff, Nat.mul_eq_zero, ih]
    simp [or_imp, forall_and]

theorem forall_zero_iff (small : ∀ digit ∈ digits, digit < 10) :
    (∀ c ∈ digits.map Nat.digitChar, c = '0') ↔ ofDigits digits = 0 := by
  rw [ofDigits_eq_zero_iff, List.forall_mem_map]
  refine forall₂_congr fun digit present => ?_
  have := small digit present
  rw [Nat.digitChar_eq_zero]

theorem normalPart_of_values {front : List Char} (letter : Char)
    (values : front.map digitValue? = digits.map some) :
    normalPart positive (letter :: front) =
      (if ofDigits digits = 0 then positive else letter) :: digits.map Nat.digitChar := by
  simp only [normalPart, map_asciiDigit values, forall_zero_iff (forall_small values)]

theorem partOf_signed {front : List Char} (whole : front ≠ [])
    (values : front.map digitValue? = digits.map some) :
    partOf positive negative front.length (Decimal.signed sign (ofDigits digits)) =
      normalPart positive ((if sign then negative else positive) :: front) := by
  have length : digits.length = front.length := by
    simpa using (congrArg List.length values).symm
  have proper : digits ≠ [] := by
    rintro rfl
    exact whole (List.length_eq_zero_iff.mp length.symm)
  have size : (Decimal.signed sign (ofDigits digits)).natAbs = ofDigits digits := by
    unfold Decimal.signed
    split_ifs <;> simp
  have letter : (if 0 ≤ Decimal.signed sign (ofDigits digits) then positive else negative) =
      if ofDigits digits = 0 then positive else if sign then negative else positive := by
    unfold Decimal.signed
    split_ifs <;> first | rfl | omega
  rw [normalPart_of_values _ values, partOf, Cell.degrees, size, letter, ← length,
    Decimal.padded_ofDigits proper (forall_small values)]

theorem normalPart_eq_self_iff {front : List Char} (letters : positive ≠ negative)
    (ascii : positive.toNat < 128 ∧ negative.toNat < 128)
    (values : front.map digitValue? = digits.map some) :
    normalPart positive ((if sign then negative else positive) :: front) =
        (if sign then negative else positive) :: front ↔
      (∀ c ∈ (if sign then negative else positive) :: front, c.toNat < 128) ∧
        (if sign then negative else positive) :: front ≠ negative :: List.replicate front.length '0' := by
  have plain : front.map asciiDigit = front ↔ ∀ c ∈ front, c.toNat < 128 := by
    conv_lhs => rhs; rw [← List.map_id front]
    rw [List.map_inj_left]
    refine forall₂_congr fun c present => ?_
    have listed : digitValue? c ∈ digits.map some := values ▸ List.mem_map_of_mem present
    obtain ⟨digit, -, read⟩ := List.mem_map.mp listed
    exact asciiDigit_eq_self_iff read.symm
  have letter : (if sign then negative else positive).toNat < 128 := by
    split_ifs
    exacts [ascii.2, ascii.1]
  rw [normalPart_of_values _ values, List.cons.injEq, ← map_asciiDigit values, and_comm, plain,
    List.forall_mem_cons, and_iff_right letter]
  refine and_congr_right fun low => ?_
  have zero : ofDigits digits = 0 ↔ front = List.replicate front.length '0' := by
    rw [← forall_zero_iff (forall_small values), ← map_asciiDigit values, plain.mpr low,
      List.eq_replicate_iff, and_iff_right rfl]
  rw [Ne, List.cons.injEq, ← zero]
  cases sign <;> simp [letters]

/-! ### Whole codes -/

/-- A code and the cell that it stands for: a letter with two digits, a letter with three. -/
inductive Spells : List Char → Cell → Prop
  | code (south west : Bool) (lat lon : List Char) (row column : List Nat) (two : lat.length = 2)
    (three : lon.length = 3) (rows : lat.map digitValue? = row.map some)
    (columns : lon.map digitValue? = column.map some) :
    Spells (((if south then 'S' else 'N') :: lat) ++ (if west then 'W' else 'E') :: lon)
      ⟨Decimal.signed south (ofDigits row), Decimal.signed west (ofDigits column)⟩

variable {code : List Char} {cell : Cell}

theorem corner?_eq_some_iff :
    corner? text = some cell ↔ ∃ code rest, text = code ++ rest ∧ Spells code cell := by
  constructor
  · intro read
    unfold corner? at read
    split at read
    next => cases read
    next south back first =>
    split at read
    next => cases read
    next row middle second =>
    split at read
    next => cases read
    next west front third =>
    split at read
    next => cases read
    next column rest fourth =>
    cases read
    obtain ⟨lat, rfl, two, rows⟩ := takeDigits?_eq_some second
    obtain ⟨lon, rfl, three, columns⟩ := takeDigits?_eq_some fourth
    have whole := takeSign?_eq_some first
    rw [takeSign?_eq_some third] at whole
    exact ⟨_, rest, by rw [whole]; simp, .code south west lat lon row column two three rows columns⟩
  · rintro ⟨_, rest, rfl, ⟨south, west, lat, lon, row, column, two, three, rows, columns⟩⟩
    have second := takeDigits?_append lat ((if west then 'W' else 'E') :: (lon ++ rest)) rows
    have fourth := takeDigits?_append lon rest columns
    rw [two] at second
    rw [three] at fourth
    have first : takeSign? 'N' 'S' ((if south then 'S' else 'N') ::
        (lat ++ (if west then 'W' else 'E') :: (lon ++ rest))) =
          some (south, lat ++ (if west then 'W' else 'E') :: (lon ++ rest)) := by
      cases south <;> rfl
    have third : takeSign? 'E' 'W' ((if west then 'W' else 'E') :: (lon ++ rest)) =
        some (west, lon ++ rest) := by
      cases west <;> rfl
    simp only [List.cons_append, List.append_assoc]
    unfold corner?
    simp only [first, second, third, fourth]

theorem Spells.length (spells : Spells code cell) : code.length = 7 := by
  obtain ⟨south, west, lat, lon, row, column, two, three, -, -⟩ := spells
  simp [two, three]

theorem take_append_drop_three {letter letter' : Char} {lat lon : List Char} (two : lat.length = 2) :
    (letter :: lat ++ letter' :: lon).take 3 = letter :: lat ∧
      (letter :: lat ++ letter' :: lon).drop 3 = letter' :: lon :=
  ⟨List.take_left' (by simp [two]), List.drop_left' (by simp [two])⟩

/-- The name of a cell is each of its codes in normal form. -/
theorem Spells.normal_eq (spells : Spells code cell) : normal code = cell.nameChars := by
  obtain ⟨south, west, lat, lon, row, column, two, three, rows, columns⟩ := spells
  obtain ⟨front, back⟩ := @take_append_drop_three (if south then 'S' else 'N') (if west then 'W' else 'E')
    lat lon two
  rw [normal, front, back, nameChars_eq, ← partOf_signed (by rintro rfl; cases two) rows,
    ← partOf_signed (by rintro rfl; cases three) columns, two, three]

theorem length_normalPart (positive : Char) (part : List Char) :
    (normalPart positive part).length = part.length := by
  cases part <;> simp [normalPart]

theorem normal_eq_self_iff (code : List Char) : normal code = code ↔
    normalPart 'N' (code.take 3) = code.take 3 ∧ normalPart 'E' (code.drop 3) = code.drop 3 := by
  conv_lhs => rhs; rw [← List.take_append_drop 3 code]
  constructor
  · exact fun same => List.append_inj same (length_normalPart _ _)
  · rintro ⟨front, back⟩
    rw [normal, front, back]

theorem Spells.normal_eq_self_iff (spells : Spells code cell) : normal code = code ↔ IsNormal code := by
  obtain ⟨south, west, lat, lon, row, column, two, three, rows, columns⟩ := spells
  obtain ⟨front, back⟩ := @take_append_drop_three (if south then 'S' else 'N') (if west then 'W' else 'E')
    lat lon two
  have first := @normalPart_eq_self_iff 'N' 'S' south row lat (by decide) (by decide) rows
  have second := @normalPart_eq_self_iff 'E' 'W' west column lon (by decide) (by decide) columns
  rw [two] at first
  rw [three] at second
  rw [Coverage.normal_eq_self_iff, IsNormal, front, back, first, second, List.forall_mem_append]
  exact and_and_and_comm

theorem exists_digits_of_partOf (positive negative : Char) {places : Nat} {n : Int}
    (fits : n.natAbs < 10 ^ places) (more : 0 < places) : ∃ digits front, front.length = places ∧
      front.map digitValue? = digits.map some ∧
      Decimal.signed (decide (n < 0)) (ofDigits digits) = n ∧
      partOf positive negative places n = (if decide (n < 0) then negative else positive) :: front := by
  obtain ⟨digits, length, small, value⟩ := Decimal.exists_ofDigits fits
  have proper : digits ≠ [] := by
    rintro rfl
    exact absurd length more.ne
  refine ⟨digits, digits.map Nat.digitChar, by rw [List.length_map, length], ?_, ?_, ?_⟩
  · rw [List.map_map]
    exact List.map_congr_left fun digit present => digitValue?_digitChar (small digit present)
  · rw [value, Decimal.signed]
    split_ifs with below <;> simp at below <;> omega
  · have written := Decimal.padded_ofDigits proper small
    rw [length, value] at written
    rw [partOf, Cell.degrees, written]
    by_cases below : n < 0
    · simp [below]
    · simp [below, not_lt.mp below]

theorem spells_nameChars (inside : onGlobe cell = true) : Spells cell.nameChars cell := by
  simp only [onGlobe, Bool.and_eq_true, decide_eq_true_eq] at inside
  obtain ⟨row, lat, two, rows, height, first⟩ :=
    @exists_digits_of_partOf 'N' 'S' 2 cell.lat (by omega) (by decide)
  obtain ⟨column, lon, three, columns, width, second⟩ :=
    @exists_digits_of_partOf 'E' 'W' 3 cell.lon (by omega) (by decide)
  have spelled := Spells.code (decide (cell.lat < 0)) (decide (cell.lon < 0)) lat lon row column two three
    rows columns
  rwa [height, width, ← first, ← second] at spelled

/-! ### Lines -/

/-- A line is a code of a cell on the globe if it begins with one, blanks aside. -/
theorem parseCode_eq_ok_iff {source : String} {line : List Char} :
    parseCode source line = .ok cell ↔
      ∃ code rest, trim line = code ++ rest ∧ Spells code cell ∧ onGlobe cell = true := by
  have read : parseCode source line = .ok cell ↔
      corner? (trim line) = some cell ∧ onGlobe cell = true := by
    unfold parseCode
    cases corner? (trim line) with
    | none => simp
    | some other =>
      by_cases inside : onGlobe other = true
      · simp only [if_pos inside, Except.ok.injEq, Option.some.injEq]
        exact ⟨fun same => ⟨same, same ▸ inside⟩, And.left⟩
      · simp only [if_neg inside, Option.some.injEq, reduceCtorEq, false_iff, not_and]
        rintro rfl
        exact inside
  rw [read, corner?_eq_some_iff]
  constructor
  · rintro ⟨⟨code, rest, split, spells⟩, inside⟩
    exact ⟨code, rest, split, spells, inside⟩
  · rintro ⟨code, rest, split, spells, inside⟩
    exact ⟨⟨code, rest, split, spells⟩, inside⟩

theorem trim_of_allBlank {line : List Char} (blank : allBlank line = true) : trim line = [] := by
  have gone : trimLeft isBlank line = [] :=
    List.dropWhile_eq_nil_iff.mpr (List.all_eq_true.mp blank)
  rw [trim, trimBy, gone]
  rfl

theorem allBlank_of_codes {source : String} {line : List Char} (parsed : parseCode source line = .ok cell) :
    allBlank line = false := by
  obtain ⟨code, rest, split, spells, -⟩ := parseCode_eq_ok_iff.mp parsed
  rw [← Bool.not_eq_true]
  intro blank
  rw [trim_of_allBlank blank] at split
  have length := spells.length
  rw [(List.append_eq_nil_iff.mp split.symm).1] at length
  cases length

theorem isBlank_of_mem_nameChars {c : Char} (present : c ∈ cell.nameChars) : isBlank c = false := by
  have digit {places : Nat} {n : Int} (present : c ∈ Cell.degrees places n) : isBlank c = false := by
    have shown := Decimal.isDigit_of_mem_padded present
    simp only [Char.isDigit, Bool.and_eq_true, decide_eq_true_eq] at shown
    have low : 48 ≤ c.toNat := UInt32.le_iff_toNat_le.mp shown.1
    have high : c.toNat ≤ 57 := UInt32.le_iff_toNat_le.mp shown.2
    simp only [isBlank, Bool.or_eq_false_iff, Bool.and_eq_false_iff, decide_eq_false_iff_not, beq_eq_false_iff_ne]
    omega
  rw [Cell.nameChars, List.cons_append, List.mem_cons, List.mem_append, List.mem_cons] at present
  rcases present with rfl | lat | rfl | lon
  · split_ifs <;> rfl
  · exact digit lat
  · split_ifs <;> rfl
  · exact digit lon

theorem trimLeft_name (cell : Cell) (rest : List Char) :
    trimLeft isBlank (cell.nameChars ++ rest) = cell.nameChars ++ rest := by
  apply List.dropWhile_eq_self_iff.mpr
  intro some
  rw [List.getElem_append_left (by simp [Cell.nameChars]), Bool.not_eq_true]
  exact isBlank_of_mem_nameChars (List.getElem_mem _)

theorem trimLeft_reverse_name (cell : Cell) :
    trimLeft isBlank cell.nameChars.reverse = cell.nameChars.reverse := by
  apply List.dropWhile_eq_self_iff.mpr
  intro some
  rw [Bool.not_eq_true]
  exact isBlank_of_mem_nameChars (List.mem_reverse.mp (List.getElem_mem some))

theorem exists_trim_name {pad : List Char} (blank : ∀ c ∈ pad, isBlank c = true) (cell : Cell)
    (rest : List Char) : ∃ rest', trim (pad ++ cell.nameChars ++ rest) = cell.nameChars ++ rest' := by
  have front : trimLeft isBlank (pad ++ cell.nameChars ++ rest) = cell.nameChars ++ rest := by
    rw [trimLeft, List.append_assoc, List.dropWhile_append_of_pos blank]
    exact trimLeft_name cell rest
  rw [trim, trimBy, front, List.reverse_append, trimLeft, List.dropWhile_append]
  by_cases gone : (rest.reverse.dropWhile isBlank).isEmpty = true
  · refine ⟨[], ?_⟩
    rw [if_pos gone]
    exact (congrArg List.reverse (trimLeft_reverse_name cell)).trans (by simp)
  · refine ⟨(rest.reverse.dropWhile isBlank).reverse, ?_⟩
    rw [if_neg gone]
    simp

theorem parseCode_name {pad : List Char} (blank : ∀ c ∈ pad, isBlank c = true)
    (inside : onGlobe cell = true) (source : String) (rest : List Char) :
    parseCode source (pad ++ cell.nameChars ++ rest) = .ok cell := by
  obtain ⟨rest', split⟩ := exists_trim_name blank cell rest
  exact parseCode_eq_ok_iff.mpr ⟨cell.nameChars, rest', split, spells_nameChars inside, inside⟩

end Coverage

end Elevation
