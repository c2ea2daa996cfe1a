import Warehouse.Catalog.Exasol.ColumnType
import Warehouse.Proofs.Datatype.Length
import Warehouse.Proofs.Text.Numeral
import Warehouse.Proofs.Text.Separation
import Warehouse.Proofs.Text.Spelling

/-! # Column types written as one text

Exasol writes the name of a type, its length in parentheses and a character set as one
text. Whatever type is written and however it is spelled, the type and its length are read
(`Exasol.WrittenType.ofText_of_writes`). The name is the shortest beginning behind which
only a parameter and a character set follow; it is not cut short inside of a name, because
no word but the first of any type name begins like a character set
(`Exasol.splitName?_append`). -/

namespace Warehouse

open Text

/-! ## Plain lengths -/

/-- The length is MAX or is written with ASCII digits. What more a length has to be is in its
type: one number, or two with a comma between them. -/
def Length.IsPlain (length : Length) : Prop :=
  length.text = "MAX" ∨ ∀ c ∈ length.text.toList, c.isDigit = true ∨ c = ','

instance (length : Length) : Decidable length.IsPlain :=
  decidable_of_iff
    (length.text = "MAX" ∨ length.text.toList.all (fun c => c.isDigit || c = ',') = true)
    (by simp [Length.IsPlain])

theorem Length.IsPlain.char {length : Length} (plain : length.IsPlain) {c : Char}
    (member : c ∈ length.text.toList) :
    c.toNat < 128 ∧ isBlank c = false := by
  have all : ∀ c : Char, c.toNat < 128 → (c ∈ "MAX".toList ∨ c.isDigit = true ∨ c = ',') →
      isBlank c = false := by
    apply forall_ascii
    decide
  have known : c ∈ "MAX".toList ∨ c.isDigit = true ∨ c = ',' := by
    rcases plain with word | numerals
    · exact .inl (word ▸ member)
    · exact .inr (numerals c member)
  have ascii : c.toNat < 128 := by
    rcases known with letter | digit | rfl
    · have letters : "MAX".toList.all (·.toNat < 128) = true := by decide
      exact of_decide_eq_true (List.all_eq_true.mp letters c letter)
    · exact toNat_lt_of_isDigit digit
    · decide
  exact ⟨ascii, all c ascii known⟩

theorem Length.IsPlain.isSingleSpaced {length : Length} (plain : length.IsPlain) :
    Text.isSingleSpaced false length.text.toList = true :=
  isSingleSpaced_of_solid fun _ member => plain.char member

namespace Catalog.Exasol

/-! ## Reading a written type -/

/-- Neither a parameter nor a character set begins within the characters, whatever stands
behind them: each word but the first begins with another letter. -/
def staysInName : List Char → Bool
  | [] => true
  | c :: rest =>
      isTypeChar c && (c ≠ ' ' || rest.head?.any fun next =>
        next.isUpper && next ≠ 'U' && next ≠ 'A') && staysInName rest

/-- The characters begin with a capital and stay in a name behind it. -/
def isTypeName : List Char → Bool
  | [] => false
  | c :: rest => c.isUpper && staysInName rest

theorem isTypeName_of_mem_typeNames {type : String}
    (known : type ∈ Dialect.exasol.typeNames) : isTypeName type.toList = true := by
  revert type
  decide

theorem parameter?_of_staysInName {c : Char} {name : List Char}
    (stays : staysInName (c :: name) = true) (rest : List Char) :
    parameter? (c :: name ++ rest) = none := by
  simp only [staysInName, Bool.and_eq_true, Bool.or_eq_true, decide_eq_true_eq] at stays
  obtain ⟨⟨known, single⟩, -⟩ := stays
  by_cases space : c = ' '
  · rcases name with _ | ⟨next, name⟩
    · simp [space] at single
    · have others : next.isUpper = true ∧ next ≠ 'U' ∧ next ≠ 'A' := by
        simpa [space, and_assoc] using single
      have solid : next ≠ ' ' := by
        rintro rfl
        cases others.1
      have opening : next ≠ '(' := by
        rintro rfl
        cases others.1
      simp [parameter?, isCharacterSet, space, solid, opening, others.2]
  · have opening : c ≠ '(' := by
      rintro rfl
      cases known
    simp [parameter?, isCharacterSet, space, opening]

theorem splitName?_append {name rest : List Char} {parameter : Option (List Char)}
    (stays : staysInName name = true) (follows : parameter? rest = some parameter) :
    splitName? (name ++ rest) = some (name, parameter) := by
  induction name with
  | nil =>
      rw [List.nil_append, splitName?.eq_def, follows]
  | cons c name ih =>
      have none := parameter?_of_staysInName stays rest
      simp only [staysInName, Bool.and_eq_true] at stays
      rw [List.cons_append] at none ⊢
      rw [splitName?.eq_def, none]
      simp [stays.1.1, ih stays.2]

theorem splitType?_append {name rest : List Char} {parameter : Option (List Char)}
    (known : isTypeName name = true) (follows : parameter? rest = some parameter) :
    splitType? (name ++ rest) = some (name, parameter) := by
  cases name with
  | nil => cases known
  | cons c name =>
      rw [isTypeName, Bool.and_eq_true] at known
      rw [List.cons_append, splitType?, if_pos known.1, splitName?_append known.2 follows]
      rfl

/-- The character sets that may be written behind a type, each with its space. -/
def characterSetSuffixes : List String := ["", " UTF8", " ASCII"]

theorem parameter?_suffix {suffix : String} (known : suffix ∈ characterSetSuffixes) :
    parameter? suffix.toList = some none := by
  revert suffix
  decide

theorem parameter?_parenthesised {gap suffix : String} (spaces : gap ∈ ["", " "])
    (known : suffix ∈ characterSetSuffixes) {inside : List Char} (closed : ')' ∉ inside) :
    parameter? (gap.toList ++ '(' :: (inside ++ ')' :: suffix.toList)) = some (some inside) := by
  obtain ⟨taken, left⟩ := takeWhile_append_mark closed suffix.toList
  have sets : ∀ suffix ∈ characterSetSuffixes,
      (suffix.toList.isEmpty || isCharacterSet suffix.toList) = true := by decide
  have behind := sets suffix known
  have opened : (gap.toList ++ '(' :: (inside ++ ')' :: suffix.toList)).dropWhile (· = ' ') =
      '(' :: (inside ++ ')' :: suffix.toList) := by
    simp only [List.mem_cons, List.not_mem_nil, or_false] at spaces
    rcases spaces with rfl | rfl <;> simp
  simp only [parameter?, opened, left, behind, ↓reduceIte, taken]

theorem lengthOfParameter_plain (length : Length) :
    lengthOfParameter length.text.toList = .ok length.text := by
  have other : ∀ unit : List Char, ' ' ∈ unit → length.text.toList.dropWhile isDigit ≠ unit := by
    rintro _ space rfl
    exact length.space_not_mem_text ((List.dropWhile_suffix _).subset space)
  have bytes := other " BYTE".toList (by decide)
  have bits := other " BIT".toList (by decide)
  have same : String.ofList length.text.toList = length.text := String.ofList_toList
  simp only [lengthOfParameter, bytes, bits, ↓reduceIte, same]
  split <;> rfl

/-- In front of a unit with a space the digits of a numeral are all the digits. -/
theorem splitDigits {digits unit : List Char} {size : Nat} (numeral : natural? digits = some size)
    (space : unit.head? = some ' ') :
    (digits ++ unit).takeWhile isDigit = digits ∧ (digits ++ unit).dropWhile isDigit = unit := by
  refine takeWhile_append_of_head (isDigit_of_natural? numeral) ?_
  rw [space]
  rintro _ ⟨⟩
  decide

/-- A size becomes a number of bytes unless it has too many digits. -/
theorem asText_sizeOfDigits {digits : List Char} {size bytes : Nat}
    (numeral : natural? digits = some size) {change : Int → Int}
    (changed : change size = bytes) (fewer : bytes ≤ size) :
    (do (Value.number (change (← sizeOfDigits digits))).asText) =
      if digits.length ≤ integerDigitLimit then .ok (toString bytes) else .error .notInteger := by
  rw [sizeOfDigits, integer?_of_natural? numeral]
  by_cases short : digits.length ≤ integerDigitLimit
  · have small := lt_leastOverlong_of_natural? numeral short
    have written : (Value.number bytes).asText = .ok (toString bytes) :=
      Value.asText_number (fewer.trans_lt small)
    simp only [if_pos short, bind, Except.bind, changed, written]
  · simp only [if_neg short]
    rfl

theorem lengthOfParameter_sized {digits unit : List Char} {size : Nat}
    (numeral : natural? digits = some size) (space : unit.head? = some ' ') :
    lengthOfParameter (digits ++ unit) =
      if unit = " BYTE".toList then
        if digits.length ≤ integerDigitLimit then .ok (toString size) else .error .notInteger
      else if unit = " BIT".toList then
        if digits.length ≤ integerDigitLimit then .ok (toString (size / 8))
        else .error .notInteger
      else .ok (String.ofList (digits ++ unit)) := by
  obtain ⟨taken, left⟩ := splitDigits numeral space
  have present := List.isEmpty_eq_false_iff.mpr (exists_values_of_natural? numeral).1
  have whole := @asText_sizeOfDigits _ _ _ numeral id rfl le_rfl
  have eighth : Int.fdiv (size : Int) 8 = (size / 8 : Nat) := by
    rw [Int.fdiv_eq_ediv_of_nonneg _ (by decide)]
    omega
  have bits := @asText_sizeOfDigits _ _ _ numeral (Int.fdiv · 8) eighth (Nat.div_le_self _ _)
  simp only [lengthOfParameter, taken, left, present, Bool.false_eq_true, ↓reduceIte]
  split
  · exact whole
  · split
    · exact bits
    · rfl

theorem lengthOfParameter_bytes {size : Nat} {length : String}
    (numeral : ofInteger? size = some length) :
    lengthOfParameter (toString size ++ " BYTE").toList = .ok length := by
  obtain ⟨short, rfl⟩ := ofInteger?_natCast_eq_some_iff.mp numeral
  rw [String.toList_append, lengthOfParameter_sized (natural?_toString size) (by decide),
    if_pos rfl, if_pos (length_toString_le_iff.mpr short)]

theorem lengthOfParameter_bits {size : Nat} {length : String}
    (numeral : ofInteger? size = some length) (short : 8 * size < leastOverlong) :
    lengthOfParameter (toString (8 * size) ++ " BIT").toList = .ok length := by
  obtain ⟨-, rfl⟩ := ofInteger?_natCast_eq_some_iff.mp numeral
  have other : " BIT".toList ≠ " BYTE".toList := by decide
  rw [String.toList_append, lengthOfParameter_sized (natural?_toString _) (by decide),
    if_neg other, if_pos rfl, if_pos (length_toString_le_iff.mpr short),
    Nat.mul_div_cancel_left _ (by decide)]

/-- The units of sizes, each with the space in front of it. -/
def sizeUnits : List String := [" BYTE", " BIT"]

theorem closed_sized (size : Nat) {unit : String} (known : unit ∈ sizeUnits) :
    ')' ∉ (toString size ++ unit).toList := by
  have units : ∀ unit ∈ sizeUnits, ')' ∉ unit.toList := by decide
  intro member
  rcases List.mem_append.mp (String.toList_append ▸ member) with digit | behind
  · cases isDigit_of_mem_numeral _ digit
  · exact units unit known behind

theorem isSingleSpaced_sized (size : Nat) {unit : String} (known : unit ∈ sizeUnits) :
    Text.isSingleSpaced false (toString size ++ unit).toList = true := by
  have units : ∀ unit ∈ sizeUnits, Text.isSingleSpaced false unit.toList = true := by
    decide
  have digits : Text.isSingleSpaced false (toString size).toList = true := by
    apply isSingleSpaced_of_solid
    intro c member
    exact ⟨toNat_lt_of_isDigit (isDigit_of_mem_numeral c member),
      (@plain_of_mem_toString size c member).1⟩
  rw [String.toList_append, isSingleSpaced_append digits]
  exact units unit known

/-! ## Written types -/

/-- A parameter tells the length that goes with a type: for a hash its size in bytes or in
bits, in numerals that are not too long, else the length itself. -/
inductive TellsLength (type : String) : String → Length → Prop where
  | plain {length : Length} (other : type ≠ "HASHTYPE") (plain : length.IsPlain) :
      TellsLength type length.text length
  | bytes {length : Length} {size : Nat} (hash : type = "HASHTYPE")
      (numeral : ofInteger? size = some length.text) :
      TellsLength type (toString size ++ " BYTE") length
  | bits {length : Length} {size : Nat} (hash : type = "HASHTYPE")
      (numeral : ofInteger? size = some length.text) (short : 8 * size < leastOverlong) :
      TellsLength type (toString (8 * size) ++ " BIT") length

/-- The normal text of a type: its name, its length in parentheses, with or without a space in
front of them, and a character set or none. -/
inductive Writes (type : String) : String → Option Length → Prop where
  | bare {suffix : String} (known : suffix ∈ characterSetSuffixes) :
      Writes type (type ++ suffix) none
  | sized {gap parameter suffix : String} {length : Length} (spaces : gap ∈ ["", " "])
      (tells : TellsLength type parameter length) (known : suffix ∈ characterSetSuffixes) :
      Writes type (type ++ gap ++ "(" ++ parameter ++ ")" ++ suffix) (some length)

variable {type parameter text : String} {length : Length} {told : Option Length}

theorem TellsLength.lengthOfParameter_eq (tells : TellsLength type parameter length) :
    lengthOfParameter parameter.toList = .ok length.text := by
  cases tells with
  | plain => exact lengthOfParameter_plain _
  | bytes _ numeral => exact lengthOfParameter_bytes numeral
  | bits _ numeral short => exact lengthOfParameter_bits numeral short

theorem TellsLength.closed (tells : TellsLength type parameter length) :
    ')' ∉ parameter.toList := by
  cases tells with
  | plain => exact length.not_mem_text
  | bytes => exact closed_sized _ (by decide)
  | bits => exact closed_sized _ (by decide)

theorem TellsLength.isSingleSpaced (tells : TellsLength type parameter length) :
    isSingleSpaced false parameter.toList = true := by
  cases tells with
  | plain _ plain => exact plain.isSingleSpaced
  | bytes => exact isSingleSpaced_sized _ (by decide)
  | bits => exact isSingleSpaced_sized _ (by decide)

theorem isSingleSpaced_parenthesised {gap parameter suffix : String} (spaces : gap ∈ ["", " "])
    (single : Text.isSingleSpaced false parameter.toList = true)
    (known : suffix ∈ characterSetSuffixes) :
    Text.isSingleSpaced false (gap ++ "(" ++ parameter ++ ")" ++ suffix).toList = true := by
  have opening : ∀ gap ∈ ["", " "], Text.isSingleSpaced false (gap ++ "(").toList = true := by
    decide
  have closing : ∀ suffix ∈ characterSetSuffixes,
      Text.isSingleSpaced false (")" ++ suffix).toList = true := by decide
  have parts : (gap ++ "(" ++ parameter ++ ")" ++ suffix).toList =
      (gap ++ "(").toList ++ (parameter.toList ++ (")" ++ suffix).toList) := by
    simp only [String.toList_append, List.append_assoc]
  rw [parts, isSingleSpaced_append (opening gap spaces), isSingleSpaced_append single]
  exact closing suffix known

theorem WrittenType.ofCell_text (written : String) :
    WrittenType.ofCell (.text written) = WrittenType.ofText written := by
  have told : (Value.text written).text? = .ok (some written) := rfl
  simp only [WrittenType.ofCell, told, bind, Except.bind]

/-- A type with a parameter is read as its name and what the parameter stands for. -/
theorem WrittenType.ofText_of_parameter {written gap suffix : String}
    (known : type ∈ Dialect.exasol.typeNames) (spaces : gap ∈ ["", " "])
    (closed : ')' ∉ parameter.toList)
    (single : Text.isSingleSpaced false parameter.toList = true)
    (suffixed : suffix ∈ characterSetSuffixes)
    (spells : Spells written.toList (type ++ gap ++ "(" ++ parameter ++ ")" ++ suffix).toList) :
    WrittenType.ofText written =
      (lengthOfParameter parameter.toList).map fun length => ⟨type, some length⟩ := by
  have whole : type ++ gap ++ "(" ++ parameter ++ ")" ++ suffix =
      type ++ (gap ++ "(" ++ parameter ++ ")" ++ suffix) := by
    simp only [String.append_assoc]
  have spaced : Text.isSingleSpaced true
      (type ++ gap ++ "(" ++ parameter ++ ")" ++ suffix).toList = true := by
    rw [whole, String.toList_append,
      isSingleSpaced_append (Dialect.isSingleSpaced_of_mem_typeNames known)]
    exact isSingleSpaced_parenthesised spaces single suffixed
  have split := splitType?_append (isTypeName_of_mem_typeNames known)
    (parameter?_parenthesised spaces suffixed closed)
  have parts : (type ++ gap ++ "(" ++ parameter ++ ")" ++ suffix).toList =
      type.toList ++ (gap.toList ++ '(' :: (parameter.toList ++ ')' :: suffix.toList)) := by
    simp
  unfold WrittenType.ofText
  simp only [capitalWords_of_spells spells spaced, parts, split, lengthOf?, String.ofList_toList]
  cases lengthOfParameter parameter.toList <;> rfl

/-- **A written type is read as its name and its length, however it is spelled.** -/
theorem WrittenType.ofText_of_writes {written : String} (known : type ∈ Dialect.exasol.typeNames)
    (writes : Writes type text told) (spells : Spells written.toList text.toList) :
    WrittenType.ofText written = .ok ⟨type, told.map Length.text⟩ := by
  cases writes with
  | @bare suffix suffixed =>
      have sets : ∀ suffix ∈ characterSetSuffixes,
          Text.isSingleSpaced false suffix.toList = true := by decide
      have single : Text.isSingleSpaced true (type ++ suffix).toList = true := by
        rw [String.toList_append,
          isSingleSpaced_append (Dialect.isSingleSpaced_of_mem_typeNames known)]
        exact sets suffix suffixed
      have split := splitType?_append (isTypeName_of_mem_typeNames known)
        (parameter?_suffix suffixed)
      unfold WrittenType.ofText
      simp only [capitalWords_of_spells spells single, String.toList_append, split,
        String.ofList_toList]
      rfl
  | sized spaces tells suffixed =>
      rw [WrittenType.ofText_of_parameter known spaces tells.closed tells.isSingleSpaced suffixed
        spells, tells.lengthOfParameter_eq]
      rfl

/-- A hash whose size is told in bytes is read unless the size has too many digits. -/
theorem WrittenType.ofText_hash (size : Nat) :
    WrittenType.ofText ("HASHTYPE(" ++ toString size ++ " BYTE)") =
      if size < leastOverlong then .ok ⟨"HASHTYPE", some (toString size)⟩
      else .error .notInteger := by
  have words : ∀ word ∈ ["HASHTYPE(", " BYTE)"], word.toList.all
      (fun c => decide (c.toUpper = c ∧ (isBlank c = true → c = ' '))) = true := by
    decide
  have plain : ∀ word ∈ ["HASHTYPE(", " BYTE)"], ∀ c ∈ word.toList,
      c.toUpper = c ∧ (isBlank c = true → c = ' ') := fun word known c member =>
    of_decide_eq_true (List.all_eq_true.mp (words word known) c member)
  have digits : ∀ c : Char, c.toNat < 128 → c.isDigit = true →
      c.toUpper = c ∧ (isBlank c = true → c = ' ') := by
    apply forall_ascii
    decide
  have parts : ("HASHTYPE(" ++ toString size ++ " BYTE)").toList =
      ("HASHTYPE" ++ "" ++ "(" ++ (toString size ++ " BYTE") ++ ")" ++ "").toList := by
    simp
  have spells : Spells ("HASHTYPE(" ++ toString size ++ " BYTE)").toList
      ("HASHTYPE" ++ "" ++ "(" ++ (toString size ++ " BYTE") ++ ")" ++ "").toList := by
    rw [← parts]
    apply spells_self
    rw [String.toList_append, String.toList_append, List.forall_mem_append, List.forall_mem_append]
    refine ⟨⟨plain _ (by decide), fun c member => ?_⟩, plain _ (by decide)⟩
    have digit := isDigit_of_mem_numeral c member
    exact digits c (toNat_lt_of_isDigit digit) digit
  rw [WrittenType.ofText_of_parameter (by decide) (by decide) (closed_sized size (by decide))
    (isSingleSpaced_sized size (by decide)) (by decide) spells, String.toList_append,
    lengthOfParameter_sized (natural?_toString size) (by decide), if_pos rfl]
  simp only [length_toString_le_iff]
  split <;> rfl

end Catalog.Exasol

end Warehouse
