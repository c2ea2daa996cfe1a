import Warehouse.Proofs.Catalog.WrittenType
import Warehouse.Proofs.Text.Condensing

/-! # Written types with parameters at any word

Exasol writes a parameter behind the word of a type name that it belongs to, which is not
always the last one. However the words and their parameters are spelled, the type is read; a
parameter of the last word alone is read as a length, and any other parameters are passed
over (`Exasol.WrittenType.ofText_spelling`). A parameter in front of another word stops the
search for the shortest name, because what stands behind it is neither an end nor a character
set (`Exasol.splitName?_parameter`). A size is not read if it has too many digits. -/

namespace Warehouse.Catalog.Exasol

open Text

/-! ## Spelled types -/

/-- A parameter in parentheses, with blanks in front of them. -/
structure WrittenParameter where
  gap : List Char
  inside : List Char
  blank : ∀ c ∈ gap, isBlank c = true
  closed : ')' ∉ inside

/-- A word with blanks in front of it, and a parameter behind it or none. -/
structure WrittenWord where
  front : List Char
  letters : List Char
  parameter : Option WrittenParameter
  blank : ∀ c ∈ front, isBlank c = true

/-- A character set with blanks in front of it. -/
structure WrittenSet where
  front : List Char
  letters : List Char
  present : front ≠ []
  blank : ∀ c ∈ front, isBlank c = true
  known : letters.map Char.toUpper ∈ ["UTF8".toList, "ASCII".toList]

def WrittenParameter.chars (parameter : WrittenParameter) : List Char :=
  parameter.gap ++ '(' :: (parameter.inside ++ [')'])

namespace WrittenWord

/-- What is written behind the letters of a word. -/
def behind (word : WrittenWord) : List Char := word.parameter.elim [] WrittenParameter.chars

def chars (word : WrittenWord) : List Char := word.front ++ (word.letters ++ word.behind)

/-- The text in the parentheses behind the word. -/
def inside? (word : WrittenWord) : Option (List Char) :=
  word.parameter.map WrittenParameter.inside

/-- The word of a type name that is written, in any ASCII letter case. -/
def name (word : WrittenWord) : List Char := word.letters.map Char.toUpper

end WrittenWord

def WrittenSet.chars (set : WrittenSet) : List Char := set.front ++ set.letters

/-- A spelling of a type: its words in order, each but the first with blanks in front, behind
them perhaps a character set, and blanks at the end. There is no character set if a word that
is not the last one has a parameter. -/
structure TypeSpelling (type : String) where
  words : List WrittenWord
  set : Option WrittenSet
  back : List Char
  spelled : words.map WrittenWord.name = Text.words type.toList
  apart : ∀ word ∈ words.tail, word.front ≠ []
  inner : set ≠ none → ∀ word ∈ words.dropLast, word.parameter = none
  blank : ∀ c ∈ back, isBlank c = true

namespace TypeSpelling

variable {type : String} (spelling : TypeSpelling type)

/-- The characters without the blanks at the end. -/
def chars : List Char :=
  spelling.words.flatMap WrittenWord.chars ++ spelling.set.elim [] WrittenSet.chars

def text : String := String.ofList (spelling.chars ++ spelling.back)

/-- The text in the parentheses behind each word that has a parameter. -/
def parameters : List (Option (List Char)) := spelling.words.map WrittenWord.inside?

end TypeSpelling

/-- What a parameter stands for as a length: a size in bytes or in bits is a number of bytes,
unless it has too many digits, and any other parameter stands for itself. -/
inductive StandsFor (parameter : List Char) : Except CellFault String → Prop where
  | bytes {digits : List Char} {size : Nat} (numeral : natural? digits = some size)
      (short : digits.length ≤ integerDigitLimit) (unit : parameter = digits ++ " BYTE".toList) :
      StandsFor parameter (.ok (toString size))
  | bits {digits : List Char} {size : Nat} (numeral : natural? digits = some size)
      (short : digits.length ≤ integerDigitLimit) (unit : parameter = digits ++ " BIT".toList) :
      StandsFor parameter (.ok (toString (size / 8)))
  | overlong {digits : List Char} {size : Nat} (numeral : natural? digits = some size)
      (long : integerDigitLimit < digits.length)
      (unit : parameter = digits ++ " BYTE".toList ∨ parameter = digits ++ " BIT".toList) :
      StandsFor parameter (.error .notInteger)
  | itself (other : ∀ digits size, natural? digits = some size →
      parameter ≠ digits ++ " BYTE".toList ∧ parameter ≠ digits ++ " BIT".toList) :
      StandsFor parameter (.ok (String.ofList parameter))

/-- The length that the parameters of the words tell: that of the last word stands for it, in
capitals and with one space for each run of blanks, if no other word has one. -/
inductive TellLength : List (Option (List Char)) → Except CellFault (Option String) → Prop where
  | last {before : List (Option (List Char))} {inside : List Char} {length : Except CellFault String}
      (bare : ∀ parameter ∈ before, parameter = none)
      (stands : StandsFor (condensed false inside) length) :
      TellLength (before ++ [some inside]) (length.map some)
  | bare {parameters : List (Option (List Char))}
      (bare : ∀ parameter ∈ parameters, parameter = none) : TellLength parameters (.ok none)
  | inner {before after : List (Option (List Char))} {inside : List Char}
      (more : after ≠ []) : TellLength (before ++ some inside :: after) (.ok none)

/-! ## Lengths -/

/-- A parameter that is no size is kept as it is. -/
theorem lengthOfParameter_of_unsized {parameter : List Char}
    (unsized : ∀ digits size, natural? digits = some size →
      parameter ≠ digits ++ " BYTE".toList ∧ parameter ≠ digits ++ " BIT".toList) :
    lengthOfParameter parameter = .ok (String.ofList parameter) := by
  have whole := @List.takeWhile_append_dropWhile _ isDigit parameter
  by_cases present : parameter.takeWhile isDigit = []
  · simp only [lengthOfParameter, present, List.isEmpty_nil, ↓reduceIte]
    rfl
  · obtain ⟨size, numeral⟩ := exists_natural?_of_digits present fun _ => List.mem_takeWhile_imp
    obtain ⟨noBytes, noBits⟩ := unsized _ size numeral
    have behindBytes : parameter.dropWhile isDigit ≠ " BYTE".toList := fun unit =>
      noBytes (unit ▸ whole.symm)
    have behindBits : parameter.dropWhile isDigit ≠ " BIT".toList := fun unit =>
      noBits (unit ▸ whole.symm)
    simp only [lengthOfParameter, behindBytes, behindBits, ↓reduceIte, ite_self]
    rfl

theorem standsFor_lengthOfParameter (parameter : List Char) :
    StandsFor parameter (lengthOfParameter parameter) := by
  have bytes : " BYTE".toList.head? = some ' ' := by decide
  have bits : " BIT".toList.head? = some ' ' := by decide
  have other : " BIT".toList ≠ " BYTE".toList := by decide
  by_cases sized : ∃ digits size, natural? digits = some size ∧
      (parameter = digits ++ " BYTE".toList ∨ parameter = digits ++ " BIT".toList)
  · obtain ⟨digits, size, numeral, unit⟩ := sized
    by_cases short : digits.length ≤ integerDigitLimit
    · rcases unit with rfl | rfl
      · rw [lengthOfParameter_sized numeral bytes, if_pos rfl, if_pos short]
        exact .bytes numeral short rfl
      · rw [lengthOfParameter_sized numeral bits, if_neg other, if_pos rfl, if_pos short]
        exact .bits numeral short rfl
    · have long : lengthOfParameter parameter = .error .notInteger := by
        rcases unit with rfl | rfl
        · rw [lengthOfParameter_sized numeral bytes, if_pos rfl, if_neg short]
        · rw [lengthOfParameter_sized numeral bits, if_neg other, if_pos rfl, if_neg short]
      rw [long]
      exact .overlong numeral (Nat.lt_of_not_le short) unit
  · have unsized : ∀ digits size, natural? digits = some size →
        parameter ≠ digits ++ " BYTE".toList ∧ parameter ≠ digits ++ " BIT".toList :=
      fun digits size numeral => ⟨fun unit => sized ⟨digits, size, numeral, .inl unit⟩,
        fun unit => sized ⟨digits, size, numeral, .inr unit⟩⟩
    rw [lengthOfParameter_of_unsized unsized]
    exact .itself unsized

/-! ## Words of type names -/

/-- The words of a type name: capitals and digits, the first like a name and each other one
behind a space like the rest of one. -/
structure AreNameWords (first : List Char) (others : List (List Char)) : Prop where
  starts : isTypeName first = true
  goesOn : ∀ word ∈ others, staysInName (' ' :: word) = true
  solid : ∀ word ∈ first :: others, word.isEmpty = false ∧
    ∀ c ∈ word, (c.isUpper || c.isDigit) = true

theorem words_of_mem_typeNames {type : String} (known : type ∈ Dialect.exasol.typeNames) :
    ∃ first others, Text.words type.toList = first :: others ∧ AreNameWords first others := by
  have all : ∀ type ∈ Dialect.exasol.typeNames,
      (Text.words type.toList).head?.any isTypeName = true ∧
        (∀ word ∈ (Text.words type.toList).tail, staysInName (' ' :: word) = true) ∧
        ∀ word ∈ Text.words type.toList, word.isEmpty = false ∧
          word.all (fun c => c.isUpper || c.isDigit) = true := by decide
  have here := all type known
  cases whole : Text.words type.toList with
  | nil => simp [whole] at here
  | cons first others =>
      rw [whole] at here
      obtain ⟨starts, goesOn, solid⟩ := here
      exact ⟨first, others, rfl, starts, goesOn,
        fun word member => (solid word member).imp_right List.all_eq_true.mp⟩

theorem toNat_lt_of_isUpper {c : Char} (upper : c.isUpper = true) : c.toNat < 128 := by
  have last := UInt32.le_iff_toNat_le.mp (of_decide_eq_true upper).2
  exact Nat.lt_of_le_of_lt last (by decide)

/-- A character of a name is of ASCII and no blank, and so is each of its spellings. -/
theorem plain_of_toUpper {c : Char} (known : (c.toUpper.isUpper || c.toUpper.isDigit) = true) :
    c.toNat < 128 ∧ isBlank c = false ∧ c.toUpper ≠ '(' := by
  have all : ∀ c : Char, c.toNat < 128 → (c.toUpper.isUpper || c.toUpper.isDigit) = true →
      isBlank c = false ∧ c.toUpper ≠ '(' := by
    apply forall_ascii
    decide
  have ascii : c.toNat < 128 := by
    apply toNat_lt_of_toUpper
    rcases Bool.or_eq_true_iff.mp known with letter | digit
    · exact toNat_lt_of_isUpper letter
    · exact toNat_lt_of_isDigit digit
  exact ⟨ascii, all c ascii known⟩

/-! ## Normal forms -/

/-- The blanks in front of a parameter as one space or none. -/
def WrittenParameter.space (parameter : WrittenParameter) : List Char :=
  if parameter.gap.isEmpty then [] else [' ']

def WrittenParameter.condensed (parameter : WrittenParameter) : List Char :=
  parameter.space ++ '(' :: (Text.condensed false parameter.inside ++ [')'])

/-- What is written behind the letters of a word, in normal form. -/
def WrittenWord.rest (word : WrittenWord) : List Char :=
  word.parameter.elim [] WrittenParameter.condensed

/-- A word in normal form. -/
def WrittenWord.condensed (word : WrittenWord) : List Char := word.name ++ word.rest

theorem WrittenParameter.condensed_chars (parameter : WrittenParameter) (rest : List Char) :
    Text.condensed false (parameter.chars ++ rest) =
      parameter.condensed ++ Text.condensed false rest := by
  have solid : isBlank '(' = false ∧ isBlank ')' = false := by decide
  have capital : capitals '(' = ['('] ∧ capitals ')' = [')'] := by decide
  have inner : ∀ spaced, Text.condensed spaced ('(' :: (parameter.inside ++ ')' :: rest)) =
      '(' :: (Text.condensed false parameter.inside ++ ')' :: Text.condensed false rest) := by
    intro spaced
    rw [Text.condensed, if_neg (Bool.eq_false_iff.mp solid.1), capital.1,
      condensed_append_cons solid.2, capital.2]
    rfl
  have parts : parameter.chars ++ rest =
      parameter.gap ++ '(' :: (parameter.inside ++ ')' :: rest) := by simp [chars]
  rw [parts, condensed, space]
  by_cases gap : parameter.gap = []
  · simp [gap, inner]
  · rw [condensed_gap gap parameter.blank, inner]
    simp [gap]

namespace WrittenWord

variable {word : WrittenWord}

theorem condensed_behind (word : WrittenWord) (rest : List Char) :
    Text.condensed false (word.behind ++ rest) = word.rest ++ Text.condensed false rest := by
  cases told : word.parameter with
  | none => simp [behind, WrittenWord.rest, told]
  | some parameter =>
      simpa [behind, WrittenWord.rest, told] using parameter.condensed_chars rest

/-- The word is a word of a type name. -/
def IsName (word : WrittenWord) : Prop :=
  word.name.isEmpty = false ∧ ∀ c ∈ word.name, (c.isUpper || c.isDigit) = true

theorem IsName.plain (isName : word.IsName) :
    ∀ c ∈ word.letters, c.toNat < 128 ∧ isBlank c = false ∧ c.toUpper ≠ '(' :=
  fun _ member => plain_of_toUpper (isName.2 _ (List.mem_map_of_mem member))

theorem IsName.letters_ne_nil (isName : word.IsName) : word.letters ≠ [] := by
  intro nothing
  simp [IsName, name, nothing] at isName

theorem IsName.condensed_letters (isName : word.IsName) (spaced : Bool) (rest : List Char) :
    Text.condensed spaced (word.letters ++ (word.behind ++ rest)) =
      word.condensed ++ Text.condensed false rest := by
  rw [condensed_word isName.letters_ne_nil fun _ member =>
      (isName.plain _ member).imp_right And.left,
    condensed_behind, condensed, name, List.append_assoc]

theorem IsName.endsSolid (isName : word.IsName) : EndsSolid word.chars := by
  apply EndsSolid.append_of_ne_nil
  · apply EndsSolid.append
    · exact endsSolid_of_forall fun c member => (isName.plain c member).2.1
    · cases told : word.parameter with
      | none => simp [behind, told, EndsSolid]
      | some parameter =>
          have last : ∀ c ∈ [')'], isBlank c = false := List.forall_mem_singleton.mpr (by decide)
          have parts : word.behind = (parameter.gap ++ '(' :: parameter.inside) ++ [')'] := by
            simp [behind, told, WrittenParameter.chars]
          rw [parts]
          exact (endsSolid_of_forall last).append_of_ne_nil (List.cons_ne_nil _ _)
  · exact List.append_ne_nil_of_left_ne_nil isName.letters_ne_nil _

end WrittenWord

/-- The normal form of words behind others: each has one space in front. -/
theorem condensed_words {words : List WrittenWord} (isName : ∀ word ∈ words, word.IsName)
    (apart : ∀ word ∈ words, word.front ≠ []) (rest : List Char) :
    condensed false (words.flatMap WrittenWord.chars ++ rest) =
      words.flatMap (' ' :: ·.condensed) ++ condensed false rest := by
  induction words with
  | nil => rfl
  | cons word words ih =>
      rw [List.forall_mem_cons] at isName apart
      have parts : (word :: words).flatMap WrittenWord.chars ++ rest = word.front ++
          (word.letters ++ (word.behind ++ (words.flatMap WrittenWord.chars ++ rest))) := by
        simp [WrittenWord.chars]
      rw [parts, condensed_gap apart.1 word.blank, isName.1.condensed_letters,
        ih isName.2 apart.2]
      simp

theorem WrittenSet.plain (set : WrittenSet) :
    set.letters ≠ [] ∧ ∀ c ∈ set.letters, c.toNat < 128 ∧ isBlank c = false := by
  have all : ∀ capitals ∈ ["UTF8".toList, "ASCII".toList], capitals.isEmpty = false ∧
      capitals.all (fun c => c.isUpper || c.isDigit) = true := by decide
  obtain ⟨present, solid⟩ := all _ set.known
  constructor
  · intro nothing
    simp [nothing] at present
  · intro c member
    have letter := plain_of_toUpper (List.all_eq_true.mp solid _ (List.mem_map_of_mem member))
    exact ⟨letter.1, letter.2.1⟩

theorem WrittenSet.endsSolid (set : WrittenSet) : EndsSolid set.chars :=
  EndsSolid.append_of_ne_nil
    (endsSolid_of_forall fun _ member => (set.plain.2 _ member).2) set.plain.1

theorem WrittenSet.condensed_chars (set : WrittenSet) :
    ∃ suffix ∈ characterSetSuffixes, condensed false set.chars = suffix.toList := by
  have suffixes : ∀ capitals ∈ ["UTF8".toList, "ASCII".toList],
      " " ++ String.ofList capitals ∈ characterSetSuffixes := by decide
  refine ⟨_, suffixes _ set.known, ?_⟩
  have whole := condensed_word set.plain.1 set.plain.2 true []
  rw [List.append_nil] at whole
  rw [chars, condensed_gap set.present set.blank, whole]
  simp [condensed]

namespace TypeSpelling

variable {type : String} (spelling : TypeSpelling type)

/-- The normal form of a spelled type, whose words are words of a type name. -/
theorem toList_capitalWords {first : WrittenWord} {others : List WrittenWord}
    (whole : spelling.words = first :: others)
    (isName : ∀ word ∈ first :: others, word.IsName) :
    ∃ suffix ∈ characterSetSuffixes, (spelling.set = none → suffix = "") ∧
      (capitalWords spelling.text).toList =
        first.condensed ++ (others.flatMap (' ' :: ·.condensed) ++ suffix.toList) := by
  have apart : ∀ word ∈ others, word.front ≠ [] := by
    have tail := spelling.apart
    rwa [whole] at tail
  obtain ⟨suffix, known, bare, written⟩ : ∃ suffix ∈ characterSetSuffixes,
      (spelling.set = none → suffix = "") ∧
        condensed false (spelling.set.elim [] WrittenSet.chars) = suffix.toList := by
    cases spelling.set with
    | none => exact ⟨"", by decide, fun _ => rfl, rfl⟩
    | some set =>
        obtain ⟨suffix, known, written⟩ := set.condensed_chars
        exact ⟨suffix, known, nofun, written⟩
  refine ⟨suffix, known, bare, ?_⟩
  have ends : EndsSolid spelling.chars := by
    rw [chars, whole]
    apply EndsSolid.append
    · exact endsSolid_flatMap fun word member => (isName word member).endsSolid
    · cases spelling.set with
      | none => exact endsSolid_of_forall (List.forall_mem_nil _)
      | some set => exact set.endsSolid
  have parts : spelling.chars = first.front ++ (first.letters ++ (first.behind ++
      (others.flatMap WrittenWord.chars ++ spelling.set.elim [] WrittenSet.chars))) := by
    simp [chars, whole, WrittenWord.chars]
  rw [List.forall_mem_cons] at isName
  rw [text, Text.toList_capitalWords ends spelling.blank, parts, condensed_blanks first.blank,
    isName.1.condensed_letters, condensed_words isName.2 apart, written]

end TypeSpelling

/-! ## Names without parameters inside -/

/-- If no word but the last has a parameter, the name stands in front of that parameter. -/
theorem condensed_bare {first : WrittenWord} {others : List WrittenWord}
    (bare : ∀ word ∈ (first :: others).dropLast, word.parameter = none) :
    first.condensed ++ others.flatMap (' ' :: ·.condensed) =
      [' '].intercalate ((first :: others).map WrittenWord.name) ++
        ((first :: others).getLast (List.cons_ne_nil _ _)).rest := by
  induction others generalizing first with
  | nil => simp [WrittenWord.condensed]
  | cons next others ih =>
      rw [List.dropLast_cons_cons, List.forall_mem_cons] at bare
      have plain : first.condensed = first.name := by
        simp [WrittenWord.condensed, WrittenWord.rest, bare.1]
      rw [List.getLast_cons_cons, List.map_cons, List.map_cons, List.intercalate_cons_cons,
        List.append_assoc, List.append_assoc, ← List.map_cons, ← ih bare.2, plain]
      simp

/-- A parameter and what stands behind it. -/
theorem parameter?_parameter (parameter : WrittenParameter) (rest : List Char) :
    parameter? (parameter.condensed ++ rest) =
      if rest.isEmpty || isCharacterSet rest then some (some (condensed false parameter.inside))
      else none := by
  obtain ⟨taken, left⟩ := takeWhile_append_mark (closed_condensed parameter.closed false) rest
  have opened : (parameter.condensed ++ rest).dropWhile (· = ' ') =
      '(' :: (condensed false parameter.inside ++ ')' :: rest) := by
    rw [WrittenParameter.condensed, WrittenParameter.space]
    split <;> simp
  simp only [parameter?, opened, left, taken]

/-! ## Parameters inside of a name -/

theorem isCharacterSet_of_staysInName {word : List Char} (stays : staysInName (' ' :: word) = true)
    (rest : List Char) : isCharacterSet (' ' :: (word ++ rest)) = false := by
  cases word with
  | nil => simp [staysInName] at stays
  | cons next word =>
      have others : next.isUpper = true ∧ next ≠ 'U' ∧ next ≠ 'A' := by
        simp only [staysInName, List.head?_cons, Option.any_some, Bool.and_eq_true,
          Bool.or_eq_true, decide_eq_true_eq] at stays
        simpa [and_assoc] using stays.1.2
      have solid : next ≠ ' ' := by
        rintro rfl
        cases others.1
      simp [isCharacterSet, solid, others.2]

theorem splitName?_cons_eq_none {c : Char} {rest : List Char}
    (here : parameter? (c :: rest) = none)
    (behind : isTypeChar c = true → splitName? rest = none) : splitName? (c :: rest) = none := by
  rw [splitName?.eq_def, here]
  by_cases known : isTypeChar c = true <;> simp [known, behind]

theorem splitName?_append_eq_none {name rest : List Char} (stays : staysInName name = true)
    (blocked : splitName? rest = none) : splitName? (name ++ rest) = none := by
  induction name with
  | nil => exact blocked
  | cons c name ih =>
      have none := parameter?_of_staysInName stays rest
      simp only [staysInName, Bool.and_eq_true] at stays
      exact splitName?_cons_eq_none none fun _ => ih stays.2

/-- A parameter in front of another word of the name stops the search for the shortest name. -/
theorem splitName?_parameter (parameter : WrittenParameter) {word : List Char}
    (stays : staysInName (' ' :: word) = true) (rest : List Char) :
    splitName? (parameter.condensed ++ ' ' :: (word ++ rest)) = none := by
  have blocked : ∀ other : WrittenParameter,
      parameter? (other.condensed ++ ' ' :: (word ++ rest)) = none := by
    intro other
    rw [parameter?_parameter, isCharacterSet_of_staysInName stays]
    rfl
  -- Without its gap the parameter begins with the parenthesis, which is in no name.
  have opened : splitName? ('(' :: (condensed false parameter.inside ++
      ')' :: ' ' :: (word ++ rest))) = none := by
    have here := blocked { parameter with gap := [], blank := List.forall_mem_nil _ }
    simp only [WrittenParameter.condensed, WrittenParameter.space, List.isEmpty_nil, ↓reduceIte,
      List.nil_append, List.cons_append, List.append_assoc] at here
    exact splitName?_cons_eq_none here fun known => absurd known (by decide)
  have here := blocked parameter
  by_cases gap : parameter.gap = []
  · simpa [WrittenParameter.condensed, WrittenParameter.space, gap] using opened
  · simp only [WrittenParameter.condensed, WrittenParameter.space, gap, List.isEmpty_iff,
      ↓reduceIte, List.cons_append, List.nil_append, List.append_assoc] at here ⊢
    exact splitName?_cons_eq_none here fun _ => opened

/-- Behind the letters of a word no name ends if a word that is not the last has a parameter. -/
theorem splitName?_inner {word : WrittenWord} {others : List WrittenWord} {suffix : List Char}
    (goesOn : ∀ other ∈ others, staysInName (' ' :: other.name) = true)
    (inner : ∃ other ∈ (word :: others).dropLast, other.parameter ≠ none) :
    splitName? (word.rest ++ (others.flatMap (' ' :: ·.condensed) ++ suffix)) = none := by
  induction others generalizing word with
  | nil => simp at inner
  | cons next others ih =>
      rw [List.forall_mem_cons] at goesOn
      have parts : ((next :: others).flatMap (' ' :: ·.condensed) ++ suffix) = ' ' :: (next.name ++
          (next.rest ++ (others.flatMap (' ' :: ·.condensed) ++ suffix))) := by
        simp [WrittenWord.condensed]
      rw [parts]
      cases told : word.parameter with
      | some parameter =>
          rw [WrittenWord.rest, told]
          exact splitName?_parameter parameter goesOn.1 _
      | none =>
          have behind : ∃ other ∈ (next :: others).dropLast, other.parameter ≠ none := by
            simpa [told] using inner
          have nothing : word.rest = [] := by rw [WrittenWord.rest, told]; rfl
          rw [nothing]
          exact @splitName?_append_eq_none (' ' :: next.name) _ goesOn.1 (ih goesOn.2 behind)

theorem splitType?_inner {first : WrittenWord} {others : List WrittenWord} {suffix : List Char}
    (starts : isTypeName first.name = true)
    (goesOn : ∀ other ∈ others, staysInName (' ' :: other.name) = true)
    (inner : ∃ word ∈ (first :: others).dropLast, word.parameter ≠ none) :
    splitType? (first.condensed ++ (others.flatMap (' ' :: ·.condensed) ++ suffix)) = none := by
  rw [WrittenWord.condensed]
  cases told : first.name with
  | nil => simp [told, isTypeName] at starts
  | cons c name =>
      rw [told, isTypeName, Bool.and_eq_true] at starts
      rw [List.cons_append, List.cons_append, splitType?, if_pos starts.1, List.append_assoc,
        splitName?_append_eq_none starts.2 (splitName?_inner goesOn inner)]
      rfl

/-! ## Names without their parameters -/

theorem withoutParameters_inside {inside : List Char} (closed : ')' ∉ inside)
    (rest : List Char) :
    withoutParameters true (inside ++ ')' :: rest) = withoutParameters false rest := by
  induction inside with
  | nil => rfl
  | cons c inside ih =>
      rw [List.mem_cons, not_or] at closed
      have other : (decide (c ≠ ')')) = true := decide_eq_true (Ne.symm closed.1)
      rw [List.cons_append, withoutParameters, if_pos rfl, other, ih closed.2]

theorem withoutParameters_name {name : List Char} (plain : '(' ∉ name) (rest : List Char) :
    withoutParameters false (name ++ rest) = name ++ withoutParameters false rest := by
  induction name with
  | nil => rfl
  | cons c name ih =>
      rw [List.mem_cons, not_or] at plain
      have other : ¬ (c = '(' ∧ ')' ∈ name ++ rest) := fun both => plain.1 both.1.symm
      rw [List.cons_append, withoutParameters, if_neg (by decide), if_neg other, ih plain.2]
      rfl

/-- Of a parameter only the space in front of it is left. -/
theorem withoutParameters_parameter (parameter : WrittenParameter) (rest : List Char) :
    withoutParameters false (parameter.condensed ++ rest) =
      parameter.space ++ withoutParameters false rest := by
  have plain : '(' ∉ parameter.space := by
    rw [WrittenParameter.space]
    split <;> decide
  have parts : parameter.condensed ++ rest = parameter.space ++
      '(' :: (condensed false parameter.inside ++ ')' :: rest) := by
    simp [WrittenParameter.condensed]
  rw [parts, withoutParameters_name plain, withoutParameters, if_neg (by decide),
    if_pos ⟨rfl, by simp⟩, withoutParameters_inside (closed_condensed parameter.closed false)]

namespace WrittenWord

variable {word : WrittenWord}

/-- The space that is left behind a word without its parameter. -/
def space (word : WrittenWord) : List Char := word.parameter.elim [] WrittenParameter.space

theorem isBlank_space (word : WrittenWord) : ∀ c ∈ word.space, isBlank c = true := by
  cases told : word.parameter with
  | none => simp [space, told]
  | some parameter =>
      rw [space, told, Option.elim_some, WrittenParameter.space]
      split
      · exact List.forall_mem_nil _
      · exact List.forall_mem_singleton.mpr (by decide)

theorem IsName.name_ne_nil (isName : word.IsName) : word.name ≠ [] :=
  List.isEmpty_eq_false_iff.mp isName.1

theorem IsName.solid (isName : word.IsName) : ∀ c ∈ word.name, isBlank c = false := by
  intro c member
  obtain ⟨letter, here, rfl⟩ := List.mem_map.mp member
  rw [isBlank_toUpper]
  exact (isName.plain letter here).2.1

theorem IsName.withoutParameters_eq (isName : word.IsName) (rest : List Char) :
    withoutParameters false (word.condensed ++ rest) =
      word.name ++ (word.space ++ withoutParameters false rest) := by
  have plain : '(' ∉ word.name := by
    intro member
    obtain ⟨letter, here, same⟩ := List.mem_map.mp member
    exact (isName.plain letter here).2.2 same
  rw [condensed, List.append_assoc, withoutParameters_name plain, WrittenWord.rest, space]
  cases told : word.parameter with
  | none => rfl
  | some parameter => exact congrArg (word.name ++ ·) (withoutParameters_parameter parameter rest)

end WrittenWord

/-- Without the parameters, the words of the name are left. -/
theorem words_withoutParameters {first : WrittenWord} {others : List WrittenWord}
    (isName : ∀ word ∈ first :: others, word.IsName) :
    Text.words (withoutParameters false (first.condensed ++ others.flatMap (' ' :: ·.condensed))) =
      (first :: others).map WrittenWord.name := by
  induction others generalizing first with
  | nil =>
      rw [List.forall_mem_cons] at isName
      have alone : withoutParameters false (first.condensed ++ []) = first.name ++ first.space := by
        rw [isName.1.withoutParameters_eq, withoutParameters, List.append_nil]
      rw [List.flatMap_nil, alone, words_append_blanks first.isBlank_space,
        words_word isName.1.name_ne_nil isName.1.solid]
      rfl
  | cons next others ih =>
      rw [List.forall_mem_cons] at isName
      have gap : ∀ c ∈ first.space ++ [' '], isBlank c = true := by
        exact List.forall_mem_append.mpr
          ⟨first.isBlank_space, List.forall_mem_singleton.mpr (by decide)⟩
      have space := @withoutParameters_name [' '] (by decide)
        (next.condensed ++ others.flatMap (' ' :: ·.condensed))
      have parts : withoutParameters false
          (first.condensed ++ (next :: others).flatMap (' ' :: ·.condensed)) =
            first.name ++ ((first.space ++ [' ']) ++ withoutParameters false
              (next.condensed ++ others.flatMap (' ' :: ·.condensed))) := by
        rw [isName.1.withoutParameters_eq, List.append_assoc, ← space]
        rfl
      rw [parts, words_append isName.1.name_ne_nil isName.1.solid (by simp) gap, ih isName.2]
      rfl

/-! ## Lengths that parameters tell -/

theorem tellLength_inner {words : List WrittenWord}
    (inner : ∃ word ∈ words.dropLast, word.parameter ≠ none) :
    TellLength (words.map WrittenWord.inside?) (.ok none) := by
  obtain ⟨word, member, present⟩ := inner
  obtain ⟨parameter, told⟩ := Option.ne_none_iff_exists'.mp present
  obtain ⟨before, after, whole⟩ := List.append_of_mem member
  have some : words ≠ [] := by
    rintro rfl
    cases member
  have parts : words = before ++ word :: (after ++ [words.getLast some]) := by
    rw [← List.cons_append, ← List.append_assoc, ← whole, List.dropLast_concat_getLast]
  have inside : word.inside? = .some parameter.inside := by rw [WrittenWord.inside?, told]; rfl
  rw [parts, List.map_append, List.map_cons, inside]
  exact .inner (by simp)

theorem tellLength_last {words : List WrittenWord} (present : words ≠ [])
    (bare : ∀ word ∈ words.dropLast, word.parameter = none) :
    TellLength (words.map WrittenWord.inside?)
      (lengthOf? ((words.getLast present).inside?.map (condensed false))) := by
  have before : ∀ parameter ∈ words.dropLast.map WrittenWord.inside?, parameter = none := by
    intro parameter member
    obtain ⟨word, here, rfl⟩ := List.mem_map.mp member
    rw [WrittenWord.inside?, bare word here]
    rfl
  have parts : words.map WrittenWord.inside? =
      words.dropLast.map WrittenWord.inside? ++ [(words.getLast present).inside?] := by
    rw [← List.map_singleton, ← List.map_append, List.dropLast_concat_getLast]
  rw [parts]
  cases (words.getLast present).inside? with
  | none =>
      apply TellLength.bare
      exact List.forall_mem_append.mpr ⟨before, List.forall_mem_singleton.mpr rfl⟩
  | some inside => exact .last before (standsFor_lengthOfParameter _)

theorem parameter?_rest (word : WrittenWord) {suffix : String}
    (known : suffix ∈ characterSetSuffixes) :
    parameter? (word.rest ++ suffix.toList) = some (word.inside?.map (condensed false)) := by
  have ends : ∀ suffix ∈ characterSetSuffixes,
      (suffix.toList.isEmpty || isCharacterSet suffix.toList) = true := by decide
  cases told : word.parameter with
  | none => simpa [WrittenWord.rest, WrittenWord.inside?, told] using parameter?_suffix known
  | some parameter =>
      rw [WrittenWord.rest, WrittenWord.inside?, told]
      exact (parameter?_parameter parameter suffix.toList).trans (if_pos (ends suffix known))

/-! ## Reading -/

section Reading

variable {written : String} {chars : List Char}

theorem WrittenType.ofText_of_split {name : List Char} {parameter : Option (List Char)}
    (normal : (capitalWords written).toList = chars)
    (split : splitType? chars = some (name, parameter)) :
    WrittenType.ofText written = (lengthOf? parameter).map (⟨String.ofList name, ·⟩) := by
  unfold WrittenType.ofText
  simp only [normal, split]

theorem WrittenType.ofText_of_blocked (normal : (capitalWords written).toList = chars)
    (blocked : splitType? chars = none) :
    WrittenType.ofText written =
      .ok ⟨String.ofList (squeezeChars (withoutParameters false chars)), none⟩ := by
  unfold WrittenType.ofText
  simp only [normal, blocked]

end Reading

/-- **A type is read however it is spelled and whichever words have parameters.** The name is
the type, and the length is told by the parameters: a parameter of the last word stands for it
if no other word has one. Only a size of too many digits cannot be read. -/
theorem WrittenType.ofText_spelling {type : String} (known : type ∈ Dialect.exasol.typeNames)
    (spelling : TypeSpelling type) :
    ∃ length, TellLength spelling.parameters length ∧
      WrittenType.ofText spelling.text = length.map (⟨type, ·⟩) := by
  obtain ⟨_, _, named, areNames⟩ := words_of_mem_typeNames known
  have spelled := spelling.spelled
  rw [named, List.map_eq_cons_iff] at spelled
  obtain ⟨first, others, whole, rfl, rfl⟩ := spelled
  have isName : ∀ word ∈ first :: others, word.IsName := fun word member =>
    areNames.solid word.name (List.mem_map_of_mem member)
  have joined : [' '].intercalate ((first :: others).map WrittenWord.name) = type.toList := by
    rw [List.map_cons, ← named]
    exact squeezeChars_of_isSingleSpaced (Dialect.isSingleSpaced_of_mem_typeNames known)
  obtain ⟨suffix, suffixed, ending, normal⟩ := spelling.toList_capitalWords whole isName
  rw [TypeSpelling.parameters, whole]
  by_cases inner : ∃ word ∈ (first :: others).dropLast, word.parameter ≠ none
  · have nothing : suffix = "" := by
      by_contra more
      obtain ⟨word, member, present⟩ := inner
      exact present (spelling.inner (mt ending more) word (whole ▸ member))
    have goesOn : ∀ word ∈ others, staysInName (' ' :: word.name) = true := fun word member =>
      areNames.goesOn word.name (List.mem_map_of_mem member)
    refine ⟨.ok none, tellLength_inner inner, ?_⟩
    rw [WrittenType.ofText_of_blocked normal (splitType?_inner areNames.starts goesOn inner),
      nothing, String.toList_empty, List.append_nil, squeezeChars,
      words_withoutParameters isName, joined, String.ofList_toList]
    rfl
  · have bare : ∀ word ∈ (first :: others).dropLast, word.parameter = none := by
      intro word member
      by_contra present
      exact inner ⟨word, member, present⟩
    have split := splitType?_append (isTypeName_of_mem_typeNames known)
      (parameter?_rest ((first :: others).getLast (List.cons_ne_nil _ _)) suffixed)
    rw [← List.append_assoc, condensed_bare bare, joined, List.append_assoc] at normal
    refine ⟨_, tellLength_last (List.cons_ne_nil _ _) bare, ?_⟩
    rw [WrittenType.ofText_of_split normal split, String.ofList_toList]

/-- An interval with parameters behind two of its words, and a type of two words with a size
behind the last one and a character set. -/
theorem ofText_spelling_interval :
    (∃ length, TellLength [none, some "2".toList, none, some " 3 ".toList] length ∧
      WrittenType.ofText " Interval day(2)\tto SECOND  ( 3 )" =
        length.map (⟨"INTERVAL DAY TO SECOND", ·⟩)) ∧
    ∃ length, TellLength [none, some "16  byte".toList] length ∧
      WrittenType.ofText "Long  VarChar (16  byte) utf8" = length.map (⟨"LONG VARCHAR", ·⟩) := by
  let days : WrittenParameter := ⟨[], "2".toList, List.forall_mem_nil _, by decide⟩
  let seconds : WrittenParameter :=
    ⟨"  ".toList, " 3 ".toList, List.all_eq_true.mp (by decide), by decide⟩
  let interval : TypeSpelling "INTERVAL DAY TO SECOND" := {
    words := [⟨" ".toList, "Interval".toList, none, List.all_eq_true.mp (by decide)⟩,
      ⟨" ".toList, "day".toList, some days, List.all_eq_true.mp (by decide)⟩,
      ⟨"\t".toList, "to".toList, none, List.all_eq_true.mp (by decide)⟩,
      ⟨" ".toList, "SECOND".toList, some seconds, List.all_eq_true.mp (by decide)⟩]
    set := none
    back := []
    spelled := by decide
    apart := by simp
    inner := by simp
    blank := by simp }
  let size : WrittenParameter :=
    ⟨" ".toList, "16  byte".toList, List.all_eq_true.mp (by decide), by decide⟩
  let unicode : WrittenSet :=
    ⟨" ".toList, "utf8".toList, by decide, List.all_eq_true.mp (by decide),
      by decide⟩
  let long : TypeSpelling "LONG VARCHAR" := {
    words := [⟨[], "Long".toList, none, List.forall_mem_nil _⟩,
      ⟨"  ".toList, "VarChar".toList, some size, List.all_eq_true.mp (by decide)⟩]
    set := some unicode
    back := []
    spelled := by decide
    apart := by simp
    inner := by simp
    blank := by simp }
  have intervalText : interval.text = " Interval day(2)\tto SECOND  ( 3 )" := by decide
  have longText : long.text = "Long  VarChar (16  byte) utf8" := by decide
  rw [← intervalText, ← longText]
  exact ⟨WrittenType.ofText_spelling (by decide) interval,
    WrittenType.ofText_spelling (by decide) long⟩

/-- A hash of as many bytes as no numeral can be read for has no type. -/
theorem ofText_overlong :
    WrittenType.ofText ("HASHTYPE(" ++ toString leastOverlong ++ " BYTE)") =
      .error .notInteger := by
  rw [WrittenType.ofText_hash, if_neg (Nat.lt_irrefl _)]

end Warehouse.Catalog.Exasol
