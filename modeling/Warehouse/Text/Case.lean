import Warehouse.Text.Blank
import Warehouse.Text.CaseTable
import Warehouse.Text.CharacterClass
import Warehouse.Text.Occurrence

/-! # Letter case

`upper` and `lower` map a text character by character with the full case pairs
of the character database; `caseless` gives the ASCII letter that a character
stands for where a keyword is compared without regard to case. Only the small form
of the Greek sigma depends on the neighbours of the letter: it has one of its own at
the end of a word. -/

namespace Warehouse.Text

/-- The form of a character under a case table: its sequence if it has one, else
its counterpart in a run, else the character itself. -/
def tableForm (sequences : List (Nat × List Nat)) (runs : List CaseRun) (c : Char) : List Char :=
  match sequences.lookup c.toNat with
  | some codes => codes.map Char.ofNat
  | none => [Char.ofNat ((runs.findSome? fun run => run.counterpart? c.toNat).getD c.toNat)]

/-- The capital form of a character. -/
def capitals (c : Char) : List Char :=
  if c.toNat < 128 then [c.toUpper] else tableForm capitalSequences capitalRuns c

/-- The small form of a character. -/
def smalls (c : Char) : List Char :=
  if c.toNat < 128 then [c.toLower] else tableForm smallSequences smallRuns c

/-- The text in capitals. -/
def upper (text : String) : String :=
  String.ofList (text.toList.flatMap capitals)

/-- The first character that is not passed over has a case. -/
def leadsToCased : List Char → Bool
  | [] => false
  | c :: rest => if isPassedOver c then leadsToCased rest else isCased c

/-- The characters in small letters. The flag says that the last character before them
that is not passed over has a case. -/
def lowerAfter (afterCased : Bool) : List Char → List Char
  | [] => []
  | c :: rest =>
      let small :=
        if c = 'Σ' then [if afterCased && !leadsToCased rest then 'ς' else 'σ'] else smalls c
      small ++ lowerAfter (if isPassedOver c then afterCased else isCased c) rest

/-- The text in small letters. -/
def lower (text : String) : String := String.ofList (lowerAfter false text.toList)

/-- The words of the text in capitals, joined by single spaces. Type names and
index types are compared in this form. -/
def capitalWords (text : String) : String := upper (squeeze text)

/-- The ASCII small letter that a character stands for in a comparison without
regard to case: the long s counts as s, the Kelvin sign as k, and the dotless
and the dotted Turkish i as i. -/
def caseless (c : Char) : Char :=
  if c.toNat = 0x17F then 's'
  else if c.toNat = 0x212A then 'k'
  else if c.toNat = 0x131 ∨ c.toNat = 0x130 then 'i'
  else c.toLower

/-- The text equals the given ASCII word in small letters, without regard to case. -/
def isWordCaseless (word : String) (text : List Char) : Bool :=
  text.map caseless = word.toList

/-- The given ASCII word in small letters occurs in the text, without regard to case. -/
def holdsWordCaseless (word : String) (text : List Char) : Bool :=
  occursIn word.toList (text.map caseless)

@[simp] theorem capitals_of_ascii {c : Char} (ascii : c.toNat < 128) :
    capitals c = [c.toUpper] := if_pos ascii

@[simp] theorem toList_upper (text : String) :
    (upper text).toList = text.toList.flatMap capitals := String.toList_ofList

end Warehouse.Text
