/-! # Blanks, words and line ends

A blank is a character that separates words. `trim` takes the blanks off both
ends of a text, `words` are the maximal runs without a blank, and `squeeze`
joins the words of a text by single spaces, which is the normal form in which
type names are compared. -/

namespace Warehouse.Text

/-- The characters that separate words: the ASCII space and control separators,
the next line, the no-break space and the spaces and separators of Unicode. The
zero-width space is not one of them. -/
def isBlank (c : Char) : Bool :=
  let code := c.toNat
  (9 ≤ code && code ≤ 13) || (28 ≤ code && code ≤ 32) || code == 0x85 || code == 0xA0 ||
    code == 0x1680 || (0x2000 ≤ code && code ≤ 0x200A) || code == 0x2028 || code == 0x2029 ||
    code == 0x202F || code == 0x205F || code == 0x3000

/-- The characters without the blanks at either end. -/
def trimChars (chars : List Char) : List Char :=
  ((chars.dropWhile isBlank).reverse.dropWhile isBlank).reverse

/-- The text without the blanks at either end. -/
def trim (text : String) : String :=
  String.ofList (trimChars text.toList)

/-- The word that the characters begin with, empty if they begin with a blank,
and the words after it. -/
def firstWord : List Char → List Char × List (List Char)
  | [] => ([], [])
  | c :: rest =>
      let (word, others) := firstWord rest
      if isBlank c then ([], if word.isEmpty then others else word :: others)
      else (c :: word, others)

/-- The maximal runs of characters that are not blank, in order. -/
def words (chars : List Char) : List (List Char) :=
  let (word, others) := firstWord chars
  if word.isEmpty then others else word :: others

/-- The words of the characters, joined by single spaces. -/
def squeezeChars (chars : List Char) : List Char :=
  [' '].intercalate (words chars)

/-- The words of the text, joined by single spaces. -/
def squeeze (text : String) : String :=
  String.ofList (squeezeChars text.toList)

/-- The characters without one line feed at the very end. Names and lengths are
checked in this form, so a single final line feed passes the check. -/
def withoutFinalBreak (chars : List Char) : List Char :=
  if chars.getLast? = some '\n' then chars.dropLast else chars

@[simp] theorem toList_squeeze (text : String) :
    (squeeze text).toList = squeezeChars text.toList := String.toList_ofList

end Warehouse.Text
