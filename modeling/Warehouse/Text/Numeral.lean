import Warehouse.Text.Blank
import Warehouse.Text.Digit

/-! # Numerals

Two ways of writing a number are read here. An integer numeral is a sign and
digits, with single underscores allowed between digits. A decimal numeral has a
sign, digits with a point anywhere among them, and an exponent; it may also be
an infinity or not a number at all. Both take the digits of any script, ignore
blanks at the ends, and are bounded: the one in its digits, the other in its
exponent. The bound on the digits holds also where an integer is written, so large
integers have no numeral. A decimal numeral becomes an integer by dropping the
digits behind its point; whether they were all zero is a question of its own. -/

namespace Warehouse.Text

/-- The sign at the front of the characters, true for a minus, and the rest. -/
def signed : List Char → Bool × List Char
  | '-' :: rest => (true, rest)
  | '+' :: rest => (false, rest)
  | chars => (false, chars)

/-- The values of digits between which single underscores may stand. -/
def groupedDigits? : List Char → Option (List Nat)
  | [] => none
  | [c] => (digitValue? c).map ([·])
  | c :: '_' :: rest => do return (← digitValue? c) :: (← groupedDigits? rest)
  | c :: next :: rest => do return (← digitValue? c) :: (← groupedDigits? (next :: rest))

/-- The integer with the given sign and absolute value. -/
def withSign (negative : Bool) (magnitude : Nat) : Int :=
  if negative then -(magnitude : Int) else magnitude

/-- The number of digits that an integer numeral may have, read or written. -/
def integerDigitLimit : Nat := 4300

/-- The numeral of an integer, unless it has too many digits. -/
def ofInteger? (number : Int) : Option String :=
  if (Nat.toDigits 10 number.natAbs).length ≤ integerDigitLimit then some (toString number)
  else none

/-- The value of an integer numeral. Leading zeros count among its digits. -/
def integer? (text : String) : Option Int := do
  let (negative, rest) := signed (trimChars text.toList)
  let digits ← groupedDigits? rest
  if digits.length ≤ integerDigitLimit then some (withSign negative (ofDigits digits)) else none

/-- The value of a decimal numeral: `digits` times ten to the `exponent`, or one
of the two values that are not finite. -/
inductive Decimal where
  | finite (negative : Bool) (digits : List Nat) (exponent : Int)
  | infinite
  | undefined
deriving DecidableEq, Repr

namespace Decimal

/-- An ASCII spelling of a character of a decimal numeral: a digit of any script
becomes the ASCII digit and a letter its small form. There is none for other
characters beyond ASCII. -/
def plainChar? (c : Char) : Option Char :=
  match digitValue? c with
  | some digit => some (Char.ofNat (48 + digit))
  | none => if c.toNat < 128 then some c.toLower else none

/-- The exponent part of a decimal numeral; without one the exponent is zero. -/
def exponent? : List Char → Option Int
  | [] => some 0
  | c :: rest =>
      if c = 'e' then
        let (negative, digits) := signed rest
        (natural? digits).map (withSign negative)
      else none

/-- The digits of a decimal numeral and its exponent, once sign and blanks are
gone: digits, an optional point with more digits, an optional exponent. At least
one digit has to stand on either side of the point. -/
def unsigned? (chars : List Char) : Option (List Nat × Int) := do
  let whole := chars.takeWhile isDigit
  let rest := chars.dropWhile isDigit
  let (fraction, rest) := match rest with
    | '.' :: behind => (behind.takeWhile isDigit, behind.dropWhile isDigit)
    | _ => ([], rest)
  if whole.isEmpty && fraction.isEmpty then none
  let digits ← (whole ++ fraction).mapM digitValue?
  let exponent ← exponent? rest
  return (digits, exponent - fraction.length)

/-- The largest power of ten that the first digit of a decimal numeral may stand for. -/
def largestExponent : Int := 999999999999999999

/-- The smallest power of ten that the last digit of a decimal numeral may stand for. -/
def smallestExponent : Int := -1999999999999999997

/-- The digits with their exponent are within the range of decimal numerals. Leading
zeros do not count, apart from the last digit of zero. -/
def inRange (digits : List Nat) (exponent : Int) : Bool :=
  let behindFirst := (digits.dropWhile (· = 0)).length - 1
  smallestExponent ≤ exponent && exponent + behindFirst ≤ largestExponent

/-- The spellings of a value that is not a number may carry digits. -/
def isUndefined (chars : List Char) : Bool :=
  let tail := match chars with
    | 's' :: rest => rest
    | _ => chars
  ['n', 'a', 'n'].isPrefixOf tail && (tail.drop 3).all isDigit

/-- The value of a decimal numeral. Underscores are skipped wherever they stand. -/
def ofText? (text : String) : Option Decimal := do
  let chars ← ((trimChars text.toList).filter (· ≠ '_')).mapM plainChar?
  let (negative, rest) := signed chars
  if rest = "inf".toList || rest = "infinity".toList then return .infinite
  if isUndefined rest then return .undefined
  let (digits, exponent) ← unsigned? rest
  if inRange digits exponent then some (.finite negative digits exponent) else none

/-- The integer left of a finite value when the digits behind the point are
dropped, which rounds towards zero. -/
def truncated (negative : Bool) (digits : List Nat) (exponent : Int) : Int :=
  withSign negative <|
    if exponent < 0 then ofDigits (digits.take (digits.length - exponent.natAbs))
    else if ofDigits digits = 0 then 0
    else ofDigits digits * Nat.pow 10 exponent.natAbs

/-- The absolute value of a finite value, if it has no fraction. -/
def whole? (digits : List Nat) (exponent : Int) : Option Nat :=
  let scale := Nat.pow 10 exponent.natAbs
  if 0 ≤ exponent then some (ofDigits digits * scale)
  else if ofDigits digits % scale = 0 then some (ofDigits digits / scale)
  else none

end Decimal

end Warehouse.Text
