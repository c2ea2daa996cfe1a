/-! # Decimal digits of all scripts

Numerals may be written with the decimal digits of any script. The digits of a
script are ten consecutive characters, so a table of the zeros is enough. -/

namespace Warehouse.Text

/-- The code points of the zeros beyond ASCII (Unicode version 14); the nine
digits of the same script follow each of them. -/
def digitZeros : List Nat := [
    1632, 1776, 1984, 2406, 2534, 2662, 2790, 2918, 3046, 3174, 3302, 3430, 3558, 3664, 3792,
    3872, 4160, 4240, 6112, 6160, 6470, 6608, 6784, 6800, 6992, 7088, 7232, 7248, 42528, 43216,
    43264, 43472, 43504, 43600, 44016, 65296, 66720, 68912, 69734, 69872, 69942, 70096, 70384,
    70736, 70864, 71248, 71360, 71472, 71904, 72016, 72784, 73040, 73120, 92768, 92864, 93008,
    120782, 120792, 120802, 120812, 120822, 123200, 123632, 125264, 130032]

/-- The value of a decimal digit of any script. -/
def digitValue? (c : Char) : Option Nat :=
  if c.toNat < 128 then if c.isDigit then some (c.toNat - 48) else none
  else digitZeros.findSome? fun start =>
    if start ≤ c.toNat ∧ c.toNat < start + 10 then some (c.toNat - start) else none

/-- A decimal digit of any script. -/
def isDigit (c : Char) : Bool := (digitValue? c).isSome

/-- One or more decimal digits. -/
def isDigits (chars : List Char) : Bool := !chars.isEmpty && chars.all isDigit

/-- The number written by a list of digit values, the most significant first. -/
def ofDigits (digits : List Nat) : Nat := digits.foldl (fun number digit => 10 * number + digit) 0

/-- The number written by decimal digits alone. -/
def natural? (chars : List Char) : Option Nat :=
  if chars.isEmpty then none else (chars.mapM digitValue?).map ofDigits

theorem digitValue?_of_ascii {c : Char} (ascii : c.toNat < 128) :
    digitValue? c = if c.isDigit then some (c.toNat - 48) else none := if_pos ascii

end Warehouse.Text
