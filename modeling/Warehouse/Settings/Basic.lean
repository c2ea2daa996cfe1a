import Warehouse.Dialect
import Warehouse.Log.Entry

/-! # Settings

The settings say what is logged and where, and which dialect is meant when none is
given. A level is named by a word in any letter case (`Settings.levelOf`). Nothing
here has an influence on a statement. -/

namespace Warehouse

/-- Named texts in order, such as the variables of an environment. -/
abbrev Variables := List (String × String)

/-- The settings of the library. -/
structure Settings where
  level : Log.Level := .info
  toFile : Bool := false
  directory : String := "logs"
  dialect : Dialect := .synapse
deriving DecidableEq, Repr

namespace Settings

/-- The level that a word in any letter case names, or a message. -/
def levelOf (word : String) : Except String Log.Level :=
  match Log.Level.ofName? (Text.upper word) with
  | some level => .ok level
  | none => .error ("Unsupported log level: " ++ word)

/-- A word is accepted exactly if it is the name of a level, whatever its letter case. -/
theorem levelOf_eq_ok_iff {word : String} {level : Log.Level} :
    levelOf word = .ok level ↔ Text.upper word = level.name := by
  have named : Log.Level.ofName? (Text.upper word) = some level ↔
      Text.upper word = level.name := by
    constructor
    · intro found
      unfold Log.Level.ofName? at found
      have same := List.find?_some found
      exact (of_decide_eq_true same).symm
    · intro same
      rw [same]
      cases level <;> decide
  rw [← named, levelOf]
  cases Log.Level.ofName? (Text.upper word) <;> simp

end Settings

end Warehouse
