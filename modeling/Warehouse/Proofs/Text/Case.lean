import Warehouse.Datatype.TypeName

/-! # Letter case of ASCII texts

A text of ASCII letters in any case has one form in capitals, and the type names of all
dialects are in their normal form already. -/

namespace Warehouse

namespace Text

/-- What holds of all code points of ASCII holds of all characters of ASCII. -/
theorem forall_ascii {holds : Char → Prop} (all : ∀ code < 128, holds (Char.ofNat code)) :
    ∀ c : Char, c.toNat < 128 → holds c := by
  intro c ascii
  have here := all c.toNat ascii
  rwa [Char.ofNat_toNat] at here

/-- Beyond ASCII no character has a capital among the letters of ASCII. -/
theorem toUpper_of_not_ascii {c : Char} (beyond : ¬ c.toNat < 128) : c.toUpper = c := by
  unfold Char.toUpper
  split
  · rename_i small
    have upper : c.toNat ≤ 122 := UInt32.le_iff_toNat_le.mp small.2
    omega
  · rfl

theorem toNat_lt_of_toUpper {c : Char} (ascii : c.toUpper.toNat < 128) : c.toNat < 128 :=
  Decidable.byContradiction fun beyond => beyond (toUpper_of_not_ascii beyond ▸ ascii)

theorem toNat_lt_of_toLower {c : Char} (ascii : c.toLower.toNat < 128) : c.toNat < 128 := by
  unfold Char.toLower at ascii
  split at ascii
  · rename_i capital
    have upper : c.toNat ≤ 90 := UInt32.le_iff_toNat_le.mp capital.2
    omega
  · exact ascii

/-- Characters of ASCII stand for their small forms. -/
theorem caseless_of_ascii {c : Char} (ascii : c.toNat < 128) : caseless c = c.toLower := by
  have long : c.toNat ≠ 0x17F := by omega
  have kelvin : c.toNat ≠ 0x212A := by omega
  have turkish : ¬ (c.toNat = 0x131 ∨ c.toNat = 0x130) := by omega
  rw [caseless, if_neg long, if_neg kelvin, if_neg turkish]

/-- A word of ASCII in any letter case is that word in a comparison without regard to case. -/
theorem map_caseless_of_map_toLower {chars word : List Char}
    (ascii : word.all (·.toNat < 128) = true) (same : chars.map Char.toLower = word) :
    chars.map caseless = word := by
  rw [← same]
  refine List.map_congr_left fun c member => caseless_of_ascii (toNat_lt_of_toLower ?_)
  exact of_decide_eq_true (List.all_eq_true.mp ascii _ (same ▸ List.mem_map_of_mem member))

/-- All characters of the text are of ASCII. -/
def isAscii (text : String) : Bool := text.toList.all (·.toNat < 128)

/-- A text that differs from an ASCII text in capitals by the case of its letters only has
that text for its form in capitals. -/
theorem upper_eq_of_map_toUpper {text capitals : String}
    (same : text.toList.map Char.toUpper = capitals.toList)
    (ascii : isAscii capitals = true) : upper text = capitals := by
  have each : ∀ c ∈ text.toList, Text.capitals c = [c.toUpper] := by
    intro c member
    apply capitals_of_ascii
    apply toNat_lt_of_toUpper
    apply of_decide_eq_true
    exact List.all_eq_true.mp ascii _ (same ▸ List.mem_map_of_mem member)
  rw [← String.toList_inj, toList_upper, List.flatMap_def, List.map_congr_left each,
    ← List.flatMap_def, ← same, List.map_eq_flatMap]

/-- The characters are capitals or without case, in words separated by single spaces. -/
def isNormal (chars : List Char) : Bool :=
  chars.all (fun c => c.toNat < 128 && c.toUpper = c) && squeezeChars chars = chars

variable {text : String} (normal : isNormal text.toList = true)

include normal

theorem isAscii_of_isNormal : isAscii text = true := by
  have capitals := List.all_eq_true.mp (Bool.and_eq_true_iff.mp normal).1
  refine List.all_eq_true.mpr fun c member => ?_
  exact (Bool.and_eq_true_iff.mp (capitals c member)).1

theorem capitalWords_of_isNormal : capitalWords text = text := by
  obtain ⟨capitals, single⟩ := Bool.and_eq_true_iff.mp normal
  have squeezed : squeeze text = text := by
    rw [squeeze, of_decide_eq_true single, String.ofList_toList]
  have upper : text.toList.map Char.toUpper = text.toList := by
    refine (List.map_congr_left fun c member => ?_).trans (List.map_id _)
    have capital := List.all_eq_true.mp capitals c member
    exact of_decide_eq_true (Bool.and_eq_true_iff.mp capital).2
  rw [capitalWords, squeezed]
  exact upper_eq_of_map_toUpper upper (isAscii_of_isNormal normal)

end Text

theorem Dialect.isNormal_of_mem_typeNames {dialect : Dialect} {type : String}
    (known : type ∈ dialect.typeNames) : Text.isNormal type.toList = true := by
  revert type
  cases dialect <;> decide +kernel

end Warehouse
