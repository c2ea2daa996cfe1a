import Warehouse.Value

/-! # Named values in order

A log record and a catalog row are both lists of named values in which no name
occurs twice. Setting a field again keeps its place and changes its value. -/

namespace Warehouse

/-- Named values in order. -/
abbrev Fields := List (String × Value)

namespace Fields

/-- The fields with one of them set: in its old place if it was there, else at
the end. -/
def set (key : String) (value : Value) : Fields → Fields
  | [] => [(key, value)]
  | (other, old) :: rest =>
      if other = key then (key, value) :: rest else (other, old) :: set key value rest

/-- The fields overridden by others. -/
def override (fields others : Fields) : Fields :=
  others.foldl (fun result (key, value) => set key value result) fields

/-- The fields that given pairs set one after the other. -/
def ofPairs (pairs : List (String × Value)) : Fields := override [] pairs

/-- The value of the field with exactly the given name. -/
def find? (fields : Fields) (key : String) : Option Value :=
  (List.find? (·.1 = key) fields).map Prod.snd

theorem find?_set (key other : String) (value : Value) (fields : Fields) :
    (set key value fields).find? other =
      if other = key then some value else fields.find? other := by
  induction fields with
  | nil => by_cases same : other = key <;> simp [set, find?, same, eq_comm]
  | cons field rest ih =>
      obtain ⟨name, old⟩ := field
      simp only [find?] at ih ⊢
      unfold set
      by_cases here : name = key
      · subst here
        by_cases same : other = name
        · simp [same]
        · simp [same, Ne.symm same]
      · by_cases first : name = other
        · subst first
          simp [here]
        · simp [here, first, ih]

end Fields

end Warehouse
