import Warehouse.Settings.File

/-! # The place of the settings file is in normal form

A path in normal form has parts that lead somewhere and are not broken by slashes. The place of
the settings file always is in this form (`settingsFile_isNormal`), and the text of an absolute
place is read as the same place again (`FilePath.IsNormal.ofText_textBelow`). -/

namespace Warehouse

namespace FilePath

/-- A part of a path that leads to another directory or file. -/
structure IsPart (part : String) : Prop where
  present : part ≠ ""
  moves : part ≠ "."
  unbroken : '/' ∉ part.toList

/-- The path begins in one of the three ways, and all its parts lead somewhere. -/
structure IsNormal (path : FilePath) : Prop where
  root : path.root ∈ ["", "/", "//"]
  parts : ∀ part ∈ path.parts, IsPart part

/-! ## Segments -/

theorem segments_ne_nil (chars : List Char) : segments chars ≠ [] := by
  cases chars with
  | nil => exact List.cons_ne_nil _ _
  | cons c rest =>
      unfold segments
      split
      · exact List.cons_ne_nil _ _
      · split <;> exact List.cons_ne_nil _ _

theorem not_mem_of_mem_segments {chars segment : List Char} (member : segment ∈ segments chars) :
    '/' ∉ segment := by
  induction chars generalizing segment with
  | nil => simp [List.mem_singleton.mp member]
  | cons c rest ih =>
      unfold segments at member
      split at member
      · rcases List.mem_cons.mp member with rfl | later
        · exact List.not_mem_nil
        · exact ih later
      · rename_i solid
        split at member
        · rename_i none
          exact absurd none (segments_ne_nil rest)
        · rename_i first others split
          rw [split] at ih
          rcases List.mem_cons.mp member with rfl | later
          · exact List.not_mem_cons_of_ne_of_not_mem (Ne.symm solid) (ih List.mem_cons_self)
          · exact ih (List.mem_cons_of_mem _ later)

theorem segments_of_not_mem {part : List Char} (unbroken : '/' ∉ part) :
    segments part = [part] := by
  induction part with
  | nil => rfl
  | cons c rest ih =>
      obtain ⟨solid, behind⟩ := List.ne_and_not_mem_of_not_mem_cons unbroken
      simp [segments, Ne.symm solid, ih behind]

theorem segments_append {part : List Char} (unbroken : '/' ∉ part) (rest : List Char) :
    segments (part ++ '/' :: rest) = part :: segments rest := by
  induction part with
  | nil => simp [segments]
  | cons c part ih =>
      obtain ⟨solid, behind⟩ := List.ne_and_not_mem_of_not_mem_cons unbroken
      simp [segments, Ne.symm solid, ih behind]

/-- Parts with slashes between them are the segments of their text. -/
theorem segments_intercalate {parts : List (List Char)} (present : parts ≠ [])
    (unbroken : ∀ part ∈ parts, '/' ∉ part) : segments (['/'].intercalate parts) = parts := by
  induction parts with
  | nil => exact absurd rfl present
  | cons part others ih =>
      obtain ⟨first, behind⟩ := List.forall_mem_cons.mp unbroken
      cases others with
      | nil => simpa using segments_of_not_mem first
      | cons next others =>
          have joined : ['/'].intercalate (part :: next :: others) =
              part ++ '/' :: ['/'].intercalate (next :: others) := by
            simp [List.intercalate_cons_cons]
          rw [joined, segments_append first, ih (List.cons_ne_nil _ _) behind]

/-! ## Normal forms -/

theorem rootOf_mem (chars : List Char) : rootOf chars ∈ ["", "/", "//"] := by
  unfold rootOf
  split <;> simp

theorem isNormal_ofText (text : String) : (ofText text).IsNormal where
  root := rootOf_mem text.toList
  parts part member := by
    obtain ⟨kept, leads⟩ := List.mem_filter.mp member
    obtain ⟨segment, found, rfl⟩ := List.mem_map.mp kept
    obtain ⟨present, moves⟩ : String.ofList segment ≠ "" ∧ String.ofList segment ≠ "." := by
      simpa using leads
    exact ⟨present, moves, by simpa using not_mem_of_mem_segments found⟩

theorem isNormal_of_ofHome? {home : String} {directory : FilePath}
    (known : ofHome? home = some directory) : directory.IsNormal := by
  unfold ofHome? at known
  dsimp only at known
  split at known
  · cases known
    exact isNormal_ofText _
  · cases known
  · cases known
    exact isNormal_ofText _

theorem IsNormal.expandHome? {home : Option String} {path place : FilePath}
    (normal : path.IsNormal) (expanded : path.expandHome? home = some place) :
    place.IsNormal := by
  unfold FilePath.expandHome? at expanded
  split at expanded
  · rename_i first rest _ parts
    split at expanded
    · obtain ⟨text, -, known⟩ := Option.bind_eq_some_iff.mp expanded
      obtain ⟨directory, home, placed⟩ := Option.bind_eq_some_iff.mp known
      cases placed
      have base := isNormal_of_ofHome? home
      refine ⟨base.root, List.forall_mem_append.mpr ⟨base.parts, fun part member => ?_⟩⟩
      exact normal.parts part (parts ▸ List.mem_cons_of_mem first member)
    · cases expanded
      exact normal
  · cases expanded
    exact normal

/-! ## Reading the text of a place -/

section

variable {parts : List String} (leading : ∀ part ∈ parts, IsPart part)

include leading

theorem filter_segments_intercalate :
    ((segments (['/'].intercalate (parts.map String.toList))).map String.ofList).filter
      (fun part => part ≠ "" && part ≠ ".") = parts := by
  by_cases empty : parts = []
  · subst empty
    rfl
  · have unbroken : ∀ part ∈ parts.map String.toList, '/' ∉ part :=
      List.forall_mem_map.mpr fun part member => (leading part member).unbroken
    rw [segments_intercalate (by simpa using empty) unbroken, List.map_map]
    have same : String.ofList ∘ String.toList = id := funext fun _ => String.ofList_toList
    rw [same, List.map_id, List.filter_eq_self]
    intro part member
    simp [(leading part member).present, (leading part member).moves]

theorem takeWhile_intercalate :
    (['/'].intercalate (parts.map String.toList)).takeWhile (· = '/') = [] := by
  cases parts with
  | nil => rfl
  | cons part others =>
      have first := leading part List.mem_cons_self
      obtain ⟨c, rest, chars⟩ := List.exists_cons_of_ne_nil
        (fun empty : part.toList = [] => first.present (String.toList_eq_nil_iff.mp empty))
      have solid : c ≠ '/' := by
        rintro rfl
        exact first.unbroken (chars ▸ List.mem_cons_self)
      cases others <;> simp [chars, solid, List.intercalate_cons_cons]

end

/-- The text of an absolute path in normal form is read as this path. -/
theorem IsNormal.ofText_textBelow {path : FilePath} (normal : path.IsNormal)
    (absolute : path.isAbsolute = true) (directory : String) :
    ofText (path.textBelow directory) = path := by
  obtain ⟨root, parts⟩ := path
  have kept := filter_segments_intercalate normal.parts
  have front := takeWhile_intercalate normal.parts
  have text : (textBelow directory ⟨root, parts⟩).toList =
      root.toList ++ ['/'].intercalate (parts.map String.toList) := by
    simp [textBelow, absolute]
  have roots : root = "" ∨ root = "/" ∨ root = "//" := by simpa using normal.root
  rcases roots with rfl | rfl | rfl
  · simp [isAbsolute] at absolute
  · simpa [ofText, text, rootOf, segments, front] using kept
  · simpa [ofText, text, rootOf, segments, front] using kept

end FilePath

/-- Wherever the settings file is, its place is in normal form. -/
theorem settingsFile_isNormal {environment : Variables} {place : FilePath}
    (found : settingsFile environment = .ok place) : place.IsNormal := by
  unfold settingsFile at found
  split at found
  · cases found
    exact FilePath.isNormal_ofText ".env"
  · cases found
    exact FilePath.isNormal_ofText ".env"
  · split at found
    · rename_i path expanded
      cases found
      exact (FilePath.isNormal_ofText _).expandHome? expanded
    · cases found

end Warehouse
