import Mathlib.Data.List.Infix
import ByteTap.FileTree

/-!
# Looking for a file upwards

A file that is looked for by a relative path is the one in the working folder, or else the one in
the nearest folder above it (`search_concat`).  What is found depends on the folders up to that one,
and on no other part of the tree (`search_congr`).  A file that the path leads to is found at once
(`search_of_content`), and whatever is found is in the nearest folder that has it
(`searched_of_search`).
-/

namespace ByteTap

/-- The folder from which a path is followed, by its steps from the root. -/
def Path.base (path : Path) (cwd : List String) : List String := if path.absolute then [] else cwd

namespace FileTree

/-- A folder in which a file is looked for: the working folder or one above it, with no such file in
any that is nearer. -/
structure Searched (root : FileTree) (path : Path) (cwd folder : List String) : Prop where
  above : folder <+: cwd
  nearer : ∀ other, other <+: cwd → folder.length < other.length → root.content? other path = none

section

variable {root : FileTree} {path : Path} {cwd folder : List String} {step : String}

theorem search_nil (relative : path.absolute = false) :
    root.search [] path = (root.content? [] path).map (⟨[], ·⟩) := by
  unfold search
  rw [relative]
  rfl

/-- The folder above is searched if there is no such file in the working folder. -/
theorem search_concat (relative : path.absolute = false) :
    root.search (cwd ++ [step]) path =
      match root.content? (cwd ++ [step]) path with
      | some content => some ⟨cwd ++ [step], content⟩
      | none => root.search cwd path := by
  unfold search
  rw [relative, List.reverse_concat]
  show root.searchUp path (step :: cwd.reverse) = _
  rw [searchUp, List.reverse_cons, List.reverse_reverse]
  rfl

/-- The working folder is always searched. -/
theorem Searched.own (root : FileTree) (path : Path) (cwd : List String) :
    root.Searched path cwd cwd where
  above := List.prefix_rfl
  nearer _ among longer := absurd longer (Nat.not_lt.2 among.length_le)

/-- Where the working folder has no such file, what is searched from the folder above is searched
from the working folder too. -/
theorem Searched.concat (searched : root.Searched path cwd folder)
    (absent : root.content? (cwd ++ [step]) path = none) :
    root.Searched path (cwd ++ [step]) folder where
  above := searched.above.trans (List.prefix_append cwd [step])
  nearer other among longer := by
    rcases List.prefix_concat_iff.1 among with rfl | among
    · exact absent
    · exact searched.nearer other among longer

/-- From a folder that has the file, only that folder is searched. -/
theorem Searched.eq_of_isSome (searched : root.Searched path cwd folder)
    (present : (root.content? cwd path).isSome = true) : folder = cwd := by
  refine searched.above.eq_of_length_le (Nat.not_lt.1 fun shorter => ?_)
  rw [searched.nearer cwd List.prefix_rfl shorter] at present
  cases present

/-- Trees that have the same files in the folders that are searched have the same file found. -/
theorem search_congr {other : FileTree} (relative : path.absolute = false)
    (same : ∀ folder, root.Searched path cwd folder →
      other.content? folder path = root.content? folder path) :
    other.search cwd path = root.search cwd path := by
  -- From the root downwards, as the folders above a folder are those above the one it lies in.
  induction cwd using List.reverseRecOn with
  | nil =>
    rw [search_nil relative, search_nil relative, same [] (.own root path [])]
  | append_singleton cwd step ih =>
    rw [search_concat relative, search_concat relative, same _ (.own root path _)]
    cases found : root.content? (cwd ++ [step]) path with
    | some content => rfl
    | none => exact ih fun folder searched => same folder (searched.concat found)

/-- A file that the path leads to is found at once. -/
theorem search_of_content {content : Bytes} (present : root.content? cwd path = some content) :
    root.search cwd path = some ⟨path.base cwd, content⟩ := by
  unfold Path.base
  cases absolute : path.absolute with
  | true =>
    unfold search
    rw [absolute, present]
    rfl
  | false =>
    rcases List.eq_nil_or_concat cwd with rfl | ⟨above, step, rfl⟩
    · rw [search_nil absolute, present]
      rfl
    · rw [List.concat_eq_append] at present ⊢
      rw [search_concat absolute, present]
      rfl

/-- What is found lies in the nearest folder that has it. -/
theorem searched_of_search {found : Found} (relative : path.absolute = false)
    (searches : root.search cwd path = some found) :
    root.Searched path cwd found.base ∧
      root.content? found.base path = some found.content := by
  induction cwd using List.reverseRecOn with
  | nil =>
    rw [search_nil relative] at searches
    obtain ⟨content, present, rfl⟩ := Option.map_eq_some_iff.1 searches
    exact ⟨.own root path [], present⟩
  | append_singleton cwd step ih =>
    rw [search_concat relative] at searches
    cases here : root.content? (cwd ++ [step]) path with
    | some content =>
      rw [here] at searches
      cases searches
      exact ⟨.own root path _, here⟩
    | none =>
      rw [here] at searches
      obtain ⟨searched, present⟩ := ih searches
      exact ⟨searched.concat here, present⟩

end

end FileTree

end ByteTap
