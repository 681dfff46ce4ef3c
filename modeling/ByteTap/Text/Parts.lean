/-!
# Parts of a text

A text cut at every occurrence of a character: paths at slashes, keys at points.
-/

namespace ByteTap.Text

/-- The parts between the occurrences of a character; there is always at least one. -/
def split (sep : Char) : List Char → List (List Char)
  | [] => [[]]
  | c :: cs =>
      if c = sep then [] :: split sep cs
      else match split sep cs with
        | part :: parts => (c :: part) :: parts
        | [] => [[c]]

/-- The parts of a text between the occurrences of a character. -/
def parts (sep : Char) (s : String) : List String := (split sep s.toList).map String.ofList

/-- Even the empty text has a part, which is empty. -/
theorem split_ne_nil (sep : Char) (cs : List Char) : split sep cs ≠ [] := by
  cases cs with
  | nil => simp [split]
  | cons c cs =>
      simp only [split]
      split
      · simp
      · split <;> simp

end ByteTap.Text
