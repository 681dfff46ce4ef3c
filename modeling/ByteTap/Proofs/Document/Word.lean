import ByteTap.Document.Inline
import Mathlib.Data.List.TakeWhile

/-!
# Words

A word of ASCII letters needs no quotes on one line of text: it stands for itself (`parse_of_word`),
as it is no number (`bare_of_word`), and only `true` and `false` are truth values.  A longer word
may start like one of these; what is left of it then shows that it is none (`value_of_word`).
-/

namespace ByteTap.Document.Inline

/-! ## Letters -/

section

variable {c : Char} (letter : c.isAlpha = true)

include letter

/-- The codes of the letters are two intervals, apart from those of all other classes. -/
theorem code_of_letter : 65 ≤ c.toNat ∧ c.toNat ≤ 90 ∨ 97 ≤ c.toNat ∧ c.toNat ≤ 122 := by
  rcases Bool.or_eq_true_iff.1 letter with capital | small
  · exact .inl (of_decide_eq_true capital)
  · obtain ⟨low, high⟩ := Bool.and_eq_true_iff.1 small
    exact .inr ⟨of_decide_eq_true low, of_decide_eq_true high⟩

theorem isBlank_of_letter : isBlank c = false := by
  rw [Bool.eq_false_iff]
  intro blank
  simp only [isBlank, Bool.or_eq_true, decide_eq_true_eq] at blank
  rcases blank with (((rfl | rfl) | rfl) | rfl) | rfl
  all_goals exact absurd letter (by decide)

theorem isBare_of_letter : isBare c = true := by
  by_contra special
  simp only [isBare, Bool.not_eq_true, Bool.not_eq_false', Bool.or_eq_true, decide_eq_true_eq]
    at special
  rcases special with (((rfl | rfl) | rfl) | rfl) | rfl
  all_goals exact absurd letter (by decide)

theorem isBlank_text_of_letter : Text.isBlank c = false := by
  have code := code_of_letter letter
  simp [Text.isBlank, Text.blankRanges]
  omega

theorem isDigit_of_letter : c.isDigit = false := by
  have code := code_of_letter letter
  simp [Char.isDigit, UInt32.le_iff_toNat_le]
  omega

end

/-! ## Words of letters -/

section

variable {cs : List Char} (word : ∀ c ∈ cs, c.isAlpha = true)

include word

theorem dropWhile_of_word {p : Char → Bool} (none : ∀ c, c.isAlpha = true → p c = false) :
    cs.dropWhile p = cs := by
  cases cs with
  | nil => rfl
  | cons c cs =>
    have first := none c (word c List.mem_cons_self)
    exact List.dropWhile_cons_of_neg (Bool.eq_false_iff.1 first)

theorem trimChars_of_word : Text.trimChars cs = cs := by
  have back : ∀ c ∈ cs.reverse, c.isAlpha = true := fun c among => word c (List.mem_reverse.1 among)
  unfold Text.trimChars
  rw [dropWhile_of_word word fun _ => isBlank_text_of_letter,
    dropWhile_of_word back fun _ => isBlank_text_of_letter, List.reverse_reverse]

theorem sign_of_word : Toml.sign cs = (false, cs) := by
  unfold Toml.sign
  split
  · exact absurd (word _ List.mem_cons_self) (by decide)
  · exact absurd (word _ List.mem_cons_self) (by decide)
  · rfl

theorem someDigits_of_word : someDigits cs = none := by
  cases cs with
  | nil => rfl
  | cons c cs =>
    have first := isDigit_of_letter (word c List.mem_cons_self)
    simp [someDigits, first]

/-- A bare word is no number, so it is a text. -/
theorem bare_of_word : bare cs = .text (String.ofList cs) := by
  have float : float? cs = none := by
    unfold float?
    rw [sign_of_word word]
    dsimp only
    rw [dropWhile_of_word word fun _ => isDigit_of_letter]
    split
    · exact absurd (word _ List.mem_cons_self) (by decide)
    · rfl
  have natural : natural? cs = none := by
    unfold natural?
    split
    · exact absurd (word _ List.mem_cons_self) (by decide)
    · rw [someDigits_of_word word]
      rfl
  have integer : integer? cs = none := by
    unfold integer?
    rw [sign_of_word word]
    dsimp only
    rw [someDigits_of_word word]
    rfl
  unfold bare
  dsimp only
  rw [trimChars_of_word word, float, natural, integer]
  rfl

theorem skipBlank_of_word : skipBlank cs = cs :=
  dropWhile_of_word word fun _ => isBlank_of_letter

/-- A word is a text, unless a truth value stands at its front. -/
theorem value_of_word (fuel : Nat) :
    value (fuel + 1) cs = .ok (.text (String.ofList cs), []) ∨
      ∃ (b : Bool) (rest : List Char), cs = (toString b).toList ++ rest ∧
        value (fuel + 1) cs = .ok (.bool b, rest) := by
  have front := skipBlank_of_word word
  unfold value
  rw [front]
  split
  · next rest =>
    have after : skipBlank rest = rest := skipBlank_of_word fun c among => by simp [word, among]
    refine .inr ⟨true, rest, rfl, ?_⟩
    exact congrArg (fun rest => Except.ok (Document.bool true, rest)) after
  · next rest =>
    have after : skipBlank rest = rest := skipBlank_of_word fun c among => by simp [word, among]
    refine .inr ⟨false, rest, rfl, ?_⟩
    exact congrArg (fun rest => Except.ok (Document.bool false, rest)) after
  -- Brackets and quotes are no letters.
  iterate 5 exact absurd (word _ List.mem_cons_self) (by decide)
  have bare : ∀ c ∈ cs, isBare c = true := fun c among => isBare_of_letter (word c among)
  have all : cs.takeWhile isBare = cs := List.takeWhile_eq_self_iff.2 bare
  have nothing : cs.dropWhile isBare = [] := List.dropWhile_eq_nil_iff.2 bare
  rw [all, nothing, bare_of_word word]
  exact .inl rfl

end

/-- A word that is no truth value stands for itself. -/
theorem parse_of_word {text : String} (word : ∀ c ∈ text.toList, c.isAlpha = true)
    (other : ∀ b : Bool, text ≠ toString b) : parse text = .ok (.text text) := by
  unfold parse
  dsimp only
  rcases value_of_word word text.toList.length with read | ⟨b, rest, same, read⟩
  · rw [read, String.ofList_toList]
  · rw [read]
    cases rest with
    | nil =>
      rw [List.append_nil, String.toList_inj] at same
      exact absurd same (other b)
    | cons c rest => rfl

end ByteTap.Document.Inline
