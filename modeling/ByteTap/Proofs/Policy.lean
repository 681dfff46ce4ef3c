import ByteTap.Document.Decode
import ByteTap.Proofs.Outcome
import Mathlib

/-!
# How a policy is written

A policy is read in two ways: by `Policy.parse` from a word of the command line, without regard to
capitals, and by `Policy.decode` from a text in a document, which has to be its name.

* `parse_eq_ok`: the command line takes every text that spells the policy letter by letter, each of
  them small or a capital (`Spells`);
* `decode_text_eq_ok`: a document takes the name alone;
* `toOption_eq_iff`: so the two differ on the texts that spell a policy with a capital in them
  (`Capitalised`), and on no others.

Capitals are those of ASCII, so that no other character stands for a letter of a name.
-/

namespace ByteTap

/-! ## Capitals -/

/-- A small letter is what it and its capital fold to, and nothing else. -/
theorem toLower_eq_iff {c letter : Char} (small : letter.isLower = true) :
    c.toLower = letter ↔ c = letter ∨ c = letter.toUpper := by
  have plain : letter.toLower = letter :=
    Char.toLower_eq_of_not_isUpper (Char.not_isUpper_of_isLower small)
  constructor
  · rintro rfl
    by_cases capital : c.isUpper
    · have own := Char.toUpper_eq_of_not_isLower (Char.not_isLower_of_isUpper capital)
      exact .inr ((Char.toUpper_toLower_eq_toUpper c).trans own).symm
    · exact .inl (Char.toLower_eq_of_not_isUpper capital).symm
  · rintro (rfl | rfl)
    · exact plain
    · exact (Char.toLower_toUpper_eq_toLower letter).trans plain

/-- A text folds to a word of small letters if each of its letters does. -/
theorem map_toLower_eq_iff {cs letters : List Char}
    (small : ∀ letter ∈ letters, letter.isLower = true) :
    cs.map Char.toLower = letters ↔
      List.Forall₂ (fun c letter => c = letter ∨ c = letter.toUpper) cs letters := by
  induction letters generalizing cs with
  | nil => rw [List.map_eq_nil_iff, List.forall₂_nil_right_iff]
  | cons letter letters ih =>
    obtain ⟨first, rest⟩ := List.forall_mem_cons.1 small
    cases cs with
    | nil => exact ⟨nofun, nofun⟩
    | cons c cs =>
      rw [List.map_cons, List.cons_eq_cons, List.forall₂_cons, toLower_eq_iff first, ih rest]

namespace Policy

/-- The text is the name of the policy, where each letter may be a capital. -/
def Spells (text : String) (p : Policy) : Prop :=
  List.Forall₂ (fun c letter => c = letter ∨ c = letter.toUpper) text.toList p.name.toList

/-- The text is the name of a policy but for capitals. -/
def Capitalised (text : String) : Prop := ∃ p, Spells text p ∧ text ≠ p.name

variable {text : String} {p : Policy} {dialect : Dialect}

theorem spells_name (p : Policy) : Spells p.name p :=
  List.forall₂_same.2 fun _ _ => .inl rfl

theorem isLower_of_mem_name {letter : Char} (among : letter ∈ p.name.toList) :
    letter.isLower = true := by
  have all : p.name.toList.all Char.isLower = true := by cases p <;> decide
  exact List.all_eq_true.1 all letter among

/-- Without its capitals, a text is the name of the policy that it spells. -/
theorem foldCase_eq_name : foldCase text = p.name ↔ Spells text p := by
  have small : ∀ letter ∈ p.name.toList, letter.isLower = true := fun _ => isLower_of_mem_name
  rw [Spells, ← map_toLower_eq_iff small, foldCase, ← String.toList_inj, String.toList_ofList]

theorem ofName?_eq_some : ofName? text = some p ↔ text = p.name := by
  constructor
  · unfold ofName?
    intro found
    have named := List.find?_some found
    exact (beq_iff_eq.1 named).symm
  · rintro rfl
    cases p <;> rfl

/-- A text that spells a policy has letters alone. -/
theorem isAlpha_of_spells (spelled : Spells text p) : ∀ c ∈ text.toList, c.isAlpha = true := by
  intro c among
  have folded : c.toLower ∈ p.name.toList := by
    rw [← foldCase_eq_name.2 spelled, foldCase, String.toList_ofList]
    exact List.mem_map_of_mem among
  rw [← Char.isLower_toLower_eq_isAlpha]
  exact isLower_of_mem_name folded

/-! ## The two readers -/

theorem toOption_parse : (parse text).toOption = ofName? (foldCase text) := by
  unfold parse
  cases ofName? (foldCase text) <;> rfl

theorem toOption_decode_text : (decode dialect (.text text)).toOption = ofName? text := by
  show (choice.named text).toOption = choice.ofName? text
  unfold Decoder.Choice.named
  cases choice.ofName? text <;> rfl

/-- The reader of the command line takes every spelling. -/
theorem parse_eq_ok : parse text = .ok p ↔ Spells text p := by
  rw [eq_ok_iff, toOption_parse, ofName?_eq_some, foldCase_eq_name]

/-- The reader of documents takes the name alone. -/
theorem decode_text_eq_ok : decode dialect (.text text) = .ok p ↔ text = p.name := by
  rw [eq_ok_iff, toOption_decode_text, ofName?_eq_some]

/-- The readers come to the same policy, or both to none, unless the text has capitals. -/
theorem toOption_eq_iff :
    (parse text).toOption = (decode dialect (.text text)).toOption ↔ ¬ Capitalised text := by
  constructor
  · rintro same ⟨p, spelled, different⟩
    rw [parse_eq_ok.2 spelled] at same
    exact different (decode_text_eq_ok.1 (eq_ok_iff.2 same.symm))
  · intro plain
    refine Option.ext fun p => ?_
    rw [← eq_ok_iff, ← eq_ok_iff, parse_eq_ok, decode_text_eq_ok]
    constructor
    · intro spelled
      by_contra different
      exact plain ⟨p, spelled, different⟩
    · rintro rfl
      exact spells_name p

/-- A name has no capitals. -/
theorem not_capitalised_name (p : Policy) : ¬ Capitalised p.name := by
  have same : (parse p.name).toOption = (decode .plain (.text p.name)).toOption := by
    rw [parse_eq_ok.2 (spells_name p), decode_text_eq_ok.2 rfl]
    rfl
  exact toOption_eq_iff.1 same

end Policy

end ByteTap
