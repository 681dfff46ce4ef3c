/-!
# Outcomes

What is known of computations that may fail and did not: of one after another, that each came to
something (`bind_eq_ok`), and of what they came to, a property that holds whatever went before
(`Reads.bind`).
-/

namespace ByteTap

theorem bind_eq_ok {ε α β : Type} {first : Except ε α} {rest : α → Except ε β} {b : β} :
    first >>= rest = .ok b ↔ ∃ a, first = .ok a ∧ rest a = .ok b := by
  cases first with
  | error cause => exact ⟨nofun, nofun⟩
  | ok a => exact ⟨fun done => ⟨a, rfl, done⟩, by rintro ⟨_, ⟨⟩, done⟩; exact done⟩

theorem mapError_eq_ok {ε ε' α : Type} {f : ε → ε'} {result : Except ε α} {a : α} :
    result.mapError f = .ok a ↔ result = .ok a := by
  cases result with
  | error cause => exact ⟨nofun, nofun⟩
  | ok b => exact ⟨fun same => congrArg _ (Except.ok.inj same),
      fun same => congrArg _ (Except.ok.inj same)⟩

theorem eq_ok_of_toOption {ε α : Type} {result : Except ε α} {a : α}
    (came : result.toOption = some a) : result = .ok a := by
  cases result with
  | error cause => cases came
  | ok b => exact congrArg _ (Option.some.inj came)

theorem eq_ok_iff {ε α : Type} {result : Except ε α} {a : α} :
    result = .ok a ↔ result.toOption = some a := by
  constructor
  · rintro rfl
    rfl
  · exact eq_ok_of_toOption

theorem exists_of_any {ε α : Type} {result : Except ε α} {p : α → Bool}
    (any : result.toOption.any p = true) : ∃ a, result = .ok a ∧ p a = true := by
  cases result with
  | error cause => cases any
  | ok a => exact ⟨a, rfl, any⟩

/-- Whatever is read has a property. -/
def Reads {α : Type} (P : α → Prop) (read : Option α) : Prop := ∀ a, read = some a → P a

section

variable {α β : Type} {P : α → Prop} {a : α}

theorem Reads.none : Reads P none := by
  rintro a ⟨⟩

theorem Reads.some (holds : P a) : Reads P (some a) := by
  rintro _ ⟨⟩
  exact holds

theorem Reads.bind {read : Option β} {after : β → Option α}
    (holds : ∀ b, read = .some b → Reads P (after b)) : Reads P (read >>= after) := by
  intro a whole
  obtain ⟨b, first, second⟩ := Option.bind_eq_some_iff.1 whole
  exact holds b first a second

theorem Reads.getD {read : Option α} (holds : Reads P read) (otherwise : P a) :
    P (read.getD a) := by
  cases read with
  | none => exact otherwise
  | some b => exact holds b rfl

theorem Reads.or {first : Option α} {second : Unit → Option α} (holds : Reads P first)
    (otherwise : Reads P (second ())) : Reads P (first.orElse second) := by
  cases first with
  | none => exact otherwise
  | some read => exact holds

end

end ByteTap
