import ByteTap.Settings
import Mathlib.Algebra.GroupWithZero.Nat

/-!
# The wait after failed reads, in numbers

The wait is computed in words of 64 bits: a power of two, a product that saturates, and a minimum.
`Settings.delay` is the same without bounds on the numbers, and `toNat_backoff` says that the two
never differ.  From it follow the laws of the wait: it never gets shorter while failures go on
(`backoff_mono`), and with valid settings it lies between the first and the longest wait
(`errorBackoffMs_le_backoff`, `backoff_le_maxErrorBackoffMs`).  From one failure to the next it
doubles (`delay_succ`), but only 16 times (`delay_of_many`): whether it becomes as long as it may be
depends on how far the two settings are apart (`delay_eq_max_iff`).
-/

namespace ByteTap.Settings

variable (s : Settings)

/-- The wait in milliseconds after that many failed reads in a row, in numbers without bounds. -/
def delay (failures : Nat) : Nat :=
  min s.maxErrorBackoffMs.toNat (s.errorBackoffMs.toNat * 2 ^ min (failures - 1) 16)

/-- A product that is too large is the largest number. -/
theorem toNat_saturatingMul (a b : UInt64) :
    (saturatingMul a b).toNat = min (a.toNat * b.toNat) (UInt64.size - 1) := by
  unfold saturatingMul
  split
  · next fits =>
    rw [UInt64.toNat_mul, Nat.mod_eq_of_lt fits]
    omega
  · next overflows =>
    have largest : (UInt64.ofNat (UInt64.size - 1)).toNat = UInt64.size - 1 := by decide
    rw [largest]
    omega

/-- The power of two by which the first wait is multiplied is a word. -/
theorem toNat_ofNat_pow_doublings (failures : Nat) :
    (UInt64.ofNat (Nat.pow 2 (doublings failures))).toNat = 2 ^ min (failures - 1) 16 := by
  have small : 2 ^ min (failures - 1) 16 ≤ 2 ^ 16 :=
    Nat.pow_le_pow_right (by decide) (Nat.min_le_right _ _)
  show (UInt64.ofNat (2 ^ min (failures - 1) 16)).toNat = _
  exact UInt64.toNat_ofNat_of_lt' (Nat.lt_of_le_of_lt small (by decide))

theorem toNat_min (a b : UInt64) : (min a b).toNat = min a.toNat b.toNat := by
  show (if a ≤ b then a else b).toNat = _
  split
  · next le => rw [Nat.min_eq_left (UInt64.le_iff_toNat_le.1 le)]
  · next lt => rw [Nat.min_eq_right (Nat.le_of_not_le (mt UInt64.le_iff_toNat_le.2 lt))]

/-- The computation in words never differs from the one in numbers without bounds: where the product
does not fit into a word, it is beyond the longest wait, which does. -/
theorem toNat_backoff (failures : Nat) : (s.backoff failures).toNat = s.delay failures := by
  have word : s.maxErrorBackoffMs.toNat < UInt64.size := s.maxErrorBackoffMs.toNat_lt
  rw [backoff, toNat_min, toNat_saturatingMul, toNat_ofNat_pow_doublings, delay]
  omega

/-- Counting the failures in a word of 32 bits that stays at its largest value changes nothing. -/
theorem backoff_of_counted (failures : Nat) :
    s.backoff (min failures (UInt32.size - 1)) = s.backoff failures := by
  have doublings : doublings (min failures (UInt32.size - 1)) = doublings failures := by
    have large : UInt32.size = 2 ^ 32 := rfl
    unfold doublings
    omega
  rw [backoff, doublings, backoff]

theorem delay_mono {failures more : Nat} (le : failures ≤ more) :
    s.delay failures ≤ s.delay more := by
  have exponent : min (failures - 1) 16 ≤ min (more - 1) 16 := by omega
  have power : 2 ^ min (failures - 1) 16 ≤ 2 ^ min (more - 1) 16 :=
    Nat.pow_le_pow_right (by decide) exponent
  have product := Nat.mul_le_mul_left s.errorBackoffMs.toNat power
  unfold delay
  omega

/-- The wait never gets shorter while failures go on. -/
theorem backoff_mono {failures more : Nat} (le : failures ≤ more) :
    s.backoff failures ≤ s.backoff more := by
  rw [UInt64.le_iff_toNat_le, toNat_backoff, toNat_backoff]
  exact s.delay_mono le

theorem backoff_le_maxErrorBackoffMs (failures : Nat) :
    s.backoff failures ≤ s.maxErrorBackoffMs := by
  rw [UInt64.le_iff_toNat_le, toNat_backoff]
  exact Nat.min_le_left _ _

/-! ## Doubling -/

/-- As long as the doublings are counted, the next wait is twice the last, up to the longest. -/
theorem delay_succ {failures : Nat} (some : 0 < failures) (few : failures ≤ 16) :
    s.delay (failures + 1) = min s.maxErrorBackoffMs.toNat (2 * s.delay failures) := by
  obtain ⟨before, rfl⟩ : ∃ before, failures = before + 1 := ⟨failures - 1, by omega⟩
  have now : min (before + 1 - 1) 16 = before := by omega
  have next : min (before + 1 + 1 - 1) 16 = before + 1 := by omega
  unfold delay
  rw [now, next, Nat.pow_succ, ← Nat.mul_assoc]
  omega

/-- After 16 doublings the wait stays the same. -/
theorem delay_of_many {failures : Nat} (many : 16 < failures) :
    s.delay failures = min s.maxErrorBackoffMs.toNat (s.errorBackoffMs.toNat * 2 ^ 16) := by
  have doubled : min (failures - 1) 16 = 16 := by omega
  rw [delay, doubled]

/-- What the longest wait is compared with is the first one, doubled 16 times. -/
theorem delay_eq_max_iff {failures : Nat} (many : 16 < failures) :
    s.delay failures = s.maxErrorBackoffMs.toNat ↔
      s.maxErrorBackoffMs.toNat ≤ s.errorBackoffMs.toNat * 2 ^ 16 := by
  rw [s.delay_of_many many]
  omega

variable {s}

theorem defect?_of_validate (valid : s.validate = .ok ()) : s.defect? = none := by
  unfold validate at valid
  cases defect : s.defect? with
  | some defect => rw [defect] at valid; cases valid
  | none => rfl

/-- The longest wait of valid settings is no shorter than the first. -/
theorem errorBackoffMs_le_max (valid : s.defect? = none) :
    s.errorBackoffMs ≤ s.maxErrorBackoffMs := by
  unfold defect? at valid
  by_cases inverted : s.maxErrorBackoffMs < s.errorBackoffMs
  · rw [if_pos inverted] at valid
    repeat' split at valid
    all_goals cases valid
  · exact UInt64.not_lt.1 inverted

theorem errorBackoffMs_le_backoff (valid : s.defect? = none) (failures : Nat) :
    s.errorBackoffMs ≤ s.backoff failures := by
  have order := UInt64.le_iff_toNat_le.1 (errorBackoffMs_le_max valid)
  have power : 1 ≤ 2 ^ min (failures - 1) 16 := Nat.one_le_two_pow
  have product := Nat.mul_le_mul_left s.errorBackoffMs.toNat power
  rw [UInt64.le_iff_toNat_le, toNat_backoff, delay]
  omega

/-- The wait takes time exactly if the first one of a row does. -/
theorem backoff_pos_iff (valid : s.defect? = none) (failures : Nat) :
    0 < s.backoff failures ↔ 0 < s.errorBackoffMs := by
  constructor
  · intro some
    rw [UInt64.lt_iff_toNat_lt, toNat_backoff, delay] at some
    rw [UInt64.lt_iff_toNat_lt]
    refine Nat.pos_of_ne_zero fun none => ?_
    rw [none, Nat.zero_mul, Nat.min_zero] at some
    exact Nat.lt_irrefl 0 some
  · exact fun some => UInt64.lt_of_lt_of_le some (errorBackoffMs_le_backoff valid failures)

theorem backoff_one (valid : s.defect? = none) : s.backoff 1 = s.errorBackoffMs := by
  have order := UInt64.le_iff_toNat_le.1 (errorBackoffMs_le_max valid)
  rw [← UInt64.toNat_inj, toNat_backoff, delay]
  show min _ (s.errorBackoffMs.toNat * 1) = _
  omega

end ByteTap.Settings
