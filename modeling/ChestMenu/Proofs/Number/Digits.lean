import ChestMenu.Number.Numeral
import ChestMenu.Proofs.Text.Cuts
import Mathlib.Data.Nat.Digits.Defs

/-!
# What numbers are written with

A whole number is read back from its decimal digits. A text that is accepted as a numeral
consists of digits, a point, signs, and the letters of a few words, so it contains no
blank, and trimming leaves it alone.
-/

namespace ChestMenu.Number

open ChestMenu.Text

/-! ## Whole numbers -/

theorem digit_eq {c : Char} (isDigit : c.isDigit = true) :
    digit? c = some (c.toNat - '0'.toNat) := by
  simp only [Char.isDigit, Bool.and_eq_true, decide_eq_true_eq] at isDigit
  exact if_pos isDigit

/-- Digits have the value that they have in base ten. -/
theorem value_after_eq {cs : List Char} (digits : ∀ c ∈ cs, c.isDigit = true) (value : Nat) :
    valueAfter value cs = some (Nat.ofDigitChars 10 cs value) := by
  induction cs generalizing value with
  | nil => rfl
  | cons c rest inductionHypothesis =>
    obtain ⟨first, others⟩ := List.forall_mem_cons.mp digits
    rw [valueAfter, digit_eq first, Option.bind_some, inductionHypothesis others]
    rfl

theorem decimal_digits (n : Nat) : ∀ c ∈ (toString n).toList, c.isDigit = true := by
  rw [Nat.toString_eq_repr, Nat.toList_repr]
  exact fun c => Nat.isDigit_of_mem_toDigits (by decide) (by decide)

theorem decimal_ne_nil (n : Nat) : (toString n).toList ≠ [] := by
  rw [Nat.toString_eq_repr, Nat.toList_repr]
  exact Nat.toDigits_ne_nil

/-- Where there is no plus sign in front, all of the text is digits. -/
theorem whole_unsigned {limit : Nat} {cs : List Char} (unsigned : cs.head? ≠ some '+') :
    whole? limit cs = (digits? cs).filter (· ≤ limit) := by
  cases cs with
  | nil => rfl
  | cons c rest =>
    have other : c ≠ '+' := fun same => unsigned (congrArg some same)
    simp [whole?, other]

/-- A whole number within the limit is read back from its digits. -/
theorem whole_of_decimal {limit n : Nat} (within : n ≤ limit) :
    whole? limit (toString n).toList = some n := by
  have digits := decimal_digits n
  have unsigned : (toString n).toList.head? ≠ some '+' := by
    intro plus
    exact absurd (digits '+' (List.mem_of_mem_head? plus)) (by decide)
  have value : digits? (toString n).toList = some n := by
    have whole := value_after_eq digits 0
    rw [Nat.toString_eq_repr, Nat.toList_repr, Nat.ofDigitChars_ten_toDigits] at whole
    cases cut : (toString n).toList with
    | nil => exact absurd cut (decimal_ne_nil n)
    | cons c rest =>
      rw [Nat.toString_eq_repr, Nat.toList_repr] at cut
      rw [digits?, ← cut, whole]
  rw [whole_unsigned unsigned, value]
  simp [within]

/-! ## Numerals -/

/-- Between the space and the end of ASCII no character is blank. -/
theorem visible_of_ascii {c : Char} (low : 32 < c.toNat) (high : c.toNat < 128) :
    isBlank c = false := by
  simp only [isBlank, Bool.or_eq_false_iff, Bool.and_eq_false_iff, decide_eq_false_iff_not,
    beq_eq_false_iff_ne]
  omega

theorem digit_visible {c : Char} (isDigit : (digit? c).isSome = true) : isBlank c = false := by
  unfold digit? at isDigit
  split at isDigit
  · rename_i within
    have low : 48 ≤ c.toNat := within.1
    have high : c.toNat ≤ 57 := within.2
    exact visible_of_ascii (by omega) (by omega)
  · cases isDigit

theorem value_visible {cs : List Char} {value result : Nat}
    (valued : valueAfter value cs = some result) : ∀ c ∈ cs, isBlank c = false := by
  induction cs generalizing value with
  | nil => nofun
  | cons c rest inductionHypothesis =>
    obtain ⟨d, isDigit, later⟩ := Option.bind_eq_some_iff.mp valued
    refine List.forall_mem_cons.mpr ⟨digit_visible ?_, inductionHypothesis later⟩
    rw [isDigit]
    rfl

theorem digits_visible {cs : List Char} {n : Nat} (valued : digits? cs = some n) :
    ∀ c ∈ cs, isBlank c = false := by
  cases cs with
  | nil => nofun
  | cons c rest => exact value_visible valued

/-- Signs are visible. -/
theorem signed_visible {cs : List Char} (visible : ∀ c ∈ (signed cs).2, isBlank c = false) :
    ∀ c ∈ cs, isBlank c = false := by
  unfold signed at visible
  split at visible
  · exact List.forall_mem_cons.mpr ⟨rfl, visible⟩
  · exact List.forall_mem_cons.mpr ⟨rfl, visible⟩
  · exact visible

theorem power_visible {cs : List Char} {power : Int} (powered : power? cs = some power) :
    ∀ c ∈ cs, isBlank c = false := by
  cases cs with
  | nil => nofun
  | cons e rest =>
    simp only [power?] at powered
    split at powered
    · rename_i isMark
      obtain ⟨n, valued, _⟩ := Option.map_eq_some_iff.mp powered
      refine List.forall_mem_cons.mpr ⟨?_, signed_visible (digits_visible valued)⟩
      rcases isMark with rfl | rfl <;> rfl
    · cases powered

/-- A numeral without a sign is digits, perhaps a point and more digits, and a power. -/
theorem unsigned_parts {negative : Bool} {cs : List Char} {numeral : Numeral}
    (accepted : unsignedNumeral? negative cs = some numeral) :
    ∃ before behind tail digits power, digits? (before ++ behind) = some digits ∧
      power? tail = some power ∧
      (cs = before ++ tail ∨ cs = before ++ '.' :: (behind ++ tail)) := by
  have cut : cs = cs.takeWhile isDigit ++ cs.dropWhile isDigit :=
    List.takeWhile_append_dropWhile.symm
  simp only [unsignedNumeral?] at accepted
  split at accepted
  · rename_i digits power valued powered
    split at valued
    · rename_i fraction point
      rw [point] at cut powered
      refine ⟨cs.takeWhile isDigit, fraction.takeWhile isDigit, fraction.dropWhile isDigit,
        digits, power, valued, powered, Or.inr ?_⟩
      rw [List.takeWhile_append_dropWhile]
      exact cut
    · rename_i noPoint
      refine ⟨cs.takeWhile isDigit, [], cs.dropWhile isDigit, digits, power, valued, ?_, Or.inl cut⟩
      split at powered
      · rename_i fraction point
        exact absurd point (noPoint fraction)
      · exact powered
  · cases accepted

theorem unsigned_visible {negative : Bool} {cs : List Char} {numeral : Numeral}
    (accepted : unsignedNumeral? negative cs = some numeral) : ∀ c ∈ cs, isBlank c = false := by
  obtain ⟨before, behind, tail, digits, power, valued, powered, parts⟩ := unsigned_parts accepted
  obtain ⟨inFront, inFraction⟩ := List.forall_mem_append.mp (digits_visible valued)
  have inTail := power_visible powered
  rcases parts with rfl | rfl
  · exact List.forall_mem_append.mpr ⟨inFront, inTail⟩
  · refine List.forall_mem_append.mpr ⟨inFront, List.forall_mem_cons.mpr ⟨rfl, ?_⟩⟩
    exact List.forall_mem_append.mpr ⟨inFraction, inTail⟩

/-- No blank is the capital of another character. -/
theorem visible_of_lower {c : Char} (visible : isBlank c.toLower = false) : isBlank c = false := by
  unfold Char.toLower at visible
  split at visible
  · rename_i capital
    have low : 65 ≤ c.toNat := capital.1
    have high : c.toNat ≤ 90 := capital.2
    exact visible_of_ascii (by omega) (by omega)
  · exact visible

theorem word_visible {cs word : List Char} (same : cs.map Char.toLower = word)
    (visible : ∀ c ∈ word, isBlank c = false) : ∀ c ∈ cs, isBlank c = false := by
  intro c member
  exact visible_of_lower (visible _ (same ▸ List.mem_map_of_mem member))

/-- What is accepted as a numeral contains no blank. -/
theorem numeral_visible {cs : List Char} {numeral : Numeral}
    (accepted : numeral? cs = some numeral) : ∀ c ∈ cs, isBlank c = false := by
  refine signed_visible ?_
  simp only [numeral?] at accepted
  split at accepted
  · rename_i isWord
    rcases isWord with same | same <;> exact word_visible same (by decide)
  · split at accepted
    · rename_i isWord
      exact word_visible isWord (by decide)
    · exact unsigned_visible accepted

end ChestMenu.Number
