import ChestMenu.Proofs.Text.Cuts
import ChestMenu.Text.Case

/-!
# Other letters and other blanks

A text may be written with ASCII letters of either case and with blanks around it. Nothing
that a reader asks of a single character tells an ASCII letter from its lower case: whether
it is blank, cased or passed over by case, and what its lower case is. So neither the lower
case of a text nor a comparison up to the case of ASCII letters depends on how it is
written. Trimming gives the same text whatever blanks stand around it.
-/

namespace ChestMenu.Text

variable {left right front back behind cs : List Char} {test : Char → Bool}

/-! ## Letters of either case -/

/-- The letters that the lower case of ASCII changes. -/
def capitals : List Char := "ABCDEFGHIJKLMNOPQRSTUVWXYZ".toList

theorem to_lower_eq_self_or_capital (c : Char) : c.toLower = c ∨ c ∈ capitals := by
  have numbered : ∀ n < 91, 65 ≤ n → Char.ofNat n ∈ capitals := by decide
  by_cases capital : 65 ≤ c.toNat ∧ c.toNat ≤ 90
  · right
    have member := numbered c.toNat (by omega) capital.1
    rwa [Char.ofNat_toNat] at member
  · left
    unfold Char.toLower
    split
    · rename_i between
      exact absurd between capital
    · rfl

/-- What is the same for every capital and its small letter is the same for every character
and its lower case. -/
theorem eq_at_to_lower {α : Type} (f : Char → α) (atCapitals : ∀ c ∈ capitals, f c.toLower = f c)
    (c : Char) : f c.toLower = f c := by
  rcases to_lower_eq_self_or_capital c with same | capital
  · rw [same]
  · exact atCapitals c capital

theorem is_blank_to_lower (c : Char) : isBlank c.toLower = isBlank c :=
  eq_at_to_lower isBlank (by decide) c

theorem is_cased_to_lower (c : Char) : isCased c.toLower = isCased c :=
  eq_at_to_lower isCased (by decide +kernel) c

theorem is_case_ignorable_to_lower (c : Char) : isCaseIgnorable c.toLower = isCaseIgnorable c :=
  eq_at_to_lower isCaseIgnorable (by decide +kernel) c

theorem lower_char_to_lower (c : Char) : lowerChar c.toLower = lowerChar c :=
  eq_at_to_lower lowerChar (by decide) c

/-- A character that is no letter is the lower case of itself alone. -/
theorem to_lower_eq_iff {mark : Char} (small : mark.toLower = mark)
    (noSmall : ∀ c ∈ capitals, c.toLower ≠ mark) (c : Char) : c.toLower = mark ↔ c = mark := by
  constructor
  · intro same
    rcases to_lower_eq_self_or_capital c with unchanged | capital
    · rw [← unchanged, same]
    · exact absurd same (noSmall c capital)
  · rintro rfl
    exact small

theorem drop_while_map_to_lower (keeps : ∀ c : Char, test c.toLower = test c) (cs : List Char) :
    (cs.map Char.toLower).dropWhile test = (cs.dropWhile test).map Char.toLower := by
  have same : test ∘ Char.toLower = test := funext keeps
  rw [List.dropWhile_map, same]

theorem take_while_map_to_lower (keeps : ∀ c : Char, test c.toLower = test c) (cs : List Char) :
    (cs.map Char.toLower).takeWhile test = (cs.takeWhile test).map Char.toLower := by
  have same : test ∘ Char.toLower = test := funext keeps
  rw [List.takeWhile_map, same]

theorem meets_cased_map_to_lower (cs : List Char) :
    meetsCased (cs.map Char.toLower) = meetsCased cs := by
  rw [meetsCased, meetsCased, drop_while_map_to_lower is_case_ignorable_to_lower]
  cases cs.dropWhile isCaseIgnorable with
  | nil => rfl
  | cons c rest => exact is_cased_to_lower c

/-- The lower case of a text is that of the text with small ASCII letters, what stands in
front of it included. -/
theorem lower_after_map_to_lower (before cs : List Char) :
    lowerAfter (before.map Char.toLower) (cs.map Char.toLower) = lowerAfter before cs := by
  have sigma : ∀ c : Char, c.toLower = 'Σ' ↔ c = 'Σ' := to_lower_eq_iff (by decide) (by decide)
  induction cs generalizing before with
  | nil => rfl
  | cons c rest inductionHypothesis =>
    have later := inductionHypothesis (c :: before)
    rw [List.map_cons] at later
    simp only [List.map_cons, lowerAfter, sigma, meets_cased_map_to_lower, lower_char_to_lower,
      later]

theorem lower_map_to_lower (cs : List Char) : lower (cs.map Char.toLower) = lower cs :=
  lower_after_map_to_lower [] cs

theorem same_ignoring_case_iff :
    sameIgnoringAsciiCase left right = true ↔ left.map Char.toLower = right.map Char.toLower := by
  simp [sameIgnoringAsciiCase]

/-- Texts that are the same up to the case of ASCII letters have the same lower case. -/
theorem lower_eq_of_same (same : sameIgnoringAsciiCase left right = true) :
    lower left = lower right := by
  rw [← lower_map_to_lower left, same_ignoring_case_iff.mp same, lower_map_to_lower]

/-- A test that no letter passes in one case only fails on all of a text when it fails on
all of the text in other letters. -/
theorem fails_of_same (keeps : ∀ c : Char, test c.toLower = test c)
    (same : sameIgnoringAsciiCase left right = true) (fails : ∀ c ∈ right, test c = false) :
    ∀ c ∈ left, test c = false := by
  intro c member
  have mapped : c.toLower ∈ right.map Char.toLower := by
    rw [← same_ignoring_case_iff.mp same]
    exact List.mem_map_of_mem member
  obtain ⟨other, isOther, sameLetter⟩ := List.mem_map.mp mapped
  rw [← keeps c, ← sameLetter, keeps other]
  exact fails other isOther

/-! ## Blanks around a text -/

/-- Blanks in front make no difference to a text without its front. -/
theorem trim_start_append (blank : ∀ c ∈ front, isBlank c = true) (cs : List Char) :
    trimStart (front ++ cs) = trimStart cs :=
  List.dropWhile_append_of_pos blank

theorem trim_end_append (blank : ∀ c ∈ behind, isBlank c = true) (cs : List Char) :
    trimEnd (cs ++ behind) = trimEnd cs := by
  rw [trimEnd, trimEnd, List.reverse_append, List.dropWhile_append_of_pos]
  simpa using blank

theorem trim_start_eq_nil_iff : trimStart cs = [] ↔ ∀ c ∈ cs, isBlank c = true :=
  List.dropWhile_eq_nil_iff

/-- Trimming gives the same text whatever blanks stand around it. -/
theorem trim_padded (blankFront : ∀ c ∈ front, isBlank c = true)
    (blankBehind : ∀ c ∈ behind, isBlank c = true) (cs : List Char) :
    trim (front ++ cs ++ behind) = trim cs := by
  rw [trim, trim, List.append_assoc, trim_start_append blankFront]
  by_cases allBlank : ∀ c ∈ cs, isBlank c = true
  · have nothing : trimStart (cs ++ behind) = [] := by
      refine trim_start_eq_nil_iff.mpr fun c member => ?_
      exact (List.mem_append.mp member).elim (allBlank c) (blankBehind c)
    rw [nothing, trim_start_eq_nil_iff.mpr allBlank]
  · have some : (cs.dropWhile isBlank).isEmpty = false := by
      simpa [List.dropWhile_eq_nil_iff] using allBlank
    have split : trimStart (cs ++ behind) = trimStart cs ++ behind := by
      rw [trimStart, List.dropWhile_append, some]
      rfl
    rw [split, trim_end_append blankBehind]

theorem trim_append (blank : ∀ c ∈ behind, isBlank c = true) (cs : List Char) :
    trim (cs ++ behind) = trim cs :=
  trim_padded (List.forall_mem_nil _) blank cs

/-- A text is what trimming leaves of its end, and blanks. -/
theorem exists_trim_end_append (cs : List Char) :
    ∃ behind, (∀ c ∈ behind, isBlank c = true) ∧ trimEnd cs ++ behind = cs :=
  ⟨cs.rtakeWhile isBlank, fun _ => List.mem_rtakeWhile_imp, List.rdropWhile_append_rtakeWhile⟩

theorem trim_trim_end (cs : List Char) : trim (trimEnd cs) = trim cs := by
  obtain ⟨behind, blank, same⟩ := exists_trim_end_append cs
  rw [← trim_append blank, same]

/-- Behind a visible character only what follows it is trimmed. -/
theorem trim_end_append_cons {separator : Char} (visible : isBlank separator = false)
    (front back : List Char) :
    trimEnd (front ++ separator :: back) = front ++ separator :: trimEnd back := by
  rw [trimEnd, trimEnd, List.reverse_append, List.reverse_cons, List.append_assoc,
    List.dropWhile_append]
  split
  · rename_i nothing
    rw [List.isEmpty_iff.mp nothing]
    simp [visible]
  · simp

/-! ## What stays of a text -/

section Kept

variable {kept : Char}

/-- Taking other characters from the front leaves as many of a character. -/
theorem count_drop_while (stays : test kept = false) (cs : List Char) :
    (cs.dropWhile test).count kept = cs.count kept := by
  have none : kept ∉ cs.takeWhile test := by
    intro member
    rw [List.mem_takeWhile_imp member] at stays
    cases stays
  conv_rhs => rw [← List.takeWhile_append_dropWhile (p := test) (l := cs), List.count_append,
    List.count_eq_zero.mpr none, Nat.zero_add]

theorem count_drop_end (stays : test kept = false) (cs : List Char) :
    (cs.reverse.dropWhile test).reverse.count kept = cs.count kept := by
  rw [List.count_reverse, count_drop_while stays, List.count_reverse]

theorem count_trim (visible : isBlank kept = false) (cs : List Char) :
    (trim cs).count kept = cs.count kept := by
  rw [trim, trimEnd, count_drop_end visible, trimStart, count_drop_while visible]

/-- Cutting at separators takes nothing but separators. -/
theorem flatten_pieces (test : Char → Bool) (cs : List Char) :
    (pieces test cs).flatten = cs.filter fun c => !test c := by
  induction cs with
  | nil => rfl
  | cons c rest inductionHypothesis =>
    rw [pieces]
    split
    · rename_i passes
      simp [passes, inductionHypothesis]
    · rename_i passedOver
      rw [List.filter_cons_of_pos (by simpa using passedOver), ← inductionHypothesis]
      cases pieces test rest <;> rfl

/-- The words of a text are what is visible of it. -/
theorem flatten_words (cs : List Char) :
    (words cs).flatten = cs.filter fun c => !isBlank c := by
  rw [words, List.flatten_filter_not_isEmpty, flatten_pieces]

end Kept

end ChestMenu.Text
