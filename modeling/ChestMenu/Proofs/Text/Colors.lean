import ChestMenu.Text.Color
import Mathlib.Data.List.Infix

/-!
# Where colour codes stand

A code pair is an ampersand with a code behind it. An ampersand is no code, so pairs never
overlap, and a scan from the left finds every one of them. Colouring therefore treats each
place of a text by itself: the ampersand of a pair becomes the section sign, its code the
lower-case code, and whatever else there is stays. The laws of colouring and stripping
follow from this: what is coloured holds no pair any more, and stripping what was coloured
takes the pairs out and nothing else.
-/

namespace ChestMenu.Text

variable {cs : List Char} {c code : Char}

/-! ## Pairs by their places -/

/-- Whether a code pair begins at a place of a text. -/
def startsPair (cs : List Char) (place : Nat) : Bool :=
  cs[place]? == some '&' && cs[place + 1]?.any isColorCode

/-- Whether a code pair ends at a place of a text. -/
def endsPair (cs : List Char) : Nat → Bool
  | 0 => false
  | place + 1 => startsPair cs place

/-- What colouring makes of a character, by its place. -/
def coloredAt (cs : List Char) (place : Nat) (c : Char) : Char :=
  if startsPair cs place then colorMark else if endsPair cs place then c.toLower else c

/-- The characters of a text that belong to no code pair, in order. -/
def outsidePairs (cs : List Char) : List Char :=
  (List.range cs.length).filterMap fun place =>
    if startsPair cs place || endsPair cs place then none else cs[place]?

@[simp] theorem starts_pair_cons_succ (c : Char) (cs : List Char) (place : Nat) :
    startsPair (c :: cs) (place + 1) = startsPair cs place := by
  simp [startsPair]

@[simp] theorem starts_pair_singleton (c : Char) (place : Nat) : startsPair [c] place = false := by
  cases place <;> simp [startsPair]

theorem starts_pair_zero (c code : Char) (rest : List Char) :
    startsPair (c :: code :: rest) 0 = true ↔ c = '&' ∧ isColorCode code = true := by
  simp [startsPair]

@[simp] theorem ends_pair_zero (cs : List Char) : endsPair cs 0 = false := rfl

theorem ends_pair_succ (cs : List Char) (place : Nat) :
    endsPair cs (place + 1) = startsPair cs place := rfl

theorem ampersand_no_code : isColorCode '&' = false := by decide

/-- The lower case of a code is no ampersand. -/
theorem to_lower_ne_ampersand (isCode : isColorCode c = true) : c.toLower ≠ '&' := by
  intro same
  simp [isColorCode, same] at isCode

/-- No pair begins with a code. -/
theorem starts_pair_code (isCode : isColorCode code = true) (rest : List Char) :
    startsPair (code :: rest) 0 = false := by
  have different : code ≠ '&' := by
    rintro rfl
    rw [ampersand_no_code] at isCode
    cases isCode
  simp [startsPair, different]

/-- Where a pair ends there is a code. -/
theorem code_of_ends_pair {place : Nat} (ends : endsPair cs place = true)
    (found : cs[place]? = some c) : isColorCode c = true := by
  cases place with
  | zero => cases ends
  | succ before =>
    simp only [ends_pair_succ, startsPair, Bool.and_eq_true, found, Option.any_some] at ends
    exact ends.2

/-- Behind a character with which no pair begins, pairs end where they end without it. -/
theorem ends_pair_cons (none : startsPair (c :: cs) 0 = false) (place : Nat) :
    endsPair (c :: cs) (place + 1) = endsPair cs place := by
  cases place with
  | zero => exact none
  | succ before => rw [ends_pair_succ, starts_pair_cons_succ, ends_pair_succ]

/-- Behind a pair, pairs end where they end without it. -/
theorem ends_pair_behind_pair (isCode : isColorCode code = true) (rest : List Char) (place : Nat) :
    endsPair ('&' :: code :: rest) (place + 2) = endsPair rest place := by
  rw [ends_pair_succ, starts_pair_cons_succ, ← ends_pair_succ,
    ends_pair_cons (starts_pair_code isCode rest)]

/-! ## Colouring -/

theorem colored_at_cons (none : startsPair (c :: cs) 0 = false) (place : Nat) :
    coloredAt (c :: cs) (place + 1) = coloredAt cs place := by
  funext other
  rw [coloredAt, coloredAt, starts_pair_cons_succ, ends_pair_cons none]

theorem colored_at_behind_pair (isCode : isColorCode code = true) (rest : List Char)
    (place : Nat) : coloredAt ('&' :: code :: rest) (place + 2) = coloredAt rest place := by
  funext other
  rw [coloredAt, coloredAt, starts_pair_cons_succ, starts_pair_cons_succ,
    ends_pair_behind_pair isCode]

/-- Colouring treats every place by itself. -/
theorem get_colored (cs : List Char) (place : Nat) :
    (colored cs)[place]? = cs[place]?.map (coloredAt cs place) := by
  fun_induction colored cs generalizing place with
  | case1 => simp
  | case2 c => cases place <;> simp [coloredAt]
  | case3 c code rest pair inductionHypothesis =>
    obtain ⟨rfl, isCode⟩ := pair
    have begins : startsPair ('&' :: code :: rest) 0 = true :=
      (starts_pair_zero _ _ _).mpr ⟨rfl, isCode⟩
    match place with
    | 0 => simp [coloredAt, begins]
    | 1 =>
      have goesOn : startsPair ('&' :: code :: rest) 1 = false := starts_pair_code isCode rest
      simp [coloredAt, goesOn, ends_pair_succ, begins]
    | later + 2 =>
      rw [colored_at_behind_pair isCode]
      simpa using inductionHypothesis later
  | case4 c code rest noPair inductionHypothesis =>
    have none : startsPair (c :: code :: rest) 0 = false := by
      rw [← Bool.not_eq_true, starts_pair_zero]
      exact noPair
    cases place with
    | zero => simp [coloredAt, none]
    | succ later =>
      rw [colored_at_cons none]
      exact inductionHypothesis later

/-- No pair begins anywhere in a coloured text. An ampersand of it was one that begins no
pair, and what follows it was no code and was not made one. -/
theorem starts_pair_colored (cs : List Char) (place : Nat) :
    startsPair (colored cs) place = false := by
  rw [← Bool.not_eq_true]
  intro pair
  simp only [startsPair, Bool.and_eq_true, beq_iff_eq, Option.any_eq_true, get_colored,
    Option.map_eq_some_iff] at pair
  obtain ⟨⟨first, atPlace, isAmpersand⟩, _, ⟨second, behind, rfl⟩, isCode⟩ := pair
  have marked : colorMark ≠ '&' := by decide
  have markNoCode : isColorCode colorMark = false := by decide
  have begins : startsPair cs place = false := by
    rw [← Bool.not_eq_true]
    intro begins
    rw [coloredAt, if_pos begins] at isAmpersand
    exact marked isAmpersand
  have stays : endsPair cs place = false := by
    rw [← Bool.not_eq_true]
    intro ends
    rw [coloredAt, begins, if_neg Bool.false_ne_true, if_pos ends] at isAmpersand
    exact to_lower_ne_ampersand (code_of_ends_pair ends atPlace) isAmpersand
  have ampersand : first = '&' := by simpa [coloredAt, begins, stays] using isAmpersand
  have wasCode : isColorCode second = true := by
    rw [coloredAt, ends_pair_succ, begins, if_neg Bool.false_ne_true] at isCode
    split at isCode
    · rw [markNoCode] at isCode
      cases isCode
    · exact isCode
  have pair : startsPair cs place = true := by
    simp [startsPair, atPlace, ampersand, behind, wasCode]
  rw [begins] at pair
  cases pair

/-- Colouring leaves a text without pairs alone. -/
theorem colored_eq_self (none : ∀ place, startsPair cs place = false) : colored cs = cs := by
  refine List.ext_getElem? fun place => ?_
  have same : coloredAt cs place = id := by
    funext c
    cases place with
    | zero => simp [coloredAt, none]
    | succ before => simp [coloredAt, none, ends_pair_succ]
  rw [get_colored, same, Option.map_id, id]

theorem colored_colored (cs : List Char) : colored (colored cs) = colored cs :=
  colored_eq_self (starts_pair_colored cs)

/-- An ampersand with a code behind it is a pair wherever it stands. -/
theorem not_infix_of_no_pair (none : ∀ place, startsPair cs place = false)
    (isCode : isColorCode code = true) : ¬ ['&', code] <:+: cs := by
  rintro ⟨front, back, rfl⟩
  have pair : startsPair (front ++ ['&', code] ++ back) front.length = true := by
    simp [startsPair, isCode]
  rw [none] at pair
  cases pair

/-! ## Stripping -/

theorem uncolored_cons (plain : c ≠ colorMark) (cs : List Char) :
    uncolored (c :: cs) = c :: uncolored cs := by
  cases cs <;> simp [uncolored, plain]

/-- No section sign stays. -/
theorem color_mark_not_mem_uncolored (cs : List Char) : colorMark ∉ uncolored cs := by
  fun_induction uncolored cs with
  | case1 => simp
  | case2 => simp
  | case3 c plain => simpa using Ne.symm plain
  | case4 _ _ inductionHypothesis => exact inductionHypothesis
  | case5 c next rest plain inductionHypothesis =>
    exact List.not_mem_cons_of_ne_of_not_mem (Ne.symm plain) inductionHypothesis

/-- Stripping leaves a text without section signs alone. -/
theorem uncolored_eq_self (plain : colorMark ∉ cs) : uncolored cs = cs := by
  induction cs with
  | nil => rfl
  | cons c rest inductionHypothesis =>
    obtain ⟨first, others⟩ := List.ne_and_not_mem_of_not_mem_cons plain
    rw [uncolored_cons (Ne.symm first), inductionHypothesis others]

theorem uncolored_uncolored (cs : List Char) : uncolored (uncolored cs) = uncolored cs :=
  uncolored_eq_self (color_mark_not_mem_uncolored cs)

/-! ## Stripping what was coloured -/

/-- A character with which no pair begins belongs to none. -/
theorem outside_pairs_cons (none : startsPair (c :: cs) 0 = false) :
    outsidePairs (c :: cs) = c :: outsidePairs cs := by
  simp only [outsidePairs, List.length_cons, List.range_succ_eq_map, List.filterMap_cons, none,
    ends_pair_zero, Bool.or_false, List.filterMap_map, Function.comp_def, Nat.succ_eq_add_one,
    starts_pair_cons_succ, ends_pair_cons none, List.getElem?_cons_succ, List.getElem?_cons_zero,
    Bool.false_eq_true, if_false]

theorem outside_pairs_behind_pair (isCode : isColorCode code = true) (rest : List Char) :
    outsidePairs ('&' :: code :: rest) = outsidePairs rest := by
  have begins : startsPair ('&' :: code :: rest) 0 = true :=
    (starts_pair_zero _ _ _).mpr ⟨rfl, isCode⟩
  simp only [outsidePairs, List.length_cons, List.range_succ_eq_map, List.filterMap_cons, begins,
    List.map_cons, List.filterMap_map, Function.comp_def, Nat.succ_eq_add_one,
    starts_pair_cons_succ, ends_pair_behind_pair isCode, List.getElem?_cons_succ, List.map_map,
    ends_pair_succ, starts_pair_code isCode, Bool.true_or, Bool.or_true, if_true]

/-- Stripping what was coloured takes the pairs out. -/
theorem uncolored_colored (plain : colorMark ∉ cs) : uncolored (colored cs) = outsidePairs cs := by
  fun_induction colored cs with
  | case1 => rfl
  | case2 c =>
    rw [uncolored_eq_self plain, outside_pairs_cons (starts_pair_singleton c 0)]
    rfl
  | case3 c code rest pair inductionHypothesis =>
    obtain ⟨rfl, isCode⟩ := pair
    have later : colorMark ∉ rest := fun member => plain (by simp [member])
    rw [outside_pairs_behind_pair isCode, ← inductionHypothesis later, uncolored, if_pos rfl]
  | case4 c code rest noPair inductionHypothesis =>
    have none : startsPair (c :: code :: rest) 0 = false := by
      rw [← Bool.not_eq_true, starts_pair_zero]
      exact noPair
    obtain ⟨first, others⟩ := List.ne_and_not_mem_of_not_mem_cons plain
    rw [uncolored_cons (Ne.symm first), inductionHypothesis others, outside_pairs_cons none]

/-- Colouring twice is colouring once: in a coloured text no ampersand has a code behind it.
Stripping leaves no section sign, so stripping twice is stripping once. Colouring writes
each place of a text by itself, where pairs begin and end, and stripping what was coloured
leaves the characters outside of these pairs, if the text has no section sign of its own. -/
theorem colors_exact (text : String) :
    (colorize (colorize text) = colorize text ∧
      ∀ code, isColorCode code = true → ¬ ['&', code] <:+: (colorize text).toList) ∧
    (colorMark ∉ (stripColors text).toList ∧
      stripColors (stripColors text) = stripColors text) ∧
    (∀ place, (colorize text).toList[place]? =
      text.toList[place]?.map (coloredAt text.toList place)) ∧
    (colorMark ∉ text.toList →
      (stripColors (colorize text)).toList = outsidePairs text.toList) := by
  simp only [colorize, stripColors, String.toList_ofList]
  refine ⟨⟨?_, fun code => not_infix_of_no_pair (starts_pair_colored _)⟩,
    ⟨color_mark_not_mem_uncolored _, ?_⟩, get_colored _, uncolored_colored⟩
  · rw [colored_colored]
  · rw [uncolored_uncolored]

/-- Of several ampersands in a row only the last begins a pair, and a pair may follow
another one at once. -/
theorem crowded_pairs_stripped :
    colorMark ∉ "&&&6Gold&L&r & &zpepper&".toList ∧
    stripColors (colorize "&&&6Gold&L&r & &zpepper&") = "&&Gold & &zpepper&" := by
  have plain : colorMark ∉ "&&&6Gold&L&r & &zpepper&".toList := by decide
  obtain ⟨-, -, -, stripped⟩ := colors_exact "&&&6Gold&L&r & &zpepper&"
  have outside : outsidePairs "&&&6Gold&L&r & &zpepper&".toList = "&&Gold & &zpepper&".toList := by
    decide
  refine ⟨plain, String.toList_inj.mp ?_⟩
  rw [stripped plain, outside]

end ChestMenu.Text
