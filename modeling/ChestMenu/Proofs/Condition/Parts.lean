import ChestMenu.Proofs.Condition.Roundtrip
import ChestMenu.Proofs.Text.Letters
import Mathlib.Data.List.Infix

/-!
# Parts of a list of conditions

A list of conditions is cut at the semicolons outside every bracket, so what stands between
brackets stays together. For texts with matched brackets and all their semicolons between
brackets this finds every text again, whatever blanks stand around the semicolons and however
many blank texts stand among them.

The reader counts brackets without ever falling below zero. As long as no bracket is closed
that has not been opened, this count is the number of brackets that are open, and that is
what decides where a text is cut. Where there are no brackets at all the count stays at zero
and every semicolon cuts.

What is read from a list is what is read from its parts by themselves, because reading a text
depends on no other limit than its length.
-/

namespace ChestMenu.Condition

open ChestMenu.Text

variable {cs body text : List Char} {texts : List (List Char)} {depth : Nat}

/-! ## Brackets -/

/-- Every opening bracket of a text is closed, and none is closed that has not been opened. -/
structure Matched (cs : List Char) : Prop where
  closed : cs.count '[' = cs.count ']'
  opened : ∀ front, front <+: cs → front.count ']' ≤ front.count '['

/-- More brackets are open than closed in front of each semicolon of a text. -/
def Sheltered (cs : List Char) : Prop :=
  ∀ front, front ++ [';'] <+: cs → front.count ']' < front.count '['

/-- What can be a part of a list: a text that is not empty, begins and ends with no blank,
has its brackets matched, and has no semicolon outside of them. -/
structure Part (cs : List Char) : Prop where
  full : cs ≠ []
  trimmed : Trimmed cs
  matched : Matched cs
  sheltered : Sheltered cs

/-- Whether a text can be a part is seen from its beginnings. -/
theorem part_iff (cs : List Char) :
    Part cs ↔ (cs ≠ [] ∧ Trimmed cs ∧ cs.count '[' = cs.count ']') ∧
      ∀ front ∈ cs.inits, front.count ']' ≤ front.count '[' ∧
        (front ++ [';'] <+: cs → front.count ']' < front.count '[') := by
  simp only [List.mem_inits]
  constructor
  · intro part
    refine ⟨⟨part.full, part.trimmed, part.matched.closed⟩, ?_⟩
    intro front isFront
    exact ⟨part.matched.opened front isFront, part.sheltered front⟩
  · rintro ⟨⟨full, trimmed, closed⟩, fronts⟩
    refine ⟨full, trimmed, ⟨closed, fun front isFront => (fronts front isFront).1⟩, ?_⟩
    intro front cuts
    exact (fronts front ((List.prefix_append front [';']).trans cuts)).2 cuts

instance (cs : List Char) : Decidable (Part cs) := decidable_of_iff _ (part_iff cs).symm

/-- The depth behind a text that is read at a depth. -/
def depthBehind (depth : Nat) (cs : List Char) : Nat := cs.foldl depthAfter depth

theorem depth_behind_concat (depth : Nat) (cs : List Char) (c : Char) :
    depthBehind depth (cs ++ [c]) = depthAfter (depthBehind depth cs) c := by
  simp [depthBehind]

/-- Where no more brackets are closed than there are open ones, the depth is the number of
open ones. -/
theorem depth_behind_add_count
    (opened : ∀ front, front <+: cs → front.count ']' ≤ depth + front.count '[') :
    depthBehind depth cs + cs.count ']' = depth + cs.count '[' := by
  induction cs using List.reverseRecOn with
  | nil => simp [depthBehind]
  | append_singleton cs c inductionHypothesis =>
    have before : depthBehind depth cs + cs.count ']' = depth + cs.count '[' := by
      apply inductionHypothesis
      intro front isFront
      exact opened front (isFront.trans (List.prefix_append cs [c]))
    have now := opened (cs ++ [c]) (List.prefix_refl _)
    rw [depth_behind_concat, depthAfter]
    by_cases opens : c = '['
    · subst opens
      simp
      omega
    · by_cases closes : c = ']'
      · subst closes
        simp at now ⊢
        omega
      · simp [opens, closes]
        omega

/-- A text is not cut where each of its semicolons stands at some depth. -/
theorem outer_pieces_append (deep : ∀ front, front ++ [';'] <+: cs → depthBehind depth front ≠ 0)
    (rest : List Char) :
    outerPieces depth (cs ++ rest) =
      (outerPieces (depthBehind depth cs) rest).modifyHead (cs ++ ·) := by
  induction cs generalizing depth with
  | nil => exact Uncut.nil depth rest
  | cons c cs inductionHypothesis =>
    have goesOn : ¬ (c = ';' ∧ depth = 0) := by
      rintro ⟨rfl, outside⟩
      exact deep [] (List.prefix_append [';'] cs) outside
    have later : ∀ front, front ++ [';'] <+: cs → depthBehind (depthAfter depth c) front ≠ 0 := by
      intro front cuts
      exact deep (c :: front) (List.cons_prefix_cons.mpr ⟨rfl, cuts⟩)
    rw [List.cons_append, outer_pieces_cons goesOn, inductionHypothesis later,
      List.modifyHead_modifyHead]
    rfl

/-- A text with matched brackets and all semicolons between them is not cut. -/
theorem uncut_of_sheltered (matched : Matched cs) (sheltered : Sheltered cs) : Uncut 0 cs := by
  have level : ∀ front, front <+: cs →
      depthBehind 0 front + front.count ']' = front.count '[' := by
    intro front isFront
    rw [← Nat.zero_add (front.count '[')]
    apply depth_behind_add_count
    intro earlier isEarlier
    rw [Nat.zero_add]
    exact matched.opened earlier (isEarlier.trans isFront)
  have comesBack : depthBehind 0 cs = 0 := by
    have whole := level cs (List.prefix_refl cs)
    rw [matched.closed] at whole
    omega
  intro rest
  rw [outer_pieces_append, comesBack]
  intro front cuts outside
  have unclosed := sheltered front cuts
  have here := level front ((List.prefix_append front [';']).trans cuts)
  omega

/-! ## Texts among blanks -/

/-- Nothing in blanks has a meaning in lists of conditions. -/
theorem unmarked_of_blank (blank : ∀ c ∈ cs, isBlank c = true) : Unmarked cs := by
  intro c member
  have isBlank := blank c member
  refine ⟨?_, ?_, ?_⟩
  · rintro rfl
    cases isBlank
  · rintro rfl
    cases isBlank
  · rintro rfl
    cases isBlank

/-- Stretches between semicolons that hold these texts, one after the other: in each of them
stands one text with blanks around it, or nothing but blanks. -/
inductive Holds : List (List Char) → List (List Char) → Prop where
  | nil : Holds [] []
  | blank {stretch : List Char} {stretches texts : List (List Char)} :
      (∀ c ∈ stretch, isBlank c = true) → Holds stretches texts →
      Holds (stretch :: stretches) texts
  | text (before text behind : List Char) {stretches texts : List (List Char)} :
      (∀ c ∈ before, isBlank c = true) → (∀ c ∈ behind, isBlank c = true) →
      Holds stretches texts → Holds ((before ++ text ++ behind) :: stretches) (text :: texts)

variable {stretches : List (List Char)}

theorem trim_blank (blank : ∀ c ∈ cs, isBlank c = true) : trim cs = [] := by
  rw [trim, trim_start_eq_nil_iff.mpr blank]
  rfl

/-- Stretches that hold parts are not cut. -/
theorem Holds.uncut (holds : Holds stretches texts) (parts : ∀ text ∈ texts, Part text) :
    ∀ stretch ∈ stretches, Uncut 0 stretch := by
  induction holds with
  | nil => exact List.forall_mem_nil _
  | blank blank _ inductionHypothesis =>
    have first := Uncut.of_unmarked (unmarked_of_blank blank) 0
    exact List.forall_mem_cons.mpr ⟨first, inductionHypothesis parts⟩
  | text _ _ _ before behind _ inductionHypothesis =>
    obtain ⟨part, others⟩ := List.forall_mem_cons.mp parts
    have inside := uncut_of_sheltered part.matched part.sheltered
    have front := Uncut.of_unmarked (unmarked_of_blank before) 0
    have back := Uncut.of_unmarked (unmarked_of_blank behind) 0
    have first := (front.append inside).append back
    exact List.forall_mem_cons.mpr ⟨first, inductionHypothesis others⟩

/-- Trimmed, and without the blank ones, the stretches are the texts that they hold. -/
theorem Holds.trimmed (holds : Holds stretches texts) (parts : ∀ text ∈ texts, Part text) :
    (stretches.map trim).filter (fun part => !part.isEmpty) = texts := by
  induction holds with
  | nil => rfl
  | blank blank _ inductionHypothesis =>
    rw [List.map_cons, trim_blank blank, List.filter_cons_of_neg (by simp)]
    exact inductionHypothesis parts
  | text _ _ _ before behind _ inductionHypothesis =>
    obtain ⟨part, others⟩ := List.forall_mem_cons.mp parts
    rw [List.map_cons, trim_padded before behind, part.trimmed.trim_eq,
      List.filter_cons_of_pos (by simpa using part.full), inductionHypothesis others]

/-- A list of parts is cut into these parts, with any blanks and blank texts among them. -/
theorem parts_of_holds (holds : Holds stretches texts) (parts : ∀ text ∈ texts, Part text) :
    Condition.parts ([';'].intercalate stretches) = texts := by
  rw [Condition.parts]
  by_cases none : stretches = []
  · subst none
    cases holds
    rfl
  · rw [outer_pieces_intercalate none (holds.uncut parts)]
    exact holds.trimmed parts

/-! ## Flat lists -/

/-- The texts between all semicolons, trimmed, without the blank ones. -/
def flatParts (body : List Char) : List (List Char) :=
  ((pieces (· == ';') body).map trim).filter fun part => !part.isEmpty

/-- Without brackets every semicolon cuts. -/
theorem outer_pieces_flat (opens : '[' ∉ body) (closes : ']' ∉ body) :
    outerPieces 0 body = pieces (· == ';') body := by
  induction body with
  | nil => rfl
  | cons c rest inductionHypothesis =>
    rw [List.mem_cons, not_or] at opens closes
    have later := inductionHypothesis opens.2 closes.2
    have same : depthAfter 0 c = 0 := by
      rw [depthAfter, if_neg (Ne.symm opens.1), if_neg (Ne.symm closes.1)]
    rw [outerPieces, pieces, same, later]
    by_cases cuts : c = ';'
    · simp [cuts]
    · have uncut : ¬(c = ';' ∧ 0 = 0) := fun both => cuts both.1
      have inside : ¬(c == ';') = true := by simpa using cuts
      exact (if_neg uncut).trans (if_neg inside).symm

theorem parts_flat (opens : '[' ∉ body) (closes : ']' ∉ body) :
    Condition.parts body = flatParts body := by
  rw [Condition.parts, flatParts, outer_pieces_flat opens closes]

/-! ## Reading a list by its parts -/

/-- No piece is longer than the text. -/
theorem length_outer_piece_le {piece : List Char} (member : piece ∈ outerPieces depth cs) :
    piece.length ≤ cs.length := by
  induction cs generalizing depth piece with
  | nil =>
    rw [outerPieces] at member
    simp [List.mem_singleton.mp member]
  | cons c rest inductionHypothesis =>
    by_cases cuts : c = ';' ∧ depth = 0
    · rw [outerPieces, if_pos cuts] at member
      rcases List.mem_cons.mp member with rfl | later
      · exact Nat.zero_le _
      · exact Nat.le_succ_of_le (inductionHypothesis later)
    · rw [outer_pieces_cons cuts] at member
      cases found : outerPieces (depthAfter depth c) rest with
      | nil => exact absurd found (outer_pieces_ne_nil _ _)
      | cons first others =>
        rw [found, List.modifyHead_cons] at member
        rcases List.mem_cons.mp member with rfl | later
        · apply Nat.succ_le_succ
          apply inductionHypothesis
          rw [found]
          exact List.mem_cons_self
        · apply Nat.le_succ_of_le
          apply inductionHypothesis
          rw [found]
          exact List.mem_cons_of_mem _ later

theorem length_trim_start_le (cs : List Char) : (trimStart cs).length ≤ cs.length :=
  (List.dropWhile_suffix _).length_le

theorem length_trim_le (cs : List Char) : (trim cs).length ≤ cs.length :=
  Nat.le_trans (List.rdropWhile_prefix isBlank (l := trimStart cs)).length_le
    (length_trim_start_le cs)

/-- No part is longer than what stands between the brackets. -/
theorem length_part_le (member : text ∈ Condition.parts body) : text.length ≤ body.length := by
  rw [Condition.parts] at member
  obtain ⟨piece, isPiece, rfl⟩ := List.mem_map.mp (List.mem_of_mem_filter member)
  exact Nat.le_trans (length_trim_le piece) (length_outer_piece_le isPiece)

/-- What stands between the brackets of a list is shorter than the list. -/
theorem length_lt_of_compound {quantity : Quantity}
    (compound : compound? cs = some (quantity, body)) : body.length < cs.length := by
  rw [compound?] at compound
  split at compound
  · rename_i found rest begins
    obtain ⟨front, before, same⟩ := Option.map_eq_some_iff.mp compound
    cases same
    have shorter := length_trim_start_le (cs.drop 3)
    rw [begins, before_last_eq_some_iff.mp before, List.length_drop] at shorter
    simp only [List.length_cons, List.length_append] at shorter
    omega
  · cases compound

/-- Every limit above the length of a text is as good as any other. -/
theorem read_within_of_length_lt {first second : Nat} (firstDeep : cs.length < first)
    (secondDeep : cs.length < second) : readWithin first cs = readWithin second cs := by
  induction first generalizing cs second with
  | zero => exact absurd firstDeep (Nat.not_lt_zero _)
  | succ first inductionHypothesis =>
    obtain ⟨second, rfl⟩ := Nat.exists_eq_succ_of_ne_zero (Nat.ne_zero_of_lt secondDeep)
    rw [readWithin, readWithin]
    cases compound : compound? (trim cs) with
    | none => rfl
    | some list =>
      obtain ⟨quantity, body⟩ := list
      have parts : Noted.gather (readWithin first) (Condition.parts body) =
          Noted.gather (readWithin second) (Condition.parts body) := by
        apply Noted.gather_congr
        intro part member
        have short : part.length < cs.length :=
          Nat.lt_of_le_of_lt (length_part_le member)
            (Nat.lt_of_lt_of_le (length_lt_of_compound compound) (length_trim_le cs))
        apply inductionHypothesis
        · omega
        · omega
      simp only [parts]

/-- A list is read by reading each part by itself. -/
theorem read_of_compound {raw : String} {quantity : Quantity}
    (compound : compound? (trim raw.toList) = some (quantity, body)) :
    read raw = (do
      let conditions ← Noted.gather (fun part => read (String.ofList part)) (Condition.parts body)
      pure (some (quantity.of conditions))) := by
  have shorter := Nat.lt_of_lt_of_le (length_lt_of_compound compound) (length_trim_le raw.toList)
  have full : (trim raw.toList).isEmpty = false := by
    cases bare : trim raw.toList with
    | nil =>
      rw [bare] at compound
      cases compound
    | cons c rest => rfl
  have parts : Noted.gather (readWithin raw.toList.length) (Condition.parts body) =
      Noted.gather (fun part => read (String.ofList part)) (Condition.parts body) := by
    apply Noted.gather_congr
    intro part member
    have short := length_part_le member
    rw [read, String.toList_ofList]
    apply read_within_of_length_lt
    · omega
    · omega
  rw [read, readWithin]
  simp only [full, compound, parts, Bool.false_eq_true, if_false]

/-- Parts with semicolons between them are found again in their order, with any blanks around
the semicolons and any number of blank texts among the parts. Without brackets the parts are
the texts between all semicolons. What is read from a list is what is read from each of its
parts by itself, in both cases. -/
theorem parts_exact :
    (∀ stretches texts, Holds stretches texts → (∀ text ∈ texts, Part text) →
      Condition.parts ([';'].intercalate stretches) = texts ∧
      ∀ raw quantity, compound? (trim raw.toList) = some (quantity, [';'].intercalate stretches) →
        read raw = (do
          let conditions ← Noted.gather (fun part => read (String.ofList part)) texts
          pure (some (quantity.of conditions)))) ∧
    ∀ body, '[' ∉ body → ']' ∉ body →
      Condition.parts body = flatParts body ∧
      ∀ raw quantity, compound? (trim raw.toList) = some (quantity, body) →
        read raw = (do
          let conditions ← Noted.gather (fun part => read (String.ofList part)) (flatParts body)
          pure (some (quantity.of conditions))) := by
  constructor
  · intro stretches texts holds parts
    have found := parts_of_holds holds parts
    refine ⟨found, ?_⟩
    intro raw quantity compound
    rw [read_of_compound compound, found]
  · intro body opens closes
    have found := parts_flat opens closes
    refine ⟨found, ?_⟩
    intro raw quantity compound
    rw [read_of_compound compound, found]

/-- A list in a list, a blank and an empty text, and blanks around a semicolon. -/
theorem spread_list_read :
    let texts := ["any[perm:a;perm:b]".toList, "perm:c".toList]
    (∀ text ∈ texts, Part text) ∧
    Condition.parts " any[perm:a;perm:b] ; ;;perm:c".toList = texts ∧
    read "ALL [ any[perm:a;perm:b] ; ;;perm:c]" = (do
      let conditions ← Noted.gather (fun part => read (String.ofList part)) texts
      pure (some (.all conditions))) := by
  intro texts
  have parts : ∀ text ∈ texts, Part text := by decide +kernel
  have last : Holds ["perm:c".toList] ["perm:c".toList] :=
    Holds.text [] "perm:c".toList [] (by decide) (by decide) Holds.nil
  have holds : Holds [" any[perm:a;perm:b] ".toList, [' '], [], "perm:c".toList] texts := by
    apply Holds.text [' '] "any[perm:a;perm:b]".toList [' '] (by decide) (by decide)
    apply Holds.blank (by decide)
    exact Holds.blank (by decide) last
  obtain ⟨found, reads⟩ := parts_exact.1 _ _ holds parts
  exact ⟨parts, found, reads _ .each (by decide +kernel)⟩

end ChestMenu.Condition
