import ChestMenu.Proofs.Installation.Commands
import ChestMenu.Proofs.Registry.Soundness
import ChestMenu.Proofs.Text.Cuts
import Mathlib.Data.String.Basic

/-!
# Completed names and the commands they complete

Completing a command and carrying it out take the line apart in two ways. What is offered
after `open` are the names that begin with the rest of the line, blanks included. What is
looked up is the first word behind `open`, and further words are dropped. So a name that is
offered can be opened by it exactly if it is one word; of a name with blanks only the first
word is looked up, and a name of nothing but blanks is taken for no name.
-/

namespace ChestMenu.Installation

open ChestMenu.Engine ChestMenu.Text

variable {installation : Installation} {input name : String} {begun : List Char}
variable {player : Player} {onMain : Bool} {act : InstallationM Output}

/-- What is typed is the word `open`, in any case, and behind it the beginning of a name. -/
def Opening (input : String) (begun : List Char) : Prop :=
  ∃ rest, cutAt isBlank (lower input.toList) = some ("open".toList, rest) ∧ begun = trimStart rest

/-- A name is one word. -/
def IsWord (name : String) : Prop := name ≠ "" ∧ ∀ c ∈ name.toList, isBlank c = false

/-! ## Completing -/

/-- Offered are the names in the registry that begin as typed, in any case. -/
theorem mem_completions_iff (opening : Opening input begun) :
    name ∈ installation.completions input ↔
      name ∈ installation.engine.registry.names ∧ begun <+: lower name.toList := by
  obtain ⟨rest, cut, rfl⟩ := opening
  simp [completions, cut]

/-- A look-up finds every name of a sound registry. -/
theorem get_of_mem_names {registry : Registry} {stored : Edition → Prop}
    (sound : registry.Sound stored) (member : name ∈ registry.names) :
    ∃ edition, (registry.get name).1 = some edition ∧ edition.menu.name = name := by
  obtain ⟨edition, listed, rfl⟩ := List.mem_map.mp member
  obtain ⟨⟨key, edition⟩, entry, rfl⟩ := List.mem_map.mp listed
  have found := Index.find_of_mem sound.ordered entry
  refine ⟨edition, ?_, rfl⟩
  rw [Registry.get_exact sound.honest]
  exact sound.current_of_find found

/-! ## Carrying out -/

/-- Opening takes the first word behind `open` for the name. -/
theorem command_open_eq (onMain : Bool) (sender : Sender) (name : String) :
    command onMain sender ("open " ++ name) =
      openMenu sender ((words name.toList).head?.map String.ofList) := by
  have line : ("open " ++ name).toList = "open".toList ++ ' ' :: name.toList := by simp
  have full : "open".toList ≠ [] := by decide
  have visible : ∀ c ∈ "open".toList, isBlank c = false := by decide
  have word : String.ofList (lower "open".toList) = "open" := by decide
  rw [command, line, words_append_cons full visible rfl]
  simp only [word, List.getElem?_cons_succ, List.head?_eq_getElem?]

/-- An installation whose look-ups take their time. -/
def unhurried : Installation where
  dataDir := ""
  settings := {}
  engine := { files := {}, registry := { folder := "" }, dispatch := .queued }

/-- A command that looks a menu up leaves the look-up of that name on its way, where
look-ups take their time. -/
theorem LooksUp.on_its_way (looksUp : LooksUp player name act) :
    (act unhurried).map (fun result => result.2.engine.lookups.map Lookup.name) = some [name] := by
  rw [looksUp]
  rfl

/-- The name that is looked up is the only one. -/
theorem LooksUp.unique {other : String} (first : LooksUp player name act)
    (second : LooksUp player other act) : name = other := by
  have same := first.on_its_way.symm.trans second.on_its_way
  simpa using same

/-- Opening looks up the name that it is given, if it is given one. -/
theorem looks_up_open_menu_iff {given : Option String} :
    LooksUp player name (openMenu (.player player) given) ↔ given = some name := by
  constructor
  · intro looksUp
    cases given with
    | none => cases looksUp.on_its_way
    | some other =>
      have itself : LooksUp player other (openMenu (.player player) (some other)) := rfl
      exact congrArg some (itself.unique looksUp)
  · rintro rfl
    rfl

/-- The first word of a name is the name exactly if it is one word. -/
theorem first_word_eq_self_iff :
    (words name.toList).head?.map String.ofList = some name ↔ IsWord name := by
  simp only [Option.map_eq_some_iff, String.ofList_eq, exists_eq_right, head_words_eq_self_iff,
    IsWord, ne_eq, String.toList_eq_nil_iff]

/-- The command that a name which is offered completes looks this name up exactly if it is
one word. If it has blanks, the command looks its first word up instead, and without any
word it gives the usage. A look-up of the name that is offered would find its menu. -/
theorem completed_name_looked_up_iff (opening : Opening input begun)
    (offered : name ∈ installation.completions input) (onMain : Bool) (player : Player) :
    (∀ stored, installation.engine.registry.Sound stored →
      ∃ edition, (installation.engine.registry.get name).1 = some edition ∧
        edition.menu.name = name) ∧
    (LooksUp player name (command onMain (.player player) ("open " ++ name)) ↔ IsWord name) ∧
    (∀ first rest, words name.toList = first :: rest →
      LooksUp player (String.ofList first) (command onMain (.player player) ("open " ++ name))) ∧
    (words name.toList = [] → command onMain (.player player) ("open " ++ name) =
      (do pure (reply (← messages).usageOpen))) := by
  obtain ⟨member, -⟩ := (mem_completions_iff opening).mp offered
  rw [command_open_eq]
  refine ⟨fun _ sound => get_of_mem_names sound member, ?_, ?_, ?_⟩
  · rw [looks_up_open_menu_iff, first_word_eq_self_iff]
  · intro first rest given
    rw [given, looks_up_open_menu_iff]
    rfl
  · intro given
    rw [given]
    rfl

/-- A menu with one slot. -/
def plainMenu (name title : String) : Menu := { name, title, rows := 1, layout := ["A"] }

/-- An installation with a menu of which the name has a blank in it, where look-ups and
tasks run at once. -/
def stocked : Installation where
  dataDir := "data"
  settings := {}
  engine := {
    files := {}
    registry := ({ folder := "menus" } : Registry).replaceAll
      [plainMenu "main" "Main", plainMenu "my menu" "Mine"]
    dispatch := .atOnce }

/-- The name that is offered for `OPEN ma` is looked up by the command that it completes,
and found. -/
theorem main_completed_and_found :
    Opening "OPEN ma" "ma".toList ∧ "main" ∈ stocked.completions "OPEN ma" ∧ IsWord "main" ∧
    LooksUp (.named "Steve") "main"
      (command true (.player (.named "Steve")) ("open " ++ "main")) ∧
    ∃ edition, (stocked.engine.registry.get "main").1 = some edition ∧
      edition.menu.name = "main" := by
  have sound : stocked.engine.registry.Sound (stocked.engine.registry.Adds fun _ => False) :=
    (Registry.sound_empty "menus").replaceAll _
  have opening : Opening "OPEN ma" "ma".toList := ⟨"ma".toList, by decide +kernel, by decide⟩
  have offered : "main" ∈ stocked.completions "OPEN ma" := by decide +kernel
  have word : IsWord "main" := ⟨by decide, by decide⟩
  obtain ⟨found, exactly, -⟩ :=
    completed_name_looked_up_iff opening offered true (.named "Steve")
  exact ⟨opening, offered, word, exactly.mpr word, found _ sound⟩

/-- The name `my menu` is offered for `open my`, but the command that it completes looks
up `my`, which no menu is called. -/
theorem spaced_name_missed :
    "my menu" ∈ stocked.completions "open my" ∧
    ¬ LooksUp (.named "Steve") "my menu"
      (command true (.player (.named "Steve")) ("open " ++ "my menu")) ∧
    LooksUp (.named "Steve") "my"
      (command true (.player (.named "Steve")) ("open " ++ "my menu")) ∧
    (command true (.player (.named "Steve")) ("open " ++ "my menu") stocked).map
      (fun result => result.2.engine.host.outputOf (.named "Steve")) =
        some [.text "§cMenu not found: my"] := by
  have looked : LooksUp (.named "Steve") "my"
      (command true (.player (.named "Steve")) ("open " ++ "my menu")) := by
    rw [command_open_eq, looks_up_open_menu_iff]
    decide +kernel
  refine ⟨by decide +kernel, fun missed => ?_, looked, by decide +kernel⟩
  have different : "my" ≠ "my menu" := by decide
  exact different (looked.unique missed)

end ChestMenu.Installation
