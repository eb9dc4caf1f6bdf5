import ChestMenu.Document.Basic

/-!
# Comparing values

Whether two values are the same is decided part by part. So documents can be compared, and a
text can be checked to be a document.
-/

namespace ChestMenu.Toml

mutual

/-- Compares two values. -/
def Value.same : Value → Value → Bool
  | .string text, .string other => text == other
  | .integer n, .integer other => n == other
  | .float bits, .float other => bits == other
  | .boolean holds, .boolean other => holds == other
  | .moment instant, .moment other => instant == other
  | .array elements, .array others => sameElements elements others
  | .table entries, .table others => sameEntries entries others
  | _, _ => false

/-- Compares the elements of two arrays. -/
def sameElements : List Value → List Value → Bool
  | [], [] => true
  | value :: rest, other :: others => value.same other && sameElements rest others
  | _, _ => false

/-- Compares the entries of two tables. -/
def sameEntries : List (String × Value) → List (String × Value) → Bool
  | [], [] => true
  | (key, value) :: rest, (other, value') :: others =>
    key == other && value.same value' && sameEntries rest others
  | _, _ => false

end

mutual

theorem Value.same_iff : (value other : Value) → (value.same other = true ↔ value = other)
  | .array elements, other => by
    cases other <;> simp [Value.same, same_elements_iff elements]
  | .table entries, other => by
    cases other <;> simp [Value.same, same_entries_iff entries]
  | .string _, other | .integer _, other | .float _, other | .boolean _, other
  | .moment _, other => by
    cases other <;> simp [Value.same]

theorem same_elements_iff :
    (elements others : List Value) → (sameElements elements others = true ↔ elements = others)
  | [], others => by cases others <;> simp [sameElements]
  | value :: rest, others => by
    cases others <;> simp [sameElements, Value.same_iff value, same_elements_iff rest]

theorem same_entries_iff : (entries others : List (String × Value)) →
    (sameEntries entries others = true ↔ entries = others)
  | [], others => by cases others <;> simp [sameEntries]
  | (key, value) :: rest, others => by
    cases others with
    | nil => simp [sameEntries]
    | cons first others =>
      simp [sameEntries, Value.same_iff value, same_entries_iff rest, Prod.ext_iff]

end

instance : DecidableEq Value := fun value other => decidable_of_iff _ (value.same_iff other)

/-- It is decided whether reading gives just this. -/
instance {α : Type} [DecidableEq α] (outcome : Except Fault α) (content : α) :
    Decidable (outcome = .ok content) :=
  match outcome with
  | .ok other => decidable_of_iff (other = content) (by simp)
  | .error _ => isFalse nofun

end ChestMenu.Toml

deriving instance DecidableEq for ChestMenu.Document.MenuDocument
