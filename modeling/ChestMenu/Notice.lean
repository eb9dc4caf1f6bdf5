/-!
# Notices

A notice is a line for the operator's log. Pure steps that have something to report
return their value together with the notices they gave, in order. `Noted` puts
such steps one after the other and never drops or reorders a notice.
-/

namespace ChestMenu

/-- How serious a notice is, most serious first. -/
inductive Level where
  | error
  | warn
  | info
  | debug
deriving DecidableEq, Repr

/-- Higher levels are more verbose. -/
def Level.verbosity : Level → Nat
  | .error => 1
  | .warn => 2
  | .info => 3
  | .debug => 4

/-- A line for the log. -/
structure Notice where
  level : Level
  text : String
deriving DecidableEq, Repr

/-- A value with the notices given on the way to it, oldest first. -/
structure Noted (α : Type) where
  value : α
  notices : List Notice := []
deriving Repr

namespace Noted

instance : Monad Noted where
  pure value := { value }
  bind step next :=
    let after := next step.value
    { value := after.value, notices := step.notices ++ after.notices }

/-- Gives one notice. -/
def note (level : Level) (text : String) : Noted Unit := { value := (), notices := [⟨level, text⟩] }

/-- Takes one step per element and keeps the results there are, in order. -/
def gather {α β : Type} (step : α → Noted (Option β)) : List α → Noted (List β)
  | [] => pure []
  | a :: rest => do
    let result ← step a
    let others ← gather step rest
    pure (match result with
      | some b => b :: others
      | none => others)

end Noted

end ChestMenu
