import ChestMenu.Action.Run
import ChestMenu.Host

/-!
# Rehearsing action sets

Action sets can be run without an engine: the host records, and the opening and closing
of menus is only noted down. Some names stand for menus, some for menus that the host
refuses to show, and closing can be made to fail.
-/

namespace ChestMenu

/-- A menu that would have been opened or closed. -/
inductive Visit where
  | opens (menu playerId : String)
  | closes (runHandlers : Bool) (playerId : String)
deriving DecidableEq, Repr

/-- The state of a rehearsal. -/
structure Rehearsal where
  host : Host := {}
  menus : List String := []
  broken : List String := []
  closeFails : Bool := false
  visits : List Visit := []
  notices : List Notice := []

namespace Rehearsal

/-- Opens a menu, as far as its name allows. -/
def openMenu (name : String) (player : Player) : StateM Rehearsal (Except OpenError Unit) := do
  modify fun s => { s with visits := s.visits ++ [.opens name player.id] }
  let s ← get
  pure (
    if s.broken.contains name then .error (.host ⟨.openInventory, "broken"⟩)
    else if s.menus.contains name then .ok ()
    else .error (.notFound name))

/-- Closes the view of a player. -/
def closeMenu (player : Player) (runHandlers : Bool) :
    StateM Rehearsal (Except HostError Unit) := do
  modify fun s => { s with visits := s.visits ++ [.closes runHandlers player.id] }
  let s ← get
  pure (if s.closeFails then .error ⟨.closeInventory, "stuck"⟩ else .ok ())

/-- Has the recording host carry out an effect. -/
def perform (player : Player) (effect : Effect) : StateM Rehearsal (Except HostError Unit) := do
  let s ← get
  match s.host.perform player effect with
  | .ok host =>
    set { s with host }
    pure (.ok ())
  | .error error => pure (.error error)

/-- What actions reach in a rehearsal. -/
def context : Context (StateM Rehearsal) where
  permits player permission := do pure ((← get).host.permits player permission)
  fill player template := do pure ((← get).host.fill player template)
  perform := perform
  openMenu := openMenu
  closeMenu := closeMenu
  note notice := modify fun s => { s with notices := s.notices ++ [notice] }

/-- Runs action sets for a player. -/
def run (rehearsal : Rehearsal) (player : Player) (sets : List ActionSet) : Bool × Rehearsal :=
  (ActionSet.runAll context player sets).run rehearsal

end Rehearsal

end ChestMenu
