/-
A shelf of hook tables.

Hook tables are values: a table with one more hook is a new table and leaves the old
one, and every copy made of it, as it was.  The shelf makes that visible.  It keeps
several tables by number, starting with an empty one; a step sets a hook on one of
them, copies one, or calls a hook, and never touches another table.
-/
import Telemetry.Hook

namespace Telemetry

/-- Hook tables by number. -/
structure HookShelf where
  tables : List HookTable

namespace HookShelf

/-- The shelf with one empty table. -/
def start : HookShelf := ⟨[.empty]⟩

/-- What can be done with the tables. -/
inductive Step
  /-- Adds an empty table. -/
  | new
  /-- Adds a copy of a table. -/
  | copy (table : Nat)
  /-- Adds a table that has an observer observe every phase. -/
  | observe (sink : ObserverSink)
  /-- Sets a hook. -/
  | on (table : Nat) (phase : Phase) (hook : Hook)
  /-- Calls the hook for a phase, if one is set. -/
  | call (table : Nat) (phase : Phase) (reading : Reading)
  /-- Asks which phases have hooks. -/
  | phases (table : Nat)
  /-- Asks for a table's text. -/
  | text (table : Nat) (breadth : Text.Breadth)

/-- The reply to a step. -/
inductive Reply
  | done
  | index (table : Nat)
  | refused (error : LabelError)
  | flag (value : Bool)
  | phases (phases : List Phase)
  | text (text : String)
  /-- There is no such table. -/
  | noTable

/-- What a step comes to. -/
structure Stepped where
  reply : Reply
  shelf : HookShelf
  /-- What was done, in order. -/
  effects : List Effect

/-- The shelf with one more table, and the reply that gives its number. -/
def add (shelf : HookShelf) (table : HookTable) : Stepped :=
  ⟨.index shelf.tables.length, ⟨shelf.tables ++ [table]⟩, []⟩

/-- Takes one step. -/
def step (shelf : HookShelf) : Step → Stepped
  | .new => shelf.add .empty
  | .observe sink =>
    match HookTable.observeEvents sink with
    | .error error => ⟨.refused error, shelf, []⟩
    | .ok table => shelf.add table
  | .copy number =>
    match shelf.tables[number]? with
    | none => ⟨.noTable, shelf, []⟩
    | some table => shelf.add table
  | .on number phase hook =>
    match shelf.tables[number]? with
    | none => ⟨.noTable, shelf, []⟩
    | some table => ⟨.done, ⟨shelf.tables.set number (table.on phase hook)⟩, []⟩
  | .call number phase reading =>
    match shelf.tables[number]? with
    | none => ⟨.noTable, shelf, []⟩
    | some table =>
      match table.hook? phase with
      | none => ⟨.flag false, shelf, []⟩
      | some hook => ⟨.flag true, shelf, [hook.call reading]⟩
  | .phases number =>
    match shelf.tables[number]? with
    | none => ⟨.noTable, shelf, []⟩
    | some table => ⟨.phases table.phases, shelf, []⟩
  | .text number breadth =>
    match shelf.tables[number]? with
    | none => ⟨.noTable, shelf, []⟩
    | some table => ⟨.text (table.text breadth), shelf, []⟩

/-- Takes steps one after the other. -/
def run (shelf : HookShelf) : List Step → List Stepped
  | [] => []
  | step :: rest =>
    let stepped := shelf.step step
    stepped :: stepped.shelf.run rest

end HookShelf

end Telemetry
