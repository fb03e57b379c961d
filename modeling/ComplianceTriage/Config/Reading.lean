import ComplianceTriage.Config.Basic
import ComplianceTriage.Hub.Manifests
import ComplianceTriage.Toml.Reading

/-!
# Reading a configuration

A configuration is a TOML text with two sections. A section names its values by their keys, or it
lists them in order. What is missing keeps its default, and what has another name or place is passed
over. A value of another type is a fault.
-/

namespace ComplianceTriage.Config

open Toml (Item Table)

/-- The fault of a text that is no configuration. -/
def mismatch (name wanted : String) : ConfigError :=
  .malformed (name ++ ": expected " ++ wanted)

/-- The value of a section with a name and a place. A date or a time as a section has none. -/
def valueOf? (name : String) (place : Nat) : Item → Except ConfigError (Option Item)
  | .table _ entries => .ok (entries.lookup name)
  | .array items => .ok items[place]?
  | .rows rows => .ok (rows[place]?.map (Item.table .header))
  | .moment _ => .ok none
  | _ => .error (mismatch name "a section")

/-- The number that a value is, which an unsigned type of 64 bits holds. -/
def countOf (name : String) : Item → Except ConfigError Nat
  | .integer n => if 0 ≤ n ∧ n < Nat.pow 2 64 then .ok n.toNat else .error (mismatch name "a count")
  | _ => .error (mismatch name "a count")

/-- The text that a value is. -/
def textOf (name : String) : Item → Except ConfigError String
  | .text s => .ok s
  | _ => .error (mismatch name "a text")

/-- Reads a value of a section, which keeps its default if it is missing. -/
def read {α : Type} (of : String → Item → Except ConfigError α) (values : Item) (name : String)
    (place : Nat) (default : α) : Except ConfigError α := do
  match ← valueOf? name place values with
  | some item => of name item
  | none => return default

/-- The settings that a section gives. -/
def triageOf (values : Item) : Except ConfigError Settings := do
  let d : Settings := {}
  return {
    messageLimit := ← read countOf values "max_message_len" 0 d.messageLimit
    operatorNs := ← read textOf values "default_operator_namespace" 1 d.operatorNs
    server := ← read textOf values "suggestion_server" 2 d.server
    fetchLimit := ← read countOf values "max_concurrent_fetches" 3 d.fetchLimit }

/-- The context that a section names. -/
def contextOf (values : Item) : Except ConfigError (Option String) :=
  read (fun name item => (textOf name item).map some) values "context" 0 none

/-- Whether a value can be passed over. All of it is looked at, so that no number may be huge, but
of a section that lists its values only those that belong to it. -/
def isPassable (name : String) : Item → Bool
  | .array items => name = "diagnosis" || name = "cluster" || Item.itemsHeld items
  | item => item.isHeld

/-- The configuration that a table gives. -/
def ofTable (table : Table) : Except ConfigError Config := do
  unless table.entries.all fun (name, item) => isPassable name item do
    throw (.malformed "a number is out of range")
  let triage ← match table.get? "diagnosis" with
    | some item => triageOf item
    | none => pure {}
  let context? ← match table.get? "cluster" with
    | some item => contextOf item
    | none => pure none
  return { triage, context? }

/-- The configuration that a text gives, whether it makes sense or not. -/
def ofText (text : String) : Except ConfigError Config :=
  match Table.ofText text.toList with
  | .ok table => ofTable table
  | .error fault => .error (.malformed fault.message)

/-- The configuration in a file. -/
def load (path : String) (file : FileText) : Except ConfigError Config :=
  match file with
  | .error cause => .error (.unreadable path cause)
  | .ok text => (ofText text).bind check

/-- A file is loaded as what its text gives, if that makes sense. -/
theorem load_eq_ok_iff {path : String} {file : FileText} {config : Config} :
    load path file = .ok config ↔
      ∃ text, file = .ok text ∧ (ofText text).toOption = some config ∧
        config.triage.fetchLimit ≠ 0 ∧ Text.trim config.triage.server.toList ≠ [] := by
  cases file with
  | error cause => simp [load]
  | ok text =>
    have hload : load path (.ok text) = (ofText text).bind check := rfl
    rw [hload]
    cases hread : ofText text with
    | error fault => simp [Except.bind, Except.toOption, hread]
    | ok read => simp [Except.bind, Except.toOption, hread, check_eq_ok_iff]

end ComplianceTriage.Config
