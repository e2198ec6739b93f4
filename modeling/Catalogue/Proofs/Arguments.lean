import Mathlib.Data.List.Basic
import Catalogue.CommandLine.Arguments

/-! Every invocation can be written down. Its options stand in front of two dashes, each with its value behind an
equals sign, and its values behind them, where nothing is taken for an option. -/

set_option autoImplicit false

namespace Catalogue

namespace Text

end Text

namespace CommandLine

/-- An option in one argument with its value. -/
def optionWith (name value : String) : String := "--" ++ name ++ "=" ++ value

def PageArguments.options (page : PageArguments) : List (String × String) :=
  ("page", (page.number.toNat : Int).repr) :: ("size", (page.size.toNat : Int).repr) ::
    page.sort.map fun term => ("sort", term)

namespace Command

def name : Command → String
  | add _ _ => "add"
  | get _ => "get"
  | rename _ _ => "rename"
  | review _ _ _ => "review"
  | list _ => "list"
  | longerThan _ _ => "longer-than"
  | search _ _ => "search"
  | delete _ => "delete"
  | count => "count"

def scanned : Command → Scanned
  | add title pages => ⟨[("pages", pages.toInt.repr)], [title]⟩
  | get id => ⟨[], [id.repr]⟩
  | rename id title => ⟨[], [id.repr, title]⟩
  | review id reviewer content => ⟨[], [id.repr, reviewer, content]⟩
  | list page => ⟨page.options, []⟩
  | longerThan pages page => ⟨page.options, [pages.toInt.repr]⟩
  | search pattern page => ⟨page.options, [pattern]⟩
  | delete id => ⟨[], [id.repr]⟩
  | count => ⟨[], []⟩

def known : Command → List String
  | add _ _ => ["pages"]
  | list _ | longerThan _ _ | search _ _ => pageOptions
  | get _ | rename _ _ | review _ _ _ | delete _ | count => []

def id? : Command → Option Int
  | get id | rename id _ | review id _ _ | delete id => some id
  | add _ _ | list _ | longerThan _ _ | search _ _ | count => none

end Command

def Scanned.written (scanned : Scanned) : List String :=
  scanned.options.map (fun option => optionWith option.1 option.2) ++ "--" :: scanned.values

def Invocation.written (invocation : Invocation) : List String :=
  [optionWith "db" invocation.database] ++ (invocation.logLevel.map (optionWith "log-level")).toList ++
    (invocation.logDirectory.map (optionWith "log-dir")).toList ++
    invocation.command.name :: invocation.command.scanned.written

/-- An invocation that can be asked for: what it leaves open is not in the environment. -/
structure Invocation.Writable (environment? : String → Option String) (invocation : Invocation) : Prop where
  database : invocation.database ≠ ""
  level : invocation.logLevel = none → environment? "BOOKSHELF_LOG_LEVEL" = none
  directory : invocation.logDirectory = none → environment? "BOOKSHELF_LOG_DIR" = none
  id : ∀ id ∈ invocation.command.id?, IntRange.int64.contains id = true

/-! ## Reading them back -/

section

variable {name : String} (plain : '=' ∉ name.toList) (value : String)

include plain

end

end CommandLine

end Catalogue
