/-!
Settings documents as trees. A table remembers how it came into being, because that decides what
may be added to it later.
-/
namespace ButtonGateway.Toml

/-- How a table came into being. -/
inductive Origin where
  | braces
  /-- A dotted key between braces runs through it. -/
  | bracedKey
  | header
  /-- The header of a table inside it mentions it. -/
  | implied
  | dottedKey
  deriving DecidableEq, Repr

def Origin.isDotted : Origin → Bool
  | .bracedKey | .dottedKey => true
  | .braces | .header | .implied => false

def Origin.isInline : Origin → Bool
  | .braces | .bracedKey => true
  | .header | .implied | .dottedKey => false

/-- A value, a table, or tables under one name. Floating point numbers and instants are only known
to be such. -/
inductive Tree where
  | text (value : String)
  | integer (value : Int)
  | float
  | boolean (value : Bool)
  | instant
  | array (items : List Tree)
  | table (origin : Origin) (entries : List (String × Tree))
  | tables (rows : List Tree)
  deriving Repr

/-- The entries of a table in the order in which they were made. -/
abbrev Entries := List (String × Tree)

namespace Entries

def replace (entries : Entries) (key : String) (tree : Tree) : Entries :=
  entries.map fun entry => if entry.1 == key then (key, tree) else entry

/-- Adds an entry; each key can be used once. -/
def add (entries : Entries) (key : String) (tree : Tree) : Option Entries :=
  match entries.lookup key with
  | some _ => none
  | none => some (entries ++ [(key, tree)])

/-- Which tables a path may run through, and what it makes where there is none yet. -/
structure Route where
  passes : Origin → Bool
  makes : Origin

namespace Route

def braced : Route := ⟨(· == .bracedKey), .bracedKey⟩

def dotted : Route := ⟨fun origin => origin == .implied || origin == .dottedKey, .dottedKey⟩

def header : Route := ⟨fun origin => !origin.isInline, .implied⟩

end Route

/-- Changes the table that a path leads to. Through tables of one name the path runs by the last. -/
def alter {α : Type} (route : Route) (change : Origin → Entries → Option (Entries × α)) :
    List String → Origin → Entries → Option (Entries × α)
  | [], origin, entries => change origin entries
  | key :: path, _, entries =>
    match entries.lookup key with
    | none => do
      let (inner, result) ← alter route change path route.makes []
      return (entries ++ [(key, .table route.makes inner)], result)
    | some (.table origin inner) => do
      if route.passes origin then
        let (inner, result) ← alter route change path origin inner
        return (entries.replace key (.table origin inner), result)
      else none
    | some (.tables rows) => do
      match rows.getLast? with
      | some (.table origin inner) =>
        let (inner, result) ← alter route change path origin inner
        return (entries.replace key (.tables (rows.dropLast ++ [.table origin inner])), result)
      | _ => none
    | some _ => none

/-- Adds an entry under a dotted key, to a table that its own key has not left open otherwise. -/
def addAt (route : Route) (path : List String) (key : String) (tree : Tree) (entries : Entries) :
    Option Entries :=
  let change (origin : Origin) (inner : Entries) : Option (Entries × Unit) :=
    if path.isEmpty || origin.isDotted then (inner.add key tree).map fun added => (added, ())
    else none
  (entries.alter route change path .header).map (·.1)

end Entries

end ButtonGateway.Toml
