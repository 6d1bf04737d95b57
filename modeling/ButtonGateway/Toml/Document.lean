import ButtonGateway.Toml.Value

namespace ButtonGateway.Toml

inductive Statement where
  | blank
  | entry (path : List String) (key : String) (tree : Tree)
  | table (path : List String) (key : String)
  | row (path : List String) (key : String)

/-- A key between brackets and the rest of its line. -/
def heading (closing : List Char) (make : List String → String → Statement) : Scan Statement :=
  fun chars => do
    let ((path, name), rest) ← key chars
    if closing.isPrefixOf rest then
      return (make path name, ← endLine? (rest.drop closing.length))
    else none

/-- One line; spaces behind it belong to it. -/
def statement : Scan Statement := fun chars =>
  let found :=
    match dropSpaces chars with
    | [] => none
    | '[' :: '[' :: rest => heading [']', ']'] .row rest
    | '[' :: rest => heading [']'] .table rest
    | '#' :: rest => (endLine? ('#' :: rest)).map fun left => (.blank, left)
    | line =>
      match newline? line with
      | some rest => some (.blank, rest)
      | none => do
        let (((path, name), tree), rest) ← pair (value (depthLimit - 1)) line
        return (.entry path name tree, ← endLine? rest)
  found.map fun (statement, rest) => (statement, dropSpaces rest)

/-- The lines of a document. A byte order mark may stand in front of it. -/
def statements? (chars : List Char) : Option (List Statement) :=
  let text := match chars with | '\ufeff' :: rest => rest | _ => chars
  let lines := statement.many (dropSpaces text)
  if lines.2.isEmpty then some lines.1 else none

inductive Target where
  | root
  | table (path : List String) (key : String)
  | row (path : List String) (key : String)

/-- A document under construction. The entries of the open table are not part of the tree yet. -/
structure Draft where
  root : Entries
  target : Target
  opened : Entries

namespace Draft

def start : Draft := ⟨[], .root, []⟩

/-- Puts the open table into the tree. -/
def close? (draft : Draft) : Option Entries :=
  let made := Tree.table .header draft.opened
  let put (change : Entries → Option Entries) (path : List String) : Option Entries :=
    (draft.root.alter .header (fun _ inner => (change inner).map fun entries => (entries, ()))
      path .header).map (·.1)
  match draft.target with
  | .root => some draft.opened
  | .table path key => put (fun inner => inner.add key made) path
  | .row path key => put (fun inner =>
      match inner.lookup key with
      | some (.tables rows) => some (inner.replace key (.tables (rows ++ [made])))
      | _ => none) path

/-- Takes out of a table what a header may go on with: what headers inside it have implied. -/
def reopen? (key : String) (_ : Origin) (inner : Entries) : Option (Entries × Entries) :=
  match inner.lookup key with
  | none => some (inner, [])
  | some (.table .implied entries) => some (inner.filter (·.1 != key), entries)
  | some _ => none

/-- Makes room for one more table of a name. -/
def reserve? (key : String) (_ : Origin) (inner : Entries) : Option (Entries × Unit) :=
  match inner.lookup key with
  | none => some (inner ++ [(key, .tables [])], ())
  | some (.tables _) => some (inner, ())
  | some _ => none

def add? (draft : Draft) : Statement → Option Draft
  | .blank => some draft
  | .entry path key tree => do
    return { draft with opened := ← draft.opened.addAt .dotted path key tree }
  | .table path key => do
    let root ← draft.close?
    let (root, opened) ← root.alter .header (reopen? key) path .header
    return ⟨root, .table path key, opened⟩
  | .row path key => do
    let root ← draft.close?
    let (root, _) ← root.alter .header (reserve? key) path .header
    return ⟨root, .row path key, []⟩

end Draft

def treeOf? (statements : List Statement) : Option Tree := do
  let draft ← statements.foldlM Draft.add? .start
  return .table .header (← draft.close?)

def parse? (text : String) : Option Tree := do treeOf? (← statements? text.toList)

end ButtonGateway.Toml
