import ButtonGateway.Toml.Number
import ButtonGateway.Toml.Text
import ButtonGateway.Toml.Tree

namespace ButtonGateway.Toml

def number : Scan Tree := fun chars =>
  (instant chars).map (fun found => (.instant, found.2)) <|>
    (float chars).map (fun found => (.float, found.2)) <|>
    (integer chars).map (fun found => (.integer found.1, found.2))

def simpleValue : Scan Tree := fun chars =>
  match chars with
  | '"' :: _ | '\'' :: _ => (text chars).map fun found => (.text found.1, found.2)
  | 't' :: _ => Scan.word "true" (.boolean true) chars
  | 'f' :: _ => Scan.word "false" (.boolean false) chars
  | _ => number chars

def arrayItem (value : Scan Tree) : Scan Tree := fun chars =>
  (value (dropFiller chars)).map fun found => (found.1, dropFiller found.2)

/-- An array behind its opening bracket. A comma may follow the last item. -/
def array (value : Scan Tree) : Scan Tree := fun chars =>
  let (items, rest) := ((arrayItem value).separated ',' chars).getD ([], chars)
  let rest :=
    match items, rest with
    | _ :: _, ',' :: behind => behind
    | _, _ => rest
  match dropFiller rest with
  | ']' :: left => some (.array items, left)
  | _ => none

def pair (value : Scan Tree) : Scan ((List String × String) × Tree) := fun chars => do
  let (path, rest) ← key chars
  let (tree, rest) ← Scan.behind '=' (fun behind => value (dropSpaces behind)) rest
  return ((path, tree), dropSpaces rest)

def entriesOfPairs (pairs : List ((List String × String) × Tree)) : Option Entries :=
  pairs.foldlM (fun entries pair => entries.addAt .braced pair.1.1 pair.1.2 pair.2) []

/-- A table behind its opening brace. No comma may follow the last pair. -/
def bracedTable (value : Scan Tree) : Scan Tree := fun chars =>
  let (pairs, rest) := ((pair value).separated ',' chars).getD ([], chars)
  match dropSpaces rest with
  | '\x7d' :: left => (entriesOfPairs pairs).map fun entries => (.table .braces entries, left)
  | _ => none

/-- A value in which others may be nested to a given depth. -/
def value : Nat → Scan Tree
  | 0, chars =>
    match chars with
    | '[' :: _ | '\x7b' :: _ => none
    | _ => simpleValue chars
  | depth + 1, chars =>
    match chars with
    | '[' :: rest => array (value depth) rest
    | '\x7b' :: rest => bracedTable (value depth) rest
    | _ => simpleValue chars

end ButtonGateway.Toml
