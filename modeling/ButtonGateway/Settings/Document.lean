import ButtonGateway.Settings.Validation
import ButtonGateway.Toml.Document
/-!
Settings as documents give them. A group of settings is a table, or an array of its settings in
order from which those with a usual value may be missing at the end. Entries that are not known
here do not matter.
-/
namespace ButtonGateway.Settings

open Toml (Tree)

inductive Refusal where
  /-- It is no document, or a setting has the wrong type. -/
  | unreadable
  | invalid (violation : Violation)
  deriving DecidableEq, Repr

inductive Group where
  | named (entries : Toml.Entries)
  | listed (items : List Tree)

/-- The group that a tree holds. An instant is a group in which nothing is set. -/
def group? : Tree → Option Group
  | .table _ entries => some (.named entries)
  | .array items => some (.listed items)
  | .tables rows => some (.listed rows)
  | .instant => some (.named [])
  | .text _ | .integer _ | .float | .boolean _ => none

namespace Group

/-- A setting, which has a name and a place. -/
def get? (group : Group) (place : Nat) (name : String) : Option Tree :=
  match group with
  | .named entries => entries.lookup name
  | .listed items => items[place]?

/-- A setting that has to be given. -/
def required {α : Type} (group : Group) (place : Nat) (name : String)
    (read? : Tree → Option α) : Option α :=
  (group.get? place name).bind read?

def optional {α : Type} (group : Group) (place : Nat) (name : String) (usual : α)
    (read? : Tree → Option α) : Option α :=
  match group.get? place name with
  | some tree => read? tree
  | none => some usual

end Group

def text? : Tree → Option String
  | .text value => some value
  | _ => none

/-- A natural number of at most `limit`. -/
def natural? (limit : Nat) : Tree → Option Nat
  | .integer value => if 0 ≤ value ∧ value ≤ limit then some value.toNat else none
  | _ => none

def list? {α : Type} (read? : Tree → Option α) : Tree → Option (List α)
  | .array items => items.mapM read?
  | .tables rows => rows.mapM read?
  | _ => none

def address? (tree : Tree) : Option Address :=
  (text? tree).bind fun text => (Address.parse text).toOption

/-- Whether a tree holds nothing else. -/
def isHollow : Tree → Bool
  | .array items => items.isEmpty
  | .tables rows => rows.isEmpty
  | .table _ entries => entries.isEmpty
  | _ => false

/-- The name of a value of a vocabulary: a text, or the only key of a table under which there is
nothing. -/
def valueName? : Tree → Option String
  | .text name => some name
  | .table _ [(name, inner)] => if isHollow inner then some name else none
  | _ => none

def click? (tree : Tree) : Option Daemon.Click := (valueName? tree).bind Enumeration.ofName?

def daemon? (tree : Tree) : Option DaemonSettings := do
  let group ← group? tree
  let usual : DaemonSettings := {}
  return {
    host := ← group.optional 0 "host" usual.host text?
    port := ← group.optional 1 "port" usual.port fun value =>
      (natural? 65535 value).map UInt16.ofNat }

def broker? (tree : Tree) : Option BrokerSettings := do
  let group ← group? tree
  let url ← group.required 0 "url" text?
  let topicBase ← group.required 1 "topic_prefix" text?
  let usual : BrokerSettings := { url, topicBase }
  return { usual with clientId := ← group.optional 2 "client_id" usual.clientId text? }

def button? (tree : Tree) : Option Button := do
  let group ← group? tree
  return {
    slot := UInt8.ofNat (← group.required 0 "slot" (natural? 255))
    name := ← group.required 1 "name" text?
    address := ← group.optional 2 "address" none fun value => (address? value).map some }

def filter? (tree : Tree) : Option ClickFilter := do
  let group ← group? tree
  let clicks (place : Nat) (kind : Daemon.ButtonClass) : Option (List Daemon.Click) :=
    group.optional place kind.key (ClickFilter.standard.kept kind) (list? click?)
  return {
    upOrDown := ← clicks 0 .upOrDown
    clickOrHold := ← clicks 1 .clickOrHold
    singleOrDoubleClick := ← clicks 2 .singleOrDoubleClick
    singleOrDoubleClickOrHold := ← clicks 3 .singleOrDoubleClickOrHold }

def ofTree? (tree : Tree) : Option Settings := do
  let group ← group? tree
  let daemon ← group.optional 0 "daemon" {} daemon?
  let broker ← group.required 1 "mqtt" broker?
  let usual : Settings := { broker }
  let buttons ← group.optional 2 "buttons" usual.buttons (list? button?)
  let filter ← group.optional 3 "filter" usual.filter filter?
  let epochLength ← group.optional 4 "epoch_secs" usual.epochLength fun value =>
    (natural? 18446744073709551615 value).map UInt64.ofNat
  return { daemon, broker, buttons, filter, epochLength }

/-- The settings that a document gives, if the gateway can work with them. -/
def ofDocument (text : String) : Except Refusal Settings :=
  match (Toml.parse? text).bind ofTree? with
  | none => .error .unreadable
  | some settings =>
    match settings.violation? with
    | some violation => .error (.invalid violation)
    | none => .ok settings

end ButtonGateway.Settings
