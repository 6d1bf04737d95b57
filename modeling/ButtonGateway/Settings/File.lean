import ButtonGateway.Settings.Document
import ButtonGateway.Text.Utf8

namespace ButtonGateway.Settings

inductive FileRefusal where
  /-- There is no such file, or it is no text. -/
  | unread
  | refused (refusal : Refusal)
  deriving DecidableEq, Repr

/-- The settings in a file with given content; `none` stands for a file that is missing. -/
def ofFile (content : Option (List UInt8)) : Except FileRefusal Settings :=
  match content.bind Text.decodeStrict? with
  | none => .error .unread
  | some text => (ofDocument text).mapError .refused

def below (directory name : String) : String :=
  if directory.toList.getLast? = some '/' then directory ++ name else directory ++ "/" ++ name

def isAbsolute (path : String) : Bool := path.toList.head? = some '/'

/-- The directory for the settings of all programs: the one that is set, if it begins at the root,
or else one in the user's home. -/
def directory (home : String) (chosen : Option String) : String :=
  match chosen with
  | some path => if isAbsolute path then path else below home ".config"
  | none => below home ".config"

def usualPath (home : String) (chosen : Option String) : String :=
  below (below (directory home chosen) "flic2mqtt") "config.toml"

end ButtonGateway.Settings
