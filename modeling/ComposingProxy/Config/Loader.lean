import ComposingProxy.Config.Alias
import ComposingProxy.Config.Setting
import ComposingProxy.Config.Validation
import ComposingProxy.Text.Utf8
import ComposingProxy.Toml.Reader

/-!
# Loading configurations

A configuration is the text of a file. Apps without alias get one, and what is then at
fault is refused.
-/

namespace ComposingProxy

/-- Why a file cannot be read. -/
inductive FileError where
  | notFound
  | isDirectory
  | invalidData
  deriving DecidableEq, Repr

/-- Why a configuration is refused. -/
inductive LoadError where
  | file (cause : FileError)
  /-- The text has not the form of a configuration. -/
  | malformed
  | faulty (faults : List ConfigFault)
  deriving DecidableEq, Repr

/-- The wording of an error whose wording is fixed. -/
def LoadError.message : LoadError → String
  | .file _ => "IO error"
  | .malformed => "Parse error"
  | .faulty faults => "Validation failed: " ++ ConfigFault.messages faults

/-- What is found at the path of a file. -/
inductive FileContent where
  | missing
  | directory
  | bytes (content : List UInt8)
  deriving DecidableEq, Repr

namespace Config

/-- The configuration of a text. -/
def parse (text : String) (source : RandomWords) : Except LoadError Config :=
  match (Toml.parse? text).bind (Config.ofSetting? .toml) with
  | none => .error .malformed
  | some config =>
    let config := config.assignMissingAliases source
    match config.faults with
    | [] => .ok config
    | faults => .error (.faulty faults)

/-- The configuration of a file. -/
def load (content : FileContent) (source : RandomWords) : Except LoadError Config :=
  match content with
  | .missing => .error (.file .notFound)
  | .directory => .error (.file .isDirectory)
  | .bytes bytes =>
    match Text.Utf8.decode? bytes with
    | none => .error (.file .invalidData)
    | some text => parse (String.ofList text) source

end Config

end ComposingProxy
