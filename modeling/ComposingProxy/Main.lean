import ComposingProxy.Config.Loader
import ComposingProxy.Gateway

/-!
# The command

Reads a configuration file, checks it and that a gateway can be made from it, and says
what it found.
-/

namespace ComposingProxy.Command

/-- The file that is read unless another one is named. -/
def defaultFile : String := "kdex.toml"

/-- How the command is used. -/
def usage : String := "usage: composing-proxy [-c | --config FILE]"

/-- The file that the arguments name. -/
def fileOf : List String → Option String
  | [] => some defaultFile
  | ["-c", file] => some file
  | ["--config", file] => some file
  | _ => none

/-- The line that tells that a configuration is loaded. -/
def summary (config : Config) : String :=
  "Configuration loaded: " ++ config.listener.bindAddress ++ " for " ++ config.site.address

/-- What is said about a configuration, and whether it can be used. -/
def report (loaded : Except LoadError Config) : String × Bool :=
  match loaded with
  | .error error => ("Error: " ++ error.message, false)
  | .ok config =>
    match Gateway.ofConfig config Sessions.anonymous with
    | .error error => ("Error: " ++ error.message, false)
    | .ok _ => (summary config, true)

/-- What is found at the path of a file. -/
def readContent (file : String) : IO FileContent := do
  try
    let bytes ← IO.FS.readBinFile file
    return .bytes bytes.toList
  catch _ =>
    return .missing

/-- How many random words are at hand for the aliases of apps, four for each and some to
pass over. -/
def wordCount : Nat := 4096

/-- Random words for the aliases of apps. -/
def randomWords : Nat → IO (List UInt64)
  | 0 => return []
  | count + 1 => do
    let word ← IO.rand 0 0xFFFFFFFFFFFFFFFF
    return word.toUInt64 :: (← randomWords count)

end ComposingProxy.Command

open ComposingProxy in
/-- Loads the configuration of the file that the command names and reports on it. -/
def main (arguments : List String) : IO UInt32 := do
  match Command.fileOf arguments with
  | none =>
    IO.eprintln Command.usage
    return 2
  | some file =>
    let words ← Command.randomWords Command.wordCount
    let content ← Command.readContent file
    let loaded :=
      if file = Command.defaultFile ∧ content = .missing then .ok {}
      else Config.load content ⟨words⟩
    let (text, usable) := Command.report loaded
    if usable then IO.println text else IO.eprintln text
    return if usable then 0 else 1
