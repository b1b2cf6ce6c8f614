import StructEdit.Config.Check
import StructEdit.File
import StructEdit.Wire.Config

/-!
# StructEdit.Config.Store

Configurations in files. A configuration is saved as JSON text over several lines;
one that cannot be loaded from the place where it is looked for by default is
replaced by the default configuration.
-/

namespace StructEdit

/-- What can go wrong with a stored configuration. -/
inductive ConfigError where
  | read (error : FileError)
  | malformed
  | invalid (fault : ConfigFault)
deriving DecidableEq

/-- The words that report an error. -/
def ConfigError.message : ConfigError → String
  | read e => "IO error: " ++ e.message
  | malformed => "Parse error: not a configuration"
  | invalid f => "Validation error: " ++ f.message

namespace Config

/-- Where a configuration is looked for, below the directory of the user. -/
def defaultPath : String := "structural-editor/config.json"

/-- The configuration in a file. Its faults are not looked for. -/
def load (f : File) : Except ConfigError Config :=
  match (f.read : Except ReadError Config) with
  | .ok c => .ok c
  | .error (.file e) => .error (.read e)
  | .error .malformed => .error .malformed

/-- The configuration in a file, or else the default one. -/
def loadOrDefault (f : File) : Config :=
  match load f with
  | .ok c => c
  | .error _ => default

/-- The text that a configuration is saved as. -/
def text (c : Config) : String := Wire.toLines c

/-- The file that saving makes, which takes a directory to put it in. -/
def save (c : Config) (directory : Bool) : Except ConfigError File :=
  if directory then .ok (.ofText c.text) else .error (.read .notFound)

/-- Whether a configuration is without faults, or else the first one, for a given
meaning of patterns. -/
def validateWith (compile? : PatternCompiler) (c : Config) : Except ConfigError Unit :=
  match c.faultWith? compile? with
  | none => .ok ()
  | some f => .error (.invalid f)

/-- A configuration without faults, or else the first fault. -/
def validate (c : Config) : Except ConfigError Unit := c.validateWith Pattern.compile?

end Config

end StructEdit
