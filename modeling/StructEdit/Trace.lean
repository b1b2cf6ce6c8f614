import StructEdit.Config.Store
import StructEdit.Key.Caption
import StructEdit.Key.Spec
import StructEdit.Session
import StructEdit.Trace.Arguments
import StructEdit.Wire.Script

/-!
# StructEdit.Trace

Traces of keys: for each key of a list its caption, the actions that it comes to
in a scripted environment, and the focused option while a menu is open. The
executer of a trace suppresses what keys do by default.
-/

namespace StructEdit

namespace Trace

/-- What a trace ends with: an exit code, and the text that was printed by then. -/
structure Report where
  exitCode : UInt32
  output : String
deriving DecidableEq

/-- A text with a line feed in place of each pair of carriage return and line feed. -/
def unixLines : List Char → List Char
  | '\r' :: '\n' :: cs => '\n' :: unixLines cs
  | c :: cs => c :: unixLines cs
  | [] => []

/-- The line on an open menu. -/
def menuLines (menu : MenuController) : List String :=
  if menu.isOpen then
    ["  menu open, focused: " ++
      String.ofList (unixLines ((menu.focusedText?.getD "-").toList))]
  else []

/-- Presses a key and describes what happens, line by line. -/
def press (s : Session Script) (key : Key) : List String × Session Script :=
  let (suppressed, t) := s.press key
  let calls := t.log.drop s.log.length
  let head :=
    key.caption ++ " (suppress default: " ++ (if suppressed then "true" else "false") ++ ")"
  (head :: calls.map (fun call => "  " ++ Wire.toText call.action) ++ menuLines t.menu, t)

/-- Presses keys given as text, up to the first text that writes no key. The answer
is whether all of them did, and the lines printed. -/
def pressAll (s : Session Script) : List String → Bool × List String
  | [] => (true, [])
  | spec :: specs =>
    match Key.ofSpec? spec with
    | none => (false, [])
    | some key =>
      let (lines, t) := press s key
      let (ok, more) := pressAll t specs
      (ok, lines ++ more)

/-- The report of a trace that could not start. -/
def Report.failure : Report := ⟨1, ""⟩

/-- The configuration of a trace: the one in the given file, which has to be there,
or else the one of the user. -/
def config (arguments : Arguments) (files : String → File) (userConfig : File) :
    Except ConfigError Config :=
  match arguments.config with
  | some path => Config.load (files path)
  | none => .ok (Config.loadOrDefault userConfig)

/-- The script of a trace, which answers nothing unless one is given. -/
def script (arguments : Arguments) (files : String → File) : Except ReadError Script :=
  match arguments.script with
  | some path => (files path).read
  | none => .ok {}

/-- The trace of some arguments, where files are found by their paths. -/
def run (arguments : Arguments) (files : String → File) (userConfig : File) : Report :=
  match config arguments files userConfig with
  | .error _ => .failure
  | .ok config =>
    match config.validate, script arguments files with
    | .ok _, .ok script =>
      let session := Session.ofConfig config (.scripted true) script
      let (ok, lines) := pressAll session arguments.keys
      ⟨if ok then 0 else 1, String.join (lines.map (· ++ "\n"))⟩
    | _, _ => .failure

/-- The trace of a command line; one that is not understood is an error of its own. -/
def runCommandLine (args : List String) (files : String → File) (userConfig : File) : Report :=
  match Arguments.parse? args with
  | none => ⟨2, ""⟩
  | some arguments => run arguments files userConfig

end Trace

end StructEdit
