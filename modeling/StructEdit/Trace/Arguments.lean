import StructEdit.Text.Split

/-!
# StructEdit.Trace.Arguments

The arguments of a key trace: a script, and by the options `--config`, `--keys` and
`--log-file` a configuration, keys separated by commas, and a file for a log. An
option has its value behind an equals sign or as the next argument. Keys may be
given more than once, the others not.
-/

namespace StructEdit

namespace Trace

/-- What a key trace is told. -/
structure Arguments where
  script : Option String := none
  config : Option String := none
  keys : List String := []
  logFile : Option String := none
deriving DecidableEq

namespace Arguments

/-- The arguments with a script, unless there is one already. -/
def withScript? (a : Arguments) (path : String) : Option Arguments :=
  if a.script.isSome then none else some { a with script := some path }

/-- The arguments with the value of an option, if there is such an option that may
still be given. -/
def withOption? (a : Arguments) (name value : List Char) : Option Arguments :=
  let text := String.ofList value
  if name = "config".toList then
    if a.config.isSome then none else some { a with config := some text }
  else if name = "keys".toList then
    some { a with keys := a.keys ++ (Text.pieces ',' value).map String.ofList }
  else if name = "log-file".toList then
    if a.logFile.isSome then none else some { a with logFile := some text }
  else none

/-- Whether an argument can stand for itself or be the value of an option: it must
not look like an option. -/
def isValue : List Char → Bool
  | ['-'] => true
  | '-' :: _ => false
  | _ => true

/-- Adds arguments to those understood so far. -/
def add? (a : Arguments) : List String → Option Arguments
  | [] => some a
  | arg :: args =>
    match arg.toList with
    | ['-', '-'] => args.foldlM withScript? a
    | '-' :: '-' :: rest =>
      let name := rest.takeWhile (· != '=')
      match rest.dropWhile (· != '=') with
      | _ :: value => (a.withOption? name value).bind fun a => add? a args
      | [] =>
        match args with
        | value :: args =>
          if isValue value.toList then (a.withOption? name value.toList).bind fun a => add? a args
          else none
        | [] => none
    | cs => if isValue cs then (a.withScript? arg).bind fun a => add? a args else none

/-- What the arguments of a command line say. -/
def parse? (args : List String) : Option Arguments := add? {} args

end Arguments

end Trace

end StructEdit
