import StructEdit.Key
import StructEdit.Script

/-!
# StructEdit.Environment

What surrounds an editing session: a world that holds the document, the answers
about it, and the executer that applies actions to it. The world can be anything;
a script is one (`Environment.scripted`).
-/

namespace StructEdit

/-- What an executer is told: an action, the context it was resolved in, and the
key that it came from, if there was one. -/
structure Call where
  action : Action
  context : Context
  key : Option Key
deriving DecidableEq

/-- The answers about a world, and the executer that changes it. -/
structure Environment (σ : Type) where
  queries : σ → Queries
  /-- The answer is whether what the key does by default is to be suppressed. -/
  execute : Call → σ → Bool × σ

/-- A world that is a script. No action changes it, and for every action but the one
that does nothing the executer gives the same answer. -/
def Environment.scripted (suppress : Bool) : Environment Script where
  queries := Script.queries
  execute call script := (suppress && !call.action.isIgnored, script)

end StructEdit
