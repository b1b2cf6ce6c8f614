import StructEdit.Resolver.Ladders

/-!
# StructEdit.Resolver

Resolving keys. A key comes to the action of the first rung of its ladder that
applies, and to nothing if it has no ladder or none of its rungs applies. If that
rung moves the cursor off an autocompleted text that names a construct, the
construct is inserted first.
-/

namespace StructEdit

/-- What keys are resolved with. -/
structure Resolver where
  triggers : Triggers
  autoCommitOnBlur : Bool

/-- What a key comes to: an action, and an insertion to be made before it. -/
structure Resolution where
  autoCommit : Option Action := none
  action : Action := .ignore
deriving DecidableEq

namespace Resolver

/-- The resolver of a configuration, for a given meaning of patterns. -/
def ofConfigWith (compile? : PatternCompiler) (config : ResolverConfig) : Resolver where
  triggers := .ofConfigWith compile? config.triggers
  autoCommitOnBlur := config.autoCommitOnBlur

/-- The resolver of a configuration. -/
def ofConfig (config : ResolverConfig) : Resolver := ofConfigWith Pattern.compile? config

/-- The insertion that is made before the cursor leaves an autocompleted text. -/
def commit? (r : Resolver) (p : Probe) : Option Action :=
  if r.autoCommitOnBlur then p.commit? else none

/-- What a key comes to in a context. -/
def resolve (r : Resolver) (q : Queries) (menuOpen : Bool) (key : Key) (context : Context) :
    Resolution :=
  match key.class? with
  | none => {}
  | some cls =>
    let p : Probe := { key, context, queries := q, triggers := r.triggers, menuOpen }
    match Rung.first? (ladder cls) p with
    | none => {}
    | some rung =>
      let move := rung.result p
      { autoCommit := if move.leaves then r.commit? p else none, action := move.action }

end Resolver

end StructEdit
