import StructEdit.Trigger

/-!
# StructEdit.Config.Check

What can be wrong with a configuration: a pattern without a meaning, a menu root
without a name, two categories of one name, or a root that is not among the
categories. Of several faults the first one of this list is reported.
-/

namespace StructEdit

/-- A fault of a configuration. -/
inductive ConfigFault where
  | badPattern (trigger : TriggerName) (error : PatternError)
  | emptyRoot
  | repeatedCategory (name : String)
  | unknownRoot (root : String)
deriving DecidableEq

/-- What is said of a pattern without a meaning, behind the words that report it. -/
def PatternError.suffix (e : PatternError) : String :=
  match e.words with
  | none => ""
  | some words => ": " ++ words

/-- The words that report a fault. -/
def ConfigFault.message : ConfigFault → String
  | badPattern trigger error =>
    "trigger " ++ Named.name trigger ++ " is not a valid regex" ++ error.suffix
  | emptyRoot => "menu root cannot be empty"
  | repeatedCategory name => "duplicate menu category: " ++ name
  | unknownRoot root => "menu root " ++ root ++ " is not a category"

/-- The first text that occurs earlier in a list or among the given ones. -/
def firstRepeated? (seen : List String) : List String → Option String
  | [] => none
  | name :: names =>
    if name ∈ seen then some name else firstRepeated? (name :: seen) names

/-- No text is repeated just when the texts differ from each other and from those
given. -/
theorem firstRepeated?_eq_none_iff {seen names : List String} :
    firstRepeated? seen names = none ↔ names.Nodup ∧ ∀ n ∈ names, n ∉ seen := by
  induction names generalizing seen with
  | nil => simp [firstRepeated?]
  | cons n ns ih =>
    unfold firstRepeated?
    split
    · simp_all
    · rw [ih]
      simp only [List.nodup_cons, List.mem_cons, not_or, forall_eq_or_imp]
      grind

namespace Config

/-- What is wrong with a pattern, if it has no meaning. -/
def patternFault? (compile? : PatternCompiler) (p : TriggerName × String) : Option ConfigFault :=
  match compile? p.2 with
  | .ok _ => none
  | .error e => some (.badPattern p.1 e)

/-- The fault of a configuration, for a given meaning of patterns. -/
def faultWith? (compile? : PatternCompiler) (c : Config) : Option ConfigFault :=
  match c.resolver.triggers.named.findSome? (patternFault? compile?) with
  | some fault => some fault
  | none =>
    if c.menu.root = "" then some .emptyRoot
    else
      match firstRepeated? [] (c.menu.categories.map (·.name)) with
      | some name => some (.repeatedCategory name)
      | none =>
        if c.menu.categories ≠ [] ∧ c.menu.root ∉ c.menu.categories.map (·.name) then
          some (.unknownRoot c.menu.root)
        else none

/-- The fault of a configuration. -/
def fault? (c : Config) : Option ConfigFault := c.faultWith? Pattern.compile?

end Config

end StructEdit
