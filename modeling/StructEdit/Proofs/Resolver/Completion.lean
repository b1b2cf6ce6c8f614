import StructEdit.Proofs.Resolver.Commit
import StructEdit.Script

/-!
# StructEdit.Proofs.Resolver.Completion

Characters typed in autocompleted text. A character that completes the name of a construct
comes to its insertion, and any other to itself (`resolve_typed`). Main statement:
`Resolver.typing_commits_as_leaving`, it comes to the insertion that a key commits that
moves off the completed text.
-/

namespace StructEdit

/-- The script with the cursor in an autocomplete token. -/
def Script.inToken (s : Script) (token : AutocompleteToken) : Script :=
  { s with context := { s.context with autocomplete := some token } }

/-- The token with a character more at its end. -/
def AutocompleteToken.push (token : AutocompleteToken) (c : Char) : AutocompleteToken :=
  { token with text := token.text.push c }

namespace Resolver

/-! ## Typing -/

/-- No shortcut is held with a character that is typed. -/
theorem shortcut?_of_typed {p : Probe} {c : Char} (h : p.key.typed? = some c) :
    p.shortcut? = none := by
  have hplain : p.key.modifiers.isPlain = true := by
    rw [Key.typed?] at h
    split at h
    · assumption
    · contradiction
  have hcontrol : p.control = false := by
    rw [Modifiers.isPlain, beq_iff_eq, Modifiers.mk.injEq] at hplain
    exact hplain.2.1
  rw [Probe.shortcut?, hcontrol]
  rfl

/-- What a typed character completes is the text of the token with the character behind it. -/
theorem completion?_of_typed {p : Probe} {token : AutocompleteToken} {c : Char}
    (htoken : p.context.autocomplete = some token) (h : p.key.typed? = some c) :
    p.completion? = commitFor? p.queries p.context (token.push c).text := by
  simp [Probe.completion?, Probe.extendedText?, Probe.typed?, htoken, h, AutocompleteToken.push]

/-- A typed character is of the class of characters. -/
theorem class?_of_typed {key : Key} {c : Char} (h : key.typed? = some c) :
    key.class? = some .printable := by
  rw [Key.typed?, Option.ite_none_right_eq_some] at h
  exact Key.class?_eq_printable_iff.2 ⟨c, Key.char?_eq_some_iff.1 h.2⟩

/-- In the text of a token a character completes the token or is inserted. -/
theorem answer_typed {r : Resolver} {p : Probe} {token : AutocompleteToken} {c : Char}
    (htoken : p.context.autocomplete = some token) (htext : p.inText = true)
    (hkey : p.key.typed? = some c) :
    (Rung.first? printableLadder p).map (r.answer p) = some
      { action := (commitFor? p.queries p.context (token.push c).text).getD
          { intent := .insertChar } } := by
  have htyped : p.typed? = some c := hkey
  have hshortcut : p.shortcut? = none := shortcut?_of_typed hkey
  rw [← completion?_of_typed htoken hkey]
  cases hcompletion : p.completion? with
  | some a =>
    simp [printableLadder, Rung.first?, rung, answer, hshortcut, htext,
      hcompletion]
  | none =>
    simp [printableLadder, Rung.first?, rung, plain, answer, hshortcut, htext,
      hcompletion, htyped, htoken]

/-- A character typed in autocompleted text comes to the insertion that it completes, and to
itself if it completes none. -/
theorem resolve_typed {r : Resolver} {q : Queries} {menuOpen : Bool} {key : Key}
    {context : Context} {token : AutocompleteToken} {c : Char}
    (htoken : context.autocomplete = some token) (htext : q.textEditable context = true)
    (hkey : key.typed? = some c) :
    r.resolve q menuOpen key context =
      { action := (commitFor? q context (token.push c).text).getD { intent := .insertChar } } := by
  let p : Probe := ⟨key, context, q, r.triggers, menuOpen⟩
  rw [resolve_of_class (class?_of_typed hkey), ladder,
    answer_typed (p := p) htoken htext hkey]
  rfl

/-! ## Scripts -/

/-- What a key comes to where the answers are those of a script. -/
def press (r : Resolver) (s : Script) (menuOpen : Bool) (key : Key) : Resolution :=
  r.resolve s.queries menuOpen key s.context

/-- What a key commits that moves off the completed text, the character comes to that
completes it. -/
theorem press_typed {r leaving : Resolver} {s : Script} {token : AutocompleteToken} {c : Char}
    {key other : Key} {menuOpen otherOpen : Bool} (hkey : key.typed? = some c)
    (htext : s.context.textEditable = true) (hon : leaving.autoCommitOnBlur = true)
    (hoff : (leaving.press (s.inToken (token.push c)) otherOpen other).action.intent.movesOff =
      true) :
    r.press (s.inToken token) menuOpen key =
      { action := (leaving.press (s.inToken (token.push c)) otherOpen other).autoCommit.getD
          { intent := .insertChar } } := by
  have hcommit : (leaving.press (s.inToken (token.push c)) otherOpen other).autoCommit =
      commitFor? (s.inToken token).queries (s.inToken token).context (token.push c).text := by
    rw [press] at hoff
    rw [press, autoCommit_resolve, hon, hoff]
    rfl
  rw [hcommit]
  exact resolve_typed rfl htext hkey

/-- Up moves off the text where no menu is open. -/
theorem movesOff_press_up (r : Resolver) (s : Script) :
    (r.press s false ⟨.up, {}⟩).action.intent.movesOff = true := rfl

/-- Typing the last character of a text commits what leaving the text commits: if any key
would commit an insertion of the text with a character more, typing that character in the
text comes to this insertion and commits nothing besides; and if a key that moves off the
text, or every key, would commit nothing, the character is inserted. -/
theorem typing_commits_as_leaving (compile? : PatternCompiler) (config : ResolverConfig)
    (s : Script) (token : AutocompleteToken) (c : Char) (key : Key) (menuOpen : Bool)
    (hkey : key.typed? = some c) (htext : s.context.textEditable = true) :
    let typing := (ofConfigWith compile? config).press (s.inToken token) menuOpen key
    let leaving (menuOpen : Bool) (key : Key) :=
      (ofConfigWith compile? { config with autoCommitOnBlur := true }).press
        (s.inToken (token.push c)) menuOpen key
    (∀ menuOpen key a, (leaving menuOpen key).autoCommit = some a →
        typing = { autoCommit := none, action := a }) ∧
      (∀ menuOpen key, (leaving menuOpen key).action.intent.movesOff = true →
        (leaving menuOpen key).autoCommit = none →
          typing = { autoCommit := none, action := { intent := .insertChar } }) ∧
      ((¬ ∃ menuOpen key a, (leaving menuOpen key).autoCommit = some a) →
        typing = { autoCommit := none, action := { intent := .insertChar } }) := by
  intro typing leaving
  have htyping {menuOpen key} (hoff : (leaving menuOpen key).action.intent.movesOff = true) :
      typing = { action := (leaving menuOpen key).autoCommit.getD { intent := .insertChar } } :=
    press_typed hkey htext rfl hoff
  have hnone {menuOpen key} (hoff : (leaving menuOpen key).action.intent.movesOff = true)
      (h : (leaving menuOpen key).autoCommit = none) :
      typing = { action := { intent := .insertChar } } := by
    rw [htyping hoff, h, Option.getD_none]
  refine ⟨fun menuOpen key a ha => ?_, fun menuOpen key => hnone, fun h => ?_⟩
  · rw [htyping (commit_of_autoCommit ha).2.2, ha, Option.getD_some]
  -- if no key commits anything, the key that moves up does not, and it moves off the text
  · refine hnone (movesOff_press_up _ _) (Option.eq_none_iff_forall_ne_some.2 fun a ha => ?_)
    exact h ⟨_, _, a, ha⟩

/-- The last character of a construct's name inserts the construct, as Up would after it. -/
theorem typing_commits_print :
    let record : Insertion := ⟨"print()", "print", ⟨.printFunctionStmt, "print", none, none⟩, .valid⟩
    let s : Script := { context := { textEditable := true }, constructs := [record] }
    let token : AutocompleteToken := ⟨⟨0⟩, "prin", .startOfLine⟩
    let insert : Action :=
      { intent := .insertStatement, payload := some (.statement "print"), source := .autocomplete }
    (Key.mk (.char 't') {}).typed? = some 't' ∧ s.context.textEditable = true ∧
      (ofConfigWith (fun _ => .error {}) {}).press (s.inToken token) false ⟨.char 't', {}⟩ =
        { autoCommit := none, action := insert } := by
  intro record s token insert
  refine ⟨rfl, rfl, (typing_commits_as_leaving (fun _ => .error {}) {} s token 't' ⟨.char 't', {}⟩ false
    rfl rfl).1 false ⟨.up, {}⟩ insert ?_⟩
  decide

end Resolver

end StructEdit
