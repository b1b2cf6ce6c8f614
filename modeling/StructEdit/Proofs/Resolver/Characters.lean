import StructEdit.Proofs.Resolver.Completion
import StructEdit.Proofs.Text.Letters

/-!
# StructEdit.Proofs.Resolver.Characters

What character keys come to. Two rungs in the middle of their ladder keep text apart from the
rest: the first takes every character that is typed in text, the second all else in text and
whatever is not typed. So only shortcuts and what belongs to text come before them
(`answer_chord`, `answer_typed_in_text`), and only characters typed elsewhere come past them
(`answer_typed_elsewhere`). Main statement: `Resolver.resolve_char`.
-/

namespace StructEdit

namespace Resolver

/-- What letters stand for that are held with Control, in either case. -/
def shortcuts : List (Char × Intent) :=
  [('c', .copy), ('C', .copy), ('v', .paste), ('V', .paste), ('z', .undo), ('Z', .undo),
    ('y', .redo), ('Y', .redo)]

variable {p : Probe} {c : Char}

/-- The shortcuts are those of the list, with Control. -/
theorem shortcut?_eq_some_iff (h : p.key.char? = some c) {i : Intent} :
    p.shortcut? = some i ↔ p.control = true ∧ (c, i) ∈ shortcuts := by
  have hc : c.toLower = 'c' ↔ c = 'c' ∨ c = 'C' := toLower_eq_iff rfl rfl
  have hv : c.toLower = 'v' ↔ c = 'v' ∨ c = 'V' := toLower_eq_iff rfl rfl
  have hz : c.toLower = 'z' ↔ c = 'z' ∨ c = 'Z' := toLower_eq_iff rfl rfl
  have hy : c.toLower = 'y' ↔ c = 'y' ∨ c = 'Y' := toLower_eq_iff rfl rfl
  rw [Probe.shortcut?, h, Option.map_some, Option.ite_none_right_eq_some]
  refine and_congr_right fun _ => ?_
  simp only [shortcuts, List.mem_cons, Prod.mk.injEq, List.not_mem_nil, or_false]
  split <;> grind

/-! ## The ladder of characters -/

variable {r : Resolver}

/-- What is not typed is a shortcut, or nothing. -/
theorem answer_chord (h : p.typed? = none) :
    (Rung.first? printableLadder p).map (r.answer p) =
      some { action := { intent := p.shortcut?.getD .ignore } } := by
  have hcompletion : p.completion? = none := by
    simp [Probe.completion?, Probe.extendedText?, h]
  cases hshortcut : p.shortcut? with
  | some i => simp [printableLadder, Rung.first?, rung, answer, hshortcut]
  | none =>
    simp [printableLadder, Rung.first?, rung, plain, answer, hshortcut, hcompletion, h,
      Probe.typedIs, Action.ignore]

/-- What a character comes to that is typed in text: to itself, in autocompleted text also to
the insertion that it completes, and outside of it also to what can follow the expression on
the left. -/
inductive InText (pattern : String) (q : Queries) (context : Context) (c : Char) : Action → Prop
    where
  | itself : InText pattern q context c { intent := .insertChar }
  | completes {token : AutocompleteToken} {record : Insertion}
    (inside : context.autocomplete = some token)
    (first : IsFirstFor (token.push c).text (q.constructs context) record)
    (placed : (Toolbox.route q record.request context).isIgnored = false) :
    InText pattern q context c ((Toolbox.route q record.request context).fromSource .autocomplete)
  | follows (outside : context.autocomplete = none) : InText pattern q context c
    (.withPayload .openAutocomplete (.autocomplete .rightOfExpression c pattern
      ((q.insertions context).filter (·.isInsertable))))

/-- No character that is typed in text is ignored. -/
theorem InText.isIgnored_eq_false {pattern : String} {q : Queries} {context : Context} {a : Action}
    (h : InText pattern q context c a) : a.isIgnored = false := by
  cases h with
  | itself => rfl
  | completes _ _ placed => exact placed
  | follows => rfl

/-- A character typed in text comes to something that belongs there. -/
theorem answer_typed_in_text (htext : p.inText = true) (hkey : p.key.typed? = some c) :
    ∃ a, (Rung.first? printableLadder p).map (r.answer p) = some { action := a } ∧
      InText (p.triggers.forKind .rightOfExpression).pattern p.queries p.context c a := by
  cases htoken : p.context.autocomplete with
  | some token =>
    rw [answer_typed htoken htext hkey]
    cases hcommit : commitFor? p.queries p.context (token.push c).text with
    | none => exact ⟨_, rfl, .itself⟩
    | some a =>
      obtain ⟨record, hfirst, hplaced, rfl⟩ := commitFor?_eq_some_iff.1 hcommit
      exact ⟨_, rfl, .completes htoken hfirst hplaced⟩
  | none =>
    have htyped : p.typed? = some c := hkey
    have hshortcut : p.shortcut? = none := shortcut?_of_typed hkey
    have hcompletion : p.completion? = none := by
      simp [Probe.completion?, Probe.extendedText?, htoken]
    cases hfollows : p.typedIs p.triggers.inTextOperator.test &&
        p.context.tokenToLeft.any (!·.isStringLiteral) && p.holds .atRightOfExpression with
    | true =>
      refine ⟨Probe.openAutocomplete .rightOfExpression p, ?_, ?_⟩
      · rw [Bool.and_eq_true, Bool.and_eq_true] at hfollows
        simp [printableLadder, Rung.first?, rung, answer, hshortcut, hcompletion, htext, htoken,
          hfollows]
      · rw [Probe.openAutocomplete, htyped]
        exact .follows htoken
    | false =>
      refine ⟨_, ?_, .itself⟩
      simp [printableLadder, Rung.first?, rung, plain, answer, hshortcut, hcompletion, htext,
        htoken, htyped, hfollows]

/-- What a character comes to that is typed elsewhere than in text: to a literal, an operator,
suggestions, or nothing. -/
structure Elsewhere (a : Action) : Prop where
  source : a.source = .keyboard
  intent : a.intent ∈ [.insertLiteral, .insertOperatorTkn, .openAutocomplete, .ignore]

/-- Past the rungs for text are those for characters that are typed elsewhere. -/
theorem first?_typed_elsewhere (htext : p.inText = false) (hkey : p.key.typed? = some c) :
    Rung.first? printableLadder p = Rung.first? (printableLadder.drop 5) p := by
  have htyped : p.typed? = some c := hkey
  have hshortcut : p.shortcut? = none := shortcut?_of_typed hkey
  simp [printableLadder, Rung.first?, rung, plain, hshortcut, htext, htyped]

/-- The rungs behind the first five are for characters outside of text. -/
theorem elsewhere_of_mem_drop {s : KeyRung} (h : s ∈ printableLadder.drop 5) (p : Probe) :
    ∃ a, s.result p = { action := a } ∧ Elsewhere a := by
  revert s
  simp only [printableLadder, List.drop_succ_cons, List.drop_zero, List.forall_mem_cons,
    List.not_mem_nil, false_implies, implies_true, and_true]
  have literal (payload : Payload) : Elsewhere (.withPayload .insertLiteral payload) :=
    ⟨rfl, by simp [Action.withPayload]⟩
  have starting (kind : AutocompleteKind) : Elsewhere (p.openAutocomplete kind) :=
    ⟨rfl, by simp [Probe.openAutocomplete, Action.withPayload]⟩
  refine ⟨⟨_, rfl, literal _⟩, ⟨_, rfl, literal _⟩, ⟨_, rfl, starting _⟩, ⟨_, rfl, ?_⟩,
    ⟨_, rfl, starting _⟩, ⟨_, rfl, starting _⟩, ⟨_, rfl, starting _⟩, ⟨_, rfl, starting _⟩⟩
  -- the operator that is typed, if it is one
  dsimp only
  split
  · exact ⟨rfl, by simp [Action.withPayload]⟩
  · exact ⟨rfl, by simp [Action.ignore]⟩

/-- A character typed elsewhere than in text comes to something that does not belong in text. -/
theorem answer_typed_elsewhere (htext : p.inText = false) (hkey : p.key.typed? = some c) :
    ∃ a, ((Rung.first? printableLadder p).map (r.answer p)).getD {} = { action := a } ∧
      Elsewhere a := by
  rw [first?_typed_elsewhere htext hkey]
  cases hrung : Rung.first? (printableLadder.drop 5) p with
  | none => exact ⟨.ignore, rfl, rfl, by simp [Action.ignore]⟩
  | some s =>
    obtain ⟨a, ha, helsewhere⟩ := elsewhere_of_mem_drop (List.mem_of_find?_eq_some hrung) p
    exact ⟨a, by simp [answer, ha], helsewhere⟩

/-! ## Character keys -/

/-- What a character key comes to, in any context, with any triggers and whatever is answered
about the document; it never commits anything besides. With a modifier other than Shift held,
it is a shortcut just when Control is held with one of its letters, and nothing otherwise. A
character that is typed in text comes to something, which is one of the things that belong
there. Typed elsewhere it comes to none of them. -/
theorem resolve_char (r : Resolver) (q : Queries) (menuOpen : Bool) (c : Char)
    (modifiers : Modifiers) (context : Context) :
    let resolution := r.resolve q menuOpen ⟨.char c, modifiers⟩ context
    let a := resolution.action
    resolution.autoCommit = none ∧
      (modifiers.isPlain = false →
        (∀ i, i ≠ .ignore →
          (a = { intent := i } ↔ modifiers.control = true ∧ (c, i) ∈ shortcuts)) ∧
        ((∀ i, ¬ (modifiers.control = true ∧ (c, i) ∈ shortcuts)) → a = .ignore)) ∧
      (modifiers.isPlain = true → q.textEditable context = true →
        a.isIgnored = false ∧
          InText (r.triggers.forKind .rightOfExpression).pattern q context c a) ∧
      (modifiers.isPlain = true → q.textEditable context = false → Elsewhere a) := by
  intro resolution a
  let p : Probe := ⟨⟨.char c, modifiers⟩, context, q, r.triggers, menuOpen⟩
  have hclass : p.key.class? = some .printable := rfl
  have hresolve : resolution = ((Rung.first? printableLadder p).map (r.answer p)).getD {} :=
    resolve_of_class hclass
  cases hplain : modifiers.isPlain with
  | false =>
    have htyped : p.typed? = none := by simp [p, Probe.typed?, Key.typed?, hplain]
    have hchord : resolution = { action := { intent := p.shortcut?.getD .ignore } } := by
      rw [hresolve, answer_chord htyped, Option.getD_some]
    have hshortcut {i : Intent} : p.shortcut? = some i ↔
        modifiers.control = true ∧ (c, i) ∈ shortcuts := shortcut?_eq_some_iff rfl
    refine ⟨by rw [hchord], fun _ => ⟨fun i hi => ?_, fun hnone => ?_⟩, by simp, by simp⟩
    · rw [← hshortcut]
      cases h : p.shortcut? <;> simp [a, hchord, h, eq_comm, hi]
    · have h : p.shortcut? = none := Option.eq_none_iff_forall_ne_some.2 fun i hi =>
        hnone i (hshortcut.1 hi)
      simp [a, hchord, h, Action.ignore]
  | true =>
    have hkey : p.key.typed? = some c := by simp [p, Key.typed?, Key.char?, hplain]
    cases htext : q.textEditable context with
    | true =>
      obtain ⟨b, hb, hin⟩ := answer_typed_in_text (r := r) (p := p) htext hkey
      rw [hb, Option.getD_some] at hresolve
      have ha : a = b := congrArg Resolution.action hresolve
      rw [ha]
      exact ⟨by rw [hresolve], by simp, fun _ _ => ⟨hin.isIgnored_eq_false, hin⟩, by simp⟩
    | false =>
      obtain ⟨b, hb, hout⟩ := answer_typed_elsewhere (r := r) (p := p) htext hkey
      rw [hb] at hresolve
      have ha : a = b := congrArg Resolution.action hresolve
      rw [ha]
      exact ⟨by rw [hresolve], by simp, by simp, fun _ _ => hout⟩

end Resolver

end StructEdit
