import StructEdit.Proofs.Resolver.Rungs
import StructEdit.Resolver

/-!
# StructEdit.Proofs.Resolver.Commit

What keys come to, and when one commits autocompleted text. Main statement:
`Resolver.autoCommit_eq_some_iff`, which keys commit a text, and as which insertion.
-/

namespace StructEdit

namespace Resolver

/-! ## Resolving -/

/-- What a rung comes to. -/
def answer (r : Resolver) (p : Probe) (rung : KeyRung) : Resolution where
  autoCommit := if (rung.result p).leaves then r.commit? p else none
  action := (rung.result p).action

/-- A key of a class comes to what the first rung of its ladder that applies comes to. -/
theorem resolve_of_class {r : Resolver} {q : Queries} {menuOpen : Bool} {key : Key}
    {context : Context} {cls : KeyClass} (h : key.class? = some cls) :
    let p : Probe := ⟨key, context, q, r.triggers, menuOpen⟩
    r.resolve q menuOpen key context = ((Rung.first? (ladder cls) p).map (r.answer p)).getD {} := by
  simp only [resolve, h]
  split
  · next hnone => rw [hnone]; rfl
  · next hrung => rw [hrung]; rfl

/-- A key comes to what the first rung of its ladder says, where that one applies. -/
theorem resolve_of_cons {r : Resolver} {q : Queries} {menuOpen : Bool} {key : Key}
    {context : Context} {cls : KeyClass} {name : String} {applies : Probe → Bool}
    {intent : Intent} {below : List KeyRung} (hcls : key.class? = some cls)
    (hladder : ladder cls = plain name applies intent :: below)
    (happlies : applies ⟨key, context, q, r.triggers, menuOpen⟩ = true) :
    r.resolve q menuOpen key context = { action := { intent } } := by
  have hfirst : Rung.first? (ladder cls) ⟨key, context, q, r.triggers, menuOpen⟩ =
      some (plain name applies intent) := by
    rw [hladder]
    exact List.find?_cons_of_pos happlies
  rw [resolve_of_class hcls, hfirst]
  rfl

/-- A key comes to nothing, or to what a rung of its ladder comes to. -/
theorem resolve_cases (r : Resolver) (q : Queries) (menuOpen : Bool) (key : Key)
    (context : Context) :
    r.resolve q menuOpen key context = {} ∨ ∃ cls rung p, rung ∈ ladder cls ∧
      p.queries = q ∧ p.context = context ∧
        r.resolve q menuOpen key context = r.answer p rung := by
  cases hcls : key.class? with
  | none => exact .inl (by simp only [resolve, hcls])
  | some cls =>
    let p : Probe := ⟨key, context, q, r.triggers, menuOpen⟩
    rw [resolve_of_class hcls]
    cases hrung : Rung.first? (ladder cls) p with
    | none => exact .inl rfl
    | some rung => exact .inr ⟨cls, rung, p, List.mem_of_find?_eq_some hrung, rfl, rfl, rfl⟩

/-- What a key comes to inserts something, or is from the keyboard. -/
theorem insertsOrKeyed_resolve (r : Resolver) (q : Queries) (menuOpen : Bool) (key : Key)
    (context : Context) : (r.resolve q menuOpen key context).action.InsertsOrKeyed := by
  rcases r.resolve_cases q menuOpen key context with h | ⟨cls, rung, p, hrung, _, _, h⟩
  · rw [h]
    exact .inr rfl
  · rw [h]
    exact insertsOrKeyed_of_mem_ladder hrung p

/-! ## Committing -/

/-- A key commits the text if it is to be committed at all, and if what the key comes to
moves off the token. -/
theorem autoCommit_resolve (r : Resolver) (q : Queries) (menuOpen : Bool) (key : Key)
    (context : Context) :
    (r.resolve q menuOpen key context).autoCommit =
      if r.autoCommitOnBlur && (r.resolve q menuOpen key context).action.intent.movesOff then
        context.autocomplete.bind fun token => commitFor? q context token.text
      else none := by
  rcases r.resolve_cases q menuOpen key context with h | ⟨cls, rung, p, hrung, rfl, rfl, h⟩
  · simp [h, Action.ignore, Intent.movesOff, Intent.leavesToken]
  · simp only [h, answer, marked_of_mem_ladder hrung p, commit?, Probe.commit?]
    cases r.autoCommitOnBlur <;> cases (rung.result p).action.intent.movesOff <;> rfl

/-- What is committed inserts something in the name of autocompletion, and the key moves off
the token. -/
theorem commit_of_autoCommit {r : Resolver} {q : Queries} {menuOpen : Bool} {key : Key}
    {context : Context} {commit : Action}
    (h : (r.resolve q menuOpen key context).autoCommit = some commit) :
    commit.intent.isInsertion = true ∧ commit.source = .autocomplete ∧
      (r.resolve q menuOpen key context).action.intent.movesOff = true := by
  rw [autoCommit_resolve, Option.ite_none_right_eq_some, Bool.and_eq_true] at h
  obtain ⟨⟨_, hoff⟩, h⟩ := h
  obtain ⟨token, _, h⟩ := Option.bind_eq_some_iff.1 h
  refine ⟨isInsertion_of_commitFor? h, ?_, hoff⟩
  obtain ⟨_, _, _, rfl⟩ := commitFor?_eq_some_iff.1 h
  rfl

/-- Which keys commit the autocompleted text that the cursor stands in: those that come to
an action that leaves its token or closes the menu that goes with it, if texts are to be
committed and the first insertable record for the text can be placed. What is committed is
the insertion of that record. -/
theorem autoCommit_eq_some_iff (compile? : PatternCompiler) (config : ResolverConfig) (q : Queries)
    (menuOpen : Bool) (key : Key) (context : Context) (a : Action) :
    let resolution := (ofConfigWith compile? config).resolve q menuOpen key context
    resolution.autoCommit = some a ↔
      config.autoCommitOnBlur = true ∧
        (resolution.action.intent.leavesToken = true ∨
          resolution.action.intent = .closeValidInsertMenu) ∧
        ∃ token record, context.autocomplete = some token ∧
          IsFirstFor token.text (q.constructs context) record ∧
          (Toolbox.route q record.request context).isIgnored = false ∧
          a = (Toolbox.route q record.request context).fromSource .autocomplete := by
  intro resolution
  have hcommit : resolution.autoCommit =
      if config.autoCommitOnBlur && resolution.action.intent.movesOff then
        context.autocomplete.bind fun token => commitFor? q context token.text
      else none := autoCommit_resolve _ q menuOpen key context
  simp only [hcommit, Option.ite_none_right_eq_some, Bool.and_eq_true, Intent.movesOff_eq_true_iff,
    Option.bind_eq_some_iff, commitFor?_eq_some_iff, and_assoc, exists_and_left]

end Resolver

end StructEdit
