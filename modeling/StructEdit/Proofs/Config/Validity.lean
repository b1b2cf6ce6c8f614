import StructEdit.Config.Store
import StructEdit.Proofs.Resolver.Payloads

/-!
# StructEdit.Proofs.Config.Validity

What is checked of a configuration, for any meaning of patterns: a configuration is accepted
just when nothing is wrong with it (`Config.IsSound`), and of any other the fault of the first
check that fails is reported (`Config.FirstFault`). The patterns of an accepted configuration
are all in use (`Triggers.AreConfigured`). Main statement: `Config.validates`.
-/

namespace StructEdit

variable {compile? : PatternCompiler}

/-! ## Patterns in use -/

/-- A trigger has a given pattern and tests for what the pattern means. -/
structure Trigger.Means (compile? : PatternCompiler) (pattern : String) (t : Trigger) : Prop where
  pattern_eq : t.pattern = pattern
  test_eq : compile? pattern = .ok t.test

/-- The trigger of a pattern is made of the fallback just when the pattern has no meaning. -/
theorem Trigger.means_compile_iff {pattern fallback : String} :
    (Trigger.compile compile? pattern fallback).Means compile? pattern ↔
      ∃ test, compile? pattern = .ok test := by
  refine ⟨fun hmeans => ⟨_, hmeans.test_eq⟩, ?_⟩
  rintro ⟨test, h⟩
  unfold Trigger.compile
  rw [h]
  exact ⟨rfl, h⟩

/-- Every pattern has a meaning. -/
def TriggerConfig.AllMean (compile? : PatternCompiler) (t : TriggerConfig) : Prop :=
  ∀ p ∈ t.named, ∃ test, compile? p.2 = .ok test

/-- Every pattern has a meaning just when those for the kinds of text and the one for operators
have. -/
theorem TriggerConfig.allMean_iff {t : TriggerConfig} :
    t.AllMean compile? ↔ (∀ kind, ∃ test, compile? (t.pattern kind) = .ok test) ∧
      ∃ test, compile? t.inTextOperator = .ok test := by
  simp only [AllMean, named, List.forall_mem_cons, List.not_mem_nil, false_imp_iff,
    implies_true, and_true]
  constructor
  · rintro ⟨hline, hexpression, hoperator, hleft, hright, htext⟩
    refine ⟨fun kind => ?_, htext⟩
    cases kind <;> assumption
  · rintro ⟨hkind, htext⟩
    exact ⟨hkind .startOfLine, hkind .atExpressionHole, hkind .atEmptyOperatorHole,
      hkind .leftOfExpression, hkind .rightOfExpression, htext⟩

/-- Every trigger is that of the configured pattern: the one that starts a kind of text, and
the one for operators in the text of a token. -/
structure Triggers.AreConfigured (compile? : PatternCompiler) (config : TriggerConfig)
    (t : Triggers) : Prop where
  forKind : ∀ kind, (t.forKind kind).Means compile? (config.pattern kind)
  inText : t.inTextOperator.Means compile? config.inTextOperator

/-- The configured patterns are all in use just when they all have a meaning. -/
theorem Triggers.areConfigured_iff {config : TriggerConfig} :
    (ofConfigWith compile? config).AreConfigured compile? config ↔ config.AllMean compile? := by
  have hkind (kind) : ((ofConfigWith compile? config).forKind kind).Means compile?
      (config.pattern kind) ↔ ∃ test, compile? (config.pattern kind) = .ok test := by
    cases kind <;> exact Trigger.means_compile_iff
  rw [TriggerConfig.allMean_iff]
  constructor
  · exact fun h => ⟨fun kind => (hkind kind).1 (h.forKind kind), Trigger.means_compile_iff.1 h.inText⟩
  · exact fun h => ⟨fun kind => (hkind kind).2 (h.1 kind), Trigger.means_compile_iff.2 h.2⟩

/-! ## Repeated names -/

/-- The first repeated text is the one behind texts that differ from each other and from
those given. -/
theorem firstRepeated?_eq_some_iff {seen names : List String} {name : String} :
    firstRepeated? seen names = some name ↔
      ∃ before after, names = before ++ name :: after ∧ before.Nodup ∧
        (∀ n ∈ before, n ∉ seen) ∧ (name ∈ seen ∨ name ∈ before) := by
  induction names generalizing seen with
  | nil => simp [firstRepeated?]
  | cons n ns ih =>
    unfold firstRepeated?
    split
    next hseen =>
      constructor
      · rintro ⟨⟩
        exact ⟨[], ns, rfl, List.nodup_nil, by simp, .inl hseen⟩
      · rintro ⟨before, after, heq, _, hunseen, _⟩
        cases before with
        | nil => rw [(List.cons.inj heq).1]
        | cons b before =>
          obtain ⟨rfl, _⟩ := List.cons.inj heq
          exact absurd hseen (hunseen n List.mem_cons_self)
    -- `n` moves from the names before the repeated one to those that were seen
    next hseen =>
      have hmem (before : List String) : name ∈ n :: seen ∨ name ∈ before ↔
          name ∈ seen ∨ name ∈ n :: before := by
        rw [List.mem_cons, List.mem_cons, or_assoc, or_left_comm]
      rw [ih]
      constructor
      · rintro ⟨before, after, rfl, hnodup, hunseen, hname⟩
        simp only [List.mem_cons, not_or] at hunseen
        refine ⟨n :: before, after, rfl, ?_, ?_, (hmem before).1 hname⟩
        · exact List.nodup_cons.2 ⟨fun h => (hunseen n h).1 rfl, hnodup⟩
        · exact List.forall_mem_cons.2 ⟨hseen, fun b hb => (hunseen b hb).2⟩
      · rintro ⟨before, after, heq, hnodup, hunseen, hname⟩
        cases before with
        | nil =>
          obtain ⟨rfl, _⟩ := List.cons.inj heq
          simp [hseen] at hname
        | cons b before =>
          obtain ⟨rfl, rfl⟩ := List.cons.inj heq
          obtain ⟨hb, hnodup⟩ := List.nodup_cons.1 hnodup
          refine ⟨before, after, rfl, hnodup, fun m hm => ?_, (hmem before).2 hname⟩
          rw [List.mem_cons, not_or]
          exact ⟨fun h => hb (h ▸ hm), hunseen m (List.mem_cons_of_mem n hm)⟩

/-! ## Faults -/

/-- What is said of a pattern can be read off what is put behind the report of it. -/
theorem PatternError.suffix_injective : Function.Injective PatternError.suffix := by
  rintro ⟨_ | a⟩ ⟨_ | b⟩ h <;> simp [suffix] at h ⊢
  exact h

/-- The name of a trigger ends at the first blank of the words for its pattern. -/
theorem TriggerName.blank_not_mem (n : TriggerName) : ' ' ∉ (Named.name n).toList := by
  cases n <;> decide

/-- The report of a bad pattern, character by character. -/
theorem ConfigFault.toList_message_badPattern (n : TriggerName) (e : PatternError) :
    (badPattern n e).message.toList = "trigger ".toList ++ ((Named.name n).toList ++
      (" is not a valid regex".toList ++ e.suffix.toList)) := by
  have hmessage : (badPattern n e).message =
      "trigger " ++ Named.name n ++ " is not a valid regex" ++ e.suffix := rfl
  rw [hmessage, String.toList_append, String.toList_append, String.toList_append,
    List.append_assoc, List.append_assoc]

/-- The report of a bad pattern tells what the pattern is for and what was said of it. -/
theorem ConfigFault.badPattern_message_inj {a b : TriggerName} {d e : PatternError}
    (h : (badPattern a d).message = (badPattern b e).message) : a = b ∧ d = e := by
  have hname (n : TriggerName) (cs : List Char) :
      ((Named.name n).toList ++ (" is not a valid regex".toList ++ cs)).takeWhile (· ≠ ' ') =
        (Named.name n).toList := by
    rw [List.takeWhile_append_of_pos]
    · exact List.append_nil _
    · exact fun c hc => decide_eq_true fun hblank => n.blank_not_mem (hblank ▸ hc)
  have hlist := congrArg String.toList h
  rw [toList_message_badPattern, toList_message_badPattern, List.append_cancel_left_eq] at hlist
  have hnames := congrArg (List.takeWhile (· ≠ ' ')) hlist
  rw [hname, hname] at hnames
  obtain rfl : a = b := Named.name_injective (String.toList_inj.1 hnames)
  rw [List.append_cancel_left_eq, List.append_cancel_left_eq] at hlist
  exact ⟨rfl, PatternError.suffix_injective (String.toList_inj.1 hlist)⟩

/-- The words that report a fault tell it from every other fault. -/
theorem ConfigFault.message_injective : Function.Injective ConfigFault.message := by
  intro f g h
  cases f <;> cases g
  case badPattern.badPattern =>
    obtain ⟨rfl, rfl⟩ := badPattern_message_inj h
    rfl
  all_goals unfold ConfigFault.message at h
  case emptyRoot.emptyRoot => rfl
  case repeatedCategory.repeatedCategory | unknownRoot.unknownRoot => simpa using h
  case emptyRoot.unknownRoot root | unknownRoot.emptyRoot root =>
    -- the words begin alike, and those for an unknown root are longer even without its name
    have hlength := congrArg (fun words => words.toList.length) h
    simp only [String.toList_append, List.length_append] at hlength
    simp at hlength
    omega
  all_goals
    have hhead := congrArg (fun words => words.toList.head?) h
    simp at hhead

/-- Errors that are worded alike are of the same fault. -/
theorem ConfigError.message_invalid_inj {f g : ConfigFault} :
    (ConfigError.invalid f).message = (ConfigError.invalid g).message ↔ f = g := by
  unfold ConfigError.message
  rw [String.append_right_inj]
  exact ConfigFault.message_injective.eq_iff

namespace Config

/-- Every pattern has a meaning, the root of the menu has a name, no two categories have the
same name, and the root is one of the categories if there are any. -/
structure IsSound (compile? : PatternCompiler) (c : Config) : Prop where
  patterns : c.resolver.triggers.AllMean compile?
  root_ne : c.menu.root ≠ ""
  nodup : (c.menu.categories.map (·.name)).Nodup
  root_mem : c.menu.categories = [] ∨ c.menu.root ∈ c.menu.categories.map (·.name)

/-- The fault of the first check that fails: the first pattern without a meaning, a root without
a name, the first category of a name that occurred before, or a root that no category has the
name of. -/
inductive FirstFault (compile? : PatternCompiler) (c : Config) : ConfigFault → Prop where
  | badPattern {before after : List (TriggerName × String)} {name : TriggerName}
      {pattern : String} {error : PatternError}
      (split : c.resolver.triggers.named = before ++ (name, pattern) :: after)
      (good : ∀ p ∈ before, ∃ test, compile? p.2 = .ok test)
      (bad : compile? pattern = .error error) : FirstFault compile? c (.badPattern name error)
  | emptyRoot (patterns : c.resolver.triggers.AllMean compile?) (root : c.menu.root = "") :
      FirstFault compile? c .emptyRoot
  | repeatedCategory {before after : List Category} {category : Category}
      (patterns : c.resolver.triggers.AllMean compile?) (root : c.menu.root ≠ "")
      (split : c.menu.categories = before ++ category :: after)
      (distinct : (before.map (·.name)).Nodup) (repeated : category.name ∈ before.map (·.name)) :
      FirstFault compile? c (.repeatedCategory category.name)
  | unknownRoot (patterns : c.resolver.triggers.AllMean compile?) (root : c.menu.root ≠ "")
      (distinct : (c.menu.categories.map (·.name)).Nodup) (nonempty : c.menu.categories ≠ [])
      (unknown : c.menu.root ∉ c.menu.categories.map (·.name)) :
      FirstFault compile? c (.unknownRoot c.menu.root)

variable {c : Config} {f : ConfigFault}

/-- Nothing is wrong with a pattern that has a meaning. -/
theorem patternFault?_eq_none_iff {p : TriggerName × String} :
    patternFault? compile? p = none ↔ ∃ test, compile? p.2 = .ok test := by
  unfold patternFault?
  cases compile? p.2 <;> simp

/-- What is wrong with a pattern is what its compiler says. -/
theorem patternFault?_eq_some_iff {p : TriggerName × String} :
    patternFault? compile? p = some f ↔
      ∃ error, compile? p.2 = .error error ∧ .badPattern p.1 error = f := by
  unfold patternFault?
  cases compile? p.2 <;> simp

/-- There is no first pattern without a meaning just when every pattern has one. -/
theorem findSome?_eq_none_iff {t : TriggerConfig} :
    t.named.findSome? (patternFault? compile?) = none ↔ t.AllMean compile? := by
  simp only [List.findSome?_eq_none_iff, patternFault?_eq_none_iff, TriggerConfig.AllMean]

/-- A sound configuration passes every check. -/
theorem IsSound.faultWith?_eq (h : c.IsSound compile?) : c.faultWith? compile? = none := by
  have hrepeated : firstRepeated? [] (c.menu.categories.map (·.name)) = none :=
    firstRepeated?_eq_none_iff.2 ⟨h.nodup, fun _ _ => List.not_mem_nil⟩
  have hroot : ¬(c.menu.categories ≠ [] ∧ c.menu.root ∉ c.menu.categories.map (·.name)) :=
    fun ⟨hne, hmem⟩ => h.root_mem.elim hne hmem
  simp only [faultWith?, findSome?_eq_none_iff.2 h.patterns, if_neg h.root_ne,
    hrepeated, if_neg hroot]

/-- The first fault is the one that the checks come upon. Each case passes the checks before its
own and fails that. -/
theorem FirstFault.faultWith?_eq (h : c.FirstFault compile? f) :
    c.faultWith? compile? = some f := by
  cases h with
  | @badPattern before after name pattern error split good bad =>
    have hfind : c.resolver.triggers.named.findSome? (patternFault? compile?) =
        some (.badPattern name error) := by
      rw [List.findSome?_eq_some_iff]
      exact ⟨before, (name, pattern), after, split, patternFault?_eq_some_iff.2 ⟨error, bad, rfl⟩,
        fun p hp => patternFault?_eq_none_iff.2 (good p hp)⟩
    simp only [faultWith?, hfind]
  | emptyRoot patterns root =>
    simp only [faultWith?, findSome?_eq_none_iff.2 patterns, if_pos root]
  | @repeatedCategory before after category patterns root split distinct repeated =>
    have hrepeated : firstRepeated? [] (c.menu.categories.map (·.name)) = some category.name := by
      rw [firstRepeated?_eq_some_iff, split, List.map_append, List.map_cons]
      exact ⟨_, _, rfl, distinct, fun _ _ => List.not_mem_nil, .inr repeated⟩
    simp only [faultWith?, findSome?_eq_none_iff.2 patterns, if_neg root, hrepeated]
  | unknownRoot patterns root distinct nonempty unknown =>
    have hrepeated : firstRepeated? [] (c.menu.categories.map (·.name)) = none :=
      firstRepeated?_eq_none_iff.2 ⟨distinct, fun _ _ => List.not_mem_nil⟩
    simp only [faultWith?, findSome?_eq_none_iff.2 patterns, if_neg root, hrepeated,
      if_pos (And.intro nonempty unknown)]

/-- A configuration is sound or has a first fault. -/
theorem isSound_or_exists_firstFault (compile? : PatternCompiler) (c : Config) :
    c.IsSound compile? ∨ ∃ f, c.FirstFault compile? f := by
  by_cases hpatterns : c.resolver.triggers.AllMean compile?
  case neg =>
    rw [← findSome?_eq_none_iff, ← Ne, Option.ne_none_iff_exists'] at hpatterns
    obtain ⟨fault, hfind⟩ := hpatterns
    obtain ⟨before, p, after, hsplit, hfault, hgood⟩ := List.findSome?_eq_some_iff.1 hfind
    obtain ⟨error, hbad, rfl⟩ := patternFault?_eq_some_iff.1 hfault
    exact .inr ⟨_, .badPattern hsplit (fun q hq => patternFault?_eq_none_iff.1 (hgood q hq)) hbad⟩
  by_cases hroot : c.menu.root = ""
  case pos => exact .inr ⟨_, .emptyRoot hpatterns hroot⟩
  cases hrepeated : firstRepeated? [] (c.menu.categories.map (·.name)) with
  | some name =>
    obtain ⟨names, rest, hsplit, hdistinct, _, hname⟩ := firstRepeated?_eq_some_iff.1 hrepeated
    obtain ⟨before, others, hcategories, rfl, hothers⟩ := List.map_eq_append_iff.1 hsplit
    obtain ⟨category, after, rfl, rfl, _⟩ := List.map_eq_cons_iff.1 hothers
    exact .inr ⟨_, .repeatedCategory hpatterns hroot hcategories hdistinct
      (hname.resolve_left List.not_mem_nil)⟩
  | none =>
    obtain ⟨hdistinct, _⟩ := firstRepeated?_eq_none_iff.1 hrepeated
    by_cases hne : c.menu.categories = []
    · exact .inl ⟨hpatterns, hroot, hdistinct, .inl hne⟩
    by_cases hmem : c.menu.root ∈ c.menu.categories.map (·.name)
    · exact .inl ⟨hpatterns, hroot, hdistinct, .inr hmem⟩
    · exact .inr ⟨_, .unknownRoot hpatterns hroot hdistinct hne hmem⟩

/-- A configuration has no fault just when it is sound. -/
theorem faultWith?_eq_none_iff : c.faultWith? compile? = none ↔ c.IsSound compile? := by
  refine ⟨fun h => ?_, IsSound.faultWith?_eq⟩
  refine (isSound_or_exists_firstFault compile? c).resolve_right fun ⟨f, hf⟩ => ?_
  rw [hf.faultWith?_eq] at h
  contradiction

/-- The fault of a configuration is its first one. -/
theorem faultWith?_eq_some_iff : c.faultWith? compile? = some f ↔ c.FirstFault compile? f := by
  refine ⟨fun h => ?_, FirstFault.faultWith?_eq⟩
  obtain hsound | ⟨g, hg⟩ := isSound_or_exists_firstFault compile? c
  · rw [hsound.faultWith?_eq] at h
    contradiction
  · rw [hg.faultWith?_eq, Option.some.injEq] at h
    exact h ▸ hg

/-- A configuration is accepted just when it is sound. -/
theorem validateWith_eq_ok_iff :
    c.validateWith compile? = .ok () ↔ c.IsSound compile? := by
  rw [← faultWith?_eq_none_iff, validateWith]
  cases c.faultWith? compile? <;> simp

/-- A configuration is refused with its first fault. -/
theorem validateWith_eq_error_iff {e : ConfigError} :
    c.validateWith compile? = .error e ↔ ∃ f, e = .invalid f ∧ c.FirstFault compile? f := by
  simp only [← faultWith?_eq_some_iff, validateWith]
  cases c.faultWith? compile? with
  | none => simp
  | some f => simp [eq_comm]

/-- A configuration is accepted just when it is sound, and otherwise the error is the fault of
the first check that fails, which the words of the error tell from every other fault. All the
patterns of an accepted configuration are in use. -/
theorem validates (compile? : PatternCompiler) (c : Config) :
    (c.validateWith compile? = .ok () ↔ c.IsSound compile?) ∧
      (∀ e, c.validateWith compile? = .error e ↔
        ∃ f, e = .invalid f ∧ c.FirstFault compile? f) ∧
      (∀ f, (∃ e, c.validateWith compile? = .error e ∧
        e.message = (ConfigError.invalid f).message) ↔ c.FirstFault compile? f) ∧
      (c.validateWith compile? = .ok () →
        (Resolver.ofConfigWith compile? c.resolver).triggers.AreConfigured compile?
          c.resolver.triggers) := by
  refine ⟨validateWith_eq_ok_iff, fun e => validateWith_eq_error_iff, fun f => ?_, fun h => ?_⟩
  · constructor
    · rintro ⟨e, he, hmessage⟩
      obtain ⟨g, rfl, hg⟩ := validateWith_eq_error_iff.1 he
      exact ConfigError.message_invalid_inj.1 hmessage ▸ hg
    · exact fun hf => ⟨_, validateWith_eq_error_iff.2 ⟨f, rfl, hf⟩, rfl⟩
  · exact Triggers.areConfigured_iff.2 (validateWith_eq_ok_iff.1 h).patterns

/-- The default configuration with a pattern of its own for the start of a line is accepted, and
the pattern is in use. -/
theorem validates_lowercase_start :
    let config : Config := { resolver := { triggers := { startOfLine := "^[a-z]$" } } }
    config.validate = .ok () ∧
      ((Resolver.ofConfig config.resolver).triggers.forKind .startOfLine).Means Pattern.compile?
        "^[a-z]$" := by
  intro config
  have h : config.validate = .ok () := by
    have hfault : config.faultWith? Pattern.compile? = none := by decide +kernel
    rw [validate, validateWith, hfault]
  exact ⟨h, ((validates Pattern.compile? config).2.2.2 h).forKind .startOfLine⟩

example : ({ menu := { root := "", categories := [⟨"Top", []⟩, ⟨"Top", []⟩] } } : Config).fault? =
    some .emptyRoot := by decide +kernel

end Config

end StructEdit
