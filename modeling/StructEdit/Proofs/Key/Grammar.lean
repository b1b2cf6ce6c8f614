import Mathlib.Data.List.Forall2
import Mathlib.Data.List.Nodup
import StructEdit.Key.Spec
import StructEdit.Proofs.Text.Letters
import StructEdit.Proofs.Text.Segments

/-!
# StructEdit.Proofs.Key.Grammar

The texts that write a key press, as a grammar (`Key.Writes`): a plus sign alone, words for
modifiers with two plus signs behind them, or words for modifiers and one for a key. The
words are those of `Key.ModifierWord` and `Key.CodeWord`. Main statement:
`Key.ofSpec?_eq_some_iff`, reading a text gives the key press that it writes.
-/

namespace StructEdit

/-! ## Modifiers together -/

namespace Modifiers

/-- The modifier keys, each by itself. -/
def flags : List (Modifiers → Bool) := [shift, control, alt, superKey, hyperKey, metaKey]

/-- A modifier key is held just when it is held in one of some modifiers. -/
def IsUnion (m : Modifiers) (S : Modifiers → Prop) : Prop :=
  ∀ flag ∈ flags, (flag m = true ↔ ∃ a, S a ∧ flag a = true)

/-- Only one set of modifiers holds just what some modifiers hold together. -/
theorem IsUnion.unique {a b : Modifiers} {S : Modifiers → Prop} (ha : a.IsUnion S)
    (hb : b.IsUnion S) : a = b := by
  have hflags : ∀ flag ∈ flags, flag a = flag b := fun flag h =>
    Bool.eq_iff_iff.2 ((ha flag h).trans (hb flag h).symm)
  simp only [flags, List.forall_mem_cons] at hflags
  cases a
  cases b
  simp_all

/-- A modifier key is held in a union if it is held in either part. -/
theorem flag_union {flag : Modifiers → Bool} (h : flag ∈ flags) (a b : Modifiers) :
    flag (a.union b) = (flag a || flag b) := by
  revert flag
  simp [flags, union]

theorem flag_none {flag : Modifiers → Bool} (h : flag ∈ flags) : flag none = false := by
  revert flag
  simp [flags, none]

/-- The union of modifiers holds just what they hold together. -/
theorem isUnion_unionAll (ms : List Modifiers) : (unionAll ms).IsUnion (· ∈ ms) := by
  intro flag h
  induction ms with
  | nil => simp [unionAll, flag_none h]
  | cons m ms ih =>
    have hcons : unionAll (m :: ms) = m.union (unionAll ms) := rfl
    rw [hcons, flag_union h, Bool.or_eq_true, ih]
    simp

end Modifiers

namespace Key

/-! ## Words -/

/-- The characters with a given small letter for their lower case: the letter and its
capital, and the kelvin sign for `k`. -/
def HasLower (l c : Char) : Prop := c = l ∨ c = l.toUpper ∨ l = 'k' ∧ c = '\u212a'

/-- The text has the given word of small letters for its lower case. -/
def Spelled (word : String) (cs : List Char) : Prop :=
  List.Forall₂ (fun c l => HasLower l c) cs word.toList

/-- A character reads as a small letter just when that is its lower case. -/
theorem letter_eq_iff {l c : Char} (hl : l.isLower = true) : letter c = l ↔ HasLower l c := by
  have hcase := toLower_eq_iff_of_isLower (c := c) hl
  unfold letter HasLower
  split
  · next hc =>
    subst hc
    have hself : '\u212a'.toLower = '\u212a' := by decide
    have hne : '\u212a' ≠ l := by
      rintro rfl
      contradiction
    rw [hself] at hcase
    grind
  · next hc => simp [hcase, hc]

/-- A text reads as a word of small letters just when it spells it. -/
theorem spells_iff {word : String} (hw : ∀ l ∈ word.toList, l.isLower = true) {cs : List Char} :
    spells word cs = true ↔ Spelled word cs := by
  unfold spells Spelled
  rw [beq_iff_eq]
  generalize word.toList = ls at hw
  induction cs generalizing ls with
  | nil => cases ls <;> simp
  | cons c cs ih =>
    cases ls with
    | nil => simp
    | cons l ls =>
      rw [List.forall_mem_cons] at hw
      simp [letter_eq_iff hw.1, ih ls hw.2]

/-- Of a table of words, the entry that a text spells is found. -/
theorem find?_spells_eq_some_iff {table : List (String × α)}
    (hlower : ∀ e ∈ table, ∀ l ∈ e.1.toList, l.isLower = true) (hnodup : (table.map (·.1)).Nodup)
    {cs : List Char} {a : α} :
    (table.find? fun e => spells e.1 cs).map (·.2) = some a ↔
      ∃ word, (word, a) ∈ table ∧ Spelled word cs := by
  constructor
  · intro h
    obtain ⟨e, he, rfl⟩ := Option.map_eq_some_iff.1 h
    have hmem := List.mem_of_find?_eq_some he
    have hspells := (List.find?_eq_some_iff_append.1 he).1
    exact ⟨e.1, hmem, (spells_iff (hlower e hmem)).1 hspells⟩
  · rintro ⟨word, hmem, hspelled⟩
    have hspells := (spells_iff (hlower _ hmem)).2 hspelled
    cases hfind : table.find? fun e => spells e.1 cs with
    | none => exact absurd hspells (List.find?_eq_none.1 hfind _ hmem)
    | some e =>
      have hfound := (List.find?_eq_some_iff_append.1 hfind).1
      have hword : e.1 = word :=
        String.toList_inj.1 ((eq_of_beq hfound).symm.trans (eq_of_beq hspells))
      have hentry : e = (word, a) :=
        List.inj_on_of_nodup_map hnodup (List.mem_of_find?_eq_some hfind) hmem hword
      rw [hentry, Option.map_some]

/-- The words for modifiers. -/
inductive ModifierWord : String → Modifiers → Prop where
  | ctrl : ModifierWord "ctrl" { control := true }
  | control : ModifierWord "control" { control := true }
  | shift : ModifierWord "shift" { shift := true }
  | alt : ModifierWord "alt" { alt := true }

/-- The words for keys. A key may have two of them. -/
inductive CodeWord : String → KeyCode → Prop where
  | enter : CodeWord "enter" .enter
  | backspace : CodeWord "backspace" .backspace
  | delete : CodeWord "delete" .delete
  | del : CodeWord "del" .delete
  | tab : CodeWord "tab" .tab
  | backtab : CodeWord "backtab" .backTab
  | esc : CodeWord "esc" .escape
  | escape : CodeWord "escape" .escape
  | space : CodeWord "space" (.char ' ')
  | left : CodeWord "left" .left
  | right : CodeWord "right" .right
  | up : CodeWord "up" .up
  | down : CodeWord "down" .down
  | home : CodeWord "home" .home
  | endKey : CodeWord "end" .endKey
  | pageup : CodeWord "pageup" .pageUp
  | pagedown : CodeWord "pagedown" .pageDown

/-- The table of modifiers has the words for them, and no others. -/
theorem mem_modifierWords_iff {word : String} {m : Modifiers} :
    (word, m) ∈ modifierWords ↔ ModifierWord word m := by
  have hall : ∀ e ∈ modifierWords, ModifierWord e.1 e.2 := by
    simp only [modifierWords, List.forall_mem_cons]
    exact ⟨.ctrl, .control, .shift, .alt, by simp⟩
  refine ⟨hall (word, m), ?_⟩
  rintro ⟨⟩ <;> simp [modifierWords]

/-- The table of keys has the words for them, and no others. -/
theorem mem_codeWords_iff {word : String} {code : KeyCode} :
    (word, code) ∈ codeWords ↔ CodeWord word code := by
  have hall : ∀ e ∈ codeWords, CodeWord e.1 e.2 := by
    simp only [codeWords, List.forall_mem_cons]
    exact ⟨.enter, .backspace, .delete, .del, .tab, .backtab, .esc, .escape, .space, .left, .right,
      .up, .down, .home, .endKey, .pageup, .pagedown, by simp⟩
  refine ⟨hall (word, code), ?_⟩
  rintro ⟨⟩ <;> simp [codeWords]

/-- Words for modifiers are of small letters. -/
theorem ModifierWord.isLower {word : String} {m : Modifiers} (h : ModifierWord word m) :
    word.toList ≠ [] ∧ ∀ l ∈ word.toList, l.isLower = true := by
  rw [← List.all_eq_true]
  cases h <;> decide

/-- Words for keys are of small letters. -/
theorem CodeWord.isLower {word : String} {code : KeyCode} (h : CodeWord word code) :
    word.toList ≠ [] ∧ ∀ l ∈ word.toList, l.isLower = true := by
  rw [← List.all_eq_true]
  cases h <;> decide

/-- No word for a key is a single character, which stands for itself. -/
theorem CodeWord.length_ne_one {word : String} {code : KeyCode} (h : CodeWord word code) :
    word.toList.length ≠ 1 := by
  cases h <;> decide

/-- A word names a modifier just when it spells a word for it. -/
theorem modifier?_eq_some_iff {cs : List Char} {m : Modifiers} :
    modifier? cs = some m ↔ ∃ word, ModifierWord word m ∧ Spelled word cs := by
  simp only [← mem_modifierWords_iff]
  exact find?_spells_eq_some_iff (fun _ he => (mem_modifierWords_iff.1 he).isLower.2) (by decide)

/-- A text of one character spells no word. -/
theorem code?_eq_some_iff {cs : List Char} {code : KeyCode} :
    code? cs = some code ↔
      (∃ word, CodeWord word code ∧ Spelled word cs) ∨ ∃ c, cs = [c] ∧ code = .char c := by
  have hfind {code} : (codeWords.find? fun e => spells e.1 cs).map (·.2) = some code ↔
      ∃ word, CodeWord word code ∧ Spelled word cs := by
    simp only [← mem_codeWords_iff]
    exact find?_spells_eq_some_iff (fun _ he => (mem_codeWords_iff.1 he).isLower.2)
      (by decide +kernel)
  have hsingle {word : String} {code : KeyCode} {c : Char} (hword : CodeWord word code) :
      ¬ Spelled word [c] := fun h => hword.length_ne_one h.length_eq.symm
  unfold code?
  rw [← hfind]
  cases he : codeWords.find? fun e => spells e.1 cs with
  | some e =>
    obtain ⟨word, hword, hspelled⟩ := hfind.1 (congrArg (Option.map (·.2)) he)
    have hnot : ¬ ∃ c, cs = [c] ∧ code = .char c := by
      rintro ⟨c, rfl, -⟩
      exact hsingle hword hspelled
    simp [hnot]
  | none =>
    dsimp only
    split
    · simp [eq_comm]
    · next hne => simpa using fun c hc => absurd hc (hne c)

/-! ## The grammar -/

/-- A segment names a modifier: it is a word for it with blank space around it. -/
def NamesModifier (s : List Char) (m : Modifiers) : Prop :=
  ∃ word cs, ModifierWord word m ∧ Spelled word cs ∧ Text.Padded cs s

/-- A segment names a key: it is a word for it, or a character that stands for itself, with
blank space around it. -/
inductive NamesCode (s : List Char) : KeyCode → Prop where
  | word {word cs code} (word_for : CodeWord word code) (spelled : Spelled word cs)
      (padded : Text.Padded cs s) : NamesCode s code
  | character {c} (ne_plus : c ≠ '+') (not_blank : Text.isBlank c = false)
      (padded : Text.Padded [c] s) : NamesCode s (.char c)

/-- Every one of some segments names a modifier, and together they name the modifiers that
are held. -/
structure NameTogether (ss : List (List Char)) (held : Modifiers) : Prop where
  each : ∀ s ∈ ss, ∃ m, NamesModifier s m
  union : held.IsUnion fun m => ∃ s ∈ ss, NamesModifier s m

/-- The texts that write a key press. -/
inductive Writes : List Char → Key → Prop where
  /-- The plus sign, with blank space around it. -/
  | plus {cs} (padded : Text.Padded ['+'] cs) : Writes cs ⟨.char '+', .none⟩
  /-- The plus sign with modifiers. -/
  | plusWith {ss held} (some_modifier : ss ≠ []) (modifiers : NameTogether ss held) :
      Writes (['+'].intercalate ss ++ ['+', '+']) ⟨.char '+', held⟩
  /-- Any other key, with modifiers or without. -/
  | joined {ss held s code} (modifiers : NameTogether ss held) (key : NamesCode s code) :
      Writes (['+'].intercalate (ss ++ [s])) ⟨code, held⟩

/-! ## What segments hold -/

/-- There is no plus sign in blank space. -/
theorem plus_not_mem_of_isBlank {us : List Char} (h : ∀ u ∈ us, Text.isBlank u = true) :
    '+' ∉ us :=
  Text.not_mem_of_isBlank (by decide) h

/-- A text with characters, none of which is blank or a plus sign. -/
def IsWord (cs : List Char) : Prop := cs ≠ [] ∧ ∀ c ∈ cs, Text.isBlank c = false ∧ c ≠ '+'

/-- A character with a small letter for its lower case is neither blank nor a plus sign. -/
theorem HasLower.not_blank {l c : Char} (hl : l.isLower = true) (h : HasLower l c) :
    Text.isBlank c = false ∧ c ≠ '+' := by
  have hrange := isLower_iff.1 hl
  have hnat : 65 ≤ c.toNat ∧ c.toNat ≤ 122 ∨ c.toNat = 0x212a := by
    rcases h with rfl | rfl | ⟨-, rfl⟩
    · omega
    · rw [toNat_toUpper, if_pos hrange]
      omega
    · exact .inr rfl
  have hplus : c ≠ '+' := by
    rintro rfl
    simp at hnat
  have hblank : Text.isBlank c = false := by
    simp [Text.isBlank, Text.blankRanges, Text.Ranges.contains]
    omega
  exact ⟨hblank, hplus⟩

/-- A text that spells a word has neither blanks nor plus signs in it. -/
theorem Spelled.isWord {word : String} {cs : List Char}
    (hword : word.toList ≠ [] ∧ ∀ l ∈ word.toList, l.isLower = true)
    (h : Spelled word cs) : IsWord cs := by
  obtain ⟨hne, hlower⟩ := hword
  have hletters : cs.map letter = word.toList := eq_of_beq ((spells_iff hlower).2 h)
  constructor
  · rintro rfl
    exact hne hletters.symm
  · intro c hc
    have hlower : (letter c).isLower = true := hlower _ (hletters ▸ List.mem_map_of_mem hc)
    exact ((letter_eq_iff hlower).1 rfl).not_blank hlower

variable {s cs : List Char} {m : Modifiers} {code : KeyCode} {word : String}

/-- What names a modifier is a word with blank space around it. -/
theorem NamesModifier.exists_isWord (h : NamesModifier s m) :
    ∃ cs, IsWord cs ∧ Text.Padded cs s := by
  obtain ⟨word, cs, hword, hspelled, hpadded⟩ := h
  exact ⟨cs, hspelled.isWord hword.isLower, hpadded⟩

/-- What names a key is a word with blank space around it. -/
theorem NamesCode.exists_isWord (h : NamesCode s code) : ∃ cs, IsWord cs ∧ Text.Padded cs s := by
  cases h with
  | @word word cs code hword hspelled hpadded =>
    exact ⟨cs, hspelled.isWord hword.isLower, hpadded⟩
  | @character c hne hblank hpadded => exact ⟨[c], by simp [IsWord, hne, hblank], hpadded⟩

/-- Trimming leaves the word that blank space is around. -/
theorem IsWord.trim_eq (hw : IsWord cs) (h : Text.Padded cs s) : Text.trim s = cs :=
  (Text.trim_eq_iff_padded fun c hc => (hw.2 c hc).1).2 h

/-- There is no plus sign in a word with blank space around it. -/
theorem IsWord.plus_not_mem (hw : IsWord cs) (h : Text.Padded cs s) : '+' ∉ s := by
  obtain ⟨us, vs, hu, hv, rfl⟩ := h
  have hword : '+' ∉ cs := fun hmem => (hw.2 '+' hmem).2 rfl
  simp [plus_not_mem_of_isBlank hu, plus_not_mem_of_isBlank hv, hword]

/-! ## Reading segments -/

/-- A trimmed segment reads as the modifier that the segment names. -/
theorem modifier?_trim_eq_some_iff : modifier? (Text.trim s) = some m ↔ NamesModifier s m := by
  rw [modifier?_eq_some_iff]
  constructor
  · rintro ⟨word, hword, hspelled⟩
    exact ⟨word, _, hword, hspelled, Text.padded_trim s⟩
  · rintro ⟨word, cs, hword, hspelled, hpadded⟩
    have htrim := (hspelled.isWord hword.isLower).trim_eq hpadded
    exact ⟨word, hword, htrim.symm ▸ hspelled⟩

/-- A trimmed segment reads as the key that the segment names. A plus sign is no segment. -/
theorem code?_trim_eq_some_iff (hs : '+' ∉ s) :
    code? (Text.trim s) = some code ↔ NamesCode s code := by
  rw [code?_eq_some_iff]
  constructor
  · rintro (⟨word, hword, hspelled⟩ | ⟨c, hc, rfl⟩)
    · exact .word hword hspelled (Text.padded_trim s)
    · have hpadded : Text.Padded [c] s := hc ▸ Text.padded_trim s
      have hblank : Text.isBlank c = false := by
        have hself : Text.trim [c] = [c] := hc ▸ Text.trim_trim s
        cases hb : Text.isBlank c with
        | false => rfl
        | true => simp [Text.trim, hb] at hself
      refine .character ?_ hblank hpadded
      rintro rfl
      obtain ⟨us, vs, _, _, rfl⟩ := hpadded
      simp at hs
  · intro h
    cases h with
    | @word word cs code hword hspelled hpadded =>
      have htrim := (hspelled.isWord hword.isLower).trim_eq hpadded
      exact .inl ⟨word, hword, htrim.symm ▸ hspelled⟩
    | @character c _ hblank hpadded =>
      have htrim : Text.trim s = [c] := (Text.trim_eq_iff_padded (by simpa using hblank)).2 hpadded
      exact .inr ⟨c, htrim, rfl⟩

theorem mapM_eq_some_iff_map_eq {f : α → Option β} {xs : List α} {ys : List β} :
    xs.mapM f = some ys ↔ xs.map f = ys.map some := by
  induction xs generalizing ys with
  | nil => cases ys <;> simp
  | cons x xs ih =>
    cases ys with
    | nil => simp [Option.bind_eq_some_iff]
    | cons y ys => simp [Option.bind_eq_some_iff, ih]

/-- Where a partial function has a value at each item, the values make a list. -/
theorem exists_map_eq_map_some {f : α → Option β} {xs : List α} (h : ∀ x ∈ xs, ∃ y, f x = some y) :
    ∃ ys : List β, xs.map f = ys.map some := by
  induction xs with
  | nil => exact ⟨[], rfl⟩
  | cons x xs ih =>
    rw [List.forall_mem_cons] at h
    obtain ⟨y, hy⟩ := h.1
    obtain ⟨ys, hys⟩ := ih h.2
    exact ⟨y :: ys, by simp [hy, hys]⟩

variable {ss : List (List Char)} {held : Modifiers}

/-- Reading segments as modifiers gives those that they name together. -/
theorem nameTogether_iff :
    NameTogether ss held ↔
      ∃ ms, (ss.map Text.trim).mapM modifier? = some ms ∧ held = Modifiers.unionAll ms := by
  have hunion {ms : List Modifiers} (h : (ss.map Text.trim).map modifier? = ms.map some) :
      (Modifiers.unionAll ms).IsUnion fun m => ∃ s ∈ ss, NamesModifier s m := by
    have hnamed : (fun m => ∃ s ∈ ss, NamesModifier s m) = (· ∈ ms) := by
      funext m
      have hmem : some m ∈ (ss.map Text.trim).map modifier? ↔ some m ∈ ms.map some := by rw [h]
      simpa [modifier?_trim_eq_some_iff] using hmem
    rw [hnamed]
    exact Modifiers.isUnion_unionAll ms
  simp only [mapM_eq_some_iff_map_eq]
  constructor
  · intro h
    obtain ⟨ms, hms⟩ : ∃ ms : List Modifiers, (ss.map Text.trim).map modifier? = ms.map some := by
      refine exists_map_eq_map_some fun t ht => ?_
      obtain ⟨s, hs, rfl⟩ := List.mem_map.1 ht
      obtain ⟨m, hm⟩ := h.each s hs
      exact ⟨m, modifier?_trim_eq_some_iff.2 hm⟩
    exact ⟨ms, hms, h.union.unique (hunion hms)⟩
  · rintro ⟨ms, hms, rfl⟩
    refine ⟨fun s hs => ?_, hunion hms⟩
    have hmem : modifier? (Text.trim s) ∈ ms.map some := by
      rw [← hms]
      exact List.mem_map_of_mem (List.mem_map_of_mem hs)
    obtain ⟨m, _, hm⟩ := List.mem_map.1 hmem
    exact ⟨m, modifier?_trim_eq_some_iff.1 hm.symm⟩

/-- Segments read as a key press if the last one is a key and the others name modifiers together.
-/
theorem ofWords?_map_trim {k : Key} :
    ofWords? ((ss ++ [s]).map Text.trim) = some k ↔
      ∃ held code, NameTogether ss held ∧ code? (Text.trim s) = some code ∧ k = ⟨code, held⟩ := by
  have hlast : ((ss ++ [s]).map Text.trim).getLast? = some (Text.trim s) := by simp
  have hinit : ((ss ++ [s]).map Text.trim).dropLast = ss.map Text.trim := by simp
  unfold ofWords?
  rw [hlast, hinit]
  simp only [nameTogether_iff, Option.bind_eq_bind, Option.bind_some, Option.bind_eq_some_iff,
    Option.some.injEq]
  constructor
  · rintro ⟨ms, hms, code, hcode, rfl⟩
    exact ⟨_, code, ⟨ms, hms, rfl⟩, hcode, rfl⟩
  · rintro ⟨_, code, ⟨ms, hms, rfl⟩, hcode, rfl⟩
    exact ⟨ms, hms, code, hcode, rfl⟩

/-! ## Reading texts -/

/-- What trimming leaves is a plus sign just when there is nothing else but blank space. -/
theorem trim_eq_plus_iff : Text.trim cs = ['+'] ↔ Text.Padded ['+'] cs :=
  Text.trim_eq_iff_padded (List.forall_mem_singleton.2 (by decide))

/-- Two plus signs behind a text cut off two more segments, the first of which is empty. -/
theorem pieces_append_plus (cs : List Char) {vs : List Char}
    (hv : ∀ v ∈ vs, Text.isBlank v = true) :
    Text.pieces '+' (cs ++ '+' :: '+' :: vs) = Text.pieces '+' cs ++ [[], vs] := by
  have hvs : Text.pieces '+' ('+' :: vs) = [[], vs] := by
    have hback : Text.pieces '+' ([] ++ '+' :: vs) = [[]] ++ Text.pieces '+' vs :=
      Text.pieces_append_cons_self [] vs
    rwa [Text.pieces_of_not_mem (plus_not_mem_of_isBlank hv)] at hback
  rw [Text.pieces_append_cons_self, hvs]

/-- A lone plus sign cuts its text into two segments. -/
theorem pieces_of_trim_eq_plus (h : Text.trim cs = ['+']) :
    ∃ us vs, Text.pieces '+' cs = [us, vs] ∧ ∀ v ∈ vs, Text.isBlank v = true := by
  obtain ⟨us, vs, hu, hv, rfl⟩ := trim_eq_plus_iff.1 h
  refine ⟨us, vs, ?_, hv⟩
  rw [List.append_assoc, List.singleton_append, Text.pieces_append_cons_self,
    Text.pieces_of_not_mem (plus_not_mem_of_isBlank hu),
    Text.pieces_of_not_mem (plus_not_mem_of_isBlank hv)]
  rfl

/-- Two plus signs with blank space behind them are no lone plus sign. -/
theorem trim_append_plus_ne (cs : List Char) {vs : List Char}
    (hv : ∀ v ∈ vs, Text.isBlank v = true) : Text.trim (cs ++ '+' :: '+' :: vs) ≠ ['+'] := by
  intro h
  obtain ⟨us, ws, hpieces, _⟩ := pieces_of_trim_eq_plus h
  rw [pieces_append_plus cs hv] at hpieces
  have hlength := congrArg List.length hpieces
  simp [Text.pieces_ne_nil] at hlength

/-- Where no two plus signs end a text, its words are its segments. -/
theorem specWords_of_not_suffix (h : ¬ ['+', '+'] <:+ cs) :
    specWords cs = (Text.pieces '+' cs).map Text.trim := by
  have hsuffix : ['+', '+'].isSuffixOf cs = false := by
    rwa [← Bool.not_eq_true, List.isSuffixOf_iff_suffix]
  simp [specWords, hsuffix]

/-- Two plus signs at the end stand for one that is the key. -/
theorem specWords_append_plus (cs : List Char) :
    specWords (cs ++ ['+', '+']) = (Text.pieces '+' cs ++ [['+']]).map Text.trim := by
  have hsuffix : ['+', '+'].isSuffixOf (cs ++ ['+', '+']) = true :=
    List.isSuffixOf_iff_suffix.2 (List.suffix_append _ _)
  have hplus : Text.trim ['+'] = ['+'] := by decide
  have hpieces : Text.pieces '+' (cs ++ ['+', '+']) = Text.pieces '+' cs ++ [[], []] :=
    pieces_append_plus cs (by simp)
  simp [specWords, hsuffix, hpieces, hplus]

/-- What is read as a key press writes it. -/
theorem writes_of_ofSpec? {spec : String} {k : Key} (h : ofSpec? spec = some k) :
    Writes spec.toList k := by
  unfold ofSpec? at h
  split at h
  · next hplus =>
    obtain rfl := Option.some.inj h
    exact .plus (trim_eq_plus_iff.1 hplus)
  · generalize spec.toList = cs at h
    -- two plus signs at the end stand for the key; otherwise the last segment names it
    by_cases hsuffix : ['+', '+'] <:+ cs
    · obtain ⟨front, rfl⟩ := hsuffix
      rw [specWords_append_plus, ofWords?_map_trim] at h
      obtain ⟨held, code, hmodifiers, hcode, rfl⟩ := h
      obtain rfl : .char '+' = code := Option.some.inj hcode
      have hwrites := Writes.plusWith (Text.pieces_ne_nil '+' front) hmodifiers
      rwa [Text.intercalate_pieces] at hwrites
    · rw [specWords_of_not_suffix hsuffix] at h
      obtain ⟨ss, s, hpieces⟩ : ∃ ss s, Text.pieces '+' cs = ss ++ [s] := by
        have := List.eq_nil_or_concat (Text.pieces '+' cs)
        simpa [Text.pieces_ne_nil] using this
      rw [hpieces, ofWords?_map_trim] at h
      obtain ⟨held, code, hmodifiers, hcode, rfl⟩ := h
      have hs : '+' ∉ s := Text.not_mem_of_mem_pieces (hpieces ▸ List.mem_append_right ss (by simp))
      have hwrites := Writes.joined hmodifiers ((code?_trim_eq_some_iff hs).1 hcode)
      rwa [← hpieces, Text.intercalate_pieces] at hwrites

/-- There is no plus sign in segments that name modifiers. -/
theorem NameTogether.plus_not_mem (h : NameTogether ss held) : ∀ t ∈ ss, '+' ∉ t := by
  intro t ht
  obtain ⟨m, hm⟩ := h.each t ht
  obtain ⟨cs, hw, hpadded⟩ := hm.exists_isWord
  exact hw.plus_not_mem hpadded

/-- What writes a key press is read as it. In each case the segments are found again, since there
is no plus sign in them. -/
theorem ofSpec?_of_writes {spec : String} {k : Key} (h : Writes spec.toList k) :
    ofSpec? spec = some k := by
  unfold ofSpec?
  generalize spec.toList = cs at h
  cases h with
  | plus hpadded => rw [if_pos (trim_eq_plus_iff.2 hpadded)]
  | @plusWith ss held hne hmodifiers =>
    have hpieces := Text.pieces_intercalate hne hmodifiers.plus_not_mem
    have hlone : Text.trim (['+'].intercalate ss ++ ['+', '+']) ≠ ['+'] :=
      trim_append_plus_ne _ (by simp)
    rw [if_neg hlone, specWords_append_plus, hpieces, ofWords?_map_trim]
    exact ⟨held, .char '+', hmodifiers, by decide, rfl⟩
  | @joined ss held s code hmodifiers hcode =>
    obtain ⟨word, hw, hpadded⟩ := hcode.exists_isWord
    have hs : '+' ∉ s := hw.plus_not_mem hpadded
    have hpieces : Text.pieces '+' (['+'].intercalate (ss ++ [s])) = ss ++ [s] := by
      refine Text.pieces_intercalate (by simp) ?_
      simpa [or_imp, forall_and, hs] using hmodifiers.plus_not_mem
    have hnotBlank : ¬ ∀ c ∈ s, Text.isBlank c = true := by
      obtain ⟨us, vs, _, _, rfl⟩ := hpadded
      obtain ⟨c, hc⟩ := List.exists_mem_of_ne_nil word hw.1
      intro hblank
      have := hblank c (by simp [hc])
      rw [(hw.2 c hc).1] at this
      contradiction
    have hlone : Text.trim (['+'].intercalate (ss ++ [s])) ≠ ['+'] := by
      intro hplus
      obtain ⟨us, vs, huv, hv⟩ := pieces_of_trim_eq_plus hplus
      obtain rfl : s = vs := by
        simpa using congrArg List.getLast? (hpieces.symm.trans huv)
      exact hnotBlank hv
    have hsuffix : ¬ ['+', '+'] <:+ ['+'].intercalate (ss ++ [s]) := by
      rintro ⟨front, hfront⟩
      rw [← hfront, pieces_append_plus front (by simp)] at hpieces
      obtain rfl : [] = s := by simpa using congrArg List.getLast? hpieces
      exact hnotBlank (by simp)
    rw [if_neg hlone, specWords_of_not_suffix hsuffix, hpieces, ofWords?_map_trim]
    exact ⟨held, code, hmodifiers, (code?_trim_eq_some_iff hs).2 hcode, rfl⟩

/-- A text is read as the key press that it writes, and not at all if it writes none. -/
theorem ofSpec?_eq_some_iff {spec : String} {k : Key} :
    ofSpec? spec = some k ↔ Writes spec.toList k :=
  ⟨writes_of_ofSpec?, ofSpec?_of_writes⟩

end Key

end StructEdit
