import Mathlib.Data.List.Forall2
import StructEdit.Proofs.Config.Saving

/-!
# StructEdit.Proofs.Config.Omissions

Configurations that are written in part. The objects of a configuration may leave fields out,
have unknown members among the known ones and list their members in any order
(`Config.IsWritten`); what is left out is taken from the defaults (`Config.withDefaults`).
Main statement: `Config.fillsIn`.
-/

namespace StructEdit

open Wire

/-! ## Objects with fields left out -/

namespace Wire

/-- A field of a record: its name, the values that it can be written as, and whether it is left
out. -/
structure Field where
  name : String
  Writes : Json → Prop
  omitted : Bool := false

/-- An object has one member for the field, with a value that the field can be written as, or
none if the field is left out. -/
structure Field.IsIn (fd : Field) (members : List (String × Json)) : Prop where
  count : (members.map (·.1)).count fd.name = if fd.omitted then 0 else 1
  writes : ∀ j, (fd.name, j) ∈ members → fd.Writes j

/-- An object of some fields, which may have other members too. -/
def IsObjectOf (fields : List Field) (j : Json) : Prop :=
  ∃ members, j = .object members ∧ ∀ fd ∈ fields, fd.IsIn members

variable {members : List (String × Json)} {fields : List Field}

/-- A name that does not occur is not found. -/
theorem lookup_eq_none_of_count {name : String} (h : (members.map (·.1)).count name = 0) :
    members.lookup name = none := by
  rw [List.lookup_eq_none_iff]
  intro m hm
  have hne : m.1 ≠ name := fun heq =>
    List.count_eq_zero.1 h (heq ▸ List.mem_map_of_mem hm)
  simpa using hne.symm

/-- A name that occurs once is found with its value. -/
theorem exists_lookup_of_count {name : String} (h : (members.map (·.1)).count name = 1) :
    ∃ j, members.lookup name = some j ∧ (name, j) ∈ members := by
  cases hl : members.lookup name with
  | none =>
    obtain ⟨m, hm, rfl⟩ := List.mem_map.1 (List.count_pos_iff.1 (h ▸ Nat.one_pos))
    have hne := List.lookup_eq_none_iff.1 hl m hm
    simp at hne
  | some j =>
    obtain ⟨front, back, rfl, _⟩ := List.lookup_eq_some_iff.1 hl
    exact ⟨j, rfl, by simp⟩

/-- What is read of a field: nothing if it is left out, and else what it is written as. -/
def Field.ReadAs (fd : Field) (f : Fields) : Prop :=
  if fd.omitted then f fd.name = none else ∃ j, f fd.name = some j ∧ fd.Writes j

/-- A field that is in an object is read as what it writes, or as nothing if it is left out. -/
theorem Field.IsIn.readAs {fd : Field} (h : fd.IsIn members) :
    fd.ReadAs fun name => members.lookup name := by
  have hcount := h.count
  unfold ReadAs
  split
  · next ho => exact lookup_eq_none_of_count (by rwa [if_pos ho] at hcount)
  · next ho =>
    obtain ⟨j, hj, hmem⟩ := exists_lookup_of_count (by rwa [if_neg ho] at hcount)
    exact ⟨j, hj, h.writes j hmem⟩

/-- The fields of an object are found by their names. -/
theorem fields?_of_isObjectOf {j : Json} (h : IsObjectOf fields j) :
    ∃ f, fields? (fields.map (·.name)) j = some f ∧ ∀ fd ∈ fields, fd.ReadAs f := by
  obtain ⟨members, rfl, hfields⟩ := h
  have hcount : ∀ name ∈ fields.map (·.name), (members.map (·.1)).count name ≤ 1 := by
    intro name hname
    obtain ⟨fd, hfd, rfl⟩ := List.mem_map.1 hname
    rw [(hfields fd hfd).count]
    split <;> omega
  exact ⟨_, fields?_of_count hcount, fun fd hfd => (hfields fd hfd).readAs⟩

/-- A field that may be left out is read as what it is written as, or as its default. -/
theorem bind_omittable? [Wire α] {β : Type} {f : Fields} {fd : Field} {default : α}
    {k : α → Option β} {b : Option β} (a : α) (h : fd.ReadAs f)
    (hd : ∀ j, fd.Writes j → decode? j = some a)
    (hk : k (if fd.omitted then default else a) = b) :
    (optional? f fd.name default).bind k = b := by
  refine bind_of_eq_some _ ?_ hk
  unfold Field.ReadAs at h
  split at h
  · next ho => rw [optional?_none default h, if_pos ho]
  · next ho =>
    obtain ⟨j, hj, hwrites⟩ := h
    rw [optional?_some default hj, hd j hwrites, if_neg ho]

/-- A list is read item by item. -/
theorem decode?_array [Wire β] {R : α → Json → Prop} {xs : List α} {js : List Json} {g : α → β}
    (h : List.Forall₂ R xs js) (hR : ∀ x j, R x j → decode? j = some (g x)) :
    decode? (.array js) = some (xs.map g) := by
  have hitems : js.mapM decode? = some (xs.map g) := by
    induction h with
    | nil => rfl
    | cons hj _ ih => simp [hR _ _ hj, ih]
  exact hitems

/-! An object is put together member by member. -/

/-- A field that is left out is in an object without it. -/
theorem Field.isIn_of_omitted {fd : Field} (ho : fd.omitted = true)
    (h : fd.name ∉ members.map (·.1)) : fd.IsIn members where
  count := by rw [if_pos ho, List.count_eq_zero.2 h]
  writes _ hj := absurd (List.mem_map_of_mem hj) h

/-- A field is in an object that starts with it. -/
theorem Field.isIn_cons_self {fd : Field} {j : Json} (ho : fd.omitted ≠ true)
    (h : fd.name ∉ members.map (·.1)) (hj : fd.Writes j) :
    fd.IsIn ((fd.name, j) :: members) where
  count := by rw [if_neg ho, List.map_cons, List.count_cons_self, List.count_eq_zero.2 h]
  writes k hk := by
    rcases List.mem_cons.1 hk with heq | hk
    · exact (Prod.mk.inj heq).2 ▸ hj
    · exact absurd (List.mem_map_of_mem hk) h

/-- A member with another name makes no difference to a field. -/
theorem Field.IsIn.cons {fd : Field} {name : String} (j : Json) (h : fd.IsIn members)
    (hne : name ≠ fd.name) : fd.IsIn ((name, j) :: members) where
  count := by
    rw [List.map_cons, List.count_cons_of_ne hne]
    exact h.count
  writes k hk := by
    rcases List.mem_cons.1 hk with heq | hk
    · exact absurd (Prod.mk.inj heq).1.symm hne
    · exact h.writes k hk

/-- With its own member in front, a field is there besides those that already are. -/
theorem forall_isIn_cons {fd : Field} {j : Json} (ho : fd.omitted ≠ true) (hj : fd.Writes j)
    (hnew : fd.name ∉ members.map (·.1)) (hfields : fd.name ∉ fields.map (·.name))
    (h : ∀ gd ∈ fields, gd.IsIn members) :
    ∀ gd ∈ fd :: fields, gd.IsIn ((fd.name, j) :: members) := by
  refine List.forall_mem_cons.2 ⟨Field.isIn_cons_self ho hnew hj, fun gd hgd => ?_⟩
  have hne : fd.name ≠ gd.name := fun heq => hfields (heq ▸ List.mem_map_of_mem hgd)
  exact (h gd hgd).cons j hne

/-- Fields that are not left out make up an object, each with a member of its own. -/
theorem isObjectOf_of_forall₂ (hnames : (fields.map (·.name)).Nodup)
    (h : List.Forall₂ (fun fd m => fd.omitted ≠ true ∧ fd.name = m.1 ∧ fd.Writes m.2) fields
      members) : IsObjectOf fields (.object members) := by
  have hall : (∀ fd ∈ fields, fd.IsIn members) ∧ members.map (·.1) = fields.map (·.name) := by
    induction h with
    | nil => simp
    | @cons fd m fds ms hm _ ih =>
      obtain ⟨name, j⟩ := m
      obtain ⟨ho, rfl, hj⟩ := hm
      rw [List.map_cons, List.nodup_cons] at hnames
      obtain ⟨hfds, hkeys⟩ := ih hnames.2
      exact ⟨forall_isIn_cons ho hj (hkeys ▸ hnames.1) hnames.1 hfds, by simp [hkeys]⟩
  exact ⟨members, rfl, hall.1⟩

/-- Fields with different names are those of some object, whichever of them are left out. -/
theorem exists_isObjectOf (hnames : (fields.map (·.name)).Nodup)
    (h : ∀ fd ∈ fields, ∃ j, fd.Writes j) : ∃ j, IsObjectOf fields j := by
  obtain ⟨members, hmembers, _⟩ : ∃ members : List (String × Json),
      (∀ fd ∈ fields, fd.IsIn members) ∧ members.map (·.1) ⊆ fields.map (·.name) := by
    induction fields with
    | nil => exact ⟨[], by simp, by simp⟩
    | cons fd fds ih =>
      rw [List.map_cons, List.nodup_cons] at hnames
      rw [List.forall_mem_cons] at h
      obtain ⟨members, hmembers, hknown⟩ := ih hnames.2 h.2
      have hnew : fd.name ∉ members.map (·.1) := fun hmem => hnames.1 (hknown hmem)
      by_cases ho : fd.omitted = true
      · exact ⟨members, List.forall_mem_cons.2 ⟨Field.isIn_of_omitted ho hnew, hmembers⟩,
          List.subset_cons_of_subset _ hknown⟩
      · obtain ⟨j, hj⟩ := h.1
        exact ⟨(fd.name, j) :: members, forall_isIn_cons ho hj hnew hnames.1 hmembers,
          List.cons_subset_cons _ hknown⟩
  exact ⟨_, members, rfl, hmembers⟩

end Wire

/-! ## What is left out of a configuration -/

/-- The fields that are left out of a configuration: either section, and the fields of the
sections. The patterns are told apart by their names and the categories by their indexes. -/
structure Omission where
  resolver : Bool := false
  autoCommitOnBlur : Bool := false
  triggers : Bool := false
  pattern : String → Bool := fun _ => false
  menu : Bool := false
  root : Bool := false
  categories : Bool := false
  options : Nat → Bool := fun _ => false
  docs : Bool := false

/-! ## The triggers -/

namespace TriggerConfig

variable {omitted : String → Bool} {j : Json}

/-- The fields of the triggers, with some of the patterns left out. -/
def fields (t : TriggerConfig) (omitted : String → Bool) : List Field :=
  t.patterns.map fun p => ⟨p.1, (· = encode p.2), omitted p.1⟩

/-- The triggers with the default in place of some of the patterns. -/
def withDefaults (t : TriggerConfig) (omitted : String → Bool) : TriggerConfig :=
  let default : TriggerConfig := {}
  { startOfLine := if omitted "start_of_line" then default.startOfLine else t.startOfLine
    expressionHole :=
      if omitted "expression_hole" then default.expressionHole else t.expressionHole
    operatorHole := if omitted "operator_hole" then default.operatorHole else t.operatorHole
    leftOfExpression :=
      if omitted "left_of_expression" then default.leftOfExpression else t.leftOfExpression
    rightOfExpression :=
      if omitted "right_of_expression" then default.rightOfExpression else t.rightOfExpression
    inTextOperator :=
      if omitted "in_text_operator" then default.inTextOperator else t.inTextOperator }

/-- Triggers that are all left out are the default ones. -/
theorem withDefaults_of_omitted {t : TriggerConfig} (h : ∀ p ∈ t.patterns, omitted p.1 = true) :
    t.withDefaults omitted = {} := by
  simp only [patterns_eq, List.forall_mem_cons] at h
  simp [withDefaults, h]

/-- Triggers are read with the defaults in place of the patterns that are left out. Each section
below is read in the same way, field by field. -/
theorem decode?_of_isObjectOf {t : TriggerConfig} (h : IsObjectOf (t.fields omitted) j) :
    decode? j = some (t.withDefaults omitted) := by
  obtain ⟨f, hf, hread⟩ := fields?_of_isObjectOf h
  simp only [fields, patterns_eq, List.map_cons, List.map_nil, List.forall_mem_cons] at hread
  obtain ⟨hstart, hhole, hoperator, hleft, hright, htext, -⟩ := hread
  have hd (text : String) : ∀ j, j = encode text → decode? j = some text := by simp
  unfold instWireTriggerConfig
  refine bind_of_eq_some f hf ?_
  refine bind_omittable? t.startOfLine hstart (hd _) ?_
  refine bind_omittable? t.expressionHole hhole (hd _) ?_
  refine bind_omittable? t.operatorHole hoperator (hd _) ?_
  refine bind_omittable? t.leftOfExpression hleft (hd _) ?_
  refine bind_omittable? t.rightOfExpression hright (hd _) ?_
  refine bind_omittable? t.inTextOperator htext (hd _) ?_
  rfl

/-- What triggers are written as leaves nothing out. -/
theorem isObjectOf_encode (t : TriggerConfig) :
    IsObjectOf (t.fields fun _ => false) (encode t) := by
  refine isObjectOf_of_forall₂ (by simp [fields, patterns_eq]) ?_
  rw [fields, List.forall₂_map_left_iff, List.forall₂_map_right_iff, List.forall₂_same]
  exact fun p _ => ⟨Bool.false_ne_true, rfl, rfl⟩

/-- Triggers can be written without some of the patterns. -/
theorem exists_isObjectOf (t : TriggerConfig) (omitted : String → Bool) :
    ∃ j, IsObjectOf (t.fields omitted) j := by
  refine Wire.exists_isObjectOf (by simp [fields, patterns_eq]) fun fd hfd => ?_
  obtain ⟨p, _, rfl⟩ := List.mem_map.1 hfd
  exact ⟨_, rfl⟩

end TriggerConfig

/-! ## How keys are resolved -/

namespace ResolverConfig

variable {o : Omission} {j : Json}

/-- The fields of the section. -/
def fields (r : ResolverConfig) (o : Omission) : List Field :=
  [⟨"auto_commit_on_blur", (· = encode r.autoCommitOnBlur), o.autoCommitOnBlur⟩,
   ⟨"triggers", IsObjectOf (r.triggers.fields o.pattern), o.triggers⟩]

/-- The section with the default in place of what is left out. -/
def withDefaults (r : ResolverConfig) (o : Omission) : ResolverConfig :=
  let default : ResolverConfig := {}
  { autoCommitOnBlur :=
      if o.autoCommitOnBlur then default.autoCommitOnBlur else r.autoCommitOnBlur
    triggers := if o.triggers then default.triggers else r.triggers.withDefaults o.pattern }

theorem withDefaults_of_omitted (r : ResolverConfig) (hcommit : o.autoCommitOnBlur = true)
    (htriggers : o.triggers = true) : r.withDefaults o = {} := by
  simp [withDefaults, hcommit, htriggers]

/-- The triggers are the default ones if they are left out, or all of their patterns are. -/
theorem triggers_withDefaults_of_omitted (r : ResolverConfig)
    (h : o.triggers = true ∨ ∀ p ∈ r.triggers.patterns, o.pattern p.1 = true) :
    (r.withDefaults o).triggers = {} := by
  by_cases htriggers : o.triggers = true
  · simp [withDefaults, htriggers]
  · simp [withDefaults, TriggerConfig.withDefaults_of_omitted (h.resolve_left htriggers)]

theorem decode?_of_isObjectOf {r : ResolverConfig} (h : IsObjectOf (r.fields o) j) :
    decode? j = some (r.withDefaults o) := by
  obtain ⟨f, hf, hread⟩ := fields?_of_isObjectOf h
  simp only [fields, List.forall_mem_cons] at hread
  obtain ⟨hcommit, htriggers, -⟩ := hread
  unfold instWireResolverConfig
  refine bind_of_eq_some f hf ?_
  refine bind_omittable? r.autoCommitOnBlur hcommit (by simp) ?_
  refine bind_omittable? (r.triggers.withDefaults o.pattern) htriggers
    (fun _ => TriggerConfig.decode?_of_isObjectOf) ?_
  rfl

theorem isObjectOf_encode (r : ResolverConfig) : IsObjectOf (r.fields {}) (encode r) :=
  isObjectOf_of_forall₂ (by simp [fields])
    (.cons ⟨Bool.false_ne_true, rfl, rfl⟩
      (.cons ⟨Bool.false_ne_true, rfl, r.triggers.isObjectOf_encode⟩ .nil))

theorem exists_isObjectOf (r : ResolverConfig) (o : Omission) :
    ∃ j, IsObjectOf (r.fields o) j := by
  refine Wire.exists_isObjectOf (by simp [fields]) ?_
  simp [fields, r.triggers.exists_isObjectOf]

end ResolverConfig

/-! ## The menu of constructs -/

namespace Category

variable {omitted : Bool} {j : Json}

/-- The fields of a category, with its options left out or not. -/
def fields (c : Category) (omitted : Bool) : List Field :=
  [⟨"name", (· = encode c.name), false⟩, ⟨"options", (· = encode c.options), omitted⟩]

/-- The category, without options if they are left out. -/
def withDefaults (c : Category) (omitted : Bool) : Category :=
  { c with options := if omitted then [] else c.options }

theorem decode?_of_isObjectOf {c : Category} (h : IsObjectOf (c.fields omitted) j) :
    decode? j = some (c.withDefaults omitted) := by
  obtain ⟨f, hf, hread⟩ := fields?_of_isObjectOf h
  simp only [fields, List.forall_mem_cons] at hread
  obtain ⟨⟨_, hname, rfl⟩, hoptions, -⟩ := hread
  unfold instWireCategory
  refine bind_of_eq_some f hf ?_
  refine bind_required? c.name hname ?_
  refine bind_omittable? c.options hoptions (by simp) ?_
  rfl

theorem isObjectOf_encode (c : Category) : IsObjectOf (c.fields false) (encode c) :=
  isObjectOf_of_forall₂ (by simp [fields])
    (.cons ⟨Bool.false_ne_true, rfl, rfl⟩ (.cons ⟨Bool.false_ne_true, rfl, rfl⟩ .nil))

theorem exists_isObjectOf (c : Category) (omitted : Bool) :
    ∃ j, IsObjectOf (c.fields omitted) j :=
  Wire.exists_isObjectOf (by simp [fields]) (by simp [fields])

end Category

namespace MenuConfig

variable {o : Omission} {j : Json}

/-- A list of categories, each of which may be without its options. -/
def IsListing (cs : List Category) (omitted : Nat → Bool) (j : Json) : Prop :=
  ∃ js, j = .array js ∧
    List.Forall₂ (fun e j => IsObjectOf (e.1.fields (omitted e.2)) j) cs.zipIdx js

/-- Documentation, its entries in any order. -/
def IsDocs (d : Dictionary) (j : Json) : Prop :=
  ∃ docs : List (String × String), docs.Perm d.entries ∧
    j = .object (docs.map fun e => (e.1, encode e.2))

/-- The fields of the section. -/
def fields (m : MenuConfig) (o : Omission) : List Field :=
  [⟨"root", (· = encode m.root), o.root⟩,
   ⟨"categories", IsListing m.categories o.options, o.categories⟩,
   ⟨"docs", IsDocs m.docs, o.docs⟩]

/-- The section with the default in place of what is left out. -/
def withDefaults (m : MenuConfig) (o : Omission) : MenuConfig :=
  let default : MenuConfig := {}
  { root := if o.root then default.root else m.root
    categories :=
      if o.categories then default.categories
      else m.categories.mapIdx fun i c => c.withDefaults (o.options i)
    docs := if o.docs then default.docs else m.docs }

theorem withDefaults_of_omitted (m : MenuConfig) (hroot : o.root = true)
    (hcategories : o.categories = true) (hdocs : o.docs = true) : m.withDefaults o = {} := by
  simp [withDefaults, hroot, hcategories, hdocs]

/-- Categories are read one by one, each with what is left out of it. -/
theorem decode?_of_isListing {cs : List Category} {omitted : Nat → Bool}
    (h : IsListing cs omitted j) :
    decode? j = some (cs.mapIdx fun i c => c.withDefaults (omitted i)) := by
  obtain ⟨js, rfl, hjs⟩ := h
  rw [List.mapIdx_eq_zipIdx_map]
  exact decode?_array hjs fun _ _ => Category.decode?_of_isObjectOf

theorem decode?_of_isObjectOf {m : MenuConfig} (h : IsObjectOf (m.fields o) j) :
    decode? j = some (m.withDefaults o) := by
  obtain ⟨f, hf, hread⟩ := fields?_of_isObjectOf h
  simp only [fields, List.forall_mem_cons] at hread
  obtain ⟨hroot, hcategories, hdocs, -⟩ := hread
  unfold instWireMenuConfig
  refine bind_of_eq_some f hf ?_
  refine bind_omittable? m.root hroot (by simp) ?_
  refine bind_omittable? _ hcategories (fun _ => decode?_of_isListing) ?_
  refine bind_omittable? m.docs hdocs ?_ ?_
  · rintro _ ⟨docs, hperm, rfl⟩
    exact Dictionary.decode?_entries hperm
  · rfl

/-- What categories are written as leaves nothing out. -/
theorem isListing_encode (cs : List Category) : IsListing cs (fun _ => false) (encode cs) := by
  have hlist : cs.map encode = cs.zipIdx.map (encode ∘ Prod.fst) := by
    rw [← List.map_map, List.zipIdx_map_fst]
  refine ⟨cs.map encode, rfl, ?_⟩
  rw [hlist, List.forall₂_map_right_iff, List.forall₂_same]
  exact fun e _ => e.1.isObjectOf_encode

theorem isObjectOf_encode (m : MenuConfig) : IsObjectOf (m.fields {}) (encode m) :=
  isObjectOf_of_forall₂ (by simp [fields])
    (.cons ⟨Bool.false_ne_true, rfl, rfl⟩
      (.cons ⟨Bool.false_ne_true, rfl, isListing_encode m.categories⟩
        (.cons ⟨Bool.false_ne_true, rfl, _, .refl _, rfl⟩ .nil)))

/-- Categories can be written without the options of some of them. -/
theorem exists_isListing (cs : List Category) (omitted : Nat → Bool) :
    ∃ j, IsListing cs omitted j := by
  choose write hwrite using fun e : Category × Nat => e.1.exists_isObjectOf (omitted e.2)
  refine ⟨_, cs.zipIdx.map write, rfl, ?_⟩
  exact List.forall₂_map_right_iff.2 (List.forall₂_same.2 fun e _ => hwrite e)

theorem exists_isObjectOf (m : MenuConfig) (o : Omission) : ∃ j, IsObjectOf (m.fields o) j := by
  refine Wire.exists_isObjectOf (by simp [fields]) ?_
  have hdocs : ∃ j, IsDocs m.docs j := ⟨_, _, .refl _, rfl⟩
  simp [fields, exists_isListing, hdocs]

end MenuConfig

/-! ## The whole -/

namespace Config

variable {o : Omission} {j : Json}

/-- The sections of a configuration. -/
def fields (c : Config) (o : Omission) : List Field :=
  [⟨"resolver", IsObjectOf (c.resolver.fields o), o.resolver⟩,
   ⟨"menu", IsObjectOf (c.menu.fields o), o.menu⟩]

/-- The value is an object that a configuration is written as with some fields left out. At
every level there may be unknown members, and the order does not matter. -/
def IsWritten (c : Config) (o : Omission) (j : Json) : Prop := IsObjectOf (c.fields o) j

/-- The configuration with the default in place of what is left out. -/
def withDefaults (c : Config) (o : Omission) : Config :=
  { resolver := if o.resolver then default.resolver else c.resolver.withDefaults o
    menu := if o.menu then default.menu else c.menu.withDefaults o }

/-- A configuration is read with the defaults in place of what is left out. -/
theorem decode?_of_isWritten {c : Config} (h : c.IsWritten o j) :
    decode? j = some (c.withDefaults o) := by
  obtain ⟨f, hf, hread⟩ := fields?_of_isObjectOf h
  simp only [fields, List.forall_mem_cons] at hread
  obtain ⟨hresolver, hmenu, -⟩ := hread
  unfold instWireConfig
  refine bind_of_eq_some f hf ?_
  refine bind_omittable? _ hresolver (fun _ => ResolverConfig.decode?_of_isObjectOf) ?_
  refine bind_omittable? _ hmenu (fun _ => MenuConfig.decode?_of_isObjectOf) ?_
  rfl

/-- A configuration can be written without some of its fields. -/
theorem exists_isWritten (c : Config) (o : Omission) : ∃ j, c.IsWritten o j := by
  refine exists_isObjectOf (by simp [fields]) ?_
  simp [fields, c.resolver.exists_isObjectOf, c.menu.exists_isObjectOf]

/-- What a configuration is saved as leaves nothing out. -/
theorem isWritten_encode (c : Config) : c.IsWritten {} (encode c) :=
  isObjectOf_of_forall₂ (by simp [fields])
    (.cons ⟨Bool.false_ne_true, rfl, c.resolver.isObjectOf_encode⟩
      (.cons ⟨Bool.false_ne_true, rfl, c.menu.isObjectOf_encode⟩ .nil))

/-- A configuration can be written without some of its fields, and what is then read is the
configuration with the defaults in their place. For a section it is the same whether it is left
out itself or whether everything in it is. -/
structure FillsIn (c : Config) (o : Omission) : Prop where
  writable : ∃ j, c.IsWritten o j
  decoded : ∀ j, c.IsWritten o j → decode? j = some (c.withDefaults o)
  loaded : ∀ text j, Json.parse? text = some j → c.IsWritten o j →
    load (.ofText text) = .ok (c.withDefaults o)
  resolver : o.resolver = true ∨ o.autoCommitOnBlur = true ∧ o.triggers = true →
    (c.withDefaults o).resolver = {}
  triggers : o.resolver = true ∨ o.triggers = true ∨
      (∀ p ∈ c.resolver.triggers.patterns, o.pattern p.1 = true) →
    (c.withDefaults o).resolver.triggers = {}
  menu : o.menu = true ∨ o.root = true ∧ o.categories = true ∧ o.docs = true →
    (c.withDefaults o).menu = {}

/-- Whatever is left out of a configuration, and whatever unknown members there are in it, it is
read with the defaults in place of just what is left out; what it is saved as leaves nothing out.
An empty object is read as the default configuration, and as the default of each section. -/
theorem fillsIn (c : Config) (o : Omission) :
    c.FillsIn o ∧ c.IsWritten {} (encode c) ∧ decode? (.object []) = some default ∧
      decode? (.object []) = some default.resolver ∧
      decode? (.object []) = some default.resolver.triggers ∧
      decode? (.object []) = some default.menu := by
  refine ⟨?_, c.isWritten_encode, rfl, rfl, rfl, rfl⟩
  constructor
  case writable => exact c.exists_isWritten o
  case decoded => exact fun _ => decode?_of_isWritten
  case loaded =>
    intro text j hj h
    have htext : ofText? text = some (c.withDefaults o) := by
      rw [ofText?, hj]
      exact decode?_of_isWritten h
    simp only [load, File.read, File.text_ofText, htext]
  case resolver =>
    intro h
    by_cases hsection : o.resolver = true
    · rw [withDefaults, if_pos hsection]
      rfl
    · obtain ⟨hcommit, htriggers⟩ := h.resolve_left hsection
      rw [withDefaults, if_neg hsection]
      exact c.resolver.withDefaults_of_omitted hcommit htriggers
  case triggers =>
    intro h
    by_cases hsection : o.resolver = true
    · rw [withDefaults, if_pos hsection]
      rfl
    · rw [withDefaults, if_neg hsection]
      exact c.resolver.triggers_withDefaults_of_omitted (h.resolve_left hsection)
  case menu =>
    intro h
    by_cases hsection : o.menu = true
    · rw [withDefaults, if_pos hsection]
      rfl
    · obtain ⟨hroot, hcategories, hdocs⟩ := h.resolve_left hsection
      rw [withDefaults, if_neg hsection]
      exact c.menu.withDefaults_of_omitted hroot hcategories hdocs

example : (decode? (.object [("x", .null), ("resolver", .object [("auto_commit_on_blur",
    .bool false), ("y", .object [])])]) : Option Config) =
      some { resolver := { autoCommitOnBlur := false } } := by rfl

end Config

end StructEdit
