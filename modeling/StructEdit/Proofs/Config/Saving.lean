import StructEdit.Config.Store
import StructEdit.Proofs.Wire.Records

/-!
# StructEdit.Proofs.Config.Saving

Configurations that are saved and loaded. Every field is written, so no default takes the
place of one, and the documentation is the same whatever order its entries are written in
(`Dictionary.ofList_perm`). Main statement: `Config.load_save`.
-/

namespace StructEdit

open Wire

/-! ## Entries in any order -/

namespace Dictionary

/-- An entry with a new key is put somewhere between the others. -/
theorem perm_insertEntry {key : String} (value : String) {es : List (String × String)}
    (h : key ∉ es.map (·.1)) : (insertEntry key value es).Perm ((key, value) :: es) := by
  induction es with
  | nil => exact .refl _
  | cons e es ih =>
    rw [List.map_cons, List.mem_cons, not_or] at h
    rw [insertEntry, if_neg h.1]
    split
    · exact .refl _
    · exact ((ih h.2).cons e).trans (.swap (key, value) e es)

/-- Entries that are put into a map with other names are in it, besides what was there. -/
theorem perm_entries_foldl_insert {es : List (String × String)} {d : Dictionary}
    (h : ((es ++ d.entries).map (·.1)).Nodup) :
    (es.foldl (fun d e => d.insert e.1 e.2) d).entries.Perm (es ++ d.entries) := by
  induction es generalizing d with
  | nil => exact .refl _
  | cons e es ih =>
    rw [List.cons_append, List.map_cons, List.nodup_cons] at h
    have hnew : e.1 ∉ d.entries.map (·.1) := by
      intro hmem
      exact h.1 (by simp [hmem])
    have hput : (d.insert e.1 e.2).entries.Perm (e :: d.entries) := perm_insertEntry e.2 hnew
    have hperm : (es ++ (d.insert e.1 e.2).entries).Perm (e :: (es ++ d.entries)) :=
      (hput.append_left es).trans List.perm_middle
    rw [List.foldl_cons]
    refine (ih ?_).trans hperm
    rw [(hperm.map (·.1)).nodup_iff, List.map_cons, List.nodup_cons]
    exact h

/-- A map has each name once. -/
theorem nodup_keys (d : Dictionary) : (d.entries.map (·.1)).Nodup := by
  rw [List.Nodup, List.pairwise_map]
  refine d.increasing.imp fun {a b} hlt heq => ?_
  rw [heq] at hlt
  exact String.lt_irrefl b.1 hlt

/-- The entries of a map make up that map in any order. -/
theorem ofList_perm {d : Dictionary} {es : List (String × String)} (h : es.Perm d.entries) :
    ofList es = d := by
  have hnodup : (es.map (·.1)).Nodup := (h.map (·.1)).nodup_iff.2 d.nodup_keys
  have hperm : (ofList es).entries.Perm es := by
    have hall : ((es ++ empty.entries).map (·.1)).Nodup := by simpa [empty] using hnodup
    simpa [ofList, empty] using perm_entries_foldl_insert hall
  refine ext ((hperm.trans h).eq_of_pairwise ?_ (ofList es).increasing d.increasing)
  intro a b _ _ hab hba
  exact absurd (String.lt_trans hab hba) (String.lt_irrefl _)

/-- A map is read back from an object that holds its entries in any order. -/
theorem decode?_entries {d : Dictionary} {es : List (String × String)} (h : es.Perm d.entries) :
    decode? (.object (es.map fun e => (e.1, encode e.2))) = some d := by
  have hentries : (es.map fun e => (e.1, encode e.2)).mapM
      (fun m => (decode? m.2).map fun value => (m.1, value)) = some es := by
    clear h
    induction es with
    | nil => rfl
    | cons e es ih => simp [ih]
  unfold instWireDictionary
  simp only [hentries, Option.map_some, ofList_perm h]

theorem arePlainMembers_entries (es : List (String × String)) :
    Json.arePlainMembers (es.map fun e => (e.1, encode e.2)) = true := by
  induction es with
  | nil => rfl
  | cons e es ih => simp [Json.arePlainMembers, ih]

end Dictionary

/-! ## The sections -/

instance : LawfulWire TriggerConfig where
  decode?_encode t := by
    unfold instWireTriggerConfig
    refine bind_fields? (by simp [TriggerConfig.patterns_eq]) ?_
    refine bind_optional? t.startOfLine (by simp [TriggerConfig.patterns_eq]) ?_
    refine bind_optional? t.expressionHole
      (by simp [TriggerConfig.patterns_eq, List.lookup_cons]) ?_
    refine bind_optional? t.operatorHole (by simp [TriggerConfig.patterns_eq, List.lookup_cons]) ?_
    refine bind_optional? t.leftOfExpression
      (by simp [TriggerConfig.patterns_eq, List.lookup_cons]) ?_
    refine bind_optional? t.rightOfExpression
      (by simp [TriggerConfig.patterns_eq, List.lookup_cons]) ?_
    refine bind_optional? t.inTextOperator (by simp [TriggerConfig.patterns_eq, List.lookup_cons]) ?_
    rfl

instance : PlainWire TriggerConfig where
  isPlain_encode t := by
    unfold instWireTriggerConfig
    simp [TriggerConfig.patterns_eq, Json.isPlain, Json.arePlainMembers]

instance : LawfulWire ResolverConfig where
  decode?_encode r := by
    unfold instWireResolverConfig
    refine bind_fields? (by simp) ?_
    refine bind_optional? r.autoCommitOnBlur (by simp) ?_
    refine bind_optional? r.triggers (by simp [List.lookup_cons]) ?_
    rfl

instance : PlainWire ResolverConfig where
  isPlain_encode r := by
    unfold instWireResolverConfig
    simp [Json.isPlain, Json.arePlainMembers]

instance : LawfulWire Category where
  decode?_encode c := by
    unfold instWireCategory
    refine bind_fields? (by simp) ?_
    refine bind_required? c.name (by simp) ?_
    refine bind_optional? c.options (by simp [List.lookup_cons]) ?_
    rfl

instance : PlainWire Category where
  isPlain_encode c := by
    unfold instWireCategory
    simp [Json.isPlain, Json.arePlainMembers]

/-- The menu of constructs as a value that lists the documentation as given. -/
def MenuConfig.encodeListing (m : MenuConfig) (docs : List (String × String)) : Json :=
  .object [("root", encode m.root), ("categories", encode m.categories),
    ("docs", .object (docs.map fun e => (e.1, encode e.2)))]

/-- The menu reads back with its docs listed in any order. -/
theorem MenuConfig.decode?_encodeListing {m : MenuConfig} {docs : List (String × String)}
    (h : docs.Perm m.docs.entries) : decode? (m.encodeListing docs) = some m := by
  have hdocs := Dictionary.decode?_entries h
  unfold instWireMenuConfig encodeListing
  refine bind_fields? (by simp) ?_
  refine bind_optional? m.root (by simp) ?_
  refine bind_optional? m.categories (by simp [List.lookup_cons]) ?_
  refine bind_of_eq_some m.docs ?_ rfl
  simpa [optional?, List.lookup_cons] using hdocs

/-! ## The whole -/

namespace Config

/-- A configuration as a value that lists the documentation as given. -/
def encodeListing (c : Config) (docs : List (String × String)) : Json :=
  .object [("resolver", encode c.resolver), ("menu", c.menu.encodeListing docs)]

/-- A configuration is read back whatever order its documentation is listed in. -/
theorem decode?_encodeListing {c : Config} {docs : List (String × String)}
    (h : docs.Perm c.menu.docs.entries) : decode? (c.encodeListing docs) = some c := by
  have hmenu := MenuConfig.decode?_encodeListing h
  unfold instWireConfig encodeListing
  refine bind_fields? (by simp) ?_
  refine bind_optional? c.resolver (by simp) ?_
  refine bind_of_eq_some c.menu ?_ rfl
  simpa [optional?, List.lookup_cons] using hmenu

/-- A configuration is written with plain values only. -/
theorem isPlain_encodeListing (c : Config) (docs : List (String × String)) :
    (c.encodeListing docs).isPlain = true := by
  have hdocs := Dictionary.arePlainMembers_entries docs
  simp [encodeListing, MenuConfig.encodeListing, Json.isPlain, Json.arePlainMembers, hdocs]

/-- A file of a configuration is loaded as that configuration, whatever order its
documentation is listed in. -/
theorem load_listing {c : Config} {docs : List (String × String)}
    (h : docs.Perm c.menu.docs.entries) :
    load (.ofText (c.encodeListing docs).pretty) = .ok c := by
  have htext : ofText? (c.encodeListing docs).pretty = some c := by
    rw [ofText?, Json.parse?_pretty (c.isPlain_encodeListing docs)]
    exact decode?_encodeListing h
  simp only [load, File.read, File.text_ofText, htext]

/-- Saving a configuration where there is a directory for it makes a file, and loading that
file gives the configuration back. So does loading a file in which the documentation is
listed in any other order. -/
theorem load_save (c : Config) :
    (∃ f, c.save true = .ok f ∧ load f = .ok c) ∧
      ∀ docs, docs.Perm c.menu.docs.entries →
        load (.ofText (c.encodeListing docs).pretty) = .ok c := by
  have hsave : c.save true = .ok (.ofText (c.encodeListing c.menu.docs.entries).pretty) := rfl
  exact ⟨⟨_, hsave, load_listing (.refl _)⟩, fun _ => load_listing⟩

end Config

end StructEdit
