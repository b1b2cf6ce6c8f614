import Mathlib.Data.List.Nodup
import StructEdit.File
import StructEdit.Proofs.Json.Layout
import StructEdit.Wire.Context

/-!
# StructEdit.Proofs.Wire.Records

Records on the wire. A value that may be missing reads back where nothing else is written
as null (`NonNullWire`), and what is written as a plain value (`PlainWire`) reads back from
its text as well. Main statements: `Wire.ofText?_toText`, `Wire.fields?_object`, and the
instances of `LawfulWire` for contexts and what they hold.
-/

namespace StructEdit

open Wire

attribute [simp] LawfulWire.decode?_encode

/-- Types whose elements are written as plain values. -/
class PlainWire (α : Type) [Wire α] : Prop where
  isPlain_encode : ∀ a : α, (Wire.encode a).isPlain = true

attribute [simp] PlainWire.isPlain_encode

/-- Types of which no element is written as null, so that null can stand for a missing one. -/
class NonNullWire (α : Type) [Wire α] : Prop where
  encode_ne_null : ∀ a : α, Wire.encode a ≠ .null

namespace Wire

/-! ## Texts -/

/-- What reads back from its value reads back from its text on one line. -/
theorem ofText?_toText [Wire α] [LawfulWire α] [PlainWire α] (a : α) :
    ofText? (toText a) = some a := by
  rw [ofText?, toText, Json.parse?_compact (PlainWire.isPlain_encode a)]
  exact LawfulWire.decode?_encode a

/-! ## Plain values -/

instance : PlainWire Bool where
  isPlain_encode _ := rfl

instance : PlainWire String where
  isPlain_encode _ := rfl

instance : NonNullWire String where
  encode_ne_null _ := Json.noConfusion

instance : PlainWire Char where
  isPlain_encode _ := rfl

instance : PlainWire UInt64 where
  isPlain_encode n := by simp [encode, Json.isPlain, UInt64.toNat_lt_size]

instance [Wire α] [PlainWire α] : PlainWire (Option α) where
  isPlain_encode
    | none => rfl
    | some a => PlainWire.isPlain_encode a

/-- A missing value is written as null, which is not read as anything else. -/
instance [Wire α] [LawfulWire α] [NonNullWire α] : LawfulWire (Option α) where
  decode?_encode
    | none => rfl
    | some a => by
      have hne := NonNullWire.encode_ne_null a
      have hdecode := LawfulWire.decode?_encode a
      simp only [encode, decode?]
      rw [hdecode]
      rfl

/-- A value that is never null reads back as one that is there. -/
@[simp]
theorem decode?_encode_some [Wire α] [LawfulWire α] [NonNullWire α] (a : α) :
    (decode? (encode a) : Option (Option α)) = some (some a) :=
  LawfulWire.decode?_encode (some a)

instance [Wire α] [PlainWire α] : PlainWire (List α) where
  isPlain_encode xs := by
    have harray : ∀ xs : List α, Json.arePlain (xs.map encode) = true := by
      intro xs
      induction xs with
      | nil => rfl
      | cons x xs ih => simp [Json.arePlain, ih]
    exact harray xs

instance (priority := low) [Named α] : PlainWire α where
  isPlain_encode _ := rfl

instance (priority := low) [Named α] : NonNullWire α where
  encode_ne_null _ := Json.noConfusion

/-! ## Records -/

/-- Of an object that has no known member twice every field is found by its name. -/
theorem fields?_of_count {names : List String} {members : List (String × Json)}
    (h : ∀ name ∈ names, (members.map (·.1)).count name ≤ 1) :
    fields? names (.object members) = some fun name => members.lookup name := by
  simpa [fields?] using h

/-- The fields of an object without repeated names are its members. -/
theorem fields?_object {names : List String} {members : List (String × Json)}
    (h : (members.map (·.1)).Nodup) :
    fields? names (.object members) = some fun name => members.lookup name :=
  fields?_of_count fun name _ => List.nodup_iff_count_le_one.1 h name

/-! A record is read field by field, each step going on with what the field holds. -/

section Steps

variable {β : Type} {f : Fields} {name : String} {b : Option β}

theorem bind_of_eq_some {x : Option α} {k : α → Option β} (a : α) (h : x = some a)
    (hk : k a = b) : x.bind k = b := by
  rw [h]
  exact hk

/-- Reading a record goes on with the members of the object. -/
theorem bind_fields? {names : List String} {members : List (String × Json)}
    {k : Fields → Option β} (h : (members.map (·.1)).Nodup)
    (hk : k (fun name => members.lookup name) = b) :
    (fields? names (.object members)).bind k = b :=
  bind_of_eq_some _ (fields?_object h) hk

/-- Reading a record goes on with the value of a field that has to be there. -/
theorem bind_required? [Wire α] [LawfulWire α] {k : α → Option β} (a : α)
    (h : f name = some (encode a)) (hk : k a = b) : (required? f name).bind k = b := by
  refine bind_of_eq_some a ?_ hk
  rw [required?, h]
  exact LawfulWire.decode?_encode a

/-- Reading a record goes on with the value of a field that may be left out. -/
theorem bind_optional? [Wire α] [LawfulWire α] {default : α} {k : α → Option β} (a : α)
    (h : f name = some (encode a)) (hk : k a = b) : (optional? f name default).bind k = b := by
  refine bind_of_eq_some a ?_ hk
  rw [optional?_some default h]
  exact LawfulWire.decode?_encode a

end Steps

end Wire

/-! ## Contexts -/

instance : LawfulWire NodeId where
  decode?_encode n := by
    unfold instWireNodeId
    simp

instance : PlainWire NodeId where
  isPlain_encode n := PlainWire.isPlain_encode n.value

instance : NonNullWire NodeId where
  encode_ne_null _ := Json.noConfusion

instance : LawfulWire Position where
  decode?_encode p := by
    unfold instWirePosition
    refine bind_fields? (by simp) ?_
    refine bind_required? p.line (by simp) ?_
    refine bind_required? p.column (by simp [List.lookup_cons]) ?_
    rfl

instance : PlainWire Position where
  isPlain_encode p := by
    unfold instWirePosition
    simp [Json.isPlain, Json.arePlainMembers]

/-- Each kind of token is read by its name, and the kinds of literals by that of their
type. -/
instance : LawfulWire TokenKind where
  decode?_encode k := by
    unfold instWireTokenKind
    cases k with
    | literal type => simp
    | _ => rfl

instance : PlainWire TokenKind where
  isPlain_encode k := by
    unfold instWireTokenKind
    cases k <;> simp [Json.isPlain, Json.arePlainMembers]

/-- Whether a token can be edited is written and read as it is, whatever its kind. -/
instance : LawfulWire Token where
  decode?_encode t := by
    unfold instWireToken
    refine bind_fields? (by simp) ?_
    refine bind_required? t.id (by simp) ?_
    refine bind_required? t.kind (by simp [List.lookup_cons]) ?_
    refine bind_optional? t.text (by simp [List.lookup_cons]) ?_
    refine bind_optional? t.editable (by simp [List.lookup_cons]) ?_
    rfl

instance : PlainWire Token where
  isPlain_encode t := by
    unfold instWireToken
    simp [Json.isPlain, Json.arePlainMembers]

instance : NonNullWire Token where
  encode_ne_null _ := Json.noConfusion

instance : LawfulWire AutocompleteToken where
  decode?_encode t := by
    unfold instWireAutocompleteToken
    refine bind_fields? (by simp) ?_
    refine bind_required? t.id (by simp) ?_
    refine bind_required? t.text (by simp [List.lookup_cons]) ?_
    refine bind_required? t.kind (by simp [List.lookup_cons]) ?_
    rfl

instance : PlainWire AutocompleteToken where
  isPlain_encode t := by
    unfold instWireAutocompleteToken
    simp [Json.isPlain, Json.arePlainMembers]

instance : NonNullWire AutocompleteToken where
  encode_ne_null _ := Json.noConfusion

instance : LawfulWire Context where
  decode?_encode c := by
    unfold instWireContext
    refine bind_fields? (by simp) ?_
    refine bind_optional? c.position (by simp) ?_
    refine bind_optional? c.tokenToLeft (by simp [List.lookup_cons]) ?_
    refine bind_optional? c.tokenToRight (by simp [List.lookup_cons]) ?_
    refine bind_optional? c.expressionToLeft (by simp [List.lookup_cons]) ?_
    refine bind_optional? c.expressionToRight (by simp [List.lookup_cons]) ?_
    refine bind_optional? c.selected (by simp [List.lookup_cons]) ?_
    refine bind_optional? c.autocomplete (by simp [List.lookup_cons]) ?_
    refine bind_optional? c.textEditable (by simp [List.lookup_cons]) ?_
    rfl

instance : PlainWire Context where
  isPlain_encode c := by
    unfold instWireContext
    simp [Json.isPlain, Json.arePlainMembers]

end StructEdit
