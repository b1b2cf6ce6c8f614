import StructEdit.Json
import StructEdit.Named

/-!
# StructEdit.Json.Wire

Values on the wire: types that are written as JSON values and read back. Reading
is strict, a value of the wrong kind is refused and never converted.

A record is written as an object and read from an object, or from an array that
holds its fields in order. An object may hold unknown members, which are skipped,
but none of the known ones twice. An array may end early, but not go on behind
the last field.
-/

namespace StructEdit

/-- Types that are written as JSON values. -/
class Wire (α : Type) where
  /-- The value that an element is written as. -/
  encode : α → Json
  /-- The element that a value stands for, if it stands for one. -/
  decode? : Json → Option α

/-- Reading gives back what was written. -/
class LawfulWire (α : Type) [Wire α] : Prop where
  decode?_encode : ∀ a : α, Wire.decode? (Wire.encode a) = some a

namespace Wire

/-! ## Plain values -/

instance : Wire Bool where
  encode := .bool
  decode?
    | .bool b => some b
    | _ => none

instance : LawfulWire Bool where
  decode?_encode _ := rfl

instance : Wire String where
  encode := .string
  decode?
    | .string s => some s
    | _ => none

instance : LawfulWire String where
  decode?_encode _ := rfl

/-- A character is written as the text that holds it alone. -/
instance : Wire Char where
  encode c := .string (String.ofList [c])
  decode?
    | .string s =>
      match s.toList with
      | [c] => some c
      | _ => none
    | _ => none

instance : LawfulWire Char where
  decode?_encode c := by simp [encode, decode?]

/-- Numbers from 0 to 2^64 - 1. -/
instance : Wire UInt64 where
  encode n := .natural n.toNat
  decode?
    | .natural n => if n < UInt64.size then some (UInt64.ofNat n) else none
    | _ => none

instance : LawfulWire UInt64 where
  decode?_encode n := by simp [encode, decode?, UInt64.toNat_lt_size]

/-- A missing value is written as null. -/
instance [Wire α] : Wire (Option α) where
  encode
    | none => .null
    | some a => encode a
  decode?
    | .null => some none
    | j => (decode? j).map some

instance [Wire α] : Wire (List α) where
  encode xs := .array (xs.map encode)
  decode?
    | .array js => js.mapM decode?
    | _ => none

instance [Wire α] [LawfulWire α] : LawfulWire (List α) where
  decode?_encode xs := by
    induction xs with
    | nil => rfl
    | cons x xs ih =>
      simp only [encode, decode?, List.map_cons, List.mapM_cons, LawfulWire.decode?_encode] at ih ⊢
      simp [ih]

/-- A member of a finite type is written as its name. It is also read from an
object whose one member has that name and the value null. -/
instance (priority := low) [Named α] : Wire α where
  encode a := .string (Named.name a)
  decode?
    | .string s => Named.ofName? s
    | .object [(s, .null)] => Named.ofName? s
    | _ => none

instance (priority := low) [Named α] : LawfulWire α where
  decode?_encode a := by simp [encode, decode?]

/-! ## Records -/

/-- The values of the fields of a record, by name. -/
abbrev Fields := String → Option Json

/-- The fields that a value gives to a record with the named fields. -/
def fields? (names : List String) : Json → Option Fields
  | .object members =>
    if names.all fun name => (members.map (·.1)).count name ≤ 1 then
      some fun name => members.lookup name
    else none
  | .array items =>
    if items.length ≤ names.length then some fun name => items[names.idxOf name]? else none
  | _ => none

/-- A field that has to be there. -/
def required? [Wire α] (fields : Fields) (name : String) : Option α :=
  (fields name).bind decode?

/-- A field with a default for when it is left out. -/
def optional? [Wire α] (fields : Fields) (name : String) (default : α) : Option α :=
  match fields name with
  | none => some default
  | some j => decode? j

@[simp]
theorem optional?_none [Wire α] {fields : Fields} {name : String} (default : α)
    (h : fields name = none) : optional? fields name default = some default := by
  simp [optional?, h]

@[simp]
theorem optional?_some [Wire α] {fields : Fields} {name : String} {j : Json} (default : α)
    (h : fields name = some j) : optional? fields name default = decode? j := by
  simp [optional?, h]

/-- A member that is left out of an object when it has no value. -/
def member [Wire α] (name : String) : Option α → List (String × Json)
  | none => []
  | some a => [(name, encode a)]

end Wire

end StructEdit
