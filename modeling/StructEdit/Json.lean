import StructEdit.Json.Numeral

/-!
# StructEdit.Json

JSON values. Objects keep their members in order and keep repeated names, since
a repeated name is refused in some places and decides in others. The only
numbers with a meaning are natural numbers.
-/

namespace StructEdit

/-- A JSON value. -/
inductive Json where
  | null
  | bool (value : Bool)
  /-- A numeral without sign, fraction and exponent. -/
  | natural (value : Nat)
  | string (text : String)
  | array (items : List Json)
  | object (members : List (String × Json))
  /-- Any other numeral. -/
  | numeral (n : Numeral)
  /-- A string or an object whose escapes leave half of a surrogate pair, as it is
  written. -/
  | broken (text : String)
deriving Inhabited

namespace Json

/-- The member of a given name; of repeated members the first. -/
def member? (name : String) : Json → Option Json
  | object members => members.lookup name
  | _ => none

@[simp]
theorem member?_object (name : String) (members : List (String × Json)) :
    (object members).member? name = members.lookup name := rfl

end Json

end StructEdit
