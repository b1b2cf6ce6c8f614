/-!
# StructEdit.Named

Finite types whose members are written by name. Each of them lists its members
and gives every member a name of its own; reading a name is looking it up in
that list. Main statement: `Named.ofName?_name`, a written name reads back as
its member.
-/

namespace StructEdit

/-- A finite type whose members are written by name, no two by the same one. -/
class Named (α : Type) where
  /-- Every member, in the order of declaration. -/
  all : List α
  /-- The name a member is written with. -/
  name : α → String
  /-- The list holds each member. -/
  mem_all : ∀ a, a ∈ all
  /-- No earlier member of the list has the name of a later one. -/
  find_name : ∀ a ∈ all, all.find? (fun b => name b == name a) = some a

namespace Named

/-- The member of a given name. -/
def ofName? [Named α] (s : String) : Option α := (all : List α).find? fun a => name a == s

@[simp]
theorem ofName?_name [Named α] (a : α) : ofName? (name a) = some a := find_name a (mem_all a)

/-- Only the name that a member is written with reads as it. -/
theorem name_of_ofName? [Named α] {s : String} {a : α} (h : ofName? s = some a) : name a = s := by
  simpa using List.find?_some h

/-- Members of the same name are the same. -/
theorem name_injective [Named α] {a b : α} (h : name a = name b) : a = b := by
  have ha := ofName?_name a
  rw [h, ofName?_name b] at ha
  exact (Option.some.inj ha).symm

end Named

end StructEdit
