import StructEdit.Json.Parser
import StructEdit.Json.Printer
import StructEdit.Json.Wire

/-!
# StructEdit.File

Files of JSON text: what can be found at a path, and what reading it as a value
of some type comes to.
-/

namespace StructEdit

/-- What is found at a path. -/
inductive File where
  | missing
  | directory
  | bytes (content : ByteArray)

/-- The reasons why there is no text at a path. -/
inductive FileError where
  | notFound
  | isDirectory
  | notText
deriving DecidableEq

/-- The words that report an error. -/
def FileError.message : FileError → String
  | notFound => "No such file or directory (os error 2)"
  | isDirectory => "Is a directory (os error 21)"
  | notText => "stream did not contain valid UTF-8"

/-- The reasons why there is no value of the wanted type at a path. -/
inductive ReadError where
  | file (error : FileError)
  /-- There is a text, but it does not write such a value. -/
  | malformed
deriving DecidableEq

namespace Wire

/-- The value that a text writes. -/
def ofText? [Wire α] (text : String) : Option α := (Json.parse? text).bind decode?

/-- The text of a value on one line. -/
def toText [Wire α] (a : α) : String := (encode a).compact

/-- The text of a value over several lines. -/
def toLines [Wire α] (a : α) : String := (encode a).pretty

end Wire

namespace File

/-- The file of a text. -/
def ofText (text : String) : File := .bytes text.toUTF8

/-- The text at a path. -/
def text : File → Except FileError String
  | missing => .error .notFound
  | directory => .error .isDirectory
  | bytes content =>
    match String.fromUTF8? content with
    | some text => .ok text
    | none => .error .notText

/-- The value at a path. -/
def read [Wire α] (f : File) : Except ReadError α :=
  match f.text with
  | .error e => .error (.file e)
  | .ok text =>
    match Wire.ofText? text with
    | some a => .ok a
    | none => .error .malformed

/-- A text reads back from its file. -/
@[simp]
theorem text_ofText (s : String) : (ofText s).text = .ok s := by
  have h : String.fromUTF8? s.toUTF8 = some s := by
    unfold String.fromUTF8?
    rw [String.toUTF8_eq_toByteArray, dif_pos s.isValidUTF8]
    rfl
  unfold ofText text
  simp only
  rw [h]

end File

end StructEdit
