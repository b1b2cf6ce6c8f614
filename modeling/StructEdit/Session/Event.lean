import StructEdit.Session

/-!
# StructEdit.Session.Event

What happens to a session as values, so that sequences of events can be given and
spoken about. Between events the world may change on its own (`Occurrence`).
-/

namespace StructEdit

/-- Something that happens to a session. -/
inductive Event where
  | key (key : Key)
  | button (request : Request)
  | showInserts
  | hover (menu : MenuId) (option : Nat)
  | click (menu : MenuId) (option : Nat)
deriving DecidableEq

namespace Event

/-- Lets an event happen. The answer of a key is whether what it does by default is
to be suppressed, and that of the other events whether they did anything. -/
def run (e : Event) (s : Session σ) : Bool × Session σ :=
  match e with
  | key k => s.press k
  | button request => s.pressButton request
  | showInserts => s.showInserts
  | hover menu option => s.hover menu option
  | click menu option => s.click menu option

/-- Lets events happen one after the other. -/
def runAll (es : List Event) (s : Session σ) : Session σ := es.foldl (fun s e => (e.run s).2) s

end Event

/-- An event, or a change of the world that the session has no part in. -/
inductive Occurrence (σ : Type) where
  | event (e : Event)
  | change (world : σ)

namespace Occurrence

/-- Lets it occur. -/
def run (o : Occurrence σ) (s : Session σ) : Session σ :=
  match o with
  | event e => (e.run s).2
  | change world => { s with world }

/-- Lets one occur after the other. -/
def runAll (os : List (Occurrence σ)) (s : Session σ) : Session σ := os.foldl (fun s o => o.run s) s

end Occurrence

end StructEdit
