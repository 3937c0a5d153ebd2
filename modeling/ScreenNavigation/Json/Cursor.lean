import ScreenNavigation.Json.Fault

/-!
Reading a JSON text from the front. A reader holds what is left of the text and the place reached;
lines are counted from one and columns in bytes.
-/
namespace ScreenNavigation.Json

structure Cursor where
  rest : List Char
  line : Nat
  column : Nat
  depth : Nat
  deriving Repr

abbrev Reader := EStateM Fault Cursor

namespace Cursor

/-- A text may nest 127 lists and objects. -/
def ofText (s : String) : Cursor := ⟨s.toList, 1, 0, 128⟩

def here (c : Cursor) : Place := ⟨c.line, c.column⟩

/-- The place after one more byte. -/
def next (c : Cursor) : Place :=
  match c.rest with
  | [] => c.here
  | ch :: _ => if ch = '\n' then ⟨c.line + 1, 0⟩ else ⟨c.line, c.column + 1⟩

/-- Steps over one character. -/
def step (c : Cursor) : Cursor :=
  match c.rest with
  | [] => c
  | ch :: rest =>
    if ch = '\n' then { c with rest := rest, line := c.line + 1, column := 0 }
    else { c with rest := rest, column := c.column + ch.utf8Size }

end Cursor

namespace Reader

variable {α : Type}

/-- Fails at the place reached. -/
def fail (cause : Cause) : Reader α := fun c => .error ⟨[], cause, some c.here⟩ c

/-- Fails at the character that comes next. -/
def failNext (cause : Cause) : Reader α := fun c => .error ⟨[], cause, some c.next⟩ c

/-- Fails without a place: an enclosing reader knows it. -/
def reject (cause : Cause) : Reader α := fun c => .error ⟨[], cause, none⟩ c

/-- A fault without a place gets the place at which it leaves this reader. -/
def placed (r : Reader α) : Reader α := fun c =>
  match r c with
  | .error f d => .error { f with place := f.place <|> some d.here } d
  | ok => ok

/-- Faults inside lie one step further in. -/
def within (step : Step) (r : Reader α) : Reader α := fun c =>
  match r c with
  | .error f d => .error (f.within step) d
  | ok => ok

/-- Reads the end after the body, also when the body failed; the first fault is reported. -/
def closedBy (body : Reader α) (close : Reader Unit) : Reader α := fun c =>
  match body c with
  | .ok a d => match close d with
    | .ok _ e => .ok a e
    | .error f e => .error f e
  | .error f d => match close d with
    | .ok _ e => .error f e
    | .error _ e => .error f e

def peek? : Reader (Option Char) := fun c => .ok c.rest.head? c

def skip : Reader Unit := fun c => .ok () c.step

/-- What is left bounds every loop of a reader. -/
def remaining : Reader Nat := fun c => .ok c.rest.length c

def isJsonBlank (c : Char) : Bool := c == ' ' || c == '\n' || c == '\t' || c == '\r'

def skipBlanksFrom (c : Cursor) : Nat → Cursor
  | 0 => c
  | fuel + 1 => if c.rest.head?.any isJsonBlank then skipBlanksFrom c.step fuel else c

def skipBlanks : Reader Unit := fun c => .ok () (skipBlanksFrom c c.rest.length)

/-- The next character that is not blank. -/
def token? : Reader (Option Char) := do
  skipBlanks
  peek?

/-- Goes one list or object deeper. -/
def deeper (r : Reader α) : Reader α := fun c =>
  if c.depth ≤ 1 then failNext .tooDeep c else
    match r { c with depth := c.depth - 1 } with
    | .ok a d => .ok a { d with depth := d.depth + 1 }
    | .error f d => .error f { d with depth := d.depth + 1 }

/-- The rest of a word whose first character is read. -/
def word : List Char → Reader Unit
  | [] => pure ()
  | expected :: more => do
    match ← peek? with
    | none => fail .endOfValue
    | some c =>
      if c = expected then
        skip
        word more
      else failNext .identExpected

end Reader

end ScreenNavigation.Json
