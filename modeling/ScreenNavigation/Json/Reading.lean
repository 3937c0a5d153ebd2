import ScreenNavigation.Json.NumberText
import ScreenNavigation.Json.StringText

/-!
Readers for whole values and for values of an expected kind. What is read is consumed in the order
of the text, so the first fault of the text is the one reported.
-/
namespace ScreenNavigation.Json.Reader

variable {α β σ : Type}

/-- A value of the wrong kind. Scalars are read to say what was found, containers are not. -/
def mismatch (expected : String) : Reader α := placed do
  match ← peek? with
  | some 'n' =>
    skip
    word ['u', 'l', 'l']
    reject (.wrongType .null expected)
  | some 't' =>
    skip
    word ['r', 'u', 'e']
    reject (.wrongType (.bool true) expected)
  | some 'f' =>
    skip
    word ['a', 'l', 's', 'e']
    reject (.wrongType (.bool false) expected)
  | some '-' =>
    skip
    let n ← number true
    reject (.wrongType (.ofNumber n) expected)
  | some '\x22' =>
    skip
    let s ← stringRest
    reject (.wrongType (.text s) expected)
  | some '[' => reject (.wrongType .list expected)
  | some '\x7b' => reject (.wrongType .map expected)
  | some c =>
    if c.isDigit then
      let n ← number false
      reject (.wrongType (.ofNumber n) expected)
    else failNext .valueExpected
  | none => failNext .valueExpected

/-- The first character of the value that comes next. -/
def valueStart : Reader Char := do
  match ← token? with
  | some c => pure c
  | none => failNext .endOfValue

def string (expected : String) : Reader String := do
  match ← valueStart with
  | '\x22' =>
    skip
    stringRest
  | _ => mismatch expected

def bool (expected : String) : Reader Bool := do
  match ← valueStart with
  | 't' =>
    skip
    word ['r', 'u', 'e']
    pure true
  | 'f' =>
    skip
    word ['a', 'l', 's', 'e']
    pure false
  | _ => mismatch expected

def null (expected : String) : Reader Unit := do
  match ← valueStart with
  | 'n' =>
    skip
    word ['u', 'l', 'l']
  | _ => mismatch expected

def anyNumber (expected : String) : Reader Number := do
  match ← valueStart with
  | '-' =>
    skip
    number true
  | c => if c.isDigit then number false else mismatch expected

/-- Null, or a value. -/
def option (r : Reader α) : Reader (Option α) := do
  match ← token? with
  | some 'n' =>
    skip
    word ['u', 'l', 'l']
    pure none
  | _ => some <$> r

/-- The closing bracket of a list. -/
def listEnd : Reader Unit := do
  match ← token? with
  | some ']' => skip
  | some ',' =>
    skip
    match ← token? with
    | some ']' => failNext .trailingComma
    | _ => failNext .trailingCharacters
  | some _ => failNext .trailingCharacters
  | none => failNext .endOfList

/-- The closing brace of an object. -/
def objectEnd : Reader Unit := do
  match ← token? with
  | some '\x7d' => skip
  | some ',' => failNext .trailingComma
  | some _ => failNext .trailingCharacters
  | none => failNext .endOfObject

/-- Whether another element follows; the comma before it is read. -/
def hasElement (first : Bool) : Reader Bool := do
  match ← token? with
  | none => failNext .endOfList
  | some ']' => pure false
  | some ',' =>
    if first then pure true
    else
      skip
      match ← token? with
      | some ']' => failNext .trailingComma
      | some _ => pure true
      | none => failNext .endOfValue
  | some _ => if first then pure true else failNext .listCommaOrEnd

/-- The element with the given index, or none at the end of the list. -/
def element? (index : Nat) (r : Reader α) : Reader (Option α) := do
  if ← hasElement (index == 0) then some <$> within (.index index) r else pure none

def elementsFrom (r : Reader α) (index : Nat) : Nat → Reader (List α)
  | 0 => failNext .endOfList
  | fuel + 1 => do
    match ← element? index r with
    | some a => (a :: ·) <$> elementsFrom r (index + 1) fuel
    | none => pure []

/-- All elements up to the closing bracket. -/
def elements (r : Reader α) : Reader (List α) := do
  elementsFrom r 0 ((← remaining) + 1)

/-- Whether another entry follows; the comma before it and the opening mark of its key are read. -/
def hasEntry (first : Bool) : Reader Bool := do
  match ← token? with
  | none => failNext .endOfObject
  | some '\x7d' => pure false
  | some ',' =>
    if first then failNext .keyNotString
    else
      skip
      match ← token? with
      | some '\x22' => pure true
      | some '\x7d' => failNext .trailingComma
      | some _ => failNext .keyNotString
      | none => failNext .endOfValue
  | some '\x22' => if first then pure true else failNext .objectCommaOrEnd
  | some _ => if first then failNext .keyNotString else failNext .objectCommaOrEnd

/-- The next key, or none at the end of the object. -/
def key? (first : Bool) : Reader (Option String) := within .unknown do
  if ← hasEntry first then
    skip
    some <$> stringRest
  else pure none

def colon : Reader Unit := do
  match ← token? with
  | some ':' => skip
  | some _ => failNext .colonExpected
  | none => failNext .endOfObject

/-- The value that belongs to a key just read. -/
def entryValue (key : String) (r : Reader α) : Reader α := do
  colon
  within (.key key) r

def entriesFrom (r : String → σ → Reader σ) (state : σ) (first : Bool) : Nat → Reader σ
  | 0 => failNext .endOfObject
  | fuel + 1 => do
    match ← key? first with
    | some key =>
      let state ← r key state
      entriesFrom r state false fuel
    | none => pure state

/-- Goes through the entries of an object; `r` gets each key and reads its value. -/
def entries (r : String → σ → Reader σ) (state : σ) : Reader σ := do
  entriesFrom r state true ((← remaining) + 1)

/-- A list between its brackets. -/
def list (expected : String) (r : Reader α) : Reader α := do
  match ← valueStart with
  | '[' => placed (closedBy (deeper (do skip; r)) listEnd)
  | _ => mismatch expected

/-- A list or an object, each with a reader of its own. -/
def listOrObject (expected : String) (ofList ofObject : Reader α) : Reader α := do
  match ← valueStart with
  | '[' => placed (closedBy (deeper (do skip; ofList)) listEnd)
  | '\x7b' => placed (closedBy (deeper (do skip; ofObject)) objectEnd)
  | _ => mismatch expected

def object (expected : String) (ofObject : Reader α) : Reader α := do
  match ← valueStart with
  | '\x7b' => placed (closedBy (deeper (do skip; ofObject)) objectEnd)
  | _ => mismatch expected

/-- Any value as it is written, with repeated keys; `depth` bounds the nesting. -/
def writtenFrom : Nat → Reader Value
  | 0 => failNext .tooDeep
  | depth + 1 => do
    match ← valueStart with
    | 'n' =>
      skip
      word ['u', 'l', 'l']
      pure .null
    | 't' =>
      skip
      word ['r', 'u', 'e']
      pure (.bool true)
    | 'f' =>
      skip
      word ['a', 'l', 's', 'e']
      pure (.bool false)
    | '-' =>
      skip
      .number <$> number true
    | '\x22' =>
      skip
      .string <$> stringRest
    | '[' => placed (closedBy (deeper (do
        skip
        .array <$> elements (writtenFrom depth))) listEnd)
    | '\x7b' => placed (closedBy (deeper (do
        skip
        let es ← entries (fun key es => do
          let v ← entryValue key (writtenFrom depth)
          pure ((key, v) :: es)) []
        pure (.object es.reverse))) objectEnd)
    | c => if c.isDigit then .number <$> number false else failNext .valueExpected

def written : Reader Value := do
  writtenFrom (← get).depth

/-- Any value; the last of several values of one key counts. -/
def value : Reader Value := Value.distinct <$> written

/-- The brackets still open while values are stepped over. -/
private inductive Frame where
  | list
  | object

private def frameEndCause : Frame → Cause
  | .list => .endOfList
  | .object => .endOfObject

private def frameCommaCause : Frame → Cause
  | .list => .listCommaOrEnd
  | .object => .objectCommaOrEnd

private def closes : Frame → Char → Bool
  | .list, ']' => true
  | .object, '\x7d' => true
  | _, _ => false

private def skipKey : Reader Unit := do
  match ← token? with
  | some '\x22' =>
    skip
    skipStringRest
    match ← token? with
    | some ':' => skip
    | some _ => failNext .colonExpected
    | none => failNext .endOfObject
  | some _ => failNext .keyNotString
  | none => failNext .endOfObject

mutual

private def skipFrames (frames : List Frame) : Nat → Reader Unit
  | 0 => failNext .endOfValue
  | fuel + 1 => do
    match ← token? with
    | none => failNext .endOfValue
    | some 'n' =>
      skip
      word ['u', 'l', 'l']
      skipAfter frames true fuel
    | some 't' =>
      skip
      word ['r', 'u', 'e']
      skipAfter frames true fuel
    | some 'f' =>
      skip
      word ['a', 'l', 's', 'e']
      skipAfter frames true fuel
    | some '-' =>
      skip
      skipNumber
      skipAfter frames true fuel
    | some '\x22' =>
      skip
      skipStringRest
      skipAfter frames true fuel
    | some '[' =>
      skip
      skipAfter (.list :: frames) false fuel
    | some '\x7b' =>
      skip
      skipAfter (.object :: frames) false fuel
    | some c =>
      if c.isDigit then
        skipNumber
        skipAfter frames true fuel
      else failNext .valueExpected

/-- Behind a value, or, without `comma`, behind an opening bracket. -/
private def skipAfter (frames : List Frame) (comma : Bool) : Nat → Reader Unit
  | 0 => failNext .endOfValue
  | fuel + 1 => do
    match frames with
    | [] => pure ()
    | frame :: outer =>
      match ← token? with
      | none => failNext (frameEndCause frame)
      | some c =>
        if closes frame c then
          skip
          skipAfter outer true fuel
        else if comma && c != ',' then failNext (frameCommaCause frame)
        else
          if comma then skip
          match frame with
          | .object => skipKey
          | .list => pure ()
          skipFrames frames fuel

end

/-- Steps over a value of any depth whose content does not matter. -/
def skipValue : Reader Unit := do
  skipFrames [] (2 * (← remaining) + 2)

/-- The end of the text. -/
def finished : Reader Unit := do
  match ← token? with
  | none => pure ()
  | some _ => failNext .trailingCharacters

/-- Reads the front of a text. -/
def runFront (r : Reader α) (text : String) : Except Fault α :=
  match r (.ofText text) with
  | .ok a _ => .ok a
  | .error f _ => .error f

/-- Reads a whole text. -/
def run (r : Reader α) (text : String) : Except Fault α :=
  runFront (do
    let a ← r
    finished
    pure a) text

end ScreenNavigation.Json.Reader
