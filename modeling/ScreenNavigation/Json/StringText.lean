import ScreenNavigation.Json.Cursor

/-!
Strings in JSON texts, from the character after the opening mark to the closing one. A string that
is only stepped over may hold escapes that name no character.
-/
namespace ScreenNavigation.Json.Reader

def hexValue? (c : Char) : Option Nat :=
  if c.isDigit then some (c.toNat - '0'.toNat)
  else if 'a' ≤ c ∧ c ≤ 'f' then some (c.toNat - 'a'.toNat + 10)
  else if 'A' ≤ c ∧ c ≤ 'F' then some (c.toNat - 'A'.toNat + 10)
  else none

/-- The cursor up to four bytes further on, and whether so many are left. -/
def stepBytes (c : Cursor) : Nat → Nat → Cursor × Bool
  | _, 0 => (c, true)
  | 0, _ + 1 => (c, true)
  | fuel + 1, bytes + 1 =>
    match c.rest with
    | [] => (c, false)
    | ch :: _ =>
      if ch.utf8Size ≤ bytes + 1 then stepBytes c.step fuel (bytes + 1 - ch.utf8Size)
      else ({ c with column := c.column + (bytes + 1) }, true)

/-- The number written by the next four hexadecimal digits. -/
def hexEscape : Reader Nat := fun c =>
  match stepBytes c 4 4 with
  | (d, false) => fail .endOfString d
  | (d, true) =>
    match (c.rest.take 4).mapM hexValue? with
    | some [a, b, e, f] => .ok (((a * 16 + b) * 16 + e) * 16 + f) d
    | _ => fail .badEscape d

def isLeading (n : Nat) : Bool := 0xd800 ≤ n && n ≤ 0xdbff

def isTrailing (n : Nat) : Bool := 0xdc00 ≤ n && n ≤ 0xdfff

private def expectHalf (mark : Char) : Reader Unit := do
  match ← peek? with
  | none => fail .endOfString
  | some c =>
    if c = mark then skip
    else
      failNext .endOfHexEscape

/-- The character of an escape by number: two surrogates in a row are one character. -/
def unicodeEscape : Reader Char := do
  let n ← hexEscape
  if isTrailing n then fail .loneSurrogate
  else if isLeading n then
    expectHalf '\\'
    expectHalf 'u'
    let m ← hexEscape
    if isTrailing m then pure (Char.ofNat ((n - 0xd800) * 1024 + (m - 0xdc00) + 0x10000))
    else fail .loneSurrogate
  else pure (Char.ofNat n)

def simpleEscape? : Char → Option Char
  | '\x22' => some '\x22'
  | '\\' => some '\\'
  | '/' => some '/'
  | 'b' => some '\x08'
  | 'f' => some '\x0c'
  | 'n' => some '\n'
  | 'r' => some '\r'
  | 't' => some '\t'
  | _ => none

def escaped : Reader Char := do
  match ← peek? with
  | none => fail .endOfString
  | some 'u' =>
    skip
    unicodeEscape
  | some c =>
    match simpleEscape? c with
    | some d =>
      skip
      pure d
    | none => failNext .badEscape

def stringBody (taken : List Char) : Nat → Reader String
  | 0 => fail .endOfString
  | fuel + 1 => do
    match ← peek? with
    | none => fail .endOfString
    | some '\x22' =>
      skip
      pure (String.ofList taken.reverse)
    | some '\\' =>
      skip
      let c ← escaped
      stringBody (c :: taken) fuel
    | some c =>
      if c.toNat < 0x20 then failNext .controlCharacter
      else
        skip
        stringBody (c :: taken) fuel

/-- A string whose opening mark is read. -/
def stringRest : Reader String := do
  stringBody [] ((← remaining) + 1)

private def skipBody : Nat → Reader Unit
  | 0 => fail .endOfString
  | fuel + 1 => do
    match ← peek? with
    | none => fail .endOfString
    | some '\x22' => skip
    | some '\\' =>
      skip
      match ← peek? with
      | none => fail .endOfString
      | some 'u' =>
        skip
        let _ ← hexEscape
        skipBody fuel
      | some c =>
        if (simpleEscape? c).isSome then
          skip
          skipBody fuel
        else failNext .badEscape
    | some c =>
      if c.toNat < 0x20 then fail .controlCharacter
      else
        skip
        skipBody fuel

/-- Steps over a string whose opening mark is read. -/
def skipStringRest : Reader Unit := do
  skipBody ((← remaining) + 1)

end ScreenNavigation.Json.Reader
