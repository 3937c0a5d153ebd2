import ScreenNavigation.Source.Token
import ScreenNavigation.Text.Characters

/-!
Cutting a text into tokens. Blanks and comments separate tokens, a comment that documents becomes
an attribute, and the longest token at the front is taken.
-/
namespace ScreenNavigation.Source

open Text

/-- A token class: the characters of the token and what is left, or none. -/
abbrev Scanner := List Char → Option (List Char × List Char)

def isScanBlank (c : Char) : Bool :=
  isBlank c || c.toNat == 0x200e || c.toNat == 0x200f

def scanName : Scanner
  | [] => none
  | c :: rest =>
    if isIdentifierStart c then
      some (c :: rest.takeWhile isIdentifierContinue, rest.dropWhile isIdentifierContinue)
    else none

/-- A text in front of the input. -/
def scanFixed (text : String) : Scanner := fun s =>
  if text.toList.isPrefixOf s then some (text.toList, s.drop text.length) else none

def orElse (a b : Scanner) : Scanner := fun s => (a s).or (b s)

/-- One token class after another. -/
def andThen (a b : Scanner) : Scanner := fun s => do
  let (x, rest) ← a s
  let (y, rest) ← b rest
  pure (x ++ y, rest)

/-- A token class that may be absent. -/
def orNothing (a : Scanner) : Scanner := fun s => (a s).getD ([], s)

def isHex (c : Char) : Bool :=
  c.isDigit || ('a' ≤ c && c ≤ 'f') || ('A' ≤ c && c ≤ 'F')

def hexNumber (cs : List Char) : Nat :=
  cs.foldl (fun n c =>
    16 * n + (if c.isDigit then c.toNat - '0'.toNat else c.toLower.toNat - 'a'.toNat + 10)) 0

/-- What a string or character may hold beyond plain characters. -/
structure EscapeRules where
  /-- The greatest number of a two-digit escape. -/
  byteLimit : Nat
  /-- Whether characters may be written by number. -/
  unicode : Bool
  /-- Whether plain characters outside ASCII may occur. -/
  wide : Bool

def textRules : EscapeRules := ⟨0x7f, true, true⟩

def byteRules : EscapeRules := ⟨0xff, false, false⟩

def foreignRules : EscapeRules := ⟨0xff, true, true⟩

def scanByteEscape (limit : Nat) : Scanner
  | a :: b :: rest =>
    if isHex a && isHex b && hexNumber [a, b] ≤ limit then some ([a, b], rest) else none
  | _ => none

def scanNumberEscape : Scanner
  | '\x7b' :: rest =>
    let body := rest.takeWhile fun c => isHex c || c == '_'
    let digits := body.filter isHex
    match rest.drop body.length with
    | '\x7d' :: after =>
      if body.head?.any isHex && digits.length ≤ 6 && (Nat.isValidChar (hexNumber digits)) then
        some ('\x7b' :: body ++ ['\x7d'], after)
      else none
    | _ => none
  | _ => none

/-- An escape behind its backslash. -/
def scanEscape (rules : EscapeRules) : Scanner
  | 'x' :: rest => (scanByteEscape rules.byteLimit rest).map fun (a, r) => ('x' :: a, r)
  | 'u' :: rest =>
    if rules.unicode then (scanNumberEscape rest).map fun (a, r) => ('u' :: a, r) else none
  | c :: rest =>
    if ['n', 'r', 't', '\\', '0', '\x27', '\x22'].contains c then some ([c], rest) else none
  | [] => none

/-- The rest of a string up to its closing mark. -/
def scanStringBody (rules : EscapeRules) : Nat → Scanner
  | 0, _ => none
  | _ + 1, [] => none
  | fuel + 1, c :: rest =>
    if c = '\x22' then some ([c], rest)
    else if c = '\\' then
      match rest with
      | '\n' :: after =>
        let gap := after.takeWhile fun d => d == ' ' || d == '\n' || d == '\t' || d == '\r'
        (scanStringBody rules fuel (after.drop gap.length)).map fun (a, r) => (c :: '\n' :: gap ++ a, r)
      | _ => do
        let (e, after) ← scanEscape rules rest
        let (a, r) ← scanStringBody rules fuel after
        pure (c :: e ++ a, r)
    else if c = '\r' && rest.head? != some '\n' then none
    else if !rules.wide && !isAscii c then none
    else (scanStringBody rules fuel rest).map fun (a, r) => (c :: a, r)

def scanString (rules : EscapeRules) : Scanner := fun s =>
  match s with
  | '\x22' :: rest => (scanStringBody rules (rest.length + 1) rest).map fun (a, r) => ('\x22' :: a, r)
  | _ => none

def scanUntil (stop : List Char) : Scanner
  | [] => none
  | c :: rest =>
    if stop.isPrefixOf (c :: rest) then some (stop, (c :: rest).drop stop.length)
    else (scanUntil stop rest).map fun (a, r) => (c :: a, r)

/-- A string without escapes, closed by as many hash marks as opened it. -/
def scanRawString : Scanner := fun s =>
  let marks := s.takeWhile (· == '#')
  match s.drop marks.length with
  | '\x22' :: rest =>
    if marks.length ≤ 255 then
      (scanUntil ('\x22' :: marks) rest).map fun (a, r) => (marks ++ '\x22' :: a, r)
    else none
  | _ => none

def scanCharacter (rules : EscapeRules) : Scanner
  | '\x27' :: rest => do
    let (body, after) ← match rest with
      | '\\' :: more => (scanEscape rules more).map fun (a, r) => ('\\' :: a, r)
      | c :: more => if rules.wide || isAscii c then some ([c], more) else none
      | [] => none
    match after with
    | '\x27' :: final => some ('\x27' :: body ++ ['\x27'], final)
    | _ => none
  | _ => none

def isDigitOrGap (c : Char) : Bool := c.isDigit || c == '_'

def scanDigits : Scanner
  | [] => none
  | c :: rest =>
    if c.isDigit then some (c :: rest.takeWhile isDigitOrGap, rest.dropWhile isDigitOrGap) else none

def scanExponent : Scanner := fun s =>
  match s with
  | e :: rest =>
    if e = 'e' ∨ e = 'E' then
      let sign := rest.take (if rest.head? = some '+' ∨ rest.head? = some '-' then 1 else 0)
      let body := (rest.drop sign.length).takeWhile isDigitOrGap
      if body.any Char.isDigit then some (e :: sign ++ body, rest.drop (sign.length + body.length))
      else none
    else none
  | [] => none

/-- A point that is neither the first of two nor in front of a name. -/
def scanFraction : Scanner
  | '.' :: rest =>
    if rest.head?.any (fun c => c == '.' || isIdentifierStart c) then none
    else some ('.' :: rest.takeWhile isDigitOrGap, rest.dropWhile isDigitOrGap)
  | _ => none

def scanReal : Scanner := fun s => do
  let (whole, rest) ← scanDigits s
  match scanFraction rest with
  | some (fraction, rest) =>
    let (exponent, rest) ← orNothing scanExponent rest
    pure (whole ++ fraction ++ exponent, rest)
  | none =>
    let (exponent, rest) ← scanExponent rest
    pure (whole ++ exponent, rest)

def scanBased (mark : Char) (isBaseDigit : Char → Bool) : Scanner
  | '0' :: c :: rest =>
    if c = mark then
      let body := rest.takeWhile fun d => isBaseDigit d || d == '_'
      let rest := rest.drop body.length
      if body.any isBaseDigit && !rest.head?.any Char.isDigit then
        some ('0' :: c :: body, rest)
      else none
    else none
  | _ => none

def startsBased : List Char → Bool
  | '0' :: c :: _ => ['x', 'o', 'b'].contains c
  | _ => false

def scanWhole : Scanner := fun s =>
  if startsBased s then
    orElse (scanBased 'x' isHex) (orElse (scanBased 'o' fun c => '0' ≤ c && c ≤ '7')
      (scanBased 'b' fun c => c == '0' || c == '1')) s
  else scanDigits s

/-- A number ends where no name could go on. -/
def scanNumber (body : Scanner) : Scanner := fun s => do
  let (number, rest) ← andThen body (orNothing scanName) s
  if rest.head?.any isIdentifierContinue then none else some (number, rest)

def scanLiteral : Scanner :=
  let withSuffix (a : Scanner) : Scanner := andThen a (orNothing scanName)
  orElse (withSuffix (orElse (scanString textRules) (andThen (scanFixed "r") scanRawString)))
    (orElse (withSuffix (orElse (andThen (scanFixed "b") (scanString byteRules))
      (andThen (scanFixed "br") scanRawString)))
    (orElse (withSuffix (orElse (andThen (scanFixed "c") (scanString foreignRules))
      (andThen (scanFixed "cr") scanRawString)))
    (orElse (withSuffix (andThen (scanFixed "b") (scanCharacter byteRules)))
    (orElse (withSuffix (scanCharacter textRules))
    (orElse (scanNumber scanReal) (scanNumber scanWhole))))))

def isMarkCharacter (c : Char) : Bool := "~!@#$%^&*-=+|;:,<.>/?'".toList.contains c

def startsComment : List Char → Bool
  | '/' :: '/' :: _ => true
  | '/' :: '*' :: _ => true
  | _ => false

def startsMark (s : List Char) : Bool := s.head?.any isMarkCharacter && !startsComment s

/-- The beginnings of literals, which are no names. -/
def startsLiteral (s : List Char) : Bool :=
  ["r\"", "r#\"", "r##", "b\"", "b'", "br\"", "br#", "c\"", "cr\"", "cr#"].any
    fun start => start.toList.isPrefixOf s

/-- A name, or a raw name that is not one of the words without a raw form. -/
def scanWord : Scanner := fun s =>
  if startsLiteral s then none
  else
    match s with
    | 'r' :: '#' :: rest => do
      let (name, after) ← scanName rest
      if ["_", "super", "self", "Self", "crate"].contains (String.ofList name) then none
      else some ('r' :: '#' :: name, after)
    | _ => scanName s

/-- A lifetime is a tick and a name that no tick closes. -/
def scanLifetime : Scanner
  | '\x27' :: rest => do
    let raw := if rest.take 2 = ['r', '#'] then ['r', '#'] else []
    let (name, after) ← scanName (rest.drop raw.length)
    match after.head? with
    | some '\x27' => none
    | some '#' => if raw.isEmpty then none else some ('\x27' :: raw ++ name, after)
    | _ => some ('\x27' :: raw ++ name, after)
  | _ => none

/-- The end of a comment that may hold comments; `depth` counts the open ones. -/
def scanCommentBody (depth : Nat) : Scanner
  | '/' :: '*' :: rest => (scanCommentBody (depth + 1) rest).map fun (a, r) => ('/' :: '*' :: a, r)
  | '*' :: '/' :: rest =>
    if depth = 0 then some (['*', '/'], rest)
    else (scanCommentBody (depth - 1) rest).map fun (a, r) => ('*' :: '/' :: a, r)
  | c :: rest => (scanCommentBody depth rest).map fun (a, r) => (c :: a, r)
  | [] => none

/-- What a step over blanks and comments meets. -/
inductive Gap where
  | blank (rest : List Char)
  | documentation (inner : Bool) (text : List Char) (rest : List Char)
  | broken
  | nothing

def lineDocumentation (inner : Bool) (rest : List Char) : Gap :=
  let text := rest.takeWhile (· != '\n')
  .documentation inner text (rest.drop text.length)

def blockDocumentation (inner : Bool) (rest : List Char) : Gap :=
  match scanCommentBody 0 rest with
  | some (text, rest) => .documentation inner (text.take (text.length - 2)) rest
  | none => .broken

def blockComment (rest : List Char) : Gap :=
  match scanCommentBody 0 rest with
  | some (_, rest) => .blank rest
  | none => .broken

def gap : List Char → Gap
  | [] => .nothing
  | '/' :: '/' :: '/' :: '/' :: rest => .blank (rest.dropWhile (· != '\n'))
  | '/' :: '/' :: '/' :: rest => lineDocumentation false rest
  | '/' :: '/' :: '!' :: rest => lineDocumentation true rest
  | '/' :: '/' :: rest => .blank (rest.dropWhile (· != '\n'))
  | '/' :: '*' :: '*' :: '/' :: rest => .blank rest
  | '/' :: '*' :: '*' :: '*' :: rest => blockComment ('*' :: '*' :: rest)
  | '/' :: '*' :: '*' :: rest => blockDocumentation false rest
  | '/' :: '*' :: '!' :: rest => blockDocumentation true rest
  | '/' :: '*' :: rest => blockComment rest
  | c :: rest => if isScanBlank c then .blank rest else .nothing

/-- A token without structure, or one end of a group. -/
inductive Lexeme where
  | token (t : Token)
  | opened (d : Delimiter)
  | closed (d : Delimiter)

def bracket? : Char → Option Lexeme
  | '(' => some (.opened .parenthesis)
  | '[' => some (.opened .bracket)
  | '\x7b' => some (.opened .brace)
  | ')' => some (.closed .parenthesis)
  | ']' => some (.closed .bracket)
  | '\x7d' => some (.closed .brace)
  | _ => none

def lexeme? (s : List Char) : Option (Lexeme × List Char) :=
  match s with
  | [] => none
  | c :: rest =>
    match bracket? c with
    | some b => some (b, rest)
    | none =>
      match scanLiteral s with
      | some (text, rest) => some (.token (.literal (String.ofList text)), rest)
      | none =>
        match scanLifetime s with
        | some (text, rest) => some (.token (.lifetime (String.ofList text)), rest)
        | none =>
          if c ≠ '\x27' ∧ startsMark s then some (.token (.mark c (startsMark rest)), rest)
          else (scanWord s).map fun (text, rest) => (.token (.word (String.ofList text)), rest)

/-- A documenting comment as the attribute it stands for. -/
def documentation (inner : Bool) (text : List Char) : List Lexeme :=
  [.token (.mark '#' false)] ++ (if inner then [.token (.mark '!' false)] else []) ++
    [.token (.group .bracket [.word "doc", .mark '=' false,
      .literal ("\"" ++ String.ofList text ++ "\"")])]

def lexemes (s : List Char) : Nat → Option (List Lexeme)
  | 0 => if s.isEmpty then some [] else none
  | fuel + 1 =>
    match gap s with
    | .blank rest => lexemes rest fuel
    | .documentation inner text rest =>
      (lexemes rest fuel).map fun more => documentation inner text ++ more
    | .broken => none
    | .nothing =>
      if s.isEmpty then some []
      else
        match lexeme? s with
        | some (l, rest) => (lexemes rest fuel).map (l :: ·)
        | none => none

/-- Gathers groups; `outer` holds the unfinished groups around `content`, both in reverse. -/
def grouped (outer : List (Delimiter × List Token)) (content : List Token) :
    List Lexeme → Option (List Token)
  | [] => if outer.isEmpty then some content.reverse else none
  | .token t :: rest => grouped outer (t :: content) rest
  | .opened d :: rest => grouped ((d, content) :: outer) [] rest
  | .closed d :: rest =>
    match outer with
    | [] => none
    | (e, before) :: outer =>
      if d = e then grouped outer (.group d content.reverse :: before) rest else none

/-- The tokens of a text; a byte order mark at its start is dropped. -/
def scan (text : String) : Option (List Token) := do
  let s := text.toList
  let s := if s.head?.any (·.toNat == 0xfeff) then s.drop 1 else s
  grouped [] [] (← lexemes s (s.length + 1))

end ScreenNavigation.Source
