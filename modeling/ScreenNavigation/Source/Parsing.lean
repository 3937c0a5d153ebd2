import ScreenNavigation.Source.Scan
import ScreenNavigation.Source.Syntax
import ScreenNavigation.Source.SyntaxFault

/-!
Reading paths and types from tokens. Every reader takes fuel against nesting, which the number of
tokens bounds, and a group whose content is not used up is a fault of its own.
-/
namespace ScreenNavigation.Source

/-- What is left to read, and whether some group had tokens to spare. -/
structure Input where
  rest : List Token
  surplus : Bool
  deriving Repr

abbrev Parser := StateT Input (Except SyntaxFault)

namespace Parser

variable {α : Type}

def tokens : Parser (List Token) := do return (← get).rest

def drop (n : Nat) : Parser Unit := modify fun s => { s with rest := s.rest.drop n }

def failWith (choices : List String) : Parser α := do
  throw (.expected choices (← tokens).isEmpty)

/-- Whether the marks stand at the front, the first of two without a gap. -/
def startsWith (marks : String) : List Token → Bool
  | .mark c joint :: rest =>
    match marks.toList with
    | [a] => c == a
    | [a, b] => c == a && joint &&
      (match rest with
        | .mark d _ :: _ => d == b
        | _ => false)
    | _ => false
  | _ => false

def atMarks (marks : String) : Parser Bool := do return startsWith marks (← tokens)

def takeMarks (marks : String) : Parser Bool := do
  if ← atMarks marks then
    drop marks.length
    pure true
  else pure false

def expectMarks (marks : String) : Parser Unit := do
  if !(← takeMarks marks) then throw (.expectedMark marks)

def atWord (word : String) : Parser Bool := do
  match ← tokens with
  | .word w :: _ => pure (w == word)
  | _ => pure false

def takeWord (word : String) : Parser Bool := do
  if ← atWord word then
    drop 1
    pure true
  else pure false

def atLifetime : Parser Bool := do
  match ← tokens with
  | .lifetime _ :: _ => pure true
  | _ => pure false

def takeLifetime? : Parser (Option String) := do
  match ← tokens with
  | .lifetime name :: _ =>
    drop 1
    pure (some name)
  | _ => pure none

def atGroup (d : Delimiter) : Parser Bool := do
  match ← tokens with
  | .group e _ :: _ => pure (d == e)
  | _ => pure false

/-- Reads a group by a reader for its content. -/
def inGroup (d : Delimiter) (what : String) (content : Parser α) : Parser α := do
  match ← tokens with
  | .group e inner :: after =>
    if d = e then
      set { (← get) with rest := inner }
      let a ← content
      let s ← get
      set { s with rest := after, surplus := s.surplus || !s.rest.isEmpty }
      pure a
    else failWith [what]
  | _ => failWith [what]

def identifier : Parser String := do
  match ← tokens with
  | .word w :: _ =>
    if isReserved w then throw (.reservedName w)
    else
      drop 1
      pure w
  | _ => failWith ["identifier"]

/-- Literals, negative numbers and the two truth values. -/
def literal? : List Token → Option (String × List Token)
  | .literal text :: rest => some (text, rest)
  | .mark '-' _ :: .literal text :: rest =>
    if text.toList.head?.any Char.isDigit then some ("-" ++ text, rest) else none
  | .word "true" :: rest => some ("true", rest)
  | .word "false" :: rest => some ("false", rest)
  | _ => none

def atConstant : Parser Bool := do
  let ts ← tokens
  return (literal? ts).isSome || (← atGroup .brace)

def binaryOperators : List String :=
  ["<<", ">>", "&&", "||", "==", "!=", "<=", ">=", "+", "-", "*", "/", "%", "^", "&", "|", "<", ">"]

def takeOperator? (texts : List String) : Parser (Option Operator) := do
  let ts ← tokens
  match texts.find? (startsWith · ts) with
  | some text =>
    drop text.length
    pure (some ⟨text⟩)
  | none => pure none

/-- What a type may begin with. -/
def typeChoices : List String :=
  ["`for`", "parentheses", "`fn`", "`unsafe`", "`extern`", "identifier", "`::`", "`<`", "`dyn`",
    "square brackets", "`*`", "`&`", "`!`", "`impl`", "`_`", "lifetime"]

/-- Whether a path may begin with the word. -/
def startsPath : Token → Bool
  | .word w => !isReserved w || isPathKeyword w || w == "Self"
  | _ => false

/-- The attributes that come next. -/
def attributes : Nat → Parser Attributes
  | 0 => throw .unexpectedToken
  | fuel + 1 => do
    match ← tokens with
    | .mark '#' _ :: .group .bracket body :: _ =>
      drop 2
      return body :: (← attributes fuel)
    | _ => pure []

/-- The lifetimes that another one outlives, joined by plus signs. -/
def outlived : Nat → Parser (List String × Bool)
  | 0 => throw .unexpectedToken
  | fuel + 1 => do
    if (← atMarks ",") || (← atMarks ">") then pure ([], true)
    else
      match ← takeLifetime? with
      | some name =>
        if ← takeMarks "+" then
          let (more, trailing) ← outlived fuel
          pure (name :: more, trailing)
        else pure ([name], false)
      | none => failWith ["lifetime"]

def forLifetime (fuel : Nat) : Parser ForLifetime := do
  let attributes ← attributes fuel
  match ← takeLifetime? with
  | some name =>
    if (← atMarks ":") && !(← atMarks "::") then
      drop 1
      return ⟨attributes, name, some (← outlived fuel)⟩
    else pure ⟨attributes, name, none⟩
  | none => failWith ["lifetime"]

/-- Lifetimes in angle brackets, behind `for`. -/
def forLifetimes : Nat → Parser (List ForLifetime)
  | 0 => failWith ["lifetime"]
  | fuel + 1 => do
    if ← atMarks ">" then pure []
    else
      let lifetime ← forLifetime fuel
      if ← atMarks ">" then pure [lifetime]
      else
        expectMarks ","
        return lifetime :: (← forLifetimes fuel)

def boundLifetimes? (fuel : Nat) : Parser (Option (List ForLifetime)) := do
  if ← takeWord "for" then
    expectMarks "<"
    let lifetimes ← forLifetimes fuel
    expectMarks ">"
    pure (some lifetimes)
  else pure none

/-- What may stand behind the lifetimes of a `for`. -/
def lifetimeTakers : List String :=
  ["identifier", "`fn`", "`unsafe`", "`extern`", "`super`", "`self`", "`Self`", "`crate`"]

def takesLifetimes : Token → Bool
  | .word w =>
    !isReserved w || ["fn", "unsafe", "extern", "super", "self", "Self", "crate"].contains w
  | _ => false

/-- A list whose elements are separated by `,` up to the end of a group. -/
def commaList (item : Parser α) : Nat → Parser (List α × Bool)
  | 0 => throw .unexpectedToken
  | fuel + 1 => do
    if (← tokens).isEmpty then pure ([], true)
    else
      let a ← item
      if (← tokens).isEmpty then pure ([a], false)
      else
        expectMarks ","
        let (more, trailing) ← commaList item fuel
        pure (a :: more, trailing)

/-- Whether a token can start a bound behind a plus sign. -/
def startsBound : List Token → Bool
  | .word _ :: _ => true
  | .lifetime _ :: _ => true
  | .group .parenthesis _ :: _ => true
  | ts => startsWith "::" ts || startsWith "?" ts

def hasTrait (bounds : List Bound) : Bool :=
  bounds.any fun
    | .trait .. => true
    | _ => false

/-- Whether the parameter may be captured by name. -/
def isCaptured : Token → Bool
  | .lifetime _ => true
  | .word w => !isReserved w || w == "Self"
  | _ => false

def capturedNames : Nat → Parser (List Token × Bool)
  | 0 => throw .unexpectedToken
  | fuel + 1 => do
    match ← tokens with
    | t :: _ =>
      if isCaptured t then
        drop 1
        if ← takeMarks "," then
          let (more, trailing) ← capturedNames fuel
          pure (t :: more, trailing)
        else pure ([t], false)
      else pure ([], true)
    | [] => pure ([], true)

/-- The parameters that a hidden type captures, behind `use`. -/
def captured (fuel : Nat) : Parser Bound := do
  drop 1
  expectMarks "<"
  let (names, trailing) ← capturedNames fuel
  expectMarks ">"
  pure (.captured names trailing)

/-- The name in front of an input of a function; only the first one may be named `self`. -/
def inputName? (first : Bool) : Parser (Option String) := do
  match ← tokens with
  | .word w :: rest =>
    if startsWith ":" rest && !startsWith "::" rest &&
        (w == "_" || !isReserved w || first && w == "self") then
      drop 2
      pure (some w)
    else pure none
  | _ => pure none

def startsPoints (ts : List Token) : Bool := startsWith ".." ts && startsWith ".." (ts.drop 1)

/-- Points in the place of further inputs, maybe with a name in front. -/
def variadic? (attributes : Attributes) : Parser (Option Variadic) := do
  let ts ← tokens
  if startsPoints ts then
    drop 3
    return some ⟨attributes, none, ← takeMarks ","⟩
  else
    match ts with
    | .word w :: .mark ':' _ :: rest =>
      if (w == "_" || !isReserved w) && startsPoints rest then
        drop 5
        return some ⟨attributes, some w, ← takeMarks ","⟩
      else pure none
    | _ => pure none

/-- Reads all that is left by a reader of constants. What is another expression is kept as it is written,
but none may end too early. -/
def orVerbatim (r : Parser Constant) : Parser Constant := fun s =>
  let kept : Constant × Input := (.verbatim s.rest, { s with rest := [] })
  match r s with
  | .ok (e, t) => .ok (if t.rest.isEmpty && t.surplus == s.surplus then (e, t) else kept)
  | .error f => if f.isEarlyEnd then .error f else .ok kept

/-- The bound that a type in parentheses is, where more bounds are added to it. -/
def parenthesizedBound? : Ty → Option Bound
  | .path p => some (.trait true false none p)
  | .object false [.trait _ maybe lifetimes p] false => some (.trait true maybe lifetimes p)
  | _ => none

section Segments

def pathStep (segment : Parser Segment) (more : Parser (List Segment)) : Parser Path := do
  let leading ← takeMarks "::"
  let first ← segment
  return .mk leading (first :: (← more))

/-- The segments behind a first one; two colons in front of a parenthesis belong to what follows. -/
def moreSegmentsStep (segment : Parser Segment) (more : Parser (List Segment)) : Parser (List Segment) := do
  let ts ← tokens
  let calls := match ts.drop 2 with
    | .group .parenthesis _ :: _ => true
    | _ => false
  if startsWith "::" ts && !calls then
    drop 2
    let s ← segment
    return s :: (← more)
  else pure []

def segmentStep (angles : Parser Arguments) : Parser Segment := do
  match ← tokens with
  | .word w :: rest =>
    if isPathKeyword w then
      drop 1
      pure (.mk w .none)
    else
      let name ← if w = "Self" then (do drop 1; pure w) else identifier
      if startsWith "<" rest && !startsWith "<=" rest ||
          startsWith "::" rest && startsWith "<" (rest.drop 2) then
        return .mk name (← angles)
      else pure (.mk name .none)
  | _ => failWith ["identifier"]

variable (angles : Nat → Parser Arguments)

def segmentBy : Nat → Parser Segment
  | 0 => throw .unexpectedToken
  | fuel + 1 => segmentStep (angles fuel)

def moreSegmentsBy : Nat → Parser (List Segment)
  | 0 => throw .unexpectedToken
  | fuel + 1 => moreSegmentsStep (segmentBy angles fuel) (moreSegmentsBy fuel)

/-- A path, by a reader for the arguments of its segments. -/
def pathBy : Nat → Parser Path
  | 0 => throw .unexpectedToken
  | fuel + 1 => pathStep (segmentBy angles fuel) (moreSegmentsBy angles fuel)

end Segments

mutual

def path : Nat → Parser Path
  | 0 => throw .unexpectedToken
  | fuel + 1 => pathStep (segment fuel) (moreSegments fuel)

def moreSegments : Nat → Parser (List Segment)
  | 0 => throw .unexpectedToken
  | fuel + 1 => moreSegmentsStep (segment fuel) (moreSegments fuel)

def segment : Nat → Parser Segment
  | 0 => throw .unexpectedToken
  | fuel + 1 => segmentStep (angleArguments fuel)

def angleArguments : Nat → Parser Arguments
  | 0 => throw .unexpectedToken
  | fuel + 1 => do
    let turbofish ← takeMarks "::"
    expectMarks "<"
    let (items, trailing) ← arguments fuel
    expectMarks ">"
    pure (.angle turbofish items (trailing && !items.isEmpty))

def arguments : Nat → Parser (List Argument × Bool)
  | 0 => throw .unexpectedToken
  | fuel + 1 => do
    if ← atMarks ">" then pure ([], true)
    else
      let a ← argument fuel
      if ← atMarks ">" then pure ([a], false)
      else
        expectMarks ","
        let (more, trailing) ← arguments fuel
        pure (a :: more, trailing)

def argument : Nat → Parser Argument
  | 0 => throw .unexpectedToken
  | fuel + 1 => do
    let ts ← tokens
    if (← atLifetime) && !startsWith "+" (ts.drop 1) then
      return .lifetime ((← takeLifetime?).getD "")
    if ← atConstant then return .const (← constantArgument fuel)
    let t ← type true fuel
    match t with
    | .path (.mk false [.mk name arguments]) =>
      if ← takeMarks "=" then
        if ← atConstant then return .equalsConst name arguments (← constantArgument fuel)
        else return .equalsType name arguments (← type true fuel)
      else if ← takeMarks ":" then
        let (bounds, trailing) ← constraintBounds fuel
        return .bounded name arguments bounds trailing
      else pure (.type t)
    | _ => pure (.type t)

def constantArgument : Nat → Parser Constant
  | 0 => throw .unexpectedToken
  | fuel + 1 => do
    match literal? (← tokens) with
    | some (text, rest) =>
      modify fun s => { s with rest := rest }
      pure (.literal text)
    | none =>
      inGroup .brace "curly braces" do
        if (← tokens).isEmpty then pure (.block none)
        else return .block (some (← orVerbatim (constant fuel)))

def constraintBounds : Nat → Parser (List Bound × Bool)
  | 0 => throw .unexpectedToken
  | fuel + 1 => do
    if (← atMarks ",") || (← atMarks ">") then pure ([], true)
    else
      let b ← bound false fuel
      if ← takeMarks "+" then
        let (more, trailing) ← constraintBounds fuel
        pure (b :: more, trailing)
      else pure ([b], false)

/-- A bound; with `hidden` it is one of a hidden type, which may say what is captured. -/
def bound (hidden : Bool) : Nat → Parser Bound
  | 0 => throw .unexpectedToken
  | fuel + 1 => do
    match ← takeLifetime? with
    | some name => pure (.lifetime name)
    | none =>
      if hidden && (← atWord "use") then captured fuel
      else if ← atGroup .parenthesis then inGroup .parenthesis "parentheses" (traitBound true fuel)
      else traitBound false fuel

def traitBound (parenthesized : Bool) : Nat → Parser Bound
  | 0 => throw .unexpectedToken
  | fuel + 1 => do
    let before ← boundLifetimes? fuel
    let maybe ← takeMarks "?"
    let lifetimes ← if before.isNone && maybe then boundLifetimes? fuel else pure before
    let p ← path fuel
    match p.segments.getLast? with
    | some (.mk name .none) =>
      let ts ← tokens
      let calls := fun
        | Token.group .parenthesis _ :: _ => true
        | _ => false
      if calls ts || (startsWith "::" ts && calls (ts.drop 2)) then
        let _ ← takeMarks "::"
        let (inputs, trailing) ← inGroup .parenthesis "parentheses" (types fuel)
        let output ← returned fuel
        let last := Segment.mk name (.call inputs (trailing && !inputs.isEmpty) output)
        pure (.trait parenthesized maybe lifetimes (.mk p.leading (p.segments.dropLast ++ [last])))
      else pure (.trait parenthesized maybe lifetimes p)
    | _ => pure (.trait parenthesized maybe lifetimes p)

/-- The type behind an arrow; it takes no further bounds. -/
def returned : Nat → Parser (Option Ty)
  | 0 => throw .unexpectedToken
  | fuel + 1 => do
    if ← takeMarks "->" then return some (← type false fuel) else pure none

def types : Nat → Parser (List Ty × Bool)
  | 0 => throw .unexpectedToken
  | fuel + 1 => commaList (type true fuel) (fuel + 1)

/-- Bounds joined by plus signs. -/
def bounds (hidden plus : Bool) : Nat → Parser (List Bound × Bool)
  | 0 => throw .unexpectedToken
  | fuel + 1 => do
    let b ← bound hidden fuel
    if plus && (← atMarks "+") then
      drop 1
      if startsBound (← tokens) then
        let (more, trailing) ← bounds hidden plus fuel
        pure (b :: more, trailing)
      else pure ([b], true)
    else pure ([b], false)

/-- A type; without `plus` no bounds are added to a path. -/
def type (plus : Bool) : Nat → Parser Ty
  | 0 => throw .unexpectedToken
  | fuel + 1 => do
    let lifetimes ← boundLifetimes? fuel
    let ts ← tokens
    if lifetimes.isSome && !ts.head?.any takesLifetimes then failWith lifetimeTakers
    match ts with
    | .group .parenthesis _ :: _ => parenthesized plus fuel
    | .group .bracket _ :: _ => inGroup .bracket "square brackets" do
      let t ← type true fuel
      if ← takeMarks ";" then return .array t (← orVerbatim (constant fuel)) else pure (.slice t)
    | .lifetime _ :: _ =>
      let (bs, trailing) ← bounds false plus fuel
      if hasTrait bs then pure (.object false bs trailing) else throw .objectWithoutTrait
    | .word w :: _ =>
      if ["fn", "unsafe", "extern"].contains w then functionType lifetimes fuel
      else if !isReserved w || ["super", "self", "Self", "crate"].contains w then
        pathType lifetimes plus fuel
      else if w = "dyn" then
        drop 1
        let (bs, trailing) ← bounds false plus fuel
        if hasTrait bs then pure (.object true bs trailing) else throw .objectWithoutTrait
      else if w = "impl" then
        drop 1
        let (bs, trailing) ← bounds true plus fuel
        if hasTrait bs then pure (.implementing bs trailing) else throw .implementationWithoutTrait
      else if w = "_" then
        drop 1
        pure .inferred
      else failWith typeChoices
    | _ =>
      if startsWith "::" ts then pathType lifetimes plus fuel
      else if startsWith "<" ts then qualifiedType fuel
      else if startsWith "*" ts then
        drop 1
        if ← takeWord "const" then return .pointer false (← type false fuel)
        else if ← takeWord "mut" then return .pointer true (← type false fuel)
        else failWith ["`const`", "`mut`"]
      else if startsWith "&" ts then
        drop 1
        let lifetime ← takeLifetime?
        let mutable ← takeWord "mut"
        return .reference lifetime mutable (← type false fuel)
      else if startsWith "!" ts && !startsWith "!=" ts then
        drop 1
        pure .never
      else failWith typeChoices

/-- A type in parentheses, a tuple, or a bound in parentheses with more bounds behind it. -/
def parenthesized (plus : Bool) : Nat → Parser Ty
  | 0 => throw .unexpectedToken
  | fuel + 1 => do
    let t : Ty ← inGroup .parenthesis "parentheses" do
      if (← tokens).isEmpty then pure (.tuple [] false)
      else if ← atMarks "?" then return .object false [← traitBound true fuel] false
      else
        let first ← type true fuel
        if ← takeMarks "," then
          let (more, trailing) ← types fuel
          pure (.tuple (first :: more) trailing)
        else pure (.paren first)
    match t with
    | .object _ first _ =>
      if ← takeMarks "+" then
        let (more, trailing) ← bounds false true fuel
        pure (.object false (first ++ more) trailing)
      else pure t
    | .paren inner =>
      match parenthesizedBound? inner with
      | some first =>
        if plus && (← atMarks "+") then
          drop 1
          let (more, trailing) ← bounds false plus fuel
          pure (.object false (first :: more) trailing)
        else pure t
      | none => pure t
    | _ => pure t

def pathType (lifetimes : Option (List ForLifetime)) (plus : Bool) : Nat → Parser Ty
  | 0 => throw .unexpectedToken
  | fuel + 1 => do
    let p ← path fuel
    if (← atMarks "!") && !(← atMarks "!=") && p.isPlain then
      drop 1
      match ← tokens with
      | .group d body :: _ =>
        drop 1
        pure (.invocation p d body)
      | _ => failWith ["delimiter"]
    else if lifetimes.isSome || (plus && (← atMarks "+")) then
      let first := Bound.trait false false lifetimes p
      if plus && (← atMarks "+") then
        drop 1
        if startsBound (← tokens) then
          let (more, trailing) ← bounds false plus fuel
          pure (.object false (first :: more) trailing)
        else pure (.object false [first] true)
      else pure (.object false [first] false)
    else pure (.path p)

/-- A type named through a trait, as in `<T as Trait>::Name`. -/
def qualifiedType : Nat → Parser Ty
  | 0 => throw .unexpectedToken
  | fuel + 1 => do
    expectMarks "<"
    let self ← type true fuel
    let trait ← if ← takeWord "as" then some <$> path fuel else pure none
    expectMarks ">"
    expectMarks "::"
    let first ← segment fuel
    return .qualified self trait (first :: (← moreSegments fuel))

def functionType (lifetimes : Option (List ForLifetime)) : Nat → Parser Ty
  | 0 => throw .unexpectedToken
  | fuel + 1 => do
    let isUnsafe ← takeWord "unsafe"
    let abi ← if ← takeWord "extern" then
        match ← tokens with
        | .literal text :: _ => do
          drop 1
          pure (some (some text))
        | _ => pure (some none)
      else pure none
    if !(← takeWord "fn") then throw (.expectedMark "fn")
    let (inputs, trailing, variadic) ← inGroup .parenthesis "parentheses" (functionInputs true fuel)
    let output ← returned fuel
    pure (.function lifetimes isUnsafe abi inputs (trailing && !inputs.isEmpty) variadic output)

/-- The inputs of a function up to the end of its group. -/
def functionInputs (first : Bool) : Nat → Parser (List FunctionInput × Bool × Option Variadic)
  | 0 => throw .unexpectedToken
  | fuel + 1 => do
    if (← tokens).isEmpty then pure ([], true, none)
    else
      let attributes ← attributes fuel
      match ← variadic? attributes with
      | some v => pure ([], true, some v)
      | none =>
        let name ← inputName? first
        let input := FunctionInput.mk attributes name (← type true fuel)
        if (← tokens).isEmpty then pure ([input], false, none)
        else
          expectMarks ","
          let (more, trailing, variadic) ← functionInputs false fuel
          pure (input :: more, trailing, variadic)

def constant : Nat → Parser Constant
  | 0 => throw .unexpectedToken
  | fuel + 1 => do
    let first ← operand fuel
    operations first fuel

/-- Operators and casts behind an operand. -/
def operations (left : Constant) : Nat → Parser Constant
  | 0 => throw .unexpectedToken
  | fuel + 1 => do
    if ← takeWord "as" then
      let t ← type false fuel
      operations (.cast left t) fuel
    else
      match ← takeOperator? binaryOperators with
      | some op =>
        let right ← operand fuel
        operations (.binary left op right) fuel
      | none => pure left

def operand : Nat → Parser Constant
  | 0 => throw .unexpectedToken
  | fuel + 1 => do
    match ← tokens with
    | .literal text :: _ =>
      drop 1
      pure (.literal text)
    | .word "true" :: _ =>
      drop 1
      pure (.literal "true")
    | .word "false" :: _ =>
      drop 1
      pure (.literal "false")
    | .group .parenthesis [] :: _ =>
      drop 1
      pure (.verbatim [.group .parenthesis []])
    | .group .parenthesis _ :: _ =>
      inGroup .parenthesis "parentheses" do return .paren (← constant fuel)
    | .group .brace _ :: _ => constantArgument fuel
    | _ =>
      match ← takeOperator? ["-", "!", "*"] with
      | some op => return .unary op (← operand fuel)
      | none =>
        let ts ← tokens
        if ts.head?.any startsPath || startsWith "::" ts then return .path (← path fuel)
        else failWith ["an expression"]

end

mutual

/-- The number of tokens and groups in a token. -/
def weight : Token → Nat
  | .group _ content => listWeight content + 2
  | _ => 1

def listWeight : List Token → Nat
  | [] => 0
  | t :: rest => weight t + listWeight rest

end

/-- Runs a reader over all tokens. -/
def runAll (p : Nat → Parser α) (ts : List Token) : Except SyntaxFault α := do
  let (a, s) ← (p (8 * (listWeight ts + 2))).run ⟨ts, false⟩
  if s.surplus || !s.rest.isEmpty then throw .unexpectedToken else pure a

end Parser

namespace Path

/-- Reads a text that is one path, by a reader for the arguments of its segments. -/
def parseBy (angles : Nat → Parser Arguments) (text : String) : Except SyntaxFault Path :=
  match scan text with
  | some ts => Parser.runAll (Parser.pathBy angles) ts
  | none => .error .notTokens

def parse (text : String) : Except SyntaxFault Path := parseBy Parser.angleArguments text

end Path

end ScreenNavigation.Source
