import ScreenNavigation.Source.Syntax

/-!
Paths and types as tokens. Among the arguments of a path, lifetimes come first, and each argument
that something follows has a comma.
-/
namespace ScreenNavigation.Source

private def marks (s : String) : List Token :=
  match s.toList with
  | [] => []
  | c :: rest => .mark c (!rest.isEmpty) :: rest.map (.mark · false)

private def comma : Token := .mark ',' false

/-- Puts separators between parts, and one behind the last when `trailing`. -/
private def separated (separator : List Token) (trailing : Bool) : List (List Token) → List Token
  | [] => []
  | [a] => if trailing then a ++ separator else a
  | a :: rest => a ++ separator ++ separated separator trailing rest

/-- Arguments with their commas in written order; those of the first kind move to the front. -/
private def argumentOrder (trailing : Bool) (items : List (Bool × List Token)) : List Token :=
  let last := items.length - 1
  let marked := items.zipIdx.map fun ((first, ts), i) => (first, ts, i < last || trailing)
  let write := fun ((state, out) : Bool × List Token) ((_, ts, hasComma) : Bool × List Token × Bool) =>
    let gap := if state then [] else [comma]
    (hasComma, out ++ gap ++ ts ++ (if hasComma then [comma] else []))
  let firsts := marked.filter (·.1)
  let others := marked.filter (!·.1)
  ((firsts ++ others).foldl write (true, [])).2

private def attributeTokens (attributes : Attributes) : List Token :=
  attributes.flatMap fun body => [.mark '#' false, .group .bracket body]

private def ForLifetime.tokens (l : ForLifetime) : List Token :=
  attributeTokens l.attributes ++ .lifetime l.name ::
    (match l.outlived with
      | none => []
      | some (names, trailing) => .mark ':' false ::
          separated [.mark '+' false] trailing (names.map fun n => [.lifetime n]))

private def forLifetimes : Option (List ForLifetime) → List Token
  | none => []
  | some lifetimes => .word "for" :: .mark '<' false ::
      separated [comma] false (lifetimes.map ForLifetime.tokens) ++ [.mark '>' false]

private def Variadic.tokens (v : Variadic) : List Token :=
  attributeTokens v.attributes ++ (v.name.map fun n => [Token.word n, .mark ':' false]).getD [] ++
    [.mark '.' true, .mark '.' true, .mark '.' false] ++ (if v.trailing then [comma] else [])

private def abiTokens : Option (Option String) → List Token
  | none => []
  | some name => .word "extern" :: (name.map Token.literal).toList

mutual

def Path.tokens : Path → List Token
  | .mk leading segments =>
    (if leading then marks "::" else []) ++ separated (marks "::") false (segmentsTokens segments)

def segmentsTokens : List Segment → List (List Token)
  | [] => []
  | s :: rest => s.tokens :: segmentsTokens rest

def Segment.tokens : Segment → List Token
  | .mk name arguments => .word name :: arguments.tokens

def Arguments.tokens : Arguments → List Token
  | .none => []
  | .angle turbofish items trailing =>
    (if turbofish then marks "::" else []) ++
      .mark '<' false :: argumentOrder trailing (argumentsTokens items) ++ [.mark '>' false]
  | .call inputs trailing output =>
    .group .parenthesis (separated [comma] trailing (typesTokens inputs)) ::
      (match output with
        | some t => marks "->" ++ t.tokens
        | none => [])

def argumentsTokens : List Argument → List (Bool × List Token)
  | [] => []
  | a :: rest => (a.isLifetime, a.tokens) :: argumentsTokens rest

def Argument.isLifetime : Argument → Bool
  | .lifetime _ => true
  | _ => false

def Argument.tokens : Argument → List Token
  | .lifetime name => [.lifetime name]
  | .type t => t.tokens
  | .const e => e.tokens
  | .equalsType name arguments t => .word name :: arguments.tokens ++ .mark '=' false :: t.tokens
  | .equalsConst name arguments e => .word name :: arguments.tokens ++ .mark '=' false :: e.tokens
  | .bounded name arguments bounds trailing =>
    .word name :: arguments.tokens ++ .mark ':' false ::
      separated [.mark '+' false] trailing (boundsTokens bounds)

def typesTokens : List Ty → List (List Token)
  | [] => []
  | t :: rest => t.tokens :: typesTokens rest

def inputsTokens : List FunctionInput → List (List Token)
  | [] => []
  | input :: rest => input.tokens :: inputsTokens rest

def FunctionInput.tokens : FunctionInput → List Token
  | .mk attributes name t =>
    attributeTokens attributes ++ (name.map fun n => [Token.word n, .mark ':' false]).getD [] ++ t.tokens

def Ty.tokens : Ty → List Token
  | .path p => p.tokens
  | .qualified self trait segments =>
    .mark '<' false :: self.tokens ++
      (match trait with
        | some p => .word "as" :: p.tokens
        | none => []) ++ .mark '>' false :: marks "::" ++
      separated (marks "::") false (segmentsTokens segments)
  | .reference lifetime mutable t =>
    .mark '&' false :: (lifetime.map Token.lifetime).toList ++
      (if mutable then [.word "mut"] else []) ++ t.tokens
  | .pointer mutable t => .mark '*' false :: .word (if mutable then "mut" else "const") :: t.tokens
  | .slice t => [.group .bracket t.tokens]
  | .array t length => [.group .bracket (t.tokens ++ .mark ';' false :: length.tokens)]
  | .tuple items trailing => [.group .parenthesis (separated [comma] trailing (typesTokens items))]
  | .paren t => [.group .parenthesis t.tokens]
  | .function lifetimes isUnsafe abi inputs trailing variadic output =>
    forLifetimes lifetimes ++ (if isUnsafe then [.word "unsafe"] else []) ++ abiTokens abi ++
      .word "fn" :: .group .parenthesis (separated [comma] trailing (inputsTokens inputs) ++
        (variadic.map Variadic.tokens).getD []) ::
      (match output with
        | some t => marks "->" ++ t.tokens
        | none => [])
  | .never => [.mark '!' false]
  | .inferred => [.word "_"]
  | .object dyn bounds trailing =>
    (if dyn then [.word "dyn"] else []) ++ separated [.mark '+' false] trailing (boundsTokens bounds)
  | .implementing bounds trailing =>
    .word "impl" :: separated [.mark '+' false] trailing (boundsTokens bounds)
  | .invocation p delimiter body => p.tokens ++ [.mark '!' false, .group delimiter body]

def boundsTokens : List Bound → List (List Token)
  | [] => []
  | b :: rest => b.tokens :: boundsTokens rest

def Bound.tokens : Bound → List Token
  | .lifetime name => [.lifetime name]
  | .trait parenthesized maybe lifetimes p =>
    let body := (if maybe then [.mark '?' false] else []) ++ forLifetimes lifetimes ++ p.tokens
    if parenthesized then [.group .parenthesis body] else body
  | .captured names trailing =>
    .word "use" :: .mark '<' false :: separated [comma] trailing (names.map fun n => [n]) ++
      [.mark '>' false]

def Constant.tokens : Constant → List Token
  | .literal text => [.literal text]
  | .path p => p.tokens
  | .unary op e => marks op.text ++ e.tokens
  | .binary left op right => left.tokens ++ marks op.text ++ right.tokens
  | .cast e t => e.tokens ++ .word "as" :: t.tokens
  | .paren e => [.group .parenthesis e.tokens]
  | .block none => [.group .brace []]
  | .block (some e) => [.group .brace e.tokens]
  | .verbatim content => content

end

mutual

/-- The texts of a token in order, brackets included. -/
def Token.texts : Token → List String
  | .word text => [text]
  | .lifetime text => [text]
  | .literal text => [text]
  | .mark c _ => [c.toString]
  | .group d content => d.opening :: Token.listTexts content ++ [d.closing]

def Token.listTexts : List Token → List String
  | [] => []
  | t :: rest => t.texts ++ Token.listTexts rest

end

/-- Tokens without any space, those inside literals included. -/
def compactText (tokens : List Token) : String :=
  String.ofList ((String.join (Token.listTexts tokens)).toList.filter (· != ' '))

end ScreenNavigation.Source
