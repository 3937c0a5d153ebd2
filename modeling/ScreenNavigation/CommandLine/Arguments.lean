import ScreenNavigation.CommandLine.Invocation
import ScreenNavigation.CommandLine.Refusal

/-!
Reading arguments. A value that stands apart from its parameter is only judged once the next
parameter, or the end, shows that it is complete.
-/
namespace ScreenNavigation.CommandLine

open Terminal (ColorMode ThemeMode)

/-- What has been read for one command. -/
structure Progress where
  mentions : List Mention := []
  values : List (Parameter × String) := []
  /-- A parameter that stands apart from its value, with the value once it is read. -/
  pending : Option (Parameter × Option String) := none

namespace Progress

def parameters (s : Progress) : List Mention := s.mentions.filter fun m => m.parameter?.isSome

def isMentioned (s : Progress) (p : Parameter) : Bool := s.mentions.contains (.one p)

/-- Whether the next argument is a value, unless it names a parameter. -/
def awaitsValue (s : Progress) : Bool :=
  match s.pending with
  | some (_, none) => true
  | _ => false

private def addMention (s : Progress) (m : Mention) : Progress :=
  if s.mentions.contains m then s else { s with mentions := s.mentions ++ [m] }

/-- Mentions a parameter, and with it the command's own parameters if it is one of them. -/
def mention (s : Progress) (c : Command) (p : Parameter) : Progress :=
  let s := s.addMention (.one p)
  if c.ownParameters.contains p then s.addMention .own else s

/-- Takes up a parameter with its value; the progress made also counts if it is refused. -/
private def record (s : Progress) (c : Command) (p : Parameter) (value : Option String) :
    Progress × Option Refusal :=
  let repeated := ({ s with mentions := s.mentions.erase (.one p) }, some (.repeated c p))
  match p.form, value with
  | .switch, _ =>
    match p with
    | .help => (s, some (.help c))
    | .version => (s, some .version)
    | _ => if s.isMentioned p then repeated else (s.mention c p, none)
  | .value _ _, none => (s, some (.missingValue p))
  | .value _ accepted, some v =>
    if s.isMentioned p then repeated
    else
      let s := s.mention c p
      if accepted.accepts v then ({ s with values := s.values ++ [(p, v)] }, none)
      else (s, some (.invalidValue p v))

/-- Takes up the pending parameter, if there is one. -/
def settle (s : Progress) (c : Command) : Progress × Option Refusal :=
  match s.pending with
  | none => (s, none)
  | some (p, value) => { s with pending := none }.record c p value

def settled (s : Progress) (c : Command) : Except Refusal Progress :=
  match s.settle c with
  | (s, none) => .ok s
  | (_, some r) => .error r

/-- Takes up a parameter after the pending one. -/
def add (s : Progress) (c : Command) (p : Parameter) (value : Option String) :
    Except Refusal Progress := do
  match (← s.settled c).record c p value with
  | (s, none) => .ok s
  | (_, some r) => .error r

/-- Waits for the value of a parameter. -/
def await (s : Progress) (c : Command) (p : Parameter) : Except Refusal Progress := do
  return { ← s.settled c with pending := some (p, none) }

end Progress

private def bestMatch (name : String) (c : Command) : Option Parameter :=
  ((similarNames name (c.parameters.map (·.long))).getLast?).bind c.byLong?

private def earliest : List (Nat × Hint) → Option Hint
  | [] => none
  | first :: rest =>
    some (rest.foldl (fun best next => if next.1 < best.1 then next else best) first).2

/-- The parameter that a misspelt name may mean; a subcommand counts only if it is named later. -/
private def hint (c : Command) (name : String) (later : List String) : Option Hint :=
  match bestMatch name c with
  | some p => some (.here p)
  | none => earliest (c.subcommands.filterMap fun sub => do
    let p ← bestMatch name sub
    let i ← later.idxOf? sub.name
    return (i, .within sub p))

private def unknownLong (s : Progress) (c : Command) (name : String) (later : List String) :
    Refusal :=
  let s := (s.settle c).1
  let hint := hint c name later
  let s := match hint with
    | some (.here p) => s.mention c p
    | _ => s
  .unknownArgument c ("--" ++ name) hint s.parameters

/-- Reads `--name` or `--name=value`, without the dashes. -/
private def readLong (s : Progress) (c : Command) (body : List Char) (later : List String) :
    Except Refusal Progress :=
  let name := String.ofList (body.takeWhile (· != '='))
  let attached := match body.dropWhile (· != '=') with
    | [] => none
    | _ :: v => some (String.ofList v)
  match c.byLong? name with
  | none => .error (unknownLong s c name later)
  | some p =>
    match p.form, attached with
    | .value _ _, none => s.await c p
    | .switch, some v =>
      let given := s.mentions.filter fun m => m.parameter?.all fun q => !q.isRequired
      .error (.unexpectedValue c p v (given ++ [.one p]))
    | _, v => s.add c p v

/-- Reads letters behind one dash; the first letter with a value takes the rest as its value. -/
private def readShort (c : Command) : Progress → List Char → Except Refusal Progress
  | s, [] => .ok s
  | s, letter :: rest =>
    match c.byShort? letter with
    | none => .error (.unknownArgument c ("-" ++ letter.toString) none [])
    | some p =>
      match p.form, rest with
      | .switch, _ => do readShort c (← s.add c p none) rest
      | .value _ _, [] => s.await c p
      | .value _ _, '=' :: v => s.add c p (some (String.ofList v))
      | .value _ _, v => s.add c p (some (String.ofList v))

/-- The refusal of an argument that is neither a parameter nor a value. -/
private def misplaced (c : Command) (escaped : Bool) (argument : String) : Refusal :=
  if escaped && (c.subcommand? argument).isSome then .escapedCommand argument
  else if c.subcommands.isEmpty then .unknownArgument c argument none []
  else .unknownCommand c argument (similarNames argument (c.subcommands.map (·.name)))

/-- What an argument looks like. -/
private inductive Look where
  | escape
  | long (body : List Char)
  | short (letters : List Char)
  | plain

private def Look.of (argument : String) : Look :=
  match argument.toList with
  | ['-', '-'] => .escape
  | '-' :: '-' :: body => .long body
  | ['-'] => .plain
  | '-' :: letters => .short letters
  | _ => .plain

/-- Reads arguments up to their end or to a subcommand, which is returned with what follows it. -/
private def scan (c : Command) : Bool → Progress → List String →
    Except Refusal (Progress × Option (Command × List String))
  | _, s, [] => .ok (s, none)
  | true, _, argument :: _ => .error (misplaced c true argument)
  | false, s, argument :: rest =>
    match if s.awaitsValue then none else c.subcommand? argument, Look.of argument, s.pending with
    | some sub, _, _ => .ok (s, some (sub, rest))
    | none, .escape, _ => scan c true s rest
    | none, .long body, _ => do scan c false (← readLong s c body rest) rest
    | none, .short letters, _ => do scan c false (← readShort c s letters) rest
    | none, .plain, some (p, none) =>
      scan c false { s with pending := some (p, some argument) } rest
    | none, .plain, _ => .error (misplaced c false argument)

/-- The values that a subcommand gets. -/
private def readCommand (c : Command) (arguments : List String) :
    Except Refusal Progress := do
  let s ← (← scan c false {} arguments).1.settled c
  match c.required.filter fun p => !s.isMentioned p with
  | [] => return s
  | missing => throw (.missingRequired c missing (s.parameters ++ missing.map .one))

/-- What the help subcommand answers to the names that follow it. -/
private def helpOn : Command → List String → Refusal
  | c, [] => .help c
  | c, name :: rest =>
    match c.subcommand? name with
    | some sub => helpOn sub rest
    | none => .unknownCommand c name []

private def valueOf (s : Progress) (p : Parameter) : Option String :=
  (s.values.find? (·.1 == p)).map (·.2)

private def textOf (s : Progress) (p : Parameter) : String :=
  (valueOf s p).getD (p.default?.getD "")

private def actionOf (c : Command) (s : Progress) : Action :=
  match c with
  | .generate => .generate
    { input := textOf s .input
      output := textOf s .output
      visibility := if textOf s .visibility = "crate" then .crate else .everywhere
      support := textOf s .supportCrate
      verbose := s.isMentioned .verbose
      quiet := s.isMentioned .quiet }
  | _ => .list (textOf s .input)

/-- A value given to the subcommand counts before one given to the program. -/
private def inner {α : Type} (ofName? : String → Option α) (default : α) (p : Parameter)
    (outer own : Progress) : α :=
  (((valueOf own p).or (valueOf outer p)).bind ofName?).getD default

/-- Reads the arguments of the program. -/
def parse (arguments : List String) : Except Refusal Invocation := do
  match ← scan .program false {} arguments with
  | (s, none) =>
    let s ← s.settled .program
    throw (if s.mentions.isEmpty then .nothingGiven else .missingCommand)
  | (_, some (.help, rest)) => throw (helpOn .program rest)
  | (s, some (c, rest)) =>
    let own ← readCommand c rest
    let s ← s.settled .program
    return {
      action := actionOf c own
      color := inner ColorMode.ofName? .auto .color s own
      theme := inner ThemeMode.ofName? .auto .theme s own }

end ScreenNavigation.CommandLine
