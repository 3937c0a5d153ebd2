import ScreenNavigation.Builder.Emission
import ScreenNavigation.Manifest.Discovery

/-!
What becomes of each screen of a manifest that has a builder. Modules get their names first, in the
order of the screens, so the name of a module does not depend on whether earlier screens fail.
-/
namespace ScreenNavigation.Generation

open Builder Declaration

/-- A screen with the plan of its builder; the plan holds the final name of the module. -/
structure Job where
  screen : Screen
  plan : Plan
  renamed : Bool

/-- Gives each plan a module name that no earlier plan has. -/
def assign (used : List String) : List (Screen × Plan) → List Job
  | [] => []
  | (screen, plan) :: rest =>
    let name := Naming.unique plan.module used
    ⟨screen, { plan with module := name }, name != plan.module⟩ :: assign (name :: used) rest

/-- The jobs of a discovery, one for each concrete screen. -/
def jobs (d : Manifest.Discovery) : List Job :=
  assign [] (d.emittable.filterMap fun s => (Plan.ofScreen? s).map (s, ·))

/-- A job with the text of its file, or the reason why there is none. -/
structure Outcome where
  job : Job
  code : Except EmissionFault String

namespace Outcome

def succeeded (o : Outcome) : Bool := o.code.toBool

/-- A name that cannot be written stops the whole run. -/
def illegalName? (o : Outcome) : Option String :=
  match o.code with
  | .error (.illegalName name) => some name
  | _ => none

end Outcome

def outcomes (d : Manifest.Discovery) (s : Settings) : List Outcome :=
  (jobs d).map fun j => ⟨j, j.plan.emit s⟩

inductive Warning where
  | emissionFailed (screen error : String)
  | moduleRenamed (builder module : String)
  deriving DecidableEq, Repr

namespace Warning

def message : Warning → String
  | .emissionFailed screen error => "Failed to emit builder for '" ++ screen ++ "': " ++ error
  | .moduleRenamed builder module =>
    "Builder '" ++ builder ++ "' shares its name with another screen; written to module '" ++
      module ++ "'"

/-- Whether the screen of the warning was left out. -/
def isSkipped : Warning → Bool
  | .emissionFailed _ _ => true
  | .moduleRenamed _ _ => false

end Warning

/-- A screen is renamed before it fails. -/
def Outcome.warnings (o : Outcome) : List Warning :=
  (if o.job.renamed then [.moduleRenamed o.job.plan.name o.job.plan.module] else []) ++
    match o.code with
    | .ok _ => []
    | .error f => [.emissionFailed o.job.screen.identity.text f.message]

end ScreenNavigation.Generation
