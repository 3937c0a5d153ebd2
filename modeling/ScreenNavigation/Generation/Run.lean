import ScreenNavigation.Generation.Outcome

/-!
A run over a manifest: one file for each builder that could be emitted, the file that lists their
modules, and counts of what was found and made.
-/
namespace ScreenNavigation.Generation

open Builder Declaration

structure SourceFile where
  name : String
  code : String
  deriving DecidableEq, Repr

structure Statistics where
  screens : Nat
  abstractScreens : Nat
  builders : Nat
  members : Nat
  fields : Nat
  required : Nat
  optional : Nat
  privateFields : Nat
  ignored : Nat
  deriving DecidableEq, Repr

structure Output where
  files : List SourceFile
  statistics : Statistics
  warnings : List Warning

/-- The fields of all screens that have a builder, also of those whose builder failed. -/
def processedFields (d : Manifest.Discovery) : List Field := d.emittable.flatMap (·.fields)

def statistics (d : Manifest.Discovery) (outcomes : List Outcome) : Statistics :=
  let fields := processedFields d
  let made := outcomes.filter (·.succeeded)
  { screens := d.screens.length
    abstractScreens := d.abstractCount
    builders := made.length
    members := made.foldr (fun o n => o.job.plan.members.length + n) 0
    fields := fields.length
    required := fields.countP (·.isRequired)
    optional := fields.countP (·.isOptional)
    privateFields := fields.countP (·.isPrivate)
    ignored := d.ignored }

/-- The file that lists the modules. -/
def moduleListName : String := "mod.rs"

def Outcome.file? (o : Outcome) : Option SourceFile :=
  match o.code with
  | .ok code => some ⟨o.job.plan.module ++ ".rs", code⟩
  | .error _ => none

def Outcome.listing? (o : Outcome) : Option ModuleEntry :=
  if o.succeeded then some ⟨o.job.plan.module, o.job.plan.name⟩ else none

/-- Generates all files; a screen whose builder fails is left out with a warning. -/
def run (d : Manifest.Discovery) (s : Settings) : Except EmissionFault Output :=
  let all := outcomes d s
  match all.findSome? (·.illegalName?) with
  | some name => .error (.illegalName name)
  | none => do
    let list ← emitModules (all.filterMap (·.listing?)) s
    return ⟨all.filterMap (·.file?) ++ [⟨moduleListName, list⟩], statistics d all,
      all.flatMap (·.warnings)⟩

end ScreenNavigation.Generation
