/-!
Why the file system refuses something.
-/
namespace ScreenNavigation.Files

/-- The number of an error of the system with its text. -/
structure Fault where
  code : Nat
  text : String
  deriving DecidableEq, Repr

namespace Fault

def notFound : Fault := ⟨2, "No such file or directory"⟩

def alreadyExists : Fault := ⟨17, "File exists"⟩

def noSuchDevice : Fault := ⟨19, "No such device"⟩

def notDirectory : Fault := ⟨20, "Not a directory"⟩

def isDirectory : Fault := ⟨21, "Is a directory"⟩

def nameTooLong : Fault := ⟨36, "File name too long"⟩

def message (f : Fault) : String := f.text ++ " (os error " ++ toString f.code ++ ")"

end Fault

/-- Why a file cannot be read as a whole: it does not open, or it opens and has no contents to map,
as a directory. -/
inductive OpenFault where
  | unopened (f : Fault)
  | unmapped (f : Fault)
  deriving DecidableEq, Repr

end ScreenNavigation.Files
