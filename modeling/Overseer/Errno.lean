import Overseer.Errno.Table

/-!
Error numbers of the system: the two texts under which they are reported.
-/

namespace Overseer

/-- An error number. Any integer may be asked about. -/
structure Errno where
  number : Int
  deriving DecidableEq, Repr

namespace Errno

def row? (e : Errno) : Option Entry :=
  table.find? fun row => (row.number : Int) == e.number

/-- The system's text for an error. -/
def text (e : Errno) : String :=
  if e.number = 0 then "Success"
  else ((row? e).map Entry.text).getD s!"Unknown error {e.number}"

/-- The text of a failed system call. -/
def message (e : Errno) : String :=
  e.text ++ s!" (os error {e.number})"

/-- The symbolic name of an error. -/
def name (e : Errno) : String :=
  ((row? e).map Entry.name).getD "UnknownErrno"

/-- Name and short description of an error. -/
def described (e : Errno) : String :=
  e.name ++ ": " ++ ((row? e).map Entry.description).getD "Unknown errno"

/-- The category of the condition. -/
def category (e : Errno) : String :=
  ((row? e).map Entry.category).getD "Uncategorized"

def notFound : Errno := ⟨2⟩

def noProcess : Errno := ⟨3⟩

def tooManyArguments : Errno := ⟨7⟩

def notExecutable : Errno := ⟨8⟩

def badDescriptor : Errno := ⟨9⟩

def permissionDenied : Errno := ⟨13⟩

def alreadyExists : Errno := ⟨17⟩

def notDirectory : Errno := ⟨20⟩

def isDirectory : Errno := ⟨21⟩

def invalidArgument : Errno := ⟨22⟩

def noSpace : Errno := ⟨28⟩

def outOfRange : Errno := ⟨34⟩

def nameTooLong : Errno := ⟨36⟩

def notEmpty : Errno := ⟨39⟩

def tooManyLevels : Errno := ⟨40⟩

end Errno

end Overseer
