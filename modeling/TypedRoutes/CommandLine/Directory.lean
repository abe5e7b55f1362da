import TypedRoutes.Text.Trim
/-!
# Files of a directory

A directory holds texts by their paths within it. A path is followed name by name from the directory,
or from the root if it starts with a slash; two dots lead up, and outside of the directory nothing
is known but that the way up exists.
-/
namespace TypedRoutes.CommandLine
open Text

/-- Why a file cannot be read. -/
inductive FileFault where
  | missing
  | directory
  | notDirectory
  | nameTooLong
  | notText
  | other (reason : String)
  deriving DecidableEq, Repr

def FileFault.message : FileFault → String
  | missing => "No such file or directory (os error 2)"
  | directory => "Is a directory (os error 21)"
  | notDirectory => "Not a directory (os error 20)"
  | nameTooLong => "File name too long (os error 36)"
  | notText => "stream did not contain valid UTF-8"
  | other reason => reason

/-- The texts of a directory by their paths within it. -/
abbrev Directory := List (String × String)

/-- The greatest number of bytes of a name. -/
def nameLimit : Nat := 255

/-- The greatest number of bytes of a path. -/
def pathLimit : Nat := 4095

/-- The names of a path; those between two slashes and at its ends may be empty. -/
def pathNames (path : String) : List String :=
  (split '/' path.toList).map String.ofList

/-- Whether a name leads nowhere else. -/
def staysInPlace (name : String) : Bool :=
  name = "" || name = "."

/-- Where a path has led: to a place within the directory, by the names that lead there, to the text of
a file, or outside of the directory. -/
inductive Place where
  | within (names : List String)
  | file (text : String)
  | outside
  deriving DecidableEq, Repr

namespace Directory

/-- The paths within a directory as names that lead somewhere, and the texts there. -/
def entries (files : Directory) : List (List String × String) :=
  files.map fun (path, text) => ((pathNames path).filter (!staysInPlace ·), text)

/-- Follows one name from a place. -/
def follow (files : Directory) (place : Place) (name : String) : Except FileFault Place :=
  match place with
  | .file _ => .error .notDirectory
  | .within names =>
    if staysInPlace name then .ok place
    else if name = ".." then .ok (if names.isEmpty then .outside else .within names.dropLast)
    else if nameLimit < name.utf8ByteSize then .error .nameTooLong
    else
      let names := names ++ [name]
      match files.entries.lookup names with
      | some text => .ok (.file text)
      | none =>
        if files.entries.any fun entry => names.isPrefixOf entry.1 then .ok (.within names)
        else .error .missing
  | .outside =>
    if staysInPlace name || name = ".." then .ok .outside
    else if nameLimit < name.utf8ByteSize then .error .nameTooLong
    else .error .missing

/-- The text of the file at a path. -/
def read (files : Directory) (path : String) : Except FileFault String := do
  if path.isEmpty then throw .missing
  if pathLimit < path.utf8ByteSize then throw .nameTooLong
  let start := if path.startsWith "/" then .outside else .within []
  match ← (pathNames path).foldlM files.follow start with
  | .file text => return text
  | .within _ | .outside => throw .directory

end Directory

end TypedRoutes.CommandLine
