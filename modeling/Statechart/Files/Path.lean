/-
**Paths.**

A path is a start and the names that lead on from it. The path of a directory in one form has no
names that lead nowhere, so a directory has one such path.
-/

namespace Statechart.FilePath

/-- The directory in which a program works. -/
def working : String := ""

/-- The directory around all others. -/
def root : String := "/"

/-- What stands between the slashes of a path. -/
def parts (path : String) : List String :=
  (path.toList.splitOnP (· = '/')).map String.ofList

/-- What the paths within a directory start with. -/
def opening (directory : String) : String :=
  if directory = working || directory = root then directory else directory ++ "/"

/-- Whether a directory is around the working directory. -/
def isAbove (directory : String) : Bool := (parts directory).all fun name => name = ".."

/-- The directory around another one. -/
def parent (directory : String) : String :=
  if directory = root then root
  else if directory = working || isAbove directory then opening directory ++ ".."
  else
    match (parts directory).dropLast with
    | [""] => root
    | names => String.intercalate "/" names

/-- Whether a name leads from a directory to itself or to the one around it. -/
def isStep (name : String) : Bool := name = "" || name = "." || name = ".."

/-- The path that a name leads to from a directory. -/
def child (directory name : String) : String :=
  if name = "" || name = "." then directory
  else if name = ".." then parent directory
  else opening directory ++ name

/-- The directory where a path starts, and the names that follow. -/
def start (path : String) : String × List String :=
  match parts path with
  | "" :: names => (root, names)
  | names => (working, names)

/-- Whether a directory is the working directory or within it. -/
def isWithin (directory : String) : Bool :=
  !directory.startsWith "/" && !isAbove directory && !directory.startsWith "../"

/-- Whether a directory needs nobody to make it. -/
def isGiven (directory : String) : Bool :=
  directory = working || directory = root || isAbove directory

/-- What stands behind the last point in the last name of a path, unless the name starts there. -/
def extension? (path : String) : Option String :=
  let name := path.toList.reverse.takeWhile (· ≠ '/')
  match name.dropWhile (· ≠ '.') with
  | [] | [_] => none
  | _ => some (String.ofList (name.takeWhile (· ≠ '.')).reverse)

end Statechart.FilePath
