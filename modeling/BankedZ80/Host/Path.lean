/-!
# Paths

Paths of the host: components joined by slashes. An empty component and `.` stand for the directory
itself and `..` for the one above it.
-/

namespace BankedZ80.Path

/-- The components of a path, empty ones included. -/
def splitSlash : List Char → List (List Char)
  | [] => [[]]
  | c :: rest =>
    match splitSlash rest with
    | first :: more => if c = '/' then [] :: first :: more else (c :: first) :: more
    | [] => [[c]]

/-- The most bytes that one name may have. -/
def maxNameBytes : Nat := 255

/-- The most bytes that a path may have. -/
def maxBytes : Nat := 4095

/-- Is a path short enough, without a null character? -/
def isWellFormed (path : String) : Bool :=
  path.utf8ByteSize ≤ maxBytes && !path.toList.contains (Char.ofNat 0)

/-- Does a component stand for the directory it is in? -/
def isHere (component : List Char) : Bool := component = [] || component = ['.']

/-- The last component of a path that names something, unless that is the directory above. -/
def fileName? (path : String) : Option String :=
  match ((splitSlash path.toList).reverse.dropWhile isHere) with
  | [] => none
  | name :: _ => if name = ['.', '.'] then none else some (String.ofList name)

/-- The path of a name in a directory. -/
def join (directory name : String) : String :=
  if directory = "" || directory.endsWith "/" then directory ++ name else directory ++ "/" ++ name

end BankedZ80.Path
