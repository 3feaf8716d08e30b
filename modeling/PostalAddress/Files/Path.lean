import PostalAddress.Text.Blank

/-!
# Paths

A path is written as a text; its segments say where it leads. Empty segments and `.` lead nowhere,
`..` leads back. The segments of an absolute path begin with a slash.
-/

namespace PostalAddress.Path

open Text

def rawSegments (path : String) : List String :=
  (splitOn '/' path.toList).map String.ofList

def isAbsolute (path : String) : Bool := path.toList.head? = some '/'

/-- The steps of a path, with `..` still in it. -/
def steps (path : String) : List String :=
  (if isAbsolute path then ["/"] else []) ++
    (rawSegments path).filter fun s => !s.isEmpty && s != "."

/-- Follows the steps from `done`. -/
def walk (done : List String) : List String → List String
  | [] => done
  | s :: r =>
    if s = ".." && !done.isEmpty && done.getLast? != some ".." then walk done.dropLast r
    else walk (done ++ [s]) r

def segments (path : String) : List String := walk [] (steps path)

/-- The path can only be a folder. -/
def namesFolder (path : String) : Bool :=
  match (rawSegments path).getLast? with
  | some s => s.isEmpty || s = "."
  | none => false

/-- The path of `name` in the folder `path`. -/
def join (path name : String) : String :=
  if isAbsolute name || path.isEmpty then name
  else if path.toList.getLast? = some '/' then path ++ name
  else path ++ "/" ++ name

def fileName? (path : String) : Option String :=
  match (steps path).getLast? with
  | some s => if s = ".." || s = "/" then none else some s
  | none => none

/-- The parts of a file name before and after its last dot; a dot in front does not count. -/
def stemAndExtension (name : String) : String × Option String :=
  match splitOn '.' name.toList with
  | [] => (name, none)
  | parts =>
    let stem := ['.'].intercalate parts.dropLast
    if stem.isEmpty then (name, none)
    else (String.ofList stem, parts.getLast?.map String.ofList)

def extension? (path : String) : Option String :=
  (fileName? path).bind fun name => (stemAndExtension name).2

end PostalAddress.Path
