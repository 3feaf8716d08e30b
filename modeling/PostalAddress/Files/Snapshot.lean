import PostalAddress.Files.Path
import PostalAddress.Table

/-!
# Files

`Files` is what is known of a file system: the text of each file, or nothing for a file that is no
text, under the segments of its path. Folders are there as far as files are in them. `read` says
as the system would why a path cannot be read.
-/

namespace PostalAddress

inductive FileFault
  | notFound
  | notDirectory
  | isDirectory
  | notText
deriving DecidableEq

def FileFault.message : FileFault → String
  | .notFound => "No such file or directory (os error 2)"
  | .notDirectory => "Not a directory (os error 20)"
  | .isDirectory => "Is a directory (os error 21)"
  | .notText => "stream did not contain valid UTF-8"

structure Files where
  texts : List (List String × Option String)

namespace Files

def ofList (files : List (String × Option String)) : Files :=
  ⟨files.map fun (path, text) => (Path.segments path, text)⟩

def find? (files : Files) (place : List String) : Option (Option String) :=
  files.texts.lookup place

/-- Some file is in the folder or below it. -/
def isFolder (files : Files) (folder : List String) : Bool :=
  folder.isEmpty || files.texts.any fun (path, _) =>
    folder.isPrefixOf path && folder.length < path.length

/-- Follows the steps of a path, each of which but the last must lead to a folder. -/
def locate (files : Files) (done : List String) : List String → Except FileFault (List String)
  | [] => .ok done
  | s :: r =>
    if files.isFolder done then locate files (Path.walk done [s]) r
    else if (files.find? done).isSome then .error .notDirectory
    else .error .notFound

def read (files : Files) (path : String) : Except FileFault String := do
  if path.isEmpty then throw .notFound
  let place ← files.locate [] (Path.steps path)
  match files.find? place with
  | some text =>
    if Path.namesFolder path then throw .notDirectory
    match text with
    | some s => return s
    | none => throw .notText
  | none => throw (if files.isFolder place then .isDirectory else .notFound)

/-- The path leads to a folder. -/
def isFolderAt (files : Files) (path : String) : Bool :=
  match files.locate [] (Path.steps path) with
  | .ok place => files.isFolder place
  | .error _ => false

/-- The names in a folder, in order. -/
def names (files : Files) (path : String) : List String :=
  let folder := Path.segments path
  let below := files.texts.filterMap fun (path, _) =>
    if folder.isPrefixOf path then path[folder.length]? else none
  below.eraseDups.mergeSort fun a b => decide (a ≤ b)

end Files

end PostalAddress
