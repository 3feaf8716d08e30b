import PostalAddress.CommandLine.Run

/-!
# The command line

Reads the files that a command names, runs it and prints what it answers.
-/

namespace PostalAddress

/-- A folder, under its own path. -/
def folderEntry (path : String) : IO.FS.DirEntry := ⟨path, "."⟩

/-- Every file at a path or below it, with its text if it is one. -/
partial def filesAt (path : String) : IO (List (String × Option String)) := do
  let folder := (folderEntry path).path
  if ← folder.isDir then
    let entries ← folder.readDir
    let files ← entries.toList.mapM fun e => filesAt (Path.join path e.fileName)
    return files.flatten
  else
    try
      let bytes ← IO.FS.readBinFile path
      return [(path, String.fromUTF8? bytes)]
    catch _ => return []

def usage : String :=
  "usage: format INPUT [-c COUNTRY] [--fallback-country COUNTRY] [-a] [--append-country]\n" ++
  "         [--no-postcode-cleanup] [--lines] [--json] [--config FILE] [--data-dir FOLDER]\n" ++
  "       render TEMPLATE [DATA] [--partials FOLDER]\n" ++
  "       validate [--data-dir FOLDER]\n" ++
  "       countries [CODE]\n"

end PostalAddress

open PostalAddress in
def main (args : List String) : IO UInt32 := do
  match Command.ofArguments? args with
  | none =>
    (← IO.getStderr).putStr usage
    return 2
  | some command =>
    let files ← command.paths.mapM filesAt
    let outcome := command.run (Files.ofList files.flatten)
    (← IO.getStdout).putStr outcome.output
    (← IO.getStderr).putStr outcome.errors
    return UInt32.ofNat outcome.code
