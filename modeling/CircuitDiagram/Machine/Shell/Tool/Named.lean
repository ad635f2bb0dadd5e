import CircuitDiagram.Machine.Shell.Tool.Columns
import CircuitDiagram.Machine.Shell.Tool.Editor
import CircuitDiagram.Machine.Shell.Tool.Exchange
import CircuitDiagram.Machine.Shell.Tool.Facts
import CircuitDiagram.Machine.Shell.Tool.Numbers
import CircuitDiagram.Machine.Shell.Tool.Order
import CircuitDiagram.Machine.Shell.Tool.Search

/-!
All tools by their names.
-/

namespace CircuitDiagram.Shell.Tool

def which : Tool := fun arguments => do
  let files := (← get).files
  let directories := (((← get).environment.lookup "PATH").getD "").splitOn ":"
  let isThere (path : String) : Bool :=
    match files.locate (nameOfText path) with
    | .ok location => files.isExecutableAt location
    | .error _ => false
  Chore.forEach (fun name => do
    let paths := if name.toList.contains '/' then [name]
      else directories.map fun directory => directory ++ "/" ++ name
    match paths.find? isThere with
    | some path => Chore.printLine path
    | none => modify fun desk => { desk with trouble := 1 }) arguments
  Chore.finish

def named : List (String × Tool) := [
  ("true", always 0), ("false", always 1), ("sync", sync),
  ("echo", echo), ("printf", printf), ("test", test "test"), ("[", test "["),
  ("cat", cat), ("head", head), ("tail", tail), ("tac", tac), ("rev", rev), ("nl", nl),
  ("wc", wc), ("tr", tr), ("cut", cut), ("paste", paste), ("fold", fold), ("comm", comm),
  ("sort", sort), ("uniq", uniq), ("grep", grep), ("egrep", egrep), ("fgrep", fgrep),
  ("sed", sed), ("tee", tee), ("touch", touch), ("rm", rm), ("unlink", rm), ("mkdir", mkdir),
  ("rmdir", rmdir), ("cp", cp), ("mv", mv), ("ln", ln), ("chmod", chmod), ("ls", ls),
  ("stat", stat), ("truncate", truncate), ("cmp", cmp), ("seq", seq), ("expr", expr),
  ("basename", basename), ("dirname", dirname), ("yes", yes), ("sleep", sleep), ("pwd", pwd),
  ("printenv", printenv), ("realpath", realpath), ("readlink", readlink), ("whoami", whoami),
  ("id", id), ("uname", uname), ("dd", dd), ("od", od), ("which", which),
  ("gzip", versionOnly "gzip"), ("perl", versionOnly "perl"), ("mount", versionOnly "mount"),
  ("umount", versionOnly "umount"), ("more", versionOnly "more"), ("kill", versionOnly "kill"),
  ("su", versionOnly "su"), ("getopt", versionOnly "getopt"), ("flock", versionOnly "flock"),
  ("mktemp", versionOnly "mktemp"), ("hostname", versionOnly "hostname")]

end CircuitDiagram.Shell.Tool
