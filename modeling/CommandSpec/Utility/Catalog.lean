import CommandSpec.Utility.ByteComparison
import CommandSpec.Utility.ByteMap
import CommandSpec.Utility.Checksum
import CommandSpec.Utility.Clock
import CommandSpec.Utility.Comparison
import CommandSpec.Utility.Concatenation
import CommandSpec.Utility.Condition
import CommandSpec.Utility.Copying
import CommandSpec.Utility.Count
import CommandSpec.Utility.Creation
import CommandSpec.Utility.Dumping
import CommandSpec.Utility.Echo
import CommandSpec.Utility.Editing
import CommandSpec.Utility.Encoding
import CommandSpec.Utility.Environment
import CommandSpec.Utility.Expression
import CommandSpec.Utility.Extent
import CommandSpec.Utility.Factors
import CommandSpec.Utility.FileFacts
import CommandSpec.Utility.FileSize
import CommandSpec.Utility.Finding
import CommandSpec.Utility.Folding
import CommandSpec.Utility.Gathering
import CommandSpec.Utility.Identity
import CommandSpec.Utility.LineSearch
import CommandSpec.Utility.Linking
import CommandSpec.Utility.Listing
import CommandSpec.Utility.Location
import CommandSpec.Utility.Merging
import CommandSpec.Utility.Moving
import CommandSpec.Utility.Names
import CommandSpec.Utility.Numbering
import CommandSpec.Utility.Order
import CommandSpec.Utility.Ownership
import CommandSpec.Utility.Paragraphs
import CommandSpec.Utility.Pasting
import CommandSpec.Utility.PathCheck
import CommandSpec.Utility.Permission
import CommandSpec.Utility.Precedence
import CommandSpec.Utility.Printf
import CommandSpec.Utility.Reblocking
import CommandSpec.Utility.Removal
import CommandSpec.Utility.Repeats
import CommandSpec.Utility.Reversal
import CommandSpec.Utility.Rules
import CommandSpec.Utility.Sections
import CommandSpec.Utility.Selection
import CommandSpec.Utility.Sequence
import CommandSpec.Utility.Shuffling
import CommandSpec.Utility.Splitting
import CommandSpec.Utility.Supervision
import CommandSpec.Utility.Tabs
import CommandSpec.Utility.TemporaryFile
import CommandSpec.Utility.Waiting

/-!
# The utilities by name
-/

namespace CommandSpec.Utility

/-- End with a status, unless the only argument asks what the program is. -/
def plainStatus (status : Nat) (args : List String) : Task Nat := do
  if args = ["--help"] then
    Task.printLine ("Usage: " ++ (← read).speaker ++ " [ignored command line arguments]")
  if args = ["--version"] then Task.printLine ((← read).speaker ++ " (GNU coreutils) 9.1")
  return status

/-- The programs that need nothing but their arguments and what their process can reach. -/
def catalog : List (String × (List String → Task Nat)) :=
  [ ("[", test true), ("arch", arch), ("awk", awk), ("b2sum", b2sum), ("base32", base "base32"),
    ("base64", base "base64"), ("basename", basename), ("basenc", basenc), ("cat", cat),
    ("chgrp", chgrp), ("chmod", chmod), ("chown", chown), ("cksum", cksum), ("cmp", cmp),
    ("comm", comm), ("cp", cp), ("csplit", csplit), ("cut", cut), ("date", date), ("dd", dd),
    ("diff", diff), ("dir", dir), ("dirname", dirname), ("echo", echo), ("egrep", egrep), ("env", env),
    ("expand", expand), ("expr", expr), ("factor", factor), ("false", plainStatus 1), ("fgrep", fgrep),
    ("find", find), ("fmt", fmt), ("fold", fold), ("grep", grep), ("groups", groups), ("head", head),
    ("hostname", hostname), ("id", identity), ("join", join), ("link", link), ("ln", ln),
    ("logname", logname), ("ls", ls), ("mawk", awk), ("md5sum", digestSum .md5), ("mkdir", mkdir),
    ("mkfifo", mkfifo), ("mktemp", mktemp), ("mv", mv), ("nice", nice), ("nl", nl), ("nohup", nohup),
    ("nproc", nproc), ("od", od), ("paste", paste), ("pathchk", pathchk), ("printenv", printenv),
    ("printf", printf), ("pwd", pwd), ("readlink", readlink), ("realpath", realpath), ("rev", rev),
    ("rm", rm), ("rmdir", rmdir), ("sed", sed), ("seq", seq), ("sha1sum", digestSum .sha1),
    ("sha224sum", digestSum .sha224), ("sha256sum", digestSum .sha256),
    ("sha384sum", digestSum .sha384), ("sha512sum", digestSum .sha512), ("shuf", shuf),
    ("sleep", sleep), ("sort", sort), ("split", split), ("stat", stat), ("stdbuf", stdbuf),
    ("sum", sum), ("sync", sync), ("tac", tac), ("tail", tail), ("tee", tee), ("test", test false),
    ("timeout", timeout), ("touch", touch), ("tr", tr), ("true", plainStatus 0), ("truncate", truncate),
    ("tsort", tsort), ("tty", tty), ("uname", uname), ("unexpand", unexpand), ("uniq", uniq),
    ("unlink", unlink), ("vdir", vdir), ("wc", wc), ("which", which), ("whoami", whoami),
    ("xargs", xargs), ("yes", yes) ]

/-- Run a program under a name; a refused write to standard output makes it fail. What it has read of
standard input but not used is given back. -/
def run (name : String) (program : List String → Task Nat) (args : List String) : Task Nat :=
  Task.within (fun c => { c with speaker := name, inShell := false }) do
    let status ← program args
    giveBack
    match (← Task.call Call.self).refusal with
    | none => return status
    | some e =>
      Task.complain ("write error: " ++ e.wording)
      return 1

end CommandSpec.Utility
