import CommandSpec.Machine.Task

/-!
# Finding programs

A name with a slash is the path of a program; any other name is looked for in the directories of a
search path. A file that is there but must not be run is remembered, and the search goes on. The first
line of a script may name the program that runs it, which then has to be there too.
-/

namespace CommandSpec

/-- What a name leads to when it is run as a program. -/
inductive Located where
  | program (path : String)
  | denied
  | missing
  deriving DecidableEq, Repr, Inhabited

namespace Located

/-- The program that runs a script, with its arguments, if the first line of the script names one. -/
def interpreter? (script : String) : Option (String × List String) :=
  let isBlank (c : Char) : Bool := c = ' ' || c = '\t'
  match script.toList with
  | '#' :: '!' :: cs =>
    let line := (cs.takeWhile (· ≠ '\n')).dropWhile isBlank
    let line := (line.reverse.dropWhile isBlank).reverse
    let path := line.takeWhile (!isBlank ·)
    let argument := (line.drop path.length).dropWhile isBlank
    if path.isEmpty then none
    else some (.ofList path, if argument.isEmpty then [] else [.ofList argument])
  | _ => none

/-- What a path leads to, a script to what its first line names; at most `fuel` scripts. -/
def followPath (files : FileSystem) (cwd : Inode) : (fuel : Nat) → (path : String) → Located
  | 0, _ => .denied
  | fuel + 1, path =>
    match files.resolve cwd path with
    | .ok i =>
      let node := files.node i
      if node.isFile && node.isExecutable then
        match interpreter? (Octets.unpack (node.bytes.extract 0 256)) with
        | none => .program path
        | some (interpreter, _) => followPath files cwd fuel interpreter
      else .denied
    | .error .accessDenied => .denied
    | .error _ => .missing

/-- What a path leads to. -/
def ofPath (files : FileSystem) (cwd : Inode) (path : String) : Located :=
  match followPath files cwd 5 path with
  | .program _ => .program path
  | other => other

/-- The first program among some places, or whether one was refused. -/
def firstOf : List Located → Located
  | [] => .missing
  | .program path :: _ => .program path
  | .denied :: rest =>
    match firstOf rest with
    | .missing => .denied
    | found => found
  | .missing :: rest => firstOf rest

/-- The paths at which a name is looked for. -/
def candidates (searchPath name : String) : List String :=
  if name.toList.contains '/' then [name]
  else (searchPath.splitOn ":").map fun d => if d = "" then name else d ++ "/" ++ name

/-- What a name leads to. -/
def ofName (files : FileSystem) (cwd : Inode) (searchPath name : String) : Located :=
  if name = "" then .missing
  else firstOf ((candidates searchPath name).map (ofPath files cwd))

/-- Where programs are looked for at first. -/
def standardPath : String :=
  "/usr/local/sbin:/usr/local/bin:/usr/sbin:/usr/bin:/sbin:/bin"

end Located

end CommandSpec
