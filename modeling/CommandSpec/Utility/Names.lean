import CommandSpec.Path
import CommandSpec.Utility.Inputs

/-!
# `pwd`, `basename` and `dirname`

`pwd` writes the path of the current directory. `basename` and `dirname` take a path apart as a
text, without looking at any file.
-/

namespace CommandSpec.Utility

/-- The part of a path after its last slash, slashes at its end left out. -/
def baseName (path : String) : String :=
  match (Path.pieces path.toList).reverse.dropWhile (·.isEmpty) with
  | [] => if path = "" then "" else "/"
  | name :: _ => .ofList name

/-- The part of a path before its last name. -/
def dirName (path : String) : String :=
  match (Path.pieces path.toList).reverse.dropWhile (·.isEmpty) with
  | [] => if path = "" then "." else "/"
  | _ :: before =>
    match before.dropWhile (·.isEmpty) with
    | [] => if before.isEmpty then "." else "/"
    | kept => .ofList (Path.join kept.reverse)

/-- A name without a suffix, unless the suffix is all of it. -/
def dropSuffix (name suffix : String) : String :=
  if name ≠ suffix && suffix.toList.reverse.isPrefixOf name.toList.reverse
  then .ofList (name.toList.take (name.length - suffix.length)) else name

/-- Whether a path leads to the current directory from the root, without dots on the way. -/
def isLogicalPath (files : FileSystem) (cwd : Inode) (path : String) : Bool :=
  path.toList.head? = some '/' && (files.resolve cwd path).toOption = some cwd
    && (Path.pieces path.toList).all fun p => p ≠ ['.'] && p ≠ ['.', '.']

/-- Write the path of the current directory; with `-L` it is that of the variable `PWD` if that one
leads here. -/
def pwd (args : List String) : Task Nat :=
  withOptions { flags := "LP", names := [("logical", "L"), ("physical", "P")] } args fun a => do
    if !a.operands.isEmpty then Task.complain "ignoring non-option arguments"
    let (files, cwd) ← Task.place
    let logical? := (((← read).environment.lookup "PWD").filter fun p =>
      (a.last? ["L", "P"]).any (·.1 = "L") && isLogicalPath files cwd p)
    match logical?.elim (files.absolutePath cwd) Except.ok with
    | .ok path =>
      Task.printLine path
      return 0
    | .error _ =>
      Task.complain "couldn't find directory entry in '..' with matching i-node"
      return 1

/-- Write the last names of paths: `basename path [suffix]`, `basename -a [-z] path…` and
`basename -s suffix [-z] path…`. -/
def basename (args : List String) : Task Nat :=
  let table : OptionTable :=
    { flags := "az", valued := "s", ordered := true
      names := [("multiple", "a"), ("suffix", "s"), ("zero", "z")] }
  withOptions table args fun a => do
    let suffix := (a.value? "s").getD ""
    let write (suffix : String) (paths : List String) : Task Nat := do
      Task.print (closed (a.has "z") (paths.map fun p => dropSuffix (baseName p) suffix))
      return 0
    match a.operands with
    | [] => misuse "missing operand" 1
    | path :: more =>
      if a.has "a" || a.has "s" then write suffix (path :: more)
      else
        match more with
        | [] => write "" [path]
        | [suffix] => write suffix [path]
        | _ :: extra :: _ => misuse ("extra operand " ++ inQuotes extra) 1

/-- Write paths without their last names: `dirname [-z] path…`. -/
def dirname (args : List String) : Task Nat :=
  withOptions { flags := "z", names := [("zero", "z")] } args fun a => do
    if a.operands.isEmpty then misuse "missing operand" 1
    else
      Task.print (closed (a.has "z") (a.operands.map dirName))
      return 0

end CommandSpec.Utility
