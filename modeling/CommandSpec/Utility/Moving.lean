import CommandSpec.Utility.Sameness

/-!
# `mv`

A file or a directory with all that is in it gets another place in the tree. A file replaces a file
and a directory replaces an empty directory; what was moved into a directory is not replaced by what
the same call moves there next.
-/

namespace CommandSpec.Utility

/-- The nodes that a call has moved, each with the path it moved to. -/
abbrev Moved := List (Inode × String)

/-- How `mv` moves. -/
structure MoveStyle where
  replacement : ReplacementStyle := {}
  verbose : Bool := false
  deriving Inhabited

namespace MoveStyle

/-- Complain that a source cannot take the place of what is at its destination, if it cannot. -/
def mismatch? (s : MoveStyle) (source target : String) (node old : Node) : Option String :=
  if s.replacement.backup.kind ≠ .none then none
  else if node.isDirectory && !old.isDirectory then
    some ("cannot overwrite non-directory " ++ shellQuoted target ++ " with directory " ++ shellQuoted source)
  else if !node.isDirectory && old.isDirectory then
    some ("cannot overwrite directory " ++ shellQuoted target ++ " with non-directory")
  else none

/-- Move a source to a destination where nothing stands in the way. -/
def carryOut (s : MoveStyle) (source target : String) (backup? : Option String) : Task Bool := do
  let pair (between : String) : String := shellQuoted source ++ between ++ shellQuoted target
  match ← Task.change fun files cwd => files.rename cwd source target with
  | .ok () => tellPair s.verbose "renamed " " -> " source target backup?
  | .error .invalid => refuse ("cannot move " ++ pair " to a subdirectory of itself, ")
  | .error e =>
    if e = .notEmpty || e = .alreadyExists || e = .isDirectory then
      settle ("cannot overwrite " ++ shellQuoted target) (.error e)
    else settle ("cannot move " ++ pair " to ") (.error e)

/-- Move a source onto what is at its destination: whether that worked. -/
def replace (s : MoveStyle) (moved : Moved) (source target : String) (i j : Inode) : Task Bool := do
  let (files, cwd) ← Task.place
  let node := files.node i
  let old := files.node j
  let backup := s.replacement.backup
  let facing : Facing := { files, cwd, source, target }
  let approach : Approach := { isMove := true, putsAside := backup.kind ≠ .none }
  if !s.replacement.keepsAll && facing.compare approach ≠ .distinct then
    return (← refuse (shellQuoted source ++ " and " ++ shellQuoted target ++ " are the same file"))
  if !(← s.replacement.replaces node old target) then return true
  if let some complaint := s.mismatch? source target node old then return (← refuse complaint)
  if !old.isDirectory && backup.kind ≠ .numbered && moved.contains (j, target) then
    return (← refuse ("will not overwrite just-created " ++ shellQuoted target ++ " with "
      ++ shellQuoted source))
  if backup.endangers files cwd source target then
    return (← refuse ("backing up " ++ shellQuoted target ++ " might destroy source;  "
      ++ shellQuoted source ++ " not moved"))
  let isDots := baseName source = "." || baseName source = ".."
  match ← if isDots then pure (.ok none) else backup.putAside target with
  | .error e => settle ("cannot backup " ++ shellQuoted target) (.error e)
  | .ok backup? => s.carryOut source target backup?

/-- Move one source to its destination: whether that worked, and all that was moved by then. -/
def moveOne (s : MoveStyle) (moved : Moved) (source target : String) : Task (Bool × Moved) := do
  let (files, cwd) ← Task.place
  match files.resolveLink cwd source, files.resolveLink cwd target with
  | .error e, _ => return (← settle ("cannot stat " ++ shellQuoted source) (.error e), moved)
  | .ok i, .error .noEntry => return (← s.carryOut source target none, (i, target) :: moved)
  | .ok _, .error e => return (← settle ("cannot stat " ++ shellQuoted target) (.error e), moved)
  | .ok i, .ok j => return (← s.replace moved source target i j, (i, target) :: moved)

/-- Move each source to its destination: whether all of that worked. -/
def moveAll (s : MoveStyle) : Moved → Pairs → Task Bool
  | _, [] => return true
  | moved, (source, target) :: rest => do
    let (done, moved) ← s.moveOne moved source target
    let others ← moveAll s moved rest
    return done && others

end MoveStyle

/-- Move files: `mv [-bfinTuv] [-S suffix] [-t directory] source… target`. -/
def mv (args : List String) : Task Nat :=
  let table : OptionTable :=
    { flags := "bfinuvTZ", valued := "tS"
      names := [("force", "f"), ("interactive", "i"), ("no-clobber", "n"), ("no-target-directory", "T"),
        ("suffix", "S"), ("target-directory", "t"), ("update", "u"), ("verbose", "v"), ("context", "Z")]
      words := ["strip-trailing-slashes"], openWords := ["backup"] }
  withOptions table args fun a => do
    match ReplacementStyle.ofArguments true (← read).environment a with
    | .error complaint => misuse complaint 1
    | .ok replacement =>
      match ← readPairs a baseName with
      | .error status => return status
      | .ok pairs =>
        let style : MoveStyle := { replacement, verbose := a.has "v" }
        return if ← style.moveAll [] pairs then 0 else 1

end CommandSpec.Utility
