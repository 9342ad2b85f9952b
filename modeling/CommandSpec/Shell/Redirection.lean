import CommandSpec.Shell.State

/-!
# Redirections

A redirection changes the table of descriptors that a command is run with. A file that is opened for
it stays open in the kernel as long as some table holds it.
-/

namespace CommandSpec.Shell

open Eval

/-- The wording of an error on opening a file, as the shell has it. -/
def openWording (creating : Bool) (e : OsError) : String :=
  if e = .noEntry || e = .notDirectory then
    if creating then "Directory nonexistent" else "No such file"
  else e.wording

/-- Open a file for a redirection: the number of the open file. -/
def openFor (path : String) (mode : OpenMode) : Eval (Except String Nat) := do
  match ← task (Task.openPath path mode) with
  | .ok fd =>
    let id := ((← descriptors).lookup fd).getD 0
    task (Task.close fd)
    return .ok id
  | .error e =>
    let creating := mode ≠ .read
    let verb := if creating then "create " else "open "
    return .error ("cannot " ++ verb ++ path ++ ": " ++ openWording creating e)

/-- Refuse what can never be the target of a redirection, as if it were found when the script was
read. -/
def checkTarget (operator target : String) : Eval Unit := do
  let isDescriptor := match target.toList with
    | [c] => c = '-' || c.isDigit
    | _ => false
  if (operator = "<&" || operator = ">&") && !isDescriptor then
    modify fun s => { s with line := s.readTo }
    abort "Syntax error: Bad fd number"

/-- A descriptor table with a redirection applied. -/
def applyRedirect (table : List (Nat × Nat)) (fd : Nat) (operator target : String) :
    Eval (Except String (List (Nat × Nat))) := do
  let opened (mode : OpenMode) : Eval (Except String (List (Nat × Nat))) := do
    let self ← call Call.self
    if !self.hasRoom table then
      let verb := if mode = .read then "open " else "create "
      return .error ("cannot " ++ verb ++ target ++ ": " ++ OsError.tooManyFiles.wording)
    if fd ≥ self.descriptorLimit then
      return .error (toString fd ++ ": " ++ OsError.badDescriptor.wording)
    return (← openFor target mode).map (Call.redirectTo table fd)
  match operator with
  | "<" => opened .read
  | "<>" => opened .readWrite
  | ">>" => opened .append
  | ">" => do
    if (← get).settings.keepFiles && (← task (Task.node? target)).any Node.isFile then
      return .error ("cannot create " ++ target ++ ": " ++ OsError.alreadyExists.wording)
    opened .write
  | ">|" => opened .write
  | _ =>
    if target = "-" then return .ok (table.filter (·.1 != fd))
    match (Text.readNumber? target).bind fun n => table.lookup n with
    | some id => return .ok (Call.redirectTo table fd id)
    | none => return .error (target ++ ": Bad file descriptor")

/-- An open file that yields a text and ends: the number of the open file. -/
def supply (text : String) : Eval Nat :=
  call do
    let pipe ← Call.newPipe { bytes := Octets.pack text }
    Call.openNew { stream := .pipe pipe, readable := true }

/-- A new pipe: the open files of its end to read from and of its end to write to. -/
def newPipe : Eval (Nat × Nat) :=
  call do
    let pipe ← Call.newPipe {}
    let reader ← Call.openNew { stream := .pipe pipe, readable := true }
    let writer ← Call.openNew { stream := .pipe pipe, writable := true }
    return (reader, writer)

/-- A descriptor table with more open files in it, at places that no command uses. -/
def holding (table : List (Nat × Nat)) (ids : List Nat) : List (Nat × Nat) :=
  let free := (table.foldl (fun n d => max n d.1) 99) + 1
  (List.range' free ids.length).zip ids ++ table

end CommandSpec.Shell
