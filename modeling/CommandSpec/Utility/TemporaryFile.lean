import CommandSpec.Utility.Names
import CommandSpec.Utility.Outcome

/-!
# `mktemp`

`mktemp` makes a file or a directory with a new name. The name follows a template, in which a row of `X` is
filled with letters and digits that cannot be foretold.
-/

namespace CommandSpec.Utility

/-- A template cut into what is before the row of `X`, how long that is, and what is after it. -/
structure NameTemplate where
  before : String
  count : Nat
  after : String
  deriving DecidableEq, Repr, Inhabited

/-- The template that a text is, if a suffix is told or not. -/
def NameTemplate.read (text : String) (suffix? : Option String) : Except String NameTemplate := do
  let reversed := text.toList.reverse
  let tail ← match suffix? with
    | some suffix =>
      if reversed.head? ≠ some 'X' then
        throw ("with --suffix, template " ++ inQuotes text ++ " must end in X")
      pure suffix.toList
    | none => pure (reversed.takeWhile (· ≠ 'X')).reverse
  let rest := if suffix?.isSome then reversed else reversed.drop tail.length
  if tail.contains '/' then
    throw ("invalid suffix " ++ inQuotes (.ofList tail) ++ ", contains directory separator")
  let row := rest.takeWhile (· = 'X')
  if row.length < 3 then
    throw ("too few X's in template " ++ inQuotes text)
  return { before := .ofList (rest.drop row.length).reverse, count := row.length, after := .ofList tail }

/-- The characters that names are filled with. -/
def nameCharacters : List Char :=
  (List.range 26).map (fun k => Char.ofNat ('A'.toNat + k)) ++ (List.range 26).map (fun k => Char.ofNat ('a'.toNat + k))
    ++ "0123456789".toList

/-- Some bytes that cannot be foretold. -/
def someBytes (n : Nat) : Task (List UInt8) :=
  Task.call do
    modifyGet fun k =>
      let (bytes, seed) := Call.unforeseen n k.seed
      (bytes.toList, { k with seed })

/-- A name that follows a template. -/
def NameTemplate.fill (t : NameTemplate) : Task String := do
  let letters := (← someBytes t.count).map fun b => (nameCharacters[b.toNat % 62]?).getD 'x'
  return t.before ++ .ofList letters ++ t.after

/-- Make a file or a directory under a path. -/
def makeTemporary (isDirectory : Bool) (path : String) : Task (Except OsError Unit) :=
  Task.change fun files cwd => do
    if isDirectory then files.makeDirectory cwd path 0o700
    else return (← files.create cwd path 0o600 fun _ => .file .empty).2

/-- Make a file or a directory with a new name; at most `fuel` names are tried. -/
def makeFresh (isDirectory dry : Bool) (t : NameTemplate) : (fuel : Nat) → Task (Except OsError String)
  | 0 => return .error .alreadyExists
  | fuel + 1 => do
    let path ← t.fill
    if (← Task.link? path).isSome then makeFresh isDirectory dry t fuel
    else if dry then
      let (files, cwd) ← Task.place
      return (files.resolveParent cwd path).map fun _ => path
    else return (← makeTemporary isDirectory path).map fun _ => path

/-- Make a file or a directory with a new name: `mktemp [-dqtu] [-p directory] [--suffix text] [template]`. -/
def mktemp (args : List String) : Task Nat :=
  let table : OptionTable :=
    { flags := "dqtuV", valued := "p", valuedWords := ["suffix"], openWords := ["tmpdir"]
      names := [("directory", "d"), ("quiet", "q"), ("dry-run", "u")] }
  withOptions table args fun a => do
    if let _ :: _ :: _ := a.operands then return (← misuse "too many templates" 1)
    let c ← read
    let text := a.operands.headD "tmp.XXXXXXXXXX"
    let given := (a.last? ["p", "tmpdir"]).map Prod.snd
    let isPlaced := a.operands.isEmpty || given.isSome || a.has "t"
    let standard := (c.setting? "TMPDIR").getD "/tmp"
    let place := if a.has "t" && (c.setting? "TMPDIR").isSome then standard
      else (given.filter (· ≠ "")).getD standard
    match NameTemplate.read text (a.value? "suffix") with
    | .error complaint => failWith 1 complaint
    | .ok t =>
      if isPlaced && a.has "t" && text.toList.contains '/' then
        return (← failWith 1 ("invalid template, " ++ inQuotes text ++ ", contains directory separator"))
      if isPlaced && text.toList.head? = some '/' then
        return (← failWith 1 ("invalid template, " ++ inQuotes text ++ "; with --tmpdir, it may not be absolute"))
      let between := if place.toList.getLast? = some '/' then "" else "/"
      let t := if isPlaced then { t with before := place ++ between ++ t.before } else t
      match ← makeFresh (a.has "d") (a.has "u") t 100 with
      | .ok path =>
        Task.printLine path
        return 0
      | .error e =>
        if !a.has "q" then
          let shown := t.before ++ .ofList (List.replicate t.count 'X') ++ t.after
          Task.complain ("failed to create " ++ (if a.has "d" then "directory" else "file") ++ " via template "
            ++ inQuotes shown ++ ": " ++ e.wording)
        return 1

end CommandSpec.Utility
