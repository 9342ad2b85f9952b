import CommandSpec.Utility.Creation

/-!
# `chmod`

A mode of `chmod` may look like an option, as in `chmod -w file`; several such modes are applied one
after another. Without classes a mode leaves the bits of the mask alone. If that keeps a bit which
the mode seems to take away, it is complained about.
-/

namespace CommandSpec.Utility

/-- Whether an argument is a mode that looks like an option. -/
def isModeOption (arg : String) : Bool :=
  match arg.toList with
  | '-' :: cs => (((cs.dropWhile "Rcfv".toList.contains).head?).map "rwxXstugoa,+=01234567".toList.contains).getD
      false
  | _ => false

/-- The paths at and below a path, each directory before what is in it; at most `fuel` levels. Links
are not followed, except that the path itself may be one. -/
def pathsBelow (files : FileSystem) (cwd : Inode) (isOperand : Bool) : (fuel : Nat) → String → List String
  | 0, path => [path]
  | fuel + 1, path =>
    let found := if isOperand then files.resolve cwd path else files.resolveLink cwd path
    match found.toOption.filter fun i => (files.node i).isDirectory with
    | none => [path]
    | some i => path :: (files.list i).flatMap fun name =>
        pathsBelow files cwd false fuel (Path.inside path name)

/-- How `chmod` goes about one file. -/
structure ModeSetting where
  clauses : List ModeClause
  mask : Nat
  /-- Whether bits that stay against expectation are complained about. -/
  warns : Bool
  silent : Bool
  /-- Whether every file is told of, or only those that change. -/
  tellsAll : Bool
  tellsChanges : Bool

/-- Change the mode of one file. -/
def ModeSetting.apply (s : ModeSetting) (isOperand : Bool) (path : String) : Task Bool := do
  let complain (text : String) : Task Bool := do
    if !s.silent then Task.complain text
    if s.tellsAll then Task.printLine (shellQuoted path ++ " could not be accessed")
    return false
  match ← lookLink path, ← look path with
  | .ok link, found =>
    if link.isSymbolic && !isOperand then
      return (← tell s.tellsAll ("neither symbolic link " ++ shellQuoted path
        ++ " nor referent has been changed"))
    match found with
    | .error _ => complain ("cannot operate on dangling symlink " ++ shellQuoted path)
    | .ok n =>
      let mode := ModeClause.applyAll s.mask s.clauses n.isDirectory n.mode
      let octal (m : Nat) : String :=
        .ofList ((Nat.toDigits 8 (m + 0o10000)).drop 1) ++ " (" ++ showMode m ++ ")"
      let _ ← setMode path mode
      let changed := n.mode ≠ mode
      let _ ← tell (s.tellsAll || (s.tellsChanges && changed)) ("mode of " ++ shellQuoted path
        ++ (if changed then " changed from " ++ octal n.mode ++ " to " else " retained as ") ++ octal mode)
      let expected := ModeClause.applyAll 0 s.clauses n.isDirectory n.mode
      if s.warns && withoutBits mode expected ≠ 0 then
        refuse (forShell path ++ ": new permissions are " ++ showMode mode ++ ", not " ++ showMode expected)
      else return true
  | .error e, _ => complain ("cannot access " ++ shellQuoted path ++ ": " ++ e.wording)

/-- Change permissions: `chmod [-Rcfv] mode file…` or `chmod [-Rcfv] --reference=file file…`. -/
def chmod (args : List String) : Task Nat := do
  let before := args.takeWhile (· ≠ "--")
  let dashed := before.filter isModeOption
  let table : OptionTable :=
    { flags := "Rvcf", valuedWords := ["reference"], words := ["preserve-root", "no-preserve-root"]
      names := [("recursive", "R"), ("verbose", "v"), ("changes", "c"), ("silent", "f"), ("quiet", "f")] }
  let plain := before.filter (!isModeOption ·) ++ args.drop before.length
  withOptions table plain fun a => do
    let apply (clauses : List ModeClause) (paths : List String) : Task Nat := do
      let mask := (← Task.call Call.self).mask
      let told := (a.last? ["v", "c"]).map Prod.fst
      let setting : ModeSetting :=
        { clauses, mask, warns := !dashed.isEmpty, silent := a.has "f"
          tellsAll := told = some "v", tellsChanges := told = some "c" }
      let done ← paths.mapM fun path => do
        let (files, cwd) ← Task.place
        let below := if a.has "R" then (pathsBelow files cwd true files.nodes.size path).drop 1 else []
        let first ← setting.apply true path
        let others ← below.mapM (setting.apply false)
        return first && others.all id
      return if done.all id then 0 else 1
    match a.value? "reference" with
    | some reference =>
      if !dashed.isEmpty then
        return (← misuse "cannot combine mode and --reference options" 1)
      if a.operands.isEmpty then return (← misuse "missing operand" 1)
      match ← look reference with
      | .error e =>
        Task.complain ("failed to get attributes of " ++ shellQuoted reference ++ ": " ++ e.wording)
        return 1
      | .ok n =>
        let clause : ModeClause :=
          { change := .assign, classes := allModeBits, bits := n.mode, named := allModeBits }
        apply [clause] a.operands
    | none =>
      let (mode, paths) := if dashed.isEmpty then (a.operands.headD "", a.operands.drop 1)
        else (",".intercalate dashed, a.operands)
      if paths.isEmpty then
        if a.operands.isEmpty then misuse "missing operand" 1
        else misuse ("missing operand after " ++ inQuotes mode) 1
      else
        match ModeClause.read? mode with
        | none => misuse ("invalid mode: " ++ inQuotes mode) 1
        | some clauses => apply clauses paths

end CommandSpec.Utility
