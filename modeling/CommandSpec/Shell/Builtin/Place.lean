import CommandSpec.Shell.Builtin.Control
import CommandSpec.Shell.Builtin.Flags
import CommandSpec.Text.Integer

/-!
# Commands about where and how a shell works

`cd` and `pwd` know the current directory by the path that led there, which may go over symbolic
links; `umask` shows or sets the permissions that new files do not get.
-/

namespace CommandSpec.Shell.Builtin

open Eval

/-- The path that another one names when it is taken from a directory: `.` and `..` are worked out on
the text alone. -/
def joinedPath (directory path : String) : String :=
  let isAbsolute := path.toList.head? = some '/'
  let twoSlashes := ['/', '/'].isPrefixOf path.toList && !List.isPrefixOf ['/', '/', '/'] path.toList
  let start := if isAbsolute then [] else (FileSystem.piecesOf directory).filter (· ≠ "")
  let pieces := (FileSystem.piecesOf path).foldl (fun before piece =>
    if piece = "" || piece = "." then before
    else if piece = ".." then before.dropLast
    else before ++ [piece]) start
  (if isAbsolute && twoSlashes then "//" else "/") ++ "/".intercalate pieces

/-- Make what a path names the current directory: whether that worked. -/
def enterDirectory (physical : Bool) (path : String) : Eval Bool := do
  let s ← get
  let target := if physical || s.directory = "" then path else joinedPath s.directory path
  let enter : Call (Option String) := do
    let k ← get
    match k.files.resolve k.self.directory target with
    | .ok i =>
      if (k.files.node i).isDirectory then
        Call.modifySelf fun p => { p with directory := i }
        return some ((k.files.absolutePath i).toOption.getD "")
      else return none
    | .error _ => return none
  match ← call enter with
  | none => return false
  | some place =>
    let reached := if physical || s.directory = "" then place else target
    let exported (name value : String) : Eval Unit := do
      assign name value
      markVariable name fun v => { v with exported := true }
    exported "OLDPWD" s.directory
    modify fun s => { s with directory := reached }
    exported "PWD" reached
    return true

/-- Whether a path starts with `.` or `..` as a name of its own, or with a slash, so that it is not
looked for elsewhere. -/
def isAnchored (path : String) : Bool :=
  path.toList.head? = some '/' || ["", ".", ".."].contains ((FileSystem.piecesOf path).headD "")

/-- The options of `cd` and `pwd`: whether links are followed, and the operands. -/
def placeOptions (args : List String) : Eval (Bool × List String) := do
  let (flags, operands) ← flagsOf "LP" args
  return (flags.getLast? = some 'P', operands)

/-- Try directories of a search path one after another: whether one of them was entered. -/
def searchDirectory (physical : Bool) (path : String) : List String → Eval Bool
  | [] => return false
  | start :: rest => do
    let candidate := if start = "" then path else start ++ "/" ++ path
    if (← task (Task.node? candidate)).any Node.isDirectory then
      if ← enterDirectory physical candidate then
        if start ≠ "" then task (Task.printLine (← get).directory)
        return true
      return false
    searchDirectory physical path rest

/-- Make another directory current: `cd [-LP] [directory]`. -/
def cd (args : List String) : Eval Nat := do
  let (physical, operands) ← placeOptions args
  let target ← match operands with
    | [] => do pure ((← valueOf? "HOME").getD "")
    | "-" :: _ => do pure ((← valueOf? "OLDPWD").getD "")
    | path :: _ => pure path
  let search := (← valueOf? "CDPATH").getD ""
  let path := if target = "" then "." else target
  if !isAnchored path && search ≠ "" then
    if ← searchDirectory physical path (search.splitOn ":") then return 0
  if ← enterDirectory physical path then
    if operands.head? = some "-" then task (Task.printLine (← get).directory)
    return 0
  abort ("can't cd to " ++ target)

/-- Write the path of the current directory: `pwd [-LP]`. -/
def pwd (args : List String) : Eval Nat := do
  let (physical, _) ← placeOptions args
  let (files, here) ← task Task.place
  let logical := (← get).directory
  task (Task.printLine (if physical then (files.absolutePath here).toOption.getD logical else logical))
  return 0

/-- The permissions that a mask leaves, in symbols. -/
def symbolicMask (mask : Nat) : String :=
  let part (who : String) (shift : Nat) : String :=
    let taken := mask / shift % 8
    who ++ "=" ++ (if taken / 4 % 2 = 0 then "r" else "") ++ (if taken / 2 % 2 = 0 then "w" else "")
      ++ (if taken % 2 = 0 then "x" else "")
  ",".intercalate [part "u" 64, part "g" 8, part "o" 1]

/-- The bits that a letter of a symbolic mask names, once for everyone. -/
def permissionOf (before : Nat) : Char → Nat
  | 'r' => 4
  | 'w' => 2
  | 'x' => 1
  | 'u' => before / 64
  | 'g' => before / 8
  | 'o' => before
  | 'X' => if before &&& 73 ≠ 0 then 1 else 0
  | _ => 0

/-- The digits of the classes that letters name, one bit for each; everyone when there are none. -/
def classesOf (letters : List Char) : Nat :=
  let named := letters.foldl (fun n c =>
    n ||| (if c = 'a' then 73 else if c = 'u' then 64 else if c = 'g' then 8 else 1)) 0
  if named = 0 then 73 else named

/-- The permissions after the steps of a symbolic mask: classes, a sign and what is given, taken or
set. After a comma there are new classes, else a step is for those of the one before. -/
def symbolicSteps (before : Nat) : (fuel : Nat) → (classes : List Char) → (now : Nat) → List Char →
    Option Nat
  | 0, _, _, _ => none
  | _, _, now, [] => some now
  | fuel + 1, classes, now, cs =>
    let named := cs.takeWhile "augo".toList.contains
    let classes := classes ++ named
    match cs.drop named.length with
    | [] => some now
    | sign :: cs =>
      let given := cs.takeWhile "rwxugoXs".toList.contains
      let bits := (given.foldl (fun n c => n ||| permissionOf before c) 0 % 8) * classesOf classes
      let cleared (bits : Nat) : Nat := now &&& (511 - bits)
      let step? := match sign with
        | '-' => some (cleared bits)
        | '=' => some (cleared (classesOf classes * 7) ||| bits)
        | '+' => some (now ||| bits)
        | _ => none
      step?.bind fun now =>
        match cs.drop given.length with
        | ',' :: cs => symbolicSteps before fuel [] now cs
        | cs => symbolicSteps before fuel classes now cs

/-- Show or set the mask for new files: `umask [-S] [mask]`. -/
def umask (args : List String) : Eval Nat := do
  let mask := (← call Call.self).mask
  let setMask (n : Nat) : Eval Nat := do
    call do
      Call.modifySelf fun p => { p with mask := n % 512 }
      modify fun k => { k with files := { k.files with mask := n % 512 } }
    return 0
  match ← flagsOf "S" args with
  | (flags, []) =>
    let digit (n : Nat) : String := toString (n % 8)
    task (Task.printLine (if !flags.isEmpty then symbolicMask mask
      else "0" ++ digit (mask / 64) ++ digit (mask / 8) ++ digit mask))
    return 0
  | (_, text :: _) =>
    match Text.readNumberIn? 8 text.toList with
    | some n => setMask n
    | none =>
      if text.toList.head?.any Char.isDigit then abort ("Illegal number: " ++ text)
      let before := 511 - mask
      match symbolicSteps before (text.length + 1) [] before text.toList with
      | some now => setMask (511 - now)
      | none => abort ("Illegal mode: " ++ text)

end CommandSpec.Shell.Builtin
