import CommandSpec.Utility.Editing.Editor
import CommandSpec.Utility.Editing.Reading

/-!
# `sed`

`sed` edits the lines of its inputs as a script tells, and writes what becomes of them, or edits files
in place.
-/

namespace CommandSpec.Utility

open Editing

/-- The options of `sed`. -/
def sedOptions : OptionTable :=
  { flags := "bnrsuzE", valued := "efl", attached := "i"
    names := [("binary", "b"), ("expression", "e"), ("file", "f"), ("in-place", "i"), ("line-length", "l"),
      ("null-data", "z"), ("zero-terminated", "z"), ("quiet", "n"), ("silent", "n"), ("regexp-extended", "E"),
      ("separate", "s"), ("unbuffered", "u")]
    edition := "(GNU sed) 4.9"
    words := ["debug", "follow-symlinks", "posix", "sandbox"] }

/-- The line that tells how `sed` is called. -/
def sedUsage : Task Nat := do
  Task.remark ("Usage: " ++ (← read).speaker
    ++ " [OPTION]... \x7bscript-only-if-no-other-script\x7d [input-file]...")
  return 1

/-- The parts of a script that options give, each with whether extended expressions were asked for
before it, or the complaint. -/
def scriptChunks : (count : Nat) → (extended : Bool) → List (String × String) →
    Task (Except String (List (Bool × Chunk)))
  | _, _, [] => return .ok []
  | count, extended, (option, value) :: rest => do
    match option with
    | "e" => return (← scriptChunks (count + 1) extended rest).map ((extended, .argument (count + 1) value) :: ·)
    | "f" =>
      match ← readInput value with
      | .ok text =>
        let text := if text.toList.getLast? = some '\n' then .ofList text.toList.dropLast else text
        return (← scriptChunks count extended rest).map ((extended, .file value text) :: ·)
      | .error e => return .error ("couldn't open file " ++ value ++ ": " ++ e.wording)
    | "E" => scriptChunks count true rest
    | "r" => scriptChunks count true rest
    | _ => scriptChunks count extended rest

/-- The script that parts make up, or what is wrong with it. -/
def readScript (sandboxed : Bool) (chunks : List (Bool × Chunk)) : Except (String × ScriptFault) Script := do
  let draft ← chunks.foldlM (fun (d : Editing.Draft) (extended, chunk) => { d with extended }.read chunk) { sandboxed }
  draft.finish

/-- Edit lines: `sed [options] script [file…]`. -/
def sed (args : List String) : Task Nat :=
  withOptionsOr sedOptions sedUsage args fun a => do
    let isExtended := a.hasAny ["E", "r"]
    match ← scriptChunks 0 false a.options with
    | .error complaint =>
      Task.complain complaint
      return 4
    | .ok chunks =>
      let (chunks, operands) ← match chunks, a.operands with
        | [], [] => return (← sedUsage)
        | [], script :: operands => pure ([(isExtended, Chunk.argument 1 script)], operands)
        | chunks, operands => pure (chunks, operands)
      match readScript (a.has "sandbox") chunks with
      | .error (place, fault) =>
        if fault = .regex .confusingBrackets then
          Task.complain fault.message
          return 4
        Task.complain (place ++ fault.message)
        return 1
      | .ok script =>
        if let some label := script.missingLabel? then
          Task.complain ("can't find label for jump to \x60" ++ label ++ "'")
          return 4
        let inPlace := a.value? "i"
        if inPlace.isSome && operands.isEmpty then
          Task.complain "no input files"
          return 4
        let width ← match a.value? "l" with
          | none => pure 70
          | some text =>
            match Text.readNumber? text with
            | some n => pure n
            | none =>
              Task.complain ("invalid line length: " ++ text)
              return (← sedUsage)
        let request : Request :=
          { script := { script with silent := script.silent || a.has "n" }
            nulLines := a.has "z", separate := a.has "s" || inPlace.isSome, inPlace, width
            follows := a.has "follow-symlinks", strict := a.has "posix"
            expressions := (chunks.filter fun c => match c.2 with
              | .argument .. => true
              | _ => false).length }
        let start : Editor := { operands := orStdin operands }
        return (← StateT.run (Edit.editInputs request) start).1

end CommandSpec.Utility
