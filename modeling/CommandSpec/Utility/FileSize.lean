import CommandSpec.Utility.Amount
import CommandSpec.Utility.Outcome

/-!
# `truncate`

`truncate` sets the sizes of files. A file that becomes longer gets zeros at its end. A size can be told in
relation to the size that a file has.
-/

namespace CommandSpec.Utility

/-- How a size is told. -/
inductive SizeRule where
  | exact
  | more
  | less
  | atMost
  | atLeast
  | roundedDown
  | roundedUp
  deriving DecidableEq, Repr, Inhabited

/-- The new size of a file that has a size, by a rule with an amount. -/
def SizeRule.apply (r : SizeRule) (n size : Nat) : Nat :=
  match r with
  | exact => n
  | more => size + n
  | less => size - n
  | atMost => min size n
  | atLeast => max size n
  | roundedDown => size / n * n
  | roundedUp => (size + n - 1) / n * n

/-- Read a size, or say what is wrong with it. -/
def readSize (text : String) : Except String (SizeRule × Nat) := do
  let cs := text.toList.dropWhile Char.isWhitespace
  let (rule, rest) := match cs with
    | '<' :: rest => (SizeRule.atMost, rest)
    | '>' :: rest => (.atLeast, rest)
    | '/' :: rest => (.roundedDown, rest)
    | '%' :: rest => (.roundedUp, rest)
    | rest => (.exact, rest)
  let rest := if rule = .exact then rest else rest.dropWhile Char.isWhitespace
  let (rule, digits) ← match rule, rest with
    | .exact, '+' :: rest => pure (.more, rest)
    | .exact, '-' :: rest => pure (.less, rest)
    | .exact, _ => pure (.exact, rest)
    | _, '+' :: _ => throw "multiple relative modifiers specified"
    | _, '-' :: _ => throw "multiple relative modifiers specified"
    | rule, _ => pure (rule, rest)
  let shown := if rule = .more || rule = .less then rest else digits
  if (digits.headD ' ').isDigit then
    match readAmount "KMGTPEZYRQkmgt" (.ofList digits) with
    | .ok n =>
      if n = 0 && (rule = .roundedDown || rule = .roundedUp) then throw "division by zero"
      if n < 2 ^ 63 then return (rule, n)
      throw ("Invalid number: " ++ inQuotes (.ofList shown) ++ AmountFault.tooLarge.wording)
    | .error e => throw ("Invalid number: " ++ inQuotes (.ofList shown) ++ e.wording)
  throw ("Invalid number: " ++ inQuotes (.ofList shown))

/-- Set the size of a file. -/
def setSize (makes : Bool) (newSize : Nat → Nat) (path : String) : Task Bool := do
  let (files, cwd) ← Task.place
  let isMissing : Bool := match files.resolve cwd path with
    | .error .noEntry => true
    | _ => false
  if isMissing && !makes then return true
  match ← Task.openPath path .append with
  | .error e => refuse ("cannot open " ++ shellQuoted path ++ " for writing: " ++ e.wording)
  | .ok fd =>
    Task.close fd
    let done ← Task.change fun files cwd => do
      let i ← files.resolve cwd path
      match (files.node i).content with
      | .file bytes =>
        let size := newSize bytes.size
        if size > 2 ^ 40 then throw .tooLarge
        let kept := bytes.extract 0 size
        return files.store i (.file (kept ++ ⟨Array.replicate (size - kept.size) 0⟩))
      | _ => throw .invalid
    settle ("failed to truncate " ++ shellQuoted path ++ " at " ++ toString (newSize 0) ++ " bytes") done

/-- Set sizes of files: `truncate [-c] [-o] [-r file] [-s size] file…`. -/
def truncate (args : List String) : Task Nat :=
  let table : OptionTable :=
    { flags := "co", valued := "rs"
      names := [("no-create", "c"), ("io-blocks", "o"), ("reference", "r"), ("size", "s")] }
  withOptions table args fun a => do
    match (a.value? "s").mapM readSize with
    | .error complaint =>
      if complaint = "multiple relative modifiers specified" then misuse complaint 1 else failWith 1 complaint
    | .ok size? =>
      let isRelative := size?.any (·.1 ≠ .exact)
      if size?.isNone && !a.has "r" then
        return (← misuse ("you must specify either " ++ inQuotes "--size" ++ " or " ++ inQuotes "--reference") 1)
      if size?.isSome && a.has "r" && !isRelative then
        return (← misuse ("you must specify a relative " ++ inQuotes "--size" ++ " with "
          ++ inQuotes "--reference") 1)
      if a.has "o" && size?.isNone then
        return (← misuse (inQuotes "--io-blocks" ++ " was specified but " ++ inQuotes "--size" ++ " was not") 1)
      if a.operands.isEmpty then return (← misuse "missing file operand" 1)
      let reference ← match a.value? "r" with
        | none => pure (Except.ok none)
        | some path => do pure ((← look path).map fun n => some n.bytes.size)
      match reference with
      | .error e => failWith 1 ("cannot stat " ++ shellQuoted ((a.value? "r").getD "") ++ ": " ++ e.wording)
      | .ok base =>
        let factor := if a.has "o" then 4096 else 1
        let newSize (size : Nat) : Nat :=
          let size := base.getD size
          size?.elim size fun (rule, n) => rule.apply (n * factor) size
        forOperands a.operands (setSize (!a.has "c") newSize)

end CommandSpec.Utility
