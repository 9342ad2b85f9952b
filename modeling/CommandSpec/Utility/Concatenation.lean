import CommandSpec.Utility.Inputs
import CommandSpec.Utility.Outcome

/-!
# `cat` and `tee`

`cat` writes its inputs one after another, on request with line numbers and with the bytes made
visible that cannot be shown. `tee` writes standard input to standard output and to files.
-/

namespace CommandSpec.Utility

/-- How `cat` shows lines. -/
structure LineView where
  /-- Whether lines are numbered, perhaps without the empty ones. -/
  numbered : Bool := false
  numberBlank : Bool := true
  /-- Whether a run of empty lines is shown as one. -/
  squeezed : Bool := false
  /-- Whether the end of a line is shown as `$`. -/
  ends : Bool := false
  /-- Whether a tab is shown as `^I`. -/
  tabs : Bool := false
  /-- Whether other bytes that cannot be shown are made visible. -/
  visible : Bool := false
  deriving DecidableEq, Repr, Inhabited

namespace LineView

/-- The view that options ask for. -/
def ofArguments (a : Arguments) : LineView where
  numbered := a.has "n" || a.has "b"
  numberBlank := !a.has "b"
  squeezed := a.has "s"
  ends := a.has "E" || a.has "e" || a.has "A"
  tabs := a.has "T" || a.has "t" || a.has "A"
  visible := a.has "v" || a.has "e" || a.has "t" || a.has "A"

/-- A byte below 128 in `^` notation if it cannot be shown. -/
def caret (c : Char) : List Char :=
  if c < ' ' then ['^', Char.ofNat (c.toNat + 64)]
  else if c = '\x7f' then ['^', '?']
  else [c]

/-- A byte of a line as it is shown. -/
def showByte (v : LineView) (c : Char) : List Char :=
  if c = '\t' then if v.tabs then ['^', 'I'] else [c]
  else if !v.visible then [c]
  else if c.toNat < 128 then caret c
  else 'M' :: '-' :: caret (Char.ofNat (c.toNat - 128))

/-- Where the view stands between two pieces of text. -/
structure Place where
  /-- The number of the next line. -/
  number : Nat := 1
  /-- Whether the line before was empty. -/
  afterBlank : Bool := false
  /-- Whether a line is begun. -/
  inLine : Bool := false
  /-- A return that is not shown yet, because it is shown in another way at the end of a line. -/
  pending : List Char := []
  deriving Inhabited

/-- The text of a line without its end, as it is shown. -/
def showBody (v : LineView) (isClosed : Bool) (body : List Char) : List Char :=
  if v.ends && isClosed && body.getLast? = some '\r' then
    body.dropLast.flatMap v.showByte ++ ['^', 'M']
  else body.flatMap v.showByte

/-- One line, or a part of one, as it is shown. -/
def showPiece (v : LineView) (p : Place) (piece : List Char) : List Char × Place :=
  let isClosed := piece.getLast? = some '\n'
  let isBlank := piece = ['\n'] && !p.inLine
  if v.squeezed && p.afterBlank && isBlank then ([], p)
  else
    let counted := v.numbered && (v.numberBlank || !isBlank) && !p.inLine
    let digits := (toString p.number).toList
    let lead := if counted then List.replicate (6 - digits.length) ' ' ++ digits ++ ['\t'] else []
    let body := p.pending ++ if isClosed then piece.dropLast else piece
    let waits := v.ends && !v.visible && !isClosed && body.getLast? = some '\r'
    let close := if !isClosed then [] else if v.ends then ['$', '\n'] else ['\n']
    (lead ++ v.showBody isClosed (if waits then body.dropLast else body) ++ close,
      { number := if counted then p.number + 1 else p.number, afterBlank := isBlank, inLine := !isClosed
        pending := if waits then ['\r'] else [] })

/-- Lines as they are shown, one after another. -/
def showPieces (v : LineView) : Place → List (List Char) → List (List Char) × Place
  | p, [] => ([], p)
  | p, piece :: rest =>
    let (shown, p) := v.showPiece p piece
    let (others, p) := showPieces v p rest
    (shown :: others, p)

end LineView

/-- Whether a descriptor reads a file that standard output writes further on, so that copying would
never end. -/
def feedsItself (fd : Nat) : Task Bool := do
  let (files, _) ← Task.place
  match ← Task.call (Call.file? fd), ← Task.call (Call.file? 1) with
  | some (_, { stream := .file i position _, .. }), some (_, { stream := .file j written append, .. }) =>
    return i = j && position < (if append then (files.node j).bytes.size else written)
  | _, _ => return false

/-- Copy a descriptor to standard output as a view shows it: whether it could be read. -/
def catOpened (v : LineView) (operand : String) (fd : Nat) (p : LineView.Place) :
    Task (LineView.Place × Bool) := do
  if ← feedsItself fd then
    Task.complain (forShell operand ++ ": input file is output file")
    return (p, false)
  let complain (e : OsError) : Task Unit := Task.complain (plainComplaint operand e)
  if v = {} then
    match ← Task.eachChunk fd 131072 (fun chunk => do Task.print chunk; return true) Task.patience with
    | .ok () => return (p, true)
    | .error e =>
      complain e
      return (p, false)
  else
    let act (p : LineView.Place) (pieces : List (List Char)) : Task LineView.Place := do
      let (shown, p) := v.showPieces p pieces
      Task.print (.ofList shown.flatten)
      return p
    let (p, fault) ← eachRecord fd '\n' act Task.patience [] p
    if let some e := fault then complain e
    return (p, fault.isNone)

/-- Write inputs one after another as a view shows them. -/
def catInputs (v : LineView) : List String → LineView.Place → Task Nat
  | [], p => do
    Task.print (.ofList p.pending)
    return 0
  | operand :: rest, p => do
    let (p, ok) ←
      if operand = "-" then
        let open? ← Task.call (Call.file? 0)
        let found ← catOpened v operand 0 p
        if open?.isNone then
          Task.complain ("closing standard input: " ++ OsError.badDescriptor.wording)
        pure found
      else
        match ← Task.openPath operand .read with
        | .ok fd =>
          let found ← catOpened v operand fd p
          Task.close fd
          pure found
        | .error e =>
          Task.complain (plainComplaint operand e)
          pure (p, false)
    if ← Task.isRefused then return 1
    let status ← catInputs v rest p
    return if ok then status else 1

/-- Write inputs one after another: `cat [-AbeEnstTuv] [file…]`. -/
def cat (args : List String) : Task Nat :=
  let table : OptionTable :=
    { flags := "AbeEnstTuv"
      names := [("show-all", "A"), ("number-nonblank", "b"), ("show-ends", "E"), ("number", "n"),
        ("squeeze-blank", "s"), ("show-tabs", "T"), ("show-nonprinting", "v")] }
  withOptions table args fun a => catInputs (LineView.ofArguments a) (orStdin a.operands) {}

/-- Open files to write to them, each with its path, and tell whether all could be opened. -/
def openTargets (append : Bool) : List String → Task (List (String × Nat) × Bool)
  | [] => return ([], true)
  | path :: rest => do
    match ← Task.openPath path (if append then .append else .write) with
    | .ok fd =>
      let (others, ok) ← openTargets append rest
      return ((path, fd) :: others, ok)
    | .error e =>
      Task.complain (forShell path ++ ": " ++ e.wording)
      let (others, _) ← openTargets append rest
      return (others, false)

/-- Write a text to every file: those that took it. -/
def teeTo (text : String) : List (String × Nat) → Task (List (String × Nat))
  | [] => return []
  | (path, fd) :: rest => do
    match ← Task.write fd text with
    | .ok () => return (path, fd) :: (← teeTo text rest)
    | .error e =>
      Task.complain (forShell path ++ ": " ++ e.wording)
      teeTo text rest

/-- Copy standard input to standard output and to files, as long as one of them takes it; at most
`fuel` pieces. Whether all of them took all of it. -/
def teeInput (stops : Bool) : (fuel : Nat) → (targets : List (String × Nat)) → Task Bool
  | 0, _ => return true
  | fuel + 1, targets => do
    match ← Task.readChunk 0 65536 with
    | .error e => refuse ("read error: " ++ e.wording)
    | .ok "" => return true
    | .ok text =>
      let left ← teeTo text targets
      let lost := left.length < targets.length
      if lost && stops then return false
      if left.isEmpty then return false
      let ok ← teeInput stops fuel left
      return ok && !lost

/-- Write standard input to standard output and to files:
`tee [-aip] [--output-error[=manner]] [file…]`. -/
def tee (args : List String) : Task Nat :=
  let table : OptionTable :=
    { flags := "aip", names := [("append", "a"), ("ignore-interrupts", "i")]
      openWords := ["output-error"] }
  withOptions table args fun a => do
    let manner := ((a.value? "output-error").filter (· ≠ "")).map fun word =>
      readChoice "--output-error" word
        [(["warn"], false), (["warn-nopipe"], false), (["exit"], true), (["exit-nopipe"], true)]
    match manner with
    | some (.error complaint) => misuse complaint 1
    | _ => do
      let stops := manner.any fun m => m.toOption = some true
      let (targets, opened) ← openTargets (a.has "a") a.operands
      let standard := ("standard output", 1)
      let copied ← teeInput stops Task.patience (standard :: targets)
      return if opened && copied then 0 else 1

end CommandSpec.Utility
