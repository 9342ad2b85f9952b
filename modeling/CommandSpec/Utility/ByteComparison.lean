import CommandSpec.Utility.Amount
import CommandSpec.Utility.Concatenation

/-!
# `cmp`

`cmp` compares two inputs byte by byte. It tells of the first difference, or of all.
-/

namespace CommandSpec.Utility

/-- What `cmp` tells of differences. -/
inductive DifferenceReport where
  | first
  | all
  | nothing
  deriving DecidableEq, Repr, Inhabited

/-- How bytes are compared. -/
structure ByteComparison where
  report : DifferenceReport := .first
  /-- Whether the bytes themselves are shown. -/
  shown : Bool := false
  /-- How many bytes are left out at the starts of the inputs. -/
  skips : Nat × Nat := (0, 0)
  /-- How many bytes are compared at most. -/
  limit : Option Nat := none
  names : String × String
  /-- The width of places. -/
  width : Nat := 1
  deriving Inhabited

namespace ByteComparison

/-- An input with what was read of it and not compared. -/
structure Side where
  fd : Nat
  ready : List Char := []
  /-- How many bytes are to be left out before. -/
  skipped : Nat := 0
  ended : Bool := false
  deriving Inhabited

/-- Read more of an input if nothing is ready; at most `fuel` times. -/
def Side.fill : (fuel : Nat) → Side → Task (Except OsError Side)
  | 0, s => return .ok s
  | fuel + 1, s => do
    if s.ended || !s.ready.isEmpty then return .ok s
    match ← Task.readChunk s.fd 4096 with
    | .error e => return .error e
    | .ok "" => return .ok { s with ended := true }
    | .ok chunk =>
      let ready := chunk.toList.drop s.skipped
      fill fuel { s with ready, skipped := s.skipped - chunk.length }

/-- Where a comparison stands. -/
structure State where
  /-- How many bytes were compared. -/
  place : Nat := 0
  /-- How many lines have ended. -/
  lines : Nat := 0
  /-- The byte before. -/
  last : Option Char := none
  differs : Bool := false
  deriving Inhabited

/-- A byte in octal digits, in a column of three. -/
def octal (c : Char) : String :=
  let digits := Nat.toDigits 8 c.toNat
  .ofList (List.replicate (3 - digits.length) ' ' ++ digits)

/-- A byte made visible. -/
def visible (c : Char) : List Char :=
  if ' ' ≤ c && c ≤ '~' then [c]
  else if c.toNat < 128 then LineView.caret c
  else 'M' :: '-' :: LineView.caret (Char.ofNat (c.toNat - 128))

/-- What is told of two bytes that differ. -/
def tell (c : ByteComparison) (s : State) (a b : Char) : String :=
  let place := toString (s.place + 1)
  match c.report with
  | .nothing => ""
  | .first =>
    c.names.1 ++ " " ++ c.names.2 ++ " differ: " ++ (if c.shown then "byte " else "char ") ++ place
      ++ ", line " ++ toString (s.lines + 1)
      ++ (if c.shown then " is " ++ octal a ++ " " ++ .ofList (visible a) ++ " " ++ octal b ++ " "
            ++ .ofList (visible b)
          else "") ++ "\n"
  | .all =>
    let pad (n : Nat) (text : String) : String := .ofList (List.replicate (n - text.length) ' ')
    let first := String.ofList (visible a)
    pad c.width place ++ place ++ " " ++ octal a
      ++ (if c.shown then " " ++ first ++ pad 4 first else "") ++ " " ++ octal b
      ++ (if c.shown then " " ++ .ofList (visible b) else "") ++ "\n"

/-- Compare what is ready of both inputs, as far as both go: what is told, the state after it, and what
is left of each. -/
def compareReady (c : ByteComparison) : State → List Char → List Char → List String →
    State × List Char × List Char × List String
  | s, a :: as, b :: bs, told =>
    if c.limit.any (· ≤ s.place) then (s, a :: as, b :: bs, told)
    else
      let next := { s with place := s.place + 1, lines := if a = '\n' then s.lines + 1 else s.lines, last := some a }
      if a = b then compareReady c next as bs told
      else
        let told := c.tell s a b :: told
        if c.report = .all then compareReady c { next with differs := true } as bs told
        else ({ s with differs := true }, [], [], told)
  | s, as, bs, told => (s, as, bs, told)

/-- The complaint that an input has ended before the other one. -/
def endComplaint (c : ByteComparison) (name : String) (s : State) : String :=
  let start := "EOF on " ++ name
  if s.place = 0 then start ++ " which is empty"
  else
    start ++ " after byte " ++ toString s.place ++
      (if c.report = .all then ""
       else if s.last = some '\n' then ", line " ++ toString s.lines
       else ", in line " ++ toString (s.lines + 1))

/-- Compare two inputs, at most `fuel` chunks of them: 0 if they are the same, 1 if not, 2 if one cannot
be read. -/
def compareSides (c : ByteComparison) : (fuel : Nat) → State → Side → Side → Task Nat
  | 0, _, _, _ => return 2
  | fuel + 1, s, a, b => do
    if c.limit.any (· ≤ s.place) then return if s.differs then 1 else 0
    match ← a.fill Task.patience with
    | .error e =>
      Task.complain (c.names.1 ++ ": " ++ e.wording)
      return 2
    | .ok a =>
      match ← b.fill Task.patience with
      | .error e =>
        Task.complain (c.names.2 ++ ": " ++ e.wording)
        return 2
      | .ok b =>
        if a.ready.isEmpty && b.ready.isEmpty then return if s.differs then 1 else 0
        if a.ready.isEmpty || b.ready.isEmpty then
          if c.report ≠ .nothing then
            Task.complain (c.endComplaint (if a.ready.isEmpty then c.names.1 else c.names.2) s)
          return 1
        let (s, restA, restB, told) := c.compareReady s a.ready b.ready []
        Task.print (String.join told.reverse)
        if s.differs && c.report ≠ .all then return 1
        compareSides c fuel s { a with ready := restA } { b with ready := restB }

/-- The numbers of bytes to be left out that a text gives, one for both inputs or one for each. -/
def readSkips? (text : String) : Option (Nat × Nat) :=
  match text.splitOn ":" with
  | [both] => ((readAmount "kKMGTPEZY" both).toOption).map fun n => (n, n)
  | [first, second] => do
    return (← (readAmount "kKMGTPEZY" first).toOption, ← (readAmount "kKMGTPEZY" second).toOption)
  | _ => none

end ByteComparison

/-- Compare two inputs: `cmp [-bls] [-i skip[:skip]] [-n limit] file [file [skip [skip]]]`. -/
def cmp (args : List String) : Task Nat :=
  let table : OptionTable :=
    { flags := "bls", valued := "in"
      names := [("print-bytes", "b"), ("ignore-initial", "i"), ("verbose", "l"), ("bytes", "n"), ("quiet", "s"),
        ("silent", "s")]
      versionLetter := some 'v'
      edition := "(GNU diffutils) 3.8" }
  withOptionsOr table (spokenHint 2) args fun a => do
    let fail (complaint : String) : Task Nat := do
      Task.complain complaint
      spokenHint 2
    let speaker := (← read).speaker
    let amount? (text : String) : Option Nat := (readAmount "kKMGTPEZY" text).toOption
    let given := (a.value? "i").map fun text => (text, ByteComparison.readSkips? text)
    if let some (text, none) := given then return (← fail ("invalid --ignore-initial value '" ++ text ++ "'"))
    let limit := (a.value? "n").map fun text => (text, amount? text)
    if let some (text, none) := limit then return (← fail ("invalid --bytes value '" ++ text ++ "'"))
    if a.has "l" && a.has "s" then return (← fail "options -l and -s are incompatible")
    let (first, second, more) ← match a.operands with
      | [] => return (← fail ("missing operand after '" ++ speaker ++ "'"))
      | [first] => pure (first, "-", [])
      | first :: second :: more => pure (first, second, more)
    if let _ :: _ :: extra :: _ := more then return (← fail ("extra operand '" ++ extra ++ "'"))
    if let some bad := more.find? fun text => (amount? text).isNone then
      return (← fail ("invalid --ignore-initial value '" ++ bad ++ "'"))
    let skips := (given.bind Prod.snd).getD (0, 0)
    let skips := match more.filterMap amount? with
      | [n] => (max skips.1 n, skips.2)
      | m :: n :: _ => (max skips.1 m, max skips.2 n)
      | [] => skips
    if first = "-" && second = "-" && skips.1 = skips.2 then return 0
    let quiet := a.has "s"
    let openSide (name : String) : Task (Except OsError Nat) :=
      if name = "-" then return .ok 0 else Task.openPath name .read
    let refuse (name : String) (e : OsError) : Task Nat := do
      if !quiet then Task.complain (name ++ ": " ++ e.wording)
      return 2
    match ← openSide first with
    | .error e => refuse first e
    | .ok fd =>
      match ← openSide second with
      | .error e => refuse second e
      | .ok other =>
        let sizeOf (fd skip : Nat) : Task (Option Nat) := do
          let (files, _) ← Task.place
          return match ← Task.call (Call.file? fd) with
            | some (_, { stream := .file i position _, .. }) => some ((files.node i).bytes.size - position - skip)
            | _ => none
        let limit := limit.bind Prod.snd
        let sizes := [limit, ← sizeOf fd skips.1, ← sizeOf other skips.2].filterMap id
        let most := sizes.foldl min (2 ^ 63 - 1)
        let c : ByteComparison :=
          { report := if quiet then .nothing else if a.has "l" then .all else .first
            shown := a.has "b", skips, limit, names := (first, second), width := (toString most).length }
        c.compareSides Task.patience {} { fd, skipped := skips.1 } { fd := other, skipped := skips.2 }

end CommandSpec.Utility
