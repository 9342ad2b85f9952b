import CommandSpec.Text.Integer
import CommandSpec.Utility.Inputs
import CommandSpec.Utility.Outcome

/-!
# `expand` and `unexpand`

`expand` replaces tabs by spaces, and `unexpand` blanks by tabs. Tab stops are at multiples of a number,
or at the places of a list, and after that where the list tells.
-/

namespace CommandSpec.Utility

/-- Where tab stops are. -/
structure TabStops where
  places : List Nat := []
  /-- After the places, the stops are at multiples of this. -/
  multiple : Option Nat := none
  /-- After the places, the stops are so far from each other. -/
  distance : Option Nat := none
  deriving DecidableEq, Repr, Inhabited

namespace TabStops

/-- The next stop after a column, if there is one. -/
def after? (t : TabStops) (column : Nat) : Option Nat :=
  let next (origin step : Nat) : Nat := column + (step - (column - origin) % step)
  match t.places, t.multiple, t.distance with
  | [], multiple, distance => some (next 0 ((multiple.or distance).getD 8))
  | [step], none, none => some (next 0 step)
  | places, multiple, distance =>
    match places.find? (column < ·) with
    | some place => some place
    | none =>
      match multiple, distance with
      | some step, _ => some (next 0 step)
      | none, some step => some (next (places.getLast?.getD 0) step)
      | none, none => none

/-- Refuse stops that are in no order. -/
def check (t : TabStops) : Except String TabStops := do
  let rec go (last : Nat) : List Nat → Except String Unit
    | [] => .ok ()
    | place :: rest =>
      if place = 0 then .error "tab size cannot be 0"
      else if place ≤ last then .error "tab sizes must be ascending"
      else go place rest
  go 0 t.places
  if t.multiple.isSome && t.distance.isSome then
    throw "'/' specifier is mutually exclusive with '+'"
  return t

/-- The stops with one more number, after a sign or none. -/
def add (t : TabStops) (sign : Option Char) (n : Nat) : Except String TabStops :=
  let orNone : Option Nat := if n = 0 then none else some n
  match sign with
  | some '/' =>
    if t.multiple.isSome then .error "'/' specifier only allowed with the last value"
    else .ok { t with multiple := orNone }
  | some _ =>
    if t.distance.isSome then .error "'+' specifier only allowed with the last value"
    else .ok { t with distance := orNone }
  | none => .ok { t with places := t.places ++ [n] }

/-- The stops with those of a list, at most `fuel` characters of it. -/
def addList : (fuel : Nat) → TabStops → List Char → Except String TabStops
  | 0, t, _ => .ok t
  | _ + 1, t, [] => .ok t
  | fuel + 1, t, c :: cs => do
    if c = ',' || c = ' ' || c = '\t' then addList fuel t cs
    else
      let (sign, rest) := if c = '/' || c = '+' then (some c, cs) else (none, c :: cs)
      let digits := rest.takeWhile Char.isDigit
      let after := rest.drop digits.length
      match after with
      | d :: _ =>
        if d = '/' || d = '+' then
          throw ("'" ++ d.toString ++ "' specifier not at start of number: " ++ inQuotes (.ofList after))
        if d ≠ ',' && d ≠ ' ' && d ≠ '\t' then
          throw ("tab size contains invalid character(s): " ++ inQuotes (.ofList after))
      | [] => pure ()
      let n := Text.numberIn 10 digits
      if 2 ^ 64 ≤ n then throw ("tab stop is too large " ++ inQuotes (.ofList digits))
      addList fuel (← if digits.isEmpty then pure t else t.add sign n) after

/-- The stops of some lists. -/
def ofLists (lists : List String) : Except String TabStops := do
  (← lists.foldlM (fun t text => addList (text.length + 1) t text.toList) {}).check

/-! ## From tabs to spaces -/

/-- A record with its tabs replaced by spaces, on request only those before anything else. -/
def expandRecord (t : TabStops) (onlyFirst : Bool) :
    (column : Nat) → (replaces : Bool) → List Char → List Char
  | _, _, [] => []
  | column, replaces, c :: cs =>
    let goOn (column : Nat) : List Char :=
      expandRecord t onlyFirst column (replaces && (!onlyFirst || c = ' ' || c = '\t')) cs
    if !replaces then c :: goOn column
    else
      match c with
      | '\t' =>
        let stop := (t.after? column).getD (column + 1)
        List.replicate (stop - column) ' ' ++ goOn stop
      | '\x08' => c :: goOn (column - 1)
      | _ => c :: goOn (column + 1)

/-! ## From blanks to tabs -/

/-- Where `unexpand` stands in a line. -/
structure BlankState where
  column : Nat := 0
  /-- Whether blanks are still replaced. -/
  replaces : Bool := true
  /-- Whether a lone blank stands just before a stop. -/
  loneBlank : Bool := false
  afterBlank : Bool := true
  /-- Blanks that are not written yet. -/
  held : List Char := []
  deriving Inhabited

/-- What is written before a character that is no blank to be held. -/
def BlankState.flush (s : BlankState) : List Char :=
  match s.held with
  | first :: second :: rest => (if s.loneBlank then '\t' else first) :: second :: rest
  | held => held

/-- What is written for a character, and the state after it. -/
def unexpandChar (t : TabStops) (everywhere : Bool) (s : BlankState) (c : Char) : List Char × BlankState :=
  if !s.replaces then ([c], s)
  else
    let isBlank := c = ' ' || c = '\t'
    let finish (s : BlankState) (c : Char) : List Char × BlankState :=
      (s.flush ++ [c],
        { s with
          held := [], loneBlank := if s.held.isEmpty then s.loneBlank else false, afterBlank := isBlank
          replaces := s.replaces && (everywhere || isBlank) })
    if isBlank then
      match t.after? s.column with
      | none => finish { s with replaces := false } c
      | some stop =>
        let kept (held : List Char) : List Char := if s.loneBlank then held.take 1 else []
        if c = '\t' then
          let held := match s.held with
            | _ :: rest => '\t' :: rest
            | [] => []
          finish { s with column := stop, held := kept held } c
        else
          let column := s.column + 1
          if s.afterBlank && column = stop then
            let held := '\t' :: s.held.drop 1
            finish { s with column, held := kept held } '\t'
          else
            ([], { s with
              column, held := s.held ++ [c], afterBlank := true, loneBlank := s.loneBlank || column = stop })
    else if c = '\x08' then finish { s with column := s.column - 1 } c
    else finish { s with column := s.column + 1 } c

/-- A record with blanks replaced by tabs, everywhere or only before anything else. -/
def unexpandRecord (t : TabStops) (everywhere : Bool) (record : List Char) : List Char :=
  let (shown, s) := record.foldl (fun (soFar, s) c =>
    let (text, s) := unexpandChar t everywhere s c
    (text :: soFar, s)) (([] : List (List Char)), ({} : BlankState))
  shown.reverse.flatten ++ s.flush

end TabStops

/-- Arguments in which numbers after a dash were made tab stops. -/
def tabArguments : List String → List String
  | [] => []
  | arg :: rest =>
    match arg.toList with
    | '-' :: c :: cs =>
      if arg = "--" then arg :: rest
      else if c.isDigit then .ofList ('-' :: 't' :: c :: cs) :: tabArguments rest
      else arg :: tabArguments rest
    | _ => arg :: tabArguments rest

/-- The lists of tab stops among options. -/
def tabLists (a : Arguments) : List String :=
  (a.options.filter (·.1 = "t")).map Prod.snd

/-- Replace tabs by spaces: `expand [-i] [-t stops] [file…]`. -/
def expand (args : List String) : Task Nat :=
  withOptions { flags := "i", valued := "t", names := [("initial", "i"), ("tabs", "t")] } (tabArguments args)
    fun a => do
      match TabStops.ofLists (tabLists a) with
      | .error complaint => failWith 1 complaint
      | .ok t => mapRecords '\n' (t.expandRecord (a.has "i") 0 true) a.operands

/-- Replace blanks by tabs: `unexpand [-a] [-t stops] [file…]`. -/
def unexpand (args : List String) : Task Nat :=
  let isShort := args.any fun arg => arg.toList.head? = some '-' && (arg.toList.drop 1).head?.any Char.isDigit
  withOptions { flags := "a", valued := "t", names := [("all", "a"), ("tabs", "t")], words := ["first-only"] }
    (tabArguments args) fun a => do
      match TabStops.ofLists (tabLists a) with
      | .error complaint => failWith 1 complaint
      | .ok t =>
        let everywhere := (a.has "a" || (a.has "t" && !isShort)) && !a.has "first-only"
        mapRecords '\n' (t.unexpandRecord everywhere) a.operands

end CommandSpec.Utility
