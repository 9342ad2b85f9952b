import CommandSpec.Regex.Search
import CommandSpec.Text.Integer
import CommandSpec.Utility.Inputs
import CommandSpec.Utility.Outcome

/-!
# `nl`

`nl` numbers lines. Certain lines cut a text into pages of three sections, which can be numbered in
different styles.
-/

namespace CommandSpec.Utility

/-- Which lines have numbers. -/
inductive NumberingStyle where
  | all
  | filled
  | nothing
  | matching (p : Regex.Pattern)
  deriving Inhabited

/-- The sections of a page. -/
inductive PageSection where
  | header
  | body
  | footer
  deriving DecidableEq, Repr, Inhabited

/-- How numbers stand in their column. -/
inductive NumberAlignment where
  | left
  | right
  | zeros
  deriving DecidableEq, Repr, Inhabited

/-- How lines are numbered. -/
structure Numbering where
  header : NumberingStyle := .nothing
  body : NumberingStyle := .filled
  footer : NumberingStyle := .nothing
  first : Int := 1
  step : Int := 1
  width : Nat := 6
  alignment : NumberAlignment := .right
  separator : String := "\t"
  /-- How many empty lines count as one. -/
  joined : Nat := 1
  /-- What a line is made of that starts a section. -/
  mark : List Char := ['\\', ':']
  /-- Whether numbers start again in every section. -/
  restarts : Bool := true
  deriving Inhabited

/-- Where the numbering stands. -/
structure NumberingPlace where
  number : Int
  current : PageSection := .body
  /-- How many empty lines came in a row without a number. -/
  blanks : Nat := 0
  deriving Inhabited

namespace Numbering

/-- The section that a line starts, if it does. -/
def startOf? (n : Numbering) (line : List Char) : Option PageSection :=
  let marks (k : Nat) : List Char := (List.replicate k n.mark).flatten
  if n.mark.isEmpty then none
  else if line = marks 3 then some .header
  else if line = marks 2 then some .body
  else if line = marks 1 then some .footer
  else none

/-- A number in its column. -/
def showNumber (n : Numbering) (k : Int) : String :=
  let text := toString k
  let missing := n.width - text.length
  let fill (c : Char) : String := .ofList (List.replicate missing c)
  match n.alignment with
  | .left => text ++ fill ' '
  | .right => fill ' ' ++ text
  | .zeros => if k < 0 then "-" ++ fill '0' ++ toString (-k) else fill '0' ++ text

/-- A line with its number, if it has one, and the place after it. -/
def showLine (n : Numbering) (p : NumberingPlace) (line : List Char) : String × NumberingPlace :=
  match n.startOf? line with
  | some current =>
    ("\n", { p with current, number := if n.restarts then n.first else p.number })
  | none =>
    let style := match p.current with
      | .header => n.header
      | .body => n.body
      | .footer => n.footer
    let (isNumbered, blanks) := match style with
      | .all =>
        if n.joined ≤ 1 then (true, p.blanks)
        else if !line.isEmpty || p.blanks + 1 = n.joined then (true, 0)
        else (false, p.blanks + 1)
      | .filled => (!line.isEmpty, p.blanks)
      | .nothing => (false, p.blanks)
      | .matching r => (r.occursIn {} line, p.blanks)
    let text := String.ofList line ++ "\n"
    if isNumbered then
      (n.showNumber p.number ++ n.separator ++ text, { p with number := p.number + n.step, blanks })
    else
      (.ofList (List.replicate (n.width + n.separator.length) ' ') ++ text, { p with blanks })

/-- Lines with their numbers. -/
def showLines (n : Numbering) : NumberingPlace → List (List Char) → List String × NumberingPlace
  | p, [] => ([], p)
  | p, record :: rest =>
    let line := if record.getLast? = some '\n' then record.dropLast else record
    let (shown, p) := n.showLine p line
    let (others, p) := n.showLines p rest
    (shown :: others, p)

/-- What can be wrong with options. -/
inductive Fault where
  /-- A complaint, with a hint. -/
  | style (complaint : String)
  | number (complaint : String)

/-- The style that a word stands for. -/
def styleOf (section? word : String) : Except Fault NumberingStyle :=
  match word.toList with
  | ['a'] => .ok .all
  | ['t'] => .ok .filled
  | ['n'] => .ok .nothing
  | 'p' :: text =>
    match Regex.Pattern.ofText {} text with
    | .ok p => .ok (.matching p)
    | .error e => .error (.number e.message)
  | _ => .error (.style ("invalid " ++ section? ++ " numbering style: " ++ inQuotes word))

/-- A number that a word stands for. -/
def integerOf (what word : String) (least : Int) : Except Fault Int :=
  match Text.readInteger? word.toList with
  | some k =>
    if least ≤ k && k < 2 ^ 63 then .ok k
    else .error (.number ("invalid " ++ what ++ ": " ++ inQuotes word
      ++ (if k < 2 ^ 63 && -(2 ^ 63) ≤ k then ": Numerical result out of range"
          else ": Value too large for defined data type")))
  | none => .error (.number ("invalid " ++ what ++ ": " ++ inQuotes word))

/-- The numbering with an option taken into account. -/
def addOption (n : Numbering) : String × String → Except Fault Numbering
  | ("h", word) => return { n with header := ← styleOf "header" word }
  | ("b", word) => return { n with body := ← styleOf "body" word }
  | ("f", word) => return { n with footer := ← styleOf "footer" word }
  | ("v", word) => return { n with first := ← integerOf "starting line number" word (-(2 ^ 63)) }
  | ("i", word) => return { n with step := ← integerOf "line number increment" word (-(2 ^ 63)) }
  | ("l", word) => return { n with joined := (← integerOf "line number of blank lines" word 1).toNat }
  | ("w", word) => return { n with width := (← integerOf "line number field width" word 1).toNat }
  | ("s", separator) => return { n with separator }
  | ("p", _) => return { n with restarts := false }
  | ("d", word) => return { n with mark := if word.length = 1 then word.toList ++ [':'] else word.toList }
  | ("n", "ln") => return { n with alignment := .left }
  | ("n", "rn") => return { n with alignment := .right }
  | ("n", "rz") => return { n with alignment := .zeros }
  | ("n", word) => .error (.style ("invalid line numbering format: " ++ inQuotes word))
  | _ => return n

end Numbering

/-- Number lines: `nl [options] [file…]`. -/
def nl (args : List String) : Task Nat :=
  let table : OptionTable :=
    { flags := "p", valued := "bdfhilnsvw"
      names := [("header-numbering", "h"), ("body-numbering", "b"), ("footer-numbering", "f"),
        ("starting-line-number", "v"), ("line-increment", "i"), ("no-renumber", "p"), ("join-blank-lines", "l"),
        ("number-separator", "s"), ("number-width", "w"), ("number-format", "n"), ("section-delimiter", "d")] }
  withOptions table args fun a => do
    match a.options.foldlM Numbering.addOption {} with
    | .error (.style complaint) => misuse complaint 1
    | .error (.number complaint) => failWith 1 complaint
    | .ok n =>
      let act (p : NumberingPlace) (records : List (List Char)) : Task NumberingPlace := do
        let (shown, p) := n.showLines p records
        Task.print (String.join shown)
        return p
      let (_, ok) ← eachInput plainComplaint (fun fd p => eachRecord fd '\n' act Task.patience [] p)
        (orStdin a.operands) ({ number := n.first } : NumberingPlace)
      return if ok then 0 else 1

end CommandSpec.Utility
