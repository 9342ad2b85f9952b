import CommandSpec.Utility.Amount
import CommandSpec.Utility.Inputs
import CommandSpec.Utility.Outcome

/-!
# `fmt`

`fmt` fills the lines of paragraphs anew. Every way to break a paragraph into lines has a cost: lines that are
longer or shorter than they should be cost something, and so do lines of different lengths and breaks at places
that disturb a reader. The cheapest way is found from the last word back.
-/

namespace CommandSpec.Utility

/-- How paragraphs are filled. -/
structure FillStyle where
  /-- How long lines may be. -/
  width : Nat := 75
  /-- How long lines should be. -/
  goal : Nat := 70
  /-- Whether the first two lines of a paragraph tell its indents. -/
  crown : Bool := false
  /-- Whether only a paragraph whose first two lines have different indents has two lines. -/
  tagged : Bool := false
  /-- Whether lines are only broken, not joined. -/
  splits : Bool := false
  /-- Whether there is one blank between words. -/
  uniform : Bool := false
  /-- What the lines start with that are filled. -/
  lead : List Char := []
  /-- How many blanks come before that. -/
  leadIndent : Nat := 0
  /-- How long it is with the blanks after it. -/
  leadLength : Nat := 0
  deriving Inhabited

/-- A word of a paragraph. -/
structure FillWord where
  text : List Char
  /-- How many blanks come after it. -/
  space : Nat
  paren : Bool
  period : Bool
  punct : Bool
  final : Bool
  deriving DecidableEq, Repr, Inhabited

namespace FillWord

/-- Whether a character is neither a letter nor a digit nor blank. -/
def isPunctuation (c : Char) : Bool :=
  '!' ≤ c && c ≤ '~' && !c.isAlphanum

/-- A word as it is written, with what is after it still unknown. -/
def ofText (text : List Char) : FillWord :=
  let bare := match text with
    | [] => []
    | first :: rest => first :: (rest.reverse.dropWhile ")]'\"".toList.contains).reverse
  { text, space := 0, paren := (text.head?).any "(['\x60\"".toList.contains
    punct := (text.getLast?).any isPunctuation, period := (bare.getLast?).any ".?!".toList.contains, final := false }

end FillWord

/-! ## Costs -/

namespace FillCost

/-- The cost of a line so much longer or shorter than it should be. -/
def short (n : Int) : Int :=
  n * 10 * (n * 10)

/-- The cost of lines of different lengths one after the other. -/
def ragged (n : Int) : Int :=
  short n / 2

/-- The cost of a line in itself. -/
def line : Int := 4900

/-- The cost of breaking a line after the first word of a sentence. -/
def widow (length : Nat) : Int :=
  40000 / (length + 2 : Nat)

/-- The cost of breaking a line before the last word of a sentence. -/
def orphan (length : Nat) : Int :=
  22500 / (length + 2 : Nat)

/-- The gain of breaking a line at the end of a sentence. -/
def sentence : Int := 2500

/-- The cost of breaking a line after a point that ends no sentence. -/
def noBreak : Int := 360000

/-- The gain of breaking a line before a parenthesis or after a punctuation mark. -/
def mark : Int := 1600

end FillCost

/-- What is known of the best way to break a paragraph before a word. -/
structure FillBreak where
  /-- The place of the word that starts the next line. -/
  next : Nat := 0
  /-- How long the line is that the word starts. -/
  length : Int := 0
  cost : Int := 0
  deriving Inhabited

/-- A paragraph with what is needed to fill it. -/
structure FillParagraph where
  words : Array FillWord
  /-- How much comes before the first line. -/
  firstIndent : Nat
  /-- How much comes before the other lines. -/
  otherIndent : Nat
  deriving Inhabited

namespace FillParagraph

/-- The word at a place. -/
def word (p : FillParagraph) (k : Nat) : FillWord :=
  (p.words[k]?).getD default

/-- The cost of a line that a word starts, apart from its length. -/
def baseCost (p : FillParagraph) (k : Nat) : Int :=
  let w := p.word k
  let before : Int :=
    if k = 0 then 0
    else
      let v := p.word (k - 1)
      if v.period then (if v.final then -FillCost.sentence else FillCost.noBreak)
      else if v.punct then -FillCost.mark
      else if k > 1 && (p.word (k - 2)).final then FillCost.widow v.text.length
      else 0
  let here : Int :=
    if w.paren then -FillCost.mark
    else if w.final then FillCost.orphan w.text.length
    else 0
  FillCost.line + before + here

/-- The cost of a line of a length before a word. -/
def lineCost (s : FillStyle) (p : FillParagraph) (found : Array FillBreak) (next : Nat) (length : Int) : Int :=
  if next = p.words.size then 0
  else
    let b := (found[next]?).getD {}
    FillCost.short (s.goal - length) + if b.next = p.words.size then 0 else FillCost.ragged (length - b.length)

/-- Lengthen a line that starts with a word as long as that is possible, and keep the best place to end it; at
most `fuel` words. -/
def tryEnds (s : FillStyle) (p : FillParagraph) (found : Array FillBreak) (start : Nat) :
    (fuel : Nat) → (next : Nat) → (length : Int) → (best : Option FillBreak) → FillBreak
  | 0, _, _, best => best.getD {}
  | fuel + 1, next, length, best =>
    let cost := p.lineCost s found next length + ((found[next]?).getD {}).cost
    let best := if best.all fun b => cost < b.cost then some { next, length, cost } else best
    let longer := length + (p.word (next - 1)).space + (p.word next).text.length
    if next ≥ p.words.size || longer ≥ s.width then best.getD {}
    else tryEnds s p found start fuel (next + 1) longer best

/-- The best breaks, from the last word back to the first; the words before `k` are left. -/
def breaks (s : FillStyle) (p : FillParagraph) : (k : Nat) → Array FillBreak → Array FillBreak
  | 0, found => found
  | k + 1, found =>
    let indent := if k = 0 then p.firstIndent else p.otherIndent
    let b := p.tryEnds s found k (p.words.size + 1) (k + 1) ((indent + (p.word k).text.length : Nat) : Int) none
    breaks s p k (found.set! k { b with cost := b.cost + p.baseCost k })

/-- Blanks from a column on; with `tabs` as few characters as tabs allow. -/
def blanks (tabs : Bool) (column space : Nat) : List Char :=
  let target := column + space
  let tabTarget := target / 8 * 8
  if tabs && column + 1 < tabTarget then
    List.replicate (tabTarget / 8 - column / 8) '\t' ++ List.replicate (target - tabTarget) ' '
  else List.replicate space ' '

/-- The lines of a paragraph, each as its first and its last word. -/
def lines (p : FillParagraph) (found : Array FillBreak) : (fuel : Nat) → (k : Nat) → List (Nat × Nat)
  | 0, _ => []
  | fuel + 1, k =>
    if k ≥ p.words.size then []
    else
      let next := max (k + 1) ((found[k]?).getD {}).next
      (k, next - 1) :: lines p found fuel next

end FillParagraph

/-! ## Reading -/

/-- How far an input was read. -/
structure FillReader where
  /-- What is left of the input. -/
  rest : List Char
  column : Nat := 0
  /-- How much comes before what starts a line. -/
  indent : Nat := 0
  /-- Whether a tab was found. -/
  tabs : Bool := false
  deriving Inhabited

namespace FillReader

/-- Read blanks. -/
def skipBlanks (r : FillReader) : FillReader :=
  let found := r.rest.takeWhile fun c => c = ' ' || c = '\t'
  let column := found.foldl (fun column c => if c = ' ' then column + 1 else (column / 8 + 1) * 8) r.column
  { r with rest := r.rest.drop found.length, column, tabs := r.tabs || found.contains '\t' }

/-- Read what lines start with, as far as it is there: whether all of it is. -/
def skipLead : List Char → FillReader → FillReader × Bool
  | [], r => (r, true)
  | c :: lead, r =>
    if r.rest.head? = some c then skipLead lead { r with rest := r.rest.drop 1, column := r.column + 1 }
    else (r, false)

/-- Read the start of a line. -/
def startLine (s : FillStyle) (r : FillReader) : FillReader :=
  let r := { r with column := 0 }.skipBlanks
  if s.lead.isEmpty then { r with indent := min s.leadIndent r.column }
  else
    match skipLead s.lead { r with indent := r.column } with
    | (r, true) => r.skipBlanks
    | (r, false) => r

/-- Whether a line is over. -/
def atEnd (r : FillReader) : Bool :=
  r.rest.head?.all (· = '\n')

/-- Read the words of a line, and the start of the next one; at most `fuel` words. -/
def readWords (s : FillStyle) : (fuel : Nat) → FillReader → List FillWord × FillReader
  | 0, r => ([], r)
  | fuel + 1, r =>
    let isBlank (c : Char) : Bool := c = ' ' || ('\t' ≤ c && c ≤ '\r')
    let text := match r.rest with
      | [] => []
      | c :: cs => c :: cs.takeWhile (!isBlank ·)
    let w := FillWord.ofText text
    let r := { r with rest := r.rest.drop text.length, column := r.column + text.length }
    let after := r.skipBlanks
    let space := after.column - r.column
    let final := after.rest.isEmpty || (w.period && (after.atEnd || space > 1))
    let w := { w with final, space := if after.atEnd || s.uniform then (if final then 2 else 1) else space }
    if after.atEnd then ([w], startLine s { after with rest := after.rest.drop 1 })
    else
      let (ws, r) := readWords s fuel after
      (w :: ws, r)

/-- Whether the next line may belong to a paragraph whose lines start with so much. -/
def continues (s : FillStyle) (r : FillReader) (indent : Nat) : Bool :=
  r.indent = indent && r.column ≥ r.indent + s.leadLength && !r.atEnd

end FillReader

/-- How far an input was filled. -/
structure FillState where
  reader : FillReader
  /-- How much comes before what starts the lines of the paragraph. -/
  indent : Nat := 0
  firstIndent : Nat := 0
  otherIndent : Nat := 0
  deriving Inhabited

namespace FillStyle

/-- The text of a line that is not filled, and what is left after it. -/
def copyLine (s : FillStyle) (r : FillReader) : List Char × FillReader :=
  let body := r.rest.takeWhile (· ≠ '\n')
  let isEnd := r.rest.isEmpty
  let before :=
    if r.column > r.indent || !body.isEmpty then
      let space := FillParagraph.blanks r.tabs 0 r.indent
      let shown := s.lead.take (r.column - r.indent)
      let column := r.indent + shown.length
      space ++ shown ++ (if body.isEmpty then [] else FillParagraph.blanks r.tabs column (r.column - column))
        ++ if isEnd && r.column ≥ r.indent + s.lead.length then ['\n'] else []
    else []
  (before ++ body, { r with rest := r.rest.drop body.length })

/-- How much comes before the lines of a paragraph after the first one. -/
def otherIndentOf (s : FillStyle) (st : FillState) (r : FillReader) : Nat :=
  let same := r.continues s st.indent
  if s.splits then st.firstIndent
  else if s.crown then (if same then r.column else st.firstIndent)
  else if s.tagged then
    if same && r.column ≠ st.firstIndent then r.column
    else if st.otherIndent = st.firstIndent then (if st.firstIndent = 0 then 3 else 0)
    else st.otherIndent
  else st.firstIndent

/-- Read more lines of a paragraph; at most `fuel` of them. -/
def readMore (s : FillStyle) (indent otherIndent : Nat) : (fuel : Nat) → FillReader → List FillWord × FillReader
  | 0, r => ([], r)
  | fuel + 1, r =>
    if r.continues s indent && r.column = otherIndent then
      let (ws, r) := r.readWords s (r.rest.length + 1)
      let (more, r) := readMore s indent otherIndent fuel r
      (ws ++ more, r)
    else ([], r)

/-- Read a paragraph. -/
def readParagraph (s : FillStyle) (st : FillState) : List FillWord × FillState :=
  let st := { st with indent := st.reader.indent, firstIndent := st.reader.column }
  let (ws, r) := st.reader.readWords s (st.reader.rest.length + 1)
  let st := { st with otherIndent := s.otherIndentOf st r }
  let goesOn := !s.splits && r.continues s st.indent
    && (s.crown || !s.tagged || r.column ≠ st.firstIndent)
  let (more, r) := if goesOn then s.readMore st.indent st.otherIndent (r.rest.length + 1) r else ([], r)
  let words := ws ++ more
  let closed := match words.reverse with
    | [] => []
    | w :: ws => ({ w with period := true, final := true } :: ws).reverse
  (closed, { st with reader := r })

/-- The text of a filled paragraph. -/
def writeParagraph (s : FillStyle) (st : FillState) (words : List FillWord) : List Char :=
  let p : FillParagraph :=
    { words := words.toArray, firstIndent := st.firstIndent, otherIndent := st.otherIndent }
  let found := p.breaks s p.words.size (Array.replicate (p.words.size + 1) {})
  let tabs := st.reader.tabs
  let writeLine (first last : Nat) : List Char :=
    let indent := if first = 0 then st.firstIndent else st.otherIndent
    let start := FillParagraph.blanks tabs 0 st.indent ++ s.lead
    let column := st.indent + s.lead.length
    let gap := FillParagraph.blanks tabs column (indent - column)
    let (text, _) := (List.range (last + 1 - first)).foldl (fun (text, column) k =>
      let w := p.word (first + k)
      let column := column + w.text.length
      if first + k = last then (text ++ w.text, column)
      else
        let space := FillParagraph.blanks tabs column w.space
        (text ++ w.text ++ space, column + w.space)) ([], max column indent)
    start ++ gap ++ text ++ ['\n']
  (p.lines found (p.words.size + 1) 0).flatMap fun (first, last) => writeLine first last

/-- Fill a text; at most `fuel` lines or paragraphs. -/
def fill (s : FillStyle) : (fuel : Nat) → FillState → List (List Char)
  | 0, _ => []
  | fuel + 1, st =>
    let r := st.reader
    if r.atEnd || r.indent < s.leadIndent || r.column < r.indent + s.leadLength then
      let (text, after) := s.copyLine r
      if after.rest.isEmpty then [text]
      else
        let next := FillReader.startLine s { after with rest := after.rest.drop 1 }
        (text ++ ['\n']) :: fill s fuel { st with reader := next }
    else
      let (words, st) := s.readParagraph st
      s.writeParagraph st words :: fill s fuel st

/-- The style in which lines start with a text. -/
def withLead (s : FillStyle) (text : String) : FillStyle :=
  let cs := text.toList
  let bare := cs.dropWhile (· = ' ')
  { s with
    lead := (bare.reverse.dropWhile (· = ' ')).reverse, leadIndent := cs.length - bare.length, leadLength := bare.length }

/-- The style that options ask for, or what is wrong with them. -/
def ofArguments (a : Arguments) : Except String FillStyle := do
  let read (most : Nat) (text : String) : Except String Nat := readAmountIn "invalid width" "" 0 most text
  let width? ← (a.value? "w").mapM (read 2500)
  let width := width?.getD 75
  let goal? ← (a.value? "g").mapM (read width)
  let s : FillStyle :=
    { width := match width?, goal? with
        | none, some goal => goal + 10
        | _, _ => width
      goal := goal?.getD (width * 187 / 200)
      crown := a.has "c", tagged := a.has "t", splits := a.has "s", uniform := a.has "u" }
  return ((a.value? "p").map s.withLead).getD s

end FillStyle

/-- Fill lines anew: `fmt [-cstu] [-w width] [-g goal] [-p lead] [file…]`. -/
def fmt (args : List String) : Task Nat :=
  let table : OptionTable :=
    { flags := "cstu", valued := "wgp"
      names := [("crown-margin", "c"), ("split-only", "s"), ("tagged-paragraph", "t"), ("uniform-spacing", "u"),
        ("width", "w"), ("goal", "g"), ("prefix", "p")] }
  let isNumbered (arg : String) : Bool := match arg.toList with
    | '-' :: c :: _ => c.isDigit
    | _ => false
  let args := match args with
    | first :: rest => if isNumbered first then ("-w" ++ .ofList (first.toList.drop 1)) :: rest else args
    | [] => []
  withOptions table args fun a => do
    match FillStyle.ofArguments a with
    | .error complaint => failWith 1 complaint
    | .ok s =>
      forOperands (orStdin a.operands) fun operand => do
        match ← readInput operand with
        | .error .isDirectory => refuse "read error"
        | .error e => refuse ("cannot open " ++ shellQuoted operand ++ " for reading: " ++ e.wording)
        | .ok text =>
          let reader := FillReader.startLine s { rest := text.toList }
          Task.print (.ofList (s.fill (text.length + 2) { reader }).flatten)
          return true

end CommandSpec.Utility
