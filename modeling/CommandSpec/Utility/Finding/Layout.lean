import CommandSpec.Utility.Escape
import CommandSpec.Utility.Finding.Expression
import CommandSpec.Utility.Fraction
import CommandSpec.Utility.Identity
import CommandSpec.Utility.Names

/-!
# Formats for found files

A format is a text in which a letter after `%` stands for something about a file, and a backslash begins an
escape.
-/

namespace CommandSpec.Utility.Finding

/-! ## Reading -/

/-- The pieces of a format and warnings about them, or what is wrong; at most `fuel` pieces. -/
def readPieces : (fuel : Nat) → List Char → Except String (List Piece × List String)
  | 0, _ => .ok ([], [])
  | _ + 1, [] => .ok ([], [])
  | fuel + 1, '\\' :: cs => do
    let put (text rest : List Char) : Except String (List Piece × List String) := do
      let (pieces, warnings) ← readPieces fuel rest
      return (.text text :: pieces, warnings)
    match cs with
    | [] => return ([.text ['\\']], ["warning: escape \x60\\' followed by nothing at all"])
    | 'c' :: _ => return ([.stop], [])
    | c :: rest =>
      let octal := leadingDigits 8 3 cs
      if !octal.isEmpty then put [byteOf 8 octal] (cs.drop octal.length)
      else
        match if c = '\\' || "abfnrtv".toList.contains c then letterEscape? c else none with
        | some e => put [e] rest
        | none =>
          let (pieces, warnings) ← readPieces fuel rest
          return (.text ['\\', c] :: pieces, ("warning: unrecognized escape \x60\\" ++ c.toString ++ "'") :: warnings)
  | fuel + 1, '%' :: cs => do
    let flags := cs.takeWhile fun c => "-+ #0".toList.contains c
    let width := (cs.drop flags.length).takeWhile Char.isDigit
    let rest := cs.drop (flags.length + width.length)
    let (precision, rest) : Option (List Char) × List Char := match rest with
      | '.' :: more => (some (more.takeWhile Char.isDigit), more.dropWhile Char.isDigit)
      | _ => (none, rest)
    let number (digits : List Char) : Option Nat := if digits.isEmpty then none else some (Text.numberIn 10 digits)
    let field (letter : Char) (detail : Option Char) (rest : List Char) :
        Except String (List Piece × List String) := do
      let (pieces, warnings) ← readPieces fuel rest
      return (.field letter detail flags (number width) (precision.map fun p => (number p).getD 0) :: pieces, warnings)
    match rest with
    | [] => throw "error: % at end of format string"
    | '%' :: rest =>
      let (pieces, warnings) ← readPieces fuel rest
      return (.text ['%'] :: pieces, warnings)
    | c :: rest =>
      if "abcdfgGhHiklmMnpPsStuUyYDFZ".toList.contains c then field c none rest
      else if "ABCT".toList.contains c then
        match rest with
        | [] =>
          throw ("error: the format directive \x60%" ++ c.toString ++ "' is incomplete: a letter for a time is missing")
        | d :: rest => field c (some d) rest
      else if c = '\x7b' || c = '[' || c = '(' then
        throw ("error: the format directive \x60%" ++ c.toString ++ "' is reserved for future use")
      else
        let (pieces, warnings) ← readPieces fuel rest
        let shown := '%' :: flags ++ width ++ (precision.elim [] fun p => '.' :: p) ++ [c]
        return (.text shown :: pieces,
          ("warning: unrecognized format directive \x60%" ++ c.toString ++ "'") :: warnings)
  | fuel + 1, c :: cs => do
    let plain := (c :: cs).takeWhile fun c => c ≠ '%' && c ≠ '\\'
    let (pieces, warnings) ← readPieces fuel ((c :: cs).drop plain.length)
    return (.text plain :: pieces, warnings)

/-! ## Writing -/

/-- A file that was found. -/
structure Visit where
  path : String
  /-- Where the search for it started. -/
  start : String
  depth : Nat
  inode : Inode
  node : Node
  deriving Inhabited

/-- The letter for the kind of a node. -/
def kindOf (n : Node) : Char :=
  match (kindLetter n).toList with
  | ['-'] => 'f'
  | [c] => c
  | _ => 'f'

/-- The kind of what a path leads to. -/
def kindBehind (files : FileSystem) (cwd : Inode) (path : String) : Char :=
  match files.resolve cwd path with
  | .ok i => kindOf (files.node i)
  | .error .tooManyLinks => 'L'
  | .error _ => 'N'

/-- The fraction of a moment's second. -/
def fractionOf (moment : Nat) : String :=
  "." ++ .ofList (Text.paddedDigits 10 6 (moment % Date.tick)) ++ "0000"

/-- A moment as a letter asks for it; without a letter as a whole. -/
def showMoment (moment : Nat) : Option Char → String
  | none => Date.write "%a %b %e %H:%M:%S" moment ++ fractionOf moment ++ Date.write " %Y" moment
  | some '@' => toString (moment / Date.tick) ++ fractionOf moment
  | some '+' => Date.write "%Y-%m-%d+%H:%M:%S" moment ++ fractionOf moment
  | some 'S' => Date.write "%S" moment ++ fractionOf moment
  | some 'T' => Date.write "%H:%M:%S" moment ++ fractionOf moment
  | some 'X' => Date.write "%H:%M:%S" moment ++ fractionOf moment
  | some c => Date.write (.ofList ['%', c]) moment

/-- A text in a field: cut to a precision and filled up to a width. -/
def inField (flags : List Char) (width precision : Option Nat) (text : String) : String :=
  let cs := precision.elim text.toList fun n => text.toList.take n
  let gap := List.replicate (width.getD 0 - cs.length) ' '
  .ofList (if flags.contains '-' then cs ++ gap else gap ++ cs)

/-- A number in a field. -/
def numberField (flags : List Char) (width : Option Nat) (digits : String) : String :=
  if flags.contains '0' && !flags.contains '-' then
    .ofList (List.replicate (width.getD 0 - digits.length) '0') ++ digits
  else inField flags width none digits

/-- The part of a path before its last name, or a point if there is none. -/
def leadingPart (path : String) : String :=
  let before := path.toList.reverse.dropWhile (· ≠ '/')
  if before.isEmpty then "." else .ofList (before.drop 1).reverse

/-- What a letter stands for. -/
def fieldText (files : FileSystem) (cwd : Inode) (v : Visit) (letter : Char) (detail : Option Char)
    (flags : List Char) (width precision : Option Nat) : String :=
  let text (s : String) : String := inField flags width precision s
  let number (n : Nat) : String := numberField flags width (toString n)
  let n := v.node
  match letter with
  | 'a' => text (showMoment n.accessed none)
  | 'c' => text (showMoment n.changed none)
  | 't' => text (showMoment n.modified none)
  | 'A' => text (showMoment n.accessed detail)
  | 'C' => text (showMoment n.changed detail)
  | 'T' => text (showMoment n.modified detail)
  | 'B' => text (showMoment n.changed detail)
  | 'b' => text (toString (diskSize n / 512))
  | 'k' => text (toString (diskSize n / 1024))
  | 'd' => number v.depth
  | 'D' => text "52"
  | 'f' => text (baseName v.path)
  | 'F' => text "overlay"
  | 'g' => text (Account.groupName n.group)
  | 'u' => text (Account.userName n.user)
  | 'G' => text (toString n.group)
  | 'U' => text (toString n.user)
  | 'h' => text (leadingPart v.path)
  | 'H' => text v.start
  | 'i' => text (toString (v.inode + 2))
  | 'l' => text (match n.content with
      | .symbolic target => target
      | _ => "")
  | 'm' =>
    let digits := String.ofList (Nat.toDigits 8 n.mode)
    numberField flags width (if flags.contains '#' then "0" ++ digits else digits)
  | 'M' => text ((if kindOf n = 'f' then "-" else (kindOf n).toString) ++ showMode n.mode)
  | 'n' => text (toString (files.linkCount v.inode))
  | 'p' => text v.path
  | 'P' => text (.ofList ((v.path.toList.drop v.start.length).dropWhile (· = '/')))
  | 's' => text (toString (shownSize n))
  | 'S' =>
    if shownSize n = 0 then text "1"
    else text (.ofList (showGeneral false 6 ⟨diskSize n, shownSize n⟩))
  | 'y' => text (kindOf n).toString
  | 'Y' => text (kindBehind files cwd v.path).toString
  | _ => ""

/-- What a format makes of a file. -/
def writePieces (files : FileSystem) (cwd : Inode) (v : Visit) : List Piece → String
  | [] => ""
  | .text cs :: rest => .ofList cs ++ writePieces files cwd v rest
  | .field letter detail flags width precision :: rest =>
    fieldText files cwd v letter detail flags width precision ++ writePieces files cwd v rest
  | .stop :: _ => ""

/-- A path with escapes for what cannot be shown and for blanks. -/
def escapedPath (path : String) : String :=
  escaped [' ', '"', '\\'] path

/-- A line that tells about a file. -/
def listLine (files : FileSystem) (v : Visit) : String :=
  let n := v.node
  let left (width : Nat) (s : String) : String := inField ['-'] (some width) none s
  let right (width : Nat) (s : String) : String := inField [] (some width) none s
  let isRecent := n.modified ≤ files.now && files.now < n.modified + 15778476 * Date.tick
  let target := match n.content with
    | .symbolic target => " -> " ++ escapedPath target
    | _ => ""
  right 9 (toString (v.inode + 2)) ++ " " ++ right 6 (toString (diskSize n / 1024)) ++ " " ++ kindLetter n ++ showMode n.mode
    ++ " " ++ right 3 (toString (files.linkCount v.inode)) ++ " " ++ left 8 (Account.userName n.user) ++ " " ++ left 8 (Account.groupName n.group) ++ " "
    ++ right 8 (toString (shownSize n)) ++ " "
    ++ Date.write (if isRecent then "%b %e %H:%M" else "%b %e  %Y") n.modified ++ " " ++ escapedPath v.path ++ target ++ "\n"

end CommandSpec.Utility.Finding
