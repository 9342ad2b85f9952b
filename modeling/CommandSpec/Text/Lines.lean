/-!
# Lines and blocks

A *block* is a text in which every line is closed by a newline.
-/

namespace CommandSpec.Text

/-- The sequence cut after every element that `isEnd` accepts. Nothing is lost: the pieces
concatenate to the sequence, and only the last of them may lack its end. -/
def cutAfter {α : Type} (isEnd : α → Bool) : List α → List (List α)
  | [] => []
  | a :: as =>
    if isEnd a then [a] :: cutAfter isEnd as
    else
      match cutAfter isEnd as with
      | [] => [[a]]
      | piece :: pieces => (a :: piece) :: pieces

def newline : UInt8 := 0x0A

def physicalLines (bytes : List UInt8) : List (List UInt8) :=
  cutAfter (· == newline) bytes

/-- The lines of a byte string that have their newlines, and the bytes after the last newline. -/
def splitClosed (bytes : List UInt8) : List (List UInt8) × List UInt8 :=
  let pieces := physicalLines bytes
  match pieces.getLast? with
  | none => ([], [])
  | some last => if last.getLast? = some newline then (pieces, []) else (pieces.dropLast, last)

def block (lines : List (List Char)) : List Char :=
  lines.flatMap (· ++ ['\n'])

/-- The lines of a text, without their newlines. The empty text has none, and a last line that is
not closed is kept. -/
def lines : List Char → List (List Char)
  | [] => []
  | c :: cs =>
    if c = '\n' then [] :: lines cs
    else
      match lines cs with
      | [] => [[c]]
      | line :: rest => (c :: line) :: rest

end CommandSpec.Text

namespace CommandSpec

def blockOfLines (lines : List String) : String :=
  .ofList (Text.block (lines.map String.toList))

def linesOfBlock (block : String) : List String :=
  (Text.lines block.toList).map String.ofList

end CommandSpec
