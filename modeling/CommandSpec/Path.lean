/-!
# Paths

A repeated or trailing slash and a `.` component mean nothing, except that a path may start with a
`.` component or with the root. The last component of a path splits off a *name* and leaves the text
before it as the *parent*.
-/

namespace CommandSpec.Path

inductive Component where
  | root
  | here
  | up
  | name (text : List Char)
  deriving DecidableEq, Repr

/-- The pieces of a text between its slashes; there is always at least one. -/
def pieces : List Char → List (List Char)
  | [] => [[]]
  | c :: cs =>
    if c = '/' then [] :: pieces cs
    else
      match pieces cs with
      | [] => [[c]]
      | piece :: rest => (c :: piece) :: rest

def join : List (List Char) → List Char
  | [] => []
  | [piece] => piece
  | piece :: rest => piece ++ '/' :: join rest

/-- Whether a piece means nothing: it is empty or a `.`. -/
def isIdle (piece : List Char) : Bool :=
  piece = [] || piece = ['.']

/-- The component a path starts with when it is absolute or starts with `.`, and the text after
that. -/
def splitStart : List Char → Option Component × List Char
  | '/' :: cs => (some .root, cs)
  | ['.'] => (some .here, [])
  | '.' :: '/' :: cs => (some .here, '/' :: cs)
  | cs => (none, cs)

def startText : Option Component → List Char
  | some .root => ['/']
  | some .here => ['.']
  | _ => []

def Component.ofPiece (piece : List Char) : Component :=
  if piece = ['.', '.'] then .up else .name piece

def components (path : List Char) : List Component :=
  let (start, body) := splitStart path
  start.toList ++ ((pieces body).filter (!isIdle ·)).map .ofPiece

def dropIdleEnd (ps : List (List Char)) : List (List Char) :=
  (ps.reverse.dropWhile isIdle).reverse

/-- The last piece that is not idle, and the pieces before it. -/
def splitLast? (ps : List (List Char)) : Option (List (List Char) × List Char) :=
  match ps.reverse.dropWhile isIdle with
  | [] => none
  | piece :: before => some (before.reverse, piece)

/-- The text that a start and the pieces before a name make. -/
def parentText (start : Option Component) (before : List (List Char)) : List Char :=
  startText start ++ join (dropIdleEnd before)

/-- The directory and the name that a path splits into: its last component is a name, and the text
before it is not empty. -/
def splitName? (path : String) : Option (String × String) :=
  let (start, body) := splitStart path.toList
  match splitLast? (pieces body) with
  | none => none
  | some (before, piece) =>
    let parent := parentText start before
    if piece = ['.', '.'] || parent = [] then none
    else some (.ofList parent, .ofList piece)

def inside (directory name : String) : String :=
  if directory.toList.getLast? = some '/' then directory ++ name else directory ++ "/" ++ name

end CommandSpec.Path
