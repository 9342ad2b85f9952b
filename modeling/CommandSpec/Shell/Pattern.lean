import CommandSpec.Machine.FileSystem
import CommandSpec.Text.CharClass

/-!
# Patterns

A pattern matches texts: `*` stands for any text, `?` for any character and `[…]` for one character
of a set. Characters that were quoted stand for themselves. Patterns choose file names, cases of a
`case` and parts of a parameter's value.
-/

namespace CommandSpec.Shell

/-- A character with whether it was quoted. -/
abbrev Marked := Char × Bool

/-- A member of a set of characters. -/
inductive SetMember where
  | range (first last : Char)
  | named (name : String)
  deriving DecidableEq, Repr, Inhabited

/-- Whether a member stands for a character. -/
def SetMember.holds (c : Char) : SetMember → Bool
  | .range first last => first ≤ c && c ≤ last
  | .named name => ((Text.charClass? name).map fun f => f c).getD false

/-- One item of a pattern. -/
inductive PatternItem where
  | any
  | one
  | literal (c : Char)
  | set (negated : Bool) (members : List SetMember)
  deriving DecidableEq, Repr, Inhabited

/-- The name of the class at the head of a text, such as `[:alpha:]`, and the text after it. -/
def readClass? (cs : List Marked) : Option (String × List Marked) :=
  match cs with
  | ('[', false) :: (':', false) :: rest =>
    let name := rest.takeWhile fun c => c.1.isAlpha
    match rest.drop name.length with
    | (':', false) :: (']', false) :: after => some (.ofList (name.map Prod.fst), after)
    | _ => none
  | _ => none

/-- The members of a set up to its closing bracket and what follows that; `isFirst` tells that a
bracket would be a member. At most `fuel` members are read. -/
def readMembers? : (fuel : Nat) → (isFirst : Bool) → List Marked → Option (List SetMember × List Marked)
  | 0, _, _ => none
  | _ + 1, _, [] => none
  | fuel + 1, isFirst, (c, quoted) :: cs =>
    let more (member : SetMember) (rest : List Marked) : Option (List SetMember × List Marked) :=
      (readMembers? fuel false rest).map fun (ms, left) => (member :: ms, left)
    if c = ']' && !quoted && !isFirst then some ([], cs)
    else
      match readClass? ((c, quoted) :: cs) with
      | some (name, rest) => more (.named name) rest
      | none =>
        match cs with
        | ('-', false) :: (d, q) :: rest =>
          if d = ']' && !q then more (.range c c) cs else more (.range c d) rest
        | _ => more (.range c c) cs

/-- The set after an opening bracket, if it is closed. -/
def readSet? (cs : List Marked) : Option (PatternItem × List Marked) :=
  let (negated, body) : Bool × List Marked := match cs with
    | ('!', false) :: rest => (true, rest)
    | ('^', false) :: rest => (true, rest)
    | _ => (false, cs)
  (readMembers? (body.length + 1) true body).map fun (members, rest) => (.set negated members, rest)

/-- The items of a pattern; `fuel` bounds their number. A backslash that was not taken away as a quote
makes the next character stand for itself. -/
def patternItems : (fuel : Nat) → List Marked → List PatternItem
  | 0, _ => []
  | _ + 1, [] => []
  | fuel + 1, ('*', false) :: cs => .any :: patternItems fuel cs
  | fuel + 1, ('?', false) :: cs => .one :: patternItems fuel cs
  | fuel + 1, ('\\', false) :: (c, _) :: cs => .literal c :: patternItems fuel cs
  | fuel + 1, ('[', false) :: cs =>
    match readSet? cs with
    | some (item, rest) => item :: patternItems fuel rest
    | none => .literal '[' :: patternItems fuel cs
  | fuel + 1, (c, _) :: cs => .literal c :: patternItems fuel cs

/-- The pattern that marked characters make. -/
def readPattern (cs : List Marked) : List PatternItem :=
  patternItems (cs.length + 1) cs

/-- The pattern that a text is. -/
def plainPattern (text : String) : List PatternItem :=
  readPattern (text.toList.map fun c => (c, false))

/-- Whether a pattern matches a whole text. -/
def matchesPattern : List PatternItem → List Char → Bool
  | [], cs => cs.isEmpty
  | .any :: ps, [] => matchesPattern ps []
  | .any :: ps, c :: cs => matchesPattern ps (c :: cs) || matchesPattern (.any :: ps) cs
  | _ :: _, [] => false
  | .one :: ps, _ :: cs => matchesPattern ps cs
  | .literal d :: ps, c :: cs => c = d && matchesPattern ps cs
  | .set negated members :: ps, c :: cs =>
    (members.any (SetMember.holds c) != negated) && matchesPattern ps cs
termination_by ps cs => ps.length + cs.length

/-- Whether marked characters hold anything but literals. -/
def hasWildcard (cs : List Marked) : Bool :=
  (readPattern cs).any fun
    | .literal _ => false
    | _ => true

/-- The marked characters between slashes. -/
def markedPieces : List Marked → List (List Marked)
  | [] => [[]]
  | (c, q) :: cs =>
    if c = '/' then [] :: markedPieces cs
    else
      match markedPieces cs with
      | [] => [[(c, q)]]
      | piece :: rest => ((c, q) :: piece) :: rest

/-- The text of marked characters. -/
def unmarked (cs : List Marked) : String :=
  .ofList (cs.map Prod.fst)

/-- The paths that pieces of a pattern match, from a directory on; `soFar` is the path that led
there. Names that start with a dot need a literal dot. -/
def matchPaths (files : FileSystem) : (here : Inode) → (soFar : String) → List (List Marked) →
    List String
  | _, _, [] => []
  | here, soFar, [last] =>
    if hasWildcard last then (candidates here last).map (soFar ++ ·)
    else
      match files.walk FileSystem.maxLinks here false [unmarked last] with
      | .ok _ => [soFar ++ unmarked last]
      | .error _ => []
  | here, soFar, piece :: rest =>
    let names := if hasWildcard piece then candidates here piece else [unmarked piece]
    names.flatMap fun name =>
      match files.walk FileSystem.maxLinks here true [name] with
      | .ok next =>
        if (files.node next).isDirectory then matchPaths files next (soFar ++ name ++ "/") rest
        else []
      | .error _ => []
where
  /-- The names in a directory that a piece matches. -/
  candidates (here : Inode) (piece : List Marked) : List String :=
    let pattern := readPattern piece
    ("." :: ".." :: files.list here).filter fun name =>
      (name.toList.head? ≠ some '.' || piece.head?.map Prod.fst = some '.')
        && matchesPattern pattern name.toList

/-- The paths that a field matches, in order, or the field itself when it matches none. -/
def expandPath (files : FileSystem) (cwd : Inode) (field : List Marked) : List String :=
  if !hasWildcard field then [unmarked field]
  else
    let (here, soFar, pieces) : Inode × String × List (List Marked) :=
      match markedPieces field with
      | [] :: rest => (FileSystem.root, "/", rest)
      | pieces => (cwd, "", pieces)
    match matchPaths files here soFar pieces with
    | [] => [unmarked field]
    | paths => paths.mergeSort (· ≤ ·)

end CommandSpec.Shell
