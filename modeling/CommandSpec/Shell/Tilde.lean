import CommandSpec.Machine.Account
import CommandSpec.Shell.State
import CommandSpec.Shell.Syntax

/-!
# Tildes

A tilde at the start of a word stands for a home directory, up to the next slash; in the value of an
assignment also after a colon. What is quoted or expanded is no part of it.
-/

namespace CommandSpec.Shell

open Eval

/-- Text with its tildes replaced. `isLast` tells whether the text ends the word, and `atStart` whether
a tilde would stand for something here; `skip` characters belong to a tilde before. -/
def tildeSegments (home : String → Option String) (assigned isLast : Bool) :
    (atStart : Bool) → (skip : Nat) → List Char → List Segment
  | _, _, [] => []
  | atStart, skip + 1, _ :: cs => tildeSegments home assigned isLast atStart skip cs
  | atStart, 0, c :: cs =>
    let plain (rest : List Segment) : List Segment :=
      match rest with
      | .text false s :: more => .text false (.ofList (c :: s.toList)) :: more
      | rest => .text false c.toString :: rest
    let name := cs.takeWhile fun d => d ≠ '/' && !(assigned && d = ':')
    let isClosed := isLast || name.length < cs.length
    match if c = '~' && atStart && isClosed then home (.ofList name) else none with
    | some path => .text true path :: tildeSegments home assigned isLast false name.length cs
    | none => plain (tildeSegments home assigned isLast (assigned && c = ':') 0 cs)

/-- The segments of a word with the tildes in its text replaced. -/
def tildeWord (home : String → Option String) (assigned : Bool) : (atStart : Bool) → Word → Word
  | _, [] => []
  | atStart, .text false s :: rest =>
    tildeSegments home assigned rest.isEmpty atStart 0 s.toList
      ++ tildeWord home assigned (assigned && s.toList.getLast? = some ':') rest
  | _, segment :: rest => segment :: if assigned then tildeWord home assigned false rest else rest

/-- The word with its tildes replaced; `assigned` tells that it is the value of an assignment. -/
def expandTilde (assigned : Bool) (word : Word) : Eval Word := do
  let home ← valueOf? "HOME"
  let homeOf (name : String) : Option String :=
    if name = "" then home else (Account.ofName? name).map Account.home
  return tildeWord homeOf assigned true word

end CommandSpec.Shell
