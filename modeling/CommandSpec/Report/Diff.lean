/-!
# Differences between two channels

Printed lines are set beside the expected ones by position. A line that starts with `#` or `DEBUG:`
is a *debug line*; while these are filtered, they are shown but take no part.
-/

namespace CommandSpec

def isDebug (line : String) : Bool :=
  ['#'].isPrefixOf line.toList || "DEBUG:".toList.isPrefixOf line.toList

def isHidden (filter : Bool) (line : String) : Bool :=
  filter && isDebug line

/-- The lines that take part in a comparison. -/
def shown (filter : Bool) (actual : List String) : List String :=
  actual.filter fun line => !isHidden filter line

inductive Row where
  | same (n : Nat) (text : String)
  | actual (n : Nat) (text : String)
  | expected (text : String)
  | debug (n : Nat) (text : String)
  | extra (n : Nat) (text : String)
  | missing (text : String)
  deriving DecidableEq, Repr

namespace Row

/-- A row about the printed line at position `n`, with its mark. -/
def numbered (n : Nat) (mark text : String) : String :=
  toString n ++ " " ++ mark ++ text

def render : Row → String
  | same n text => numbered n " " text
  | actual n text => numbered n "=" text
  | expected text => "exp :" ++ text
  | debug n text => numbered n "~" text
  | extra n text => numbered n "+" text
  | missing text => "exp!:" ++ text

end Row

/-- The rows from position `n` on. -/
def diffFrom (filter : Bool) : Nat → List String → List String → List Row
  | n, a :: as, e :: es =>
    if isHidden filter a then .debug n a :: diffFrom filter (n + 1) as (e :: es)
    else if a = e then .same n a :: diffFrom filter (n + 1) as es
    else .actual n a :: .expected e :: diffFrom filter (n + 1) as es
  | n, a :: as, [] =>
    (if isHidden filter a then .debug n a else .extra n a) :: diffFrom filter (n + 1) as []
  | _, [], es => es.map .missing

def diff (filter : Bool) (actual expected : List String) : List Row :=
  diffFrom filter 1 actual expected

/-- The rows from position `n` on that list printed lines, debug lines marked. -/
def listingFrom : Nat → List String → List Row
  | _, [] => []
  | n, a :: as => (if isDebug a then .debug n a else .actual n a) :: listingFrom (n + 1) as

def listing (actual : List String) : List Row :=
  listingFrom 1 actual

end CommandSpec
