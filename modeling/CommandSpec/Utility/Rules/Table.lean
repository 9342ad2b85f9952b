import Std.Data.HashMap
import CommandSpec.Utility.Rules.Value

/-!
# Tables

A table keeps values under keys. Keys are texts, and numbers that are integers are kept apart from them
until a text is asked for. What is looked up moves to the front of the list that it is kept in, and so
the order in which the keys are listed depends on how the table was used.
-/

namespace CommandSpec.Utility.Rules

/-- A key as it is asked for. -/
inductive Key where
  | number (n : Int)
  | text (s : String)
  deriving Repr, DecidableEq, Inhabited

/-- The text of a key. -/
def Key.toText : Key → String
  | number n => toString n
  | text s => s

/-- The key that a value is; a format is for numbers that are no integers. -/
def Value.key (format : String) (v : Value) : Key :=
  match v with
  | number x =>
    match integer? x with
    | some n => if n.natAbs ≤ maxIndex.toNat then .number n else .text (v.toText format)
    | none => .text (v.toText format)
  | v => .text (v.toText format)

/-- The number that scatters texts over lists. -/
def scatter (s : String) : Nat :=
  s.toList.foldl (fun h c => ((h ^^^ (c.toNat % 256)) * 16777619) % 2 ^ 32) 2166136261

/-- A table. -/
structure Table where
  values : Std.HashMap String Value := {}
  /-- Whether the keys are only the numbers from one on, in order. -/
  isSequence : Bool := false
  /-- Whether there are lists of texts. -/
  listsTexts : Bool := false
  /-- The lists of texts; there is a power of two of them. -/
  texts : Array (List String) := #[]
  /-- The lists of numbers, as many as those of texts. -/
  numbers : Array (List Int) := #[]
  deriving Inhabited

namespace Table

/-- How many lists there are at first. -/
def initialSize : Nat := 64

/-- How many keys there may be for each list. -/
def fullness : Nat := 12

/-- How many keys there are. -/
def size (t : Table) : Nat :=
  t.values.size

/-- A table with empty lists. -/
def ofSize (n : Nat) : Table :=
  { texts := Array.replicate n [], numbers := Array.replicate n [] }

/-- The list that a number is in. -/
def numberPlace (t : Table) (n : Int) : Nat :=
  (n % (t.numbers.size : Int)).toNat

/-- The list that a text is in. -/
def textPlace (t : Table) (s : String) : Nat :=
  scatter s % t.texts.size

/-- Put a number to the front of its list. -/
def pushNumber (t : Table) (n : Int) : Table :=
  let place := t.numberPlace n
  { t with numbers := t.numbers.modify place fun l => n :: l.filter (· ≠ n) }

/-- Put a text to the front of its list. -/
def pushText (t : Table) (s : String) : Table :=
  let place := t.textPlace s
  { t with texts := t.texts.modify place fun l => s :: l.filter (· ≠ s) }

/-- Lists twice as many, with what belongs there in the new ones. -/
def spread {α : Type} (belongs : α → Nat) (lists : Array (List α)) : Array (List α) :=
  let low := lists.size
  let kept := (List.range low).map fun i => (lists[i]?.getD []).filter fun a => belongs a % (2 * low) = i
  let moved := (List.range low).map fun i => (lists[i]?.getD []).filter fun a => belongs a % (2 * low) ≠ i
  (kept ++ moved).toArray

/-- The table with twice as many lists. -/
def double (t : Table) : Table :=
  let low := t.numbers.size
  { t with
    texts := spread scatter t.texts
    numbers := spread (fun n => (n % (2 * low : Int)).toNat) t.numbers }

/-- How many lists so many keys need. -/
def sizeFor (n : Nat) : Nat :=
  (List.range 40).foldl (fun size _ => if fullness * size < n then 2 * size else size) initialSize

/-- The table that keeps its keys in lists. -/
def listed (t : Table) : Table :=
  if t.isSequence then
    let start := { ofSize (sizeFor t.size) with values := t.values }
    (List.range t.size).foldl (fun (t : Table) (i : Nat) => t.pushNumber (i + 1)) start
  else if t.texts.isEmpty then { ofSize initialSize with values := t.values }
  else t

/-- The table with every number in the lists of texts too. -/
def withTexts (t : Table) : Table :=
  if t.listsTexts then t
  else
    let t := t.listed
    { t.numbers.foldl (fun t l => l.foldl (fun t n => t.pushText (toString n)) t) t with listsTexts := true }

/-- Whether a key is there. -/
def has (t : Table) (k : Key) : Bool :=
  t.values.contains k.toText

/-- The table with a key that is missing and not yet in its lists. -/
def add (t : Table) (k : Key) : Table :=
  let t := if fullness * t.texts.size < t.size + 1 then t.double else t
  { t with values := t.values.insert k.toText .unset }

/-- The table after a key was looked for; one that is missing is added if `adds` says so. -/
def touch (t : Table) (adds : Bool) (k : Key) : Table :=
  let found := t.has k
  if !found && !adds then
    match k with
    | .number _ => t
    | .text _ => if t.size = 0 then t else t.withTexts
  else
    match k with
    | .number n =>
      if t.isSequence && found then t
      else
        let t := t.listed
        let isListed := (t.numbers[t.numberPlace n]?.getD []).contains n
        let t := if found then t else t.add k
        (if t.listsTexts && !isListed then t.pushText (toString n) else t).pushNumber n
    | .text s =>
      let t := t.withTexts
      (if found then t else t.add k).pushText s

/-- The value under a key. -/
def get (t : Table) (k : Key) : Value :=
  (t.values.get? k.toText).getD .unset

/-- The table with a value under a key that is there. -/
def put (t : Table) (k : Key) (v : Value) : Table :=
  { t with values := t.values.insert k.toText v }

/-- The table without a key. -/
def erase (t : Table) (k : Key) : Table :=
  let name := k.toText
  let isFound := t.has k
  let isKept : Bool := match k with
    | .number _ => t.isSequence && !isFound
    | .text _ => false
  if isKept || t.size = 0 then t
  else
    let t := match k with
      | .number _ => t.listed
      | .text _ => t.withTexts
    if !isFound then t
    else
      let values := t.values.erase name
      if values.isEmpty then {}
      else
        let t := { t with texts := t.texts.modify (t.textPlace name) fun l => l.filter (· ≠ name) }
        let number? : Option Int := match k with
          | .number n => some n
          | .text s => (s.toInt?).filter fun n => toString n = s
        match number? with
        | none => { t with values }
        | some n =>
          { t with values, numbers := t.numbers.modify (t.numberPlace n) fun l => l.filter (· ≠ n) }

/-- The keys in the order in which they are listed, and the table after that. -/
def keys (t : Table) : List String × Table :=
  if t.size = 0 then ([], t)
  else
    let t := t.withTexts
    (t.texts.toList.flatten, t)

/-- The table of some values under the numbers from one on. -/
def ofList (vs : List Value) : Table :=
  if vs.isEmpty then {}
  else
    let values := (vs.zipIdx 1).foldl (fun m (v, i) => m.insert (toString i) v) (∅ : Std.HashMap String Value)
    { values, isSequence := true }

end Table

end CommandSpec.Utility.Rules
