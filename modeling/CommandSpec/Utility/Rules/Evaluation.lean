import CommandSpec.Utility.Calendar
import CommandSpec.Utility.Rules.Channel
import CommandSpec.Utility.Rules.Reading

/-!
# Running rules

Expressions have values and effects, and statements have effects. Each kind of expression and statement
is told here by means of an interpreter for its parts; the interpreter itself only counts down how deep
the parts may be nested and how often loops may turn.
-/

namespace CommandSpec.Utility.Rules

open CommandSpec.Regex (Pattern)

/-- What runs the parts of a program. -/
structure Interpreter where
  routines : List Routine
  value : Expression → Eval Value
  run : Statement → Eval Unit

/-! ## Numbers -/

/-- The integer that a magnitude is in some unit, a power of two. -/
def inUnit (significand : Nat) (exponent unit : Int) : Nat :=
  significand * 2 ^ (exponent - unit).toNat

/-- What is left of a number when another one is taken away from it as often as it can be. -/
def remainder (x y : Float) : Float :=
  match magnitudeOf x, magnitudeOf y with
  | (isNegative, .finite s e), (_, .finite t f) =>
    if t = 0 then floatOf false .undefined
    else
      let unit := min e f
      floatOf isNegative (.finite (inUnit s e unit % inUnit t f unit) unit)
  | (_, .finite ..), (_, .infinite) => x
  | _, _ => floatOf false .undefined

/-- An operation on two numbers. -/
def Arithmetic.apply (op : Arithmetic) (x y : Float) : Float :=
  match op with
  | add => x + y
  | subtract => x - y
  | multiply => x * y
  | divide => x / y
  | remainder => Rules.remainder x y
  | power => Float.pow x y

/-- Whether a relation holds for what a comparison has found. -/
def Relation.holds (r : Relation) (o : Option Ordering) : Bool :=
  match r with
  | less => o = some .lt
  | atMost => o = some .lt || o = some .eq
  | equal => o = some .eq
  | unequal => o ≠ some .eq
  | atLeast => o = some .gt || o = some .eq
  | greater => o = some .gt

/-- A number without its fraction. -/
def wholePart (x : Float) : Float :=
  if x < 0.0 then x.ceil else x.floor

namespace Interpreter

/-- The number that an expression is. -/
def number (i : Interpreter) (e : Expression) : Eval Float := do
  return (← i.value e).toNumber

/-- The text that an expression is. -/
def text (i : Interpreter) (e : Expression) : Eval String := do
  Eval.textOf (← i.value e)

/-- The pattern that an expression is. -/
def pattern (i : Interpreter) (e : Expression) : Eval Pattern := do
  match e with
  | .regex p => return p
  | e => Eval.patternOf (← i.text e)

/-- The separator that an expression is. -/
def separator (i : Interpreter) (e : Expression) : Eval Separator := do
  match e with
  | .regex p => return .pattern p
  | e => Eval.separatorOf (← i.text e)

/-! ## Places -/

/-- A place whose parts have values. -/
inductive Spot where
  | common (name : String)
  | parameter (place : Nat)
  | field (n : Int)
  | element (table : Nat) (k : Key)
  deriving Inhabited

/-- The key that some expressions make up. -/
def key (i : Interpreter) (es : List Expression) : Eval Key := do
  match es with
  | [e] => return (← i.value e).key (← Eval.numberFormat)
  | es =>
    let texts ← es.mapM i.text
    return .text ((← Eval.setting "SUBSEP").intercalate texts)

/-- The spot that a place is; an element of a table is there from then on. -/
def spot (i : Interpreter) (p : Place) : Eval Spot := do
  match p with
  | .plain (.common name) => return .common name
  | .plain (.parameter k) => return .parameter k
  | .field index => return .field (toIndex (← i.number index))
  | .element table keys =>
    let t ← Eval.tableOf table
    let k ← i.key keys
    Eval.changeTable t fun t => t.touch true k
    return .element t k

/-- The value at a spot. -/
def fetch (s : Spot) : Eval Value := do
  match s with
  | .common name => Eval.common name
  | .parameter k => return (((← get).frame[k]?).getD {}).value
  | .field n => Eval.field n
  | .element t k => return (← Eval.table t).get k

/-- Put a value at a spot. -/
def store (s : Spot) (v : Value) : Eval Unit := do
  match s with
  | .common name => Eval.setCommon name v
  | .parameter k => modify fun m => { m with frame := m.frame.modify k fun slot => { slot with value := v } }
  | .field n => Eval.setField n v
  | .element t k => Eval.changeTable t fun t => if t.has k then t.put k v else (t.touch true k).put k v

/-! ## Functions of the program -/

/-- What an argument hands over. A name that has no value yet may stand for a table. -/
def argument (i : Interpreter) (e : Expression) : Eval Slot := do
  match e with
  | .place (.plain v) =>
    let value ← i.value e
    match value with
    | .unset => return { value, table := some (← Eval.tableOf v) }
    | value => return { value }
  | e => return { value := ← i.value e }

/-- The value of a call. -/
def call (i : Interpreter) (name : String) (args : List Expression) : Eval Value := do
  match i.routines.find? (·.name = name) with
  | none => return .unset
  | some r =>
    let slots ← args.mapM i.argument
    Eval.breathe
    let outer := (← get).frame
    let missing := r.parameters.length - slots.length
    modify fun m => { m with frame := slots.toArray ++ Array.replicate missing {} }
    let result ← try
        i.run r.body
        pure Value.unset
      catch
        | .leave v => pure v
        | s => throw s
    modify fun m => { m with frame := outer }
    return result

/-! ## Functions that every program has -/

/-- The part of a text from a place on, counted from one, of some length if one is given. -/
def partOf (text : String) (start : Int) (length : Option Int) : String :=
  let stop := match length with
    | none => maxIndex + 1
    | some n => start + n
  let first := max start 1
  .ofList ((text.toList.drop (first - 1).toNat).take (stop - first).toNat)

/-- Values laid out in a format. -/
def layOut (function format : String) (vs : List Value) : Eval (List Char × Option String) := do
  let (text, fault) := layout (← Eval.numberFormat) format vs
  return (text, fault.map fun
    | .tooFewValues => "not enough arguments passed to " ++ function ++ "(\"" ++ format ++ "\")"
    | .noConversion n =>
      "improper conversion(number " ++ toString n ++ ") in " ++ function ++ "(\"" ++ format ++ "\")")

/-- Replace matches in a place. -/
def substitute (i : Interpreter) (all : Bool) (regex replacement : Expression) (p : Place) : Eval Value := do
  let pattern ← i.pattern regex
  let parts := readReplacement 0 (← i.text replacement).toList
  let s ← i.spot p
  let old ← Eval.textOf (← fetch s)
  let (new, n) := replace pattern parts all old.toList
  if n > 0 then store s (.text (.ofList new))
  return .ofNat n

/-- The value of a function that every program has. -/
def apply (i : Interpreter) (f : Function) (args : List Expression) : Eval Value := do
  match f, args with
  | .length, [] => return .ofNat (← Eval.textOf (← Eval.wholeRecord)).length
  | .length, [e] =>
    match e with
    | .place (.plain v) =>
      match ← i.value e with
      | .unset => return .ofNat (← Eval.table (← Eval.tableOf v)).size
      | value => return .ofNat (← Eval.textOf value).length
    | e => return .ofNat (← i.text e).length
  | .index, [a, b] =>
    let text ← i.text a
    return .ofNat (placeOf (← i.text b).toList text.toList)
  | .substring, [a, b] =>
    let text ← i.text a
    return .text (partOf text (toIndex (← i.number b)) none)
  | .substring, [a, b, c] =>
    let text ← i.text a
    let start := toIndex (← i.number b)
    return .text (partOf text start (some (toIndex (← i.number c))))
  | .split, e :: .place (.plain v) :: rest =>
    let text ← i.text e
    let separator ← match rest with
      | [s] => i.separator s
      | _ => pure (← get).fieldSeparator
    let parts := (separator.cut text.toList).map fun cs => Value.input (.ofList cs)
    let t ← Eval.tableOf v
    Eval.changeTable t fun _ => .ofList parts
    return .ofNat parts.length
  | .substitute all, [regex, replacement] => i.substitute all regex replacement (.field (.number 0))
  | .substitute all, [regex, replacement, .place p] => i.substitute all regex replacement p
  | .find, [e, regex] =>
    let text ← i.text e
    let p ← i.pattern regex
    let (start, length) : Value × Value := match p.search {} text.toList 0 with
      | some m => (.ofNat (m.start + 1), .ofNat (m.stop - m.start))
      | none => (.number 0, .number (-1))
    Eval.setCommon "RSTART" start
    Eval.setCommon "RLENGTH" length
    return start
  | .format, e :: es =>
    let format ← i.text e
    let vs ← es.mapM i.value
    let (text, fault) ← layOut "sprintf" format vs
    if let some complaint := fault then Eval.fault complaint
    return .text (.ofList text)
  | .sine, [e] => return .number (← i.number e).sin
  | .cosine, [e] => return .number (← i.number e).cos
  | .arctangent, [a, b] =>
    let y ← i.number a
    return .number (Float.atan2 y (← i.number b))
  | .exponential, [e] => return .number (← i.number e).exp
  | .logarithm, [e] => return .number (← i.number e).log
  | .root, [e] => return .number (← i.number e).sqrt
  | .truncate, [e] => return .number (wholePart (← i.number e))
  | .random, [] =>
    let n ← modifyGet fun m =>
      let (n, chance) := m.chance.next
      (n, { m with chance })
    return .number (Float.ofNat n / Float.ofNat Chance.limit)
  | .seed, args =>
    let seed ← match args with
      | e :: _ => i.value e
      | [] => pure (.ofNat ((← Eval.task Task.now) / 1000000))
    let old := (← get).seed
    let chance := Chance.ofSeed (toIndex seed.toNumber % 2 ^ 32).toNat
    modify fun m => { m with seed, chance }
    return old
  | .lower, [e] => return .text ((← i.text e).map Char.toLower)
  | .upper, [e] => return .text ((← i.text e).map Char.toUpper)
  | .system, [e] => return .ofNat (← Eval.runCommand (← i.text e))
  | .close, [e] => return .ofInt (← Eval.close (← i.text e))
  | .flush, [] =>
    let _ ← Eval.flushNamed none
    return .number 0
  | .flush, [e] => return .number (if ← Eval.flushNamed (some (← i.text e)) then 0 else -1)
  | .time, [] => return .ofNat ((← Eval.task Task.now) / 1000000)
  | .timeText, args =>
    let zone := Zone.ofEnvironment (← Eval.task read).environment
    let format ← match args with
      | e :: _ => i.text e
      | [] => pure "%c"
    let moment : Int ← match args with
      | _ :: e :: _ => do pure (toIndex (← i.number e) * Date.tick)
      | _ => do pure ((← Eval.task Task.now) : Int)
    let isPlain ← match args with
      | [_, _, e] => do pure ((← i.number e) != 0)
      | _ => pure false
    return .text (Date.write format moment (if isPlain then {} else zone))
  | .timeOf, [e] =>
    let zone := Zone.ofEnvironment (← Eval.task read).environment
    let words := ((← i.text e).toList.splitBy fun a b => a ≠ ' ' && b ≠ ' ').filter (·.head? ≠ some ' ')
    match words.map Text.readInteger? with
    | some year :: some month :: some day :: some hour :: some minute :: some second :: _ =>
      return .ofInt (Date.ofParts year month day hour minute second / Date.tick - zone.ahead)
    | _ => return .number (-1)
  | _, _ => return .unset

/-! ## Expressions -/

/-- Read a record from somewhere: one, zero at the end, minus one if it cannot be read. -/
def getline (i : Interpreter) (supply : Supply) (name : Option Expression) (target : Option Place) :
    Eval Value := do
  let spot? ← target.mapM i.spot
  let put (text : String) : Eval Unit :=
    match spot? with
    | some s => store s (.input text)
    | none => Eval.setRecord (.input text)
  let record? ← match supply, name with
    | .main, _ => some <$> Eval.readMain
    | .file, some e => Eval.readNamed false (← i.text e)
    | .command, some e => Eval.readNamed true (← i.text e)
    | _, none => pure none
  match record? with
  | none => return .number (-1)
  | some none => return .number 0
  | some (some text) =>
    put text
    return .number 1

/-- The value of an expression. -/
def evaluate (i : Interpreter) (e : Expression) : Eval Value := do
  match e with
  | .number x => return .number x
  | .text s => return .text s
  | .regex p => return .ofBool (p.occursIn {} (← Eval.textOf (← Eval.wholeRecord)).toList)
  | .place p => fetch (← i.spot p)
  | .assign p none e =>
    let s ← i.spot p
    let v ← i.value e
    store s v
    return v
  | .assign p (some op) e =>
    let s ← i.spot p
    let y ← i.number e
    let v := Value.number (op.apply (← fetch s).toNumber y)
    store s v
    return v
  | .step p amount isBefore =>
    let s ← i.spot p
    let x := (← fetch s).toNumber
    store s (.number (x + amount))
    return .number (if isBefore then x + amount else x)
  | .choice c a b => if (← i.value c).isTrue then i.value a else i.value b
  | .both a b =>
    if !(← i.value a).isTrue then return .ofBool false
    return .ofBool (← i.value b).isTrue
  | .either a b =>
    if (← i.value a).isTrue then return .ofBool true
    return .ofBool (← i.value b).isTrue
  | .negation e => return .ofBool !(← i.value e).isTrue
  | .isKey es table =>
    let k ← i.key es
    let t ← Eval.tableOf table
    Eval.changeTable t fun t => t.touch false k
    return .ofBool ((← Eval.table t).has k)
  | .matching e r isNegated =>
    let text ← i.text e
    let p ← i.pattern r
    return .ofBool (p.occursIn {} text.toList != isNegated)
  | .relation r a b =>
    let x ← i.value a
    let y ← i.value b
    return .ofBool (r.holds (x.compare (← Eval.numberFormat) y))
  | .concat a b =>
    let s ← i.text a
    return .text (s ++ (← i.text b))
  | .arithmetic op a b =>
    let x ← i.number a
    return .number (op.apply x (← i.number b))
  | .signed isNegative e =>
    let x ← i.number e
    return .number (if isNegative then -x else x)
  | .getline supply name target => i.getline supply name target
  | .call name args => i.call name args
  | .apply f args => i.apply f args

/-! ## Statements -/

/-- Write to where output is sent. -/
def send (i : Interpreter) (target : Option (Drain × Expression)) (text : String) : Eval Unit := do
  match target with
  | none => Eval.emit text
  | some (d, e) => Eval.emitTo d (← i.text e) text

/-- Run the body of a loop: whether the loop goes on. -/
def turn (i : Interpreter) (body : Statement) : Eval Bool := do
  Eval.breathe
  try
    i.run body
    return true
  catch
    | .stop => return false
    | .again => return true
    | s => throw s

/-- Run the body of a loop for some keys of a table. -/
def turns (i : Interpreter) (s : Spot) (body : Statement) : (keys : List String) → Eval Unit
  | [] => pure ()
  | k :: ks => do
    store s (.text k)
    if ← i.turn body then i.turns s body ks

/-- Run a statement. -/
def execute (i : Interpreter) (s : Statement) : Eval Unit := do
  match s with
  | .nothing => pure ()
  | .expression e =>
    let _ ← i.value e
  | .print [] target => i.send target ((← Eval.textOf (← Eval.wholeRecord)) ++ (← Eval.setting "ORS"))
  | .print es target =>
    let vs ← es.mapM i.value
    let format ← Eval.setting "OFMT"
    let between ← Eval.setting "OFS"
    i.send target (between.intercalate (vs.map (·.toText format)) ++ (← Eval.setting "ORS"))
  | .printFormat es target =>
    match es with
    | [] => pure ()
    | e :: es =>
      let format ← i.text e
      let vs ← es.mapM i.value
      let (text, fault) ← layOut "printf" format vs
      i.send target (.ofList text)
      if let some complaint := fault then Eval.fault complaint
  | .choice c a b => if (← i.value c).isTrue then i.run a else i.run b
  | .whileLoop c body =>
    if (← i.value c).isTrue then
      if ← i.turn body then i.run (.whileLoop c body)
  | .doLoop body c =>
    if ← i.turn body then
      if (← i.value c).isTrue then i.run (.doLoop body c)
  | .forLoop c after body =>
    let goesOn ← match c with
      | none => pure true
      | some c => do pure (← i.value c).isTrue
    if goesOn then
      if ← i.turn body then
        let _ ← i.value after
        i.run (.forLoop c after body)
  | .forKeys p table body =>
    let t ← Eval.tableOf table
    let (keys, listed) := (← Eval.table t).keys
    Eval.changeTable t fun _ => listed
    i.turns (← i.spot p) body keys
  | .block ss => for s in ss do i.run s
  | .next => throw .next
  | .nextFile => throw .nextFile
  | .exit none => throw .exit
  | .exit (some e) =>
    let n := toIndex (← i.number e)
    modify fun m => { m with status := (n % 256).toNat }
    throw .exit
  | .leave none => throw (.leave .unset)
  | .leave (some e) => throw (.leave (← i.value e))
  | .stop => throw .stop
  | .again => throw .again
  | .delete table [] => Eval.changeTable (← Eval.tableOf table) fun _ => {}
  | .delete table keys =>
    let k ← i.key keys
    Eval.changeTable (← Eval.tableOf table) fun t => t.erase k

/-- An interpreter for so many steps. -/
def ofFuel (routines : List Routine) : (fuel : Nat) → Interpreter
  | 0 => { routines, value := fun _ => throw .abort, run := fun _ => throw .abort }
  | fuel + 1 =>
    { routines
      value := fun e => (ofFuel routines fuel).evaluate e
      run := fun s => (ofFuel routines fuel).execute s }

/-! ## Programs -/

/-- Whether a rule with a number is for the record. -/
def applies (i : Interpreter) (number : Nat) (c : Condition) : Eval Bool := do
  match c with
  | .every => return true
  | .expression e => return (← i.value e).isTrue
  | .range first last =>
    let isOpen := (← get).ranges.contains number
    let starts ← if isOpen then pure true else do pure (← i.value first).isTrue
    if !starts then return false
    let ends := (← i.value last).isTrue
    modify fun m =>
      let others := m.ranges.filter (· ≠ number)
      { m with ranges := if ends then others else number :: others }
    return true

/-- Run the rules for the record. -/
def runRules (i : Interpreter) (rules : List (Rule × Nat)) : Eval Unit := do
  for (r, number) in rules do
    if ← i.applies number r.condition then i.run r.action

/-- Run the rules for all records; at most `fuel`. -/
def runRecords (i : Interpreter) (rules : List (Rule × Nat)) : (fuel : Nat) → Eval Unit
  | 0 => pure ()
  | fuel + 1 => do
    Eval.breathe
    match ← Eval.readMain with
    | none => pure ()
    | some text =>
      Eval.setRecord (.input text)
      try i.runRules rules
      catch
        | .next => pure ()
        | .nextFile => Eval.closeMain
        | s => throw s
      i.runRecords rules fuel

/-- Run something that an `exit` may end. -/
def untilExit (x : Eval Unit) : Eval Unit := do
  try x
  catch
    | .exit => pure ()
    | s => throw s

/-- Run a program. An `exit` before its last actions leads to these. -/
def runProgram (i : Interpreter) (p : Ruleset) : Eval Unit := do
  untilExit do
    for s in p.beginnings do i.run s
    if !(p.rules.isEmpty && p.endings.isEmpty) then i.runRecords p.rules.zipIdx Task.patience
  untilExit do
    for s in p.endings do i.run s

end Interpreter

end CommandSpec.Utility.Rules
