import CommandSpec.Text.CharClass
import CommandSpec.Utility.Arguments
import CommandSpec.Utility.Escape

/-!
# `tr`

`tr` replaces, deletes or squeezes bytes. Its operands are sets of bytes, written with ranges,
classes and escapes; a second set that is too short is continued by its last byte.
-/

namespace CommandSpec.Utility

/-- All bytes, as characters. -/
def allBytes : List Char :=
  (List.range 256).map Char.ofNat

/-! ## Sets -/

/-- The octal digits after a backslash that stand for a byte. Three of them may be too great, and then
only two count. -/
def octalEscape (cs : List Char) : List Char :=
  let octal := leadingDigits 8 3 cs
  if Text.numberIn 8 octal < 256 then octal else octal.take 2

/-- What may not be meant in the text after a backslash, if anything. -/
def escapeDoubt? (cs : List Char) : Option String :=
  match cs, leadingDigits 8 3 cs with
  | [], _ => some "warning: an unescaped backslash at end of string is not portable"
  | _, [a, b, c] =>
    if (octalEscape cs).length = 3 then none
    else
      let shown (digits : List Char) : String := "\\" ++ .ofList digits
      some ("warning: the ambiguous octal escape " ++ shown [a, b, c] ++ " is being\n\tinterpreted as the "
        ++ "2-byte sequence " ++ shown ['0', a, b] ++ ", " ++ c.toString)
  | _, _ => none

/-- The byte that the text after a backslash stands for, and how much of it the escape takes. -/
def setEscape (cs : List Char) : Char × Nat :=
  let octal := octalEscape cs
  match cs with
  | [] => ('\\', 0)
  | c :: _ =>
    if !octal.isEmpty then (byteOf 8 octal, octal.length)
    else if c = 'e' then (c, 1)
    else ((letterEscape? c).getD c, 1)

/-- The text of an operand with its escapes replaced; an escaped byte is marked. -/
def readEscapes : (skip : Nat) → List Char → List (Char × Bool)
  | _, [] => []
  | skip + 1, _ :: cs => readEscapes skip cs
  | 0, '\\' :: cs =>
    let (c, n) := setEscape cs
    (c, n ≠ 0) :: readEscapes n cs
  | 0, c :: cs => (c, false) :: readEscapes 0 cs

/-- What may not be meant in the escapes of an operand. -/
def escapeDoubts : (skip : Nat) → List Char → List String
  | _, [] => []
  | skip + 1, _ :: cs => escapeDoubts skip cs
  | 0, '\\' :: cs => (escapeDoubt? cs).toList ++ escapeDoubts (setEscape cs).2 cs
  | 0, _ :: cs => escapeDoubts 0 cs

/-- The letters of one case. -/
inductive LetterCase where
  | upper
  | lower
  deriving DecidableEq, Repr

/-- A part of a set. -/
inductive SetPart where
  | byte (c : Char)
  | range (low high : Char)
  | letters (case : LetterCase)
  /-- Another class of bytes. -/
  | named (bytes : List Char)
  /-- The bytes that count as the same as one, which is this one alone. -/
  | equivalent (c : Char)
  /-- One byte several times, or as often as it takes to make the set long enough. -/
  | repeated (c : Char) (count : Option Nat)
  deriving DecidableEq, Repr, Inhabited

/-- What is wrong with the sets. -/
inductive SetFault where
  | backwards (low high : Char)
  | noName (mark : Char)
  | unknownClass (name : String)
  | severalEquivalent (text : String)
  | badCount (text : String)
  | fillInFirst
  | severalFills
  | fillWithoutMap
  | equivalentInSecond
  | classInSecond
  | misaligned
  | endsInClass
  | emptySecond
  | manyForComplement
  deriving DecidableEq, Repr

/-- The complaint about sets. -/
def SetFault.message : SetFault → String
  | backwards low high => "range-endpoints of " ++ inQuotes (.ofList [low, '-', high])
      ++ " are in reverse collating sequence order"
  | noName ':' => "missing character class name '[::]'"
  | noName _ => "missing equivalence class character '[==]'"
  | unknownClass name => "invalid character class " ++ inQuotes name
  | severalEquivalent text => text ++ ": equivalence class operand must be a single character"
  | badCount text => "invalid repeat count " ++ inQuotes text ++ " in [c*n] construct"
  | fillInFirst => "the [c*] repeat construct may not appear in string1"
  | severalFills => "only one [c*] repeat construct may appear in string2"
  | fillWithoutMap => "the [c*] construct may appear in string2 only when translating"
  | equivalentInSecond => "[=c=] expressions may not appear in string2 when translating"
  | classInSecond => "when translating, the only character classes that may appear in\n"
      ++ "string2 are 'upper' and 'lower'"
  | misaligned => "misaligned [:upper:] and/or [:lower:] construct"
  | endsInClass => "when translating with string1 longer than string2,\n"
      ++ "the latter string must not end with a character class"
  | emptySecond => "when not truncating set1, string2 must be non-empty"
  | manyForComplement => "when translating with complemented character classes,\n"
      ++ "string2 must map all characters in the domain to one"

/-- A part of a set that is given by the name of a class. -/
def namedClass? : String → Option SetPart
  | "upper" => some (.letters .upper)
  | "lower" => some (.letters .lower)
  | name => (Text.charClass? name).map fun f => .named (allBytes.filter f)

/-- How many bytes stand before the first place where a delimiter closes its bracket. -/
def lengthToClose? (delimiter : Char) : List (Char × Bool) → Option Nat
  | (c, false) :: (']', false) :: rest =>
    if c = delimiter then some 0
    else (lengthToClose? delimiter ((']', false) :: rest)).map (· + 1)
  | _ :: rest => (lengthToClose? delimiter rest).map (· + 1)
  | [] => none

/-- Whether a text is a star, digits and a closing bracket. -/
def isStarred (cs : List (Char × Bool)) : Bool :=
  match cs with
  | ('*', false) :: rest => (rest.dropWhile fun c => c.1.isDigit).head? = some (']', false)
  | _ => false

/-- The class `[:alpha:]` or the equivalents `[=a=]` after an opening bracket, and the length after the
bracket. -/
def classAt? (cs : List (Char × Bool)) : Except SetFault (Option (SetPart × Nat)) :=
  match cs with
  | (mark, false) :: rest =>
    if mark ≠ ':' && mark ≠ '=' then .ok none
    else
      match lengthToClose? mark rest with
      | none => .ok none
      | some n =>
        let name := (rest.take n).map Prod.fst
        let part? := if mark = ':' then namedClass? (.ofList name)
          else if n = 1 then some (.equivalent (name.headD ' ')) else none
        match part? with
        | some part => .ok (some (part, n + 3))
        | none =>
          if n = 0 then .error (.noName mark)
          else if isStarred rest then .ok none
          else if mark = ':' then .error (.unknownClass (.ofList name))
          else .error (.severalEquivalent (.ofList name))
  | _ => .ok none

/-- The repetition `[a*3]` or `[a*]` after an opening bracket, and the length after the bracket. -/
def repetitionAt? (cs : List (Char × Bool)) : Except SetFault (Option (SetPart × Nat)) :=
  match cs with
  | (c, _) :: ('*', false) :: rest =>
    let count := (rest.takeWhile fun x => !x.2 && x.1 ≠ ']').map Prod.fst
    if (rest.drop count.length).head? ≠ some (']', false) then .ok none
    else
      let base := if count.head? = some '0' then 8 else 10
      if !count.all (Text.isDigitIn base) then .error (.badCount (.ofList count))
      else
        let n := Text.numberIn base count
        .ok (some (.repeated c (if n = 0 then none else some n), count.length + 3))
  | _ => .ok none

/-- The parts of a set in order; the first `skip` bytes were taken by a part. -/
def setParts : (skip : Nat) → List (Char × Bool) → Except SetFault (List SetPart)
  | _, [] => .ok []
  | skip + 1, _ :: cs => setParts skip cs
  | 0, c :: cs => do
    if cs.length < 2 then return .byte c.1 :: (← setParts 0 cs)
    let found ← if c = ('[', false) then do
        match ← classAt? cs with
        | some found => pure (some found)
        | none => repetitionAt? cs
      else pure none
    match found, cs with
    | some (part, n), _ => return part :: (← setParts n cs)
    | none, ('-', false) :: high :: _ =>
      if high.1 < c.1 then throw (.backwards c.1 high.1)
      return .range c.1 high.1 :: (← setParts 2 cs)
    | none, _ => return .byte c.1 :: (← setParts 0 cs)

namespace SetPart

/-- The bytes of a part; one that fills up is `fill` bytes long. -/
def bytes (fill : Nat) : SetPart → List Char
  | byte c => [c]
  | range low high => allBytes.filter fun b => low ≤ b && b ≤ high
  | letters .upper => allBytes.filter Char.isUpper
  | letters .lower => allBytes.filter Char.isLower
  | named cs => cs
  | equivalent c => [c]
  | repeated c count => List.replicate (count.getD fill) c

/-- The case of a part that is a class of letters. -/
def case? : SetPart → Option LetterCase
  | letters case => some case
  | _ => none

/-- Whether the part is a class. -/
def isClass : SetPart → Bool
  | letters _ => true
  | named _ => true
  | _ => false

/-- Whether the part is as long as it takes. -/
def isFill : SetPart → Bool
  | repeated _ none => true
  | _ => false

/-- Whether the part stands for the equivalents of a byte. -/
def isEquivalent : SetPart → Bool
  | equivalent _ => true
  | _ => false

end SetPart

/-- A byte of a set; the first byte of a class of letters tells its case. -/
structure SetByte where
  byte : Char
  case : Option LetterCase := none
  /-- Whether it is the first byte of its part. -/
  first : Bool := false
  deriving Repr, Inhabited

/-- The bytes of a set in order. -/
def setBytes (fill : Nat) (parts : List SetPart) : List SetByte :=
  parts.flatMap fun part =>
    match part.bytes fill with
    | [] => []
    | b :: bs =>
      { byte := b, case := part.case?, first := true } :: bs.map fun byte =>
        { byte, case := part.case? }

/-- The bytes after the rest of the current part. -/
def nextPart (bytes : List SetByte) : List SetByte :=
  bytes.dropWhile (!·.first)

/-- Whether every class of letters in the second set stands where one begins in the first set; at most
`fuel` bytes are looked at. -/
def areAligned : (fuel : Nat) → List SetByte → List SetByte → Bool
  | fuel + 1, b :: bs, c :: cs =>
    if c.case.isNone then areAligned fuel bs cs
    else b.first && b.case.isSome && areAligned fuel (nextPart bs) (nextPart cs)
  | _, [], c :: _ => c.case.isNone
  | _, _, _ => true

/-- What each byte is replaced by, as far as the sets tell; at most `fuel` bytes are looked at. -/
def replacements : (fuel : Nat) → List SetByte → List SetByte → List (Char × Char)
  | fuel + 1, b :: bs, c :: cs =>
    let ofCase (f : Char → Bool) (g : Char → Char) : List (Char × Char) :=
      (allBytes.filter f).map fun x => (x, g x)
    let here := match b.case, c.case with
      | some .lower, some .upper => ofCase Char.isLower Char.toUpper
      | some .upper, some .lower => ofCase Char.isUpper Char.toLower
      | _, _ => [(b.byte, c.byte)]
    here ++ if c.case.isSome then replacements fuel (nextPart bs) (nextPart cs)
      else replacements fuel bs cs
  | _, _, _ => []

/-! ## Mapping -/

/-- What `tr` is asked to do. -/
structure ByteMap where
  complement : Bool := false
  delete : Bool := false
  squeeze : Bool := false
  /-- Whether the first set is cut to the length of the second. -/
  truncate : Bool := false
  deriving Inhabited

/-- What becomes of bytes: each is deleted or replaced, and a run of one byte may be squeezed. -/
structure ByteActions where
  deleted : Char → Bool := fun _ => false
  replaced : Char → Char := id
  squeezed : Option (Char → Bool) := none
  deriving Inhabited

/-- A text in which a run of one byte of a set is that byte once; `before` is the byte that was
written last. -/
def squeezeRuns (set : Char → Bool) : (before : Option Char) → List Char → List Char
  | _, [] => []
  | before, c :: cs =>
    if before = some c && set c then squeezeRuns set before cs
    else c :: squeezeRuns set (some c) cs

/-- The text with its bytes acted on. The byte that was written last matters where runs are
squeezed. -/
def ByteActions.apply (t : ByteActions) (before : Option Char) (text : List Char) : List Char :=
  let mapped := (text.filter (!t.deleted ·)).map t.replaced
  match t.squeezed with
  | none => mapped
  | some set => squeezeRuns set before mapped

/-- Whether a byte is in a table of all bytes. -/
def tableOf (f : Char → Bool) : Char → Bool :=
  let table : Array Bool := (allBytes.map f).toArray
  fun c => table[c.toNat]?.getD false

/-- The function that a list of replacements is; of several for one byte the last one counts. -/
def replacing (pairs : List (Char × Char)) : Char → Char :=
  let table : Array Char :=
    pairs.foldl (fun table (b, c) => table.setIfInBounds b.toNat c) allBytes.toArray
  fun c => table[c.toNat]?.getD c

namespace ByteMap

/-- The bytes that the first set selects. -/
def sourceBytes (t : ByteMap) (first : List SetPart) : List SetByte :=
  let listed := setBytes 0 first
  if t.complement then
    let isListed := tableOf fun c => listed.any (·.byte = c)
    (allBytes.filter (!isListed ·)).map fun byte => { byte }
  else listed

/-- The second set, made as long as the first one where it may be, with what is wrong with it. -/
def checkTarget (t : ByteMap) (first : List SetPart) (source : List SetByte)
    (second : List SetPart) : Except SetFault (List SetByte) := do
  let given := (setBytes 0 second).length
  let target := setBytes (source.length - given) second
  if (second.filter SetPart.isFill).length > 1 then throw .severalFills
  if second.any SetPart.isEquivalent then throw .equivalentInSecond
  if second.any fun p => p.isClass && p.case?.isNone then throw .classInSecond
  if !t.complement && !areAligned (source.length + target.length) source target then
    throw .misaligned
  let target ← if source.length ≤ target.length || t.truncate then pure target
    else
      match second.getLast?, target.getLast? with
      | some part, some last =>
        if part.isClass then throw .endsInClass
        pure (target ++ List.replicate (source.length - target.length) { byte := last.byte, first := true })
      | _, _ => throw .emptySecond
  let isOne := target.all fun b => some b.byte = target.head?.map SetByte.byte
  if t.complement && first.any SetPart.isClass && !(target.length = source.length && isOne) then
    throw .manyForComplement
  return target

/-- What becomes of bytes by one or two sets, or what is wrong with the sets. -/
def actions (t : ByteMap) (first : List SetPart) (second? : Option (List SetPart)) :
    Except SetFault ByteActions := do
  let source := t.sourceBytes first
  let isSource := tableOf fun c => source.any (·.byte = c)
  if first.any SetPart.isFill then throw .fillInFirst
  match second? with
  | none =>
    return if t.delete then { deleted := isSource } else { squeezed := some isSource }
  | some second =>
    if t.delete then
      if second.any SetPart.isFill then throw .fillWithoutMap
      let target := setBytes 0 second
      return { deleted := isSource, squeezed := some (tableOf fun c => target.any (·.byte = c)) }
    else
      let target ← t.checkTarget first source second
      let pairs := replacements (source.length + target.length) source target
      return {
        replaced := replacing pairs
        squeezed := if t.squeeze then some (tableOf fun c => target.any (·.byte = c)) else none }

/-- What is wrong with the number of sets, if anything; the second text explains it. -/
def operandFault? (t : ByteMap) : List String → Option (String × Option String)
  | [] => some ("missing operand", none)
  | [only] =>
    if t.delete && t.squeeze then
      some ("missing operand after " ++ inQuotes only,
        some "Two strings must be given when both deleting and squeezing repeats.")
    else if t.delete || t.squeeze then none
    else some ("missing operand after " ++ inQuotes only,
      some "Two strings must be given when translating.")
  | [_, second] =>
    if t.delete && !t.squeeze then
      some ("extra operand " ++ inQuotes second,
        some "Only one string may be given when deleting without squeezing repeats.")
    else none
  | _ :: _ :: extra :: _ => some ("extra operand " ++ inQuotes extra, none)

end ByteMap

/-- Map the bytes of standard input piece by piece; at most `fuel` pieces. -/
def mapInput (f : (before : Option Char) → List Char → List Char) :
    (fuel : Nat) → (before : Option Char) → Task (Except OsError Unit)
  | 0, _ => return .ok ()
  | fuel + 1, before => do
    match ← Task.readChunk 0 65536 with
    | .error e => return .error e
    | .ok chunk =>
      if chunk = "" then return .ok ()
      let mapped := f before chunk.toList
      Task.print (.ofList mapped)
      if ← Task.isRefused then return .ok ()
      mapInput f fuel (mapped.getLast?.or before)

/-- Map the bytes of standard input: `tr [-cdst] set [set]`. -/
def tr (args : List String) : Task Nat :=
  let table : OptionTable :=
    { flags := "cCdst", ordered := true
      names := [("complement", "c"), ("delete", "d"), ("squeeze-repeats", "s"),
        ("truncate-set1", "t")] }
  withOptions table args fun a => do
    let t : ByteMap :=
      { complement := a.has "c" || a.has "C", delete := a.has "d", squeeze := a.has "s",
        truncate := a.has "t" }
    let fail (complaint : String) : Task Nat := do
      Task.complain complaint
      return 1
    match t.operandFault? a.operands with
    | some (fault, none) => misuse fault 1
    | some (fault, some reason) => misuse (fault ++ "\n" ++ reason) 1
    | none =>
      a.operands.forM fun o => (escapeDoubts 0 o.toList).forM Task.complain
      let actions : Except SetFault ByteActions := do
        let sets ← a.operands.mapM fun o => setParts 0 (readEscapes 0 o.toList)
        t.actions (sets.headD []) sets[1]?
      match actions with
      | .error e => fail e.message
      | .ok actions =>
        match ← mapInput actions.apply Task.patience none with
        | .ok () => return 0
        | .error e => fail ("read error: " ++ e.wording)

end CommandSpec.Utility
