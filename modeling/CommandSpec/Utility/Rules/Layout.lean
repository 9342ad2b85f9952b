import CommandSpec.Utility.Rules.Value

/-!
# Formats

A format is a text in which each conversion stands for a value, written as the conversion tells. Its
width and its precision may themselves be values.
-/

namespace CommandSpec.Utility.Rules

/-- What can be wrong with a format and its values. -/
inductive LayoutFault where
  | tooFewValues
  /-- The conversion with a number is none. -/
  | noConversion (number : Nat)
  deriving DecidableEq, Repr, Inhabited

/-- A conversion as it is read from a format: what stands between the sign and the letter. -/
structure Conversion where
  shape : NumberShape
  /-- The values that are left. -/
  values : List Value
  /-- The format after the conversion. -/
  rest : List Char
  deriving Inhabited

/-- A width or a precision at the head of a text, which a star takes from the values. -/
def readAmount (cs : List Char) (vs : List Value) : Option Int × List Char × List Value :=
  match cs, vs with
  | '*' :: cs, v :: vs => (some (toIndex v.toNumber), cs, vs)
  | '*' :: cs, [] => (some 0, cs, [])
  | cs, vs =>
    let digits := cs.takeWhile Char.isDigit
    (if digits.isEmpty then none else some (Text.numberIn 10 digits), cs.drop digits.length, vs)

/-- The conversion after a percent sign. -/
def readConversion (cs : List Char) (vs : List Value) : Conversion :=
  let flags := cs.takeWhile "-+ #0".toList.contains
  let (width?, cs, vs) := readAmount (cs.drop flags.length) vs
  let width := width?.getD 0
  let flags := if width < 0 then '-' :: flags else flags
  let (precision, cs, vs) : Option Int × List Char × List Value := match cs with
    | '.' :: more =>
      let (p, cs, vs) := readAmount more vs
      (some (p.getD 0), cs, vs)
    | cs => (none, cs, vs)
  let cs := cs.dropWhile fun c => c = 'l' || c = 'h' || c = 'L'
  let precision := match precision with
    | some p => if p < 0 then none else some p.toNat
    | none => none
  { shape := { flags, width := width.natAbs, precision, letter := cs.head?.getD ' ' }, values := vs, rest := cs.drop 1 }

/-- The least and the greatest integer that a conversion shows. -/
def shownBounds : Int × Int :=
  (-(2 ^ 63 - 1), 2 ^ 64 - 1)

/-- The character that a value is as a conversion: that of a number, or the first one of a text. -/
def Value.toChar (format : String) (v : Value) : Char :=
  match v.number? with
  | some x => Char.ofNat (toIndex x % 256).toNat
  | none => (v.toText format).toList.head?.getD '\x00'

/-- A value as a conversion shows it, if that is one. -/
def NumberShape.write? (shape : NumberShape) (format : String) (v : Value) : Option (List Char) :=
  if "dioxXu".toList.contains shape.letter then
    some (shape.writeInteger (truncatedWithin shownBounds.1 shownBounds.2 v.toNumber))
  else if "eEfFgGaA".toList.contains shape.letter then some (shape.writeFraction v.toNumber)
  else if shape.letter = 'c' then some (shape.fill false [] [v.toChar format])
  else if shape.letter = 's' then
    let text := (v.toText format).toList
    some (shape.fill false [] ((shape.precision.map text.take).getD text))
  else none

/-- Values in a format, up to what is wrong with it; at most `fuel` characters. The number of conversions
before is `count`. -/
def layoutOn (numbers : String) : (fuel count : Nat) → List Char → List Value → List Char × Option LayoutFault
  | 0, _, _, _ => ([], none)
  | _, _, [], _ => ([], none)
  | fuel + 1, count, '%' :: '%' :: cs, vs =>
    let (text, fault) := layoutOn numbers fuel count cs vs
    ('%' :: text, fault)
  | fuel + 1, count, '%' :: cs, vs =>
    let c := readConversion cs vs
    match c.values with
    | [] => ([], some .tooFewValues)
    | v :: vs =>
      match c.shape.write? numbers v with
      | none => ([], some (.noConversion (count + 1)))
      | some shown =>
        let (text, fault) := layoutOn numbers fuel (count + 1) c.rest vs
        (shown ++ text, fault)
  | fuel + 1, count, c :: cs, vs =>
    let (text, fault) := layoutOn numbers fuel count cs vs
    (c :: text, fault)

/-- Values in a format, up to what is wrong with it; `numbers` is how numbers become texts. -/
def layout (numbers : String) (format : String) (vs : List Value) : List Char × Option LayoutFault :=
  layoutOn numbers (format.length + 1) 0 format.toList vs

end CommandSpec.Utility.Rules
