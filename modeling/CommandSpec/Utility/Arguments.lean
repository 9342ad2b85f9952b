import CommandSpec.Machine.Task
import CommandSpec.Text.Quoting

/-!
# Options and operands

An option has a letter, a long name or both. Letters may stand together after one dash, and a letter
with a value takes the rest of its argument, or the next argument when nothing is left. A long name
follows two dashes and may be cut short where no other option starts the same way; its value comes
after a `=`, or is the next argument if it must have one. Options end at `--`; programs that keep the
order of their arguments also end them at the first operand, all others allow operands in between
unless the environment asks for the strict order.
-/

namespace CommandSpec.Utility

/-- The options that a program knows. -/
structure OptionTable where
  /-- The letters of options without a value. -/
  flags : String := ""
  /-- The letters of options with a value. -/
  valued : String := ""
  /-- The letters of options whose value, if there is one, stands in the same argument. -/
  attached : String := ""
  /-- Long names, each with the letter of the option it stands for. -/
  names : List (String × String) := []
  /-- Options without a letter that have no value. -/
  words : List String := []
  /-- Options without a letter that have a value. -/
  valuedWords : List String := []
  /-- Options without a letter whose value may be left out. -/
  openWords : List String := []
  /-- Whether the first operand ends the options. -/
  ordered : Bool := false
  /-- The letter that asks what the program is. -/
  versionLetter : Option Char := none
  /-- What the program tells of itself after its name. -/
  edition : String := "(GNU coreutils) 9.1"
  deriving Inhabited

/-- The options of one program call, each known by its letter or else by its long name, with its
value, and the operands. -/
structure Arguments where
  options : List (String × String) := []
  operands : List String := []
  deriving Inhabited

namespace Arguments

/-- Whether an option is given. -/
def has (a : Arguments) (option : String) : Bool :=
  a.options.any (·.1 = option)

/-- Whether one of some options is given. -/
def hasAny (a : Arguments) (options : List String) : Bool :=
  a.options.any fun o => options.contains o.1

/-- The value of an option; of several the last one counts. -/
def value? (a : Arguments) (option : String) : Option String :=
  a.options.reverse.lookup option

/-- The last of some options that is given, with its value. -/
def last? (a : Arguments) (options : List String) : Option (String × String) :=
  a.options.reverse.find? fun o => options.contains o.1

/-- The letters of all options that have one. -/
def letters (a : Arguments) : List Char :=
  a.options.filterMap fun o =>
    match o.1.toList with
    | [letter] => some letter
    | _ => none

end Arguments

/-- An option that still needs a value, with the complaint if there is none. -/
structure OpenOption where
  option : String
  complaint : String

namespace OptionTable

/-- The options in an argument after its dash: each with its value, and one that still needs a value. -/
def readLetters (t : OptionTable) :
    List Char → Except String (List (String × String) × Option OpenOption)
  | [] => .ok ([], none)
  | c :: cs =>
    if t.valued.toList.contains c then
      if cs.isEmpty then
        .ok ([], some ⟨c.toString, "option requires an argument -- '" ++ c.toString ++ "'"⟩)
      else .ok ([(c.toString, .ofList cs)], none)
    else if t.versionLetter = some c then do
      let (found, open?) ← readLetters t cs
      return (("version", "") :: found, open?)
    else if t.attached.toList.contains c then .ok ([(c.toString, .ofList cs)], none)
    else if t.flags.toList.contains c then do
      let (found, open?) ← readLetters t cs
      return ((c.toString, "") :: found, open?)
    else .error ("invalid option -- '" ++ c.toString ++ "'")

/-- All long names, each with the option it stands for. -/
def longNames (t : OptionTable) : List (String × String) :=
  t.names ++ (t.words ++ t.valuedWords ++ t.openWords ++ ["help", "version"]).map fun w => (w, w)

/-- The long name that a text stands for, with its option. -/
def longName? (t : OptionTable) (name : String) : Except String (String × String) :=
  match t.longNames.find? (·.1 = name) with
  | some found => .ok found
  | none =>
    match t.longNames.filter fun n => name.toList.isPrefixOf n.1.toList with
    | [] => .error ("unrecognized option '--" ++ name ++ "'")
    | found :: others =>
      if others.all (·.2 = found.2) then .ok found
      else .error ("option '--" ++ name ++ "' is ambiguous; possibilities: "
        ++ " ".intercalate ((found :: others).map fun n => "'--" ++ n.1 ++ "'"))

/-- The option in an argument after its two dashes. -/
def readLong (t : OptionTable) (cs : List Char) :
    Except String (List (String × String) × Option OpenOption) := do
  let written := String.ofList (cs.takeWhile (· ≠ '='))
  let (name, option) ← t.longName? written
  let needsValue := (t.valued.toList.map Char.toString).contains option || t.valuedWords.contains option
  let takesValue := needsValue || t.openWords.contains option
    || (t.attached.toList.map Char.toString).contains option
  match cs.drop written.length with
  | '=' :: value =>
    if takesValue then return ([(option, .ofList value)], none)
    throw ("option '--" ++ name ++ "' doesn't allow an argument")
  | _ =>
    if needsValue then return ([], some ⟨option, "option '--" ++ name ++ "' requires an argument"⟩)
    return ([(option, "")], none)

/-- Read arguments; `open?` is an option that waits for its value. -/
def readFrom (t : OptionTable) : (open? : Option OpenOption) → List String → Except String Arguments
  | none, [] => .ok {}
  | some o, [] => .error o.complaint
  | some o, value :: rest => do
    let found ← readFrom t none rest
    return { found with options := (o.option, value) :: found.options }
  | none, arg :: rest =>
    if arg = "--" then .ok { operands := rest }
    else if arg.toList.head? = some '-' && arg ≠ "-" then do
      let (options, open?) ← match arg.toList with
        | '-' :: '-' :: cs => t.readLong cs
        | cs => t.readLetters (cs.drop 1)
      let found ← readFrom t open? rest
      return { found with options := options ++ found.options }
    else if t.ordered then .ok { operands := arg :: rest }
    else do
      let found ← readFrom t none rest
      return { found with operands := arg :: found.operands }

/-- Read the arguments of a program. -/
def read (t : OptionTable) (args : List String) : Except String Arguments :=
  t.readFrom none args

end OptionTable

/-- Say where to find help. -/
def hint (status : Nat) : Task Nat := do
  Task.remark ("Try '" ++ (← read).speaker ++ " --help' for more information.")
  return status

/-- Say where to find help as a complaint. -/
def spokenHint (status : Nat) : Task Nat := do
  Task.complain ("Try '" ++ (← read).speaker ++ " --help' for more information.")
  return status

/-- Complain about how a program was called, with a hint where to find help. -/
def misuse (complaint : String) (status : Nat) : Task Nat := do
  Task.complain complaint
  hint status

/-- Run a utility on its options and operands. A misuse of options is complained about and handed to
`onMisuse`. -/
def withOptionsOr (table : OptionTable) (onMisuse : Task Nat) (args : List String)
    (run : Arguments → Task Nat) : Task Nat := do
  let isStrict := ((← read).environment.lookup "POSIXLY_CORRECT").isSome
  match { table with ordered := table.ordered || isStrict }.read args with
  | .error complaint =>
    Task.complain complaint
    onMisuse
  | .ok a =>
    match (a.last? ["help", "version"]).map Prod.fst with
    | some "version" =>
      Task.printLine ((← read).speaker ++ " " ++ table.edition)
      return 0
    | some _ =>
      Task.printLine ("Usage: " ++ (← read).speaker ++ " [OPTION]... [ARGUMENT]...")
      return 0
    | none => run a

/-- Run a utility on its options and operands; `status` is what a misuse of options ends with. -/
def withOptions (table : OptionTable) (args : List String)
    (run : Arguments → Task Nat) (status : Nat := 1) : Task Nat :=
  withOptionsOr table (hint status) args run

/-- What a value stands for that is one of some words, cut short or not: words in one group stand for
the same. -/
def readChoice {α : Type} (option value : String) (groups : List (List String × α)) :
    Except String α :=
  let starting := groups.filter fun g => g.1.any fun w => value.toList.isPrefixOf w.toList
  match groups.find? fun g => g.1.contains value, starting with
  | some (_, a), _ => .ok a
  | none, [(_, a)] => .ok a
  | none, found =>
    let kind := if found.isEmpty then "invalid" else "ambiguous"
    .error (kind ++ " argument " ++ inQuotes value ++ " for " ++ inQuotes option ++ "\nValid arguments are:"
      ++ String.join (groups.map fun g => "\n  - " ++ ", ".intercalate (g.1.map inQuotes)))

end CommandSpec.Utility
