import CommandSpec.Text.Integer
import CommandSpec.Utility.Finding.Layout
import CommandSpec.Utility.Moment

/-!
# Reading what is asked

The arguments after the places where a search starts are an expression and settings of the whole search. An
operator that is left out means *and*; when no action is enough, the path of every file for which all else
holds is written.
-/

namespace CommandSpec.Utility.Finding

/-- What a part of an expression is. -/
inductive TokenKind where
  | operand (e : Expression)
  | negation
  | and
  | or
  | comma
  | opening
  | closing
  deriving Inhabited

/-- A part of an expression as it was given, or one that stands around all that was given. -/
structure Token where
  kind : TokenKind
  name : String := ""
  isImplied : Bool := false
  deriving Inhabited

namespace Token

/-- How strongly an operator between two expressions binds. -/
def strength (t : Token) : Nat :=
  match t.kind with
  | .comma => 1
  | .or => 2
  | .and => 3
  | _ => 0

/-- Whether an expression has to follow. -/
def isOperator (t : Token) : Bool :=
  match t.kind with
  | .negation => true
  | _ => t.strength ≠ 0

/-- Whether an expression ends here. -/
def endsOperand (t : Token) : Bool :=
  match t.kind with
  | .operand _ => true
  | .closing => true
  | _ => false

/-- Whether it is a closing parenthesis. -/
def isClosing (t : Token) : Bool :=
  match t.kind with
  | .closing => true
  | _ => false

end Token

/-- A part given by its name. -/
def tokenNamed (kind : TokenKind) (name : String) : Token :=
  { kind, name }

mutual

/-- An expression whose operators bind more strongly than `strength`, and what follows; `before` stands before
it. -/
def readExpression : (fuel strength : Nat) → (before : Option Token) → List Token →
    Except String (Expression × List Token)
  | 0, _, _, _ => .error "invalid expression"
  | _ + 1, _, _, [] => .error "invalid expression"
  | fuel + 1, strength, before, t :: rest => do
    let name := (before.map Token.name).getD ""
    match t.kind with
    | .operand e => continueWith fuel strength e rest
    | .negation =>
      let (e, rest) ← readExpression fuel 4 (some t) rest
      continueWith fuel strength (.negation e) rest
    | .closing =>
      if before.any Token.isOperator && !t.isImplied then
        throw ("expected an expression between '" ++ name ++ "' and ')'")
      else if t.isImplied then throw ("expected an expression after '" ++ name ++ "'")
      else throw "invalid expression; you have too many ')'"
    | .opening =>
      match rest with
      | [] =>
        throw ("invalid expression; expected to find a ')' but didn't see one.  Perhaps you need an extra predicate "
          ++ "after '" ++ t.name ++ "'")
      | next :: _ =>
        if next.isImplied then
          throw ("invalid expression; expected to find a ')' but didn't see one.  Perhaps you need an extra "
            ++ "predicate after '" ++ t.name ++ "'")
        if next.isClosing then throw "invalid expression; empty parentheses are not allowed."
        let (e, rest) ← readExpression fuel 0 (some t) rest
        match rest with
        | close :: rest =>
          if close.isClosing then continueWith fuel strength e rest
          else throw "invalid expression; I was expecting to find a ')' somewhere but did not see one."
        | [] => throw "invalid expression; I was expecting to find a ')' somewhere but did not see one."
    | _ =>
      throw ("invalid expression; you have used a binary operator '" ++ t.name ++ "' with nothing before it.")

/-- An expression with what binds it more strongly than `strength`. -/
def continueWith : (fuel strength : Nat) → Expression → List Token → Except String (Expression × List Token)
  | 0, _, _, _ => .error "invalid expression"
  | fuel + 1, strength, e, t :: rest => do
    if t.strength ≤ strength then return (e, t :: rest)
    let (other, rest) ← readExpression fuel t.strength (some t) rest
    let joined : Expression := match t.kind with
      | .and => .both e other
      | .or => .either e other
      | _ => .sequence e other
    continueWith fuel strength joined rest
  | _ + 1, _, e, [] => .ok (e, [])

end

/-! ## Arguments -/

/-- What was read of the arguments. -/
structure ReadState where
  settings : Settings := {}
  /-- The parts of the expression, the last one first. -/
  tokens : List Token := []
  /-- Whether an action was given that is enough. -/
  isEnough : Bool := false
  syntaxOf : RegexSyntax := { plainSigns := true, intervals := false }
  /-- Whether days are counted from the start of the day. -/
  fromMidnight : Bool := false
  depthGiven : Bool := false
  deletes : Bool := false
  prunes : Bool := false
  /-- The name that was read last. -/
  last : Option String := none
  warnings : List String := []
  deriving Inhabited

namespace ReadState

/-- One more part; an operator that was left out is put before it. -/
def push (s : ReadState) (t : Token) : ReadState :=
  let joins := match t.kind with
    | .operand _ => true
    | .negation => true
    | .opening => true
    | _ => false
  let and := tokenNamed .and "-a"
  let tokens := if joins && s.tokens.head?.any Token.endsOperand then and :: s.tokens else s.tokens
  { s with tokens := t :: tokens }

/-- One more question. -/
def ask (s : ReadState) (name : String) (q : Question) : ReadState :=
  s.push (tokenNamed (.operand (.question q)) name)

/-- One more action. -/
def act (s : ReadState) (name : String) (a : Action) (output : Option String := none) : ReadState :=
  let s := { s with
    isEnough := s.isEnough || a.isEnough
    settings := { s.settings with outputs := s.settings.outputs ++ output.toList } }
  s.push (tokenNamed (.operand (.action a output)) name)

end ReadState

/-- What the reading of arguments can look up. -/
structure Surroundings where
  files : FileSystem
  directory : Inode
  followsStarts : Bool
  deriving Inhabited

/-- A number with a sign that tells how to compare with it. -/
def readBound? (text : String) : Option Bound :=
  match text.toList with
  | '+' :: digits => (Text.readDigits? digits).map (Bound.mk .gt)
  | '-' :: digits => (Text.readDigits? digits).map (Bound.mk .lt)
  | digits => (Text.readDigits? digits).map (Bound.mk .eq)

/-- A number that may have a fraction, in millionths, with a sign that tells how to compare with it. -/
def readFine? (text : String) : Option Bound := do
  let (relation, cs) : Ordering × List Char := match text.toList with
    | '+' :: cs => (.gt, cs)
    | '-' :: cs => (.lt, cs)
    | cs => (.eq, cs)
  let whole := cs.takeWhile Char.isDigit
  let fraction ← match cs.drop whole.length with
    | [] => some []
    | '.' :: digits => if digits.all Char.isDigit then some digits else none
    | _ => none
  guard !(whole.isEmpty && fraction.isEmpty)
  return ⟨relation, Text.numberIn 10 whole * Date.tick + MomentParts.microOf fraction⟩

/-- The kinds that a list of letters names. -/
def readKinds (option text : String) : Except String (List Char) :=
  let rec go : List Char → List Char → Except String (List Char)
    | found, [] => .ok found
    | found, c :: cs => do
      if !"bcdflpsD".toList.contains c then throw ("Unknown argument to " ++ option ++ ": " ++ c.toString)
      if found.contains c then
        throw ("Duplicate file type '" ++ c.toString ++ "' in the argument list to " ++ option ++ ".")
      match cs with
      | [] => return c :: found
      | [','] =>
        throw ("Last file type in list argument to " ++ option ++ " is missing, i.e., list is ending on: ','")
      | ',' :: more => go (c :: found) more
      | _ => throw ("Must separate multiple arguments to " ++ option ++ " using: ','")
  if text = "" then .error ("Arguments to " ++ option ++ " should contain at least one letter") else go [] text.toList

/-- The unit and the bound that a size is. -/
def readSize (text : String) : Except String (Nat × Bound) := do
  let some letter := text.toList.getLast? | throw "invalid null argument to -size"
  let (unit, digits) ← match letter with
    | 'b' => pure (512, text.toList.dropLast)
    | 'c' => pure (1, text.toList.dropLast)
    | 'w' => pure (2, text.toList.dropLast)
    | 'k' => pure (1024, text.toList.dropLast)
    | 'M' => pure (1024 ^ 2, text.toList.dropLast)
    | 'G' => pure (1024 ^ 3, text.toList.dropLast)
    | c => if c.isDigit then pure (512, text.toList) else throw ("invalid -size type \x60" ++ c.toString ++ "'")
  match readBound? (.ofList digits) with
  | some b => return (unit, b)
  | none => throw ("Invalid argument \x60" ++ String.ofList digits ++ letter.toString ++ "' to -size")

/-- The question about permissions that a text is. -/
def readPermission (text : String) : Except String Question :=
  let (rule, cs) : PermissionRule × List Char := match text.toList with
    | '-' :: cs => (.all, cs)
    | '/' :: cs => (.any, cs)
    | cs => (.exactly, cs)
  match ModeClause.read? (.ofList cs) with
  | some clauses => .ok (.permission rule (ModeClause.applyAll 0 clauses false 0))
  | none => .error ("invalid mode " ++ inQuotes text)

/-- The syntaxes of regular expressions by name. -/
def regexSyntaxes : List (String × RegexSyntax) :=
  let emacs : RegexSyntax := { plainSigns := true, intervals := false }
  let extended : RegexSyntax := { extended := true, lone := .ignored, looseIntervals := true }
  [("findutils-default", emacs), ("ed", {}), ("emacs", emacs), ("gnu-awk", extended), ("grep", {}),
    ("posix-awk", extended), ("awk", { extended with intervals := false }), ("posix-basic", {}),
    ("posix-egrep", extended), ("egrep", extended), ("posix-extended", extended), ("posix-minimal-basic", {}),
    ("sed", {})]

/-- One of the times by its letter. -/
def timeOfLetter? : Char → Option TimeKind
  | 'a' => some .accessed
  | 'c' => some .changed
  | 'm' => some .modified
  | 'B' => some .changed
  | _ => none

/-- The time of a node. -/
def timeOf (n : Node) : TimeKind → Nat
  | .accessed => n.accessed
  | .changed => n.changed
  | .modified => n.modified

/-- The seconds of a day. -/
def daySeconds : Nat := 86400

/-- The question about an age that a bound in days or minutes is. -/
def ageQuestion (now : Nat) (fromMidnight inMinutes : Bool) (time : TimeKind) (b : Bound) : Question :=
  let day : Int := daySeconds * Date.tick
  let start : Int := if fromMidnight then (now / (daySeconds * Date.tick)) * day else now - day
  let unit : Nat := if inMinutes then 60 else daySeconds
  let start := if inMinutes then start + day
    else if b.relation == .lt then start + (daySeconds - 1 : Nat) * Date.tick else start
  .aged time b.relation (start - b.value * unit) (unit * Date.tick)

/-- A command up to its end, and what follows: whether paths are gathered for it. Without an end there is
none. -/
def readCommand? (mayGather : Bool) : (soFar : List String) → List String → Option (List String × Bool × List String)
  | _, [] => none
  | soFar, ";" :: rest => if soFar.isEmpty then none else some (soFar.reverse, false, rest)
  | soFar, "+" :: rest =>
    if mayGather && soFar.head? = some "\x7b\x7d" then some (soFar.reverse, true, rest)
    else readCommand? mayGather ("+" :: soFar) rest
  | soFar, word :: rest => readCommand? mayGather (word :: soFar) rest

/-- Whether a text has the mark for a path in it. -/
def hasMark (word : String) : Bool :=
  (word.splitOn "\x7b\x7d").length > 1

/-- What was read with a command for an action. -/
def addCommand (s : ReadState) (name : String) (inDirectory asks : Bool) (args : List String) :
    Except String (ReadState × List String) := do
  match readCommand? (!asks) [] args with
  | none =>
    match args with
    | ";" :: _ => throw ("invalid argument \x60;' to \x60" ++ name ++ "'")
    | _ => throw ("missing argument to \x60" ++ name ++ "'")
  | some (command, true, rest) =>
    let marked := command.filter hasMark
    let suffix := if inDirectory then "dir" else ""
    if 1 < marked.length then
      throw ("Only one instance of \x7b\x7d is supported with -exec" ++ suffix ++ " ... +")
    let number := s.settings.gathers
    let s := { s with settings := { s.settings with gathers := number + 1 } }
    return (s.act name (.gather number command.dropLast inDirectory), rest)
  | some (command, false, rest) => return (s.act name (.run command inDirectory asks), rest)

/-- The state after a question or a setting with one argument. -/
def addWithArgument (around : Surroundings) (s : ReadState) (name value : String) : Except String ReadState := do
  let invalid {α : Type} : Except String α := .error ("invalid argument \x60" ++ value ++ "' to \x60" ++ name ++ "'")
  let pattern := Shell.plainPattern value
  let loosePattern := Shell.plainPattern (.ofList (value.toList.map Char.toLower))
  let ask (q : Question) : Except String ReadState := .ok (s.ask name q)
  let bound (f : Bound → Question) : Except String ReadState :=
    match readBound? value with
    | some b => ask (f b)
    | none => invalid
  let aged (time : TimeKind) (inMinutes : Bool) : Except String ReadState :=
    match readFine? value with
    | some b => ask (ageQuestion around.files.now s.fromMidnight inMinutes time b)
    | none => invalid
  let level : Except String Nat :=
    match if value.toList.all Char.isDigit then Text.readDigits? value.toList else none with
    | some n => .ok n
    | none => .error ("Expected a positive decimal integer argument to " ++ name ++ ", but got " ++ inQuotes value)
  let nodeAt (path : String) : Except String (Inode × Node) :=
    let found := if around.followsStarts then around.files.resolve around.directory path
      else around.files.resolveLink around.directory path
    match found with
    | .ok i => .ok (i, around.files.node i)
    | .error e => .error (inQuotes path ++ ": " ++ e.wording)
  let newer (time : TimeKind) (moment : Int) : Except String ReadState := ask (.aged time .gt moment 0)
  let matching (ignoresCase : Bool) : Except String ReadState := do
    match Regex.Pattern.ofText { s.syntaxOf with ignoresCase } value.toList with
    | .ok p => ask (.regex p)
    | .error fault => throw (fault.message)
  let account (kind : String) (known : Option Nat) (question : Bound → Question) : Except String ReadState :=
    match known.or (Text.readDigits? value.toList) with
    | some n => ask (question ⟨.eq, n⟩)
    | none => .error (inQuotes value ++ " is not the name of " ++ kind)
  match name with
  | "-name" => ask (.name pattern false)
  | "-iname" => ask (.name loosePattern true)
  | "-path" => ask (.path pattern false)
  | "-wholename" => ask (.path pattern false)
  | "-ipath" => ask (.path loosePattern true)
  | "-iwholename" => ask (.path loosePattern true)
  | "-lname" => ask (.target pattern false)
  | "-ilname" => ask (.target loosePattern true)
  | "-regex" => matching false
  | "-iregex" => matching true
  | "-type" => ask (.kind (← readKinds name value) false)
  | "-xtype" => ask (.kind (← readKinds name value) true)
  | "-size" =>
    let (unit, b) ← readSize value
    ask (.size unit b)
  | "-perm" => ask (← readPermission value)
  | "-links" => bound .links
  | "-inum" => bound .inode
  | "-uid" => bound .owner
  | "-gid" => bound .group
  | "-user" => account "a known user" ((Account.ofName? value).map Account.user) .owner
  | "-group" => account "an existing group" (Account.groups.lookup value) .group
  | "-mtime" => aged .modified false
  | "-atime" => aged .accessed false
  | "-ctime" => aged .changed false
  | "-mmin" => aged .modified true
  | "-amin" => aged .accessed true
  | "-cmin" => aged .changed true
  | "-newer" => newer .modified (← nodeAt value).2.modified
  | "-anewer" => newer .accessed (← nodeAt value).2.modified
  | "-cnewer" => newer .changed (← nodeAt value).2.modified
  | "-samefile" => ask (.same (← nodeAt value).1)
  | "-maxdepth" => return { s with settings := { s.settings with most := some (← level) } }
  | "-mindepth" => return { s with settings := { s.settings with least := ← level } }
  | "-regextype" =>
    match regexSyntaxes.lookup value with
    | some r => return { s with syntaxOf := r }
    | none =>
      throw ("Unknown regular expression type " ++ inQuotes value ++ "; valid types are "
        ++ ", ".intercalate (regexSyntaxes.map fun r => inQuotes r.1) ++ ".")
  | "-printf" =>
    let (pieces, warnings) ← readPieces (value.length + 1) value.toList
    return { s.act name (.format pieces) with warnings := s.warnings ++ warnings }
  | "-fprint" => return s.act name (.print "\n") (some value)
  | "-fprint0" => return s.act name (.print "\x00") (some value)
  | "-fls" => return s.act name .list (some value)
  | _ =>
    match name.toList.drop 6 with
    | [x, 't'] =>
      match timeOfLetter? x, readMoment? around.files.now value with
      | some time, some moment => newer time moment
      | some _, none =>
        throw ("I cannot figure out how to interpret " ++ inQuotes value ++ " as a date or time")
      | none, _ => invalid
    | [x, y] =>
      match timeOfLetter? x, timeOfLetter? y with
      | some time, some other => newer time (timeOf (← nodeAt value).2 other)
      | _, _ => invalid
    | _ => invalid

/-- The names that have one argument. -/
def namesWithArgument : List String :=
  ["-name", "-iname", "-path", "-wholename", "-ipath", "-iwholename", "-lname", "-ilname", "-regex", "-iregex", "-type",
    "-xtype", "-size", "-perm", "-links", "-inum", "-uid", "-gid", "-user", "-group", "-mtime", "-atime", "-ctime",
    "-mmin", "-amin", "-cmin", "-newer", "-anewer", "-cnewer", "-samefile", "-maxdepth", "-mindepth", "-regextype",
    "-printf", "-fprint", "-fprint0", "-fls"]

/-- Whether a name asks for a comparison of times that are told by letters. -/
def isTimeComparison (name : String) : Bool :=
  match name.toList with
  | ['-', 'n', 'e', 'w', 'e', 'r', x, y] => "aBcm".toList.contains x && "aBcmt".toList.contains y
  | _ => false

/-- Whether an argument is a part of the expression and no place to start; `isFirst` tells whether none was
before. -/
def isExpression (isFirst : Bool) (arg : String) : Bool :=
  match arg.toList with
  | '-' :: rest => !rest.isEmpty
  | [')'] => !isFirst
  | [','] => !isFirst
  | ['!'] => true
  | ['('] => true
  | _ => false

/-- The state after a name without an argument, if it is one. -/
def addPlain? (s : ReadState) (name : String) : Option ReadState :=
  let set (f : Settings → Settings) : Option ReadState := some { s with settings := f s.settings }
  match name with
  | "!" => some (s.push (tokenNamed .negation name))
  | "-not" => some (s.push (tokenNamed .negation name))
  | "-a" => some (s.push (tokenNamed .and name))
  | "-and" => some (s.push (tokenNamed .and name))
  | "-o" => some (s.push (tokenNamed .or name))
  | "-or" => some (s.push (tokenNamed .or name))
  | "," => some (s.push (tokenNamed .comma name))
  | "(" => some (s.push (tokenNamed .opening name))
  | ")" => some (s.push (tokenNamed .closing name))
  | "-true" => some (s.ask name (.always true))
  | "-false" => some (s.ask name (.always false))
  | "-empty" => some (s.ask name .empty)
  | "-readable" => some (s.ask name (.always true))
  | "-writable" => some (s.ask name (.always true))
  | "-executable" => some (s.ask name .executable)
  | "-nouser" => some (s.ask name (.always false))
  | "-nogroup" => some (s.ask name (.always false))
  | "-print" => some (s.act name (.print "\n"))
  | "-print0" => some (s.act name (.print "\x00"))
  | "-ls" => some (s.act name .list)
  | "-prune" => some { s.act name .prune with prunes := true }
  | "-quit" => some (s.act name .quit)
  | "-delete" =>
    let s := s.act name .delete
    some { s with settings := { s.settings with contentsFirst := true }, deletes := true }
  | "-depth" => some { s with settings := { s.settings with contentsFirst := true }, depthGiven := true }
  | "-d" => some { s with settings := { s.settings with contentsFirst := true }, depthGiven := true }
  | "-follow" => set fun x => { x with followsAll := true }
  | "-daystart" => some { s with fromMidnight := true }
  | "-mount" => some s
  | "-xdev" => some s
  | "-noleaf" => some s
  | "-warn" => some s
  | "-nowarn" => some s
  | "-ignore_readdir_race" => some s
  | "-noignore_readdir_race" => some s
  | _ => none

/-- The state after all arguments; at most `fuel` names. -/
def readArguments (around : Surroundings) : (fuel : Nat) → ReadState → List String → Except String ReadState
  | 0, s, _ => .ok s
  | _ + 1, s, [] => .ok s
  | fuel + 1, s, name :: args => do
    if !isExpression false name then
      let hint := if s.last.isSome && (around.files.resolveLink around.directory name).isOk then
        (s.last.map fun last => "\nfind: possible unquoted pattern after predicate \x60" ++ last ++ "'?").getD "" else ""
      throw ("paths must precede expression: \x60" ++ name ++ "'" ++ hint)
    let next (s : ReadState) (args : List String) : Except String ReadState :=
      readArguments around fuel { s with last := some name } args
    if let some s := addPlain? s name then return (← next s args)
    let isRun := ["-exec", "-execdir", "-ok", "-okdir"].contains name
    if isRun then
      let (s, rest) ← addCommand s name (name = "-execdir" || name = "-okdir") (name = "-ok" || name = "-okdir") args
      return (← next s rest)
    if name = "-fprintf" then
      match args with
      | file :: format :: rest =>
        let (pieces, warnings) ← readPieces (format.length + 1) format.toList
        let s := s.act name (.format pieces) (some file)
        return (← next { s with warnings := s.warnings ++ warnings } rest)
      | _ => throw ("missing argument to \x60" ++ name ++ "'")
    if namesWithArgument.contains name || isTimeComparison name then
      match args with
      | [] => throw ("missing argument to \x60" ++ name ++ "'")
      | value :: rest => return (← next (← addWithArgument around s name value) rest)
    throw ("unknown predicate \x60" ++ name ++ "'")

/-- The expression that was read. -/
def expressionOf (s : ReadState) : Except String Expression := do
  if s.deletes && s.prunes && !s.depthGiven then
    throw ("The -delete action automatically turns on -depth, but -prune does nothing when -depth is in effect.  If "
      ++ "you want to carry on anyway, just explicitly use the -depth option.")
  let print := tokenNamed (.operand (.action (.print "\n") none)) "-print"
  let given := s.tokens.reverse
  let tokens :=
    if given.isEmpty then [print]
    else if s.isEnough then given
    else
      { kind := .opening, name := "(", isImplied := true } :: given
        ++ [{ kind := .closing, name := ")", isImplied := true }, tokenNamed .and "-a", print]
  let (e, rest) ← readExpression (2 * tokens.length + 2) 0 none tokens
  match rest with
  | [] => return e
  | t :: _ => throw (if t.isClosing then "you have too many ')'" else "unexpected extra predicate '" ++ t.name ++ "'")

end CommandSpec.Utility.Finding
