import CommandSpec.Utility.Inputs
import CommandSpec.Utility.Rules.Evaluation

/-!
# `awk`

`awk` runs a program of rules on the records of its inputs.
-/

namespace CommandSpec.Utility

open Rules

/-- What `awk` is asked to do. -/
structure RulesRequest where
  /-- The files that the program is in; there are none if it is an argument. -/
  files : List String := []
  /-- What cuts records into fields, if that is given. -/
  separator : Option String := none
  /-- Variables with their values, as they were given. -/
  assignments : List String := []
  /-- Whether only the version is asked for. -/
  asksVersion : Bool := false
  /-- Whether only help is asked for. -/
  asksHelp : Bool := false
  operands : List String := []
  deriving Inhabited

namespace RulesRequest

/-- The request with the value of an option. -/
def withOption (r : RulesRequest) (option : Char) (value : String) : RulesRequest :=
  match option with
  | 'F' => { r with separator := some value }
  | 'v' => { r with assignments := r.assignments ++ [value] }
  | 'f' => { r with files := r.files ++ [value] }
  | _ => if value.toList.head? = some 'v' then { r with asksVersion := true } else { r with asksHelp := true }

/-- Read arguments, or what is wrong with them. -/
def read (r : RulesRequest) : List String → Except String RulesRequest
  | [] => .ok r
  | arg :: rest =>
    match arg.toList with
    | ['-', '-'] => .ok { r with operands := rest }
    | '-' :: '-' :: word =>
      if word = "version".toList then .ok { r with asksVersion := true }
      else if word = "help".toList || word = "usage".toList then .ok { r with asksHelp := true }
      else .error ("not an option: " ++ arg)
    | '-' :: c :: cs =>
      if c ∉ ['F', 'v', 'f', 'W'] then .error ("not an option: " ++ arg)
      else if !cs.isEmpty then read (r.withOption c (.ofList cs)) rest
      else
        match rest with
        | value :: rest => read (r.withOption c value) rest
        | [] => .error ("option " ++ arg ++ " lacks argument")
    | _ => .ok { r with operands := arg :: rest }

end RulesRequest

/-- The text of a program in some files, or the complaint. -/
def programText : (files : List String) → Task (Except String String)
  | [] => return .ok ""
  | file :: files => do
    match ← readInput file with
    | .error e => return .error ("cannot open \"" ++ file ++ "\" (" ++ e.wording ++ ")")
    | .ok text => return (← programText files).map (text ++ ·)

/-- The state at the start of a run on some operands. -/
def startMachine (name : String) (environment : Environment) (operands : List String) : Machine :=
  let add (t : Table) (k : Key) (v : Value) : Table := (t.touch true k).put k v
  let arguments := ((name :: operands).zipIdx).foldl
    (fun t (a, i) => add t (.number i) (.input a)) ({} : Table)
  let settings := environment.foldl (fun t (n, v) => add t (.text n) (.input v)) ({} : Table)
  let commons := (initialVariables ++ [("ARGC", Value.ofNat (operands.length + 1))]).foldl
    (fun m (n, v) => m.insert n v) (∅ : Std.HashMap String Value)
  let tables := (∅ : Std.HashMap String Nat).insert "ARGV" 0 |>.insert "ENVIRON" 1
  { commons, tables, heap := #[arguments, settings] }

/-- Give variables the values that the arguments tell, and run a program. -/
def runRules (r : RulesRequest) (p : Ruleset) : Eval Unit := do
  if let some s := r.separator then
    Eval.setCommon "FS" (.text (.ofList (unescaped s.length s.toList)))
  for a in r.assignments do
    if !(← Eval.assignArgument a) then Eval.fail ("improper assignment: -v " ++ a)
  (Interpreter.ofFuel p.routines Task.patience).runProgram p

/-- Run a program of rules: `awk [options] program [operand…]`. -/
def awk (args : List String) : Task Nat := do
  let { speaker, environment, .. } ← read
  match RulesRequest.read {} args with
  | .error complaint =>
    Task.complain complaint
    return 2
  | .ok r =>
    if r.asksVersion then
      Task.printLine "mawk 1.3.4 20200120"
      return 0
    if r.asksHelp then
      Task.printLine ("Usage: " ++ speaker ++ " [Options] [Program] [file ...]")
      return 0
    let (program?, operands) ← match r.files, r.operands with
      | [], [] =>
        Task.remark ("Usage: " ++ speaker ++ " [Options] [Program] [file ...]")
        return 2
      | [], text :: operands => pure ((.ok text : Except String String), operands)
      | files, operands => pure (← programText files, operands)
    match program? with
    | .error complaint =>
      Task.complain complaint
      return 2
    | .ok text =>
      match readProgram text with
      | .error complaints =>
        let place := match r.files with
          | [] => ""
          | file :: _ => file ++ ": "
        for c in complaints do Task.complain (place ++ c)
        return 2
      | .ok program =>
        let run := do
          try runRules r program
          catch _ => pure ()
          Eval.closeAll
        return (← StateT.run (ExceptT.run run) (startMachine speaker environment operands)).2.status

end CommandSpec.Utility
