import CivicForum.Text.Number

/-! # The command line

* `Options`: what the arguments of the program say.
* `Options.Fault`: why arguments are refused; `Options.Fault.message` is its wording.
* `Options.read`: the options that a list of arguments gives.
-/

set_option autoImplicit false

namespace CivicForum

/-- What the arguments of the program say. -/
structure Options where
  /-- The file with the settings. -/
  config : Option String := none
  verbose : Nat := 0
  quiet : Nat := 0
  /-- The flag of the first of the two kinds of verbosity. -/
  firstFlag : Option String := none
  deriving Repr, DecidableEq

/-- Why arguments are refused. -/
inductive Options.Fault where
  | unexpected (arg : String)
  | unexpectedValue (value flag : String)
  | valueMissing
  | repeated
  | conflict (flag other : String)
  /-- Not refused: the user asks for help. -/
  | help
  deriving Repr, DecidableEq

namespace Options

def verboseFlag : String := "--verbose..."
def quietFlag : String := "--quiet..."

/-- The first line of what a user is told. -/
def Fault.message : Fault → String
  | .unexpected arg => "error: unexpected argument '" ++ arg ++ "' found"
  | .unexpectedValue value flag =>
    "error: unexpected value '" ++ value ++ "' for '" ++ flag ++
      "' found; no more were expected"
  | .valueMissing =>
    "error: a value is required for '--config <CONFIG>' but none was supplied"
  | .repeated => "error: the argument '--config <CONFIG>' cannot be used multiple times"
  | .conflict flag other =>
    "error: the argument '" ++ flag ++ "' cannot be used with '" ++ other ++ "'"
  | .help => ""

/-- The exit code of a program that stops because of its arguments. -/
def Fault.exitCode : Fault → Nat
  | .help => 0
  | _ => 2

def withVerbose (o : Options) : Options :=
  { o with verbose := o.verbose + 1, firstFlag := o.firstFlag.or (some verboseFlag) }

def withQuiet (o : Options) : Options :=
  { o with quiet := o.quiet + 1, firstFlag := o.firstFlag.or (some quietFlag) }

def withConfig (o : Options) (path : String) : Except Fault Options :=
  match o.config with
  | none => .ok { o with config := some path }
  | some _ => .error .repeated

/-- What the letters after a dash say: options, or that the value of the last letter is the next
argument. -/
def readLetters (o : Options) : List Char → Except Fault (Options × Bool)
  | [] => .ok (o, false)
  | 'v' :: rest => readLetters o.withVerbose rest
  | 'q' :: rest => readLetters o.withQuiet rest
  | 'h' :: _ => .error .help
  | 'c' :: [] => .ok (o, true)
  | 'c' :: '=' :: rest => do return (← o.withConfig (String.ofList rest), false)
  | 'c' :: rest => do return (← o.withConfig (String.ofList rest), false)
  | c :: _ => .error (.unexpected (String.ofList ['-', c]))

/-- The argument can be the value of an option. -/
def isValue (arg : String) : Bool := arg = "-" || arg.toList.head? ≠ some '-'

/-- What a long option says, with the value that follows an equals sign. -/
def readLong (o : Options) (name : String) (value : Option String) :
    Except Fault (Options × Bool) :=
  match name, value with
  | "--verbose", none => .ok (o.withVerbose, false)
  | "--verbose", some v => .error (.unexpectedValue v verboseFlag)
  | "--quiet", none => .ok (o.withQuiet, false)
  | "--quiet", some v => .error (.unexpectedValue v quietFlag)
  | "--config", none => .ok (o, true)
  | "--config", some path => do return (← o.withConfig path, false)
  | "--help", none => .error .help
  | _, _ => .error (.unexpected name)

/-- What one argument says. -/
def readArgument (o : Options) (arg : String) : Except Fault (Options × Bool) :=
  match arg.toList with
  | '-' :: '-' :: c :: rest =>
    let cs := '-' :: '-' :: c :: rest
    let name := String.ofList (cs.takeWhile (· ≠ '='))
    match cs.dropWhile (· ≠ '=') with
    | _ :: value => o.readLong name (some (String.ofList value))
    | [] => o.readLong name none
  | '-' :: c :: rest => o.readLetters (c :: rest)
  | _ => .error (.unexpected arg)

/-- What a list of arguments says; `pending` when the first one is a value. After two dashes only
plain arguments follow, and the program takes none. -/
def readFrom (o : Options) (pending : Bool) : List String → Except Fault Options
  | [] => if pending then .error .valueMissing else .ok o
  | arg :: rest => do
    if pending then
      if isValue arg then readFrom (← o.withConfig arg) false rest else .error .valueMissing
    else if arg = "--" then
      match rest with
      | [] => return o
      | plain :: _ => throw (.unexpected plain)
    else
      let (o, pending) ← o.readArgument arg
      readFrom o pending rest

/-- The options that a list of arguments gives. One cannot ask for more and for less output at the
same time. -/
def read (args : List String) : Except Fault Options := do
  let o ← readFrom {} false args
  if 0 < o.verbose ∧ 0 < o.quiet then
    if o.firstFlag = some verboseFlag then throw (.conflict verboseFlag quietFlag)
    else throw (.conflict quietFlag verboseFlag)
  return o

end Options

end CivicForum
