import Chip8.Text.Quoted
import Chip8.Text.Similarity

/-!
# Arguments

The grammar of the command line. Options and the image may come in any order. A long option takes
its value after an equals sign, a short one right behind its letter, or either from the next
argument, whatever that looks like. Short options without a value can be written together. Two
dashes end the options, and a single dash is no option.

Scanning only finds the options, their values as text and the other arguments; what the values
mean comes later.
-/

namespace Chip8

/-- What can be set on the command line. -/
inductive Parameter
  | rom
  | cycles
  | keys
  | wrap
  | seed
  | breakpoints
  | screen
  | picture
  | scale
  | verbose
  | version
  | help
deriving DecidableEq, Repr

/-- The parameter in messages. -/
def Parameter.hint : Parameter → String
  | rom => "'ROM'"
  | cycles => "'-n' / '--cycles'"
  | keys => "'-k' / '--key'"
  | wrap => "'--wrap'"
  | seed => "'--seed'"
  | breakpoints => "'-b' / '--break'"
  | screen => "'--show' / '--no-show'"
  | picture => "'--png'"
  | scale => "'--scale'"
  | verbose => "'-v' / '--verbose'"
  | version => "'--version'"
  | help => "'--help'"

/-- An option as it is found: a switch, or a text given to a parameter. -/
inductive Occurrence
  | switch (parameter : Parameter) (on : Bool)
  | valued (parameter : Parameter) (text : String)
deriving DecidableEq, Repr

/-- The parameter that an option sets. -/
def Occurrence.parameter : Occurrence → Parameter
  | switch parameter _ => parameter
  | valued parameter _ => parameter

/-- What is wrong with the form of the arguments. -/
inductive ScanError
  /-- There is no such option, but there may be some with similar names. -/
  | unknownOption (name : String) (similar : List String)
  | valueMissing (name : String)
  | valueUnexpected (name : String)
deriving DecidableEq, Repr

/-- The question whether another name was meant, if there are any. -/
def ScanError.question : List String → String
  | [] => ""
  | [name] => " Did you mean " ++ quoted name ++ "?"
  | names => " (Did you mean one of: " ++ ", ".intercalate (names.map quoted) ++ "?)"

/-- The fault of form in words. -/
def ScanError.message : ScanError → String
  | unknownOption name similar => "No such option " ++ quoted name ++ "." ++ question similar
  | valueMissing name => "Option '" ++ name ++ "' requires an argument."
  | valueUnexpected name => "Option '" ++ name ++ "' does not take a value."

/-- Options in their order, and the other arguments in theirs. -/
structure Arguments where
  options : List Occurrence := []
  others : List String := []
deriving DecidableEq, Repr

namespace Arguments

/-! ## Spellings -/

/-- What an option stands for: a parameter that takes a text, or one that is switched. -/
inductive Spelling
  | takesValue (parameter : Parameter)
  | switches (parameter : Parameter) (on : Bool)

/-- The options with long names, in the order of the alphabet. -/
def longOptions : List (String × Spelling) := [
  ("--break", .takesValue .breakpoints),
  ("--cycles", .takesValue .cycles),
  ("--help", .switches .help true),
  ("--key", .takesValue .keys),
  ("--no-show", .switches .screen false),
  ("--png", .takesValue .picture),
  ("--scale", .takesValue .scale),
  ("--seed", .takesValue .seed),
  ("--show", .switches .screen true),
  ("--verbose", .switches .verbose true),
  ("--version", .switches .version true),
  ("--wrap", .switches .wrap true)]

/-- The options with one letter. -/
def shortOption? : Char → Option Spelling
  | 'n' => some (.takesValue .cycles)
  | 'k' => some (.takesValue .keys)
  | 'b' => some (.takesValue .breakpoints)
  | 'v' => some (.switches .verbose true)
  | _ => none

/-! ## Scanning -/

/-- An option that waits for its value in the next argument. -/
structure Pending where
  name : String
  parameter : Parameter

/-- Reads the letters behind a single dash. The last one may wait for its value. -/
def scanLetters : List Char → Except ScanError (List Occurrence × Option Pending)
  | [] => .ok ([], none)
  | letter :: rest =>
    let name := String.ofList ['-', letter]
    match shortOption? letter with
    | none => .error (.unknownOption name [])
    | some (.switches parameter on) => do
      let (options, pending) ← scanLetters rest
      return (.switch parameter on :: options, pending)
    | some (.takesValue parameter) =>
      if rest = [] then .ok ([], some { name, parameter })
      else .ok ([.valued parameter (String.ofList rest)], none)

/-- A long name that is not an option. Up to three names that are close to it are suggested. -/
def unknownLong (name : String) : ScanError :=
  .unknownOption name (closest 3 name (longOptions.map Prod.fst))

/-- Reads an argument that begins with two dashes: a name, and a value if there is an equals
sign. -/
def scanLong (argument : List Char) : Except ScanError (List Occurrence × Option Pending) :=
  let name := String.ofList (argument.takeWhile (· ≠ '='))
  match longOptions.lookup name, argument.dropWhile (· ≠ '=') with
  | none, _ => .error (unknownLong name)
  | some (.switches parameter on), [] => .ok ([.switch parameter on], none)
  | some (.switches _ _), _ :: _ => .error (.valueUnexpected name)
  | some (.takesValue parameter), [] => .ok ([], some { name, parameter })
  | some (.takesValue parameter), _ :: value =>
    .ok ([.valued parameter (String.ofList value)], none)

/-- Finds the options among the arguments. -/
def scan (pending : Option Pending) : List String → Except ScanError Arguments
  | [] =>
    match pending with
    | some option => .error (.valueMissing option.name)
    | none => .ok {}
  | argument :: rest =>
    match pending, argument.toList with
    | some option, _ => do
      let found ← scan none rest
      return { found with options := .valued option.parameter argument :: found.options }
    | none, ['-', '-'] => .ok { others := rest }
    | none, '-' :: '-' :: name => do
      let (options, pending) ← scanLong ('-' :: '-' :: name)
      let found ← scan pending rest
      return { found with options := options ++ found.options }
    | none, '-' :: letter :: letters => do
      let (options, pending) ← scanLetters (letter :: letters)
      let found ← scan pending rest
      return { found with options := options ++ found.options }
    | none, _ => do
      let found ← scan none rest
      return { found with others := argument :: found.others }

/-- The parameters that are set by options, in the order in which they first appear. -/
def parameters (arguments : Arguments) : List Parameter :=
  (arguments.options.map Occurrence.parameter).eraseDups

/-- The texts given to a parameter. -/
def texts (arguments : Arguments) (parameter : Parameter) : List String :=
  arguments.options.filterMap fun
    | .valued other text => if other = parameter then some text else none
    | .switch _ _ => none

/-- Whether a parameter is switched on; the last switch counts. -/
def isOn (arguments : Arguments) (parameter : Parameter) (default : Bool) : Bool :=
  let switches := arguments.options.filterMap fun
    | .switch other on => if other = parameter then some on else none
    | .valued _ _ => none
  switches.getLast?.getD default

end Arguments

end Chip8
