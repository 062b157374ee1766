import Chip8.CommandLine.Arguments
import Chip8.CommandLine.Files
import Chip8.CommandLine.Value

/-!
# Invocations

What the arguments ask for. The values of options are read in the order in which the options first
appear, then the image is looked up; the first value that is refused is reported. A parameter that
takes one value takes the last one given, and the others are not even read.
-/

namespace Chip8

/-- A run as it is asked for. -/
structure Invocation where
  rom : String
  cycles : Nat := 1000
  keys : List Key := []
  wrap : Bool := false
  seed : Option Int := none
  breakpoints : List (Fin 4096) := []
  showScreen : Bool := true
  picture : Option String := none
  scale : Nat := 8
  verbose : Bool := false
deriving DecidableEq, Repr

/-- What the command line asks for. -/
inductive Request
  | run (invocation : Invocation)
  | version
  | help
deriving DecidableEq, Repr

/-- Why the arguments are refused. -/
inductive UsageError
  | form (error : ScanError)
  | value (parameter : Parameter) (error : ValueError)
  | romMissing
  | unexpected (arguments : List String)
deriving DecidableEq, Repr

/-- The refusal in words. -/
def UsageError.message : UsageError → String
  | form error => error.message
  | value parameter error => "Invalid value for " ++ parameter.hint ++ ": " ++ error.message
  | romMissing => "Missing argument 'ROM'."
  | unexpected [argument] => "Got unexpected extra argument (" ++ argument ++ ")"
  | unexpected arguments =>
    "Got unexpected extra arguments (" ++ " ".intercalate arguments ++ ")"

/-- Whether a refusal ends the program without a word. Only that of a path with a NUL character does:
such a path cannot even be looked up. -/
def UsageError.isSilent : UsageError → Bool
  | value _ .pathInvalid => true
  | _ => false

/-- The exit code of a refusal. -/
def UsageError.exitCode (error : UsageError) : Nat := if error.isSilent then 1 else 2

/-- Whether a refusal is preceded by a reminder of how the program is used. One of an option
without its value, or with a value it does not take, is not. -/
def UsageError.remindsOfUsage : UsageError → Bool
  | form (.valueMissing _) => false
  | form (.valueUnexpected _) => false
  | _ => true

namespace Invocation

/-- Reads the last of the texts given to a parameter; there is one if the parameter is set. -/
def readLast {α : Type} (arguments : Arguments) (parameter : Parameter) (default : α)
    (read : String → Except ValueError α) : Except ValueError α :=
  match (arguments.texts parameter).getLast? with
  | some text => read text
  | none => .ok default

/-- Takes a path for a picture, where there must be no directory. -/
def readPicture (files : String → Entry) (path : String) : Except ValueError (Option String) :=
  match files path with
  | .directory => .error (.fileIsDirectory path)
  | .invalid => .error .pathInvalid
  | _ => .ok (some (Path.normal path))

/-- Takes the path of an image, where there must be a file. -/
def readRom (files : String → Entry) (path : String) : Except ValueError String :=
  match files path with
  | .file _ => .ok (Path.normal path)
  | .directory => .error (.fileIsDirectory path)
  | .missing => .error (.fileMissing path)
  | .blocked => .error (.fileMissing path)
  | .tooLong => .error (.fileMissing path)
  | .invalid => .error .pathInvalid

/-- Sets one parameter to what the arguments say. -/
def set (files : String → Entry) (arguments : Arguments) (invocation : Invocation)
    (parameter : Parameter) : Except ValueError Invocation := do
  match parameter with
  | .cycles =>
    return { invocation with
      cycles := ← readLast arguments .cycles invocation.cycles (Value.integerFrom 0) }
  | .keys => return { invocation with keys := ← (arguments.texts .keys).mapM Value.key }
  | .wrap => return { invocation with wrap := arguments.isOn .wrap invocation.wrap }
  | .seed =>
    return { invocation with
      seed := ← readLast arguments .seed invocation.seed fun text => some <$> Value.integer text }
  | .breakpoints =>
    return { invocation with breakpoints := ← (arguments.texts .breakpoints).mapM Value.address }
  | .screen =>
    return { invocation with showScreen := arguments.isOn .screen invocation.showScreen }
  | .picture =>
    return { invocation with
      picture := ← readLast arguments .picture invocation.picture (readPicture files) }
  | .scale =>
    return { invocation with
      scale := ← readLast arguments .scale invocation.scale (Value.integerFrom 1) }
  | .verbose => return { invocation with verbose := arguments.isOn .verbose invocation.verbose }
  | .rom => return invocation
  | .version => return invocation
  | .help => return invocation

/-- Sets parameters one after the other. -/
def setAll (files : String → Entry) (arguments : Arguments) (invocation : Invocation) :
    List Parameter → Except UsageError Invocation
  | [] => .ok invocation
  | parameter :: rest =>
    match invocation.set files arguments parameter with
    | .ok changed => setAll files arguments changed rest
    | .error error => .error (.value parameter error)

end Invocation

namespace Request

/-- What scanned arguments ask for. The version and the help text are given whatever else is
asked. -/
def ofArguments (files : String → Entry) (arguments : Arguments) : Except UsageError Request :=
  let parameters := arguments.parameters
  match parameters.find? fun parameter => parameter = .version ∨ parameter = .help with
  | some .version => .ok .version
  | some _ => .ok .help
  | none => do
    let invocation ← Invocation.setAll files arguments { rom := "" } parameters
    match arguments.others with
    | [] => throw .romMissing
    | path :: rest =>
      match Invocation.readRom files path with
      | .error error => throw (.value .rom error)
      | .ok rom =>
        if rest = [] then return .run { invocation with rom } else throw (.unexpected rest)

/-- The paths that have to be looked up for some arguments. -/
def paths (arguments : Arguments) : List String :=
  arguments.others.take 1 ++ (arguments.texts .picture).getLast?.toList

end Request

end Chip8
