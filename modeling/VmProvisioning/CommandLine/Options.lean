import VmProvisioning.Fields
import VmProvisioning.Number.Decimal
import VmProvisioning.Settings
import VmProvisioning.Text.Search

/-!
# Reading a command line

The arguments are read from left to right on two levels, that of the program and that of a
command. An option takes its value from the same argument or from the next one, unless that looks
like an option itself. What goes wrong on the way is a wrong usage; a call for help or for the
version counts when it is reached first.

## Main definitions

* `Form`, `Switch`, `Level`: what may be given
* `Level.read`: what is given on a level
* `Reading.settle`: the options of a level, all complete
-/

namespace VmProvisioning.CommandLine

/-- Why a command line is not followed. -/
inductive Stop where
  /-- Help is asked for. -/
  | help
  /-- The version is asked for. -/
  | version
  /-- The usage is wrong. -/
  | usage
deriving DecidableEq, Repr

/-- The form of the value of an option. -/
inductive Form where
  /-- No value. -/
  | flag
  | text
  /-- A path, which is not empty. -/
  | path
  /-- A whole number of 64 bits. -/
  | number
  /-- The name of a kind of backend. -/
  | backend
deriving DecidableEq, Repr

/-- A whole number of 64 bits, with or without a plus sign. -/
def number? (text : String) : Option Nat :=
  let digits :=
    match text.toList with
    | '+' :: rest => rest
    | cs => cs
  if digits.isEmpty || !digits.all Char.isDigit then none
  else some (Decimal.ofDigits digits) |>.filter (· < UInt64.size)

/-- Whether a value has a form. -/
def Form.accepts : Form → String → Bool
  | flag, _ => false
  | text, _ => true
  | path, value => value != ""
  | number, value => (number? value).isSome
  | backend, value => (BackendKind.ofName? false value).isSome

/-- An option by its long name and, if it has one, its letter. -/
structure Switch where
  name : String
  letter : Option Char := none
  form : Form
  /-- The variable that gives the value when the option is missing. -/
  fallback : Option String := none
  isRequired : Bool := false
deriving DecidableEq, Repr

/-- What may be given on a level. -/
structure Level where
  switches : List Switch
  /-- The number of words that are no options. -/
  words : Nat := 0
  /-- The commands, which begin a level of their own. -/
  commands : List String := []
  /-- Whether the version can be asked for. -/
  hasVersion : Bool := false
deriving DecidableEq, Repr

/-- What has been given on a level so far. -/
structure Reading where
  given : Fields String := []
  /-- The last option, perhaps still without its value. -/
  pending : Option (Switch × Option String) := none
  words : List String := []
  /-- The command that comes next, with its arguments. -/
  command : Option (String × List String) := none
deriving DecidableEq, Repr

namespace Reading

/-- Take an option with its value, once at most. -/
def take (reading : Reading) (switch : Switch) (value : String) : Except Stop Reading :=
  if Fields.contains reading.given switch.name then .error .usage
  else .ok { reading with given := Fields.insert reading.given switch.name value }

/-- Complete the last option, whose value has to be there by now. -/
def complete (reading : Reading) : Except Stop Reading :=
  match reading.pending with
  | none => .ok reading
  | some (switch, value) =>
    match value with
    | some value =>
      if switch.form.accepts value then { reading with pending := none }.take switch value
      else .error .usage
    | none => .error .usage

/-- Whether the last option is still without its value. -/
def isAwaiting (reading : Reading) : Bool :=
  match reading.pending with
  | some (_, none) => true
  | _ => false

/-- Give the last option its value. -/
def supply (reading : Reading) (value : String) : Reading :=
  { reading with pending := reading.pending.map fun (switch, _) => (switch, some value) }

/-- Begin an option; a flag is complete at once. -/
def begin (reading : Reading) (switch : Switch) (value : Option String) : Except Stop Reading := do
  let reading ← reading.complete
  if switch.form = .flag then
    if value.isSome then throw .usage
    reading.take switch ""
  else return { reading with pending := some (switch, value) }

/-- Stop, unless something was wrong before. -/
def stopFor (reading : Reading) (reason : Stop) : Except Stop Reading := do
  let _ ← reading.complete
  throw reason

end Reading

namespace Level

/-- Read an option by its long name. -/
def readLong (level : Level) (reading : Reading) (cs : List Char) : Except Stop Reading :=
  let (name, value) :=
    match Text.cut? ['='] cs with
    | some (name, value) => (String.ofList name, some (String.ofList value))
    | none => (String.ofList cs, none)
  if value.isNone && name == "help" then reading.stopFor .help
  else if value.isNone && level.hasVersion && name == "version" then reading.stopFor .version
  else
    match level.switches.find? fun switch => switch.name == name with
    | some switch => reading.begin switch value
    | none => .error .usage

/-- Read options by their letters; the rest behind an option with a value is that value. -/
def readLetters (level : Level) (reading : Reading) : List Char → Except Stop Reading
  | [] => .ok reading
  | c :: rest =>
    if c = 'h' then reading.stopFor .help
    else if level.hasVersion ∧ c = 'V' then reading.stopFor .version
    else
      match level.switches.find? fun switch => switch.letter == some c with
      | some switch =>
        let value :=
          match rest with
          | [] => none
          | '=' :: rest => some (String.ofList rest)
          | rest => some (String.ofList rest)
        reading.begin switch value
      | none => .error .usage

/-- Take a word that is no option. -/
def readWord (level : Level) (reading : Reading) (word : String) : Except Stop Reading :=
  if reading.words.length < level.words then
    .ok { reading with words := reading.words ++ [word] }
  else .error .usage

/-- **Read the arguments of a level** up to a command. -/
def read (level : Level) (reading : Reading) : List String → Except Stop Reading
  | [] => .ok reading
  | argument :: rest => do
    match argument.toList with
    | ['-', '-'] => rest.foldlM level.readWord reading
    | '-' :: '-' :: cs => level.read (← level.readLong reading cs) rest
    | '-' :: c :: cs => level.read (← level.readLetters reading (c :: cs)) rest
    | _ =>
      if reading.isAwaiting then level.read (reading.supply argument) rest
      else if level.commands.contains argument then
        return { reading with command := some (argument, rest) }
      else level.read (← level.readWord reading argument) rest

end Level

/-- **The options of a level**, when the last one is complete, the variables that stand in for
missing ones are well-formed, and no required one is missing. -/
def Reading.settle (reading : Reading) (level : Level) (environment : Fields String) :
    Except Stop (Fields String) := do
  let reading ← reading.complete
  for switch in level.switches do
    if !Fields.contains reading.given switch.name then
      if switch.isRequired then throw .usage
      match switch.fallback.bind (Fields.get? environment) with
      | some value => if !switch.form.accepts value then throw .usage
      | none => pure ()
  if reading.words.length < level.words then throw .usage
  return reading.given

end VmProvisioning.CommandLine
