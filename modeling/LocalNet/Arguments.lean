import LocalNet.Decimal

/-!
# Command line arguments

A command line is a row of groups: a flag, followed by as many values as the flag takes, whatever
they look like. Definitions say which flags there are and give each a key, under which the values of
its last group are kept.

- `Arguments.parse`: reads a command line into what is already known;
- `Arguments.value?`, `Arguments.has`: what is known about a key;
- `Arguments.port`: reads a value as a port;
- `Arguments.usage`: the text that explains the flags.
-/

namespace LocalNet

/-- The definition of a flag. -/
structure FlagDefinition (κ : Type) where
  /-- The key of the flag. -/
  key : κ
  /-- The flag as it is written. -/
  flag : Text
  /-- The number of values that follow the flag. -/
  arity : Nat := 0
  /-- Whether every command line must have the flag. -/
  required : Bool := false
  /-- What the flag is for. -/
  summary : Text := []

/-- Why a command line is refused. -/
inductive ArgumentError where
  /-- An argument stands where a flag should and is none. -/
  | unknown (argument : Text)
  /-- A flag is followed by fewer values than it takes. -/
  | missingValues (arity : Nat) (flag : Text)
  /-- A required flag is missing. -/
  | missingFlag (flag : Text)
  /-- A value is not a port. -/
  | invalidPort (value : Text)
deriving DecidableEq

/-- The largest port that a value can name. -/
def ArgumentError.maxPort : Int := 65535

/-- The wording of an error. -/
def ArgumentError.message : ArgumentError → Text
  | .unknown argument =>
    Text.ofString "Unknown argument '" ++ argument ++ Text.ofString "'"
  | .missingValues arity flag =>
    Text.ofString "Expected " ++ Decimal.ofNat arity ++ Text.ofString " value(s) for flag '"
      ++ flag ++ Text.ofString "'"
  | .missingFlag flag =>
    Text.ofString "Missing required argument '" ++ flag ++ Text.ofString "'"
  | .invalidPort value =>
    Text.ofString "Invalid port '" ++ value ++ Text.ofString "' (expected 0-"
      ++ Decimal.ofInt maxPort ++ Text.ofString ")"

/-- What is known from command lines: the values of the flags that were given, by key. -/
abbrev Arguments (κ : Type) := List (κ × List Text)

namespace Arguments

variable {κ : Type} [DecidableEq κ]

/-- The values kept under a key. -/
def get? (known : Arguments κ) (key : κ) : Option (List Text) :=
  known.lookup key

/-- Whether a flag was given. -/
def has (known : Arguments κ) (key : κ) : Bool :=
  (known.get? key).isSome

/-- The first value of a flag. -/
def value? (known : Arguments κ) (key : κ) : Option Text :=
  (known.get? key).bind List.head?

/-- Keeps values under a key in place of those kept before. -/
def set (known : Arguments κ) (key : κ) (values : List Text) : Arguments κ :=
  (key, values) :: known.filter fun entry => entry.1 ≠ key

/-- What has been read of a command line. -/
structure Progress (κ : Type) where
  /-- What is known. -/
  known : Arguments κ
  /-- The keys of the flags that the command line has, latest first. -/
  seen : List κ := []
  /-- Why reading ended early. -/
  error : Option ArgumentError := none

/-- Reads groups until the arguments end or one is out of place. -/
def readGroups (definitions : List (FlagDefinition κ)) :
    List Text → Progress κ → Progress κ
  | [], progress => progress
  | argument :: others, progress =>
    match definitions.find? (·.flag == argument) with
    | none => { progress with error := some (.unknown argument) }
    | some d =>
      if others.length < d.arity then
        { progress with error := some (.missingValues d.arity d.flag) }
      else
        readGroups definitions (others.drop d.arity)
          { progress with
            known := progress.known.set d.key (others.take d.arity)
            seen := d.key :: progress.seen }
termination_by arguments => arguments.length
decreasing_by simp only [List.length_drop, List.length_cons]; omega

/-- The first required flag that has not been seen. -/
def missing? (definitions : List (FlagDefinition κ)) (seen : List κ) : Option ArgumentError :=
  (definitions.find? fun d => d.required && !seen.contains d.key).map fun d => .missingFlag d.flag

/-- Reads a command line. What is known after an error are the groups before it. -/
def parse (definitions : List (FlagDefinition κ)) (arguments : List Text) (known : Arguments κ) :
    Arguments κ × Option ArgumentError :=
  let progress := readGroups definitions arguments { known }
  (progress.known, progress.error.or (missing? definitions progress.seen))

/-- Reads a value as a port. -/
def port (value : Text) : Except ArgumentError Int :=
  match (Decimal.int32? value).filter fun n => decide (0 ≤ n ∧ n ≤ ArgumentError.maxPort) with
  | some n => .ok n
  | none => .error (.invalidPort value)

/-- The width of the column of flags. -/
def columnWidth : Nat := 22

/-- The line that explains a flag. -/
def usageLine (d : FlagDefinition κ) : Text :=
  let flag := if d.arity = 0 then d.flag else d.flag ++ Text.ofString " <value>"
  let note := if d.required then Text.ofString " (required)" else []
  Text.ofString "  " ++ flag.padEnd columnWidth ++ Text.ofString "  " ++ d.summary ++ note
    ++ Text.ofString "\n"

/-- The text that explains a program and its flags, in the order of the flags' octets. The
program's name ends at its first zero octet. -/
def usage (program description : Text) (definitions : List (FlagDefinition κ)) : Text :=
  let about := if description.isEmpty then [] else description ++ Text.ofString "\n\n"
  let sorted := definitions.mergeSort fun a b => decide (a.flag ≤ b.flag)
  Text.ofString "Usage: " ++ program.untilNul ++ Text.ofString " [OPTIONS]\n\n" ++ about
    ++ Text.ofString "Options:\n" ++ sorted.flatMap usageLine

end Arguments

end LocalNet
