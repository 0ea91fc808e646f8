import TinyImp.Journal

/-!
# Command line

The options of the command: the source file, the level of the journal on the
error stream, and whether reports are coloured.
-/

namespace TinyImp

/-- When reports are coloured. -/
inductive ColorChoice where
  | auto
  | always
  | never
deriving DecidableEq, Repr

namespace ColorChoice

def enabled (choice : ColorChoice) (terminal : Bool) : Bool :=
  match choice with
  | auto => terminal
  | always => true
  | never => false

def named? : String → Option ColorChoice
  | "auto" => some auto
  | "always" => some always
  | "never" => some never
  | _ => none

end ColorChoice

/-- The threshold with this name; `off` is the name of none at all. -/
def Level.threshold? : String → Option (Option Level)
  | "off" => some none
  | "error" => some (some .error)
  | "warn" => some (some .warn)
  | "info" => some (some .info)
  | "debug" => some (some .debug)
  | "trace" => some (some .trace)
  | _ => none

/-- What the command is asked to do. -/
structure Options where
  source : String
  threshold : Option Level := some .warn
  color : ColorChoice := .auto

/-- Why the arguments of the command cannot be used. -/
inductive UsageError where
  | missingSource
  | extraArgument (argument : String)
  | missingValue (option : String)
  | badValue (option value : String)

namespace UsageError

def message : UsageError → String
  | missingSource =>
      "usage: tinyimp SOURCE [--log-level LEVEL] [--color WHEN]"
  | extraArgument argument => s!"unexpected argument {argument}"
  | missingValue option => s!"a value is required for {option}"
  | badValue option value => s!"invalid value {value} for {option}"

end UsageError

namespace Options

/-- The value for an option, if it has one of the known names. -/
def choose {α : Type} (option value : String) (choice : Option α) :
    Except UsageError α :=
  match choice with
  | some value => .ok value
  | none => .error (.badValue option value)

/-- Reads the arguments after the options found so far. -/
def parseFrom (options : Options) (source : Option String) :
    List String → Except UsageError Options
  | [] =>
      match source with
      | some source => .ok { options with source }
      | none => .error .missingSource
  | ["--log-level"] => .error (.missingValue "--log-level")
  | ["--color"] => .error (.missingValue "--color")
  | "--log-level" :: value :: others => do
      let threshold ← choose "--log-level" value (Level.threshold? value)
      parseFrom { options with threshold } source others
  | "--color" :: value :: others => do
      let color ← choose "--color" value (ColorChoice.named? value)
      parseFrom { options with color } source others
  | argument :: others =>
      match source with
      | none => parseFrom options (some argument) others
      | some _ => .error (.extraArgument argument)

def parse (arguments : List String) : Except UsageError Options :=
  parseFrom { source := "" } none arguments

end Options

end TinyImp
