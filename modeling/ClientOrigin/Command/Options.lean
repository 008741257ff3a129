import ClientOrigin.Text.Pieces

/-!
# Options of a command

Options have a long name, and some have a short one of a single letter.  A value follows its
option as the next argument or after an equals sign, after a short name also directly.  Nothing
but options may be given.
-/

namespace ClientOrigin

open Text

/-- An option of a command. -/
structure OptionSpec where
  name : Text
  short : Option Char
  takesValue : Bool
  mayRepeat : Bool
  deriving DecidableEq, Repr

/-- An option that is given, with its value, which is empty for an option without one. -/
structure GivenOption where
  name : Text
  value : Text
  deriving DecidableEq, Repr

/-- What an argument is in the place of an option. -/
inductive Argument where
  | given (option : GivenOption)
  | awaitsValue (name : Text)
  | endOfOptions
  | unknown
  deriving DecidableEq, Repr

namespace Argument

/-- A long option with its value after an equals sign. -/
def longWith (specs : List OptionSpec) (name value : Text) : Argument :=
  match specs.find? fun spec => spec.name = name with
  | some spec => if spec.takesValue then .given ⟨name, value⟩ else .unknown
  | none => .unknown

/-- A long option alone. -/
def long (specs : List OptionSpec) (name : Text) : Argument :=
  match specs.find? fun spec => spec.name = name with
  | some spec => if spec.takesValue then .awaitsValue name else .given ⟨name, []⟩
  | none => .unknown

/-- A short option and what follows it in the same argument. -/
def ofShort (specs : List OptionSpec) (letter : Char) (rest : Text) : Argument :=
  match specs.find? fun spec => spec.short = some letter && spec.takesValue with
  | some spec =>
    match rest with
    | [] => .awaitsValue spec.name
    | '=' :: value => .given ⟨spec.name, value⟩
    | value => .given ⟨spec.name, value⟩
  | none => .unknown

/-- An argument in the place of an option. -/
def ofText (specs : List OptionSpec) : Text → Argument
  | ['-', '-'] => .endOfOptions
  | '-' :: '-' :: body =>
    match cutFirst? '=' body with
    | some (name, value) => longWith specs name value
    | none => long specs body
  | '-' :: letter :: rest => ofShort specs letter rest
  | _ => .unknown

/-- An argument in the place of a value: anything that does not look like an option. -/
def isValue : Text → Bool
  | '-' :: _ :: _ => false
  | _ => true

end Argument

/-- The options that arguments give; `awaiting` names the option whose value comes next. -/
def readOptions (specs : List OptionSpec) : (awaiting : Option Text) → List Text →
    Option (List GivenOption)
  | none, [] => some []
  | some _, [] => none
  | some name, value :: rest =>
    if Argument.isValue value then
      (readOptions specs none rest).map (⟨name, value⟩ :: ·)
    else none
  | none, argument :: rest =>
    match Argument.ofText specs argument with
    | .given option => (readOptions specs none rest).map (option :: ·)
    | .awaitsValue name => readOptions specs (some name) rest
    | .endOfOptions => if rest = [] then some [] else none
    | .unknown => none

/-- The values given to an option, in order. -/
def valuesOf (given : List GivenOption) (name : Text) : List Text :=
  (given.filter fun option => option.name = name).map (·.value)

/-- No option is given twice, unless it may be. -/
def respectsRepeats (specs : List OptionSpec) (given : List GivenOption) : Bool :=
  specs.all fun spec => spec.mayRepeat || (valuesOf given spec.name).length ≤ 1

/-- The options that arguments give; none if the arguments do not fit the options. -/
def options? (specs : List OptionSpec) (arguments : List Text) : Option (List GivenOption) :=
  (readOptions specs none arguments).filter (respectsRepeats specs)

end ClientOrigin
