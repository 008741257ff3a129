import ClientOrigin.Settings.Decode
import ClientOrigin.Settings.Problem
import ClientOrigin.Text.Utf8

/-!
# Loading settings

Settings come from the bytes of a file.  Whatever keeps them from being used is told apart: the
file, the text of the document, or the values in it.
-/

namespace ClientOrigin

/-- Why the system could not read a file. -/
inductive SystemError where
  | notFound
  | permissionDenied
  | notADirectory
  | isADirectory
  | nameTooLong
  deriving DecidableEq, Repr

namespace SystemError

/-- The number of the error. -/
def code : SystemError → Nat
  | .notFound => 2
  | .permissionDenied => 13
  | .notADirectory => 20
  | .isADirectory => 21
  | .nameTooLong => 36

/-- The name of the error. -/
def kind : SystemError → String
  | .notFound => "NotFound"
  | .permissionDenied => "PermissionDenied"
  | .notADirectory => "NotADirectory"
  | .isADirectory => "IsADirectory"
  | .nameTooLong => "InvalidFilename"

/-- The wording of the error. -/
def message : SystemError → String
  | .notFound => "No such file or directory"
  | .permissionDenied => "Permission denied"
  | .notADirectory => "Not a directory"
  | .isADirectory => "Is a directory"
  | .nameTooLong => "File name too long"

end SystemError

/-- Why a file could not be read as text. -/
inductive FileError where
  | system (error : SystemError)
  | notText
  deriving DecidableEq, Repr

/-- The wording of the error. -/
def FileError.message : FileError → String
  | .system error =>
    error.message ++ " (os error " ++ String.ofList (Text.decimal error.code) ++ ")"
  | .notText => "stream did not contain valid UTF-8"

/-- Why settings could not be loaded. -/
inductive LoadError where
  | file (error : FileError)
  | document
  | problems (found : List Problem)
  deriving DecidableEq, Repr

namespace LoadError

/-- The wording of a list of problems. -/
def problemsMessage (found : List Problem) : String :=
  "Validation failed: " ++ String.intercalate ", " (found.map Problem.message)

/-- The wording of the error; what is wrong with a document is not told. -/
def message : LoadError → String
  | .file error => "IO error: " ++ error.message
  | .document => "Parse error"
  | .problems found => problemsMessage found

end LoadError

namespace Settings

/-- The settings that the text of a document writes, without problems. -/
def ofText (s : Text) : Except LoadError Settings :=
  match ofToml? s with
  | none => .error .document
  | some settings =>
    if settings.problems = [] then .ok settings else .error (.problems settings.problems)

/-- The settings in a file, given its content or why it could not be read. -/
def ofFile : Except SystemError Bytes → Except LoadError Settings
  | .error error => .error (.file (.system error))
  | .ok content =>
    match Text.decode? content with
    | none => .error (.file .notText)
    | some s => ofText s

end Settings

end ClientOrigin
