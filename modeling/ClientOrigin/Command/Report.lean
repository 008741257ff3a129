import ClientOrigin.Text.Blank

/-!
# Reports of a command
-/

namespace ClientOrigin

/-- What a command leaves behind: its exit code, its output, and what it says about errors.  The
explanation of wrong arguments is not told. -/
structure Report where
  exit : Nat
  output : Text
  errors : Option Text
  deriving DecidableEq, Repr

namespace Report

/-- The arguments are wrong. -/
def usage : Report := ⟨2, [], none⟩

/-- The command failed. -/
def failed (error : String) : Report := ⟨1, [], some ("Error: ".toList ++ error.toList ++ ['\n'])⟩

/-- The command succeeded. -/
def done (output : Text) : Report := ⟨0, output, some []⟩

end Report

end ClientOrigin
