import ClientOrigin.Command.Resolve
import ClientOrigin.Command.Whoami

/-!
# The query tool

The tool has two commands: one resolves an address offline, the other asks a server.
-/

namespace ClientOrigin

/-- A command of the query tool. -/
inductive QueryCommand where
  | resolve (command : ResolveCommand)
  | whoami (url : Text)
  deriving DecidableEq, Repr

namespace QueryCommand

/-- The names of the commands. -/
def names : List Text := ["resolve".toList, "whoami".toList]

/-- Whether a word names a command. -/
def isName (word : Text) : Bool := names.any (· = word)

/-- The command that arguments describe; none if they describe none. -/
def ofArguments? : List Text → Option QueryCommand
  | [] => none
  | name :: arguments =>
    if name = "resolve".toList then
      (options? ResolveCommand.specs arguments).map fun given => .resolve (.ofOptions given)
    else if name = "whoami".toList then
      (options? Whoami.specs arguments).map fun given => .whoami (Whoami.urlOf given)
    else none

end QueryCommand

end ClientOrigin
