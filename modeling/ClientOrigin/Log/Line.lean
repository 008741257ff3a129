import ClientOrigin.Log.Event
import ClientOrigin.Text.Pieces
import ClientOrigin.Text.Quoted

/-!
# Written log lines

An event is written on one line, for people or as a JSON object.  The time is left out.
-/

namespace ClientOrigin

open Text

/-- A character inside a JSON string. -/
def jsonChar (c : Char) : Text :=
  if c = '"' then ['\\', '"']
  else if c = '\\' then ['\\', '\\']
  else if c = '\n' then ['\\', 'n']
  else if c = '\r' then ['\\', 'r']
  else if c = '\t' then ['\\', 't']
  else if c.toNat = 8 then ['\\', 'b']
  else if c.toNat = 12 then ['\\', 'f']
  else if c.toNat < 0x20 then
    ['\\', 'u', '0', '0', digitChar (c.toNat / 16), digitChar (c.toNat % 16)]
  else [c]

/-- A JSON string. -/
def jsonString (s : Text) : Text := ['"'] ++ s.flatMap jsonChar ++ ['"']

/-- A truth value in words. -/
def flagText (value : Bool) : Text := (if value then "true" else "false").toList

namespace LogValue

/-- The value in a line for people: text is quoted. -/
def pretty : LogValue → Text
  | .shown form => form.toList
  | .text content => quoted content.toList
  | .number value => decimal value
  | .flag value => flagText value

/-- The value as JSON. -/
def json : LogValue → Text
  | .shown form => jsonString form.toList
  | .text content => jsonString content.toList
  | .number value => decimal value
  | .flag value => flagText value

end LogValue

namespace LogEvent

/-- The line for people: level, target, message, and the named values. -/
def prettyLine (e : LogEvent) : Text :=
  e.level.name.toList ++ [' '] ++ e.target.toList ++ [':', ' '] ++ e.text.toList ++
    e.fields.flatMap fun field => [' '] ++ field.1.toList ++ ['='] ++ field.2.pretty

/-- A member of a JSON object. -/
def jsonMember (name : String) (value : Text) : Text := jsonString name.toList ++ [':'] ++ value

/-- A JSON object with the given members. -/
def jsonObject (members : List Text) : Text := ['\x7b'] ++ joined [','] members ++ ['\x7d']

/-- The line as a JSON object; the message is one of the named values. -/
def jsonLine (e : LogEvent) : Text :=
  let values := jsonMember "message" (jsonString e.text.toList) ::
    e.fields.map fun field => jsonMember field.1 field.2.json
  jsonObject
    [jsonMember "level" (jsonString e.level.name.toList),
      jsonMember "fields" (jsonObject values),
      jsonMember "target" (jsonString e.target.toList)]

end LogEvent

end ClientOrigin
