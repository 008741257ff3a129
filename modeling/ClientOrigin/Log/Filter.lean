import ClientOrigin.Log.Event
import ClientOrigin.Log.Pattern
import ClientOrigin.Text.Case
import ClientOrigin.Text.Digits
import ClientOrigin.Text.LetterTable
import ClientOrigin.Text.Pieces

/-!
# Log filters

A filter is a list of directives, each a level for the events whose target begins with a given
text and which have a given field, if one is named.  The longest of these texts decides about an
event; of directives with the same text one with a field goes before one without, and of two with
the same text and field the later one counts.
-/

namespace ClientOrigin

open Text

/-- Events of targets that begin with a text are shown from the given level on, or not at all.  A
directive may be bound to a field, and is about events that have it; one that is bound to spans
shows nothing outside of them. -/
structure LogDirective where
  target : Text
  field : Option Text
  level : Option LogLevel
  spansOnly : Bool
  deriving DecidableEq, Repr

namespace LogDirective

/-- A level by its number, counted from the most important one; zero is none. -/
def levelOfNumber? : Nat → Option (Option LogLevel)
  | 0 => some none
  | 1 => some (some .error)
  | 2 => some (some .warn)
  | 3 => some (some .info)
  | 4 => some (some .debug)
  | 5 => some (some .trace)
  | _ => none

/-- A level by its name, in letters of either case. -/
def levelOfName? (s : Text) : Option (Option LogLevel) :=
  let named (name : String) := eqIgnoringAsciiCase s name.toList
  if named "error" then some (some .error)
  else if named "warn" then some (some .warn)
  else if named "info" then some (some .info)
  else if named "debug" then some (some .debug)
  else if named "trace" then some (some .trace)
  else if named "off" then some none
  else none

/-- A level, as a number or as a name; an empty text means all events. -/
def level? (s : Text) : Option (Option LogLevel) :=
  if s = [] then some (some .trace)
  else
    match boundedDecimal? 6 s with
    | some n => levelOfNumber? n
    | none => levelOfName? s

/-! ## Reading directives

The parts of a directive are separated by marks.  Where the marks are is decided without the white
space around the directive, but the parts are taken from the same positions of the text as it
stands. -/

/-- What remains of a directive: without white space around it, and as it stands. -/
structure Remainder where
  shape : Text
  written : Text
  deriving DecidableEq, Repr

/-- The part before the first of some marks, the mark, and what follows it. -/
def Remainder.cut? (r : Remainder) (marks : List Char) : Option (Text × Char × Remainder) :=
  let count := (r.shape.takeWhile fun c => !marks.contains c).length
  match r.shape.drop count with
  | [] => none
  | mark :: shape => some (r.written.take count, mark, ⟨shape, r.written.drop (count + 1)⟩)

/-- Characters that a directive begins with, the bracket of a span apart. -/
def isFirstChar (c : Char) : Bool := isLetterOrNumber c || ['-', ':', '_'].contains c

/-- A directive of a target or a level alone. -/
def ofWord (s : Text) : LogDirective :=
  match level? s with
  | some level => ⟨[], none, level, false⟩
  | none => ⟨s, none, some .trace, false⟩

/-- The level at the end of a directive: after an equals sign, or all events. -/
def lastLevel? (r : Remainder) : Option (Option LogLevel) :=
  match r.shape with
  | [] => some (some .trace)
  | '=' :: _ => level? (r.written.drop 1)
  | _ => none

/-- The field that a directive is bound to, and whether its value matters. -/
def ofField? (s : Text) : Option (Text × Bool) :=
  if s = [] then none
  else
    match cutFirst? '=' s with
    | none => some (s, false)
    | some (name, value) =>
      if Pattern.isPattern (value.takeWhile (· ≠ '=')) then some (name, true) else none

/-- A directive with brackets, after the opening one.  It is about spans if it gives their name or
the value of a field. -/
def ofBracketed? (target : Text) (r : Remainder) : Option LogDirective := do
  let (span, mark, rest) ← r.cut? [']', '\x7b']
  if mark = ']' then
    let level ← lastLevel? rest
    return ⟨target, none, level, true⟩
  else
    let (text, _, rest) ← rest.cut? ['\x7d']
    let (name, hasValue) ← ofField? text
    let (_, _, rest) ← if rest.shape.head? = some ']' then rest.cut? [']'] else none
    let level ← lastLevel? rest
    return ⟨target, some name, level, span ≠ [] || hasValue⟩

/-- The directive that a text writes. -/
def ofText? (s : Text) : Option LogDirective :=
  match trim s with
  | [] => none
  | c :: shape =>
    if c = '[' then ofBracketed? [] ⟨shape, s.drop 1⟩
    else if isFirstChar c then
      match Remainder.cut? ⟨c :: shape, s⟩ ['=', '['] with
      | none => some (ofWord s)
      | some (target, mark, rest) =>
        if mark = '=' then
          (level? rest.written).map fun level => ⟨target, none, level, false⟩
        else ofBracketed? target rest
    else none

/-! ## Deciding about events -/

/-- The directive speaks about an event. -/
def appliesTo (d : LogDirective) (e : LogEvent) : Bool :=
  !d.spansOnly && (after? d.target e.target.toList).isSome &&
    (e.kind = .span || d.field.all e.hasField)

/-- The directive shows events of a level. -/
def shows (d : LogDirective) (level : LogLevel) : Bool :=
  match d.level with
  | some most => level.verbosity ≤ most.verbosity
  | none => false

/-- Fields in the order in which they decide: none before all others, then by their names. -/
def fieldLe : Option Text → Option Text → Bool
  | none, _ => true
  | some _, none => false
  | some a, some b => !List.lex b a fun c d => c.toNat < d.toNat

/-- The second of two directives goes before the first, or takes its place. -/
def yieldsTo (d next : LogDirective) : Bool :=
  d.target.length < next.target.length ||
    (d.target.length = next.target.length && fieldLe d.field next.field)

end LogDirective

/-- A filter of events. -/
structure LogFilter where
  directives : List LogDirective
  deriving DecidableEq, Repr

namespace LogFilter

/-- The filter of some directives; without any, errors are shown. -/
def ofDirectives (directives : List LogDirective) : LogFilter :=
  ⟨if directives = [] then [⟨[], none, some .error, false⟩] else directives⟩

/-- The directives of a text, between commas. -/
def directiveTexts (s : Text) : List Text := (pieces ',' s).filter (· ≠ [])

/-- The filter that a text writes; none if a directive cannot be read. -/
def ofText? (s : Text) : Option LogFilter :=
  ((directiveTexts s).mapM LogDirective.ofText?).map ofDirectives

/-- The filter of the directives of a text that can be read. -/
def ofReadable (s : Text) : LogFilter :=
  ofDirectives ((directiveTexts s).filterMap LogDirective.ofText?)

/-- Of two directives the one that decides. -/
def decisive (best : Option LogDirective) (next : LogDirective) : Option LogDirective :=
  match best with
  | none => some next
  | some d => if d.yieldsTo next then some next else some d

/-- The directive that decides about an event. -/
def directiveFor? (f : LogFilter) (e : LogEvent) : Option LogDirective :=
  (f.directives.filter fun d => d.appliesTo e).foldl decisive none

/-- The filter shows the event. -/
def shows (f : LogFilter) (e : LogEvent) : Bool :=
  match f.directiveFor? e with
  | some d => d.shows e.level
  | none => false

/-- The filter of a server: what its environment asks for, if that can be read, else the level of
the settings. -/
def forServer (asked : Option Text) (level : Text) : LogFilter :=
  (asked.bind ofText?).getD
    (ofReadable ("client_ip=".toList ++ level ++ ",tower_http=".toList ++ level))

end LogFilter

end ClientOrigin
