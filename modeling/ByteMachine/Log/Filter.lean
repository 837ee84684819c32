import ByteMachine.Log

/-!
# What is shown of the log

A filter is a list of directives, each of which is about some of the entries. Of the directives
about an entry the most specific one decides whether it is shown. A setting is the text of a
filter, with commas between the directives; tracing adds a directive about the whole program.
-/

namespace ByteMachine

namespace LogLevel

/-- The level that a text names or counts, in any case of letters; `none` in it shows nothing. -/
def ofText? (text : String) : Option (Option LogLevel) :=
  match text.toLower with
  | "off" | "0" => some none
  | "error" | "1" => some (some .error)
  | "warn" | "2" => some (some .warn)
  | "info" | "3" => some (some .info)
  | "debug" | "4" => some (some .debug)
  | "trace" | "5" => some (some .trace)
  | _ => none

end LogLevel

/-- What a directive asks for in brackets. A span, or the value of a field, is never there when
something is logged. -/
inductive LogScope where
  | whole
  | field (name : String)
  | span
  deriving DecidableEq, Repr

def LogScope.ofText : List Char → LogScope
  | [] => .whole
  | '\x7b' :: inner =>
      let field := inner.takeWhile (· ≠ '\x7d')
      if field.isEmpty then .whole
      else if field.contains '=' then .span
      else .field (String.ofList field)
  | _ => .span

/-- A directive is about the entries whose target begins with its own, and shows them up to its
level. -/
structure LogDirective where
  target : String
  scope : LogScope
  level : Option LogLevel
  deriving DecidableEq, Repr

namespace LogDirective

def concerns (directive : LogDirective) (entry : LogEntry) : Bool :=
  directive.target.toList.isPrefixOf entry.target.toList &&
    match directive.scope with
    | .whole => true
    | .field name => entry.fields.contains name
    | .span => false

def shows (directive : LogDirective) (level : LogLevel) : Bool :=
  directive.level.any fun least => level.verbosity ≤ least.verbosity

/-- Whether another directive about the same entry, further behind, decides about it: one with a
longer target, or else with a field, or else with a field that is not before its own. -/
def yieldsTo (directive later : LogDirective) : Bool :=
  if directive.target.length = later.target.length then
    match directive.scope, later.scope with
    | .field name, .field other => name ≤ other
    | .field _, _ => false
    | _, _ => true
  else
    directive.target.length < later.target.length

/-- The directive of a run that is traced. -/
def tracing : LogDirective :=
  ⟨"ls8", .whole, some .trace⟩

def isTargetPart (c : Char) : Bool :=
  c.isAlphanum || c = '_' || c = ':' || c = '-' || 128 ≤ c.toNat

/-- What stands in brackets at the start of a text, and the rest; `none` if they do not close. -/
def splitBrackets : List Char → Option (LogScope × List Char)
  | '[' :: rest =>
      match rest.dropWhile (· ≠ ']') with
      | _ :: behind => some (.ofText (rest.takeWhile (· ≠ ']')), behind)
      | [] => none
  | rest => some (.whole, rest)

/-- The level behind a target. Without one everything is shown. -/
def levelOf? : List Char → Option (Option LogLevel)
  | [] | ['='] => some (some .trace)
  | '=' :: level => LogLevel.ofText? (String.ofList level)
  | _ => none

/-- Read a directive: a level, or a target, brackets or both with perhaps a level. -/
def ofText? (text : String) : Option LogDirective :=
  match LogLevel.ofText? text with
  | some level => some ⟨"", .whole, level⟩
  | none =>
      if text.toList.head? = some '=' then
        none
      else
        (splitBrackets (text.toList.dropWhile isTargetPart)).bind fun (scope, rest) =>
          (levelOf? rest).map fun level =>
            ⟨String.ofList (text.toList.takeWhile isTargetPart), scope, level⟩

end LogDirective

abbrev LogFilter := List LogDirective

namespace LogFilter

/-- The directive that decides about an entry: the most specific of those that are about it, and
of several the last. -/
def deciding? (entry : LogEntry) : LogFilter → Option LogDirective
  | [] => none
  | directive :: rest =>
      match deciding? entry rest with
      | some later =>
          if directive.concerns entry && !directive.yieldsTo later then some directive
          else some later
      | none => if directive.concerns entry then some directive else none

def admits (filter : LogFilter) (entry : LogEntry) : Bool :=
  (filter.deciding? entry).any (·.shows entry.level)

/-- Read the directives of a setting; `none` if one of them is none. -/
def ofText? (text : String) : Option LogFilter :=
  ((text.toList.splitOn ',').filter (!·.isEmpty)).mapM fun directive =>
    LogDirective.ofText? (String.ofList directive)

/-- The filter that a setting asks for. Without a setting, and with one that cannot be read,
warnings are shown, with an empty one errors only. -/
def ofSetting (setting : Option String) : LogFilter :=
  match setting.bind ofText? with
  | none => [⟨"", .whole, some .warn⟩]
  | some [] => [⟨"", .whole, some .error⟩]
  | some filter => filter

end LogFilter
end ByteMachine
