/-
  Gatehouse/Log/Filter.lean --- which log events are written.

  A filter is a list of directives with commas between them.  A directive is a level,
  a source, or a source with a level; it may also name fields, in brackets and braces,
  and then speaks only of events with these fields:

      info        a source=warn        source[{field}]=debug

  The most specific directive that speaks of an event decides: the one with the
  longest source, then the one with the most fields.  An event that no directive
  speaks of is not written.  Directives on spans are read but speak of no event.

  Main definitions: `LogDirective.parse?`, `LogFilter`, `LogFilter.allows`.
-/
import Gatehouse.Config.Environment
import Gatehouse.Log
import Gatehouse.Text.Blank
import Gatehouse.Text.Property

set_option autoImplicit false

namespace Gatehouse

/-! ## Levels -/

/-- The most detailed level that is written; none when nothing is. -/
abbrev LogLimit := Option LogLevel

namespace LogLimit

/-- Whether a level is within a limit. -/
def includes (limit : LogLimit) (level : LogLevel) : Bool :=
  match limit with
  | none => false
  | some most => level.rank ≤ most.rank

/-- The limits in the order of their numbers. -/
def numbered : List LogLimit :=
  [none, some .error, some .warn, some .info, some .debug, some .trace]

/-- The limits by name. -/
def named : List (String × LogLimit) :=
  [("off", none), ("error", some .error), ("warn", some .warn), ("info", some .info),
   ("debug", some .debug), ("trace", some .trace)]

/-- Reads a limit: a name in any case of letters, or a number from 0 to 5. -/
def parse? (cs : List Char) : Option LogLimit :=
  match Numeral.read64? (String.ofList cs) with
  | some n => numbered[n]?
  | none => named.lookup (lowered (String.ofList cs))

end LogLimit

/-! ## Directives -/

/-- A part of a filter. -/
structure LogDirective where
  limit : LogLimit
  /-- The beginning of the paths that it speaks of; every path when absent. -/
  source : Option (List Char)
  /-- The name of a span. -/
  span : Option (List Char)
  /-- The fields that an event must have. -/
  fields : List (List Char)
  /-- Whether it asks for the value of a field. -/
  hasValues : Bool
  deriving DecidableEq, Repr, Inhabited

namespace LogDirective

/-- A directive that is a limit alone. -/
def ofLimit (limit : LogLimit) : LogDirective :=
  { limit, source := none, span := none, fields := [], hasValues := false }

/-- A directive that lets everything of a source pass. -/
def ofSource (source : List Char) : LogDirective :=
  { ofLimit (some .trace) with source := some source }

/-- The end of a directive: nothing, or a limit behind an equals sign, where no limit
means that everything passes. -/
def withLimit? (d : LogDirective) : List Char → Option LogDirective
  | [] => some d
  | ['='] => some { d with limit := some .trace }
  | '=' :: text => (LogLimit.parse? text).map fun limit => { d with limit }
  | _ => none

/-- A field that is asked for, and whether a value of it is. -/
def field? (text : List Char) : Option (List Char × Bool) :=
  if text.isEmpty then none else some (text.takeWhile fun c => c ≠ '=', text.contains '=')

/-- The part in brackets, which begins here, and what follows it. -/
def withSpan? (d : LogDirective) (text : List Char) : Option LogDirective :=
  let name := text.takeWhile fun c => c ≠ ']' && c ≠ '\x7b'
  match text.drop name.length with
  | ']' :: rest => { d with span := some name }.withLimit? rest
  | '\x7b' :: rest => do
      let inner := rest.takeWhile fun c => c ≠ '\x7d'
      let (field, hasValue) ← field? inner
      let d := { d with span := if name.isEmpty then none else some name, fields := [field],
                        hasValues := hasValue }
      match rest.drop inner.length with
      | '\x7d' :: ']' :: rest => d.withLimit? rest
      | _ => none
  | _ => none

/-- Whether a directive can begin with a character: a letter, a number, a hyphen, a colon
or an underscore. -/
def canStart (c : Char) : Bool :=
  Text.isAlphanumeric c || c = '-' || c = ':' || c = '_'

/-- Whether a character ends the name of a source. -/
def endsName (c : Char) : Bool := c = '=' || c = '['

/-- Reads a directive that begins with a name: a limit if it is one, else a source. -/
def named? (text : List Char) : Option LogDirective :=
  let name := text.takeWhile fun c => !endsName c
  match text.drop name.length with
  | [] =>
      match LogLimit.parse? name with
      | some limit => some (ofLimit limit)
      | none => some (ofSource name)
  | '[' :: rest => (ofSource name).withSpan? rest
  | rest => (ofSource name).withLimit? rest

/-- Reads a directive.  A blank in front belongs to the name, which then is that of no
source; nothing may follow such a name. -/
def parse? (text : List Char) : Option LogDirective :=
  match text with
  | [] => none
  | '[' :: rest => (ofLimit (some .trace)).withSpan? rest
  | c :: _ =>
      if canStart c then named? text
      else if Text.isBlank c && ((Text.trim text).head?.map canStart).getD false
          && !text.any endsName then
        some (ofSource text)
      else none

/-- Whether a directive speaks of an event. -/
def concerns (d : LogDirective) (e : LogEvent) : Bool :=
  d.span.isNone && !d.hasValues
    && (match d.source with
      | none => true
      | some source => source.isPrefixOf e.source.path.toList)
    && d.fields.all fun f => f == "message".toList || e.fields.any fun g => g.1.toList == f

/-- Compares how specific two directives are. -/
def compareReach (a b : LogDirective) : Ordering :=
  (compare (a.source.map List.length) (b.source.map List.length)).then
    ((compare a.fields.length b.fields.length).then (compare a.fields b.fields))

/-- The more specific one of two directives, of equals the later one. -/
def moreSpecific (earlier later : LogDirective) : LogDirective :=
  if earlier.compareReach later = .gt then earlier else later

end LogDirective

/-! ## Filters -/

/-- The directives of a filter, in order. -/
structure LogFilter where
  directives : List LogDirective
  deriving DecidableEq, Repr, Inhabited

namespace LogFilter

/-- The texts of the directives of a filter. -/
def pieces (text : String) : List (List Char) :=
  ((text.splitOn ",").map String.toList).filter fun cs => !cs.isEmpty

/-- A filter of some directives; without any, only errors pass. -/
def ofDirectives (l : List LogDirective) : LogFilter :=
  ⟨if l.isEmpty then [.ofLimit (some .error)] else l⟩

/-- Reads a filter in which every directive must be sound. -/
def parse? (text : String) : Option LogFilter :=
  ((pieces text).mapM LogDirective.parse?).map ofDirectives

/-- Reads a filter and leaves unsound directives out. -/
def parseSound (text : String) : LogFilter :=
  ofDirectives ((pieces text).filterMap LogDirective.parse?)

/-- The filter of a program: the one of the environment if it is sound, else the one of
the configuration. -/
def ofSettings (vars : Variables) (c : LoggingConfig) : LogFilter :=
  ((vars.get? "RUST_LOG").bind parse?).getD (parseSound c.level)

/-- The directive that decides on an event. -/
def decider? (f : LogFilter) (e : LogEvent) : Option LogDirective :=
  (f.directives.filter fun d => d.concerns e).foldl (fun best d =>
    match best with
    | none => some d
    | some b => some (b.moreSpecific d)) none

/-- Whether an event is written. -/
def allows (f : LogFilter) (e : LogEvent) : Bool :=
  match f.decider? e with
  | none => false
  | some d => d.limit.includes e.level

end LogFilter

end Gatehouse
