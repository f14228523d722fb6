import GameCatalog.Net.Address
import GameCatalog.Text.Blank

/-!
Log filters.  A filter is a list of directives, each of which names a level and may
name the part of the program that it is about.  Of the directives about an entry, the
most specific one decides; an entry that no directive is about is not shown.
-/

namespace GameCatalog

/-- How important a log entry is. -/
inductive LogLevel where
  | error
  | warn
  | info
  | debug
  | trace
  deriving DecidableEq, Repr

namespace LogLevel

/-- The rank of a level, the most important one first. -/
def rank : LogLevel → Nat
  | error => 1
  | warn => 2
  | info => 3
  | debug => 4
  | trace => 5

def label : LogLevel → String
  | error => "ERROR"
  | warn => "WARN"
  | info => "INFO"
  | debug => "DEBUG"
  | trace => "TRACE"

/-- The rank of the least important level that is shown, by its name. -/
def ranks : List (String × Nat) :=
  [("off", 0), ("error", 1), ("warn", 2), ("info", 3), ("debug", 4), ("trace", 5)]

/-- The rank that a text names, in letters of either case, or is. -/
def rank? (text : List Char) : Option Nat :=
  match ranks.lookup (String.ofList (text.map Char.toLower)) with
  | some rank => some rank
  | none => do
      let number ← Digits.read? 10 ((Split.afterPrefix? ['+'] text).getD text)
      if number ≤ trace.rank then return number else none

end LogLevel

structure LogEntry where
  level : LogLevel
  target : String
  message : String
  deriving DecidableEq, Repr

/-- One of the rules that make up a filter. -/
structure LogDirective where
  target : List Char
  /-- The rank of the least important level that is shown. -/
  rank : Nat
  /-- The directive is about entries inside certain spans only. -/
  inSpans : Bool := false
  deriving DecidableEq, Repr

abbrev LogFilter := List LogDirective

namespace LogFilter

/-- A target may begin with the character; outside ASCII any may. -/
def beginsTarget (character : Char) : Bool :=
  character.isAlphanum || character = '_' || character = ':' || character = '-' ||
    0x80 ≤ character.toNat

/-- Reads what follows a target and its spans: an equality sign and a level, or nothing. -/
def level? : List Char → Option Nat
  | [] | ['='] => some LogLevel.trace.rank
  | '=' :: level => LogLevel.rank? level
  | _ => none

/-- Passes over spans, whose opening bracket is read already: a name, and fields in braces. -/
def afterSpans? (text : List Char) : Option (List Char) := do
  match text.dropWhile fun character => character ≠ ']' && character ≠ '\x7b' with
  | ']' :: rest => return rest
  | _ :: rest =>
      let (fields, rest) := rest.span (· ≠ '\x7d')
      if fields.isEmpty then none else Split.afterPrefix? ['\x7d', ']'] rest
  | [] => none

/-- Reads a directive: a level alone, a target alone, or a target, spans and a level. -/
def directive? (text : List Char) : Option LogDirective := do
  let trimmed := Blank.trimChars text
  let first ← trimmed.head?
  let (target, rest) := trimmed.span fun character => character ≠ '=' && character ≠ '['
  if first ≠ '[' ∧ !beginsTarget first then none
  else
    match rest with
    | [] =>
        match LogLevel.rank? text with
        | some rank => return ⟨[], rank, false⟩
        | none => return ⟨text, LogLevel.trace.rank, false⟩
    | '[' :: rest =>
        let rest ← afterSpans? rest
        if trimmed ≠ text ∧ !rest.isEmpty then none else return ⟨target, ← level? rest, true⟩
    | rest => if trimmed ≠ text then none else return ⟨target, ← level? rest, false⟩

/-- The filter that shows errors only. -/
def errorsOnly : LogFilter := [⟨[], LogLevel.error.rank, false⟩]

/-- The filter that is used when nothing else is said. -/
def standard : LogFilter := [⟨[], LogLevel.info.rank, false⟩]

/-- Reads a filter: directives joined by commas. -/
def ofText? (text : String) : Option LogFilter := do
  let directives ← ((Split.on ',' text.toList).filter (! ·.isEmpty)).mapM directive?
  return if directives.isEmpty then errorsOnly else directives

/--
The directive that decides about a target outside of spans: the longest one, of equal
ones the last.
-/
def deciding? (filter : LogFilter) (target : String) : Option LogDirective :=
  filter.foldl (fun best directive =>
    if directive.inSpans || (Split.afterPrefix? directive.target target.toList).isNone then best
    else
      match best with
      | none => some directive
      | some found =>
          if found.target.length ≤ directive.target.length then some directive else best)
    none

def shows (filter : LogFilter) (entry : LogEntry) : Bool :=
  match filter.deciding? entry.target with
  | some directive => entry.level.rank ≤ directive.rank
  | none => false

/-- The filter that the first of several texts spells that spells one. -/
def choose (texts : List (Option String)) : LogFilter :=
  (texts.findSome? fun text => text.bind ofText?).getD standard

end LogFilter

end GameCatalog
