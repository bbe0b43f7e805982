import Scaffold.Settings.FieldValue
import Scaffold.Text.Blank
import Scaffold.Text.Letters
import Scaffold.Text.Pieces

/-!
Contract: the filter of log events.

Owns:
- levels, and the level that the flags of the command line force;
- rules that give a level to a target, to a span or to fields, and their spelling;
- filters, whose rules stand in the order in which they are tried.

A filter is spelled as rules with commas between them. Rules about more come first, so the
first one that applies is the one that says most.
-/

namespace Scaffold

/-- How much is logged. -/
inductive LogLevel where
  | off
  | error
  | warn
  | info
  | debug
  | trace
  deriving DecidableEq, Repr

namespace LogLevel

/-- The name of a level. -/
def text : LogLevel → String
  | .off => "off"
  | .error => "error"
  | .warn => "warn"
  | .info => "info"
  | .debug => "debug"
  | .trace => "trace"

/-- The levels in the order of their numbers. -/
def all : List LogLevel :=
  [.off, .error, .warn, .info, .debug, .trace]

/-- The number that a row of digits spells, with a plus sign in front or without. -/
def number? (text : List Char) : Option Nat :=
  let digits :=
    match text with
    | '+' :: rest => rest
    | _ => text
  if digits.isEmpty || !digits.all Text.isAsciiDigit then none
  else some (digits.foldl (fun value digit => value * 10 + (digit.toNat - '0'.toNat)) 0)

/-- The level that a text spells: its number, or its name in letters of any case. An empty text
is the level of errors. -/
def ofText? (spelled : List Char) : Option LogLevel :=
  match number? spelled with
  | some number => all[number]?
  | none =>
      if spelled.isEmpty then some .error
      else all.find? fun level => level.text.toList == spelled.map Char.toLower

/-- The level that the flags of the command line force, quietness before any number of calls
for more. -/
def forced? (verbosity : Nat) (quiet : Bool) : Option LogLevel :=
  match quiet, verbosity with
  | true, _ => some .warn
  | false, 0 => none
  | false, 1 => some .debug
  | false, _ => some .trace

end LogLevel

/-- A field that a rule asks for, and the value it has to have. -/
structure FieldMatch where
  name : String
  value : Option FieldValue
  deriving DecidableEq, Repr

/-- A field in words. -/
def FieldMatch.text (field : FieldMatch) : String :=
  match field.value with
  | some value => field.name ++ "=" ++ value.text
  | none => field.name

/-- The level of what a rule is about. -/
structure LogRule where
  target : Option String := none
  span : Option String := none
  fields : List FieldMatch := []
  level : LogLevel := .trace
  deriving DecidableEq, Repr

namespace LogRule

/-- The rule in words. -/
def text (rule : LogRule) : String :=
  let fields :=
    match rule.fields with
    | [] => ""
    | _ :: _ => "\x7b" ++ ",".intercalate (rule.fields.map FieldMatch.text) ++ "\x7d"
  let scope :=
    if rule.span.isNone && rule.fields.isEmpty then ""
    else "[" ++ rule.span.getD "" ++ fields ++ "]"
  let subject := rule.target.getD "" ++ scope
  if rule.target.isNone && scope.isEmpty then rule.level.text
  else subject ++ "=" ++ rule.level.text

/-- Is the rule about spans or their fields? -/
def isAboutSpans (rule : LogRule) : Bool :=
  rule.span.isSome || !rule.fields.isEmpty

/-- Does the rule apply to events on their own? It does unless it names a span or the value of
a field. -/
def isAboutEvents (rule : LogRule) : Bool :=
  rule.span.isNone && rule.fields.all fun field => field.value.isNone

/-- The first answer that is not equality. -/
def firstDifference : List Ordering → Ordering
  | [] => .eq
  | .eq :: rest => firstDifference rest
  | answer :: _ => answer

/-- Nothing comes before something. -/
def compareOptions {α : Type} (order : α → α → Ordering) : Option α → Option α → Ordering
  | none, none => .eq
  | none, some _ => .lt
  | some _, none => .gt
  | some left, some right => order left right

/-- Compare lists by their first difference; a list comes before those that continue it. -/
def compareLists {α : Type} (order : α → α → Ordering) : List α → List α → Ordering
  | [], [] => .eq
  | [], _ :: _ => .lt
  | _ :: _, [] => .gt
  | left :: leftRest, right :: rightRest =>
      match order left right with
      | .eq => compareLists order leftRest rightRest
      | answer => answer

/-- Compare fields: one without a value comes first, then names and values decide. -/
def compareFields (left right : FieldMatch) : Ordering :=
  firstDifference
    [compare left.value.isSome.toNat right.value.isSome.toNat, compare left.name right.name,
      compareOptions FieldValue.compare left.value right.value]

/-- Compare rules by how much they say: the length of their target, whether they name a span,
the number of their fields, and then their texts. -/
def compareBySubject (left right : LogRule) : Ordering :=
  firstDifference
    [compareOptions (fun first second => compare first.utf8ByteSize second.utf8ByteSize)
        left.target right.target,
      compare left.span.isSome.toNat right.span.isSome.toNat,
      compare left.fields.length right.fields.length,
      compareOptions compare left.target right.target,
      compareOptions compare left.span right.span,
      compareLists compareFields left.fields right.fields]

/-! ## Spelling -/

/-- How far the text of a rule has been read, with the place where the part at hand begins. Places
are counted in the bytes of the encoded text. -/
inductive Stage where
  | start
  | levelOrTarget (first : Nat)
  | span (first : Nat)
  | field (first : Nat)
  | fields
  | target
  | level (first : Nat)
  deriving DecidableEq, Repr

/-- Split a text at a place, unless that is inside of a character or behind the end. -/
def splitAt? : Nat → List Char → Option (List Char × List Char)
  | 0, text => some ([], text)
  | _ + 1, [] => none
  | place + 1, char :: rest =>
      if char.utf8Size ≤ place + 1 then
        (splitAt? (place + 1 - char.utf8Size) rest).map fun parts => (char :: parts.1, parts.2)
      else none

/-- The part of a text between two places. -/
def part? (text : List Char) (first last : Nat) : Option (List Char) := do
  let (_, rest) ← splitAt? first text
  let (found, _) ← splitAt? (last - first) rest
  return found

/-- The field that a text asks for. The value ends at a second sign of equality. -/
def fieldOf? (text : List Char) : Option FieldMatch :=
  if text.isEmpty then none
  else
    match Text.splitAtAll (· == '=') text with
    | name :: value :: _ =>
        (FieldValue.ofText? value).map fun read => ⟨String.ofList name, some read⟩
    | name :: _ => some ⟨String.ofList name, none⟩
    | [] => none

/-- The rule with the level that a text spells; no text stands for everything. -/
def withLevel? (rule : LogRule) (text : List Char) : Option LogRule :=
  if text.isEmpty then some { rule with level := .trace }
  else (LogLevel.ofText? text).map fun level => { rule with level }

/-- The rule with a text for its level, or for its target where it spells none. -/
def withLevelOrTarget (rule : LogRule) (text : List Char) : LogRule :=
  match LogLevel.ofText? text with
  | some level => { rule with level, target := none }
  | none => { rule with level := .trace, target := some (String.ofList text) }

/-- May a rule begin with the character? -/
def startsRule (char : Char) : Bool :=
  char == '-' || char == ':' || char == '_' || Text.isAlphanumeric char

/-- Read one character of a rule, at the place `last` of the text. -/
def read
    (text : List Char)
    (rule : LogRule)
    (stage : Stage)
    (last : Nat)
    (char : Char) :
    Option (LogRule × Stage) :=
  let named? (first : Nat) : Option String := (part? text first last).map String.ofList
  match stage with
  | .start =>
      if char = '[' then some (rule, .span (last + 1))
      else if startsRule char then some (rule, .levelOrTarget last)
      else none
  | .levelOrTarget first =>
      if char = '=' then
        (named? first).map fun target =>
          ({ rule with target := some target }, .level (last + 1))
      else if char = '[' then
        (named? first).map fun target => ({ rule with target := some target }, .span (last + 1))
      else some (rule, stage)
  | .span first =>
      if char = ']' then
        (named? first).map fun span => ({ rule with span := some span }, .target)
      else if char.toNat = 0x7B then
        (named? first).map fun span =>
          ({ rule with span := if span.isEmpty then none else some span }, .field (last + 1))
      else some (rule, stage)
  | .field first =>
      if char.toNat = 0x7D then
        ((part? text first last).bind fieldOf?).map fun field =>
          ({ rule with fields := rule.fields ++ [field] }, .fields)
      else some (rule, stage)
  | .fields => if char = ']' then some (rule, .target) else none
  | .target => if char = '=' then some (rule, .level (last + 1)) else none
  | .level _ => some (rule, stage)

/-- Read all characters of a rule from the place `last` on. -/
def readFrom
    (text : List Char)
    (rule : LogRule)
    (stage : Stage)
    (last : Nat) :
    List Char → Option (LogRule × Stage)
  | [] => some (rule, stage)
  | char :: rest => do
      let (next, reached) ← read text rule stage last char
      readFrom text next reached (last + char.utf8Size) rest

/-- The rule that a text spells. Blanks at its ends are no part of the spelling, but places are
counted as if those in front were not there, and the parts are cut out of the whole text. -/
def ofText? (text : List Char) : Option LogRule := do
  match ← readFrom text {} .start 0 (Text.trimChars text) with
  | (rule, .levelOrTarget first) =>
      (splitAt? first text).map fun parts => rule.withLevelOrTarget parts.2
  | (rule, .level first) => (splitAt? first text).bind fun parts => rule.withLevel? parts.2
  | (rule, .target) => some rule
  | _ => none

end LogRule

/-- Rules in the order in which they are tried: those for events, then those for spans. -/
structure LogFilter where
  events : List LogRule
  spans : List LogRule
  deriving DecidableEq, Repr

/-- A text that is asked for as a log level and spells no filter. -/
structure RefusedLogLevel where
  text : String
  deriving DecidableEq, Repr

/-- The refusal in words. -/
def RefusedLogLevel.message (refused : RefusedLogLevel) : String :=
  "invalid log level: " ++ refused.text

namespace LogFilter

/-- Put a rule among rules that stand in order. One with the same subject is replaced. -/
def insert (rule : LogRule) : List LogRule → List LogRule
  | [] => [rule]
  | first :: rest =>
      match LogRule.compareBySubject rule first with
      | .gt => rule :: first :: rest
      | .eq => rule :: rest
      | .lt => first :: insert rule rest

/-- The filter of rules. One that is about fields without values stands among both. -/
def ofRules (rules : List LogRule) : LogFilter :=
  let (spans, others) := rules.partition LogRule.isAboutSpans
  let events := others ++ spans.filter LogRule.isAboutEvents
  ⟨events.foldl (fun held rule => insert rule held) [],
    spans.foldl (fun held rule => insert rule held) []⟩

/-- The filter that a text spells. -/
def ofText? (text : String) : Option LogFilter :=
  ((Text.nonemptyPieces (· == ',') text).mapM fun piece => LogRule.ofText? piece.toList).map
    ofRules

/-- The filter in words. -/
def text (filter : LogFilter) : String :=
  ",".intercalate ((filter.events ++ filter.spans).map LogRule.text)

/-- The filter of a run: that of the forced level, else the one that the environment spells if
it spells one, else the configured one, which may be refused. -/
def choose
    (forced : Option LogLevel)
    (environment : Option String)
    (configured : String) :
    Except RefusedLogLevel LogFilter :=
  let spelled (text : String) : Except RefusedLogLevel LogFilter :=
    match ofText? text with
    | some filter => .ok filter
    | none => .error ⟨text⟩
  match forced with
  | some level => spelled level.text
  | none =>
      match environment.bind ofText? with
      | some filter => .ok filter
      | none => spelled configured

end LogFilter

end Scaffold
