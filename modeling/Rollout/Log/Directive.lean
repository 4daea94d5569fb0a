import Rollout.Log.Record
import Rollout.Pattern.Reader
import Rollout.Pattern.Search
import Rollout.Text.Alphanumeric
import Rollout.Text.Blank
import Rollout.Text.Count
import Rollout.Text.Numeral
import Rollout.Text.Position

/-!
# Directives

A directive limits the verbosity of some records. It is written as a level alone, or as a target,
a span in brackets, or both, with an equals sign and a level behind them. The span may be told by
its name, by the name of one of its values in braces, or by both, and the value by a pattern.

The marks between the parts of a directive are looked for in its text without the blanks at the
ends. The parts are then cut out of the text as it is given, at the same positions. So blanks at
the end belong to the last part, and blanks at the beginning move all parts.
-/

namespace Rollout.Log

/-- What a directive asks of the values of a span or a record. -/
structure FieldTest where
  /-- The name of a value that there must be. -/
  name : String
  /-- What its text must be like. -/
  value : Option String
  deriving DecidableEq, Repr

/-- A directive about records, by their target or by the span in which they are written. -/
structure Directive where
  target : Option String
  /-- The name of the span. -/
  span : Option String
  field : Option FieldTest
  /-- The greatest verbosity of a record that is written. -/
  verbosity : Nat
  deriving DecidableEq, Repr

inductive DirectiveFault where
  | invalid
  | level
  /-- The pattern of a value has a fault. -/
  | field (cause : Pattern.Fault)
  deriving DecidableEq, Repr

def DirectiveFault.message : DirectiveFault → String
  | .invalid => "invalid filter directive"
  | .level =>
    "error parsing level filter: expected one of \"off\", \"error\", \"warn\", \"info\", " ++
      "\"debug\", \"trace\", or a number 0-5"
  | .field cause => "invalid field filter: " ++ cause.message

namespace FieldTest

/-- Whether a text is a truth value or a number. Such a value is compared as what it is, and so it
is like no text. -/
def isScalar (value : String) : Bool :=
  value == "true" || value == "false" || Text.isNumeral value

/-- Reads the test of a value. What stands behind a second equals sign does not count. -/
def read (text : String) : Except DirectiveFault FieldTest :=
  if text.isEmpty then .error .invalid
  else
    match text.splitToList (· == '=') with
    | name :: value :: _ =>
      if isScalar value then .ok ⟨name, some value⟩
      else ((Pattern.read value).mapError .field).map fun _ => ⟨name, some value⟩
    | _ => .ok ⟨text, none⟩

def isLike (value text : String) : Bool :=
  !isScalar value && (Pattern.read value).toOption.any fun p => p.endsText text.toList

def passes (t : FieldTest) (values : List (String × String)) : Bool :=
  match values.lookup t.name, t.value with
  | none, _ => false
  | some _, none => true
  | some text, some value => isLike value text

end FieldTest

namespace Directive

def everything : Nat := Level.trace.verbosity

/-- The verbosity that a text gives, by the name of a level in any case or by a number. -/
def readVerbosity? (text : String) : Option Nat :=
  match Text.readCount text with
  | .ok n => if n ≤ everything then some n else none
  | .error _ =>
    match Text.lower text with
    | "off" => some 0
    | "error" => some Level.error.verbosity
    | "warn" => some Level.warn.verbosity
    | "info" => some Level.info.verbosity
    | "debug" => some Level.debug.verbosity
    | "trace" => some Level.trace.verbosity
    | _ => none

def mayBegin (c : Char) : Bool :=
  Text.isAlphanumeric c || c == '-' || c == ':' || c == '_'

def part (whole : List Char) (start stop : Nat) : String :=
  String.ofList (Text.between start stop whole)

/-- Reads the level at the end of a directive, from a position on. Without a level, everything is
written. -/
def readLevel (whole : List Char) (limited : Nat → Directive) (start : Nat) :
    List Char → Except DirectiveFault Directive
  | [] => .ok (limited everything)
  | '=' :: _ =>
    let level := String.ofList (Text.fromByte (start + 1) whole)
    if level.isEmpty then .ok (limited everything)
    else
      match readVerbosity? level with
      | some verbosity => .ok (limited verbosity)
      | none => .error .level
  | _ => .error .invalid

/-- Reads the test of a value, which begins at a position behind a brace, and what follows it. -/
def readField (whole : List Char) (target span : Option String) (start : Nat) (cs : List Char) :
    Except DirectiveFault Directive :=
  let isInside (c : Char) : Bool := c != '\x7d'
  let stop := start + Text.byteLength (cs.takeWhile isInside)
  match cs.dropWhile isInside with
  | [] => .error .invalid
  | _ :: rest => do
    let field ← FieldTest.read (part whole start stop)
    match rest with
    | ']' :: rest => readLevel whole (Directive.mk target span field) (stop + 2) rest
    | _ => .error .invalid

def readSpan (whole : List Char) (target : Option String) (start : Nat) (cs : List Char) :
    Except DirectiveFault Directive :=
  let isInside (c : Char) : Bool := c != ']' && c != '\x7b'
  let stop := start + Text.byteLength (cs.takeWhile isInside)
  let name := part whole start stop
  match cs.dropWhile isInside with
  | [] => .error .invalid
  | ']' :: rest => readLevel whole (Directive.mk target (some name) none) (stop + 1) rest
  | _ :: rest => readField whole target (if name.isEmpty then none else some name) (stop + 1) rest

/-- Reads a text without marks: the name of a level, or else a target all of whose records are
written. -/
def ofWord (text : String) : Directive :=
  match readVerbosity? text with
  | some verbosity => ⟨none, none, none, verbosity⟩
  | none => ⟨some text, none, none, everything⟩

def read (text : String) : Except DirectiveFault Directive :=
  let whole := text.toList
  let isInside (c : Char) : Bool := c != '=' && c != '['
  match Text.trimChars whole with
  | [] => .error .invalid
  | '[' :: rest => readSpan whole none 1 rest
  | c :: cs =>
    if !mayBegin c then .error .invalid
    else
      let stop := Text.byteLength ((c :: cs).takeWhile isInside)
      let target := some (part whole 0 stop)
      match (c :: cs).dropWhile isInside with
      | [] => .ok (ofWord text)
      | '[' :: rest => readSpan whole target (stop + 1) rest
      | rest => readLevel whole (Directive.mk target none none) stop rest

/-- The directive that holds where no other is given: errors are written. -/
def errors : Directive := ⟨none, none, none, Level.error.verbosity⟩

def isScoped (d : Directive) : Bool := d.span.isSome || d.field.isSome

def asksForValue (d : Directive) : Bool := (d.field.bind FieldTest.value).isSome

def isGeneral (d : Directive) : Bool := d.span.isNone && !d.asksForValue

/-- Whether a directive is about a target, which is so if its own one is the beginning of it. -/
def namesTarget (d : Directive) (target : String) : Bool :=
  d.target.all fun own => own.toList.isPrefixOf target.toList

def covers (d : Directive) (r : Record) : Bool :=
  d.isGeneral && d.namesTarget r.target && d.field.all fun t => r.names.contains t.name

def coversWithin (d : Directive) (s : Span) : Bool :=
  d.isScoped && d.namesTarget s.target && d.span.all (· == s.name)
    && d.field.all fun t => t.passes s.values

def subject (d : Directive) : Option String × Option String × Option FieldTest :=
  (d.target, d.span, d.field)

/-- How closely a directive names what it is about: by the length of its target first, and then
by the value that it asks for. -/
def closeness (d : Directive) : Nat × String :=
  (d.target.elim 0 (·.length + 1), d.field.elim "" FieldTest.name)

/-- Whether another directive names what it is about at least as closely. -/
def yieldsTo (d other : Directive) : Bool :=
  d.closeness.1 < other.closeness.1
    || (d.closeness.1 == other.closeness.1 && decide (d.closeness.2 ≤ other.closeness.2))

end Directive

end Rollout.Log
