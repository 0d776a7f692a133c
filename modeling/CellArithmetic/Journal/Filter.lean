import CellArithmetic.Journal
import CellArithmetic.Text
import CellArithmetic.Text.Alphanumeric

/-! Which events are shown. A setting is a list of directives with commas between them:
a level for everything, or a level for the topics that begin in a certain way and the
events that have a certain field. The closest directive decides, and of two directives
for the same events the last. -/
namespace CellArithmetic.Journal

/-- Reads a level by name, in letters of either case, or by its detail. -/
def Level.ofText? (text : String) : Option Level :=
  let digits := match text.toList with
    | '+' :: s => s
    | s => s
  if !digits.isEmpty && digits.all Char.isDigit then Level.all[Nat.ofDigitChars 10 digits 0]?
  else Level.all.find? fun level => level.name == text.map Char.toLower

namespace Directive

/-- What a directive asks for besides a topic. -/
inductive Scope where
  | all
  | field (name : String)
  /-- A span of work or a field with a certain value; no event meets either. -/
  | span
deriving DecidableEq, Repr

inductive Fault where
  | malformed
  | unknownLevel
deriving DecidableEq, Repr

def Fault.message : Fault → String
  | malformed => "invalid filter directive"
  | unknownLevel =>
    "error parsing level filter: expected one of \"off\", \"error\", \"warn\", \"info\", \"debug\", " ++
      "\"trace\", or a number 0-5"

end Directive

structure Directive where
  /-- How the topics begin; all topics begin with nothing. -/
  topic : String
  scope : Directive.Scope
  level : Level
deriving DecidableEq, Repr

namespace Directive

/-- The scope of a field in braces: its name, or its name and a value. -/
def Scope.ofField (field : List Char) : Scope :=
  if field.contains '=' then .span else .field (String.ofList field)

def isOpening (c : Char) : Bool :=
  Text.isAlphanumeric c || c == '-' || c == ':' || c == '_' || c == '['

/-- The characters of a text that stand as far from its front as `tail` stands from the front
of the trimmed text, of which it is a tail. -/
def behind (text tail : List Char) : List Char :=
  text.drop ((Text.trim text).length - tail.length)

/-- Reads the level that may follow in the trimmed text; without one everything is asked for. -/
def levelOf (text : List Char) : List Char → Except Fault Level
  | [] => .ok .trace
  | '=' :: tail =>
    let written := behind text tail
    if written.isEmpty then .ok .trace
    else
      match Level.ofText? (String.ofList written) with
      | some level => .ok level
      | none => .error .unknownLevel
  | _ => .error .malformed

/-- Reads what an opening bracket is followed by in the trimmed text: the scope up to the
closing bracket, and what is left. -/
def scopeOf (text tail : List Char) : Except Fault (Scope × List Char) :=
  let isName := fun c => c != ']' && c != '\x7b'
  match tail.dropWhile isName with
  | [] => .error .malformed
  | ']' :: rest => .ok (.span, rest)
  | _ :: inner =>
    let field := inner.takeWhile (· != '\x7d')
    match inner.dropWhile (· != '\x7d') with
    | _ :: ']' :: rest =>
      if field.isEmpty then .error .malformed
      else if (tail.takeWhile isName).isEmpty then
        .ok (.ofField ((behind text inner).take field.length), rest)
      else .ok (.span, rest)
    | _ => .error .malformed

/-- Reads a directive. Its shape is that of the text without the blanks at the ends, but its
pieces are cut out of the whole text at the same distances from the front. -/
def ofText (text : List Char) : Except Fault Directive :=
  let shape := Text.trim text
  let isPlain := fun c => c != '=' && c != '['
  let topic := String.ofList (text.take (shape.takeWhile isPlain).length)
  if !shape.head?.any isOpening then .error .malformed
  else
    match shape.dropWhile isPlain with
    | [] =>
      match Level.ofText? (String.ofList text) with
      | some level => .ok ⟨"", .all, level⟩
      | none => .ok ⟨String.ofList text, .all, .trace⟩
    | '[' :: tail =>
      match scopeOf text tail with
      | .error fault => .error fault
      | .ok (scope, rest) => (levelOf text rest).map (⟨topic, scope, ·⟩)
    | rest => (levelOf text rest).map (⟨topic, .all, ·⟩)

def meets (directive : Directive) (event : Event) : Bool :=
  directive.topic.toList.isPrefixOf event.topic.toList &&
    match directive.scope with
    | .all => true
    | .field name => name == "message" || event.fields.any fun field => field.1 == name
    | .span => false

/-- Whether the second directive is at least as close as the first to an event that both
meet: by the length of the topic, then by a field, and then by the name of the field. -/
def closer (first second : Directive) : Bool :=
  if first.topic.length = second.topic.length then
    match first.scope, second.scope with
    | .field name, .field other => name ≤ other
    | .field _, _ => false
    | _, _ => true
  else first.topic.length ≤ second.topic.length

end Directive

structure Filter where
  directives : List Directive
  /-- What is wrong with the parts of the setting that are passed over. -/
  complaints : List String

namespace Filter

private def complaint (part : List Char) (fault : Directive.Fault) : String :=
  "ignoring `" ++ String.ofList part ++ "`: " ++ fault.message

def ofSetting (setting : String) : Filter :=
  let parts := (Text.pieces ',' setting.toList).filter fun part => !part.isEmpty
  { directives := parts.filterMap fun part => (Directive.ofText part).toOption
    complaints := parts.filterMap fun part =>
      match Directive.ofText part with
      | .ok _ => none
      | .error fault => some (complaint part fault) }

/-- The level up to which an event is shown. Without any directive it is the usual one; an
event that no directive meets is not shown at all. -/
def level (filter : Filter) (usual : Level) (event : Event) : Level :=
  if filter.directives.isEmpty then usual
  else
    let choose := fun (best : Option Directive) (directive : Directive) =>
      if best.all (·.closer directive) then some directive else best
    (((filter.directives.filter (·.meets event)).foldl choose none).map Directive.level).getD .off

/-- The lines of the events that are shown. -/
def lines (filter : Filter) (usual : Level) (events : List Event) : List String :=
  (events.filter fun event => event.level.detail ≤ (filter.level usual event).detail).map Event.text

end CellArithmetic.Journal.Filter
