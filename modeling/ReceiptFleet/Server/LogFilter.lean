import ReceiptFleet.Text.Alphanumeric
import ReceiptFleet.Text.Digits
import ReceiptFleet.Text.Pieces

/-!
Log lines, and the filters that let them through. A filter is a list of directives with commas between
them, such as `warn,print_server=debug`; of all directives that apply to a line the most specific one
decides, and a line to which none applies is not written.
-/

namespace ReceiptFleet.Server

/-- How important a log line is. -/
inductive Level where
  | error
  | warn
  | info
  | debug
  | trace
deriving DecidableEq, Repr

namespace Level

/-- The word for a level. -/
def word : Level → String
  | .error => "ERROR"
  | .warn => "WARN"
  | .info => "INFO"
  | .debug => "DEBUG"
  | .trace => "TRACE"

/-- The number of a level: the less important, the greater. -/
def number : Level → Nat
  | .error => 1
  | .warn => 2
  | .info => 3
  | .debug => 4
  | .trace => 5

end Level

/-- A log line: its level, the part of the program that it is from, its text, and its fields with
their values. -/
structure LogLine where
  level : Level
  target : String
  message : String
  fields : List (String × String) := []
deriving DecidableEq, Repr

/-- The names of all fields of a line; the text is one of them. -/
def LogLine.fieldNames (line : LogLine) : List String := "message" :: line.fields.map Prod.fst

/-- A line as it is written, without its time. -/
def LogLine.text (line : LogLine) : String :=
  line.fields.foldl (fun s (name, value) => s ++ " " ++ name ++ "=" ++ value)
    (line.level.word ++ " " ++ line.message)

/-- A directive: the targets that it is for, by what they begin with; the fields that a line must have;
whether it is only for lines inside a named activity; and the greatest number of a level that it lets
through, where none has the number zero. -/
structure LogDirective where
  target : Option String := none
  fields : List String := []
  nested : Bool := false
  limit : Nat := Level.trace.number
deriving DecidableEq, Repr

/-- A filter: its directives in order. -/
abbrev LogFilter := List LogDirective

namespace LogDirective

/-! ## Reading -/

/-- The limit that a text names, by number or by word; no text at all is `error`. -/
def limit? (s : List Char) : Option Nat :=
  match Text.unsigned? (Level.trace.number + 1) s with
  | some n => some n
  | none =>
    match (String.ofList (s.map Char.toLower)) with
    | "off" => some 0
    | "" | "error" => some Level.error.number
    | "warn" => some Level.warn.number
    | "info" => some Level.info.number
    | "debug" => some Level.debug.number
    | "trace" => some Level.trace.number
    | _ => none

/-- The directive with the limit behind an equals sign; without any limit there, everything passes. -/
def limited? (d : LogDirective) (s : List Char) : Option LogDirective :=
  if s.isEmpty then some d else (limit? s).map fun limit => { d with limit }

/-- Reads what may follow a bracket: nothing, or an equals sign and a limit. -/
def afterBracket? (d : LogDirective) : List Char → Option LogDirective
  | [] => some d
  | '=' :: rest => d.limited? rest
  | _ => none

/-- Takes up a field. A field with a value makes a directive that no line outside of an activity meets. -/
def addField (d : LogDirective) (field : List Char) : LogDirective :=
  match Text.cut? '=' field with
  | some (name, _) => { d with fields := [String.ofList name], nested := true }
  | none => { d with fields := [String.ofList field] }

/-- Reads a bracket behind its beginning: the name of an activity, a field in braces, or both. -/
def bracket? (d : LogDirective) (s : List Char) : Option LogDirective :=
  let name := s.takeWhile fun c => c != ']' && c != '\x7b'
  match s.dropWhile fun c => c != ']' && c != '\x7b' with
  | ']' :: rest => { d with nested := true }.afterBracket? rest
  | _ :: rest =>
    match Text.cut? '\x7d' rest with
    | some (field, ']' :: rest) =>
      if field.isEmpty then none
      else ({ d with nested := !name.isEmpty }.addField field).afterBracket? rest
    | _ => none
  | [] => none

/-- Whether a directive may begin with a character. -/
def isStart (c : Char) : Bool := c == '-' || c == ':' || c == '_' || Text.isAlphanumeric c

/-- Reads a directive without blanks in front. A word alone is a limit if it names one, or else a
target. -/
def unspaced? (s : List Char) : Option LogDirective :=
  let word := s.takeWhile fun c => c != '=' && c != '['
  let target := some (String.ofList word)
  match s with
  | [] => none
  | '[' :: rest => LogDirective.bracket? {} rest
  | c :: _ =>
    if !isStart c then none
    else match s.dropWhile fun c => c != '=' && c != '[' with
      | '=' :: rest => { target : LogDirective }.limited? rest
      | _ :: rest => { target : LogDirective }.bracket? rest
      | [] => match limit? word with
        | some limit => some { limit }
        | none => some { target }

/-- Reads a directive. One with blanks in front cannot name a limit, and its target is none that
a line has. -/
def ofChars? (s : List Char) : Option LogDirective :=
  let body := s.dropWhile Text.isBlank
  if body = s then unspaced? s
  else if body.contains '=' then none
  else (unspaced? body).map fun d => { d with target := some (String.ofList s) }

/-! ## Deciding -/

/-- Whether a directive applies to a line outside of any activity. -/
def appliesTo (d : LogDirective) (line : LogLine) : Bool :=
  !d.nested && d.target.all (·.toList.isPrefixOf line.target.toList)
    && d.fields.all line.fieldNames.contains

/-- How long the target of a directive is; having none comes before all. -/
def reach (d : LogDirective) : Nat := (d.target.map fun t => t.utf8ByteSize + 1).getD 0

/-- Whether a directive gives way to another one, which is more specific or as specific as it. -/
def givesWayTo (d other : LogDirective) : Bool :=
  d.reach < other.reach
    || d.reach = other.reach
      && (d.fields.length < other.fields.length
        || d.fields.length = other.fields.length && !decide (other.fields < d.fields))

end LogDirective

namespace LogFilter

/-- Reads a filter; empty directives are skipped. A filter without directives lets errors through. -/
def ofText? (s : String) : Option LogFilter :=
  let directives := ((Text.pieces ',' s.toList).filter (!·.isEmpty)).mapM LogDirective.ofChars?
  directives.map fun ds => if ds.isEmpty then [{ limit := Level.error.number }] else ds

/-- The directive that decides on a line. -/
def deciding? (f : LogFilter) (line : LogLine) : Option LogDirective :=
  (f.filter (·.appliesTo line)).foldl
    (fun best d => match best with
      | some b => if b.givesWayTo d then some d else some b
      | none => some d)
    none

/-- Whether a line is written. -/
def admits (f : LogFilter) (line : LogLine) : Bool :=
  match f.deciding? line with
  | some d => line.level.number ≤ d.limit
  | none => false

end LogFilter

end ReceiptFleet.Server
