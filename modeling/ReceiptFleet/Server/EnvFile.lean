import ReceiptFleet.Server.Settings
import ReceiptFleet.Text.Alphanumeric

/-!
Files that supply environment variables, one `NAME=value` a line. Values can be quoted, with single
quotes for plain text and double quotes for text with escapes, and may refer to other variables. A file
sets only what is not set already, and is read up to its first faulty line.
-/

namespace ReceiptFleet.Server.EnvFile

/-! ## Values -/

/-- Where a reader of a value is: in text (in double quotes or not), in single quotes, behind a backslash,
in the name of a variable (bare or in braces), or behind the value. -/
inductive Place where
  | text (quoted : Bool)
  | literal
  | escape (quoted : Bool)
  | variable (quoted : Bool) (name : List Char)
  | braced (quoted : Bool) (name : List Char)
  | behind
deriving DecidableEq, Repr

/-- The character that a character behind a backslash stands for. -/
def escaped? : Char → Option Char
  | '\\' => some '\\'
  | '\'' => some '\''
  | '"' => some '"'
  | '$' => some '$'
  | ' ' => some ' '
  | 'n' => some '\n'
  | _ => none

/-- Whether a character ends a value outside of quotes. -/
def isGap (c : Char) : Bool := c == ' ' || c == '\t'

/-- What a value comes to that ends at some place; open quotes and braces must not stay open. -/
def ended? (value : List Char → List Char) : Place → Option (List Char)
  | .text false | .escape false | .behind => some []
  | .variable false name => some (value name)
  | .text true | .escape true | .variable true _ | .literal | .braced .. => none

/-- Reads a value from some place on, where `value` gives the value of a variable. Behind the value there
may only be a comment. The character that ends a variable's name always stands for itself. -/
def valueFrom? (value : List Char → List Char) : Place → List Char → Option (List Char)
  | place, [] => ended? value place
  | .behind, c :: rest =>
    if isGap c then valueFrom? value .behind rest
    else if c = '#' then some []
    else none
  | .escape quoted, c :: rest =>
    (escaped? c).bind fun c => (valueFrom? value (.text quoted) rest).map (c :: ·)
  | .literal, c :: rest =>
    if c = '\'' then valueFrom? value (.text false) rest
    else (valueFrom? value .literal rest).map (c :: ·)
  | .variable quoted name, c :: rest =>
    if Text.isAlphanumeric c then valueFrom? value (.variable quoted (name ++ [c])) rest
    else if c = '\x7b' ∧ name = [] then valueFrom? value (.braced quoted []) rest
    else if c = '$' then (valueFrom? value (.variable quoted []) rest).map (value name ++ ·)
    else (valueFrom? value (.text quoted) rest).map fun s => value name ++ c :: s
  | .braced quoted name, c :: rest =>
    if c = '\x7d' then (valueFrom? value (.text quoted) rest).map (value name ++ ·)
    else valueFrom? value (.braced quoted (name ++ [c])) rest
  | .text quoted, c :: rest =>
    if c = '$' then valueFrom? value (.variable quoted []) rest
    else if c = '\\' then valueFrom? value (.escape quoted) rest
    else if c = '"' then valueFrom? value (.text !quoted) rest
    else if quoted then (valueFrom? value (.text quoted) rest).map (c :: ·)
    else if c = '\'' then valueFrom? value .literal rest
    else if isGap c then valueFrom? value .behind rest
    else (valueFrom? value (.text quoted) rest).map (c :: ·)

/-! ## Lines -/

/-- Whether a name may begin with a character. -/
def isNameStart (c : Char) : Bool := c.isAlpha || c == '_'

/-- Whether a name may go on with a character. -/
def isNameChar (c : Char) : Bool := c.isAlphanum || c == '_' || c == '.'

/-- What is left behind blanks. -/
def skipBlanks (s : List Char) : List Char := s.dropWhile Text.isBlank

/-- Reads a name and the blanks behind it. -/
def name? (s : List Char) : Option (List Char × List Char) :=
  match s with
  | c :: _ =>
    if isNameStart c then some (s.takeWhile isNameChar, skipBlanks (s.dropWhile isNameChar)) else none
  | [] => none

/-- What is left behind an equals sign. -/
def equals? : List Char → Option (List Char)
  | '=' :: rest => some rest
  | _ => none

/-- Reads the name of a line and its equals sign. The word `export` in front is skipped, unless it is
the name itself. -/
def assignment? (s : List Char) : Option (List Char × List Char) := do
  let (name, rest) ← name? s
  match equals? rest with
  | some rest => some (name, rest)
  | none =>
    if name = ['e', 'x', 'p', 'o', 'r', 't'] then
      let (name, rest) ← name? rest
      return (name, ← equals? rest)
    else none

/-- Whether nothing counts in a text: it is empty or a comment. -/
def isIdle : List Char → Bool
  | [] => true
  | c :: _ => c == '#'

/-! ## Files -/

/-- The environment, and all values that a file gave so far, the latest first. -/
structure Loaded where
  environment : Environment
  values : List (String × String) := []

/-- The value of a variable: that of the environment, else the one that the file gave, else nothing. -/
def Loaded.value (l : Loaded) (name : List Char) : List Char :=
  let name := String.ofList name
  ((l.environment.get? name).or (List.lookup name l.values)).getD "" |>.toList

/-- Sets a variable, unless the environment has it. -/
def Loaded.set (l : Loaded) (name value : String) : Loaded where
  environment :=
    if (l.environment.get? name).isSome then l.environment else l.environment ++ [(name, value)]
  values := (name, value) :: l.values

/-- Takes up a line; a faulty line is refused. -/
def Loaded.line? (l : Loaded) (line : List Char) : Option Loaded :=
  let s := skipBlanks (Text.dropEnd Text.isBlank line)
  if isIdle s then some l
  else do
    let (name, rest) ← assignment? s
    let rest := skipBlanks rest
    let value ← if isIdle rest then some [] else valueFrom? l.value (.text false) rest
    return l.set (String.ofList name) (String.ofList value)

/-- Takes up lines to the first faulty one. -/
def Loaded.lines (l : Loaded) : List (List Char) → Loaded
  | [] => l
  | line :: others =>
    match l.line? line with
    | some l => l.lines others
    | none => l

/-- The runs of characters of a class in a text. -/
def runsOf (p : Char → Bool) (s : List Char) : List String :=
  let marked := s.map fun c => if p c then c else ' '
  ((Text.pieces ' ' marked).filter (!·.isEmpty)).map String.ofList

/-- Names that a file may set or refer to, and maybe others. -/
def mentioned (file : String) : List String :=
  runsOf isNameChar file.toList ++ runsOf Text.isAlphanumeric file.toList

/-- An environment with what a file adds to it. -/
def extend (environment : Environment) (file : String) : Environment :=
  (Loaded.lines ⟨environment, []⟩ (Text.pieces '\n' file.toList)).environment

end ReceiptFleet.Server.EnvFile
