import ReceiptFleet.Text.Pieces

/-!
The files that a server finds where it is started. A listing of texts under relative paths has the
directories that its paths go through, and no others.
-/

namespace ReceiptFleet.Server

/-- What a path leads to. -/
inductive FileEntry where
  | file (text : String)
  | directory
  | missing
  | throughFile
deriving DecidableEq, Repr

/-- What every path leads to. -/
abbrev FileSystem := String → FileEntry

/-- Files by their paths. -/
abbrev Listing := List (String × String)

namespace Listing

/-- The steps of a path; empty ones and single dots lead nowhere else. -/
def stepsOf (path : String) : List String :=
  ((Text.pieces '/' path.toList).map String.ofList).filter fun s => s ≠ "" ∧ s ≠ "."

/-- Whether a path is relative and not empty. -/
def isRelative (path : String) : Bool :=
  match path.toList with
  | [] => false
  | c :: _ => c != '/'

/-- The file at the end of some steps. -/
def file? (files : Listing) (steps : List String) : Option String :=
  (files.find? fun (path, _) => stepsOf path = steps).map Prod.snd

/-- The file system with nothing but the files of a listing. -/
def fileSystem (files : Listing) : FileSystem := fun path =>
  let steps := stepsOf path
  if !isRelative path then .missing
  else if files.any (fun (file, _) => stepsOf file != steps && (stepsOf file).isPrefixOf steps) then
    .throughFile
  else match files.file? steps with
    | some text => if path.toList.getLast? = some '/' then .throughFile else .file text
    | none =>
      if steps.isEmpty || files.any (fun (file, _) => steps.isPrefixOf (stepsOf file)) then .directory
      else .missing

end Listing

/-- Why the text at a path cannot be read, as the system says it. -/
def FileEntry.text : FileEntry → Except String String
  | .file text => .ok text
  | .directory => .error "Is a directory (os error 21)"
  | .missing => .error "No such file or directory (os error 2)"
  | .throughFile => .error "Not a directory (os error 20)"

end ReceiptFleet.Server
