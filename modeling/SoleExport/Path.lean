/-
  File paths.

  A path is a sequence of segments divided by `/`, absolute if it starts with
  one.  Empty segments and `.` mean nothing; `..` goes up.  Paths are treated
  as text: nothing here asks the file system.

  * `Path.normalize` cancels `name/..` and drops `..` at the root;
  * `normalizePath` is the normal form of a path given as text;
  * `fileName?` is the last segment, if it is a name.
-/

namespace SoleExport

/-- A path without its empty and `.` segments. -/
structure Path where
  absolute : Bool
  segments : List String
deriving DecidableEq, Repr, Inhabited

namespace Path

/-! ## Reading and writing paths -/

/-- The pieces of a text between its slashes. -/
def split : List Char → List (List Char)
  | [] => [[]]
  | c :: cs =>
    if c = '/' then [] :: split cs
    else
      match split cs with
      | [] => [[c]]
      | s :: ss => (c :: s) :: ss

/-- Whether a segment is more than a separator: neither empty nor `.`. -/
def isProper (s : String) : Bool := s != "" && s != "."

/-- Whether a text starts with a slash. -/
def startsAtRoot : List Char → Bool
  | '/' :: _ => true
  | _ => false

/-- The path a text spells. -/
def ofString (text : String) : Path :=
  ⟨startsAtRoot text.toList, ((split text.toList).map String.ofList).filter isProper⟩

/-- Segments with slashes between them. -/
def joinSegments : List String → String
  | [] => ""
  | [s] => s
  | s :: ss => s ++ "/" ++ joinSegments ss

/-- A path as text; `.` if nothing is left of it. -/
def toString (p : Path) : String :=
  if p.absolute then "/" ++ joinSegments p.segments
  else if p.segments.isEmpty then "."
  else joinSegments p.segments

/-! ## Normal form -/

/-- Walk one segment on, the segments so far being given last first: `..`
    cancels a name, has no effect at the root, and stays otherwise. -/
def walk (absolute : Bool) (done : List String) (segment : String) : List String :=
  if segment = ".." then
    match done with
    | [] => if absolute then [] else [segment]
    | last :: before => if last = ".." then segment :: done else before
  else segment :: done

/-- The path without any `name/..` and without `..` at the root. -/
def normalize (p : Path) : Path :=
  ⟨p.absolute, (p.segments.foldl (walk p.absolute) []).reverse⟩

end Path

/-- The normal form of a path given as text. -/
def normalizePath (text : String) : String := (Path.ofString text).normalize.toString

/-! ## File names -/

/-- The name of the file at a path: the last segment, unless it is `..`. -/
def fileName? (text : String) : Option String :=
  match (Path.ofString text).segments.getLast? with
  | some s => if s = ".." then none else some s
  | none => none

/-- The path of a file in a directory. -/
def joinPath (directory name : String) : String :=
  if directory.isEmpty || directory.toList.getLast? == some '/' then directory ++ name
  else directory ++ "/" ++ name

end SoleExport
