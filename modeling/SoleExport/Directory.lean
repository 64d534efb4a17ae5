/-
  A model of a directory and of the commands' channels.

  A directory holds files, which are text or not, and folders.  A path is
  followed segment by segment, and every segment but the last has to lead to a
  folder.  What lies outside the directory is out of reach.
-/
import SoleExport.Host
import SoleExport.Path

namespace SoleExport

/-- What a file holds. -/
inductive Content where
  | text (s : String)
  /-- bytes that are not text -/
  | binary
deriving DecidableEq, Repr, Inhabited

/-- A place in a directory: the segments that lead there. -/
abbrev Place := List String

/-- The files and folders of a directory. -/
structure Directory where
  files : List (Place × Content)
  /-- The folders, apart from those that hold files. -/
  folders : List Place
deriving DecidableEq, Repr, Inhabited

namespace Directory

/-- The directory with the given files. -/
def ofFiles (files : List (String × Content)) : Directory :=
  ⟨files.map fun f => ((Path.ofString f.1).normalize.segments, f.2), []⟩

/-- The content of the file at a place. -/
def file? (d : Directory) (p : Place) : Option Content := d.files.lookup p

/-- Whether a place is a folder: the directory itself, one above it, or one in
    it. -/
def isFolder (d : Directory) (p : Place) : Bool :=
  p.all (· == "..") || d.folders.contains p ||
    d.files.any fun f => p.isPrefixOf f.1 && p.length < f.1.length

/-- The place one segment on. -/
def next (p : Place) (segment : String) : Place := (Path.walk false p.reverse segment).reverse

/-- Why a place is no folder, if it is none. -/
def folderError? (d : Directory) (p : Place) : Option SystemError :=
  if d.isFolder p then none
  else if (d.file? p).isSome then some .notDirectory
  else some .notFound

/-- Follow segments from a place. -/
def follow (d : Directory) : Place → List String → Except SystemError Place
  | p, [] => .ok p
  | p, s :: ss =>
    match d.folderError? p with
    | some e => .error e
    | none => d.follow (next p s) ss

/-- The place that a path leads to; nothing if it starts outside. -/
def locate (d : Directory) (path : String) : Except SystemError Place :=
  let p := Path.ofString path
  if path.isEmpty || p.absolute then .error .notFound else d.follow [] p.segments

/-- Whether a path can only name a folder. -/
def namesFolder (path : String) : Bool :=
  match (Path.split path.toList).getLast? with
  | some s => s == [] || s == ['.']
  | none => false

/-- The text of the file at a path. -/
def read (d : Directory) (path : String) : Except SystemError String := do
  let p ← d.locate path
  if d.isFolder p then throw .isDirectory
  match d.file? p with
  | none => throw .notFound
  | some content =>
    if namesFolder path then throw .notDirectory
    match content with
    | .text s => return s
    | .binary => throw .notText

/-- Put a content at a place. -/
def put (d : Directory) (p : Place) (c : Content) : Directory :=
  if (d.file? p).isSome then
    { d with files := d.files.map fun f => if f.1 = p then (p, c) else f }
  else { d with files := d.files ++ [(p, c)] }

/-- Write the text of the file at a path. -/
def write (d : Directory) (path text : String) : Except SystemError Directory := do
  let p ← d.locate path
  if d.isFolder p then throw .isDirectory
  if namesFolder path then
    throw (if (d.file? p).isSome then .notDirectory else .isDirectory)
  return d.put p (.text text)

/-- Make the folders on the way from a place. -/
def makeFolders (d : Directory) : Place → List String → Except SystemError Directory
  | _, [] => .ok d
  | p, s :: ss =>
    let q := next p s
    if d.isFolder q then d.makeFolders q ss
    else if (d.file? q).isSome then .error (if ss.isEmpty then .alreadyExists else .notDirectory)
    else makeFolders { d with folders := d.folders ++ [q] } q ss

/-- Make a folder with all folders above it, unless it is there. -/
def createDirectory (d : Directory) (path : String) : Except SystemError Directory :=
  let p := Path.ofString path
  if p.absolute then .error .notFound else d.makeFolders [] p.segments

/-- The files that are new in a directory or have changed since `before`. -/
def changes (before after : Directory) : List (String × Content) :=
  (after.files.filter fun f => before.file? f.1 ≠ some f.2 ∧ f.1.head? ≠ some "..").map fun f =>
    (Path.joinSegments f.1, f.2)

end Directory

/-! ## Sessions -/

/-- A directory with what has been shown and logged. -/
structure Session where
  directory : Directory
  printed : String
  reported : List String
  logged : List String

namespace Session

/-- The session of a directory in which nothing has been done. -/
def start (d : Directory) : Session := ⟨d, "", [], []⟩

/-- Do something to the directory. -/
def alter (f : Directory → Except SystemError Directory) :
    StateM Session (Except SystemError Unit) := fun s =>
  match f s.directory with
  | .ok d => (.ok (), { s with directory := d })
  | .error e => (.error e, s)

/-- The host whose files are those of the session. -/
def host : Host (StateM Session) where
  read path := fun s => (s.directory.read path, s)
  write path text := alter fun d => d.write path text
  createDirectory path := alter fun d => d.createDirectory path
  print text := fun s => ((), { s with printed := s.printed ++ text })
  report line := fun s => ((), { s with reported := s.reported ++ [line] })
  log line := fun s => ((), { s with logged := s.logged ++ [line] })

end Session

end SoleExport
