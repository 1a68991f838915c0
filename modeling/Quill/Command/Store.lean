import Quill.Text.Quoted

set_option autoImplicit false

/-! The files a run can see: texts under relative paths, and directories. A path is read part by
part: empty parts and `.` are skipped, `..` goes up, every part before the last must be a
directory, and the last names a file, a directory or nothing. Writing a file needs its
directory; it replaces the text of a file that is there, under the path its `..` parts come to. -/
namespace Quill.Command

/-- Files by path, and directories; a path is its parts joined by `/`. -/
structure Store where
  files : List (String × String)
  dirs : List String
deriving DecidableEq, Repr

/-- The parts of a path, without empty parts and `.`. -/
def pathParts (p : String) : List String :=
  (p.splitOn "/").filter fun s => s != "" && s != "."

/-- A path as it is shown in system errors: its parts joined by `/`, `.` when it has none. -/
def pathText (p : String) : String :=
  let body := "/".intercalate (pathParts p)
  if p.startsWith "/" then "/" ++ body else if body.isEmpty then "." else body

/-- What a path leads to. -/
inductive Found where
  /-- A file with this text. -/
  | file (text : String)
  /-- A directory. -/
  | directory
  /-- Nothing of that name. -/
  | missing
  /-- A part before the last is a file. -/
  | throughFile
deriving DecidableEq, Repr

namespace Store

/-- The store with files written under the given paths and the given directories. -/
def ofLists (files : List (String × String)) (dirs : List String) : Store :=
  ⟨files.map (fun (p, t) => ("/".intercalate (pathParts p), t)),
    dirs.map fun d => "/".intercalate (pathParts d)⟩

/-- Whether a joined path is a directory: listed, or above a listed file or directory. -/
def isDirectory (s : Store) (key : String) : Bool :=
  key.isEmpty || s.dirs.contains key ||
    s.dirs.any (·.startsWith (key ++ "/")) || s.files.any (·.1.startsWith (key ++ "/"))

/-- What the parts `walked` (in order) lead to. -/
def at? (s : Store) (walked : List String) : Found :=
  let key := "/".intercalate walked
  match s.files.lookup key with
  | some text => .file text
  | none => if s.isDirectory key then .directory else .missing

/-- What the parts `walked` (in order) lead to, reading `rest` after them. -/
def walk (s : Store) (walked : List String) : List String → Found
  | [] => s.at? walked
  | part :: rest =>
    match s.at? walked with
    | .directory =>
      if part = ".." then
        if walked.isEmpty then .missing else walk s walked.dropLast rest
      else walk s (walked ++ [part]) rest
    | .file _ => .throughFile
    | other => other

/-- The parts a walk through directories comes to: each `..` takes back the part before it. -/
def resolveParts : List String → List String → List String
  | walked, [] => walked
  | walked, part :: rest =>
    if part = ".." then resolveParts walked.dropLast rest else resolveParts (walked ++ [part]) rest

/-- The joined path of the file a path names, once its `..` parts are taken back. -/
def keyOf (p : String) : String := "/".intercalate (resolveParts [] (pathParts p))

/-- What a path leads to; a path from the root of the system leads outside the store. -/
def find (s : Store) (p : String) : Found :=
  if p.startsWith "/" then .missing else s.walk [] (pathParts p)

/-- What a path's directory leads to. -/
def findParent (s : Store) (p : String) : Found :=
  s.find ("/".intercalate ((pathParts p).dropLast))

/-- The store with `text` written under the joined path `key`. -/
def put (s : Store) (key : String) (text : String) : Store :=
  if s.files.any (·.1 == key) then
    { s with files := s.files.map fun (k, t) => if k == key then (k, text) else (k, t) }
  else { s with files := s.files ++ [(key, text)] }

/-- The files by path, in path order. -/
def sortedFiles (s : Store) : List (String × String) :=
  s.files.mergeSort fun a b => decide (a.1 ≤ b.1)

end Store

/-- Why a file cannot be read or written. -/
inductive FileFault where
  /-- Nothing is there, or a directory on the way is missing. -/
  | notFound
  /-- The path names a directory. -/
  | isDirectory
  /-- A part of the path before the last is a file. -/
  | notDirectory
deriving DecidableEq, Repr

/-- The system's text for a fault on the path `p`. -/
def FileFault.describe (f : FileFault) (p : String) : String :=
  match f with
  | .notFound => "[Errno 2] No such file or directory: " ++ Text.quoted (pathText p)
  | .isDirectory => "[Errno 21] Is a directory: " ++ Text.quoted (pathText p)
  | .notDirectory => "[Errno 20] Not a directory: " ++ Text.quoted (pathText p)

/-- The kind of system error a fault is. -/
def FileFault.kind : FileFault → String
  | .notFound => "FileNotFoundError"
  | .isDirectory => "IsADirectoryError"
  | .notDirectory => "NotADirectoryError"

namespace Store

/-- The text of the file at `p`. -/
def read (s : Store) (p : String) : Except FileFault String :=
  match s.find p with
  | .file text => .ok text
  | .directory => .error .isDirectory
  | .missing => .error .notFound
  | .throughFile => .error .notDirectory

/-- The store after writing `text` to the file at `p`. -/
def write (s : Store) (p : String) (text : String) : Except FileFault Store :=
  match s.find p with
  | .directory => .error .isDirectory
  | .throughFile => .error .notDirectory
  | .file _ => .ok (s.put (keyOf p) text)
  | .missing =>
    if p.startsWith "/" then .error .notFound
    else
      match s.findParent p with
      | .directory => .ok (s.put (keyOf p) text)
      | .throughFile | .file _ => .error .notDirectory
      | _ => .error .notFound

end Store

end Quill.Command
