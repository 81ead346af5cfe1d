import SyntaxAdvisor.Path
import SyntaxAdvisor.Failure
import SyntaxAdvisor.Text.Utf8

/-!
# Disks

A disk maps absolute paths in normal form to what they hold: a file with its bytes, or a
directory. Every ancestor of a path on a disk is a directory on it, so a path exists exactly
when it is listed, and the root `/` is always listed.

Operations look a path up by its absolute form and report the operating system's errors with
the path as it was given to them (`shown`), which may be relative. A path is refused by every
operation when it is 4096 bytes long or longer or has a part longer than 255 bytes: its name is
too long. A path below a file is not a directory.
-/

namespace SyntaxAdvisor

/-- What a path of a disk holds. -/
inductive Entry where
  /-- A file and its bytes. -/
  | file (data : List UInt8)
  /-- A directory. -/
  | directory
deriving Inhabited, BEq

/-- A file system: each listed absolute path with what it holds. -/
structure Disk where
  /-- The paths and their entries, at most one entry a path. -/
  entries : List (String × Entry)
deriving Inhabited

namespace Disk

/-- A disk with only its root directory. -/
def empty : Disk := ⟨[("/", .directory)]⟩

/-- What a path holds, if it is listed. -/
def entry? (d : Disk) (path : String) : Option Entry :=
  (d.entries.find? (·.1 == path)).map (·.2)

/-- Whether the system refuses a path for the length of its name. -/
def nameTooLong (path : String) : Bool :=
  decide ((Text.encodeUtf8 path).length ≥ 4096) ||
    (Path.parts path).any (fun p => decide ((Text.encodeUtf8 p).length > 255))

/-- An error of the operating system about a path. -/
def osFailure (kind : String) (code : Nat) (text shown : String) : Failure :=
  .osError kind ("[Errno " ++ toString code ++ "] " ++ text ++ ": " ++ quoteText shown)

/-- The error of a path whose name is too long. -/
def tooLong (shown : String) : Failure := osFailure "OSError" 36 "File name too long" shown

/-- The error of a path that is not there. -/
def notFound (shown : String) : Failure :=
  osFailure "FileNotFoundError" 2 "No such file or directory" shown

/-- The error of a directory opened as a file. -/
def isADirectory (shown : String) : Failure := osFailure "IsADirectoryError" 21 "Is a directory" shown

/-- The error of a path below a file. -/
def notADirectory (shown : String) : Failure :=
  osFailure "NotADirectoryError" 20 "Not a directory" shown

/-- The error of a directory made where a file is. -/
def fileExists (shown : String) : Failure := osFailure "FileExistsError" 17 "File exists" shown

/-- Whether some ancestor of a path is a file. -/
def underFile (d : Disk) (path : String) : Bool :=
  (Path.parents path).any fun p => d.entry? p matches some (.file _)

/-- Whether a path exists; only a name too long is an error. -/
def pathExists (d : Disk) (path shown : String) : Except Failure Bool :=
  if nameTooLong path then .error (tooLong shown) else .ok (d.entry? path).isSome

/-- Whether a path is a directory; only a name too long is an error. -/
def isDirectory (d : Disk) (path shown : String) : Except Failure Bool :=
  if nameTooLong path then .error (tooLong shown) else .ok (d.entry? path == some .directory)

/-- Whether a path is a file; only a name too long is an error. -/
def isFile (d : Disk) (path shown : String) : Except Failure Bool :=
  if nameTooLong path then .error (tooLong shown)
  else .ok (d.entry? path matches some (.file _))

/-- The bytes of a file. -/
def readFile (d : Disk) (path shown : String) : Except Failure (List UInt8) :=
  if nameTooLong path then .error (tooLong shown)
  else if d.underFile path then .error (notADirectory shown)
  else match d.entry? path with
    | some (.file data) => .ok data
    | some .directory => .error (isADirectory shown)
    | none => .error (notFound shown)

/-- The disk with a path's entry set, replacing what it held. -/
def put (d : Disk) (path : String) (e : Entry) : Disk :=
  if (d.entry? path).isSome then
    ⟨d.entries.map fun (p, old) => if p == path then (p, e) else (p, old)⟩
  else ⟨d.entries ++ [(path, e)]⟩

/-- Writes a file, whose directory must exist. -/
def writeFile (d : Disk) (path shown : String) (data : List UInt8) : Except Failure Disk :=
  if nameTooLong path then .error (tooLong shown)
  else if d.underFile path then .error (notADirectory shown)
  else match d.entry? path with
    | some .directory => .error (isADirectory shown)
    | _ =>
      if d.entry? (Path.parent path) == some .directory then .ok (d.put path (.file data))
      else .error (notFound shown)

/-- Makes a directory and its missing ancestors; a directory already there is kept. -/
def makeDirectories (d : Disk) (path shown : String) : Except Failure Disk :=
  if nameTooLong path then .error (tooLong shown)
  else if d.underFile path then .error (notADirectory shown)
  else match d.entry? path with
    | some .directory => .ok d
    | some (.file _) => .error (fileExists shown)
    | none =>
      .ok (((Path.parents path).reverse ++ [path]).foldl
        (fun acc p => if (acc.entry? p).isSome then acc else acc.put p .directory) d)

/-- Writes a file, making its directory and the directory's ancestors first. -/
def placeFile (d : Disk) (path : String) (data : List UInt8) : Except Failure Disk := do
  let d ← d.makeDirectories (Path.parent path) (Path.parent path)
  d.writeFile path path data

/-- Whether `path` lies strictly below the directory `dir`. -/
def isBelow (dir path : String) : Bool :=
  path != dir && path.startsWith (if dir == "/" then "/" else dir ++ "/")

/-- The entries strictly below a directory, in the order of their paths. -/
def below (d : Disk) (dir : String) : List (String × Entry) :=
  (d.entries.filter fun (p, _) => isBelow dir p).mergeSort fun a b => decide (a.1 ≤ b.1)

/-- The files strictly below a directory with their bytes, in the order of their paths. -/
def filesBelow (d : Disk) (dir : String) : List (String × List UInt8) :=
  (d.below dir).filterMap fun (p, e) =>
    match e with
    | .file data => some (p, data)
    | .directory => none

end Disk

end SyntaxAdvisor
