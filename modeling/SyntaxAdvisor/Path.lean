/-!
# Paths

Paths are text with `/` between their parts. The normal form of a path drops empty parts and
`.` parts and keeps `..`; it starts with `/` when the path is absolute, with `//` when the path
starts with exactly two slashes, and is `.` when nothing else is left. The name of a path is
its last part (empty for the root and for `.`), and its parents are the paths left by dropping
parts from the end, down to `/` or `.`. Resolving a path against a directory makes it absolute
and lets each `..` part cancel the part before it.
-/

namespace SyntaxAdvisor.Path

/-- The parts of a path, without empty and `.` parts. -/
def parts (s : String) : List String :=
  (s.splitOn "/").filter (fun p => p != "" && p != ".")

/-- The root of a path: `/`, `//` or nothing. -/
def root (s : String) : String :=
  if s.startsWith "//" && !s.startsWith "///" then "//"
  else if s.startsWith "/" then "/"
  else ""

/-- Builds a path from a root and parts. -/
def build (r : String) (ps : List String) : String :=
  if r.isEmpty && ps.isEmpty then "." else r ++ "/".intercalate ps

/-- The normal form of a path. -/
def normal (s : String) : String := build (root s) (parts s)

/-- The name of a path: its last part, or nothing. -/
def name (s : String) : String := (parts s).getLast?.getD ""

/-- The parent of a path: the root and all parts but the last. -/
def parent (s : String) : String := build (root s) (parts s).dropLast

/-- The parents of a path, nearest first. -/
def parents (s : String) : List String :=
  let r := root s
  let ps := parts s
  (List.range ps.length).reverse.map fun k => build r (ps.take k)

/-- Joins a path and a relative path; an absolute second path stands alone. -/
def join (base rel : String) : String :=
  if rel.startsWith "/" then normal rel
  else if base.isEmpty then normal rel
  else normal (base ++ "/" ++ rel)

/-- Parts with each `..` part cancelling the part before it; above the first part, a `..`
part is lost, as the parent of the root is the root. -/
def collapse (ps : List String) : List String :=
  (ps.foldl (fun acc p => if p == ".." then acc.drop 1 else p :: acc) []).reverse

/-- The absolute path that `p` names when seen from the absolute directory `cwd`, with `..`
parts going up a level. -/
def resolve (cwd p : String) : String :=
  let full := if p.startsWith "/" then p else cwd ++ "/" ++ p
  build "/" (collapse (parts full))

/-- Whether a path is absolute. -/
def isAbsolute (s : String) : Bool := s.startsWith "/"

/-- The suffix of a path's name: from its last dot, when that dot neither starts nor ends the
name. -/
def suffix (s : String) : String :=
  let cs := (name s).toList
  let dots := (List.range cs.length).filter (fun i => cs[i]? == some '.')
  match dots.getLast? with
  | some i => if 0 < i && i + 1 < cs.length then String.ofList (cs.drop i) else ""
  | none => ""

end SyntaxAdvisor.Path
