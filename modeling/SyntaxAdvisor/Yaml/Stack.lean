import SyntaxAdvisor.Yaml.Mark

/-!
# The call stack of a YAML load

Reading a deeply nested document nests calls deeply: every nested collection costs the composer
two calls, and below those the grammar, the scanner and the reader call one another some levels
deeper still. The interpreter that runs the loader allows at most `limit` nested calls, and
raises a recursion error at the first step that would go deeper. What that step is names the
error: entering a function adds nothing to the message; calling a class, a built-in function or
a method of a built-in type that is not called inline adds " while calling a Python object";
comparing two values that are not compared inline adds " in comparison"; and writing the
representation of a value into a message adds " while getting the repr of an object".

A `Stack` is the depth of the current call and the limit. A step taken by the current call is
one level deeper than it; a step taken inside that step one level deeper again, and so on, so
the steps a call takes one inside the other are a list (`Steps`), the first the outermost. The
first of them that goes past the limit is the one at position `limit - depth`.

The reader that feeds the scanner keeps a buffer of the file's characters (`Window`). It takes
the file `blockChars` characters at a time, and only when moving through the text asks for more
than the buffer holds; after the last read it puts an end mark behind the characters. Reading
costs calls of its own, so where reads happen matters for how deep the calls go. How deep a read
goes depends on the file: the file decodes its bytes a chunk at a time, and a read that the
characters already decoded can serve goes no deeper than the read itself, while one that needs a
new chunk calls the file's buffer and then the decoder.
-/

namespace SyntaxAdvisor.Yaml

/-- The kind of step that goes past the recursion limit; it names the error's message. -/
inductive Overflow where
  /-- Entering a function. -/
  | frame
  /-- Calling a class, a built-in function or a method of a built-in type, not inline. -/
  | call
  /-- Comparing two values, not inline. -/
  | compare
  /-- Writing the representation of a value. -/
  | repr
deriving Inhabited, BEq, Repr

/-- The message of the recursion error raised at a step of this kind. -/
def Overflow.message : Overflow → String
  | .frame => "maximum recursion depth exceeded"
  | .call => "maximum recursion depth exceeded while calling a Python object"
  | .compare => "maximum recursion depth exceeded in comparison"
  | .repr => "maximum recursion depth exceeded while getting the repr of an object"

/-- Steps nested one inside the other: the first one level below the current call, the next
one level below that, and so on. -/
abbrev Steps := List Overflow

/-- Entering a function whose body takes no further steps. -/
def Steps.enter : Steps := [.frame]

/-- Making an object of a class whose initializer is a function. -/
def Steps.make : Steps := [.call, .frame]

/-- Making a mark of the current position: a call of the reader, which makes the mark. -/
def Steps.mark : Steps := [.frame, .call, .frame]

/-- The depth of the current call and the deepest depth allowed. -/
structure Stack where
  /-- How many calls deep the current one is. -/
  depth : Nat := 0
  /-- The deepest call allowed. -/
  limit : Nat := 1000
deriving Inhabited, Repr

namespace Stack

/-- The first of nested steps below the current call that goes past the limit, if any. -/
def overflow (s : Stack) (steps : Steps) : Option Overflow :=
  steps[s.limit - s.depth]?

/-- The stack inside a call of the current function. -/
def enter (s : Stack) : Stack := { s with depth := s.depth + 1 }

/-- The stack after a call returns. -/
def leave (s : Stack) : Stack := { s with depth := s.depth - 1 }

end Stack

/-- How many characters the reader takes from the file at a time. -/
def blockChars : Nat := 4096

/-- The reader's buffer: how much of the file it holds. -/
structure Window where
  /-- The number of characters in the file. -/
  size : Nat := 0
  /-- How many of them have been moved into the buffer. -/
  loaded : Nat := 0
  /-- Whether the end mark stands after them: the file has given its last character. -/
  closed : Bool := true
  /-- For each read still to come, whether it needs a new chunk of the file decoded. -/
  chunked : List Bool := []
deriving Inhabited, Repr

namespace Window

/-- The index one past the last character in the buffer, the end mark included. -/
def ending (w : Window) : Nat := w.loaded + (if w.closed then 1 else 0)

/-- Whether the next read needs a new chunk of the file decoded. -/
def nextChunked (w : Window) : Bool := w.chunked.headD true

/-- One read from the file into the buffer: the next block, or the end mark when the file has
no more characters. -/
def read (w : Window) : Window :=
  let n := Nat.min blockChars (w.size - w.loaded)
  let w := { w with chunked := w.chunked.drop 1 }
  if n == 0 then { w with closed := true } else { w with loaded := w.loaded + n }

/-- The buffer when reading begins, for a file of `size` characters whose reads need new chunks
as `chunked` says. The reader first takes blocks until two characters wait or the file ends,
then moves them into the buffer together with one more read. -/
def opened (size : Nat) (chunked : List Bool) : Window :=
  let first : Window := (({ size, closed := false, chunked } : Window).read)
  let first := if first.loaded < 2 && !first.closed then first.read else first
  if first.closed then first else first.read

end Window

end SyntaxAdvisor.Yaml
