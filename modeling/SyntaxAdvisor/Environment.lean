import SyntaxAdvisor.Failure

/-!
# Process environments

The environment of a process maps variable names to values. Setting a variable fails for a
name or value holding a zero character, for a name holding `=`, and for an empty name.
-/

namespace SyntaxAdvisor

/-- The variables of a process environment, each name once. -/
structure Environment where
  /-- The variables and their values. -/
  vars : List (String × String) := []
deriving Inhabited

namespace Environment

/-- The value of a variable, if it is set. -/
def get? (e : Environment) (name : String) : Option String := e.vars.lookup name

/-- Sets a variable, replacing its value if it is set. -/
def set (e : Environment) (name value : String) : Except Failure Environment :=
  if name.toList.contains '\x00' || value.toList.contains '\x00' then
    .error (.valueError "embedded null byte")
  else if name.toList.contains '=' then .error (.valueError "illegal environment variable name")
  else if name.isEmpty then .error (.osError "OSError" "[Errno 22] Invalid argument")
  else if (e.get? name).isSome then
    .ok { vars := e.vars.map fun (n, v) => if n == name then (n, value) else (n, v) }
  else .ok { vars := e.vars ++ [(name, value)] }

/-- The environment without a variable. -/
def unset (e : Environment) (name : String) : Environment :=
  { vars := e.vars.filter (·.1 != name) }

end Environment

end SyntaxAdvisor
