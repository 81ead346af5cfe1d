/-!
# A sample that works

The package ships a function known to run without error, used to check that analysis finds
nothing wrong with working code: it prints one line and answers true.
-/

namespace SyntaxAdvisor

/-- What the sample function prints. -/
def workingOutput : String := "this works\n"

/-- What the sample function answers. -/
def workingResult : Bool := true

end SyntaxAdvisor
