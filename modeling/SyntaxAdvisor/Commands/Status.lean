import SyntaxAdvisor.Commands.Setup

/-!
# Showing the settings and trying a service

The config command shows the description of the settings, whether each of the three services
holds a key, and whether the working directory has a `.env` file; a failure ends it with its
message.

The test-provider command asks a service for advice on a fixed one-line error and shows that the
service works, its model and the confidence of its advice. A failure caused by a wrong value
(such as a missing key) is shown as a settings error; any other as a failed test.
-/

namespace SyntaxAdvisor.Commands

/-- The services whose status the config command shows. -/
def knownServices : List String := ["openai", "anthropic", "google"]

/-- The config command. -/
def showSettings : Work Unit :=
  tryCatch (do
    let s ← loadSettings
    say (← lift s.settings.describe)
    let names ← lift s.settings.configured
    say "\nProvider Status:"
    for name in knownServices do
      say ("  " ++ name ++ ": " ++ keyStatus (names.any (Value.equal (.str name))))
    let envPath := s.host.dotenvPath
    if ← pathExists envPath then say ("\n.env file: " ++ envPath ++ " (found)")
    else say "\n.env file: Not found")
    fun f => say ("Error reading configuration: " ++ f.message)

/-- The error a service is tried on. -/
def trialEvent : Except Failure Event :=
  Event.create (.str "test.py") (.int 1) (.str "SyntaxError") (.str "invalid syntax")
    (.list [.str "print('hello world'"]) (.int 1) .none .none

/-- The test-provider command for a service. -/
def trialService (name : String) : Work Unit :=
  tryCatch (do
    let s ← loadSettings
    let config ← lift (s.settings.clientSettings (.str name))
    say ("Testing " ++ name ++ " connection...")
    let e ← lift trialEvent
    let p ← lift (Provider.ofConfig config)
    let m ← get
    let (n, r) := p.advise m.network e
    set { m with network := n }
    let rec_ ← lift r
    say ("✓ " ++ name ++ " is working!")
    let info ← lift p.info
    let model ← lift (info.getItem (.str "model"))
    say ("Model: " ++ model.text)
    say ("Test recommendation confidence: " ++ Decimal.percentText rec_.confidence 1))
    fun f =>
      if f.isValueError then say ("✗ Configuration error: " ++ f.message)
      else say ("✗ " ++ name ++ " test failed: " ++ f.message)

end SyntaxAdvisor.Commands
