import SyntaxAdvisor.Commands.Status
import SyntaxAdvisor.CommandLine.Parse

/-!
# The advisor's command line

The advisor has four commands: `check` analyses a project, `config` shows the settings, `setup`
stores keys and `test-provider` tries a service. `run` reads a command line against them and
runs the command it names on a machine: the machine after the command, and the exit status,
which is 2 for a refused command line and 0 otherwise (help pages included).
-/

namespace SyntaxAdvisor.Commands

open CommandLine

/-- The check command's description. -/
def checkCommand : Command :=
  { name := "check", help := "Analyze Python files for potential issues",
    params := [
      .option "--path" .text "Path to analyze (default: current directory)" (.str "."),
      .switch "--no-ai" "Skip AI analysis, show syntax errors only",
      .option "--provider" .text "Override default AI provider (openai, anthropic, google)" .none,
      .option "--max-errors" .integer "Maximum number of errors to analyze with AI" (.int 10)] }

/-- The config command's description. -/
def configCommand : Command :=
  { name := "config", help := "Show current configuration", params := [] }

/-- The setup command's description. -/
def setupCommand : Command :=
  { name := "setup", help := "Interactive setup for API keys",
    params := [.switch "--env" "Use .env file instead of YAML config"] }

/-- The test-provider command's description. -/
def trialCommand : Command :=
  { name := "test-provider", help := "Test if a provider is working correctly",
    params := [.argument "provider" (.choice knownServices)] }

/-- The advisor's commands. -/
def advisor : Group :=
  { help := "PyCodeAdvisor - AI-powered Python code analysis",
    commands := [checkCommand, configCommand, setupCommand, trialCommand] }

/-- The value of a parameter as read. -/
def valueNamed (values : List (String × Value)) (name : String) : Value :=
  (values.lookup name).getD .none

/-- The work of a command, from the values of its parameters. -/
def commandWork (name : String) (values : List (String × Value)) : Work Unit :=
  let v := valueNamed values
  if name == "check" then
    check { path := (v "--path").text, noAdvice := (v "--no-ai").truthy,
            service := (match v "--provider" with
              | .str s => some s
              | _ => none),
            maxErrors := (match v "--max-errors" with
              | .int n => n
              | _ => 10) }
  else if name == "config" then showSettings
  else if name == "setup" then setup (v "--env").truthy
  else trialService (v "provider").text

/-- Writes text to the machine's console. -/
def Machine.write (m : Machine) (s : String) : Machine :=
  { m with console := m.console.write s }

/-- Runs a command line of program `prog` (help pages `width` columns wide) on a machine: the
machine after it and the exit status. -/
def run (prog : String) (width : Nat) (words : List String) (m : Machine) : Machine × Nat :=
  match CommandLine.read advisor prog width words with
  | .help page => (m.write page, 0)
  | .refused usage path e => (m.write (refusalText usage path e), 2)
  | .run name values => ((commandWork name values).run.run m |>.2, 0)

end SyntaxAdvisor.Commands
