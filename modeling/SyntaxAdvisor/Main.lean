import SyntaxAdvisor.Commands.Run

/-!
# The advisor as a program

`main` runs the advisor's command line on the machine it is started on. The commands work on a
model of the machine, which this layer fills and reads back:

* the disk holds the working and home directories and the files the advisor reads by name (the
  settings files, `.env` and `.gitignore`); other directories are not listed, so a project
  check sees only those files;
* the environment holds the variables the advisor reads;
* typed answers are the lines of standard input, read before the command runs;
* no service can be reached, so every request for advice fails.

After the command, every file it wrote is written to the real disk, the console's text is
printed, and the exit status is the command's.
-/

namespace SyntaxAdvisor.Launch

/-- The variables the advisor reads. -/
def watchedVariables : List String :=
  ["HOME", "APPDATA", "OPENAI_API_KEY", "ANTHROPIC_API_KEY", "GOOGLE_API_KEY",
   "PYCODEADVISOR_PROVIDER"]

/-- The files the advisor reads by name, for a working and a home directory. -/
def knownFiles (cwd home : String) : List String :=
  [Path.join cwd "pycodeadvisor.yaml", Path.join cwd ".env", Path.join cwd ".gitignore",
   Path.join home ".pycodeadvisor/config.yaml", Path.join home ".config/pycodeadvisor/config.yaml"]

/-- The bytes of a file, when it can be read. -/
def readIfPresent (p : String) : IO (Option (List UInt8)) := do
  try
    let data ← IO.FS.readBinFile p
    pure (some data.toList)
  catch _ => pure none

/-- The disk holding the working and home directories and the files read. -/
def diskOf (cwd home : String) (files : List (String × List UInt8)) : Disk :=
  let d := [cwd, home].foldl (fun d dir => (d.makeDirectories dir dir).toOption.getD d) Disk.empty
  files.foldl (fun d (p, data) => (d.placeFile p data).toOption.getD d) d

/-- The files of `after` that `before` does not hold with the same bytes. -/
def changedFiles (before after : Disk) : List (String × List UInt8) :=
  (after.filesBelow "/").filter fun (p, data) => before.entry? p != some (.file data)

/-- Writes files to the real disk, making their directories. -/
def writeBack (files : List (String × List UInt8)) : IO Unit := do
  for (p, data) in files do
    IO.FS.createDirAll (Path.parent p)
    IO.FS.writeBinFile p (ByteArray.mk data.toArray)

end SyntaxAdvisor.Launch

open SyntaxAdvisor in
/-- Runs the advisor's command line. -/
def main (args : List String) : IO UInt32 := do
  let cwd := Path.normal (toString (← IO.currentDir))
  let env ← Launch.watchedVariables.filterMapM fun n => do
    pure ((← IO.getEnv n).map fun v => (n, v))
  let host0 : Host := { disk := Disk.empty, env := { vars := env }, cwd }
  let home := host0.home
  let files ← (Launch.knownFiles cwd home).filterMapM fun p => do
    pure ((← Launch.readIfPresent p).map fun d => (p, d))
  let disk := Launch.diskOf cwd home files
  let input ← (← IO.getStdin).readToEnd
  let machine : Commands.Machine :=
    { host := { host0 with disk }, network := { script := [] },
      console := Commands.Console.ofInput .hidden input, depth := 13 }
  let (m, code) := Commands.run "pycodeadvisor" 78 args machine
  Launch.writeBack (Launch.changedFiles disk m.host.disk)
  IO.print m.console.out
  pure code.toUInt32
