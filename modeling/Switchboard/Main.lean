import Switchboard.Proxy.Program

/-!
# The forwarding program, from outside

The program reads the files that its command line and its configuration name, and comes to listen on
a host without a network. What keeps it from listening is reported in one line; if nothing does, the
ports are.
-/

namespace Switchboard

/-- The directories that a path passes. -/
def directoriesOn (path : String) : List String :=
  let names := (Text.splitAt '/' path.toList).map String.ofList
  (List.range names.length).tail.map fun n =>
    Files.canonical (String.intercalate "/" (names.take n))

/-- The files that a certificate names. -/
def Certificate.paths (c : Certificate) : List String :=
  if c.fromFiles then [c.cert, c.key, c.ca].filterMap id else []

/-- The files that a configuration names. -/
def Config.paths (c : Config) : List String :=
  [c.tcp.serverCertificate, c.tcp.clientCertificate].flatMap fun certificate =>
    (certificate.map Certificate.paths).getD []

/-- What stands at a path. -/
def readEntry (path : String) : IO (Option FileEntry) := do
  try
    let content ← IO.FS.readBinFile path
    return some (.file content.toList)
  catch e =>
    match e with
    | .inappropriateType .. => return some .directory
    | _ => return none

/-- The files at some paths, with the directories passed on the way. -/
def readFiles (paths : List String) : IO Files := do
  let mut entries : Table String FileEntry := []
  for path in paths do
    if let some entry ← readEntry path then
      for directory in directoriesOn path do
        entries := entries.put directory .directory
      entries := entries.put (Files.canonical path) entry
  return ⟨entries⟩

/-- All files that a command line leads to. -/
def filesFor (words : List String) : IO Files := do
  match Proxy.CommandLine.read words with
  | .error _ => return {}
  | .ok line =>
    let files ← readFiles line.config.toList
    match Proxy.Running.configFor files line with
    | .error _ => return files
    | .ok config => readFiles (line.config.toList ++ config.paths)

/-- Comes to listen as a command line says, and gives the exit status. -/
def runProgram (words : List String) : IO UInt32 := do
  match Proxy.Running.start (← filesFor words) {} words with
  | .ok running =>
    let ports := running.manager.ports.map fun port => Numeral.decimal port.toNat
    IO.println ("listening on " ++ String.intercalate ", " ports)
    return 0
  | .error e =>
    if let some word := e.word? then IO.eprintln ("Error: " ++ word)
    return UInt32.ofNat e.status

end Switchboard

/-- The program. -/
def main (words : List String) : IO UInt32 := Switchboard.runProgram words
