import Switchboard.Config.Schema

/-!
# The command line of the forwarding program

Seven settings can be given on the command line, each at most once. A setting has a long name,
written behind two hyphens, and some have a letter, written behind one. Its value is the next word,
unless that word looks like a name, or stands behind an equals sign in the same word, or directly
behind a letter.

Words are read from left to right. A value in a word of its own is looked at only when the next
setting comes up or the words are over, so that a word that is no setting at all is reported before
a bad value in front of it.
-/

namespace Switchboard.Proxy

/-- What can be given on the command line. -/
inductive Setting where
  | config
  | listenPort
  | targetHost
  | targetPort
  | threads
  | logLevel
  | metricsAddress
  deriving DecidableEq, Repr

namespace Setting

/-- The long names. -/
def names : List (String × Setting) :=
  [("config", config), ("listen-port", listenPort), ("target-host", targetHost),
   ("target-port", targetPort), ("threads", threads), ("log-level", logLevel),
   ("metrics-address", metricsAddress)]

/-- The letters. -/
def letters : List (Char × Setting) := [('c', config), ('p', listenPort), ('t', threads)]

end Setting

/-- Why a command line is not followed. -/
inductive CommandLineError where
  /-- It asks for help. -/
  | help
  /-- A word is no setting. -/
  | unknown
  /-- A setting has no value where it needs one. -/
  | missingValue
  /-- A value is no number of the right size. -/
  | badValue
  /-- A setting is given twice. -/
  | repeated
  /-- A value is given where none is taken. -/
  | unwantedValue
  deriving DecidableEq, Repr

/-- The name of the kind of an error. -/
def CommandLineError.name : CommandLineError → String
  | help => "DisplayHelp"
  | unknown => "UnknownArgument"
  | missingValue => "InvalidValue"
  | badValue => "ValueValidation"
  | repeated => "ArgumentConflict"
  | unwantedValue => "TooManyValues"

/-- The exit status of a program that does not follow its command line. -/
def CommandLineError.status : CommandLineError → Nat
  | help => 0
  | _ => 2

/-- What a command line gives. -/
structure CommandLine where
  /-- The file with the configuration. -/
  config : Option String := none
  /-- The port to listen on. -/
  listenPort : Option Port := none
  /-- The host to forward to. -/
  targetHost : Option String := none
  /-- The port to forward to. -/
  targetPort : Option Port := none
  /-- How many loops to run. -/
  threads : Option Nat := none
  /-- What to log. -/
  logLevel : Option String := none
  /-- Where to serve metrics. -/
  metricsAddress : Option String := none
  deriving DecidableEq, Repr

namespace CommandLine

/-- The result of reading. -/
abbrev Reading := Except CommandLineError

/-- Whether a setting was given. -/
def gives (c : CommandLine) : Setting → Bool
  | .config => c.config.isSome
  | .listenPort => c.listenPort.isSome
  | .targetHost => c.targetHost.isSome
  | .targetPort => c.targetPort.isSome
  | .threads => c.threads.isSome
  | .logLevel => c.logLevel.isSome
  | .metricsAddress => c.metricsAddress.isSome

/-- A port from a word: a number with an optional sign, leading zeros allowed. -/
def portOf (word : String) : Reading Port :=
  let value := match word.toList with
    | '-' :: digits => (Numeral.value? 10 digits).filter (· == 0)
    | cs => Numeral.unsigned? 65535 cs
  match value with
  | some n => .ok (UInt16.ofNat n)
  | none => .error .badValue

/-- A number of loops from a word. -/
def countOf (word : String) : Reading Nat :=
  match Numeral.unsigned? (UInt64.size - 1) word.toList with
  | some n => .ok n
  | none => .error .badValue

/-- A path from a word, which must not be empty. -/
def pathOf (word : String) : Reading String :=
  if word.isEmpty then .error .missingValue else .ok word

/-- Gives a setting the value in a word. -/
def give (c : CommandLine) (setting : Setting) (word : String) : Reading CommandLine :=
  if c.gives setting then .error .repeated
  else
    match setting with
    | .config => do return { c with config := some (← pathOf word) }
    | .listenPort => do return { c with listenPort := some (← portOf word) }
    | .targetHost => .ok { c with targetHost := some word }
    | .targetPort => do return { c with targetPort := some (← portOf word) }
    | .threads => do return { c with threads := some (← countOf word) }
    | .logLevel => .ok { c with logLevel := some word }
    | .metricsAddress => .ok { c with metricsAddress := some word }

/-- A setting whose value stands in a word of its own, and the word if it has come. -/
abbrev Pending := Option (Setting × Option String)

/-- Looks at the value of a pending setting. -/
def settle (c : CommandLine) : Pending → Reading CommandLine
  | none => .ok c
  | some (_, none) => .error .missingValue
  | some (setting, some word) => c.give setting word

/-- Splits a word at its first equals sign. -/
def cutValue (word : List Char) : List Char × Option String :=
  match word.span (· != '=') with
  | (name, []) => (name, none)
  | (name, _ :: value) => (name, some (String.ofList value))

/-- Takes a long name up, with the value behind its equals sign. -/
def long (c : CommandLine) (pending : Pending) (word : List Char) :
    Reading (CommandLine × Pending) :=
  let (name, value) := cutValue word
  if name = "help".toList then
    match value with
    | some _ => .error .unwantedValue
    | none => do
      let _ ← c.settle pending
      throw .help
  else
    match Setting.names.lookup (String.ofList name) with
    | none => .error .unknown
    | some setting => do
      let c ← c.settle pending
      match value with
      | some value => return (← c.give setting value, none)
      | none => return (c, some (setting, none))

/-- Takes a letter up, with what stands behind it in its word. -/
def short (c : CommandLine) (pending : Pending) (letter : Char) (rest : List Char) :
    Reading (CommandLine × Pending) :=
  if letter = 'h' then do
    let _ ← c.settle pending
    throw .help
  else
    match Setting.letters.lookup letter with
    | none => .error .unknown
    | some setting => do
      let c ← c.settle pending
      match rest with
      | [] => return (c, some (setting, none))
      | '=' :: value => return (← c.give setting (String.ofList value), none)
      | value => return (← c.give setting (String.ofList value), none)

/-- Reads words behind what was read before. -/
def readFrom (c : CommandLine) (pending : Pending) : List String → Reading CommandLine
  | [] => c.settle pending
  | word :: words =>
    match word.toList with
    | ['-', '-'] => if words.isEmpty then c.settle pending else .error .unknown
    | '-' :: '-' :: name => do
      let (c, pending) ← c.long pending name
      c.readFrom pending words
    | '-' :: letter :: rest => do
      let (c, pending) ← c.short pending letter rest
      c.readFrom pending words
    | _ =>
      match pending with
      | some (setting, none) => c.readFrom (some (setting, some word)) words
      | _ => .error .unknown

/-- Reads a command line. -/
def read (words : List String) : Reading CommandLine := ({} : CommandLine).readFrom none words

/-- Puts what the command line gives over the configuration. -/
def apply (c : CommandLine) (config : Config) : Config :=
  { config with
    tcp := { config.tcp with
      ports := (c.listenPort.map fun port => [port]).getD config.tcp.ports
      threadCount := c.threads.getD config.tcp.threadCount }
    proxy := { config.proxy with
      targetHost := c.targetHost.getD config.proxy.targetHost
      targetPort := c.targetPort.getD config.proxy.targetPort }
    observability := {
      logLevel := c.logLevel.getD config.observability.logLevel
      metricsAddress := c.metricsAddress.orElse fun _ => config.observability.metricsAddress } }

end CommandLine

end Switchboard.Proxy
