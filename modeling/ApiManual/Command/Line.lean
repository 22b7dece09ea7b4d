import ApiManual.Command.Basic
import ApiManual.Text.Decimal

/-!
# Reading command lines

The words of a command line are read from left to right. A word that starts with a hyphen gives
options, the first other word names the command, and what follows are its operands. An option may be
given once before the name of the command and, if it is common to all commands, once more after it. Two
hyphens make operands of all words that follow.

A command line that cannot be read is misuse from its first wrong word on; a word that asks for help or
for the version ends the reading with success.
-/

namespace ApiManual

inductive Choice where
  | settings
  | verbose
  | help
  | version
  | force
  | title
  | folder
  | baseUri
  | format
  | archive
  | document
  | host
  | port
deriving DecidableEq, Repr

inductive Verb where
  | init
  | build
  | check
  | serve
deriving DecidableEq, Repr

namespace Verb

def ofWord? : String → Option Verb
  | "init" => some .init
  | "build" => some .build
  | "check" => some .check
  | "serve" => some .serve
  | _ => none

/-- The greatest number of operands: a folder of sources, except for `init`. -/
def greatestOperands : Verb → Nat
  | .init => 0
  | _ => 1

def choices : Verb → List Choice
  | .init => [.force]
  | .build => [.title, .folder, .baseUri, .format, .archive]
  | .check => []
  | .serve => [.document, .host, .port]

end Verb

namespace Choice

def longName : Choice → String
  | .settings => "config"
  | .verbose => "verbose"
  | .help => "help"
  | .version => "version"
  | .force => "force"
  | .title => "title"
  | .folder => "output"
  | .baseUri => "base-uri"
  | .format => "generator"
  | .archive => "examples"
  | .document => "from"
  | .host => "host"
  | .port => "port"

def shortName? : Choice → Option Char
  | .settings => some 'c'
  | .verbose => some 'v'
  | .help => some 'h'
  | .version => some 'V'
  | .force => some 'f'
  | .title => some 't'
  | .folder => some 'o'
  | .baseUri => some 'b'
  | .format => some 'g'
  | .port => some 'p'
  | .archive | .document | .host => none

/-- The options before the name of a command, or after it. -/
def allowed : Option Verb → List Choice
  | none => [.settings, .verbose, .help, .version]
  | some verb => [.settings, .verbose, .help] ++ verb.choices

def isSwitch : Choice → Bool
  | .verbose | .help | .version | .force => true
  | _ => false

end Choice

def portOfText? (text : String) : Option Nat :=
  match Text.stripStart? ['-'] text.toList with
  | some digits => if digits.head? = some '+' then none else Text.decimal? 0 digits
  | none => Text.decimal? Settings.greatestPort text.toList

/-- The value can be that of the option. Paths are not empty, ports are numbers. -/
def Choice.admits (choice : Choice) (value : String) : Bool :=
  match choice with
  | .settings | .folder | .archive | .document => !value.isEmpty
  | .port => (portOfText? value).isSome
  | _ => true

/-- What ends the reading of a command line before its end. -/
inductive Interruption where
  | help
  | version
  | misuse
deriving DecidableEq, Repr

structure LineState where
  verb : Option Verb
  /-- The options before the name of the command, once that has been read. -/
  before : List (Choice × String)
  /-- The options since the start or the name of the command. -/
  given : List (Choice × String)
  /-- The option that waits for its value. -/
  pending : Option Choice
  operands : List String
  /-- Two hyphens have been read. -/
  onlyOperands : Bool

namespace LineState

def start : LineState := ⟨none, [], [], none, [], false⟩

/-- Gives an option its value, the empty text if it is a switch. -/
def give (state : LineState) (choice : Choice) (value : String) : Except Interruption LineState :=
  if choice = .help then .error .help
  else if choice = .version then .error .version
  else if (state.given.lookup choice).isSome || !choice.admits value then .error .misuse
  else .ok { state with given := state.given ++ [(choice, value)], pending := none }

/-- The option with a long name, given or left waiting. -/
def readLong (state : LineState) (word : List Char) : Except Interruption LineState :=
  let (name, value) := Text.cut '=' word
  match (Choice.allowed state.verb).find? (·.longName.toList = name) with
  | none => .error .misuse
  | some choice =>
    match choice.isSwitch, value with
    | true, none => state.give choice ""
    | true, some _ => .error .misuse
    | false, some value => state.give choice (String.ofList value)
    | false, none => .ok { state with pending := some choice }

/-- Options with short names in one word. One that takes a value takes the rest of the word, without
an equals sign that may stand before it. -/
def readShort (state : LineState) : List Char → Except Interruption LineState
  | [] => .ok state
  | letter :: rest =>
    match (Choice.allowed state.verb).find? (·.shortName? = some letter) with
    | none => .error .misuse
    | some choice =>
      if choice.isSwitch then
        match state.give choice "" with
        | .ok state => state.readShort rest
        | .error interruption => .error interruption
      else if rest.isEmpty then .ok { state with pending := some choice }
      else state.give choice (String.ofList ((Text.stripStart? ['='] rest).getD rest))

def addOperand (state : LineState) (word : String) : Except Interruption LineState :=
  match state.verb with
  | none => .error .misuse
  | some verb =>
    if state.operands.length < verb.greatestOperands ∧ !word.isEmpty then
      .ok { state with operands := state.operands ++ [word] }
    else .error .misuse

/-- Reads a word that is not an option: the value of the option that waits for one, the name of the
command, or an operand. -/
def readPlain (state : LineState) (word : String) : Except Interruption LineState :=
  match state.pending, state.verb with
  | some choice, _ => state.give choice word
  | none, some _ => state.addOperand word
  | none, none =>
    match Verb.ofWord? word with
    | some verb => .ok { state with verb := some verb, before := state.given, given := [] }
    | none => .error .misuse

/-- Reads one word. An option that waits for a value does not get one that starts with a hyphen. -/
def readWord (state : LineState) (word : String) : Except Interruption LineState :=
  if state.onlyOperands then state.addOperand word
  else
    match word.toList with
    | '-' :: rest =>
      if rest.isEmpty then state.readPlain word
      else if state.pending.isSome then .error .misuse
      else
        match rest with
        | ['-'] => .ok { state with onlyOperands := true }
        | '-' :: name => state.readLong name
        | letters => state.readShort letters
    | _ => state.readPlain word

def value? (state : LineState) (choice : Choice) : Option String := state.given.lookup choice

/-- The folder of sources, which is the current one unless it is named. -/
def folder (state : LineState) : String := state.operands.head?.getD "."

/-- The settings file, named after the command, before it, or not at all. -/
def settingsPath (state : LineState) : String :=
  (state.value? .settings).getD ((state.before.lookup .settings).getD Settings.fileName)

/-- A port from the option, or else from the surroundings. -/
def port? (state : LineState) (surroundings : Surroundings) :
    Except Interruption (Option Nat) :=
  match (state.value? .port).or surroundings.port with
  | none => .ok none
  | some text =>
    match portOfText? text with
    | some port => .ok (some port)
    | none => .error .misuse

def command (surroundings : Surroundings) (state : LineState) : Verb → Except Interruption Command
  | .init => .ok (.init (state.value? .force).isSome)
  | .build => .ok (.build state.folder
      { title := state.value? .title
        folder := state.value? .folder
        baseUri := state.value? .baseUri
        format := state.value? .format
        archive := state.value? .archive })
  | .check => .ok (.check state.folder)
  | .serve => do
    let port ← state.port? surroundings
    let host := (state.value? .host).or surroundings.host
    match state.value? .document, state.operands with
    | some _, _ :: _ => .error .misuse
    | some path, [] => .ok (.serve (.document path) host port)
    | none, _ => .ok (.serve (.sources state.folder) host port)

def finish (surroundings : Surroundings) (state : LineState) : Except Interruption Invocation := do
  match state.pending, state.verb with
  | none, some verb =>
    let command ← state.command surroundings verb
    return ⟨state.settingsPath, command⟩
  | _, _ => .error .misuse

end LineState

/-- The words after `help`: nothing, or the name of what help is asked for. -/
def isHelpTopic : List String → Bool
  | [] => true
  | [word] => (Verb.ofWord? word).isSome || word = "help"
  | _ => false

def LineState.readAll (surroundings : Surroundings) (state : LineState) :
    List String → Except Interruption Invocation
  | [] => state.finish surroundings
  | word :: rest =>
    if word = "help" ∧ state.verb = none ∧ state.pending = none ∧ !state.onlyOperands then
      .error (if isHelpTopic rest then .help else .misuse)
    else
      match state.readWord word with
      | .ok state => state.readAll surroundings rest
      | .error interruption => .error interruption

def Invocation.read (surroundings : Surroundings) (words : List String) :
    Except Interruption Invocation :=
  LineState.start.readAll surroundings words

end ApiManual
