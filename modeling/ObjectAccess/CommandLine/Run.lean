import ObjectAccess.Access.Client
import ObjectAccess.CommandLine.Help
import ObjectAccess.CommandLine.LogFilter

/-!
# Running a command

A run takes its arguments, the variables, a clock reading and what can be read, and
comes to an outcome: a text to be printed, a report of what failed, the refusal of its
arguments, or no answer at all.  The configuration is read and its log filter checked before the
command starts.
-/

namespace ObjectAccess.CommandLine

set_option autoImplicit false

open ObjectAccess.Time ObjectAccess.Policy

/-! ## Outcomes -/

/-- What failed, and why. -/
structure Report where
  message : String
  causes : List String := []
  deriving DecidableEq, Repr

/-- The lines of a cause, with a given text in front of the first one and another in front of
those after it. -/
def indent (first others cause : String) : String :=
  String.intercalate ("\n" ++ others)
    (((Text.pieces '\n' cause.toList).map String.ofList).modifyHead (first ++ ·))

/-- The causes with their numbers, where there are several. -/
def causeTexts : List String → List String
  | [cause] => [indent "    " "    " cause]
  | causes => causes.zipIdx.map fun (cause, i) =>
      indent (String.ofList ((Decimal.digits i).leftpad 5 ' ') ++ ": ") "       " cause

/-- The text of a report. -/
def Report.text (r : Report) : String :=
  "Error: " ++ r.message ++
    if r.causes.isEmpty then ""
    else "\n\nCaused by:\n" ++ String.intercalate "\n" (causeTexts r.causes)

/-- What a run comes to. -/
inductive Outcome where
  /-- All is well, and a text is printed. -/
  | printed (text : String)
  | failed (report : Report)
  /-- The arguments cannot be used. -/
  | misused
  /-- The run breaks off without a report. -/
  | aborted
  deriving DecidableEq, Repr

namespace Outcome

/-- The exit status. -/
def exitStatus : Outcome → Nat
  | .printed _ => 0
  | .failed _ => 1
  | .misused => 2
  | .aborted => 101

/-- What goes to the standard output. -/
def output : Outcome → String
  | .printed text => text
  | _ => ""

/-- The report of a failure. -/
def report? : Outcome → Option Report
  | .failed report => some report
  | _ => none

end Outcome

/-! ## Surroundings -/

/-- Where a specification is read from. -/
inductive Source where
  | standardInput
  | file (path : String)
  deriving DecidableEq, Repr

/-- The message of a source that cannot be read. -/
def Source.failure : Source → String
  | .standardInput => "failed to read stdin"
  | .file path => "failed to read " ++ path

/-- Where `compile` reads its specification from. -/
def CompileCommand.source (c : CompileCommand) : Source :=
  match c.file with
  | some path => .file path
  | none => .standardInput

/-- What a run depends on besides its arguments. -/
structure Surroundings where
  lookup : String → Option String
  now : Instant
  /-- The content of a source, or the reason why it cannot be read. -/
  read : Source → Except String String

/-! ## Commands -/

/-- The policy of a specification; nothing if its groups form no combination. -/
def compileText (c : CompileCommand) (text : String) : Except Report String :=
  match readSpecification text with
  | .error e =>
    let reason := match e with
      | .invalidSpecification reason => [reason]
      | .unsupportedCombination _ => []
    .error ⟨"failed to parse permission specification", e.message :: reason⟩
  | .ok specification =>
    match Policy.compile? specification c.bucket with
    | none => .ok ""
    | some document => .ok ((if c.pretty then document.prettyText else document.text) ++ "\n")

/-- Runs `compile`. -/
def CompileCommand.run (c : CompileCommand) (around : Surroundings) : Except Report String := do
  match around.read c.source with
  | .error reason => .error ⟨c.source.failure, [reason]⟩
  | .ok text => compileText c text

/-- The instant that a number of seconds asks for, if the clock has it. -/
def expiryAfter? (now : Instant) (seconds : Nat) : Option Instant :=
  (Lifetime.ofSeconds? seconds).bind now.add?

/-- The expiry that a command asks for. -/
def UrlCommand.expiry (c : UrlCommand) (now : Instant) : Except Report (Option Instant) :=
  match c.expiresIn with
  | none => .ok none
  | some seconds =>
    match expiryAfter? now seconds with
    | some t => .ok (some t)
    | none => .error ⟨"--expires-in " ++ toString seconds ++ " is out of range", []⟩

/-- Runs a task and reports its fault. -/
def attempt {σ α : Type} (task : Task σ α) (s : σ) : Except Report (α × σ) :=
  match task.start s with
  | (.ok x, after) => .ok (x, after)
  | (.error fault, _) => .error ⟨fault.summary, []⟩

/-- Runs `url`: the public paths are set first, and then the URL is made. -/
def UrlCommand.run (c : UrlCommand) (config : Config) (now : Instant) : Except Report String := do
  let client : Client := { Client.ofConfig config with defaultBucket := c.bucket }
  let service : Service Store := ⟨Registry.empty, Store.empty config⟩
  let (_, service) ← attempt (client.setPublic none c.patterns) service
  let expiresAt ← c.expiry now
  let (resolved, _) ← attempt (client.resolver.url ⟨c.bucket, c.key⟩ expiresAt now) service
  return resolved.url ++ "\n"

/-- The variable that overrides the log level. -/
def logVariable : String := "RUST_LOG"

/-- Checks the log filter: that of the variable leniently, and that of the configuration if there
is no variable. -/
def checkLog (around : Surroundings) (config : Config) : Except FilterError Unit :=
  match around.lookup logVariable with
  | some filter => checkLeniently filter
  | none => checkFilter config.logLevel

/-- The outcome of a command that has to be prepared for.  A log filter that is cut in the middle of
a character breaks the run off. -/
def outcome (around : Surroundings) (command : Config → Except Report String) : Outcome :=
  let config := Config.ofVariables around.lookup
  match checkLog around config with
  | .error .brokenCharacter => .aborted
  | .error e => .failed ⟨"invalid log level filter: " ++ config.logLevel, e.causes⟩
  | .ok () =>
    match command config with
    | .ok text => .printed text
    | .error report => .failed report

/-- What a request reads. -/
def Request.source? : Request → Option Source
  | .compile command => some command.source
  | _ => none

/-- Runs what a request asks for. -/
def Request.run (around : Surroundings) : Request → Outcome
  | .help topic => .printed (helpText around.lookup topic)
  | .version => .printed versionText
  | .compile command => outcome around fun _ => command.run around
  | .url command => outcome around fun config => command.run config around.now

/-- Runs the program with its arguments. -/
def run (around : Surroundings) (arguments : List String) : Outcome :=
  match Request.ofArguments? around.lookup arguments with
  | some request => request.run around
  | none => .misused

end ObjectAccess.CommandLine
