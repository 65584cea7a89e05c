/-!
# Command lines

A command line names a job, the files that it reads, and options. An option with a value takes it
from the same word after an equals sign, or from the next word; options may stand before and after
the files, and each is given once at most.

* `Job`, `Invocation`: what the program is asked to do;
* `Words`, `Words.scan`: options and other words told apart;
* **`Invocation.parse?`**: the invocation of a command line.
-/

namespace ExperimentQuery

/-- What the program is asked to do. -/
inductive Job where
  | compile (file : String) (fingerprint : Bool)
  | metricValue (file : String) (byDate : Bool)
  | validate (file factTables : String)
  | run (file events : String)
  | sealConnection (name : String)
  deriving Repr, DecidableEq

/-- A job and the settings file that is named for it. -/
structure Invocation where
  config : Option String
  job : Job
  deriving Repr, DecidableEq

/-- The words of a command line by their use. -/
structure Words where
  plain : List String := []
  flags : List String := []
  options : List (String × String) := []
  deriving Repr, DecidableEq

/-- The options that a job has: those without a value and those with one. -/
structure OptionNames where
  flags : List String := []
  options : List String := []

/-- The option that names the settings file. -/
def configOption : String := "--config"

namespace Words

/-- A word that begins an option. -/
def isOption (word : String) : Bool := word.startsWith "-" && word ≠ "-"

/-- A word as an option with its value, if it has an equals sign. -/
def assigned? (word : String) : Option (String × String) :=
  let cs := word.toList
  match cs.dropWhile (· ≠ '=') with
  | [] => none
  | _ :: value => some (String.ofList (cs.takeWhile (· ≠ '=')), String.ofList value)

/-- An option with a value added; it may not be there yet. -/
def addOption (name value : String) (w : Words) : Option Words :=
  if (w.options.lookup name).isSome then none
  else some { w with options := w.options ++ [(name, value)] }

/-- An option without a value added; it may not be there yet. -/
def addFlag (name : String) (w : Words) : Option Words :=
  if w.flags.contains name then none else some { w with flags := w.flags ++ [name] }

/-- The words of a command line; after two dashes there are no more options. -/
def scan (names : OptionNames) (w : Words) : List String → Option Words
  | [] => some w
  | word :: rest =>
    if word = "--" then some { w with plain := w.plain ++ rest }
    else if names.flags.contains word then (w.addFlag word).bind fun w => scan names w rest
    else if names.options.contains word then
      match rest with
      | value :: rest =>
        if isOption value then none else (w.addOption word value).bind fun w => scan names w rest
      | [] => none
    else if isOption word then
      match assigned? word with
      | some (name, value) =>
        if names.options.contains name then (w.addOption name value).bind fun w => scan names w rest
        else none
      | none => none
    else scan names { w with plain := w.plain ++ [word] } rest

/-- The only plain word. -/
def onePlain (w : Words) : Option String :=
  match w.plain with
  | [word] => some word
  | _ => none

/-- The path that is the only plain word. -/
def file (w : Words) : Option String := w.onePlain.filter (· ≠ "")

/-- The path that an option gives. -/
def path (name : String) (w : Words) : Option String := (w.options.lookup name).filter (· ≠ "")

end Words

/-- A kind of job: its name, its options, and the job for its words. -/
structure JobKind where
  name : String
  flags : List String := []
  options : List String := []
  job : Words → Option Job

/-- The kinds of job. -/
def jobKinds : List JobKind :=
  [{ name := "compile", flags := ["--fingerprint"]
     job := fun w => do return .compile (← w.file) (w.flags.contains "--fingerprint") },
   { name := "metric-value", flags := ["--by-date"]
     job := fun w => do return .metricValue (← w.file) (w.flags.contains "--by-date") },
   { name := "validate", options := ["--fact-tables"]
     job := fun w => do return .validate (← w.file) (← w.path "--fact-tables") },
   { name := "run", options := ["--events"]
     job := fun w => do return .run (← w.file) (← w.path "--events") },
   { name := "seal", job := fun w => do return .sealConnection (← w.onePlain) }]

/-- The path of the settings file, if one is named; the path may not be empty. -/
def configPath (w : Words) : Option (Option String) :=
  match w.options.lookup configOption with
  | none => some none
  | some path => if path = "" then none else some (some path)

/-- The invocation for the words after the name of a job. -/
def JobKind.invocation (kind : JobKind) (config : Option String) (args : List String) :
    Option Invocation := do
  let w ← Words.scan ⟨kind.flags, configOption :: kind.options⟩ {} args
  let own ← configPath w
  return ⟨own <|> config, ← kind.job w⟩

namespace Invocation

/-- The invocation of the words from the name of a job on. -/
def ofTask? (config : Option String) : List String → Option Invocation
  | [] => none
  | name :: args => do
    let kind ← jobKinds.find? (·.name == name)
    kind.invocation config args

/-- **The invocation of a command line**; the settings file may be named before the job. -/
def parse? (args : List String) : Option Invocation :=
  match args with
  | [] => none
  | word :: rest =>
    if word = configOption then
      match rest with
      | path :: rest =>
        if path = "" || Words.isOption path then none else ofTask? (some path) rest
      | [] => none
    else
      match Words.assigned? word with
      | some (name, path) =>
        if name = configOption then if path = "" then none else ofTask? (some path) rest
        else ofTask? none args
      | none => ofTask? none args

end Invocation

end ExperimentQuery
