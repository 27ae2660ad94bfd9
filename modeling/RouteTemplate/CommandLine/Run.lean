import RouteTemplate.CommandLine.Entry
import RouteTemplate.CommandLine.Request
import RouteTemplate.CommandLine.Table
import RouteTemplate.Registry.Standard

/-! # Running a command line

A run ends with a report: an exit status, what goes to the output and what goes to the errors. The
status is 0 for success and help, 1 for a path that no route fits, and 2 for a failure or a misuse. Only
a template flag without a definition breaks a run off, so that there is no report. -/
namespace RouteTemplate.CommandLine

structure Report where
  status : Nat
  output : Text
  errors : Text
  deriving DecidableEq

namespace Report

def success (output : Text) : Report := ⟨0, output, []⟩

def unresolved (path : Text) : Report :=
  ⟨1, [], line ("No template matches ".toList ++ Text.quoted path)⟩

def failed (failure : Failure) : Report := ⟨2, [], line ("Error: ".toList ++ failure.message)⟩

/-- An outline of all commands in the library's own words. It stands for the usage and the help of each
command, whose full texts are not modelled. -/
def usageText : Text :=
  line ("usage: match [--json] [-t KEY=PATTERN] PATH | merge [-t KEY=PATTERN] KEY [NAME=VALUE] | " ++
    "templates [-t KEY=PATTERN]").toList

def ofUsage : Usage → Report
  | .help => ⟨0, usageText, []⟩
  | .misuse => ⟨2, [], usageText⟩

end Report

/-- The template that a template flag defines by `KEY=PATTERN`. -/
def templateOf : Option Text → Except Failure Template
  | none => .error .missingDefinition
  | some text => do
      let (key, pattern) ← entry text
      Template.ofPair (.text key, pattern)

/-- The registry of the given template flags, or the standard one if there are none. -/
def registryOf (definitions : List (Option Text)) : Except Failure Registry :=
  if definitions.isEmpty then .ok Registry.standard
  else do
    let templates ← definitions.mapM templateOf
    Registry.build Settings.standard templates

/-- The path that a merge of the given entries builds. -/
def mergeEntries (registry : Registry) (key : Text) (texts : List Text) : Except Failure Text := do
  let entries ← texts.mapM entry
  registry.merge (.text key) (some (Assignment.ofList entries))

def Task.report (registry : Registry) : Task → Report
  | .resolve path json =>
      match registry.resolve (some path) with
      | .error failure => .failed failure
      | .ok none => .unresolved path
      | .ok (some found) => .success (if json then displayJson found else displayLines found)
  | .merge key texts =>
      match mergeEntries registry key texts with
      | .error failure => .failed failure
      | .ok path => .success (line path)
  | .table => .success (templateTable registry.routes)

def Request.report (request : Request) : Except Failure Report :=
  match registryOf request.templates with
  | .error .missingDefinition => .error .missingDefinition
  | .error failure => .ok (.failed failure)
  | .ok registry => .ok (request.task.report registry)

def run (arguments : List Text) : Except Failure Report :=
  match read arguments with
  | .error usage => .ok (.ofUsage usage)
  | .ok request => request.report

end RouteTemplate.CommandLine
