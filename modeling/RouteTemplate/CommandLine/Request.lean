import RouteTemplate.CommandLine.Word

/-! # Requests

A command line asks for one of three tasks, on the registry that its template flags define. Reading
it gives a request, or the way in which it is not one: it asks for help, or it is a misuse. Words are
taken from left to right, so that a flag for help counts wherever nothing before it is a misuse, while
words that are too many or missing are a misuse only at the end. -/
namespace RouteTemplate.CommandLine

inductive Task where
  | resolve (path : Text) (json : Bool)
  | merge (key : Text) (entries : List Text)
  | table
  deriving DecidableEq, Repr

/-- A template flag that has no value still counts as one. -/
structure Request where
  templates : List (Option Text)
  task : Task
  deriving DecidableEq, Repr

/-- Why a command line is no request. -/
inductive Usage where
  | help
  | misuse
  deriving DecidableEq, Repr

inductive Command where
  | resolve
  | merge
  | table
  deriving DecidableEq, Repr

namespace Command

def all : List Command := [resolve, merge, table]

def name : Command → Text
  | resolve => "match".toList
  | merge => "merge".toList
  | table => "templates".toList

def ofText? (text : Text) : Option Command := all.find? (fun command => command.name = text)

def flags : Command → List Flag
  | resolve => [.help, .json, .template]
  | merge => [.help, .template]
  | table => [.help, .template]

end Command

/-! ## Gathering flags and operands -/

/-- What the words of a command have given so far. The operands are those of the first row of words
that no flag interrupts; every later operand is stray, as is every unknown flag. -/
structure Gathered where
  json : Bool
  templates : List (Option Text)
  operands : List Word
  closed : Bool
  stray : Bool

namespace Gathered

def start : Gathered := ⟨false, [], [], false, false⟩

def addOperand (gathered : Gathered) (word : Word) : Gathered :=
  if gathered.closed then { gathered with stray := true }
  else { gathered with operands := gathered.operands ++ [word] }

/-- A flag ends the row of operands once it has begun. -/
def close (gathered : Gathered) : Gathered :=
  { gathered with closed := gathered.closed || !gathered.operands.isEmpty }

def addJson (gathered : Gathered) : Gathered := { gathered.close with json := true }

def addTemplate (gathered : Gathered) (value : Option Text) : Gathered :=
  { gathered.close with templates := gathered.templates ++ [value] }

def addStray (gathered : Gathered) : Gathered := { gathered.close with stray := true }

def addWords : Gathered → List Word → Except Usage Gathered
  | gathered, [] => .ok gathered
  | gathered, .operand text :: rest => (gathered.addOperand (.operand text)).addWords rest
  | gathered, .mark :: rest => (gathered.addOperand .mark).addWords rest
  | gathered, .json :: rest => gathered.addJson.addWords rest
  | gathered, .template value :: rest => (gathered.addTemplate value).addWords rest
  | gathered, .openTemplate :: .operand value :: rest => (gathered.addTemplate value).addWords rest
  | gathered, .unknown :: rest => gathered.addStray.addWords rest
  | _, .help :: _ => .error .help
  | _, .helpThenTemplate :: .operand _ :: _ => .error .help
  | _, _ => .error .misuse

end Gathered

/-! ## Tasks -/

/-- The words without a mark at their head. -/
def afterMark : List Word → List Word
  | .mark :: rest => rest
  | words => words

/-- The task of a command with the given operands. The mark is no operand of its own; among the
entries of a merge the first text of two dashes is taken for it. -/
def task? (json : Bool) (operands : List Word) : Command → Option Task
  | .resolve =>
      match (operands.erase .mark).filterMap Word.text? with
      | [path] => some (.resolve path json)
      | _ => none
  | .merge =>
      match afterMark operands with
      | .operand key :: rest =>
          some (.merge key (((afterMark rest).filterMap Word.text?).erase ['-', '-']))
      | _ => none
  | .table => if operands.isEmpty then some .table else none

def readCommand (command : Command) (arguments : List Text) : Except Usage Request := do
  let words := Word.ofArguments command.flags arguments
  if words.contains .ambiguous then .error .misuse
  else
    let gathered ← Gathered.start.addWords words
    match task? gathered.json gathered.operands command with
    | some task => if gathered.stray then .error .misuse else .ok ⟨gathered.templates, task⟩
    | none => .error .misuse

/-- Reads the arguments before the command, `stray` telling whether an unknown flag came among
them, and leaves the rest to the command. Nothing at all asks for help. -/
def readFrom (stray : Bool) : List Text → Except Usage Request
  | [] => .error (if stray then .misuse else .help)
  | argument :: rest =>
      match Word.ofText [.help] argument with
      | .operand name =>
          match Command.ofText? name with
          | some command => do
              let request ← readCommand command rest
              if stray then .error .misuse else .ok request
          | none => .error .misuse
      | .unknown => readFrom true rest
      | .help => .error .help
      | _ => .error .misuse

def read (arguments : List Text) : Except Usage Request := readFrom false arguments

end RouteTemplate.CommandLine
