import RouteTemplate.Text.Digit

/-! # Words of a command line

Each argument of a command line stands for an operand, for a flag, or for the mark after which all
arguments are operands. A long flag may be cut short as long as it stays unique, and takes its value
after an equals sign; a letter flag takes its value at once or after an equals sign. Two dashes that are
attached to a flag are still the mark and leave the flag without a value. Negative numbers and texts
with a blank are operands unless a known flag begins them. -/
namespace RouteTemplate.CommandLine

inductive Flag where
  | help
  | json
  | template
  deriving DecidableEq, Repr

inductive Word where
  | operand (text : Text)
  | mark
  | help
  | json
  /-- A template flag with the value attached to it, or with the mark, which is none. -/
  | template (value : Option Text)
  /-- A template flag whose value is the next word. -/
  | openTemplate
  /-- A bundle that asks for help and ends in a template flag, whose value is the next word. -/
  | helpThenTemplate
  /-- A known flag in a form that it does not have. -/
  | misused
  /-- The beginning of several flags. -/
  | ambiguous
  | unknown
  deriving DecidableEq, Repr

namespace Flag

def name : Flag → Text
  | help => "help".toList
  | json => "json".toList
  | template => "template".toList

/-- The value that a text attached to a flag gives. Readers of command lines differ on two dashes that
are attached: some keep them for the value. Here they are taken for the mark and leave no value. -/
def value? (attached : Text) : Option Text :=
  if attached = ['-', '-'] then none else some attached

/-- The flag with what is attached to it: only a template flag takes a value. -/
def word (flag : Flag) (attached : Option Text) : Word :=
  match flag, attached with
  | help, none => .help
  | json, none => .json
  | template, none => .openTemplate
  | template, some attached => .template (value? attached)
  | _, some _ => .misused

end Flag

namespace Word

/-- The argument `--body`. -/
def ofLongBody? (flags : List Flag) (body : Text) : Option Word :=
  let (name, value) :=
    match Text.cutAtFirst '=' body with
    | some (name, value) => (name, some value)
    | none => (body, none)
  match flags.filter (fun flag => name.isPrefixOf flag.name) with
  | [] => none
  | [flag] => some (flag.word value)
  | _ => some .ambiguous

/-- The letters of a bundle after one for help. Each letter is a flag; a template flag takes all that
follows it for its value. -/
def ofBundle (flags : List Flag) : Text → Word
  | [] => .help
  | 'h' :: rest => ofBundle flags rest
  | 't' :: rest =>
      if flags.contains .template then (if rest.isEmpty then .helpThenTemplate else .help)
      else .misused
  | _ => .misused

/-- An argument that begins with the letter for help, from the characters that follow the letter. More
letters may follow at once or after an equals sign. -/
def ofHelp (flags : List Flag) : Text → Word
  | ['='] => .misused
  | '=' :: letters => ofBundle flags letters
  | letters => ofBundle flags letters

/-- An argument that begins with the letter for a template, from the characters that follow the
letter. -/
def ofTemplate : Text → Word
  | [] => .openTemplate
  | '=' :: attached => .template (Flag.value? attached)
  | attached => .template (Flag.value? attached)

/-- The argument of one dash, a letter and more characters. -/
def ofLetter? (flags : List Flag) (letter : Char) (rest : Text) : Option Word :=
  if letter = 'h' ∧ flags.contains .help then some (ofHelp flags rest)
  else if letter = 't' ∧ flags.contains .template then some (ofTemplate rest)
  else none

/-- An argument that begins with a dash and with no known flag. -/
def ofUnknown (text : Text) : Word :=
  if Text.isNegativeNumber text || text.contains ' ' then .operand text else .unknown

def ofText (flags : List Flag) (text : Text) : Word :=
  match text with
  | ['-', '-'] => .mark
  | '-' :: '-' :: body => (ofLongBody? flags body).getD (ofUnknown text)
  | '-' :: letter :: rest => (ofLetter? flags letter rest).getD (ofUnknown text)
  | _ => .operand text

/-- The words of an argument list; after the mark there are only operands. -/
def ofArguments (flags : List Flag) : List Text → List Word
  | [] => []
  | text :: rest =>
      match ofText flags text with
      | .mark => .mark :: rest.map .operand
      | word => word :: ofArguments flags rest

/-- The text of an operand; the mark counts as the text of two dashes. -/
def text? : Word → Option Text
  | operand text => some text
  | mark => some ['-', '-']
  | _ => none

end Word
end RouteTemplate.CommandLine
