import RouteTemplate.Resolution
import RouteTemplate.Text.Json

/-! # Displaying a resolution

A resolution is displayed as lines with a label in front of each value, or as one line of json with
its members in alphabetical order. -/
namespace RouteTemplate.CommandLine

def line (text : Text) : Text := text ++ ['\n']

/-- Labels fill twelve columns. -/
def labelled (label value : Text) : Text := line (Text.padRight 12 (label ++ [':']) ++ value)

/-- A missing extension is displayed as a dash. -/
def displayLines (found : Resolution) : Text :=
  labelled "key".toList found.route.key.word ++
    labelled "pattern".toList found.route.pattern ++
    found.route.names.flatMap (fun name =>
      match found.bindings.get? name with
      | some value => labelled name value
      | none => []) ++
    labelled "extension".toList (found.extension.getD ['-'])

/-! ## Json -/

def jsonMember (name value : Text) : Text := Text.json name ++ ": ".toList ++ value

def jsonObject (members : List Text) : Text :=
  '{' :: (List.intercalate ", ".toList members ++ ['}'])

/-- The bindings in the alphabetical order of their names. -/
def jsonBindings (bindings : Assignment) : Text :=
  let sorted := bindings.entries.mergeSort (fun first second => Text.le first.1 second.1)
  jsonObject (sorted.map (fun (name, value) => jsonMember name (Text.json value)))

def displayJson (found : Resolution) : Text :=
  line (jsonObject
    [jsonMember "bindings".toList (jsonBindings found.bindings),
     jsonMember "extension".toList ((found.extension.map Text.json).getD "null".toList),
     jsonMember "key".toList (Text.json found.route.key.word),
     jsonMember "pattern".toList (Text.json found.route.pattern)])

end RouteTemplate.CommandLine
