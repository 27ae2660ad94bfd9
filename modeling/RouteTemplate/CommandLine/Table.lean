import RouteTemplate.CommandLine.Display

/-! # The table of templates

One row for each route, in order of priority, under a header and a rule. The columns for keys and
patterns are as wide as their longest entry. -/
namespace RouteTemplate.CommandLine

/-- One entry for each column. -/
structure Row where
  priority : Text
  key : Text
  pattern : Text
  names : Text
  deriving DecidableEq

namespace Row

def header : Row := ⟨"PRIORITY".toList, "KEY".toList, "PATTERN".toList, "VARIABLES".toList⟩

def ofRoute (route : Route) (priority : Nat) : Row :=
  ⟨Text.ofNat priority, route.key.word, route.pattern, List.intercalate ", ".toList route.names⟩

/-- The entries side by side, two blanks apart. -/
def text (keyWidth patternWidth : Nat) (row : Row) : Text :=
  Text.padRight 8 row.priority ++ "  ".toList ++ Text.padRight keyWidth row.key ++ "  ".toList ++
    Text.padRight patternWidth row.pattern ++ "  ".toList ++ row.names

end Row

/-- The length of the longest of the given texts, and `least` if all are shorter. -/
def widest (least : Nat) (texts : List Text) : Nat :=
  texts.foldl (fun width text => max width text.length) least

/-- The rule is as long as the widest row and two blanks more, and at most eighty columns. -/
def templateTable (routes : List Route) : Text :=
  let rows := (routes.zipIdx 1).map (fun (route, priority) => Row.ofRoute route priority)
  let keyWidth := widest 3 (rows.map Row.key)
  let patternWidth := widest 7 (rows.map Row.pattern)
  let ruleWidth := min (8 + keyWidth + patternWidth + 6 + widest 0 (rows.map Row.names)) 80
  line (Row.header.text keyWidth patternWidth) ++
    line (List.replicate ruleWidth '-') ++
    rows.flatMap (fun row => line (row.text keyWidth patternWidth))

end RouteTemplate.CommandLine
