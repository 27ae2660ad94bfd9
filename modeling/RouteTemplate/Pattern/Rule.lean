import RouteTemplate.Text

/-! # Rules for patterns

The rules that a well-formed pattern keeps, in the order in which they are checked. -/
namespace RouteTemplate

inductive Rule where
  | empty
  | missingLeadingSeparator
  | trailingSeparator
  | adjacentPlaceholders
  | emptyPlaceholder
  | invalidCharacters
  | unbalancedBraces
  | duplicatePlaceholder
  deriving DecidableEq, Repr

namespace Rule

/-- All rules, in the order in which they are checked. -/
def all : List Rule :=
  [empty, missingLeadingSeparator, trailingSeparator, adjacentPlaceholders, emptyPlaceholder,
    invalidCharacters, unbalancedBraces, duplicatePlaceholder]

def word : Rule → Text
  | empty => "empty".toList
  | missingLeadingSeparator => "missing_leading_separator".toList
  | trailingSeparator => "trailing_separator".toList
  | adjacentPlaceholders => "adjacent_placeholders".toList
  | emptyPlaceholder => "empty_placeholder".toList
  | invalidCharacters => "invalid_characters".toList
  | unbalancedBraces => "unbalanced_braces".toList
  | duplicatePlaceholder => "duplicate_placeholder".toList

def message : Rule → Text
  | empty => "template cannot be None or empty".toList
  | missingLeadingSeparator => "template must start with the separator".toList
  | trailingSeparator => "template cannot end with the separator".toList
  | adjacentPlaceholders =>
      ("placeholders (\x7bvar\x7d) cannot be next to each other, " ++
        "there must be something between them").toList
  | emptyPlaceholder => "placeholders cannot be empty (\x7b\x7d)".toList
  | invalidCharacters =>
      ("template can only contain letters, digits, the separator, " ++
        "braces and _ - . = : ;").toList
  | unbalancedBraces => "braces must open and close in pairs without nesting".toList
  | duplicatePlaceholder => "a placeholder name can appear only once".toList

def ofText? (text : Text) : Option Rule := all.find? (fun rule => rule.word = text)

theorem mem_all (rule : Rule) : rule ∈ all := by cases rule <;> decide

@[simp] theorem ofText?_word (rule : Rule) : ofText? rule.word = some rule := by
  cases rule <;> decide

end Rule
end RouteTemplate
