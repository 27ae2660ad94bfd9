import RouteTemplate.Pattern.Rule
import RouteTemplate.RawValue

/-! # Failures

Every way in which a call can fail, as a cause. The wording of a failure is `Failure.message`, and
`Failure.families` says which kinds of failure it counts as. A path that no route fits is not a
failure. -/
namespace RouteTemplate

/-- What is wrong with the definition of a registry or with its settings. -/
inductive ConfigurationFault where
  | separatorLength (separator : Text)
  | separatorReserved (separator : Text)
  | limitNotPositive (limit : Int)
  | noTemplates
  | repeatedKey (key : Key)

/-- Why a path is not accepted for matching; `other` is a reason given by the caller. -/
inductive InputFault where
  | empty
  | tooLong (limit : Int)
  | disallowedCharacters (separator : Text)
  | other (reason : Text)

inductive Failure where
  | configuration (fault : ConfigurationFault)
  | invalidTemplate (pattern : Option Text) (rule : Rule)
  | unknownKey (key : RawValue)
  | nothingToMerge
  | invalidInput (path : Option Text) (fault : InputFault)
  | incompleteMerge (pattern : Text) (expected replaced : Int)
  | malformedAssignment (text : Text)
  /-- A template flag has the mark of two dashes for its value. -/
  | missingDefinition
  | unknownRule (rule : RawValue)
  | unknownName (name : Text)

/-- The kinds of failure that a caller can ask for. -/
inductive Family where
  | template
  | argument
  | value
  | lookup
  deriving DecidableEq, Repr

namespace ConfigurationFault

def message : ConfigurationFault → Text
  | separatorLength separator =>
      "separator must be a single character, got ".toList ++ Text.quoted separator
  | separatorReserved separator =>
      "separator ".toList ++ Text.quoted separator ++
        " cannot be a placeholder character or a brace".toList
  | limitNotPositive limit => "max_input_length must be positive, got ".toList ++ Text.ofInt limit
  | noTemplates => "A template registry needs at least one template.".toList
  | repeatedKey key =>
      "Template key ".toList ++ Text.quoted key.word ++ " is registered twice.".toList

end ConfigurationFault

namespace InputFault

def reason : InputFault → Text
  | empty => "input cannot be None or empty".toList
  | tooLong limit => "input is longer than ".toList ++ Text.ofInt limit ++ " characters".toList
  | disallowedCharacters separator =>
      "input can only contain letters, digits, ".toList ++ Text.quoted separator ++
        " and _ - . = : ;".toList
  | other reason => reason

end InputFault

namespace Failure

def message : Failure → Text
  | configuration fault => fault.message
  | invalidTemplate pattern rule =>
      "Invalid template ".toList ++ Text.quotedOrNone pattern ++ ": ".toList ++ rule.message
  | unknownKey key => "Invalid template key: ".toList ++ key.quoted
  | nothingToMerge => "Cannot merge into an empty template or from None values".toList
  | invalidInput path fault =>
      "Invalid input ".toList ++ Text.quotedOrNone path ++ ": ".toList ++ fault.reason
  | incompleteMerge pattern expected replaced =>
      "Failed merge of ".toList ++ Text.quoted pattern ++
        ": could not replace all variables (".toList ++ Text.ofInt expected ++
        "), only replaced ".toList ++ Text.ofInt replaced
  | malformedAssignment text => "expected NAME=VALUE, got ".toList ++ Text.quoted text
  | missingDefinition => "'list' object has no attribute 'partition'".toList
  | unknownRule rule => rule.quoted ++ " is not a valid Rule".toList
  | unknownName name => "module 'pathtemplate' has no attribute ".toList ++ Text.quoted name

/-- The families that a failure belongs to, the widest first. -/
def families : Failure → List Family
  | configuration _ => [.template]
  | invalidTemplate _ _ => [.template, .value]
  | unknownKey _ => [.template, .lookup]
  | nothingToMerge => [.template, .argument, .value]
  | invalidInput _ _ => [.template, .argument, .value]
  | incompleteMerge _ _ _ => [.template, .value]
  | malformedAssignment _ => [.value]
  | missingDefinition => []
  | unknownRule _ => [.value]
  | unknownName _ => []

end Failure

/-- The key that a raw value stands for. -/
def Key.ofRaw (raw : RawValue) : Except Failure Key :=
  match raw.key? with
  | some key => .ok key
  | none => .error (.unknownKey raw)

/-- The rule that a raw value names by its word. -/
def Rule.ofRaw (raw : RawValue) : Except Failure Rule :=
  match raw with
  | .text word =>
      match Rule.ofText? word with
      | some rule => .ok rule
      | none => .error (.unknownRule raw)
  | _ => .error (.unknownRule raw)

end RouteTemplate
