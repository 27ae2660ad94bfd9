import RouteTemplate.Failure

/-! # Entries on the command line

An entry is written `NAME=VALUE`: the first equals sign ends the name, which is not empty. -/
namespace RouteTemplate.CommandLine

def entry (text : Text) : Except Failure (Text × Text) :=
  match Text.cutAtFirst '=' text with
  | some (c :: name, value) => .ok (c :: name, value)
  | _ => .error (.malformedAssignment text)

def writtenEntry (name value : Text) : Text := name ++ '=' :: value

theorem entry_writtenEntry {name : Text} (value : Text) (named : name ≠ []) (plain : '=' ∉ name) :
    entry (writtenEntry name value) = .ok (name, value) := by
  have cut : Text.cutAtFirst '=' (writtenEntry name value) = some (name, value) :=
    Text.cutAtFirst_eq_some_iff.mpr ⟨rfl, plain⟩
  cases name with
  | nil => exact absurd rfl named
  | cons c name => rw [entry, cut]

end RouteTemplate.CommandLine
