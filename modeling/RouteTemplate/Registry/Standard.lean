import RouteTemplate.Registry

/-! # The standard registry

Five templates for the usual operations on a collection and its items, the most specific first. They
form a registry under the standard settings: `build_standardTemplates`. -/
namespace RouteTemplate

namespace Template

def standard : List Template :=
  [⟨.edit, "/\x7bprefix\x7d/\x7bid\x7d/edit".toList⟩,
   ⟨.delete, "/\x7bprefix\x7d/\x7bid\x7d/delete".toList⟩,
   ⟨.new, "/\x7bprefix\x7d/new".toList⟩,
   ⟨.view, "/\x7bprefix\x7d/\x7bid\x7d".toList⟩,
   ⟨.list, "/\x7bprefix\x7d".toList⟩]

/-- The standard pattern of a key. -/
def standardPattern (raw : RawValue) : Except Failure Text := do
  let key ← Key.ofRaw raw
  match standard.find? (fun template => template.key = key) with
  | some template => .ok template.pattern
  | none => .error (.unknownKey (.key key))

end Template

namespace Registry

def standard : Registry := ⟨Settings.standard, Template.standard.map Route.ofTemplate⟩

theorem build_standardTemplates : build Settings.standard Template.standard = .ok standard := by
  rfl

end Registry
end RouteTemplate
