import RouteTemplate.Text

/-! # Extensions of paths

The extension of a path is what follows its last point, if something stands before that point and
something after it. -/
namespace RouteTemplate

structure SplitPath where
  base : Text
  extension : Option Text
  deriving DecidableEq

namespace Path

def split (path : Text) : SplitPath :=
  match Text.cutAtLast '.' path with
  | some (c :: base, d :: extension) => ⟨c :: base, some (d :: extension)⟩
  | _ => ⟨path, none⟩

end Path
end RouteTemplate
