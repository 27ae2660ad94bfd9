import RouteTemplate.Key
import RouteTemplate.Text.Quoted

/-! # Raw values

What a caller hands over where a key or the name of a rule is wanted, before it is recognised: a key
itself, a text, or a value of any other kind. Messages show a raw value by `RawValue.quoted`. -/
namespace RouteTemplate

inductive RawValue where
  | key (key : Key)
  | text (text : Text)
  | none
  | bool (value : Bool)
  | int (value : Int)
  | list (items : List RawValue)

namespace RawValue

/-- The key that the value stands for: only a key itself and a text can name one. -/
def key? : RawValue → Option Key
  | key k => some k
  | text t => Key.ofText? t
  | _ => Option.none

def quotedKey (k : Key) : Text :=
  "<TemplateKey.".toList ++ k.label ++ ": ".toList ++ Text.quoted k.word ++ ">".toList

mutual

def quoted : RawValue → Text
  | key k => quotedKey k
  | text t => Text.quoted t
  | none => "None".toList
  | bool true => "True".toList
  | bool false => "False".toList
  | int n => Text.ofInt n
  | list items => '[' :: (quotedItems items ++ [']'])

def quotedItems : List RawValue → Text
  | [] => []
  | [item] => quoted item
  | item :: items => quoted item ++ ", ".toList ++ quotedItems items

end

end RawValue

/-- A text that may be missing, as messages show it. -/
def Text.quotedOrNone : Option Text → Text
  | some text => Text.quoted text
  | none => "None".toList

end RouteTemplate
