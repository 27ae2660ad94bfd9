import RouteTemplate.Text

/-! # Template keys

A key names the operation that a template stands for. Each key has a word and a label, and a text
names a key when it is one of the two. -/
namespace RouteTemplate

inductive Key where
  | list
  | view
  | new
  | edit
  | delete
  deriving DecidableEq, Repr

namespace Key

def all : List Key := [list, view, new, edit, delete]

def word : Key → Text
  | list => "list".toList
  | view => "show".toList
  | new => "new".toList
  | edit => "edit".toList
  | delete => "delete".toList

def label : Key → Text
  | list => "LIST".toList
  | view => "SHOW".toList
  | new => "NEW".toList
  | edit => "EDIT".toList
  | delete => "DELETE".toList

def ofText? (text : Text) : Option Key :=
  all.find? (fun key => key.word = text || key.label = text)

theorem mem_all (key : Key) : key ∈ all := by cases key <;> decide

@[simp] theorem ofText?_word (key : Key) : ofText? key.word = some key := by cases key <;> decide

@[simp] theorem ofText?_label (key : Key) : ofText? key.label = some key := by cases key <;> decide

theorem ofText?_eq_some_iff {text : Text} {key : Key} :
    ofText? text = some key ↔ text = key.word ∨ text = key.label := by
  constructor
  · intro found
    have named := List.find?_some found
    simp only [Bool.or_eq_true, decide_eq_true_eq] at named
    exact named.imp Eq.symm Eq.symm
  · rintro (rfl | rfl)
    · exact ofText?_word key
    · exact ofText?_label key

end Key
end RouteTemplate
