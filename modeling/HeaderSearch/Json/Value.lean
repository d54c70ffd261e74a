/-
# JSON values

The values that reports are made of. A path is written as its text; a path that is not text has no
written form, and its place in a value is kept so that writing stops there and not before.
-/

import HeaderSearch.Path.Basic

namespace HeaderSearch.Json

/-- A value to be written, if it can be. The members of an object are in the order in which they are
written. -/
inductive Value where
  | bool (b : Bool)
  | num (n : Nat)
  | str (s : String)
  | unwritable
  | arr (values : List Value)
  | obj (members : List (String × Value))

def ofPath (p : Path) : Value :=
  match p.text? with
  | some s => .str s
  | none => .unwritable

def ofStrings (texts : List String) : Value := .arr (texts.map .str)

end HeaderSearch.Json
