import SearchStore.Text.List
import SearchStore.Text.Quoted

/-!
# Descriptions

A description shows a value in one line, `Name {field: value, ..}` with its constructor and its parts. It
is made for logs: a record may keep fields to itself, and then ends with two dots.
-/

namespace SearchStore

/-- What a description says. -/
inductive Description where
  /-- A text that stands for itself. -/
  | word (text : String)
  /-- A text in quotes. -/
  | quoted (text : String)
  | list (items : List Description)
  | map (entries : List (String × Description))
  /-- A constructor with its argument in parentheses. -/
  | applied (name : String) (argument : Description)
  /-- A constructor in front of a list or a map. -/
  | labelled (name : String) (collection : Description)
  /-- A record, with its shown fields; `abridged` says that there are more. -/
  | record (name : String) (fields : List (String × Description)) (abridged : Bool)
deriving Repr

namespace Description

/-- A truth value. -/
def bool (b : Bool) : Description := .word (if b then "true" else "false")

/-- A value that may be missing. -/
def option {α : Type} (describe : α → Description) : Option α → Description
  | some value => .applied "Some" (describe value)
  | none => .word "None"

/-- A list of texts in quotes. -/
def texts (items : List String) : Description := .list (items.map .quoted)

/-- The shown parts of a record, each behind a blank. -/
def layRecord (name : String) (parts : List String) (abridged : Bool) : String :=
  let shown := parts ++ if abridged then [".."] else []
  if shown.isEmpty then name else name ++ " \x7b " ++ Text.join ", " shown ++ " \x7d"

mutual
/-- The text of a description. -/
def render : Description → String
  | .word text => text
  | .quoted text => Text.quoted text
  | .list items => "[" ++ Text.join ", " (renderItems items) ++ "]"
  | .map entries => "\x7b" ++ Text.join ", " (renderEntries entries) ++ "\x7d"
  | .applied name argument => name ++ "(" ++ render argument ++ ")"
  | .labelled name collection => name ++ " " ++ render collection
  | .record name fields abridged => layRecord name (renderFields fields) abridged

/-- The texts of the items of a list. -/
def renderItems : List Description → List String
  | [] => []
  | item :: rest => render item :: renderItems rest

/-- The texts of the entries of a map, whose keys are quoted. -/
def renderEntries : List (String × Description) → List String
  | [] => []
  | (key, value) :: rest => (Text.quoted key ++ ": " ++ render value) :: renderEntries rest

/-- The texts of the fields of a record. -/
def renderFields : List (String × Description) → List String
  | [] => []
  | (name, value) :: rest => (name ++ ": " ++ render value) :: renderFields rest
end

end Description

end SearchStore
