import SearchStore.Error
import SearchStore.Text.Blank

/-!
# Checks of arguments

What is wrong with a call itself is reported before anything is sent.
-/

namespace SearchStore

/-- An argument that is not valid. -/
def invalidArgument {α : Type} (name text : String) : Except Error α :=
  .error (.validation (.argument name text))

/-- Refuses a text without a visible character. -/
def checkText (name text : String) : Except Error Unit :=
  if Text.isBlank text then invalidArgument name "must not be blank" else .ok ()

theorem checkText_of_visible (name : String) {text : String} (h : Text.isBlank text = false) :
    checkText name text = .ok () := by
  rw [checkText, h]
  rfl

theorem checkText_of_blank (name : String) {text : String} (h : Text.isBlank text ≠ false) :
    checkText name text = invalidArgument name "must not be blank" := by
  rw [checkText, Bool.ne_false_iff.mp h]
  rfl

/-- Refuses a query that is no object. -/
def checkObject : Json → Except Error Unit
  | .object _ => .ok ()
  | _ => invalidArgument "query" "must be a JSON object"

theorem checkObject_of_ne {query : Json} (h : ¬ ∃ fields, query = .object fields) :
    checkObject query = invalidArgument "query" "must be a JSON object" := by
  cases query with
  | object fields => exact absurd ⟨fields, rfl⟩ h
  | _ => rfl

end SearchStore
