import SearchStore.Config.Selection
import SearchStore.Error

/-!
# Checks of configurations

What decoding cannot check: a selection that is given must name something.
-/

namespace SearchStore

/-- A selection that is given names at least one entry. -/
def checkSelection (key : String) : Option Selection → Except Error Unit
  | some selection =>
    if selection.isEmpty then
      .error (.validation (.config key "must name at least one entry"))
    else .ok ()
  | none => .ok ()

end SearchStore
