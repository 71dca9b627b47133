/-!
# Pages of results
-/

namespace SearchStore

/-- A page of the items that match a query. -/
structure Page (ι : Type) where
  items : List ι := []
  /-- How many documents match, on this page and on others. -/
  total : UInt64 := 0
  /-- The position of the first item, zero if it is not known. -/
  offset : UInt64 := 0
  /-- Where an open scroll goes on. -/
  cursor : Option String := none
deriving DecidableEq, Repr

namespace Page

variable {ι : Type}

/-- The page of items that are all there is. -/
def whole (items : List ι) : Page ι :=
  { items, total := UInt64.ofNat items.length }

/-- The first item. -/
def first? (page : Page ι) : Option ι := page.items.head?

/-- The number of items on the page. -/
def size (page : Page ι) : Nat := page.items.length

/-- Whether the page holds no item. -/
def isEmpty (page : Page ι) : Bool := page.items.isEmpty

end Page

end SearchStore
