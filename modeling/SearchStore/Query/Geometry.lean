import SearchStore.Decimal.Layout

/-!
# Geometries

The shapes a spatial criterion tests an attribute against. Radii are texts with their unit.
-/

namespace SearchStore

/-- A geographic point, in degrees. -/
structure Point where
  lat : Binary64
  lon : Binary64
deriving DecidableEq, Repr

/-- Coordinates have the fewest digits that read back, a tie going up, and neither an exponent nor a
trailing `.0`. -/
def coordinateLayout : Decimal.Layout :=
  { tie := .up, positional := fun _ => true, pointZero := false }

/-- The point as `lat,lon`. -/
def Point.render (p : Point) : String :=
  coordinateLayout.render p.lat ++ "," ++ coordinateLayout.render p.lon

/-- A shape. -/
inductive Geometry where
  | circle (center : Point) (radius : String)
  /-- The ring between two circles around a common center. -/
  | annulus (center : Point) (inner outer : String)
  | box (topLeft bottomRight : Point)
  | polygon (points : List Point)
deriving DecidableEq, Repr

end SearchStore
