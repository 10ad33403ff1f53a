import Bazaar.Double.Layout
import Bazaar.Machine

/-!
Places on the globe, and the distance between two of them along a great circle.
-/

namespace Bazaar.Search

/-- A point on the globe, in degrees. -/
structure Place where
  latitude : Double
  longitude : Double
deriving DecidableEq, Inhabited

namespace Place

/-- The place at the two zeros. -/
def origin : Place := ⟨.zero, .zero⟩

/-- Whether both coordinates are the same numbers. -/
def equal (p q : Place) : Bool := p.latitude.equal q.latitude && p.longitude.equal q.longitude

/-- The text of a place. -/
def render (p : Place) : String :=
  "Location(latitude=" ++ Double.Layout.plain.render p.latitude ++
    ",longitude=" ++ Double.Layout.plain.render p.longitude ++ ")"

/-! ### Distance -/

/-- The mean radius of the earth, in kilometres. -/
def earthRadius : Float := 6372.8

/-- Half a turn, in radians. -/
def halfTurn : Float := 3.14159265358979323846

/-- An angle in radians. -/
def radians (d : Double) : Float := d.toFloat * (halfTurn / 180)

section Distance

variable [Trigonometry]

open Trigonometry (sin cos asin)

/-- The square of the sine of half an angle. -/
def haversine (x : Float) : Float := sin (x * 0.5) * sin (x * 0.5)

/-- The distance in kilometres along the great circle through two places, by the haversine
formula. -/
def distance (p q : Place) : Double :=
  let lat₁ := radians p.latitude
  let lat₂ := radians q.latitude
  let chord := Machine.mulAdd (haversine (radians q.longitude - radians p.longitude))
    (cos lat₁ * cos lat₂) (haversine (lat₂ - lat₁))
  .ofFloat (2 * earthRadius * asin chord.sqrt)

end Distance

end Place

end Bazaar.Search
