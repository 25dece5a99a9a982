import RoofTrace.Numbers.HalfEven
import RoofTrace.Sidecar.Topology

/-!
# Geometries of Shapely

A geometry is a polygon, several of them, or something else. The operations that compute geometries
belong to Shapely and are a parameter; a polygon's area is that of its exterior less those of its
interiors.
-/

namespace Sidecar

/-- The points of a closed ring; the last one is the first. -/
abbrev Ring (K : Type) : Type := List (K × K)

/-- A `Polygon`, the empty one without an exterior. -/
structure PlanPolygon (K : Type) where
  exterior : Ring K
  interiors : List (Ring K)
deriving DecidableEq

inductive Geometry (K : Type) where
  | polygon (p : PlanPolygon K)
  | multiPolygon (polygons : List (PlanPolygon K))
  /-- A `GeometryCollection`, of which the polygons are kept. -/
  | collection (polygons : List (PlanPolygon K))
  | other
deriving DecidableEq

variable {K : Type} [Field K] [LinearOrder K]

namespace Ring

/-- Twice the signed area that a ring encloses. -/
def doubleArea : Ring K → K
  | p :: q :: rest => p.1 * q.2 - q.1 * p.2 + doubleArea (q :: rest)
  | _ => 0

def area (ring : Ring K) : K := |ring.doubleArea| / 2

end Ring

namespace PlanPolygon

/-- `Polygon()` -/
def empty : PlanPolygon K := ⟨[], []⟩

def isEmpty (p : PlanPolygon K) : Bool := p.exterior.isEmpty

/-- The area of the interiors. -/
def holeArea (p : PlanPolygon K) : K := (p.interiors.map Ring.area).sum

def area (p : PlanPolygon K) : K := p.exterior.area - p.holeArea

end PlanPolygon

namespace Geometry

/-- The polygons of a geometry. -/
def polygons : Geometry K → List (PlanPolygon K)
  | polygon p => [p]
  | multiPolygon ps | collection ps => ps
  | other => []

def isEmpty (g : Geometry K) : Bool := g.polygons.all (·.isEmpty)

def area (g : Geometry K) : K := (g.polygons.map (·.area)).sum

end Geometry

/-- The operations of Shapely and of pyproj. -/
structure Shapely (K : Type) where
  isValid : Geometry K → Bool
  buffer : Geometry K → K → Geometry K
  /-- `Point(x, y).buffer(distance)` -/
  pointBuffer : K × K → K → Geometry K
  unaryUnion : List (Geometry K) → Geometry K
  intersection : Geometry K → Geometry K → Geometry K
  intersects : Geometry K → Geometry K → Bool
  /-- `geometry.covers(Point(x, y))` -/
  covers : Geometry K → K × K → Bool
  distance : Geometry K → Geometry K → K
  /-- `MultiPoint(points).convex_hull` -/
  pointsHull : List (K × K) → Geometry K
  convexHull : Geometry K → Geometry K
  minimumRotatedRectangle : Geometry K → Geometry K
  centroid : Geometry K → K × K
  nearestPoints : Geometry K → Geometry K → (K × K) × (K × K)
  /-- `minx, miny, maxx, maxy` -/
  bounds : Geometry K → K × K × K × K
  /-- `a.boundary.intersection(b.boundary).length` -/
  sharedLength : PlanPolygon K → PlanPolygon K → K
  /-- A point of WGS84 in the CRS of an EPSG code. -/
  toUtm : ℤ → K × K → K × K
  /-- A point in the CRS of an EPSG code in WGS84. -/
  toWgs84 : ℤ → K × K → K × K

end Sidecar
