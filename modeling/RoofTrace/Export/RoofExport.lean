import Mathlib.Algebra.Order.Ring.Rat
import RoofTrace.Json.Decoding

/-!
# The export on the phone

`ios/RoofTrace/Networking/RoofExport.swift`: the document of the export contract, as the phone
decodes it, with keys in snake case and dates in ISO 8601. A vertex of a facet is a latitude, a
longitude and perhaps an elevation.
-/

namespace Phone

open Decoding

/-- What the phone's framework makes of texts. -/
class Foundation where
  /-- `URL(string:)`, whether there is one. -/
  isURL : String → Bool
  /-- `ISO8601DateFormatter.roofTraceFractional` -/
  fractionalDate : String → Option ℚ
  /-- `ISO8601DateFormatter.roofTraceWholeSeconds` -/
  wholeSecondsDate : String → Option ℚ

namespace RoofExport

def supportedSchemaVersion : String := "1.2.0"

structure Job where
  id : String
  address : Option String
  status : String
deriving DecidableEq

structure Facet where
  facetID : String
  vertices : List (List ℚ)
  pitchRatio : Option ℚ
  pitchDegrees : Option ℚ
  areaSqFt : Option ℚ
  source : Option String
  confidence : Option ℚ
deriving DecidableEq

structure Feature where
  label : String
  bboxNorm : List ℚ
  verified : Bool
  source : Option String
  confidence : Option ℚ
deriving DecidableEq

structure Geocode where
  lat : Option ℚ
  lng : Option ℚ
  confidence : Option ℚ
deriving DecidableEq

structure OnSiteVisualization where
  photoURL : Option String
  compositeURL : Option String
  overlaySVGURL : Option String
  poseConfidence : Option ℚ
deriving DecidableEq

structure GeoJSONPolygon where
  type : Option String
  coordinates : List (List (List ℚ))
deriving DecidableEq

structure Measurement where
  generatedAt : Option ℚ
  source : Option String
  confidence : Option ℚ
  totalAreaSqFt : Option ℚ
  totalPerimeterFt : Option ℚ
  predominantPitchRatio : Option ℚ
  predominantPitchDegrees : Option ℚ
  warnings : List String
  facets : List Facet
  features : List Feature
  geocode : Option Geocode
  onSiteVisualizations : List OnSiteVisualization
  footprint : Option GeoJSONPolygon
  roofOutline : Option GeoJSONPolygon

structure Provenance where
  attributions : Option (Json ℚ)
  retrievedAt : Option (Json ℚ)
  detector : Option String
  sam2Backend : Option String
  lidarWorkUnit : Option (Json ℚ)
  pipelineSchemaVersion : Option String
  generatedAt : Option (Json ℚ)

structure Artifacts where
  pdfURL : Option String
  shareURL : Option String
  lidarPointsURL : Option String
  model3DURL : Option String
deriving DecidableEq

end RoofExport

structure RoofExport where
  schemaVersion : String
  job : RoofExport.Job
  measurement : Option RoofExport.Measurement
  provenance : Option RoofExport.Provenance
  artifacts : RoofExport.Artifacts

namespace RoofExport

/-! ### Decoders -/

/-- `LossyVertex` -/
def lossyVertex : Decoder ℚ (List ℚ) := orElse (array number) []

/-- A `JSONValue`, which may be any value. -/
def jsonValue : Decoder ℚ (Json ℚ) := fun j => .ok j

def decodeJob : Decoder ℚ Job := fun j => do
  let c ← container j
  return {
    id := ← c.decode "id" string
    address := ← c.decodeIfPresent "address" string
    status := ← c.decode "status" string }

def decodeFacet : Decoder ℚ Facet := fun j => do
  let c ← container j
  return {
    facetID := ← c.decode "facetId" string
    vertices := (← c.decodeIfPresent "vertices" (array lossyVertex)).getD []
    pitchRatio := ← c.decodeIfPresent "pitchRatio" number
    pitchDegrees := ← c.decodeIfPresent "pitchDegrees" number
    areaSqFt := ← c.decodeIfPresent "areaSqFt" number
    source := ← c.decodeIfPresent "source" string
    confidence := ← c.decodeIfPresent "confidence" number }

def decodeFeature : Decoder ℚ Feature := fun j => do
  let c ← container j
  return {
    label := ← c.decode "label" string
    bboxNorm := ← c.decode "bboxNorm" (array number)
    verified := ← c.decode "verified" bool
    source := ← c.decodeIfPresent "source" string
    confidence := ← c.decodeIfPresent "confidence" number }

def decodeGeocode : Decoder ℚ Geocode := fun j => do
  let c ← container j
  return {
    lat := ← c.decodeIfPresent "lat" number
    lng := ← c.decodeIfPresent "lng" number
    confidence := ← c.decodeIfPresent "confidence" number }

def decodeGeoJSONPolygon : Decoder ℚ GeoJSONPolygon := fun j => do
  let c ← container j
  return {
    type := ← c.decodeIfPresent "type" string
    coordinates := ← c.decode "coordinates" (array (array (array number))) }

def decodeProvenance : Decoder ℚ Provenance := fun j => do
  let c ← container j
  return {
    attributions := ← c.decodeIfPresent "attributions" jsonValue
    retrievedAt := ← c.decodeIfPresent "retrievedAt" jsonValue
    detector := ← c.decodeIfPresent "detector" string
    sam2Backend := ← c.decodeIfPresent "sam2Backend" string
    lidarWorkUnit := ← c.decodeIfPresent "lidarWorkUnit" jsonValue
    pipelineSchemaVersion := ← c.decodeIfPresent "pipelineSchemaVersion" string
    generatedAt := ← c.decodeIfPresent "generatedAt" jsonValue }

variable [Foundation]

def url : Decoder ℚ String := fun j => do
  let s ← string j
  if Foundation.isURL s then return s else throw (.dataCorrupted "Invalid URL string.")

/-- The date of a text, by the strategy of `roofTraceAPI`. -/
def date : Decoder ℚ ℚ := fun j => do
  let value ← string j
  match Foundation.fractionalDate value with
  | some time => return time
  | none =>
      match Foundation.wholeSecondsDate value with
      | some time => return time
      | none => throw (.dataCorrupted "Expected ISO8601 date string")

def decodeOnSiteVisualization : Decoder ℚ OnSiteVisualization := fun j => do
  let c ← container j
  return {
    photoURL := ← c.decodeIfPresent "photoUrl" url
    compositeURL := ← c.decodeIfPresent "compositeUrl" url
    overlaySVGURL := ← c.decodeIfPresent "overlaySvgUrl" url
    poseConfidence := ← c.decodeIfPresent "poseConfidence" number }

def decodeMeasurement : Decoder ℚ Measurement := fun j => do
  let c ← container j
  return {
    generatedAt := ← c.decodeIfPresent "generatedAt" date
    source := ← c.decodeIfPresent "source" string
    confidence := ← c.decodeIfPresent "confidence" number
    totalAreaSqFt := ← c.decodeIfPresent "totalAreaSqFt" number
    totalPerimeterFt := ← c.decodeIfPresent "totalPerimeterFt" number
    predominantPitchRatio := ← c.decodeIfPresent "predominantPitchRatio" number
    predominantPitchDegrees := ← c.decodeIfPresent "predominantPitchDegrees" number
    warnings := (← c.decodeIfPresent "warnings" (array string)).getD []
    facets := (← c.decodeIfPresent "facets" (array decodeFacet)).getD []
    features := (← c.decodeIfPresent "features" (array decodeFeature)).getD []
    geocode := ← c.decodeIfPresent "geocode" decodeGeocode
    onSiteVisualizations :=
      (← c.decodeIfPresent "onSiteVisualizations" (array decodeOnSiteVisualization)).getD []
    footprint := ← c.decodeIfPresent "footprint" decodeGeoJSONPolygon
    roofOutline := ← c.decodeIfPresent "roofOutline" decodeGeoJSONPolygon }

def decodeArtifacts : Decoder ℚ Artifacts := fun j => do
  let c ← container j
  return {
    pdfURL := ← c.decodeIfPresent "pdfUrl" url
    shareURL := ← c.decodeIfPresent "shareUrl" url
    lidarPointsURL := ← c.decodeIfPresent "lidarPointsUrl" url
    model3DURL := ← c.decodeIfPresent "model3DUrl" url }

/-- `RoofExport.init(from:)` -/
def decode : Decoder ℚ RoofExport := fun j => do
  let c ← container j
  let schemaVersion ← c.decode "schemaVersion" string
  if schemaVersion ≠ supportedSchemaVersion then
    throw (.dataCorrupted "Unsupported report schema version")
  return {
    schemaVersion
    job := ← c.decode "job" decodeJob
    measurement := ← c.decodeIfPresent "measurement" decodeMeasurement
    provenance := ← c.decodeIfPresent "provenance" decodeProvenance
    artifacts := ← c.decode "artifacts" decodeArtifacts }

end RoofExport

end Phone
