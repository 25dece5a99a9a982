import RoofTrace.Sidecar.Pipeline
import Mathlib.Tactic.Linarith

/-!
# UTM zones

The four places where the sidecar names a UTM zone: `crs.utm_epsg_for` for the zone of a
point, `_utm_zone_from_lon` and `_utm_epsg_from_lon` of the fusion router, and the plane
fit's `_utm_epsg`, which reads a zone number or an EPSG code.

Coordinates are rational. The EPSG codes 326xx are the northern zones, 327xx the southern
ones.
-/

namespace Sidecar

/-- `crs.utm_epsg_for`: the EPSG code of the WGS84/UTM zone of a point. -/
def utmEpsgFor (lon lat : ℚ) : Except Exception ℤ :=
  if ¬ (-180 ≤ lon ∧ lon ≤ 180) then
    throw (.valueError s!"lon out of range: {lon}")
  else if ¬ (-90 ≤ lat ∧ lat ≤ 90) then
    throw (.valueError s!"lat out of range: {lat}")
  else
    let zone := ⌊(lon + 180) / 6⌋ + 1
    let zone := min (max zone 1) 60
    return (if lat ≥ 0 then 32600 else 32700) + zone

/-- `_utm_zone_from_lon`: the zone number of a longitude. -/
def utmZoneFromLon (lon : ℚ) : ℤ := ⌊(lon + 180) / 6⌋ + 1

/-- `_utm_epsg_from_lon`: the EPSG code of the northern zone of a longitude. -/
def utmEpsgFromLon (lon : ℚ) : ℤ := 32600 + utmZoneFromLon lon

/-- `_utm_epsg`: the EPSG code meant by a `utm_zone` field, either an EPSG code or a bare
zone number. -/
def utmEpsg (utmZone : ℤ) (northern : Bool := true) : Except Exception ℤ :=
  if (32601 ≤ utmZone ∧ utmZone ≤ 32660) ∨ (32701 ≤ utmZone ∧ utmZone ≤ 32760) then
    return utmZone
  else if 1 ≤ utmZone ∧ utmZone ≤ 60 then
    return (if northern then 32600 else 32700) + utmZone
  else
    throw (.valueError s!"utm_zone {utmZone} is neither a UTM EPSG code nor a zone 1..60")

/-! ### Zones of points -/

/-- Whether a point has WGS84 coordinates in range. -/
def InRange (lon lat : ℚ) : Prop :=
  (-180 ≤ lon ∧ lon ≤ 180) ∧ (-90 ≤ lat ∧ lat ≤ 90)

instance (lon lat : ℚ) : Decidable (InRange lon lat) := by
  unfold InRange
  infer_instance

/-- The zone of a point, held within 1 and 60. -/
def zoneOf (lon : ℚ) : ℤ := min (max (⌊(lon + 180) / 6⌋ + 1) 1) 60

theorem one_le_zoneOf (lon : ℚ) :
  1 ≤ zoneOf lon
  := by
  unfold zoneOf
  omega

theorem zoneOf_le (lon : ℚ) :
  zoneOf lon ≤ 60
  := by
  unfold zoneOf
  omega

theorem utmEpsgFor_of_inRange {lon lat : ℚ} (h : InRange lon lat) :
  utmEpsgFor lon lat = .ok ((if lat ≥ 0 then 32600 else 32700) + zoneOf lon)
  := by
  obtain ⟨hlon, hlat⟩ := h
  simp only [utmEpsgFor, hlon, hlat]
  rfl

/-- The point of which a zone is named is in range. -/
theorem inRange_of_utmEpsgFor {lon lat : ℚ} {e : ℤ} (h : utmEpsgFor lon lat = .ok e) :
  InRange lon lat
  := by
  unfold utmEpsgFor at h
  split at h
  · cases h
  · next hlon =>
    split at h
    · cases h
    · next hlat => exact ⟨not_not.mp hlon, not_not.mp hlat⟩

/-! ### Reading a zone -/

/-- Whether a number is the EPSG code of a UTM zone. -/
def IsUtmEpsg (e : ℤ) : Prop :=
  (32601 ≤ e ∧ e ≤ 32660) ∨ (32701 ≤ e ∧ e ≤ 32760)

theorem utmEpsg_of_isUtmEpsg {z : ℤ} (h : IsUtmEpsg z) :
  utmEpsg z = .ok z
  := by
  rw [IsUtmEpsg] at h
  rw [utmEpsg, if_pos h]
  rfl

theorem utmEpsg_of_zone {z : ℤ} (h : 1 ≤ z ∧ z ≤ 60) :
  utmEpsg z = .ok (32600 + z)
  := by
  rw [utmEpsg, if_neg (by omega), if_pos h]
  rfl

theorem utmEpsg_of_neither {z : ℤ} (hcode : ¬ IsUtmEpsg z) (hzone : ¬ (1 ≤ z ∧ z ≤ 60)) :
  utmEpsg z =
    .error (.valueError s!"utm_zone {z} is neither a UTM EPSG code nor a zone 1..60")
  := by
  rw [IsUtmEpsg] at hcode
  rw [utmEpsg, if_neg hcode, if_neg hzone]
  rfl

/-- A zone number obtained from an EPSG code by taking off 32600 is read as that code
exactly when the code is that of a northern zone. -/
theorem utmEpsg_sub_eq_ok_iff (e : ℤ) :
  utmEpsg (e - 32600) = .ok e ↔ 32601 ≤ e ∧ e ≤ 32660
  := by
  constructor
  · intro h
    by_cases hcode : IsUtmEpsg (e - 32600)
    · rw [utmEpsg_of_isUtmEpsg hcode] at h
      have heq : e - 32600 = e := Except.ok.inj h
      omega
    · by_cases hzone : 1 ≤ e - 32600 ∧ e - 32600 ≤ 60
      · omega
      · rw [utmEpsg_of_neither hcode hzone] at h
        cases h
  · intro h
    rw [utmEpsg_of_zone (by omega)]
    congr 1
    omega

/-- The code of a point is that of a UTM zone. -/
theorem isUtmEpsg_of_utmEpsgFor {lon lat : ℚ} {e : ℤ} (h : utmEpsgFor lon lat = .ok e) :
  IsUtmEpsg e
  := by
  rw [utmEpsgFor_of_inRange (inRange_of_utmEpsgFor h)] at h
  have hone := one_le_zoneOf lon
  have hsixty := zoneOf_le lon
  cases h
  unfold IsUtmEpsg
  split <;> omega

/-- When anything is read from what is left of the code of a zone by taking off 32600, then
the code. -/
theorem utmEpsg_sub_of_isUtmEpsg {e e' : ℤ} (he : IsUtmEpsg e)
    (h : utmEpsg (e - 32600) = .ok e') :
  utmEpsg (e - 32600) = .ok e
  := by
  rw [utmEpsg_sub_eq_ok_iff]
  by_contra hsouth
  rw [IsUtmEpsg] at he
  rw [utmEpsg_of_neither] at h
  · cases h
  · rintro (hnorth | hsouthern) <;> omega
  · omega

end Sidecar
