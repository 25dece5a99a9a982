import RoofTrace.Fixpoint.UnionFind
import RoofTrace.Sidecar.Shapely
import Mathlib.Combinatorics.SimpleGraph.Connectivity.Connected

/-!
# Clusters of supports

`_support_clusters` of `planefit/roof_model.py`: a union-find over the pairs of supports that are
near each other. Its classes are the connected components of the graph of these pairs.
-/

namespace Sidecar

namespace RoofModel

variable {K : Type} [LinearOrder K]

/-- The pairs of the two loops. -/
def laterPairs (n : ℕ) : List (Fin n × Fin n) :=
  (List.finRange n).flatMap fun i => ((List.finRange n).filter (i < ·)).map fun j => (i, j)

variable (shapely : Shapely K) (supports : List (PlanPolygon K)) (bufferM : K)

/-- `supports[i].distance(supports[j]) <= buffer_m` -/
def Near (i j : Fin supports.length) : Prop :=
  shapely.distance (.polygon (supports.get i)) (.polygon (supports.get j)) ≤ bufferM

instance (i j : Fin supports.length) : Decidable (Near shapely supports bufferM i j) :=
  inferInstanceAs (Decidable (_ ≤ _))

/-- `_support_clusters`, with fuel for each search of a root: `none` when it is used up. The pairs
that are joined do not depend on the forest. -/
def supportClusters (fuel : ℕ) : Option (List (List (Fin supports.length))) :=
  UnionFind.classes fuel
    ((laterPairs supports.length).filter fun pair =>
      Near shapely supports bufferM pair.1 pair.2)
    (List.finRange supports.length)

theorem mem_laterPairs {n : ℕ} {i j : Fin n} : (i, j) ∈ laterPairs n ↔ i < j := by
  simp [laterPairs]

/-- The graph that joins two supports, one before the other, that are near each other. -/
def nearGraph : SimpleGraph (Fin supports.length) :=
  SimpleGraph.fromRel fun i j => i < j ∧ Near shapely supports bufferM i j

/-- Supports that a chain of pairs connects are those of a connected component. -/
theorem eqvGen_iff_reachable (i j : Fin supports.length) :
  Relation.EqvGen (fun a b => (a, b) ∈ (laterPairs supports.length).filter fun pair =>
      Near shapely supports bufferM pair.1 pair.2) i j ↔
    (nearGraph shapely supports bufferM).Reachable i j
  := by
  have hadj : (nearGraph shapely supports bufferM).Adj =
      Relation.SymmGen (fun a b => (a, b) ∈ (laterPairs supports.length).filter fun pair =>
        Near shapely supports bufferM pair.1 pair.2) := by
    funext a b
    apply propext
    simp only [nearGraph, SimpleGraph.fromRel_adj, List.mem_filter, mem_laterPairs,
      decide_eq_true_eq]
    constructor
    · exact fun h => h.2
    · rintro (h | h)
      · exact ⟨h.1.ne, Or.inl h⟩
      · exact ⟨h.1.ne', Or.inr h⟩
  rw [SimpleGraph.reachable_iff_reflTransGen, hadj, Relation.EqvGen.reflTransGen_symmGen]

/-- The clusters are found, whatever fuel is left: they are a partition of the supports into the
connected components of the graph, each in increasing order. -/
theorem clusters_are_components (spare : ℕ) :
  ∃ clusters, supportClusters shapely supports bufferM (supports.length + spare) = some clusters ∧
    clusters.Pairwise List.Disjoint ∧ (∀ i, ∃ c ∈ clusters, i ∈ c) ∧
      ∀ c ∈ clusters, c ≠ [] ∧ c.Pairwise (· < ·) ∧
        ∀ i ∈ c, ∀ j, j ∈ c ↔ (nearGraph shapely supports bufferM).Reachable i j
  := by
  have hfuel : Fintype.card (Fin supports.length) ≤ supports.length + spare := by
    rw [Fintype.card_fin]
    exact Nat.le_add_right _ _
  obtain ⟨clusters, hclusters, hdisjoint, hclass, hcover⟩ :=
    UnionFind.exists_classes hfuel
      ((laterPairs supports.length).filter fun pair => Near shapely supports bufferM pair.1 pair.2)
      List.mem_finRange
  refine ⟨clusters, hclusters, hdisjoint, hcover, ?_⟩
  intro c hc
  obtain ⟨hne, hsublist, hmem⟩ := hclass c hc
  refine ⟨hne, (List.pairwise_lt_finRange _).sublist hsublist, ?_⟩
  intro i hi j
  rw [hmem i hi j, eqvGen_iff_reachable]

end RoofModel

end Sidecar
