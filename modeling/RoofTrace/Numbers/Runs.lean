import Mathlib.Data.List.Basic
import Mathlib.Tactic.Common

/-!
# Runs of a row

The maximal runs of `true` in a row of booleans, as half-open intervals of positions: they are
nonempty, apart from each other and in order, and together they are the positions of `true`.
-/

namespace Runs

/-- The runs of a row that begins at position `k`, when a run that has begun before is at `start`. -/
def runsFrom : ℕ → Option ℕ → List Bool → List (ℕ × ℕ)
  | _, none, [] => []
  | k, some s, [] => [(s, k)]
  | k, none, true :: row => runsFrom (k + 1) (some k) row
  | k, some s, true :: row => runsFrom (k + 1) (some s) row
  | k, none, false :: row => runsFrom (k + 1) none row
  | k, some s, false :: row => (s, k) :: runsFrom (k + 1) none row

/-- The runs of a row. -/
def runs (row : List Bool) : List (ℕ × ℕ) := runsFrom 0 none row

/-- Whether a position is in a run. -/
def Within (run : ℕ × ℕ) (i : ℕ) : Prop := run.1 ≤ i ∧ i < run.2

/-- Every run is nonempty and begins at a position from `k` on, or where one has begun before. -/
theorem runsFrom_bounds {k : ℕ} {start : Option ℕ} {row : List Bool} (hstart : ∀ s ∈ start, s < k) :
  ∀ run ∈ runsFrom k start row, run.1 < run.2 ∧ (k ≤ run.1 ∨ some run.1 = start)
  := by
  induction k, start, row using runsFrom.induct with
  | case1 k => simp [runsFrom]
  | case2 k s =>
      have hs := hstart s rfl
      simp [runsFrom, hs]
  | case3 k row ih =>
      intro run hrun
      obtain ⟨hlt, hbegin⟩ := ih (by simp) run hrun
      refine ⟨hlt, Or.inl ?_⟩
      rcases hbegin with hle | hsome
      · omega
      · exact Nat.le_of_eq (Option.some.inj hsome).symm
  | case4 k s row ih =>
      intro run hrun
      have hs := hstart s rfl
      obtain ⟨hlt, hbegin⟩ := ih (by simpa using Nat.lt_succ_of_lt hs) run hrun
      refine ⟨hlt, ?_⟩
      rcases hbegin with hle | hsome
      · exact Or.inl (by omega)
      · exact Or.inr hsome
  | case5 k row ih =>
      intro run hrun
      obtain ⟨hlt, hbegin⟩ := ih (by simp) run hrun
      refine ⟨hlt, Or.inl ?_⟩
      rcases hbegin with hle | hsome
      · omega
      · cases hsome
  | case6 k s row ih =>
      intro run hrun
      rcases List.mem_cons.mp hrun with rfl | hrest
      · exact ⟨hstart s rfl, Or.inr rfl⟩
      · obtain ⟨hlt, hbegin⟩ := ih (by simp) run hrest
        refine ⟨hlt, Or.inl ?_⟩
        rcases hbegin with hle | hsome
        · omega
        · cases hsome

/-- The runs are in order, with a gap between one and the next. -/
theorem pairwise_runsFrom {k : ℕ} {start : Option ℕ} {row : List Bool} :
  (runsFrom k start row).Pairwise fun run next => run.2 < next.1
  := by
  induction k, start, row using runsFrom.induct with
  | case1 k => exact List.Pairwise.nil
  | case2 k s => exact List.pairwise_singleton _ _
  | case3 k row ih => exact ih
  | case4 k s row ih => exact ih
  | case5 k row ih => exact ih
  | case6 k s row ih =>
      apply List.Pairwise.cons _ ih
      intro next hnext
      obtain ⟨-, hbegin⟩ := runsFrom_bounds (by simp) next hnext
      rcases hbegin with hle | hsome
      · exact hle
      · cases hsome

/-- The positions of `true` in a row that has one more element in front. -/
theorem exists_true_cons_iff {b : Bool} {row : List Bool} {k i : ℕ} :
  (∃ j, (b :: row)[j]? = some true ∧ i = k + j) ↔
    (b = true ∧ i = k) ∨ ∃ j, row[j]? = some true ∧ i = k + 1 + j
  := by
  constructor
  · rintro ⟨j, hj, rfl⟩
    cases j with
    | zero => exact Or.inl ⟨Option.some.inj hj, rfl⟩
    | succ j => exact Or.inr ⟨j, hj, by omega⟩
  · rintro (⟨rfl, rfl⟩ | ⟨j, hj, rfl⟩)
    · exact ⟨0, rfl, rfl⟩
    · exact ⟨j + 1, hj, by omega⟩

/-- The positions of the runs are those of `true`, and those of the run that has begun before. -/
theorem exists_within_runsFrom_iff {k : ℕ} {start : Option ℕ} {row : List Bool}
    (hstart : ∀ s ∈ start, s < k) (i : ℕ) :
  (∃ run ∈ runsFrom k start row, Within run i) ↔
    (∃ s ∈ start, s ≤ i ∧ i < k) ∨ ∃ j, row[j]? = some true ∧ i = k + j
  := by
  induction k, start, row using runsFrom.induct with
  | case1 k => simp [runsFrom]
  | case2 k s => simp [runsFrom, Within]
  | case3 k row ih =>
      rw [runsFrom, ih (by simp), exists_true_cons_iff]
      simp only [Option.mem_def, Option.some.injEq, exists_eq_left', reduceCtorEq, false_and,
        exists_const, false_or, true_and]
      have hrange : k ≤ i ∧ i < k + 1 ↔ i = k := by omega
      rw [hrange]
  | case4 k s row ih =>
      have hs := hstart s rfl
      rw [runsFrom, ih (by simpa using Nat.lt_succ_of_lt hs), exists_true_cons_iff]
      simp only [Option.mem_some_iff, exists_eq_left', true_and]
      have hrange : s ≤ i ∧ i < k + 1 ↔ (s ≤ i ∧ i < k) ∨ i = k := by omega
      rw [hrange, or_assoc]
  | case5 k row ih =>
      rw [runsFrom, ih (by simp), exists_true_cons_iff]
      simp
  | case6 k s row ih =>
      have hrest := ih (by simp)
      rw [runsFrom, exists_true_cons_iff]
      simp only [List.mem_cons, exists_eq_or_imp, hrest]
      simp [Within]

/-! ### Rows -/

theorem lt_of_mem_runs {row : List Bool} {run : ℕ × ℕ} (h : run ∈ runs row) :
  run.1 < run.2
  := (runsFrom_bounds (by simp) run h).1

theorem pairwise_runs (row : List Bool) :
  (runs row).Pairwise fun run next => run.2 < next.1
  := pairwise_runsFrom

/-- A position is in a run exactly when the row is `true` there. -/
theorem exists_within_runs_iff (row : List Bool) (i : ℕ) :
  (∃ run ∈ runs row, Within run i) ↔ row[i]? = some true
  := by
  rw [runs, exists_within_runsFrom_iff (by simp)]
  simp

end Runs
