import Mathlib.Data.List.Basic
import Mathlib.Tactic.Common

/-!
# Paths

A path is a text whose names stand between slashes. Cleaning an absolute path drops the empty names
and the single dots, and lets two dots cancel the name before them, from the last name to the
first. A path whose names are proper is its own clean path.
-/

namespace Paths

abbrev Name : Type := List Char

/-- `..` -/
def up : Name := ['.', '.']

/-- A name that stands for itself in a path. -/
def Proper (name : Name) : Prop := name ≠ [] ∧ name ≠ ['.'] ∧ name ≠ up

instance (name : Name) : Decidable (Proper name) := inferInstanceAs (Decidable (_ ∧ _))

/-- The text of names between slashes. -/
def join (names : List Name) : List Char := ['/'].intercalate names

/-- The names of a text, the empty ones among them. -/
def split (s : List Char) : List Name := s.splitOn '/'

/-- The text of an absolute path. -/
def absolute (names : List Name) : List Char := '/' :: join names

/-! ### Cleaning -/

/-- A name before names that have been cleaned: two dots after it cancel it. -/
def prependClean (name : Name) (names : List Name) : List Name :=
  if name = [] ∨ name = ['.'] then names
  else if name = up then up :: names
  else
    match names with
    | [] => [name]
    | next :: rest => if next = up then rest else name :: next :: rest

/-- The names of an absolute path, cleaned; the root has nothing above it. -/
def clean (s : List Char) : List Name := ((split s).foldr prependClean []).dropWhile (· = up)

/-- Names that have been cleaned: some names up, and then proper names. -/
def Cleaned (names : List Name) : Prop :=
  ∃ k good, names = List.replicate k up ++ good ∧ ∀ name ∈ good, Proper name

theorem cleaned_prependClean {names : List Name} (h : Cleaned names) (name : Name) :
  Cleaned (prependClean name names)
  := by
  obtain ⟨k, good, rfl, hgood⟩ := h
  unfold prependClean
  split_ifs with hskip hup
  · exact ⟨k, good, rfl, hgood⟩
  · exact ⟨k + 1, good, rfl, hgood⟩
  · have hproper : Proper name := ⟨fun h => hskip (Or.inl h), fun h => hskip (Or.inr h), hup⟩
    cases k with
    | succ k => exact ⟨k, good, if_pos rfl, hgood⟩
    | zero =>
        cases good with
        | nil => exact ⟨0, [name], rfl, by simpa using hproper⟩
        | cons next rest =>
            have hnext := hgood next List.mem_cons_self
            refine ⟨0, name :: next :: rest, if_neg hnext.2.2, ?_⟩
            intro other hother
            rcases List.mem_cons.mp hother with rfl | hrest
            · exact hproper
            · exact hgood other hrest

theorem cleaned_foldr (pieces : List Name) : Cleaned (pieces.foldr prependClean []) := by
  induction pieces with
  | nil => exact ⟨0, [], rfl, by simp⟩
  | cons piece pieces ih => exact cleaned_prependClean ih piece

/-- The names of a clean path are proper. -/
theorem proper_of_mem_clean {s : List Char} :
  ∀ name ∈ clean s, Proper name
  := by
  obtain ⟨k, good, heq, hgood⟩ := cleaned_foldr (split s)
  have hdrop : ∀ k, (List.replicate k up ++ good).dropWhile (· = up) = good.dropWhile (· = up) := by
    intro k
    induction k with
    | zero => rfl
    | succ k ih => exact ih
  intro name hname
  rw [clean, heq, hdrop] at hname
  exact hgood name (List.dropWhile_subset _ hname)

/-- Proper names are cleaned already. -/
theorem foldr_prependClean_of_proper {pieces : List Name} (h : ∀ name ∈ pieces, Proper name) :
  pieces.foldr prependClean [] = pieces
  := by
  induction pieces with
  | nil => rfl
  | cons piece pieces ih =>
      have hpiece := h piece List.mem_cons_self
      rw [List.foldr_cons, ih fun name hname => h name (List.mem_cons_of_mem _ hname)]
      unfold prependClean
      rw [if_neg (fun hskip => hskip.elim hpiece.1 hpiece.2.1), if_neg hpiece.2.2]
      cases pieces with
      | nil => rfl
      | cons next rest =>
          exact if_neg (h next (List.mem_cons_of_mem _ List.mem_cons_self)).2.2

/-! ### Splitting -/

theorem split_ne_nil (s : List Char) : split s ≠ [] := List.splitOn_ne_nil '/' s

theorem join_split (s : List Char) : join (split s) = s := List.intercalate_splitOn '/'

theorem split_cons (s : List Char) : split ('/' :: s) = [] :: split s := by
  have h := List.splitOn_append_cons_self (a := '/') [] s
  rwa [List.splitOn_nil] at h

/-- The names before and after a slash. -/
theorem split_append_cons (s t : List Char) : split (s ++ '/' :: t) = split s ++ split t :=
  List.splitOn_append_cons_self s t

/-- The names of a text that is made of names without slashes. -/
theorem split_join {names : List Name} (hne : names ≠ []) (h : ∀ name ∈ names, '/' ∉ name) :
  split (join names) = names
  := List.splitOn_intercalate '/' h hne

/-- The names of a text have no slashes. -/
theorem not_mem_of_mem_split {s : List Char} :
  ∀ name ∈ split s, '/' ∉ name
  := by
  induction s with
  | nil =>
      intro name hname
      obtain rfl := List.mem_singleton.mp hname
      exact List.not_mem_nil
  | cons c s ih =>
      intro name hname
      unfold split at hname ih
      rw [List.splitOn_cons_eq_if_modifyHead] at hname
      split_ifs at hname with hc
      · rcases List.mem_cons.mp hname with rfl | hrest
        · exact List.not_mem_nil
        · exact ih name hrest
      · cases hsplit : s.splitOn '/' with
        | nil => exact absurd hsplit (List.splitOn_ne_nil '/' s)
        | cons first rest =>
            rw [hsplit] at hname ih
            rcases List.mem_cons.mp hname with rfl | hrest
            · rw [List.mem_cons, not_or]
              exact ⟨fun heq => hc (heq ▸ beq_self_eq_true _), ih first List.mem_cons_self⟩
            · exact ih name (List.mem_cons_of_mem _ hrest)

theorem mem_prependClean {name other : Name} {names : List Name}
    (h : other ∈ prependClean name names) :
  other = name ∨ other ∈ names
  := by
  unfold prependClean at h
  split_ifs at h with hskip hup
  · exact Or.inr h
  · rw [hup]
    exact List.mem_cons.mp h
  · cases names with
    | nil => exact Or.inl (List.mem_singleton.mp h)
    | cons next rest =>
        dsimp only at h
        split_ifs at h
        · exact Or.inr (List.mem_cons_of_mem _ h)
        · exact List.mem_cons.mp h

/-- The names of a clean path are names of the path. -/
theorem mem_split_of_mem_clean {s : List Char} {name : Name} (h : name ∈ clean s) :
  name ∈ split s
  := by
  have hfold : ∀ pieces : List Name, name ∈ pieces.foldr prependClean [] → name ∈ pieces := by
    intro pieces
    induction pieces with
    | nil => exact id
    | cons piece pieces ih =>
        intro hname
        rcases mem_prependClean hname with rfl | hrest
        · exact List.mem_cons_self
        · exact List.mem_cons_of_mem _ (ih hrest)
  exact hfold _ (List.dropWhile_subset _ h)

/-! ### Directories -/

/-- A text below a directory. -/
def below (directory : List Name) (s : List Char) : List Char :=
  if directory = [] then '/' :: s else absolute directory ++ '/' :: s

/-- The names of an absolute path are those after the first slash. -/
theorem foldr_split_absolute (s : List Char) :
  (split ('/' :: s)).foldr prependClean [] = (split s).foldr prependClean []
  := by
  rw [split_cons, List.foldr_cons]
  exact if_pos (Or.inl rfl)

/-- The clean path of a text below a directory, when the names of both are proper. -/
theorem clean_below {directory : List Name}
    (hdirectory : ∀ name ∈ directory, Proper name ∧ '/' ∉ name) {s : List Char}
    (hs : ∀ name ∈ split s, Proper name) :
  clean (below directory s) = directory ++ split s
  := by
  have hproper : ∀ name ∈ directory ++ split s, Proper name := by
    intro name hname
    rcases List.mem_append.mp hname with hname | hname
    · exact (hdirectory name hname).1
    · exact hs name hname
  have hfold : (split (below directory s)).foldr prependClean [] = directory ++ split s := by
    unfold below
    split_ifs with hroot
    · rw [foldr_split_absolute, hroot, List.nil_append, foldr_prependClean_of_proper hs]
    · rw [absolute, List.cons_append, foldr_split_absolute, split_append_cons,
        split_join hroot fun name hname => (hdirectory name hname).2,
        foldr_prependClean_of_proper hproper]
  rw [clean, hfold]
  cases hnames : directory ++ split s with
  | nil => exact absurd (List.append_eq_nil_iff.mp hnames).2 (split_ne_nil s)
  | cons name rest =>
      have hup : ¬ name = up := (hproper name (hnames ▸ List.mem_cons_self)).2.2
      rw [List.dropWhile_cons_of_neg]
      simpa using hup

end Paths
