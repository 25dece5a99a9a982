import RoofTrace.Phone.AppRouter
import Mathlib.Data.List.Perm.Basic
import Mathlib.Tactic.Common

/-!
# The entry of an address on the phone

`ViewModels/CreateJobViewModel.swift` and the tasks of `Views/CreateJobView.swift`: while an address
is typed, suggestions are looked up for what is in the field, and the address is submitted as a new
job. The methods of the view model run on one actor and suspend while a collaborator works; what
is to be done afterwards is an `Awaiting`. Each change of the address that the view sees begins a
search in a task of its own, sooner or later.

What is shown below the field is always the outcome of the search that began last, or the
suggestion that was selected since, whatever the order of the tasks and of the answers is.
-/

namespace Phone

/-! ### Collaborators -/

structure AddressSuggestion where
  id : String
  title : String
  subtitle : String
deriving DecidableEq

/-- `displayAddress` -/
def AddressSuggestion.displayAddress (s : AddressSuggestion) : String :=
  ", ".intercalate ([s.title, s.subtitle].filter (!·.isEmpty))

inductive TypeaheadState where
  | tooShort
  | searching
  | results (suggestions : List AddressSuggestion)
  | noMatches
deriving DecidableEq

inductive LocationPermission where
  | notDetermined
  | authorized
  | denied
deriving DecidableEq

structure CreateJobResponse where
  jobId : String
  captureToken : String

inductive CreateJobError where
  /-- `APIError.unauthorized` -/
  | unauthorized
  | other

/-- The texts of the phone. -/
class Characters where
  /-- `trimmingCharacters(in: .whitespacesAndNewlines)` -/
  trimmed : String → String
  /-- `count` -/
  count : String → ℕ

/-! ### The view model -/

namespace CreateJobViewModel

/-- Where a method of the view model is suspended. -/
inductive Awaiting where
  | suggestions (generation : ℕ) (trimmed : String)
  | permission
  | requestPermission
  | reverseGeocode
  | createJob (address : String)
  | handleUnauthorized

namespace Awaiting

/-- Whether a submission is at work. -/
def isSubmission : Awaiting → Bool
  | createJob _ | handleUnauthorized => true
  | _ => false

/-- Whether a search is at work. -/
def isSearching : Awaiting → Bool
  | suggestions _ _ => true
  | _ => false

/-- Whether the search of a generation is at work. -/
def isSearch (generation : ℕ) : Awaiting → Bool
  | suggestions g _ => g = generation
  | _ => false

theorem isSearching_of_isSearch {generation : ℕ} {x : Awaiting} (h : x.isSearch generation = true) :
  x.isSearching = true
  := by
  cases x with
  | suggestions _ _ => rfl
  | _ => cases h

/-- The searches at work decide how many are of a generation. -/
theorem countP_filter_isSearching (suspended : List Awaiting) (generation : ℕ) :
  (suspended.filter isSearching).countP (·.isSearch generation) =
    suspended.countP (·.isSearch generation)
  := by
  rw [List.countP_filter]
  refine List.countP_congr fun x _ => ?_
  constructor
  · exact fun h => (Bool.and_eq_true_iff.mp h).1
  · exact fun h => Bool.and_eq_true_iff.mpr ⟨h, isSearching_of_isSearch h⟩

end Awaiting

end CreateJobViewModel

structure CreateJobViewModel where
  address : String := ""
  typeaheadState : TypeaheadState := .tooShort
  errorMessage : Option String := none
  isSubmitting : Bool := false
  searchGeneration : ℕ := 0
  router : AppRouter := {}
  suspended : List CreateJobViewModel.Awaiting := []

namespace CreateJobViewModel

def minQueryLength : ℕ := 3

variable [Characters] (m : CreateJobViewModel)

def suspend (s : Awaiting) : CreateJobViewModel := { m with suspended := m.suspended ++ [s] }

/-- `searchAddress`, up to where it awaits the completer. -/
def searchAddress (query : String) : CreateJobViewModel :=
  let m := { m with
    address := query
    errorMessage := none
    searchGeneration := m.searchGeneration + 1 }
  let trimmed := Characters.trimmed query
  if Characters.count trimmed < minQueryLength then { m with typeaheadState := .tooShort }
  else
    { m with typeaheadState := .searching }.suspend (.suggestions m.searchGeneration trimmed)

/-- `searchAddress`, when the completer has answered. -/
def suggested (generation : ℕ) (result : Except Unit (List AddressSuggestion)) :
    CreateJobViewModel :=
  if generation ≠ m.searchGeneration then m
  else
    match result with
    | .ok [] => { m with typeaheadState := .noMatches }
    | .ok suggestions => { m with typeaheadState := .results suggestions }
    | .error _ => { m with typeaheadState := .noMatches }

def select (suggestion : AddressSuggestion) : CreateJobViewModel :=
  { m with
    address := suggestion.displayAddress
    typeaheadState := .results [suggestion]
    errorMessage := none }

def useCurrentLocation : CreateJobViewModel :=
  { m with errorMessage := none }.suspend .permission

/-- `useCurrentLocation`, with the permission that it is left with. -/
def resolvedPermission (permission : LocationPermission) : CreateJobViewModel :=
  if permission ≠ .authorized then
    { m with
      errorMessage :=
        some "Location permission is off. Enable it in Settings or type the address." }
  else m.suspend .reverseGeocode

def permissionRead (permission : LocationPermission) : CreateJobViewModel :=
  if permission = .notDetermined then m.suspend .requestPermission
  else m.resolvedPermission permission

def geocoded (result : Except Unit String) : CreateJobViewModel :=
  match result with
  | .ok address => { m with address := address }.searchAddress address
  | .error _ =>
      { m with
        errorMessage :=
          some "We could not turn your location into an address. Type it instead." }

def submit : CreateJobViewModel :=
  let trimmed := Characters.trimmed m.address
  if trimmed = "" ∨ m.isSubmitting then m
  else { m with isSubmitting := true, errorMessage := none }.suspend (.createJob trimmed)

/-- `submit`, when the API has answered. -/
def jobCreated (result : Except CreateJobError CreateJobResponse) : CreateJobViewModel :=
  match result with
  | .ok response =>
      let handoff := ⟨response.captureToken, some response.jobId⟩
      { m with
        router := (m.router.store handoff response.jobId).push (.jobDetail response.jobId)
        isSubmitting := false }
  | .error .unauthorized => m.suspend .handleUnauthorized
  | .error .other =>
      { m with
        errorMessage :=
          some "Could not start this measurement. Check the address and try again."
        isSubmitting := false }

/-- What a collaborator answers. -/
inductive Reply where
  | suggested (result : Except Unit (List AddressSuggestion))
  | permission (permission : LocationPermission)
  | geocoded (result : Except Unit String)
  | jobCreated (result : Except CreateJobError CreateJobResponse)
  | handled

/-- What a suspended method does when what it awaits has completed. -/
def resume (s : Awaiting) (reply : Reply) : CreateJobViewModel :=
  match s, reply with
  | .suggestions generation _, .suggested result => m.suggested generation result
  | .permission, .permission permission => m.permissionRead permission
  | .requestPermission, .permission permission => m.resolvedPermission permission
  | .reverseGeocode, .geocoded result => m.geocoded result
  | .createJob _, .jobCreated result => m.jobCreated result
  | .handleUnauthorized, .handled => { m with isSubmitting := false }
  | s, _ => m.suspend s

end CreateJobViewModel

theorem CreateJobViewModel.suggested_stale {m : CreateJobViewModel} {generation : ℕ}
    (h : generation ≠ m.searchGeneration) (result : Except Unit (List AddressSuggestion)) :
  m.suggested generation result = m
  :=
  if_pos h

theorem CreateJobViewModel.suggested_current (m : CreateJobViewModel)
    (result : Except Unit (List AddressSuggestion)) :
  m.suggested m.searchGeneration result =
    match result with
    | .ok [] => { m with typeaheadState := .noMatches }
    | .ok suggestions => { m with typeaheadState := .results suggestions }
    | .error _ => { m with typeaheadState := .noMatches }
  :=
  if_neg (not_not.mpr rfl)

/-! ### The view -/

/-- The view with its model, the address and the suggestions that it has seen, and the searches that
its tasks are to begin; and a record of the searches that have begun, the last one first, of what
they were answered, and of the last selection. -/
structure AddressEntry where
  model : CreateJobViewModel := {}
  seen : String := ""
  rendered : TypeaheadState := .tooShort
  tasks : List String := []
  begun : List String := []
  answered : List (ℕ × String × Except Unit (List AddressSuggestion)) := []
  selected : Option (ℕ × AddressSuggestion) := none

namespace AddressEntry

open CreateJobViewModel

inductive Event where
  /-- The text of the field is edited. -/
  | edit (text : String)
  /-- The view is updated, with `onChange(of: model.address)`. -/
  | update
  /-- The task at a place begins. -/
  | taskBegins (place : ℕ)
  /-- A suggestion is tapped, at its place among those in view. -/
  | select (place : ℕ)
  | useCurrentLocation
  | submit
  /-- What the suspended method at a place awaits has completed. -/
  | complete (place : ℕ) (reply : Reply)

variable [Characters] (s : AddressEntry)

/-- A search begins. -/
def search (query : String) : AddressEntry :=
  { s with model := s.model.searchAddress query, begun := query :: s.begun }

/-- A suspended method goes on. -/
def resume (awaiting : Awaiting) (reply : Reply) : AddressEntry :=
  match awaiting, reply with
  | .suggestions generation trimmed, .suggested result =>
      { s with
        model := s.model.suggested generation result
        answered := (generation, trimmed, result) :: s.answered }
  | .reverseGeocode, .geocoded (.ok address) =>
      { s with
        model := s.model.geocoded (.ok address)
        begun := address :: s.begun }
  | awaiting, reply => { s with model := s.model.resume awaiting reply }

def update : AddressEntry :=
  let s := { s with rendered := s.model.typeaheadState }
  if s.model.address = s.seen then s
  else { s with seen := s.model.address, tasks := s.tasks ++ [s.model.address] }

/-- A suggestion in view is tapped. -/
def tap (suggestion : AddressSuggestion) : AddressEntry :=
  { s with
    model := s.model.select suggestion
    selected := some (s.model.searchGeneration, suggestion) }

/-- The entry with other suspended methods. -/
def withSuspended (suspended : List Awaiting) : AddressEntry :=
  { s with model := { s.model with suspended := suspended } }

def step : Event → AddressEntry
  | .edit text => { s with model := { s.model with address := text } }
  | .update => s.update
  | .taskBegins place =>
      match s.tasks[place]? with
      | some query => { s with tasks := s.tasks.eraseIdx place }.search query
      | none => s
  | .select place =>
      match s.rendered with
      | .results suggestions => (suggestions[place]?).elim s s.tap
      | _ => s
  | .useCurrentLocation => { s with model := s.model.useCurrentLocation }
  | .submit => { s with model := s.model.submit }
  | .complete place reply =>
      match s.model.suspended[place]? with
      | some awaiting =>
          (s.withSuspended (s.model.suspended.eraseIdx place)).resume awaiting reply
      | none => s

def run (s : AddressEntry) : List Event → AddressEntry
  | [] => s
  | event :: events => (s.step event).run events

/-! ### Coherence -/

/-- What is shown is what the search that began last was answered, or what was selected since. -/
def Shows : Prop :=
  match s.model.typeaheadState with
  | .tooShort =>
      ∀ query ∈ s.begun.head?, Characters.count (Characters.trimmed query) < minQueryLength
  | .searching => True
  | .results suggestions =>
      (∃ query ∈ s.begun.head?,
        (s.model.searchGeneration, Characters.trimmed query, .ok suggestions) ∈ s.answered) ∨
        ∃ suggestion, s.selected = some (s.model.searchGeneration, suggestion) ∧
          suggestions = [suggestion]
  | .noMatches =>
      ∃ query ∈ s.begun.head?,
        (s.model.searchGeneration, Characters.trimmed query, .ok []) ∈ s.answered ∨
          ∃ e, (s.model.searchGeneration, Characters.trimmed query, .error e) ∈ s.answered

/-- What is shown belongs to the search that began last, which is awaited at most once, and is while
it is said to be searching; at most one submission is at work, and it is of an address; every page
that was pushed has the handoff of its job. -/
structure Coherent : Prop where
  generation : s.begun.length = s.model.searchGeneration
  bounded : ∀ g t, .suggestions g t ∈ s.model.suspended → g ≤ s.model.searchGeneration
  latest : ∀ t, .suggestions s.model.searchGeneration t ∈ s.model.suspended →
    ∃ query ∈ s.begun.head?, t = Characters.trimmed query
  once : s.model.suspended.countP (·.isSearch s.model.searchGeneration) ≤ 1
  awaited : s.model.typeaheadState = .searching →
    s.model.suspended.countP (·.isSearch s.model.searchGeneration) = 1
  shown : s.Shows
  submitting : s.model.suspended.countP Awaiting.isSubmission = s.model.isSubmitting.toNat
  submitted : ∀ address, .createJob address ∈ s.model.suspended → address ≠ ""
  handoffs : ∀ jobID, .jobDetail jobID ∈ s.model.router.path → ∃ handoff,
    s.model.router.captureHandoff jobID = some handoff ∧ handoff.jobID = some jobID

variable {s}

/-- What is shown stays so when another search is answered. -/
theorem Shows.cons (h : s.Shows) (x : ℕ × String × Except Unit (List AddressSuggestion)) :
  { s with answered := x :: s.answered }.Shows
  := by
  obtain ⟨model, seen, rendered, tasks, begun, answered, selected⟩ := s
  obtain ⟨address, state, errorMessage, isSubmitting, generation, router, suspended⟩ := model
  cases state with
  | tooShort => exact h
  | searching => exact h
  | results suggestions =>
      refine h.imp_left ?_
      rintro ⟨query, hquery, hanswered⟩
      exact ⟨query, hquery, List.mem_cons_of_mem _ hanswered⟩
  | noMatches =>
      obtain ⟨query, hquery, hempty | ⟨e, herror⟩⟩ := h
      · exact ⟨query, hquery, .inl (List.mem_cons_of_mem _ hempty)⟩
      · exact ⟨query, hquery, .inr ⟨e, List.mem_cons_of_mem _ herror⟩⟩

namespace Coherent

/-- The methods that are suspended may be named. -/
theorem suspended (h : s.Coherent) :
  (s.withSuspended s.model.suspended).Coherent
  := h

/-- The same searches are at work, whatever else has changed. -/
theorem exchange {old new : List Awaiting} (h : (s.withSuspended old).Coherent)
    (hsearches : (old.filter Awaiting.isSearching).Perm (new.filter Awaiting.isSearching))
    {isSubmitting : Bool} (hsubmitting : new.countP Awaiting.isSubmission = isSubmitting.toNat)
    (hsubmitted : ∀ address, .createJob address ∈ new → address ≠ "") {router : AppRouter}
    (hhandoffs : ∀ jobID, .jobDetail jobID ∈ router.path → ∃ handoff,
      router.captureHandoff jobID = some handoff ∧ handoff.jobID = some jobID)
    (address : String) (errorMessage : Option String) :
  { s with
    model := { s.model with
      address := address
      errorMessage := errorMessage
      isSubmitting := isSubmitting
      router := router
      suspended := new } }.Coherent
  := by
  have hmem : ∀ {g t}, .suggestions g t ∈ new → .suggestions g t ∈ old := by
    intro g t ht
    exact List.mem_of_mem_filter (hsearches.mem_iff.mpr (List.mem_filter.mpr ⟨ht, rfl⟩))
  have hcount : ∀ g, new.countP (·.isSearch g) = old.countP (·.isSearch g) := by
    intro g
    rw [← Awaiting.countP_filter_isSearching new, ← Awaiting.countP_filter_isSearching old]
    exact (hsearches.countP_eq _).symm
  constructor
  · exact h.generation
  · exact fun g t ht => h.bounded g t (hmem ht)
  · exact fun t ht => h.latest t (hmem ht)
  · exact Nat.le_trans (Nat.le_of_eq (hcount _)) h.once
  · exact fun hstate => (hcount _).trans (h.awaited hstate)
  · exact h.shown
  · exact hsubmitting
  · exact hsubmitted
  · exact hhandoffs

/-- The order of the suspended methods does not matter. -/
theorem perm (h : s.Coherent) {suspended : List Awaiting}
    (hperm : s.model.suspended.Perm suspended) :
  (s.withSuspended suspended).Coherent
  :=
  h.exchange (hperm.filter _) ((hperm.countP_eq _).symm.trans h.submitting)
    (fun address ha => h.submitted address (hperm.mem_iff.mpr ha)) h.handoffs _ _

/-- A method goes on or is suspended that neither searches nor submits. -/
theorem other {old new : List Awaiting} (h : (s.withSuspended old).Coherent)
    (hsearches : (old.filter Awaiting.isSearching).Perm (new.filter Awaiting.isSearching))
    (hsubmissions : (old.filter Awaiting.isSubmission).Perm (new.filter Awaiting.isSubmission))
    (address : String) (errorMessage : Option String) :
  { s with
    model := { s.model with
      address := address
      errorMessage := errorMessage
      suspended := new } }.Coherent
  := by
  refine h.exchange hsearches ?_ ?_ h.handoffs address errorMessage
  · refine Eq.trans ?_ h.submitting
    rw [List.countP_eq_length_filter, ← hsubmissions.length_eq, ← List.countP_eq_length_filter]
    rfl
  · intro a ha
    refine h.submitted a (List.mem_of_mem_filter (hsubmissions.mem_iff.mpr ?_))
    exact List.mem_filter.mpr ⟨ha, rfl⟩

/-- A search that begins keeps the entry coherent: it has a generation of its own, which no earlier
search that is still awaited has. -/
theorem search (h : s.Coherent) (query : String) :
  (s.search query).Coherent
  := by
  have hnone : s.model.suspended.countP (·.isSearch (s.model.searchGeneration + 1)) = 0 := by
    rw [List.countP_eq_zero]
    intro x hx hsearch
    cases x with
    | suggestions g t =>
        have hle := h.bounded g t hx
        have hg : g = s.model.searchGeneration + 1 := of_decide_eq_true hsearch
        omega
    | _ => cases hsearch
  by_cases hshort : Characters.count (Characters.trimmed query) < minQueryLength
  · have hmodel : s.model.searchAddress query =
        { s.model with
          address := query
          errorMessage := none
          searchGeneration := s.model.searchGeneration + 1
          typeaheadState := .tooShort } := if_pos hshort
    rw [AddressEntry.search, hmodel]
    constructor
    · exact congrArg Nat.succ h.generation
    · exact fun g t ht => Nat.le_succ_of_le (h.bounded g t ht)
    · intro t ht
      exact absurd (h.bounded _ t ht) (Nat.not_succ_le_self _)
    · exact Nat.le_trans (Nat.le_of_eq hnone) (Nat.zero_le 1)
    · exact fun hstate => TypeaheadState.noConfusion hstate
    · rintro _ ⟨⟩
      exact hshort
    · exact h.submitting
    · exact h.submitted
    · exact h.handoffs
  · have hmodel : s.model.searchAddress query =
        { s.model with
          address := query
          errorMessage := none
          searchGeneration := s.model.searchGeneration + 1
          typeaheadState := .searching
          suspended := s.model.suspended ++
            [.suggestions (s.model.searchGeneration + 1) (Characters.trimmed query)] } :=
      if_neg hshort
    have hone : (s.model.suspended ++
        [Awaiting.suggestions (s.model.searchGeneration + 1) (Characters.trimmed query)]).countP
          (Awaiting.isSearch (s.model.searchGeneration + 1)) = 1 := by
      rw [List.countP_append, hnone, List.countP_singleton]
      simp [Awaiting.isSearch]
    rw [AddressEntry.search, hmodel]
    constructor
    · exact congrArg Nat.succ h.generation
    · intro g t ht
      rcases List.mem_append.mp ht with hold | hnew
      · exact Nat.le_succ_of_le (h.bounded g t hold)
      · cases List.mem_singleton.mp hnew
        exact Nat.le_refl _
    · intro t ht
      rcases List.mem_append.mp ht with hold | hnew
      · exact absurd (h.bounded _ t hold) (Nat.not_succ_le_self _)
      · cases List.mem_singleton.mp hnew
        exact ⟨query, rfl, rfl⟩
    · exact Nat.le_of_eq hone
    · exact fun _ => hone
    · trivial
    · refine Eq.trans ?_ h.submitting
      change (s.model.suspended ++ [_]).countP _ = _
      rw [List.countP_append, List.countP_singleton]
      rfl
    · intro address ha
      rcases List.mem_append.mp ha with hold | hnew
      · exact h.submitted address hold
      · cases List.mem_singleton.mp hnew
    · exact h.handoffs

/-- An answer keeps the entry coherent, when it is shown only if its search is the one that began
last. -/
theorem answered {g : ℕ} {t : String} {rest : List Awaiting}
    (h : (s.withSuspended (.suggestions g t :: rest)).Coherent) (state : TypeaheadState)
    (answered : List (ℕ × String × Except Unit (List AddressSuggestion)))
    (hcount : state = .searching →
      rest.countP (Awaiting.isSearch s.model.searchGeneration) = 1)
    (hshown : { s with
      model := { s.model with typeaheadState := state, suspended := rest }
      answered := answered }.Shows) :
  { s with
    model := { s.model with typeaheadState := state, suspended := rest }
    answered := answered }.Coherent
  where
    generation := h.generation
    bounded := fun g t ht => h.bounded g t (List.mem_cons_of_mem _ ht)
    latest := fun t ht => h.latest t (List.mem_cons_of_mem _ ht)
    once := Nat.le_trans (List.Sublist.countP_le (List.sublist_cons_self _ _)) h.once
    awaited := hcount
    shown := hshown
    submitting := h.submitting
    submitted := fun address ha => h.submitted address (List.mem_cons_of_mem _ ha)
    handoffs := h.handoffs

/-- A search is answered: its answer is shown if no search has begun since. -/
theorem suggested {g : ℕ} {t : String} {rest : List Awaiting}
    (h : (s.withSuspended (.suggestions g t :: rest)).Coherent)
    (result : Except Unit (List AddressSuggestion)) :
  ((s.withSuspended rest).resume (.suggestions g t) (.suggested result)).Coherent
  := by
  by_cases hg : g = s.model.searchGeneration
  · subst hg
    obtain ⟨query, hquery, rfl⟩ := h.latest t List.mem_cons_self
    have hmodel := (s.withSuspended rest).model.suggested_current result
    change (s.withSuspended rest).model.suggested s.model.searchGeneration result = _ at hmodel
    rw [AddressEntry.resume, hmodel]
    cases result with
    | ok suggestions =>
        cases suggestions with
        | nil =>
            refine h.answered .noMatches _ (fun hstate => TypeaheadState.noConfusion hstate) ?_
            exact ⟨query, hquery, .inl List.mem_cons_self⟩
        | cons suggestion suggestions =>
            refine h.answered (.results _) _ (fun hstate => TypeaheadState.noConfusion hstate) ?_
            exact .inl ⟨query, hquery, List.mem_cons_self⟩
    | error e =>
        refine h.answered .noMatches _ (fun hstate => TypeaheadState.noConfusion hstate) ?_
        exact ⟨query, hquery, .inr ⟨e, List.mem_cons_self⟩⟩
  · rw [AddressEntry.resume, suggested_stale (m := (s.withSuspended rest).model) hg]
    refine h.answered s.model.typeaheadState _ ?_ (h.shown.cons _)
    intro hstate
    refine Eq.trans ?_ (h.awaited hstate)
    exact (List.countP_cons_of_neg (by simpa [Awaiting.isSearch] using hg)).symm

/-- A submission that ends keeps the entry coherent: it was the only one, and another one may begin.
-/
theorem ended {x : Awaiting} {rest : List Awaiting} (h : (s.withSuspended (x :: rest)).Coherent)
    (hx : x.isSubmission = true) {router : AppRouter}
    (hhandoffs : ∀ jobID, .jobDetail jobID ∈ router.path → ∃ handoff,
      router.captureHandoff jobID = some handoff ∧ handoff.jobID = some jobID)
    (errorMessage : Option String) :
  { s with
    model := { s.model with
      errorMessage := errorMessage
      isSubmitting := false
      router := router
      suspended := rest } }.Coherent
  := by
  have hsearches : x.isSearching = false := by
    cases x with
    | suggestions _ _ => cases hx
    | _ => rfl
  refine h.exchange ?_ ?_ ?_ hhandoffs s.model.address errorMessage
  · rw [List.filter_cons_of_neg (by simp [hsearches])]
  · have hcount := h.submitting
    change (x :: rest).countP _ = s.model.isSubmitting.toNat at hcount
    rw [List.countP_cons_of_pos hx] at hcount
    have hle := Bool.toNat_le s.model.isSubmitting
    change rest.countP _ = 0
    omega
  · exact fun address ha => h.submitted address (List.mem_cons_of_mem _ ha)

/-- The answer of the API to a submission keeps the entry coherent, with a handoff for the job that
is opened. -/
theorem jobCreated {address : String} {rest : List Awaiting}
    (h : (s.withSuspended (.createJob address :: rest)).Coherent)
    (result : Except CreateJobError CreateJobResponse) :
  ((s.withSuspended rest).resume (.createJob address) (.jobCreated result)).Coherent
  := by
  cases result with
  | ok response =>
      refine h.ended rfl ?_ s.model.errorMessage
      intro jobID hjob
      by_cases hnew : jobID = response.jobId
      · exact ⟨⟨response.captureToken, some response.jobId⟩, by
          simp [AppRouter.captureHandoff, AppRouter.store, AppRouter.push, hnew], by rw [hnew]⟩
      · have hold : .jobDetail jobID ∈ s.model.router.path := by
          rcases List.mem_append.mp hjob with hold | hlast
          · exact hold
          · exact absurd (AppRoute.jobDetail.inj (List.mem_singleton.mp hlast)) hnew
        obtain ⟨handoff, hlookup, hid⟩ := h.handoffs jobID hold
        refine ⟨handoff, Eq.trans ?_ hlookup, hid⟩
        rw [AppRouter.captureHandoff, AppRouter.captureHandoff, AppRouter.push, AppRouter.store,
          List.lookup_cons, beq_false_of_ne hnew]
        rfl
  | error e =>
      cases e with
      | unauthorized =>
          refine h.exchange ?_ ?_ ?_ h.handoffs s.model.address s.model.errorMessage
          · change (List.filter _ (_ :: rest)).Perm (List.filter _ (rest ++ [_]))
            rw [List.filter_cons_of_neg (by simp [Awaiting.isSearching]), List.filter_append]
            simp [Awaiting.isSearching]
          · refine Eq.trans ?_ h.submitting
            change (rest ++ [_]).countP _ = (_ :: rest).countP _
            rw [List.countP_append, List.countP_singleton, List.countP_cons]
            rfl
          · intro a ha
            rcases List.mem_append.mp ha with hold | hlast
            · exact h.submitted a (List.mem_cons_of_mem _ hold)
            · cases List.mem_singleton.mp hlast
      | other => exact h.ended rfl h.handoffs _

/-- A submission that begins keeps the entry coherent, as it begins only when no other is under way
and the address is not empty. -/
theorem submit (h : s.Coherent) :
  { s with model := s.model.submit }.Coherent
  := by
  by_cases hskip : Characters.trimmed s.model.address = "" ∨ s.model.isSubmitting = true
  · have hmodel : s.model.submit = s.model := if_pos hskip
    rw [hmodel]
    exact h
  · obtain ⟨haddress, hidle⟩ := not_or.mp hskip
    have hmodel : s.model.submit =
        { s.model with
          isSubmitting := true
          errorMessage := none
          suspended := s.model.suspended ++
            [.createJob (Characters.trimmed s.model.address)] } := if_neg hskip
    rw [hmodel]
    refine h.suspended.exchange ?_ ?_ ?_ h.handoffs s.model.address none
    · rw [List.filter_append]
      simp [Awaiting.isSearching]
    · have hcount := h.submitting
      rw [Bool.eq_false_iff.mpr hidle] at hcount
      rw [List.countP_append, hcount]
      rfl
    · intro address ha
      rcases List.mem_append.mp ha with hold | hlast
      · exact h.submitted address hold
      · cases List.mem_singleton.mp hlast
        exact haddress

/-- A suggestion that is tapped keeps the entry coherent: it is what is shown then, as selected since
the search that began last. -/
theorem tap (h : s.Coherent) (suggestion : AddressSuggestion) :
  (s.tap suggestion).Coherent
  where
    generation := h.generation
    bounded := h.bounded
    latest := h.latest
    once := h.once
    awaited := fun hstate => TypeaheadState.noConfusion hstate
    shown := .inr ⟨suggestion, rfl, rfl⟩
    submitting := h.submitting
    submitted := h.submitted
    handoffs := h.handoffs

/-- A method that neither searches nor submits goes on. -/
theorem passed {x : Awaiting} {rest : List Awaiting} (h : (s.withSuspended (x :: rest)).Coherent)
    (hsearches : x.isSearching = false) (hsubmissions : x.isSubmission = false)
    (address : String) (errorMessage : Option String) :
  { s with
    model := { s.model with
      address := address
      errorMessage := errorMessage
      suspended := rest } }.Coherent
  := by
  refine h.other ?_ ?_ address errorMessage
  · rw [List.filter_cons_of_neg (by simp [hsearches])]
  · rw [List.filter_cons_of_neg (by simp [hsubmissions])]

/-- A method that neither searches nor submits is suspended. -/
theorem suspend (h : s.Coherent) {x : Awaiting} (hsearches : x.isSearching = false)
    (hsubmissions : x.isSubmission = false) (errorMessage : Option String) :
  { s with
    model := { s.model with
      errorMessage := errorMessage
      suspended := s.model.suspended ++ [x] } }.Coherent
  := by
  refine h.suspended.other ?_ ?_ s.model.address errorMessage
  · rw [List.filter_append, List.filter_cons_of_neg (by simp [hsearches]), List.filter_nil,
      List.append_nil]
  · rw [List.filter_append, List.filter_cons_of_neg (by simp [hsubmissions]), List.filter_nil,
      List.append_nil]

/-- The permission is known to the method that locates the phone. -/
theorem resolvedPermission {x : Awaiting} {rest : List Awaiting}
    (h : (s.withSuspended (x :: rest)).Coherent) (hsearches : x.isSearching = false)
    (hsubmissions : x.isSubmission = false) (permission : LocationPermission) :
  { s with model := (s.withSuspended rest).model.resolvedPermission permission }.Coherent
  := by
  rw [CreateJobViewModel.resolvedPermission]
  split
  · exact h.passed hsearches hsubmissions s.model.address _
  · exact (h.passed hsearches hsubmissions _ _).suspend rfl rfl s.model.errorMessage

/-- A suspended method that goes on with a reply keeps the entry coherent. By cases on what it has
waited for. -/
theorem resume {x : Awaiting} {rest : List Awaiting} (h : (s.withSuspended (x :: rest)).Coherent)
    (reply : Reply) :
  ((s.withSuspended rest).resume x reply).Coherent
  := by
  have hkeep : (s.withSuspended (rest ++ [x])).Coherent :=
    h.perm (List.perm_append_singleton x rest).symm
  cases x with
  | suggestions g t =>
      cases reply with
      | suggested result => exact h.suggested result
      | _ => exact hkeep
  | permission =>
      cases reply with
      | permission permission =>
          change { s with
            model := (s.withSuspended rest).model.permissionRead permission }.Coherent
          rw [permissionRead]
          split
          · exact (h.passed rfl rfl _ _).suspend rfl rfl s.model.errorMessage
          · exact h.resolvedPermission rfl rfl permission
      | _ => exact hkeep
  | requestPermission =>
      cases reply with
      | permission permission => exact h.resolvedPermission rfl rfl permission
      | _ => exact hkeep
  | reverseGeocode =>
      cases reply with
      | geocoded result =>
          cases result with
          | ok address => exact (h.passed rfl rfl address s.model.errorMessage).search address
          | error _ => exact h.passed rfl rfl s.model.address _
      | _ => exact hkeep
  | createJob address =>
      cases reply with
      | jobCreated result => exact h.jobCreated result
      | _ => exact hkeep
  | handleUnauthorized =>
      cases reply with
      | handled => exact h.ended rfl h.handoffs s.model.errorMessage
      | _ => exact hkeep

/-- What the view has seen and is to do does not matter. -/
theorem viewed (h : s.Coherent) (seen : String) (rendered : TypeaheadState) (tasks : List String) :
  { s with seen := seen, rendered := rendered, tasks := tasks }.Coherent
  :=
  ⟨h.generation, h.bounded, h.latest, h.once, h.awaited, h.shown, h.submitting, h.submitted,
    h.handoffs⟩

theorem update (h : s.Coherent) :
  s.update.Coherent
  := by
  rw [AddressEntry.update]
  split
  · exact h.viewed _ _ _
  · exact h.viewed _ _ _

/-- Every event keeps the entry coherent, whether something is typed, tapped or submitted or a
suspended method goes on. -/
theorem step (h : s.Coherent) (event : Event) :
  (s.step event).Coherent
  := by
  cases event with
  | edit text => exact h.suspended.other (.refl _) (.refl _) text s.model.errorMessage
  | update => exact h.update
  | taskBegins place =>
      rw [AddressEntry.step]
      cases s.tasks[place]? with
      | none => exact h
      | some query => exact (h.viewed s.seen s.rendered _).search query
  | select place =>
      rw [AddressEntry.step]
      cases s.rendered with
      | results suggestions =>
          cases hplace : suggestions[place]? with
          | none => simpa [hplace] using h
          | some suggestion => simpa [hplace] using h.tap suggestion
      | _ => exact h
  | useCurrentLocation => exact h.suspend rfl rfl none
  | submit => exact h.submit
  | complete place reply =>
      rw [AddressEntry.step]
      cases hplace : s.model.suspended[place]? with
      | none => exact h
      | some x =>
          obtain ⟨hlt, rfl⟩ := List.getElem?_eq_some_iff.mp hplace
          exact (h.perm (List.getElem_cons_eraseIdx_perm hlt).symm).resume reply

theorem run (h : s.Coherent) (events : List Event) :
  (s.run events).Coherent
  := by
  induction events generalizing s with
  | nil => exact h
  | cons event events ih => exact ih (h.step event)

end Coherent

theorem coherent_init :
  ({} : AddressEntry).Coherent
  where
    generation := rfl
    bounded := by rintro g t ⟨⟩
    latest := by rintro t ⟨⟩
    once := Nat.zero_le 1
    awaited := fun hstate => TypeaheadState.noConfusion hstate
    shown := by rintro query ⟨⟩
    submitting := rfl
    submitted := by rintro address ⟨⟩
    handoffs := by rintro jobID ⟨⟩

/-- In every order of events, what is shown is the outcome of the search that began last or was
selected since, and the submissions are one at a time. -/
theorem coherent_run (events : List Event) :
  (({} : AddressEntry).run events).Coherent
  :=
  coherent_init.run events

example :
  letI : Characters := ⟨id, String.length⟩
  (({} : AddressEntry).run [.edit "12 Elm", .update, .taskBegins 0, .edit "12 Elm St", .update,
    .taskBegins 0, .complete 1 (.suggested (.ok [⟨"b", "12 Elm St", "Austin"⟩])),
    .complete 0 (.suggested (.ok [⟨"a", "12 Elm Ave", "Reno"⟩]))]).model.typeaheadState =
      .results [⟨"b", "12 Elm St", "Austin"⟩]
  :=
  rfl

end AddressEntry

end Phone
