import Mathlib.Data.List.Basic
import Mathlib.Tactic.Common

/-!
# The router of the phone

`Navigation/AppRouter.swift`: the pages on the navigation path, the route that is stashed until the
phone is signed in, and the handoffs of jobs that the phone has created; and the links that open
the app, with `Services/TokenValidator.swift`.
-/

namespace Phone

structure CaptureHandoff where
  token : String
  jobID : Option String
deriving DecidableEq

inductive AppRoute where
  | jobDetail (id : String)
  | createJob
  | capture (handoff : CaptureHandoff)
  | report (jobID : String)
deriving DecidableEq

/-- The parts of a URL that `URLComponents` finds. -/
structure URLComponents where
  host : Option String := none
  path : String := ""
  queryItems : Option (List (String × Option String)) := none

structure URL where
  scheme : Option String
  components : Option URLComponents

/-! ### Tokens -/

namespace TokenValidator

def base58Alphabet : List Char :=
  "123456789ABCDEFGHJKLMNPQRSTUVWXYZabcdefghijkmnopqrstuvwxyz".toList

def isValid (token : String) : Bool :=
  token.toList.length = 32 && token.toList.all (· ∈ base58Alphabet)

def isHexDigit (c : Char) : Bool :=
  c.isDigit || ('a' ≤ c && c ≤ 'f') || ('A' ≤ c && c ≤ 'F')

/-- `UUID(uuidString:)` is not `nil`. -/
def isValidJobID (jobID : String) : Bool :=
  match jobID.toList.splitOn '-' with
  | [a, b, c, d, e] =>
      [a, b, c, d, e].map List.length = [8, 4, 4, 4, 12] &&
        (a ++ b ++ c ++ d ++ e).all isHexDigit
  | _ => false

def bearerHeaderValue (token : String) : String := "Bearer " ++ token

/-- `items.first { $0.name == name }?.value` -/
def value (items : List (String × Option String)) (name : String) : Option String :=
  (items.find? (·.1 = name)).bind (·.2)

def parseDeepLink (url : URL) : Option (String × Option String) :=
  if url.scheme ≠ some "rooftrace" then none
  else do
    let components ← url.components
    let items ← components.queryItems
    let token ← value items "token"
    if token = "" then none
    else some (token, value items "job_id")

end TokenValidator

/-! ### Routes -/

structure AppRouter where
  path : List AppRoute := []
  stashedRoute : Option AppRoute := none
  captureHandoffs : List (String × CaptureHandoff) := []

namespace AppRouter

/-- The capture page that a link opens. -/
def captureRoute (url : URL) : Option AppRoute := do
  let capture ← TokenValidator.parseDeepLink url
  let jobID ← capture.2
  if TokenValidator.isValid capture.1 && TokenValidator.isValidJobID jobID then
    some (.capture ⟨capture.1, some jobID⟩)
  else none

/-- The other pages that links open. -/
def pageRoute (components : URLComponents) : Option AppRoute :=
  let host := components.host.getD ""
  let pathParts := (components.path.toList.splitOn '/').map String.ofList
  let parts := (host :: pathParts).filter (· ≠ "")
  match parts with
  | ["create-job"] => some .createJob
  | ["jobs", "new"] => some .createJob
  | ["jobs", id] => some (.jobDetail id)
  | ["jobs", id, "report"] => some (.report id)
  | ["reports", id] => some (.report id)
  | ["report"] =>
      (components.queryItems.bind fun items => TokenValidator.value items "job_id").map .report
  | _ => none

/-- `route(for:)` -/
def route (url : URL) : Option AppRoute :=
  if url.scheme ≠ some "rooftrace" then none
  else (captureRoute url).or (url.components.bind pageRoute)

def push (r : AppRouter) (route : AppRoute) : AppRouter := { r with path := r.path ++ [route] }

/-- `handle(url:isAuthenticated:)` -/
def handle (r : AppRouter) (url : URL) (isAuthenticated : Bool) : AppRouter :=
  match route url with
  | none => r
  | some route => if isAuthenticated then r.push route else { r with stashedRoute := some route }

def replayStashedRouteIfAuthenticated (r : AppRouter) (isAuthenticated : Bool) : AppRouter :=
  match isAuthenticated, r.stashedRoute with
  | true, some route => { r with stashedRoute := none }.push route
  | _, _ => r

/-- `store(_:for:)` -/
def store (r : AppRouter) (handoff : CaptureHandoff) (jobID : String) : AppRouter :=
  { r with captureHandoffs := (jobID, handoff) :: r.captureHandoffs }

/-- `captureHandoff(for:)` -/
def captureHandoff (r : AppRouter) (jobID : String) : Option CaptureHandoff :=
  r.captureHandoffs.lookup jobID

theorem pageRoute_ne_capture (components : URLComponents) (handoff : CaptureHandoff) :
  pageRoute components ≠ some (.capture handoff)
  := by
  rw [pageRoute]
  split
  case h_6 =>
    intro h
    obtain ⟨jobID, -, hroute⟩ := Option.map_eq_some_iff.mp h
    cases hroute
  all_goals
    intro h
    cases h

/-- A capture page that a link opens has a token and a job. -/
theorem route_capture {url : URL} {handoff : CaptureHandoff}
    (h : route url = some (.capture handoff)) :
  TokenValidator.isValid handoff.token = true ∧
    ∃ jobID, handoff.jobID = some jobID ∧ TokenValidator.isValidJobID jobID = true
  := by
  rw [route] at h
  split at h
  · cases h
  · rcases Option.or_eq_some_iff.mp h with hcapture | ⟨-, hpage⟩
    · obtain ⟨capture, -, hrest⟩ := Option.bind_eq_some_iff.mp hcapture
      obtain ⟨jobID, -, hvalid⟩ := Option.bind_eq_some_iff.mp hrest
      split at hvalid
      · next hboth =>
        obtain ⟨htoken, hjob⟩ := Bool.and_eq_true_iff.mp hboth
        cases hvalid
        exact ⟨htoken, jobID, rfl, hjob⟩
      · cases hvalid
    · obtain ⟨components, -, hroute⟩ := Option.bind_eq_some_iff.mp hpage
      exact absurd hroute (pageRoute_ne_capture components handoff)

end AppRouter

end Phone
