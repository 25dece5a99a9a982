import RoofTrace.Phone.AppRouter
import RoofTrace.Rails.CaptureBundle

/-!
# Signing in on the phone

`Auth/AuthStore.swift` with the token in the keychain, the requests of `Networking/APIClient.swift`,
the links that open the app, and the tokens of the server (`app/models/app_token.rb`,
`app/controllers/api/v1/base_controller.rb`). The main actor, the keychain and the server work at
the same time; what one of them awaits of another is a task.

A link that opens the app is followed in its turn unless another one replaces it before the phone
is signed in. The phone is signed out only when the server has rejected what it sent, or when there
is no token at its launch.
-/

namespace Rails

/-! ### The tokens of the server -/

structure AppToken where
  token : String
  /-- In microseconds. -/
  expiresAt : ℕ
deriving DecidableEq

namespace AppToken

/-- 30 days. -/
def TTL : ℕ := 30 * 24 * 60 * 60 * 1000000

def expired (appToken : AppToken) (current : ℕ) : Bool := appToken.expiresAt ≤ current

def authenticate (appTokens : List AppToken) (current : ℕ) (rawToken : Option String) :
    Option AppToken :=
  if CaptureBundle.blankColumn rawToken then none
  else
    match appTokens.find? fun appToken => some appToken.token = rawToken with
    | none => none
    | some appToken => if appToken.expired current then none else some appToken

end AppToken

/-- `bearer_token`, of the `Authorization` header. -/
def bearerToken (authorization : Option String) : Option String :=
  let header := (authorization.getD "").toList
  if "Bearer ".toList.isPrefixOf header then
    let token := String.ofList (header.drop "Bearer ".toList.length)
    if CaptureBundle.blankColumn (some token) then none else some token
  else none

end Rails

namespace Phone

open Rails (AppToken)

/-- What `has_secure_token` makes up. -/
def SecureToken : Type := { token : String // TokenValidator.isValid token = true }

inductive AuthStatus where
  | unauthenticated
  | authenticated
deriving DecidableEq

/-- Who requests. -/
inductive Caller where
  | jobList
  | statusPoll
  | createJob
  | report

/-- Whether `APIError.unauthorized` is handled by the `AuthStore`. -/
def Caller.handlesUnauthorized : Caller → Bool
  | .report => false
  | _ => true

/-- What is awaited. -/
inductive Task where
  /-- `bootstrap` awaits the token in the keychain. -/
  | bootstrap
  | bootstrapped (loaded : Except Unit (Option String))
  /-- `signIn` awaits the server. -/
  | signIn (username password : String)
  /-- `signIn` awaits the keychain. -/
  | store (token : String)
  | stored
  /-- `handleUnauthorized` awaits the keychain. -/
  | clear
  /-- A request awaits the token in the keychain. -/
  | load (caller : Caller)
  /-- A request is on the way with a header. -/
  | send (caller : Caller) (authorization : Option String)
  /-- A request that the server has answered, at a time. -/
  | answered (caller : Caller) (authorization : Option String) (time : ℕ) (authorized : Bool)

/-- The server, with its time and its tokens; the phone; and a record of the links that have been
opened, each with whether the phone was signed in, and of those that have been followed. -/
structure SignIn where
  current : ℕ := 0
  appTokens : List AppToken := []
  status : AuthStatus := .unauthenticated
  isBootstrapping : Bool := false
  keychain : Option String := none
  router : AppRouter := {}
  tasks : List Task := []
  opened : List (AppRoute × Bool) := []
  followed : List AppRoute := []

namespace SignIn

/-- How what is awaited ends. -/
inductive Outcome where
  | succeeds
  | fails
  /-- The server creates a token. -/
  | creates (token : SecureToken)

inductive Event where
  /-- Time elapses. -/
  | elapse (time : ℕ)
  /-- The app is launched: its task runs. -/
  | launch
  | openURL (url : URL)
  /-- The sign-in form is submitted. -/
  | signIn (username password : String)
  | request (caller : Caller)
  /-- The pages of the navigation path are set otherwise. -/
  | navigate (path : List AppRoute)
  /-- What is awaited at a place ends. -/
  | advance (place : ℕ) (outcome : Outcome)

/-- `DemoCredential.valid?` -/
class DemoCredential where
  valid : String → String → Bool

variable (s : SignIn)

def isAuthenticated : Bool := s.status = .authenticated

def await (task : Task) : SignIn := { s with tasks := s.tasks ++ [task] }

/-- The router has followed a link, or not. -/
def routed (router : AppRouter) : SignIn :=
  { s with
    router := router
    followed := s.followed ++ router.path.drop s.router.path.length }

/-- `onOpenURL` -/
def openURL (url : URL) : SignIn :=
  let opened := (AppRouter.route url).toList.map fun route => (route, s.isAuthenticated)
  { s with opened := s.opened ++ opened }.routed (s.router.handle url s.isAuthenticated)

/-- `replayStashedRouteIfAuthenticated` -/
def replay : SignIn := s.routed (s.router.replayStashedRouteIfAuthenticated s.isAuthenticated)

def launch : SignIn :=
  if s.isBootstrapping then s.replay
  else { s with isBootstrapping := true }.await .bootstrap

/-- `bootstrap`, when the keychain has answered, and what the task of the app does then. -/
def bootstrapped (loaded : Except Unit (Option String)) : SignIn :=
  let status :=
    match loaded with
    | .ok none => AuthStatus.unauthenticated
    | .ok (some _) => .authenticated
    | .error _ => .unauthenticated
  { s with status := status, isBootstrapping := false }.replay

def handleUnauthorized : SignIn :=
  if s.isAuthenticated then { s with status := .unauthenticated }.await .clear else s

/-- `POST /api/v1/sessions` -/
def createSession [DemoCredential] (username password : String) (token : SecureToken) : SignIn :=
  if !DemoCredential.valid username password then s
  else if s.appTokens.any fun appToken => appToken.token = token.1 then s
  else
    let appToken : AppToken := ⟨token.1, s.current + AppToken.TTL⟩
    { s with appTokens := s.appTokens ++ [appToken] }.await (.store token.1)

/-- What is awaited ends, and what awaits it goes on. -/
def advance [DemoCredential] (task : Task) (outcome : Outcome) : SignIn :=
  match task, outcome with
  | .bootstrap, .fails => s.await (.bootstrapped (.error ()))
  | .bootstrap, _ => s.await (.bootstrapped (.ok s.keychain))
  | .bootstrapped loaded, _ => s.bootstrapped loaded
  | .signIn username password, .creates token => s.createSession username password token
  | .store token, .succeeds => { s with keychain := some token }.await .stored
  | .stored, _ => { s with status := .authenticated }.replay
  | .clear, .succeeds => { s with keychain := none }
  | .load caller, .succeeds =>
      s.await (.send caller (s.keychain.map TokenValidator.bearerHeaderValue))
  | .send caller authorization, .succeeds =>
      s.await (.answered caller authorization s.current
        (AppToken.authenticate s.appTokens s.current (Rails.bearerToken authorization)).isSome)
  | .answered caller _ _ authorized, _ =>
      if !authorized && caller.handlesUnauthorized then s.handleUnauthorized else s
  | _, _ => s

def step [DemoCredential] : Event → SignIn
  | .elapse time => { s with current := s.current + time }
  | .launch => s.launch
  | .openURL url => s.openURL url
  | .signIn username password =>
      if s.isAuthenticated then s else s.await (.signIn username password)
  | .request caller => s.await (.load caller)
  | .navigate path => { s with router := { s.router with path := path } }
  | .advance place outcome =>
      match s.tasks[place]? with
      | some task => { s with tasks := s.tasks.eraseIdx place }.advance task outcome
      | none => s

def run [DemoCredential] (s : SignIn) : List Event → SignIn
  | [] => s
  | event :: events => (s.step event).run events

/-! ### Links -/

variable {s}

/-- The links are followed in their order, those that were opened while the phone was signed in all
of them, and the last one at the latest when it is signed in. -/
structure Linked (s : SignIn) : Prop where
  signedOut : s.router.stashedRoute.isSome → s.status = .unauthenticated
  order : (s.followed ++ s.router.stashedRoute.toList).Sublist (s.opened.map Prod.fst)
  signedIn : ((s.opened.filter Prod.snd).map Prod.fst).Sublist s.followed
  last : (s.followed ++ s.router.stashedRoute.toList).getLast? = (s.opened.map Prod.fst).getLast?
  captures : ∀ handoff, .capture handoff ∈ s.opened.map Prod.fst →
    TokenValidator.isValid handoff.token = true ∧
      ∃ jobID, handoff.jobID = some jobID ∧ TokenValidator.isValidJobID jobID = true

namespace Linked

/-- A step that keeps the links and does not sign the phone in. -/
theorem keep {s' : SignIn} (h : s.Linked) (hopened : s'.opened = s.opened)
    (hfollowed : s'.followed = s.followed)
    (hstashed : s'.router.stashedRoute = s.router.stashedRoute)
    (hstatus : s'.status = s.status ∨ s'.status = .unauthenticated) :
  s'.Linked
  := by
  obtain ⟨hsignedOut, horder, hsignedIn, hlast, hcaptures⟩ := h
  constructor
  · rw [hstashed]
    intro hsome
    rcases hstatus with hstatus | hstatus
    · exact hstatus.trans (hsignedOut hsome)
    · exact hstatus
  · rw [hfollowed, hstashed, hopened]
    exact horder
  · rw [hfollowed, hopened]
    exact hsignedIn
  · rw [hfollowed, hstashed, hopened]
    exact hlast
  · rw [hopened]
    exact hcaptures

/-- When it is known whether the phone is signed in, the stashed route is followed if it is. -/
theorem replay (h : s.Linked) (status : AuthStatus) (isBootstrapping : Bool) :
  ({ s with status := status, isBootstrapping := isBootstrapping }.replay).Linked
  := by
  cases status with
  | unauthenticated =>
      refine h.keep rfl ?_ rfl (.inr rfl)
      exact (congrArg (s.followed ++ ·) List.drop_length).trans (List.append_nil _)
  | authenticated =>
      obtain ⟨hsignedOut, horder, hsignedIn, hlast, hcaptures⟩ := h
      cases hstash : s.router.stashedRoute with
      | none =>
          have hrouter : s.router.replayStashedRouteIfAuthenticated true = s.router := by
            simp [AppRouter.replayStashedRouteIfAuthenticated, hstash]
          simp only [SignIn.replay, isAuthenticated, decide_true, hrouter, routed,
            List.drop_length, List.append_nil]
          exact ⟨fun hsome => by simp [hstash] at hsome, horder, hsignedIn, hlast, hcaptures⟩
      | some route =>
          have hrouter : s.router.replayStashedRouteIfAuthenticated true =
              { s.router with stashedRoute := none, path := s.router.path ++ [route] } := by
            simp [AppRouter.replayStashedRouteIfAuthenticated, hstash, AppRouter.push]
          rw [hstash] at horder hlast
          simp only [SignIn.replay, isAuthenticated, decide_true, hrouter, routed,
            List.drop_left]
          refine ⟨fun hsome => Bool.noConfusion hsome, ?_, ?_, ?_, hcaptures⟩
          · exact (List.append_nil (s.followed ++ [route])).symm ▸ horder
          · exact hsignedIn.trans (List.sublist_append_left _ _)
          · exact (congrArg List.getLast? (List.append_nil (s.followed ++ [route]))).trans hlast

/-- A link that is opened is followed, or replaces the stashed one. -/
theorem openURL (h : s.Linked) (url : URL) :
  (s.openURL url).Linked
  := by
  cases hroute : AppRouter.route url with
  | none =>
      refine h.keep ?_ ?_ ?_ (.inl rfl)
      · simp [SignIn.openURL, hroute, routed]
      · simp [SignIn.openURL, hroute, routed, AppRouter.handle]
      · simp [SignIn.openURL, hroute, routed, AppRouter.handle]
  | some route =>
      obtain ⟨hsignedOut, horder, hsignedIn, hlast, hcaptures⟩ := h
      have hkept : s.followed.Sublist (s.opened.map Prod.fst) :=
        (List.sublist_append_left _ _).trans horder
      have hnew : ∀ handoff, .capture handoff ∈ s.opened.map Prod.fst ++ [route] →
          TokenValidator.isValid handoff.token = true ∧
            ∃ jobID, handoff.jobID = some jobID ∧ TokenValidator.isValidJobID jobID = true := by
        intro handoff hmem
        rcases List.mem_append.mp hmem with hold | hlast
        · exact hcaptures handoff hold
        · obtain rfl := List.mem_singleton.mp hlast
          exact AppRouter.route_capture hroute
      cases hstatus : s.status with
      | unauthenticated =>
          have hauth : s.isAuthenticated = false := by rw [isAuthenticated, hstatus]; rfl
          simp only [SignIn.openURL, hroute, hauth, AppRouter.handle, routed, List.drop_length,
            List.append_nil, Option.toList_some, List.map_cons, List.map_nil, Bool.false_eq_true,
            if_false]
          constructor
          · exact fun _ => hstatus
          · simpa using hkept
          · simpa using hsignedIn
          · simp
          · simpa using hnew
      | authenticated =>
          have hauth : s.isAuthenticated = true := by rw [isAuthenticated, hstatus]; rfl
          have hstash : s.router.stashedRoute = none := by
            cases hstash : s.router.stashedRoute with
            | none => rfl
            | some stashed =>
                rw [hsignedOut (by simp [hstash])] at hstatus
                cases hstatus
          simp only [SignIn.openURL, hroute, hauth, AppRouter.handle, AppRouter.push, routed,
            List.drop_left, Option.toList_some, List.map_cons, List.map_nil, if_true]
          constructor
          · exact fun hsome => by simp [hstash] at hsome
          · simpa [hstash] using hkept
          · simpa using hsignedIn
          · simp [hstash]
          · simpa using hnew

/-- What a rejected token leaves behind is linked. -/
theorem handleUnauthorized (h : s.Linked) :
  s.handleUnauthorized.Linked
  := by
  rw [SignIn.handleUnauthorized]
  split
  · exact h.keep rfl rfl rfl (.inr rfl)
  · exact h

variable [DemoCredential]

/-- A session that is created is linked. -/
theorem createSession (h : s.Linked) (username password : String) (token : SecureToken) :
  (s.createSession username password token).Linked
  := by
  rw [SignIn.createSession]
  split
  · exact h
  · split
    · exact h
    · exact h.keep rfl rfl rfl (.inl rfl)

/-- What is awaited leads to a linked state. -/
theorem advance (h : s.Linked) (task : Task) (outcome : Outcome) :
  (s.advance task outcome).Linked
  := by
  cases task with
  | bootstrap => cases outcome <;> exact h.keep rfl rfl rfl (.inl rfl)
  | bootstrapped loaded => exact h.replay _ false
  | signIn username password =>
      cases outcome with
      | creates token => exact h.createSession username password token
      | _ => exact h
  | store token =>
      cases outcome with
      | succeeds => exact h.keep rfl rfl rfl (.inl rfl)
      | _ => exact h
  | stored => exact h.replay .authenticated s.isBootstrapping
  | clear =>
      cases outcome with
      | succeeds => exact h.keep rfl rfl rfl (.inl rfl)
      | _ => exact h
  | load caller =>
      cases outcome with
      | succeeds => exact h.keep rfl rfl rfl (.inl rfl)
      | _ => exact h
  | send caller authorization =>
      cases outcome with
      | succeeds => exact h.keep rfl rfl rfl (.inl rfl)
      | _ => exact h
  | answered caller authorization time authorized =>
      rw [SignIn.advance]
      split
      · exact h.handleUnauthorized
      · exact h

/-- Every event leads to a linked state. -/
theorem step (h : s.Linked) (event : Event) :
  (s.step event).Linked
  := by
  cases event with
  | elapse time => exact h.keep rfl rfl rfl (.inl rfl)
  | launch =>
      rw [SignIn.step, launch]
      split
      · exact h.replay s.status s.isBootstrapping
      · exact h.keep rfl rfl rfl (.inl rfl)
  | openURL url => exact h.openURL url
  | signIn username password =>
      rw [SignIn.step]
      split
      · exact h
      · exact h.keep rfl rfl rfl (.inl rfl)
  | request caller => exact h.keep rfl rfl rfl (.inl rfl)
  | navigate path => exact h.keep rfl rfl rfl (.inl rfl)
  | advance place outcome =>
      rw [SignIn.step]
      split
      · refine Linked.advance ?_ _ outcome
        exact h.keep rfl rfl rfl (.inl rfl)
      · exact h

/-- Every run leads to a linked state, by induction on its events. -/
theorem run (h : s.Linked) (events : List Event) :
  (s.run events).Linked
  := by
  induction events generalizing s with
  | nil => exact h
  | cons event events ih => exact ih (h.step event)

end Linked

/-- The phone is linked at its launch. -/
theorem linked_init :
  ({} : SignIn).Linked
  where
    signedOut := fun h => Bool.noConfusion h
    order := .slnil
    signedIn := .slnil
    last := rfl
    captures := by rintro handoff ⟨⟩

/-- However links are opened, the phone is signed in and out, and what it awaits ends, the links
are followed in their order, each at most once. -/
theorem links_followed [DemoCredential] (events : List Event) :
  (({} : SignIn).run events).Linked
  :=
  linked_init.run events

/-! ### Tokens -/

/-- A token of the server. -/
def Issued (s : SignIn) (token : String) : Prop := token ∈ s.appTokens.map AppToken.token

/-- The server rejects a request at a time: there is no token in its header, or one that has
expired. -/
def Rejected (s : SignIn) (authorization : Option String) (time : ℕ) : Prop :=
  authorization = none ∨
    ∃ appToken ∈ s.appTokens,
      authorization = some (TokenValidator.bearerHeaderValue appToken.token) ∧
        appToken.expiresAt ≤ time

/-- What is awaited has to do with tokens of the server. -/
def Traced (s : SignIn) : Task → Prop
  | .bootstrapped (.ok (some token)) => s.Issued token
  | .store token => s.Issued token
  | .send _ (some authorization) =>
      ∃ token, s.Issued token ∧ authorization = TokenValidator.bearerHeaderValue token
  | .answered _ authorization time authorized =>
      authorized = false → s.Rejected authorization time
  | _ => True

structure Sound (s : SignIn) : Prop where
  secure : ∀ appToken ∈ s.appTokens, TokenValidator.isValid appToken.token = true
  unique : (s.appTokens.map AppToken.token).Nodup
  keychain : ∀ token, s.keychain = some token → s.Issued token
  tasks : ∀ task ∈ s.tasks, s.Traced task

/-- What is traced remains traced when more tokens have been issued. -/
theorem Traced.mono {s s' : SignIn} {task : Task} (h : s.Traced task)
    (hsub : s.appTokens ⊆ s'.appTokens) :
  s'.Traced task
  := by
  have hissued : ∀ {token}, s.Issued token → s'.Issued token :=
    fun htoken => List.map_subset _ hsub htoken
  cases task with
  | bootstrapped loaded =>
      rcases loaded with _ | _ | token
      · trivial
      · trivial
      · exact hissued h
  | store token => exact hissued h
  | send caller authorization =>
      rcases authorization with _ | authorization
      · trivial
      · obtain ⟨token, htoken, hheader⟩ := h
        exact ⟨token, hissued htoken, hheader⟩
  | answered caller authorization time authorized =>
      intro hrejected
      refine (h hrejected).imp_right ?_
      rintro ⟨appToken, hmem, hheader, hexpired⟩
      exact ⟨appToken, hsub hmem, hheader, hexpired⟩
  | _ => trivial

/-- No character of a token is a space. -/
theorem base58Alphabet_not_space :
  TokenValidator.base58Alphabet.all (!Rails.Ruby.space ·) = true
  := by
  decide +kernel

/-- A valid token is not blank. -/
theorem not_blank_of_isValid {token : String} (h : TokenValidator.isValid token = true) :
  Rails.CaptureBundle.blankColumn (some token) = false
  := by
  obtain ⟨hlength, hall⟩ := Bool.and_eq_true_iff.mp h
  have hpos : 0 < token.toList.length := by
    rw [of_decide_eq_true hlength]
    decide
  obtain ⟨c, hc⟩ := List.exists_mem_of_length_pos hpos
  have halphabet : c ∈ TokenValidator.base58Alphabet :=
    of_decide_eq_true (List.all_eq_true.mp hall c hc)
  rw [Rails.CaptureBundle.blankColumn, Option.getD_some, List.all_eq_false]
  have hspace := List.all_eq_true.mp base58Alphabet_not_space c halphabet
  exact ⟨c, hc, by simpa using hspace⟩

/-- A valid token is read from its header. -/
theorem bearerToken_bearerHeaderValue {token : String}
    (h : TokenValidator.isValid token = true) :
  Rails.bearerToken (some (TokenValidator.bearerHeaderValue token)) = some token
  := by
  have hbegins : "Bearer ".toList.isPrefixOf ("Bearer ".toList ++ token.toList) = true :=
    List.isPrefixOf_iff_prefix.mpr (List.prefix_append _ _)
  rw [Rails.bearerToken, Option.getD_some, TokenValidator.bearerHeaderValue, String.toList_append]
  simp only [hbegins, if_true, List.drop_left, String.ofList_toList, not_blank_of_isValid h,
    Bool.false_eq_true, if_false]

/-- The server accepts a token until it expires. -/
theorem Sound.authenticate (h : s.Sound) {appToken : AppToken} (hmem : appToken ∈ s.appTokens)
    (current : ℕ) :
  AppToken.authenticate s.appTokens current
      (Rails.bearerToken (some (TokenValidator.bearerHeaderValue appToken.token))) =
    if appToken.expired current then none else some appToken
  := by
  have hvalid := h.secure appToken hmem
  have hfound : s.appTokens.find? (fun other => some other.token = some appToken.token) =
      some appToken := by
    cases hfind : s.appTokens.find? (fun other => some other.token = some appToken.token) with
    | none =>
        exact absurd (decide_eq_true rfl) (List.find?_eq_none.mp hfind appToken hmem)
    | some other =>
        have htoken : other.token = appToken.token :=
          Option.some.inj (of_decide_eq_true (List.find?_some
            (p := fun other : AppToken => decide (some other.token = some appToken.token)) hfind))
        rw [List.inj_on_of_nodup_map h.unique (List.mem_of_find?_eq_some hfind) hmem htoken]
  rw [bearerToken_bearerHeaderValue hvalid, AppToken.authenticate, not_blank_of_isValid hvalid,
    if_neg Bool.false_ne_true, hfound]

namespace Sound

/-- A step of the phone, that leaves the tokens of the server. -/
theorem keep {s' : SignIn} (h : s.Sound) (happTokens : s'.appTokens = s.appTokens)
    (hkeychain : ∀ token, s'.keychain = some token → s.Issued token)
    (htasks : ∀ task ∈ s'.tasks, task ∈ s.tasks ∨ s.Traced task) :
  s'.Sound
  := by
  constructor
  · exact happTokens ▸ h.secure
  · exact happTokens ▸ h.unique
  · intro token htoken
    rw [Issued, happTokens]
    exact hkeychain token htoken
  · intro task htask
    have htraced : s.Traced task := (htasks task htask).elim (h.tasks task) id
    exact htraced.mono (happTokens ▸ List.Subset.refl _)

/-- A traced task may be awaited. -/
theorem await (h : s.Sound) {task : Task} (htask : s.Traced task) :
  (s.await task).Sound
  := by
  refine h.keep rfl h.keychain ?_
  intro other hother
  rcases List.mem_append.mp hother with hold | hnew
  · exact .inl hold
  · exact .inr (List.mem_singleton.mp hnew ▸ htask)

/-- Replaying the links keeps what is sound. -/
theorem replay (h : s.Sound) (status : AuthStatus) (isBootstrapping : Bool) :
  ({ s with status := status, isBootstrapping := isBootstrapping }.replay).Sound
  :=
  h.keep rfl h.keychain fun _ htask => .inl htask

/-- Opening a link keeps what is sound. -/
theorem openURL (h : s.Sound) (url : URL) :
  (s.openURL url).Sound
  :=
  h.keep rfl h.keychain fun _ htask => .inl htask

/-- A rejected token leaves a sound state. -/
theorem handleUnauthorized (h : s.Sound) :
  s.handleUnauthorized.Sound
  := by
  rw [SignIn.handleUnauthorized]
  split
  · refine await (s := { s with status := .unauthenticated }) ?_ trivial
    exact h.keep rfl h.keychain fun _ htask => .inl htask
  · exact h

/-- What the server answers no, it rejects. -/
theorem rejected (h : s.Sound) {caller : Caller} {authorization : Option String}
    (hsend : s.Traced (.send caller authorization))
    (hanswer : (AppToken.authenticate s.appTokens s.current
      (Rails.bearerToken authorization)).isSome = false) :
  s.Rejected authorization s.current
  := by
  cases authorization with
  | none => exact .inl rfl
  | some authorization =>
      obtain ⟨token, hissued, rfl⟩ := hsend
      obtain ⟨appToken, hmem, rfl⟩ := List.mem_map.mp hissued
      rw [h.authenticate hmem] at hanswer
      split at hanswer
      · next hexpired => exact .inr ⟨appToken, hmem, rfl, of_decide_eq_true hexpired⟩
      · cases hanswer

variable [DemoCredential]

/-- A session that is created is sound. -/
theorem createSession (h : s.Sound) (username password : String) (token : SecureToken) :
  (s.createSession username password token).Sound
  := by
  rw [SignIn.createSession]
  split
  · exact h
  · split
    · exact h
    · next hfresh =>
      have hnew : token.1 ∉ s.appTokens.map AppToken.token := by
        intro hmem
        obtain ⟨appToken, hin, htoken⟩ := List.mem_map.mp hmem
        exact hfresh (List.any_eq_true.mpr ⟨appToken, hin, decide_eq_true htoken⟩)
      refine await ⟨?_, ?_, ?_, ?_⟩ ?_
      · intro appToken hmem
        rcases List.mem_append.mp hmem with hold | hlast
        · exact h.secure appToken hold
        · obtain rfl := List.mem_singleton.mp hlast
          exact token.2
      · rw [List.map_append]
        exact List.Nodup.append h.unique (List.nodup_singleton _)
          (List.disjoint_singleton.mpr hnew)
      · intro other hother
        exact List.map_subset _ (List.subset_append_left _ _) (h.keychain other hother)
      · exact fun task htask => (h.tasks task htask).mono (List.subset_append_left _ _)
      · exact List.mem_map.mpr ⟨_, List.mem_append_right _ List.mem_cons_self, rfl⟩

/-- What is awaited leads to a sound state, when it can be traced. -/
theorem advance (h : s.Sound) {task : Task} (htask : s.Traced task) (outcome : Outcome) :
  (s.advance task outcome).Sound
  := by
  cases task with
  | bootstrap =>
      have hloaded : (s.await (.bootstrapped (.ok s.keychain))).Sound := by
        refine h.await ?_
        cases hkeychain : s.keychain with
        | none => trivial
        | some token => exact h.keychain token hkeychain
      cases outcome with
      | fails => exact h.await trivial
      | _ => exact hloaded
  | bootstrapped loaded => exact h.replay _ false
  | signIn username password =>
      cases outcome with
      | creates token => exact h.createSession username password token
      | _ => exact h
  | store token =>
      cases outcome with
      | succeeds =>
          refine await (s := { s with keychain := some token }) ?_ trivial
          refine h.keep rfl ?_ fun _ hother => .inl hother
          rintro _ ⟨⟩
          exact htask
      | _ => exact h
  | stored => exact h.replay .authenticated s.isBootstrapping
  | clear =>
      cases outcome with
      | succeeds => exact h.keep rfl (fun _ htoken => by cases htoken) fun _ hother => .inl hother
      | _ => exact h
  | load caller =>
      cases outcome with
      | succeeds =>
          refine h.await ?_
          cases hkeychain : s.keychain with
          | none => trivial
          | some token => exact ⟨token, h.keychain token hkeychain, rfl⟩
      | _ => exact h
  | send caller authorization =>
      cases outcome with
      | succeeds => exact h.await (h.rejected htask)
      | _ => exact h
  | answered caller authorization time authorized =>
      rw [SignIn.advance]
      split
      · exact h.handleUnauthorized
      · exact h

/-- Every event leads to a sound state. -/
theorem step (h : s.Sound) (event : Event) :
  (s.step event).Sound
  := by
  cases event with
  | elapse time => exact h.keep rfl h.keychain fun _ htask => .inl htask
  | launch =>
      rw [SignIn.step, launch]
      split
      · exact h.replay s.status s.isBootstrapping
      · refine await (s := { s with isBootstrapping := true }) ?_ trivial
        exact h.keep rfl h.keychain fun _ htask => .inl htask
  | openURL url => exact h.openURL url
  | signIn username password =>
      rw [SignIn.step]
      split
      · exact h
      · exact h.await trivial
  | request caller => exact h.await trivial
  | navigate path => exact h.keep rfl h.keychain fun _ htask => .inl htask
  | advance place outcome =>
      rw [SignIn.step]
      split
      · next task hplace =>
        refine Sound.advance ?_ ?_ outcome
        · refine h.keep rfl h.keychain fun _ hother => .inl ?_
          exact List.mem_of_mem_eraseIdx hother
        · exact (h.tasks task (List.mem_of_getElem? hplace)).mono (List.Subset.refl _)
      · exact h

/-- Every run leads to a sound state, by induction on its events. -/
theorem run (h : s.Sound) (events : List Event) :
  (s.run events).Sound
  := by
  induction events generalizing s with
  | nil => exact h
  | cons event events ih => exact ih (h.step event)

end Sound

/-- The phone is sound at its launch. -/
theorem sound_init :
  ({} : SignIn).Sound
  where
    secure := by rintro appToken ⟨⟩
    unique := List.nodup_nil
    keychain := by rintro token ⟨⟩
    tasks := by rintro task ⟨⟩

/-! ### Signing out -/

/-- What signs the phone out: an answer that it is not authorized, which is handled, or a launch
that finds no token. -/
theorem signs_out [DemoCredential] {task : Task} {outcome : Outcome}
    (hin : s.status = .authenticated)
    (hout : (s.advance task outcome).status = .unauthenticated) :
  (∃ caller authorization time, task = .answered caller authorization time false ∧
      caller.handlesUnauthorized = true) ∨
    ∃ loaded, task = .bootstrapped loaded ∧ (loaded = .error () ∨ loaded = .ok none)
  := by
  have hstays : s.status ≠ .unauthenticated := by
    rw [hin]
    exact fun h => AuthStatus.noConfusion h
  cases task with
  | bootstrap => cases outcome <;> exact absurd hout hstays
  | bootstrapped loaded =>
      refine .inr ⟨loaded, rfl, ?_⟩
      rcases loaded with _ | _ | token
      · exact .inl rfl
      · exact .inr rfl
      · cases hout
  | signIn username password =>
      cases outcome with
      | creates token =>
          rw [advance, createSession] at hout
          split at hout
          · exact absurd hout hstays
          · split at hout <;> exact absurd hout hstays
      | _ => exact absurd hout hstays
  | stored => cases hout
  | answered caller authorization time authorized =>
      rw [advance] at hout
      split at hout
      · next hunauthorized =>
        obtain ⟨hanswer, hhandles⟩ := Bool.and_eq_true_iff.mp hunauthorized
        cases authorized with
        | false => exact .inl ⟨caller, authorization, time, rfl, hhandles⟩
        | true => cases hanswer
      · exact absurd hout hstays
  | _ => cases outcome <;> exact absurd hout hstays

/-- Only a request that the server has rejected, for want of a token or because it had expired, or a
launch that found no token signs the phone out, whatever else is under way. -/
theorem signed_out_only_when_rejected [DemoCredential] (events : List Event) (event : Event)
    (hin : (({} : SignIn).run events).status = .authenticated)
    (hout : ((({} : SignIn).run events).step event).status = .unauthenticated) :
  ∃ place outcome task, event = .advance place outcome ∧
    (({} : SignIn).run events).tasks[place]? = some task ∧
    ((∃ caller authorization time, task = .answered caller authorization time false ∧
        caller.handlesUnauthorized = true ∧
        (({} : SignIn).run events).Rejected authorization time) ∨
      ∃ loaded, task = .bootstrapped loaded ∧ (loaded = .error () ∨ loaded = .ok none))
  := by
  have hsound := sound_init.run events
  generalize ({} : SignIn).run events = s at hin hout hsound
  have hstays : s.status ≠ .unauthenticated := by
    rw [hin]
    exact fun h => AuthStatus.noConfusion h
  cases event with
  | launch =>
      rw [step, launch] at hout
      split at hout <;> exact absurd hout hstays
  | signIn username password =>
      rw [step] at hout
      split at hout <;> exact absurd hout hstays
  | advance place outcome =>
      rw [step] at hout
      split at hout
      · next task hplace =>
        refine ⟨place, outcome, task, rfl, hplace, ?_⟩
        refine (signs_out (s := { s with tasks := s.tasks.eraseIdx place }) hin hout).imp_left ?_
        rintro ⟨caller, authorization, time, rfl, hhandles⟩
        exact ⟨caller, authorization, time, rfl, hhandles,
          hsound.tasks _ (List.mem_of_getElem? hplace) rfl⟩
      · exact absurd hout hstays
  | _ => exact absurd hout hstays

/-- A server that knows one login. -/
abbrev demoCredential : DemoCredential where
  valid := fun username password => username = "demo" && password = "shingles"

def demoToken : SecureToken := ⟨"1111111111111111111111111111111A", by decide⟩

/-- The phone signs in, and its token expires before the list of jobs is requested. -/
def expiring : List Event :=
  [.signIn "demo" "shingles", .advance 0 (.creates demoToken), .advance 0 .succeeds,
    .advance 0 .succeeds, .elapse AppToken.TTL, .request .jobList, .advance 0 .succeeds,
    .advance 0 .succeeds]

/-- The phone is signed out by the response to a request that was sent with an expired token. -/
theorem signed_out_when_expired :
  letI := demoCredential
  ∃ place outcome task, Event.advance 0 .succeeds = .advance place outcome ∧
    (({} : SignIn).run expiring).tasks[place]? = some task ∧
    ((∃ caller authorization time, task = .answered caller authorization time false ∧
        caller.handlesUnauthorized = true ∧
        (({} : SignIn).run expiring).Rejected authorization time) ∨
      ∃ loaded, task = .bootstrapped loaded ∧ (loaded = .error () ∨ loaded = .ok none))
  :=
  letI := demoCredential
  signed_out_only_when_rejected expiring (.advance 0 .succeeds) (by decide) (by decide)

/-! ### Staying signed in -/

/-- What is awaited that does not end the session with a token. -/
def Calm (appToken : AppToken) : Task → Prop
  | .stored | .load _ => True
  | .send caller authorization =>
      caller.handlesUnauthorized = true →
        authorization = some (TokenValidator.bearerHeaderValue appToken.token)
  | .answered caller _ _ authorized => caller.handlesUnauthorized = true → authorized = true
  | _ => False

/-- The phone is signed in with a token, and nothing of an earlier session is under way. -/
structure Settled (s : SignIn) (appToken : AppToken) : Prop where
  authenticated : s.status = .authenticated
  keychain : s.keychain = some appToken.token
  issued : appToken ∈ s.appTokens
  tasks : ∀ task ∈ s.tasks, Calm appToken task

/-- The phone stays settled when it awaits a calm task. -/
theorem Settled.await {appToken : AppToken} (h : s.Settled appToken) {task : Task}
    (htask : Calm appToken task) :
  (s.await task).Settled appToken
  := by
  refine ⟨h.authenticated, h.keychain, h.issued, ?_⟩
  intro other hother
  rcases List.mem_append.mp hother with hold | hnew
  · exact h.tasks other hold
  · exact List.mem_singleton.mp hnew ▸ htask

/-- A calm task leaves the phone settled before the token expires. -/
theorem Settled.advance [DemoCredential] {appToken : AppToken} (hsound : s.Sound)
    (h : s.Settled appToken) {task : Task} (htask : Calm appToken task) (outcome : Outcome)
    (hunexpired : s.current < appToken.expiresAt) :
  (s.advance task outcome).Settled appToken
  := by
  cases task with
  | stored => exact ⟨rfl, h.keychain, h.issued, h.tasks⟩
  | load caller =>
      cases outcome with
      | succeeds =>
          refine h.await fun _ => ?_
          rw [h.keychain]
          rfl
      | _ => exact h
  | send caller authorization =>
      cases outcome with
      | succeeds =>
          refine h.await fun hhandles => ?_
          have hnot : appToken.expired s.current = false :=
            decide_eq_false (Nat.not_le_of_lt hunexpired)
          rw [htask hhandles, hsound.authenticate h.issued, hnot]
          rfl
      | _ => exact h
  | answered caller authorization time authorized =>
      rw [SignIn.advance]
      split
      · next hunauthorized =>
        obtain ⟨hanswer, hhandles⟩ := Bool.and_eq_true_iff.mp hunauthorized
        rw [htask hhandles] at hanswer
        cases hanswer
      · exact h
  | _ => cases htask

/-- An event other than a launch leaves the phone settled before the token expires. -/
theorem Settled.step [DemoCredential] {appToken : AppToken} (hsound : s.Sound)
    (h : s.Settled appToken) {event : Event} (hlaunch : event ≠ .launch)
    (hunexpired : s.current < appToken.expiresAt) :
  (s.step event).Settled appToken
  := by
  cases event with
  | launch => exact absurd rfl hlaunch
  | signIn username password =>
      have hauthenticated : s.isAuthenticated = true := decide_eq_true h.authenticated
      rw [SignIn.step, if_pos hauthenticated]
      exact h
  | request caller => exact h.await trivial
  | advance place outcome =>
      rw [SignIn.step]
      split
      · next task hplace =>
        have hrest : ∀ other ∈ s.tasks.eraseIdx place, other ∈ s.tasks :=
          fun _ hother => List.mem_of_mem_eraseIdx hother
        refine Settled.advance ?_ ?_ (h.tasks task (List.mem_of_getElem? hplace)) outcome
          hunexpired
        · exact hsound.keep rfl hsound.keychain fun other hother => .inl (hrest other hother)
        · exact ⟨h.authenticated, h.keychain, h.issued,
            fun other hother => h.tasks other (hrest other hother)⟩
      · exact h
  | _ => exact ⟨h.authenticated, h.keychain, h.issued, h.tasks⟩

/-- What is awaited takes no time. -/
theorem current_advance [DemoCredential] (task : Task) (outcome : Outcome) :
  (s.advance task outcome).current = s.current
  := by
  cases task with
  | bootstrap => cases outcome <;> rfl
  | signIn username password =>
      cases outcome with
      | creates token =>
          rw [advance, createSession]
          split
          · rfl
          · split <;> rfl
      | _ => rfl
  | answered caller authorization time authorized =>
      rw [advance]
      split
      · rw [handleUnauthorized]
        split <;> rfl
      · rfl
  | bootstrapped loaded => rfl
  | stored => rfl
  | _ => cases outcome <;> rfl

/-- Time does not go back. -/
theorem current_le_step [DemoCredential] (event : Event) :
  s.current ≤ (s.step event).current
  := by
  cases event with
  | elapse time => exact Nat.le_add_right _ _
  | launch =>
      rw [step, launch]
      split <;> exact Nat.le_refl _
  | signIn username password =>
      rw [step]
      split <;> exact Nat.le_refl _
  | advance place outcome =>
      rw [step]
      split
      · exact Nat.le_of_eq
          (current_advance (s := { s with tasks := s.tasks.eraseIdx place }) _ outcome).symm
      · exact Nat.le_refl _
  | _ => exact Nat.le_refl _

/-- Time does not run backwards. -/
theorem current_le_run [DemoCredential] (events : List Event) :
  s.current ≤ (s.run events).current
  := by
  induction events generalizing s with
  | nil => exact Nat.le_refl _
  | cons event events ih => exact Nat.le_trans (current_le_step event) ih

/-- Once it is signed in with nothing else under way, the phone stays so, with the same token and
its requests authorized, until the token expires. -/
theorem stays_signed_in [DemoCredential] {appToken : AppToken} (earlier events : List Event)
    (h : (({} : SignIn).run earlier).Settled appToken) (hlaunch : .launch ∉ events)
    (hunexpired : ((({} : SignIn).run earlier).run events).current < appToken.expiresAt) :
  ((({} : SignIn).run earlier).run events).Settled appToken
  := by
  have hsound := sound_init.run earlier
  generalize ({} : SignIn).run earlier = s at h hunexpired hsound
  induction events generalizing s with
  | nil => exact h
  | cons event events ih =>
      have hcurrent : s.current < appToken.expiresAt :=
        Nat.lt_of_le_of_lt (current_le_run (event :: events)) hunexpired
      refine ih (fun hmem => hlaunch (List.mem_cons_of_mem _ hmem)) (s.step event) ?_ hunexpired
        (hsound.step event)
      exact h.step hsound (fun heq => hlaunch (heq ▸ List.mem_cons_self)) hcurrent

/-- The phone stays signed in when it loads the list of jobs before its token expires. -/
theorem stays_signed_in_demo :
  letI := demoCredential
  (((({} : SignIn).run [.signIn "demo" "shingles", .advance 0 (.creates demoToken),
    .advance 0 .succeeds, .advance 0 .succeeds]).run
      [.elapse 1000000, .request .jobList, .advance 0 .succeeds, .advance 0 .succeeds])).Settled
        ⟨demoToken.1, AppToken.TTL⟩
  :=
  letI := demoCredential
  stays_signed_in [.signIn "demo" "shingles", .advance 0 (.creates demoToken),
    .advance 0 .succeeds, .advance 0 .succeeds]
    [.elapse 1000000, .request .jobList, .advance 0 .succeeds, .advance 0 .succeeds]
    ⟨rfl, rfl, List.mem_cons_self, by rintro task ⟨⟩⟩ (by simp) (by decide)

end SignIn

end Phone
