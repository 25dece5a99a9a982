import RoofTrace.Effects.Play
import RoofTrace.Rails.VlmRunner

/-!
# The feature detector

`app/services/feature_detector/open_router.rb` and `app/services/feature_detector.rb`: a
model at a provider is asked for the features in an image, once more when it fails in one of
three ways, and then for a confirmation of every detection whose confidence is low. The
thread of `app/services/vlm_runner.rb` runs the detector and captures what it raises.
-/

namespace Rails

open Effects

/-- What a request to the provider comes to. -/
inductive ProviderReply where
  | response (code : ℕ) (body : String)
  /-- `Net::OpenTimeout` or `Net::ReadTimeout`. -/
  | timeout (message : String)
  /-- Any other exception of the exchange. -/
  | raised (className message : String)

structure Uri where
  scheme : Option String
  host : Option String

/-- What the detector uses of the standard library to read texts. -/
class Texts where
  /-- `JSON.parse`, or the message of its `JSON::ParserError`. -/
  parseJson : String → Except String (Json ℚ)
  /-- `URI.parse` -/
  parseUri : String → Option Uri
  /-- `String#to_f` -/
  toF : String → ℚ

/-- An exception of a detection. -/
inductive VlmExn where
  | vlmTimeout (message : String)
  | vlmNonJson (message : String)
  | vlmServerError (message : String)
  /-- `JSON::ParserError` -/
  | parserError (message : String)
  /-- Any other `StandardError`, by the name of its class. -/
  | standardError (className message : String)
deriving DecidableEq

namespace VlmExn

def className : VlmExn → String
  | vlmTimeout _ => "FeatureDetector::OpenRouter::VlmTimeout"
  | vlmNonJson _ => "FeatureDetector::OpenRouter::VlmNonJson"
  | vlmServerError _ => "FeatureDetector::OpenRouter::VlmServerError"
  | parserError _ => "JSON::ParserError"
  | standardError c _ => c

def message : VlmExn → String
  | vlmTimeout m => m
  | vlmNonJson m => m
  | vlmServerError m => m
  | parserError m => m
  | standardError _ m => m

def argumentError : String → VlmExn := standardError "ArgumentError"

def noMethodError : String → VlmExn := standardError "NoMethodError"

def typeError : String → VlmExn := standardError "TypeError"

end VlmExn

/-! ### Values of a reply -/

namespace Ruby

/-- `x.class` -/
def className : Json ℚ → String
  | .null => "NilClass"
  | .bool b => if b then "TrueClass" else "FalseClass"
  | .num x => if x.den = 1 then "Integer" else "Float"
  | .str _ => "String"
  | .arr _ => "Array"
  | .obj _ => "Hash"

/-- A value, as messages of errors name it. -/
def describe : Json ℚ → String
  | .null => "nil"
  | .bool b => toString b
  | j => s!"an instance of {className j}"

/-- `x[key]`, for a key that is a string. -/
def at? (key : String) : Json ℚ → Except VlmExn (Json ℚ)
  | .obj members => .ok ((Json.obj members).get key)
  | .str s => .ok (if key.toList <:+: s.toList then .str key else .null)
  | .arr _ => .error (.typeError "no implicit conversion of String into Integer")
  | .num x =>
      -- a bit of an integer is asked for by its number
      if x.den = 1 then .error (.typeError "no implicit conversion of String into Integer")
      else .error (.noMethodError s!"undefined method '[]' for {describe (.num x)}")
  | j => .error (.noMethodError s!"undefined method '[]' for {describe j}")

/-- A key of `dig`. -/
inductive Key where
  | name (key : String)
  | index (n : ℕ)

/-- `x.dig(*keys)` -/
def dig : List Key → Json ℚ → Except VlmExn (Json ℚ)
  | [], j => .ok j
  | _, .null => .ok .null
  | .name key :: keys, .obj members => dig keys ((Json.obj members).get key)
  | .index _ :: _, .obj _ => .ok .null
  | .index n :: keys, .arr xs => dig keys (xs.getD n .null)
  | .name _ :: _, .arr _ => .error (.typeError "no implicit conversion of String into Integer")
  | _ :: _, j => .error (.typeError s!"{className j} does not have #dig method")

/-- `x.to_f` -/
def toF? [Texts] : Json ℚ → Except VlmExn ℚ
  | .num x => .ok x
  | .str s => .ok (Texts.toF s)
  | .null => .ok 0
  | j => .error (.noMethodError s!"undefined method 'to_f' for {describe j}")

/-- `s.strip` -/
def strip (s : String) : String :=
  let blank (c : Char) : Bool := c.isWhitespace || c.toNat ∈ [0, 11, 12]
  String.ofList ((s.toList.dropWhile blank).reverse.dropWhile blank).reverse

end Ruby

namespace FeatureDetector

def knownLabels : List String := ["chimney", "vent", "skylight", "dormer", "satellite_dish"]

/-- A detection as the model gives it. -/
structure RawDetection where
  label : Json ℚ
  bboxNorm : Json ℚ
  confidence : Json ℚ

variable [Platform] [Texts]

/-- `validate_detection`, with the confidence of the detection. -/
def validateDetection (raw : RawDetection) : Except VlmExn (Option (Json ℚ × ℚ)) := do
  let label := Platform.toS raw.label
  if label ∉ knownLabels then return none
  let bbox ← (Ruby.array raw.bboxNorm).mapM Ruby.toF?
  let confidence ← Ruby.toF? raw.confidence
  let canonical : Json ℚ := .obj
    [("label", .str label),
     ("bbox_norm", .arr (bbox.map .num)),
     ("verified", .bool false),
     ("source", .str "imagery"),
     ("confidence", .num confidence)]
  return if PipelineSchema.feature canonical then some (canonical, confidence) else none

end FeatureDetector

/-- A request to the provider. -/
inductive ProviderRequest where
  | detect (stern : Bool)
  | verify (detection : Json ℚ)

/-- The signature of the provider. -/
abbrev provider : Signature := .fallible VlmExn ProviderRequest fun _ => ProviderReply

/-- The provider, which may reply anything. -/
abbrev replying : Interp provider where
  World := Unit
  Choice _ := ProviderReply
  exec _ χ w := (.ok χ, w)

/-- The configuration of a detector. -/
structure OpenRouter where
  apiKey : String
  model : String
  threshold : ℚ
  /-- `IMAGE_TILE_HOST_ALLOWLIST` -/
  imageTileHostAllowlist : String

namespace OpenRouter

open FeatureDetector

/-- A method of the detector. -/
abbrev Request (α : Type) : Type := Action provider VlmExn Unit α

def retryLimit : ℕ := 1

def defaultTileHostSuffixes : List String :=
  [".digitaloceanspaces.com", ".cdn.digitaloceanspaces.com"]

variable (d : OpenRouter)

/-- `allowed_tile_hosts` -/
def allowedTileHosts : List String :=
  if Ruby.strip d.imageTileHostAllowlist = "" then defaultTileHostSuffixes
  else
    ((d.imageTileHostAllowlist.splitOn ",").map fun h => (Ruby.strip h).toLower).filter (· ≠ "")

/-- Whether a host is the one of a suffix, or one below it. -/
def hostMatches (host suffix : String) : Bool :=
  host.toList = (if suffix.toList.head? = some '.' then suffix.toList.tail else suffix.toList) ||
    suffix.toList.isSuffixOf host.toList

variable [Texts]

/-- `validate_image_url!` -/
def validateImageUrl (url : String) : Except VlmExn Unit := do
  if url.toList.any fun c => c.toNat < 32 || 127 ≤ c.toNat && c.toNat ≤ 159 then
    throw (.argumentError "image_tile_url contains control characters")
  match Texts.parseUri url with
  | none => throw (.argumentError "image_tile_url is not a valid URL")
  | some uri =>
      if uri.scheme ≠ some "https" then
        throw (.argumentError "image_tile_url must be https")
      let host := (uri.host.getD "").toLower
      if host = "" then throw (.argumentError "image_tile_url has no host")
      unless d.allowedTileHosts.any (hostMatches host) do
        throw (.argumentError s!"image_tile_url host not allowed: {host}")

/-- `extract_text` -/
def extractText (data : Json ℚ) : Except VlmExn (Json ℚ) := do
  match data with
  | .obj _ | .arr _ =>
      let content ←
        Ruby.dig [.name "choices", .index 0, .name "message", .name "content"] data
      return Ruby.or content (.str "")
  | j => throw (.noMethodError s!"undefined method 'dig' for {Ruby.describe j}")

/-- `http_post`, for the reply that it has, with what `generate` rescues. -/
def httpPost : ProviderReply → Except VlmExn (Json ℚ)
  | .response code body =>
      let report := s!"OpenRouter returned {code}: {String.ofList (body.toList.take 201)}"
      if 200 ≤ code ∧ code ≤ 299 then
        match Texts.parseJson body with
        | .ok data => extractText data
        | .error message =>
            .error (.vlmNonJson s!"OpenRouter response not parseable JSON: {message}")
      else if code = 429 ∨ 500 ≤ code ∧ code ≤ 599 then .error (.vlmServerError report)
      else .error (.vlmNonJson report)
  | .timeout message => .error (.vlmTimeout s!"OpenRouter {d.model} timed out: {message}")
  | .raised className message => .error (.standardError className message)

/-- `generate` -/
def generate (request : ProviderRequest) : Request (Json ℚ) := do
  if d.apiKey = "" then throw (.argumentError "OPENROUTER_API_KEY is not set")
  let reply ← Action.perform request
  Action.ofExcept (d.httpPost reply)

variable [Platform]

/-- `JSON.parse(text.to_s.strip)` -/
def parse (text : Json ℚ) : Except VlmExn (Json ℚ) :=
  (Texts.parseJson (Ruby.strip (Platform.toS text))).mapError .parserError

/-- `parse_detect_response` -/
def parseDetectResponse (text : Json ℚ) : Except VlmExn (List RawDetection) :=
  match parse text with
  | .error e => .error (.vlmNonJson e.message)
  | .ok parsed => do
      let features ← Ruby.at? "features" parsed
      (Ruby.array features).mapM fun f => do
        let label ← Ruby.at? "label" f
        let bboxNorm ← Ruby.at? "bbox_norm" f
        let confidence ← Ruby.at? "confidence" f
        return { label, bboxNorm, confidence }

/-- `call_detect` -/
def callDetect (stern : Bool) : Request (List RawDetection) := do
  let text ← d.generate (.detect stern)
  Action.ofExcept (parseDetectResponse text)

/-- `call_detect_with_retry`, with the attempts that remain; `none` is returned when they are
exhausted. -/
def callDetectWithRetry : (remaining : ℕ) → Request (Option (List RawDetection))
  | 0 =>
      tryCatch (do return some (← d.callDetect false)) fun
        | .vlmTimeout _ => return none
        | .vlmServerError _ => return none
        | .vlmNonJson _ => return none
        | e => throw e
  | remaining + 1 =>
      tryCatch (do return some (← d.callDetect false)) fun
        | .vlmTimeout _ => callDetectWithRetry remaining
        | .vlmServerError _ => callDetectWithRetry remaining
        | .vlmNonJson _ =>
            -- the sterner prompt is sent once, whatever remains
            tryCatch (do return some (← d.callDetect true)) fun
              | .vlmTimeout _ => return none
              | .vlmServerError _ => return none
              | .vlmNonJson _ => return none
              | e => throw e
        | e => throw e

/-- `verify_detection` -/
def verifyDetection (detection : Json ℚ) : Request Bool :=
  tryCatch
    (do
      let text ← d.generate (.verify detection)
      let parsed ← Action.ofExcept (parse text)
      let confirmed ← Action.ofExcept (Ruby.at? "confirmed" parsed)
      return confirmed == .bool true)
    fun
      | .vlmTimeout _ => return false
      | .vlmNonJson _ => return false
      | .parserError _ => return false
      | e => throw e

/-- The loop of `perform_detection`. -/
def verifyEach : List RawDetection → Request (List (Json ℚ))
  | [] => return []
  | raw :: rest => do
      match ← Action.ofExcept (validateDetection raw) with
      | none => verifyEach rest
      | some (detection, confidence) =>
          if confidence < d.threshold then
            if ← d.verifyDetection detection then
              return detection.set "verified" (.bool true) :: (← verifyEach rest)
            else verifyEach rest
          else return detection.set "verified" (.bool true) :: (← verifyEach rest)

/-- `perform_detection` -/
def performDetection : Request (List (Json ℚ)) := do
  match ← d.callDetectWithRetry retryLimit with
  | none => return []
  | some rawDetections => d.verifyEach rawDetections

/-- `detect`, for what the cache has under its key. -/
def detect (imageTileUrl : String) (cached : Option (List (Json ℚ))) :
    Request (List (Json ℚ)) := do
  Action.ofExcept (d.validateImageUrl imageTileUrl)
  match cached with
  | some features => return features
  | none => d.performDetection

end OpenRouter

/-! ### The thread of a detection -/

/-- What the thread of a detection depends on. -/
structure Detection where
  /-- The URL that is minted for the image. -/
  imageTileUrl : Except VlmExn String
  /-- `FEATURE_DETECTOR` -/
  backend : String
  detector : OpenRouter
  cached : Option (List (Json ℚ))
  replies : ℕ → ProviderReply
  /-- Whether the thread is done before it is joined and the timeout has passed. -/
  inTime : Bool

namespace Detection

variable [Platform] [Texts]

/-- `FeatureDetector.build` -/
def build (d : Detection) : Except VlmExn OpenRouter :=
  if d.backend.toLower = "openrouter" then .ok d.detector
  else .error (.argumentError s!"Unknown FEATURE_DETECTOR: {d.backend.quote}")

/-- The body of the thread. -/
def body (d : Detection) : OpenRouter.Request (List (Json ℚ)) := do
  let imageTileUrl ← Action.ofExcept d.imageTileUrl
  let detector ← Action.ofExcept d.build
  detector.detect imageTileUrl d.cached

/-- The value of the thread. -/
def value (d : Detection) : Except VlmExn (List (Json ℚ)) :=
  ((d.body.outcome ()).run (I := replying) () (fun n _ => d.replies n) ⟨(), []⟩).1

/-- What the detection comes to for the one who joins it. -/
def result (d : Detection) : VlmResult :=
  if d.inTime then
    match d.value with
    | .ok features => .features (.arr features)
    | .error e => .error s!"{e.className}: {e.message}"
  else .timedOut

end Detection

/-! ### Exhausted retries -/

/-- The failures of a request that the detector tries to make up for. -/
def VlmExn.retried : VlmExn → Bool
  | vlmTimeout _ => true
  | vlmNonJson _ => true
  | vlmServerError _ => true
  | _ => false

namespace OpenRouter

variable [Platform] [Texts] {d : OpenRouter}

/-- The detections that a reply holds. -/
def read (d : OpenRouter) (reply : ProviderReply) :
    Except VlmExn (List FeatureDetector.RawDetection) :=
  d.httpPost reply >>= parseDetectResponse

/-- What the reading of a reply comes to when no attempt remains. -/
def lastReading {α : Type} : Except VlmExn α → Except VlmExn (Option α)
  | .ok a => .ok (some a)
  | .error e => if e.retried then .ok none else .error e

/-- What the detection pass comes to for the replies that it has, and the replies that are
left. -/
def detections (d : OpenRouter) (replies : ℕ → ProviderReply) :
    Except VlmExn (Option (List FeatureDetector.RawDetection)) × (ℕ → ProviderReply) :=
  match d.read (replies 0) with
  | .ok raws => (.ok (some raws), fun n => replies (n + 1))
  | .error e =>
      if e.retried then (lastReading (d.read (replies 1)), fun n => replies (n + 2))
      else (.error e, fun n => replies (n + 1))

end OpenRouter

namespace Detection

variable [Platform] [Texts]

/-- The detector asks the provider twice, and both replies fail in ways that are tried again. -/
structure Exhausted (d : Detection) : Prop where
  inTime : d.inTime = true
  url : ∃ url, d.imageTileUrl = .ok url ∧ d.detector.validateImageUrl url = .ok ()
  backend : d.backend.toLower = "openrouter"
  uncached : d.cached = none
  apiKey : d.detector.apiKey ≠ ""
  first : ∃ e, d.detector.read (d.replies 0) = .error e ∧ e.retried = true
  second : ∃ e, d.detector.read (d.replies 1) = .error e ∧ e.retried = true

end Detection

end Rails
