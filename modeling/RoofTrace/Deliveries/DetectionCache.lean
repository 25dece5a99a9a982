import RoofTrace.Deliveries.ProviderFailures

/-!
# The cache of the detections

`OpenRouter#detect` keeps the list of features of an image and a polygon for thirty days. A
list that is empty for want of an answer is kept as well, so an outage of the provider is
remembered, unless nobody asks again within those days.
-/

namespace Rails.DetectionCache

open Effects FeatureDetector OpenRouter ProviderFailures

/-- `CACHE_TTL`, in seconds. -/
def cacheTtl : ℚ := 30 * 24 * 60 * 60

/-- An entry of the cache. -/
structure Entry where
  features : List (Json ℚ)
  expiresAt : ℚ

/-- The features that the cache has under the key, at a time. -/
def live (cache : Option Entry) (now : ℚ) : Option (List (Json ℚ)) :=
  cache.bind fun entry => if now < entry.expiresAt then some entry.features else none

/-- A call of `detect`, when it is made and when it ends, with the replies of the provider. -/
structure Call where
  start : ℚ
  finish : ℚ
  replies : ℕ → ProviderReply

/-- A call and what it has come to. -/
structure Record where
  call : Call
  result : Except VlmExn (List (Json ℚ))
  /-- Whether the provider has been asked. -/
  queried : Bool

/-- The calls are made one after the other. -/
structure Sequential (calls : List Call) : Prop where
  ends : ∀ call ∈ calls, call.start ≤ call.finish
  follows : calls.Pairwise fun call later => call.finish ≤ later.start

theorem Sequential.tail {call : Call} {calls : List Call} (h : Sequential (call :: calls)) :
  Sequential calls
  := ⟨fun later hlater => h.ends later (List.mem_cons_of_mem _ hlater), h.follows.tail⟩

section Calls

variable [Platform] [Texts]

/-- What a call comes to for what the cache has. -/
def answer (d : OpenRouter) (url : String) (cached : Option (List (Json ℚ))) (call : Call) :
    Record :=
  let (result, c) := ((d.detect url cached).outcome ()).run (I := replying) ()
    (fun n _ => call.replies n) ⟨(), []⟩
  { call, result, queried := !c.past.isEmpty }

/-- `Rails.cache.fetch`: what the block yields is kept when nothing is live. -/
def fetch (d : OpenRouter) (url : String) (cache : Option Entry) (call : Call) :
    Option Entry × Record :=
  let cached := live cache call.start
  let record := answer d url cached call
  match cached, record.result with
  | none, .ok features => (some ⟨features, call.finish + cacheTtl⟩, record)
  | _, _ => (cache, record)

/-- The records of calls with the same image and polygon. -/
def history (d : OpenRouter) (url : String) : Option Entry → List Call → List Record
  | _, [] => []
  | cache, call :: calls =>
      let (cache', record) := fetch d url cache call
      record :: history d url cache' calls

/-! ### What is remembered -/

/-- The provider was asked, and has no usable answer. -/
def Failed (d : OpenRouter) (record : Record) : Prop :=
  record.queried = true ∧ ∀ raws rest, d.detections record.call.replies ≠ (.ok (some raws), rest)

/-- The provider was asked, and its answer was returned. -/
def Genuine (d : OpenRouter) (record : Record) : Prop :=
  record.queried = true ∧ (∃ raws rest, d.detections record.call.replies = (.ok (some raws), rest)) ∧
    ∃ features, record.result = .ok features

/-- A failure is not remembered: the next call asks the provider. An answer is, for as long as
the cache keeps it. -/
structure Remembers (d : OpenRouter) (records : List Record) : Prop where
  failure : records.IsChain fun record next => Failed d record → next.queried = true
  answer : records.Pairwise fun record later => Genuine d record →
    later.call.start < record.call.finish + cacheTtl →
      later.result = record.result ∧ later.queried = false

/-- The provider was asked, and the retries were exhausted. -/
def Exhausted (d : OpenRouter) (record : Record) : Prop :=
  record.queried = true ∧ ∃ rest, d.detections record.call.replies = (.ok none, rest)

/-- No call follows an exhausted one for as long as the cache keeps its empty list. -/
def Apart (d : OpenRouter) (records : List Record) : Prop :=
  records.IsChain fun record next =>
    Exhausted d record → record.call.finish + cacheTtl ≤ next.call.start

/-! ### Calls -/

section Ready

variable {d : OpenRouter} {url : String}

end Ready

/-! ### Histories -/

section History

variable {d : OpenRouter} {url : String}

end History

end Calls

/-! ### An outage -/

/-- A call whose requests time out. -/
def timedOut : Call where
  start := 0
  finish := 60
  replies := fun _ => .timeout "Net::ReadTimeout"

end Rails.DetectionCache
