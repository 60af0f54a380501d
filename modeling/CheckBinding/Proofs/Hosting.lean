import CheckBinding.Api.Service
import CheckBinding.Proofs.Json.Bundles
import CheckBinding.Proofs.Memories

/-!
A client of a service that is kept in memory.

`Hosts` says what becomes of a call on the way: a transport takes its request to a memory, which
carries the call out, and the answer comes back as a response. The client then makes of it what the
memory answered. Documents go both ways, so this is about bundles that a document can carry.
-/

namespace CheckBinding

open Json

namespace Api

/-! ### Responses -/

theorem Memory.serve_cases (memory : Memory) (path : String) :
    (∃ bytes, memory.serve path = .ok bytes) ∨ memory.serve path = .error (.notFound path) := by
  unfold Memory.serve
  split
  · split
    · exact Or.inl ⟨_, rfl⟩
    · exact Or.inr rfl
  · split
    · exact Or.inl ⟨_, rfl⟩
    · exact Or.inr rfl

namespace Http

def documentOf : (call : Call) → call.Payload → ByteArray
  | .fetchBrokers, brokers => (Json.array (brokers.map Broker.toJson)).toBytes
  | .fetchBundle _, bundle => bundle.toJson.toBytes
  | .search _ _, bundles => (Json.array (bundles.map Bundle.toJson)).toBytes
  | .create _, bundle => bundle.toJson.toBytes
  | .update _, bundle => bundle.toJson.toBytes
  | .get _, bytes => bytes

theorem decode_of_carries {Value : Type} {decoder : Decoder Value} {document : Json}
    {value : Value} (carries : Carries decoder document value) :
    decode decoder document.toBytes = .ok value := by
  rw [decode, carries.decodeBytes]
  rfl

def Conveys (call : Call) (answer : call.Answer) (response : Response) : Prop :=
  match answer with
  | .ok payload => response.status = 200 ∧ response.body = documentOf call payload
  | .error (.notFound _) => response.status = 404
  | .error (.status code _ body) => response.status = code ∧ response.body = body.toUTF8
  | .error _ => True

def responseTo (call : Call) : call.Answer → Response
  | .ok payload => ⟨200, documentOf call payload⟩
  | .error (.status code _ body) => ⟨code, body.toUTF8⟩
  | .error _ => ⟨404, ByteArray.empty⟩

theorem conveys_responseTo (call : Call) (answer : call.Answer) :
    Conveys call answer (responseTo call answer) := by
  cases answer with
  | ok payload => exact ⟨rfl, rfl⟩
  | error fault =>
      cases fault with
      | status code path body => exact ⟨rfl, rfl⟩
      | notFound path => rfl
      | _ => trivial

theorem lossy_unavailable : Text.lossy "service unavailable".toUTF8 = "service unavailable" := by
  decide +kernel

def respond (memory : Memory) (call : Call) : Response × Memory :=
  (responseTo call (memory.answer call).1, (memory.answer call).2)

theorem respond_search (memory : Memory) (criteria : String) (first second : Option SearchFilter) :
    respond memory (.search criteria first) = respond memory (.search criteria second) := by
  unfold respond Memory.answer
  split <;> rfl

theorem respond_get {memory : Memory} {cid : String}
    (canonical : Cid.isCanonical .checkBundle cid = true) :
    respond memory (.get cid) = respond memory (.fetchBundle cid) := by
  unfold respond Memory.answer
  split
  · rfl
  · rw [Memory.carryOut, Memory.carryOut, Memory.serve,
      Cid.after?_rosterPath_of_isCanonical canonical]
    dsimp only [Option.isSome_none, Bool.false_eq_true, if_false]
    cases memory.counted.bundle? cid <;> rfl

end Http
end Api

variable [Pattern.Engine]

structure Bundle.Portable (bundle : Bundle) : Prop where
  canonical : Cid.isCanonical .checkBundle bundle.cid = true
  transferable : bundle.Transferable

namespace Api

/-! ### What a memory answers -/

/-- Arguments that the service takes: a draft is complete, and an update has a place to go to. -/
def Call.Admissible : Call → Prop
  | .create draft => draft.Transferable ∧ draft.target ≠ "" ∧ draft.brokers ≠ []
  | .update bundle => bundle.Transferable ∧ bundle.cid ≠ ""
  | _ => True

/-- Calls that their requests tell apart, with arguments that the service takes. -/
def Call.Proper : Call → Prop
  | .fetchBundle cid => Cid.isCanonical .checkBundle cid = true
  | .create draft => draft.Transferable ∧ draft.target ≠ "" ∧ draft.brokers ≠ []
  | .update bundle => bundle.Portable
  | .get path => (Text.after? Cid.rosterPath path).isSome = true
  | _ => True

theorem Call.Proper.admissible {call : Call} (proper : call.Proper) : call.Admissible := by
  cases call with
  | create draft => exact proper
  | update bundle =>
      refine ⟨proper.transferable, ?_⟩
      intro empty
      have canonical := proper.canonical
      rw [empty] at canonical
      exact absurd canonical (by decide)
  | _ => trivial

def Call.Bears : (call : Call) → call.Payload → Prop
  | .fetchBundle _, bundle => bundle.Portable
  | .search _ _, bundles => ∀ bundle ∈ bundles, bundle.Portable
  | .create _, bundle => bundle.Portable
  | .update _, bundle => bundle.Portable
  | _, _ => True

inductive Replies (call : Call) : call.Answer → Prop
  | found {payload : call.Payload} (bears : call.Bears payload) : Replies call (.ok payload)
  | missing : Replies call (.error (.notFound call.path))
  | unavailable : Replies call (.error (Memory.unavailableFault call.path))

namespace Memory

variable {memory : Memory} {call : Call}

structure Portable (memory : Memory) : Prop where
  wellKept : memory.WellKept
  stored : ∀ cid bundle, memory.bundle? cid = some bundle → bundle.Transferable
  forced : ∀ bundles, memory.searchOverride = some bundles → ∀ bundle ∈ bundles, bundle.Portable

theorem portable_fresh : fresh.Portable := by
  refine ⟨wellKept_fresh, ?_, ?_⟩
  · intro cid bundle found
    cases found
  · intro bundles forced
    cases forced

theorem Portable.bundle (portable : memory.Portable) {cid : String} {bundle : Bundle}
    (found : memory.bundle? cid = some bundle) : bundle.Portable := by
  have own := portable.wellKept.own cid bundle found
  have canonical := portable.wellKept.canonical cid bundle found
  exact ⟨own ▸ canonical, portable.stored cid bundle found⟩

theorem Portable.found (portable : memory.Portable) (criteria : String) :
    ∀ bundle ∈ memory.found criteria, bundle.Portable := by
  intro bundle member
  unfold Memory.found at member
  split at member
  · next bundles forced => exact portable.forced bundles forced bundle member
  · obtain ⟨cid, stored⟩ := NameMap.mem_values_iff.mp (List.mem_filter.mp member).1
    exact portable.bundle stored

theorem Portable.counted (portable : memory.Portable) : memory.counted.Portable :=
  ⟨portable.wellKept.counted, portable.stored, portable.forced⟩

theorem Portable.mergeRoster (portable : memory.Portable) (cid : String)
    (metrics : List MetricDefinition) : (memory.mergeRoster cid metrics).Portable :=
  ⟨⟨portable.wellKept.own, portable.wellKept.canonical⟩, portable.stored, portable.forced⟩

theorem Portable.insertBundle (portable : memory.Portable) {bundle : Bundle}
    (sound : bundle.Portable) : (memory.insertBundle bundle).Portable := by
  refine ⟨portable.wellKept.insertBundle sound.canonical, ?_, portable.forced⟩
  intro cid other found
  rw [bundle?_insertBundle] at found
  by_cases same : cid = bundle.cid
  · rw [if_pos same] at found
    cases found
    exact sound.transferable
  · rw [if_neg same] at found
    exact portable.stored cid other found

theorem portable_assigned {draft : Bundle} (transferable : draft.Transferable) (number : UInt64) :
    (assigned number draft).Portable :=
  ⟨Cid.isCanonical_decimal .checkBundle number.toNat,
    transferable.filters, transferable.finite⟩

theorem portable_revised {bundle : Bundle} (portable : bundle.Portable) :
    (revised bundle).Portable :=
  ⟨portable.canonical, portable.transferable.filters, portable.transferable.finite⟩

/-- Carrying out an admissible call keeps a memory portable, and so is what it answers. -/
theorem Portable.carryOut (portable : memory.Portable) (admissible : call.Admissible) :
    Replies call (memory.carryOut call).1 ∧ (memory.carryOut call).2.Portable := by
  cases call with
  | fetchBrokers => exact ⟨.found trivial, portable⟩
  | fetchBundle cid =>
      rw [Memory.carryOut]
      cases found : memory.bundle? cid with
      | none => exact ⟨.missing, portable⟩
      | some bundle =>
          have bears : (Call.fetchBundle cid).Bears bundle := portable.bundle found
          exact ⟨.found bears, portable⟩
  | search criteria filter => exact ⟨.found (portable.found criteria), portable⟩
  | create draft =>
      obtain ⟨transferable, targeted, bound⟩ := admissible
      have sound := portable_assigned transferable memory.nextId
      have numbered : Portable { memory with
          nextId := memory.nextId + 1, created := memory.created ++ [draft] } :=
        ⟨⟨portable.wellKept.own, portable.wellKept.canonical⟩, portable.stored, portable.forced⟩
      have bears : (Call.create draft).Bears (assigned memory.nextId draft) := sound
      rw [Memory.carryOut, Memory.create, if_neg (not_or.mpr ⟨targeted, bound⟩)]
      exact ⟨.found bears, (numbered.mergeRoster _ _).insertBundle sound⟩
  | update bundle =>
      obtain ⟨transferable, -⟩ := admissible
      rw [Memory.carryOut, Memory.update]
      by_cases present : memory.bundles.contains bundle.cid = true
      · obtain ⟨held, found⟩ := NameMap.contains_iff.mp present
        have canonical := portable.wellKept.canonical bundle.cid held found
        have sound := portable_revised ⟨canonical, transferable⟩
        have logged : Portable { memory with updated := memory.updated ++ [bundle] } :=
          ⟨⟨portable.wellKept.own, portable.wellKept.canonical⟩, portable.stored,
            portable.forced⟩
        have bears : (Call.update bundle).Bears (revised bundle) := sound
        rw [if_pos present]
        exact ⟨.found bears, (logged.mergeRoster _ _).insertBundle sound⟩
      · rw [if_neg present]
        exact ⟨.missing, portable⟩
  | get path =>
      rw [Memory.carryOut]
      rcases memory.serve_cases path with ⟨bytes, served⟩ | missing
      · rw [served]
        exact ⟨.found trivial, portable⟩
      · rw [missing]
        exact ⟨.missing, portable⟩

theorem Portable.answer (portable : memory.Portable) (admissible : call.Admissible) :
    Replies call (memory.answer call).1 ∧ (memory.answer call).2.Portable := by
  unfold Memory.answer
  split
  · exact ⟨.unavailable, portable.counted⟩
  · exact portable.counted.carryOut admissible

end Memory

/-! ### On the way -/

namespace Http

theorem payload_documentOf {call : Call} {payload : call.Payload} (bears : call.Bears payload) :
    Http.payload call (documentOf call payload) = .ok payload := by
  cases call with
  | fetchBrokers => exact decode_of_carries (carries_list (fun broker _ => broker.carries))
  | fetchBundle cid => exact decode_of_carries bears.transferable.carries
  | search criteria filter =>
      exact decode_of_carries
        (carries_list (fun bundle member => (bears bundle member).transferable.carries))
  | create draft => exact decode_of_carries bears.transferable.carries
  | update bundle => exact decode_of_carries bears.transferable.carries
  | get path => rfl

inductive Asks (address : String) (request : Request) : Call → Prop
  | brokers (reads : request.method = .get) (url : request.url = address ++ "/broker") :
      Asks address request .fetchBrokers
  | fetch {cid : String} (reads : request.method = .get) (url : request.url = address ++ cid) :
      Asks address request (.fetchBundle cid)
  | search {criteria : String} {filter : Option SearchFilter} (reads : request.method = .get)
      (url : request.url = address ++ "/check_bundle")
      (query : request.query = searchQuery criteria filter) :
      Asks address request (.search criteria filter)
  | create {draft : Bundle} {body : ByteArray} (posts : request.method = .post)
      (url : request.url = address ++ "/check_bundle") (submits : request.body = some body)
      (read : decodeBytes Bundle.ofJson body = .ok draft) : Asks address request (.create draft)
  | update {bundle : Bundle} {body : ByteArray} (puts : request.method = .put)
      (url : request.url = address ++ bundle.cid) (submits : request.body = some body)
      (read : decodeBytes Bundle.ofJson body = .ok bundle) : Asks address request (.update bundle)
  | get {path : String} (reads : request.method = .get) (url : request.url = address ++ path) :
      Asks address request (.get path)

/-- A transport takes a call to a memory, and what the memory answers comes back. -/
def Hosts (address : String) (transport : Transport Memory) (memory : Memory) (call : Call) :
    Prop :=
  ∀ request, Asks address request call → ∃ response,
    transport memory request = (.ok response, (memory.answer call).2) ∧
      Conveys call (memory.answer call).1 response

/-- A transport that leads to a memory whatever is properly asked. -/
def Provides (address : String) (transport : Transport Memory) : Prop :=
  ∀ memory : Memory, memory.Portable → ∀ call : Call, call.Proper →
    Hosts address transport memory call

theorem asks_request (client : Client) {call : Call} (admissible : call.Admissible) :
    ∃ request, client.request call = .ok request ∧ Asks client.baseUrl request call := by
  cases call with
  | fetchBrokers => exact ⟨_, rfl, .brokers rfl rfl⟩
  | fetchBundle cid => exact ⟨_, rfl, .fetch rfl rfl⟩
  | search criteria filter => exact ⟨_, rfl, .search rfl rfl rfl⟩
  | create draft => exact ⟨_, rfl, .create rfl rfl rfl admissible.1.carries.decodeBytes⟩
  | update bundle =>
      exact ⟨_, if_neg admissible.2, .update rfl rfl rfl admissible.1.carries.decodeBytes⟩
  | get path => exact ⟨_, rfl, .get rfl rfl⟩

/-- The client reads a response as what it says. -/
theorem interpret_conveyed {call : Call} {answer : call.Answer} {response : Response}
    (replies : Replies call answer) (conveys : Conveys call answer response) :
    interpret call (.ok response) = answer := by
  rw [interpret, bodyOf]
  cases replies with
  | found bears =>
      obtain ⟨status, body⟩ := conveys
      rw [status, body]
      exact payload_documentOf bears
  | missing =>
      have status : response.status = 404 := conveys
      rw [status]
      rfl
  | unavailable =>
      obtain ⟨status, body⟩ := conveys
      rw [status, body, lossy_unavailable]
      rfl

/-- Where a call is hosted, the client answers as the memory does. -/
theorem answer_eq_of_hosts {client : Client} {transport : Transport Memory} {memory : Memory}
    {call : Call} (portable : memory.Portable) (admissible : call.Admissible)
    (hosts : Hosts client.baseUrl transport memory call) :
    client.answer transport memory call = memory.answer call := by
  obtain ⟨request, made, asks⟩ := asks_request client admissible
  obtain ⟨response, carried, conveys⟩ := hosts request asks
  unfold Client.answer
  rw [made]
  dsimp only
  rw [carried]
  dsimp only
  rw [interpret_conveyed (portable.answer admissible).1 conveys]

/-! ### A server -/

def submitted? (request : Request) : Option Bundle :=
  request.body.bind (fun body => (decodeBytes Bundle.ofJson body).toOption)

def route (request : Request) (path : String) : Option Call :=
  match request.method with
  | .get =>
      if path = "/broker" then some .fetchBrokers
      else if path = "/check_bundle" then
        (request.query.lookup "search").map (fun criteria => .search criteria none)
      else some (.get path)
  | .post => if path = "/check_bundle" then (submitted? request).map .create else none
  | .put => ((submitted? request).filter (fun bundle => bundle.cid = path)).map .update

/-- A server below an address that keeps everything in memory. -/
def serving (address : String) : Transport Memory := fun memory request =>
  match (Text.after? address request.url).bind (route request) with
  | none => (.ok ⟨404, ByteArray.empty⟩, memory)
  | some call => (.ok (respond memory call).1, (respond memory call).2)

theorem serving_eq {address path : String} {memory : Memory} {request : Request} {call : Call}
    (url : request.url = address ++ path) (routed : route request path = some call) :
    serving address memory request = (.ok (respond memory call).1, (respond memory call).2) := by
  have below : Text.after? address request.url = some path := by
    rw [url]
    exact Text.after?_append address path
  unfold serving
  rw [below, Option.bind_some, routed]

theorem submitted?_eq {request : Request} {body : ByteArray} {bundle : Bundle}
    (submits : request.body = some body)
    (read : decodeBytes Bundle.ofJson body = .ok bundle) :
    submitted? request = some bundle := by
  unfold submitted?
  rw [submits, Option.bind_some, read]
  rfl

/-- A path that is routed as it is. -/
theorem route_get {request : Request} {path : String} (reads : request.method = .get)
    (brokers : path ≠ "/broker") (bundles : path ≠ "/check_bundle") :
    route request path = some (.get path) := by
  unfold route
  rw [reads]
  dsimp only
  rw [if_neg brokers, if_neg bundles]

/-- The server hosts every proper call. -/
theorem provides_serving (address : String) : Provides address (serving address) := by
  intro memory _ call proper request asks
  have hosted : serving address memory request =
      (.ok (respond memory call).1, (respond memory call).2) := by
    cases asks with
    | brokers reads url =>
        have routed : route request "/broker" = some .fetchBrokers := by
          unfold route
          rw [reads]
          rfl
        exact serving_eq url routed
    | @fetch cid reads url =>
        have canonical : Cid.isCanonical .checkBundle cid = true := proper
        have brokers : cid ≠ "/broker" := by
          rintro rfl
          exact absurd canonical (by decide)
        have bundles : cid ≠ "/check_bundle" := by
          rintro rfl
          exact absurd canonical (by decide)
        rw [serving_eq url (route_get reads brokers bundles), respond_get canonical]
    | @search criteria filter reads url query =>
        have routed : route request "/check_bundle" = some (.search criteria none) := by
          unfold route
          rw [reads, query]
          rfl
        rw [serving_eq url routed, respond_search memory criteria none filter]
    | @create draft body posts url submits read =>
        have routed : route request "/check_bundle" = some (.create draft) := by
          unfold route
          rw [posts, submitted?_eq submits read]
          rfl
        exact serving_eq url routed
    | @update bundle body puts url submits read =>
        have routed : route request bundle.cid = some (.update bundle) := by
          unfold route
          rw [puts, submitted?_eq submits read]
          simp
        exact serving_eq url routed
    | @get path reads url =>
        have below : (Text.after? Cid.rosterPath path).isSome = true := proper
        have brokers : path ≠ "/broker" := by
          rintro rfl
          exact absurd below (by decide)
        have bundles : path ≠ "/check_bundle" := by
          rintro rfl
          exact absurd below (by decide)
        exact serving_eq url (route_get reads brokers bundles)
  exact ⟨_, hosted, conveys_responseTo call _⟩

end Http
end Api
end CheckBinding
