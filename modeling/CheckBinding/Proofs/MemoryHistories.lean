import CheckBinding.Proofs.Memories

/-!
What the in-memory service comes to in the course of its life.

A history is any sequence of calls and of arrangements made from outside. A call does one of four
things: it reads, it is refused, it places a draft, or it places an update. From this it follows
what each call leaves as it is, what a history keeps, and that the logs and the number of calls tell
exactly what the service was asked and what it accepted.
-/

namespace CheckBinding.Api

def Call.Writes : Call → Prop
  | .create _ => True
  | .update _ => True
  | _ => False

namespace Memory

variable {memory : Memory} {call : Call} {answer : call.Answer} {after : Memory} {cid name : String}

/-! ### One call -/

def place (memory : Memory) (bundle : Bundle) : Memory :=
  (memory.mergeRoster bundle.cid bundle.metrics).insertBundle bundle

inductive Reacts (memory : Memory) : (call : Call) → call.Answer → Memory → Prop
  | reads {call : Call} {answer : call.Answer} (reading : ¬ call.Writes) :
      Reacts memory call answer memory.counted
  | refuses {call : Call} {fault : Fault} : Reacts memory call (.error fault) memory.counted
  | creates {draft : Bundle} :
      Reacts memory (.create draft) (.ok (assigned memory.nextId draft))
        ({ memory.counted with
            nextId := memory.nextId + 1
            created := memory.created ++ [draft] }.place (assigned memory.nextId draft))
  | updates {submitted : Bundle} (present : memory.bundles.contains submitted.cid = true) :
      Reacts memory (.update submitted) (.ok (revised submitted))
        ({ memory.counted with updated := memory.updated ++ [submitted] }.place
          (revised submitted))

theorem reacts (memory : Memory) (call : Call) :
    Reacts memory call (memory.answer call).1 (memory.answer call).2 := by
  rw [Memory.answer]
  split
  · exact .refuses
  · cases call with
    | fetchBrokers => exact .reads id
    | fetchBundle cid =>
        rw [carryOut]
        split <;> exact .reads id
    | search criteria filter => exact .reads id
    | create draft =>
        rw [carryOut, create]
        split
        · exact .refuses
        · exact .creates
    | update submitted =>
        rw [carryOut, update]
        split
        · next present => exact .updates present
        · exact .refuses
    | get path => exact .reads id

theorem Reacts.calls (reacts : Reacts memory call answer after) :
    after.calls = memory.calls + 1 := by
  cases reacts <;> rfl

/-- A call that fails leaves everything as it was, and is counted. -/
theorem Reacts.of_error {fault : Fault} (reacts : Reacts memory call (.error fault) after) :
    after = { memory with calls := memory.calls + 1 } := by
  cases reacts <;> rfl

theorem Reacts.of_create {draft bundle : Bundle}
    (reacts : Reacts memory (.create draft) (.ok bundle) after) :
    after.created = memory.created ++ [draft] ∧ after.updated = memory.updated := by
  cases reacts with
  | reads reading => exact absurd trivial reading
  | creates => exact ⟨rfl, rfl⟩

theorem Reacts.of_update {submitted bundle : Bundle}
    (reacts : Reacts memory (.update submitted) (.ok bundle) after) :
    after.updated = memory.updated ++ [submitted] ∧ after.created = memory.created := by
  cases reacts with
  | reads reading => exact absurd trivial reading
  | updates => exact ⟨rfl, rfl⟩

/-! ### What is kept -/

structure Consistent (memory : Memory) : Prop where
  own : ∀ cid bundle, memory.bundle? cid = some bundle → bundle.cid = cid
  unique : ∀ cid, (memory.listedNames cid).Nodup

theorem consistent_startingAt (nextId : Nat) : (startingAt nextId).Consistent := by
  constructor
  · intro cid bundle found
    cases found
  · intro cid
    exact List.nodup_nil

theorem Consistent.insertBundle (consistent : memory.Consistent) (bundle : Bundle) :
    (memory.insertBundle bundle).Consistent := by
  refine ⟨fun cid other found => ?_, consistent.unique⟩
  rw [bundle?_insertBundle] at found
  split at found
  · next same =>
    cases found
    exact same.symm
  · exact consistent.own cid other found

theorem Consistent.setRoster (consistent : memory.Consistent) {metrics : List MetricDefinition}
    (distinct : (metrics.map MetricDefinition.name).Nodup) (cid : String) :
    (memory.setRoster cid metrics).Consistent := by
  refine ⟨consistent.own, fun other => ?_⟩
  rw [listedNames, roster_setRoster]
  split
  · exact distinct
  · exact consistent.unique other

theorem Consistent.place (consistent : memory.Consistent) (bundle : Bundle) :
    (memory.place bundle).Consistent :=
  (consistent.setRoster (nodup_mergeMetrics (consistent.unique bundle.cid)) bundle.cid).insertBundle
    bundle

theorem Consistent.reacts (consistent : memory.Consistent)
    (reacts : Reacts memory call answer after) : after.Consistent := by
  cases reacts with
  | reads reading => exact ⟨consistent.own, consistent.unique⟩
  | refuses => exact ⟨consistent.own, consistent.unique⟩
  | @creates draft =>
      have numbered : Consistent { memory.counted with
          nextId := memory.nextId + 1
          created := memory.created ++ [draft] } := ⟨consistent.own, consistent.unique⟩
      exact numbered.place _
  | @updates submitted present =>
      have logged : Consistent { memory.counted with
          updated := memory.updated ++ [submitted] } := ⟨consistent.own, consistent.unique⟩
      exact logged.place _

/-! ### Histories -/

inductive Event where
  | brokersSet (brokers : List Broker)
  | bundleInserted (bundle : Bundle)
  | rosterSet (cid : String) (metrics : List MetricDefinition)
  | searchForced (bundles : List Bundle)
  | availabilitySet (unavailable : Bool)
  | called (call : Call)

/-- Rosters that are set repeat no name. -/
def Event.Tidy : Event → Prop
  | .rosterSet _ metrics => (metrics.map MetricDefinition.name).Nodup
  | _ => True

def next (memory : Memory) : Event → Memory
  | .brokersSet brokers => memory.setBrokers brokers
  | .bundleInserted bundle => memory.insertBundle bundle
  | .rosterSet cid metrics => memory.setRoster cid metrics
  | .searchForced bundles => memory.forceSearch bundles
  | .availabilitySet unavailable => memory.setUnavailable unavailable
  | .called call => (memory.answer call).2

def history (memory : Memory) (events : List Event) : Memory :=
  events.foldl next memory

theorem history_cons (memory : Memory) (event : Event) (events : List Event) :
    memory.history (event :: events) = (memory.next event).history events :=
  rfl

theorem Consistent.next (consistent : memory.Consistent) {event : Event} (tidy : event.Tidy) :
    (memory.next event).Consistent := by
  cases event with
  | brokersSet brokers => exact ⟨consistent.own, consistent.unique⟩
  | bundleInserted bundle => exact consistent.insertBundle bundle
  | rosterSet cid metrics => exact consistent.setRoster tidy cid
  | searchForced bundles => exact ⟨consistent.own, consistent.unique⟩
  | availabilitySet unavailable => exact ⟨consistent.own, consistent.unique⟩
  | called call => exact consistent.reacts (memory.reacts call)

theorem Consistent.history (consistent : memory.Consistent) {events : List Event}
    (tidy : ∀ event ∈ events, event.Tidy) : (memory.history events).Consistent := by
  induction events generalizing memory with
  | nil => exact consistent
  | cons event events ih =>
      exact ih (consistent.next (tidy event List.mem_cons_self))
        (fun other member => tidy other (List.mem_cons_of_mem event member))

/-! ### What the logs tell -/

structure Record where
  call : Call
  answer : call.Answer

def records (memory : Memory) : List Event → List Record
  | [] => []
  | event :: events =>
      match event with
      | .called call => ⟨call, (memory.answer call).1⟩ :: records (memory.answer call).2 events
      | event => records (memory.next event) events

def Record.creation? : Record → Option Bundle
  | ⟨.create draft, .ok _⟩ => some draft
  | _ => none

def Record.update? : Record → Option Bundle
  | ⟨.update submitted, .ok _⟩ => some submitted
  | _ => none

/-- The books after some records: what was called and what was accepted is added. -/
structure Books (records : List Record) (before after : Memory) : Prop where
  calls : after.calls = before.calls + records.length
  created : after.created = before.created ++ records.filterMap Record.creation?
  updated : after.updated = before.updated ++ records.filterMap Record.update?

theorem Reacts.books (reacts : Reacts memory call answer after) :
    Books [⟨call, answer⟩] memory after := by
  have unread : ∀ (call : Call) (answer : call.Answer), ¬ call.Writes →
      Record.creation? ⟨call, answer⟩ = none ∧ Record.update? ⟨call, answer⟩ = none := by
    intro call answer reading
    cases call with
    | create draft => exact absurd trivial reading
    | update submitted => exact absurd trivial reading
    | _ => exact ⟨rfl, rfl⟩
  have unaccepted : ∀ (call : Call) (fault : Fault),
      Record.creation? ⟨call, .error fault⟩ = none ∧
        Record.update? ⟨call, .error fault⟩ = none := by
    intro call fault
    cases call <;> exact ⟨rfl, rfl⟩
  cases reacts with
  | reads reading =>
      obtain ⟨uncreated, unchanged⟩ := unread _ answer reading
      exact ⟨rfl, by simp [uncreated, counted], by simp [unchanged, counted]⟩
  | @refuses _ fault =>
      obtain ⟨uncreated, unchanged⟩ := unaccepted call fault
      exact ⟨rfl, by simp [uncreated, counted], by simp [unchanged, counted]⟩
  | creates => exact ⟨rfl, rfl, (List.append_nil _).symm⟩
  | updates => exact ⟨rfl, (List.append_nil _).symm, rfl⟩

theorem Books.trans {first second : List Record} {between : Memory}
    (earlier : Books first memory between) (later : Books second between after) :
    Books (first ++ second) memory after := by
  refine ⟨?_, ?_, ?_⟩
  · rw [later.calls, earlier.calls, List.length_append, Nat.add_assoc]
  · rw [later.created, earlier.created, List.filterMap_append, List.append_assoc]
  · rw [later.updated, earlier.updated, List.filterMap_append, List.append_assoc]

theorem books_refl (memory : Memory) : Books [] memory memory :=
  ⟨rfl, (List.append_nil _).symm, (List.append_nil _).symm⟩

theorem books_history (memory : Memory) (events : List Event) :
    Books (memory.records events) memory (memory.history events) := by
  induction events generalizing memory with
  | nil => exact memory.books_refl
  | cons event events ih =>
      rw [history_cons]
      cases event with
      | called call => exact (memory.reacts call).books.trans (ih _)
      | _ => exact ⟨(ih _).calls, (ih _).created, (ih _).updated⟩

/-- Whatever a service is asked and whatever is arranged, each bundle stands under its own
identifier and no roster repeats a name. A call is counted, takes no name off a roster, and when it
fails leaves all else as it was; when it creates or updates, what was submitted is logged. So the
logs of a history are what was accepted in its course. -/
theorem history_consistent (nextId : Nat) {events : List Event}
    (tidy : ∀ event ∈ events, event.Tidy) :
    let start := startingAt nextId
    let memory := start.history events
    (∀ cid bundle, memory.bundle? cid = some bundle → bundle.cid = cid) ∧
    (∀ cid, (memory.listedNames cid).Nodup) ∧
    (∀ call, (memory.answer call).2.calls = memory.calls + 1 ∧
      (∀ cid, memory.listedNames cid ⊆ (memory.answer call).2.listedNames cid) ∧
      ∀ fault, (memory.answer call).1 = .error fault →
        (memory.answer call).2 = { memory with calls := memory.calls + 1 }) ∧
    (∀ draft bundle, (memory.answer (.create draft)).1 = .ok bundle →
      (memory.answer (.create draft)).2.created = memory.created ++ [draft] ∧
        (memory.answer (.create draft)).2.updated = memory.updated) ∧
    (∀ submitted bundle, (memory.answer (.update submitted)).1 = .ok bundle →
      (memory.answer (.update submitted)).2.updated = memory.updated ++ [submitted] ∧
        (memory.answer (.update submitted)).2.created = memory.created) ∧
    memory.calls = (start.records events).length ∧
    memory.created = (start.records events).filterMap Record.creation? ∧
    memory.updated = (start.records events).filterMap Record.update? := by
  intro start memory
  have consistent : memory.Consistent := (consistent_startingAt nextId).history tidy
  have books : Books (start.records events) start memory := start.books_history events
  refine ⟨consistent.own, consistent.unique, fun call => ⟨(memory.reacts call).calls,
    fun cid name listed => listedNames_answer call listed, fun fault failed => ?_⟩,
    fun draft bundle accepted => ?_, fun submitted bundle accepted => ?_, ?_, books.created,
    books.updated⟩
  · have reacts := memory.reacts call
    rw [failed] at reacts
    exact reacts.of_error
  · have reacts := memory.reacts (.create draft)
    rw [accepted] at reacts
    exact reacts.of_create
  · have reacts := memory.reacts (.update submitted)
    rw [accepted] at reacts
    exact reacts.of_update
  · rw [books.calls]
    exact Nat.zero_add _

/-- A draft is created, the update of an unknown bundle is refused, and the new bundle is searched
for in vain during an outage: three calls, one of which is logged. -/
theorem history_consistent_outage :
    let load : MetricDefinition := .ofKind "load" .numeric "active"
    let users : MetricDefinition := .ofKind "users" .text "active"
    let draft : Bundle := { Bundle.blank with
      target := "web01", brokers := ["/broker/1"], metrics := [users] }
    let events : List Event := [.rosterSet "/check_bundle/7" [load], .called (.create draft),
      .called (.update { draft with cid := "/check_bundle/8" }), .availabilitySet true,
      .called (.search "(type:)" none)]
    let memory := (startingAt 7).history events
    (∀ event ∈ events, event.Tidy) ∧ memory.listedNames "/check_bundle/7" = ["load", "users"] ∧
      memory.calls = 3 ∧ memory.created = [draft] ∧ memory.updated = [] := by
  intro load users draft events memory
  have tidy : ∀ event ∈ events, event.Tidy := by
    simp only [events, List.forall_mem_cons]
    exact ⟨List.nodup_singleton _, trivial, trivial, trivial, trivial, List.forall_mem_nil _⟩
  have listed : memory.listedNames "/check_bundle/7" = ["load", "users"] := by decide +kernel
  have accepted : ((startingAt 7).records events).filterMap Record.creation? = [draft] := by
    decide +kernel
  have refused : ((startingAt 7).records events).filterMap Record.update? = [] := by
    decide +kernel
  obtain ⟨-, -, -, -, -, calls, created, updated⟩ := history_consistent 7 tidy
  exact ⟨tidy, listed, calls, created.trans accepted, updated.trans refused⟩

end Memory
end CheckBinding.Api
