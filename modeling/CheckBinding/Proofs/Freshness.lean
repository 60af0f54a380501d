import CheckBinding.Proofs.Bindings
import CheckBinding.Proofs.MetricStores

/-!
How old the knowledge behind an update may be.

A store notes the moment at which it was refreshed last. It is refreshed by reading a roster, and by
the answer to an update. Before new metrics are told from known ones the clock is looked at, and a
store that is too old reads the roster again. So an update rests on a refresh that was recent when
the clock was looked at, but not always on a recent look at the roster.
-/

namespace CheckBinding

open Program

/-! ### What is learnt from a transcript -/

/-- The metrics that an exchange lists: those on a roster, or those of an updated bundle. -/
def Exchange.listing? : Exchange → Option (List MetricDefinition)
  | ⟨.call (.get _), .ok bytes⟩ => (Json.decodeBytes MetricStore.rosterOfJson bytes).toOption
  | ⟨.call (.update _), .ok updated⟩ => some updated.metrics
  | _ => none

def Exchange.moment? : Exchange → Option Nat
  | ⟨.clock, now⟩ => some now
  | _ => none

namespace Transcript

variable {past first second transcript : Transcript}

def moments (transcript : Transcript) : List Nat :=
  transcript.filterMap Exchange.moment?

/-- Metrics were listed, and the next look at the clock gave this moment. -/
def LearntAt (transcript : Transcript) (moment : Nat) : Prop :=
  ∃ before exchange after, transcript = before ++ exchange :: ⟨.clock, moment⟩ :: after ∧
    exchange.listing?.isSome = true

def Lists (transcript : Transcript) (name : String) : Prop :=
  ∃ exchange ∈ transcript, ∃ metrics, exchange.listing? = some metrics ∧
    name ∈ metrics.map MetricDefinition.name

def ReadsRoster (transcript : Transcript) : Prop :=
  ∃ path bytes metrics, transcript.Answered (.get path) (.ok bytes) ∧
    Json.decodeBytes MetricStore.rosterOfJson bytes = .ok metrics

theorem LearntAt.append {moment : Nat} (learnt : first.LearntAt moment) (second : Transcript) :
    LearntAt (first ++ second) moment := by
  obtain ⟨before, exchange, after, rfl, listed⟩ := learnt
  exact ⟨before, exchange, after ++ second, by simp, listed⟩

theorem ReadsRoster.append (read : first.ReadsRoster) (second : Transcript) :
    ReadsRoster (first ++ second) := by
  obtain ⟨path, bytes, metrics, answered, decoded⟩ := read
  exact ⟨path, bytes, metrics, answered_append.mpr (Or.inl answered), decoded⟩

theorem lists_append {name : String} :
    Lists (first ++ second) name ↔ Lists first name ∨ Lists second name := by
  simp only [Lists, List.mem_append, or_and_right, exists_or]

theorem moments_append : moments (first ++ second) = moments first ++ moments second :=
  List.filterMap_append

theorem unlisted_of_uncalled (unread : ∀ path, .get path ∉ transcript.calls)
    (updating : ∀ bundle, .update bundle ∉ transcript.calls) :
    ∀ exchange ∈ transcript, exchange.listing? = none := by
  intro exchange member
  obtain ⟨effect, reply⟩ := exchange
  cases effect with
  | call call =>
      cases call with
      | get path => exact absurd (mem_calls.mpr ⟨reply, member⟩) (unread path)
      | update bundle => exact absurd (mem_calls.mpr ⟨reply, member⟩) (updating bundle)
      | _ => rfl
  | _ => rfl

/-! ### Updates and what came before them -/

/-- Something holds of each update that is asked for, and of all that came before it. -/
def EachUpdate (holds : Transcript → Bundle → Prop) : Transcript → Transcript → Prop
  | _, [] => True
  | past, exchange :: rest =>
      (∀ submitted answer, exchange = ⟨.call (.update submitted), answer⟩ → holds past submitted) ∧
        EachUpdate holds (past ++ [exchange]) rest

variable {holds : Transcript → Bundle → Prop}

theorem eachUpdate_append :
    EachUpdate holds past (first ++ second) ↔
      EachUpdate holds past first ∧ EachUpdate holds (past ++ first) second := by
  induction first generalizing past with
  | nil => simp [EachUpdate]
  | cons exchange first ih =>
      rw [List.cons_append, EachUpdate, EachUpdate, ih, and_assoc, List.append_assoc,
        List.singleton_append]

theorem eachUpdate_of_uncalled (uncalled : ∀ bundle, .update bundle ∉ transcript.calls) :
    EachUpdate holds past transcript := by
  induction transcript generalizing past with
  | nil => trivial
  | cons exchange rest ih =>
      refine ⟨fun submitted answer same => ?_, ih (fun bundle called => ?_)⟩
      · rw [same] at uncalled
        exact absurd List.mem_cons_self (uncalled submitted)
      · obtain ⟨answer, member⟩ := mem_calls.mp called
        exact uncalled bundle (mem_calls.mpr ⟨answer, List.mem_cons_of_mem exchange member⟩)

theorem EachUpdate.holds_of_split {submitted : Bundle} {answer : (Api.Call.update submitted).Answer}
    {later : Transcript} (each : EachUpdate holds [] transcript)
    (split : transcript = past ++ ⟨.call (.update submitted), answer⟩ :: later) :
    holds past submitted := by
  subst split
  exact (eachUpdate_append.mp each).2.1 submitted answer rfl

end Transcript

open Transcript (EachUpdate)

/-! ### Stores -/

namespace MetricStore

variable {past transcript : Transcript} {store fresh : MetricStore} {ttl : Duration}

/-- A store knows all that has been listed, and notes when it learnt of it. -/
structure Informed (ttl : Duration) (past : Transcript) (store : MetricStore) : Prop where
  span : store.ttl = ttl
  refreshed : ∀ moment, store.lastRefresh = some moment → past.LearntAt moment ∧ past.ReadsRoster
  knows : ∀ name, past.Lists name → store.knows name = true

theorem Informed.append (informed : store.Informed ttl past)
    (unlisted : ∀ exchange ∈ transcript, exchange.listing? = none) :
    store.Informed ttl (past ++ transcript) := by
  refine ⟨informed.span, fun moment noted => ?_, fun name listed => ?_⟩
  · obtain ⟨learnt, read⟩ := informed.refreshed moment noted
    exact ⟨learnt.append transcript, read.append transcript⟩
  · rcases Transcript.lists_append.mp listed with before | now
    · exact informed.knows name before
    · obtain ⟨exchange, member, metrics, listing, -⟩ := now
      rw [unlisted exchange member] at listing
      cases listing

theorem Informed.next (informed : store.Informed ttl past) {exchange : Exchange}
    (unlisted : exchange.listing? = none) : store.Informed ttl (past ++ [exchange]) := by
  refine informed.append (fun other member => ?_)
  rw [List.mem_singleton.mp member]
  exact unlisted

theorem Informed.markPending (informed : store.Informed ttl past) :
    store.markPending.Informed ttl past :=
  ⟨informed.span, informed.refreshed, informed.knows⟩

theorem Informed.merge (informed : store.Informed ttl past) {exchange : Exchange}
    {metrics : List MetricDefinition} (listing : exchange.listing? = some metrics)
    (read : Transcript.ReadsRoster (past ++ [exchange])) (now : Nat) :
    (store.merge metrics now).Informed ttl (past ++ [exchange, ⟨.clock, now⟩]) := by
  have together : past ++ [exchange, ⟨.clock, now⟩] = (past ++ [exchange]) ++ [⟨.clock, now⟩] := by
    simp
  refine ⟨informed.span, fun moment noted => ?_, fun name listed => ?_⟩
  · cases noted
    refine ⟨⟨past, exchange, [], rfl, by rw [listing]; rfl⟩, ?_⟩
    rw [together]
    exact read.append _
  · rw [knows_merge]
    rcases Transcript.lists_append.mp listed with before | now
    · exact Or.inl (informed.knows name before)
    · obtain ⟨other, member, others, same, named⟩ := now
      rcases List.mem_cons.mp member with rfl | last
      · cases listing.symm.trans same
        exact Or.inr named
      · rw [List.mem_singleton.mp last] at same
        cases same

theorem unlisted_of_stores (stores : ∀ exchange ∈ transcript, exchange.effect.Stores) :
    ∀ exchange ∈ transcript, exchange.listing? = none := by
  have uncalled := Transcript.calls_of_stores stores
  refine Transcript.unlisted_of_uncalled (fun path called => ?_) (fun bundle called => ?_)
  · rw [uncalled] at called
    cases called
  · rw [uncalled] at called
    cases called

theorem moments_of_stores (stores : ∀ exchange ∈ transcript, exchange.effect.Stores) :
    transcript.moments = [] := by
  refine List.filterMap_eq_nil_iff.mpr (fun exchange member => ?_)
  have stored := stores exchange member
  obtain ⟨effect, reply⟩ := exchange
  cases effect with
  | storage operation => rfl
  | _ => exact stored.elim

theorem Refreshing.informed {cid : String} {outcome : Except CheckFault Bool}
    (refreshing : store.Refreshing cid transcript fresh outcome)
    (informed : store.Informed ttl past) : fresh.Informed ttl (past ++ transcript) := by
  cases refreshing with
  | @unread answer activity source failed =>
      refine informed.append (fun exchange member => ?_)
      rw [List.mem_singleton.mp member]
      cases answer with
      | error fault => rfl
      | ok bytes =>
          obtain ⟨reason, undecoded⟩ := failed bytes rfl
          rw [Exchange.listing?, undecoded]
          rfl
  | @read bytes metrics now writes persisted decoded written =>
      have stores := ((persist_stores _).course written).1
      have listing : Exchange.listing? ⟨.call (.get (Cid.rosterOf cid)), .ok bytes⟩ =
          some metrics := by
        rw [Exchange.listing?, decoded]
        rfl
      have read : Transcript.ReadsRoster (past ++ [⟨.call (.get (Cid.rosterOf cid)), .ok bytes⟩]) :=
        ⟨_, bytes, metrics, List.mem_append_right past (List.mem_singleton_self _), decoded⟩
      have merged := (informed.merge listing read now).append (unlisted_of_stores stores)
      rw [List.append_assoc] at merged
      exact merged

theorem Refreshing.eq_of_error {cid : String} {fault : CheckFault}
    (refreshing : store.Refreshing cid transcript fresh (.error fault)) : fresh = store := by
  cases refreshing
  rfl

theorem Refreshing.looked {cid : String} {persisted : Bool}
    (refreshing : store.Refreshing cid transcript fresh (.ok persisted)) :
    ∃ now, transcript.moments.getLast? = some now ∧ fresh.lastRefresh = some now := by
  cases refreshing with
  | @read bytes metrics now writes persisted decoded written =>
      have stores := ((persist_stores _).course written).1
      refine ⟨now, ?_, rfl⟩
      change (now :: Transcript.moments writes).getLast? = some now
      rw [moments_of_stores stores]
      rfl

end MetricStore

namespace Controller

variable {controller : Controller} {past transcript : Transcript} {ttl : Duration}

/-! ### Updates -/

/-- What an update goes by: a refresh that was recent when the clock was looked at last, a roster
that was read, and a copy of the bundle to which only names are added that nothing listed. -/
structure Backed (ttl : Duration) (past : Transcript) (submitted : Bundle) : Prop where
  recent : ∃ now moment, past.moments.getLast? = some now ∧ past.LearntAt moment ∧
    now ≤ moment + ttl.nanoseconds
  read : past.ReadsRoster
  new : ∃ before cid fresh added, past = before ++ [⟨.call (.fetchBundle cid), .ok fresh⟩] ∧
    submitted = fresh.extendedBy added ∧ ∀ metric ∈ added, ¬ past.Lists metric.name

def Informed (ttl : Duration) (past : Transcript) (controller : Controller) : Prop :=
  ∀ store, controller.store = some store → store.Informed ttl past

theorem Informed.next (informed : controller.Informed ttl past) {exchange : Exchange}
    (unlisted : exchange.listing? = none) : controller.Informed ttl (past ++ [exchange]) :=
  fun store kept => (informed store kept).next unlisted

theorem informed_settleStore {store : MetricStore} (informed : store.Informed ttl past)
    (persisted : Bool) : (controller.settleStore store persisted).Informed ttl past := by
  intro other kept
  cases persisted with
  | true =>
      cases kept
      exact informed
  | false => cases kept

/-- A store that is up to date was refreshed recently, as of the last look at the clock. -/
theorem Current.recent {store fresh : MetricStore} {cid : String}
    (current : Current store cid transcript fresh) :
    ∃ now moment, transcript.moments.getLast? = some now ∧ fresh.lastRefresh = some moment ∧
      now ≤ moment + fresh.ttl.nanoseconds := by
  cases current with
  | @already now upToDate =>
      rw [MetricStore.needsRefreshAt, Bool.or_eq_false_iff] at upToDate
      cases noted : store.lastRefresh with
      | none =>
          rw [noted] at upToDate
          cases upToDate.2
      | some moment =>
          rw [noted] at upToDate
          have within := of_decide_eq_false upToDate.2
          exact ⟨now, moment, rfl, rfl, by omega⟩
  | @refreshed now rest _ due refreshing =>
      obtain ⟨moment, last, noted⟩ := refreshing.looked
      refine ⟨moment, moment, ?_, noted, Nat.le_add_right _ _⟩
      change (now :: Transcript.moments rest).getLast? = some moment
      rw [List.getLast?_cons, last]
      rfl

theorem Current.informed {store fresh : MetricStore} {cid : String}
    (current : Current store cid transcript fresh) (informed : store.Informed ttl past) :
    fresh.Informed ttl (past ++ transcript) := by
  cases current with
  | already upToDate => exact informed.next rfl
  | @refreshed now rest _ due refreshing =>
      have looked : store.Informed ttl (past ++ [⟨.clock, now⟩]) := informed.next rfl
      have refreshed := refreshing.informed looked
      rw [List.append_assoc] at refreshed
      exact refreshed

/-- A submission adds names that the store does not know, and learns from its answer. -/
theorem Submitting.backed {store : MetricStore} {cid : String} {added : List MetricDefinition}
    {outcome : Outcome Unit}
    (submitting : Submitting controller store cid added transcript outcome)
    (informed : store.Informed ttl past)
    (recent : ∃ now moment, past.moments.getLast? = some now ∧ store.lastRefresh = some moment ∧
      now ≤ moment + ttl.nanoseconds)
    (new : ∀ metric ∈ added, store.knows metric.name = false) :
    EachUpdate (Backed ttl) past transcript ∧ outcome.2.Informed ttl (past ++ transcript) := by
  obtain ⟨now, moment, last, noted, within⟩ := recent
  obtain ⟨learnt, read⟩ := informed.refreshed moment noted
  -- The copy is fetched without a look at the clock, so the last look is the one that found the
  -- store up to date.
  have fetched : ∀ answer : (Api.Call.fetchBundle cid).Answer,
      store.Informed ttl (past ++ [⟨.call (.fetchBundle cid), answer⟩]) :=
    fun answer => informed.next rfl
  have backed : ∀ fresh : Bundle, Backed ttl (past ++ [⟨.call (.fetchBundle cid), .ok fresh⟩])
      (fresh.extendedBy added) := by
    intro fresh
    refine ⟨⟨now, moment, ?_, learnt.append _, within⟩, read.append _,
      past, cid, fresh, added, rfl, rfl, fun metric member listed => ?_⟩
    · rw [Transcript.moments_append]
      exact (congrArg List.getLast? (List.append_nil _)).trans last
    · have known := (fetched (.ok fresh)).knows metric.name listed
      rw [new metric member] at known
      cases known
  cases submitting with
  | @unfetched fault =>
      refine ⟨Transcript.eachUpdate_of_uncalled (fun bundle called => ?_), fun other kept => ?_⟩
      · have same := List.mem_singleton.mp called
        cases same
      · cases kept
        exact (fetched (.error fault)).markPending
  | @refused fresh fault =>
      refine ⟨⟨?_, ?_, trivial⟩, fun other kept => ?_⟩
      · intro submitted answer same
        cases same
      · intro submitted answer same
        cases same
        exact backed fresh
      · cases kept
        have refused : store.Informed ttl (past ++ [⟨.call (.fetchBundle cid), .ok fresh⟩] ++
            [⟨.call (.update (fresh.extendedBy added)), .error fault⟩]) :=
          (fetched (.ok fresh)).next rfl
        rw [List.append_assoc] at refused
        exact refused.markPending
  | @accepted fresh updated later writes persisted written =>
      have stores := ((MetricStore.persist_stores _).course written).1
      have silent : ∀ bundle, .update bundle ∉ Transcript.calls (⟨.clock, later⟩ ::
          (writes ++ [⟨.count .metricsEnabled added.length, ()⟩])) := by
        intro bundle called
        change _ ∈ Transcript.calls (writes ++ [⟨.count .metricsEnabled added.length, ()⟩])
          at called
        rw [Transcript.calls_append, Transcript.calls_of_stores stores] at called
        cases called
      refine ⟨⟨?_, ?_, Transcript.eachUpdate_of_uncalled silent⟩, ?_⟩
      · intro submitted answer same
        cases same
      · intro submitted answer same
        cases same
        exact backed fresh
      · have merged : (store.markPending.merge updated.metrics later).Informed ttl
            (past ++ [⟨.call (.fetchBundle cid), .ok fresh⟩] ++
              [⟨.call (.update (fresh.extendedBy added)), .ok updated⟩, ⟨.clock, later⟩]) :=
          (fetched (.ok fresh)).markPending.merge rfl ((read.append _).append _) later
        have counted : (store.markPending.merge updated.metrics later).Informed ttl
            (past ++ [⟨.call (.fetchBundle cid), .ok fresh⟩] ++
              [⟨.call (.update (fresh.extendedBy added)), .ok updated⟩, ⟨.clock, later⟩] ++
                writes ++ [⟨.count .metricsEnabled added.length, ()⟩]) :=
          (merged.append (MetricStore.unlisted_of_stores stores)).next rfl
        simp only [List.append_assoc, List.cons_append, List.nil_append] at counted
        exact informed_settleStore counted persisted

/-! ### Operations -/

/-- A start reads no roster and updates nothing, so what it leaves is informed of it. -/
theorem Starting.informed {outcome : Outcome Unit}
    (starting : Starting controller transcript outcome) (empty : controller.store = none) :
    (∀ path, .get path ∉ transcript.calls) ∧ (∀ bundle, .update bundle ∉ transcript.calls) ∧
      outcome.2.Informed controller.config.metricRefreshTtl transcript := by
  have unread : ∀ path, .get path ∉ transcript.calls := by
    intro path called
    have fetches := (starting.leads called rfl).1
    cases fetches
  have updating : ∀ bundle, .update bundle ∉ transcript.calls := by
    intro bundle called
    have fetches := (starting.leads called rfl).1
    cases fetches
  refine ⟨unread, updating, fun store kept => ?_⟩
  have unlisted := Transcript.unlisted_of_uncalled unread updating
  cases starting with
  | unneeded unneeded => cases empty.symm.trans kept
  | unresolved resolving => cases empty.symm.trans kept
  | bound resolving unmanaged => cases empty.symm.trans kept
  | prepared resolving managed preparing =>
      -- What the state file holds was not listed by this process: the store was never refreshed.
      obtain ⟨never, span⟩ :=
        ((prepareStore_stores controller.config).course preparing).2 store kept
      refine ⟨span, fun moment noted => ?_, fun name listed => ?_⟩
      · cases never.symm.trans noted
      · obtain ⟨exchange, member, metrics, listing, -⟩ := listed
        rw [unlisted exchange member] at listing
        cases listing

theorem Refetching.informed {outcome : Outcome Unit}
    (refetching : Refetching controller transcript outcome)
    (informed : controller.Informed ttl past) : outcome.2.Informed ttl (past ++ transcript) := by
  cases refetching with
  | unbound unbound =>
      rw [List.append_nil]
      exact informed
  | unfetched bound => exact informed.next rfl
  | inactive bound turned => exact informed.next rfl
  | @unread held bundle store fresh rest fault bound active managing kept refreshing =>
      have fetched : controller.Informed ttl
          (past ++ [⟨.call (.fetchBundle held.cid), .ok bundle⟩]) := informed.next rfl
      intro other same
      cases kept.symm.trans same
      have read := refreshing.informed (fetched store kept)
      rw [refreshing.eq_of_error, List.append_assoc] at read
      exact read
  | rebound bound active alone => exact informed.next rfl
  | @refreshed held bundle store fresh rest persisted bound active managing kept refreshing =>
      have fetched : controller.Informed ttl
          (past ++ [⟨.call (.fetchBundle held.cid), .ok bundle⟩]) := informed.next rfl
      have read := refreshing.informed (fetched store kept)
      rw [List.append_assoc] at read
      exact informed_settleStore read persisted

theorem Enabling.backed {collected : Collected} {outcome : Outcome Unit}
    (enabling : Enabling controller collected transcript outcome)
    (informed : controller.Informed ttl past) :
    EachUpdate (Backed ttl) past transcript ∧ outcome.2.Informed ttl (past ++ transcript) := by
  have silent : ∀ {part : Transcript}, (∀ exchange ∈ part, exchange.effect.Supplies) →
      EachUpdate (Backed ttl) past part := fun supplies =>
    Transcript.eachUpdate_of_uncalled (Transcript.not_mem_calls_of_supplies supplies)
  cases enabling with
  | idle idle =>
      rw [List.append_nil]
      exact ⟨trivial, informed⟩
  | unseeded managing empty refreshing =>
      refine ⟨silent refreshing.supplies, fun other same => ?_⟩
      cases managing.kept.symm.trans same
      have read := refreshing.informed (informed _ managing.kept)
      rw [refreshing.eq_of_error] at read
      exact read
  | seeded managing empty refreshing =>
      exact ⟨silent refreshing.supplies,
        informed_settleStore (refreshing.informed (informed _ managing.kept)) _⟩
  | @unread held store fresh rest now fault managing loaded due refreshing =>
      refine ⟨silent ?_, fun other same => ?_⟩
      · have supplies := refreshing.supplies
        simpa [Effect.Supplies] using supplies
      · cases managing.kept.symm.trans same
        have looked : controller.Informed ttl (past ++ [⟨.clock, now⟩]) := informed.next rfl
        have read := refreshing.informed (looked store managing.kept)
        rw [refreshing.eq_of_error, List.append_assoc] at read
        exact read
  | unwritten managing loaded due refreshing =>
      refine ⟨silent ?_, fun other same => by cases same⟩
      have supplies := refreshing.supplies
      simpa [Effect.Supplies] using supplies
  | known managing loaded current nothing =>
      refine ⟨silent current.supplies, fun other same => ?_⟩
      cases same
      exact current.informed (informed _ managing.kept)
  | @submitted held store fresh first second outcome managing loaded current new submitting =>
      have upToDate := current.informed (informed store managing.kept)
      obtain ⟨now, moment, last, noted, within⟩ := current.recent
      have recent : (Transcript.moments (past ++ first)).getLast? = some now := by
        rw [Transcript.moments_append, List.getLast?_append, last]
        rfl
      rw [upToDate.span] at within
      obtain ⟨each, after⟩ := submitting.backed upToDate ⟨now, moment, recent, noted, within⟩
        (fun metric member => MetricStore.not_knows_of_mem_unknownMetrics
          (List.mem_map_of_mem member))
      rw [List.append_assoc] at after
      exact ⟨Transcript.eachUpdate_append.mpr ⟨silent current.supplies, each⟩, after⟩

/-! ### Runs -/

theorem Proceeds.backed {entries : List Entry} (proceeds : Proceeds controller entries)
    (tends : ∀ entry ∈ entries, entry.operation ≠ .start)
    (informed : controller.Informed ttl past) :
    EachUpdate (Backed ttl) past (entries.flatMap Entry.transcript) := by
  -- Whatever came before, the store is informed of it; each operation hands that on to the next.
  induction proceeds generalizing past with
  | rests => trivial
  | @continues controller entry entries course later ih =>
      obtain ⟨tendsNow, tendsLater⟩ := List.forall_mem_cons.mp tends
      have step : EachUpdate (Backed ttl) past entry.transcript ∧
          entry.outcome.2.Informed ttl (past ++ entry.transcript) := by
        obtain ⟨operation, transcript, outcome⟩ := entry
        cases operation with
        | start => exact absurd rfl tendsNow
        | refresh =>
            have refetching := refetching_of_course course
            refine ⟨Transcript.eachUpdate_of_uncalled (fun bundle called => ?_),
              refetching.informed informed⟩
            obtain ⟨answer, member⟩ := Transcript.mem_calls.mp called
            exact refetching.spares _ member
        | enable collected => exact (enabling_of_course course).backed informed
      rw [List.flatMap_cons, Transcript.eachUpdate_append]
      exact ⟨step.1, ih tendsLater step.2⟩

/-- Before an update of a run that begins with a start, a roster was read, and the store was
refreshed recently, as of the last look at the clock: by a roster or by the answer to an update. No
name that either of them listed is added. Where the answers keep to one identifier, the rosters are
those of the bundle that carries it. -/
theorem update_backed {config : Config} {begun : Outcome Unit} {entries : List Entry}
    (course : Course (unbound config).start transcript begun)
    (proceeds : Proceeds begun.2 entries)
    (tends : ∀ entry ∈ entries, entry.operation ≠ .start)
    {submitted : Bundle} {answer : (Api.Call.update submitted).Answer} {later : Transcript}
    (split : transcript ++ entries.flatMap Entry.transcript =
      past ++ ⟨.call (.update submitted), answer⟩ :: later) :
    Backed config.metricRefreshTtl past submitted ∧
      ∀ cid, begun.2.cid = .ok cid →
        (∀ entry ∈ entries, ∀ bundle ∈ entry.adopted, bundle.cid = cid) →
        ∀ path, .get path ∈ past.calls → path = Cid.rosterOf cid := by
  obtain ⟨unread, silent, informed⟩ := (starting_of_course course).informed rfl
  have each : EachUpdate (Backed config.metricRefreshTtl) []
      (transcript ++ entries.flatMap Entry.transcript) :=
    Transcript.eachUpdate_append.mpr
      ⟨Transcript.eachUpdate_of_uncalled silent, proceeds.backed tends informed⟩
  refine ⟨each.holds_of_split split, fun cid bound carried path called => ?_⟩
  have asked : .get path ∈ Transcript.calls (transcript ++ entries.flatMap Entry.transcript) := by
    rw [split, Transcript.calls_append]
    exact List.mem_append_left _ called
  obtain ⟨reply, member⟩ := Transcript.mem_calls.mp asked
  rcases List.mem_append.mp member with starting | tending
  · exact absurd (Transcript.mem_calls.mpr ⟨reply, starting⟩) (unread path)
  · obtain ⟨entry, among, here⟩ := List.mem_flatMap.mp tending
    have keeps := (proceeds.keeps_iff tends).mpr (fun entry member bundle adopted => by
      rw [bound, carried entry member bundle adopted])
    obtain ⟨own, same, rfl⟩ :=
      (keeps entry among).concerns (.get path) (Transcript.mem_calls.mpr ⟨reply, here⟩)
    cases bound.symm.trans same
    rfl

/-- The second enabling of a run updates the bundle, and has read its roster before. -/
theorem update_backed_enabling :
    let bundle : Bundle :=
      { Bundle.blank with cid := "/check_bundle/1", status := Bundle.activeStatus }
    let world := World.quiet (Api.Memory.fresh.insertBundle bundle) Storage.FileSystem.empty
    let config := { Config.standard with
      bundleId := some "1", enableNewMetrics := true, stateDir := some "." }
    let start := (unbound config).start
    let begun := world.run Api.Memory.answer start
    let entries := begun.1.2.entriesIn Api.Memory.answer begun.2
      [.enable [], .enable [("load", .text "0.1")]]
    ∃ past submitted answer later,
      world.record Api.Memory.answer start ++ entries.flatMap Entry.transcript =
        past ++ ⟨.call (.update submitted), answer⟩ :: later ∧
      Backed config.metricRefreshTtl past submitted ∧
      ∀ path, .get path ∈ past.calls → path = "/check_bundle_metrics/1" := by
  intro bundle world config start begun entries
  have tends : ∀ entry ∈ entries, entry.operation ≠ .start :=
    tends_entriesIn Api.Memory.answer begun.2 begun.1.2 (by simp)
  have updates : (world.record Api.Memory.answer start ++
      entries.flatMap Entry.transcript).updates.length = 1 := by decide +kernel
  obtain ⟨updated, single⟩ := List.length_eq_one_iff.mp updates
  obtain ⟨submitted, answered⟩ :=
    Transcript.answered_of_mem_updates (single ▸ List.mem_singleton_self updated)
  obtain ⟨past, later, split⟩ := List.append_of_mem answered
  obtain ⟨backed, own⟩ := update_backed (world.course_run start)
    (proceeds_entriesIn Api.Memory.answer begun.2 begun.1.2 _) tends split
  exact ⟨past, submitted, _, later, split, backed,
    own "/check_bundle/1" (by decide +kernel) (by decide +kernel)⟩

/-- An update moves the refresh on without a look at the roster. A metric that someone put on the
roster as available, longer ago than a store lives, is then submitted as active: the roster was read
before that, and neither of the enablings that follow reads it. -/
theorem update_moves_refresh :
    let bundle : Bundle :=
      { Bundle.blank with cid := "/check_bundle/1", status := Bundle.activeStatus }
    let world := World.quiet (Api.Memory.fresh.insertBundle bundle) Storage.FileSystem.empty
    let config := { Config.standard with
      bundleId := some "1", enableNewMetrics := true, stateDir := some "." }
    let started := world.run Api.Memory.answer (unbound config).start
    let seeded := started.2.run Api.Memory.answer (started.1.2.enableNewMetrics [])
    let listed := { seeded.2 with
      service := seeded.2.service.setRoster bundle.cid [.ofKind "users" .numeric "available"]
      now := seeded.2.now + (Duration.ofSeconds 250).nanoseconds }
    let first := seeded.1.2.enableNewMetrics [("load", .text "0.1")]
    let enabled := listed.run Api.Memory.answer first
    let waited := { enabled.2 with
      now := enabled.2.now + (Duration.ofSeconds 250).nanoseconds }
    let second := enabled.1.2.enableNewMetrics [("load", .text "0.1"), ("users", .text "3")]
    seeded.2.now + config.metricRefreshTtl.nanoseconds < waited.now ∧
      (listed.record Api.Memory.answer first).calls.map Api.Call.path? =
        [some "/check_bundle/1", some "/check_bundle/1"] ∧
      (waited.record Api.Memory.answer second).calls.map Api.Call.path? =
        [some "/check_bundle/1", some "/check_bundle/1"] ∧
      (Api.Memory.entryOf (waited.service.roster bundle.cid) "users").map
        MetricDefinition.status = some "available" ∧
      (waited.run Api.Memory.answer second).2.service.updated.map (fun (updated : Bundle) =>
        updated.metrics.map (fun metric => (metric.name, metric.status))) =
        [[("load", "active")], [("load", "active"), ("users", "active")]] := by
  decide +kernel

end Controller
end CheckBinding
