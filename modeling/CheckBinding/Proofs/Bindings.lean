import CheckBinding.Proofs.Resolution
import Mathlib.Control.Monad.Basic

/-!
Which bundle a controller stays bound to.

A start takes the identifier from the bundle that it is answered with, and so do a refresh and an
enabling after it. An identifier that is configured is normalized before it is asked for, but no
answer is compared with it. So a binding lasts just as long as the answers carry its identifier, and
its paths are well-formed where the answer to the start is.
-/

namespace CheckBinding

open Program

/-! ### What a call is about -/

def Api.Call.path? : Api.Call → Option String
  | .fetchBundle cid => some cid
  | .update bundle => some bundle.cid
  | .get path => some path
  | _ => none

/-- A call is about the bundle that someone is bound to. -/
def Api.Call.Concerns (cid : Except CheckFault String) : Api.Call → Prop
  | .fetchBundle asked => cid = .ok asked
  | .update bundle => cid = .ok bundle.cid
  | .get path => ∃ bound, cid = .ok bound ∧ path = Cid.rosterOf bound
  | _ => False

def Cid.Numbered (path : String) : Prop :=
  ∃ number, isNumber number = true ∧
    (path = Kind.checkBundle.path ++ number ∨ path = rosterPath ++ number)

theorem Cid.not_numbered_empty : ¬ Numbered "" := by
  have blank : ∀ path number : String, "" = path ++ number → path.toList = [] := by
    intro path number same
    have together := congrArg String.toList same
    rw [String.toList_append] at together
    exact (List.append_eq_nil_iff.mp together.symm).1
  rintro ⟨number, -, bundle | roster⟩
  · exact absurd (blank _ number bundle) (by decide)
  · exact absurd (blank _ number roster) (by decide)

theorem Api.Call.Concerns.numbered {call : Api.Call} {cid path : String}
    (concerns : call.Concerns (.ok cid)) (canonical : Cid.isCanonical .checkBundle cid = true)
    (leads : call.path? = some path) : Cid.Numbered path := by
  obtain ⟨number, digits, rfl⟩ := Cid.exists_number_of_isCanonical canonical
  cases call with
  | fetchBundle asked =>
      cases leads
      cases concerns
      exact ⟨number, digits, Or.inl rfl⟩
  | update bundle =>
      cases leads
      exact ⟨number, digits, Or.inl (Except.ok.inj concerns).symm⟩
  | get asked =>
      cases leads
      obtain ⟨bound, same, rfl⟩ := concerns
      cases same
      exact ⟨number, digits, Or.inr (Cid.rosterOf_path_append number)⟩
  | _ => cases leads

namespace Resolution

variable {config : Config} {transcript : Transcript}

/-- The only call of a resolution that is about one bundle fetches it, by a well-formed
identifier. -/
theorem Sequence.leads {calls : List Api.Call} (sequence : Sequence config calls)
    {call : Api.Call} (called : call ∈ calls) {path : String} (leads : call.path? = some path) :
    call = .fetchBundle path ∧ Cid.isCanonical .checkBundle path = true := by
  cases sequence with
  | refused given number canonical => cases called
  | untargeted free empty => cases called
  | fetch given valid =>
      rw [List.mem_singleton.mp called] at leads ⊢
      cases leads
      exact ⟨rfl, Cid.isCanonical_of_normalize valid⟩
  | search free targeted =>
      rw [List.mem_singleton.mp called] at leads
      cases leads
  | list free targeted creates =>
      simp only [List.mem_cons, List.not_mem_nil, or_false] at called
      rcases called with rfl | rfl <;> cases leads
  | create free targeted creates =>
      simp only [List.mem_cons, List.not_mem_nil, or_false] at called
      rcases called with rfl | rfl | rfl <;> cases leads

/-- A configured identifier is normalized and asked for, and the answer is what the resolution
comes to. -/
theorem Path.identified {method : ResolutionMethod} {bundle : Bundle}
    (path : Path config transcript method (.ok bundle)) {text : String}
    (given : config.bundleId = some text) :
    ∃ cid, Cid.normalize .checkBundle text = .ok cid ∧
      transcript.Answered (.fetchBundle cid) (.ok bundle) := by
  generalize result : (Except.ok bundle : Except CheckFault Bundle) = outcome at path
  cases path with
  | refused configured invalid => cases result
  | fetched configured valid =>
      cases given.symm.trans configured
      rw [bundle_of_asked result.symm]
      exact ⟨_, valid, List.mem_singleton_self _⟩
  | untargeted free empty => cases given.symm.trans free
  | searched free targeted settled => cases given.symm.trans free
  | unlisted free targeted creates => cases given.symm.trans free
  | unchosen free targeted creates unchosen => cases given.symm.trans free
  | created free targeted creates chosen => cases given.symm.trans free

end Resolution

namespace Controller

variable {controller : Controller} {transcript : Transcript}

/-! ### Starting -/

theorem Starting.calls {outcome : Outcome Unit}
    (starting : Starting controller transcript outcome) :
    transcript.calls = [] ∨ Resolution.Sequence controller.config transcript.calls := by
  cases starting with
  | unneeded unneeded => exact Or.inl rfl
  | unresolved resolving => exact Or.inr (Resolution.orderly_of_course resolving).sequence
  | bound resolving unmanaged => exact Or.inr (Resolution.orderly_of_course resolving).sequence
  | prepared resolving managed preparing =>
      have stores := ((prepareStore_stores controller.config).course preparing).1
      rw [Transcript.calls_append, Transcript.calls_of_stores stores, List.append_nil]
      exact Or.inr (Resolution.orderly_of_course resolving).sequence

theorem Starting.leads {outcome : Outcome Unit}
    (starting : Starting controller transcript outcome) {call : Api.Call}
    (called : call ∈ transcript.calls) {path : String} (leads : call.path? = some path) :
    call = .fetchBundle path ∧ Cid.isCanonical .checkBundle path = true := by
  rcases starting.calls with uncalled | sequence
  · rw [uncalled] at called
    cases called
  · exact sequence.leads called leads

/-- A start with a configured identifier asks for it in its normal form, and takes over whatever
identifier the answer carries. -/
theorem Starting.identified {outcome : Outcome Unit}
    (starting : Starting controller transcript outcome) (succeeded : outcome.1 = .ok ())
    {text : String} (given : controller.config.bundleId = some text) :
    ∃ cid bundle, Cid.normalize .checkBundle text = .ok cid ∧
      transcript.Answered (.fetchBundle cid) (.ok bundle) ∧
      outcome.2.cid = .ok bundle.cid := by
  have resolved : ∀ {part : Transcript} {bundle : Bundle},
      Course (Resolution.resolve controller.config) part (.ok bundle) →
        ∃ cid, Cid.normalize .checkBundle text = .ok cid ∧
          part.Answered (.fetchBundle cid) (.ok bundle) := by
    intro part bundle resolving
    obtain ⟨path, method, taken, rfl⟩ := Resolution.exists_path resolving
    obtain ⟨cid, normal, answered⟩ := taken.identified given
    exact ⟨cid, normal, Transcript.answered_append.mpr (Or.inl answered)⟩
  cases starting with
  | unneeded unneeded =>
      rw [Config.isRequired, given] at unneeded
      simp at unneeded
  | unresolved resolving => cases succeeded
  | bound resolving unmanaged =>
      obtain ⟨cid, normal, answered⟩ := resolved resolving
      exact ⟨cid, _, normal, answered, rfl⟩
  | prepared resolving managed preparing =>
      obtain ⟨cid, normal, answered⟩ := resolved resolving
      exact ⟨cid, _, normal, Transcript.answered_append.mpr (Or.inl answered), rfl⟩

/-! ### Staying bound -/

/-- The bundles that an operation takes over: all that it meets, but none if it is a refresh that
fails. -/
def Entry.adopted (entry : Entry) : List Bundle :=
  match entry.operation, entry.outcome.1 with
  | .refresh, .error _ => []
  | _, _ => entry.transcript.bundles

structure Keeps (cid : Except CheckFault String) (entry : Entry) : Prop where
  same : entry.outcome.2.cid = cid
  concerns : ∀ call ∈ entry.transcript.calls, call.Concerns cid

theorem cid_of_bound {held : Bundle} (bound : controller.bundle = some held) :
    controller.cid = .ok held.cid := by
  rw [Controller.cid, ask, bound]

theorem cid_settleStore (store : MetricStore) (persisted : Bool) :
    (controller.settleStore store persisted).cid = controller.cid := by
  cases persisted <;> rfl

theorem calls_of_refreshing {store fresh : MetricStore} {cid : String}
    {outcome : Except CheckFault Bool}
    (refreshing : store.Refreshing cid transcript fresh outcome) :
    transcript.calls = [.get (Cid.rosterOf cid)] := by
  cases refreshing with
  | unread failed => rfl
  | read decoded written =>
      have stores := ((MetricStore.persist_stores _).course written).1
      have silent := Transcript.calls_of_stores stores
      exact congrArg (_ :: ·) silent

theorem calls_of_current {store fresh : MetricStore} {cid : String}
    (current : Current store cid transcript fresh) {call : Api.Call}
    (called : call ∈ transcript.calls) : call = .get (Cid.rosterOf cid) := by
  cases current with
  | already upToDate => cases called
  | @refreshed now rest _ due refreshing =>
      change call ∈ Transcript.calls rest at called
      rw [calls_of_refreshing refreshing] at called
      exact List.mem_singleton.mp called

theorem Refetching.keeps_iff {outcome : Outcome Unit}
    (refetching : Refetching controller transcript outcome) :
    Keeps controller.cid ⟨.refresh, transcript, outcome⟩ ↔
      ∀ bundle ∈ Entry.adopted ⟨.refresh, transcript, outcome⟩,
        controller.cid = .ok bundle.cid := by
  have asks : ∀ {held : Bundle} {answer : (Api.Call.fetchBundle held.cid).Answer}
      {rest : Transcript}, controller.bundle = some held →
      (∀ call ∈ rest.calls, call = .get (Cid.rosterOf held.cid)) →
      ∀ call ∈ Transcript.calls (⟨.call (.fetchBundle held.cid), answer⟩ :: rest),
        call.Concerns controller.cid := by
    intro held answer rest bound only call called
    rcases List.mem_cons.mp called with rfl | later
    · exact cid_of_bound bound
    · rw [only call later]
      exact ⟨held.cid, cid_of_bound bound, rfl⟩
  cases refetching with
  | unbound unbound =>
      exact iff_of_true ⟨rfl, fun call none => by cases none⟩ (fun bundle none => by cases none)
  | unfetched bound =>
      exact iff_of_true ⟨rfl, asks bound (fun call none => by cases none)⟩
        (fun bundle none => by cases none)
  | inactive bound turned =>
      exact iff_of_true ⟨rfl, asks bound (fun call none => by cases none)⟩
        (fun bundle none => by cases none)
  | unread bound active managing kept refreshing =>
      have only := calls_of_refreshing refreshing
      exact iff_of_true ⟨rfl, asks bound (by simp [only])⟩ (fun bundle none => by cases none)
  | @rebound held bundle bound active alone =>
      constructor
      · rintro ⟨same, -⟩ other member
        rw [List.mem_singleton.mp member]
        exact same.symm
      · intro carried
        exact ⟨(carried bundle (List.mem_singleton_self bundle)).symm,
          asks bound (fun call none => by cases none)⟩
  | @refreshed held bundle store fresh rest persisted bound active managing kept refreshing =>
      have only := calls_of_refreshing refreshing
      have silent := Transcript.bundles_of_supplies refreshing.supplies
      have adopted : Entry.adopted ⟨.refresh, ⟨.call (.fetchBundle held.cid), .ok bundle⟩ :: rest,
          (.ok (), (controller.settleStore fresh persisted).bind bundle)⟩ = [bundle] := by
        change bundle :: Transcript.bundles rest = [bundle]
        rw [silent]
      rw [adopted]
      constructor
      · rintro ⟨same, -⟩ other member
        rw [List.mem_singleton.mp member]
        exact same.symm
      · intro carried
        exact ⟨(carried bundle (List.mem_singleton_self bundle)).symm, asks bound (by simp [only])⟩

theorem Submitting.keeps_iff {store : MetricStore} {cid : String} {added : List MetricDefinition}
    {outcome : Outcome Unit} (bound : controller.cid = .ok cid)
    (submitting : Submitting controller store cid added transcript outcome) :
    (outcome.2.cid = .ok cid ∧ ∀ call ∈ transcript.calls, call.Concerns (.ok cid)) ↔
      ∀ bundle ∈ transcript.bundles, bundle.cid = cid := by
  cases submitting with
  | unfetched =>
      refine iff_of_true ⟨bound, fun call called => ?_⟩ (fun bundle none => by cases none)
      rw [List.mem_singleton.mp called]
      rfl
  | @refused fresh fault =>
      change _ ∧ (∀ call ∈ [Api.Call.fetchBundle cid, .update (fresh.extendedBy added)], _) ↔
        ∀ bundle ∈ [fresh], bundle.cid = cid
      rw [List.forall_mem_singleton]
      constructor
      · rintro ⟨-, concerns⟩
        have own := concerns _ (List.mem_cons_of_mem _ List.mem_cons_self)
        exact (Except.ok.inj own).symm
      · intro carried
        refine ⟨bound, List.forall_mem_cons.mpr ⟨rfl, List.forall_mem_singleton.mpr ?_⟩⟩
        exact congrArg Except.ok carried.symm
  | @accepted fresh updated now writes persisted written =>
      have stores := ((MetricStore.persist_stores _).course written).1
      have supplies := MetricStore.supplies_of_persist written
      have calls :
          Transcript.calls (writes ++ [⟨.count .metricsEnabled added.length, ()⟩]) = [] := by
        rw [Transcript.calls_append, Transcript.calls_of_stores stores]
        rfl
      have bundles :
          Transcript.bundles (writes ++ [⟨.count .metricsEnabled added.length, ()⟩]) = [] := by
        rw [Transcript.bundles_append, Transcript.bundles_of_supplies supplies]
        rfl
      rw [cid_settleStore]
      -- Two bundles are met: the copy decides what the update is about, its answer what is held.
      change Except.ok updated.cid = _ ∧ (∀ call ∈ Api.Call.fetchBundle cid ::
          .update (fresh.extendedBy added) :: Transcript.calls
            (writes ++ [⟨.count .metricsEnabled added.length, ()⟩]), _) ↔
        ∀ bundle ∈ fresh :: updated :: Transcript.bundles
          (writes ++ [⟨.count .metricsEnabled added.length, ()⟩]), bundle.cid = cid
      rw [calls, bundles, List.forall_mem_cons, List.forall_mem_singleton, List.forall_mem_cons,
        List.forall_mem_singleton]
      constructor
      · rintro ⟨same, -, own⟩
        exact ⟨(Except.ok.inj own).symm, Except.ok.inj same⟩
      · rintro ⟨own, same⟩
        exact ⟨congrArg Except.ok same, rfl, congrArg Except.ok own.symm⟩

theorem Enabling.keeps_iff {collected : Collected} {outcome : Outcome Unit}
    (enabling : Enabling controller collected transcript outcome) :
    Keeps controller.cid ⟨.enable collected, transcript, outcome⟩ ↔
      ∀ bundle ∈ Entry.adopted ⟨.enable collected, transcript, outcome⟩,
        controller.cid = .ok bundle.cid := by
  -- Reading the roster keeps the binding and takes nothing over.
  have reads : ∀ (before : Transcript) {held : Bundle} {store fresh : MetricStore}
      {answer : Except CheckFault Bool} {rest : Transcript} {after : Outcome Unit},
      controller.Managing held store →
      store.Refreshing held.cid rest fresh answer → before.calls = [] → before.bundles = [] →
      after.2.cid = controller.cid →
      (Keeps controller.cid ⟨.enable collected, before ++ rest, after⟩ ↔
        ∀ bundle ∈ Entry.adopted ⟨.enable collected, before ++ rest, after⟩,
          controller.cid = .ok bundle.cid) := by
    intro before held store fresh answer rest after managing refreshing uncalled unmet same
    refine iff_of_true ⟨same, fun call called => ?_⟩ (fun bundle met => ?_)
    · rw [Transcript.calls_append, uncalled, calls_of_refreshing refreshing] at called
      rw [List.mem_singleton.mp called]
      exact ⟨held.cid, cid_of_bound managing.bound, rfl⟩
    · change bundle ∈ Transcript.bundles (before ++ rest) at met
      rw [Transcript.bundles_append, unmet,
        Transcript.bundles_of_supplies refreshing.supplies] at met
      cases met
  cases enabling with
  | idle idle =>
      exact iff_of_true ⟨rfl, fun call none => by cases none⟩ (fun bundle none => by cases none)
  | unseeded managing empty refreshing => exact reads [] managing refreshing rfl rfl rfl
  | seeded managing empty refreshing =>
      exact reads [] managing refreshing rfl rfl (cid_settleStore _ _)
  | @unread held store fresh rest now fault managing loaded due refreshing =>
      exact reads [⟨.clock, now⟩] managing refreshing rfl rfl rfl
  | @unwritten held store fresh rest now managing loaded due refreshing =>
      exact reads [⟨.clock, now⟩] managing refreshing rfl rfl rfl
  | known managing loaded current nothing =>
      refine iff_of_true ⟨rfl, fun call called => ?_⟩ (fun bundle met => ?_)
      · rw [calls_of_current current called]
        exact ⟨_, cid_of_bound managing.bound, rfl⟩
      · change bundle ∈ Transcript.bundles _ at met
        rw [Transcript.bundles_of_supplies current.supplies] at met
        cases met
  | @submitted held store fresh first second outcome managing loaded current new submitting =>
      have bound := cid_of_bound managing.bound
      have sent := submitting.keeps_iff bound
      have met : Entry.adopted ⟨.enable collected, first ++ second, outcome⟩ = second.bundles := by
        change Transcript.bundles (first ++ second) = second.bundles
        rw [Transcript.bundles_append, Transcript.bundles_of_supplies current.supplies]
        rfl
      rw [met, bound]
      constructor
      · rintro ⟨same, concerns⟩ bundle member
        have sending : ∀ call ∈ second.calls, call.Concerns (.ok held.cid) := by
          intro call called
          refine concerns call ?_
          rw [Transcript.calls_append]
          exact List.mem_append_right _ called
        exact congrArg Except.ok (sent.mp ⟨same, sending⟩ bundle member).symm
      · intro carried
        obtain ⟨same, sending⟩ := sent.mpr
          (fun bundle member => (Except.ok.inj (carried bundle member)).symm)
        refine ⟨same, fun call called => ?_⟩
        rw [Transcript.calls_append] at called
        rcases List.mem_append.mp called with reading | later
        · rw [calls_of_current current reading]
          exact ⟨held.cid, rfl, rfl⟩
        · exact sending call later

/-! ### Runs -/

/-- An operation keeps a binding just when all that it takes over carries the identifier. -/
theorem keeps_iff {entry : Entry}
    (course : Course (entry.operation.program controller) entry.transcript entry.outcome)
    (tends : entry.operation ≠ .start) :
    Keeps controller.cid entry ↔ ∀ bundle ∈ entry.adopted, controller.cid = .ok bundle.cid := by
  obtain ⟨operation, transcript, outcome⟩ := entry
  cases operation with
  | start => exact absurd rfl tends
  | refresh => exact (refetching_of_course course).keeps_iff
  | enable collected => exact (enabling_of_course course).keeps_iff

theorem Proceeds.keeps_iff {entries : List Entry} (proceeds : Proceeds controller entries)
    (tends : ∀ entry ∈ entries, entry.operation ≠ .start) :
    (∀ entry ∈ entries, Keeps controller.cid entry) ↔
      ∀ entry ∈ entries, ∀ bundle ∈ entry.adopted, controller.cid = .ok bundle.cid := by
  induction proceeds with
  | rests => simp
  | continues course later ih =>
      obtain ⟨tendsNow, tendsLater⟩ := List.forall_mem_cons.mp tends
      have step := Controller.keeps_iff course tendsNow
      have rest := ih tendsLater
      rw [List.forall_mem_cons, List.forall_mem_cons]
      -- As long as the binding is kept, the operations that follow are about the same bundle.
      constructor
      · rintro ⟨now, after⟩
        rw [← now.same] at after
        refine ⟨step.mp now, ?_⟩
        rw [← now.same]
        exact rest.mp after
      · rintro ⟨now, after⟩
        have kept := step.mpr now
        rw [← kept.same] at after
        refine ⟨kept, ?_⟩
        rw [← kept.same]
        exact rest.mpr after

/-- What a successful start and the operations behind it come to, whatever the answers are.

A configured identifier is normalized before it is asked for, and the identifier held is the one of
the answer. Every operation keeps the binding and asks for its bundle just when all that is taken
over carries its identifier; and then, if that is well-formed, every path that is asked for is the
path of a bundle or a roster with a number behind it. -/
theorem binding_kept_iff {config : Config} {begun : Outcome Unit}
    (course : Course (unbound config).start transcript begun) (succeeded : begun.1 = .ok ())
    {entries : List Entry} (proceeds : Proceeds begun.2 entries)
    (tends : ∀ entry ∈ entries, entry.operation ≠ .start) :
    (∀ text, config.bundleId = some text →
      ∃ cid bundle, Cid.normalize .checkBundle text = .ok cid ∧
        transcript.Answered (.fetchBundle cid) (.ok bundle) ∧ begun.2.cid = .ok bundle.cid) ∧
    (∀ call ∈ transcript.calls, ∀ path, call.path? = some path →
      Cid.isCanonical .checkBundle path = true) ∧
    ((∀ entry ∈ entries, Keeps begun.2.cid entry) ↔
      ∀ entry ∈ entries, ∀ bundle ∈ entry.adopted, begun.2.cid = .ok bundle.cid) ∧
    ∀ cid, begun.2.cid = .ok cid → Cid.isCanonical .checkBundle cid = true →
      (∀ entry ∈ entries, ∀ bundle ∈ entry.adopted, bundle.cid = cid) →
      ∀ entry ∈ entries, ∀ call ∈ entry.transcript.calls, ∀ path, call.path? = some path →
        Cid.Numbered path := by
  have starting := starting_of_course course
  have kept := proceeds.keeps_iff tends
  refine ⟨fun text given => starting.identified succeeded given,
    fun call called path leads => (starting.leads called leads).2, kept, ?_⟩
  intro cid bound canonical carried entry member call called path leads
  rw [bound] at kept
  have keeps := kept.mpr (fun entry member bundle adopted =>
    congrArg Except.ok (carried entry member bundle adopted).symm)
  exact ((keeps entry member).concerns call called).numbered canonical leads

/-- Where the service keeps its answers to the bundle that was configured, the binding lasts. -/
theorem binding_kept_iff_enabling :
    let bundle : Bundle :=
      { Bundle.blank with cid := "/check_bundle/1", status := Bundle.activeStatus }
    let world := World.quiet (Api.Memory.fresh.insertBundle bundle) Storage.FileSystem.empty
    let config := { Config.standard with
      bundleId := some "1", enableNewMetrics := true, stateDir := some "." }
    let begun := world.run Api.Memory.answer (unbound config).start
    let entries := begun.1.2.entriesIn Api.Memory.answer begun.2
      [.refresh, .enable [("load", .text "0.1")]]
    begun.1.1 = .ok () ∧ begun.1.2.cid = .ok "/check_bundle/1" ∧
      entries.map (fun entry => entry.transcript.calls.length) = [2, 2] ∧
      (∀ entry ∈ entries, Keeps begun.1.2.cid entry) ∧
      ∀ entry ∈ entries, ∀ call ∈ entry.transcript.calls, ∀ path, call.path? = some path →
        Cid.Numbered path := by
  intro bundle world config begun entries
  have succeeded : begun.1.1 = .ok () := by decide +kernel
  have bound : begun.1.2.cid = .ok "/check_bundle/1" := by decide +kernel
  have tends : ∀ entry ∈ entries, entry.operation ≠ .start :=
    tends_entriesIn Api.Memory.answer begun.2 begun.1.2 (by simp)
  have carried : ∀ entry ∈ entries, ∀ bundle ∈ entry.adopted, bundle.cid = "/check_bundle/1" := by
    decide +kernel
  obtain ⟨-, -, kept, numbered⟩ := binding_kept_iff (world.course_run (unbound config).start)
    succeeded (proceeds_entriesIn Api.Memory.answer begun.2 begun.1.2 _) tends
  refine ⟨succeeded, bound, by decide +kernel, kept.mpr ?_,
    numbered "/check_bundle/1" bound (by decide +kernel) carried⟩
  intro entry member bundle adopted
  rw [carried entry member bundle adopted]
  exact bound

def bringing : Api.Http.Transport (List String)
  | [], _ => (.error "connection closed", [])
  | body :: bodies, _ => (.ok ⟨200, body.toUTF8⟩, bodies)

/-- A search result without identifier is taken over, and a refresh asks for the empty path. And
an identifier that is configured gives way to the one of an answer, that to the next. -/
theorem answers_bind_anew :
    let nameless : Bundle := { Bundle.blank with
      status := Bundle.activeStatus, target := "web1", checkType := "json:nad" }
    let world := World.quiet { Api.Memory.fresh with searchOverride := some [nameless] }
      Storage.FileSystem.empty
    let config := { Config.standard with enabled := true, target := "web1" }
    let begun := world.run Api.Memory.answer (unbound config).start
    let entries := begun.1.2.entriesIn Api.Memory.answer begun.2 [.refresh]
    let client : Api.Http.Client := ⟨"http://localhost", "token", "agent", Duration.ofSeconds 10⟩
    let bodies := ["\x7b\"_cid\":\"/check_bundle/2\",\"status\":\"active\"\x7d",
      "\x7b\"_cid\":\"/check_bundle/3\",\"status\":\"active\"\x7d"]
    let bound := (World.quiet bodies Storage.FileSystem.empty).run (client.answer bringing)
      (unbound { Config.standard with bundleId := some "1" }).start
    let rebound := bound.1.2.entriesIn (client.answer bringing) bound.2 [.refresh]
    (begun.1.1 = .ok () ∧
      entries.map (fun entry => entry.transcript.calls.filterMap Api.Call.path?) = [[""]] ∧
      ¬ Cid.Numbered "") ∧
    bound.1.1 = .ok () ∧ bound.1.2.cid = .ok "/check_bundle/2" ∧
      rebound.map (fun entry => entry.outcome.2.cid) = [.ok "/check_bundle/3"] := by
  intro nameless world config begun entries client bodies bound rebound
  refine ⟨⟨?_, ?_, Cid.not_numbered_empty⟩, ?_⟩ <;> decide +kernel

end Controller
end CheckBinding
