import CheckBinding.Proofs.MemoryHistories
import Mathlib.Algebra.Ring.Nat
import Mathlib.Data.List.Induction

/-!
What creating a bundle does to those that are there.

The service numbers the bundles that it creates and looks at nothing else, so the number of a new
one may belong to a bundle that was put in place from outside. From the history of a service it is
told which identifiers are taken and what was set as a roster for one that is not; this decides
whether a new bundle is added to the others or takes the place of one.
-/

namespace CheckBinding

theorem Text.decimal_injective {left right : Nat} (same : decimal left = decimal right) :
    left = right := by
  have digits : Nat.toDigits 10 left = Nat.toDigits 10 right := String.ofList_injective same
  rw [← natOfDigits_toDigits left, digits, natOfDigits_toDigits]

namespace Api.Memory

variable {memory after : Memory} {call : Call} {answer : call.Answer} {draft bundle : Bundle}
  {cid : String} {first : Nat} {events : List Event}

/-! ### Numbers -/

def numbered (number : UInt64) : String :=
  Cid.Kind.checkBundle.path ++ Text.decimal number.toNat

theorem numbered_injective {left right : UInt64} (same : numbered left = numbered right) :
    left = right := by
  rw [numbered, numbered, ← String.toList_inj, String.toList_append, String.toList_append] at same
  have digits := String.toList_inj.mp (List.append_cancel_left same)
  exact UInt64.toNat_inj.mp (Text.decimal_injective digits)

/-- A number comes again after all the others. -/
theorem ofNat_eq_iff {left right : Nat} :
    UInt64.ofNat left = UInt64.ofNat right ↔ left % 2 ^ 64 = right % 2 ^ 64 := by
  rw [← UInt64.toNat_inj, UInt64.toNat_ofNat', UInt64.toNat_ofNat']

/-- As long as not all numbers are used up, the next one is another one than those before. -/
theorem numbers_left_iff {count : Nat} :
    (∀ earlier < count, UInt64.ofNat (first + earlier) ≠ UInt64.ofNat (first + count)) ↔
      count < 2 ^ 64 := by
  constructor
  · intro different
    refine Nat.lt_of_not_le (fun used => different (count - 2 ^ 64) (by omega) ?_)
    rw [ofNat_eq_iff]
    omega
  · intro left earlier before same
    rw [ofNat_eq_iff] at same
    omega

/-! ### Placing -/

theorem bundle?_place (memory : Memory) (bundle : Bundle) (cid : String) :
    (memory.place bundle).bundle? cid =
      if cid = bundle.cid then some bundle else memory.bundle? cid :=
  bundle?_insertBundle _ bundle cid

theorem roster_place (memory : Memory) (bundle : Bundle) (cid : String) :
    (memory.place bundle).roster cid =
      if cid = bundle.cid then mergeMetrics (memory.roster bundle.cid) bundle.metrics
      else memory.roster cid :=
  roster_setRoster memory bundle.cid cid _

def Holds (memory : Memory) (cid : String) : Prop :=
  ∃ bundle, memory.bundle? cid = some bundle

theorem bundle?_eq_none_iff : memory.bundle? cid = none ↔ ¬ memory.Holds cid := by
  rw [Holds, Option.eq_none_iff_forall_ne_some, not_exists]

theorem holds_place : (memory.place bundle).Holds cid ↔ cid = bundle.cid ∨ memory.Holds cid := by
  rw [Holds, bundle?_place]
  by_cases same : cid = bundle.cid
  · simp [same]
  · simp [same, Holds]

/-! ### What a history tells -/

/-- An identifier was given to one of so many bundles. -/
def Given (first count : Nat) (cid : String) : Prop :=
  ∃ earlier < count, cid = numbered (UInt64.ofNat (first + earlier))

theorem given_succ {count : Nat} :
    Given first (count + 1) cid ↔
      cid = numbered (UInt64.ofNat (first + count)) ∨ Given first count cid := by
  simp only [Given, Nat.lt_succ_iff_lt_or_eq, or_and_right, exists_or, exists_eq_left, or_comm]

def Inserted (events : List Event) (cid : String) : Prop :=
  ∃ bundle, .bundleInserted bundle ∈ events ∧ bundle.cid = cid

theorem inserted_append {event : Event} :
    Inserted (events ++ [event]) cid ↔
      (∃ bundle, event = .bundleInserted bundle ∧ bundle.cid = cid) ∨ Inserted events cid := by
  simp only [Inserted, List.mem_append, List.mem_singleton, or_and_right, exists_or, eq_comm,
    or_comm]

def Event.rosterOver (cid : String) (roster : List MetricDefinition) :
    Event → List MetricDefinition
  | .rosterSet other metrics => if other = cid then metrics else roster
  | _ => roster

def rosterSet (cid : String) (events : List Event) : List MetricDefinition :=
  events.foldl (Event.rosterOver cid) []

theorem rosterSet_append (event : Event) :
    rosterSet cid (events ++ [event]) = Event.rosterOver cid (rosterSet cid events) event :=
  List.foldl_append

/-- What the history of a service that numbers from some number on tells about it: the next number,
the identifiers that are taken, and the rosters under those that are not. -/
structure Told (first : Nat) (events : List Event) (memory : Memory) : Prop where
  next : memory.nextId = UInt64.ofNat (first + memory.created.length)
  taken : ∀ cid, memory.Holds cid ↔ Given first memory.created.length cid ∨ Inserted events cid
  set : ∀ cid, ¬ memory.Holds cid → memory.roster cid = rosterSet cid events

theorem told_startingAt (first : Nat) : Told first [] (startingAt first) := by
  refine ⟨rfl, fun cid => ?_, fun cid _ => rfl⟩
  refine iff_of_false ?_ ?_
  · rintro ⟨bundle, found⟩
    cases found
  · rintro (⟨earlier, before, -⟩ | ⟨bundle, member, -⟩)
    · cases before
    · cases member

/-- Puts no bundle in place and sets no roster. -/
def Event.Neutral : Event → Prop
  | .bundleInserted _ => False
  | .rosterSet _ _ => False
  | _ => True

theorem Told.past (told : Told first events memory) {event : Event} (neutral : event.Neutral) :
    Told first (events ++ [event]) memory := by
  refine ⟨told.next, fun cid => ?_, fun cid untaken => ?_⟩
  · have other : ¬ ∃ bundle, event = .bundleInserted bundle ∧ bundle.cid = cid := by
      rintro ⟨bundle, rfl, -⟩
      exact neutral
    rw [inserted_append, or_iff_right other]
    exact told.taken cid
  · rw [told.set cid untaken, rosterSet_append]
    cases event with
    | rosterSet other metrics => exact neutral.elim
    | _ => rfl

theorem Told.insertBundle (told : Told first events memory) (bundle : Bundle) :
    Told first (events ++ [.bundleInserted bundle]) (memory.insertBundle bundle) := by
  have holds : ∀ cid, (memory.insertBundle bundle).Holds cid ↔
      cid = bundle.cid ∨ memory.Holds cid := fun cid => holds_place
  refine ⟨told.next, fun cid => ?_, fun cid untaken => ?_⟩
  · have here : (∃ other, Event.bundleInserted bundle = .bundleInserted other ∧ other.cid = cid) ↔
        cid = bundle.cid := by
      simp [eq_comm]
    rw [holds, told.taken, inserted_append, here]
    exact or_left_comm
  · rw [holds, not_or] at untaken
    rw [rosterSet_append]
    exact told.set cid untaken.2

theorem Told.setRoster (told : Told first events memory) (cid : String)
    (metrics : List MetricDefinition) :
    Told first (events ++ [.rosterSet cid metrics]) (memory.setRoster cid metrics) := by
  refine ⟨told.next, fun other => ?_, fun other untaken => ?_⟩
  · have nothing : ¬ ∃ bundle, Event.rosterSet cid metrics = .bundleInserted bundle ∧
        bundle.cid = other := by
      simp
    rw [inserted_append, or_iff_right nothing]
    exact told.taken other
  · rw [roster_setRoster, rosterSet_append, Event.rosterOver]
    by_cases same : other = cid
    · rw [if_pos same, if_pos same.symm]
    · rw [if_neg same, if_neg (Ne.symm same)]
      exact told.set other untaken

/-- Where a bundle is placed, all that is not taken afterwards was not taken before, and its roster
is the one that it was. -/
theorem Told.set_place (told : Told first events memory) {placed : Memory}
    (bundles : placed.bundles = memory.bundles) (rosters : placed.rosters = memory.rosters)
    (untaken : ¬ (placed.place bundle).Holds cid) :
    (placed.place bundle).roster cid = rosterSet cid events := by
  rw [holds_place, not_or, Holds, bundle?, bundles] at untaken
  rw [roster_place, if_neg untaken.1, roster, rosters]
  exact told.set cid untaken.2

/-- A call leaves what is told true: a number is used up when a bundle is created under it, and an
update finds its bundle there. -/
theorem Told.reacts (told : Told first events memory)
    (reacts : Reacts memory call answer after) : Told first events after := by
  cases reacts with
  | reads reading => exact ⟨told.next, told.taken, told.set⟩
  | refuses => exact ⟨told.next, told.taken, told.set⟩
  | @creates draft =>
      have length : (memory.created ++ [draft]).length = memory.created.length + 1 :=
        List.length_append
      refine ⟨?_, fun cid => ?_, fun cid untaken => told.set_place rfl rfl untaken⟩
      · change memory.nextId + 1 = UInt64.ofNat (first + (memory.created ++ [draft]).length)
        rw [told.next, length, ← Nat.add_assoc, UInt64.ofNat_add _ 1]
        rfl
      · change _ ↔ Given first (memory.created ++ [draft]).length cid ∨ _
        rw [holds_place, length, given_succ, ← told.next, or_assoc, ← told.taken]
        rfl
  | @updates submitted present =>
      refine ⟨told.next, fun cid => ?_, fun cid untaken => told.set_place rfl rfl untaken⟩
      have there : memory.Holds submitted.cid := NameMap.contains_iff.mp present
      rw [holds_place]
      refine Iff.trans (or_iff_right_of_imp ?_) (told.taken cid)
      rintro rfl
      exact there

theorem Told.next_event (told : Told first events memory) (event : Event) :
    Told first (events ++ [event]) (memory.next event) := by
  cases event with
  | bundleInserted bundle => exact told.insertBundle bundle
  | rosterSet cid metrics => exact told.setRoster cid metrics
  | called call => exact (told.reacts (memory.reacts call)).past trivial
  | brokersSet brokers =>
      have unchanged : Told first events (memory.setBrokers brokers) :=
        ⟨told.next, told.taken, told.set⟩
      exact unchanged.past trivial
  | searchForced bundles =>
      have unchanged : Told first events (memory.forceSearch bundles) :=
        ⟨told.next, told.taken, told.set⟩
      exact unchanged.past trivial
  | availabilitySet unavailable =>
      have unchanged : Told first events (memory.setUnavailable unavailable) :=
        ⟨told.next, told.taken, told.set⟩
      exact unchanged.past trivial

theorem told_history (first : Nat) (events : List Event) :
    Told first events ((startingAt first).history events) := by
  induction events using List.reverseRecOn with
  | nil => exact told_startingAt first
  | append_singleton events event ih =>
      rw [history, List.foldl_append]
      exact ih.next_event event

/-! ### Rosters -/

theorem names_putMetric (metric : MetricDefinition) (roster : List MetricDefinition) :
    roster.map MetricDefinition.name <+: (putMetric metric roster).map MetricDefinition.name := by
  induction roster with
  | nil => exact List.nil_prefix
  | cons head rest ih =>
      rw [putMetric]
      by_cases same : head.name = metric.name
      · rw [if_pos same]
        exact List.cons_prefix_cons.mpr ⟨same, List.prefix_rfl⟩
      · rw [if_neg same]
        exact List.cons_prefix_cons.mpr ⟨rfl, ih⟩

theorem names_mergeMetrics (roster metrics : List MetricDefinition) :
    roster.map MetricDefinition.name <+: (mergeMetrics roster metrics).map MetricDefinition.name := by
  induction metrics generalizing roster with
  | nil => exact List.prefix_refl _
  | cons metric metrics ih => exact (names_putMetric metric roster).trans (ih _)

theorem mem_iff_entryOf {roster : List MetricDefinition}
    (distinct : (roster.map MetricDefinition.name).Nodup) {metric : MetricDefinition} :
    metric ∈ roster ↔ entryOf roster metric.name = some metric :=
  ⟨entryOf_of_mem distinct, List.mem_of_find?_eq_some⟩

/-- Nothing of a roster is left after metrics are merged into it just when it lists each name once
and only names of theirs. -/
theorem perm_mergeMetrics_iff {roster metrics : List MetricDefinition} :
    (mergeMetrics roster metrics).Perm (mergeMetrics [] metrics) ↔
      (roster.map MetricDefinition.name).Nodup ∧
        ∀ name ∈ roster.map MetricDefinition.name, name ∈ metrics.map MetricDefinition.name := by
  have alone : ((mergeMetrics [] metrics).map MetricDefinition.name).Nodup :=
    nodup_mergeMetrics List.nodup_nil
  constructor
  · intro perm
    have names := perm.map MetricDefinition.name
    have kept := names_mergeMetrics roster metrics
    refine ⟨(names.nodup_iff.mpr alone).sublist kept.sublist, fun name listed => ?_⟩
    have merged := names.mem_iff.mp (kept.subset listed)
    exact (mem_mergeMetrics_names.mp merged).resolve_right List.not_mem_nil
  · rintro ⟨distinct, within⟩
    have merged : ((mergeMetrics roster metrics).map MetricDefinition.name).Nodup :=
      nodup_mergeMetrics distinct
    refine (List.perm_ext_iff_of_nodup merged.of_map alone.of_map).mpr (fun metric => ?_)
    rw [mem_iff_entryOf merged, mem_iff_entryOf alone, entryOf_mergeMetrics, entryOf_mergeMetrics]
    -- A name that is not among the metrics is not on the roster either.
    cases last : entryOf metrics.reverse metric.name with
    | some definition => rfl
    | none =>
        have unnamed := entryOf_reverse_eq_none.mp last
        have unlisted := entryOf_eq_none.mpr (fun listed => unnamed (within _ listed))
        rw [unlisted]
        rfl

/-! ### Creating -/

/-- A draft is added to a service: the identifier of its bundle was free, the roster lists its
metrics and nothing else, and all other bundles and rosters are what they were. -/
structure Adds (memory : Memory) (draft bundle : Bundle) (after : Memory) : Prop where
  free : memory.bundle? bundle.cid = none
  stored : after.bundle? bundle.cid = some bundle
  listed : (after.roster bundle.cid).Perm (mergeMetrics [] draft.metrics)
  others : ∀ cid, cid ≠ bundle.cid →
    after.bundle? cid = memory.bundle? cid ∧ after.roster cid = memory.roster cid

theorem Reacts.places (reacts : Reacts memory (.create draft) (.ok bundle) after) :
    bundle = assigned memory.nextId draft ∧
      (∀ cid, after.bundle? cid = if cid = bundle.cid then some bundle else memory.bundle? cid) ∧
      ∀ cid, after.roster cid =
        if cid = bundle.cid then mergeMetrics (memory.roster bundle.cid) draft.metrics
        else memory.roster cid := by
  cases reacts with
  | reads reading => exact absurd trivial reading
  | creates => exact ⟨rfl, bundle?_place _ _, roster_place _ _⟩

theorem Told.free_iff (told : Told first events memory)
    (given : cid = numbered memory.nextId) :
    memory.bundle? cid = none ↔ memory.created.length < 2 ^ 64 ∧ ¬ Inserted events cid := by
  have unused : ¬ Given first memory.created.length cid ↔ memory.created.length < 2 ^ 64 := by
    rw [← @numbers_left_iff first, given, told.next]
    constructor
    · intro unused earlier before same
      exact unused ⟨earlier, before, congrArg numbered same.symm⟩
    · rintro different ⟨earlier, before, same⟩
      exact different earlier before (numbered_injective same).symm
  rw [bundle?_eq_none_iff, told.taken, not_or, unused]

/-- A bundle that is created gets the next number, and all other bundles and rosters stay. It is
added to them just when the numbers are not used up, no bundle was put in place from outside under
its identifier, and a roster that was set for it names each metric once and none that the draft
does not have. -/
theorem create_adds_iff (first : Nat) (events : List Event) {draft bundle : Bundle}
    (accepted : (((startingAt first).history events).answer (.create draft)).1 = .ok bundle) :
    let memory := (startingAt first).history events
    let after := (memory.answer (.create draft)).2
    bundle.cid = numbered (UInt64.ofNat (first + memory.created.length)) ∧
    after.bundle? bundle.cid = some bundle ∧
    (∀ cid, cid ≠ bundle.cid →
      after.bundle? cid = memory.bundle? cid ∧ after.roster cid = memory.roster cid) ∧
    (Adds memory draft bundle after ↔
      memory.created.length < 2 ^ 64 ∧
      (∀ other, .bundleInserted other ∈ events → other.cid ≠ bundle.cid) ∧
      ((rosterSet bundle.cid events).map MetricDefinition.name).Nodup ∧
      ∀ name ∈ (rosterSet bundle.cid events).map MetricDefinition.name,
        name ∈ draft.metrics.map MetricDefinition.name) := by
  intro memory after
  have told : Told first events memory := told_history first events
  have reacts := memory.reacts (.create draft)
  rw [accepted] at reacts
  obtain ⟨made, bundles, rosters⟩ := reacts.places
  have given : bundle.cid = numbered memory.nextId := by
    rw [made]
    rfl
  have stored : after.bundle? bundle.cid = some bundle := (bundles _).trans (if_pos rfl)
  have others : ∀ cid, cid ≠ bundle.cid →
      after.bundle? cid = memory.bundle? cid ∧ after.roster cid = memory.roster cid :=
    fun cid other => ⟨(bundles cid).trans (if_neg other), (rosters cid).trans (if_neg other)⟩
  have uninserted : ¬ Inserted events bundle.cid ↔
      ∀ other, .bundleInserted other ∈ events → other.cid ≠ bundle.cid := by
    simp only [Inserted, not_exists, not_and, ne_eq]
  have free := told.free_iff given
  rw [uninserted] at free
  have listed : memory.bundle? bundle.cid = none →
      after.roster bundle.cid = mergeMetrics (rosterSet bundle.cid events) draft.metrics := by
    intro untaken
    rw [rosters, if_pos rfl, told.set _ (bundle?_eq_none_iff.mp untaken)]
  refine ⟨given.trans (congrArg numbered told.next), stored, others, ?_⟩
  rw [← perm_mergeMetrics_iff, ← and_assoc, ← free]
  constructor
  · intro adds
    refine ⟨adds.free, ?_⟩
    rw [← listed adds.free]
    exact adds.listed
  · rintro ⟨untaken, perm⟩
    refine ⟨untaken, stored, ?_, others⟩
    rw [listed untaken]
    exact perm

/-- The first bundle that is created takes the place of another one; for the second one a roster
was set, which lists a metric of the draft. -/
theorem create_adds_iff_second :
    let load : MetricDefinition := .ofKind "load" .numeric "active"
    let draft : Bundle := { Bundle.blank with
      target := "web01", brokers := ["/broker/1"], metrics := [load] }
    let kept : Bundle := { Bundle.blank with cid := "/check_bundle/8", target := "web02" }
    let earlier : List Event := [.bundleInserted kept,
      .rosterSet "/check_bundle/9" [{ load with status := "available" }]]
    let events : List Event := earlier ++ [.called (.create draft)]
    let first := (startingAt 8).history earlier
    let second := (startingAt 8).history events
    ¬ Adds first draft (assigned 8 draft) (first.answer (.create draft)).2 ∧
      Adds second draft (assigned 9 draft) (second.answer (.create draft)).2 := by
  intro load draft kept earlier events first second
  have acceptedFirst : (first.answer (.create draft)).1 = .ok (assigned 8 draft) := by
    decide +kernel
  have acceptedSecond : (second.answer (.create draft)).1 = .ok (assigned 9 draft) := by
    decide +kernel
  obtain ⟨-, -, -, addsFirst⟩ := create_adds_iff 8 earlier acceptedFirst
  obtain ⟨-, -, -, addsSecond⟩ := create_adds_iff 8 events acceptedSecond
  rw [addsFirst, addsSecond]
  constructor
  · rintro ⟨-, uninserted, -⟩
    exact uninserted kept List.mem_cons_self (by decide +kernel)
  · have created : second.created = [draft] := by decide +kernel
    have set : rosterSet (assigned 9 draft).cid events = [{ load with status := "available" }] := by
      decide +kernel
    refine ⟨?_, fun other member => ?_, ?_⟩
    · change second.created.length < 2 ^ 64
      rw [created]
      decide
    · have only : other = kept := by simpa [events, earlier] using member
      rw [only]
      decide +kernel
    · rw [set]
      decide +kernel

/-- A bundle that was put in place under the next number is lost when another one is created, which
takes over its roster. -/
theorem taken_identifier_overwritten :
    let cpu : MetricDefinition := .ofKind "cpu" .numeric "available"
    let load : MetricDefinition := .ofKind "load" .numeric "active"
    let kept : Bundle := { Bundle.blank with cid := "/check_bundle/1000", target := "web01" }
    let draft : Bundle := { Bundle.blank with
      target := "web02", brokers := ["/broker/1"], metrics := [load] }
    let made := assigned 1000 draft
    let memory := fresh.history [.bundleInserted kept, .rosterSet kept.cid [cpu]]
    let after := (memory.answer (.create draft)).2
    (memory.answer (.create draft)).1 = .ok made ∧ memory.bundle? made.cid = some kept ∧
      after.bundle? kept.cid = some made ∧ after.roster made.cid = [cpu, load] ∧
      ¬ Adds memory draft made after := by
  intro cpu load kept draft made memory after
  have there : memory.bundle? made.cid = some kept := by decide +kernel
  refine ⟨by decide +kernel, there, by decide +kernel, by decide +kernel, fun adds => ?_⟩
  rw [adds.free] at there
  cases there

end Api.Memory
end CheckBinding
