import CheckBinding.Proofs.Cids
import CheckBinding.Proofs.Json.Rosters
import CheckBinding.Proofs.NameMaps
import Mathlib.Data.List.Nodup

/-!
What the in-memory service keeps through its operations.

Each bundle stands under its own canonical identifier, so the path of a roster leads to one bundle;
and no operation takes a name off a roster.
-/

namespace CheckBinding

def Bundle.extendedBy (bundle : Bundle) (added : List MetricDefinition) : Bundle :=
  { bundle with metrics := bundle.metrics ++ added }

namespace Api.Memory

/-! ### Rosters -/

def listedNames (memory : Memory) (cid : String) : List String :=
  (memory.roster cid).map MetricDefinition.name

theorem mem_putMetric_names {metric : MetricDefinition} {roster : List MetricDefinition}
    {name : String} :
    name ∈ (putMetric metric roster).map MetricDefinition.name ↔
      name = metric.name ∨ name ∈ roster.map MetricDefinition.name := by
  induction roster with
  | nil => simp [putMetric]
  | cons head rest ih =>
      rw [putMetric]
      by_cases same : head.name = metric.name
      · simp [same]
      · rw [if_neg same, List.map_cons, List.mem_cons, ih, List.map_cons, List.mem_cons]
        exact or_left_comm

theorem mergeMetrics_cons (roster : List MetricDefinition) (metric : MetricDefinition)
    (metrics : List MetricDefinition) :
    mergeMetrics roster (metric :: metrics) = mergeMetrics (putMetric metric roster) metrics :=
  rfl

theorem mem_mergeMetrics_names {roster metrics : List MetricDefinition} {name : String} :
    name ∈ (mergeMetrics roster metrics).map MetricDefinition.name ↔
      name ∈ metrics.map MetricDefinition.name ∨ name ∈ roster.map MetricDefinition.name := by
  induction metrics generalizing roster with
  | nil => simp [mergeMetrics]
  | cons metric metrics ih =>
      rw [mergeMetrics_cons, ih, mem_putMetric_names, List.map_cons, List.mem_cons, or_assoc]
      exact or_left_comm

theorem mergeMetrics_append (roster present added : List MetricDefinition) :
    mergeMetrics roster (present ++ added) = mergeMetrics (mergeMetrics roster present) added :=
  List.foldl_append

theorem putMetric_present {metric : MetricDefinition} {roster : List MetricDefinition}
    (distinct : (roster.map MetricDefinition.name).Nodup) (present : metric ∈ roster) :
    putMetric metric roster = roster := by
  induction roster with
  | nil => cases present
  | cons head rest ih =>
      rw [List.map_cons, List.nodup_cons] at distinct
      rw [putMetric]
      rcases List.mem_cons.mp present with rfl | later
      · rw [if_pos rfl]
      · have different : head.name ≠ metric.name := by
          intro same
          exact distinct.1 (same ▸ List.mem_map_of_mem later)
        rw [if_neg different, ih distinct.2 later]

theorem putMetric_fresh {metric : MetricDefinition} {roster : List MetricDefinition}
    (fresh : metric.name ∉ roster.map MetricDefinition.name) :
    putMetric metric roster = roster ++ [metric] := by
  induction roster with
  | nil => rfl
  | cons head rest ih =>
      rw [List.map_cons, List.mem_cons, not_or] at fresh
      rw [putMetric, if_neg (Ne.symm fresh.1), ih fresh.2]
      rfl

theorem mergeMetrics_present {roster metrics : List MetricDefinition}
    (distinct : (roster.map MetricDefinition.name).Nodup)
    (present : ∀ metric ∈ metrics, metric ∈ roster) : mergeMetrics roster metrics = roster := by
  induction metrics with
  | nil => rfl
  | cons metric metrics ih =>
      rw [mergeMetrics_cons, putMetric_present distinct (present metric List.mem_cons_self)]
      exact ih (fun other member => present other (List.mem_cons_of_mem metric member))

theorem mergeMetrics_fresh {roster added : List MetricDefinition}
    (distinct : ((roster ++ added).map MetricDefinition.name).Nodup) :
    mergeMetrics roster added = roster ++ added := by
  induction added generalizing roster with
  | nil => exact (List.append_nil roster).symm
  | cons metric added ih =>
      have fresh : metric.name ∉ roster.map MetricDefinition.name := by
        rw [List.map_append, List.nodup_append] at distinct
        intro listed
        exact distinct.2.2 _ listed _ (List.mem_map_of_mem List.mem_cons_self) rfl
      rw [mergeMetrics_cons, putMetric_fresh fresh, ih]
      · rw [List.append_assoc, List.singleton_append]
      · rw [List.append_assoc, List.singleton_append]
        exact distinct

theorem nodup_putMetric {metric : MetricDefinition} {roster : List MetricDefinition}
    (distinct : (roster.map MetricDefinition.name).Nodup) :
    ((putMetric metric roster).map MetricDefinition.name).Nodup := by
  induction roster with
  | nil => exact List.nodup_singleton _
  | cons head rest ih =>
      rw [List.map_cons, List.nodup_cons] at distinct
      rw [putMetric]
      by_cases same : head.name = metric.name
      · rw [if_pos same, List.map_cons, List.nodup_cons, ← same]
        exact distinct
      · rw [if_neg same, List.map_cons, List.nodup_cons, mem_putMetric_names, not_or]
        exact ⟨⟨same, distinct.1⟩, ih distinct.2⟩

/-- Merging repeats no name, even when what is merged in does. -/
theorem nodup_mergeMetrics {roster metrics : List MetricDefinition}
    (distinct : (roster.map MetricDefinition.name).Nodup) :
    ((mergeMetrics roster metrics).map MetricDefinition.name).Nodup := by
  induction metrics generalizing roster with
  | nil => exact distinct
  | cons metric metrics ih => exact ih (nodup_putMetric distinct)

/-- The entry under a name, the first one that there is. -/
def entryOf (roster : List MetricDefinition) (name : String) : Option MetricDefinition :=
  roster.find? (fun metric => metric.name = name)

theorem entryOf_cons (head : MetricDefinition) (rest : List MetricDefinition) (name : String) :
    entryOf (head :: rest) name = if head.name = name then some head else entryOf rest name := by
  rw [entryOf, List.find?_cons]
  by_cases same : head.name = name
  · simp [same]
  · simp [same, entryOf]

theorem entryOf_append (first second : List MetricDefinition) (name : String) :
    entryOf (first ++ second) name = (entryOf first name).or (entryOf second name) :=
  List.find?_append

theorem entryOf_eq_none {roster : List MetricDefinition} {name : String} :
    entryOf roster name = none ↔ name ∉ roster.map MetricDefinition.name := by
  simp [entryOf]

theorem entryOf_reverse_eq_none {roster : List MetricDefinition} {name : String} :
    entryOf roster.reverse name = none ↔ name ∉ roster.map MetricDefinition.name := by
  rw [entryOf_eq_none, List.map_reverse, List.mem_reverse]

theorem entryOf_putMetric (metric : MetricDefinition) (roster : List MetricDefinition)
    (name : String) :
    entryOf (putMetric metric roster) name =
      if metric.name = name then some metric else entryOf roster name := by
  induction roster with
  | nil => rw [putMetric, entryOf_cons]
  | cons head rest ih =>
      rw [putMetric]
      by_cases replaced : head.name = metric.name
      · rw [if_pos replaced, entryOf_cons, entryOf_cons, replaced]
        by_cases same : metric.name = name
        · rw [if_pos same, if_pos same]
        · rw [if_neg same, if_neg same, if_neg same]
      · rw [if_neg replaced, entryOf_cons, entryOf_cons, ih]
        by_cases same : head.name = name
        · have different : metric.name ≠ name := fun other => replaced (same.trans other.symm)
          rw [if_pos same, if_neg different, if_pos same]
        · rw [if_neg same, if_neg same]

/-- The last definition of a name that is merged in stays. -/
theorem entryOf_mergeMetrics (roster metrics : List MetricDefinition) (name : String) :
    entryOf (mergeMetrics roster metrics) name =
      (entryOf metrics.reverse name).or (entryOf roster name) := by
  induction metrics generalizing roster with
  | nil => rfl
  | cons metric metrics ih =>
      rw [mergeMetrics_cons, ih, entryOf_putMetric, List.reverse_cons, entryOf_append,
        entryOf_cons]
      cases entryOf metrics.reverse name with
      | some last => rfl
      | none =>
          by_cases same : metric.name = name
          · simp [same]
          · simp [same, entryOf]

theorem entryOf_of_mem {roster : List MetricDefinition}
    (distinct : (roster.map MetricDefinition.name).Nodup) {metric : MetricDefinition}
    (member : metric ∈ roster) : entryOf roster metric.name = some metric := by
  induction roster with
  | nil => cases member
  | cons head rest ih =>
      rw [List.map_cons, List.nodup_cons] at distinct
      rw [entryOf_cons]
      rcases List.mem_cons.mp member with rfl | later
      · rw [if_pos rfl]
      · have different : head.name ≠ metric.name := by
          intro same
          exact distinct.1 (same ▸ List.mem_map_of_mem later)
        rw [if_neg different, ih distinct.2 later]

/-- Where no name is repeated, the last entry of a name is the first one. -/
theorem entryOf_reverse {roster : List MetricDefinition}
    (distinct : (roster.map MetricDefinition.name).Nodup) (name : String) :
    entryOf roster.reverse name = entryOf roster name := by
  have turned : (roster.reverse.map MetricDefinition.name).Nodup := by
    rw [List.map_reverse]
    exact List.nodup_reverse.mpr distinct
  cases found : entryOf roster name with
  | none =>
      rw [entryOf_eq_none] at found ⊢
      rw [List.map_reverse, List.mem_reverse]
      exact found
  | some metric =>
      have member := List.mem_of_find?_eq_some found
      have named : metric.name = name := by simpa using List.find?_some found
      rw [← named]
      exact entryOf_of_mem turned (List.mem_reverse.mpr member)

theorem roster_setRoster (memory : Memory) (cid other : String)
    (metrics : List MetricDefinition) :
    (memory.setRoster cid metrics).roster other =
      if other = cid then metrics else memory.roster other := by
  rw [roster, setRoster, NameMap.get?_insert]
  by_cases same : other = cid
  · rw [if_pos same, if_pos same]
    rfl
  · rw [if_neg same, if_neg same]
    rfl

theorem mem_listedNames_mergeRoster {memory : Memory} {cid other : String}
    {metrics : List MetricDefinition} {name : String} :
    name ∈ (memory.mergeRoster cid metrics).listedNames other ↔
      (other = cid ∧ name ∈ metrics.map MetricDefinition.name) ∨
        name ∈ memory.listedNames other := by
  rw [listedNames, mergeRoster, roster_setRoster, listedNames]
  by_cases same : other = cid
  · rw [if_pos same, mem_mergeMetrics_names, same]
    simp
  · simp [same]

/-! ### Identifiers -/

theorem bundle?_insertBundle (memory : Memory) (bundle : Bundle) (cid : String) :
    (memory.insertBundle bundle).bundle? cid =
      if cid = bundle.cid then some bundle else memory.bundle? cid :=
  NameMap.get?_insert memory.bundles bundle.cid cid bundle

/-- Each bundle stands under its own identifier, which is canonical. -/
structure WellKept (memory : Memory) : Prop where
  own : ∀ cid bundle, memory.bundle? cid = some bundle → bundle.cid = cid
  canonical : ∀ cid bundle, memory.bundle? cid = some bundle →
    Cid.isCanonical .checkBundle cid = true

theorem wellKept_fresh : fresh.WellKept := by
  constructor
  · intro cid bundle found
    cases found
  · intro cid bundle found
    cases found

theorem WellKept.counted {memory : Memory} (wellKept : memory.WellKept) :
    memory.counted.WellKept :=
  ⟨wellKept.own, wellKept.canonical⟩

theorem WellKept.insertBundle {memory : Memory} (wellKept : memory.WellKept) {bundle : Bundle}
    (canonical : Cid.isCanonical .checkBundle bundle.cid = true) :
    (memory.insertBundle bundle).WellKept := by
  have stored : ∀ cid other, (memory.insertBundle bundle).bundle? cid = some other →
      (cid = bundle.cid ∧ other = bundle) ∨ memory.bundle? cid = some other := by
    intro cid other found
    rw [bundle?, Memory.insertBundle, NameMap.get?_insert] at found
    by_cases same : cid = bundle.cid
    · rw [if_pos same] at found
      exact Or.inl ⟨same, (Option.some.inj found).symm⟩
    · rw [if_neg same] at found
      exact Or.inr found
  constructor
  · intro cid other found
    rcases stored cid other found with ⟨rfl, rfl⟩ | before
    · rfl
    · exact wellKept.own cid other before
  · intro cid other found
    rcases stored cid other found with ⟨rfl, rfl⟩ | before
    · exact canonical
    · exact wellKept.canonical cid other before

theorem WellKept.answer {memory : Memory} (wellKept : memory.WellKept) (call : Call) :
    (memory.answer call).2.WellKept := by
  have counted := wellKept.counted
  rw [Memory.answer]
  split
  · exact counted
  · cases call with
    | fetchBrokers => exact counted
    | fetchBundle cid =>
        rw [carryOut]
        split <;> exact counted
    | search criteria filter => exact counted
    | create draft =>
        rw [carryOut, create]
        split
        · exact counted
        · refine WellKept.insertBundle ?_ (Cid.isCanonical_decimal .checkBundle _)
          exact ⟨counted.own, counted.canonical⟩
    | update bundle =>
        rw [carryOut, update]
        split
        · next present =>
          obtain ⟨stored, found⟩ := NameMap.contains_iff.mp present
          refine WellKept.insertBundle ?_ (counted.canonical bundle.cid stored found)
          exact ⟨counted.own, counted.canonical⟩
        · exact counted
    | get path => exact counted

theorem listedNames_answer {memory : Memory} (call : Call) {cid name : String}
    (listed : name ∈ memory.listedNames cid) : name ∈ (memory.answer call).2.listedNames cid := by
  rw [Memory.answer]
  split
  · exact listed
  · cases call with
    | fetchBrokers => exact listed
    | fetchBundle cid =>
        rw [carryOut]
        split <;> exact listed
    | search criteria filter => exact listed
    | create draft =>
        rw [carryOut, create]
        split
        · exact listed
        · exact mem_listedNames_mergeRoster.mpr (Or.inr listed)
    | update bundle =>
        rw [carryOut, update]
        split
        · exact mem_listedNames_mergeRoster.mpr (Or.inr listed)
        · exact listed
    | get path => exact listed

/-! ### Answers -/

theorem bundle?_of_answer {memory : Memory} {cid : String} {bundle : Bundle}
    (answered : (memory.answer (.fetchBundle cid)).1 = .ok bundle) :
    memory.bundle? cid = some bundle := by
  rw [Memory.answer] at answered
  split at answered
  · cases answered
  · rw [carryOut] at answered
    have counted : memory.counted.bundle? cid = memory.bundle? cid := rfl
    rw [counted] at answered
    cases found : memory.bundle? cid with
    | none =>
        rw [found] at answered
        cases answered
    | some stored =>
        rw [found] at answered
        cases answered
        rfl

theorem serve_of_answer {memory : Memory} {path : String} {bytes : ByteArray}
    (answered : (memory.answer (.get path)).1 = .ok bytes) : memory.serve path = .ok bytes := by
  rw [Memory.answer] at answered
  split at answered
  · cases answered
  · exact answered

theorem answer_of_available {memory : Memory} (available : memory.unavailable = false)
    (call : Call) : memory.answer call = memory.counted.carryOut call := by
  rw [Memory.answer, available]
  rfl

theorem answer_get {memory : Memory} (available : memory.unavailable = false) (path : String) :
    (memory.answer (.get path)).1 = memory.serve path := by
  rw [answer_of_available available]
  rfl

/-- An update of a bundle that is there merges the metrics into its roster and puts the revised
bundle in place. -/
theorem answer_update {memory : Memory} {submitted : Bundle} (available : memory.unavailable = false)
    (present : memory.bundles.contains submitted.cid = true) :
    memory.answer (.update submitted) = (.ok (revised submitted),
      ({ memory.counted with updated := memory.updated ++ [submitted] }.mergeRoster submitted.cid
        submitted.metrics).insertBundle (revised submitted)) := by
  rw [answer_of_available available, carryOut, update]
  exact if_pos present

section Accepted

variable {memory : Memory} {submitted updated : Bundle}

theorem present_of_update (accepted : (memory.answer (.update submitted)).1 = .ok updated) :
    memory.unavailable = false ∧ memory.bundles.contains submitted.cid = true := by
  rw [Memory.answer] at accepted
  split at accepted
  · cases accepted
  · next available =>
    rw [carryOut, update] at accepted
    split at accepted
    · next present => exact ⟨Bool.eq_false_iff.mpr available, present⟩
    · cases accepted

theorem answer_of_update (accepted : (memory.answer (.update submitted)).1 = .ok updated) :
    memory.answer (.update submitted) = (.ok (revised submitted),
      ({ memory.counted with updated := memory.updated ++ [submitted] }.mergeRoster submitted.cid
        submitted.metrics).insertBundle (revised submitted)) :=
  answer_update (present_of_update accepted).1 (present_of_update accepted).2

theorem eq_of_update (accepted : (memory.answer (.update submitted)).1 = .ok updated) :
    updated = revised submitted := by
  rw [answer_of_update accepted] at accepted
  exact (Except.ok.inj accepted).symm

theorem roster_of_update (accepted : (memory.answer (.update submitted)).1 = .ok updated) :
    (memory.answer (.update submitted)).2.roster submitted.cid =
      mergeMetrics (memory.roster submitted.cid) submitted.metrics := by
  rw [answer_of_update accepted]
  exact (roster_setRoster _ submitted.cid submitted.cid _).trans (if_pos rfl)

theorem bundle?_of_update (accepted : (memory.answer (.update submitted)).1 = .ok updated)
    (cid : String) :
    (memory.answer (.update submitted)).2.bundle? cid =
      if cid = submitted.cid then some updated else memory.bundle? cid := by
  rw [answer_of_update accepted, eq_of_update accepted]
  exact bundle?_insertBundle _ _ cid

theorem available_of_update (accepted : (memory.answer (.update submitted)).1 = .ok updated) :
    (memory.answer (.update submitted)).2.unavailable = false := by
  rw [answer_of_update accepted]
  exact (present_of_update accepted).1

end Accepted

/-! ### Paths -/

def Addressed (memory : Memory) : Prop :=
  ∀ cid ∈ memory.bundles.names, Cid.isCanonical .checkBundle cid = true

theorem WellKept.addressed {memory : Memory} (wellKept : memory.WellKept) : memory.Addressed := by
  intro cid member
  obtain ⟨bundle, found⟩ := NameMap.mem_names_iff.mp member
  exact wellKept.canonical cid bundle found

theorem Addressed.isCanonical_of_update {memory : Memory} (addressed : memory.Addressed)
    {submitted updated : Bundle} (accepted : (memory.answer (.update submitted)).1 = .ok updated) :
    Cid.isCanonical .checkBundle submitted.cid = true := by
  have present := NameMap.contains_iff.mp (present_of_update accepted).2
  exact addressed submitted.cid (NameMap.mem_names_iff.mpr present)

theorem Addressed.of_update {memory : Memory} (addressed : memory.Addressed)
    {submitted updated : Bundle} (accepted : (memory.answer (.update submitted)).1 = .ok updated) :
    (memory.answer (.update submitted)).2.Addressed := by
  intro cid member
  obtain ⟨bundle, stored⟩ := NameMap.mem_names_iff.mp member
  rw [← bundle?, bundle?_of_update accepted] at stored
  split at stored
  · next same =>
    rw [same]
    exact addressed.isCanonical_of_update accepted
  · exact addressed cid (NameMap.mem_names_iff.mpr ⟨bundle, stored⟩)

/-- The path of a roster leads to the roster of the bundle, if the bundle is there. -/
theorem Addressed.serve_rosterOf {memory : Memory} (addressed : memory.Addressed) {cid : String}
    (canonical : Cid.isCanonical .checkBundle cid = true) :
    memory.serve (Cid.rosterOf cid) =
      if (memory.bundle? cid).isSome then
        .ok (rosterJson (Cid.rosterOf cid) (memory.roster cid)).toBytes
      else .error (.notFound (Cid.rosterOf cid)) := by
  rw [serve, if_pos (Cid.after?_rosterOf canonical)]
  cases stored : memory.bundle? cid with
  | some bundle =>
      have member := NameMap.mem_names_iff.mpr ⟨bundle, stored⟩
      rw [(Cid.find?_rosterOf_eq_some addressed).mpr ⟨member, rfl⟩]
      rfl
  | none =>
      have missing : memory.bundles.names.find?
          (fun other => Cid.rosterOf other = Cid.rosterOf cid) = none := by
        refine Option.eq_none_iff_forall_ne_some.mpr (fun other found => ?_)
        obtain ⟨member, leads⟩ := (Cid.find?_rosterOf_eq_some addressed).mp found
        -- The bundle that is found would be the one asked for, which is not there.
        cases Cid.rosterOf_injective (addressed other member) canonical leads
        obtain ⟨bundle, there⟩ := NameMap.mem_names_iff.mp member
        cases stored.symm.trans there
      rw [missing]
      rfl

theorem Addressed.answer_rosterOf {memory : Memory} (addressed : memory.Addressed)
    (available : memory.unavailable = false) {cid : String}
    (canonical : Cid.isCanonical .checkBundle cid = true) {bundle : Bundle}
    (stored : memory.bundle? cid = some bundle) :
    (memory.answer (.get (Cid.rosterOf cid))).1 =
      .ok (rosterJson (Cid.rosterOf cid) (memory.roster cid)).toBytes := by
  rw [answer_get available, addressed.serve_rosterOf canonical, stored]
  rfl

end Api.Memory
end CheckBinding
