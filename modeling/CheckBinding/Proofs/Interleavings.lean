import CheckBinding.Proofs.ConcurrentEdits
import CheckBinding.Proofs.HeldCopies

/-!
Two agents that enable metrics of one bundle at the same time.

Of all that the agents ask, only the copies that they fetch and the bundles that they submit matter
to the bundle as it is stored: the turns of a schedule. After the update of one agent there are only
turns of the other one. If the other one fetches its copy then, it hands on what it finds; if it has
fetched its copy before, its update takes the place of the first one.
-/

namespace CheckBinding

open Program

/-! ### Two parties -/

inductive Party where
  | first
  | second
deriving DecidableEq

namespace Party

def other : Party → Party
  | .first => .second
  | .second => .first

theorem other_ne (party : Party) : party.other ≠ party := by
  cases party <;> exact Party.noConfusion

theorem eq_other_of_ne {party name : Party} (different : name ≠ party) : name = party.other := by
  cases party with
  | first =>
      cases name with
      | first => exact absurd rfl different
      | second => rfl
  | second =>
      cases name with
      | first => rfl
      | second => exact absurd rfl different

variable {Item : Type} {party : Party} {item : Item} {items front back : List (Party × Item)}

def part (party : Party) (items : List (Party × Item)) : List Item :=
  items.filterMap (fun item => if item.1 = party then some item.2 else none)

theorem part_append : party.part (front ++ back) = party.part front ++ party.part back :=
  List.filterMap_append

theorem part_cons_self : party.part ((party, item) :: items) = item :: party.part items :=
  List.filterMap_cons_some (if_pos rfl)

theorem part_cons_of_ne {name : Party} (apart : name ≠ party) :
    party.part ((name, item) :: items) = party.part items :=
  List.filterMap_cons_none (if_neg apart)

theorem mem_part : item ∈ party.part items ↔ (party, item) ∈ items := by
  rw [part, List.mem_filterMap]
  constructor
  · rintro ⟨⟨name, found⟩, member, same⟩
    by_cases own : name = party
    · rw [if_pos own] at same
      cases same
      exact own ▸ member
    · rw [if_neg own] at same
      cases same
  · intro member
    exact ⟨(party, item), member, if_pos rfl⟩

/-- What one party has no part in is the other one's. -/
theorem map_snd_of_part_nil (apart : party.part items = []) :
    items.map Prod.snd = party.other.part items := by
  induction items with
  | nil => rfl
  | cons head items ih =>
      obtain ⟨name, item⟩ := head
      by_cases own : name = party
      · rw [own, part_cons_self] at apart
        cases apart
      · rw [eq_other_of_ne own] at apart ⊢
        rw [part_cons_of_ne party.other_ne] at apart
        rw [part_cons_self, List.map_cons, ih apart]

end Party

/-! ### Turns -/

/-- A request that goes through and matters to a bundle as it is stored: a copy is fetched, or a
bundle takes its place. -/
inductive Turn where
  | fetches (copy : Bundle)
  | updates (submitted : Bundle)

def Exchange.turn? : Exchange → Option Turn
  | ⟨.call (.fetchBundle _), .ok copy⟩ => some (.fetches copy)
  | ⟨.call (.update submitted), .ok _⟩ => some (.updates submitted)
  | _ => none

theorem Exchange.eq_of_fetches {exchange : Exchange} {copy : Bundle}
    (taken : exchange.turn? = some (.fetches copy)) :
    ∃ cid, exchange = ⟨.call (.fetchBundle cid), .ok copy⟩ := by
  unfold Exchange.turn? at taken
  split at taken
  · cases taken
    exact ⟨_, rfl⟩
  · cases taken
  · cases taken

theorem Exchange.eq_of_updates {exchange : Exchange} {submitted : Bundle}
    (taken : exchange.turn? = some (.updates submitted)) :
    ∃ updated, exchange = ⟨.call (.update submitted), .ok updated⟩ := by
  unfold Exchange.turn? at taken
  split at taken
  · cases taken
  · cases taken
    exact ⟨_, rfl⟩
  · cases taken

def Transcript.turns (transcript : Transcript) : List Turn :=
  transcript.filterMap Exchange.turn?

/-- The metrics that are staged: those that an update has behind the ones of the copy fetched
before. -/
def Transcript.staged (transcript : Transcript) : List MetricDefinition :=
  match transcript.turns with
  | [.fetches copy, .updates submitted] => submitted.metrics.drop copy.metrics.length
  | _ => []

namespace Transcript

variable {first second transcript : Transcript}

theorem turns_append : turns (first ++ second) = turns first ++ turns second :=
  List.filterMap_append

theorem turns_of_supplies (supplies : ∀ exchange ∈ transcript, exchange.effect.Supplies) :
    transcript.turns = [] := by
  refine List.filterMap_eq_nil_iff.mpr (fun exchange member => ?_)
  have supplied := supplies exchange member
  cases taken : exchange.turn? with
  | none => rfl
  | some turn =>
      cases turn with
      | fetches copy =>
          obtain ⟨cid, rfl⟩ := Exchange.eq_of_fetches taken
          exact supplied.elim
      | updates submitted =>
          obtain ⟨updated, rfl⟩ := Exchange.eq_of_updates taken
          exact supplied.elim

end Transcript

abbrev Schedule : Type := List (Party × Exchange)

namespace Schedule

variable {schedule : Schedule} {party : Party}

def merged (schedule : Schedule) : Transcript :=
  schedule.map Prod.snd

def turns (schedule : Schedule) : List (Party × Turn) :=
  schedule.filterMap (fun entry => entry.2.turn?.map (entry.1, ·))

theorem part_turns (schedule : Schedule) :
    party.part schedule.turns = Transcript.turns (party.part schedule) := by
  rw [turns, Party.part, Transcript.turns, Party.part, List.filterMap_filterMap,
    List.filterMap_filterMap]
  congr 1
  funext entry
  by_cases own : entry.1 = party
  · cases taken : entry.2.turn? with
    | none => simp [own, taken]
    | some turn => simp [own, taken]
  · simp [own]

theorem turns_merged (schedule : Schedule) :
    schedule.merged.turns = schedule.turns.map Prod.snd := by
  rw [merged, Transcript.turns, turns, List.filterMap_map, List.map_filterMap]
  congr 1
  funext entry
  rw [Option.map_map]
  exact Option.map_id'.symm

/-- A party's update is lost to one that the other party submits later, for a copy fetched
before. -/
def Overwrites (schedule : Schedule) (party : Party) (submitted : Bundle) : Prop :=
  ∃ front back copy lost, schedule.turns = front ++ (party, .updates lost) :: back ∧
    (party.other, .fetches copy) ∈ front ∧ (party.other, .updates submitted) ∈ back

end Schedule

/-! ### The bundle as it is stored -/

/-- The bundle that is stored under an identifier, while turns are taken: a copy is one of it, and an
update takes its place. -/
def Replays (cid : String) : Option Bundle → List Turn → Option Bundle → Prop
  | stored, [], final => final = stored
  | stored, .fetches copy :: later, final =>
      (copy.cid = cid → stored = some copy) ∧ Replays cid stored later final
  | stored, .updates submitted :: later, final =>
      Replays cid (if cid = submitted.cid then some (Api.Memory.revised submitted) else stored)
        later final

theorem replays_append {cid : String} {stored final : Option Bundle} {first second : List Turn} :
    Replays cid stored (first ++ second) final ↔
      ∃ between, Replays cid stored first between ∧ Replays cid between second final := by
  induction first generalizing stored with
  | nil => simp [Replays]
  | cons turn first ih =>
      cases turn with
      | fetches copy => simp only [List.cons_append, Replays, ih, and_assoc, exists_and_left]
      | updates submitted => simp only [List.cons_append, Replays, ih]

namespace Api.Memory

variable {memory before after : Memory} {exchange : Exchange} {transcript : Transcript}
  {cid : String}

def Owned (memory : Memory) : Prop :=
  ∀ cid bundle, memory.bundle? cid = some bundle → bundle.cid = cid

theorem Owned.insertBundle (owned : memory.Owned) (bundle : Bundle) :
    (memory.insertBundle bundle).Owned := by
  intro cid other found
  rw [bundle?_insertBundle] at found
  by_cases same : cid = bundle.cid
  · rw [if_pos same] at found
    cases found
    exact same.symm
  · rw [if_neg same] at found
    exact owned cid other found

/-- Of the exchanges that tend to bundles, only an accepted update changes what is stored. -/
theorem bundle?_of_tends (tends : exchange.effect.Tends)
    (possible : wavering before exchange.effect exchange.reply after) (cid : String) :
    after.bundle? cid =
      match exchange.turn? with
      | some (.updates submitted) =>
          if cid = submitted.cid then some (revised submitted) else before.bundle? cid
      | _ => before.bundle? cid := by
  by_cases updates : ∃ submitted updated, exchange = ⟨.call (.update submitted), .ok updated⟩
  · obtain ⟨submitted, updated, rfl⟩ := updates
    obtain ⟨unavailable, answered⟩ := possible
    obtain ⟨accepted, rfl⟩ := Prod.ext_iff.mp answered
    obtain rfl := eq_of_update accepted
    exact bundle?_of_update accepted cid
  · have idle : exchange.stored? = none := by
      unfold Exchange.stored?
      split
      · exact tends.elim
      · exact absurd ⟨_, _, rfl⟩ updates
      · rfl
    have same : after.bundle? cid = before.bundle? cid := by
      rw [bundle?, bundles_of_wavering possible idle]
      rfl
    rw [same]
    split
    · next submitted taken =>
      unfold Exchange.turn? at taken
      split at taken
      · cases taken
      · exact absurd ⟨_, _, rfl⟩ updates
      · cases taken
    · rfl

theorem Owned.of_tends (owned : before.Owned) (tends : exchange.effect.Tends)
    (possible : wavering before exchange.effect exchange.reply after) : after.Owned := by
  intro cid bundle found
  rw [bundle?_of_tends tends possible] at found
  split at found
  · split at found
    · next same =>
      cases found
      exact same.symm
    · exact owned cid bundle found
  · exact owned cid bundle found

/-- A copy that is fetched is the bundle stored under the identifier asked for. -/
theorem Owned.fetched (owned : before.Owned) {asked : String} {copy : Bundle}
    (possible : wavering before (.call (.fetchBundle asked)) (.ok copy) after) :
    copy.cid = asked ∧ before.bundle? asked = some copy := by
  obtain ⟨unavailable, answered⟩ := possible
  have stored := bundle?_of_answer (Prod.ext_iff.mp answered).1
  exact ⟨owned asked copy stored, stored⟩

theorem Owned.cid_of_answered (owned : before.Owned)
    (tends : ∀ exchange ∈ transcript, exchange.effect.Tends)
    (replied : Replied wavering before transcript after) {asked : String} {copy : Bundle}
    (answered : transcript.Answered (.fetchBundle asked) (.ok copy)) : copy.cid = asked := by
  obtain ⟨front, back, rfl⟩ := List.append_of_mem answered
  obtain ⟨between, earlier, next, possible, -⟩ := replied_append.mp replied
  have tendsBefore := fun exchange member => tends exchange (List.mem_append_left _ member)
  have kept : between.Owned := earlier.keeps
    (fun exchange member _ _ kept possible => kept.of_tends (tendsBefore exchange member) possible)
    owned
  exact (kept.fetched possible).1

/-- What is stored under an identifier is what the turns leave there. -/
theorem Owned.replays (owned : before.Owned)
    (tends : ∀ exchange ∈ transcript, exchange.effect.Tends)
    (replied : Replied wavering before transcript after) (cid : String) :
    Replays cid (before.bundle? cid) transcript.turns (after.bundle? cid) := by
  induction transcript generalizing before with
  | nil =>
      rw [show after = before from replied]
      rfl
  | cons exchange transcript ih =>
      obtain ⟨between, possible, later⟩ := replied
      obtain ⟨tendsNow, tendsLater⟩ := List.forall_mem_cons.mp tends
      have rest := ih (owned.of_tends tendsNow possible) tendsLater later
      rw [bundle?_of_tends tendsNow possible cid] at rest
      rw [Transcript.turns, List.filterMap_cons]
      cases taken : exchange.turn? with
      | none =>
          rw [taken] at rest
          exact rest
      | some turn =>
          rw [taken] at rest
          cases turn with
          | updates submitted => exact rest
          | fetches copy =>
              obtain ⟨asked, rfl⟩ := Exchange.eq_of_fetches taken
              obtain ⟨named, stored⟩ := owned.fetched possible
              exact ⟨fun own => named.symm.trans own ▸ stored, rest⟩

/-! ### Rosters -/

theorem listedNames_of_replied {name : String}
    (replied : Replied wavering before transcript after)
    (listed : name ∈ before.listedNames cid) : name ∈ after.listedNames cid := by
  have step : ∀ exchange ∈ transcript, ∀ between later : Memory,
      name ∈ between.listedNames cid → wavering between exchange.effect exchange.reply later →
        name ∈ later.listedNames cid := by
    rintro ⟨effect, reply⟩ member between later kept possible
    cases effect with
    | call call =>
        obtain ⟨unavailable, answered⟩ := possible
        obtain ⟨-, rfl⟩ := Prod.ext_iff.mp answered
        exact listedNames_answer call kept
    | _ =>
        obtain rfl : later = between := possible
        exact kept
  exact replied.keeps step listed

/-- What an accepted update submits is on the roster from then on. -/
theorem listedNames_of_updates {submitted : Bundle}
    (replied : Replied wavering before transcript after)
    (updates : .updates submitted ∈ transcript.turns) {metric : MetricDefinition}
    (member : metric ∈ submitted.metrics) : metric.name ∈ after.listedNames submitted.cid := by
  obtain ⟨exchange, among, taken⟩ := List.mem_filterMap.mp updates
  obtain ⟨updated, rfl⟩ := Exchange.eq_of_updates taken
  obtain ⟨front, back, rfl⟩ := List.append_of_mem among
  obtain ⟨between, -, next, ⟨unavailable, answered⟩, later⟩ := replied_append.mp replied
  obtain ⟨accepted, rfl⟩ := Prod.ext_iff.mp answered
  refine listedNames_of_replied later ?_
  rw [listedNames, roster_of_update accepted, mem_mergeMetrics_names]
  exact Or.inl (List.mem_map_of_mem member)

end Api.Memory

/-! ### What an agent does -/

namespace Controller

variable {controller : Controller} {transcript : Transcript} {collected : Collected}

inductive Staging (cid : String) (transcript : Transcript) : Prop
  | nothing (none : transcript.turns = [])
  | submitted {copy : Bundle} {added : List MetricDefinition}
      (fetched : transcript.Answered (.fetchBundle cid) (.ok copy))
      (turns : transcript.turns = [.fetches copy, .updates (copy.extendedBy added)])

theorem staging_of_submitting {store : MetricStore} {cid : String}
    {added : List MetricDefinition} {first second : Transcript} {outcome : Outcome Unit}
    (submitting : Submitting controller store cid added second outcome)
    (succeeds : outcome.1 = .ok ()) (supplies : ∀ exchange ∈ first, exchange.effect.Supplies) :
    Staging cid (first ++ second) := by
  cases submitting with
  | unfetched => cases succeeds
  | refused => cases succeeds
  | @accepted copy updated now writes persisted written =>
      have silent := Transcript.turns_of_supplies (MetricStore.supplies_of_persist written)
      have later : Transcript.turns (writes ++ [⟨.count .metricsEnabled added.length, ()⟩]) = [] := by
        rw [Transcript.turns_append, silent]
        rfl
      refine @Staging.submitted _ _ copy added (List.mem_append_right _ List.mem_cons_self) ?_
      rw [Transcript.turns_append, Transcript.turns_of_supplies supplies]
      exact congrArg (fun turns => .fetches copy :: .updates (copy.extendedBy added) :: turns) later

theorem staging_of_course {held : Bundle} {outcome : Outcome Unit}
    (bound : controller.bundle = some held)
    (course : Course (controller.enableNewMetrics collected) transcript outcome)
    (succeeds : outcome.1 = .ok ()) : Staging held.cid transcript := by
  cases enabling_of_course course with
  | idle idle => exact .nothing rfl
  | unseeded managing empty refreshing => cases succeeds
  | seeded managing empty refreshing =>
      exact .nothing (Transcript.turns_of_supplies refreshing.supplies)
  | unread managing loaded due refreshing => cases succeeds
  | unwritten managing loaded due refreshing =>
      have silent := Transcript.turns_of_supplies refreshing.supplies
      exact .nothing silent
  | known managing loaded current nothing =>
      exact .nothing (Transcript.turns_of_supplies current.supplies)
  | submitted managing loaded current new submitting =>
      cases bound.symm.trans managing.bound
      exact staging_of_submitting submitting succeeds current.supplies

end Controller

/-! ### Two agents -/

open Api.Memory (revised)

variable {party : Party} {turns front back : List (Party × Turn)} {cid : String}
  {stored final : Option Bundle} {submitted lost : Bundle}

theorem append_eq_pair {Item : Type} {first last : Item} {front back : List Item}
    (pair : front ++ back = [first, last]) :
    (front = [] ∧ back = [first, last]) ∨ (front = [first] ∧ back = [last]) ∨
      (front = [first, last] ∧ back = []) := by
  rcases List.append_eq_cons_iff.mp pair with ⟨none, whole⟩ | ⟨rest, started, pair⟩
  · exact Or.inl ⟨none, whole⟩
  · rcases List.append_eq_cons_iff.mp pair.symm with ⟨none, whole⟩ | ⟨others, ended, finished⟩
    · exact Or.inr (Or.inl ⟨none ▸ started, whole⟩)
    · obtain ⟨none, finished⟩ := List.append_eq_nil_iff.mp finished.symm
      exact Or.inr (Or.inr ⟨by rw [started, ended, none], finished⟩)

/-- A party that updates once has nothing to do after its update. -/
theorem Party.part_of_split {copy : Bundle}
    (own : party.part turns = [.fetches copy, .updates submitted])
    (split : turns = front ++ (party, .updates lost) :: back) :
    lost = submitted ∧ party.part back = [] := by
  rw [split, part_append, part_cons_self] at own
  rcases append_eq_pair own with ⟨-, after⟩ | ⟨-, after⟩ | ⟨-, after⟩
  · cases (List.cons.inj after).1
  · obtain ⟨same, finished⟩ := List.cons.inj after
    exact ⟨Turn.updates.inj same, finished⟩
  · cases after

/-- What becomes of an update, by the turns that the other party takes before and after it: it is
the last one, or the other one's takes its place, or the other one extends it. -/
inductive Ending (submitted : Bundle) (before after : List Turn) (final : Option Bundle) : Prop
  | last (none : after = []) (stays : final = some (revised submitted))
  | lost {copy replacing : Bundle} (fetched : before = [.fetches copy])
      (updated : after = [.updates replacing]) (replaced : final = some (revised replacing))
  | extended {added : List MetricDefinition} (unfetched : before = [])
      (extended : final = some (revised ((revised submitted).extendedBy added)))

theorem ending_of_split {transcript : Transcript} {copy : Bundle}
    (own : party.part turns = [.fetches copy, .updates submitted])
    (others : Controller.Staging cid transcript)
    (theirs : party.other.part turns = transcript.turns)
    (copies : ∀ copy, .fetches copy ∈ transcript.turns → copy.cid = cid)
    (here : submitted.cid = cid) (replays : Replays cid stored (turns.map Prod.snd) final)
    (split : turns = front ++ (party, .updates lost) :: back) :
    Ending submitted (party.other.part front) (party.other.part back) final := by
  obtain ⟨rfl, finished⟩ := Party.part_of_split own split
  rw [split, Party.part_append, Party.part_cons_of_ne (Ne.symm party.other_ne)] at theirs
  rw [split, List.map_append, replays_append] at replays
  obtain ⟨between, -, replays⟩ := replays
  rw [List.map_cons, Replays, if_pos here.symm, Party.map_snd_of_part_nil finished] at replays
  cases others with
  | nothing none =>
      rw [none, List.append_eq_nil_iff] at theirs
      rw [theirs.2] at replays
      exact .last theirs.2 replays
  | @submitted fresh added fetched staged =>
      rw [staged] at theirs copies
      have same : fresh.cid = cid := copies fresh List.mem_cons_self
      have still : cid = (fresh.extendedBy added).cid := same.symm
      rcases append_eq_pair theirs with ⟨before, after⟩ | ⟨before, after⟩ | ⟨-, after⟩
      · rw [after] at replays
        obtain ⟨found, updated⟩ := replays
        cases found same
        rw [Replays, if_pos still] at updated
        exact .extended before updated
      · rw [after] at replays
        rw [Replays, if_pos still] at replays
        exact .lost before after replays
      · rw [after] at replays
        exact .last after replays

namespace Schedule

variable {schedule : Schedule} {before after : Api.Memory} {agents : Party → Controller}
  {collected : Party → Collected} {outcomes : Party → Controller.Outcome Unit}

theorem mem_merged_turns {turn : Turn} (taken : turn ∈ Transcript.turns (party.part schedule)) :
    (party, turn) ∈ schedule.turns ∧ turn ∈ schedule.merged.turns := by
  rw [← part_turns, Party.mem_part] at taken
  rw [turns_merged]
  exact ⟨taken, List.mem_map_of_mem taken⟩

structure Enables (agents : Party → Controller) (collected : Party → Collected) (cid : String)
    (schedule : Schedule) : Prop where
  bound : ∀ party, (agents party).cid = .ok cid
  succeeds : ∀ party, ∃ ended,
    Course ((agents party).enableNewMetrics (collected party)) (party.part schedule) (.ok (), ended)

theorem Enables.staging (enables : Enables agents collected cid schedule) (party : Party) :
    Controller.Staging cid (party.part schedule) := by
  have named := enables.bound party
  obtain ⟨ended, course⟩ := enables.succeeds party
  rw [Controller.cid, Controller.ask] at named
  cases bound : (agents party).bundle with
  | none =>
      rw [bound] at named
      cases named
  | some held =>
      rw [bound] at named
      cases named
      exact Controller.staging_of_course bound course rfl

theorem Enables.tends (enables : Enables agents collected cid schedule) :
    ∀ exchange ∈ schedule.merged, exchange.effect.Tends := by
  intro exchange member
  obtain ⟨⟨party, taken⟩, among, rfl⟩ := List.mem_map.mp member
  obtain ⟨ended, course⟩ := enables.succeeds party
  exact (Controller.enabling_of_course course).tends taken (Party.mem_part.mpr among)

theorem Enables.cid_of_fetches (enables : Enables agents collected cid schedule)
    (owned : before.Owned) (replied : Replied Api.Memory.wavering before schedule.merged after)
    {party : Party} {copy : Bundle}
    (fetches : .fetches copy ∈ Transcript.turns (party.part schedule)) : copy.cid = cid := by
  cases enables.staging party with
  | nothing none =>
      rw [none] at fetches
      cases fetches
  | @submitted fresh added fetched staged =>
      rw [staged] at fetches
      have same : copy = fresh := by simpa using fetches
      have answered : schedule.merged.Answered (.fetchBundle cid) (.ok fresh) :=
        List.mem_map.mpr ⟨_, Party.mem_part.mp fetched, rfl⟩
      rw [same]
      exact owned.cid_of_answered enables.tends replied answered

theorem Enables.ending (enables : Enables agents collected cid schedule) (owned : before.Owned)
    (replied : Replied Api.Memory.wavering before schedule.merged after) {party : Party}
    {copy submitted lost : Bundle} {front back : List (Party × Turn)}
    (turns : Transcript.turns (party.part schedule) = [.fetches copy, .updates submitted])
    (here : submitted.cid = cid)
    (split : schedule.turns = front ++ (party, .updates lost) :: back) :
    Ending submitted (party.other.part front) (party.other.part back) (after.bundle? cid) := by
  have replays := owned.replays enables.tends replied cid
  rw [turns_merged] at replays
  rw [← part_turns] at turns
  exact ending_of_split turns (enables.staging party.other) (part_turns schedule)
    (fun fresh => enables.cid_of_fetches owned replied) here replays split

/-- A name that an update submits is lost just to an update that takes its place without it. -/
theorem Enables.present_iff (enables : Enables agents collected cid schedule)
    (owned : before.Owned) (replied : Replied Api.Memory.wavering before schedule.merged after)
    {party : Party} {copy submitted : Bundle} {name : String}
    (turns : Transcript.turns (party.part schedule) = [.fetches copy, .updates submitted])
    (here : submitted.cid = cid) (named : name ∈ submitted.metricNames) :
    (∃ stored, after.bundle? cid = some stored ∧ name ∈ stored.metricNames) ↔
      ∀ replacing, schedule.Overwrites party replacing → name ∈ replacing.metricNames := by
  constructor
  · rintro ⟨stored, found, present⟩ replacing ⟨front, back, fresh, lost, split, fetches, updates⟩
    rw [← Party.mem_part] at fetches updates
    cases enables.ending owned replied turns here split with
    | last none stays =>
        rw [none] at updates
        cases updates
    | lost fetched updated replaced =>
        rw [updated, List.mem_singleton] at updates
        cases updates
        cases found.symm.trans replaced
        exact present
    | extended unfetched extended =>
        rw [unfetched] at fetches
        cases fetches
  · intro kept
    have updates : Turn.updates submitted ∈ Transcript.turns (party.part schedule) := by
      rw [turns]
      exact List.mem_cons_of_mem _ List.mem_cons_self
    obtain ⟨front, back, split⟩ := List.append_of_mem (mem_merged_turns updates).1
    cases enables.ending owned replied turns here split with
    | last none stays => exact ⟨revised submitted, stays, named⟩
    | @lost fresh replacing fetched updated replaced =>
        have overwrites : schedule.Overwrites party replacing := by
          refine ⟨front, back, fresh, submitted, split, ?_, ?_⟩
          · rw [← Party.mem_part, fetched]
            exact List.mem_cons_self
          · rw [← Party.mem_part, updated]
            exact List.mem_cons_self
        exact ⟨revised replacing, replaced, kept replacing overwrites⟩
    | @extended added unfetched extended =>
        have present : name ∈ ((revised submitted).extendedBy added).metricNames := by
          rw [Bundle.metricNames_extendedBy]
          exact List.mem_append_left _ named
        exact ⟨_, extended, present⟩

/-- Of what two agents stage for one bundle at the same time, everything is on the roster afterwards.
It is in the bundle as well, unless the other agent's update takes the place of that of the one that
staged it: an update for a copy fetched before, without the name. -/
theorem staged_kept_iff (owned : before.Owned) (enables : Enables agents collected cid schedule)
    (replied : Replied Api.Memory.wavering before schedule.merged after) (party : Party)
    (metric : MetricDefinition) (staged : metric ∈ Transcript.staged (party.part schedule)) :
    metric.name ∈ after.listedNames cid ∧
      ((∃ stored, after.bundle? cid = some stored ∧ metric.name ∈ stored.metricNames) ↔
        ∀ replacing, schedule.Overwrites party replacing →
          metric.name ∈ replacing.metricNames) := by
  cases enables.staging party with
  | nothing none =>
      rw [Transcript.staged, none] at staged
      cases staged
  | @submitted copy added fetched turns =>
      rw [Transcript.staged, turns] at staged
      have new : metric ∈ added := by
        simpa [Bundle.extendedBy] using staged
      have member : metric ∈ (copy.extendedBy added).metrics := List.mem_append_right _ new
      have here : copy.cid = cid :=
        enables.cid_of_fetches owned replied (turns ▸ List.mem_cons_self)
      have updates : Turn.updates (copy.extendedBy added) ∈
          Transcript.turns (party.part schedule) := by
        rw [turns]
        exact List.mem_cons_of_mem _ List.mem_cons_self
      have listed := Api.Memory.listedNames_of_updates replied (mem_merged_turns updates).2 member
      rw [show (copy.extendedBy added).cid = cid from here] at listed
      exact ⟨listed, enables.present_iff owned replied turns here (List.mem_map_of_mem member)⟩

end Schedule

/-! ### Programs in turn -/

namespace Program

variable {State Part Result : Type} {answer : State → (effect : Effect) → effect.Answer × State}

structure Shared (State Result : Type) where
  left : Party → Program Result
  state : State

def Shared.step (answer : State → (effect : Effect) → effect.Answer × State) (party : Party)
    (shared : Shared State Result) : Option Exchange × Shared State Result :=
  match shared.left party with
  | .done _ => (none, shared)
  | .perform effect next =>
      let (reply, state) := answer shared.state effect
      (some ⟨effect, reply⟩,
        ⟨fun name => if name = party then next reply else shared.left name, state⟩)

/-- Runs two programs, the order of whose effects is given. -/
def Shared.interleave (answer : State → (effect : Effect) → effect.Answer × State) :
    List Party → Shared State Result → Schedule × Shared State Result
  | [], shared => ([], shared)
  | party :: order, shared =>
      let (taken, next) := shared.step answer party
      let (schedule, final) := next.interleave answer order
      (taken.toList.map (party, ·) ++ schedule, final)

def result? : Program Result → Option Result
  | .done result => some result
  | .perform _ _ => none

theorem course_of_step {shared : Shared State Result} {name party : Party}
    {transcript : Transcript} {result : Result}
    (later : Course ((shared.step answer name).2.left party) transcript result) :
    Course (shared.left party)
      (party.part ((shared.step answer name).1.toList.map (name, ·)) ++ transcript) result := by
  rw [Shared.step] at later ⊢
  cases left : shared.left name with
  | done value =>
      rw [left] at later
      exact later
  | perform effect next =>
      simp only [left] at later ⊢
      by_cases own : party = name
      · subst own
        rw [if_pos rfl] at later
        rw [left, Option.toList_some, List.map_singleton, Party.part_cons_self]
        exact .perform _ later
      · rw [if_neg own] at later
        rw [Option.toList_some, List.map_singleton, Party.part_cons_of_ne (Ne.symm own)]
        exact later

/-- A program that is done has run as the exchanges say in which its party has part. -/
theorem course_interleave {order : List Party} {shared : Shared State Result} {party : Party}
    {result : Result}
    (done : ((shared.interleave answer order).2.left party).result? = some result) :
    Course (shared.left party) (party.part (shared.interleave answer order).1) result := by
  induction order generalizing shared with
  | nil =>
      change (shared.left party).result? = some result at done
      cases left : shared.left party with
      | done value =>
          rw [left] at done
          cases done
          exact .done result
      | perform effect next =>
          rw [left] at done
          cases done
  | cons name order ih =>
      change Course _ (party.part (_ ++ _)) result
      rw [Party.part_append]
      exact course_of_step (ih done)

theorem replied_interleave {may : Surroundings Part} (part : State → Part)
    (allowed : ∀ state effect,
      may (part state) effect (answer state effect).1 (part (answer state effect).2))
    (order : List Party) (shared : Shared State Result) :
    Replied may (part shared.state) (shared.interleave answer order).1.merged
      (part (shared.interleave answer order).2.state) := by
  induction order generalizing shared with
  | nil => rfl
  | cons name order ih =>
      have later := ih (shared.step answer name).2
      change Replied may _ (Schedule.merged (_ ++ _)) _
      rw [Schedule.merged, List.map_append, replied_append]
      refine ⟨part (shared.step answer name).2.state, ?_, later⟩
      rw [Shared.step]
      cases shared.left name with
      | done value => rfl
      | perform effect next => exact ⟨_, allowed shared.state effect, rfl⟩

end Program
/-! ### A lost update -/

namespace Schedule

open Program Controller

def newcomer (bundle : Bundle) : Controller :=
  let config := { Config.standard with
    bundleId := some bundle.cid, enableNewMetrics := true, stateDir := some "." }
  { (unbound config).bind bundle with
    managing := true
    store := some ((MetricStore.inDirectory "." config.metricRefreshTtl).merge [] 0) }

def usersAndLoad : Party → Collected
  | .first => [("users", .text "2")]
  | .second => [("load", .text "0.1")]

def newcomers (bundle : Bundle) : Shared (World Api.Memory) (Outcome Unit) where
  left := fun party => (newcomer bundle).enableNewMetrics (usersAndLoad party)
  state := World.quiet (Api.Memory.fresh.insertBundle bundle) Storage.FileSystem.empty

theorem replied_newcomers (bundle : Bundle) (order : List Party) :
    Replied Api.Memory.wavering (Api.Memory.fresh.insertBundle bundle)
      ((newcomers bundle).interleave (World.answer Api.Memory.answer) order).1.merged
      ((newcomers bundle).interleave (World.answer Api.Memory.answer) order).2.state.service := by
  have allowed : ∀ (world : World Api.Memory) (effect : Effect),
      Api.Memory.wavering world.service effect (World.answer Api.Memory.answer world effect).1
        (World.answer Api.Memory.answer world effect).2.service := by
    intro world effect
    cases effect with
    | call call => exact ⟨world.service.unavailable, rfl⟩
    | _ => rfl
  exact replied_interleave World.service allowed order (newcomers bundle)

theorem enables_newcomers (bundle : Bundle) (order : List Party)
    (succeed : ∀ party, (((newcomers bundle).interleave (World.answer Api.Memory.answer)
      order).2.left party).result?.map Prod.fst = some (.ok ())) :
    Enables (fun _ => newcomer bundle) usersAndLoad bundle.cid
      ((newcomers bundle).interleave (World.answer Api.Memory.answer) order).1 where
  bound := fun _ => rfl
  succeeds := by
    intro party
    obtain ⟨⟨result, ended⟩, done, succeeded⟩ := Option.map_eq_some_iff.mp (succeed party)
    cases succeeded
    have course := course_interleave done
    exact ⟨ended, course⟩

def lone : Bundle :=
  { Bundle.blank with cid := "/check_bundle/1", status := Bundle.activeStatus }

/-- The second party goes through with its submission after the first one has fetched its copy. -/
def overlapping : List Party :=
  [.first, .first] ++ List.replicate 20 .second ++ List.replicate 20 .first

theorem newcomers_succeed (party : Party) :
    (((newcomers lone).interleave (World.answer Api.Memory.answer)
      overlapping).2.left party).result?.map Prod.fst = some (.ok ()) := by
  cases party with
  | first => decide +kernel
  | second => decide +kernel

/-- One agent updates the bundle between the fetch and the update of the other one, whose update
takes its place. -/
theorem staged_kept_iff_overlapping :
    let ran := (newcomers lone).interleave (World.answer Api.Memory.answer) overlapping
    let load := MetricDefinition.ofKind "load" .text "active"
    (Api.Memory.fresh.insertBundle lone).Owned ∧
      Enables (fun _ => newcomer lone) usersAndLoad lone.cid ran.1 ∧
      load ∈ Transcript.staged (Party.second.part ran.1) ∧
      load.name ∈ ran.2.state.service.listedNames lone.cid ∧
      ∃ replacing, ran.1.Overwrites .second replacing ∧ load.name ∉ replacing.metricNames := by
  intro ran load
  have owned : (Api.Memory.fresh.insertBundle lone).Owned :=
    Api.Memory.Owned.insertBundle (fun cid bundle found => by cases found) lone
  have enables := enables_newcomers lone overlapping newcomers_succeed
  have staged : load ∈ Transcript.staged (Party.second.part ran.1) := by decide +kernel
  have only : (ran.2.state.service.bundle? lone.cid).map Bundle.metricNames = some ["users"] := by
    decide +kernel
  have replied := replied_newcomers lone overlapping
  obtain ⟨listed, kept⟩ := staged_kept_iff owned enables replied .second _ staged
  refine ⟨owned, enables, staged, listed, ?_⟩
  by_contra unlost
  simp only [not_exists, not_and, not_not] at unlost
  obtain ⟨stored, found, present⟩ := kept.mpr unlost
  rw [found, Option.map_some, Option.some.injEq] at only
  rw [only] at present
  exact absurd present (by decide)

/-- Both agents succeed, each of them stages a metric, and both metrics are on the roster, but the
bundle has only that of the agent that updated it last. -/
theorem staged_metric_lost :
    let ran := (newcomers lone).interleave (World.answer Api.Memory.answer) overlapping
    Enables (fun _ => newcomer lone) usersAndLoad lone.cid ran.1 ∧
      Replied Api.Memory.wavering (Api.Memory.fresh.insertBundle lone) ran.1.merged
        ran.2.state.service ∧
      (Transcript.staged (Party.first.part ran.1)).map MetricDefinition.name = ["users"] ∧
      (Transcript.staged (Party.second.part ran.1)).map MetricDefinition.name = ["load"] ∧
      ran.2.state.service.listedNames lone.cid = ["load", "users"] ∧
      (ran.2.state.service.bundle? lone.cid).map Bundle.metricNames = some ["users"] := by
  intro ran
  exact ⟨enables_newcomers lone overlapping newcomers_succeed, replied_newcomers lone overlapping,
    by decide +kernel, by decide +kernel, by decide +kernel, by decide +kernel⟩

end Schedule
end CheckBinding
