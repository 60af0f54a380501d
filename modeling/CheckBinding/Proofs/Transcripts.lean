import CheckBinding.Proofs.Execution

/-!
What a program asks for and is told, written down.

A transcript lists requests with their replies. A course of a program is a transcript together with
the result that it leads to; who replies is left open, so a program has a course for every choice of
replies. Surroundings come in afterwards, as those that can have replied in this way.
-/

namespace CheckBinding

structure Exchange where
  effect : Effect
  reply : effect.Answer

abbrev Transcript : Type := List Exchange

namespace Program

variable {State Part Result Further : Type} {transcript : Transcript}

/-! ### Courses -/

/-- The replies of a transcript lead a program to a result, which asks for just these. -/
inductive Course : Program Result → Transcript → Result → Prop
  | done (result : Result) : Course (.done result) [] result
  | perform {effect : Effect} {next : effect.Answer → Program Result} {result : Result}
      {transcript : Transcript} (reply : effect.Answer)
      (later : Course (next reply) transcript result) :
      Course (.perform effect next) (⟨effect, reply⟩ :: transcript) result

theorem course_done {value result : Result} :
    Course (.done value) transcript result ↔ transcript = [] ∧ result = value := by
  constructor
  · intro course
    cases course
    exact ⟨rfl, rfl⟩
  · rintro ⟨rfl, rfl⟩
    exact .done result

theorem course_pure {value result : Result} :
    Course (pure value) transcript result ↔ transcript = [] ∧ result = value :=
  course_done

theorem course_perform {effect : Effect} {next : effect.Answer → Program Result}
    {result : Result} :
    Course (.perform effect next) transcript result ↔
      ∃ reply rest, transcript = ⟨effect, reply⟩ :: rest ∧ Course (next reply) rest result := by
  constructor
  · intro course
    cases course with
    | perform reply later => exact ⟨reply, _, rfl, later⟩
  · rintro ⟨reply, rest, rfl, later⟩
    exact .perform reply later

theorem course_ask {effect : Effect} {reply : effect.Answer} :
    Course (ask effect) transcript reply ↔ transcript = [⟨effect, reply⟩] := by
  rw [ask, course_perform]
  constructor
  · rintro ⟨given, rest, rfl, later⟩
    obtain ⟨rfl, rfl⟩ := course_done.mp later
    rfl
  · rintro rfl
    exact ⟨reply, [], rfl, .done reply⟩

theorem course_bind {program : Program Result} {next : Result → Program Further}
    {result : Further} :
    Course (program >>= next) transcript result ↔
      ∃ value first second, transcript = first ++ second ∧ Course program first value ∧
        Course (next value) second result := by
  change Course (program.bind next) transcript result ↔ _
  induction program generalizing transcript with
  | done value =>
      simp only [bind, course_done]
      constructor
      · intro course
        exact ⟨value, [], transcript, rfl, ⟨rfl, rfl⟩, course⟩
      · rintro ⟨_, _, second, rfl, ⟨rfl, rfl⟩, course⟩
        exact course
  | perform effect rest ih =>
      simp only [bind, course_perform, ih]
      constructor
      · rintro ⟨reply, _, rfl, value, first, second, rfl, before, after⟩
        exact ⟨value, _, second, rfl, ⟨reply, first, rfl, before⟩, after⟩
      · rintro ⟨value, _, second, rfl, ⟨reply, first, rfl, before⟩, after⟩
        exact ⟨reply, first ++ second, rfl, value, first, second, rfl, before, after⟩

/-- Replies lead a program to one result only. -/
theorem Course.unique {program : Program Result} {result other : Result}
    (course : Course program transcript result) (again : Course program transcript other) :
    result = other := by
  induction course with
  | done result => exact (course_done.mp again).2.symm
  | perform reply later ih =>
      obtain ⟨given, rest, same, again⟩ := course_perform.mp again
      cases same
      exact ih again

theorem Confined.course {allowed : Effect → Prop} {post : Result → Prop}
    {program : Program Result} {result : Result} (confined : Confined allowed post program)
    (course : Course program transcript result) :
    (∀ exchange ∈ transcript, allowed exchange.effect) ∧ post result := by
  induction course with
  | done result => exact ⟨fun exchange member => (by cases member), confined⟩
  | perform reply later ih =>
      obtain ⟨rest, holds⟩ := ih (confined.2 reply)
      refine ⟨fun exchange member => ?_, holds⟩
      rcases List.mem_cons.mp member with first | later
      · rw [first]
        exact confined.1
      · exact rest exchange later

/-! ### Who may have replied -/

/-- Surroundings may have given the replies of a transcript, from one state to another. -/
def Replied (may : Surroundings State) : State → Transcript → State → Prop
  | state, [], final => final = state
  | state, exchange :: rest, final =>
      ∃ between, may state exchange.effect exchange.reply between ∧
        Replied may between rest final

variable {may : Surroundings State} {state final : State}

theorem replied_append {first second : Transcript} :
    Replied may state (first ++ second) final ↔
      ∃ between, Replied may state first between ∧ Replied may between second final := by
  induction first generalizing state with
  | nil => simp [Replied]
  | cons exchange first ih =>
      simp only [List.cons_append, Replied, ih]
      constructor
      · rintro ⟨middle, possible, between, before, after⟩
        exact ⟨between, ⟨middle, possible, before⟩, after⟩
      · rintro ⟨between, ⟨middle, possible, before⟩, after⟩
        exact ⟨middle, possible, between, before, after⟩

theorem Replied.mono {others : Surroundings State}
    (implied : ∀ before effect reply after, may before effect reply after →
      others before effect reply after)
    (replied : Replied may state transcript final) : Replied others state transcript final := by
  induction transcript generalizing state with
  | nil => exact replied
  | cons exchange rest ih =>
      obtain ⟨between, possible, later⟩ := replied
      exact ⟨between, implied _ _ _ _ possible, ih later⟩

/-- What every exchange of a transcript preserves holds at its end. -/
theorem Replied.keeps {keeps : State → Prop} (replied : Replied may state transcript final)
    (step : ∀ exchange ∈ transcript, ∀ before after,
      keeps before → may before exchange.effect exchange.reply after → keeps after)
    (kept : keeps state) : keeps final := by
  induction transcript generalizing state with
  | nil =>
      rw [show final = state from replied]
      exact kept
  | cons exchange rest ih =>
      obtain ⟨between, possible, later⟩ := replied
      have keptBetween := step exchange List.mem_cons_self state between kept possible
      exact ih later (fun other member => step other (List.mem_cons_of_mem _ member)) keptBetween

/-- A run is a course whose replies the surroundings may give. -/
theorem yields_iff_course {program : Program Result} {result : Result} :
    Yields may program state result final ↔
      ∃ transcript, Course program transcript result ∧ Replied may state transcript final := by
  induction program generalizing state with
  | done value =>
      rw [yields_done]
      constructor
      · rintro ⟨rfl, rfl⟩
        exact ⟨[], .done result, rfl⟩
      · rintro ⟨transcript, course, replied⟩
        obtain ⟨rfl, rfl⟩ := course_done.mp course
        exact ⟨rfl, replied⟩
  | perform effect next ih =>
      simp only [yields_perform, ih]
      constructor
      · rintro ⟨reply, between, possible, transcript, course, replied⟩
        exact ⟨_, .perform reply course, between, possible, replied⟩
      · rintro ⟨transcript, course, replied⟩
        obtain ⟨reply, rest, rfl, later⟩ := course_perform.mp course
        obtain ⟨between, possible, replied⟩ := replied
        exact ⟨reply, between, possible, rest, later, replied⟩

/-! ### Surroundings without a choice -/

variable {answer : State → (effect : Effect) → effect.Answer × State}

def record (answer : State → (effect : Effect) → effect.Answer × State) :
    Program Result → State → Transcript
  | .done _, _ => []
  | .perform effect next, state =>
      ⟨effect, (answer state effect).1⟩ ::
        record answer (next (answer state effect).1) (answer state effect).2

theorem record_bind (program : Program Result) (next : Result → Program Further) (state : State) :
    (program >>= next).record answer state =
      program.record answer state ++
        (next (run answer program state).1).record answer (run answer program state).2 := by
  change (program.bind next).record answer state = _
  induction program generalizing state with
  | done value => rfl
  | perform effect rest ih =>
      exact congrArg (_ :: ·) (ih (answer state effect).1 (answer state effect).2)

theorem course_run (program : Program Result) (state : State) :
    Course program (program.record answer state) (run answer program state).1 := by
  induction program generalizing state with
  | done value => exact .done value
  | perform effect next ih =>
      exact .perform (answer state effect).1 (ih (answer state effect).1 (answer state effect).2)

/-- Surroundings that see a part of the state may have replied to a run, if they may answer as it
was answered. -/
theorem replied_run {may : Surroundings Part} (part : State → Part)
    (allowed : ∀ state effect,
      may (part state) effect (answer state effect).1 (part (answer state effect).2))
    (program : Program Result) (state : State) :
    Replied may (part state) (program.record answer state)
      (part (run answer program state).2) := by
  induction program generalizing state with
  | done value => rfl
  | perform effect next ih =>
      exact ⟨_, allowed state effect, ih (answer state effect).1 (answer state effect).2⟩

end Program

/-! ### Worlds -/

namespace World

open Program

variable {Service Result : Type} {serve : Service → (call : Api.Call) → call.Answer × Service}

def record (serve : Service → (call : Api.Call) → call.Answer × Service)
    (world : World Service) (program : Program Result) : Transcript :=
  program.record (answer serve) world

theorem course_run (world : World Service) (program : Program Result) :
    Course program (world.record serve program) (world.run serve program).1 :=
  Program.course_run program world

theorem replied_run {may : Surroundings Storage.FileSystem}
    (allowed : ∀ (world : World Service) effect, may world.files effect
      (answer serve world effect).1 (answer serve world effect).2.files)
    (world : World Service) (program : Program Result) :
    Replied may world.files (world.record serve program) (world.run serve program).2.files :=
  Program.replied_run World.files allowed program world

end World

/-! ### Reading a transcript -/

def Exchange.call? (exchange : Exchange) : Option Api.Call :=
  match exchange.effect with
  | .call call => some call
  | _ => none

def Exchange.resolution? (exchange : Exchange) : Option (ResolutionMethod × Bool × Nat) :=
  match exchange.effect with
  | .count (.resolutions method succeeded) amount => some (method, succeeded, amount)
  | _ => none

def Exchange.copy? : Exchange → Option Bundle
  | ⟨.call (.fetchBundle _), .ok bundle⟩ => some bundle
  | _ => none

def Exchange.update? : Exchange → Option Bundle
  | ⟨.call (.update _), .ok updated⟩ => some updated
  | _ => none

/-- The one bundle that an exchange brings. A search that finds several brings none. -/
def Exchange.bundle? : Exchange → Option Bundle
  | ⟨.call (.fetchBundle _), .ok bundle⟩ => some bundle
  | ⟨.call (.search _ _), .ok [bundle]⟩ => some bundle
  | ⟨.call (.create _), .ok bundle⟩ => some bundle
  | ⟨.call (.update _), .ok bundle⟩ => some bundle
  | _ => none

namespace Transcript

def calls (transcript : Transcript) : List Api.Call :=
  transcript.filterMap Exchange.call?

def resolutions (transcript : Transcript) : List (ResolutionMethod × Bool × Nat) :=
  transcript.filterMap Exchange.resolution?

def copies (transcript : Transcript) : List Bundle :=
  transcript.filterMap Exchange.copy?

def updates (transcript : Transcript) : List Bundle :=
  transcript.filterMap Exchange.update?

def bundles (transcript : Transcript) : List Bundle :=
  transcript.filterMap Exchange.bundle?

def Answered (transcript : Transcript) (call : Api.Call) (answer : call.Answer) : Prop :=
  (⟨.call call, answer⟩ : Exchange) ∈ transcript

variable {first second transcript : Transcript} {call : Api.Call}

theorem calls_append : calls (first ++ second) = calls first ++ calls second :=
  List.filterMap_append

theorem resolutions_append :
    resolutions (first ++ second) = resolutions first ++ resolutions second :=
  List.filterMap_append

theorem updates_append : updates (first ++ second) = updates first ++ updates second :=
  List.filterMap_append

theorem bundles_append : bundles (first ++ second) = bundles first ++ bundles second :=
  List.filterMap_append

theorem answered_append {answer : call.Answer} :
    Answered (first ++ second) call answer ↔ Answered first call answer ∨
      Answered second call answer :=
  List.mem_append

theorem mem_calls : call ∈ transcript.calls ↔ ∃ answer, transcript.Answered call answer := by
  rw [calls, List.mem_filterMap]
  constructor
  · rintro ⟨⟨effect, reply⟩, member, called⟩
    cases effect with
    | call other =>
        cases called
        exact ⟨reply, member⟩
    | _ => cases called
  · rintro ⟨answer, member⟩
    exact ⟨_, member, rfl⟩

theorem answered_of_mem_copies {bundle : Bundle} (fetched : bundle ∈ transcript.copies) :
    ∃ cid, transcript.Answered (.fetchBundle cid) (.ok bundle) := by
  obtain ⟨⟨effect, reply⟩, member, copied⟩ := List.mem_filterMap.mp fetched
  cases effect with
  | call call =>
      cases call with
      | fetchBundle cid =>
          cases reply with
          | ok copy =>
              cases copied
              exact ⟨cid, member⟩
          | error fault => cases copied
      | _ => cases copied
  | _ => cases copied

theorem answered_of_mem_updates {updated : Bundle} (accepted : updated ∈ transcript.updates) :
    ∃ submitted, transcript.Answered (.update submitted) (.ok updated) := by
  obtain ⟨⟨effect, reply⟩, member, answered⟩ := List.mem_filterMap.mp accepted
  cases effect with
  | call call =>
      cases call with
      | update submitted =>
          cases reply with
          | ok answer =>
              cases answered
              exact ⟨submitted, member⟩
          | error fault => cases answered
      | _ => cases answered
  | _ => cases answered

end Transcript
end CheckBinding
