import CheckBinding.Agent.Probing
import CheckBinding.Proofs.Transcripts
import Mathlib.Algebra.Order.BigOperators.Group.List
import Mathlib.Algebra.Order.Ring.Nat

/-!
How often a probe tries a node, how long that takes, and what it reports.

An outlook says how all attempts would end and how long each would take, and what is drawn for the
pauses. A probe makes the attempts up to the first that succeeds, or all that it may make, with a
pause between every two of them, and reports the time of the last one alone.
-/

namespace CheckBinding

/-! ### Reading a transcript -/

def Exchange.attempt? (exchange : Exchange) : Option (Endpoint × Duration) :=
  match exchange.effect with
  | .connect endpoint timeout => some (endpoint, timeout)
  | _ => none

def Exchange.pause? (exchange : Exchange) : Option Duration :=
  match exchange.effect with
  | .sleep span => some span
  | _ => none

namespace Transcript

variable {first second : Transcript}

def attempts (transcript : Transcript) : List (Endpoint × Duration) :=
  transcript.filterMap Exchange.attempt?

def pauses (transcript : Transcript) : List Duration :=
  transcript.filterMap Exchange.pause?

theorem attempts_append : attempts (first ++ second) = attempts first ++ attempts second :=
  List.filterMap_append

theorem pauses_append : pauses (first ++ second) = pauses first ++ pauses second :=
  List.filterMap_append

end Transcript

namespace Probing

open Program

/-! ### Outlooks -/

/-- What is ahead of a prober at a moment: how the next attempts end, each given where it goes and
its timeout, how long they take, and what is drawn next. -/
structure Outlook where
  now : Nat
  attempts : Nat → Endpoint → Duration → Attempt × Duration
  draws : Nat → (others : Nat) → Fin (others + 1)

namespace Outlook

variable (outlook : Outlook) (endpoint : Endpoint) (timeout : Duration)

def tried : Outlook where
  now := outlook.now + (outlook.attempts 0 endpoint timeout).2.nanoseconds
  attempts := fun index => outlook.attempts (index + 1)
  draws := outlook.draws

def waited (span : Duration) : Outlook :=
  { outlook with now := outlook.now + span.nanoseconds }

def drawn : Outlook :=
  { outlook with draws := fun index => outlook.draws (index + 1) }

/-- Surroundings in which everything goes as an outlook says. Time passes in attempts and pauses
only; what a probe does not ask for fails. -/
def answer : (effect : Effect) → effect.Answer × Outlook
  | .clock => (outlook.now, outlook)
  | .connect endpoint timeout =>
      ((outlook.attempts 0 endpoint timeout).1, outlook.tried endpoint timeout)
  | .sleep span => ((), outlook.waited span)
  | .choose others => (outlook.draws 0 others, outlook.drawn)
  | .call _ => (.error (.http ""), outlook)
  | .storage _ => (.error .notFound, outlook)
  | .probe _ _ _ => (none, outlook)
  | .listen _ => (false, outlook)
  | .count _ _ => ((), outlook)

def report (index : Nat) : Option Duration :=
  if (outlook.attempts index endpoint timeout).1 = .connected then
    some (outlook.attempts index endpoint timeout).2
  else none

def pauseAt (index : Nat) : Duration :=
  Duration.ofMilliseconds
    (shortestPause + (outlook.draws index (pauseBound - shortestPause - 1)).val)

/-- The time that attempts take, up to the one of an index. -/
def spent (last : Nat) : Nat :=
  ((List.range (last + 1)).map
    (fun index => (outlook.attempts index endpoint timeout).2.nanoseconds)).sum

end Outlook

variable {outlook : Outlook} {endpoint : Endpoint} {timeout : Duration}

/-! ### One attempt and one pause -/

/-- An attempt is measured from its own start. -/
theorem run_attempt :
    (attempt endpoint timeout).run Outlook.answer outlook =
      (outlook.report endpoint timeout 0, outlook.tried endpoint timeout) := by
  rw [attempt, Program.clock, run_bind, run_ask, run_bind, run_ask, Outlook.report]
  cases outcome : (outlook.attempts 0 endpoint timeout).1 with
  | connected =>
      have passed : (outlook.tried endpoint timeout).now - outlook.now =
          (outlook.attempts 0 endpoint timeout).2.nanoseconds := Nat.add_sub_cancel_left ..
      simp only [Outlook.answer, outcome]
      rw [run_bind, run_ask, run_pure, Outlook.answer, passed]
      rfl
  | refused =>
      simp only [Outlook.answer, outcome]
      rfl
  | timedOut =>
      simp only [Outlook.answer, outcome]
      rfl

theorem record_attempt :
    ((attempt endpoint timeout).record Outlook.answer outlook).attempts = [(endpoint, timeout)] ∧
      ((attempt endpoint timeout).record Outlook.answer outlook).pauses = [] := by
  rw [attempt, Program.clock, record_bind, run_ask, record_bind, run_ask]
  cases outcome : (outlook.attempts 0 endpoint timeout).1 with
  | connected =>
      simp only [Outlook.answer, outcome]
      exact ⟨rfl, rfl⟩
  | refused =>
      simp only [Outlook.answer, outcome]
      exact ⟨rfl, rfl⟩
  | timedOut =>
      simp only [Outlook.answer, outcome]
      exact ⟨rfl, rfl⟩

theorem run_pause :
    pause.run Outlook.answer outlook = ((), outlook.drawn.waited (outlook.pauseAt 0)) :=
  rfl

theorem record_pause :
    (pause.record Outlook.answer outlook).attempts = [] ∧
      (pause.record Outlook.answer outlook).pauses = [outlook.pauseAt 0] :=
  ⟨rfl, rfl⟩

/-! ### All attempts -/

theorem spent_succ (last : Nat) (span : Duration) :
    outlook.spent endpoint timeout (last + 1) =
      (outlook.attempts 0 endpoint timeout).2.nanoseconds +
        ((outlook.tried endpoint timeout).drawn.waited span).spent endpoint timeout last := by
  rw [Outlook.spent, List.range_succ_eq_map, List.map_cons, List.sum_cons, List.map_map]
  rfl

/-- Trying a node at most so many times ends with the attempt of an index: all before it fail, and
it succeeds or is the last one. -/
structure Ends (outlook : Outlook) (endpoint : Endpoint) (timeout : Duration) (most last : Nat)
    (reported : Option Duration) (transcript : Transcript) (final : Outlook) : Prop where
  within : last < most
  failed : ∀ index < last, outlook.report endpoint timeout index = none
  stopped : outlook.report endpoint timeout last ≠ none ∨ last + 1 = most
  reported : reported = outlook.report endpoint timeout last
  attempts : transcript.attempts = List.replicate (last + 1) (endpoint, timeout)
  pauses : transcript.pauses = (List.range last).map outlook.pauseAt
  time : final.now = outlook.now + outlook.spent endpoint timeout last +
    (transcript.pauses.map Duration.nanoseconds).sum

theorem ends_attempt {most : Nat} (some : 0 < most)
    (stopped : outlook.report endpoint timeout 0 ≠ none ∨ 0 + 1 = most) :
    Ends outlook endpoint timeout most 0 (outlook.report endpoint timeout 0)
      ((attempt endpoint timeout).record Outlook.answer outlook)
      (outlook.tried endpoint timeout) := by
  obtain ⟨attempts, pauses⟩ := @record_attempt outlook endpoint timeout
  refine ⟨some, fun index before => absurd before (Nat.not_lt_zero index), stopped, rfl, attempts,
    pauses, ?_⟩
  rw [pauses]
  simp [Outlook.tried, Outlook.spent]

theorem Ends.again {most last : Nat} {reported : Option Duration} {transcript : Transcript}
    {final : Outlook} (failed : outlook.report endpoint timeout 0 = none)
    (ends : Ends ((outlook.tried endpoint timeout).drawn.waited (outlook.pauseAt 0)) endpoint timeout
      most last reported transcript final) :
    Ends outlook endpoint timeout (most + 1) (last + 1) reported
      ((attempt endpoint timeout).record Outlook.answer outlook ++
        (pause.record Outlook.answer (outlook.tried endpoint timeout) ++ transcript)) final := by
  obtain ⟨attempts, pauses⟩ := @record_attempt outlook endpoint timeout
  obtain ⟨noAttempts, onePause⟩ : _ ∧
      (pause.record Outlook.answer (outlook.tried endpoint timeout)).pauses = [outlook.pauseAt 0] :=
    record_pause
  refine ⟨Nat.succ_lt_succ ends.within, fun index before => ?_, ?_, ends.reported, ?_, ?_, ?_⟩
  · cases index with
    | zero => exact failed
    | succ index => exact ends.failed index (Nat.lt_of_succ_lt_succ before)
  · exact ends.stopped.imp_right (congrArg Nat.succ)
  · rw [Transcript.attempts_append, Transcript.attempts_append, attempts, noAttempts,
      ends.attempts]
    rfl
  · rw [Transcript.pauses_append, Transcript.pauses_append, pauses, onePause, ends.pauses,
      List.range_succ_eq_map, List.map_cons, List.map_map]
    rfl
  · rw [Transcript.pauses_append, Transcript.pauses_append, pauses, onePause, ends.time,
      spent_succ last (outlook.pauseAt 0), List.nil_append, List.singleton_append, List.map_cons,
      List.sum_cons]
    change outlook.now + (outlook.attempts 0 endpoint timeout).2.nanoseconds +
      (outlook.pauseAt 0).nanoseconds + _ + _ = _
    omega

theorem ends_tryNode (again : Nat) (outlook : Outlook) (endpoint : Endpoint)
    (timeout : Duration) :
    ∃ last, Ends outlook endpoint timeout (again + 1) last
      ((tryNode endpoint timeout again).run Outlook.answer outlook).1
      ((tryNode endpoint timeout again).record Outlook.answer outlook)
      ((tryNode endpoint timeout again).run Outlook.answer outlook).2 := by
  induction again generalizing outlook with
  | zero =>
      rw [tryNode, run_attempt]
      exact ⟨0, ends_attempt Nat.one_pos (Or.inr rfl)⟩
  | succ again ih =>
      rw [tryNode, run_bind, record_bind, run_attempt]
      cases reported : outlook.report endpoint timeout 0 with
      | some latency =>
          have ends := ends_attempt (Nat.succ_pos (again + 1))
            (Or.inl (reported ▸ Option.some_ne_none latency))
          rw [reported] at ends
          refine ⟨0, ?_⟩
          change Ends _ _ _ _ _ _ (_ ++ []) _
          rw [List.append_nil]
          exact ends
      | none =>
          obtain ⟨last, ends⟩ :=
            ih ((outlook.tried endpoint timeout).drawn.waited (outlook.pauseAt 0))
          refine ⟨last + 1, ?_⟩
          rw [run_bind, record_bind, run_pause]
          exact ends.again reported

/-! ### Bounds -/

theorem report_eq_none_iff {index : Nat} :
    outlook.report endpoint timeout index = none ↔
      (outlook.attempts index endpoint timeout).1 ≠ .connected := by
  rw [Outlook.report, ite_eq_right_iff]
  simp

/-- A pause is drawn from 200 milliseconds on, and below two seconds. -/
theorem pauseAt_bounds (outlook : Outlook) (index : Nat) :
    (Duration.ofMilliseconds 200).nanoseconds ≤ (outlook.pauseAt index).nanoseconds ∧
      (outlook.pauseAt index).nanoseconds < (Duration.ofSeconds 2).nanoseconds := by
  have drawn := (outlook.draws index (pauseBound - shortestPause - 1)).isLt
  change 200 * 10 ^ 6 ≤ (200 + _) * 10 ^ 6 ∧ (200 + _) * 10 ^ 6 < 2 * 10 ^ 9
  change _ < 2000 - 200 - 1 + 1 at drawn
  omega

theorem Outlook.spent_le {last : Nat}
    (kept : ∀ index ≤ last,
      (outlook.attempts index endpoint timeout).2.nanoseconds ≤ timeout.nanoseconds) :
    outlook.spent endpoint timeout last ≤ (last + 1) * timeout.nanoseconds := by
  have each : ∀ span ∈ (List.range (last + 1)).map
      (fun index => (outlook.attempts index endpoint timeout).2.nanoseconds),
      span ≤ timeout.nanoseconds := by
    intro span member
    obtain ⟨index, within, rfl⟩ := List.mem_map.mp member
    exact kept index (Nat.le_of_lt_succ (List.mem_range.mp within))
  have total := List.sum_le_card_nsmul _ _ each
  rwa [List.length_map, List.length_range, Nat.nsmul_eq_mul] at total

/-- Whatever is ahead, a probe ends with the attempt of some index. -/
theorem ends_probe (outlook : Outlook) (endpoint : Endpoint) (timeout : Duration)
    (attempts : UInt32) :
    ∃ last, Ends outlook endpoint timeout (max 1 attempts.toNat) last
      ((probe endpoint timeout attempts).run Outlook.answer outlook).1
      ((probe endpoint timeout attempts).record Outlook.answer outlook)
      ((probe endpoint timeout attempts).run Outlook.answer outlook).2 := by
  have most : max 1 attempts.toNat = attempts.toNat - 1 + 1 := by omega
  rw [most]
  exact ends_tryNode (attempts.toNat - 1) outlook endpoint timeout

section Ends

variable {most last : Nat} {reported : Option Duration} {transcript : Transcript} {final : Outlook}

theorem Ends.reported_eq_none_iff
    (ends : Ends outlook endpoint timeout most last reported transcript final) :
    reported = none ↔ ∀ index < most, (outlook.attempts index endpoint timeout).1 ≠ .connected := by
  rw [ends.reported]
  constructor
  · intro none index before
    rw [← report_eq_none_iff]
    have all : last + 1 = most := ends.stopped.resolve_left (not_not_intro none)
    rcases Nat.lt_or_eq_of_le (Nat.le_of_lt_succ (all ▸ before)) with earlier | rfl
    · exact ends.failed index earlier
    · exact none
  · intro all
    exact report_eq_none_iff.mpr (all last ends.within)

theorem Ends.length_pauses
    (ends : Ends outlook endpoint timeout most last reported transcript final) :
    transcript.pauses.length = last := by
  rw [ends.pauses, List.length_map, List.length_range]

theorem Ends.pause_bounds
    (ends : Ends outlook endpoint timeout most last reported transcript final) {pause : Duration}
    (made : pause ∈ transcript.pauses) :
    (Duration.ofMilliseconds 200).nanoseconds ≤ pause.nanoseconds ∧
      pause.nanoseconds < (Duration.ofSeconds 2).nanoseconds := by
  rw [ends.pauses] at made
  obtain ⟨index, -, rfl⟩ := List.mem_map.mp made
  exact pauseAt_bounds outlook index

/-- Attempts that keep to their timeout are over in time. -/
theorem Ends.time_le
    (ends : Ends outlook endpoint timeout most last reported transcript final)
    (kept : ∀ index ≤ last,
      (outlook.attempts index endpoint timeout).2.nanoseconds ≤ timeout.nanoseconds) :
    final.now ≤ outlook.now + most * timeout.nanoseconds +
      last * (Duration.ofSeconds 2).nanoseconds := by
  have spent : outlook.spent endpoint timeout last ≤ most * timeout.nanoseconds :=
    (Outlook.spent_le kept).trans (Nat.mul_le_mul_right _ ends.within)
  have each : ∀ span ∈ transcript.pauses.map Duration.nanoseconds,
      span ≤ (Duration.ofSeconds 2).nanoseconds := by
    intro span member
    obtain ⟨pause, made, rfl⟩ := List.mem_map.mp member
    exact Nat.le_of_lt (ends.pause_bounds made).2
  have paused := List.sum_le_card_nsmul _ _ each
  rw [List.length_map, ends.length_pauses, Nat.nsmul_eq_mul] at paused
  calc final.now
      = outlook.now + outlook.spent endpoint timeout last +
          (transcript.pauses.map Duration.nanoseconds).sum := ends.time
    _ ≤ _ := Nat.add_le_add (Nat.add_le_add_left spent _) paused

end Ends

/-- However the attempts at a node go and whatever is drawn, a probe makes those up to the first that
connects, or as many as it may make and at least one, all with its timeout. It reports the time of
the attempt that connects, or nothing if none of those does. Between every two attempts it pauses,
at least 200 milliseconds and less than two seconds, and so it is over after as many timeouts as it
may make attempts and two seconds for each pause. -/
theorem probe_bounded (outlook : Outlook) (endpoint : Endpoint) (timeout : Duration)
    (attempts : UInt32) :
    let most := max 1 attempts.toNat
    let outcome := fun index => (outlook.attempts index endpoint timeout).1
    let span := fun index => (outlook.attempts index endpoint timeout).2
    let reported := ((probe endpoint timeout attempts).run Outlook.answer outlook).1
    let final := ((probe endpoint timeout attempts).run Outlook.answer outlook).2
    let transcript := (probe endpoint timeout attempts).record Outlook.answer outlook
    ∃ last < most,
      (∀ index < last, outcome index ≠ .connected) ∧
      (outcome last = .connected ∨ last + 1 = most) ∧
      transcript.attempts = List.replicate (last + 1) (endpoint, timeout) ∧
      reported = (if outcome last = .connected then some (span last) else none) ∧
      (reported = none ↔ ∀ index < most, outcome index ≠ .connected) ∧
      transcript.pauses.length = last ∧
      (∀ pause ∈ transcript.pauses,
        (Duration.ofMilliseconds 200).nanoseconds ≤ pause.nanoseconds ∧
          pause.nanoseconds < (Duration.ofSeconds 2).nanoseconds) ∧
      final.now = outlook.now +
        ((List.range (last + 1)).map (fun index => (span index).nanoseconds)).sum +
        (transcript.pauses.map Duration.nanoseconds).sum ∧
      ((∀ index ≤ last, (span index).nanoseconds ≤ timeout.nanoseconds) →
        final.now ≤ outlook.now + most * timeout.nanoseconds +
          last * (Duration.ofSeconds 2).nanoseconds) := by
  intro most outcome span reported final transcript
  obtain ⟨last, ends⟩ := ends_probe outlook endpoint timeout attempts
  refine ⟨last, ends.within, fun index before => report_eq_none_iff.mp (ends.failed index before),
    ?_, ends.attempts, ends.reported, ends.reported_eq_none_iff, ends.length_pauses,
    fun pause made => ends.pause_bounds made, ends.time, ends.time_le⟩
  exact ends.stopped.imp_left
    (fun reports => not_not.mp (fun fails => reports (report_eq_none_iff.mpr fails)))

/-- A node refuses once, then lets the timeout pass, and connects at the third attempt; two attempts
do not reach it, and no attempts are one. -/
theorem probe_bounded_third :
    let outlook : Outlook := {
      now := 7
      attempts := fun index _ timeout =>
        match index with
        | 0 => (.refused, ⟨1⟩)
        | 1 => (.timedOut, timeout)
        | _ => (.connected, ⟨3⟩)
      draws := fun _ others => Fin.last others }
    let node : Endpoint := ⟨"web01", 43191⟩
    let ran := fun attempts => (probe node ⟨5⟩ attempts).run Outlook.answer outlook
    let transcript := fun attempts => (probe node ⟨5⟩ attempts).record Outlook.answer outlook
    (ran 3).1 = some ⟨3⟩ ∧ (ran 3).2.now ≤ 7 + 3 * 5 + 2 * (2 * 10 ^ 9) ∧
      (ran 2).1 = none ∧ (transcript 2).attempts = [(node, ⟨5⟩), (node, ⟨5⟩)] ∧
      (ran 0).1 = none ∧ (transcript 0).pauses = [] := by
  intro outlook node ran transcript
  obtain ⟨third, within, -, stopped, -, reported, -, -, -, -, bounded⟩ :=
    probe_bounded outlook node ⟨5⟩ 3
  obtain ⟨second, withinSecond, -, stoppedSecond, attempts, -, unreached, -⟩ :=
    probe_bounded outlook node ⟨5⟩ 2
  obtain ⟨only, withinOnly, -, -, -, -, unreachedOnly, pauses, -⟩ :=
    probe_bounded outlook node ⟨5⟩ 0
  have lastOfThree : third = 2 := by
    have three : third < 3 := within
    rcases stopped with connected | all
    · match third with
      | 0 => cases connected
      | 1 => cases connected
      | index + 2 => omega
    · exact Nat.succ.inj all
  have lastOfTwo : second = 1 := by
    have two : second < 2 := withinSecond
    rcases stoppedSecond with connected | all
    · match second with
      | 0 => cases connected
      | index + 1 => omega
    · exact Nat.succ.inj all
  have lastOfOne : only = 0 := Nat.lt_one_iff.mp withinOnly
  subst lastOfThree lastOfTwo lastOfOne
  refine ⟨reported, bounded ?_, unreached.mpr ?_, attempts, unreachedOnly.mpr ?_,
    List.length_eq_zero_iff.mp pauses⟩
  · intro index within
    match index with
    | 0 => decide
    | 1 => decide
    | index + 2 => exact (by decide : 3 ≤ 5)
  · intro index within
    match index with
    | 0 => decide
    | 1 => decide
    | index + 2 => exact absurd within (by simp)
  · intro index within
    match index with
    | 0 => decide
    | index + 1 => exact absurd within (by simp)

end Probing
end CheckBinding
