import CheckBinding.World

/-!
Runs of programs against surroundings that may answer in more than one way.

`Surroundings` is a relation: which replies an effect may get in a state, and what state follows.
`Leads` follows one choice of replies through a program, possibly not to its end; `Ensures`
quantifies over every choice. What is proved about a part of a program with `Ensures` is put
together along `bind` and brought to runs by `Ensures.holds`.
-/

namespace CheckBinding

/-- Surroundings that have a choice: in a state an effect may get a reply and lead to a state. -/
abbrev Surroundings (State : Type) : Type :=
  State → (effect : Effect) → effect.Answer → State → Prop

namespace Program

variable {State Result Further : Type} {may : Surroundings State}

/-! ### One choice of replies -/

/-- Some replies lead from a program and a state to what is left of the program and a state. -/
inductive Leads (may : Surroundings State) :
    Program Result → State → Program Result → State → Prop
  | here {program : Program Result} {state : State} : Leads may program state program state
  | onward {effect : Effect} {next : effect.Answer → Program Result} {reply : effect.Answer}
      {rest : Program Result} {state between final : State}
      (possible : may state effect reply between)
      (later : Leads may (next reply) between rest final) :
      Leads may (.perform effect next) state rest final

def Yields (may : Surroundings State) (program : Program Result) (state : State)
    (result : Result) (final : State) : Prop :=
  Leads may program state (.done result) final

theorem leads_done {result : Result} {rest : Program Result} {state final : State}
    (leads : Leads may (.done result) state rest final) : rest = .done result ∧ final = state := by
  cases leads
  exact ⟨rfl, rfl⟩

theorem leads_ask_bind {effect : Effect} {next : effect.Answer → Program Result}
    {rest : Program Result} {state final : State}
    (leads : Leads may (ask effect >>= next) state rest final) :
    (rest = ask effect >>= next ∧ final = state) ∨
      ∃ reply between, may state effect reply between ∧
        Leads may (next reply) between rest final := by
  change Leads may (.perform effect next) state rest final at leads
  cases leads with
  | here => exact Or.inl ⟨rfl, rfl⟩
  | onward possible later => exact Or.inr ⟨_, _, possible, later⟩

theorem yields_done {value result : Result} {state final : State} :
    Yields may (.done value) state result final ↔ result = value ∧ final = state := by
  constructor
  · intro run
    cases run
    exact ⟨rfl, rfl⟩
  · rintro ⟨rfl, rfl⟩
    exact Leads.here

theorem yields_perform {effect : Effect} {next : effect.Answer → Program Result}
    {result : Result} {state final : State} :
    Yields may (.perform effect next) state result final ↔
      ∃ reply between, may state effect reply between ∧
        Yields may (next reply) between result final := by
  constructor
  · intro run
    cases run with
    | onward possible later => exact ⟨_, _, possible, later⟩
  · rintro ⟨reply, between, possible, later⟩
    exact Leads.onward possible later

theorem yields_ask {effect : Effect} {reply : effect.Answer} {state final : State} :
    Yields may (ask effect) state reply final ↔ may state effect reply final := by
  rw [ask, yields_perform]
  constructor
  · rintro ⟨given, between, possible, later⟩
    obtain ⟨rfl, rfl⟩ := yields_done.mp later
    exact possible
  · intro possible
    exact ⟨reply, final, possible, Leads.here⟩

theorem yields_pure {value result : Result} {state final : State} :
    Yields may (pure value) state result final ↔ result = value ∧ final = state :=
  yields_done

theorem yields_bind {program : Program Result} {next : Result → Program Further}
    {result : Further} {state final : State} :
    Yields may (program >>= next) state result final ↔
      ∃ value between, Yields may program state value between ∧
        Yields may (next value) between result final := by
  change Yields may (program.bind next) state result final ↔ _
  induction program generalizing state with
  | done value =>
      simp only [bind, yields_done]
      constructor
      · intro run
        exact ⟨value, state, ⟨rfl, rfl⟩, run⟩
      · rintro ⟨_, _, ⟨rfl, rfl⟩, run⟩
        exact run
  | perform effect rest ih =>
      simp only [bind, yields_perform, ih]
      constructor
      · rintro ⟨reply, between, possible, value, middle, first, second⟩
        exact ⟨value, middle, ⟨reply, between, possible, first⟩, second⟩
      · rintro ⟨value, middle, ⟨reply, between, possible, first⟩, second⟩
        exact ⟨reply, between, possible, value, middle, first, second⟩

/-! ### Every choice of replies -/

/-- Whatever the replies, every state that is reached satisfies `always`, and every result
satisfies `post` together with the last state. -/
def Ensures (may : Surroundings State) (always : State → Prop) (post : Result → State → Prop) :
    Program Result → State → Prop
  | .done result, state => post result state
  | .perform effect next, state =>
      ∀ reply after, may state effect reply after →
        always after ∧ Ensures may always post (next reply) after

variable {always : State → Prop} {post : Result → State → Prop}

theorem ensures_pure {value : Result} {state : State} (holds : post value state) :
    Ensures may always post (pure value) state :=
  holds

theorem ensures_ask {effect : Effect} {post : effect.Answer → State → Prop} {state : State}
    (each : ∀ reply after, may state effect reply after → always after ∧ post reply after) :
    Ensures may always post (ask effect) state :=
  each

theorem Ensures.mono {weaker : Result → State → Prop} {program : Program Result} {state : State}
    (ensured : Ensures may always post program state)
    (implied : ∀ result final, post result final → weaker result final) :
    Ensures may always weaker program state := by
  induction program generalizing state with
  | done result => exact implied result state ensured
  | perform effect next ih =>
      intro reply after possible
      obtain ⟨kept, rest⟩ := ensured reply after possible
      exact ⟨kept, ih reply rest⟩

/-- A program and what follows it: the first part has to ensure what the second one needs. -/
theorem Ensures.bind {program : Program Result} {next : Result → Program Further}
    {post : Further → State → Prop} {state : State}
    (ensured : Ensures may always
      (fun value between => Ensures may always post (next value) between) program state) :
    Ensures may always post (program >>= next) state := by
  change Ensures may always post (program.bind next) state
  induction program generalizing state with
  | done value => exact ensured
  | perform effect rest ih =>
      intro reply after possible
      obtain ⟨kept, later⟩ := ensured reply after possible
      exact ⟨kept, ih reply later⟩

/-- The rule for two programs in a row. -/
theorem Ensures.followed {program : Program Result} {next : Result → Program Further}
    {last : Further → State → Prop} {state : State}
    (ensured : Ensures may always post program state)
    (onward : ∀ value between, post value between → Ensures may always last (next value) between) :
    Ensures may always last (program >>= next) state :=
  Ensures.bind (ensured.mono onward)

theorem Ensures.trivial (program : Program Result) (state : State) :
    Ensures may (fun _ => True) (fun _ _ => True) program state := by
  induction program generalizing state with
  | done result => exact True.intro
  | perform effect next ih =>
      intro reply after possible
      exact ⟨True.intro, ih reply after⟩

/-- What is ensured holds along every run: in each state reached, and of what is left of the
program there. -/
theorem Ensures.holds {program rest : Program Result} {state final : State}
    (ensured : Ensures may always post program state) (kept : always state)
    (run : Leads may program state rest final) :
    always final ∧ Ensures may always post rest final := by
  induction run with
  | here => exact ⟨kept, ensured⟩
  | onward possible later ih =>
      obtain ⟨keptAfter, ensuredAfter⟩ := ensured _ _ possible
      exact ih ensuredAfter keptAfter

theorem Ensures.of_yields {program : Program Result} {result : Result} {state final : State}
    (ensured : Ensures may always post program state) (kept : always state)
    (run : Yields may program state result final) :
    always final ∧ post result final :=
  ensured.holds kept run

/-! ### What a program may ask for -/

/-- Whatever the replies, a program performs only allowed effects, and its results satisfy
`post`. No surroundings are involved. -/
def Confined (allowed : Effect → Prop) (post : Result → Prop) : Program Result → Prop
  | .done result => post result
  | .perform effect next => allowed effect ∧ ∀ reply, Confined allowed post (next reply)

variable {allowed : Effect → Prop}

theorem confined_pure {post : Result → Prop} {value : Result} (holds : post value) :
    Confined allowed post (pure value) :=
  holds

theorem confined_ask {effect : Effect} {post : effect.Answer → Prop} (permitted : allowed effect)
    (each : ∀ reply, post reply) : Confined allowed post (ask effect) :=
  ⟨permitted, each⟩

theorem Confined.bind {program : Program Result} {next : Result → Program Further}
    {post : Further → Prop}
    (confined : Confined allowed (fun value => Confined allowed post (next value)) program) :
    Confined allowed post (program >>= next) := by
  change Confined allowed post (program.bind next)
  induction program with
  | done value => exact confined
  | perform effect rest ih => exact ⟨confined.1, fun reply => ih reply (confined.2 reply)⟩

theorem Confined.mono {post weaker : Result → Prop} {program : Program Result}
    (confined : Confined allowed post program) (implied : ∀ result, post result → weaker result) :
    Confined allowed weaker program := by
  induction program with
  | done result => exact implied result confined
  | perform effect next ih => exact ⟨confined.1, fun reply => ih reply (confined.2 reply)⟩

theorem Confined.followed {program : Program Result} {next : Result → Program Further}
    {post : Result → Prop} {last : Further → Prop} (confined : Confined allowed post program)
    (onward : ∀ value, post value → Confined allowed last (next value)) :
    Confined allowed last (program >>= next) :=
  Confined.bind (confined.mono onward)

theorem Confined.allow {more : Effect → Prop} {post : Result → Prop} {program : Program Result}
    (confined : Confined allowed post program) (implied : ∀ effect, allowed effect → more effect) :
    Confined more post program := by
  induction program with
  | done result => exact confined
  | perform effect next ih =>
      exact ⟨implied effect confined.1, fun reply => ih reply (confined.2 reply)⟩

abbrev Only (allowed : Effect → Prop) (program : Program Result) : Prop :=
  Confined allowed (fun _ => True) program

theorem only_pure (value : Result) : Only allowed (pure value) :=
  trivial

theorem only_ask {effect : Effect} (permitted : allowed effect) : Only allowed (ask effect) :=
  confined_ask permitted (fun _ => trivial)

theorem Only.bind {program : Program Result} {next : Result → Program Further}
    (first : Only allowed program) (second : ∀ value, Only allowed (next value)) :
    Only allowed (program >>= next) :=
  first.followed (fun value _ => second value)

/-- What every allowed effect preserves is preserved by the program. -/
theorem Confined.ensures {post : Result → Prop} {keeps : State → Prop} {program : Program Result}
    {state : State} (confined : Confined allowed post program)
    (step : ∀ effect, allowed effect → ∀ before reply after,
      keeps before → may before effect reply after → keeps after)
    (sound : ∀ state, keeps state → always state) (kept : keeps state) :
    Ensures may always (fun result final => post result ∧ keeps final) program state := by
  induction program generalizing state with
  | done result => exact ⟨confined, kept⟩
  | perform effect next ih =>
      intro reply after possible
      have keptAfter := step effect confined.1 state reply after kept possible
      exact ⟨sound after keptAfter, ih reply (confined.2 reply) keptAfter⟩

/-! ### Surroundings without a choice -/

variable {answer : State → (effect : Effect) → effect.Answer × State}

theorem run_pure (value : Result) (state : State) :
    run answer (pure value) state = (value, state) :=
  rfl

theorem run_ask (effect : Effect) (state : State) :
    run answer (ask effect) state = answer state effect :=
  rfl

theorem run_bind (program : Program Result) (next : Result → Program Further) (state : State) :
    run answer (program >>= next) state =
      run answer (next (run answer program state).1) (run answer program state).2 := by
  change run answer (program.bind next) state = _
  induction program generalizing state with
  | done value => rfl
  | perform effect rest ih => exact ih (answer state effect).1 (answer state effect).2

/-- Where surroundings that see a part of a state may answer as a function does, its run is one of
theirs. -/
theorem yields_run {Part : Type} {may : Surroundings Part} (part : State → Part)
    (allowed : ∀ state effect,
      may (part state) effect (answer state effect).1 (part (answer state effect).2))
    (program : Program Result) (state : State) :
    Yields may program (part state) (run answer program state).1
      (part (run answer program state).2) := by
  induction program generalizing state with
  | done value => exact Leads.here
  | perform effect next ih =>
      exact Leads.onward (allowed state effect) (ih (answer state effect).1 (answer state effect).2)

end Program

namespace World

variable {Service Result Further : Type}
  {serve : Service → (call : Api.Call) → call.Answer × Service} {world : World Service}

theorem run_bind (program : Program Result) (next : Result → Program Further) :
    world.run serve (program >>= next) =
      (world.run serve program).2.run serve (next (world.run serve program).1) :=
  Program.run_bind program next world

theorem run_clock :
    world.run serve Program.clock =
      (world.now + lookTime, { world with now := world.now + lookTime }) :=
  rfl

theorem run_storage {operation : Storage.Operation} {files : Storage.FileSystem}
    {result : Except Storage.Fault operation.Result}
    (performed : world.files.perform operation = (files, result)) :
    world.run serve (Program.storage operation) = (result, { world with files }) := by
  change ((world.files.perform operation).2,
    { world with files := (world.files.perform operation).1 }) = _
  rw [performed]

theorem run_storage_bind {operation : Storage.Operation} {files : Storage.FileSystem}
    {result : Except Storage.Fault operation.Result}
    (performed : world.files.perform operation = (files, result))
    (next : Except Storage.Fault operation.Result → Program Further) :
    world.run serve (Program.storage operation >>= next) =
      World.run serve { world with files } (next result) := by
  rw [run_bind, run_storage performed]

end World
end CheckBinding
