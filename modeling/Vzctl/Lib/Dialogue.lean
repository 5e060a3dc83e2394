import Mathlib.Data.List.Infix

/-!
# Dialogues with an environment

A dialogue is a program that gives commands to an environment and goes on with
the replies.  The environment is a condition on the next exchange after those
of the past; it says which replies and which changes of state are lawful.  A
run may stop before every command.

`Meets` is the precondition of a dialogue: every exchange of its own is one it
may make after the past, and its outcome meets a postcondition.
-/

universe u v w x

/-- Commands to an environment, each with its replies, up to an outcome. -/
inductive Dialogue (κ : Type u) (ρ : Type v) (ε : Type w) (α : Type x) where
  | done (outcome : Except ε α)
  | ask (command : κ) (next : ρ → Dialogue κ ρ ε α)

namespace Dialogue

variable {σ κ ρ ε α β : Type}

protected def bind (next : α → Dialogue κ ρ ε β) :
    Dialogue κ ρ ε α → Dialogue κ ρ ε β
  | done (.ok value) => next value
  | done (.error failure) => done (.error failure)
  | ask command rest => ask command fun reply => (rest reply).bind next

instance : Monad (Dialogue κ ρ ε) where
  pure value := done (.ok value)
  bind program next := program.bind next

/-- One command, whose reply is read as a value or as an error. -/
def request (command : κ) (read : ρ → Except ε α) : Dialogue κ ρ ε α :=
  ask command fun reply => done (read reply)

/-- Go on with the value of a computation. -/
def lift (outcome : Except ε α) : Dialogue κ ρ ε α := done outcome

/-! ## Histories -/

/-- A command with its reply, and the states around it. -/
structure Exchange (σ κ ρ : Type) where
  before : σ
  command : κ
  reply : ρ
  after : σ

/-- The exchanges of a run, the last one first. -/
abbrev History (σ κ ρ : Type) := List (Exchange σ κ ρ)

/-- A condition on an exchange after those of the past. -/
abbrev Condition (σ κ ρ : Type) := History σ κ ρ → Exchange σ κ ρ → Prop

/-- The state after a history that began in `start`. -/
def now (start : σ) : History σ κ ρ → σ
  | [] => start
  | last :: _ => last.after

/-- Every exchange of a history meets a condition. -/
def Throughout (condition : Condition σ κ ρ) : History σ κ ρ → Prop
  | [] => True
  | last :: past => condition past last ∧ Throughout condition past

/-- Nobody else changes the state of the environment. -/
def undisturbed (start : σ) (lawful : Exchange σ κ ρ → Prop) :
    Condition σ κ ρ :=
  fun past exchange => lawful exchange ∧ exchange.before = now start past

/-- Some exchange of a history meets a condition. -/
def Had (history : History σ κ ρ) (fact : Exchange σ κ ρ → Prop) : Prop :=
  ∃ exchange ∈ history, fact exchange

/-- A run from one history to another, up to an outcome unless it stops. -/
inductive Runs (environment : Condition σ κ ρ) :
    Dialogue κ ρ ε α → History σ κ ρ → History σ κ ρ →
      Option (Except ε α) → Prop
  | stopped {program : Dialogue κ ρ ε α} {past : History σ κ ρ} :
      Runs environment program past past none
  | done {outcome : Except ε α} {past : History σ κ ρ} :
      Runs environment (done outcome) past past (some outcome)
  | ask {next : ρ → Dialogue κ ρ ε α} {past history : History σ κ ρ}
      {ending : Option (Except ε α)} (exchange : Exchange σ κ ρ) :
      environment past exchange →
      Runs environment (next exchange.reply) (exchange :: past) history
        ending →
      Runs environment (ask exchange.command next) past history ending

theorem Had.last {exchange : Exchange σ κ ρ}
    {fact : Exchange σ κ ρ → Prop} (holds : fact exchange)
    (past : History σ κ ρ) : Had (exchange :: past) fact :=
  ⟨exchange, List.mem_cons_self, holds⟩

theorem Had.earlier {past : History σ κ ρ} {fact : Exchange σ κ ρ → Prop}
    (had : Had past fact) (exchange : Exchange σ κ ρ) :
    Had (exchange :: past) fact := by
  obtain ⟨found, member, holds⟩ := had
  exact ⟨found, List.mem_cons_of_mem exchange member, holds⟩

/-- A condition throughout a history holds throughout its start. -/
theorem Throughout.of_suffix {condition : Condition σ κ ρ}
    {past history : History σ κ ρ} (throughout : Throughout condition history)
    (suffix : past <:+ history) : Throughout condition past := by
  obtain ⟨later, rfl⟩ := suffix
  induction later with
  | nil => exact throughout
  | cons last later ih =>
      exact ih throughout.2

/-- The environment was lawful in every exchange of a run. -/
theorem Runs.throughout {environment : Condition σ κ ρ}
    {program : Dialogue κ ρ ε α} {past history : History σ κ ρ}
    {ending : Option (Except ε α)}
    (run : Runs environment program past history ending)
    (before : Throughout environment past) :
    Throughout environment history := by
  induction run with
  | stopped => exact before
  | done => exact before
  | ask exchange lawful _ ih =>
      exact ih ⟨lawful, before⟩

/-- A run that ends well, and one of what comes after it. -/
theorem Runs.bind {environment : Condition σ κ ρ}
    {program : Dialogue κ ρ ε α} {next : α → Dialogue κ ρ ε β} {value : α}
    {past between history : History σ κ ρ} {ending : Option (Except ε β)}
    (first : Runs environment program past between (some (.ok value)))
    (second : Runs environment (next value) between history ending) :
    Runs environment (program >>= next) past history ending := by
  generalize ended : some (Except.ok value) = outcome at first
  induction first with
  | stopped => cases ended
  | done =>
      rw [← Option.some.inj ended]
      exact second
  | ask exchange lawful _ ih =>
      exact .ask exchange lawful (ih second ended)

/-- A run with an environment is one with every more lenient environment. -/
theorem Runs.mono {strict lenient : Condition σ κ ρ}
    (implies : ∀ past exchange, strict past exchange → lenient past exchange)
    {program : Dialogue κ ρ ε α} {past history : History σ κ ρ}
    {ending : Option (Except ε α)}
    (run : Runs strict program past history ending) :
    Runs lenient program past history ending := by
  induction run with
  | stopped => exact .stopped
  | done => exact .done
  | ask exchange lawful _ ih =>
      exact .ask exchange (implies _ exchange lawful) ih

/-! ## Preconditions -/

section Meets

variable {environment issues : Condition σ κ ρ}

/-- In every run every exchange is one of `issues`, and the outcome meets
`post`. -/
def Meets (environment issues : Condition σ κ ρ)
    (post : Except ε α → History σ κ ρ → Prop) :
    Dialogue κ ρ ε α → History σ κ ρ → Prop
  | done outcome, past => post outcome past
  | ask command next, past =>
      ∀ exchange : Exchange σ κ ρ, environment past exchange →
        exchange.command = command →
          issues past exchange ∧
            Meets environment issues post (next exchange.reply)
              (exchange :: past)

/-- What comes after a program starts where that program may end. -/
theorem Meets.bind {post : Except ε β → History σ κ ρ → Prop}
    {next : α → Dialogue κ ρ ε β} {program : Dialogue κ ρ ε α}
    {past : History σ κ ρ}
    (meets : Meets environment issues
      (fun outcome past => match outcome with
        | .ok value => Meets environment issues post (next value) past
        | .error failure => post (.error failure) past) program past) :
    Meets environment issues post (program >>= next) past := by
  induction program generalizing past with
  | done outcome =>
      cases outcome with
      | ok value => exact meets
      | error failure => exact meets
  | ask command rest ih =>
      intro exchange lawful asked
      obtain ⟨issued, after⟩ := meets exchange lawful asked
      exact ⟨issued, ih _ after⟩

theorem meets_lift_bind {post : Except ε β → History σ κ ρ → Prop}
    {outcome : Except ε α} {next : α → Dialogue κ ρ ε β}
    {past : History σ κ ρ}
    (succeeds : ∀ value, outcome = .ok value →
      Meets environment issues post (next value) past)
    (fails : ∀ failure, post (.error failure) past) :
    Meets environment issues post (lift outcome >>= next) past := by
  cases outcome with
  | ok value => exact succeeds value rfl
  | error failure => exact fails failure

theorem meets_request_bind {post : Except ε β → History σ κ ρ → Prop}
    {command : κ} {read : ρ → Except ε α} {next : α → Dialogue κ ρ ε β}
    {past : History σ κ ρ}
    (issued : ∀ exchange : Exchange σ κ ρ, environment past exchange →
      exchange.command = command → issues past exchange)
    (succeeds : ∀ exchange : Exchange σ κ ρ, environment past exchange →
      exchange.command = command → ∀ value,
        read exchange.reply = .ok value →
          Meets environment issues post (next value) (exchange :: past))
    (fails : ∀ exchange : Exchange σ κ ρ, environment past exchange →
      exchange.command = command → ∀ failure,
        read exchange.reply = .error failure →
          post (.error failure) (exchange :: past)) :
    Meets environment issues post (request command read >>= next) past := by
  intro exchange lawful asked
  refine ⟨issued exchange lawful asked, ?_⟩
  have succeeded := succeeds exchange lawful asked
  have failed := fails exchange lawful asked
  cases reading : read exchange.reply with
  | ok value =>
      simp only [reading]
      exact succeeded value reading
  | error failure =>
      simp only [reading]
      exact failed failure reading

/-- Every run of a program keeps to its precondition. -/
theorem Runs.of_meets {post : Except ε α → History σ κ ρ → Prop}
    {program : Dialogue κ ρ ε α} {past history : History σ κ ρ}
    {ending : Option (Except ε α)}
    (run : Runs environment program past history ending)
    (meets : Meets environment issues post program past)
    (before : Throughout issues past) :
    Throughout issues history ∧
      ∀ outcome, ending = some outcome → post outcome history := by
  induction run with
  | stopped =>
      refine ⟨before, ?_⟩
      intro outcome impossible
      cases impossible
  | done =>
      refine ⟨before, ?_⟩
      intro outcome same
      cases same
      exact meets
  | ask exchange lawful _ ih =>
      obtain ⟨issued, after⟩ := meets exchange lawful rfl
      exact ih after ⟨issued, before⟩

end Meets

/-! ## Partial correctness -/

section Returns

variable {environment : Condition σ κ ρ} {past : History σ κ ρ}

/-- In every run that ends well the result meets a postcondition. -/
def Returns (environment : Condition σ κ ρ)
    (post : α → History σ κ ρ → Prop) :
    Dialogue κ ρ ε α → History σ κ ρ → Prop :=
  Meets environment (fun _ _ => True) fun outcome history =>
    ∀ value, outcome = .ok value → post value history

namespace Returns

theorem of_pure {post : α → History σ κ ρ → Prop} {value : α}
    (holds : post value past) :
    Returns environment post (pure value : Dialogue κ ρ ε α) past := by
  intro other same
  rw [← Except.ok.inj same]
  exact holds

theorem of_error {post : α → History σ κ ρ → Prop} {failure : ε} :
    Returns environment post
      (lift (.error failure) : Dialogue κ ρ ε α) past := by
  intro _ impossible
  cases impossible

theorem mono {post weaker : α → History σ κ ρ → Prop}
    {program : Dialogue κ ρ ε α} (returns : Returns environment post program past)
    (implies : ∀ value history, post value history → weaker value history) :
    Returns environment weaker program past := by
  induction program generalizing past with
  | done outcome =>
      intro value same
      exact implies value past (returns value same)
  | ask command rest ih =>
      intro exchange lawful asked
      exact ⟨trivial, ih _
        (returns exchange lawful asked).2⟩

theorem bind {post : β → History σ κ ρ → Prop}
    {program : Dialogue κ ρ ε α} {next : α → Dialogue κ ρ ε β}
    (returns : Returns environment
      (fun value history => Returns environment post (next value) history)
      program past) :
    Returns environment post (program >>= next) past := by
  apply Meets.bind
  induction program generalizing past with
  | done outcome =>
      cases outcome with
      | ok value => exact returns value rfl
      | error failure =>
          intro _ impossible
          cases impossible
  | ask command rest ih =>
      intro exchange lawful asked
      exact ⟨trivial, ih _
        (returns exchange lawful asked).2⟩

theorem lift_bind {post : β → History σ κ ρ → Prop} {outcome : Except ε α}
    {next : α → Dialogue κ ρ ε β}
    (succeeds : ∀ value, outcome = .ok value →
      Returns environment post (next value) past) :
    Returns environment post (lift outcome >>= next) past :=
  bind succeeds

theorem request_bind {post : β → History σ κ ρ → Prop} {command : κ}
    {read : ρ → Except ε α} {next : α → Dialogue κ ρ ε β}
    (succeeds : ∀ exchange : Exchange σ κ ρ, environment past exchange →
      exchange.command = command → ∀ value,
        read exchange.reply = .ok value →
          Returns environment post (next value) (exchange :: past)) :
    Returns environment post (request command read >>= next) past := by
  apply bind
  intro exchange lawful asked
  exact ⟨trivial, succeeds exchange lawful asked⟩

/-- The rule for loops: `holds` of the items that are done. -/
theorem forM {items : List β} {body : β → Dialogue κ ρ ε PUnit}
    (holds : List β → History σ κ ρ → Prop)
    (round : ∀ finished item rest, items = finished ++ item :: rest →
      ∀ reached, holds finished reached →
        Returns environment
          (fun _ history => holds (finished ++ [item]) history)
          (body item) reached)
    (initial : holds [] past) :
    Returns environment (fun _ history => holds items history)
      (forM items body) past := by
  have main : ∀ rest finished reached, items = finished ++ rest →
      holds finished reached →
        Returns environment (fun _ history => holds items history)
          (List.forM rest body) reached := by
    intro rest
    induction rest with
    | nil =>
        intro finished reached split before
        rw [split, List.append_nil]
        exact of_pure before
    | cons item rest ih =>
        intro finished reached split before
        have first := round finished item rest split reached before
        apply bind
        have continued : ∀ history, holds (finished ++ [item]) history →
            Returns environment (fun _ history => holds items history)
              (List.forM rest body) history := by
          intro history after
          apply ih (finished ++ [item]) history _ after
          rw [split, List.append_assoc]
          rfl
        exact first.mono fun _ => continued
  exact main items [] past rfl initial

end Returns

/-- A run that ends well ends in the postcondition. -/
theorem Runs.of_returns {post : α → History σ κ ρ → Prop}
    {program : Dialogue κ ρ ε α} {history : History σ κ ρ} {value : α}
    (run : Runs environment program [] history (some (.ok value)))
    (returns : Returns environment post program []) : post value history := by
  have both := run.of_meets returns trivial
  exact both.2 (.ok value) rfl value rfl

end Returns

/-! ## Plays -/

section Play

variable {answer : List κ → κ → ρ}

/-- The commands of a program after those of the past, and its outcome, where
each reply follows from the commands up to it. -/
def play (answer : List κ → κ → ρ) :
    Dialogue κ ρ ε α → List κ → List κ × Except ε α
  | done outcome, _ => ([], outcome)
  | ask command next, past =>
      let later := play answer (next (answer past command)) (past ++ [command])
      (command :: later.1, later.2)

@[simp]
theorem play_done (outcome : Except ε α) (past : List κ) :
    play answer (done outcome : Dialogue κ ρ ε α) past = ([], outcome) :=
  rfl

@[simp]
theorem play_pure (value : α) (past : List κ) :
    play answer (pure value : Dialogue κ ρ ε α) past = ([], .ok value) :=
  rfl

/-- What comes after a program is played behind it. -/
theorem play_bind (program : Dialogue κ ρ ε α) (next : α → Dialogue κ ρ ε β)
    (past : List κ) :
    play answer (program >>= next) past =
      match play answer program past with
      | (commands, .ok value) =>
          (commands ++ (play answer (next value) (past ++ commands)).1,
            (play answer (next value) (past ++ commands)).2)
      | (commands, .error failure) => (commands, .error failure) := by
  induction program generalizing past with
  | done outcome =>
      cases outcome with
      | ok value =>
          change play answer (next value) past = _
          simp
      | error failure => rfl
  | ask command rest ih =>
      have after := ih (answer past command)
        (past ++ [command])
      change (command :: (play answer (rest (answer past command) >>= next)
          (past ++ [command])).1,
        (play answer (rest (answer past command) >>= next)
          (past ++ [command])).2) = _
      rw [after, play]
      rcases play answer (rest (answer past command)) (past ++ [command])
        with ⟨commands, outcome⟩
      cases outcome with
      | ok value => simp
      | error failure => rfl

end Play

end Dialogue
