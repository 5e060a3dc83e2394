import Vzctl.Lib.Outcome
import Vzctl.Lib.Procedure

/-!
# Transactions on a connection

A connection has what is committed and, in a transaction, an image of its own.
A statement that fails leaves the image as it was, and may end the transaction
without being asked to; the caller learns only that it failed.  `Performs` says
what a body does to the image, and `transact_cases` that a transaction around
it has either that effect or none.
-/

universe u v

namespace Transaction

/-- `pending` is the image of the open transaction. -/
structure Connection (δ : Type u) where
  committed : δ
  pending : Option δ

namespace Connection

variable {δ : Type u} (connection : Connection δ)

/-- What a statement sees. -/
def image : δ := connection.pending.getD connection.committed

def write (changed : δ) : Connection δ :=
  match connection.pending with
  | some _ => ⟨connection.committed, some changed⟩
  | none => ⟨changed, none⟩

/-- Without a transaction. -/
def idle : Connection δ := ⟨connection.committed, none⟩

end Connection

/-- How a statement fails for a reason of its own. -/
inductive Fault where
  | statement
  /-- The store rolls the whole transaction back. -/
  | transaction
  deriving DecidableEq

def Fault.after {δ : Type u} (fault : Fault) (connection : Connection δ) :
    Connection δ :=
  match fault with
  | statement => connection
  | transaction => connection.idle

section Statements

variable {δ : Type u} {ε : Type v} (failure : ε)

/-- A statement that changes the image; one that its constraints refuse has no
effect. -/
def statement (fault : Option Fault) (change : δ → Except ε δ) :
    Procedure (Connection δ) ε PUnit := fun connection =>
  match fault with
  | some fault => (.error failure, fault.after connection)
  | none =>
      match change connection.image with
      | .ok changed => (.ok ⟨⟩, connection.write changed)
      | .error refusal => (.error refusal, connection)

/-- A query. -/
def query {α : Type} (fault : Option Fault) (look : δ → Except ε α) :
    Procedure (Connection δ) ε α := fun connection =>
  match fault with
  | some fault => (.error failure, fault.after connection)
  | none => (look connection.image, connection)

/-- `BEGIN`, which fails inside of a transaction. -/
def begin (fails : Bool) : Procedure (Connection δ) ε PUnit :=
  fun connection =>
    match fails, connection.pending with
    | false, none =>
        (.ok ⟨⟩, ⟨connection.committed, some connection.committed⟩)
    | _, _ => (.error failure, connection)

/-- `COMMIT`, which fails without a transaction. -/
def commit (fault : Option Fault) : Procedure (Connection δ) ε PUnit :=
  fun connection =>
    match fault, connection.pending with
    | some fault, _ => (.error failure, fault.after connection)
    | none, some image => (.ok ⟨⟩, ⟨image, none⟩)
    | none, none => (.error failure, connection)

/-- `ROLLBACK` ends the transaction, whatever it reports. -/
def rollback (fails : Bool) : Procedure (Connection δ) ε PUnit :=
  fun connection =>
    match fails, connection.pending with
    | false, some _ => (.ok ⟨⟩, connection.idle)
    | _, _ => (.error failure, connection.idle)

/-- How the statements around a body fail. -/
structure Frame where
  beginFails : Bool
  commitFault : Option Fault
  rollbackFails : Bool

/-- `BEGIN`, the body, `COMMIT`, and after an error in one of the last two a
`ROLLBACK` whose own error is dropped. -/
def transact (frame : Frame) (body : Procedure (Connection δ) ε PUnit) :
    Procedure (Connection δ) ε PUnit := do
  begin failure frame.beginFails
  Procedure.orElse
    (do
      body
      commit failure frame.commitFault)
    fun raised => do
      (rollback failure frame.rollbackFails).attempt
      Procedure.fail raised

end Statements

/-! ## What a body does to the image -/

section Performs

variable {δ : Type u} {ε : Type u}

/-- A body that returns has done what `run` does to the image, and one that
fails has committed nothing. -/
def Performs (body : Procedure (Connection δ) ε PUnit)
    (run : δ → Except ε δ) : Prop :=
  ∀ committed image,
    Procedure.Ends body
      (fun _ reached => ∃ changed, run image = .ok changed ∧
        reached = ⟨committed, some changed⟩)
      (fun _ reached => reached.committed = committed)
      ⟨committed, some image⟩

variable {first next body : Procedure (Connection δ) ε PUnit}
  {run ran change : δ → Except ε δ} {failure : ε} {fault : Option Fault}

theorem committed_after (fault : Fault) (connection : Connection δ) :
    (fault.after connection).committed = connection.committed := by
  cases fault with
  | statement => rfl
  | transaction => rfl

theorem Performs.of_statement :
    Performs (statement failure fault change) change := by
  intro committed image
  unfold Procedure.Ends
  cases fault with
  | some fault => exact committed_after fault _
  | none =>
      cases changing : change image with
      | ok changed =>
          have ran : statement failure none change ⟨committed, some image⟩ =
              (.ok ⟨⟩, ⟨committed, some changed⟩) := by
            simp [statement, Connection.image, Connection.write, changing]
          rw [ran]
          exact ⟨changed, rfl, rfl⟩
      | error refusal =>
          have ran : statement failure none change ⟨committed, some image⟩ =
              (.error refusal, ⟨committed, some image⟩) := by
            simp [statement, Connection.image, changing]
          rw [ran]

theorem Performs.of_query {look : δ → Except ε PUnit} :
    Performs (query failure fault look)
      (fun image => (look image).map fun _ => image) := by
  intro committed image
  unfold Procedure.Ends
  cases fault with
  | some fault => exact committed_after fault _
  | none =>
      cases looked : look image with
      | ok found =>
          have ran : query failure none look ⟨committed, some image⟩ =
              (.ok found, ⟨committed, some image⟩) := by
            simp [query, Connection.image, looked]
          rw [ran]
          exact ⟨image, by simp [looked, Except.map], rfl⟩
      | error refusal =>
          have ran : query failure none look ⟨committed, some image⟩ =
              (.error refusal, ⟨committed, some image⟩) := by
            simp [query, Connection.image, looked]
          rw [ran]

theorem Performs.of_fail {raised : ε} :
    Performs (Procedure.fail raised : Procedure (Connection δ) ε PUnit)
      (fun _ => .error raised) :=
  fun _ _ => rfl

theorem Performs.of_pure :
    Performs (pure ⟨⟩ : Procedure (Connection δ) ε PUnit) .ok :=
  fun _ image => ⟨image, rfl, rfl⟩

theorem Performs.andThen (firstPerforms : Performs first run)
    (nextPerforms : Performs next ran) :
    Performs (first >>= fun _ => next) (fun image => run image >>= ran) := by
  intro committed image
  refine Procedure.Ends.andThen _ (firstPerforms committed image) ?_
  intro _ reached middle
  obtain ⟨between, done, isReached⟩ := middle
  rw [isReached]
  refine (nextPerforms committed between).mono ?_ fun _ _ failed => failed
  intro _ final ended
  obtain ⟨changed, doneNext, isFinal⟩ := ended
  exact ⟨changed, Outcome.bind_eq_ok_iff.mpr ⟨between, done, doneNext⟩,
    isFinal⟩

theorem Performs.forEach {ι : Type u} {items : List ι}
    {round : ι → Procedure (Connection δ) ε PUnit}
    {effect : ι → δ → Except ε δ}
    (each : ∀ item, Performs (round item) (effect item)) :
    Performs (Procedure.forEach items round) (fun image =>
      items.foldlM (fun current item => effect item current) image) := by
  induction items with
  | nil => exact .of_pure
  | cons item rest ih =>
      exact (each item).andThen ih

end Performs

/-! ## All or nothing -/

section Transact

variable {δ ε : Type u} {failure : ε} {frame : Frame}

theorem rollback_run {α : Type v} (rollbackFails : Bool) (raised : ε)
    (connection : Connection δ) :
    ((rollback failure rollbackFails).attempt >>= fun _ =>
        (Procedure.fail raised : Procedure (Connection δ) ε α)) connection =
      (.error raised, connection.idle) := by
  have ended : (rollback failure rollbackFails).attempt connection =
      (.ok ⟨⟩, connection.idle) := by
    obtain ⟨committed, pending⟩ := connection
    cases rollbackFails with
    | true => rfl
    | false =>
        cases pending with
        | none => rfl
        | some image => rfl
  rw [Procedure.bind_run_of_ok ended]
  rfl

/-- A transaction that fails changes nothing, and one that returns commits the
effect of its body. -/
theorem transact_cases {body : Procedure (Connection δ) ε PUnit}
    {run : δ → Except ε δ} (performs : Performs body run)
    (connection : Connection δ) :
    Procedure.Ends (transact failure frame body)
      (fun _ reached => ∃ changed, connection.pending = none ∧
        run connection.committed = .ok changed ∧
          reached = ⟨changed, none⟩)
      (fun _ reached => reached = connection) connection := by
  obtain ⟨committed, pending⟩ := connection
  obtain ⟨beginFails, commitFault, rollbackFails⟩ := frame
  apply Procedure.Ends.of_bind
  cases pending with
  | some image =>
      cases beginFails with
      | true => rfl
      | false => rfl
  | none =>
      cases beginFails with
      | true => rfl
      | false =>
          apply Procedure.Ends.of_orElse
          refine Procedure.Ends.andThen
            (fun _ reached => ∃ changed, run committed = .ok changed ∧
              reached = ⟨committed, some changed⟩) ?_ ?_
          · refine (performs committed committed).mono
              (fun _ _ holds => holds) ?_
            intro raised reached kept
            unfold Procedure.Ends
            rw [rollback_run, Connection.idle, kept]
          · intro _ reached middle
            obtain ⟨changed, done, isReached⟩ := middle
            rw [isReached]
            cases commitFault with
            | none => exact ⟨changed, rfl, done, rfl⟩
            | some fault =>
                change Procedure.Ends _ _ _ (fault.after _)
                unfold Procedure.Ends
                rw [rollback_run, Connection.idle, committed_after]

end Transact

end Transaction
