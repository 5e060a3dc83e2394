import Vzctl.Controllers.PostgresOwnership

/-!
# Runs of PostgreSQL sessions

Sessions of any claims interleave, and connections are lost anywhere.  As long
as no session finds the database of another role where it looks for its own,
nothing foreign changes, and a rerun completes what was interrupted.
-/

namespace Vzctl

namespace PostgresController

open Interleaving Transitions

variable {hex : String → String} {claim : Claim} {initial : Cluster}

abbrev State := Pool Cluster Unit Failure Bool Claim

/-! ## The contract of sessions -/

def contract (hex : String → String) (initial : Cluster) :
    Contract Cluster Unit Failure Bool Claim where
  valid cluster := Genuine hex cluster ∧ Evolves hex initial cluster
  granted := NotForeign hex
  rely _ := Evolves hex
  guarantee := Permitted hex
  post := Provisioned hex

theorem evolves_disconnect (session : Nat) (cluster : Cluster) :
    Evolves hex cluster (disconnect session cluster) :=
  have same := Evolves.refl cluster
  ⟨same.role, same.newRole, same.database, same.newDatabase⟩

theorem meets_contract : (contract hex initial).Meets (system hex) where
  reflexive _ := Evolves.refl
  transitive _ := Evolves.trans
  begins session _ _ valid := safe_provision valid.1 session
  kept _ first second valid permitted :=
    ⟨valid.1.evolves permitted.evolves,
      valid.2.trans _ first second permitted.evolves⟩
  left session cluster valid :=
    ⟨valid.1.evolves (evolves_disconnect session cluster),
      valid.2.trans _ _ _ (evolves_disconnect session cluster)⟩

/-! ## Reruns -/

/-- Only the owner of the claim has created its role and its database. -/
structure Untouched (hex : String → String) (claim : Claim)
    (initial cluster : Cluster) : Prop where
  noRole : initial.roles (roleName hex claim.owner) = none
  noDatabase : initial.databases claim.database = none
  role : ∀ role, cluster.roles (roleName hex claim.owner) = some role →
    role.createdBy = some claim.owner
  database : ∀ database, cluster.databases claim.database = some database →
    database.createdBy = some claim.owner

/-- A script can go through: what is there is its own. -/
structure Ready (hex : String → String) (claim : Claim) (cluster : Cluster) :
    Prop where
  role : ∀ role, cluster.roles (roleName hex claim.owner) = some role →
    role.comment = some claim.owner ∧ role.isElevated = false
  database : ∀ database, cluster.databases claim.database = some database →
    (cluster.roles (roleName hex claim.owner)).isSome = true ∧
      database.owner = roleName hex claim.owner ∧
      (database.comment = none ∨ database.comment = some claim.owner)

/-- A script has gone through. -/
structure Settled (hex : String → String) (claim : Claim)
    (cluster : Cluster) : Prop where
  role : ∃ role, cluster.roles (roleName hex claim.owner) = some role ∧
    role.comment = some claim.owner ∧ role.isElevated = false
  database : ∃ database,
    cluster.databases claim.database = some database ∧
      database.owner = roleName hex claim.owner ∧
      database.comment = some claim.owner ∧ database.isPublic = false

theorem Untouched.ready {cluster : Cluster}
    (untouched : Untouched hex claim initial cluster)
    (evolves : Evolves hex initial cluster) : Ready hex claim cluster := by
  constructor
  · intro role found
    obtain ⟨other, _, rfl⟩ := evolves.newRole _ role untouched.noRole found
    exact ⟨untouched.role _ found, rfl⟩
  · intro database found
    obtain ⟨owner, role, named, creator, known, ofRole, comment⟩ :=
      evolves.newDatabase _ database untouched.noDatabase found
    cases Option.some.inj
      (creator.symm.trans (untouched.database database found))
    rw [← named]
    exact ⟨Option.isSome_iff_exists.mpr ⟨role, known⟩, rfl, comment⟩

theorem Ready.ownershipBlock {cluster : Cluster}
    (ready : Ready hex claim cluster) :
    ∃ created after,
      ownershipBlock hex claim cluster = (.ok created, after) ∧
        after.databases = cluster.databases ∧
        after.locks = cluster.locks ∧
        (∃ role, after.roles (roleName hex claim.owner) = some role ∧
          role.comment = some claim.owner ∧ role.isElevated = false) ∧
        ((cluster.roles (roleName hex claim.owner)).isSome = true →
          created = false) := by
  have native : isForeign hex claim cluster = false := by
    unfold isForeign
    cases found : cluster.databases claim.database with
    | none => rfl
    | some database =>
        obtain ⟨present, named, comment⟩ := ready.database database found
        rcases comment with missing | marked
        · simp [Option.isNone_eq_false_iff.mpr present, named, missing]
        · simp [Option.isNone_eq_false_iff.mpr present, named, marked]
  cases found : cluster.roles (roleName hex claim.owner) with
  | none =>
      have performed : PostgresController.ownershipBlock hex claim cluster =
          (.ok true,
            { cluster with
              roles := Function.update cluster.roles
                (roleName hex claim.owner) (some (newRole claim)) }) := by
        simp [PostgresController.ownershipBlock, found, native]
      exact ⟨true, _, performed, rfl, rfl, ⟨newRole claim,
        Function.update_self _ _ _, rfl, rfl⟩, fun impossible =>
          nomatch impossible⟩
  | some role =>
      obtain ⟨marked, plain⟩ := ready.role role found
      refine ⟨false, cluster, ?_, rfl, rfl, ⟨role, found, marked, plain⟩,
        fun _ => rfl⟩
      simp [PostgresController.ownershipBlock, found, native, marked, plain]

theorem isPublic_markedDatabase (database : Database) :
    (markedDatabase claim database).isPublic = false := by
  unfold markedDatabase
  by_cases isPublic : database.isPublic = true
  · rw [if_pos isPublic]
    simp [Database.isPublic, Database.grantees]
  · rw [if_neg isPublic]
    exact Bool.eq_false_iff.mpr isPublic

theorem markingBlock_of {cluster : Cluster} {database : Database}
    (found : cluster.databases claim.database = some database)
    (named : database.owner = roleName hex claim.owner) :
    ∃ marked after, markingBlock claim cluster = (.ok marked, after) ∧
      after.roles = cluster.roles ∧ after.locks = cluster.locks ∧
      (∃ other, after.databases claim.database = some other ∧
        other.owner = roleName hex claim.owner ∧
        other.comment = some claim.owner ∧ other.isPublic = false) ∧
      (database.comment = some claim.owner → database.isPublic = false →
        marked = false) := by
  have performed : markingBlock claim cluster =
      (.ok (database.comment != some claim.owner || database.isPublic),
        { cluster with
          databases := Function.update cluster.databases claim.database
            (some (markedDatabase claim database)) }) := by
    rw [markingBlock, found]
  refine ⟨_, _, performed, rfl, rfl, ⟨markedDatabase claim database,
    Function.update_self _ _ _, named, rfl,
    isPublic_markedDatabase database⟩, fun marked hidden => ?_⟩
  rw [marked, hidden, Bool.or_false, bne_self_eq_false]

theorem Ready.returns {session : Nat} {cluster after : Cluster}
    {outcome : Except Failure Bool} (ready : Ready hex claim cluster)
    (free : cluster.locks claim.owner = none)
    (returns : Process.Returns (provision hex claim session) cluster outcome
      after) :
    (∃ changed, outcome = .ok changed ∧
      (Settled hex claim cluster → changed = false)) ∧
      Settled hex claim after ∧
      after.locks claim.owner = some session := by
  have acquired : ∀ _ : Unit,
      Procedure.writing (acquire session claim.owner) cluster =
        (.ok ⟨⟩, { cluster with
          locks := Function.update cluster.locks claim.owner
            (some session) }) := by
    intro _
    simp [Procedure.writing, acquire, free]
  have locked := returns.after acquired
  have readyLocked : Ready hex claim { cluster with
      locks := Function.update cluster.locks claim.owner (some session) } :=
    ⟨ready.role, ready.database⟩
  obtain ⟨created, owned, performed, sameDatabases, sameLocks,
    ⟨role, known, ofRole, plain⟩, old⟩ := readyLocked.ownershipBlock
  have checked := locked.after fun _ => performed
  have held : owned.locks claim.owner = some session := by
    rw [sameLocks]
    exact Function.update_self _ _ _
  cases found : cluster.databases claim.database with
  | none =>
      have missing : owned.databases claim.database = none :=
        (congrFun sameDatabases _).trans found
      have seen : ∀ _ : Unit, Procedure.reading (fun cluster : Cluster =>
          (.ok (cluster.databases claim.database).isNone :
            Except Failure Bool)) owned = (.ok true, owned) := by
        intro _
        rw [Procedure.reading, missing]
        rfl
      have looked := checked.after seen
      have made : ∀ _ : Unit,
          Procedure.writing (createDatabase hex claim) owned =
            (.ok ⟨⟩, { owned with
              databases := Function.update owned.databases claim.database
                (some ⟨roleName hex claim.owner, none, none,
                  some claim.owner⟩) }) := by
        intro _
        simp [Procedure.writing, createDatabase, missing, known]
      have created := looked.after made
      let fresh : Database :=
        ⟨roleName hex claim.owner, none, none, some claim.owner⟩
      let grown : Cluster :=
        { owned with
          databases := Function.update owned.databases claim.database
            (some fresh) }
      have present : grown.databases claim.database = some fresh :=
        Function.update_self _ _ _
      have named : fresh.owner = roleName hex claim.owner := rfl
      obtain ⟨marked, last, performed, sameRoles, sameLocks, isMarked, _⟩ :=
        markingBlock_of present named
      obtain ⟨rfl, rfl⟩ := (created.after fun _ => performed).of_pure
      refine ⟨⟨true, rfl, fun settled => ?_⟩, ⟨⟨role, ?_, ofRole, plain⟩,
        isMarked⟩, ?_⟩
      · obtain ⟨database, present, _⟩ := settled.database
        cases found.symm.trans present
      · rw [sameRoles]
        exact known
      · rw [sameLocks]
        exact held
  | some database =>
      obtain ⟨_, named, _⟩ := ready.database database found
      have present : owned.databases claim.database = some database :=
        (congrFun sameDatabases _).trans found
      have seen : ∀ _ : Unit, Procedure.reading (fun cluster : Cluster =>
          (.ok (cluster.databases claim.database).isNone :
            Except Failure Bool)) owned = (.ok false, owned) := by
        intro _
        rw [Procedure.reading, present]
        rfl
      have looked := checked.after seen
      obtain ⟨marked, last, performed, sameRoles, sameLocks, isMarked,
        again⟩ := markingBlock_of present named
      obtain ⟨rfl, rfl⟩ := (looked.after fun _ => performed).of_pure
      refine ⟨⟨_, rfl, fun settled => ?_⟩, ⟨⟨role, ?_, ofRole, plain⟩,
        isMarked⟩, ?_⟩
      · obtain ⟨other, presentOther, _, comment, hidden⟩ := settled.database
        cases Option.some.inj (found.symm.trans presentOther)
        obtain ⟨oldRole, knownRole, _⟩ := settled.role
        rw [old (Option.isSome_iff_exists.mpr ⟨oldRole, knownRole⟩),
          again comment hidden]
        rfl
      · rw [sameRoles]
        exact known
      · rw [sameLocks]
        exact held

/-! ## Runs -/

/-- A session that looks for its database does not find one of another
role. -/
def Unmistaken (hex : String → String) (state : State)
    (move : Move Unit Claim) : Prop :=
  ∀ number, move = .act number () → ∀ thread,
    state.threads number = some thread →
    NotForeign hex thread.call thread.process state.shared ()

theorem Unmistaken.granted {state : State} {move : Move Unit Claim}
    (unmistaken : Unmistaken hex state move) :
    Granted (contract hex initial) state move := by
  cases move with
  | act number choice => exact unmistaken number rfl
  | _ => trivial

/-- What holds of a state and of what may come next. -/
structure Convergent (hex : String → String) (initial : Cluster)
    (state : State) : Prop where
  roles : ∀ move after, Unmistaken hex state move →
    Step (system hex) state move after → ∀ name role,
    state.shared.roles name = some role →
    after.shared.roles name = some role
  databases : ∀ move after, Unmistaken hex state move →
    Step (system hex) state move after → ∀ name database,
    state.shared.databases name = some database →
    after.shared.databases name = some database ∨
      ∃ number thread, move = .act number () ∧
        state.threads number = some thread ∧
        database.createdBy = some thread.call.owner
  returned : ∀ number claim changed after,
    Unmistaken hex state (.act number ()) →
    Step (system hex) state (.act number ()) after →
    after.threads number = some ⟨claim, .done (.ok changed)⟩ →
    Marked hex claim after.shared
  rerun : ∀ claim session next,
    Untouched hex claim initial state.shared →
    state.shared.locks claim.owner = none →
    ∃ changed after last,
      Process.Returns (provision hex claim session) state.shared
        (.ok changed) after ∧
      Process.Returns (provision hex claim next) (disconnect session after)
        (.ok false) last

theorem Ready.rerun {session next : Nat} {cluster : Cluster}
    (ready : Ready hex claim cluster)
    (free : cluster.locks claim.owner = none) :
    ∃ changed after last,
      Process.Returns (provision hex claim session) cluster (.ok changed)
        after ∧
      Process.Returns (provision hex claim next) (disconnect session after)
        (.ok false) last := by
  obtain ⟨outcome, after, returns⟩ :=
    Process.exists_returns (provision hex claim session) cluster
  obtain ⟨⟨changed, rfl, _⟩, settled, held⟩ := ready.returns free returns
  obtain ⟨role, known, marked, plain⟩ := settled.role
  obtain ⟨database, found, named, comment, hidden⟩ := settled.database
  have again : Settled hex claim (disconnect session after) :=
    ⟨settled.role, settled.database⟩
  have readyAgain : Ready hex claim (disconnect session after) := by
    constructor
    · intro other knownOther
      cases Option.some.inj (known.symm.trans knownOther)
      exact ⟨marked, plain⟩
    · intro other foundOther
      cases Option.some.inj (found.symm.trans foundOther)
      exact ⟨Option.isSome_iff_exists.mpr ⟨role, known⟩, named,
        .inr comment⟩
  have freed : (disconnect session after).locks claim.owner = none :=
    if_pos held
  obtain ⟨outcome, last, second⟩ := Process.exists_returns
    (provision hex claim next) (disconnect session after)
  obtain ⟨⟨_, rfl, unchanged⟩, _⟩ := readyAgain.returns freed second
  rw [unchanged again] at second
  exact ⟨changed, after, last, returns, second⟩

/-- Sessions that do not take the database of another role for their own keep
what is foreign. -/
theorem provision_of_runs {state : State} (genuine : Genuine hex initial)
    (run : Runs (guarded (Unmistaken hex) (Step (system hex)))
      (.fresh initial) state) : Convergent hex initial state := by
  have allSafe : AllSafe (contract hex initial) state := by
    refine allSafe_of_runs meets_contract ⟨genuine, .refl initial⟩ ?_ run
    intro pool move allSafe unmistaken
    refine ⟨unmistaken.granted, allSafe.undisturbed meets_contract
      unmistaken.granted ?_ ?_⟩
    · intro _ _ first second permitted
      exact permitted.evolves
    · intro session _ cluster
      exact evolves_disconnect session cluster
  constructor
  · intro move after unmistaken step name role found
    cases move with
    | begin number claim =>
        cases step with
        | begin fresh => exact found
    | stop number =>
        cases step with
        | stop known => exact found
    | act number choice =>
        obtain ⟨thread, _, permitted⟩ :=
          allSafe.guaranteed meets_contract unmistaken.granted step
        exact permitted.evolves.role name role found
  · intro move after unmistaken step name database found
    cases move with
    | begin number claim =>
        cases step with
        | begin fresh => exact .inl found
    | stop number =>
        cases step with
        | stop known => exact .inl found
    | act number choice =>
        obtain ⟨thread, known, permitted⟩ :=
          allSafe.guaranteed meets_contract unmistaken.granted step
        exact (permitted.own name database found).imp id fun creator =>
          ⟨number, thread, rfl, known, creator⟩
  · intro number claim changed after unmistaken step ends
    exact allSafe.ended meets_contract unmistaken.granted step ends changed
      rfl
  · intro claim session next untouched free
    exact (untouched.ready allSafe.valid.2).rerun free

/-! ## Two owners of one database -/

/-- SHA-256 of two owners. -/
def demoHex (owner : String) : String :=
  if owner = "vzctl:demo/a" then
    "90498d6b1a0e958545633a4c7d611410dc8a1f13b3be1c2f638d441d72773985"
  else if owner = "vzctl:demo/b" then
    "7da8f542fe6cbe56409e5e7c7d507c82107c143744860b2c0eca045a72343340"
  else owner

def claimA : Claim := ⟨"vzctl:demo/a", "app", "password-a"⟩

def claimB : Claim := ⟨"vzctl:demo/b", "app", "password-b"⟩

def emptyCluster : Cluster := ⟨fun _ => none, fun _ => none, fun _ => none⟩

def acts (number count : Nat) : List (Move Unit Claim) :=
  List.replicate count (.act number ())

/-- A has checked the ownership; B has done everything; A has seen that the
database exists. -/
def mistaken : State :=
  (.begin 0 claimA :: .begin 1 claimB ::
    (acts 0 2 ++ acts 1 5 ++ acts 0 1)).foldl
    (Pool.move (system demoHex)) (.fresh emptyCluster)

def taken : State := mistaken.move (system demoHex) (.act 0 ())

/-- A session ends well, with its mark on the database of another owner. -/
theorem provision_taken :
    Runs (Step (system demoHex)) (.fresh emptyCluster) mistaken ∧
      Step (system demoHex) mistaken (.act 0 ()) taken ∧
      mistaken.shared.databases "app" =
        some ⟨roleName demoHex "vzctl:demo/b", some "vzctl:demo/b",
          some [some (roleName demoHex "vzctl:demo/b")],
          some "vzctl:demo/b"⟩ ∧
      taken.shared.databases "app" =
        some ⟨roleName demoHex "vzctl:demo/b", some "vzctl:demo/a",
          some [some (roleName demoHex "vzctl:demo/b")],
          some "vzctl:demo/b"⟩ ∧
      taken.threads 0 = some ⟨claimA, .done (.ok true)⟩ := by
  have before : mistaken.shared.databases "app" =
      some ⟨roleName demoHex "vzctl:demo/b", some "vzctl:demo/b",
        some [some (roleName demoHex "vzctl:demo/b")],
        some "vzctl:demo/b"⟩ := by
    decide +kernel
  have after : taken.shared.databases "app" =
      some ⟨roleName demoHex "vzctl:demo/b", some "vzctl:demo/a",
        some [some (roleName demoHex "vzctl:demo/b")],
        some "vzctl:demo/b"⟩ := by
    decide +kernel
  refine ⟨runs_foldl _ _ _, ?_, before, after, rfl⟩
  rcases step_or_eq (system demoHex) mistaken (.act 0 ()) with step | same
  · exact step
  · rw [← same] at before
    exact absurd (after.symm.trans before) (by decide)

/-! ## One owner -/

/-- A has done everything. -/
def provisioned : State :=
  (.begin 0 claimA :: acts 0 5).foldl (Pool.move (system demoHex))
    (.fresh emptyCluster)

theorem unmistaken_of {state : State} {process : Session Bool}
    (known : state.threads 0 = some ⟨claim, process⟩)
    (own : (state.shared.databases claim.database).all
      (·.owner == roleName hex claim.owner) = true) :
    Unmistaken hex state (.act 0 ()) := by
  intro number same thread found changed _ database present
  cases same
  cases Option.some.inj (known.symm.trans found)
  rw [present] at own
  exact eq_of_beq own

/-- A first session of one owner ends well. -/
theorem provision_of_first :
    provisioned.threads 0 = some ⟨claimA, .done (.ok true)⟩ ∧
      Convergent demoHex emptyCluster provisioned := by
  have genuine : Genuine demoHex emptyCluster := by
    intro name database impossible
    cases impossible
  refine ⟨rfl, provision_of_runs genuine (runs_of_schedule _ _ _
    ⟨?_, ?_, ?_, ?_, ?_, ?_, trivial⟩)⟩
  · intro number impossible
    cases impossible
  · exact unmistaken_of rfl rfl
  · exact unmistaken_of rfl rfl
  · exact unmistaken_of rfl rfl
  · exact unmistaken_of rfl rfl
  · exact unmistaken_of rfl (by decide +kernel)

end PostgresController

end Vzctl
