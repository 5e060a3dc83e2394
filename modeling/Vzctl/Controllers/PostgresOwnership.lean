import Vzctl.Controllers.PostgresScript

/-!
# Ownership in PostgreSQL

What sessions keep, however their transactions interleave, as long as none
takes the database of another role for its own.
-/

namespace Vzctl

namespace PostgresController

open Interleaving Transitions

variable {hex : String → String} {claim : Claim}

/-! ## Clusters over time -/

/-- A later cluster has the same roles and more.  A database keeps its owner;
only a missing comment is filled in, with the comment of the owning role. -/
structure Evolves (hex : String → String) (first second : Cluster) :
    Prop where
  role : ∀ name role, first.roles name = some role →
    second.roles name = some role
  newRole : ∀ name role, first.roles name = none →
    second.roles name = some role →
    ∃ claim : Claim, name = roleName hex claim.owner ∧ role = newRole claim
  database : ∀ name before, first.databases name = some before →
    ∃ after, second.databases name = some after ∧
      after.owner = before.owner ∧ after.createdBy = before.createdBy ∧
      (after.comment = before.comment ∨
        before.comment = none ∧ ∃ role,
          second.roles before.owner = some role ∧
            after.comment = role.comment)
  newDatabase : ∀ name after, first.databases name = none →
    second.databases name = some after →
    ∃ owner role, after.owner = roleName hex owner ∧
      after.createdBy = some owner ∧
      second.roles after.owner = some role ∧ role.comment = some owner ∧
      (after.comment = none ∨ after.comment = some owner)

theorem Evolves.refl (cluster : Cluster) : Evolves hex cluster cluster := by
  constructor
  · intro name role found
    exact found
  · intro name role missing found
    cases missing.symm.trans found
  · intro name before found
    exact ⟨before, found, rfl, rfl, .inl rfl⟩
  · intro name after missing found
    cases missing.symm.trans found

theorem Evolves.trans (first second third : Cluster)
    (left : Evolves hex first second) (right : Evolves hex second third) :
    Evolves hex first third := by
  constructor
  · intro name role found
    exact right.role name role (left.role name role found)
  · intro name role missing found
    cases middle : second.roles name with
    | none => exact right.newRole name role middle found
    | some other =>
        have same := (right.role name other middle).symm.trans found
        cases Option.some.inj same
        exact left.newRole name role missing middle
  · intro name before found
    obtain ⟨middle, foundMiddle, owner, creator, comment⟩ :=
      left.database name before found
    obtain ⟨after, foundAfter, ownerAfter, creatorAfter, commentAfter⟩ :=
      right.database name middle foundMiddle
    refine ⟨after, foundAfter, ownerAfter.trans owner,
      creatorAfter.trans creator, ?_⟩
    rcases comment with comment | ⟨missing, role, known, comment⟩
    · rw [comment, owner] at commentAfter
      exact commentAfter
    · have knownAfter := right.role _ role known
      rcases commentAfter with same | ⟨_, other, knownOther, commentOther⟩
      · exact .inr ⟨missing, role, knownAfter, same.trans comment⟩
      · rw [owner] at knownOther
        exact .inr ⟨missing, other, knownOther, commentOther⟩
  · intro name after missing found
    cases foundMiddle : second.databases name with
    | none => exact right.newDatabase name after foundMiddle found
    | some middle =>
        obtain ⟨owner, role, ofOwner, creator, known, ofRole, comment⟩ :=
          left.newDatabase name middle missing foundMiddle
        obtain ⟨last, foundLast, ownerLast, creatorLast, commentLast⟩ :=
          right.database name middle foundMiddle
        cases Option.some.inj (foundLast.symm.trans found)
        have knownLast := right.role _ role known
        refine ⟨owner, role, ownerLast.trans ofOwner,
          creatorLast.trans creator, ownerLast ▸ knownLast, ofRole, ?_⟩
        rcases commentLast with same | ⟨_, other, knownOther, filled⟩
        · exact comment.imp same.trans same.trans
        · cases Option.some.inj (knownLast.symm.trans knownOther)
          exact .inr (filled.trans ofRole)

/-- What carries the marks of an owner was created by a script of that owner.
PostgreSQL itself keeps the role of every database. -/
def Genuine (hex : String → String) (cluster : Cluster) : Prop :=
  ∀ name database, cluster.databases name = some database →
    ∃ role, cluster.roles database.owner = some role ∧
      ∀ owner, role.comment = some owner →
        database.owner = roleName hex owner →
        (database.comment = none ∨ database.comment = some owner) →
        database.createdBy = some owner

theorem Genuine.evolves {first second : Cluster} (genuine : Genuine hex first)
    (evolves : Evolves hex first second) : Genuine hex second := by
  intro name after found
  cases start : first.databases name with
  | none =>
      obtain ⟨owner, role, ofOwner, creator, known, ofRole, _⟩ :=
        evolves.newDatabase name after start found
      refine ⟨role, known, fun other ofOther _ _ => ?_⟩
      rw [creator, ← ofRole, ofOther]
  | some before =>
      obtain ⟨last, foundLast, ownerLast, creatorLast, comment⟩ :=
        evolves.database name before start
      cases Option.some.inj (foundLast.symm.trans found)
      obtain ⟨role, known, marks⟩ := genuine name before start
      have knownAfter := evolves.role _ role known
      refine ⟨role, ownerLast ▸ knownAfter, fun owner ofRole named mark => ?_⟩
      rw [creatorLast]
      refine marks owner ofRole (ownerLast ▸ named) ?_
      rcases comment with same | ⟨missing, _⟩
      · rw [same] at mark
        exact mark
      · exact .inl missing

/-! ## What a session knows -/

/-- The role of the claim is there and marked; its database, where that is
its own, carries no other mark. -/
structure Owned (hex : String → String) (claim : Claim) (cluster : Cluster) :
    Prop where
  role : ∃ role, cluster.roles (roleName hex claim.owner) = some role ∧
    role.comment = some claim.owner
  database : ∀ database, cluster.databases claim.database = some database →
    database.owner = roleName hex claim.owner →
    (database.comment = none ∨ database.comment = some claim.owner) ∧
      database.createdBy = some claim.owner

/-- The database is there, and of the role of the claim. -/
def OfRole (hex : String → String) (claim : Claim) (cluster : Cluster) :
    Prop :=
  ∃ database, cluster.databases claim.database = some database ∧
    database.owner = roleName hex claim.owner

structure OwnsDatabase (hex : String → String) (claim : Claim)
    (cluster : Cluster) : Prop where
  owned : Owned hex claim cluster
  ofRole : OfRole hex claim cluster

/-- The database is there, of the role of the claim, and marked. -/
def Marked (hex : String → String) (claim : Claim) (cluster : Cluster) :
    Prop :=
  ∃ database, cluster.databases claim.database = some database ∧
    database.owner = roleName hex claim.owner ∧
    database.comment = some claim.owner

theorem Owned.evolves (first second : Cluster)
    (owned : Owned hex claim first) (evolves : Evolves hex first second) :
    Owned hex claim second := by
  obtain ⟨role, known, ofRole⟩ := owned.role
  have knownAfter := evolves.role _ role known
  refine ⟨⟨role, knownAfter, ofRole⟩, fun after found named => ?_⟩
  cases start : first.databases claim.database with
  | none =>
      obtain ⟨owner, other, _, creator, knownOther, ofOther, comment⟩ :=
        evolves.newDatabase _ after start found
      rw [named] at knownOther
      cases Option.some.inj (knownAfter.symm.trans knownOther)
      cases Option.some.inj (ofRole.symm.trans ofOther)
      exact ⟨comment, creator⟩
  | some before =>
      obtain ⟨last, foundLast, ownerLast, creatorLast, comment⟩ :=
        evolves.database _ before start
      cases Option.some.inj (foundLast.symm.trans found)
      have namedBefore := ownerLast.symm.trans named
      obtain ⟨mark, creator⟩ := owned.database before start namedBefore
      refine ⟨?_, creatorLast.trans creator⟩
      rcases comment with same | ⟨_, other, knownOther, filled⟩
      · rw [same]
        exact mark
      · rw [namedBefore] at knownOther
        cases Option.some.inj (knownAfter.symm.trans knownOther)
        exact .inr (filled.trans ofRole)

theorem OfRole.evolves (first second : Cluster)
    (ofRole : OfRole hex claim first) (evolves : Evolves hex first second) :
    OfRole hex claim second := by
  obtain ⟨before, found, named⟩ := ofRole
  obtain ⟨after, foundAfter, owner, _⟩ := evolves.database _ before found
  exact ⟨after, foundAfter, owner.trans named⟩

theorem OwnsDatabase.evolves (first second : Cluster)
    (owns : OwnsDatabase hex claim first)
    (evolves : Evolves hex first second) : OwnsDatabase hex claim second :=
  ⟨owns.owned.evolves first second evolves,
    owns.ofRole.evolves first second evolves⟩

theorem Marked.evolves {first second : Cluster}
    (marked : Marked hex claim first) (evolves : Evolves hex first second) :
    Marked hex claim second := by
  obtain ⟨before, found, named, mark⟩ := marked
  obtain ⟨after, foundAfter, owner, _, comment⟩ :=
    evolves.database _ before found
  refine ⟨after, foundAfter, owner.trans named, ?_⟩
  rcases comment with same | ⟨missing, _⟩
  · exact same.trans mark
  · cases missing.symm.trans mark

/-! ## Single transactions -/

/-- What one transaction of a claim may do: of the databases that exist, it
changes those that its owner has created. -/
structure Permitted (hex : String → String) (claim : Claim)
    (first second : Cluster) : Prop where
  evolves : Evolves hex first second
  own : ∀ name database, first.databases name = some database →
    second.databases name = some database ∨
      database.createdBy = some claim.owner

theorem permitted_refl (cluster : Cluster) :
    Permitted hex claim cluster cluster :=
  ⟨.refl cluster, fun _ _ found => .inl found⟩

theorem permitted_locks (cluster : Cluster)
    (locks : String → Option Nat) :
    Permitted hex claim cluster { cluster with locks := locks } := by
  have same : Evolves hex cluster cluster := .refl cluster
  exact ⟨⟨same.role, same.newRole, same.database, same.newDatabase⟩,
    fun _ _ found => .inl found⟩

theorem permitted_acquire {session : Nat} (cluster : Cluster) :
    Permitted hex claim cluster
      (Procedure.writing (acquire session claim.owner) cluster).2 := by
  unfold Procedure.writing acquire
  by_cases free : (cluster.locks claim.owner).all (· == session) = true
  · rw [if_pos free]
    exact permitted_locks cluster _
  · rw [if_neg free]
    exact permitted_refl cluster

theorem permitted_newRole {cluster : Cluster}
    (missing : cluster.roles (roleName hex claim.owner) = none) :
    Permitted hex claim cluster
      { cluster with
        roles := Function.update cluster.roles (roleName hex claim.owner)
          (some (newRole claim)) } := by
  refine ⟨⟨?_, ?_, ?_, ?_⟩, fun _ _ found => .inl found⟩
  · intro name role found
    exact PartialMap.update_of_absent missing found _
  · intro name role absent found
    rcases PartialMap.of_update_eq_some found with ⟨rfl, rfl⟩ | ⟨_, before⟩
    · exact ⟨claim, rfl, rfl⟩
    · cases absent.symm.trans before
  · intro name before found
    exact ⟨before, found, rfl, rfl, .inl rfl⟩
  · intro name after absent found
    cases absent.symm.trans found

theorem ownershipBlock_ok {cluster after : Cluster} {created : Bool}
    (performed : ownershipBlock hex claim cluster = (.ok created, after)) :
    isForeign hex claim cluster = false ∧
      ((∃ role, cluster.roles (roleName hex claim.owner) = some role ∧
          role.comment = some claim.owner ∧ role.isElevated = false) ∧
        after = cluster ∧ created = false ∨
      cluster.roles (roleName hex claim.owner) = none ∧ created = true ∧
        after = { cluster with
          roles := Function.update cluster.roles (roleName hex claim.owner)
            (some (newRole claim)) }) := by
  unfold ownershipBlock at performed
  dsimp only at performed
  cases found : cluster.roles (roleName hex claim.owner) with
  | none =>
      rw [found] at performed
      cases foreign : isForeign hex claim cluster with
      | true =>
          rw [foreign] at performed
          cases performed
      | false =>
          rw [foreign] at performed
          cases performed
          exact ⟨rfl, .inr ⟨rfl, rfl, rfl⟩⟩
  | some role =>
      rw [found] at performed
      by_cases marked : role.comment = some claim.owner
      · cases elevated : role.isElevated with
        | true =>
            simp [marked, elevated] at performed
        | false =>
            cases foreign : isForeign hex claim cluster with
            | true => simp [marked, elevated, foreign] at performed
            | false =>
                simp only [Option.any_some, marked, bne_self_eq_false,
                  elevated, foreign, Option.isNone_some,
                  Bool.false_eq_true, if_false] at performed
                cases performed
                exact ⟨rfl, .inl ⟨⟨role, rfl, marked, elevated⟩, rfl, rfl⟩⟩
      · simp [marked] at performed

theorem ownershipBlock_error {cluster after : Cluster} {failure : Failure}
    (performed : ownershipBlock hex claim cluster =
      (.error failure, after)) : after = cluster := by
  unfold ownershipBlock at performed
  dsimp only at performed
  split at performed
  · exact (Prod.mk.inj performed).2.symm
  · split at performed
    · exact (Prod.mk.inj performed).2.symm
    · split at performed
      · exact (Prod.mk.inj performed).2.symm
      · split at performed <;> cases performed

theorem createDatabase_ok {cluster after : Cluster}
    (performed : createDatabase hex claim cluster = .ok after) :
    cluster.databases claim.database = none ∧
      after = { cluster with
        databases := Function.update cluster.databases claim.database
          (some ⟨roleName hex claim.owner, none, none,
            some claim.owner⟩) } := by
  unfold createDatabase at performed
  split at performed
  · rename_i possible
    exact ⟨Option.isNone_iff_eq_none.mp possible.1,
      (Except.ok.inj performed).symm⟩
  · cases performed

theorem permitted_createDatabase {cluster after : Cluster}
    (owned : Owned hex claim cluster)
    (performed : createDatabase hex claim cluster = .ok after) :
    Permitted hex claim cluster after ∧ OfRole hex claim after := by
  obtain ⟨missing, rfl⟩ := createDatabase_ok performed
  obtain ⟨role, known, ofRole⟩ := owned.role
  refine ⟨⟨⟨fun _ _ found => found, ?_, ?_, ?_⟩, ?_⟩, ?_⟩
  · intro name role absent found
    cases absent.symm.trans found
  · intro name before found
    exact ⟨before, PartialMap.update_of_absent missing found _, rfl, rfl,
      .inl rfl⟩
  · intro name after absent found
    rcases PartialMap.of_update_eq_some found with ⟨rfl, rfl⟩ | ⟨_, before⟩
    · exact ⟨claim.owner, role, rfl, rfl, known, ofRole, .inl rfl⟩
    · cases absent.symm.trans before
  · intro name database found
    exact .inl (PartialMap.update_of_absent missing found _)
  · exact ⟨_, Function.update_self _ _ _, rfl⟩

theorem permitted_marking {cluster after : Cluster} {changed : Bool}
    (owns : OwnsDatabase hex claim cluster)
    (performed : markingBlock claim cluster = (.ok changed, after)) :
    Permitted hex claim cluster after ∧ Marked hex claim after := by
  obtain ⟨database, found, named⟩ := owns.ofRole
  obtain ⟨role, known, isOwners⟩ := owns.owned.role
  obtain ⟨mark, creator⟩ := owns.owned.database database found named
  unfold markingBlock at performed
  rw [found] at performed
  obtain ⟨_, rfl⟩ := Prod.mk.inj performed
  refine ⟨⟨⟨fun _ _ found => found, ?_, ?_, ?_⟩, ?_⟩, ?_⟩
  · intro name role absent present
    cases absent.symm.trans present
  · intro name before present
    by_cases same : name = claim.database
    · subst same
      cases Option.some.inj (found.symm.trans present)
      refine ⟨_, Function.update_self _ _ _, rfl, rfl, ?_⟩
      rcases mark with missing | marked
      · exact .inr ⟨missing, role, named ▸ known, isOwners.symm⟩
      · exact .inl marked.symm
    · exact ⟨before, (Function.update_of_ne same _ _).trans present, rfl,
        rfl, .inl rfl⟩
  · intro name after absent present
    rcases PartialMap.of_update_eq_some present with ⟨rfl, _⟩ | ⟨_, before⟩
    · cases absent.symm.trans found
    · cases absent.symm.trans before
  · intro name other present
    by_cases same : name = claim.database
    · subst same
      cases Option.some.inj (found.symm.trans present)
      exact .inr creator
    · exact .inl ((Function.update_of_ne same _ _).trans present)
  · exact ⟨_, Function.update_self _ _ _, named, rfl⟩

theorem markingBlock_error {cluster after : Cluster} {failure : Failure}
    (performed : markingBlock claim cluster = (.error failure, after)) :
    after = cluster := by
  unfold markingBlock at performed
  split at performed
  · exact (Prod.mk.inj performed).2.symm
  · cases performed

theorem owned_ownershipBlock {cluster after : Cluster} {created : Bool}
    (genuine : Genuine hex cluster)
    (performed : ownershipBlock hex claim cluster = (.ok created, after)) :
    Permitted hex claim cluster after ∧ Owned hex claim after := by
  obtain ⟨native, same | fresh⟩ := ownershipBlock_ok performed
  · obtain ⟨⟨role, known, marked, _⟩, rfl, _⟩ := same
    refine ⟨permitted_refl after, ⟨role, known, marked⟩,
      fun database found named => ?_⟩
    have comment : database.comment = none ∨
        database.comment = some claim.owner := by
      cases text : database.comment with
      | none => exact .inl rfl
      | some other =>
          simp [isForeign, found, known, named, text] at native
          exact .inr (congrArg some native)
    obtain ⟨other, knownOther, marks⟩ :=
      genuine claim.database database found
    rw [named] at knownOther
    cases Option.some.inj (known.symm.trans knownOther)
    exact ⟨comment, marks claim.owner marked named comment⟩
  · obtain ⟨missing, _, rfl⟩ := fresh
    refine ⟨permitted_newRole missing, ⟨newRole claim,
      Function.update_self _ _ _, rfl⟩, fun database found named => ?_⟩
    obtain ⟨role, known, _⟩ := genuine claim.database database found
    rw [named] at known
    cases missing.symm.trans known

/-! ## Sessions -/

/-- A session that looks for its database does not find one of another
role. -/
def NotForeign (hex : String → String) (claim : Claim)
    (process : Session Bool) (cluster : Cluster) (_ : Unit) : Prop :=
  ∀ changed, process = provisionDatabase hex claim changed →
    ∀ database, cluster.databases claim.database = some database →
      database.owner = roleName hex claim.owner

def Provisioned (hex : String → String) (claim : Claim)
    (outcome : Except Failure Bool) (cluster : Cluster) : Prop :=
  ∀ changed, outcome = .ok changed → Marked hex claim cluster

abbrev SafeSession (hex : String → String) (claim : Claim)
    (process : Session Bool) (cluster : Cluster) : Prop :=
  Process.Safe (NotForeign hex claim) (Evolves hex) (Permitted hex claim)
    (Provisioned hex claim) process cluster

theorem provisioned_error (failure : Failure) (cluster : Cluster) :
    Provisioned hex claim (.error failure) cluster := by
  intro changed impossible
  cases impossible

theorem safe_marking {cluster : Cluster} {result : Bool → Bool}
    (owns : OwnsDatabase hex claim cluster) :
    SafeSession hex claim
      (do
        let marked ← .atomically fun _ => markingBlock claim
        pure (result marked)) cluster := by
  refine Process.Safe.of_atomically owns OwnsDatabase.evolves ?_ ?_ ?_
  · intro current _ owns _
    cases performed : markingBlock claim current with
    | mk outcome after =>
        cases outcome with
        | ok marked => exact (permitted_marking owns performed).1
        | error failure =>
            rw [markingBlock_error performed]
            exact permitted_refl current
  · intro current _ marked after owns _ performed
    have isMarked := (permitted_marking owns performed).2
    exact Process.Safe.of_pure fun later evolves _ _ =>
      isMarked.evolves evolves
  · intro _ _ failure _ _ _ later _
    exact provisioned_error failure later

theorem safe_createDatabase {cluster : Cluster}
    (owned : Owned hex claim cluster) :
    SafeSession hex claim
      (do
        .atomically fun _ => Procedure.writing (createDatabase hex claim)
        let _ ← .atomically fun _ => markingBlock claim
        pure true) cluster := by
  refine Process.Safe.of_atomically owned Owned.evolves ?_ ?_ ?_
  · intro current _ owned _
    unfold Procedure.writing
    cases performed : createDatabase hex claim current with
    | ok after => exact (permitted_createDatabase owned performed).1
    | error failure => exact permitted_refl current
  · intro current _ _ after owned _ performed
    unfold Procedure.writing at performed
    cases created : createDatabase hex claim current with
    | ok changed =>
        rw [created] at performed
        cases performed
        obtain ⟨permitted, ofRole⟩ := permitted_createDatabase owned created
        exact safe_marking
          ⟨owned.evolves current after permitted.evolves, ofRole⟩
    | error failure =>
        rw [created] at performed
        cases performed
  · intro _ _ failure _ _ _ later _
    exact provisioned_error failure later

theorem safe_provisionDatabase {cluster : Cluster} {changed : Bool}
    (owned : Owned hex claim cluster) :
    SafeSession hex claim (provisionDatabase hex claim changed) cluster := by
  refine Process.Safe.of_look owned Owned.evolves permitted_refl ?_ ?_
  · intro current _ isMissing owned granted seen
    cases isMissing with
    | true => exact safe_createDatabase owned
    | false =>
        refine safe_marking ⟨owned, ?_⟩
        cases found : current.databases claim.database with
        | none =>
            rw [found] at seen
            cases seen
        | some database =>
            exact ⟨database, found, granted changed rfl database found⟩
  · intro _ failure last _ impossible
    cases impossible

theorem safe_provision {cluster : Cluster} (genuine : Genuine hex cluster)
    (session : Nat) :
    SafeSession hex claim (provision hex claim session) cluster := by
  have evolves : ∀ first second : Cluster, Genuine hex first →
      Evolves hex first second → Genuine hex second :=
    fun _ _ genuine evolves => genuine.evolves evolves
  have locked : ∀ current, Permitted hex claim current
      (Procedure.writing (acquire session claim.owner) current).2 :=
    fun current => permitted_acquire current
  refine Process.Safe.of_atomically genuine evolves
    (fun current _ _ _ => locked current) ?_ ?_
  · intro current _ _ after genuine _ performed
    have permitted := locked current
    rw [performed] at permitted
    have genuineAfter := genuine.evolves permitted.evolves
    refine Process.Safe.of_atomically genuineAfter evolves ?_ ?_ ?_
    · intro current _ genuine _
      cases performed : ownershipBlock hex claim current with
      | mk outcome after =>
          cases outcome with
          | ok created => exact (owned_ownershipBlock genuine performed).1
          | error failure =>
              rw [ownershipBlock_error performed]
              exact permitted_refl current
    · intro current _ created after genuine _ performed
      exact safe_provisionDatabase (owned_ownershipBlock genuine performed).2
    · intro _ _ failure _ _ _ later _
      exact provisioned_error failure later
  · intro _ _ failure _ _ _ later _
    exact provisioned_error failure later

end PostgresController

end Vzctl
