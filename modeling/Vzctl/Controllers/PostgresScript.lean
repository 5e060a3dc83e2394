import Vzctl.Lib.PartialMap
import Vzctl.Lib.Interleaving

/-!
# The PostgreSQL script

`provision_sql` as a sequence of transactions on one cluster.  Sessions of any
claims take turns between them and may lose the connection there; the advisory
lock of a session goes with it.
-/

namespace Vzctl

namespace PostgresController

/-! ## The cluster -/

/-- A row of `pg_roles`, with its memberships and its comment.  `createdBy` is
the owner whose script has created it. -/
structure Role where
  superuser : Bool
  createDb : Bool
  createRole : Bool
  replication : Bool
  bypassRls : Bool
  memberships : List String
  comment : Option String
  password : String
  createdBy : Option String
  deriving DecidableEq, Repr

/-- A row of `pg_database`: the role that owns it, its comment and the
grantees of its access list, where `none` is `PUBLIC`. -/
structure Database where
  owner : String
  comment : Option String
  acl : Option (List (Option String))
  createdBy : Option String
  deriving DecidableEq, Repr

structure Cluster where
  roles : String → Option Role
  databases : String → Option Database
  locks : String → Option Nat

def Role.isElevated (role : Role) : Bool :=
  role.superuser || role.createDb || role.createRole || role.replication ||
    role.bypassRls || !role.memberships.isEmpty

/-- `COALESCE(datacl, acldefault('d', datdba))`. -/
def Database.grantees (database : Database) : List (Option String) :=
  database.acl.getD [none, some database.owner]

def Database.isPublic (database : Database) : Bool :=
  none ∈ database.grantees

/-! ## Claims -/

structure Claim where
  owner : String
  database : String
  password : String
  deriving DecidableEq, Repr

/-- `vz_` and the start of the SHA-256 of the owner in hexadecimal. -/
def roleName (hex : String → String) (owner : String) : String :=
  "vz_" ++ String.ofList ((hex owner).toList.take 24)

inductive Failure where
  | ownershipConflict
  | privilegeDrift
  | unavailable
  deriving DecidableEq, Repr

abbrev Session := Process Cluster Unit Failure

/-! ## Transactions -/

/-- `SELECT pg_advisory_lock(…)`; a wait for too long fails. -/
def acquire (session : Nat) (owner : String) (cluster : Cluster) :
    Except Failure Cluster :=
  if (cluster.locks owner).all (· == session) then
    .ok { cluster with
      locks := Function.update cluster.locks owner (some session) }
  else .error .unavailable

/-- `CREATE ROLE … LOGIN NOSUPERUSER …` and `COMMENT ON ROLE`. -/
def newRole (claim : Claim) : Role where
  superuser := false
  createDb := false
  createRole := false
  replication := false
  bypassRls := false
  memberships := []
  comment := some claim.owner
  password := claim.password
  createdBy := some claim.owner

section

variable (hex : String → String) (claim : Claim)

/-- The database is there and not ours. -/
def isForeign (cluster : Cluster) : Bool :=
  (cluster.databases claim.database).any fun database =>
    (cluster.roles (roleName hex claim.owner)).isNone ||
      database.owner != roleName hex claim.owner ||
      database.comment.any (· != claim.owner)

/-- The first `DO` block; it returns whether it has created the role. -/
def ownershipBlock : Procedure Cluster Failure Bool := fun cluster =>
  let role := cluster.roles (roleName hex claim.owner)
  if role.any (·.comment != some claim.owner) then
    (.error .ownershipConflict, cluster)
  else if role.any Role.isElevated then
    (.error .privilegeDrift, cluster)
  else if isForeign hex claim cluster then
    (.error .ownershipConflict, cluster)
  else if role.isNone then
    (.ok true,
      { cluster with
        roles := Function.update cluster.roles (roleName hex claim.owner)
          (some (newRole claim)) })
  else (.ok false, cluster)

/-- `CREATE DATABASE … OWNER …`. -/
def createDatabase (cluster : Cluster) : Except Failure Cluster :=
  if (cluster.databases claim.database).isNone ∧
      (cluster.roles (roleName hex claim.owner)).isSome then
    .ok { cluster with
      databases := Function.update cluster.databases claim.database
        (some ⟨roleName hex claim.owner, none, none, some claim.owner⟩) }
  else .error .unavailable

/-- `COMMENT ON DATABASE` and `REVOKE ALL ON DATABASE … FROM PUBLIC`. -/
def markedDatabase (database : Database) : Database :=
  { database with
    comment := some claim.owner
    acl :=
      if database.isPublic then
        some (database.grantees.filter Option.isSome)
      else database.acl }

/-- The second `DO` block; it returns whether it has changed anything. -/
def markingBlock : Procedure Cluster Failure Bool := fun cluster =>
  match cluster.databases claim.database with
  | none => (.error .unavailable, cluster)
  | some database =>
      (.ok (database.comment != some claim.owner || database.isPublic),
        { cluster with
          databases := Function.update cluster.databases claim.database
            (some (markedDatabase claim database)) })

/-! ## The script -/

/-- The script from `SELECT NOT EXISTS` on. -/
def provisionDatabase (changed : Bool) : Session Bool := do
  let isMissing ← .look fun cluster =>
    .ok (cluster.databases claim.database).isNone
  if isMissing then
    .atomically fun _ => Procedure.writing (createDatabase hex claim)
    let _ ← .atomically fun _ => markingBlock claim
    pure true
  else
    let marked ← .atomically fun _ => markingBlock claim
    pure (changed || marked)

/-- `provision_sql`; the result is `changed`. -/
def provision (session : Nat) : Session Bool := do
  .atomically fun _ => Procedure.writing (acquire session claim.owner)
  let changed ← .atomically fun _ => ownershipBlock hex claim
  provisionDatabase hex claim changed

end

/-- A session that ends gives its locks back. -/
def disconnect (session : Nat) (cluster : Cluster) : Cluster :=
  { cluster with
    locks := fun owner =>
      if cluster.locks owner = some session then none
      else cluster.locks owner }

def system (hex : String → String) :
    Interleaving.System Cluster Unit Failure Bool Claim where
  code session claim := provision hex claim session
  leave := disconnect

end PostgresController

end Vzctl
