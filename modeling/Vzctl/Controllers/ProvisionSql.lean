import Mathlib.Data.List.Infix
import Mathlib.Data.String.Basic
import Vzctl.Lib.SqlText

/-!
# The text of the PostgreSQL script

`provision_sql` of `postgres.rs` as a template of its fixed text and its
values.  Whatever the owner and the password are, `psql` reads the statements
and commands of the template, and the server the statements of its blocks.
-/

namespace Vzctl

namespace ProvisionSql

open SqlText

/-! ## Source -/

def nameCharacter (character : Char) : Bool :=
  character.isAlphanum || character == '_'

def reservedNames : List String := ["postgres", "template0", "template1"]

def asciiLowercase (value : String) : List Char :=
  value.toList.map Char.toLower

def databaseName (value : String) : Bool :=
  value ≠ "" && value.utf8ByteSize ≤ 63 &&
    value.toList.head?.any Char.isAlpha &&
    value.toList.all nameCharacter &&
    !(reservedNames.map String.toList).contains (asciiLowercase value) &&
    !("pg_".toList).isPrefixOf (asciiLowercase value)

/-- A text in quotes, those in it doubled. -/
def literal (value : String) : List Char := quoted value.toList

theorem length_delimiterOf_le {tag value : List Char}
    (within : delimiterOf tag <:+: value) : tag.length + 2 ≤ value.length := by
  have lengths := within.length_le
  simp only [delimiterOf, List.length_append, List.length_cons,
    List.length_nil] at lengths
  omega

/-- The loop that lengthens the tag while a value holds the delimiter. -/
def searchTag (owner password tag : List Char) : List Char :=
  if delimiterOf tag <:+: owner ∨ delimiterOf tag <:+: password then
    searchTag owner password (tag ++ ['x'])
  else tag
termination_by owner.length + password.length - tag.length
decreasing_by
  rename_i found
  rw [List.length_append, List.length_singleton]
  rcases found with inOwner | inPassword
  · have := length_delimiterOf_le inOwner
    omega
  · have := length_delimiterOf_le inPassword
    omega

/-- What stands in quotes: a text of the template or an argument. -/
inductive Slot where
  | fixed (text : String)
  | owner
  | role
  | database
  | password

/-- What the script holds besides: the texts of its two blocks. -/
inductive Part where
  | slot (value : Slot)
  | ownershipBlock
  | databaseBlock

/-! ## Templates -/

section Templates

set_option maxRecDepth 4000

def ownershipBlock : List (Piece Slot) :=
  [.code ⟨_, "\nDECLARE r record; d record;\nBEGIN\n  SELECT oid, rolsuper, rolcreatedb, rolcreaterole, rolreplication, rolbypassrls,\n         shobj_description(oid, ", rfl⟩,
    .literal (.fixed "pg_authid"),
    .code ⟨_, ") AS owner INTO r\n    FROM pg_roles WHERE rolname = ", rfl⟩,
    .literal .role,
    .code ⟨_, ";\n  IF FOUND AND r.owner IS DISTINCT FROM ", rfl⟩,
    .literal .owner,
    .code ⟨_, " THEN\n    RAISE EXCEPTION ", rfl⟩,
    .literal (.fixed "VZCTL_OWNERSHIP_CONFLICT"),
    .code ⟨_, ";\n  END IF;\n  IF r.oid IS NOT NULL AND (r.rolsuper OR r.rolcreatedb OR r.rolcreaterole\n      OR r.rolreplication OR r.rolbypassrls\n      OR EXISTS (SELECT 1 FROM pg_auth_members WHERE member = r.oid)) THEN\n    RAISE EXCEPTION ", rfl⟩,
    .literal (.fixed "VZCTL_PRIVILEGE_DRIFT"),
    .code ⟨_, ";\n  END IF;\n  SELECT datdba, shobj_description(oid, ", rfl⟩,
    .literal (.fixed "pg_database"),
    .code ⟨_, ") AS owner INTO d\n    FROM pg_database WHERE datname = ", rfl⟩,
    .literal .database,
    .code ⟨_, ";\n  ", rfl⟩,
    .comment ⟨_, " An existing database is ours only if owned by our verified dedicated role.", rfl⟩,
    .code ⟨_, "\n  ", rfl⟩,
    .comment ⟨_, " NULL comment is recoverable after CREATE DATABASE succeeded before COMMENT.", rfl⟩,
    .code ⟨_, "\n  IF FOUND AND (r.oid IS NULL OR d.datdba <> r.oid\n      OR (d.owner IS NOT NULL AND d.owner <> ", rfl⟩,
    .literal .owner,
    .code ⟨_, ")) THEN\n    RAISE EXCEPTION ", rfl⟩,
    .literal (.fixed "VZCTL_OWNERSHIP_CONFLICT"),
    .code ⟨_, ";\n  END IF;\n  IF r.oid IS NULL THEN\n    CREATE ROLE ", rfl⟩,
    .name .role,
    .code ⟨_, " LOGIN NOSUPERUSER NOCREATEDB NOCREATEROLE\n      NOINHERIT NOREPLICATION NOBYPASSRLS PASSWORD ", rfl⟩,
    .literal .password,
    .code ⟨_, ";\n    COMMENT ON ROLE ", rfl⟩,
    .name .role,
    .code ⟨_, " IS ", rfl⟩,
    .literal .owner,
    .code ⟨_, ";\n    UPDATE vzctl_changed SET value = true;\n  END IF;\nEND\n", rfl⟩]

def databaseBlock : List (Piece Slot) :=
  [.code ⟨_, "\nBEGIN\n  IF (SELECT shobj_description(oid, ", rfl⟩,
    .literal (.fixed "pg_database"),
    .code ⟨_, ") FROM pg_database\n      WHERE datname = ", rfl⟩,
    .literal .database,
    .code ⟨_, ") IS DISTINCT FROM ", rfl⟩,
    .literal .owner,
    .code ⟨_, " THEN\n    COMMENT ON DATABASE ", rfl⟩,
    .name .database,
    .code ⟨_, " IS ", rfl⟩,
    .literal .owner,
    .code ⟨_, ";\n    UPDATE vzctl_changed SET value = true;\n  END IF;\n  IF EXISTS (SELECT 1 FROM pg_database,\n      LATERAL aclexplode(COALESCE(datacl, acldefault(", rfl⟩,
    .literal (.fixed "d"),
    .code ⟨_, ", datdba))) acl\n      WHERE datname = ", rfl⟩,
    .literal .database,
    .code ⟨_, " AND acl.grantee = 0) THEN\n    REVOKE ALL ON DATABASE ", rfl⟩,
    .name .database,
    .code ⟨_, " FROM PUBLIC;\n    UPDATE vzctl_changed SET value = true;\n  END IF;\nEND\n", rfl⟩]

def script : List (Piece Part) :=
  [.command ⟨_, "set ON_ERROR_STOP on", rfl⟩,
    .code ⟨_, "\nSET standard_conforming_strings = on", rfl⟩, .terminator,
    .code ⟨_, "\nSET statement_timeout = ", rfl⟩,
    .literal (.slot (.fixed "20s")), .terminator,
    .code ⟨_, "\nSET lock_timeout = ", rfl⟩,
    .literal (.slot (.fixed "10s")), .terminator,
    .code ⟨_, "\nSELECT pg_advisory_lock(hashtextextended(", rfl⟩,
    .literal (.slot .owner),
    .code ⟨_, ", 0))", rfl⟩, .terminator,
    .code ⟨_, "\nCREATE TEMP TABLE vzctl_changed (value boolean NOT NULL)", rfl⟩,
    .terminator,
    .code ⟨_, "\nINSERT INTO vzctl_changed VALUES (false)", rfl⟩, .terminator,
    .code ⟨_, "\nDO ", rfl⟩, .dollar .ownershipBlock, .terminator,
    .code ⟨_, "\nSELECT NOT EXISTS (SELECT 1 FROM pg_database WHERE datname = ", rfl⟩,
    .literal (.slot .database),
    .code ⟨_, ") AS create_database ", rfl⟩,
    .command ⟨_, "gset", rfl⟩,
    .code ⟨_, "\n", rfl⟩,
    .command ⟨_, "if :create_database", rfl⟩,
    .code ⟨_, "\nCREATE DATABASE ", rfl⟩,
    .name (.slot .database),
    .code ⟨_, " OWNER ", rfl⟩,
    .name (.slot .role), .terminator,
    .code ⟨_, "\nUPDATE vzctl_changed SET value = true", rfl⟩, .terminator,
    .code ⟨_, "\n", rfl⟩,
    .command ⟨_, "endif", rfl⟩,
    .code ⟨_, "\nDO ", rfl⟩, .dollar .databaseBlock, .terminator,
    .code ⟨_, "\nSELECT ", rfl⟩,
    .literal (.slot (.fixed "VZCTL_RESULT:")),
    .code ⟨_, " || json_build_object(", rfl⟩,
    .literal (.slot (.fixed "changed")),
    .code ⟨_, ", value)::text FROM vzctl_changed", rfl⟩, .terminator,
    .code ⟨_, "\n", rfl⟩]

end Templates

/-! ## Filling in -/

section Provision

variable (owner role database password : String)

/-- The tag of both blocks. -/
def tag : List Char :=
  searchTag (literal owner) (literal password) "vzctl".toList

def slotValue : Slot → List Char
  | .fixed text => text.toList
  | .owner => owner.toList
  | .role => role.toList
  | .database => database.toList
  | .password => password.toList

/-- A block; no piece of it is dollar-quoted. -/
def blockText (block : List (Piece Slot)) : List Char :=
  render [] (slotValue owner role database password) block

def partValue : Part → List Char
  | .slot value => slotValue owner role database password value
  | .ownershipBlock => blockText owner role database password ownershipBlock
  | .databaseBlock => blockText owner role database password databaseBlock

def provisionSql : String :=
  String.ofList
    (render (tag owner password) (partValue owner role database password)
      script)

end Provision

/-! ## The search -/

section Search

variable {owner password tag : List Char}

theorem searchTag_absent :
    ¬ delimiterOf (searchTag owner password tag) <:+: owner ∧
      ¬ delimiterOf (searchTag owner password tag) <:+: password := by
  fun_induction searchTag owner password tag with
  | case1 tag found ih => exact ih
  | case2 tag absent => exact not_or.mp absent

theorem searchTag_eq :
    ∃ count, searchTag owner password tag =
      tag ++ List.replicate count 'x' := by
  fun_induction searchTag owner password tag with
  | case1 tag found ih =>
      obtain ⟨count, same⟩ := ih
      refine ⟨count + 1, ?_⟩
      rw [same, List.append_assoc, List.replicate_succ]
      rfl
  | case2 tag absent => exact ⟨0, by simp⟩

end Search

/-! ## Blocks without the delimiter -/

section Blocks

variable {owner role database password : String}

theorem isTag_tag (owner password : String) : IsTag (tag owner password) := by
  obtain ⟨count, same⟩ : ∃ count, tag owner password =
      "vzctl".toList ++ List.replicate count 'x' := searchTag_eq
  have letters : "vzctl".toList = ['v', 'z', 'c', 't', 'l'] :=
    String.toList_ofList
  have named : ∀ character ∈ ['z', 'c', 't', 'l'],
      continuesWord character = true := by
    intro character member
    simp only [List.mem_cons, List.not_mem_nil, or_false] at member
    rcases member with rfl | rfl | rfl | rfl <;> rfl
  rw [same, letters]
  refine ⟨by decide, ?_⟩
  intro character member
  rcases List.mem_append.mp member with inName | added
  · exact named character inName
  · rw [(List.mem_replicate.mp added).2]
    decide

/-- A piece of a block that has a dollar sign from the values only. -/
def plainPiece : Piece Slot → Bool
  | .code text => '$' ∉ text.characters
  | .literal (.fixed text) => '$' ∉ text.toList
  | .literal _ => true
  | .name .role => true
  | .name .database => true
  | .name _ => false
  | .comment text => '$' ∉ text.characters
  | .command text => '$' ∉ text.characters
  | .dollar _ => false
  | .terminator => true

theorem dollar_not_mem_quoted {value : List Char} (plain : '$' ∉ value) :
    '$' ∉ quoted value := by
  intro member
  rw [quoted, List.mem_append, List.mem_cons, List.mem_flatMap] at member
  rcases member with (same | ⟨character, inside, member⟩) | last
  · exact absurd same (by decide)
  · split at member
    · revert member
      decide
    · rw [List.mem_singleton] at member
      exact plain (member ▸ inside)
  · revert last
    decide

theorem not_infix_quoted {tag value : List Char} (plain : '$' ∉ value) :
    ¬ delimiterOf tag <:+: quoted value := by
  intro within
  exact dollar_not_mem_quoted plain (within.mem List.mem_cons_self)

theorem free_of_plainPiece (plainRole : '$' ∉ role.toList)
    (plainDatabase : '$' ∉ database.toList) {piece : Piece Slot}
    (plain : plainPiece piece = true) :
    piece.Free (tag owner password)
      (slotValue owner role database password) := by
  have searched := @searchTag_absent (literal owner) (literal password)
    "vzctl".toList
  cases piece with
  | code text =>
      have absent : '$' ∉ text.characters := of_decide_eq_true plain
      exact absent
  | literal value =>
      cases value with
      | fixed text => exact not_infix_quoted (of_decide_eq_true plain)
      | owner => exact searched.1
      | role => exact not_infix_quoted plainRole
      | database => exact not_infix_quoted plainDatabase
      | password => exact searched.2
  | name value =>
      cases value with
      | role => exact plainRole
      | database => exact plainDatabase
      | fixed text => cases plain
      | owner => cases plain
      | password => cases plain
  | comment text =>
      have absent : '$' ∉ text.characters := of_decide_eq_true plain
      exact absent
  | command text =>
      have absent : '$' ∉ text.characters := of_decide_eq_true plain
      exact absent
  | dollar body => cases plain
  | terminator => trivial

theorem render_of_plain {block : List (Piece Slot)} {values : Slot → List Char}
    (plain : block.all plainPiece = true) (tag other : List Char) :
    render tag values block = render other values block := by
  rw [render, render]
  apply List.flatMap_congr
  intro piece member
  have isPlain := List.all_eq_true.mp plain piece member
  cases piece with
  | dollar body => cases isPlain
  | _ => rfl

theorem not_infix_blockText (plainRole : '$' ∉ role.toList)
    (plainDatabase : '$' ∉ database.toList) {block : List (Piece Slot)}
    (plain : block.all plainPiece = true) :
    ¬ delimiterOf (tag owner password) <:+:
      blockText owner role database password block ++
        (delimiterOf (tag owner password)).dropLast := by
  rw [blockText, render_of_plain plain [] (tag owner password)]
  refine not_infix_render (isTag_tag owner password) ?_
  intro piece member
  exact free_of_plainPiece plainRole plainDatabase
    (List.all_eq_true.mp plain piece member)

theorem plain_ownershipBlock : ownershipBlock.all plainPiece = true := by
  decide +kernel

theorem plain_databaseBlock : databaseBlock.all plainPiece = true := by
  decide +kernel

theorem fits_of_plainPiece (plainRole : '"' ∉ role.toList)
    (plainDatabase : '"' ∉ database.toList) {tag : List Char}
    {piece : Piece Slot} (plain : plainPiece piece = true) :
    piece.Fits tag (slotValue owner role database password) := by
  cases piece with
  | name value =>
      cases value with
      | role => exact plainRole
      | database => exact plainDatabase
      | fixed text => cases plain
      | owner => cases plain
      | password => cases plain
  | dollar body => cases plain
  | _ => trivial

theorem reads_blockText (plainRole : '"' ∉ role.toList)
    (plainDatabase : '"' ∉ database.toList) {block : List (Piece Slot)}
    (plain : block.all plainPiece = true) {after : Mode}
    (reading : through .server (.code .none 0) block = some after) :
    Reads .server (.code .none 0)
      (blockText owner role database password block) after
      (tokensOf (slotValue owner role database password) block) := by
  rw [blockText]
  refine reads_template trivial ?_ reading
  intro piece member
  exact fits_of_plainPiece plainRole plainDatabase
    (List.all_eq_true.mp plain piece member)

end Blocks

/-! ## The script -/

/-- The names of the script are arguments, its dollar quotes hold blocks. -/
def scriptPiece : Piece Part → Bool
  | .name (.slot .role) => true
  | .name (.slot .database) => true
  | .name _ => false
  | .dollar (.slot _) => false
  | _ => true

theorem not_mem_of_nameCharacter {text : List Char} {character : Char}
    (named : text.all nameCharacter = true)
    (other : nameCharacter character = false) : character ∉ text := by
  intro member
  rw [List.all_eq_true.mp named character member] at other
  cases other

theorem nameCharacters_of_databaseName {database : String}
    (accepted : databaseName database = true) :
    database.toList.all nameCharacter = true := by
  simp only [databaseName, Bool.and_eq_true] at accepted
  exact accepted.1.1.2

theorem fits_of_scriptPiece {owner role database password : String}
    (plainRole : role.toList.all nameCharacter = true)
    (plainDatabase : database.toList.all nameCharacter = true)
    {piece : Piece Part} (plain : scriptPiece piece = true) :
    piece.Fits (tag owner password)
      (partValue owner role database password) := by
  have roleDollar : '$' ∉ role.toList :=
    not_mem_of_nameCharacter plainRole (by decide)
  have databaseDollar : '$' ∉ database.toList :=
    not_mem_of_nameCharacter plainDatabase (by decide)
  cases piece with
  | name value =>
      cases value with
      | slot value =>
          cases value with
          | role => exact not_mem_of_nameCharacter plainRole (by decide)
          | database =>
              exact not_mem_of_nameCharacter plainDatabase (by decide)
          | fixed text => cases plain
          | owner => cases plain
          | password => cases plain
      | ownershipBlock => cases plain
      | databaseBlock => cases plain
  | dollar body =>
      cases body with
      | slot value => cases plain
      | ownershipBlock =>
          exact not_infix_blockText roleDollar databaseDollar
            plain_ownershipBlock
      | databaseBlock =>
          exact not_infix_blockText roleDollar databaseDollar
            plain_databaseBlock
  | _ => trivial

/-- For every owner and password the search ends, and the script is read as
the statements and commands of its template, with the values of the template
in their places: by `psql` as a whole, and by the server in both blocks. -/
theorem provisionSql_reads (owner role database password : String)
    (plainRole : role.toList.all nameCharacter = true)
    (accepted : databaseName database = true) :
    (∃ count, tag owner password =
      "vzctl".toList ++ List.replicate count 'x') ∧
      Reads .psql (.code .none 0)
        (provisionSql owner role database password).toList (.code .none 0)
        (tokensOf (partValue owner role database password) script) ∧
      Reads .server (.code .none 0)
        (blockText owner role database password ownershipBlock)
        (.code .none 0)
        (tokensOf (slotValue owner role database password) ownershipBlock) ∧
      Reads .server (.code .none 0)
        (blockText owner role database password databaseBlock)
        (.code .none 0)
        (tokensOf (slotValue owner role database password)
          databaseBlock) := by
  have plainDatabase := nameCharacters_of_databaseName accepted
  have roleQuote : '"' ∉ role.toList :=
    not_mem_of_nameCharacter plainRole (by decide)
  have databaseQuote : '"' ∉ database.toList :=
    not_mem_of_nameCharacter plainDatabase (by decide)
  have names : script.all scriptPiece = true := by decide +kernel
  refine ⟨searchTag_eq, ?_,
    reads_blockText roleQuote databaseQuote plain_ownershipBlock
      (by decide +kernel),
    reads_blockText roleQuote databaseQuote plain_databaseBlock
      (by decide +kernel)⟩
  rw [provisionSql, String.toList_ofList]
  refine reads_template (isTag_tag owner password) ?_ (by decide +kernel)
  intro piece member
  exact fits_of_scriptPiece plainRole plainDatabase
    (List.all_eq_true.mp names piece member)

/-- A password with a quote, a backslash and the delimiter. -/
theorem provisionSql_reads_delimiter :
    (∃ count, tag "demo/'$vzctl$" "\\'$vzctlx$" =
      "vzctl".toList ++ List.replicate count 'x') ∧
      Reads .psql (.code .none 0)
        (provisionSql "demo/'$vzctl$" "vz_a1" "app" "\\'$vzctlx$").toList
        (.code .none 0)
        (tokensOf (partValue "demo/'$vzctl$" "vz_a1" "app" "\\'$vzctlx$")
          script) :=
  have reads := provisionSql_reads "demo/'$vzctl$" "vz_a1" "app"
    "\\'$vzctlx$" (by decide) (by decide)
  ⟨reads.1, reads.2.1⟩

end ProvisionSql

end Vzctl
