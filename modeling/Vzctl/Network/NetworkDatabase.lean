import Vzctl.Apply.StateDatabase
import Vzctl.Network.InetAddress

/-!
# The network tables of the supervisor database

`networks`, `network_attachments` and `network_defaults` of
`StateDatabase.swift`, with their keys, the unique index over the scoped name
and the foreign key from attachments to networks.  Text is bound as a C string.
-/

namespace Vzctl

structure NetworkRecord where
  /-- Stable storage and runtime identity. -/
  id : String
  name : String
  cidr : String
  mode : String
  natEgress : Bool
  backend : String
  labels : Labels
  project : Option String
  stack : Option String
  runtimeState : String
  lastError : Option String
  updatedAt : String
  deriving DecidableEq, Repr

namespace NetworkRecord

def backendVmnet : String := "vmnet"

def backendDocker : String := "docker"

def isDockerBackend (record : NetworkRecord) : Bool :=
  record.backend = backendDocker

end NetworkRecord

structure NetworkAttachmentRecord where
  vmID : String
  networkID : String
  networkName : String
  ip : String
  labels : Labels
  project : Option String
  stack : Option String
  updatedAt : String
  deriving DecidableEq, Repr

/-- A row of `network_attachments`. -/
structure AttachmentRow where
  vmID : String
  networkID : String
  ip : String
  labels : Labels
  project : Option String
  stack : Option String
  updatedAt : String
  deriving DecidableEq, Repr

/-- One row of the join with `networks`. -/
def AttachmentRow.record (row : AttachmentRow) (networkName : String) :
    NetworkAttachmentRecord where
  vmID := row.vmID
  networkID := row.networkID
  networkName := networkName
  ip := row.ip
  labels := row.labels
  project := row.project
  stack := row.stack
  updatedAt := row.updatedAt

/-- What is bound for a record. -/
def NetworkAttachmentRecord.row (record : NetworkAttachmentRecord) :
    AttachmentRow where
  vmID := record.vmID
  networkID := record.networkID
  ip := cString record.ip
  labels := record.labels
  project := record.project
  stack := record.stack.map cString
  updatedAt := record.updatedAt

structure DefaultNetworkRecord where
  name : String
  cidr : String
  updatedAt : String
  deriving DecidableEq, Repr

/-- The primary key, `cidr UNIQUE`, the check on `mode` and the index
`networks_project_name`. -/
def networkSchema : Schema NetworkRecord :=
  .and (.uniqueOn NetworkRecord.id) <|
    .and (.uniqueOn NetworkRecord.cidr) <|
      .and (.check fun record => record.mode = "shared")
        (.uniqueOn fun record => (record.project.getD "", record.name))

def attachmentSchema : Schema AttachmentRow :=
  .and (.uniqueOn fun row => (row.vmID, row.networkID))
    (.uniqueOn fun row => (row.networkID, row.ip))

/-- The three network tables. -/
structure NetworkDatabase where
  networkTable : Table networkSchema
  attachmentTable : Table attachmentSchema
  defaultRow : Option DefaultNetworkRecord
  foreignKey : ∀ row ∈ attachmentTable.rows,
    ∃ network ∈ networkTable.rows, network.id = row.networkID

namespace NetworkDatabase

/-- A database without rows. -/
def fresh : NetworkDatabase where
  networkTable := Table.empty
  attachmentTable := Table.empty
  defaultRow := none
  foreignKey := by simp

variable (database : NetworkDatabase)

/-! ## Reading -/

/-- `networks()`, `ORDER BY name`. -/
def networks : List NetworkRecord :=
  database.networkTable.rows.insertionSort fun left right =>
    left.id ≤ right.id

/-- `attachments()`, the join with `networks`,
`ORDER BY a.network_name, a.vm_id`. -/
def attachments : List NetworkAttachmentRecord :=
  (database.attachmentTable.rows.flatMap fun row =>
    (database.networkTable.rows.filter fun network =>
      network.id = row.networkID).map fun network =>
        row.record network.name).insertionSort fun left right =>
          left.networkID < right.networkID ∨
            left.networkID = right.networkID ∧ left.vmID ≤ right.vmID

@[simp]
theorem mem_networks {database : NetworkDatabase} {record : NetworkRecord} :
    record ∈ database.networks ↔ record ∈ database.networkTable.rows :=
  List.mem_insertionSort _

@[simp]
theorem mem_attachments {database : NetworkDatabase}
    {record : NetworkAttachmentRecord} :
    record ∈ database.attachments ↔
      ∃ row ∈ database.attachmentTable.rows,
        ∃ network ∈ database.networkTable.rows,
          network.id = row.networkID ∧ record = row.record network.name := by
  rw [attachments, List.mem_insertionSort]
  simp only [List.mem_flatMap, List.mem_map, List.mem_filter,
    decide_eq_true_eq]
  constructor
  · rintro ⟨row, rowMember, network, ⟨networkMember, same⟩, rfl⟩
    exact ⟨row, rowMember, network, networkMember, same, rfl⟩
  · rintro ⟨row, rowMember, network, networkMember, same, rfl⟩
    exact ⟨row, rowMember, network, ⟨networkMember, same⟩, rfl⟩

/-! ## Writing -/

def insertNetwork (record : NetworkRecord) : Option NetworkDatabase :=
  match performed : database.networkTable.insert record with
  | none => none
  | some networkTable => some {
      database with
      networkTable := networkTable
      foreignKey := by
        intro row member
        obtain ⟨network, networkMember, same⟩ :=
          database.foreignKey row member
        rw [Table.rows_of_insert performed]
        exact ⟨network, List.mem_append_left _ networkMember, same⟩ }

/-- `SET runtime_state = ?, last_error = ?, updated_at = ?`. -/
def setRuntime (state : String) (error : Option String) (updatedAt : String)
    (record : NetworkRecord) : NetworkRecord :=
  { record with
    runtimeState := state
    lastError := error
    updatedAt := updatedAt }

def updateNetworkRuntime (id state : String) (error : Option String)
    (updatedAt : String) : Option NetworkDatabase :=
  match performed : database.networkTable.update (·.id = id)
      (setRuntime state error updatedAt) with
  | none => none
  | some networkTable => some {
      database with
      networkTable := networkTable
      foreignKey := by
        intro row member
        obtain ⟨network, networkMember, same⟩ :=
          database.foreignKey row member
        rw [Table.rows_of_update performed]
        refine ⟨_, List.mem_map_of_mem networkMember, ?_⟩
        split
        · exact same
        · exact same }

/-- Refused while an attachment refers to the network, and when there is no
such network. -/
def deleteNetwork (id : String) : Option NetworkDatabase :=
  if restricted : ∃ row ∈ database.attachmentTable.rows, row.networkID = id
  then
    none
  else if database.networkTable.rows.any (·.id = id) then
    some {
      database with
      networkTable := database.networkTable.delete (·.id = id)
      foreignKey := by
        intro row member
        obtain ⟨network, networkMember, same⟩ :=
          database.foreignKey row member
        refine ⟨network, ?_, same⟩
        rw [Table.rows_delete, List.mem_filter]
        refine ⟨networkMember, ?_⟩
        simp only [Bool.not_eq_true', decide_eq_false_iff_not]
        intro deleted
        exact restricted ⟨row, member, same.symm.trans deleted⟩ }
  else
    none

def insertAttachment (record : NetworkAttachmentRecord) :
    Option NetworkDatabase :=
  if known : ∃ network ∈ database.networkTable.rows,
      network.id = record.networkID then
    match performed : database.attachmentTable.insert record.row with
    | none => none
    | some attachmentTable => some {
        database with
        attachmentTable := attachmentTable
        foreignKey := by
          intro row member
          rw [Table.rows_of_insert performed] at member
          rcases List.mem_append.mp member with old | new
          · exact database.foreignKey row old
          · rw [List.mem_singleton.mp new]
            exact known }
  else
    none

def updateAttachment (record : NetworkAttachmentRecord) :
    Option NetworkDatabase :=
  if database.attachmentTable.rows.any fun row =>
      row.vmID = record.vmID ∧ row.networkID = record.networkID then
    match performed : database.attachmentTable.update
        (fun row =>
          row.vmID = record.vmID ∧ row.networkID = record.networkID)
        (fun _ => record.row) with
    | none => none
    | some attachmentTable => some {
        database with
        attachmentTable := attachmentTable
        foreignKey := by
          intro row member
          rw [Table.rows_of_update performed] at member
          obtain ⟨old, oldMember, rfl⟩ := List.mem_map.mp member
          obtain ⟨network, networkMember, same⟩ :=
            database.foreignKey old oldMember
          refine ⟨network, networkMember, same.trans ?_⟩
          split
          · rename_i selected
            rw [decide_eq_true_eq] at selected
            exact selected.2
          · rfl }
  else
    none

/-- `DELETE FROM network_attachments WHERE ...`. -/
def removeAttachments (selects : AttachmentRow → Bool) : NetworkDatabase where
  networkTable := database.networkTable
  attachmentTable := database.attachmentTable.delete selects
  defaultRow := database.defaultRow
  foreignKey := by
    intro row member
    rw [Table.rows_delete] at member
    exact database.foreignKey row (List.mem_of_mem_filter member)

/-- Refused when there is no such attachment. -/
def deleteAttachment (vmID networkID : String) : Option NetworkDatabase :=
  let selects (row : AttachmentRow) : Bool :=
    row.vmID = vmID ∧ row.networkID = networkID
  if database.attachmentTable.rows.any selects then
    some (database.removeAttachments selects)
  else
    none

def deleteAttachments (vmID : String) : NetworkDatabase :=
  database.removeAttachments (·.vmID = cString vmID)

def setDefaultNetwork (record : DefaultNetworkRecord) : NetworkDatabase :=
  { database with defaultRow := some record }

/-! ## What a statement writes -/

section Writes

variable {before after : NetworkDatabase}

theorem insertNetwork_writes {record : NetworkRecord}
    (done : before.insertNetwork record = some after) :
    after.networkTable.rows = before.networkTable.rows ++ [record] ∧
      after.attachmentTable = before.attachmentTable := by
  unfold insertNetwork at done
  split at done
  · cases done
  · rename_i networkTable performed
    cases done
    exact ⟨Table.rows_of_insert performed, rfl⟩

theorem updateNetworkRuntime_writes {id state : String}
    {error : Option String} {updatedAt : String}
    (done : before.updateNetworkRuntime id state error updatedAt =
      some after) :
    after.networkTable.rows = before.networkTable.rows.map (fun record =>
        if record.id = id then
          setRuntime state error updatedAt record
        else
          record) ∧
      after.attachmentTable = before.attachmentTable := by
  unfold updateNetworkRuntime at done
  split at done
  · cases done
  · rename_i networkTable performed
    cases done
    refine ⟨?_, rfl⟩
    simpa using Table.rows_of_update performed

theorem updateNetworkRuntime_ne_none (database : NetworkDatabase)
    (id state : String) (error : Option String) (updatedAt : String) :
    database.updateNetworkRuntime id state error updatedAt ≠ none := by
  obtain ⟨ids, ranges, modes, names⟩ := database.networkTable.valid
  have valid : networkSchema.valid
      (database.networkTable.rows.map fun record =>
        if decide (record.id = id) then
          setRuntime state error updatedAt record
        else
          record) := by
    refine ⟨UniqueKey.nodup_update ids fun _ => rfl,
      UniqueKey.nodup_update ranges fun _ => rfl, ?_,
      UniqueKey.nodup_update names fun _ => rfl⟩
    intro row member
    obtain ⟨old, oldMember, rfl⟩ := List.mem_map.mp member
    split
    · exact modes old oldMember
    · exact modes old oldMember
  have accepted : (database.networkTable.update (fun record => record.id = id)
      (setRuntime state error updatedAt)).isSome :=
    Table.write_isSome_iff.mpr valid
  unfold updateNetworkRuntime
  split
  · rename_i refused
    rw [refused] at accepted
    cases accepted
  · exact nofun

theorem deleteNetwork_writes {id : String}
    (done : before.deleteNetwork id = some after) :
    (∀ row ∈ before.attachmentTable.rows, row.networkID ≠ id) ∧
      after.networkTable.rows =
        before.networkTable.rows.filter (·.id ≠ id) ∧
      after.attachmentTable = before.attachmentTable := by
  unfold deleteNetwork at done
  split at done
  · cases done
  · rename_i unrestricted
    split at done
    · cases done
      refine ⟨?_, ?_, rfl⟩
      · intro row member sameNetwork
        exact unrestricted ⟨row, member, sameNetwork⟩
      · simp
    · cases done

theorem insertAttachment_writes {record : NetworkAttachmentRecord}
    (done : before.insertAttachment record = some after) :
    after.networkTable = before.networkTable ∧
      after.attachmentTable.rows =
        before.attachmentTable.rows ++ [record.row] := by
  unfold insertAttachment at done
  split at done
  · split at done
    · cases done
    · rename_i attachmentTable performed
      cases done
      exact ⟨rfl, Table.rows_of_insert performed⟩
  · cases done

theorem updateAttachment_writes {record : NetworkAttachmentRecord}
    (done : before.updateAttachment record = some after) :
    after.networkTable = before.networkTable ∧
      after.attachmentTable.rows = before.attachmentTable.rows.map fun row =>
        if row.vmID = record.vmID ∧ row.networkID = record.networkID then
          record.row
        else
          row := by
  unfold updateAttachment at done
  split at done
  · split at done
    · cases done
    · rename_i attachmentTable performed
      cases done
      refine ⟨rfl, ?_⟩
      simpa using Table.rows_of_update performed
  · cases done

theorem deleteAttachment_writes {vmID networkID : String}
    (done : before.deleteAttachment vmID networkID = some after) :
    after.networkTable = before.networkTable ∧
      after.attachmentTable.rows = before.attachmentTable.rows.filter
        fun row => ¬ (row.vmID = vmID ∧ row.networkID = networkID) := by
  unfold deleteAttachment at done
  dsimp only at done
  split at done
  · cases done
    refine ⟨rfl, ?_⟩
    simp [removeAttachments]
  · cases done

/-- An attachment is accepted when its network exists and neither the VM nor
the address is on it. -/
theorem insertAttachment_ne_none {record : NetworkAttachmentRecord}
    (known : ∃ network ∈ before.networkTable.rows,
      network.id = record.networkID)
    (newVM : ∀ row ∈ before.attachmentTable.rows,
      row.networkID = record.networkID → row.vmID ≠ record.vmID)
    (newAddress : ∀ row ∈ before.attachmentTable.rows,
      row.networkID = record.networkID → row.ip ≠ cString record.ip) :
    before.insertAttachment record ≠ none := by
  have valid : attachmentSchema.valid
      (before.attachmentTable.rows ++ [record.row]) := by
    obtain ⟨vmKeys, addressKeys⟩ := before.attachmentTable.valid
    constructor
    · apply UniqueKey.nodup_append_singleton vmKeys
      intro other member sameKey
      rw [Prod.mk.injEq] at sameKey
      exact newVM other member sameKey.2 sameKey.1
    · apply UniqueKey.nodup_append_singleton addressKeys
      intro other member sameKey
      rw [Prod.mk.injEq] at sameKey
      exact newAddress other member sameKey.1 sameKey.2
  have accepted : (before.attachmentTable.insert record.row).isSome :=
    Table.write_isSome_iff.mpr valid
  unfold insertAttachment
  rw [dif_pos known]
  split
  · rename_i refused
    rw [refused] at accepted
    cases accepted
  · exact nofun

end Writes

/-- The addresses in use on a network. -/
def usedAddresses (database : NetworkDatabase) (networkID : String) :
    List String :=
  (database.attachmentTable.rows.filter (·.networkID = networkID)).map (·.ip)

theorem mem_usedAddresses_iff (database : NetworkDatabase)
    (networkID text : String) :
    text ∈ (database.attachments.filter
        (·.networkID = networkID)).map (·.ip) ↔
      text ∈ database.usedAddresses networkID := by
  simp only [usedAddresses, List.mem_map, List.mem_filter, mem_attachments,
    decide_eq_true_eq]
  constructor
  · rintro ⟨_, ⟨⟨row, member, _, _, _, rfl⟩, same⟩, rfl⟩
    exact ⟨row, ⟨member, same⟩, rfl⟩
  · rintro ⟨row, ⟨member, same⟩, rfl⟩
    obtain ⟨network, networkMember, joined⟩ := database.foreignKey row member
    exact ⟨row.record network.name,
      ⟨⟨row, member, network, networkMember, joined, rfl⟩, same⟩, rfl⟩

end NetworkDatabase

end Vzctl
