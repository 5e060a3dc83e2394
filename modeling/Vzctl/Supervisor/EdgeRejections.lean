import Vzctl.Lib.Texts
import Vzctl.Lib.Transition
import Vzctl.Supervisor.EdgeRPC

/-!
# What a rejected edge call leaves

A call stores before it reconciles.  `ingress.ensure` takes its change back
when vz-edge rejects it; the other calls leave what they stored, and with it
every later call is judged.
-/

namespace Vzctl

open Procedure Texts Transitions

/-! ## Same intents -/

namespace EdgeDatabase

variable {database other third : EdgeDatabase} {project : String}
  {change : EdgeProject → EdgeProject}

/-- Every project asks for the same. -/
def SameIntents (database other : EdgeDatabase) : Prop :=
  (∀ project, database.edgeProject project = other.edgeProject project) ∧
    database.ports = other.ports

namespace SameIntents

theorem refl (database : EdgeDatabase) : database.SameIntents database :=
  ⟨fun _ => rfl, rfl⟩

theorem symm (same : database.SameIntents other) :
    other.SameIntents database :=
  ⟨fun project => (same.1 project).symm, same.2.symm⟩

theorem trans (first : database.SameIntents other)
    (second : other.SameIntents third) : database.SameIntents third :=
  ⟨fun project => (first.1 project).trans (second.1 project),
    first.2.trans second.2⟩

end SameIntents

theorem edgeProject_upsertEdgeProject (database : EdgeDatabase)
    (project other : String) (change : EdgeProject → EdgeProject) :
    (database.upsertEdgeProject project change).edgeProject other =
      if other = cString project then
        change (database.edgeProject (cString project))
      else database.edgeProject other := by
  rw [edgeProject, upsertEdgeProject, KeyedList.lookup_insertKey]
  split
  · rfl
  · rfl

theorem SameIntents.upsertEdgeProject (same : database.SameIntents other)
    (project : String) (change : EdgeProject → EdgeProject) :
    (database.upsertEdgeProject project change).SameIntents
      (other.upsertEdgeProject project change) := by
  refine ⟨fun asked => ?_, same.2⟩
  rw [edgeProject_upsertEdgeProject, edgeProject_upsertEdgeProject,
    same.1 (cString project), same.1 asked]

theorem upsertEdgeProject_sameIntents_iff :
    (database.upsertEdgeProject project change).SameIntents database ↔
      change (database.edgeProject (cString project)) =
        database.edgeProject (cString project) := by
  constructor
  · intro same
    have found := same.1 (cString project)
    rw [edgeProject_upsertEdgeProject, if_pos rfl] at found
    exact found
  · intro kept
    refine ⟨fun asked => ?_, rfl⟩
    rw [edgeProject_upsertEdgeProject]
    split
    · rename_i named
      rw [kept, named]
    · rfl

theorem upsertEdgeProject_upsertEdgeProject
    (database : EdgeDatabase) (project : String)
    (first second : EdgeProject → EdgeProject) :
    ((database.upsertEdgeProject project first).upsertEdgeProject project
        second).SameIntents
      (database.upsertEdgeProject project fun row => second (first row)) := by
  refine ⟨fun asked => ?_, rfl⟩
  rw [edgeProject_upsertEdgeProject, edgeProject_upsertEdgeProject,
    edgeProject_upsertEdgeProject, edgeProject_upsertEdgeProject, if_pos rfl]
  split
  · rfl
  · rfl

/-! ## Desired states -/

theorem flatMap_filter_inserted {part : EdgeProject → List JSONValue}
    (nothing : part .inserted = []) (rows : List (String × EdgeProject)) :
    ((rows.filter fun row => row.2 ≠ .inserted).map Prod.snd).flatMap part =
      (rows.map Prod.snd).flatMap part := by
  induction rows with
  | nil => rfl
  | cons row rest ih =>
      rw [List.filter_cons]
      split
      · rw [List.map_cons, List.map_cons, List.flatMap_cons,
          List.flatMap_cons, ih]
      · rename_i blank
        have same : row.2 = .inserted := by simpa using blank
        rw [List.map_cons, List.flatMap_cons, same, nothing,
          ih]
        rfl

theorem SameIntents.flatMap (same : database.SameIntents other)
    {part : EdgeProject → List JSONValue} (nothing : part .inserted = []) :
    (database.projects.map Prod.snd).flatMap part =
      (other.projects.map Prod.snd).flatMap part := by
  rw [← flatMap_filter_inserted nothing database.projects,
    ← flatMap_filter_inserted nothing other.projects,
    KeyedList.filter_eq_of_getD_lookup EdgeProject.inserted
      database.projectsSorted other.projectsSorted same.1]

theorem SameIntents.desired_eq (same : database.SameIntents other)
    (snapshot : JSONValue) :
    database.desired snapshot = other.desired snapshot := by
  have asOptions : ∀ (rows : List EdgeProject)
      (part : EdgeProject → Option JSONValue),
      rows.filterMap part = rows.flatMap fun row => (part row).toList := by
    intro rows part
    exact List.filterMap_eq_flatMap_toList part rows
  rw [desired, desired, asOptions, asOptions, asOptions, asOptions,
    same.flatMap rfl, same.flatMap rfl, same.flatMap rfl, same.flatMap rfl,
    same.2]

/-! ## Port forwards -/

theorem insertPortForward_eq_ok_iff {record : PortForwardRecord}
    {stored : EdgeDatabase} :
    database.insertPortForward record = .ok stored ↔
      database.ports.lookup record.row.1 = none ∧
        stored =
          { database with
            ports :=
              KeyedList.insertKey record.row.1 record.row.2 database.ports
            portsSorted :=
              KeyedList.sorted_insertKey _ _ database.portsSorted } := by
  rw [insertPortForward]
  cases found : database.ports.lookup record.row.1 with
  | none => exact ⟨fun same => ⟨rfl, (Except.ok.inj same).symm⟩,
      fun both => congrArg Except.ok both.2.symm⟩
  | some held =>
      constructor
      · intro impossible
        cases impossible
      · rintro ⟨impossible, _⟩
        cases impossible

theorem insertPortForwards_of_ok {records : List PortForwardRecord}
    {stored : EdgeDatabase}
    (inserted : records.foldlM insertPortForward database = .ok stored) :
    stored.projects = database.projects ∧
      ∀ row, row ∈ stored.ports ↔
        row ∈ records.map PortForwardRecord.row ∨ row ∈ database.ports := by
  induction records generalizing database with
  | nil =>
      cases inserted
      exact ⟨rfl, fun row => by simp⟩
  | cons record rest ih =>
      rw [List.foldlM_cons] at inserted
      obtain ⟨next, first, others⟩ := Outcome.bind_eq_ok_iff.mp inserted
      obtain ⟨absent, rfl⟩ := insertPortForward_eq_ok_iff.mp first
      obtain ⟨sameProjects, members⟩ := ih others
      refine ⟨sameProjects, fun row => ?_⟩
      rw [members, KeyedList.mem_insertKey_iff database.portsSorted absent,
        List.map_cons, List.mem_cons]
      exact ⟨fun held => by tauto, fun held => by tauto⟩

theorem replacePortForwards_of_ok {project stack : String}
    {records : List PortForwardRecord} {stored : EdgeDatabase}
    (replaced : database.replacePortForwards project stack records =
      .ok stored) :
    stored.projects = database.projects ∧
      ∀ row, row ∈ stored.ports ↔
        row ∈ records.map PortForwardRecord.row ∨
          row ∈ database.ports ∧ ofStack project stack row = false := by
  obtain ⟨sameProjects, members⟩ := insertPortForwards_of_ok replaced
  refine ⟨sameProjects, fun row => ?_⟩
  rw [members, deletePortForwards, List.mem_filter, Bool.not_eq_true']

theorem sameIntents_of_projects (sameProjects : other.projects =
    database.projects) :
    other.SameIntents database ↔
      ∀ row, row ∈ other.ports ↔ row ∈ database.ports := by
  constructor
  · intro same row
    rw [same.2]
  · intro members
    refine ⟨fun project => ?_, ?_⟩
    · rw [edgeProject, edgeProject, sameProjects]
    · exact KeyedList.eq_of_mem_iff other.portsSorted database.portsSorted
        members

/-- Two databases with the same intents answer a statement alike. -/
def Alike : Except RPCFailure EdgeDatabase →
    Except RPCFailure EdgeDatabase → Prop
  | .ok stored, .ok other => stored.SameIntents other
  | .error failure, .error other => failure = other
  | _, _ => False

theorem insertPortForward_of_some {record held : PortForwardRecord}
    (found : database.ports.lookup record.row.1 = some held) :
    database.insertPortForward record = .error (.runtime
      "UNIQUE constraint failed: port_forwards.bind, port_forwards.host_port")
    := by
  rw [insertPortForward, found]
  rfl

theorem SameIntents.insertPortForwards (records : List PortForwardRecord)
    (same : database.SameIntents other) :
    Alike (records.foldlM insertPortForward database)
      (records.foldlM insertPortForward other) := by
  induction records generalizing database other with
  | nil => exact same
  | cons record rest ih =>
      rw [List.foldlM_cons, List.foldlM_cons]
      cases found : database.ports.lookup record.row.1 with
      | some held =>
          rw [insertPortForward_of_some found,
            insertPortForward_of_some (same.2 ▸ found)]
          exact rfl
      | none =>
          rw [insertPortForward_eq_ok_iff.mpr ⟨found, rfl⟩,
            insertPortForward_eq_ok_iff.mpr ⟨same.2 ▸ found, rfl⟩]
          refine ih ⟨same.1, ?_⟩
          dsimp only
          rw [same.2]

theorem SameIntents.deletePortForwards (same : database.SameIntents other)
    (project stack : String) :
    (database.deletePortForwards project stack).SameIntents
      (other.deletePortForwards project stack) :=
  ⟨same.1, congrArg (List.filter _) same.2⟩

theorem nextEdgeGeneration_sameIntents (database : EdgeDatabase) :
    database.nextEdgeGeneration.SameIntents database :=
  ⟨fun _ => rfl, rfl⟩

end EdgeDatabase

namespace EdgeRPC

open EdgeDatabase

variable {stateDirectory : String} {database other stored : EdgeDatabase}
  {call : Call} {change : Change} {equal : String → String → Bool}

/-! ## Stores -/

theorem store_alike (same : database.SameIntents other) (change : Change) :
    Alike (change.store database) (change.store other) := by
  cases change with
  | replacePortForwards project stack records =>
      exact (same.deletePortForwards project stack).insertPortForwards records
  | deletePortForwards project stack =>
      exact same.deletePortForwards project stack
  | setDNSRecords project records => exact same.upsertEdgeProject project _
  | purgeDNSRecords project => exact same.upsertEdgeProject project _
  | setHostServices project hosts => exact same.upsertEdgeProject project _
  | setIngress project value hosts =>
      cases hosts with
      | none => exact same.upsertEdgeProject project _
      | some hosts =>
          exact (same.upsertEdgeProject project _).upsertEdgeProject project _
  | purgeIngress project =>
      exact (same.upsertEdgeProject project _).upsertEdgeProject project _
  | setOIDC project value => exact same.upsertEdgeProject project _
  | purgeOIDC project => exact same.upsertEdgeProject project _

/-- The change asks for what is stored, or is taken back: the row that is found
under the name of the project has what the row that is written has. -/
def Change.Spares (equal : String → String → Bool) (database : EdgeDatabase) :
    Change → Prop
  | .replacePortForwards project stack records =>
      ∀ row, row ∈ records.map PortForwardRecord.row ↔
        row ∈ database.ports ∧ ofStack project stack row = true
  | .deletePortForwards project stack =>
      ∀ row ∈ database.ports, ofStack project stack row = false
  | .setDNSRecords project records =>
      (database.edgeProject (cString project)).dnsRecords = records
  | .purgeDNSRecords project =>
      (database.edgeProject (cString project)).dnsRecords = []
  | .setHostServices project hosts =>
      (database.edgeProject (cString project)).hostServices = hosts
  | .setIngress project _ _ =>
      edgeProjectMutationSnapshot equal database project =
        ⟨(database.edgeProject (cString project)).ingress,
          (database.edgeProject (cString project)).hostServices⟩
  | .purgeIngress project =>
      (database.edgeProject (cString project)).ingress = none ∧
        (database.edgeProject (cString project)).hostServices = []
  | .setOIDC project value =>
      (database.edgeProject (cString project)).oidc = some value
  | .purgeOIDC project => (database.edgeProject (cString project)).oidc = none

/-- What stays stored when vz-edge rejects a change. -/
def Change.left (equal : String → String → Bool)
    (database stored : EdgeDatabase) : Change → EdgeDatabase
  | .setIngress project _ _ =>
      let before := edgeProjectMutationSnapshot equal database project
      (stored.setEdgeIngress project before.ingress).setEdgeHostServices
        project before.hostServices
  | _ => stored

theorem portRecord_ofStack {project stack : String} {fields : Fields}
    {record : PortForwardRecord}
    (parsed : portRecord project stack fields = .ok record) :
    (record.project, record.stack) = (project, stack) := by
  obtain ⟨bind, _, parsed⟩ := Outcome.bind_eq_ok_iff.mp parsed
  obtain ⟨hostPort, _, parsed⟩ := Outcome.bind_eq_ok_iff.mp parsed
  obtain ⟨guestIP, _, parsed⟩ := Outcome.bind_eq_ok_iff.mp parsed
  obtain ⟨guestPort, _, parsed⟩ := Outcome.bind_eq_ok_iff.mp parsed
  obtain ⟨vmID, _, parsed⟩ := Outcome.bind_eq_ok_iff.mp parsed
  obtain ⟨source, _, parsed⟩ := Outcome.bind_eq_ok_iff.mp parsed
  rw [← Outcome.pure_eq_ok_iff.mp parsed]

theorem portRecords_ofStack {project stack : String}
    {items : List JSONValue} {records : List PortForwardRecord}
    (parsed : portRecords project stack items = .ok records)
    {row : PortKey × PortForwardRecord}
    (member : row ∈ records.map PortForwardRecord.row) :
    ofStack project stack row = true := by
  have kept : records.map (fun record => (record.project, record.stack)) =
      _ :=
    Outcome.map_eq_of_mapM (fun fields _ record => portRecord_ofStack) parsed
  obtain ⟨record, listed, rfl⟩ := List.mem_map.mp member
  have named : (record.project, record.stack) ∈
      records.map fun record => (record.project, record.stack) :=
    List.mem_map_of_mem listed
  rw [kept] at named
  obtain ⟨_, _, same⟩ := List.mem_map.mp named
  cases same
  simp [ofStack, PortForwardRecord.row, PortForwardRecord.bound]

theorem exists_of_readPurge {make : String → Change} {params : JSONValue}
    (performed : readPurge make params = .ok change) :
    ∃ project, change = make project := by
  obtain ⟨fields, _, performed⟩ := Outcome.bind_eq_ok_iff.mp performed
  obtain ⟨project, _, performed⟩ := Outcome.bind_eq_ok_iff.mp performed
  exact ⟨project, (Outcome.pure_eq_ok_iff.mp performed).symm⟩

theorem exists_of_readIngressEnsure {params : JSONValue}
    (performed : readIngressEnsure stateDirectory params = .ok change) :
    ∃ project value hosts, change = .setIngress project value hosts := by
  obtain ⟨fields, _, performed⟩ := Outcome.bind_eq_ok_iff.mp performed
  obtain ⟨project, _, performed⟩ := Outcome.bind_eq_ok_iff.mp performed
  obtain ⟨caddyfile, _, performed⟩ := Outcome.bind_eq_ok_iff.mp performed
  dsimp only at performed
  split at performed
  · exact ⟨project, _, _, (Outcome.pure_eq_ok_iff.mp performed).symm⟩
  · exact ⟨project, _, _, (Outcome.pure_eq_ok_iff.mp performed).symm⟩
  · cases performed

/-- A change of port forwards names rows of its own stack only. -/
def Change.OwnsRows : Change → Prop
  | .replacePortForwards project stack records =>
      ∀ row ∈ records.map PortForwardRecord.row,
        ofStack project stack row = true
  | _ => True

theorem ownsRows_of_read (performed : read stateDirectory call = .ok change) :
    change.OwnsRows := by
  rw [read] at performed
  split at performed
  · obtain ⟨fields, _, performed⟩ := Outcome.bind_eq_ok_iff.mp performed
    obtain ⟨project, _, performed⟩ := Outcome.bind_eq_ok_iff.mp performed
    obtain ⟨stack, _, performed⟩ := Outcome.bind_eq_ok_iff.mp performed
    obtain ⟨items, _, performed⟩ := Outcome.bind_eq_ok_iff.mp performed
    obtain ⟨records, parsed, performed⟩ :=
      Outcome.bind_eq_ok_iff.mp performed
    rw [← Outcome.pure_eq_ok_iff.mp performed]
    exact fun row member => portRecords_ofStack parsed member
  · obtain ⟨fields, _, performed⟩ := Outcome.bind_eq_ok_iff.mp performed
    obtain ⟨project, _, performed⟩ := Outcome.bind_eq_ok_iff.mp performed
    obtain ⟨stack, _, performed⟩ := Outcome.bind_eq_ok_iff.mp performed
    rw [← Outcome.pure_eq_ok_iff.mp performed]
    trivial
  · obtain ⟨fields, _, performed⟩ := Outcome.bind_eq_ok_iff.mp performed
    obtain ⟨project, _, performed⟩ := Outcome.bind_eq_ok_iff.mp performed
    obtain ⟨records, _, performed⟩ := Outcome.bind_eq_ok_iff.mp performed
    rw [← Outcome.pure_eq_ok_iff.mp performed]
    trivial
  · obtain ⟨project, rfl⟩ := exists_of_readPurge performed
    trivial
  · obtain ⟨fields, _, performed⟩ := Outcome.bind_eq_ok_iff.mp performed
    obtain ⟨project, _, performed⟩ := Outcome.bind_eq_ok_iff.mp performed
    obtain ⟨hosts, _, performed⟩ := Outcome.bind_eq_ok_iff.mp performed
    rw [← Outcome.pure_eq_ok_iff.mp performed]
    trivial
  · obtain ⟨project, value, hosts, rfl⟩ :=
      exists_of_readIngressEnsure performed
    trivial
  · obtain ⟨project, rfl⟩ := exists_of_readPurge performed
    trivial
  · obtain ⟨fields, _, performed⟩ := Outcome.bind_eq_ok_iff.mp performed
    obtain ⟨project, _, performed⟩ := Outcome.bind_eq_ok_iff.mp performed
    obtain ⟨config, _, performed⟩ := Outcome.bind_eq_ok_iff.mp performed
    rw [← Outcome.pure_eq_ok_iff.mp performed]
    trivial
  · obtain ⟨project, rfl⟩ := exists_of_readPurge performed
    trivial

theorem setIngress_spares_iff {project : String} {value : JSONValue}
    {hosts : Option (List JSONValue)} (equal : String → String → Bool) :
    { database.edgeProject (cString project) with
      hostServices :=
        (edgeProjectMutationSnapshot equal database project).hostServices
      ingress := (edgeProjectMutationSnapshot equal database project).ingress } =
        database.edgeProject (cString project) ↔
      (Change.setIngress project value hosts).Spares equal database := by
  rw [Change.Spares]
  cases database.edgeProject (cString project)
  cases edgeProjectMutationSnapshot equal database project
  simp [and_comm]

theorem replacePortForwards_sameIntents_iff {project stack : String}
    {records : List PortForwardRecord}
    (owns : (Change.replacePortForwards project stack records).OwnsRows)
    (performed : database.replacePortForwards project stack records =
      .ok stored) :
    stored.SameIntents database ↔
      (Change.replacePortForwards project stack records).Spares equal
        database := by
  obtain ⟨sameProjects, members⟩ := replacePortForwards_of_ok performed
  refine (sameIntents_of_projects sameProjects).trans ?_
  constructor
  · intro same row
    constructor
    · intro listed
      exact ⟨(same row).mp ((members row).mpr (.inl listed)), owns row listed⟩
    · rintro ⟨standing, own⟩
      rcases (members row).mp ((same row).mpr standing) with
        listed | ⟨_, foreign⟩
      · exact listed
      · rw [own] at foreign
        cases foreign
  · intro same row
    rw [members]
    constructor
    · rintro (listed | ⟨standing, _⟩)
      · exact ((same row).mp listed).1
      · exact standing
    · intro standing
      cases own : ofStack project stack row with
      | true => exact .inl ((same row).mpr ⟨standing, own⟩)
      | false => exact .inr ⟨standing, rfl⟩

theorem deletePortForwards_sameIntents_iff {project stack : String} :
    (database.deletePortForwards project stack).SameIntents database ↔
      (Change.deletePortForwards project stack).Spares equal database := by
  have reduced : (database.deletePortForwards project stack).SameIntents
      database ↔ _ := sameIntents_of_projects rfl
  refine reduced.trans ?_
  have members : ∀ row, row ∈
      (database.deletePortForwards project stack).ports ↔
        row ∈ database.ports ∧ ofStack project stack row = false := by
    intro row
    rw [deletePortForwards, List.mem_filter, Bool.not_eq_true']
  constructor
  · intro same row standing
    exact ((members row).mp ((same row).mpr standing)).2
  · intro foreign row
    rw [members]
    exact ⟨And.left, fun standing => ⟨standing, foreign row standing⟩⟩

/-- A change spares the intents exactly where it is taken back or asks for
what is stored. -/
theorem left_sameIntents_iff (owns : change.OwnsRows)
    (performed : change.store database = .ok stored) :
    (change.left equal database stored).SameIntents database ↔
      change.Spares equal database := by
  cases change with
  | replacePortForwards project stack records =>
      exact replacePortForwards_sameIntents_iff owns performed
  | deletePortForwards project stack =>
      cases performed
      exact deletePortForwards_sameIntents_iff
  | setDNSRecords project records | purgeDNSRecords project
  | setHostServices project hosts | setOIDC project value
  | purgeOIDC project =>
      cases performed
      refine upsertEdgeProject_sameIntents_iff.trans ?_
      rw [Change.Spares]
      cases database.edgeProject (cString project)
      simp [eq_comm]
  | setIngress project value hosts =>
      cases performed
      refine Iff.trans ?_ (setIngress_spares_iff equal)
      constructor
      · intro kept
        have found := kept.1 (cString project)
        cases hosts <;>
          simpa [Change.left, setEdgeIngress, setEdgeHostServices,
            edgeProject_upsertEdgeProject] using found
      · intro restored
        refine ⟨fun asked => ?_, by cases hosts <;> rfl⟩
        by_cases named : asked = cString project
        · rw [named]
          cases hosts <;>
            simpa [Change.left, setEdgeIngress, setEdgeHostServices,
              edgeProject_upsertEdgeProject] using restored
        · cases hosts <;>
            simp [Change.left, setEdgeIngress, setEdgeHostServices,
              edgeProject_upsertEdgeProject, named]
  | purgeIngress project =>
      cases performed
      have merged := upsertEdgeProject_upsertEdgeProject database project
        (fun row => { row with ingress := none })
        fun row => { row with hostServices := [] }
      have reduced : ((database.setEdgeIngress project none
          ).setEdgeHostServices project []).SameIntents database ↔ _ :=
        ⟨merged.symm.trans, merged.trans⟩
      refine (reduced.trans upsertEdgeProject_sameIntents_iff).trans ?_
      rw [Change.Spares, and_comm]
      cases database.edgeProject (cString project)
      simp [eq_comm]

/-! ## Calls -/

theorem reconcileEdgeThrowing_run (snapshot : JSONValue)
    (reply : EdgeDesired → Except String JSONValue)
    (database : EdgeDatabase) :
    reconcileEdgeThrowing snapshot reply database =
      ((reply (database.desired snapshot)).mapError .runtime,
        database.nextEdgeGeneration) := rfl

theorem reconcileStored_of_ok {edge : JSONValue}
    (accepted : call.reply (stored.desired call.snapshot) = .ok edge)
    (database : EdgeDatabase) (change : Change) :
    reconcileStored equal call database change stored =
      (.ok edge, stored.nextEdgeGeneration) := by
  have ran : reconcileEdgeThrowing call.snapshot call.reply stored =
      (.ok edge, stored.nextEdgeGeneration) := by
    rw [reconcileEdgeThrowing_run, accepted]
    rfl
  cases change with
  | setIngress project value hosts =>
      rw [reconcileStored, Procedure.orElse, ran]
  | _ => exact ran

theorem attempt_reconcile_run (snapshot : JSONValue)
    (reply : EdgeDesired → Except String JSONValue)
    (database : EdgeDatabase) :
    attempt (do
        let _ ← reconcileEdgeThrowing snapshot reply
        pure ⟨⟩) database = (.ok ⟨⟩, database.nextEdgeGeneration) := by
  rw [attempt, Procedure.orElse, bind_run, reconcileEdgeThrowing_run]
  cases reply (database.desired snapshot) with
  | error message => rfl
  | ok edge => rfl

theorem reconcileStored_of_error {message : String}
    (rejected : call.reply (stored.desired call.snapshot) = .error message)
    (database : EdgeDatabase) (change : Change) :
    ∃ reached, reconcileStored equal call database change stored =
        (.error (.runtime message), reached) ∧
      reached.SameIntents (change.left equal database stored) := by
  have ran : reconcileEdgeThrowing call.snapshot call.reply stored =
      (.error (.runtime message), stored.nextEdgeGeneration) := by
    rw [reconcileEdgeThrowing_run, rejected]
    rfl
  cases change with
  | setIngress project value hosts =>
      let before := edgeProjectMutationSnapshot equal database project
      let restored := (stored.nextEdgeGeneration.setEdgeIngress project
        before.ingress).setEdgeHostServices project before.hostServices
      refine ⟨restored.nextEdgeGeneration, ?_, ?_⟩
      · rw [reconcileStored, Procedure.orElse, ran]
        change (attempt _ >>= fun _ => Procedure.fail _) restored = _
        rw [bind_run, attempt_reconcile_run]
        rfl
      · have kept := nextEdgeGeneration_sameIntents stored
        exact (nextEdgeGeneration_sameIntents restored).trans
          ((kept.upsertEdgeProject project _).upsertEdgeProject project _)
  | _ => exact ⟨_, ran, nextEdgeGeneration_sameIntents stored⟩

theorem handle_of_read_error {failure : RPCFailure}
    (misread : read stateDirectory call = .error failure)
    (database : EdgeDatabase) :
    handleEdgeRPC equal stateDirectory call database =
      (.error failure, database) := by
  rw [handleEdgeRPC, bind_run, reading_run, misread]

theorem handle_of_read (performed : read stateDirectory call = .ok change)
    (database : EdgeDatabase) :
    handleEdgeRPC equal stateDirectory call database =
      (writing (fun database => change.store database) >>= fun _ =>
        reconcileStored equal call database change >>= fun edge =>
          reading fun _ => result edge change) database := by
  rw [handleEdgeRPC, bind_run, reading_run, performed]
  rfl

theorem handle_of_store_error {failure : RPCFailure}
    (performed : read stateDirectory call = .ok change)
    (refused : change.store database = .error failure) :
    handleEdgeRPC equal stateDirectory call database =
      (.error failure, database) := by
  rw [handle_of_read performed, bind_run, writing, refused]

theorem handle_of_accepted {edge : JSONValue}
    (performed : read stateDirectory call = .ok change)
    (kept : change.store database = .ok stored)
    (accepted : call.reply (stored.desired call.snapshot) = .ok edge) :
    handleEdgeRPC equal stateDirectory call database =
      (result edge change, stored.nextEdgeGeneration) := by
  rw [handle_of_read performed, writing_bind_run _ kept, bind_run,
    reconcileStored_of_ok accepted]
  rfl

theorem handle_of_rejected {message : String}
    (performed : read stateDirectory call = .ok change)
    (kept : change.store database = .ok stored)
    (rejected : call.reply (stored.desired call.snapshot) = .error message) :
    ∃ reached, handleEdgeRPC equal stateDirectory call database =
        (.error (.runtime message), reached) ∧
      reached.SameIntents (change.left equal database stored) := by
  obtain ⟨reached, ran, same⟩ :=
    reconcileStored_of_error rejected database change
  refine ⟨reached, ?_, same⟩
  rw [handle_of_read performed, writing_bind_run _ kept, bind_run, ran]

/-- vz-edge rejects what the call has it asked for. -/
def Call.rejected (stateDirectory : String) (database : EdgeDatabase)
    (call : Call) : Bool :=
  match read stateDirectory call with
  | .error _ => false
  | .ok change =>
      match change.store database with
      | .error _ => false
      | .ok stored => !(call.reply (stored.desired call.snapshot)).isOk

theorem handle_congr (same : database.SameIntents other) (call : Call) :
    (handleEdgeRPC equal stateDirectory call database).1 =
        (handleEdgeRPC equal stateDirectory call other).1 ∧
      (call.rejected stateDirectory database = false →
        (handleEdgeRPC equal stateDirectory call database).2.SameIntents
          (handleEdgeRPC equal stateDirectory call other).2) := by
  cases performed : read stateDirectory call with
  | error failure =>
      rw [handle_of_read_error performed, handle_of_read_error performed]
      exact ⟨rfl, fun _ => same⟩
  | ok change =>
      have alike := store_alike same change
      cases kept : change.store database with
      | error failure =>
          cases otherKept : change.store other with
          | ok otherStored =>
              rw [kept, otherKept] at alike
              exact alike.elim
          | error otherFailure =>
              rw [kept, otherKept] at alike
              rw [handle_of_store_error performed kept,
                handle_of_store_error performed otherKept]
              exact ⟨congrArg Except.error alike, fun _ => same⟩
      | ok stored =>
          cases otherKept : change.store other with
          | error otherFailure =>
              rw [kept, otherKept] at alike
              exact alike.elim
          | ok otherStored =>
              rw [kept, otherKept] at alike
              have sameDesired := alike.desired_eq call.snapshot
              cases answered : call.reply (stored.desired call.snapshot) with
              | ok edge =>
                  rw [handle_of_accepted performed kept answered,
                    handle_of_accepted performed otherKept
                      (sameDesired ▸ answered)]
                  exact ⟨rfl, fun _ => alike⟩
              | error message =>
                  obtain ⟨reached, ran, _⟩ :=
                    handle_of_rejected performed kept answered
                  obtain ⟨otherReached, otherRan, _⟩ :=
                    handle_of_rejected performed otherKept
                      (sameDesired ▸ answered)
                  rw [ran, otherRan]
                  refine ⟨rfl, fun accepted => ?_⟩
                  simp [Call.rejected, performed, kept, answered] at accepted
                  cases accepted

/-! ## Runs -/

def step (equal : String → String → Bool) (stateDirectory : String)
    (database : EdgeDatabase) (call : Call) : EdgeDatabase :=
  (handleEdgeRPC equal stateDirectory call database).2

/-- A call that is rejected spares the intents. -/
def Call.Spared (equal : String → String → Bool) (stateDirectory : String)
    (database : EdgeDatabase) (call : Call) : Prop :=
  ∀ change, read stateDirectory call = .ok change →
    call.rejected stateDirectory database = true → change.Spares equal database

/-- The calls of a run without those that are rejected in it. -/
def unrejected (equal : String → String → Bool) (stateDirectory : String) :
    EdgeDatabase → List Call → List Call
  | _, [] => []
  | database, call :: rest =>
      let others := unrejected equal stateDirectory
        (step equal stateDirectory database call) rest
      if call.rejected stateDirectory database then others
      else call :: others

theorem exists_of_rejected
    (rejected : call.rejected stateDirectory database = true) :
    ∃ change stored message, read stateDirectory call = .ok change ∧
      change.store database = .ok stored ∧
        call.reply (stored.desired call.snapshot) = .error message := by
  rw [Call.rejected] at rejected
  split at rejected
  · cases rejected
  · rename_i change performed
    split at rejected
    · cases rejected
    · rename_i stored kept
      cases answered : call.reply (stored.desired call.snapshot) with
      | ok edge =>
          rw [answered] at rejected
          cases rejected
      | error message => exact ⟨change, stored, message, performed, kept, answered⟩

theorem step_sameIntents_iff
    (performed : read stateDirectory call = .ok change)
    (rejected : call.rejected stateDirectory database = true) :
    (step equal stateDirectory database call).SameIntents database ↔
      change.Spares equal database := by
  obtain ⟨found, stored, message, reread, kept, answered⟩ :=
    exists_of_rejected rejected
  rw [performed] at reread
  cases reread
  obtain ⟨reached, ran, left⟩ := handle_of_rejected performed kept answered
  rw [step, ran, ← left_sameIntents_iff (ownsRows_of_read performed) kept]
  exact ⟨left.symm.trans, left.trans⟩

theorem foldl_sameIntents {calls : List Call}
    (same : database.SameIntents other)
    (spared : Along (Call.Spared equal stateDirectory) (step equal stateDirectory)
      database calls) :
    (calls.foldl (step equal stateDirectory) database).SameIntents
      ((unrejected equal stateDirectory database calls).foldl (step equal stateDirectory)
        other) := by
  induction calls generalizing database other with
  | nil => exact same
  | cons call rest ih =>
      obtain ⟨callSpared, restSpared⟩ := spared
      rw [List.foldl_cons, unrejected]
      split
      · rename_i rejected
        obtain ⟨change, stored, message, performed, _⟩ :=
          exists_of_rejected rejected
        have kept := (step_sameIntents_iff performed rejected).mpr
          (callSpared change performed rejected)
        exact ih (kept.trans same) restSpared
      · rename_i notRejected
        rw [List.foldl_cons]
        refine ih ((handle_congr same call).2 ?_) restSpared
        exact Bool.eq_false_iff.mpr notRejected

/-- A rejected call leaves every intent as it was exactly when it is taken
back or asks for what is stored.  In a run of which this holds the intents
are those of the run without the rejected calls, and a later call is answered
as after that run. -/
theorem rejected_calls_spare_intents (equal : String → String → Bool)
    (stateDirectory : String) :
    (∀ (database : EdgeDatabase) (call : Call) (change : Change),
      read stateDirectory call = .ok change →
        call.rejected stateDirectory database = true →
          ((step equal stateDirectory database call).SameIntents database ↔
            change.Spares equal database)) ∧
      ∀ (database : EdgeDatabase) (calls : List Call),
        Along (Call.Spared equal stateDirectory) (step equal stateDirectory) database
            calls →
          let reached := calls.foldl (step equal stateDirectory) database
          let other := (unrejected equal stateDirectory database calls).foldl
            (step equal stateDirectory) database
          reached.SameIntents other ∧
            ∀ call, (handleEdgeRPC equal stateDirectory call reached).1 =
              (handleEdgeRPC equal stateDirectory call other).1 := by
  constructor
  · intro database call change performed rejected
    exact step_sameIntents_iff performed rejected
  · intro database calls spared
    have same := foldl_sameIntents (SameIntents.refl database) spared
    exact ⟨same, fun call => (handle_congr same call).1⟩

theorem find_of_plain {database : EdgeDatabase} {project : String}
    (own : ∀ row ∈ database.projects,
      equal row.1 project = true ↔ row.1 = project) :
    (database.projects.find? fun row => equal row.1 project).map Prod.snd =
      database.projects.lookup project := by
  cases found : database.projects.find? fun row => equal row.1 project with
  | none =>
      rw [List.find?_eq_none] at found
      cases held : database.projects.lookup project with
      | none => rfl
      | some row =>
          have member := KeyedList.mem_of_lookup held
          exact absurd ((own _ member).mpr rfl) (found _ member)
  | some row =>
      have member := List.mem_of_find?_eq_some found
      have passes := List.find?_some found
      have named := (own row member).mp passes
      have held := KeyedList.lookup_of_mem database.projectsSorted member
      rw [named] at held
      exact held.symm

/-- An ingress that is rejected is taken back where the name holds no NUL and
is no other spelling of a stored one. -/
theorem spares_of_plain {project : String} {value : JSONValue}
    {hosts : Option (List JSONValue)} (noNul : '\x00' ∉ project.toList)
    (own : ∀ row ∈ database.projects,
      equal row.1 project = true ↔ row.1 = project) :
    (Change.setIngress project value hosts).Spares equal database := by
  have found := find_of_plain own
  rw [Change.Spares, edgeProjectMutationSnapshot, edgeProject,
    cString_of_not_mem noNul, ← found]
  cases database.projects.find? fun row => equal row.1 project with
  | none => rfl
  | some row => rfl

/-! ## Two projects -/

/-- vz-edge takes records that are objects only. -/
def objectsOnly (desired : EdgeDesired) : Except String JSONValue :=
  if desired.dnsRecords.all fun record =>
      match record with
      | .object _ => true
      | _ => false
  then .ok .null
  else .error "expected object"

def recordsCall (project : String) (records : List JSONValue) : Call where
  method := .dnsRecordsEnsure
  params := .object [("project", .string project), ("records", .array records)]
  snapshot := .null
  reply := objectsOnly
  rollbackSnapshot := .null
  rollbackReply := objectsOnly

def ingressCall (project : String) (reply : Except String JSONValue) :
    Call where
  method := .ingressEnsure
  params := .object [("caddyfile", .string "site"), ("project", .string project)]
  snapshot := .null
  reply _ := reply
  rollbackSnapshot := .null
  rollbackReply := objectsOnly

theorem rejected_calls_spare_intents_ingressCall :
    ((step exactly "/state" .empty (recordsCall "web" [.string "a"])).SameIntents
        .empty ↔
      (Change.setDNSRecords "web" [.string "a"]).Spares exactly .empty) ∧
      (step exactly "/state" .empty (ingressCall "web" (.error "busy"))).SameIntents
        .empty ∧
      ∀ call, (handleEdgeRPC exactly "/state" call
          (step exactly "/state" .empty (ingressCall "web" (.error "busy")))).1 =
        (handleEdgeRPC exactly "/state" call .empty).1 := by
  have spared : Call.Spared exactly "/state" .empty
      (ingressCall "web" (.error "busy")) := by
    intro change performed _
    have isChange : change = .setIngress "web" _ none :=
      (Except.ok.inj performed).symm
    rw [isChange]
    exact spares_of_plain (by decide) (by simp [EdgeDatabase.empty])
  exact ⟨(rejected_calls_spare_intents exactly "/state").1 .empty
      (recordsCall "web" [.string "a"]) _ rfl (by decide),
    (rejected_calls_spare_intents exactly "/state").2 .empty
      [ingressCall "web" (.error "busy")] ⟨spared, trivial⟩⟩

/-- A record that vz-edge rejects stays stored, and a call of another project
that was accepted before fails on it. -/
theorem rejected_record_poisons :
    (recordsCall "web" [.string "a"]).rejected "/state" .empty = true ∧
      ¬ (step exactly "/state" .empty (recordsCall "web" [.string "a"])).SameIntents
        .empty ∧
      (handleEdgeRPC exactly "/state" (recordsCall "mail" []) .empty).1.isOk = true ∧
      (handleEdgeRPC exactly "/state" (recordsCall "mail" [])
        (step exactly "/state" .empty (recordsCall "web" [.string "a"]))).1.isOk =
          false := by
  refine ⟨by decide, fun same => ?_, by decide, by decide⟩
  have kept := congrArg EdgeProject.dnsRecords (same.1 "web")
  have stored : ((step exactly "/state" .empty
      (recordsCall "web" [.string "a"])).edgeProject "web").dnsRecords =
        [.string "a"] := by decide
  rw [stored] at kept
  cases kept

-- The name is bound up to its NUL: a rejected call for another name clears the
-- ingress of `web`.
example :
    let stored := step exactly "/state" .empty (ingressCall "web" (.ok .null))
    let call := ingressCall "web\x00x" (.error "busy")
    call.rejected "/state" stored = true ∧
      (stored.edgeProject "web").ingress.isSome = true ∧
      ((step exactly "/state" stored call).edgeProject "web").ingress =
        none := by
  decide +kernel

end EdgeRPC

end Vzctl
