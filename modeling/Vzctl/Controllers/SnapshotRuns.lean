import Vzctl.Controllers.ClaimStatus
import Vzctl.Lib.Outcome
import Vzctl.Lib.PartialMap

/-!
# What the snapshot remembers

Over every sequence of reconciles the snapshot keeps each claim with what was
provisioned for it, and `status` reports the same claims, as long as no record
is cut off and no rejected source stands in for a record with data.
-/

namespace Vzctl

namespace ClaimStatus

open ClaimDiscovery
open EdgeClaims (ControllerError)

/-! ## Records and history -/

/-- The records of a project say what was last recorded, each under its own
name, and the snapshot has each name once. -/
structure Consistent (project : Project) : Prop where
  named : ∀ name record, project.records name = some record →
    record.name = name
  current : ∀ name, project.provisioned name = project.lastRecorded name
  distinct : project.claimNames.Nodup

theorem consistent_empty : Consistent Project.empty where
  named := fun _ _ found => nomatch found
  current := fun _ => rfl
  distinct := List.nodup_nil

theorem claimRecord_provisioned (name : String) (claim : ClaimConfig)
    (source : Option Source) (previous : Option ClaimRecord)
    (desired : String) (observed : Nat)
    (result : Except ControllerError ReconcileResult) :
    let record :=
      claimRecord name claim source previous desired observed result
    record.name = name ∧
      (record.state = .ready ∨
        record.toProvisioned =
          (previous.map ClaimRecord.toProvisioned).getD nothing) := by
  cases result with
  | ok result => exact ⟨rfl, .inl rfl⟩
  | error error => exact ⟨rfl, .inr rfl⟩

theorem name_of_reconcileClaim {hashes : Hashes} {environment : Environment}
    {sources : List Source} {name : String} {claim : ClaimConfig}
    {previous : Option ClaimRecord} {answers : ClaimAnswers}
    {record : ClaimRecord} {warnings : List ListingWarning}
    (reconciled : reconcileClaim hashes environment sources name claim
      previous answers = .ok (record, warnings)) :
    record.name = name ∧
      (record.state = .ready ∨
        record.toProvisioned =
          (previous.map ClaimRecord.toProvisioned).getD nothing) := by
  rw [reconcileClaim] at reconciled
  obtain ⟨_, _, reconciled⟩ := Outcome.bind_eq_ok_iff.mp reconciled
  obtain ⟨_, _, reconciled⟩ := Outcome.bind_eq_ok_iff.mp reconciled
  obtain ⟨_, _, reconciled⟩ := Outcome.bind_eq_ok_iff.mp reconciled
  rw [Except.ok.injEq, Prod.mk.injEq] at reconciled
  rw [← reconciled.1]
  exact claimRecord_provisioned ..

namespace Consistent

variable {project : Project} {record : ClaimRecord}

theorem provisioned_eq (name : String) :
    ((project.records name).map ClaimRecord.toProvisioned).getD nothing =
      project.provisioned name := by
  rw [Project.provisioned]
  cases project.records name <;> rfl

theorem writeRecord (consistent : Consistent project)
    (kept : record.state = .ready ∨
      record.toProvisioned = project.provisioned record.name) :
    Consistent (project.writeRecord record) where
  named := by
    intro name written found
    rcases PartialMap.of_update_eq_some found with
      ⟨same, rfl⟩ | ⟨_, earlier⟩
    · exact same.symm
    · exact consistent.named name written earlier
  current := by
    intro name
    have before := consistent.current name
    by_cases same : name = record.name
    · have written : (project.writeRecord record).provisioned name =
          record.toProvisioned := by
        simp [Project.provisioned, Project.writeRecord, same]
      rw [written]
      by_cases ready : record.state = .ready
      · simp [Project.lastRecorded, Project.writeRecord, ready, same]
      · rw [same] at before
        have unchanged :=
          (kept.resolve_left ready).trans before
        simpa [Project.lastRecorded, Project.writeRecord, ready, same]
          using unchanged
    · have missed : (name == record.name) = false :=
        beq_eq_false_iff_ne.mpr same
      have written : (project.writeRecord record).provisioned name =
          project.provisioned name := by
        simp [Project.provisioned, Project.writeRecord, same]
      rw [written, before]
      by_cases ready : record.state = .ready
      · simp [Project.lastRecorded, Project.writeRecord, ready, missed,
          List.lookup_cons]
      · simp [Project.lastRecorded, Project.writeRecord, ready]
  distinct := consistent.distinct

end Consistent

/-! ## The claims of a run -/

/-- The records of a run are those in the files. -/
structure Progress.Consistent (progress : Progress) : Prop where
  project : ClaimStatus.Consistent progress.project
  written : ∀ record ∈ progress.claims,
    progress.project.records record.name = some record

section Claims

theorem Progress.Consistent.write {progress : Progress}
    {record : ClaimRecord} (consistent : progress.Consistent)
    (new : record.name ∉ progress.claims.map ClaimRecord.name)
    (kept : record.state = .ready ∨ record.toProvisioned =
      progress.project.provisioned record.name)
    (warnings : List ListingWarning) :
    Progress.Consistent ⟨progress.project.writeRecord record,
      progress.claims ++ [record], warnings⟩ where
  project := consistent.project.writeRecord kept
  written := by
    intro other member
    rcases List.mem_append.mp member with earlier | last
    · have different : other.name ≠ record.name := fun same =>
        new (same ▸ List.mem_map_of_mem earlier)
      exact (Function.update_of_ne different ..).trans
        (consistent.written other earlier)
    · rw [List.mem_singleton.mp last]
      exact Function.update_self ..

/-- What the claims of a run leave behind. -/
structure Advanced (entries : List (String × ClaimConfig))
    (before after : Progress) (failure : Option ControllerError) : Prop where
  consistent : after.Consistent
  snapshot : after.project.snapshot = before.project.snapshot
  names : failure = none → after.claims.map ClaimRecord.name =
    before.claims.map ClaimRecord.name ++ entries.map Prod.fst

theorem advanced_reconcileClaims (hashes : Hashes) (run : Run)
    (found : Discovery) {entries : List (String × ClaimConfig)}
    {progress : Progress} (consistent : progress.Consistent)
    (nodup : (progress.claims.map ClaimRecord.name ++
      entries.map Prod.fst).Nodup) :
    Advanced entries progress
      (reconcileClaims hashes run found entries progress).1
      (reconcileClaims hashes run found entries progress).2 := by
  induction entries generalizing progress with
  | nil =>
      exact ⟨consistent, rfl, fun _ => (List.append_nil _).symm⟩
  | cons entry rest ih =>
      obtain ⟨name, claim⟩ := entry
      rw [reconcileClaims]
      split
      · exact ⟨consistent, rfl, fun failed => nomatch failed⟩
      · rename_i record warnings reconciled
        obtain ⟨rfl, kept⟩ := name_of_reconcileClaim reconciled
        rw [Consistent.provisioned_eq] at kept
        rw [List.map_cons, List.append_cons] at nodup
        have extended : (progress.claims ++ [record]).map ClaimRecord.name =
            progress.claims.map ClaimRecord.name ++ [record.name] :=
          List.map_append
        have new : record.name ∉ progress.claims.map ClaimRecord.name := by
          have front := (List.nodup_append.mp nodup).1
          exact List.disjoint_singleton.mp (List.disjoint_of_nodup_append front)
        rw [← extended] at nodup
        have rest := ih
          (consistent.write new kept (progress.warnings ++ warnings)) nodup
        refine ⟨rest.consistent, rest.snapshot, fun finished => ?_⟩
        rw [rest.names finished, extended, List.map_cons, List.append_assoc,
          List.singleton_append]

end Claims

/-! ## One run -/

/-- The names of the claims that a run reconciles. -/
def liveNames (imports : Import) (run : Run) : List String :=
  (run.discovered imports).projected.claimNames

/-- The names under which a run records rejected sources. -/
def rejectedClaims (imports : Import) (run : Run) : List String :=
  rejectedNames (run.discovered imports).sources

/-- A run loses nothing: rejected sources have names of their own, none of
them has the name of a record with data, and every record of the last
snapshot after those that are looked at belongs to a claim of this run. -/
structure Lossless (imports : Import) (project : Project) (run : Run) :
    Prop where
  apart : (liveNames imports run ++ rejectedClaims imports run).Nodup
  replaced : ∀ old ∈ project.claims,
    old.name ∈ rejectedClaims imports run → old.toProvisioned = nothing
  covered : ∀ old ∈ project.claims.drop snapshotLimit,
    old.name ∈ liveNames imports run ++ rejectedClaims imports run

/-- `status` answers for a stack with the records of its claims and of those
in the snapshot, each once. -/
def ReportsNames (hashes : Hashes) (environment : Environment)
    (project : Project) : Prop :=
  ∀ reads : Reads, (∀ name, reads.record name = .ok ⟨⟩) →
    reads.snapshot = .ok ⟨⟩ →
    ∃ report, status hashes environment reads project = .ok report ∧
      (report.claims.map ClaimRecord.name).Nodup ∧
      ∀ name, name ∈ report.claims.map ClaimRecord.name ↔
        name ∈ environment.claimNames ∨ name ∈ project.claimNames

/-- The next snapshot has the claims of the last one and those of the stack;
what it says of a claim is what the last one said, or what was recorded for
it last. -/
structure Remembers (imports : Import) (run : Run) (before after : Project) :
    Prop where
  kept : ∀ old ∈ before.claims, ∃ new ∈ after.claims, new.name = old.name ∧
    (new.toProvisioned = old.toProvisioned ∨
      new.toProvisioned = after.lastRecorded old.name) ∧
    (old.name ∉ liveNames imports run →
      new.state = .retained ∨ new.state = .degraded)
  declared : ∀ name ∈ run.environment.claimNames, name ∈ after.claimNames

section OneRun

variable {imports : Import} {hashes : Hashes} {run : Run}
  {project : Project}

theorem retain_name (warnings : List ListingWarning) (old : ClaimRecord) :
    (retain warnings old).name = old.name := by
  rw [retain]
  split <;> rfl

theorem retain_provisioned (warnings : List ListingWarning)
    (old : ClaimRecord) :
    (retain warnings old).toProvisioned = old.toProvisioned := by
  rw [retain]
  split <;> rfl

theorem retain_state (warnings : List ListingWarning) (old : ClaimRecord) :
    (retain warnings old).state = .retained ∨
      (retain warnings old).state = .degraded := by
  rw [retain]
  split
  · exact .inl rfl
  · exact .inr rfl

theorem rejectedRecord_names (run : Run) (sources : List Source) :
    (sources.filterMap (rejectedRecord run)).map ClaimRecord.name =
      rejectedNames sources := by
  induction sources with
  | nil => rfl
  | cons source rest ih =>
      rw [← List.singleton_append, rejectedNames_append,
        List.filterMap_append, List.map_append, ih]
      congr 1
      cases reason : source.validationError with
      | none => simp [rejectedRecord, rejectedNames, reason]
      | some reason => simp [rejectedRecord, rejectedNames, reason]

theorem rejectedRecord_degraded {source : Source} {record : ClaimRecord}
    (rejected : rejectedRecord run source = some record) :
    record.toProvisioned = nothing ∧ record.state = .degraded := by
  obtain ⟨reason, _, rfl⟩ := Option.map_eq_some_iff.mp rejected
  exact ⟨rfl, rfl⟩

theorem prepare_discovered {found : Discovery}
    (prepared : prepare imports run = .ok found) :
    found = run.discovered imports := by
  rw [prepare] at prepared
  obtain ⟨_, _, prepared⟩ := Outcome.bind_eq_ok_iff.mp prepared
  obtain ⟨_, _, prepared⟩ := Outcome.bind_eq_ok_iff.mp prepared
  obtain ⟨listed, discovered, prepared⟩ := Outcome.bind_eq_ok_iff.mp prepared
  obtain ⟨_, _, prepared⟩ := Outcome.bind_eq_ok_iff.mp prepared
  rw [← Except.ok.inj prepared]
  rw [discover] at discovered
  split at discovered
  · exact (Except.ok.inj discovered).symm
  · cases discovered

/-- How a run ends: it stops, or it publishes the records of its claims, of
the rejected sources and of the last snapshot. -/
theorem reconcileGuarded_cases (imports : Import) (hashes : Hashes)
    (run : Run) (consistent : Consistent project) :
    let ended := reconcileGuarded imports hashes run project
    ((∃ failure, ended.2 = .error failure) ∧ Consistent ended.1 ∧
        ended.1.snapshot = project.snapshot) ∨
      ∃ (progress : Progress) (snapshot : Snapshot)
        (warnings : List ListingWarning),
        ended = (progress.project.publish snapshot, .ok snapshot) ∧
        progress.Consistent ∧
        progress.claims.map ClaimRecord.name = liveNames imports run ∧
        snapshot.claims = mergeClaims project (progress.claims ++
          (run.discovered imports).sources.filterMap (rejectedRecord run))
          warnings := by
  simp only [reconcileGuarded]
  split
  · rename_i failure _
    exact .inl ⟨⟨failure, rfl⟩, consistent, rfl⟩
  · rename_i found prepared
    rw [prepare_discovered prepared]
    have start : Progress.Consistent ⟨project, [],
        (run.discovered imports).warnings ++ run.edgeWarnings⟩ :=
      ⟨consistent, fun _ member => nomatch member⟩
    have advanced := advanced_reconcileClaims hashes run
      (run.discovered imports) start
      (run.discovered imports).projected.nodup_claimNames
    split
    · rename_i progress failure performed
      rw [performed] at advanced
      exact .inl ⟨⟨failure, rfl⟩, advanced.consistent.project,
        advanced.snapshot⟩
    · rename_i progress performed
      rw [performed] at advanced
      have same : progress.project.claims = project.claims := by
        rw [Project.claims, Project.claims, advanced.snapshot]
      rw [publish]
      split
      · rename_i failure _
        exact .inl ⟨⟨failure, rfl⟩, advanced.consistent.project,
          advanced.snapshot⟩
      · refine .inr ⟨progress, _, progress.warnings ++
          rejectionWarnings run (run.discovered imports).sources, rfl,
          advanced.consistent, advanced.names rfl, ?_⟩
        rw [newSnapshot, mergeClaims, same]
        rfl

theorem freshNames {claims : List ClaimRecord}
    (names : claims.map ClaimRecord.name = liveNames imports run) :
    (claims ++ (run.discovered imports).sources.filterMap
        (rejectedRecord run)).map ClaimRecord.name =
      liveNames imports run ++ rejectedClaims imports run := by
  rw [List.map_append, names, rejectedRecord_names]
  rfl

theorem remembers_mergeClaims (consistent : Consistent project)
    (lossless : Lossless imports project run) {progress : Progress}
    (advanced : progress.Consistent)
    (names : progress.claims.map ClaimRecord.name = liveNames imports run)
    {warnings : List ListingWarning} {snapshot : Snapshot}
    (merged : snapshot.claims = mergeClaims project (progress.claims ++
      (run.discovered imports).sources.filterMap (rejectedRecord run))
      warnings) :
    let after := progress.project.publish snapshot
    after.claimNames.Nodup ∧ Remembers imports run project after := by
  intro after
  have merged : after.claims = _ := merged
  have nodup : after.claimNames.Nodup := by
    rw [Project.claimNames, merged]
    refine CarryOver.nodup_keys_carryOver (retain_name warnings) ?_
    rw [freshNames names]
    exact lossless.apart
  have listed (name : String) : name ∈ after.claimNames ↔
      name ∈ liveNames imports run ++ rejectedClaims imports run ∨
        name ∈ (project.claims.take snapshotLimit).map
          ClaimRecord.name := by
    rw [Project.claimNames, merged, mergeClaims,
      CarryOver.mem_keys_carryOver (retain_name warnings), freshNames names]
  refine ⟨nodup, ?_, ?_⟩
  · intro old member
    have there : old.name ∈ after.claimNames := by
      rw [listed]
      rw [← List.take_append_drop snapshotLimit project.claims,
        List.mem_append] at member
      rcases member with early | late
      · exact .inr (List.mem_map_of_mem early)
      · exact .inl (lossless.covered old late)
    obtain ⟨new, newMember, same⟩ := List.mem_map.mp there
    refine ⟨new, newMember, same, ?_⟩
    rw [merged] at newMember
    -- A record is that of a live claim, of a rejected source, or taken over.
    rcases CarryOver.mem_of_mem_carryOver (retain_name warnings) newMember with
      fresh | ⟨earlier, earlierMember, rfl, _⟩
    · rcases List.mem_append.mp fresh with live | rejected
      · have recorded := advanced.project.current new.name
        rw [Project.provisioned, advanced.written new live, same]
          at recorded
        refine ⟨.inr recorded, fun undeclared => ?_⟩
        rw [← same, ← names] at undeclared
        exact (undeclared (List.mem_map_of_mem live)).elim
      · obtain ⟨source, _, recorded⟩ := List.mem_filterMap.mp rejected
        have facts := rejectedRecord_degraded recorded
        have named : old.name ∈ rejectedClaims imports run := by
          rw [← same, rejectedClaims, ← rejectedRecord_names run]
          exact List.mem_map_of_mem rejected
        refine ⟨.inl ?_, fun _ => .inr facts.2⟩
        rw [facts.1, lossless.replaced old member named]
    · rw [retain_name] at same
      have only : earlier = old :=
        List.inj_on_of_nodup_map consistent.distinct
          (List.mem_of_mem_take earlierMember) member same
      rw [only]
      exact ⟨.inl (retain_provisioned warnings old),
        fun _ => retain_state warnings old⟩
  · intro name member
    rw [listed, List.mem_append]
    exact .inl (covers_discovered name member)

theorem reconcileGuarded_consistent (hashes : Hashes)
    (consistent : Consistent project)
    (lossless : Lossless imports project run) :
    let ended := reconcileGuarded imports hashes run project
    Consistent ended.1 ∧
      match ended.2 with
      | .error _ => ended.1.snapshot = project.snapshot
      | .ok snapshot => ended.1.snapshot = some snapshot ∧
          Remembers imports run project ended.1 := by
  rcases reconcileGuarded_cases imports hashes run consistent with
    ⟨⟨failure, failed⟩, kept, unchanged⟩ |
      ⟨progress, snapshot, warnings, ended, advanced, names, merged⟩
  · dsimp only
    rw [failed]
    exact ⟨kept, unchanged⟩
  · rw [ended]
    obtain ⟨nodup, remembers⟩ := remembers_mergeClaims consistent lossless
      advanced names merged
    exact ⟨⟨advanced.project.named, advanced.project.current, nodup⟩, rfl,
      remembers⟩

end OneRun

/-! ## Reports -/

theorem reportOther_name (hashes : Hashes) (environment : Environment)
    (stackHash : Option String) (old : ClaimRecord) :
    (reportOther hashes environment stackHash old).name = old.name := by
  rw [reportOther]
  split
  · rfl
  · split <;> rfl

section Reports

variable {hashes : Hashes} {environment : Environment} {reads : Reads}
  {project : Project}

theorem declaredRecord_named (consistent : Consistent project)
    {entry : String × ClaimConfig} {record : ClaimRecord}
    (declared : declaredRecord hashes environment reads project entry =
      .ok record) :
    record.name = entry.1 := by
  rw [declaredRecord] at declared
  split at declared
  · rw [← Except.ok.inj declared]
    rfl
  · rename_i held found
    obtain ⟨_, _, declared⟩ := Outcome.bind_eq_ok_iff.mp declared
    have named := consistent.named entry.1 held found
    split at declared
    · rw [← Except.ok.inj declared, named]
    · rw [← Except.ok.inj declared]
      exact named

theorem declaredRecord_isOk (hashes : Hashes) (environment : Environment)
    (project : Project) (readable : ∀ name, reads.record name = .ok ⟨⟩)
    (entry : String × ClaimConfig) :
    (declaredRecord hashes environment reads project entry).isOk = true := by
  rw [declaredRecord]
  split
  · rfl
  · rw [readable]
    simp only [bind, Except.bind]
    split <;> rfl

theorem declaredRecords (hashes : Hashes) (environment : Environment)
    (consistent : Consistent project)
    (readable : ∀ name, reads.record name = .ok ⟨⟩) :
    ∃ declared, environment.serviceClaims.mapM
        (declaredRecord hashes environment reads project) = .ok declared ∧
      declared.map ClaimRecord.name = environment.claimNames := by
  cases performed : environment.serviceClaims.mapM
      (declaredRecord hashes environment reads project) with
  | ok declared =>
      refine ⟨declared, rfl, Outcome.map_eq_of_mapM ?_ performed⟩
      intro entry _ record
      exact declaredRecord_named consistent
  | error failure =>
      obtain ⟨_, entry, _, _, _, failed⟩ :=
        Outcome.mapM_eq_error_iff.mp performed
      have fine :=
        declaredRecord_isOk hashes environment project readable entry
      rw [failed] at fine
      cases fine

/-- A report has the claims of the stack and of the snapshot, when those that
are not looked at are claims of the stack. -/
theorem reportsNames (consistent : Consistent project)
    (covered : ∀ old ∈ project.claims.drop snapshotLimit,
      old.name ∈ environment.claimNames) :
    ReportsNames hashes environment project := by
  intro reads readable snapshotReadable
  obtain ⟨declared, performed, names⟩ := declaredRecords hashes
    environment consistent readable
  have read : readIfPresent project.snapshot reads.snapshot = .ok ⟨⟩ := by
    rw [readIfPresent, snapshotReadable, ite_self]
  have sameName := reportOther_name hashes environment
    (project.snapshot.map Snapshot.stackHash)
  rw [status, performed]
  simp only [bind, Except.bind]
  rw [read]
  refine ⟨_, rfl, ?_, ?_⟩
  · refine CarryOver.nodup_keys_carryOver sameName ?_
    rw [names]
    exact environment.nodup_claimNames
  · intro name
    rw [CarryOver.mem_keys_carryOver sameName, names]
    constructor
    · rintro (declared | old)
      · exact .inl declared
      · obtain ⟨record, member, rfl⟩ := List.mem_map.mp old
        exact .inr (List.mem_map_of_mem (List.mem_of_mem_take member))
    · rintro (declared | old)
      · exact .inl declared
      · obtain ⟨record, member, rfl⟩ := List.mem_map.mp old
        rw [← List.take_append_drop snapshotLimit project.claims,
          List.mem_append] at member
        rcases member with early | late
        · exact .inr (List.mem_map_of_mem early)
        · exact .inl (covered record late)

end Reports

/-! ## All runs -/

/-- The project after a run. -/
def step (imports : Import) (hashes : Hashes) (project : Project)
    (run : Run) : Project :=
  (reconcileGuarded imports hashes run project).1

/-- A project that lossless runs lead to. -/
def Reached (imports : Import) (hashes : Hashes) : Project → Prop :=
  Transitions.Runs
    (Transitions.guarded (Lossless imports)
      (Transitions.ofFunction (step imports hashes)))
    Project.empty

section AllRuns

variable {imports : Import} {hashes : Hashes} {project : Project}

theorem consistent_of_reached (reached : Reached imports hashes project) :
    Consistent project := by
  refine Transitions.invariant_of_runs Consistent ?_ consistent_empty reached
  rintro before run after consistent ⟨lossless, rfl⟩
  exact (reconcileGuarded_consistent hashes consistent lossless).1

/-- After every sequence of lossless runs, one more leaves the last snapshot
or publishes one that remembers each of its claims; no name occurs twice, and
the claims are those that `status` reports. -/
theorem snapshot_remembers (reached : Reached imports hashes project)
    (run : Run) (lossless : Lossless imports project run) :
    let next := step imports hashes project run
    (match (reconcileGuarded imports hashes run project).2 with
      | .error _ => next.snapshot = project.snapshot
      | .ok snapshot => next.snapshot = some snapshot ∧
          Remembers imports run project next) ∧
      next.claimNames.Nodup ∧
      ∀ environment : Environment,
        (∀ old ∈ next.claims.drop snapshotLimit,
          old.name ∈ environment.claimNames) →
        ReportsNames hashes environment next := by
  have outcome := reconcileGuarded_consistent hashes
    (consistent_of_reached reached) lossless
  exact ⟨outcome.2, outcome.1.distinct,
    fun environment covered => reportsNames outcome.1 covered⟩

end AllRuns

/-! ## Answered runs -/

/-- A run from the command line that is answered everything. -/
structure Answered (imports : Import) (run : Run) : Prop where
  valid : imports.validateConfig run.environment = true
  opened : run.opened = .ok ⟨⟩
  registration : run.registration = .unregistered
  registrationAfter : run.registrationAfter = .unregistered
  claims : ∀ name, (run.answers name).registration = .unregistered ∧
    (run.answers name).recordRead = .ok ⟨⟩ ∧
    (run.answers name).recordWritten = .ok ⟨⟩
  snapshotRead : run.snapshotRead = .ok ⟨⟩
  snapshotWritten : run.snapshotWritten = .ok ⟨⟩

section Answered

variable {imports : Import} {hashes : Hashes} {run : Run}
  {project : Project}

theorem reconcileClaims_of_answered (hashes : Hashes)
    (answered : Answered imports run) (found : Discovery) (entries : List (String × ClaimConfig))
    (progress : Progress) :
    (reconcileClaims hashes run found entries progress).2 = none := by
  induction entries generalizing progress with
  | nil => rfl
  | cons entry rest ih =>
      obtain ⟨name, claim⟩ := entry
      obtain ⟨registered, read, written⟩ := answered.claims name
      have readable : readIfPresent (progress.project.records name)
          (run.answers name).recordRead = .ok ⟨⟩ := by
        rw [readIfPresent, read, ite_self]
      rw [reconcileClaims, reconcileClaim, registered, readable, written]
      exact ih _

theorem isOk_of_answered (hashes : Hashes) (project : Project)
    (answered : Answered imports run) :
    (reconcileGuarded imports hashes run project).2.isOk = true := by
  have prepared : prepare imports run = .ok (run.discovered imports) := by
    rw [prepare, answered.opened, answered.registration,
      answered.registrationAfter, discover, if_pos answered.valid]
    rfl
  rw [reconcileGuarded, prepared]
  dsimp only
  have finished := reconcileClaims_of_answered hashes answered
    (run.discovered imports) (run.discovered imports).projected.serviceClaims
    ⟨project, [], (run.discovered imports).warnings ++ run.edgeWarnings⟩
  split
  · rename_i progress failure performed
    rw [performed] at finished
    cases finished
  · rename_i progress performed
    have readable : readIfPresent progress.project.snapshot
        run.snapshotRead = .ok ⟨⟩ := by
      rw [readIfPresent, answered.snapshotRead, ite_self]
    rw [publish, readable, answered.snapshotWritten]
    rfl

theorem mem_claimNames_of_answered (consistent : Consistent project)
    (answered : Answered imports run) (name : String) :
    name ∈ (step imports hashes project run).claimNames ↔
      name ∈ liveNames imports run ++ rejectedClaims imports run ∨
        name ∈ project.claimNames.take snapshotLimit := by
  rcases reconcileGuarded_cases imports hashes run consistent with
    ⟨⟨failure, failed⟩, _⟩ |
      ⟨progress, snapshot, warnings, ended, _, names, merged⟩
  · have fine := isOk_of_answered hashes project answered
    rw [failed] at fine
    cases fine
  · rw [step, ended, Project.claimNames, Project.claimNames,
      ← List.map_take]
    have after : (progress.project.publish snapshot).claims = _ := merged
    rw [after, mergeClaims, CarryOver.mem_keys_carryOver
      (retain_name warnings), freshNames names]

end Answered

/-! ## Two samples -/

def sampleImport : Import where
  validateConfig := fun _ => true
  importObject := fun _ cluster _ _ =>
    (⟨"", cluster, "", "", "", 0, "", none⟩,
      .error ⟨"InvalidKubernetesClaim", ""⟩)

def sampleHashes : Hashes where
  stackHash := fun environment => environment.project
  desiredHash := fun _ claim => claim.database.getD ""

def sampleEnvironment : Environment where
  project := "lab"
  vms := [("db", ["lan"])]
  clusters := []
  serviceProviders :=
    [("database", ⟨.postgres, some "db", some "127.0.0.1:5432"⟩)]
  serviceClaims := []
  sorted := KeyedList.sorted_nil

def sampleClaim (database : String) : ClaimConfig where
  kind := .postgres
  provider := some "database"
  database := some database
  bucket := none
  clientID := none
  host := none
  consumers := []

def sampleRun (environment : Environment) : Run where
  environment := environment
  opened := .ok ⟨⟩
  registration := .unregistered
  listings := fun _ _ => .ok (.object [("items", .array [])])
  registrationAfter := .unregistered
  edgeWarnings := []
  answers := fun name =>
    { registration := .unregistered
      recordRead := .ok ⟨⟩
      edge := none
      provided := .ok ⟨true, [("host", "127.0.0.1")], .string name⟩
      delivered := .ok ⟨⟩
      observed := 1
      statusUpdated := .ok ⟨⟩
      recordWritten := .ok ⟨⟩ }
  rejections := fun _ => ⟨1, .ok ⟨⟩⟩
  snapshotRead := .ok ⟨⟩
  snapshotWritten := .ok ⟨⟩
  observed := 1

theorem answered_sampleRun (environment : Environment) :
    Answered sampleImport (sampleRun environment) :=
  ⟨rfl, rfl, rfl, rfl, fun _ => ⟨rfl, rfl, rfl⟩, rfl, rfl⟩

/-- The claim of a first run is removed before the second. -/
theorem snapshot_remembers_removedClaim :
    let first := sampleRun (sampleEnvironment.insertClaim "app-db"
      (sampleClaim "app"))
    let project :=
      step sampleImport sampleHashes Project.empty first
    let second := sampleRun sampleEnvironment
    let next := step sampleImport sampleHashes project second
    (match (reconcileGuarded sampleImport sampleHashes second project).2 with
      | .error _ => next.snapshot = project.snapshot
      | .ok snapshot => next.snapshot = some snapshot ∧
          Remembers sampleImport second project next) ∧
      next.claimNames.Nodup ∧
      ∀ environment : Environment,
        (∀ old ∈ next.claims.drop snapshotLimit,
          old.name ∈ environment.claimNames) →
        ReportsNames sampleHashes environment next := by
  intro first project second
  have reached : Reached sampleImport sampleHashes project := by
    have lossless : Lossless sampleImport Project.empty first :=
      ⟨List.nodup_singleton _, fun _ member => (nomatch member),
        fun _ member => nomatch member⟩
    have move : Transitions.guarded (Lossless sampleImport)
        (Transitions.ofFunction (step sampleImport sampleHashes))
        Project.empty first project := ⟨lossless, rfl⟩
    exact (Transitions.Runs.refl Project.empty).snoc move
  refine snapshot_remembers reached second ⟨List.nodup_nil, ?_, ?_⟩
  · exact fun _ _ member => nomatch member
  · exact fun _ member => nomatch member

def manyName (index : Nat) : String :=
  String.ofList ("claim-".toList ++ Nat.toDigits 10 index)

def insertMany (indices : List Nat) (environment : Environment) :
    Environment :=
  indices.foldl (fun environment index =>
    environment.insertClaim (manyName index)
      (sampleClaim (String.ofList ("app".toList ++ Nat.toDigits 10 index))))
    environment

/-- 513 claims. -/
def manyClaims : Environment :=
  insertMany (List.range 513) sampleEnvironment

theorem manyName_injective : Function.Injective manyName := by
  intro first second same
  have digits := List.append_cancel_left (String.ofList_injective same)
  have parsed := Decimal.parse_toDigits first
  rw [digits, Decimal.parse_toDigits second] at parsed
  exact (Option.some.inj parsed).symm

theorem discovered_of_clusters {environment : Environment}
    (none : environment.clusters = []) :
    (sampleRun environment).discovered sampleImport =
      ⟨environment, [], [], []⟩ := by
  rw [Run.discovered, discovered, discoverClusters]
  have same : (sampleRun environment).environment.clusters = [] := none
  rw [same]
  rfl

theorem clusters_insertMany (indices : List Nat)
    (environment : Environment) :
    (insertMany indices environment).clusters = environment.clusters := by
  induction indices generalizing environment with
  | nil => rfl
  | cons index rest ih => exact ih _

theorem manyName_mem_insertMany {index : Nat} {indices : List Nat}
    {environment : Environment}
    (member : index ∈ indices ∨ manyName index ∈ environment.claimNames) :
    manyName index ∈ (insertMany indices environment).claimNames := by
  induction indices generalizing environment with
  | nil => exact member.resolve_left List.not_mem_nil
  | cons first rest ih =>
      refine ih ?_
      rcases member with member | member
      · rcases List.mem_cons.mp member with rfl | later
        · exact .inr (KeyedList.mem_keys_insertKey.mpr (.inl rfl))
        · exact .inl later
      · exact .inr (KeyedList.mem_keys_insertKey.mpr (.inr member))

theorem clusters_manyClaims : manyClaims.clusters = [] :=
  clusters_insertMany (List.range 513) sampleEnvironment

theorem manyName_mem {index : Nat} (below : index < 513) :
    manyName index ∈ manyClaims.claimNames :=
  manyName_mem_insertMany (.inl (List.mem_range.mpr below))

/-- After a run with more claims than a snapshot is read for and one without,
some claim is gone. -/
theorem forgotten_of_many {environment : Environment}
    (unclustered : environment.clusters = [])
    (many : ∀ index < 513, manyName index ∈ environment.claimNames) :
    let first := step sampleImport sampleHashes Project.empty
      (sampleRun environment)
    let second := step sampleImport sampleHashes first
      (sampleRun sampleEnvironment)
    ∃ name ∈ first.claimNames, name ∉ second.claimNames := by
  intro first second
  have lossless : Lossless sampleImport Project.empty
      (sampleRun environment) := by
    refine ⟨?_, fun _ member => (nomatch member),
      fun _ member => nomatch member⟩
    rw [liveNames, rejectedClaims,
      discovered_of_clusters unclustered, rejectedNames]
    simpa using environment.nodup_claimNames
  have consistent : Consistent first :=
    (reconcileGuarded_consistent sampleHashes consistent_empty lossless).1
  have ofFirst : ∀ index < 513, manyName index ∈ first.claimNames := by
    intro index below
    refine (mem_claimNames_of_answered consistent_empty
      (answered_sampleRun environment) _).mpr (.inl ?_)
    rw [liveNames, discovered_of_clusters unclustered]
    exact List.mem_append_left _ (many index below)
  have ofSecond : ∀ name ∈ second.claimNames,
      name ∈ first.claimNames.take snapshotLimit := by
    intro name member
    rcases (mem_claimNames_of_answered consistent
      (answered_sampleRun sampleEnvironment) name).mp member with new | old
    · cases new
    · exact old
  by_contra allKept
  push Not at allKept
  -- 513 names among 512 records.
  have subset : (List.range 513).map manyName ⊆
      first.claimNames.take snapshotLimit := by
    intro name member
    obtain ⟨index, below, rfl⟩ := List.mem_map.mp member
    exact ofSecond _ (allKept _ (ofFirst index (List.mem_range.mp below)))
  have nodup : ((List.range 513).map manyName).Nodup :=
    List.nodup_range.map manyName_injective
  have fits := (List.subperm_of_subset nodup subset).length_le
  rw [List.length_map, List.length_range, List.length_take] at fits
  have limit : snapshotLimit = 512 := rfl
  omega

theorem manyClaims_forgotten :
    let first := step sampleImport sampleHashes Project.empty
      (sampleRun manyClaims)
    let second := step sampleImport sampleHashes first
      (sampleRun sampleEnvironment)
    ∃ name ∈ first.claimNames, name ∉ second.claimNames :=
  forgotten_of_many clusters_manyClaims fun _ => manyName_mem

end ClaimStatus

end Vzctl
