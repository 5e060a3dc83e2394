import Vzctl.Reconciler.Inputs

/-!
# The closure of the Compose files

The recursion of `collect_compose_inputs` as a run of a search, whether it ends
with a set or at a file that cannot be read.  A Compose file that is met after
it was recorded in another role is skipped, and the set is the least closure
exactly when these files add nothing to it.
-/

namespace Vzctl

namespace Inputs

open ReferenceSearch Transitions

variable {π : Type} [DecidableEq π] {tree : FileTree π}

/-- The Compose files with what they refer to, first of all the `.env` beside
them. -/
def graph (tree : FileTree π) : Graph π where
  resolve := resolve tree
  references path :=
    match readCompose tree path with
    | .ok value => some <|
        .record (tree.join (tree.parent path) ".env") ::
          composeReferences tree (tree.parent path) value
    | .error _ => none

/-! ## The recursion is a run -/

/-- The first request of the agenda is a Compose file that cannot be read. -/
def Stuck (tree : FileTree π) (state : State π) : Prop :=
  ∃ path rest, state.agenda = .expand path :: rest ∧
    resolve tree path ∉ state.paths ∧
    (graph tree).references (resolve tree path) = none

/-- Where a collection gets to from a state: past its requests, or to a file
that cannot be read. -/
def Arrives (tree : FileTree π) (state : State π)
    (rest : List (Request π)) : Except Failure (List π) → Prop
  | .ok after => ∃ expanded,
      Runs (Step (graph tree)) state ⟨rest, after, expanded⟩
  | .error (.invalid _) => ∃ stuck,
      Runs (Step (graph tree)) state stuck ∧ Stuck tree stuck
  | .error .outOfFuel => True

theorem Arrives.after {state middle : State π} {rest : List (Request π)}
    {outcome : Except Failure (List π)}
    (arrives : Arrives tree middle rest outcome)
    (run : Runs (Step (graph tree)) state middle) :
    Arrives tree state rest outcome := by
  cases outcome with
  | ok after =>
      obtain ⟨expanded, later⟩ := arrives
      exact ⟨expanded, run.trans later⟩
  | error failure =>
      cases failure with
      | outOfFuel => trivial
      | invalid message =>
          obtain ⟨stuck, later, isStuck⟩ := arrives
          exact ⟨stuck, run.trans later, isStuck⟩

theorem arrives_error {state : State π} {failure : Failure}
    {rest others : List (Request π)}
    (arrives : Arrives tree state rest (.error failure)) :
    Arrives tree state others (.error failure) := by
  cases failure with
  | outOfFuel => trivial
  | invalid message => exact arrives

theorem arrives_fold {expand : List π → π → Except Failure (List π)}
    (each : ∀ paths path rest expanded,
      Arrives tree ⟨.expand path :: rest, paths, expanded⟩ rest
        (expand paths path))
    (requests rest : List (Request π)) (paths expanded : List π) :
    Arrives tree ⟨requests ++ rest, paths, expanded⟩ rest
      (requests.foldlM (addRequest expand) paths) := by
  induction requests generalizing paths expanded with
  | nil => exact ⟨expanded, Runs.refl _⟩
  | cons request others ih =>
      have first : Arrives tree
          ⟨request :: (others ++ rest), paths, expanded⟩ (others ++ rest)
          (addRequest expand paths request) := by
        cases request with
        | record path =>
            exact ⟨expanded, (Runs.refl _).snoc
              (.record path (others ++ rest) paths expanded)⟩
        | expand path => exact each paths path (others ++ rest) expanded
      rw [List.foldlM_cons]
      cases added : addRequest expand paths request with
      | error failure =>
          rw [added] at first
          exact arrives_error first
      | ok middle =>
          rw [added] at first
          obtain ⟨between, run⟩ := first
          exact (ih middle between).after run

theorem arrives_collect (fuel : Nat) (paths : List π) (path : π)
    (rest : List (Request π)) (expanded : List π) :
    Arrives tree ⟨.expand path :: rest, paths, expanded⟩ rest
      (collectComposeInputs tree fuel paths path) := by
  induction fuel generalizing paths path rest expanded with
  | zero => trivial
  | succ fuel ih =>
      unfold collectComposeInputs
      by_cases present : resolve tree path ∈ paths
      · rw [if_pos present]
        exact ⟨expanded, (Runs.refl _).snoc
          (.skip path rest paths expanded present)⟩
      · rw [if_neg present]
        cases read : readCompose tree (resolve tree path) with
        | error failure =>
            have missing : (graph tree).references (resolve tree path) =
                none := by
              simp [graph, read]
            cases failure with
            | outOfFuel => trivial
            | invalid message =>
                exact ⟨_, Runs.refl _, path, rest, rfl, present, missing⟩
        | ok value =>
            have found : (graph tree).references (resolve tree path) =
                some (.record (tree.join (tree.parent (resolve tree path))
                  ".env") :: composeReferences tree
                    (tree.parent (resolve tree path)) value) := by
              simp [graph, read]
            have opened := (Runs.refl _).snoc
              (Step.expand path rest _ paths expanded present found)
            have withEnv := opened.snoc (Step.record _ _ _ _)
            exact (arrives_fold ih _ rest _ _).after withEnv

/-! ## Termination -/

omit [DecidableEq π] in
theorem readCompose_ne_outOfFuel (tree : FileTree π) (path : π) :
    readCompose tree path ≠ .error .outOfFuel := by
  unfold readCompose
  split
  · simp
  · split
    · simp
    · simp

theorem subset_of_collect {fuel : Nat} {paths after : List π} {path : π}
    (collected : collectComposeInputs tree fuel paths path = .ok after) :
    paths ⊆ after := by
  have arrives : Arrives tree _ _ _ :=
    arrives_collect fuel paths path [] []
  rw [collected] at arrives
  obtain ⟨expanded, run⟩ := arrives
  exact (extends_of_runs run).paths

omit [DecidableEq π] in
theorem existing_of_readCompose {path : π} {value : JSONValue}
    (read : readCompose tree (resolve tree path) = .ok value) :
    resolve tree path ∈ tree.existing := by
  unfold resolve at read ⊢
  cases canonical : tree.canonicalize path with
  | some found =>
      rw [Option.getD_some]
      exact tree.canonicalize_mem path found canonical
  | none =>
      rw [canonical, Option.getD_none] at read
      unfold readCompose at read
      split at read
      · cases read
      · rename_i text isText
        obtain ⟨found, exists_⟩ := tree.canonicalize_of_read path text isText
        rw [canonical] at exists_
        cases exists_

/-- The number of existing files that are not recorded. -/
def unrecorded (tree : FileTree π) (paths : List π) : Nat :=
  (tree.existing.filter (· ∉ paths)).length

theorem unrecorded_le {paths after : List π} (kept : paths ⊆ after) :
    unrecorded tree after ≤ unrecorded tree paths := by
  refine (List.monotone_filter_right tree.existing ?_).length_le
  intro path outside
  simp only [decide_eq_true_eq] at outside ⊢
  exact fun inside => outside (kept inside)

theorem unrecorded_insert_lt {paths : List π} {path : π}
    (exists_ : path ∈ tree.existing) (isNew : path ∉ paths) :
    unrecorded tree (paths.insert path) < unrecorded tree paths := by
  have smaller : (tree.existing.filter (· ∉ paths.insert path)).Sublist
      (tree.existing.filter (· ∉ paths)) := by
    apply List.monotone_filter_right
    intro other outside
    simp only [decide_eq_true_eq, List.mem_insert_iff, not_or] at outside ⊢
    exact outside.2
  refine lt_of_le_of_ne smaller.length_le fun same => ?_
  have equal := smaller.eq_of_length same
  have inside : path ∈ tree.existing.filter (· ∉ paths) :=
    List.mem_filter.mpr ⟨exists_, decide_eq_true isNew⟩
  rw [← equal] at inside
  simp at inside

theorem terminates_fold {expand : List π → π → Except Failure (List π)}
    (recorded : List π)
    (each : ∀ paths path, recorded ⊆ paths →
      expand paths path ≠ .error .outOfFuel)
    (grows : ∀ paths path after, expand paths path = .ok after →
      paths ⊆ after)
    (requests : List (Request π)) {paths : List π}
    (within : recorded ⊆ paths) :
    requests.foldlM (addRequest expand) paths ≠ .error .outOfFuel := by
  induction requests generalizing paths with
  | nil => simp [pure, Except.pure]
  | cons request others ih =>
      rw [List.foldlM_cons]
      cases request with
      | record path =>
          exact ih fun other member =>
            List.mem_insert_of_mem (within member)
      | expand path =>
          have terminates := each paths path within
          cases added : expand paths path with
          | error failure =>
              rw [added] at terminates
              change (expand paths path >>= _) ≠ _
              rw [added]
              simpa [bind, Except.bind] using terminates
          | ok after =>
              have kept := grows paths path after added
              change (expand paths path >>= _) ≠ _
              rw [added]
              exact ih fun other member =>
                kept (within member)

theorem collectComposeInputs_terminates {fuel : Nat} {paths : List π}
    (enough : unrecorded tree paths < fuel) (path : π) :
    collectComposeInputs tree fuel paths path ≠ .error .outOfFuel := by
  induction fuel generalizing paths path with
  | zero => omega
  | succ fuel ih =>
      unfold collectComposeInputs
      by_cases present : resolve tree path ∈ paths
      · simp [present]
      · rw [if_neg present]
        cases read : readCompose tree (resolve tree path) with
        | error failure =>
            have isInvalid :=
              readCompose_ne_outOfFuel tree (resolve tree path)
            rw [read] at isInvalid
            simpa [bind, Except.bind] using isInvalid
        | ok value =>
            have fewer := unrecorded_insert_lt
              (existing_of_readCompose read) present
            refine terminates_fold (paths.insert (resolve tree path)) ?_
              (fun _ _ _ collected => subset_of_collect collected) _ ?_
            · intro others other within
              have : unrecorded tree others ≤ unrecorded tree _ :=
                unrecorded_le within
              exact ih (by omega) other
            · exact fun other member => List.mem_insert_of_mem member

theorem collect_terminates (requests : List (Request π)) :
    collect tree requests ≠ .error .outOfFuel := by
  refine terminates_fold [] ?_
    (fun _ _ _ collected => subset_of_collect collected) requests
    (List.Subset.refl _)
  intro paths path _
  refine collectComposeInputs_terminates ?_ path
  have := List.length_filter_le (fun q => decide (q ∉ paths)) tree.existing
  unfold unrecorded collectFuel
  omega

/-! ## The least closure -/

/-- Two trees in which every path stands for the same file, with the same
references in any order. -/
structure SameReferences (tree other : FileTree π) : Prop where
  resolve : resolve tree = resolve other
  references : ∀ path found, (graph tree).references path = some found →
    ∃ again, (graph other).references path = some again ∧
      ∀ request, request ∈ found ↔ request ∈ again
  readable : ∀ path, (graph tree).references path = none →
    (graph other).references path = none

/-- The collection ends, records exactly what can be reached from the requests
and fails exactly when a Compose file among it cannot be read; the order of
requests and references does not matter. -/
structure IsLeastClosure (tree : FileTree π) (requests : List (Request π)) :
    Prop where
  terminates : collect tree requests ≠ .error .outOfFuel
  exact : ∀ paths, collect tree requests = .ok paths →
    ∀ path, path ∈ paths ↔ Closure (graph tree) requests path
  fails : (∃ message, collect tree requests = .error (.invalid message)) ↔
    Unreadable (graph tree) requests
  order : ∀ (other : FileTree π) (others : List (Request π)),
    SameReferences tree other → others.Perm requests →
      ∀ path, Closure (graph other) others path ↔
        Closure (graph tree) requests path

/-- The Compose files that are met only after they were recorded in another
role add nothing: what they refer to is reached without them, unless the
collection fails without them. -/
def OtherRolesAddNothing (tree : FileTree π) (requests : List (Request π)) :
    Prop :=
  let others := (graph tree).without (Skipped (graph tree) requests)
  Unreadable others requests ∨
    ¬ Unreadable (graph tree) requests ∧
      ∀ path, Closure (graph tree) requests path →
        Closure others requests path

theorem arrives_requests (tree : FileTree π)
    (requests : List (Request π)) :
    Arrives tree (start requests) [] (collect tree requests) := by
  have arrives : Arrives tree ⟨requests ++ [], [], []⟩ [] _ :=
    arrives_fold (arrives_collect (collectFuel tree)) requests [] [] []
  rw [List.append_nil] at arrives
  exact arrives

theorem mem_iff_of_collect {requests : List (Request π)} {paths : List π}
    (collected : collect tree requests = .ok paths) (path : π) :
    path ∈ paths ↔
      Closure ((graph tree).without (Skipped (graph tree) requests)) requests
        path := by
  have arrives := arrives_requests tree requests
  rw [collected] at arrives
  obtain ⟨expanded, run⟩ := arrives
  exact mem_paths_iff run rfl path

theorem fails_iff_unreadable (tree : FileTree π)
    (requests : List (Request π)) :
    (∃ message, collect tree requests = .error (.invalid message)) ↔
      Unreadable ((graph tree).without (Skipped (graph tree) requests))
        requests := by
  have arrives := arrives_requests tree requests
  cases collected : collect tree requests with
  | ok paths =>
      rw [collected] at arrives
      obtain ⟨expanded, run⟩ := arrives
      exact iff_of_false (by simp) (readable_of_finished run rfl)
  | error failure =>
      cases failure with
      | outOfFuel => exact absurd collected (collect_terminates requests)
      | invalid message =>
          rw [collected] at arrives
          obtain ⟨stuck, run, path, rest, next, isNew, missing⟩ := arrives
          exact iff_of_true ⟨message, rfl⟩
            (unreadable_of_stuck run next isNew missing)

omit [DecidableEq π] in
theorem closure_iff_of_same {other : FileTree π}
    {requests others : List (Request π)}
    (same : SameReferences tree other) (perm : others.Perm requests)
    (path : π) :
    Closure (graph other) others path ↔
      Closure (graph tree) requests path := by
  constructor
  · refine Closure.of_same same.resolve.symm
      (fun request member => perm.mem_iff.mp member) ?_
    intro source found read
    cases before : (graph tree).references source with
    | none =>
        rw [same.readable source before] at read
        cases read
    | some first =>
        obtain ⟨again, readAgain, members⟩ :=
          same.references source first before
        rw [read] at readAgain
        cases readAgain
        exact ⟨first, rfl, fun request inside => (members request).mpr inside⟩
  · refine Closure.of_same same.resolve
      (fun request member => perm.mem_iff.mpr member) ?_
    intro source found read
    obtain ⟨again, readAgain, members⟩ := same.references source found read
    exact ⟨again, readAgain, fun request inside => (members request).mp inside⟩

/-- The collection is the least closure exactly when the files that it skips
add nothing. -/
theorem isLeastClosure_iff (tree : FileTree π)
    (requests : List (Request π)) :
    IsLeastClosure tree requests ↔ OtherRolesAddNothing tree requests := by
  have failsWithout := fails_iff_unreadable tree requests
  constructor
  · intro closure
    by_cases unreadable : Unreadable
        ((graph tree).without (Skipped (graph tree) requests)) requests
    · exact .inl unreadable
    · right
      have succeeds := mt failsWithout.mp unreadable
      refine ⟨mt closure.fails.mpr succeeds, ?_⟩
      cases collected : collect tree requests with
      | ok paths =>
          intro path closed
          rw [← mem_iff_of_collect collected]
          exact (closure.exact paths collected path).mpr closed
      | error failure =>
          cases failure with
          | outOfFuel => exact absurd collected closure.terminates
          | invalid message => exact absurd ⟨message, collected⟩ succeeds
  · intro condition
    refine ⟨collect_terminates requests, ?_, ?_,
      fun _ _ same perm => closure_iff_of_same same perm⟩
    · intro paths collected path
      rw [mem_iff_of_collect collected]
      refine ⟨Closure.of_without, ?_⟩
      rcases condition with unreadable | harmless
      · obtain ⟨message, failed⟩ := failsWithout.mpr unreadable
        rw [collected] at failed
        cases failed
      · exact harmless.2 path
    · rw [failsWithout]
      refine ⟨Unreadable.of_without, ?_⟩
      intro unreadable
      rcases condition with without | harmless
      · exact without
      · exact absurd unreadable harmless.1

/-! ## A file in two roles -/

/-- `compose.yaml` mounts `web.yaml` as a config and includes it as well;
`web.yaml` mounts `data.txt`. -/
def sharedFile (text : String) : JSONValue :=
  if text = "/p/compose.yaml" then
    .object [
      ("configs", .object [
        ("page", .object [("file", .string "web.yaml")])]),
      ("include", .array [.string "web.yaml"])]
  else
    .object [("configs", .object [
      ("data", .object [("file", .string "data.txt")])])]

def sharedFiles : List String := ["/p/compose.yaml", "/p/web.yaml"]

def sharedTree : FileTree String where
  canonicalize path := if path ∈ sharedFiles then some path else none
  readToString path :=
    if path ∈ sharedFiles then .ok path else .error "not found"
  parseYaml text := .ok (sharedFile text)
  parent := fun _ => "/p"
  join base file := base ++ "/" ++ file
  display := id
  existing := sharedFiles
  canonicalize_mem := by
    intro path canonical found
    split at found
    · rename_i member
      exact Option.some.inj found ▸ member
    · cases found
  canonicalize_of_read := by
    intro path text read
    split at read
    · rename_i member
      exact ⟨path, if_pos member⟩
    · cases read

def sharedRequests : List (Request String) := [.expand "/p/compose.yaml"]

theorem collect_shared : collect sharedTree sharedRequests =
    .ok ["/p/web.yaml", "/p/.env", "/p/compose.yaml"] := by
  rfl

theorem closure_shared :
    Closure (graph sharedTree) sharedRequests "/p/data.txt" := by
  have web : Reached (graph sharedTree) sharedRequests
      (.expand "/p/web.yaml") :=
    .follow (.given List.mem_cons_self) rfl (by decide)
  exact ⟨.record "/p/data.txt", .follow web rfl (by decide), rfl⟩

/-- The included file was recorded as a config before, and what it mounts is
missed. -/
theorem included_config_missed :
    collect sharedTree sharedRequests =
        .ok ["/p/web.yaml", "/p/.env", "/p/compose.yaml"] ∧
      Closure (graph sharedTree) sharedRequests "/p/data.txt" ∧
      ¬ IsLeastClosure sharedTree sharedRequests := by
  refine ⟨collect_shared, closure_shared, ?_⟩
  intro closure
  have missed := (closure.exact _ collect_shared "/p/data.txt").mpr
    closure_shared
  simp at missed

end Inputs

end Vzctl
