import Vzctl.Reconciler.EnsureVMs

/-!
# New containers leave the VM alone

An update that only adds containers is not breaking, so that `ensure_vms`
neither stops the VM nor removes its bundle, whatever the replies are and
whether the run is forced or not.
-/

namespace Vzctl

namespace Reconciler

open Dialogue Std

variable {κ ρ : Type} [DecidableEq κ] [DecidableEq ρ]
  {readVmConfig : String → Option (VmConfig κ ρ)} {mode : Mode}
  {desired actual : List Resource} {current wanted : Resource} {id : String}

/-! ## The plan -/

/-- No action deletes or replaces the VM. -/
def Spares (plan : Plan) (id : String) : Prop :=
  ∀ action ∈ plan.actions, action.kind = "vm" → action.name = id →
    action.action ≠ "delete" ∧
      ¬ (action.action = "update" ∧ action.breaking = true)

theorem spares_of_addsContainers
    (recorded : (byKey actual)[(⟨"vm", id⟩ : ResourceKey)]? = some current)
    (isDesired : (byKey desired)[(⟨"vm", id⟩ : ResourceKey)]? = some wanted)
    (adds : onlyNewContainersAdded readVmConfig current wanted = true) :
    Spares (buildPlan readVmConfig mode desired actual) id := by
  intro action member isVM named
  have key : action.key = ⟨"vm", id⟩ := by
    rw [PlanAction.key, isVM, named]
  simp only [buildPlan, List.mem_insertionSort, planActions,
    List.mem_append] at member
  rcases member with (planned | removed) | stops
  · obtain ⟨⟨entryKey, entry⟩, entryMember, isAction⟩ :=
      List.mem_filterMap.mp planned
    have found := TreeMap.mem_toList_iff_getElem?_eq_some.mp entryMember
    have entryIs : entryKey = ⟨"vm", id⟩ := by
      rw [← (of_byKey found).2, ← key]
      exact (desiredAction_key readVmConfig isAction).symm
    rw [entryIs, isDesired] at found
    cases found
    have wantedKey := (of_byKey isDesired).2
    have wantedVM : wanted.kind = "vm" := congrArg ResourceKey.kind wantedKey
    rw [desiredAction, wantedKey, recorded] at isAction
    simp only [wantedVM, adds] at isAction
    split at isAction
    · cases isAction
      simp
    · split at isAction
      · cases isAction
        simp
      · cases isAction
  · split at removed
    · cases removed
    · obtain ⟨⟨entryKey, entry⟩, entryMember, rfl⟩ :=
        List.mem_map.mp removed
      obtain ⟨isRecorded, absent⟩ := List.mem_filter.mp entryMember
      have found := TreeMap.mem_toList_iff_getElem?_eq_some.mp isRecorded
      have entryIs : entryKey = ⟨"vm", id⟩ :=
        (of_byKey found).2.symm.trans key
      rw [entryIs, decide_eq_true_eq,
        TreeMap.mem_iff_isSome_getElem?, isDesired] at absent
      exact absurd rfl absent
  · split at stops
    · obtain ⟨vm, _, rfl⟩ := List.mem_map.mp stops
      simp [stopAction]
    · cases stops

theorem replaces_eq_false {plan : Plan} (spares : Spares plan id) :
    replaces plan id = false := by
  rw [replaces]
  rcases found : plan.actions.find? fun action =>
    action.kind = "vm" && action.name = id with _ | action
  · rw [found]
    rfl
  · have about := List.find?_some found
    simp only [Bool.and_eq_true, decide_eq_true_eq] at about
    have spared := spares action (List.mem_of_find?_eq_some found) about.1
      about.2
    rw [found]
    simpa using spared.2

/-! ## Programs that leave a VM alone -/

/-- The command stops the VM or removes its bundle. -/
def Destroys (id : String) : Command BundleCall → Prop
  | .rpc method params => method = "vm.stop" ∧ params = vmParams id
  | .host (.remove vm) => vm = id
  | _ => False

/-- Any reply to any command. -/
def anyReply : Condition Unit (Command BundleCall) Reply :=
  fun _ _ => True

/-- The VM is not destroyed, and it is only created when there is none. -/
def leavesAlone (id : String) :
    Condition Unit (Command BundleCall) Reply :=
  fun past exchange =>
    ¬ Destroys id exchange.command ∧
      (exchange.command = .host (.create id) →
        Had past fun earlier =>
          earlier.command = .host (.isFile id) ∧
            earlier.reply ≠ .result (.bool true))

/-- In every run, wherever it starts. -/
def Leaves {α : Type} (id : String) (program : VMStep α) : Prop :=
  ∀ (past : History Unit (Command BundleCall) Reply)
    (post : Except Failure α → History Unit (Command BundleCall) Reply →
      Prop),
    (∀ outcome history, post outcome history) →
      Meets anyReply (leavesAlone id) post program past

section Leaves

variable {α β : Type}

theorem leaves_done (outcome : Except Failure α) :
    Leaves id (.done outcome : VMStep α) := by
  intro past post always
  exact always outcome past

theorem leaves_bind {program : VMStep α} {next : α → VMStep β}
    (first : Leaves id program) (later : ∀ value, Leaves id (next value)) :
    Leaves id (program >>= next) := by
  intro past post always
  apply Meets.bind
  apply first
  intro outcome history
  cases outcome with
  | ok value => exact later value history post always
  | error failure => exact always _ history

theorem leaves_request {command : Command BundleCall}
    {read : Reply → Except Failure α} (spares : ¬ Destroys id command)
    (noCreate : command ≠ .host (.create id)) :
    Leaves id (.request command read) := by
  rintro past post always exchange _ rfl
  refine ⟨⟨spares, ?_⟩, always _ _⟩
  intro creates
  exact absurd creates noCreate

theorem leaves_forM {γ : Type} {elements : List γ} {body : γ → VMStep Unit}
    (each : ∀ element ∈ elements, Leaves id (body element)) :
    Leaves id (forM elements body) := by
  induction elements with
  | nil => exact leaves_done _
  | cons element rest ih =>
      apply leaves_bind (each element List.mem_cons_self)
      intro _
      apply ih
      intro later member
      exact each later (List.mem_cons_of_mem _ member)

theorem leaves_if {condition : Prop} [Decidable condition]
    {first second : VMStep α} (isTrue : condition → Leaves id first)
    (isFalse : ¬ condition → Leaves id second) :
    Leaves id (if condition then first else second) := by
  split
  · rename_i holds
    exact isTrue holds
  · rename_i fails
    exact isFalse fails

end Leaves

/-! ## The parts of the step -/

variable {other : String}

theorem leaves_isFile (vm : String) : Leaves id (isFile vm) :=
  leaves_request not_false (by simp)

theorem leaves_waitStopped (vm : String) (rounds : Nat) :
    Leaves id (waitStopped vm rounds) := by
  have listed : Leaves id (rpc "vm.list" (.object [])) :=
    leaves_request (by simp [Destroys]) (by simp)
  induction rounds with
  | zero =>
      apply leaves_bind listed
      intro records
      exact leaves_if (fun _ => leaves_done _) (fun _ => leaves_done _)
  | succ rounds ih =>
      apply leaves_bind listed
      intro records
      exact leaves_if (fun _ => ih) (fun _ => leaves_done _)

theorem leaves_purgeVM {stack : VMStack} (differs : other ≠ id) :
    Leaves id (purgeVM stack other) := by
  have stops : Leaves id (stopOne other) := by
    apply leaves_bind
    · apply leaves_request
      · rintro ⟨_, same⟩
        simp only [vmParams, JSONValue.object.injEq, List.cons.injEq,
          Prod.mk.injEq, JSONValue.string.injEq] at same
        exact differs same.1.2
      · simp
    · intro _
      exact leaves_done _
  have removes : Leaves id (removeManagedVM other) := by
    apply leaves_bind (leaves_isFile other)
    intro present
    refine leaves_if (fun _ => ?_) (fun _ => leaves_done _)
    apply leaves_bind
    · exact leaves_request not_false (by simp)
    · intro value
      refine leaves_if (fun _ => leaves_done _) (fun _ => ?_)
      apply leaves_bind
      · exact leaves_request differs (by simp)
      · intro _
        exact leaves_done _
  apply leaves_bind stops
  intro _
  apply leaves_bind (leaves_waitStopped other _)
  intro _
  exact removes

theorem leaves_createMissing (vm : String) :
    Leaves id (createMissing vm) := by
  intro past post always
  apply meets_request_bind
  · intro asked _ isAsked
    rw [leavesAlone, isAsked]
    exact ⟨not_false, fun impossible => by cases impossible⟩
  · intro asked _ isAsked present replied
    have isPresent := Except.ok.inj replied
    split
    · exact always _ _
    · rename_i missing
      apply meets_request_bind
      · intro made _ isMade
        rw [leavesAlone, isMade]
        refine ⟨not_false, ?_⟩
        intro creates
        have same : vm = id := by
          injection creates with creates
          injection creates
        apply Had.last
        refine ⟨by rw [isAsked, same], ?_⟩
        intro isFile
        rw [isFile, decide_eq_true rfl] at isPresent
        exact missing isPresent.symm
      · intro _ _ _ _ _
        exact always _ _
      · intro _ _ _ _ _
        exact always _ _
  · intro _ _ _ _ _
    exact always _ _

theorem leaves_ensureVM {stack : VMStack} {plan : Plan} {name : String}
    (spares : Spares plan id) : Leaves id (ensureVM stack plan name) := by
  rw [ensureVM]
  refine leaves_if (fun isReplaced => ?_) (fun _ => leaves_createMissing _)
  have differs : stack.runtimeID name ≠ id := by
    intro same
    rw [same, replaces_eq_false spares] at isReplaced
    cases isReplaced
  apply leaves_bind
  · exact leaves_request not_false (by simp)
  · intro forced
    refine leaves_if (fun _ => ?_) (fun _ => leaves_done _)
    apply leaves_bind
    · apply leaves_bind (leaves_isFile _)
      intro present
      refine leaves_if (fun _ => ?_) (fun _ => leaves_done _)
      apply leaves_bind
      · exact leaves_request not_false (by simp)
      · intro value
        exact leaves_done _
    · intro unchanged
      refine leaves_if (fun _ => leaves_done _) (fun _ => ?_)
      apply leaves_bind (leaves_purgeVM differs)
      intro _
      exact leaves_createMissing _

theorem leaves_ensureVMs {stack : VMStack} {plan : Plan}
    (spares : Spares plan id) : Leaves id (ensureVMs stack plan) := by
  apply leaves_bind
  · apply leaves_forM
    intro action member
    obtain ⟨inPlan, isDelete⟩ := List.mem_filter.mp member
    simp only [Bool.and_eq_true, decide_eq_true_eq] at isDelete
    apply leaves_purgeVM
    intro same
    exact (spares action inPlan isDelete.2 same).1 isDelete.1
  · intro _
    apply leaves_bind (leaves_done _)
    intro order
    apply leaves_forM
    intro name _
    exact leaves_ensureVM spares

/-! ## Updates that only add containers -/

/-- The specifications differ in nothing but containers that are new. -/
def EqualButNewContainers (readVmConfig : String → Option (VmConfig κ ρ))
    (current wanted : Resource) : Prop :=
  ∃ before after, current.spec.bind readVmConfig = some before ∧
    wanted.spec.bind readVmConfig = some after ∧
    (∀ (name : String) config, before.containers[name]? = some config →
      after.containers[name]? = some config) ∧
    before.composeFiles = after.composeFiles ∧ before.rest = after.rest

/-- An update is one that only adds containers, at least one of them, exactly
when the predicate says so, and then no run destroys the VM. -/
theorem onlyNewContainersAdded_leavesVM
    (readVmConfig : String → Option (VmConfig κ ρ))
    (current wanted : Resource) :
    (onlyNewContainersAdded readVmConfig current wanted = true ↔
      EqualButNewContainers readVmConfig current wanted ∧
        ∃ before after, current.spec.bind readVmConfig = some before ∧
          wanted.spec.bind readVmConfig = some after ∧
          ∃ name, name ∈ after.containers ∧ name ∉ before.containers) ∧
    (onlyNewContainersAdded readVmConfig current wanted = true →
      ∀ (mode : Mode) (desired actual : List Resource) (id : String)
        (stack : VMStack) history ending,
        (byKey actual)[(⟨"vm", id⟩ : ResourceKey)]? = some current →
        (byKey desired)[(⟨"vm", id⟩ : ResourceKey)]? = some wanted →
        Runs anyReply
          (ensureVMs stack (buildPlan readVmConfig mode desired actual)) []
          history ending →
        Throughout (leavesAlone id) history) := by
  constructor
  · rw [onlyNewContainersAdded_iff]
    constructor
    · rintro ⟨before, after, readBefore, readAfter, kept, new, files, rest⟩
      exact ⟨⟨before, after, readBefore, readAfter, kept, files, rest⟩,
        before, after, readBefore, readAfter, new⟩
    · rintro ⟨⟨before, after, readBefore, readAfter, kept, files, rest⟩,
        _, _, again, againAfter, new⟩
      rw [readBefore] at again
      rw [readAfter] at againAfter
      cases again
      cases againAfter
      exact ⟨before, after, readBefore, readAfter, kept, new, files, rest⟩
  · intro adds mode desired actual id stack history ending recorded
      isDesired run
    have leaves : Leaves id (ensureVMs stack
        (buildPlan readVmConfig mode desired actual)) :=
      leaves_ensureVMs (spares_of_addsContainers recorded isDesired adds)
    exact (run.of_meets (leaves [] (fun _ _ => True) fun _ _ => trivial)
      trivial).1

/-! ## Examples -/

def specText : String := "\x7b\"from\":\"base\"\x7d"

def moreText : String :=
  "\x7b\"from\":\"base\",\"containers\":\x7b\"web\":\x7b\x7d\x7d\x7d"

def readSpec (text : String) : Option (VmConfig Unit String) :=
  if text = specText then some ⟨∅, [], "base"⟩
  else if text = moreText then
    some ⟨(∅ : TreeMap String Unit).insert "web" (), [], "base"⟩
  else none

def vmResource (spec : String) : Resource where
  kind := "vm"
  name := "demo/web"
  labels := [("spec", spec)]
  state := "running"

/-- Two equal specifications differ in nothing but new containers. -/
theorem equalButNewContainers_not_added :
    EqualButNewContainers readSpec (vmResource specText)
        (vmResource specText) ∧
      onlyNewContainersAdded readSpec (vmResource specText)
        (vmResource specText) = false := by
  refine ⟨⟨⟨∅, [], "base"⟩, ⟨∅, [], "base"⟩, rfl, rfl, ?_, rfl, rfl⟩, rfl⟩
  intro name config found
  exact found

def oneVM : VMStack where
  project := "demo"
  vms := ⟨[("web", [])], by decide⟩
  desired _ := ⟨"20GiB", [], []⟩
  polls _ := 0

/-- The bundle is there. -/
def webPresent : Exchange Unit (Command BundleCall) Reply :=
  ⟨(), .host (.isFile "demo/web"), .result (.bool true), ()⟩

theorem leavesVM_webPresent :
    Throughout (leavesAlone "demo/web") [webPresent] := by
  have adds : onlyNewContainersAdded readSpec (vmResource specText)
      (vmResource moreText) = true := by
    rfl
  have run : Runs anyReply (ensureVMs oneVM (buildPlan readSpec .apply
      [vmResource moreText] [vmResource specText])) [] [webPresent]
        (some (.ok ())) :=
    Runs.ask webPresent trivial Runs.done
  exact (onlyNewContainersAdded_leavesVM readSpec _ _).2 adds .apply
    [vmResource moreText] [vmResource specText] "demo/web" oneVM [webPresent] _
    rfl rfl run

end Reconciler

end Vzctl
