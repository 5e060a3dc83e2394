import Vzctl.Router.RouteRPC

/-!
# Every policy has its router

A call counts how many routers take a policy by the name of the policy.  Each
policy is in exactly one of the plans that are sent when names tell policies
apart and no helper fails in front of a router with policies.
-/

namespace Vzctl

namespace RouterPlan

theorem make_spec {vmID : String} {networks : List RouterNetwork}
    {networksSorted : networks.Pairwise fun left right =>
      left.name ≤ right.name}
    {policies : List ForwardPolicy} {staticRoutes : List StaticRoute}
    {plan : RouterPlan}
    (made : make vmID networks networksSorted policies staticRoutes =
      .ok plan) :
    plan.vmID = vmID ∧
      plan.policies = sortedBy (fun policy => policy.name) policies := by
  unfold make at made
  split at made
  · cases made
  · have same := Except.ok.inj made
    rw [← same]
    exact ⟨rfl, rfl⟩

theorem vmID_of_ofRecords {vmID : String} {networks : List NetworkRecord}
    {attachments : List NetworkAttachmentRecord}
    {policies : List ForwardPolicy} {staticRoutes : List StaticRoute}
    {plan : RouterPlan}
    (made : ofRecords vmID networks attachments policies staticRoutes =
      .ok plan) : plan.vmID = vmID := by
  unfold ofRecords at made
  split at made
  · dsimp only at made
    split at made
    · split at made
      · cases made
      · exact (make_spec made).1
    · cases made
  · cases made

end RouterPlan

namespace RouteRPC

open Procedure

/-! ## Counting -/

section Counting

/-- How often a name was counted. -/
def countOf (found : PolicyMatches) (name : String) : Nat :=
  (found.lookup name).getD 0

theorem countOf_count (found : PolicyMatches) (policy : ForwardPolicy)
    (name : String) :
    countOf (count found policy) name =
      countOf found name + if policy.name = name then 1 else 0 := by
  rw [countOf, count, Dictionary.lookup_modify]
  by_cases same : policy.name = name
  · rw [if_pos same.symm, if_pos same, same]
    rfl
  · rw [if_neg (Ne.symm same), if_neg same]
    rfl

theorem countOf_foldl (policies : List ForwardPolicy) (found : PolicyMatches)
    (name : String) :
    countOf (policies.foldl count found) name =
      countOf found name + policies.countP fun policy =>
        policy.name = name := by
  induction policies generalizing found with
  | nil => rfl
  | cons policy rest ih =>
      rw [List.foldl_cons, ih, countOf_count,
        List.countP_cons]
      simp only [decide_eq_true_eq]
      omega

/-- How many policies of a name the plans have. -/
def matched (plans : List RouterPlan) (name : String) : Nat :=
  (plans.map fun plan =>
    plan.policies.countP fun policy => policy.name = name).sum

variable {plans : List RouterPlan} {policy : ForwardPolicy}

theorem countP_le_matched :
    plans.countP (fun plan => policy ∈ plan.policies) ≤
      matched plans policy.name := by
  induction plans with
  | nil => exact le_rfl
  | cons plan rest ih =>
      rw [List.countP_cons, matched, List.map_cons, List.sum_cons, ← matched]
      by_cases member : policy ∈ plan.policies
      · have positive : 0 < plan.policies.countP fun other =>
            other.name = policy.name :=
          List.countP_pos_iff.mpr ⟨policy, member, by simp⟩
        rw [if_pos (by simpa using member)]
        omega
      · rw [if_neg (by simpa using member)]
        omega

theorem exists_of_matched {name : String} (found : 0 < matched plans name) :
    ∃ plan ∈ plans, ∃ policy ∈ plan.policies, policy.name = name := by
  obtain ⟨number, member, positive⟩ :=
    List.sum_pos_iff_exists_pos_nat.mp found
  obtain ⟨plan, isPlan, counted⟩ := List.mem_map.mp member
  rw [← counted] at positive
  obtain ⟨policy, inside, named⟩ := List.countP_pos_iff.mp positive
  exact ⟨plan, isPlan, policy, inside, by simpa using named⟩

end Counting

/-! ## Plans -/

section Plans

variable {surroundings : Surroundings} {request : Request}

/-- A router takes a policy. -/
def Takes (request : Request) (router : HelperRecord)
    (policy : ForwardPolicy) : Prop :=
  ∃ networks, topology request.snapshot router = .ok networks ∧
    selects networks policy = true

/-- The plan of a router has the policies that the router takes. -/
structure PlanOf (request : Request) (router : HelperRecord)
    (plan : RouterPlan) : Prop where
  vmID : plan.vmID = router.vmID
  policies : ∀ policy, policy ∈ plan.policies ↔
    policy ∈ request.policies ∧ Takes request router policy

theorem planRouter_spec {found after : PolicyMatches} {router : HelperRecord}
    {plan : RouterPlan}
    (planned : planRouter surroundings request found router =
      .ok (plan, after)) :
    PlanOf request router plan ∧ ∀ name, countOf after name =
      countOf found name + plan.policies.countP fun policy =>
        policy.name = name := by
  unfold planRouter at planned
  obtain ⟨_, _, planned⟩ := Outcome.bind_eq_ok_iff.mp planned
  obtain ⟨_, _, planned⟩ := Outcome.bind_eq_ok_iff.mp planned
  obtain ⟨networks, built, planned⟩ := Outcome.bind_eq_ok_iff.mp planned
  obtain ⟨made, assembled, planned⟩ := Outcome.bind_eq_ok_iff.mp planned
  have networksOf := Outcome.mapError_eq_ok_iff.mp built
  have parts := RouterPlan.make_spec (Outcome.mapError_eq_ok_iff.mp assembled)
  have returned := Outcome.pure_eq_ok_iff.mp planned
  obtain ⟨isPlan, isAfter⟩ := Prod.mk.inj returned
  rw [isPlan] at parts
  have permuted : plan.policies.Perm
      (request.policies.filter (selects networks)) := by
    rw [parts.2]
    exact SortedBy.perm_sortedBy
  constructor
  · constructor
    · rw [parts.1]
      exact RouterPlan.vmID_of_ofRecords networksOf
    · intro policy
      rw [permuted.mem_iff, List.mem_filter]
      constructor
      · intro both
        exact ⟨both.1, networks, networksOf, both.2⟩
      · intro both
        obtain ⟨member, others, othersOf, selected⟩ := both
        have same := Except.ok.inj (networksOf.symm.trans othersOf)
        rw [same]
        exact ⟨member, selected⟩
  · intro name
    rw [← isAfter, countOf_foldl, permuted.countP_eq]

theorem planRouters_spec {routers : List HelperRecord}
    {found after : PolicyMatches} {plans : List RouterPlan}
    (planned : planRouters surroundings request found routers =
      .ok (plans, after)) :
    List.Forall₂ (PlanOf request) routers plans ∧
      ∀ name, countOf after name = countOf found name +
        matched plans name := by
  induction routers generalizing found plans with
  | nil =>
      have same := Except.ok.inj planned
      obtain ⟨noPlans, isAfter⟩ := Prod.mk.inj same
      rw [← noPlans, ← isAfter]
      exact ⟨.nil, fun name => rfl⟩
  | cons router rest ih =>
      unfold planRouters at planned
      obtain ⟨⟨plan, between⟩, first, planned⟩ :=
        Outcome.bind_eq_ok_iff.mp planned
      obtain ⟨⟨others, last⟩, later, planned⟩ :=
        Outcome.bind_eq_ok_iff.mp planned
      obtain ⟨isPlans, isAfter⟩ :=
        Prod.mk.inj (Outcome.pure_eq_ok_iff.mp planned)
      rw [isAfter] at later
      obtain ⟨planOf, counted⟩ := planRouter_spec first
      obtain ⟨plansOf, countedRest⟩ := ih later
      rw [← isPlans]
      refine ⟨.cons planOf plansOf, ?_⟩
      intro name
      rw [countedRest, counted, matched, matched, List.map_cons,
        List.sum_cons]
      omega

/-- What is known of the plans of a call. -/
structure PlansOf (request : Request) (plans : List RouterPlan) :
    Prop where
  planOf : List.Forall₂ (PlanOf request) request.routers plans
  matchedOnce : ∀ policy ∈ request.policies, matched plans policy.name = 1

theorem plansOf_of_plans {made : List RouterPlan}
    (planned : plans surroundings request = .ok made) :
    PlansOf request made := by
  unfold plans at planned
  obtain ⟨⟨others, found⟩, built, planned⟩ :=
    Outcome.bind_eq_ok_iff.mp planned
  obtain ⟨_, checked, planned⟩ := Outcome.bind_eq_ok_iff.mp planned
  have same : others = made := Outcome.pure_eq_ok_iff.mp planned
  obtain ⟨planOf, counted⟩ := planRouters_spec built
  rw [same] at planOf counted
  refine ⟨planOf, ?_⟩
  intro policy member
  have once := Outcome.forM_eq_ok_iff.mp checked policy member
  have isOne : countOf found policy.name = 1 := by
    unfold checkMatch require at once
    dsimp only at once
    split at once
    · rename_i one
      simpa [countOf] using one
    · cases once
  have counts := counted policy.name
  have nothing : countOf ∅ policy.name = 0 := rfl
  omega

end Plans

/-! ## Sending -/

section Sending

variable (surroundings : Surroundings)

/-- Whether the helper of a plan answers with a status. -/
def answered (plan : RouterPlan) : Except Failure PUnit :=
  (helperStatus surroundings plan.vmID).map fun _ => ⟨⟩

theorem sendAll_sent (operation : RouterOperation) (plans : List RouterPlan)
    (effects : Effects) :
    (sendAll surroundings operation plans effects).2.sent =
      effects.sent ++ Attempts.reached (answered surroundings) plans := by
  induction plans generalizing effects with
  | nil => exact (List.append_nil _).symm
  | cons plan rest ih =>
      cases status : helperStatus surroundings plan.vmID with
      | error failure =>
          have fails : answered surroundings plan = .error failure := by
            rw [answered, status]
            rfl
          rw [Attempts.reached_cons_of_error fails]
          simp [sendAll, send, bind, Procedure.bind, writing, reading, status]
      | ok answer =>
          have succeeds : answered surroundings plan = .ok ⟨⟩ := by
            rw [answered, status]
            rfl
          have first : ∃ changed after,
              send surroundings operation plan effects =
                (.ok changed, after) ∧
              after.sent = effects.sent ++ [plan] := by
            by_cases applies : operation = .apply
            · simp [send, bind, pure, Procedure.bind, Procedure.pure, writing,
                reading, status, applies]
            · simp [send, bind, pure, Procedure.bind, Procedure.pure, writing,
                reading, status, applies]
          obtain ⟨changed, after, sent, isAfter⟩ := first
          have rest_sent := ih after
          rw [Attempts.reached_cons_of_ok succeeds]
          have kept : (sendAll surroundings operation (plan :: rest)
              effects).2.sent =
                (sendAll surroundings operation rest after).2.sent := by
            simp only [sendAll, bind, Procedure.bind, sent]
            split
            · rename_i returned
              rw [returned]
              rfl
            · rename_i failed
              rw [failed]
          rw [kept, rest_sent, isAfter, List.append_assoc]
          rfl

/-- A call that has sent nothing and has given no events. -/
def untouched : Effects := ⟨[], []⟩

/-- The whole call. -/
def routeApply (params : Option JSONValue) :
    Except Failure JSONValue × Effects :=
  route surroundings .apply params untouched

variable {surroundings} {params : Option JSONValue}

/-- The plans that a call comes to, unless it is refused before. -/
def planned (surroundings : Surroundings) (params : Option JSONValue) :
    Except Failure (List RouterPlan) := do
  let request ← request surroundings .apply params
  plans surroundings request

theorem routeApply_of_refused {failure : Failure}
    (refused : planned surroundings params = .error failure) :
    routeApply surroundings params = (.error failure, untouched) := by
  unfold planned at refused
  unfold routeApply route
  cases asked : request surroundings .apply params with
  | error other =>
      rw [asked] at refused
      have same : other = failure := Except.error.inj refused
      simp [bind, Procedure.bind, reading, same]
  | ok request =>
      rw [asked] at refused
      have unplanned : plans surroundings request = .error failure := refused
      simp [bind, Procedure.bind, reading, unplanned]

theorem routeApply_sent {made : List RouterPlan}
    (accepted : planned surroundings params = .ok made) :
    (routeApply surroundings params).2.sent =
      Attempts.reached (answered surroundings) made := by
  unfold planned at accepted
  obtain ⟨request, asked, made_eq⟩ := Outcome.bind_eq_ok_iff.mp accepted
  have sent := sendAll_sent surroundings .apply made untouched
  have kept : (routeApply surroundings params).2.sent =
      (sendAll surroundings .apply made untouched).2.sent := by
    unfold routeApply route
    simp only [bind, Procedure.bind, reading, asked, made_eq]
    split
    · rename_i returned
      rw [returned]
      rfl
    · rename_i failed
      rw [failed]
  rw [kept, sent]
  rfl

end Sending

/-! ## Assignment -/

section Assignment

variable {surroundings : Surroundings} {params : Option JSONValue}
  {asked : Request} {made : List RouterPlan} {policy : ForwardPolicy}

/-- No policy shares its name with one that a router takes, unless a router
takes it too. -/
def NamesTellApart (request : Request) : Prop :=
  ∀ policy ∈ request.policies, ∀ other ∈ request.policies,
    policy.name = other.name →
    (∃ router ∈ request.routers, Takes request router other) →
      ∃ router ∈ request.routers, Takes request router policy

/-- Behind a router whose helper fails, no router takes a policy. -/
def HelpersAnswer (surroundings : Surroundings) (request : Request) :
    Prop :=
  request.routers.Pairwise fun earlier later =>
    (helperStatus surroundings earlier.vmID).isOk = true ∨
      ∀ policy ∈ request.policies, ¬ Takes request later policy

theorem mem_plan_iff (plansOf : PlansOf asked made) :
    (∃ plan ∈ made, policy ∈ plan.policies) ↔
      policy ∈ asked.policies ∧
        ∃ router ∈ asked.routers, Takes asked router policy := by
  obtain ⟨ofRouter, ofPlan⟩ := InStep.exists_of_forall₂ plansOf.planOf
  constructor
  · intro found
    obtain ⟨plan, member, inside⟩ := found
    obtain ⟨router, isRouter, planOf⟩ := ofPlan plan member
    obtain ⟨given, takes⟩ := (planOf.policies policy).mp inside
    exact ⟨given, router, isRouter, takes⟩
  · intro found
    obtain ⟨given, router, member, takes⟩ := found
    obtain ⟨plan, isPlan, planOf⟩ := ofRouter router member
    exact ⟨plan, isPlan, (planOf.policies policy).mpr ⟨given, takes⟩⟩

theorem countP_le_one (plansOf : PlansOf asked made)
    (given : policy ∈ asked.policies) :
    made.countP (fun plan => policy ∈ plan.policies) ≤ 1 :=
  countP_le_matched.trans_eq (plansOf.matchedOnce policy given)

/-- The count by names finds a router for every policy when names tell them
apart. -/
theorem namesTellApart_iff (plansOf : PlansOf asked made) :
    NamesTellApart asked ↔ ∀ policy ∈ asked.policies,
      ∃ router ∈ asked.routers, Takes asked router policy := by
  constructor
  · intro apart policy given
    have once := plansOf.matchedOnce policy given
    obtain ⟨plan, isPlan, other, inside, sameName⟩ :=
      exists_of_matched (by omega : 0 < matched made policy.name)
    obtain ⟨otherGiven, taken⟩ :=
      (mem_plan_iff plansOf).mp ⟨plan, isPlan, inside⟩
    exact apart policy given other otherGiven sameName.symm taken
  · intro taken policy given _ _ _ _
    exact taken policy given

theorem isOk_helperStatus_iff {plan : RouterPlan} :
    answered surroundings plan = .ok ⟨⟩ ↔
      (helperStatus surroundings plan.vmID).isOk = true := by
  cases status : helperStatus surroundings plan.vmID with
  | ok answer =>
      simp [answered, status, Except.map, Except.isOk, Except.toBool]
  | error failure =>
      simp [answered, status, Except.map, Except.isOk, Except.toBool]

theorem helpersAnswer_iff (plansOf : PlansOf asked made) :
    HelpersAnswer surroundings asked ↔
      ∀ plan ∈ Attempts.unreached (answered surroundings) made,
        plan.policies = [] := by
  rw [Attempts.forall_unreached_iff]
  refine InStep.pairwise_iff_of_forall₂ ?_ plansOf.planOf
  intro earlier plan later behind planOf planBehind
  rw [isOk_helperStatus_iff, planOf.vmID, List.eq_nil_iff_forall_not_mem]
  constructor
  · intro either
    refine either.imp id ?_
    intro none policy inside
    obtain ⟨given, takes⟩ := (planBehind.policies policy).mp inside
    exact none policy given takes
  · intro either
    refine either.imp id ?_
    intro none policy given takes
    exact none policy ((planBehind.policies policy).mpr ⟨given, takes⟩)

/-- Every policy is in one of the plans that are reached, and in no other,
exactly when it is in one of all plans and none is left behind. -/
theorem reached_once_iff (plansOf : PlansOf asked made) :
    (∀ policy ∈ asked.policies,
        (Attempts.reached (answered surroundings) made).countP
          (fun plan => policy ∈ plan.policies) = 1) ↔
      NamesTellApart asked ∧ HelpersAnswer surroundings asked := by
  rw [namesTellApart_iff plansOf, helpersAnswer_iff plansOf]
  have parts : ∀ policy : ForwardPolicy,
      made.countP (fun plan => policy ∈ plan.policies) =
        (Attempts.reached (answered surroundings) made).countP
            (fun plan => policy ∈ plan.policies) +
          (Attempts.unreached (answered surroundings) made).countP
            (fun plan => policy ∈ plan.policies) := by
    intro policy
    rw [← List.countP_append, Attempts.reached_append_unreached]
  have isPart : ∀ plan ∈ Attempts.unreached (answered surroundings) made,
      plan ∈ made := by
    intro plan member
    have split : Attempts.reached (answered surroundings) made ++
        Attempts.unreached (answered surroundings) made = made :=
      Attempts.reached_append_unreached
    rw [← split]
    exact List.mem_append_right _ member
  constructor
  · intro once
    constructor
    · intro policy given
      have found : 0 < made.countP fun plan => policy ∈ plan.policies := by
        have total := parts policy
        have one := once policy given
        omega
      obtain ⟨plan, isPlan, inside⟩ := List.countP_pos_iff.mp found
      exact ((mem_plan_iff plansOf).mp
        ⟨plan, isPlan, by simpa using inside⟩).2
    · intro plan behind
      rw [List.eq_nil_iff_forall_not_mem]
      intro policy inside
      obtain ⟨given, _⟩ :=
        (mem_plan_iff plansOf).mp ⟨plan, isPart plan behind, inside⟩
      have another : 0 < (Attempts.unreached (answered surroundings)
          made).countP fun plan => policy ∈ plan.policies :=
        List.countP_pos_iff.mpr ⟨plan, behind, by simpa using inside⟩
      have total := parts policy
      have one := once policy given
      have most := countP_le_one plansOf given
      omega
  · intro both policy given
    obtain ⟨taken, noneBehind⟩ := both
    obtain ⟨plan, isPlan, inside⟩ :=
      (mem_plan_iff plansOf).mpr ⟨given, taken policy given⟩
    have found : 0 < made.countP fun plan => policy ∈ plan.policies :=
      List.countP_pos_iff.mpr ⟨plan, isPlan, by simpa using inside⟩
    have nothing : (Attempts.unreached (answered surroundings)
        made).countP (fun plan => policy ∈ plan.policies) = 0 := by
      rw [List.countP_eq_zero]
      intro other behind
      simp [noneBehind other behind]
    have total := parts policy
    have most := countP_le_one plansOf given
    omega

/-! ## Every call -/

/-- The policies that a call is given. -/
def givenPolicies (params : Option JSONValue) :
    Except Failure (List ForwardPolicy) := do
  let fields ← paramFields params
  forwardPolicies (fields.lookup "policies")

/-- The call fails before any helper is contacted. -/
def Refused (surroundings : Surroundings) (params : Option JSONValue) :
    Prop :=
  (routeApply surroundings params).1.isOk = false ∧
    (routeApply surroundings params).2.sent = []

/-- Each policy is in exactly one of the plans that are sent to helpers. -/
def AssignsOnce (surroundings : Surroundings) (params : Option JSONValue) :
    Prop :=
  ∃ policies, givenPolicies params = .ok policies ∧
    ∀ policy ∈ policies,
      (routeApply surroundings params).2.sent.countP
        (fun plan => policy ∈ plan.policies) = 1

theorem require_eq_ok_iff {condition : Bool} {message : String}
    {done : Unit} :
    require condition message = .ok done ↔ condition = true := by
  cases condition with
  | true => simp [require]
  | false => simp [require]

theorem request_spec
    (isRequest : request surroundings .apply params = .ok asked) :
    givenPolicies params = .ok asked.policies ∧ asked.routers ≠ [] := by
  unfold request at isRequest
  obtain ⟨fields, read, isRequest⟩ := Outcome.bind_eq_ok_iff.mp isRequest
  obtain ⟨_, _, isRequest⟩ := Outcome.bind_eq_ok_iff.mp isRequest
  obtain ⟨_, _, isRequest⟩ := Outcome.bind_eq_ok_iff.mp isRequest
  obtain ⟨policies, given, isRequest⟩ := Outcome.bind_eq_ok_iff.mp isRequest
  obtain ⟨_, _, isRequest⟩ := Outcome.bind_eq_ok_iff.mp isRequest
  obtain ⟨routers, _, isRequest⟩ := Outcome.bind_eq_ok_iff.mp isRequest
  obtain ⟨_, running, isRequest⟩ := Outcome.bind_eq_ok_iff.mp isRequest
  have same := Outcome.pure_eq_ok_iff.mp isRequest
  rw [requestPolicies, if_neg (by decide)] at given
  rw [← same]
  constructor
  · rw [givenPolicies, read]
    exact given
  · intro noRouter
    have nonempty : routers.isEmpty = false := by
      simpa using require_eq_ok_iff.mp running
    have noLength : (sortedBy (·.vmID) routers).length = 0 :=
      List.length_eq_zero_iff.mpr noRouter
    rw [SortedBy.length_sortedBy] at noLength
    rw [List.length_eq_zero_iff.mp noLength] at nonempty
    cases nonempty

/-- Either each policy is in exactly one of the plans that are sent or the
call fails before any helper is contacted, exactly when, for a call that has
plans, names tell policies apart and helpers answer. -/
theorem refused_or_assignsOnce_iff (surroundings : Surroundings)
    (params : Option JSONValue) :
    Refused surroundings params ∨ AssignsOnce surroundings params ↔
      ∀ asked, request surroundings .apply params = .ok asked →
        (plans surroundings asked).isOk = true →
          NamesTellApart asked ∧ HelpersAnswer surroundings asked := by
  cases result : planned surroundings params with
  | error failure =>
      have refused : Refused surroundings params := by
        rw [Refused, routeApply_of_refused result]
        exact ⟨rfl, rfl⟩
      constructor
      · intro _ asked isRequest hasPlans
        obtain ⟨made, isMade⟩ := Outcome.exists_of_isOk hasPlans
        rw [planned, isRequest] at result
        have failed : plans surroundings asked = .error failure := result
        rw [failed] at isMade
        cases isMade
      · intro _
        exact .inl refused
  | ok made =>
      have sent := routeApply_sent result
      unfold planned at result
      obtain ⟨asked, isRequest, isMade⟩ := Outcome.bind_eq_ok_iff.mp result
      obtain ⟨given, someRouter⟩ := request_spec isRequest
      have plansOf := plansOf_of_plans isMade
      have contacted : ¬ Refused surroundings params := by
        intro refused
        have nothing := refused.2
        rw [sent] at nothing
        have inStep := plansOf.planOf.length_eq
        cases made with
        | nil => exact someRouter (List.length_eq_zero_iff.mp inStep)
        | cons plan rest =>
            exact List.ne_nil_of_mem Attempts.head_mem_reached nothing
      have once : AssignsOnce surroundings params ↔
          NamesTellApart asked ∧ HelpersAnswer surroundings asked := by
        rw [← reached_once_iff plansOf, ← sent]
        constructor
        · intro assigned
          obtain ⟨policies, isGiven, eachOnce⟩ := assigned
          rw [given] at isGiven
          rw [Except.ok.inj isGiven]
          exact eachOnce
        · intro eachOnce
          exact ⟨asked.policies, given, eachOnce⟩
      rw [or_iff_right contacted, once]
      constructor
      · intro holds other isOther _
        rw [← Except.ok.inj (isRequest.symm.trans isOther)]
        exact holds
      · intro holds
        refine holds asked isRequest ?_
        rw [isMade]
        rfl

end Assignment

/-! ## Two policies of one name -/

/-- A router between two of three networks of a project. -/
def oneRouter : Surroundings where
  helpers := [⟨"lab/edge", .running, 4711, "/bundles/edge", none, "now"⟩]
  snapshot := .ok {
    networks := [network "lan" "10.90.0.0/24", network "dmz" "10.80.0.0/24",
      network "guests" "10.70.0.0/24"]
    attachments := [attachment "lan" "10.90.0.2",
      attachment "dmz" "10.80.0.2"] }
  manifest := fun _ => .ok (.object [("roles", .array [.string "router"])])
  helper := fun _ => .ok (.object [("changed", .bool true)])
where
  network (name cidr : String) : NetworkRecord :=
    ⟨name, name, cidr, "shared", true, "vmnet", [], none, none, "running",
      none, "now"⟩
  attachment (name ip : String) : NetworkAttachmentRecord :=
    ⟨"lab/edge", name, name, ip, [], none, none, "now"⟩

/-- A policy `web` as it comes in a call. -/
def webPolicy (network : String) : JSONValue :=
  .object [
    ("name", .string "web"), ("network", .string network),
    ("forward", .string "deny-all"),
    ("allow", .array [.object [("to", .string "dmz"),
      ("proto", .string "tcp"), ("ports", .array [.number 80])]])]

def twiceWeb : Option JSONValue :=
  some (.object [("project", .string "lab"),
    ("policies", .array [webPolicy "lan", webPolicy "guests"])])

/-- The policy for a network that no router has is dropped. -/
theorem twiceWeb_is_dropped :
    (routeApply oneRouter twiceWeb).1.isOk = true ∧
      ¬ (Refused oneRouter twiceWeb ∨ AssignsOnce oneRouter twiceWeb) := by
  have succeeds : (routeApply oneRouter twiceWeb).1.isOk = true := by
    rfl
  have given : givenPolicies twiceWeb = .ok
      [⟨"web", "lan", "deny-all", [⟨"dmz", "tcp", [80]⟩], none⟩,
        ⟨"web", "guests", "deny-all", [⟨"dmz", "tcp", [80]⟩], none⟩] := by
    rfl
  have dropped : (routeApply oneRouter twiceWeb).2.sent.countP
      (fun plan => ⟨"web", "guests", "deny-all", [⟨"dmz", "tcp", [80]⟩],
        none⟩ ∈ plan.policies) = 0 := by
    rfl
  refine ⟨succeeds, ?_⟩
  intro either
  rcases either with refused | assigned
  · rw [refused.1] at succeeds
    cases succeeds
  · obtain ⟨policies, isGiven, eachOnce⟩ := assigned
    rw [given] at isGiven
    have once := eachOnce
      ⟨"web", "guests", "deny-all", [⟨"dmz", "tcp", [80]⟩], none⟩
      (Except.ok.inj isGiven ▸ by simp)
    rw [dropped] at once
    cases once

end RouteRPC

end Vzctl
