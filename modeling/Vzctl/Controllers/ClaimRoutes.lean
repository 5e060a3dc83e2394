import Vzctl.Controllers.EdgeClaims
import Vzctl.Lib.Outcome
import Vzctl.Lib.Transition

/-!
# Published claim routes

When the route of a claim that was reported Ready stays in every intent that
is stored later.
-/

namespace Vzctl

namespace EdgeClaims

open Ingress Outcome Transitions

variable {encoding : Encoding} {stack : Stack}

/-! ## Upstreams that can be used again -/

theorem parseU16_toDigits {number : Nat} (small : number < 65536) :
    parseU16 (String.ofList (Nat.toDigits 10 number)) =
      some (UInt16.ofNat number) := by
  have plain : ∀ digit ∈ Nat.toDigits 10 number, digit.isDigit = true :=
    fun digit member =>
      Nat.isDigit_of_mem_toDigits (by decide) (by decide) member
  have nonempty : Nat.toDigits 10 number ≠ [] := Nat.toDigits_ne_nil
  have unsigned : ∀ rest, Nat.toDigits 10 number ≠ '+' :: rest := by
    intro rest signed
    have plus := plain '+' (signed ▸ List.mem_cons_self)
    cases plus
  simpa [parseU16, nonempty, small] using plain

theorem publishedPort_range {service : JSONValue} {number : Nat}
    (published : publishedPort service = .ok number) :
    0 < number ∧ number ≤ 65535 := by
  unfold publishedPort at published
  split at published
  · rename_i port allocated
    cases published
    have inRange := (Option.filter_eq_some_iff.mp allocated).2
    exact of_decide_eq_true inRange
  · cases published

theorem mem_vms_of_clusterServer {backend : KubernetesService}
    {server : String}
    (found : clusterServer stack backend = .ok server) :
    ∃ networks, stack.vms.lookup server = some networks := by
  unfold clusterServer at found
  split at found
  · cases found
  · rename_i cluster _
    split at found
    · rename_i attached
      cases found
      cases inside : stack.vms.lookup cluster.server with
      | some networks => exact ⟨networks, rfl⟩
      | none =>
          rw [inside] at attached
          cases attached
    · cases found

theorem reusable_upstream {server : String} {number : Nat}
    (declared : ∃ networks, stack.vms.lookup server = some networks)
    (plain : ':' ∉ server.toList)
    (inRange : 0 < number ∧ number ≤ 65535) :
    reusable stack
      (server ++ ":" ++ String.ofList (Nat.toDigits 10 number)) = true := by
  obtain ⟨networks, declared⟩ := declared
  have name : (server.toList ++ ':' :: Nat.toDigits 10 number).takeWhile
      (· ≠ ':') = server.toList := by
    rw [List.takeWhile_append_of_pos (by
      intro letter member
      exact decide_eq_true fun same => plain (same ▸ member))]
    simp
  have rest : (server.toList ++ ':' :: Nat.toDigits 10 number).dropWhile
      (· ≠ ':') = ':' :: Nat.toDigits 10 number := by
    rw [List.dropWhile_append_of_pos (by
      intro letter member
      exact decide_eq_true fun same => plain (same ▸ member))]
    simp
  have text : (server ++ ":" ++
      String.ofList (Nat.toDigits 10 number)).toList =
        server.toList ++ ':' :: Nat.toDigits 10 number := by
    simp
  have positive : 0 < UInt16.ofNat number := by
    have small : number < UInt16.size := by
      have size : UInt16.size = 65536 := rfl
      omega
    rw [UInt16.lt_iff_toNat_lt, UInt16.toNat_ofNat_of_lt' small]
    exact inRange.1
  unfold reusable
  rw [text, name, rest]
  simp only [String.ofList_toList, declared, Option.isSome_some, Bool.true_and]
  rw [parseU16_toDigits (by omega), Option.any_some]
  exact decide_eq_true positive

theorem reusable_of_nodePort {name : String} {backend : KubernetesService}
    {calls : NodePortCalls} {upstream : String}
    (plainNames : ∀ vm ∈ stack.vms, ':' ∉ vm.1.toList)
    (resolved :
      nodePort encoding stack name backend calls = .ok upstream) :
    reusable stack upstream = true := by
  simp only [nodePort, bind_eq_ok_iff] at resolved
  obtain ⟨server, onNetwork, _, _, _, _, _, _, _, _, _, _, current, _,
    number, published, text⟩ := resolved
  have declared := mem_vms_of_clusterServer onNetwork
  obtain ⟨networks, found⟩ := declared
  have plain := plainNames _ (KeyedList.mem_of_lookup found)
  cases text
  exact reusable_upstream ⟨networks, found⟩ plain
    (publishedPort_range published)

/-! ## Resolved routes -/

theorem resolveClaim_ok {name : String} {claim : Claim}
    {calls : NodePortCalls} {route : IngressRoute}
    (resolved : resolveClaim encoding stack name claim calls = .ok route) :
    ∃ host backend,
      claim.host = some host ∧ claim.backend = some backend ∧
        claimUpstream encoding stack name calls backend =
          .ok route.target ∧
        stack.ingressEnabled = true ∧ route.host = host := by
  unfold resolveClaim at resolved
  split at resolved
  · cases resolved
  · rename_i host hosted
    split at resolved
    · cases resolved
    · rename_i backend backed
      obtain ⟨upstream, reached, resolved⟩ := bind_eq_ok_iff.mp resolved
      split at resolved
      · rename_i enabled
        cases resolved
        exact ⟨host, backend, hosted, backed, reached, enabled, rfl⟩
      · cases resolved

/-- A claim that resolved once fails only in `node_port` while the ingress is
enabled. -/
theorem resolveClaim_again {name : String} {claim : Claim}
    {earlier later : NodePortCalls} {route : IngressRoute}
    {error : ControllerError}
    (resolved : resolveClaim encoding stack name claim earlier = .ok route)
    (fails : resolveClaim encoding stack name claim later = .error error) :
    ∃ service, claim.backend = some (.kubernetes service) ∧
      nodePort encoding stack name service earlier = .ok route.target := by
  obtain ⟨host, backend, hosted, backed, reached, enabled, _⟩ :=
    resolveClaim_ok resolved
  cases backend with
  | kubernetes service => exact ⟨service, backed, reached⟩
  | vm vm port =>
      unfold resolveClaim at fails
      rw [hosted, backed] at fails
      simp only [claimUpstream, enabled] at fails
      cases fails

theorem previousRoute_of_record {claim : Claim} {error : ControllerError}
    {record : Record} {host backend : String}
    (retained : retains error.code = true)
    (hosted : claim.host = some host)
    (sameHost : record.host = some host)
    (sameBackend : record.backend = some backend)
    (again : reusable stack backend = true) :
    previousRoute stack claim error (some record) =
      some ⟨host, backend, []⟩ := by
  unfold previousRoute
  rw [if_pos retained, hosted]
  dsimp only
  rw [if_pos sameHost, sameHost, sameBackend]
  dsimp only
  rw [if_pos again]

/-! ## Reports and records -/

/-- A claim that was reported Ready has a record of a route that it resolved
to. -/
def Remembered (encoding : Encoding) (stack : Stack) (state : State)
    (name : String) : Prop :=
  ∃ claim calls route record,
    stack.ingressClaim name = some claim ∧
      resolveClaim encoding stack name claim calls = .ok route ∧
      state.records name = some record ∧
      record.host = some route.host ∧ record.backend = some route.target

/-- Every intent has a route for each host whose claim had been reported
Ready, with the upstream resolved last. -/
def Published (stack : Stack) (moment : Moment) : Prop :=
  ∀ name claim host, stack.ingressClaim name = some claim →
    claim.host = some host → moment.ready name = true →
    ∃ route ∈ moment.routes,
      route.host = host ∧ moment.resolved name = some route.target

/-- If the run stores an intent, then each claim that was reported Ready
resolves, or fails with an error that keeps its route while its record still
has the upstream resolved last. -/
def Keeps (encoding : Encoding) (stack : Stack) (run : Run)
    (state : State) : Prop :=
  run.stores stack = true →
    ∀ name claim error, stack.ingressClaim name = some claim →
      state.ready name = true →
      resolveIn encoding stack run name claim = .error error →
      retains error.code = true ∧
        ∃ record, state.records name = some record ∧
          record.backend = state.resolved name

/-- What the routes of every run so far rest on. -/
structure ClaimsKept (encoding : Encoding) (stack : Stack)
    (state : State) : Prop where
  remembered : ∀ name, state.ready name = true →
    Remembered encoding stack state name
  published : ∀ moment ∈ state.moments, Published stack moment

theorem claimResult_ok {run : Run} {name : String} {claim : Claim}
    {route : IngressRoute}
    (succeeds : claimResult encoding stack run name claim = .ok route) :
    resolveIn encoding stack run name claim = .ok route := by
  unfold claimResult at succeeds
  split at succeeds
  · cases succeeds
  · split at succeeds
    · cases succeeds
    · obtain ⟨found, resolved, succeeds⟩ := bind_eq_ok_iff.mp succeeds
      split at succeeds
      · cases succeeds
      · split at succeeds
        · cases succeeds
          exact resolved
        · cases succeeds

theorem Remembered.reconcile {run : Run} {state : State} {name : String}
    (remembered : state.ready name = true →
      Remembered encoding stack state name)
    (ready : readyAfter encoding stack run state name = true) :
    Remembered encoding stack
      { state with records := recordAfter encoding stack run state }
      name := by
  cases known : stack.ingressClaim name with
  | none =>
      simp only [readyAfter, known, Bool.or_false] at ready
      obtain ⟨claim, _, _, _, other, _⟩ := remembered ready
      rw [known] at other
      cases other
  | some claim =>
      simp only [readyAfter, known, Bool.or_eq_true, Bool.and_eq_true]
        at ready
      cases recorded : run.recorded name with
      | false =>
          rw [recorded] at ready
          obtain ⟨claim, calls, route, record, isClaim, resolved, kept,
            sameHost, sameBackend⟩ := remembered (by simpa using ready)
          refine ⟨claim, calls, route, record, isClaim, resolved, ?_,
            sameHost, sameBackend⟩
          simp only [recordAfter, known, recorded]
          exact kept
      | true =>
          cases result : claimResult encoding stack run name claim with
          | ok route =>
              refine ⟨claim, run.calls name, route,
                ⟨.ready, some route.host, some route.target⟩, known,
                claimResult_ok result, ?_, rfl, rfl⟩
              simp only [recordAfter, known, recorded, result]
              rfl
          | error error =>
              rw [result] at ready
              obtain ⟨claim, calls, route, record, isClaim, resolved, kept,
                sameHost, sameBackend⟩ :=
                  remembered (ready.resolve_right (by rintro ⟨_, ok⟩; cases ok))
              refine ⟨claim, calls, route,
                writeRecord (some record) (.error error), isClaim, resolved,
                ?_, sameHost, sameBackend⟩
              simp only [recordAfter, known, recorded, result, kept]
              rfl

theorem mem_claims_of_ingressClaim {name : String} {claim : Claim}
    (known : stack.ingressClaim name = some claim) :
    (name, claim) ∈ stack.claims ∧ claim.kind = .ingress := by
  obtain ⟨found, isIngress⟩ := Option.filter_eq_some_iff.mp known
  exact ⟨KeyedList.mem_of_lookup found, of_decide_eq_true isIngress⟩

theorem resolves_of_stores {run : Run} (stores : run.stores stack = true) :
    run.resolves = true := by
  simp only [Run.stores, Run.reachesEdge, Bool.and_eq_true] at stores
  exact stores.1.1.1

theorem published_of_stores {run : Run} {state : State}
    (plainNames : ∀ vm ∈ stack.vms, ':' ∉ vm.1.toList)
    (remembered : ∀ name, state.ready name = true →
      Remembered encoding stack state name)
    (keeps : Keeps encoding stack run state)
    (stores : run.stores stack = true) :
    Published stack
      ⟨projectedRoutes encoding stack run state.records, state.ready,
        resolvedAfter encoding stack run state⟩ := by
  intro name claim host known hosted ready
  dsimp only at ready ⊢
  have member := mem_claims_of_ingressClaim known
  have resolves := resolves_of_stores stores
  have projected : ∀ route,
      claimRoute encoding stack run state.records (name, claim) =
        some route →
      route ∈ projectedRoutes encoding stack run state.records :=
    fun route ofClaim => List.mem_append_right _
      (List.mem_filterMap.mpr ⟨_, member.1, ofClaim⟩)
  cases outcome : resolveIn encoding stack run name claim with
  | ok route =>
      refine ⟨route, projected route ?_, ?_, ?_⟩
      · simp only [claimRoute, member.2, outcome]
        rfl
      · obtain ⟨found, _, foundHost, _, _, _, sameHost⟩ :=
          resolveClaim_ok outcome
        rw [sameHost]
        exact Option.some.inj (foundHost.symm.trans hosted)
      · simp only [resolvedAfter, known, resolves, outcome]
        rfl
  | error error =>
      obtain ⟨retained, record, kept, current⟩ :=
        keeps stores name claim error known ready outcome
      obtain ⟨same, calls, route, other, isClaim, resolved, recorded,
        sameHost, sameBackend⟩ := remembered name ready
      cases Option.some.inj (known.symm.trans isClaim)
      cases Option.some.inj (kept.symm.trans recorded)
      obtain ⟨found, _, foundHost, _, _, _, routeHost⟩ :=
        resolveClaim_ok resolved
      cases Option.some.inj (foundHost.symm.trans hosted)
      obtain ⟨service, _, byNodePort⟩ := resolveClaim_again resolved outcome
      have again := reusable_of_nodePort plainNames byNodePort
      refine ⟨⟨host, route.target, []⟩, projected _ ?_, rfl, ?_⟩
      · simp only [claimRoute, member.2, outcome, kept]
        exact previousRoute_of_record retained hosted
          (sameHost.trans (congrArg some routeHost)) sameBackend again
      · simp only [resolvedAfter, known, resolves, outcome]
        exact current.symm.trans sameBackend

theorem ClaimsKept.reconcile {run : Run} {state : State}
    (plainNames : ∀ vm ∈ stack.vms, ':' ∉ vm.1.toList)
    (kept : ClaimsKept encoding stack state)
    (keeps : Keeps encoding stack run state) :
    ClaimsKept encoding stack
      (EdgeClaims.reconcile encoding stack run state) := by
  unfold EdgeClaims.reconcile
  split
  · exact kept
  · constructor
    · intro name ready
      exact Remembered.reconcile (kept.remembered name) ready
    · intro moment member
      dsimp only at member
      split at member
      · rename_i stores
        rcases List.mem_append.mp member with earlier | new
        · exact kept.published moment earlier
        · cases List.mem_singleton.mp new
          exact published_of_stores plainNames kept.remembered keeps stores
      · exact kept.published moment member

/-! ## Runs of a project -/

namespace Project

variable (encoding : Encoding) (project : Project)

/-- The reconcile of an event, if there is one, keeps the claims. -/
def Keeps (state : State) : Event → Prop
  | .reconcile run => EdgeClaims.Keeps encoding project.toStack run state
  | .apply _ (some run) =>
      EdgeClaims.Keeps encoding project.toStack run state
  | .apply _ none => True

variable {encoding} {project}

theorem no_claims_of_controllers (none : project.hasControllers = false) :
    project.claims = [] := by
  by_contra someClaim
  simp only [hasControllers, Bool.or_eq_false_iff, Bool.not_eq_false',
    List.isEmpty_iff] at none
  rcases project.discovered someClaim with declared | clusters
  · exact declared none.1
  · exact clusters none.2

theorem ClaimsKept.ensureIngress (outcome : EdgeOutcome) {state : State}
    (kept : ClaimsKept encoding project.toStack state) :
    ClaimsKept encoding project.toStack
      (project.ensureIngress outcome state) := by
  unfold Project.ensureIngress
  split
  · exact kept
  · rename_i controllers
    split
    · have noClaims :=
        no_claims_of_controllers (Bool.eq_false_iff.mpr controllers)
      refine ⟨kept.remembered, ?_⟩
      intro moment member
      rcases List.mem_append.mp member with earlier | new
      · exact kept.published moment earlier
      · intro name claim host known
        have inside := (mem_claims_of_ingressClaim known).1
        rw [noClaims] at inside
        cases inside
    · exact kept

theorem keeps_ensureIngress {outcome : EdgeOutcome} {run : Run}
    {state : State}
    (keeps : EdgeClaims.Keeps encoding project.toStack run state) :
    EdgeClaims.Keeps encoding project.toStack run
      (project.ensureIngress outcome state) := by
  unfold Project.ensureIngress
  split
  · exact keeps
  · split
    · exact keeps
    · exact keeps

theorem ClaimsKept.ensureServiceClaims {run : Run} {state : State}
    (kept : ClaimsKept encoding project.toStack state)
    (keeps : EdgeClaims.Keeps encoding project.toStack run state) :
    ClaimsKept encoding project.toStack
      (project.ensureServiceClaims encoding run state) := by
  unfold Project.ensureServiceClaims
  split
  · exact kept.reconcile project.plainNames keeps
  · exact kept

/-- An apply publishes routes without those of the claims only where there are
no claims. -/
theorem ClaimsKept.step {state : State} {event : Event}
    (kept : ClaimsKept encoding project.toStack state)
    (keeps : project.Keeps encoding state event) :
    ClaimsKept encoding project.toStack
      (project.step encoding state event) := by
  cases event with
  | reconcile run => exact kept.reconcile project.plainNames keeps
  | apply ensured claims =>
      cases ensured with
      | none =>
          cases claims with
          | none => exact kept
          | some run => exact ClaimsKept.ensureServiceClaims kept keeps
      | some outcome =>
          have published := ClaimsKept.ensureIngress outcome kept
          cases claims with
          | none => exact published
          | some run =>
              exact ClaimsKept.ensureServiceClaims published
                (keeps_ensureIngress keeps)

/-- Where every reconcile keeps the claims, each stored intent has the routes
of all claims reported Ready before it. -/
theorem claim_routes_of_runs (encoding : Encoding) (project : Project)
    {source target : State}
    (noIntents : source.moments = [])
    (unreported : ∀ name, source.ready name = false)
    (run : Runs
      (guarded (project.Keeps encoding) (ofFunction (project.step encoding)))
      source target) :
    ∀ moment ∈ target.moments, Published project.toStack moment := by
  have initial : ClaimsKept encoding project.toStack source := by
    constructor
    · intro name ready
      rw [unreported] at ready
      cases ready
    · intro moment member
      rw [noIntents] at member
      cases member
  have kept := invariant_of_runs (ClaimsKept encoding project.toStack)
    (by
      rintro earlier event later kept ⟨keeps, rfl⟩
      exact ClaimsKept.step kept keeps)
    initial run
  exact kept.published

/-! ## A claim on a cluster -/

def webClaim : Claim where
  kind := .ingress
  host := some "web.vz.test"
  backend := some (.kubernetes ⟨"main", "default", "web", 80⟩)

def webProject : Project where
  project := "demo"
  vms := [("server", ["lan"])]
  clusters := [("main", ⟨"server", "lan"⟩)]
  ingress := some ⟨true, "lan", 80, 443, false, true, []⟩
  claims := [("web", webClaim)]
  declared := [("web", webClaim)]
  plainNames := by decide
  discovered := fun _ => .inl (by simp)

def plainEncoding : Encoding where
  digest text := text
  encodedLength _ := 512

def printed (value : JSONValue) : GuestReply where
  registration := .current
  executed := some ⟨0, false, .json value⟩

def webSelector : JSONValue := .object [("app", .string "web")]

def webService : JSONValue :=
  .object [("spec", .object [("selector", webSelector),
    ("ports", .array [.object [("port", .number 80)]])])]

def nodePortService : JSONValue :=
  .object [("spec", .object [
    ("ports", .array [.object [("nodePort", .number 31080)]])])]

/-- The Service is created on port 31080. -/
def createdCalls : NodePortCalls where
  source := printed webService
  managed := ⟨.current, some ⟨0, false, .blank⟩⟩
  written _ _ := printed nodePortService

def runOf (calls : NodePortCalls) : Run where
  discovery := .complete
  permission := .current
  calls _ := calls
  permissionAfter := .current
  edge := .published
  recorded _ := true

def kubectlFails : NodePortCalls :=
  { createdCalls with source := ⟨.current, some ⟨1, false, .blank⟩⟩ }

def guestTimesOut : NodePortCalls :=
  { createdCalls with source := ⟨.current, none⟩ }

def newState : State := ⟨fun _ => none, [], fun _ => false, fun _ => none⟩

def afterEvents (events : List Event) : State :=
  events.foldl (webProject.step plainEncoding) newState

theorem name_of_webClaim {name : String} {claim : Claim}
    (known : webProject.ingressClaim name = some claim) :
    name = "web" ∧ claim = webClaim := by
  have inside : (name, claim) ∈ [("web", webClaim)] :=
    (mem_claims_of_ingressClaim known).1
  cases List.mem_singleton.mp inside
  exact ⟨rfl, rfl⟩

def outage : List Event :=
  [.apply none (some (runOf createdCalls)), .reconcile (runOf kubectlFails)]

theorem claim_routes_of_outage :
    (afterEvents outage).moments.length = 2 ∧
      ∀ moment ∈ (afterEvents outage).moments,
        Published webProject.toStack moment := by
  refine ⟨by rfl, ?_⟩
  refine claim_routes_of_runs plainEncoding webProject rfl (fun _ => rfl)
    (Runs.guarded_foldl ⟨?_, ?_, trivial⟩)
  · intro _ name claim error _ ready
    cases ready
  · intro _ name claim error known _ fails
    obtain ⟨rfl, rfl⟩ := name_of_webClaim known
    have unavailable : error = ⟨"KubernetesUnavailable",
        "Kubernetes ingress service operation failed"⟩ := by
      have answered : resolveIn plainEncoding webProject.toStack
          (runOf kubectlFails) "web" webClaim =
            .error ⟨"KubernetesUnavailable",
              "Kubernetes ingress service operation failed"⟩ := by
        rfl
      rw [answered] at fails
      cases fails
      rfl
    rw [unavailable]
    refine ⟨by decide, ⟨.ready, some "web.vz.test", some "server:31080"⟩, ?_,
      ?_⟩
    · rfl
    · rfl

/-- The second reconcile cannot reach the guest and takes the route of a Ready
claim away. -/
theorem claim_route_lost :
    ¬ ∀ (encoding : Encoding) (project : Project) (source target : State),
      source.moments = [] → (∀ name, source.ready name = false) →
      Runs (ofFunction (project.step encoding)) source target →
      ∀ moment ∈ target.moments, Published project.toStack moment := by
  intro always
  have run := Runs.ofFunction_foldl (webProject.step plainEncoding)
    [.apply none (some (runOf createdCalls)),
      .reconcile (runOf guestTimesOut)] newState
  have published := always _ _ _ _ rfl (fun _ => rfl) run
  have last := published _ (List.mem_cons_of_mem _ List.mem_cons_self) "web"
    webClaim "web.vz.test" rfl rfl (by rfl)
  obtain ⟨route, member, _⟩ := last
  have noRoutes : projectedRoutes plainEncoding webProject.toStack
      (runOf guestTimesOut)
      (afterEvents [.apply none (some (runOf createdCalls))]).records =
        [] := by
    rfl
  have inside : route ∈ projectedRoutes plainEncoding webProject.toStack
      (runOf guestTimesOut)
      (afterEvents [.apply none (some (runOf createdCalls))]).records :=
    member
  rw [noRoutes] at inside
  cases inside

end Project

end EdgeClaims

end Vzctl
