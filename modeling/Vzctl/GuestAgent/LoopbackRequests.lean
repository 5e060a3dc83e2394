import Vzctl.GuestAgent.ServiceRequests

/-!
# Which hosts requests go to

The request for a service goes to loopback.  A redirect that names a host goes
to that host, whatever it is, and any other redirect stays where it is.
-/

namespace Vzctl

namespace PublishedServices

open NetURL

variable {url reference : URL} {host : Text} {request : Request}

/-! ## The first request -/

theorem loopbackHost_congr {other : URL} (same : other.host = url.host) :
    LoopbackHost other ↔ LoopbackHost url := by
  rw [LoopbackHost, LoopbackHost, URL.hostname, URL.hostname, URL.port,
    URL.port, same]

theorem scheme_ne_nil (sendable : HTTPScheme url.scheme) :
    url.scheme ≠ [] := by
  intro none
  rw [HTTPScheme, none] at sendable
  exact absurd sendable (by decide)

theorem rootless_eq_nil {raw : Text} (parsed : parse raw = .ok url)
    (some : url.host ≠ []) : url.rootless = [] := by
  obtain ⟨scheme, rest, _, found⟩ := parse_parts parsed
  by_contra rootless
  exact some (found.rootless rootless).1

theorem rootless_of_relative {raw : Text} (parsed : parse raw = .ok url)
    (relative : ¬ url.namesHost) : url.rootless = [] := by
  obtain ⟨scheme, rest, _, found⟩ := parse_parts parsed
  by_contra rootless
  exact relative (.inl (found.rootless rootless).2)

theorem removeEmptyPort_of_port (port : (splitHostPort host).2 ≠ []) :
    removeEmptyPort host = host := by
  rw [removeEmptyPort]
  apply if_neg
  intro colon
  apply port
  obtain ⟨front, parts⟩ := List.getLast?_eq_some_iff.mp colon
  have last : cutLast (byte ':') host = some (front, []) := by
    rw [cutLast, if_pos (by simp [parts]), parts]
    simp
  have valid : validOptionalPort [byte ':'] = true := rfl
  rw [splitHostPort, last]
  simp only [valid, if_true]
  split <;> rfl

theorem newRequest_url {method raw : Text} {body : Option Text}
    (built : newRequest method raw body = .ok request) :
    ∃ parsed, parse raw = .ok parsed ∧
      request.url = { parsed with host := removeEmptyPort parsed.host } := by
  rw [newRequest] at built
  generalize (if method = [] then text "GET" else method) = named at built
  by_cases invalid : named.all isToken = false
  · rw [if_pos invalid] at built
    cases built
  · rw [if_neg invalid] at built
    cases read : parse raw with
    | error failure =>
        rw [read] at built
        cases built
    | ok parsed =>
        rw [read] at built
        cases built
        exact ⟨parsed, rfl, rfl⟩

theorem buildServiceRequest_loopback {origin : Text}
    {params : ServicesHTTPParams}
    (built : buildServiceRequest origin params = .ok request)
    (sendable : Sendable request.url) :
    LoopbackHost request.url ∧ request.url.rootless = [] := by
  rw [buildServiceRequest] at built
  cases readTarget : parse origin with
  | error failure =>
      rw [readTarget] at built
      cases built
  | ok target =>
      cases readPath : parse params.path with
      | error failure =>
          rw [readTarget, readPath] at built
          cases built
      | ok relative =>
          rw [readTarget, readPath] at built
          simp only [] at built
          cases valid : validateLoopbackURL
              (target.resolveReference relative).string with
          | error message =>
              rw [valid] at built
              cases built
          | ok =>
              rw [valid] at built
              obtain ⟨body, _, more⟩ := Outcome.bind_eq_ok_iff.mp built
              obtain ⟨first, made, same⟩ := Outcome.bind_eq_ok_iff.mp more
              cases same
              obtain ⟨parsed, read, sameURL⟩ := newRequest_url made
              obtain ⟨checked, trimmed, http, loopback⟩ :=
                validateLoopbackURL_eq_ok_iff.mp valid
              rw [sameURL] at sendable ⊢
              obtain ⟨_, sameHost⟩ := parse_of_trimSpace trimmed
                (scheme_ne_nil http) loopback.2 read
                (scheme_ne_nil sendable.1)
              have port : (splitHostPort parsed.host).2 ≠ [] := by
                rw [sameHost]
                exact loopback.2
              have unchanged := removeEmptyPort_of_port port
              have some : parsed.host ≠ [] := by
                intro none
                rw [none] at port
                exact port rfl
              have rooted : parsed.rootless = [] := rootless_eq_nil read some
              exact ⟨(loopbackHost_congr (unchanged.trans sameHost)).mpr
                loopback, rooted⟩

/-! ## Redirects -/

/-- A location that names a host the client can send to. -/
def Reachable (reference : URL) : Prop :=
  (reference.scheme = [] ∨ HTTPScheme reference.scheme) ∧ reference.host ≠ []

instance (reference : URL) : Decidable (Reachable reference) :=
  inferInstanceAs (Decidable (_ ∧ _))

/-- The location that the client goes to after the first of the replies, and
the other replies. -/
def nextReference : List Reply → Option (URL × List Reply)
  | [] => none
  | reply :: replies => do
      let location ← reply.redirection
      let reference ← (parse location).toOption
      return (reference, replies)

/-- The locations with a host among the next redirects that are followed. -/
def namedHosts : Nat → List Reply → List URL
  | 0, _ => []
  | remaining + 1, replies =>
      match nextReference replies with
      | none => []
      | some (reference, replies) =>
          if ¬ reference.namesHost then namedHosts remaining replies
          else if Reachable reference then
            reference :: namedHosts remaining replies
          else []

theorem parse_of_nextReference {replies others : List Reply}
    (next : nextReference replies = some (reference, others)) :
    ∃ location, parse location = .ok reference := by
  cases replies with
  | nil => cases next
  | cons reply rest =>
      obtain ⟨location, _, more⟩ := Option.bind_eq_some_iff.mp next
      obtain ⟨found, read, same⟩ := Option.bind_eq_some_iff.mp more
      cases same
      cases parsed : parse location with
      | error failure =>
          rw [parsed] at read
          cases read
      | ok result =>
          rw [parsed] at read
          cases read
          exact ⟨location, parsed⟩

theorem exchange_sent {remaining : Nat} {replies : List Reply}
    (sendable : Sendable url) :
    (exchange (remaining + 1) url replies).1 =
      url :: match nextReference replies with
        | none => []
        | some (reference, replies) =>
            (exchange remaining (url.resolveReference reference) replies).1 := by
  cases replies with
  | nil =>
      rw [exchange, if_neg (not_not.mpr sendable)]
      rfl
  | cons reply rest =>
      rw [exchange, if_neg (not_not.mpr sendable)]
      simp only [nextReference]
      cases reply.redirection with
      | none => rfl
      | some location =>
          simp only []
          cases read : parse location with
          | error failure =>
              simp [read, Except.toOption]
          | ok found =>
              simp [read, Except.toOption]

theorem exchange_of_not_sendable {remaining : Nat} {replies : List Reply}
    (refused : ¬ Sendable url) : (exchange remaining url replies).1 = [] := by
  cases remaining with
  | zero => rfl
  | succ remaining =>
      unfold exchange
      rw [if_pos refused]

theorem sendable_resolveReference_iff (names : reference.namesHost)
    (sendable : Sendable url) :
    Sendable (url.resolveReference reference) ↔ Reachable reference := by
  obtain ⟨scheme, host, _⟩ := @resolveReference_of_namesHost url _ names
  rw [Sendable, Reachable, scheme, host]
  by_cases none : reference.scheme = []
  · rw [if_pos none]
    simp only [none, true_or, sendable.1]
  · rw [if_neg none]
    simp only [none, false_or]

theorem loopbackHost_resolveReference_iff (names : reference.namesHost) :
    LoopbackHost (url.resolveReference reference) ↔
      LoopbackHost reference :=
  loopbackHost_congr (resolveReference_of_namesHost names).2.1

theorem exchange_loopback_iff {remaining : Nat} {replies : List Reply}
    (sendable : Sendable url) (rooted : url.rootless = []) :
    (∀ sent ∈ (exchange (remaining + 1) url replies).1, LoopbackHost sent) ↔
      LoopbackHost url ∧
        ∀ reference ∈ namedHosts remaining replies,
          LoopbackHost reference := by
  induction remaining generalizing url replies with
  | zero =>
      rw [exchange_sent sendable, List.forall_mem_cons]
      apply and_congr_right
      intro _
      cases nextReference replies with
      | none => simp only [namedHosts]
      | some next => simp only [namedHosts, exchange]
  | succ remaining ih =>
      rw [exchange_sent sendable, List.forall_mem_cons, namedHosts]
      apply and_congr_right
      intro first
      cases next : nextReference replies with
      | none => rfl
      | some both =>
          obtain ⟨reference, others⟩ := both
          obtain ⟨location, parsed⟩ := parse_of_nextReference next
          simp only []
          by_cases names : reference.namesHost
          · rw [if_neg (not_not.mpr names)]
            by_cases reachable : Reachable reference
            · rw [if_pos reachable, List.forall_mem_cons,
                ih
                  ((sendable_resolveReference_iff names sendable).mpr
                    reachable)
                  ((resolveReference_of_namesHost names).2.2.trans
                    (rootless_eq_nil parsed reachable.2)),
                loopbackHost_resolveReference_iff names]
            · have refused : ¬ Sendable (url.resolveReference reference) :=
                fun sent => reachable
                  ((sendable_resolveReference_iff names sendable).mp sent)
              rw [if_neg reachable, exchange_of_not_sendable refused]
          · rw [if_pos names]
            obtain ⟨scheme, host, stillRooted⟩ :=
              resolveReference_of_relative names
                (rootless_of_relative parsed names) rooted
            have still : Sendable (url.resolveReference reference) := by
              rw [Sendable, scheme, host]
              exact sendable
            rw [ih still stillRooted,
              loopbackHost_congr host]
            exact and_iff_right first

/-! ## All requests -/

/-- The request that is built for a published service. -/
def preparedRequest (surroundings : Surroundings)
    (registry : Option Registry) (params : Option ServicesHTTPParams) :
    Option Request :=
  match parseServiceHTTP surroundings registry params with
  | .ok (accepted, .service service) =>
      (buildServiceRequest service.url accepted).toOption
  | _ => none

section Handlers

variable {surroundings : Surroundings} {registry : Option Registry}
  {params : Option ServicesHTTPParams} {replies : List Reply}

theorem handleServicesHTTP_sent :
    (handleServicesHTTP surroundings registry params replies).1 =
      match preparedRequest surroundings registry params with
      | none => []
      | some request => (clientDo request replies).1 := by
  rw [handleServicesHTTP, preparedRequest]
  cases parseServiceHTTP surroundings registry params with
  | error response => rfl
  | ok both =>
      obtain ⟨accepted, target⟩ := both
      cases target with
      | journald unit =>
          simp only []
          split <;> rfl
      | service service =>
          simp only []
          cases buildServiceRequest service.url accepted with
          | error message => rfl
          | ok request =>
              simp only [Except.toOption]
              split
              · rfl
              · split <;> rfl

theorem prepareServiceStream_sent :
    (prepareServiceStream surroundings registry params replies).1 =
      match preparedRequest surroundings registry params with
      | none => []
      | some request => (clientDo request replies).1 := by
  rw [prepareServiceStream, preparedRequest]
  cases parseServiceHTTP surroundings registry params with
  | error response => rfl
  | ok both =>
      obtain ⟨accepted, target⟩ := both
      cases target with
      | journald unit =>
          simp only []
          split <;> rfl
      | service service =>
          simp only []
          cases buildServiceRequest service.url accepted with
          | error message => rfl
          | ok request =>
              simp only [Except.toOption]
              split <;> rfl

theorem preparedRequest_loopback
    (prepared : preparedRequest surroundings registry params = some request)
    (sendable : Sendable request.url) :
    LoopbackHost request.url ∧ request.url.rootless = [] := by
  rw [preparedRequest] at prepared
  split at prepared
  · rename_i accepted service _
    cases built : buildServiceRequest service.url accepted with
    | error message =>
        rw [built] at prepared
        cases prepared
    | ok found =>
        rw [built] at prepared
        cases prepared
        exact buildServiceRequest_loopback built sendable
  · cases prepared

theorem clientDo_loopback_iff (loopback : Sendable request.url →
      LoopbackHost request.url ∧ request.url.rootless = []) :
    (∀ url ∈ (clientDo request replies).1, LoopbackHost url) ↔
      (request.headers.all validHeader = true → Sendable request.url →
        ∀ reference ∈ namedHosts 9 replies, LoopbackHost reference) := by
  rw [clientDo]
  by_cases headers : request.headers.all validHeader = true
  · rw [if_pos headers]
    by_cases sendable : Sendable request.url
    · obtain ⟨first, rooted⟩ := loopback sendable
      rw [exchange_loopback_iff sendable rooted]
      simp only [first, true_and, headers, sendable, forall_const]
    · rw [exchange_of_not_sendable sendable]
      simp [sendable]
  · rw [if_neg headers]
    simp [headers]

end Handlers

/-- All requests go to loopback exactly when each redirect to a host does. -/
theorem sentRequests_loopback_iff (method : ServiceMethod)
    (surroundings : Surroundings) (registry : Option Registry)
    (params : Option ServicesHTTPParams) (replies : List Reply) :
    (∀ url ∈ sentRequests method surroundings registry params replies,
        LoopbackHost url) ↔
      ∀ request, preparedRequest surroundings registry params = some request →
        request.headers.all validHeader = true → Sendable request.url →
        ∀ reference ∈ namedHosts 9 replies, LoopbackHost reference := by
  have sent : sentRequests method surroundings registry params replies =
      match preparedRequest surroundings registry params with
      | none => []
      | some request => (clientDo request replies).1 := by
    cases method with
    | http => exact handleServicesHTTP_sent
    | stream => exact prepareServiceStream_sent
  rw [sent]
  cases prepared : preparedRequest surroundings registry params with
  | none => simp
  | some request =>
      simp only [Option.some.injEq, forall_eq']
      exact clientDo_loopback_iff (preparedRequest_loopback prepared)

section Example

def exampleService : PublishedService :=
  ⟨text "app", text "vite", text "http://127.0.0.1:8787", 0⟩

def exampleRegistry : Registry where
  items := [(text "app", exampleService)]
  accepted := by
    have valid : (validateService exampleService).isOk = true := by
      decide +kernel
    intro item member
    rw [List.mem_singleton.mp member]
    revert valid
    cases validateService exampleService with
    | error message => exact fun impossible => nomatch impossible
    | ok => exact fun _ => rfl

def exampleParams : ServicesHTTPParams :=
  ⟨text "app", [], text "/", [], []⟩

/-- The service sends its client to another machine. -/
def exampleReply : Reply :=
  ⟨302, [(text "Location", [text "http://10.0.0.10:80/"])], [], true⟩

def exampleSurroundings : Surroundings where
  isLetter := fun _ => false
  alive := fun _ => true
  serveHTTP := fun _ _ _ => none
  openSSE := fun _ _ => .error "journald unavailable"

theorem redirect_leaves_loopback :
    ¬ ∀ url ∈ sentRequests .http exampleSurroundings (some exampleRegistry)
        (some exampleParams) [exampleReply], LoopbackHost url := by
  decide +kernel

end Example

end PublishedServices

end Vzctl
