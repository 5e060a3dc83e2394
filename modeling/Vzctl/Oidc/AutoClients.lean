import Mathlib.Data.List.Infix
import Vzctl.Ingress.Render
import Vzctl.Lib.FreshLabels
import Vzctl.Lib.Outcome

/-!
# Static clients of a configuration

`build_auto_clients` of `oidc.rs` with the lists that `ensure_oidc` passes to
it: one client for every VM, then one for every route whose first label is no
client yet.
-/

namespace Vzctl

namespace Oidc

open FreshLabels Ingress Outcome

/-! ## Source -/

/-- The member `public` is `isPublic`. -/
structure OidcClient where
  id : String
  secret : String
  redirectURIs : List String
  name : String
  isPublic : Bool
  deriving DecidableEq

structure AutoClients where
  project : String
  issuer : String
  clients : List OidcClient

def callback (host : String) : String :=
  "https://" ++ host ++ "/oauth2/callback"

def requiresOidc (requires : List String) : Bool :=
  requires.any (· == "oidc")

/-- `host.contains(name)` of two texts. -/
def contains (host name : String) : Bool :=
  decide (name.toList <:+: host.toList)

/-- `host.split('.').next()`. -/
def shortName (host : String) : String :=
  String.ofList (host.toList.takeWhile (· ≠ '.'))

/-- A client that is named by its ID. -/
def autoClient (id secret host : String) : OidcClient where
  id := id
  secret := secret
  redirectURIs := [callback host]
  name := id
  isPublic := false

def vmHost (domain : String) (routeHosts : List (String × List String))
    (name : String) : String :=
  match routeHosts.find? fun route =>
      requiresOidc route.2 && contains route.1 name with
  | some route => route.1
  | none => name ++ ".svc." ++ domain

section Build

variable {σ ε : Type} (secretFor : String → σ → Except ε (String × σ))
  (domain : String) (routeHosts : List (String × List String))

def addVM (clients : List OidcClient) (store : σ) (name : String) :
    Except ε (List OidcClient × σ) := do
  let (secret, store) ← secretFor name store
  pure (clients ++ [autoClient name secret (vmHost domain routeHosts name)],
    store)

def addRoute (clients : List OidcClient) (store : σ)
    (route : String × List String) : Except ε (List OidcClient × σ) :=
  if requiresOidc route.2 = false then .ok (clients, store)
  else if shortName route.1 ∈ clients.map OidcClient.id then
    .ok (clients, store)
  else do
    let (secret, store) ← secretFor (shortName route.1) store
    pure (clients ++ [autoClient (shortName route.1) secret route.1], store)

/-- `build_auto_clients`; `secretFor` is the closure over the secret store. -/
def buildAutoClients (project : String) (vmNames : List String) (store : σ) :
    Except ε (AutoClients × σ) := do
  let (clients, store) ← vmNames.foldlM
    (fun state name => addVM secretFor domain routeHosts state.1 state.2 name)
    ([], store)
  let (clients, store) ← routeHosts.foldlM
    (fun state route => addRoute secretFor state.1 state.2 route)
    (clients, store)
  pure (⟨project, "https://auth.svc." ++ domain, clients⟩, store)

end Build

/-- The part of an environment that `ensure_oidc` reads.  `requires` holds the
requirements of each VM; the VMs are the keys of a map. -/
structure Configuration where
  environment : Environment
  domain : String
  requires : String → List String
  distinct : (environment.vms.map Prod.fst).Nodup

namespace Configuration

variable (configuration : Configuration)

def vmNames : List String :=
  (configuration.environment.vms.map Prod.fst).filter fun name =>
    requiresOidc (configuration.requires name)

/-- Also of an ingress that is not enabled. -/
def routes : List IngressRoute :=
  match configuration.environment.ingress with
  | none => []
  | some ingress => ingress.routes

def routeHosts : List (String × List String) :=
  configuration.routes.map fun route => (route.host, route.requires)

/-- The call of `build_auto_clients` in `ensure_oidc`. -/
def buildClients {σ ε : Type}
    (secretFor : String → σ → Except ε (String × σ)) (store : σ) :
    Except ε (AutoClients × σ) :=
  buildAutoClients secretFor configuration.domain configuration.routeHosts
    configuration.environment.project configuration.vmNames store

end Configuration

/-! ## Registrations -/

/-- The hosts of the routes that require OIDC. -/
def oidcHosts (routeHosts : List (String × List String)) : List String :=
  (routeHosts.filter fun route => requiresOidc route.2).map Prod.fst

theorem vmHost_eq (domain : String) (routeHosts : List (String × List String))
    (name : String) :
    vmHost domain routeHosts name =
      ((oidcHosts routeHosts).find? (contains · name)).getD
        (name ++ ".svc." ++ domain) := by
  have same : (oidcHosts routeHosts).find? (contains · name) =
      (routeHosts.find? fun route =>
        requiresOidc route.2 && contains route.1 name).map Prod.fst := by
    rw [oidcHosts, List.find?_map, List.find?_filter]
    simp
  rw [same, vmHost]
  cases routeHosts.find? fun route =>
      requiresOidc route.2 && contains route.1 name with
  | none => rfl
  | some route => rfl

/-- The ID of a client and the host of its callback. -/
structure Registration where
  id : String
  host : String

/-- A client stands for a registration. -/
def OidcClient.Registers (client : OidcClient) (entry : Registration) : Prop :=
  ∃ secret, client = autoClient entry.id secret entry.host

def vmRegistration (domain : String) (routeHosts : List (String × List String))
    (name : String) : Registration :=
  ⟨name, vmHost domain routeHosts name⟩

def routeRegistration (host : String) : Registration :=
  ⟨shortName host, host⟩

/-- What is registered for these VMs and routes. -/
def registrations (domain : String) (vmNames : List String)
    (routeHosts : List (String × List String)) : List Registration :=
  vmNames.map (vmRegistration domain routeHosts) ++
    (fresh shortName vmNames (oidcHosts routeHosts)).map routeRegistration

section Built

variable {σ ε : Type} {secretFor : String → σ → Except ε (String × σ)}
  {domain : String} {routeHosts : List (String × List String)}
  {clients added : List OidcClient} {store after : σ}

theorem ids_of_registers {entries : List Registration}
    (related : List.Forall₂ OidcClient.Registers clients entries) :
    clients.map OidcClient.id = entries.map Registration.id := by
  induction related with
  | nil => rfl
  | cons first _ ih =>
      obtain ⟨secret, same⟩ := first
      rw [List.map_cons, List.map_cons, ih, same]
      rfl

theorem addVMs_registers {vmNames : List String}
    {entries : List Registration}
    (related : List.Forall₂ OidcClient.Registers clients entries)
    (performed : vmNames.foldlM
      (fun state name => addVM secretFor domain routeHosts state.1 state.2 name)
      (clients, store) = .ok (added, after)) :
    List.Forall₂ OidcClient.Registers added
      (entries ++ vmNames.map (vmRegistration domain routeHosts)) := by
  induction vmNames generalizing clients entries store with
  | nil =>
      have same : (clients, store) = (added, after) :=
        pure_eq_ok_iff.mp performed
      have grown : clients = added := (Prod.ext_iff.mp same).1
      rw [← grown]
      simpa using related
  | cons name names ih =>
      rw [List.foldlM_cons, bind_eq_ok_iff] at performed
      obtain ⟨⟨middle, between⟩, stepped, performed⟩ := performed
      rw [addVM, bind_eq_ok_iff] at stepped
      obtain ⟨⟨secret, stored⟩, _, stepped⟩ := stepped
      have grown : clients ++ [autoClient name secret
          (vmHost domain routeHosts name)] = middle :=
        (Prod.ext_iff.mp (pure_eq_ok_iff.mp stepped)).1
      have step : List.Forall₂ OidcClient.Registers middle
          (entries ++ [vmRegistration domain routeHosts name]) := by
        rw [← grown]
        exact List.rel_append related (.cons ⟨secret, rfl⟩ .nil)
      have whole := ih step performed
      rwa [List.append_assoc] at whole

theorem addRoutes_registers {routes : List (String × List String)}
    {entries : List Registration}
    (related : List.Forall₂ OidcClient.Registers clients entries)
    (performed : routes.foldlM
      (fun state route => addRoute secretFor state.1 state.2 route)
      (clients, store) = .ok (added, after)) :
    List.Forall₂ OidcClient.Registers added
      (entries ++ (fresh shortName (entries.map Registration.id)
        (oidcHosts routes)).map routeRegistration) := by
  induction routes generalizing clients entries store with
  | nil =>
      have same : (clients, store) = (added, after) :=
        pure_eq_ok_iff.mp performed
      have grown : clients = added := (Prod.ext_iff.mp same).1
      rw [← grown]
      simpa [oidcHosts, fresh] using related
  | cons route routes ih =>
      rw [List.foldlM_cons, bind_eq_ok_iff] at performed
      obtain ⟨⟨middle, between⟩, stepped, performed⟩ := performed
      rw [addRoute, ids_of_registers related] at stepped
      by_cases unasked : requiresOidc route.2 = false
      · rw [if_pos unasked] at stepped
        rw [← Except.ok.inj stepped] at performed
        have skipped : oidcHosts (route :: routes) = oidcHosts routes := by
          simp [oidcHosts, unasked]
        rw [skipped]
        exact ih related performed
      · rw [if_neg unasked] at stepped
        have counted : oidcHosts (route :: routes) =
            route.1 :: oidcHosts routes := by
          simp [oidcHosts, unasked]
        rw [counted, fresh]
        by_cases taken : shortName route.1 ∈ entries.map Registration.id
        · rw [if_pos taken] at stepped ⊢
          rw [← Except.ok.inj stepped] at performed
          exact ih related performed
        · rw [if_neg taken] at stepped ⊢
          rw [bind_eq_ok_iff] at stepped
          obtain ⟨⟨secret, stored⟩, _, stepped⟩ := stepped
          have grown : clients ++ [autoClient (shortName route.1) secret
              route.1] = middle :=
            (Prod.ext_iff.mp (pure_eq_ok_iff.mp stepped)).1
          have step : List.Forall₂ OidcClient.Registers middle
              (entries ++ [routeRegistration route.1]) := by
            rw [← grown]
            exact List.rel_append related (.cons ⟨secret, rfl⟩ .nil)
          have whole := ih step performed
          rw [List.map_append, List.append_assoc] at whole
          exact whole

theorem buildAutoClients_registers {project : String}
    {vmNames : List String} {data : AutoClients}
    (built : buildAutoClients secretFor domain routeHosts project vmNames
      store = .ok (data, after)) :
    List.Forall₂ OidcClient.Registers data.clients
      (registrations domain vmNames routeHosts) := by
  rw [buildAutoClients, bind_eq_ok_iff] at built
  obtain ⟨⟨clients, between⟩, ofVMs, built⟩ := built
  rw [bind_eq_ok_iff] at built
  obtain ⟨⟨added, last⟩, ofRoutes, built⟩ := built
  have ends : AutoClients.mk project ("https://auth.svc." ++ domain) added =
      data := (Prod.ext_iff.mp (pure_eq_ok_iff.mp built)).1
  have forVMs := addVMs_registers .nil ofVMs
  have forRoutes := addRoutes_registers forVMs ofRoutes
  have ids : ([] ++ vmNames.map (vmRegistration domain routeHosts)).map
      Registration.id = vmNames := by
    rw [List.nil_append, List.map_map]
    exact List.map_id vmNames
  rw [ids] at forRoutes
  rw [← ends]
  exact forRoutes

end Built

end Oidc

end Vzctl
