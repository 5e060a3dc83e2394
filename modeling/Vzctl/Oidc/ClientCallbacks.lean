import Vzctl.Ingress.LoadableCaddyfile
import Vzctl.Oidc.AutoClients

/-!
# Callbacks of the static clients

Which callbacks the clients of a configuration register: exactly one client
for every route that requires OIDC, and that of a VM only for its own routes.
-/

namespace Vzctl

namespace Oidc

open FreshLabels Ingress

/-! ## Requirement -/

/-- The route leads to this VM. -/
def UpstreamOf (library : Library) (route : IngressRoute) (name : String) :
    Prop :=
  ∃ port, IngressUpstream.parse library route.target = .ok (.vm name port)

instance (library : Library) (route : IngressRoute) (name : String) :
    Decidable (UpstreamOf library route name) :=
  match parsed : IngressUpstream.parse library route.target with
  | .ok (.vm other port) =>
      decidable_of_iff (other = name) (by simp [UpstreamOf, parsed])
  | .ok (.oidc port) => .isFalse (by simp [UpstreamOf, parsed])
  | .error _ => .isFalse (by simp [UpstreamOf, parsed])

structure OwnCallbacks (library : Library) (configuration : Configuration)
    (clients : List OidcClient) : Prop where
  distinct : (clients.map OidcClient.id).Nodup
  registered : ∀ route ∈ configuration.routes,
    requiresOidc route.requires = true →
      clients.countP
        (fun client => decide (callback route.host ∈ client.redirectURIs)) = 1
  upstream : ∀ client ∈ clients, client.id ∈ configuration.vmNames →
    ∀ route ∈ configuration.routes,
      callback route.host ∈ client.redirectURIs →
        UpstreamOf library route client.id

/-! ## Condition -/

/-- The first label is that of no VM, and of no earlier host. -/
def FreeLabel (vmNames hosts : List String) (host : String) : Prop :=
  shortName host ∉ vmNames ∧
    IsFirst (fun other => shortName other = shortName host) hosts host

instance (vmNames hosts : List String) (host : String) :
    Decidable (FreeLabel vmNames hosts host) :=
  decidable_of_iff (host ∈ fresh shortName vmNames hosts) mem_fresh

/-- The first of the hosts in which the name occurs. -/
def FirstWithName (hosts : List String) (name host : String) : Prop :=
  IsFirst (fun other => contains other name = true) hosts host

instance (hosts : List String) (name host : String) :
    Decidable (FirstWithName hosts name host) :=
  decidable_of_iff _ find?_eq_some_iff_isFirst

/-- A VM occurs first in a host of its own, or in none and then no other
route has its default host; and the first label of a host is free exactly
where no VM has that host. -/
structure Configuration.Separated (library : Library)
    (configuration : Configuration) : Prop where
  named : ∀ name ∈ configuration.vmNames,
    ∀ route ∈ configuration.routes,
      FirstWithName (oidcHosts configuration.routeHosts) name route.host →
        UpstreamOf library route name
  unnamed : ∀ name ∈ configuration.vmNames,
    (∀ host ∈ oidcHosts configuration.routeHosts,
      contains host name = false) →
    ∀ route ∈ configuration.routes,
      route.host = name ++ ".svc." ++ configuration.domain →
        UpstreamOf library route name
  labels : ∀ host ∈ oidcHosts configuration.routeHosts,
    (FreeLabel configuration.vmNames (oidcHosts configuration.routeHosts)
        host ↔
      ∀ name ∈ configuration.vmNames,
        ¬ FirstWithName (oidcHosts configuration.routeHosts) name host)

/-! ## Hosts -/

theorem callback_inj {first second : String} :
    callback first = callback second ↔ first = second := by
  constructor
  · intro same
    have texts := congrArg String.toList same
    simp only [callback, String.toList_append, List.append_assoc,
      List.append_cancel_left_eq, List.append_cancel_right_eq] at texts
    exact String.toList_inj.mp texts
  · intro same
    rw [same]

theorem contains_default (name domain : String) :
    contains (name ++ ".svc." ++ domain) name = true := by
  have front : name.toList <:+: (name ++ ".svc." ++ domain).toList := by
    rw [String.toList_append, String.toList_append, List.append_assoc]
    exact (List.prefix_append _ _).isInfix
  exact decide_eq_true front

variable {domain : String} {routeHosts : List (String × List String)}
  {name host : String}

theorem vmHost_of_first
    (first : FirstWithName (oidcHosts routeHosts) name host) :
    vmHost domain routeHosts name = host := by
  rw [vmHost_eq, find?_eq_some_iff_isFirst.mpr first]
  rfl

theorem vmHost_of_none
    (absent : ∀ host ∈ oidcHosts routeHosts, contains host name = false) :
    vmHost domain routeHosts name = name ++ ".svc." ++ domain := by
  have missing : (oidcHosts routeHosts).find? (contains · name) = none := by
    rw [List.find?_eq_none]
    intro other member
    simp [absent other member]
  rw [vmHost_eq, missing]
  rfl

theorem first_or_none (hosts : List String) (name : String) :
    (∃ host, FirstWithName hosts name host) ∨
      ∀ host ∈ hosts, contains host name = false := by
  cases found : hosts.find? (contains · name) with
  | some host => exact .inl ⟨host, find?_eq_some_iff_isFirst.mp found⟩
  | none =>
      right
      intro host member
      simpa using List.find?_eq_none.mp found host member

theorem vmHost_eq_iff (routed : host ∈ oidcHosts routeHosts) :
    vmHost domain routeHosts name = host ↔
      FirstWithName (oidcHosts routeHosts) name host := by
  constructor
  · intro same
    rcases first_or_none (oidcHosts routeHosts) name with found | absent
    · obtain ⟨other, first⟩ := found
      have equal : vmHost domain routeHosts name = other :=
        vmHost_of_first first
      rwa [← same, equal]
    · have equal : vmHost domain routeHosts name =
          name ++ ".svc." ++ domain := vmHost_of_none absent
      have within := contains_default name domain
      rw [← equal, same, absent host routed] at within
      cases within
  · exact vmHost_of_first

/-! ## Counting -/

theorem countP_of_registers {clients : List OidcClient}
    {entries : List Registration}
    (related : List.Forall₂ OidcClient.Registers clients entries)
    (host : String) :
    clients.countP
        (fun client => decide (callback host ∈ client.redirectURIs)) =
      entries.countP fun entry => decide (entry.host = host) := by
  induction related with
  | nil => rfl
  | @cons client entry clients entries first _ ih =>
      obtain ⟨secret, same⟩ := first
      have equal : (callback host ∈ client.redirectURIs) ↔
          entry.host = host := by
        rw [same, autoClient, List.mem_singleton, callback_inj]
        exact eq_comm
      rw [List.countP_cons, List.countP_cons, ih,
        decide_eq_decide.mpr equal]

theorem countP_fresh (taken hosts : List String) (host : String) :
    ((fresh shortName taken hosts).map routeRegistration).countP
        (fun entry => decide (entry.host = host)) =
      (fresh shortName taken hosts).count host := by
  rw [List.countP_map, List.count]
  rfl

theorem count_fresh_le (taken hosts : List String) (host : String) :
    (fresh shortName taken hosts).count host ≤ 1 :=
  List.nodup_iff_count_le_one.mp (nodup_fresh taken hosts).of_map host

theorem count_fresh_pos {taken hosts : List String} {host : String} :
    0 < (fresh shortName taken hosts).count host ↔
      FreeLabel taken hosts host := by
  rw [List.count_pos_iff, mem_fresh]
  rfl

theorem countP_le_one {α : Type} {holds : α → Bool} {items : List α}
    (nodup : items.Nodup)
    (single : ∀ first ∈ items, ∀ second ∈ items, holds first = true →
      holds second = true → first = second) :
    items.countP holds ≤ 1 := by
  rw [List.countP_eq_length_filter]
  have distinct := nodup.filter holds
  cases kept : items.filter holds with
  | nil => exact Nat.zero_le 1
  | cons first rest =>
      cases rest with
      | nil => exact Nat.le_refl 1
      | cons second others =>
          have here : first ∈ items ∧ holds first = true :=
            List.mem_filter.mp (by simp [kept])
          have there : second ∈ items ∧ holds second = true :=
            List.mem_filter.mp (by simp [kept])
          rw [kept, single first here.1 second there.1 here.2 there.2]
            at distinct
          simp at distinct

/-! ## Clients of a configuration -/

namespace Configuration

variable {library : Library} {configuration : Configuration}
  {clients : List OidcClient}

theorem nodup_vmNames : configuration.vmNames.Nodup :=
  configuration.distinct.filter _

theorem mem_oidcHosts {host : String} :
    host ∈ oidcHosts configuration.routeHosts ↔
      ∃ route ∈ configuration.routes,
        requiresOidc route.requires = true ∧ route.host = host := by
  rw [oidcHosts, routeHosts, List.filter_map, List.map_map, List.mem_map]
  constructor
  · intro found
    obtain ⟨route, member, same⟩ := found
    have parts := List.mem_filter.mp member
    exact ⟨route, parts.1, parts.2, same⟩
  · intro found
    obtain ⟨route, member, asked, same⟩ := found
    exact ⟨route, List.mem_filter.mpr ⟨member, asked⟩, same⟩

/-- The VMs that have a host. -/
def owners (configuration : Configuration) (host : String) : Nat :=
  configuration.vmNames.countP fun name =>
    decide (vmHost configuration.domain configuration.routeHosts name = host)

/-- The clients that have the callback of a host: its VMs, and one of its own
where its first label is free. -/
theorem countP_eq
    (related : List.Forall₂ OidcClient.Registers clients
      (registrations configuration.domain configuration.vmNames
        configuration.routeHosts)) (host : String) :
    clients.countP
        (fun client => decide (callback host ∈ client.redirectURIs)) =
      configuration.owners host +
        (fresh shortName configuration.vmNames
          (oidcHosts configuration.routeHosts)).count host := by
  rw [countP_of_registers related, registrations, List.countP_append,
    countP_fresh, List.countP_map]
  rfl

theorem owners_eq_zero_iff {host : String}
    (routed : host ∈ oidcHosts configuration.routeHosts) :
    configuration.owners host = 0 ↔
      ∀ name ∈ configuration.vmNames,
        ¬ FirstWithName (oidcHosts configuration.routeHosts) name host := by
  rw [owners, List.countP_eq_zero]
  simp only [decide_eq_true_eq, vmHost_eq_iff routed]

theorem nodup_ids
    (related : List.Forall₂ OidcClient.Registers clients
      (registrations configuration.domain configuration.vmNames
        configuration.routeHosts)) :
    (clients.map OidcClient.id).Nodup := by
  have ids : (registrations configuration.domain configuration.vmNames
      configuration.routeHosts).map Registration.id =
        configuration.vmNames ++
          (fresh shortName configuration.vmNames
            (oidcHosts configuration.routeHosts)).map shortName := by
    rw [registrations, List.map_append, List.map_map, List.map_map]
    exact congrArg (· ++ _) (List.map_id configuration.vmNames)
  rw [ids_of_registers related, ids, List.nodup_append]
  refine ⟨nodup_vmNames, nodup_fresh _ _, ?_⟩
  intro name member label inside same
  obtain ⟨host, remains, equal⟩ := List.mem_map.mp inside
  have absent := disjoint_fresh _ _ host remains
  rw [equal, ← same] at absent
  exact absent member

theorem upstream_iff
    (related : List.Forall₂ OidcClient.Registers clients
      (registrations configuration.domain configuration.vmNames
        configuration.routeHosts)) :
    (∀ client ∈ clients, client.id ∈ configuration.vmNames →
        ∀ route ∈ configuration.routes,
          callback route.host ∈ client.redirectURIs →
            UpstreamOf library route client.id) ↔
      ∀ name ∈ configuration.vmNames, ∀ route ∈ configuration.routes,
        vmHost configuration.domain configuration.routeHosts name =
          route.host → UpstreamOf library route name := by
  obtain ⟨ofClient, ofEntry⟩ := InStep.exists_of_forall₂ related
  constructor
  · intro kept name named route routed same
    have entered : vmRegistration configuration.domain
        configuration.routeHosts name ∈
          registrations configuration.domain configuration.vmNames
            configuration.routeHosts :=
      List.mem_append_left _ (List.mem_map_of_mem named)
    obtain ⟨client, member, secret, equal⟩ := ofEntry _ entered
    have ofId : client.id = name := by rw [equal]; rfl
    have registered : callback route.host ∈ client.redirectURIs := by
      rw [equal, ← same]
      exact List.mem_singleton_self _
    have upstream := kept client member (ofId ▸ named) route routed registered
    rwa [ofId] at upstream
  · intro kept client member named route routed registered
    obtain ⟨entry, entered, secret, equal⟩ := ofClient client member
    have ofId : client.id = entry.id := by rw [equal]; rfl
    have ofHost : entry.host = route.host := by
      rw [equal, autoClient, List.mem_singleton, callback_inj] at registered
      exact registered.symm
    rw [ofId] at named ⊢
    rcases List.mem_append.mp entered with ofVM | ofRoute
    · obtain ⟨name, _, same⟩ := List.mem_map.mp ofVM
      rw [← same] at named ofHost ⊢
      exact kept name named route routed ofHost
    · obtain ⟨host, remains, same⟩ := List.mem_map.mp ofRoute
      rw [← same] at named
      exact absurd named (disjoint_fresh _ _ host remains)

theorem vmHosts_iff :
    (∀ name ∈ configuration.vmNames, ∀ route ∈ configuration.routes,
        vmHost configuration.domain configuration.routeHosts name =
          route.host → UpstreamOf library route name) ↔
      (∀ name ∈ configuration.vmNames, ∀ route ∈ configuration.routes,
        FirstWithName (oidcHosts configuration.routeHosts) name route.host →
          UpstreamOf library route name) ∧
      ∀ name ∈ configuration.vmNames,
        (∀ host ∈ oidcHosts configuration.routeHosts,
          contains host name = false) →
        ∀ route ∈ configuration.routes,
          route.host = name ++ ".svc." ++ configuration.domain →
            UpstreamOf library route name := by
  constructor
  · intro leads
    constructor
    · intro name named route routed first
      exact leads name named route routed (vmHost_of_first first)
    · intro name named absent route routed same
      exact leads name named route routed
        ((vmHost_of_none absent).trans same.symm)
  · intro parts name named route routed same
    rcases first_or_none (oidcHosts configuration.routeHosts) name with
      found | absent
    · obtain ⟨host, first⟩ := found
      have equal : host = route.host :=
        (vmHost_of_first first).symm.trans same
      exact parts.1 name named route routed (equal ▸ first)
    · exact parts.2 name named absent route routed
        (same.symm.trans (vmHost_of_none absent))

theorem owners_le_one
    (leads : ∀ name ∈ configuration.vmNames, ∀ route ∈ configuration.routes,
      vmHost configuration.domain configuration.routeHosts name =
        route.host → UpstreamOf library route name)
    {route : IngressRoute} (routed : route ∈ configuration.routes) :
    configuration.owners route.host ≤ 1 := by
  refine countP_le_one nodup_vmNames ?_
  intro first named second other ofFirst ofSecond
  obtain ⟨port, parsed⟩ :=
    leads first named route routed (of_decide_eq_true ofFirst)
  obtain ⟨otherPort, reparsed⟩ :=
    leads second other route routed (of_decide_eq_true ofSecond)
  rw [parsed] at reparsed
  cases reparsed
  rfl

end Configuration

/-- The clients have pairwise distinct IDs, every route that requires OIDC has
its callback with exactly one of them and no VM has that of another's route,
exactly when the names are separated. -/
theorem ownCallbacks_iff (library : Library) (configuration : Configuration)
    {σ ε : Type} (secretFor : String → σ → Except ε (String × σ))
    (store after : σ) (data : AutoClients)
    (built : configuration.buildClients secretFor store = .ok (data, after)) :
    OwnCallbacks library configuration data.clients ↔
      configuration.Separated library := by
  have related := buildAutoClients_registers built
  have leads_iff :=
    @Configuration.upstream_iff library configuration data.clients related
  have vmHosts_iff := @Configuration.vmHosts_iff library configuration
  constructor
  · intro own
    have leads := leads_iff.mp own.upstream
    obtain ⟨named, unnamed⟩ := vmHosts_iff.mp leads
    refine ⟨named, unnamed, ?_⟩
    intro host member
    obtain ⟨route, routed, asked, same⟩ := Configuration.mem_oidcHosts.mp member
    have once := own.registered route routed asked
    rw [Configuration.countP_eq related, same] at once
    rw [← Configuration.owners_eq_zero_iff member, ← count_fresh_pos]
    omega
  · intro separated
    have leads := vmHosts_iff.mpr ⟨separated.named, separated.unnamed⟩
    refine ⟨Configuration.nodup_ids related, ?_, leads_iff.mpr leads⟩
    intro route routed asked
    have member : route.host ∈ oidcHosts configuration.routeHosts :=
      Configuration.mem_oidcHosts.mpr ⟨route, routed, asked, rfl⟩
    have free := separated.labels route.host member
    rw [← Configuration.owners_eq_zero_iff member, ← count_fresh_pos] at free
    have owned := Configuration.owners_le_one leads routed
    have kept := count_fresh_le configuration.vmNames
      (oidcHosts configuration.routeHosts) route.host
    rw [Configuration.countP_eq related]
    omega

/-! ## Two configurations -/

/-- A project with two VMs, of which `web` requires OIDC, and one route that
does so, next to that of the issuer. -/
def oneRoute (host target : String) : Configuration where
  environment :=
    { project := "demo"
      networks := [("lan", ⟨"10.80.0.0/24", .vmnet⟩)]
      vms := [("mail", ["lan"]), ("web", ["lan"])]
      ingress := some
        { enabled := true
          bind := "127.0.0.1"
          httpPort := 80
          httpsPort := 443
          hostAliases := true
          redirectHttp := true
          routes :=
            [⟨host, target, ["oidc"]⟩,
              ⟨"auth.svc.demo.vz.test", "oidc:5556", []⟩] }
      oidcEnabled := true }
  domain := "demo.vz.test"
  requires name := if name = "web" then ["oidc"] else []
  distinct := show ["mail", "web"].Nodup by decide

/-- A store that has a secret for every name. -/
def namedSecret (name : String) (store : Unit) :
    Except Empty (String × Unit) :=
  .ok ("secret-" ++ name, store)

def webRoute : Configuration :=
  oneRoute "web.svc.demo.vz.test" "web:8080"

theorem ownCallbacks_webRoute :
    ∃ data, webRoute.buildClients namedSecret () = .ok (data, ()) ∧
      OwnCallbacks plainLibrary webRoute data.clients := by
  have separated : webRoute.Separated plainLibrary :=
    ⟨by decide, by decide, by decide⟩
  exact ⟨_, rfl, (ownCallbacks_iff plainLibrary webRoute namedSecret () () _
    rfl).mpr separated⟩

def webmailRoute : Configuration :=
  oneRoute "webmail.svc.demo.vz.test" "mail:8080"

/-- The client of `web` has the callback of a route to `mail`. -/
theorem webmail_not_ownCallbacks :
    ingressIssues plainLibrary webmailRoute.environment = [] ∧
      ∃ data, webmailRoute.buildClients namedSecret () = .ok (data, ()) ∧
        ¬ OwnCallbacks plainLibrary webmailRoute data.clients := by
  refine ⟨by rfl, _, rfl, ?_⟩
  intro own
  have given : UpstreamOf plainLibrary
      ⟨"webmail.svc.demo.vz.test", "mail:8080", ["oidc"]⟩ "web" :=
    own.upstream
      (autoClient "web" "secret-web" "webmail.svc.demo.vz.test")
      (by decide) (by decide) _ List.mem_cons_self (by decide)
  exact absurd given (by decide)

end Oidc

end Vzctl
