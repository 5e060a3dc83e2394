import Vzctl.Ingress.MergedCaddyfile

/-!
# Loadable Caddyfiles

When the Caddyfiles of accepted projects, alone and merged, have distinct
sites, distinct ports and the upstreams that the configuration means.
-/

namespace Vzctl

namespace Ingress

/-! ## All projects -/

section Projects

variable {library : Library}

theorem addresses_mergedFile (first : Deployment library)
    (others : List (Deployment library)) :
    (mergedFile first others).addresses =
      (first :: others).flatMap fun project =>
        project.rendered.caddyfile.addresses := by
  rw [Caddyfile.addresses, mergedFile, List.flatMap_assoc]
  rfl

/-- Every host of the projects is a single address. -/
def PlainHosts (projects : List (Deployment library)) : Prop :=
  ∀ project ∈ projects, ∀ host ∈ project.hosts, PlainHost host.toList

instance (projects : List (Deployment library)) :
    Decidable (PlainHosts projects) :=
  inferInstanceAs (Decidable (∀ project ∈ projects, ∀ host ∈ project.hosts,
    PlainHost host.toList))

theorem flatMap_addresses {projects : List (Deployment library)}
    (plain : PlainHosts projects) :
    (projects.flatMap fun project =>
      project.rendered.caddyfile.addresses) =
      (projects.flatMap Deployment.groups).flatMap groupAddresses := by
  rw [List.flatMap_assoc]
  exact List.flatMap_congr fun project member =>
    project.addresses_eq (plain project member)

theorem flatMap_groups (projects : List (Deployment library)) :
    (projects.flatMap Deployment.groups).flatMap Prod.snd =
      (projects.flatMap Deployment.entries).flatMap names := by
  rw [List.flatMap_assoc, List.flatMap_assoc]
  refine List.flatMap_congr fun project _ => ?_
  rw [Deployment.groups, Deployment.entries, List.flatMap_map,
    List.flatMap_map]
  rfl

theorem map_entries (projects : List (Deployment library)) :
    (projects.flatMap Deployment.entries).map Prod.snd =
      projects.flatMap Deployment.hosts := by
  rw [List.map_flatMap]
  refine List.flatMap_congr fun project _ => ?_
  rw [Deployment.entries, Deployment.hosts, List.map_map]
  rfl

theorem plain_entries (projects : List (Deployment library)) :
    ∀ entry ∈ projects.flatMap Deployment.entries,
      endsWithLocalhost entry.2 = false := by
  intro entry member
  obtain ⟨project, _, inside⟩ := List.mem_flatMap.mp member
  obtain ⟨route, routed, rfl⟩ := List.mem_map.mp inside
  exact project.plain_of_mem routed

/-- Distinct hosts have distinct site addresses exactly when the labels of
their aliases are distinct. -/
theorem nodup_addresses_iff {projects : List (Deployment library)}
    (plain : PlainHosts projects)
    (hostsApart : (projects.flatMap Deployment.hosts).Nodup) :
    (projects.flatMap fun project =>
      project.rendered.caddyfile.addresses).Nodup ↔
      (projects.flatMap Deployment.labels).Nodup := by
  have entriesApart : ((projects.flatMap Deployment.entries).map
      Prod.snd).Nodup := by
    rw [map_entries]
    exact hostsApart
  rw [flatMap_addresses plain, nodup_flatMap_groupAddresses_iff, flatMap_groups,
    nodup_flatMap_names_iff entriesApart (plain_entries projects),
    List.flatMap_assoc]
  rfl

end Projects

/-! ## One project -/

namespace Deployment

variable {library : Library} (project : Deployment library)

def ListensApart : Prop :=
  project.ingress.httpPort ≠ project.ingress.httpsPort →
    project.rendered.caddyHttpPort ≠ project.rendered.caddyHttpsPort

/-- A site for every host, distinct sites, distinct ports, and the upstreams
that are meant. -/
structure Loadable : Prop where
  sitesNamed : ∀ host ∈ project.hosts,
    (.https, host) ∈ project.rendered.caddyfile.addresses
  sitesApart : project.rendered.caddyfile.addresses.Nodup
  listensApart : project.ListensApart
  reachesVMs : project.ReachesVMs

theorem sitesNamed_iff :
    (∀ host ∈ project.hosts,
      (.https, host) ∈ project.rendered.caddyfile.addresses) ↔
      ∀ host ∈ project.hosts, PlainHost host.toList := by
  constructor
  · intro named host member
    obtain ⟨block, _, inside⟩ := List.mem_flatMap.mp (named host member)
    exact plainHost_of_mem inside
  · intro plain host member
    obtain ⟨route, routed, rfl⟩ := List.mem_map.mp member
    rw [project.addresses_eq plain]
    refine List.mem_flatMap.mpr ⟨_, List.mem_map_of_mem routed, ?_⟩
    refine List.mem_append_right _ (List.mem_map_of_mem ?_)
    exact List.mem_cons_self

theorem listensApart_iff :
    project.ListensApart ↔
      ¬ PortsClash project.ingress.httpPort project.ingress.httpsPort := by
  obtain ⟨_, _, _, http, https⟩ := project.rendered_spec
  rw [ListensApart, http, https, ne_eq, ne_eq, caddyListenPort_eq_iff]
  constructor
  · intro apart clash
    refine apart ?_ (.inr clash)
    intro same
    rw [PortsClash, same] at clash
    omega
  · rintro found apart (same | clash)
    · exact apart same
    · exact found clash

end Deployment

/-- The libraries are not asked anything below. -/
def plainLibrary : Library where
  debug text := "\"" ++ text ++ "\""
  parseNet cidr := .error cidr

def webIngress (hosts : List String) : IngressConfig where
  enabled := true
  bind := "127.0.0.1"
  httpPort := 80
  httpsPort := 443
  hostAliases := true
  redirectHttp := true
  routes := hosts.map fun host => ⟨host, "web:8080", []⟩

/-- A project with a VM `web` on one vmnet and these hosts. -/
def webEnvironment (project : String) (hosts : List String) :
    Environment where
  project := project
  networks := [("lan", ⟨"10.80.0.0/24", .vmnet⟩)]
  vms := [("web", ["lan"])]
  ingress := some (webIngress hosts)
  oidcEnabled := false

def webAttachments (project : String) : List LiveAttachment :=
  [⟨some (project ++ "/web"), some project, some "10.80.0.10", some "lan"⟩]

def webRendered (project : String) (hosts : List String) :
    Except String RenderedIngress :=
  render plainLibrary (webEnvironment project hosts) []
    (webAttachments project) "/state"

def webDeployment (project : String) (hosts : List String)
    (accepted : ingressIssues plainLibrary (webEnvironment project hosts) = [])
    (succeeds : (webRendered project hosts).toOption.isSome = true) :
    Deployment plainLibrary where
  environment := webEnvironment project hosts
  ingress := webIngress hosts
  networks := []
  attachments := webAttachments project
  stateDir := "/state"
  rendered := (webRendered project hosts).toOption.get succeeds
  configured := rfl
  enabled := rfl
  accepted := accepted
  succeeded := Outcome.eq_ok_get succeeds

def demoProject : Deployment plainLibrary :=
  webDeployment "demo" ["web.svc.demo.vz.test"] (by rfl)
    (by rfl)

def shopProject : Deployment plainLibrary :=
  webDeployment "shop" ["store.svc.shop.vz.test"] (by rfl)
    (by rfl)

/-- Two accepted hosts with one first label share an alias. -/
def twinProject : Deployment plainLibrary :=
  webDeployment "demo" ["app.svc.demo.vz.test", "app.api.demo.vz.test"]
    (by rfl) (by rfl)

end Ingress

end Vzctl
