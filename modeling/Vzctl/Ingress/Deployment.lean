import Vzctl.Ingress.Upstreams

/-!
# Rendered projects

A project whose ingress was accepted and rendered, with what its Caddyfile is
made of.
-/

namespace Vzctl

namespace Ingress

open Outcome

/-! ## Accepted sections -/

section Accepted

variable {library : Library} {environment : Environment}

theorem of_routesIssues {hosts : List String} {index : Nat}
    {routes : List IngressRoute}
    (accepted : routesIssues library environment hosts index routes = []) :
    (routes.map IngressRoute.host).Nodup ∧
      ∀ route ∈ routes,
        endsWithLocalhost route.host = false ∧ route.host ∉ hosts := by
  induction routes generalizing hosts index with
  | nil =>
      constructor
      · exact List.nodup_nil
      · intro route member
        cases member
  | cons route others ih =>
      rw [routesIssues, List.append_eq_nil_iff, List.append_eq_nil_iff,
        List.append_eq_nil_iff] at accepted
      obtain ⟨hostAccepted, _, _, othersAccepted⟩ := accepted
      rw [hostIssues] at hostAccepted
      split at hostAccepted
      · cases hostAccepted
      · rename_i named
        split at hostAccepted
        · cases hostAccepted
        · rename_i plain
          split at hostAccepted
          · cases hostAccepted
          · rename_i new
            rw [seenHosts, if_neg (not_or.mpr ⟨named, plain⟩)]
              at othersAccepted
            have later := ih othersAccepted
            constructor
            · rw [List.map_cons, List.nodup_cons]
              constructor
              · intro repeated
                obtain ⟨other, member, same⟩ := List.mem_map.mp repeated
                exact (later.2 other member).2
                  (same ▸ List.mem_cons_self)
              · exact later.1
            · intro other member
              rcases List.mem_cons.mp member with rfl | inside
              · exact ⟨eq_false_of_ne_true plain, new⟩
              · have unseen := later.2 other inside
                exact ⟨unseen.1, fun seen =>
                  unseen.2 (List.mem_cons_of_mem _ seen)⟩

theorem of_listenIssues {ingress : IngressConfig}
    (accepted : listenIssues library ingress = []) :
    ingress.bind = "127.0.0.1" ∧ ingress.routes ≠ [] := by
  rw [listenIssues, List.append_eq_nil_iff, List.append_eq_nil_iff,
    List.append_eq_nil_iff] at accepted
  obtain ⟨bound, _, _, filled⟩ := accepted
  constructor
  · by_contra other
    rw [if_pos other] at bound
    cases bound
  · intro empty
    rw [empty] at filled
    cases filled

end Accepted

/-- A project whose enabled ingress was accepted and rendered. -/
structure Deployment (library : Library) where
  environment : Environment
  ingress : IngressConfig
  networks : List LiveNetwork
  attachments : List LiveAttachment
  stateDir : String
  rendered : RenderedIngress
  configured : environment.ingress = some ingress
  enabled : ingress.enabled = true
  accepted : ingressIssues library environment = []
  succeeded : render library environment networks attachments stateDir =
    .ok rendered

namespace Deployment

variable {library : Library} (project : Deployment library)

def hosts : List String := project.ingress.routes.map IngressRoute.host

theorem issues :
    listenIssues library project.ingress = [] ∧
      routesIssues library project.environment [] 0 project.ingress.routes =
        [] := by
  have accepted := project.accepted
  rw [ingressIssues, project.configured] at accepted
  simp only [project.enabled, if_true] at accepted
  exact List.append_eq_nil_iff.mp accepted

theorem bind_eq : project.ingress.bind = "127.0.0.1" :=
  (of_listenIssues project.issues.1).1

theorem routes_ne_nil : project.ingress.routes ≠ [] :=
  (of_listenIssues project.issues.1).2

theorem nodup_hosts : project.hosts.Nodup :=
  (of_routesIssues project.issues.2).1

theorem plain_of_mem {route : IngressRoute}
    (member : route ∈ project.ingress.routes) :
    endsWithLocalhost route.host = false :=
  ((of_routesIssues project.issues.2).2 route member).1

/-! ## The rendered file -/

def renderedRoute (route : IngressRoute) : Except String (List SiteBlock) :=
  renderRoute library project.environment project.networks
    project.attachments project.stateDir project.ingress route

theorem rendered_spec :
    ∃ blocks : List (List SiteBlock),
      project.ingress.routes.mapM project.renderedRoute = .ok blocks ∧
        project.rendered.caddyfile =
          { global := some {
              httpPort := project.rendered.caddyHttpPort
              httpsPort := project.rendered.caddyHttpsPort
              bind := project.ingress.bind }
            sites := blocks.flatten } ∧
        project.rendered.caddyHttpPort =
          caddyListenPort project.ingress.httpPort ∧
        project.rendered.caddyHttpsPort =
          caddyListenPort project.ingress.httpsPort := by
  have succeeded := project.succeeded
  rw [render, project.configured, Option.filter_some, project.enabled]
    at succeeded
  simp only [if_true, bind_eq_ok_iff] at succeeded
  obtain ⟨_, _, _, _, blocks, rendered, whole⟩ := succeeded
  rw [← Except.ok.inj whole]
  exact ⟨blocks, rendered, rfl, rfl, rfl⟩

theorem renderedRoute_eq_ok_iff {route : IngressRoute}
    {blocks : List SiteBlock} :
    project.renderedRoute route = .ok blocks ↔
      ∃ upstream, IngressUpstream.parse library route.target = .ok upstream ∧
        ∃ text, backend project.environment project.networks
            project.attachments route upstream = .ok text ∧
          routeBlocks project.stateDir project.ingress route text =
            blocks := by
  rw [renderedRoute, renderRoute, bind_eq_ok_iff]
  refine exists_congr fun upstream => and_congr_right fun _ => ?_
  rw [bind_eq_ok_iff]
  exact exists_congr fun text => and_congr_right fun _ => by
    rw [Except.ok.injEq]

/-! ## Its site addresses -/

/-- The hosts of each route, and whether they are redirected. -/
def groups : List (Bool × List String) :=
  project.ingress.routes.map fun route =>
    (project.ingress.redirectHttp, siteHosts project.ingress route)

/-- The host of each route, and whether it has an alias. -/
def entries : List (Bool × String) :=
  project.ingress.routes.map fun route =>
    (project.ingress.hostAliases, route.host)

/-- The first labels of the hosts that have an alias. -/
def labels : List String := project.entries.flatMap Ingress.labels

theorem plain_siteHosts {route : IngressRoute}
    (plain : PlainHost route.host.toList) :
    ∀ name ∈ siteHosts project.ingress route, PlainHost name.toList := by
  intro name member
  rcases List.mem_cons.mp member with rfl | aliased
  · exact plain
  · split at aliased
    · rw [List.mem_singleton.mp aliased, shortLocalhost, shortLabel,
        String.toList_append, String.toList_ofList]
      intro character inside
      rcases List.mem_append.mp inside with inLabel | inSuffix
      · exact plain character ((List.takeWhile_sublist _).subset inLabel)
      · exact (by decide : PlainHost ".localhost".toList) character inSuffix
    · cases aliased

theorem addresses_site {route : IngressRoute}
    (plain : PlainHost route.host.toList) (bind cert key backend : String) :
    (SiteBlock.proxy (siteHosts project.ingress route) bind cert key
      backend).addresses =
      (siteHosts project.ingress route).map (Prod.mk .https) := by
  have namesPlain := project.plain_siteHosts plain
  rw [siteHosts] at namesPlain ⊢
  split
  · rename_i aliased
    rw [if_pos aliased] at namesPlain
    have isAlias : endsWithLocalhost (shortLocalhost route.host) = true := by
      rw [endsWithLocalhost, shortLocalhost, String.toList_append,
        List.isSuffixOf_iff_suffix]
      exact List.suffix_append _ _
    have shortPlain := namesPlain (shortLocalhost route.host) (by simp)
    rw [addresses_proxy_alias plain shortPlain isAlias]
    rfl
  · rw [addresses_proxy plain]
    rfl

theorem addresses_routeBlocks {route : IngressRoute}
    (plain : PlainHost route.host.toList) (text : String) :
    (routeBlocks project.stateDir project.ingress route text).flatMap
        SiteBlock.addresses =
      groupAddresses (project.ingress.redirectHttp,
        siteHosts project.ingress route) := by
  have namesPlain := project.plain_siteHosts plain
  have redirects : ((siteHosts project.ingress route).map fun host =>
      SiteBlock.redirect host project.ingress.bind).flatMap
        SiteBlock.addresses =
      (siteHosts project.ingress route).map (Prod.mk .http) := by
    rw [List.flatMap_map, List.map_eq_flatMap]
    exact List.flatMap_congr fun name member =>
      addresses_redirect (namesPlain name member) _
  simp only [routeBlocks, groupAddresses]
  rw [List.flatMap_append, List.flatMap_singleton,
    project.addresses_site plain]
  split
  · rw [redirects]
  · rw [List.flatMap_nil]

theorem addresses_eq (plain : ∀ host ∈ project.hosts, PlainHost host.toList) :
    project.rendered.caddyfile.addresses =
      project.groups.flatMap groupAddresses := by
  obtain ⟨blocks, rendered, file, _⟩ := project.rendered_spec
  have routed : (blocks.map fun sites => sites.flatMap SiteBlock.addresses) =
      project.ingress.routes.map fun route =>
        groupAddresses (project.ingress.redirectHttp,
          siteHosts project.ingress route) := by
    refine map_eq_of_mapM ?_ rendered
    intro route member sites produced
    obtain ⟨_, _, text, _, rfl⟩ := project.renderedRoute_eq_ok_iff.mp produced
    exact project.addresses_routeBlocks
      (plain route.host (List.mem_map_of_mem member)) text
  calc
    project.rendered.caddyfile.addresses =
        blocks.flatten.flatMap SiteBlock.addresses := by
      rw [Caddyfile.addresses, file]
    _ = (blocks.map fun sites => sites.flatMap SiteBlock.addresses).flatten :=
      by rw [← List.flatMap_id, List.flatMap_assoc, ← List.flatMap_def]; rfl
    _ = project.groups.flatMap groupAddresses := by
      rw [routed, groups, List.flatMap_map, List.flatMap_def]

/-! ## Its upstreams -/

/-- The site of a route proxies to an address of the VM. -/
def Reaches (route : IngressRoute) (name : String) (port : UInt16) : Prop :=
  ∃ bind cert key ip,
    .proxy (siteHosts project.ingress route) bind cert key
        (ip ++ ":" ++ Nat.repr port.toNat) ∈ project.rendered.caddyfile.sites ∧
      RightAddress project.environment project.networks project.attachments
        name ip

/-- Each site of a VM route proxies to that VM. -/
def ReachesVMs : Prop :=
  ∀ route ∈ project.ingress.routes, ∀ name port,
    IngressUpstream.parse library route.target = .ok (.vm name port) →
      project.Reaches route name port

/-- A VM of a route is recorded under two names, and the wrong one is
picked. -/
def Misled : Prop :=
  ∃ route ∈ project.ingress.routes, ∃ name port,
    IngressUpstream.parse library route.target = .ok (.vm name port) ∧
      Astray project.environment project.networks project.attachments name

variable {project}

theorem eq_of_siteHosts_eq {route other : IngressRoute}
    (member : route ∈ project.ingress.routes)
    (otherMember : other ∈ project.ingress.routes)
    (same : siteHosts project.ingress route =
      siteHosts project.ingress other) : route = other :=
  List.inj_on_of_nodup_map project.nodup_hosts member otherMember
    (List.cons.inj same).1

theorem backend_vm_eq_ok {route : IngressRoute} {name : String}
    {port : UInt16} {text : String}
    (found : backend project.environment project.networks project.attachments
      route (.vm name port) = .ok text) :
    ∃ ip, text = ip ++ ":" ++ Nat.repr port.toNat ∧
      ((vmIps project.environment project.networks
        project.attachments).lookup
          (runtimeVmId project.environment.project name)).or
        ((vmIps project.environment project.networks
          project.attachments).lookup name) = some ip := by
  simp only [backend] at found
  split at found
  · rename_i ip picked
    exact ⟨ip, (Except.ok.inj found).symm, picked⟩
  · cases found

theorem mem_sites_iff {route : IngressRoute}
    (member : route ∈ project.ingress.routes) {upstream : IngressUpstream}
    (parsed : IngressUpstream.parse library route.target = .ok upstream)
    {text : String} :
    (∃ bind cert key,
      .proxy (siteHosts project.ingress route) bind cert key text ∈
        project.rendered.caddyfile.sites) ↔
      backend project.environment project.networks project.attachments route
        upstream = .ok text := by
  obtain ⟨blocks, rendered, file, _⟩ := project.rendered_spec
  have produced := mem_of_mapM rendered
  rw [file]
  constructor
  · rintro ⟨bind, cert, key, inside⟩
    obtain ⟨sites, sitesMember, here⟩ := List.mem_flatten.mp inside
    obtain ⟨other, otherMember, ofOther⟩ := produced.1 sites sitesMember
    obtain ⟨_, otherParsed, chosen, found, rfl⟩ :=
      project.renderedRoute_eq_ok_iff.mp ofOther
    rw [routeBlocks, List.mem_append] at here
    rcases here with redirects | proxied
    · split at redirects
      · obtain ⟨_, _, impossible⟩ := List.mem_map.mp redirects
        cases impossible
      · cases redirects
    · have same := List.mem_singleton.mp proxied
      injection same with hosts _ _ _ backends
      cases eq_of_siteHosts_eq member otherMember hosts
      rw [parsed] at otherParsed
      cases otherParsed
      rw [found, backends]
  · intro found
    obtain ⟨sites, sitesMember, ofRoute⟩ := produced.2 route member
    obtain ⟨_, routeParsed, chosen, foundChosen, rfl⟩ :=
      project.renderedRoute_eq_ok_iff.mp ofRoute
    rw [parsed] at routeParsed
    cases routeParsed
    rw [found] at foundChosen
    cases foundChosen
    exact ⟨project.ingress.bind, (leafPaths project.stateDir route.host).1,
      (leafPaths project.stateDir route.host).2,
      List.mem_flatten.mpr
        ⟨_, sitesMember, List.mem_append_right _ List.mem_cons_self⟩⟩

theorem backend_of_mem {route : IngressRoute}
    (member : route ∈ project.ingress.routes) {upstream : IngressUpstream}
    (parsed : IngressUpstream.parse library route.target = .ok upstream) :
    ∃ text, backend project.environment project.networks project.attachments
      route upstream = .ok text := by
  obtain ⟨blocks, rendered, _⟩ := project.rendered_spec
  obtain ⟨sites, _, ofRoute⟩ := (mem_of_mapM rendered).2 route member
  obtain ⟨_, routeParsed, text, found, _⟩ :=
    project.renderedRoute_eq_ok_iff.mp ofRoute
  rw [parsed] at routeParsed
  cases routeParsed
  exact ⟨text, found⟩

theorem reaches_iff {route : IngressRoute}
    (member : route ∈ project.ingress.routes) {name : String} {port : UInt16}
    (parsed : IngressUpstream.parse library route.target =
      .ok (.vm name port)) :
    project.Reaches route name port ↔
      ¬ Astray project.environment project.networks project.attachments
        name := by
  obtain ⟨text, found⟩ := backend_of_mem member parsed
  obtain ⟨ip, rfl, picked⟩ := backend_vm_eq_ok found
  rw [← rightAddress_iff picked]
  constructor
  · rintro ⟨bind, cert, key, other, inside, right⟩
    have rendered := (mem_sites_iff member parsed).mp ⟨bind, cert, key, inside⟩
    have same := Except.ok.inj (rendered.symm.trans found)
    have texts := congrArg String.toList same
    simp only [String.toList_append] at texts
    have addresses := List.append_cancel_right
      (List.append_cancel_right texts)
    exact String.toList_injective addresses ▸ right
  · intro right
    obtain ⟨bind, cert, key, inside⟩ := (mem_sites_iff member parsed).mpr found
    exact ⟨bind, cert, key, ip, inside, right⟩

theorem reachesVMs_iff : project.ReachesVMs ↔ ¬ project.Misled := by
  constructor
  · rintro reaches ⟨route, member, name, port, parsed, astray⟩
    exact (reaches_iff member parsed).mp
      (reaches route member name port parsed) astray
  · intro found route member name port parsed
    refine (reaches_iff member parsed).mpr fun astray => ?_
    exact found ⟨route, member, name, port, parsed, astray⟩

end Deployment

end Ingress

end Vzctl
