import Mathlib.Data.String.Basic
import Vzctl.Ingress.CaddyfileMerge
import Vzctl.Lib.AlignedBlock
import Vzctl.Lib.Dictionary
import Vzctl.Lib.KeyedList
import Vzctl.Network.InetAddress

/-!
# Ingress of a configuration

`ingress.rs`: the Caddyfile of a project from its configuration and the live
networks and attachments, and what `validate_references` asks of the ingress
section.  A Caddyfile is kept as the list of the blocks that are formatted.
-/

namespace Vzctl

namespace Ingress

open KeyedList

/-! ## Configuration -/

inductive NetworkBackend where
  | vmnet
  | docker
  deriving DecidableEq

structure NetworkConfig where
  cidr : String
  backend : NetworkBackend

/-- `target` is the field `to`. -/
structure IngressRoute where
  host : String
  target : String
  requires : List String

structure IngressConfig where
  enabled : Bool
  bind : String
  httpPort : UInt16
  httpsPort : UInt16
  hostAliases : Bool
  redirectHttp : Bool
  routes : List IngressRoute

/-- What the ingress of an environment depends on.  `vms` holds the names of
the networks that a VM is attached to; both maps are in the order of their
keys. -/
structure Environment where
  project : String
  networks : List (String × NetworkConfig)
  vms : List (String × List String)
  ingress : Option IngressConfig
  oidcEnabled : Bool

/-- The texts of an item of `net.list`, `none` where it has no such text. -/
structure LiveNetwork where
  name : Option String
  project : Option String
  backend : Option String
  runtimeState : Option String
  cidr : Option String

structure LiveAttachment where
  vmID : Option String
  project : Option String
  ip : Option String
  network : Option String

/-! ## Libraries -/

structure Ipv4Net where
  addr : UInt32
  prefixLength : Nat

namespace Ipv4Net

def network (net : Ipv4Net) : UInt32 :=
  if net.prefixLength = 0 then 0
  else net.addr &&& AddressMask.clearing (32 - net.prefixLength)

/-- `net.trunc().to_string()`. -/
def truncated (net : Ipv4Net) : String :=
  inetNtop net.network ++ "/" ++ Nat.repr net.prefixLength

end Ipv4Net

/-- `debug` is the `{:?}` of a text, `parseNet` is `parse::<Ipv4Net>`. -/
structure Library where
  debug : String → String
  parseNet : String → Except String Ipv4Net

/-- `text.parse::<u16>()`. -/
def parseU16 (text : String) : Option UInt16 :=
  let digits :=
    match text.toList with
    | '+' :: rest => rest
    | other => other
  if digits ≠ [] ∧ digits.all Char.isDigit = true ∧
      Nat.ofDigitChars 10 digits 0 < 65536 then
    some (UInt16.ofNat (Nat.ofDigitChars 10 digits 0))
  else none

/-- `directory.join(name)`. -/
def pathJoin (directory name : String) : String :=
  if name.toList.head? = some '/' ∨ directory = "" then name
  else if directory.toList.getLast? = some '/' then directory ++ name
  else directory ++ "/" ++ name

/-! ## Upstreams -/

inductive IngressUpstream where
  | vm (name : String) (port : UInt16)
  | oidc (port : UInt16)
  deriving DecidableEq

def toAsciiLowercase (text : List Char) : List Char := text.map Char.toLower

/-- `IngressUpstream::parse`. -/
def IngressUpstream.parse (library : Library) (raw : String) :
    Except String IngressUpstream :=
  let left := raw.toList.takeWhile (· ≠ ':')
  match raw.toList.dropWhile (· ≠ ':') with
  | [] => .error "ingress route to must be vm:port or oidc:<port>"
  | _ :: right =>
      if left = [] ∨ right = [] then
        .error "ingress route to must be vm:port or oidc:<port>"
      else
        match parseU16 (String.ofList right) with
        | none =>
            .error ("invalid port in ingress route to " ++ library.debug raw)
        | some port =>
            if port = 0 then .error "ingress route port must be in 1...65535"
            else if toAsciiLowercase left = "oidc".toList then
              .ok (.oidc port)
            else .ok (.vm (String.ofList left) port)

/-! ## Validation -/

structure ValidationIssue where
  path : String
  message : String
  kind : String
  deriving DecidableEq

def localhostSuffix : List Char := ".localhost".toList

def endsWithLocalhost (host : String) : Bool :=
  localhostSuffix.isSuffixOf host.toList

section Validation

variable (library : Library) (environment : Environment)

def hostIssues (base : String) (hosts : List String) (route : IngressRoute) :
    List ValidationIssue :=
  if route.host = "" then
    [⟨base ++ ".host", "ingress route host must not be empty", "semantic"⟩]
  else if endsWithLocalhost route.host then
    [⟨base ++ ".host",
      "ingress route host must not use *.localhost; use *.svc.{project}.vz.test (hostAliases publishes localhost separately)",
      "semantic"⟩]
  else if route.host ∈ hosts then
    [⟨base ++ ".host", "duplicate ingress host " ++ library.debug route.host,
      "semantic"⟩]
  else []

/-- The host joins those that were seen unless an earlier check rejected it. -/
def seenHosts (hosts : List String) (route : IngressRoute) : List String :=
  if route.host = "" ∨ endsWithLocalhost route.host then hosts
  else route.host :: hosts

def upstreamIssues (base : String) (route : IngressRoute) :
    List ValidationIssue :=
  match IngressUpstream.parse library route.target with
  | .ok (.vm name _) =>
      if (environment.vms.lookup name).isSome then []
      else
        [⟨base ++ ".to",
          "ingress route references unknown VM " ++ library.debug name,
          "semantic"⟩]
  | .ok (.oidc _) =>
      if environment.oidcEnabled then []
      else
        [⟨base ++ ".to",
          "ingress oidc upstream requires spec.oidc.enabled", "semantic"⟩]
  | .error message => [⟨base ++ ".to", message, "semantic"⟩]

def requireIssues (base : String) (route : IngressRoute) :
    List ValidationIssue :=
  route.requires.zipIdx.flatMap fun (req, index) =>
    let path := base ++ ".requires[" ++ Nat.repr index ++ "]"
    if req = "oidc" ∧ ¬ environment.oidcEnabled then
      [⟨path, "requires: [oidc] needs spec.oidc.enabled", "semantic"⟩]
    else if req ≠ "oidc" ∧ req ≠ "guest-agent-v1" then
      [⟨path,
        "unsupported require " ++ library.debug req ++
          "; allowed: oidc, guest-agent-v1",
        "semantic"⟩]
    else []

def routesIssues (hosts : List String) (index : Nat) :
    List IngressRoute → List ValidationIssue
  | [] => []
  | route :: routes =>
      let base := "$.spec.ingress.routes[" ++ Nat.repr index ++ "]"
      hostIssues library base hosts route ++
        (upstreamIssues library environment base route ++
          (requireIssues library environment base route ++
            routesIssues (seenHosts hosts route) (index + 1) routes))

def listenIssues (ingress : IngressConfig) : List ValidationIssue :=
  (if ingress.bind ≠ "127.0.0.1" then
    [⟨"$.spec.ingress.bind",
      "unsupported bind address " ++ library.debug ingress.bind ++
        "; v0.2 only allows 127.0.0.1",
      "semantic"⟩]
  else []) ++
    ((if ingress.httpPort = 0 then
      [⟨"$.spec.ingress.httpPort", "httpPort must be in 1...65535",
        "semantic"⟩]
    else []) ++
      ((if ingress.httpsPort = 0 then
        [⟨"$.spec.ingress.httpsPort", "httpsPort must be in 1...65535",
          "semantic"⟩]
      else []) ++
        if ingress.routes.isEmpty then
          [⟨"$.spec.ingress.routes",
            "ingress.enabled requires at least one route", "semantic"⟩]
        else []))

/-- The ingress section of `validate_references`. -/
def ingressIssues : List ValidationIssue :=
  match environment.ingress with
  | none => []
  | some ingress =>
      if ingress.enabled then
        listenIssues library ingress ++
          routesIssues library environment [] 0 ingress.routes
      else []

end Validation

/-! ## Caddyfiles -/

/-- Map privileged public ports to unprivileged loopback ports. -/
def caddyListenPort (port : UInt16) : UInt16 :=
  if 1024 ≤ port then port
  else UInt16.ofNat (min (port.toNat + 18000) 65535)

def portText (port : UInt16) : Source := Nat.toDigits 10 port.toNat

structure GlobalBlock where
  httpPort : UInt16
  httpsPort : UInt16
  bind : String

/-- What stands between the braces. -/
def GlobalBlock.options (block : GlobalBlock) : Source :=
  "\n\tauto_https off\n\thttp_port ".toList ++ portText block.httpPort ++
    "\n\thttps_port ".toList ++ portText block.httpsPort ++
    "\n\tdefault_bind ".toList ++ block.bind.toList ++ "\n".toList

def GlobalBlock.text (block : GlobalBlock) : Source :=
  '\x7b' :: block.options ++ ['\x7d']

inductive SiteBlock where
  | redirect (host bind : String)
  | proxy (hosts : List String) (bind cert key backend : String)
  deriving DecidableEq

namespace SiteBlock

def text : SiteBlock → Source
  | redirect host bind =>
      "http://".toList ++ host.toList ++ " \x7b\n\tbind ".toList ++
        bind.toList ++ "\n\tredir https://".toList ++ host.toList ++
        "\x7buri\x7d permanent\n".toList ++ ['\x7d']
  | proxy hosts bind cert key backend =>
      "https://".toList ++
        List.intercalate ", ".toList (hosts.map String.toList) ++
        " \x7b\n\tbind ".toList ++ bind.toList ++ "\n\ttls \"".toList ++
        cert.toList ++ "\" \"".toList ++ key.toList ++
        "\"\n\treverse_proxy ".toList ++ backend.toList ++ ['\n'] ++
        ['\x7d']

end SiteBlock

structure Caddyfile where
  global : Option GlobalBlock
  sites : List SiteBlock

/-- Every block is followed by a blank line. -/
def Caddyfile.text (file : Caddyfile) : Source :=
  (file.global.map fun block => block.text ++ ['\n', '\n']).getD [] ++
    file.sites.flatMap fun block => block.text ++ ['\n', '\n']

/-! ## Rendering -/

structure IngressGatewayBinding where
  cidr : String
  allowedSources : List String

structure RenderedIngress where
  caddyfile : Caddyfile
  hosts : List String
  gateways : List String
  gatewayBindings : List IngressGatewayBinding
  httpPort : UInt16
  httpsPort : UInt16
  caddyHttpPort : UInt16
  caddyHttpsPort : UInt16

section Rendering

variable (library : Library) (environment : Environment)
  (networks : List LiveNetwork) (attachments : List LiveAttachment)
  (stateDir : String)

def ownProject (project : Option String) : Bool :=
  project == some environment.project

/-- Networks whose addresses live on a Docker bridge. -/
def dockerNetworkNames : List String :=
  ((environment.networks.filter fun network =>
      network.2.backend = .docker).map Prod.fst) ++
    (networks.filter fun item =>
      item.backend == some "docker" && ownProject environment item.project
      ).filterMap LiveNetwork.name

structure Addresses where
  preferred : Dictionary String
  docker : Dictionary String

/-- One attachment of the loop that collects the addresses. -/
def recordAddress (addresses : Addresses) (item : LiveAttachment) :
    Addresses :=
  match item.vmID, item.ip with
  | some vm, some ip =>
      if ownProject environment item.project then
        if item.network.getD "" ∈ dockerNetworkNames environment networks then
          { addresses with docker := addresses.docker.entryOrInsert vm ip }
        else
          { addresses with
            preferred := addresses.preferred.entryOrInsert vm ip }
      else addresses
  | _, _ => addresses

/-- Docker addresses stand in for VMs without any other. -/
def vmIps : Dictionary String :=
  let addresses := attachments.foldl (recordAddress environment networks)
    ⟨∅, ∅⟩
  addresses.docker.entries.foldl
    (fun values entry => values.entryOrInsert entry.1 entry.2)
    addresses.preferred

/-- `gateways` and `binding_sources`. -/
structure Bindings where
  gateways : List (String × Unit)
  sources : List (String × List (String × Unit))

def addSource (bindings : Bindings) (canonical source : String) : Bindings :=
  { bindings with
    sources := insertKey canonical
      (insertKey source () ((bindings.sources.lookup canonical).getD []))
      bindings.sources }

def bindNetwork (bindings : Bindings) (item : LiveNetwork) :
    Except String Bindings :=
  if ¬ ownProject environment item.project ∨
      item.runtimeState.getD "active" ≠ "active" ∨
      item.backend.getD "vmnet" = "docker" then
    .ok bindings
  else
    match item.cidr with
    | none => .ok bindings
    | some cidr =>
        match library.parseNet cidr with
        | .error error =>
            .error ("invalid live ingress CIDR " ++ library.debug cidr ++
              ": " ++ error)
        | .ok parsed =>
            let hostService := inetNtop (parsed.network + 1)
            .ok (addSource
              { bindings with
                gateways := insertKey hostService () bindings.gateways }
              parsed.truncated parsed.truncated)

def parseCidr (named : String) (cidr : String) : Except String String :=
  match library.parseNet cidr with
  | .error error => .error ("invalid " ++ named ++ " CIDR: " ++ error)
  | .ok parsed => .ok parsed.truncated

/-- A Docker subnet leaves through the primary vmnet NIC of its owner. -/
def bindDockerNetwork (bindings : Bindings)
    (network : String × NetworkConfig) : Except String Bindings :=
  if network.2.backend ≠ .docker then .ok bindings
  else
    match (environment.vms.map Prod.snd).find? fun attached =>
        network.1 ∈ attached with
    | none =>
        .error ("docker network " ++ library.debug network.1 ++
          " has no owning VM")
    | some owner =>
        match owner.findSome? fun name =>
            (environment.networks.lookup name).filter fun config =>
              config.backend ≠ .docker with
        | none =>
            .error ("docker network " ++ library.debug network.1 ++
              " owner has no vmnet NIC")
        | some primary => do
            let primaryCidr ← parseCidr library "primary vmnet" primary.cidr
            let dockerCidr ← parseCidr library "Docker" network.2.cidr
            .ok (if (bindings.sources.lookup primaryCidr).isSome then
                addSource bindings primaryCidr dockerCidr
              else bindings)

def shortLabel (host : String) : String :=
  String.ofList (host.toList.takeWhile (· ≠ '.'))

def shortLocalhost (host : String) : String :=
  shortLabel host ++ ".localhost"

def siteHosts (ingress : IngressConfig) (route : IngressRoute) :
    List String :=
  route.host ::
    if ingress.hostAliases then [shortLocalhost route.host] else []

def runtimeVmId (project name : String) : String := project ++ "/" ++ name

def backend (route : IngressRoute) : IngressUpstream → Except String String
  | .vm name port =>
      let ips := vmIps environment networks attachments
      let runtime := runtimeVmId environment.project name
      match (ips.lookup runtime).or (ips.lookup name) with
      | some ip => .ok (ip ++ ":" ++ Nat.repr port.toNat)
      | none =>
          .error ("ingress route " ++ route.host ++
            " needs attachment IP for VM " ++ runtime)
  | .oidc port => .ok ("127.0.0.1:" ++ Nat.repr port.toNat)

/-- `leaf_paths`, certificate and key. -/
def leafPaths (san : String) : String × String :=
  let directory := pathJoin (pathJoin (pathJoin stateDir "ca") "issued") san
  (pathJoin directory "cert.pem", pathJoin directory "key.pem")

/-- The blocks of one route. -/
def routeBlocks (ingress : IngressConfig) (route : IngressRoute)
    (backend : String) : List SiteBlock :=
  let (cert, key) := leafPaths stateDir route.host
  let hosts := siteHosts ingress route
  (if ingress.redirectHttp then
    hosts.map fun host => SiteBlock.redirect host ingress.bind
  else []) ++ [.proxy hosts ingress.bind cert key backend]

def renderRoute (ingress : IngressConfig) (route : IngressRoute) :
    Except String (List SiteBlock) := do
  let upstream ← IngressUpstream.parse library route.target
  let backend ← backend environment networks attachments route upstream
  .ok (routeBlocks stateDir ingress route backend)

def render : Except String RenderedIngress :=
  match environment.ingress.filter IngressConfig.enabled with
  | none =>
      .ok {
        caddyfile := ⟨none, []⟩
        hosts := []
        gateways := []
        gatewayBindings := []
        httpPort := 80
        httpsPort := 443
        caddyHttpPort := caddyListenPort 80
        caddyHttpsPort := caddyListenPort 443 }
  | some ingress => do
      let live ← networks.foldlM (bindNetwork library environment)
        ⟨[(ingress.bind, ())], []⟩
      let bindings ← environment.networks.foldlM
        (bindDockerNetwork library environment) live
      let sites ← ingress.routes.mapM
        (renderRoute library environment networks attachments stateDir
          ingress)
      .ok {
        caddyfile :=
          { global := some {
              httpPort := caddyListenPort ingress.httpPort
              httpsPort := caddyListenPort ingress.httpsPort
              bind := ingress.bind }
            sites := sites.flatten }
        hosts := ingress.routes.map IngressRoute.host
        gateways := bindings.gateways.map Prod.fst
        gatewayBindings := bindings.sources.map fun (cidr, sources) =>
          ⟨cidr, sources.map Prod.fst⟩
        httpPort := ingress.httpPort
        httpsPort := ingress.httpsPort
        caddyHttpPort := caddyListenPort ingress.httpPort
        caddyHttpsPort := caddyListenPort ingress.httpsPort }

end Rendering

end Ingress

end Vzctl
