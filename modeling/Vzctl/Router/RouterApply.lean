import Vzctl.Lib.Script
import Vzctl.Router.RouteTypes

/-!
# The privileged helper of a router

The script `router-apply`, by which a guest loads and persists its rules.
`nft -f` is a parameter that takes the loaded table `inet vzctl` and the text
of a transaction; so are the encoder of the plan and Python's reading of the
routes in its text.  The tests of the script tell what is so.
-/

namespace Vzctl

open Procedure Script

namespace RouterApply

/-- The programs that the script relies on; `none` is a text that `nft`
refuses or a table that is not there. -/
structure Programs (τ : Type) where
  nft : Option τ → String → Option (Option τ)
  encode : JSONValue → String
  staticRoutes : String → List StaticRoute

inductive Init where
  | systemd
  | openrc
  deriving DecidableEq, Repr

/-- The chain `ip filter FORWARD` of old guests, where it drops. -/
inductive LegacyChain where
  | absent
  /-- Empty and made by the known line of `runcmd`. -/
  | owned
  | unowned
  deriving DecidableEq, Repr

inductive Service where
  | docker
  | vzctlAgent
  deriving DecidableEq, Repr

def Service.name : Service → String
  | .docker => "docker"
  | .vzctlAgent => "vzctl-agent"

/-- What a run finds installed. -/
structure Tools where
  nft : Bool
  python3 : Bool
  init : Option Init
  /-- A file `/etc/conf.d/<service>.*`. -/
  runlevelOverride : Service → Option String

/-- The files that make forwarding start closed at boot. -/
inductive BootFile where
  | sysctlConf
  | unit
  | bootstrapUnit
  | guard (service : Service)
  deriving DecidableEq, Repr

def BootFile.path (init : Init) : BootFile → String
  | .sysctlConf => "/etc/sysctl.d/90-vzctl-router.conf"
  | .unit =>
      match init with
      | .systemd => "/etc/systemd/system/vzctl-router.service"
      | .openrc => "/etc/init.d/vzctl-router"
  | .bootstrapUnit => "/etc/init.d/vzctl-router-bootstrap"
  | .guard service =>
      match init with
      | .systemd => "/etc/systemd/system/" ++ service.name ++
          ".service.d/20-vzctl-router-bootstrap.conf"
      | .openrc => "/etc/conf.d/" ++ service.name

inductive FileState where
  | absent
  /-- A link, or without the line `# Managed by vzctl router-apply`. -/
  | unmanaged
  | outdated
  | current
  deriving DecidableEq, Repr

structure SavedFile where
  content : String
  isLink : Bool
  deriving DecidableEq, Repr

/-- The guest, and the shell variable `changed`. -/
structure State (τ : Type) where
  forwarding : Bool
  table : Option τ
  legacy : LegacyChain
  routes : List StaticRoute
  routesJSON : Option SavedFile
  vzctlNft : Option SavedFile
  bootFiles : BootFile → FileState
  serviceEnabled : Bool
  changed : Bool

variable {τ : Type} (programs : Programs τ) (tools : Tools)

/-- `sysctl -q -w net.ipv4.ip_forward=…`. -/
def writeForwarding (forwarding : Bool) : Script (State τ) PUnit :=
  command fun state => some { state with forwarding := forwarding }

/-- `changed=true`. -/
def markChanged : Script (State τ) PUnit :=
  assign fun state => { state with changed := true }

/-! ## `--bootstrap` -/

def denyText : String :=
  "table inet vzctl \x7b chain forward \x7b type filter hook forward " ++
    "priority 0; policy drop; \x7d \x7d\n"

/-- `nft -f` on the standard input. -/
def loadDeny : Script (State τ) PUnit :=
  command fun state =>
    (programs.nft state.table denyText).map fun table =>
      { state with table := table }

/-- Existing desired rules must survive Docker/agent restarts. -/
def ensureTable : Script (State τ) PUnit := do
  let present ← test fun state => state.table.isSome
  onlyIf (present = false) do
    writeForwarding false
    loadDeny programs

def bootstrap : Script (State τ) PUnit := do
  onlyIf (tools.nft = false) do
    writeForwarding false
    exit "nftables backend is required for router bootstrap"
  ensureTable programs
  -- Docker must observe forwarding already enabled.
  writeForwarding true

/-! ## Boot files -/

/-- `managed_unit_check`. -/
def managedUnitCheck (init : Init) (file : BootFile) :
    Script (State τ) PUnit := do
  let found ← test fun state => state.bootFiles file
  check (found ≠ .unmanaged)
    ("refusing to replace unmanaged router boot unit: " ++ file.path init)

/-- `install_if_changed`. -/
def installIfChanged (file : BootFile) : Script (State τ) PUnit := do
  let found ← test fun state => state.bootFiles file
  onlyIf (found ≠ .current) do
    command fun state => some
      { state with bootFiles := Function.update state.bootFiles file .current }
    markChanged

def services : List Service := [.docker, .vzctlAgent]

/-- The checks before the first write. -/
def checkBootFiles : Script (State τ) PUnit :=
  match tools.init with
  | some .systemd => do
      managedUnitCheck .systemd .unit
      forEach services fun service =>
        managedUnitCheck .systemd (.guard service)
      effectless
  | some .openrc => do
      managedUnitCheck .openrc .unit
      managedUnitCheck .openrc .bootstrapUnit
      forEach services fun service => do
        managedUnitCheck .openrc (.guard service)
        -- Overrides could silently remove the dependency.
        match tools.runlevelOverride service with
        | some override =>
            exit ("refusing ambiguous OpenRC router guard override: " ++
              override)
        | none => Procedure.pure ⟨⟩
      effectless
  | none => exit "no supported init for persistent vzctl router rules"

def installGuards : Script (State τ) PUnit :=
  match tools.init with
  | some .systemd => do
      forEach services fun service => do
        effectless
        installIfChanged (.guard service)
      effectless
  | some .openrc => do
      effectless
      installIfChanged .bootstrapUnit
      forEach services fun service => installIfChanged (.guard service)
  | none => Procedure.pure ⟨⟩

/-- `systemctl enable` or `rc-update add`. -/
def enableService : Script (State τ) PUnit := do
  let enabled ← test fun state => state.serviceEnabled
  onlyIf (enabled = false) do
    command fun state => some { state with serviceEnabled := true }
    markChanged

/-- `install_if_changed` for the unit, with a reload after the write. -/
def installSystemdUnit : Script (State τ) PUnit := do
  let found ← test fun state => state.bootFiles .unit
  onlyIf (found ≠ .current) do
    command fun state => some
      { state with
        bootFiles := Function.update state.bootFiles .unit .current }
    effectless
    markChanged

def installUnit : Script (State τ) PUnit :=
  match tools.init with
  | some .systemd => do
      installSystemdUnit
      enableService
  | some .openrc => do
      installIfChanged .unit
      enableService
  | none => Procedure.pure ⟨⟩

/-! ## Rules and routes -/

/-- `$(cat file)`, which drops the newlines at the end. -/
def catSubstitution (content : String) : String :=
  String.ofList (content.toList.reverse.dropWhile (· = '\n')).reverse

/-- What a run loads and saves. -/
structure Payload where
  /-- `$nftables_config`. -/
  rules : String
  /-- The content of `$routes_tmp`. -/
  routes : String
  deriving DecidableEq, Repr

/-- `printf '%s\n' "$nftables_config"`. -/
def Payload.nftText (payload : Payload) : String := payload.rules ++ "\n"

/-- A saved file is refused when it is missing, linked or empty. -/
def requireSaved (path : String) (file : State τ → Option SavedFile) :
    Script (State τ) String := do
  let found ← test file
  match found with
  | some saved =>
      if saved.isLink || saved.content.isEmpty then
        exit ("missing or unsafe saved router configuration: " ++ path)
      else
        return saved.content
  | none =>
      exit ("missing or unsafe saved router configuration: " ++ path)

/-- The payload of `--restore`. -/
def savedPayload : Script (State τ) Payload := do
  let rules ← requireSaved "/etc/vzctl/vzctl.nft" (·.vzctlNft)
  let routes ← requireSaved "/etc/vzctl/routes.json" (·.routesJSON)
  effectless
  return ⟨catSubstitution rules, routes⟩

/-- The inventory and the check of the old chain; the result is whether
`$legacy_tmp` has the line that deletes it. -/
def legacyCheck : Script (State τ) Bool := do
  check (tools.nft = true) "nftables backend is required"
  check (tools.python3 = true)
    "python3 is required for router firewall ownership checks"
  effectless
  let legacy ← test fun state => state.legacy
  check (legacy ≠ .unowned)
    ("unowned or nonempty legacy ip/filter/FORWARD drop chain; " ++
      "refusing router mutation")
  effectless
  return legacy = .owned

/-- A saved file has the content. -/
def Saved (file : Option SavedFile) (content : String) : Prop :=
  file.map SavedFile.content = some content

instance (file : Option SavedFile) (content : String) :
    Decidable (Saved file content) :=
  inferInstanceAs (Decidable (_ = _))

/-- The condition under which the rules are loaded. -/
def mustLoad (deletesLegacy restore : Bool) (payload : Payload)
    (state : State τ) : Bool :=
  deletesLegacy ∨ restore ∨ ¬ Saved state.routesJSON payload.routes ∨
    ¬ Saved state.vzctlNft payload.nftText ∨ state.table = none

/-- The transaction in `$load_tmp`: the old chain and the old table go, the
new rules come. -/
def loadRules (deletesLegacy restore : Bool) (payload : Payload) :
    Script (State τ) PUnit :=
  (command fun state =>
    (programs.nft none payload.nftText).map fun table =>
      { state with
        table := table
        legacy := if deletesLegacy then .absent else state.legacy }).orElse
    fun _ => exit
      ("router firewall transaction failed; boot_guards_installed=" ++
        (if restore then "false" else "true") ++
        ", closed boot default retained; existing firewall and saved rules " ++
        "unchanged")

def saveRoutes (payload : Payload) : Script (State τ) PUnit :=
  command fun state =>
    some { state with routesJSON := some ⟨payload.routes, false⟩ }

def saveRules (payload : Payload) : Script (State τ) PUnit :=
  command fun state =>
    some { state with vzctlNft := some ⟨payload.nftText, false⟩ }

def applyRules (deletesLegacy restore : Bool) (payload : Payload) :
    Script (State τ) PUnit := do
  let loads ← test (mustLoad deletesLegacy restore payload)
  onlyIf (loads = true) do
    effectless
    loadRules programs deletesLegacy restore payload
    onlyIf (restore = false) do
      saveRoutes payload
      saveRules payload
    markChanged

def enableForwarding : Script (State τ) PUnit := do
  let forwarding ← test fun state => state.forwarding
  onlyIf (forwarding = false) markChanged
  writeForwarding true

/-- `ip route replace`. -/
def replaceRoute (routes : List StaticRoute) (route : StaticRoute) :
    List StaticRoute :=
  routes.filter (fun other => other.destination ≠ route.destination) ++
    [route]

/-- The routes of the payload that the script asks for. -/
def requestedRoutes (payload : Payload) : List StaticRoute :=
  (programs.staticRoutes payload.routes).filter fun route =>
    route.destination ≠ "" ∧ route.via ≠ ""

def installRoutes (payload : Payload) : Script (State τ) PUnit :=
  onlyIf (tools.python3 = true) <| attempt <|
    forEach (requestedRoutes programs payload) fun route =>
      attempt <| command fun state =>
        some { state with routes := replaceRoute state.routes route }

/-! ## The script -/

/-- A run for a payload; the result is what it prints as `changed`. -/
def install (restore : Bool) (payload : Payload) :
    Script (State τ) Bool := do
  effectless
  let deletesLegacy ← legacyCheck tools
  onlyIf (restore = false) (checkBootFiles tools)
  installIfChanged .sysctlConf
  onlyIf (restore = false) (installGuards tools)
  applyRules programs deletesLegacy restore payload
  enableForwarding
  onlyIf (restore = false) (installUnit tools)
  installRoutes programs tools payload
  test fun state => state.changed

/-- `router-apply argument`, with the plan on the standard input. -/
def routerApply (argument stdin : String) : Script (State τ) Bool := do
  assign fun state => { state with changed := false }
  if argument = "--bootstrap" then
    bootstrap programs tools
    return false
  else if argument = "" then
    exit "usage: router-apply <nftables-config> | --restore"
  else
    effectless
    if argument = "--restore" then
      let payload ← savedPayload
      install programs tools true payload
    else
      install programs tools false ⟨argument, stdin⟩

/-! ## Runs -/

inductive Invocation where
  | bootstrap
  | apply (plan : RouterPlan)
  | restore

/-- One run: the tools it finds, its arguments, and which commands fail. -/
structure Call where
  tools : Tools
  invocation : Invocation
  failures : List Bool

def planPayload (plan : RouterPlan) : Payload where
  rules := plan.nftables
  routes := programs.encode plan.json

def Invocation.script (invocation : Invocation) : Script (State τ) Bool :=
  match invocation with
  | .bootstrap => routerApply programs tools "--bootstrap" ""
  | .apply plan =>
      routerApply programs tools plan.nftables (programs.encode plan.json)
  | .restore => routerApply programs tools "--restore" ""

def outcome (state : State τ) (call : Call) : Except Exit Bool × State τ :=
  (call.invocation.script programs call.tools).run state call.failures

def perform (state : State τ) (call : Call) : State τ :=
  (outcome programs state call).2

end RouterApply

end Vzctl
