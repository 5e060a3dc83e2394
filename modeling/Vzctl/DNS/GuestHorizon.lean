import Vzctl.DNS.ZoneBuilder

/-!
# What a guest listener answers

A guest sees the ingress names of its own project, at its own network, and the
short names of its own stack and network, as long as every ingress name names
a project and no two listeners share a context key.
-/

namespace Vzctl

namespace DNS

variable (rules : TextRules)

/-! ## Short names -/

namespace ZoneTables

variable {rules} {tables : ZoneTables} {key name ip : String}

/-- The set of a short name on a listener. -/
def shortIps (tables : ZoneTables) (key name : String) : List String :=
  ((tables.shortRecords.lookup key).bind (·.lookup name)).getD []

theorem shortRecords_insertMachine (tables : ZoneTables)
    (machine : MachineRecord) :
    (tables.insertMachine rules machine).shortRecords =
      (tables.insertMachineRecord rules machine).shortRecords := by
  rw [insertMachine]
  generalize tables.insertMachineRecord rules machine = reached
  induction machine.services generalizing reached with
  | nil => rfl
  | cons service rest ih =>
      rw [List.foldl_cons, ih]
      rfl

theorem mem_shortIps_insertMachine (machine : MachineRecord) :
    ip ∈ (tables.insertMachine rules machine).shortIps key name ↔
      ip ∈ tables.shortIps key name ∨
        contextKey rules (some machine.stack) machine.listenerNetwork = key ∧
          machine.name = name ∧ machine.ip = ip := by
  rw [shortIps, shortRecords_insertMachine, insertMachineRecord]
  simp only [Dictionary.lookup_modify]
  by_cases sameKey :
      key = contextKey rules (some machine.stack) machine.listenerNetwork
  · rw [if_pos sameKey, ← sameKey, shortIps, Option.bind_some,
      Dictionary.lookup_modify]
    by_cases sameName : name = machine.name
    · rw [if_pos sameName, ← sameName, Option.getD_some, List.mem_insert_iff]
      have known : ((tables.shortRecords.lookup key).getD ∅).lookup name =
          (tables.shortRecords.lookup key).bind (·.lookup name) := by
        cases tables.shortRecords.lookup key with
        | none => rfl
        | some names => rfl
      rw [known]
      constructor
      · rintro (same | old)
        · exact .inr ⟨rfl, rfl, same.symm⟩
        · exact .inl old
      · rintro (old | ⟨_, _, same⟩)
        · exact .inr old
        · exact .inl same.symm
    · rw [if_neg sameName]
      have known : ((tables.shortRecords.lookup key).getD ∅).lookup name =
          (tables.shortRecords.lookup key).bind (·.lookup name) := by
        cases tables.shortRecords.lookup key with
        | none => rfl
        | some names => rfl
      rw [known]
      constructor
      · intro old
        exact .inl old
      · rintro (old | ⟨_, same, _⟩)
        · exact old
        · exact absurd same.symm sameName
  · rw [if_neg sameKey]
    constructor
    · intro old
      exact .inl old
    · rintro (old | ⟨same, _⟩)
      · exact old
      · exact absurd same.symm sameKey

theorem mem_shortIps_foldl (machines : List MachineRecord) :
    ip ∈ (machines.foldl (insertMachine rules) tables).shortIps key name ↔
      ip ∈ tables.shortIps key name ∨ ∃ machine ∈ machines,
        contextKey rules (some machine.stack) machine.listenerNetwork = key ∧
          machine.name = name ∧ machine.ip = ip := by
  induction machines generalizing tables with
  | nil => simp
  | cons machine rest ih =>
      rw [List.foldl_cons, ih, mem_shortIps_insertMachine]
      simp only [List.mem_cons, exists_eq_or_imp, or_assoc]

/-! ## Every other name has a dot -/

def Dotted (tables : ZoneTables) : Prop :=
  ∀ key, (tables.records.lookup key).isSome → '.' ∈ key.toList

theorem dotted_insertMachine (machine : MachineRecord)
    (dotted : tables.Dotted) :
    (tables.insertMachine rules machine).Dotted := by
  have first : (tables.insertMachineRecord rules machine).Dotted := by
    intro key found
    rw [insertMachineRecord, Dictionary.lookup_modify] at found
    by_cases same : key = machine.fqdn
    · rw [same, MachineRecord.fqdn]
      simp
    · rw [if_neg same] at found
      exact dotted key found
  rw [insertMachine]
  generalize tables.insertMachineRecord rules machine = reached at first ⊢
  induction machine.services generalizing reached with
  | nil => exact first
  | cons service rest ih =>
      rw [List.foldl_cons]
      apply ih
      intro key found
      rw [insertService, Dictionary.lookup_modify] at found
      by_cases same : key = service ++ ".svc." ++ machine.zone
      · rw [same]
        simp
      · rw [if_neg same] at found
        exact first key found

theorem dotted_foldl (machines : List MachineRecord)
    (dotted : tables.Dotted) :
    (machines.foldl (insertMachine rules) tables).Dotted := by
  induction machines generalizing tables with
  | nil => exact dotted
  | cons machine rest ih =>
      rw [List.foldl_cons]
      exact ih (dotted_insertMachine machine dotted)

end ZoneTables

/-! ## Names that the host manages -/

/-- The name is one of the ingress names of the host. -/
def HostManaged (hostServices : List String) (name : String) : Prop :=
  name ≠ "" ∧ ∃ raw ∈ hostServices, canonicalName rules raw = name

namespace HostTables

variable {rules} {tables : HostTables} {name : String}

theorem hostRecords_insert (raw : String) :
    ((tables.insert rules raw).hostRecords.lookup name).isSome = true ↔
      (tables.hostRecords.lookup name).isSome = true ∨
        name ≠ "" ∧ canonicalName rules raw = name := by
  rw [insert]
  split
  · rename_i empty
    rw [empty]
    constructor
    · intro old
      exact .inl old
    · rintro (old | ⟨notEmpty, same⟩)
      · exact old
      · exact absurd same.symm notEmpty
  · rename_i notEmpty
    by_cases same : name = canonicalName rules raw
    · rw [same, AList.lookup_insert]
      simp [notEmpty]
    · rw [AList.lookup_insert_ne same]
      constructor
      · intro old
        exact .inl old
      · rintro (old | ⟨_, equal⟩)
        · exact old
        · exact absurd equal.symm same

theorem hostRecords_foldl (hostServices : List String) :
    ((hostServices.foldl (insert rules) tables).hostRecords.lookup
        name).isSome = true ↔
      (tables.hostRecords.lookup name).isSome = true ∨
        HostManaged rules hostServices name := by
  induction hostServices generalizing tables with
  | nil => simp [HostManaged]
  | cons raw rest ih =>
      rw [List.foldl_cons, ih, hostRecords_insert]
      simp only [HostManaged, List.mem_cons, exists_eq_or_imp, and_or_left,
        or_assoc]

/-- A project is known for the names that the host manages and that have
one. -/
def Owned (rules : TextRules) (tables : HostTables) : Prop :=
  ∀ name, tables.ingressProjects.lookup name =
    (tables.hostRecords.lookup name).bind fun _ => ingressProject rules name

theorem owned_insert (raw : String) (owned : tables.Owned rules) :
    (tables.insert rules raw).Owned rules := by
  intro name
  rw [insert]
  split
  · exact owned name
  · by_cases same : name = canonicalName rules raw
    · rw [same, AList.lookup_insert, Option.bind_some]
      rcases project : ingressProject rules (canonicalName rules raw) with
        _ | found
      · simp only []
        rw [owned, project]
        cases tables.hostRecords.lookup (canonicalName rules raw) with
        | none => rfl
        | some _ => rfl
      · simp only []
        rw [AList.lookup_insert]
    · rw [AList.lookup_insert_ne same, ← owned name]
      rcases ingressProject rules (canonicalName rules raw) with _ | found
      · rfl
      · simp only []
        rw [AList.lookup_insert_ne same]

theorem owned_foldl (hostServices : List String)
    (owned : tables.Owned rules) :
    (hostServices.foldl (insert rules) tables).Owned rules := by
  induction hostServices generalizing tables with
  | nil => exact owned
  | cons raw rest ih =>
      rw [List.foldl_cons]
      exact ih (owned_insert raw owned)

end HostTables

/-! ## The zone that is built -/

/-- What `build` is given. -/
structure ZoneInput where
  snapshot : NetworkSnapshot
  ttl : UInt32
  hostServices : List String
  ingressGuestAddresses : Dictionary (Dictionary String)
  runtimeRecords : List DNSRuntimeRecord

namespace ZoneInput

variable {rules} (input : ZoneInput) {name : String}
  {context : DNSGuestContext}

def zone (rules : TextRules) (input : ZoneInput) : DNSZone :=
  build rules input.snapshot input.ttl input.hostServices
    input.ingressGuestAddresses input.runtimeRecords

def machines (rules : TextRules) (input : ZoneInput) : List MachineRecord :=
  DNS.machines rules input.snapshot input.runtimeRecords

def tables (rules : TextRules) (input : ZoneInput) : ZoneTables :=
  (input.machines rules).foldl (ZoneTables.insertMachine rules) {}

def hosts (rules : TextRules) (input : ZoneInput) : HostTables :=
  input.hostServices.foldl (HostTables.insert rules)
    { zones := (input.tables rules).zones }

theorem zone_hostRecords :
    (input.zone rules).hostRecords = (input.hosts rules).hostRecords := rfl

theorem zone_ingressProjects :
    (input.zone rules).ingressProjects =
      (input.hosts rules).ingressProjects := rfl

theorem zone_records :
    (input.zone rules).records = sortedSets (input.tables rules).records :=
  rfl

theorem zone_shortRecords :
    (input.zone rules).shortRecords =
      (input.tables rules).shortRecords.mapValues fun _ names =>
        some (sortedSets names) := rfl

theorem hostRecords_isSome :
    ((input.zone rules).hostRecords.lookup name).isSome = true ↔
      HostManaged rules input.hostServices name := by
  rw [zone_hostRecords, hosts, HostTables.hostRecords_foldl]
  simp

theorem ingressProjects_lookup
    (managed : HostManaged rules input.hostServices name) :
    (input.zone rules).ingressProjects.lookup name =
      ingressProject rules name := by
  have owned : (input.hosts rules).Owned rules := by
    apply HostTables.owned_foldl
    intro other
    rfl
  have present := input.hostRecords_isSome.mpr managed
  obtain ⟨ips, isPresent⟩ := Option.isSome_iff_exists.mp present
  rw [zone_ingressProjects, owned, ← zone_hostRecords, isPresent,
    Option.bind_some]

theorem records_lookup (single : '.' ∉ name.toList) :
    (input.zone rules).records.lookup name = none := by
  have dotted : (input.tables rules).Dotted := by
    apply ZoneTables.dotted_foldl
    intro key found
    cases found
  rw [zone_records, sortedSets, Dictionary.lookup_mapValues]
  rcases found : (input.tables rules).records.lookup name with _ | ips
  · rfl
  · have present := dotted name (by rw [found]; rfl)
    exact absurd present single

theorem wildcardAddresses_eq_none (single : '.' ∉ name.toList) :
    (input.zone rules).wildcardAddresses rules name = none := by
  have noEntry : (input.zone rules).wildcardRecords.entries.filter
      (fun entry => name ≠ entry.1 && hasSuffix name ("." ++ entry.1)) =
        [] := by
    rw [List.filter_eq_nil_iff]
    intro entry _ below
    simp only [Bool.and_eq_true, hasSuffix] at below
    obtain ⟨front, same⟩ := List.isSuffixOf_iff_suffix.mp below.2
    apply single
    rw [← same]
    simp
  rw [DNSZone.wildcardAddresses, noEntry]
  rfl

theorem shortRecords_lookup (key : String) :
    ((input.zone rules).shortRecords.lookup key).bind (·.lookup name) =
      (((input.tables rules).shortRecords.lookup key).bind
        (·.lookup name)).map (sortedBy id) := by
  rw [zone_shortRecords, Dictionary.lookup_mapValues]
  cases (input.tables rules).shortRecords.lookup key with
  | none => rfl
  | some names =>
      simp only [Option.bind_some]
      rw [sortedSets, Dictionary.lookup_mapValues]
      cases names.lookup name with
      | none => rfl
      | some ips => rfl

theorem mem_shortRecords {key ip : String} {ips : List String}
    (found : ((input.zone rules).shortRecords.lookup key).bind
      (·.lookup name) = some ips) :
    ip ∈ ips ↔ ∃ machine ∈ input.machines rules,
      contextKey rules (some machine.stack) machine.listenerNetwork = key ∧
        machine.name = name ∧ machine.ip = ip := by
  rw [shortRecords_lookup, Option.map_eq_some_iff] at found
  obtain ⟨set, isSet, sorted⟩ := found
  have sameSet : (input.tables rules).shortIps key name = set := by
    rw [ZoneTables.shortIps, isSet, Option.getD_some]
  have member : ip ∈ (input.tables rules).shortIps key name ↔ _ :=
    ZoneTables.mem_shortIps_foldl (input.machines rules)
  rw [← sorted, SortedBy.mem_sortedBy, ← sameSet, member]
  simp [ZoneTables.shortIps]

theorem exists_shortRecords {key : String} {machine : MachineRecord}
    (member : machine ∈ input.machines rules)
    (sameKey :
      contextKey rules (some machine.stack) machine.listenerNetwork = key)
    (sameName : machine.name = name) :
    ∃ ips, ((input.zone rules).shortRecords.lookup key).bind
      (·.lookup name) = some ips ∧ machine.ip ∈ ips := by
  have inSet : machine.ip ∈ (input.tables rules).shortIps key name :=
    (ZoneTables.mem_shortIps_foldl (input.machines rules)).mpr
      (.inr ⟨machine, member, sameKey, sameName, rfl⟩)
  rw [ZoneTables.shortIps] at inSet
  rw [shortRecords_lookup]
  cases found : ((input.tables rules).shortRecords.lookup key).bind
      (·.lookup name) with
  | none =>
      rw [found] at inSet
      cases inSet
  | some ips =>
      rw [found, Option.getD_some] at inSet
      exact ⟨sortedBy id ips, rfl, SortedBy.mem_sortedBy.mpr inSet⟩

end ZoneInput

/-! ## The horizon of a guest -/

/-- The machine is of the stack and on the network of a listener. -/
def MachineRecord.OnListener (machine : MachineRecord)
    (context : DNSGuestContext) : Prop :=
  context.stack = some machine.stack ∧
    machine.listenerNetwork = context.network

/-- What a guest may be told about a name. -/
structure GuestHorizonKept (rules : TextRules) (input : ZoneInput)
    (context : DNSGuestContext) (name : String) : Prop where
  /-- The addresses of the host horizon make no difference. -/
  hostView : ∀ hostAddresses : String → List String → List String,
    ({ input.zone rules with
        hostRecords := (input.zone rules).hostRecords.mapValues
          fun host ips => some (hostAddresses host ips) }).addresses rules
        name (.guest context) =
      (input.zone rules).addresses rules name (.guest context)
  /-- Ingress names are answered for their own project only. -/
  ownIngress :
    HostManaged rules input.hostServices (canonicalName rules name) →
      (((input.zone rules).addresses rules name (.guest context)).isSome ↔
        ∃ project, ingressProject rules (canonicalName rules name) = some project ∧
          context.project = some project) ∧
      ∀ ips,
        (input.zone rules).addresses rules name (.guest context) = some ips →
          ips = [((input.ingressGuestAddresses.lookup
            (canonicalName rules name)).bind
              (·.lookup context.network)).getD context.hostService]
  /-- A single label is a machine of the stack and network of the guest. -/
  ownMachines : '.' ∉ (canonicalName rules name).toList →
    ∀ ips,
      (input.zone rules).addresses rules name (.guest context) = some ips →
        ∀ ip ∈ ips, ∃ machine ∈ input.machines rules,
          machine.name = canonicalName rules name ∧ machine.ip = ip ∧
            machine.OnListener context

/-- The name has an owner, and the context key belongs to one listener. -/
structure HorizonKnown (rules : TextRules) (input : ZoneInput)
    (context : DNSGuestContext) (name : String) : Prop where
  /-- An ingress name without a project is not asked for without one. -/
  owner : HostManaged rules input.hostServices (canonicalName rules name) →
    ingressProject rules (canonicalName rules name) = none →
      context.project ≠ none
  /-- Machines with the context key of the listener are on that listener. -/
  listener :
    ¬ HostManaged rules input.hostServices (canonicalName rules name) →
    '.' ∉ (canonicalName rules name).toList →
    ∀ machine ∈ input.machines rules,
      machine.name = canonicalName rules name →
      contextKey rules (some machine.stack) machine.listenerNetwork =
        contextKey rules context.stack context.network →
      ∃ other ∈ input.machines rules,
        other.name = canonicalName rules name ∧ other.ip = machine.ip ∧
          other.OnListener context

section Answers

variable {rules} {input : ZoneInput} {context : DNSGuestContext}
  {name : String}

theorem addresses_guest
    (noLiteral : ipv4Literal rules (canonicalName rules name) = none)
    (zone : DNSZone) :
    zone.addresses rules name (.guest context) =
      zone.guestAddresses rules context (canonicalName rules name) := by
  rw [DNSZone.addresses]
  simp only [noLiteral]

theorem guestAddresses_of_managed
    (managed : HostManaged rules input.hostServices name) :
    (input.zone rules).guestAddresses rules context name =
      if ingressProject rules name = context.project then
        some [((input.ingressGuestAddresses.lookup name).bind
          (·.lookup context.network)).getD context.hostService]
      else
        none := by
  rw [DNSZone.guestAddresses, if_pos (input.hostRecords_isSome.mpr managed),
    input.ingressProjects_lookup managed]
  have given : (input.zone rules).ingressGuestAddresses =
      input.ingressGuestAddresses := rfl
  rw [given]
  cases (input.ingressGuestAddresses.lookup name).bind
      (·.lookup context.network) with
  | none => rfl
  | some networkIP => rfl

theorem guestAddresses_of_single
    (unmanaged : ¬ HostManaged rules input.hostServices name)
    (single : '.' ∉ name.toList) :
    (input.zone rules).guestAddresses rules context name =
      ((input.zone rules).shortRecords.lookup
        (contextKey rules context.stack context.network)).bind
          (·.lookup name) := by
  have absent : ¬ ((input.zone rules).hostRecords.lookup name).isSome = true :=
    fun present => unmanaged (input.hostRecords_isSome.mp present)
  rw [DNSZone.guestAddresses, if_neg absent, input.records_lookup single,
    input.wildcardAddresses_eq_none single]
  simp [single]

theorem guestAddresses_of_hostAddresses (zone : DNSZone)
    (hostAddresses : String → List String → List String) :
    ({ zone with
        hostRecords := zone.hostRecords.mapValues
          fun host ips => some (hostAddresses host ips) }).guestAddresses rules
        context name =
      zone.guestAddresses rules context name := by
  have sameNames : ((zone.hostRecords.mapValues
      fun host ips => some (hostAddresses host ips)).lookup name).isSome =
        (zone.hostRecords.lookup name).isSome := by
    rw [Dictionary.lookup_mapValues]
    cases zone.hostRecords.lookup name with
    | none => rfl
    | some ips => rfl
  rw [DNSZone.guestAddresses, DNSZone.guestAddresses]
  simp only [sameNames]
  rfl

/-- The owner stands in front of `vz.test`, and `svc` or a service in front of
the owner; a project `svc` owns only what stands in front of its own `svc`. -/
theorem ingressProject_eq_some_iff {project : String} :
    ingressProject rules name = some project ↔
      ∃ front scope, rules.labels name =
          front ++ [scope, project, "vz", "test"] ∧
        (project = "svc" → scope = "svc" ∧ front ≠ []) := by
  rw [ingressProject]
  constructor
  · intro owned
    split at owned
    · rename_i top second found scope rest isLabels
      have labels : rules.labels name =
          rest.reverse ++ [scope, found, second, top] := by
        rw [← List.reverse_reverse (rules.labels name), isLabels]
        simp
      refine ⟨rest.reverse, scope, ?_⟩
      split at owned
      · rename_i inZone
        cases owned
        rw [labels, inZone.1, inZone.2.1]
        exact ⟨rfl, fun isSvc => absurd isSvc inZone.2.2⟩
      · split at owned
        · rename_i inZone
          cases owned
          rw [labels, inZone.2.1, inZone.2.2.1]
          exact ⟨rfl, fun _ => ⟨inZone.2.2.2, by simpa using inZone.1⟩⟩
        · cases owned
    · cases owned
  · rintro ⟨front, scope, labels, ofSvc⟩
    rw [labels, List.reverse_append]
    change (if "vz" = "vz" ∧ "test" = "test" ∧ project ≠ "svc" then
      some project else _) = _
    by_cases isSvc : project = "svc"
    · obtain ⟨isScope, more⟩ := ofSvc isSvc
      rw [if_neg (by simp [isSvc]), if_pos (by simpa using ⟨more, isScope⟩)]
    · rw [if_pos ⟨rfl, rfl, isSvc⟩]

theorem ingressProject_of_single (single : '.' ∉ name.toList) :
    ingressProject rules name = none := by
  have whole : name.toList.splitOn '.' = [name.toList] := by
    rw [List.splitOn_eq_splitOnP]
    apply List.splitOnP_eq_singleton
    intro scalar member
    by_contra isDot
    have same : scalar = '.' := by simpa using isDot
    exact single (same ▸ member)
  rw [ingressProject, rules.labels_of_plain name (.inr single), parts,
    whole]
  by_cases empty : name.toList = []
  · simp [empty]
  · simp [empty]

/-- A guest keeps to its horizon exactly where owner and listener are
known. -/
theorem guestHorizonKept_iff
    (noLiteral : ipv4Literal rules (canonicalName rules name) = none) :
    GuestHorizonKept rules input context name ↔
      HorizonKnown rules input context name := by
  constructor
  · intro kept
    constructor
    · intro managed unowned noProject
      have answered := (kept.ownIngress managed).1
      rw [addresses_guest noLiteral, guestAddresses_of_managed managed,
        unowned, noProject, if_pos rfl] at answered
      obtain ⟨project, owned, _⟩ := answered.mp rfl
      cases owned
    · intro unmanaged single machine member sameName sameKey
      obtain ⟨ips, found, listed⟩ :=
        input.exists_shortRecords member sameKey sameName
      apply kept.ownMachines single ips _ machine.ip listed
      rw [addresses_guest noLiteral,
        guestAddresses_of_single unmanaged single]
      exact found
  · intro known
    constructor
    · intro hostAddresses
      rw [addresses_guest noLiteral, addresses_guest noLiteral]
      exact guestAddresses_of_hostAddresses (input.zone rules) hostAddresses
    · intro managed
      rw [addresses_guest noLiteral, guestAddresses_of_managed managed]
      constructor
      · rcases owner : ingressProject rules (canonicalName rules name) with _ | project
        · have someProject := known.owner managed owner
          rw [if_neg (fun same => someProject same.symm)]
          simp
        · by_cases same : context.project = some project
          · rw [same, if_pos rfl]
            simp
          · rw [if_neg (fun equal => same equal.symm)]
            simpa using same
      · intro ips answered
        split at answered
        · exact (Option.some.inj answered).symm
        · cases answered
    · intro single ips answered ip member
      rw [addresses_guest noLiteral] at answered
      by_cases managed :
          HostManaged rules input.hostServices (canonicalName rules name)
      · have noOwner := @ingressProject_of_single rules _ single
        rw [guestAddresses_of_managed managed, noOwner] at answered
        have someProject := known.owner managed noOwner
        rw [if_neg (fun same => someProject same.symm)] at answered
        cases answered
      · rw [guestAddresses_of_single managed single] at answered
        obtain ⟨machine, isMachine, sameKey, sameName, sameIp⟩ :=
          (input.mem_shortRecords answered).mp member
        rw [← sameIp]
        exact known.listener managed single machine isMachine sameName sameKey

end Answers

/-- The ingress names of `shop`, one of them outside of `vz.test`. -/
def shopIngress : ZoneInput where
  snapshot := ⟨[], []⟩
  ttl := 30
  hostServices := ["web.svc.shop.vz.test", "shop.example.com"]
  ingressGuestAddresses := ∅
  runtimeRecords := []

def shopGuest : DNSGuestContext where
  network := "shop/lan"
  project := some "shop"
  stack := some "shop"
  gateway := "10.80.0.0"
  hostService := "10.80.0.1"

theorem guestHorizonKept_shopGuest :
    GuestHorizonKept asciiRules shopIngress shopGuest
      "Web.svc.shop.vz.test." := by
  apply (guestHorizonKept_iff (by rfl)).mpr
  constructor
  · intro _ _ noProject
    cases noProject
  · intro _ single
    exact absurd (by decide) single

/-- A listener on a network without a project. -/
def projectlessGuest : DNSGuestContext where
  network := "default"
  project := none
  stack := none
  gateway := "192.168.64.0"
  hostService := "192.168.64.1"

/-- `nil == nil`: the ingress of `shop` is answered without a project. -/
theorem unowned_ingress_is_answered :
    ¬ GuestHorizonKept asciiRules shopIngress projectlessGuest
      "shop.example.com" := by
  intro kept
  have managed : HostManaged asciiRules shopIngress.hostServices
      (canonicalName asciiRules "shop.example.com") :=
    ⟨by decide, "shop.example.com", by decide, rfl⟩
  have answered : ((shopIngress.zone asciiRules).addresses asciiRules
      "shop.example.com" (.guest projectlessGuest)).isSome = true := by
    rfl
  obtain ⟨project, _, named⟩ := (kept.ownIngress managed).1.mp answered
  cases named

end DNS

end Vzctl
