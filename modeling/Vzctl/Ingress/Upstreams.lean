import Vzctl.Ingress.SiteAddresses
import Vzctl.Lib.Outcome

/-!
# Upstreams of rendered sites

Which address the site of a route proxies to, and when it is the one that the
configuration means.
-/

namespace Vzctl

namespace Ingress

open Outcome

section Addresses

variable (environment : Environment) (networks : List LiveNetwork)

/-- A VM is recorded under its runtime id, or under its bare name. -/
def AttachedTo (name : String) (item : LiveAttachment) : Prop :=
  ownProject environment item.project = true ∧
    (item.vmID = some (runtimeVmId environment.project name) ∨
      item.vmID = some name)

def OnDocker (item : LiveAttachment) : Prop :=
  item.network.getD "" ∈ dockerNetworkNames environment networks

instance (item : LiveAttachment) :
    Decidable (OnDocker environment networks item) :=
  inferInstanceAs (Decidable (_ ∈ _))

/-- The address that an attachment records for `vm` on a network of one
kind. -/
def addressOf (docker : Bool) (vm : String) (item : LiveAttachment) :
    Option String :=
  if item.vmID = some vm ∧ ownProject environment item.project = true ∧
      decide (OnDocker environment networks item) = docker then
    item.ip
  else none

def firstAddress (attachments : List LiveAttachment) (docker : Bool)
    (vm : String) : Option String :=
  attachments.findSome? (addressOf environment networks docker vm)

theorem lookup_recordAddress (addresses : Addresses) (item : LiveAttachment)
    (vm : String) :
    let recorded := recordAddress environment networks addresses item
    recorded.preferred.lookup vm =
        (addresses.preferred.lookup vm).or
          (addressOf environment networks false vm item) ∧
      recorded.docker.lookup vm =
        (addresses.docker.lookup vm).or
          (addressOf environment networks true vm item) := by
  intro recorded
  have unchanged : recorded = addresses →
      (∀ docker, addressOf environment networks docker vm item = none) →
      recorded.preferred.lookup vm =
        (addresses.preferred.lookup vm).or
          (addressOf environment networks false vm item) ∧
      recorded.docker.lookup vm =
        (addresses.docker.lookup vm).or
          (addressOf environment networks true vm item) := by
    intro same silent
    rw [silent, silent, Option.or_none, Option.or_none, same]
    exact ⟨rfl, rfl⟩
  rcases item with ⟨vmID, project, ip, network⟩
  cases vmID with
  | none => exact unchanged rfl fun _ => by simp [addressOf]
  | some other =>
      cases ip with
      | none =>
          refine unchanged rfl fun docker => ?_
          rw [addressOf]
          split
          · rfl
          · rfl
      | some ip =>
          by_cases own : ownProject environment project = true
          · by_cases onDocker :
                network.getD "" ∈ dockerNetworkNames environment networks
            · simp [recorded, recordAddress, own, onDocker, addressOf,
                OnDocker, Dictionary.lookup_entryOrInsert]
            · simp [recorded, recordAddress, own, onDocker, addressOf,
                OnDocker, Dictionary.lookup_entryOrInsert]
          · refine unchanged ?_ fun docker => by simp [addressOf, own]
            simp only [recorded, recordAddress]
            rw [if_neg own]

theorem lookup_foldl_recordAddress (attachments : List LiveAttachment)
    (addresses : Addresses) (vm : String) :
    let recorded := attachments.foldl (recordAddress environment networks)
      addresses
    recorded.preferred.lookup vm =
        (addresses.preferred.lookup vm).or
          (firstAddress environment networks attachments false vm) ∧
      recorded.docker.lookup vm =
        (addresses.docker.lookup vm).or
          (firstAddress environment networks attachments true vm) := by
  induction attachments generalizing addresses with
  | nil => simp [firstAddress]
  | cons item others ih =>
      have here := lookup_recordAddress environment networks addresses item vm
      have later := ih
        (recordAddress environment networks addresses item)
      have first : ∀ docker,
          firstAddress environment networks (item :: others) docker vm =
            (addressOf environment networks docker vm item).or
              (firstAddress environment networks others docker vm) := by
        intro docker
        rw [firstAddress, firstAddress, List.findSome?_cons]
        cases addressOf environment networks docker vm item with
        | none => rfl
        | some ip => rfl
      rw [List.foldl_cons, first, first, ← Option.or_assoc, ← Option.or_assoc,
        ← here.1, ← here.2]
      exact later

theorem lookup_vmIps (attachments : List LiveAttachment) (vm : String) :
    (vmIps environment networks attachments).lookup vm =
      (firstAddress environment networks attachments false vm).or
        (firstAddress environment networks attachments true vm) := by
  have recorded := lookup_foldl_recordAddress environment networks attachments
    ⟨∅, ∅⟩ vm
  simp only [AList.lookup_empty, Option.none_or] at recorded
  rw [vmIps, Dictionary.lookup_foldl_entryOrInsert, recorded.1]
  exact congrArg _ recorded.2

variable {environment networks} {attachments : List LiveAttachment}
  {docker : Bool} {vm name ip : String}

theorem addressOf_eq_some_iff {item : LiveAttachment} :
    addressOf environment networks docker vm item = some ip ↔
      (item.vmID = some vm ∧ ownProject environment item.project = true ∧
        decide (OnDocker environment networks item) = docker) ∧
        item.ip = some ip := by
  rw [addressOf]
  split
  · rename_i recorded
    exact (and_iff_right recorded).symm
  · rename_i other
    exact ⟨fun impossible => (Option.some_ne_none _ impossible.symm).elim,
      fun recorded => absurd recorded.1 other⟩

theorem exists_of_firstAddress
    (found : firstAddress environment networks attachments docker vm =
      some ip) :
    ∃ item ∈ attachments,
      (item.vmID = some vm ∧ ownProject environment item.project = true ∧
        decide (OnDocker environment networks item) = docker) ∧
        item.ip = some ip := by
  obtain ⟨item, member, recorded⟩ := List.exists_of_findSome?_eq_some found
  exact ⟨item, member, addressOf_eq_some_iff.mp recorded⟩

theorem firstAddress_isSome_of_mem {item : LiveAttachment}
    (member : item ∈ attachments)
    (recorded : addressOf environment networks docker vm item = some ip) :
    (firstAddress environment networks attachments docker vm).isSome := by
  rw [firstAddress, List.findSome?_isSome_iff]
  exact ⟨item, member, recorded ▸ rfl⟩

end Addresses

/-! ## The upstream of a VM -/

section Upstream

variable (environment : Environment) (networks : List LiveNetwork)
  (attachments : List LiveAttachment) (name : String)

/-- The VM has a vmnet address. -/
def HasVmnet : Prop :=
  ∃ item ∈ attachments, AttachedTo environment name item ∧
    item.ip.isSome ∧ ¬ OnDocker environment networks item

/-- An address attached to the VM, on vmnet if the VM has one there. -/
def RightAddress (ip : String) : Prop :=
  ∃ item ∈ attachments, AttachedTo environment name item ∧
    item.ip = some ip ∧
    (HasVmnet environment networks attachments name →
      ¬ OnDocker environment networks item)

/-- Under its runtime id the VM has Docker addresses only, and its vmnet
addresses, recorded under the bare name, are others than the first of them. -/
def Astray : Prop :=
  let first := firstAddress environment networks attachments
  let runtime := runtimeVmId environment.project name
  first false runtime = none ∧ (first true runtime).isSome ∧
    (first false name).isSome ∧
    ∀ item ∈ attachments,
      item.vmID = some name → ownProject environment item.project = true →
        ¬ OnDocker environment networks item →
          item.ip ≠ first true runtime

variable {environment networks attachments name} {ip : String}

theorem hasVmnet_iff :
    HasVmnet environment networks attachments name ↔
      (firstAddress environment networks attachments false
        (runtimeVmId environment.project name)).isSome ∨
        (firstAddress environment networks attachments false name).isSome := by
  constructor
  · rintro ⟨item, member, ⟨own, named⟩, addressed, vmnet⟩
    obtain ⟨address, held⟩ := Option.isSome_iff_exists.mp addressed
    have recorded : ∀ vm, item.vmID = some vm →
        addressOf environment networks false vm item = some address := by
      intro vm same
      exact addressOf_eq_some_iff.mpr
        ⟨⟨same, own, decide_eq_false vmnet⟩, held⟩
    rcases named with runtime | bare
    · exact .inl (firstAddress_isSome_of_mem member (recorded _ runtime))
    · exact .inr (firstAddress_isSome_of_mem member (recorded _ bare))
  · intro recorded
    have attached : ∀ vm, vm = runtimeVmId environment.project name ∨
        vm = name → (firstAddress environment networks attachments false
          vm).isSome → HasVmnet environment networks attachments name := by
      intro vm named held
      obtain ⟨address, found⟩ := Option.isSome_iff_exists.mp held
      obtain ⟨item, member, ⟨same, own, vmnet⟩, addressed⟩ :=
        exists_of_firstAddress found
      refine ⟨item, member, ⟨own, ?_⟩, addressed ▸ rfl,
        of_decide_eq_false vmnet⟩
      rcases named with rfl | rfl
      · exact .inl same
      · exact .inr same
    rcases recorded with runtime | bare
    · exact attached _ (.inl rfl) runtime
    · exact attached _ (.inr rfl) bare

theorem rightAddress_of_vmnet {vm : String}
    (named : vm = runtimeVmId environment.project name ∨ vm = name)
    (found : firstAddress environment networks attachments false vm =
      some ip) : RightAddress environment networks attachments name ip := by
  obtain ⟨item, member, ⟨same, own, vmnet⟩, addressed⟩ :=
    exists_of_firstAddress found
  refine ⟨item, member, ⟨own, ?_⟩, addressed,
    fun _ => of_decide_eq_false vmnet⟩
  rcases named with rfl | rfl
  · exact .inl same
  · exact .inr same

theorem rightAddress_of_docker {vm : String}
    (named : vm = runtimeVmId environment.project name ∨ vm = name)
    (found : firstAddress environment networks attachments true vm = some ip)
    (without : ¬ HasVmnet environment networks attachments name) :
    RightAddress environment networks attachments name ip := by
  obtain ⟨item, member, ⟨same, own, _⟩, addressed⟩ :=
    exists_of_firstAddress found
  refine ⟨item, member, ⟨own, ?_⟩, addressed, fun has => absurd has without⟩
  rcases named with rfl | rfl
  · exact .inl same
  · exact .inr same

theorem not_astray_of_rightAddress
    (chosen : firstAddress environment networks attachments true
      (runtimeVmId environment.project name) = some ip)
    (right : RightAddress environment networks attachments name ip) :
    ¬ Astray environment networks attachments name := by
  rintro ⟨noVmnet, _, bareVmnet, others⟩
  obtain ⟨item, member, ⟨own, named⟩, addressed, vmnet⟩ := right
  have onVmnet := vmnet (hasVmnet_iff.mpr (.inr bareVmnet))
  rcases named with runtime | bare
  · have held := firstAddress_isSome_of_mem member
      (addressOf_eq_some_iff.mpr
        ⟨⟨runtime, own, decide_eq_false onVmnet⟩, addressed⟩)
    rw [noVmnet] at held
    cases held
  · exact others item member bare own onVmnet (addressed.trans chosen.symm)

/-- The address that the loop picks is right unless the VM is recorded under
two names. -/
theorem rightAddress_iff
    (picked : ((vmIps environment networks attachments).lookup
      (runtimeVmId environment.project name)).or
        ((vmIps environment networks attachments).lookup name) = some ip) :
    RightAddress environment networks attachments name ip ↔
      ¬ Astray environment networks attachments name := by
  rw [lookup_vmIps, lookup_vmIps] at picked
  cases runtimeVmnet : firstAddress environment networks attachments false
      (runtimeVmId environment.project name) with
  | some address =>
      rw [runtimeVmnet, Option.some_or, Option.some_or] at picked
      rw [Option.some.inj picked] at runtimeVmnet
      constructor
      · rintro _ ⟨noVmnet, _⟩
        rw [noVmnet] at runtimeVmnet
        cases runtimeVmnet
      · intro _
        exact rightAddress_of_vmnet (.inl rfl) runtimeVmnet
  | none =>
      rw [runtimeVmnet, Option.none_or] at picked
      cases runtimeDocker : firstAddress environment networks attachments true
          (runtimeVmId environment.project name) with
      | some address =>
          rw [runtimeDocker, Option.some_or] at picked
          rw [Option.some.inj picked] at runtimeDocker
          refine ⟨not_astray_of_rightAddress runtimeDocker, ?_⟩
          intro found
          by_cases has : HasVmnet environment networks attachments name
          · have bare : (firstAddress environment networks attachments false
                name).isSome := by
              rcases hasVmnet_iff.mp has with runtime | bare
              · rw [runtimeVmnet] at runtime
                cases runtime
              · exact bare
            by_contra wrong
            refine found ⟨runtimeVmnet, runtimeDocker ▸ rfl, bare, ?_⟩
            intro item member named own vmnet same
            exact wrong ⟨item, member, ⟨own, .inr named⟩,
              same.trans runtimeDocker, fun _ => vmnet⟩
          · exact rightAddress_of_docker (.inl rfl) runtimeDocker has
      | none =>
          rw [runtimeDocker, Option.none_or] at picked
          have found : ¬ Astray environment networks attachments name := by
            rintro ⟨_, docker, _⟩
            rw [runtimeDocker] at docker
            cases docker
          refine (iff_true_right found).mpr ?_
          cases bareVmnet : firstAddress environment networks attachments
              false name with
          | some address =>
              rw [bareVmnet, Option.some_or] at picked
              rw [Option.some.inj picked] at bareVmnet
              exact rightAddress_of_vmnet (.inr rfl) bareVmnet
          | none =>
              rw [bareVmnet, Option.none_or] at picked
              refine rightAddress_of_docker (.inr rfl) picked ?_
              intro has
              rcases hasVmnet_iff.mp has with runtime | bare
              · rw [runtimeVmnet] at runtime
                cases runtime
              · rw [bareVmnet] at bare
                cases bare

end Upstream

end Ingress

end Vzctl
