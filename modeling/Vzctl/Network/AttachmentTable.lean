import Vzctl.Network.RegistryEdits

/-!
# The attachment table

What holds of the network tables in every state of the registry: no address is
given out twice, every attachment has a network and an address that the network
hands out, and a network goes away only without attachments.
-/

namespace Vzctl

namespace NetworkDatabase

/-- The address of a row is one that its network hands out. -/
def Located (database : NetworkDatabase) (row : AttachmentRow) : Prop :=
  ∃ network ∈ database.networkTable.rows, ∃ cidr : IPv4CIDR, ∃ offset,
    network.id = row.networkID ∧ network.cidr = cidr.canonical ∧
      cidr.AttachmentOffset offset ∧
      row.ip = inetNtop (cidr.addressAt offset)

/-- The invariant of the network tables. -/
structure Sound (database : NetworkDatabase) : Prop where
  canonical : ∀ network ∈ database.networkTable.rows,
    ∃ cidr : IPv4CIDR, network.cidr = cidr.canonical
  located : ∀ row ∈ database.attachmentTable.rows, database.Located row

theorem sound_fresh : fresh.Sound where
  canonical := by simp [fresh]
  located := by simp [fresh]

section Edits

variable {before after : NetworkDatabase} {row : AttachmentRow}

theorem Located.of_kept (isLocated : before.Located row)
    (kept : ∀ network ∈ before.networkTable.rows, network.id = row.networkID →
      ∃ other ∈ after.networkTable.rows,
        other.id = network.id ∧ other.cidr = network.cidr) :
    after.Located row := by
  obtain ⟨network, member, cidr, offset, same, isCanonical, isAttachment,
    address⟩ := isLocated
  obtain ⟨other, otherMember, sameID, sameCIDR⟩ := kept network member same
  exact ⟨other, otherMember, cidr, offset, sameID.trans same,
    sameCIDR.trans isCanonical, isAttachment, address⟩

theorem AddressChecked.located {record : NetworkAttachmentRecord}
    {network : NetworkRecord} {cidr : IPv4CIDR} {offset : Nat}
    (sound : before.Sound)
    (checked : before.AddressChecked record network cidr offset) :
    before.Located record.row := by
  obtain ⟨other, isCanonical⟩ := sound.canonical network checked.recorded
  have parsed := checked.parsed
  rw [isCanonical, IPv4CIDR.parse_canonical] at parsed
  have same : other = cidr := Except.ok.inj parsed
  rw [same] at isCanonical
  exact ⟨network, checked.recorded, cidr, offset, checked.sameNetwork,
    isCanonical, checked.isAttachment,
    eq_inetNtop_of_inetPton checked.address⟩

theorem located_of_rewrite {record existing : NetworkAttachmentRecord}
    (sound : before.Sound) (recorded : existing ∈ before.attachments)
    (sameNetwork : existing.networkID = record.networkID)
    (sameAddress : existing.ip = record.ip) :
    before.Located record.row := by
  rw [mem_attachments] at recorded
  obtain ⟨row, member, joined, _, _, rfl⟩ := recorded
  obtain ⟨network, networkMember, cidr, offset, same, isCanonical,
    isAttachment, address⟩ := sound.located row member
  refine ⟨network, networkMember, cidr, offset, same.trans sameNetwork,
    isCanonical, isAttachment, ?_⟩
  change cString record.ip = _
  rw [← sameAddress]
  change cString row.ip = _
  rw [address, cString_inetNtop]

theorem sound_of_updateAttachment {record : NetworkAttachmentRecord}
    (sound : before.Sound) (isLocated : before.Located record.row)
    (done : before.updateAttachment record = some after) : after.Sound := by
  obtain ⟨sameNetworks, rows⟩ := updateAttachment_writes done
  have kept : ∀ {row}, before.Located row → after.Located row := by
    intro row rowLocated
    apply rowLocated.of_kept
    intro network member _
    exact ⟨network, sameNetworks ▸ member, rfl, rfl⟩
  refine ⟨sameNetworks ▸ sound.canonical, ?_⟩
  intro row member
  rw [rows] at member
  obtain ⟨old, oldMember, rfl⟩ := List.mem_map.mp member
  split
  · exact kept isLocated
  · exact kept (sound.located old oldMember)

theorem sound_of_edit {permits : Permits} {origin : NetworkDatabase}
    (createsCanonical : ∀ database record, permits.creates database record →
      ∃ cidr : IPv4CIDR, record.cidr = cidr.canonical)
    (sound : before.Sound) (edit : Edit permits origin before after) :
    after.Sound := by
  cases edit with
  | @insertNetwork _ record created done =>
      obtain ⟨networks, attachments⟩ := insertNetwork_writes done
      constructor
      · intro network member
        rw [networks] at member
        rcases List.mem_append.mp member with old | new
        · exact sound.canonical network old
        · rw [List.mem_singleton.mp new]
          exact createsCanonical before record created
      · intro row member
        rw [attachments] at member
        apply (sound.located row member).of_kept
        intro network networkMember _
        rw [networks]
        exact ⟨network, List.mem_append_left _ networkMember, rfl, rfl⟩
  | updateRuntime done =>
      obtain ⟨networks, attachments⟩ := updateNetworkRuntime_writes done
      constructor
      · intro network member
        rw [networks] at member
        obtain ⟨old, oldMember, rfl⟩ := List.mem_map.mp member
        obtain ⟨cidr, isCanonical⟩ := sound.canonical old oldMember
        refine ⟨cidr, ?_⟩
        split
        · exact isCanonical
        · exact isCanonical
      · intro row member
        rw [attachments] at member
        apply (sound.located row member).of_kept
        intro network networkMember _
        rw [networks]
        refine ⟨_, List.mem_map_of_mem networkMember, ?_⟩
        split
        · exact ⟨rfl, rfl⟩
        · exact ⟨rfl, rfl⟩
  | deleteNetwork _ done =>
      obtain ⟨unreferenced, networks, attachments⟩ :=
        deleteNetwork_writes done
      constructor
      · intro network member
        rw [networks] at member
        exact sound.canonical network (List.mem_of_mem_filter member)
      · intro row member
        rw [attachments] at member
        apply (sound.located row member).of_kept
        intro network networkMember same
        rw [networks]
        refine ⟨network, ?_, rfl, rfl⟩
        rw [List.mem_filter, decide_eq_true_eq, same]
        exact ⟨networkMember, unreferenced row member⟩
  | insertAttachment _ checked done =>
      obtain ⟨networks, rows⟩ := insertAttachment_writes done
      refine ⟨networks ▸ sound.canonical, ?_⟩
      intro row member
      have isLocated : before.Located row := by
        rw [rows] at member
        rcases List.mem_append.mp member with old | new
        · exact sound.located row old
        · rw [List.mem_singleton.mp new]
          exact checked.located sound
      apply isLocated.of_kept
      intro network networkMember _
      exact ⟨network, networks ▸ networkMember, rfl, rfl⟩
  | updateAttachment _ checked done =>
      exact sound_of_updateAttachment sound (checked.located sound) done
  | rewriteAttachment _ recorded sameNetwork sameAddress done =>
      exact sound_of_updateAttachment sound
        (located_of_rewrite sound recorded sameNetwork sameAddress) done
  | removeAttachments selects =>
      refine ⟨sound.canonical, ?_⟩
      intro row member
      exact sound.located row (List.mem_of_mem_filter member)
  | setDefault record => exact ⟨sound.canonical, sound.located⟩

theorem sound_of_edits {permits : Permits} {origin : NetworkDatabase}
    (createsCanonical : ∀ database record, permits.creates database record →
      ∃ cidr : IPv4CIDR, record.cidr = cidr.canonical)
    (sound : origin.Sound) (edits : Edits permits origin after) :
    after.Sound := by
  induction edits with
  | refl => exact sound
  | tail _ edit ih =>
      exact sound_of_edit createsCanonical ih edit

theorem attachmentTable_of_edits {permits : Permits}
    {origin : NetworkDatabase} (detached : ¬ permits.attaches)
    (edits : Edits permits origin after) :
    after.attachmentTable = origin.attachmentTable := by
  induction edits with
  | refl => rfl
  | tail _ edit ih =>
      rw [← ih]
      cases edit with
      | insertNetwork _ done => exact (insertNetwork_writes done).2
      | updateRuntime done => exact (updateNetworkRuntime_writes done).2
      | deleteNetwork _ done => exact (deleteNetwork_writes done).2.2
      | insertAttachment attaches => exact absurd attaches detached
      | updateAttachment attaches => exact absurd attaches detached
      | rewriteAttachment attaches => exact absurd attaches detached
      | removeAttachments _ attaches => exact absurd attaches detached
      | setDefault => rfl

theorem unattached_of_edits {permits : Permits} {origin : NetworkDatabase}
    {id : String} (edits : Edits permits origin after)
    (present : ∃ network ∈ origin.networkTable.rows, network.id = id)
    (deleted : ∀ network ∈ after.networkTable.rows, network.id ≠ id) :
    ∀ row ∈ origin.attachmentTable.rows, row.networkID ≠ id := by
  have persists : (∃ network ∈ after.networkTable.rows, network.id = id) ∨
      ∀ row ∈ origin.attachmentTable.rows, row.networkID ≠ id := by
    clear deleted
    induction edits with
    | refl => exact .inl present
    | tail _ edit ih =>
        rcases ih with ⟨network, member, same⟩ | unattached
        · cases edit with
          | insertNetwork _ done =>
              left
              rw [(insertNetwork_writes done).1]
              exact ⟨network, List.mem_append_left _ member, same⟩
          | updateRuntime done =>
              left
              rw [(updateNetworkRuntime_writes done).1]
              refine ⟨_, List.mem_map_of_mem member, ?_⟩
              split
              · exact same
              · exact same
          | @deleteNetwork _ other atOrigin done =>
              obtain ⟨unreferenced, networks, _⟩ := deleteNetwork_writes done
              by_cases sameID : other = id
              · right
                rw [← atOrigin, ← sameID]
                exact unreferenced
              · left
                refine ⟨network, ?_, same⟩
                rw [networks, List.mem_filter, decide_eq_true_eq, same]
                exact ⟨member, fun equal => sameID equal.symm⟩
          | insertAttachment _ _ done =>
              rw [(insertAttachment_writes done).1]
              exact .inl ⟨network, member, same⟩
          | updateAttachment _ _ done =>
              rw [(updateAttachment_writes done).1]
              exact .inl ⟨network, member, same⟩
          | rewriteAttachment _ _ _ _ done =>
              rw [(updateAttachment_writes done).1]
              exact .inl ⟨network, member, same⟩
          | removeAttachments => exact .inl ⟨network, member, same⟩
          | setDefault => exact .inl ⟨network, member, same⟩
        · exact .inr unattached
  rcases persists with ⟨network, member, same⟩ | unattached
  · exact absurd same (deleted network member)
  · exact unattached

end Edits

end NetworkDatabase

end Vzctl
