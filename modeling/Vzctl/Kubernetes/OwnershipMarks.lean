import Vzctl.Kubernetes.ObjectValue
import Vzctl.Lib.Outcome

/-!
# Ownership marks of Kubernetes objects

`kubernetes/manifests.rs`: the objects that a manifest file may hold, and the
labels and the digest they are marked with.
-/

namespace Vzctl

namespace Manifests

open JSONValue KeyedList

abbrev Fields := List (String × JSONValue)

/-- `MANAGED`. -/
def managed : String := "vzctl.dev/managed-by"

/-- `PROJECT`. -/
def projectLabel : String := "vzctl.dev/project"

/-- `CLUSTER`. -/
def clusterLabel : String := "vzctl.dev/cluster"

/-- `DIGEST`. -/
def digest : String := "vzctl.dev/manifest-sha256"

/-- The documents of a YAML text, `serde_json::to_vec`, and the hexadecimal
text of `Sha256::digest`. -/
structure Library where
  documents : List UInt8 → List (Except String Document)
  toVec : JSONValue → List UInt8
  hexDigest : List UInt8 → String

/-! ## Reading manifests -/

/-- `value["metadata"][name]`. -/
def part (value : JSONValue) (name : String) : JSONValue :=
  (value.index "metadata").index name

def requireText (pointer : String) (found : JSONValue) :
    Except String Unit :=
  match found.asString? with
  | some text =>
      if text = "" then .error ("resource requires nonempty " ++ pointer)
      else .ok ()
  | none => .error ("resource requires nonempty " ++ pointer)

/-- `metadata.labels` and `metadata.annotations` map to texts. -/
def requireTexts (name : String) (found : JSONValue) : Except String Unit :=
  match found with
  | .null => .ok ()
  | .object fields =>
      if fields.any fun field => field.2.asString?.isNone then
        .error ("metadata." ++ name ++ " values must be strings")
      else
        .ok ()
  | _ => .error ("metadata." ++ name ++ " must be an object")

/-- The checks of one resource. -/
def checkObject (library : Library) (value : JSONValue) :
    Except String Unit := do
  requireText "/apiVersion" (value.index "apiVersion")
  requireText "/kind" (value.index "kind")
  requireText "/metadata/name" (part value "name")
  if (part value "generateName").asString?.isSome then
    .error ("generateName is unsupported for declarative resources; " ++
      "use metadata.name")
  else do
    requireTexts "labels" (part value "labels")
    requireTexts "annotations" (part value "annotations")
    if 240 * 1024 < (library.toVec value).length then
      .error "individual resource exceeds 240 KiB guest-transfer limit"
    else
      .ok ()

def addObject (library : Library) (objects : List JSONValue)
    (value : JSONValue) : Except String (List JSONValue) :=
  if 128 ≤ objects.length then
    .error "manifest exceeds 128 resources"
  else do
    checkObject library value
    .ok (objects ++ [value])

/-- The resources of a document. -/
def resources (value : JSONValue) : Except String (List JSONValue) :=
  if value.index "kind" = .string "List" then
    match (value.index "items").asArray? with
    | some items => .ok items
    | none => .error "List requires items array"
  else
    .ok [value]

def addDocument (library : Library) (objects : List JSONValue)
    (document : Except String Document) : Except String (List JSONValue) :=
  if 128 ≤ objects.length then
    .error "manifest exceeds 128 resources"
  else
    match document with
    | .error failure => .error ("invalid Kubernetes YAML: " ++ failure)
    | .ok document =>
        if document.value = .null then
          .ok objects
        else do
          let values ← resources document.value
          values.foldlM (addObject library) objects

/-- `read`, of the bytes of the file. -/
def read (library : Library) (bytes : List UInt8) :
    Except String (List JSONValue) :=
  if 1048576 < bytes.length then
    .error "manifest file exceeds 1 MiB"
  else do
    let objects ← (library.documents bytes).foldlM (addDocument library) []
    if objects = [] then .error "manifest contains no resources"
    else .ok objects

/-! ## Marking -/

/-- `value["metadata"][name] = member`. -/
def setPart (value : JSONValue) (name : String) (member : JSONValue) :
    JSONValue :=
  value.setIndex "metadata" ((value.index "metadata").setIndex name member)

/-- One round of the loop over the ownership labels. -/
def mark (value : JSONValue) (label : String × String) :
    Except String JSONValue :=
  let labels := part value "labels"
  let marked := setPart value "labels"
    (labels.setIndex label.1 (.string label.2))
  match (labels.index label.1).asString? with
  | some existing =>
      if existing ≠ label.2 then
        .error ("manifest has conflicting ownership label " ++ label.1)
      else
        .ok marked
  | none => .ok marked

def ownership (project cluster : String) : List (String × String) :=
  [(managed, "vzctl"), (projectLabel, project), (clusterLabel, cluster)]

/-- Replace `null` by an object. -/
def ensurePart (value : JSONValue) (name : String) : JSONValue :=
  if part value name = .null then setPart value name (.object []) else value

/-- Replace the digest annotation by that of the value without it. -/
def annotate (library : Library) (value : JSONValue) :
    Except String JSONValue :=
  match part value "annotations" with
  | .object annotations =>
      let cleared := setPart value "annotations"
        (.object (eraseKey digest annotations))
      .ok (setPart cleared "annotations"
        ((part cleared "annotations").setIndex digest
          (.string (library.hexDigest (library.toVec cleared)))))
  | _ => .error "metadata.annotations must be an object"

def owned (library : Library) (value : JSONValue)
    (project cluster : String) : Except String JSONValue := do
  let marked ← (ownership project cluster).foldlM mark
    (ensurePart value "labels")
  annotate library (ensurePart marked "annotations")

/-! ## What is accepted -/

/-- An object with an object below `metadata`, as `serde_json` holds it. -/
structure Shaped (value : JSONValue) : Prop where
  object : ∃ fields metadata, value = .object fields ∧
    fields.lookup "metadata" = some (.object metadata)
  canonical : value.Canonical

/-- The part is missing, or maps to texts. -/
def Texts (value : JSONValue) (name : String) : Prop :=
  part value name = .null ∨ ∃ fields, part value name = .object fields ∧
    ∀ field ∈ fields, ∃ text, field.2 = .string text

/-- `read` accepts the object. -/
def Accepted (library : Library) (value : JSONValue) : Prop :=
  ∃ bytes objects, read library bytes = .ok objects ∧ value ∈ objects

structure Ready (value : JSONValue) : Prop extends Shaped value where
  labels : Texts value "labels"
  annotations : Texts value "annotations"

variable {library : Library} {value other : JSONValue} {name : String}
  {project cluster : String}

theorem texts_of_requireTexts
    (accepted : requireTexts name (part value name) = .ok ()) :
    Texts value name := by
  rw [Texts]
  unfold requireTexts at accepted
  split at accepted
  · rename_i missing
    exact .inl missing
  · rename_i fields found
    split at accepted
    · cases accepted
    · rename_i texts
      refine .inr ⟨fields, found, fun field member => ?_⟩
      have isText : field.2.asString?.isNone = false := by
        by_contra noText
        exact texts (List.any_eq_true.mpr
          ⟨field, member, Bool.not_eq_false _ ▸ noText⟩)
      cases held : field.2 with
      | string text => exact ⟨text, rfl⟩
      | _ =>
          rw [held] at isText
          cases isText
  · cases accepted

theorem ready_of_checkObject (canonical : value.Canonical)
    (checked : checkObject library value = .ok ()) : Ready value := by
  rw [checkObject] at checked
  obtain ⟨_, _, checked⟩ := Outcome.bind_eq_ok_iff.mp checked
  obtain ⟨_, _, checked⟩ := Outcome.bind_eq_ok_iff.mp checked
  obtain ⟨_, named, checked⟩ := Outcome.bind_eq_ok_iff.mp checked
  split at checked
  · cases checked
  · obtain ⟨_, labels, checked⟩ := Outcome.bind_eq_ok_iff.mp checked
    obtain ⟨_, annotations, _⟩ := Outcome.bind_eq_ok_iff.mp checked
    refine ⟨⟨?_, canonical⟩, texts_of_requireTexts labels,
      texts_of_requireTexts annotations⟩
    have isText : (part value "name").asString? ≠ none := by
      intro missing
      rw [requireText, missing] at named
      cases named
    cases value with
    | object fields =>
        cases found : fields.lookup "metadata" with
        | none =>
            refine absurd ?_ isText
            rw [part, index, index, field?_object, found]
            rfl
        | some metadata =>
            cases metadata with
            | object metadata => exact ⟨fields, metadata, rfl, found⟩
            | _ =>
                refine absurd ?_ isText
                rw [part, index, index, field?_object, found]
                rfl
    | _ => exact absurd rfl isText

theorem canonical_of_resources {values : List JSONValue}
    (canonical : value.Canonical) (listed : resources value = .ok values) :
    ∀ item ∈ values, item.Canonical := by
  rw [resources] at listed
  split at listed
  · split at listed
    · rename_i items found
      rw [← Except.ok.inj listed]
      cases value with
      | object fields =>
          cases held : fields.lookup "items" with
          | none =>
              rw [index, field?_object, held] at found
              cases found
          | some items' =>
              rw [index, field?_object, held, Option.getD_some] at found
              cases items' with
              | array items' =>
                  cases found
                  exact canonical_array_iff.mp
                    (canonical_of_lookup canonical held)
              | _ => cases found
      | _ => cases found
    · cases listed
  · rw [← Except.ok.inj listed]
    intro item member
    rw [List.mem_singleton.mp member]
    exact canonical

theorem ready_of_addObjects {values objects result : List JSONValue}
    (canonical : ∀ item ∈ values, item.Canonical)
    (ready : ∀ item ∈ objects, Ready item)
    (added : values.foldlM (addObject library) objects = .ok result) :
    ∀ item ∈ result, Ready item := by
  induction values generalizing objects with
  | nil =>
      rw [← Except.ok.inj added]
      exact ready
  | cons first rest ih =>
      rw [List.foldlM_cons] at added
      obtain ⟨next, one, more⟩ := Outcome.bind_eq_ok_iff.mp added
      refine ih
        (fun item member => canonical item (List.mem_cons_of_mem _ member))
        ?_ more
      rw [addObject] at one
      split at one
      · cases one
      · obtain ⟨_, checked, same⟩ := Outcome.bind_eq_ok_iff.mp one
        rw [← Except.ok.inj same]
        intro item member
        rcases List.mem_append.mp member with before | new
        · exact ready item before
        · rw [List.mem_singleton.mp new]
          exact ready_of_checkObject (canonical first List.mem_cons_self)
            checked

theorem ready_of_addDocuments {documents : List (Except String Document)}
    {objects result : List JSONValue}
    (ready : ∀ item ∈ objects, Ready item)
    (added : documents.foldlM (addDocument library) objects = .ok result) :
    ∀ item ∈ result, Ready item := by
  induction documents generalizing objects with
  | nil =>
      rw [← Except.ok.inj added]
      exact ready
  | cons first rest ih =>
      rw [List.foldlM_cons] at added
      obtain ⟨next, one, more⟩ := Outcome.bind_eq_ok_iff.mp added
      refine ih ?_ more
      unfold addDocument at one
      split at one
      · cases one
      · split at one
        · cases one
        · rename_i document
          split at one
          · rw [← Except.ok.inj one]
            exact ready
          · obtain ⟨values, listed, folded⟩ :=
              Outcome.bind_eq_ok_iff.mp one
            exact ready_of_addObjects
              (canonical_of_resources document.canonical listed) ready folded

theorem Accepted.ready (accepted : Accepted library value) :
    Ready value := by
  obtain ⟨bytes, objects, done, member⟩ := accepted
  rw [read] at done
  split at done
  · cases done
  · obtain ⟨all, folded, same⟩ := Outcome.bind_eq_ok_iff.mp done
    split at same
    · cases same
    · rw [← Except.ok.inj same] at member
      exact ready_of_addDocuments (List.forall_mem_nil _) folded value member

/-! ## Parts -/

theorem part_of_metadata {fields metadata : Fields}
    (found : fields.lookup "metadata" = some (.object metadata)) :
    part (.object fields) name = (metadata.lookup name).getD .null := by
  rw [part, index, index, field?_object, found]
  rfl

theorem setPart_of_metadata {fields metadata : Fields} {member : JSONValue}
    (found : fields.lookup "metadata" = some (.object metadata)) :
    setPart (.object fields) name member =
      .object (insertKey "metadata"
        (.object (insertKey name member metadata)) fields) := by
  rw [setPart, index, field?_object, found]
  rfl

namespace Shaped

theorem setPart (shaped : Shaped value) {member : JSONValue}
    (canonical : member.Canonical) (name : String) :
    Shaped (Manifests.setPart value name member) := by
  obtain ⟨⟨fields, metadata, rfl, found⟩, whole⟩ := shaped
  rw [setPart_of_metadata found]
  exact ⟨⟨_, _, rfl, lookup_insertKey_self _ _ _⟩, canonical_insertKey whole
    (canonical_insertKey (canonical_of_lookup whole found) canonical)⟩

theorem part_setPart (shaped : Shaped value) (name asked : String)
    (member : JSONValue) :
    part (Manifests.setPart value name member) asked =
      if asked = name then member else part value asked := by
  obtain ⟨⟨fields, metadata, rfl, found⟩, _⟩ := shaped
  rw [setPart_of_metadata found, part_of_metadata found,
    part_of_metadata (lookup_insertKey_self _ _ _), lookup_insertKey]
  split <;> rfl

theorem setPart_setPart (shaped : Shaped value) (name : String)
    (first second : JSONValue) :
    Manifests.setPart (Manifests.setPart value name first) name second =
      Manifests.setPart value name second := by
  obtain ⟨⟨fields, metadata, rfl, found⟩, _⟩ := shaped
  rw [setPart_of_metadata found, setPart_of_metadata found,
    setPart_of_metadata (lookup_insertKey_self _ _ _), insertKey_insertKey,
    insertKey_insertKey]

theorem setPart_part (shaped : Shaped value)
    (there : part value name ≠ .null) :
    Manifests.setPart value name (part value name) = value := by
  obtain ⟨⟨fields, metadata, rfl, found⟩, canonical⟩ := shaped
  rw [part_of_metadata found] at there ⊢
  rw [setPart_of_metadata found]
  cases held : metadata.lookup name with
  | none =>
      rw [held] at there
      exact absurd rfl there
  | some member =>
      have sorted := (canonical_object_iff.mp
        (canonical_of_lookup canonical found)).1
      rw [Option.getD_some, insertKey_of_lookup sorted held,
        insertKey_of_lookup (canonical_object_iff.mp canonical).1 found]

theorem canonical_part (shaped : Shaped value) (name : String) :
    (part value name).Canonical := by
  obtain ⟨⟨fields, metadata, rfl, found⟩, canonical⟩ := shaped
  rw [part_of_metadata found]
  cases held : metadata.lookup name with
  | none => rfl
  | some member =>
      exact canonical_of_lookup (canonical_of_lookup canonical found) held

end Shaped

/-- The fields of a part, none if it is missing. -/
def entries (value : JSONValue) (name : String) : Fields :=
  ((part value name).asObject?).getD []

theorem ensurePart_eq (shaped : Shaped value) (texts : Texts value name) :
    ensurePart value name =
      setPart value name (.object (entries value name)) := by
  rw [ensurePart, entries]
  rcases texts with missing | ⟨fields, found, _⟩
  · rw [if_pos missing, missing]
    rfl
  · have there : part value name ≠ .null := by
      rw [found]
      exact nofun
    rw [if_neg there]
    have same := shaped.setPart_part there
    rw [found] at same ⊢
    exact same.symm

theorem sorted_entries (shaped : Shaped value) (name : String) :
    Sorted (entries value name) := by
  have canonical := shaped.canonical_part name
  rw [entries]
  cases found : part value name with
  | object fields =>
      rw [found] at canonical
      exact (canonical_object_iff.mp canonical).1
  | _ => exact sorted_nil

theorem canonical_entries (shaped : Shaped value) (name : String) :
    (object (entries value name)).Canonical := by
  have canonical := shaped.canonical_part name
  rw [entries]
  cases found : part value name with
  | object fields =>
      rw [found] at canonical
      exact canonical
  | _ => exact canonical_empty

theorem field?_part (value : JSONValue) (name key : String) :
    (part value name).field? key = (entries value name).lookup key := by
  rw [entries]
  cases part value name <;> rfl

/-! ## Marked labels -/

/-- The label is missing, is no text, or says what is wanted. -/
def Agrees (labels : Fields) (label : String × String) : Prop :=
  ∀ text, labels.lookup label.1 = some (.string text) → text = label.2

/-- No ownership label says anything else. -/
def Unclaimed (project cluster : String) (value : JSONValue) : Prop :=
  ∀ label ∈ ownership project cluster, Agrees (entries value "labels") label

def stamped (marks : List (String × String)) (labels : Fields) : Fields :=
  marks.foldl (fun labels label =>
    insertKey label.1 (.string label.2) labels) labels

theorem mark_of_labels {labels : Fields}
    (found : part value "labels" = .object labels) (label : String × String)
    {marked : JSONValue} :
    mark value label = .ok marked ↔ Agrees labels label ∧
      marked = setPart value "labels"
        (.object (insertKey label.1 (.string label.2) labels)) := by
  have set : (object labels).setIndex label.1 (.string label.2) =
      .object (insertKey label.1 (.string label.2) labels) := rfl
  rw [mark, found, set, index, field?_object, Agrees]
  cases held : labels.lookup label.1 with
  | none => simp [asString?, eq_comm]
  | some member =>
      cases member with
      | string text =>
          by_cases same : text = label.2
          · simp [asString?, same, eq_comm]
          · simp [asString?, same]
      | _ => simp [asString?, eq_comm]

theorem agrees_insertKey {labels : Fields} {first second : String × String}
    (different : second.1 ≠ first.1) :
    Agrees (insertKey first.1 (.string first.2) labels) second ↔
      Agrees labels second := by
  rw [Agrees, lookup_insertKey_ne _ _ different, Agrees]

theorem foldlM_mark (shaped : Shaped value) {labels : Fields}
    (found : part value "labels" = .object labels)
    (canonical : (object labels).Canonical)
    {marks : List (String × String)} (nodup : (marks.map Prod.fst).Nodup)
    {marked : JSONValue} :
    marks.foldlM mark value = .ok marked ↔
      (∀ label ∈ marks, Agrees labels label) ∧
        marked = setPart value "labels" (.object (stamped marks labels)) := by
  induction marks generalizing value labels with
  | nil =>
      have there : part value "labels" ≠ .null := by simp [found]
      have same := shaped.setPart_part there
      rw [found] at same
      simp [stamped, same, pure, Except.pure, eq_comm]
  | cons label rest ih =>
      obtain ⟨absent, distinct⟩ := List.nodup_cons.mp nodup
      have others : ∀ later ∈ rest, later.1 ≠ label.1 := by
        intro later member same
        exact absent (same ▸ List.mem_map_of_mem member)
      have next : (object (insertKey label.1 (.string label.2)
          labels)).Canonical := canonical_insertKey canonical rfl
      have shapedNext := shaped.setPart next "labels"
      have foundNext : part (setPart value "labels"
          (.object (insertKey label.1 (.string label.2) labels))) "labels" =
          .object (insertKey label.1 (.string label.2) labels) := by
        rw [shaped.part_setPart, if_pos rfl]
      rw [List.foldlM_cons, Outcome.bind_eq_ok_iff, List.forall_mem_cons]
      constructor
      · rintro ⟨first, one, more⟩
        obtain ⟨agrees, rfl⟩ := (mark_of_labels found label).mp one
        obtain ⟨agree, same⟩ :=
          (ih shapedNext foundNext next distinct).mp more
        refine ⟨⟨agrees, fun later member => ?_⟩, ?_⟩
        · exact (agrees_insertKey (others later member)).mp
            (agree later member)
        · rw [same, shaped.setPart_setPart]
          rfl
      · rintro ⟨⟨agrees, agree⟩, same⟩
        refine ⟨_, (mark_of_labels found label).mpr ⟨agrees, rfl⟩,
          (ih shapedNext foundNext next distinct).mpr
            ⟨fun later member => ?_, ?_⟩⟩
        · exact (agrees_insertKey (others later member)).mpr
            (agree later member)
        · rw [same, shaped.setPart_setPart]
          rfl

theorem nodup_ownership (project cluster : String) :
    ((ownership project cluster).map Prod.fst).Nodup := by
  change [managed, projectLabel, clusterLabel].Nodup
  decide

theorem canonical_stamped {labels : Fields}
    (canonical : (object labels).Canonical)
    (marks : List (String × String)) :
    (object (stamped marks labels)).Canonical := by
  induction marks generalizing labels with
  | nil => exact canonical
  | cons label rest ih =>
      exact ih (canonical_insertKey canonical rfl)

theorem lookup_stamped_ne {key : String} {labels : Fields}
    {marks : List (String × String)}
    (unmarked : key ∉ marks.map Prod.fst) :
    (stamped marks labels).lookup key = labels.lookup key := by
  induction marks generalizing labels with
  | nil => rfl
  | cons label rest ih =>
      rw [List.map_cons, List.mem_cons, not_or] at unmarked
      exact (ih unmarked.2).trans
        (lookup_insertKey_ne _ _ unmarked.1)

theorem lookup_stamped {label : String × String} {labels : Fields}
    {marks : List (String × String)} (nodup : (marks.map Prod.fst).Nodup)
    (member : label ∈ marks) :
    (stamped marks labels).lookup label.1 = some (.string label.2) := by
  induction marks generalizing labels with
  | nil => cases member
  | cons first rest ih =>
      obtain ⟨absent, distinct⟩ := List.nodup_cons.mp nodup
      rcases List.mem_cons.mp member with here | later
      · subst here
        exact (lookup_stamped_ne absent).trans (lookup_insertKey_self _ _ _)
      · exact ih distinct later

/-! ## What `owned` computes -/

/-- The value that is hashed: marked, and without a digest. -/
def base (project cluster : String) (value : JSONValue) : JSONValue :=
  setPart
    (setPart value "labels"
      (.object (stamped (ownership project cluster) (entries value "labels"))))
    "annotations" (.object (eraseKey digest (entries value "annotations")))

def digestOf (library : Library) (hashed : JSONValue) : String :=
  library.hexDigest (library.toVec hashed)

def annotated (library : Library) (hashed : JSONValue) : JSONValue :=
  setPart hashed "annotations" (.object (insertKey digest
    (.string (digestOf library hashed)) (entries hashed "annotations")))

theorem entries_setPart (shaped : Shaped value) (name asked : String)
    (fields : Fields) :
    entries (setPart value name (.object fields)) asked =
      if asked = name then fields else entries value asked := by
  rw [entries, shaped.part_setPart, entries]
  split <;> rfl

theorem Texts.setPart_ne (texts : Texts value name) (shaped : Shaped value)
    {other : String} (different : name ≠ other) (member : JSONValue) :
    Texts (setPart value other member) name := by
  rw [Texts, shaped.part_setPart, if_neg different]
  exact texts

theorem annotate_of_object (shaped : Shaped value) {annotations : Fields}
    (found : part value "annotations" = .object annotations) :
    annotate library value = .ok (annotated library (setPart value "annotations"
      (.object (eraseKey digest annotations)))) := by
  rw [annotate, found]
  dsimp only
  rw [annotated, entries_setPart shaped, if_pos rfl, shaped.part_setPart,
    if_pos rfl]
  rfl

theorem owned_eq_ok_iff (ready : Ready value) {result : JSONValue} :
    owned library value project cluster = .ok result ↔
      Unclaimed project cluster value ∧
        result = annotated library (base project cluster value) := by
  have shaped := ready.toShaped
  have canonical := canonical_entries shaped "labels"
  have shapedLabels := shaped.setPart canonical "labels"
  have found : part (setPart value "labels"
      (.object (entries value "labels"))) "labels" =
      .object (entries value "labels") := by
    rw [shaped.part_setPart, if_pos rfl]
  have annotating : annotate library (ensurePart
      (setPart value "labels" (.object (stamped (ownership project cluster)
        (entries value "labels")))) "annotations") =
      .ok (annotated library (base project cluster value)) := by
    have marked := shaped.setPart (canonical_stamped canonical
      (ownership project cluster)) "labels"
    have texts : Texts (setPart value "labels" (.object
        (stamped (ownership project cluster) (entries value "labels"))))
        "annotations" :=
      ready.annotations.setPart_ne shaped (by decide) _
    have there : part (setPart (setPart value "labels"
          (.object (stamped (ownership project cluster)
            (entries value "labels")))) "annotations"
          (.object (entries value "annotations"))) "annotations" =
        .object (entries value "annotations") := by
      rw [marked.part_setPart, if_pos rfl]
    rw [ensurePart_eq marked texts, entries_setPart shaped,
      if_neg (by decide),
      annotate_of_object (marked.setPart (canonical_entries shaped _) _) there,
      marked.setPart_setPart]
    rfl
  rw [owned, Outcome.bind_eq_ok_iff, ensurePart_eq shaped ready.labels]
  constructor
  · rintro ⟨marked, folded, done⟩
    obtain ⟨agree, rfl⟩ := (foldlM_mark shapedLabels found canonical
      (nodup_ownership project cluster)).mp folded
    rw [shaped.setPart_setPart, annotating] at done
    exact ⟨agree, (Except.ok.inj done).symm⟩
  · rintro ⟨agree, rfl⟩
    refine ⟨_, (foldlM_mark shapedLabels found canonical
      (nodup_ownership project cluster)).mpr ⟨agree, rfl⟩, ?_⟩
    rw [shaped.setPart_setPart, annotating]

/-! ## Values up to their marks -/

/-- Equal but for the ownership labels and the digest; a part that is missing
is one without fields. -/
structure SameBesides (left right : JSONValue) : Prop where
  fields : ∀ key, key ≠ "metadata" → left.field? key = right.field? key
  metadata : ∀ name, name ≠ "labels" → name ≠ "annotations" →
    (left.index "metadata").field? name = (right.index "metadata").field? name
  labels : ∀ key, key ∉ [managed, projectLabel, clusterLabel] →
    (entries left "labels").lookup key = (entries right "labels").lookup key
  annotations : ∀ key, key ≠ digest → (entries left "annotations").lookup key =
    (entries right "annotations").lookup key

theorem SameBesides.symm (same : SameBesides value other) :
    SameBesides other value :=
  ⟨fun key away => (same.fields key away).symm,
    fun name noLabels noAnnotations =>
      (same.metadata name noLabels noAnnotations).symm,
    fun key unmarked => (same.labels key unmarked).symm,
    fun key away => (same.annotations key away).symm⟩

theorem SameBesides.trans {third : JSONValue}
    (first : SameBesides value other) (second : SameBesides other third) :
    SameBesides value third :=
  ⟨fun key away => (first.fields key away).trans (second.fields key away),
    fun name noLabels noAnnotations =>
      (first.metadata name noLabels noAnnotations).trans
        (second.metadata name noLabels noAnnotations),
    fun key unmarked =>
      (first.labels key unmarked).trans (second.labels key unmarked),
    fun key away =>
      (first.annotations key away).trans (second.annotations key away)⟩

theorem field?_setPart (shaped : Shaped value) {key : String}
    (away : key ≠ "metadata") (name : String) (member : JSONValue) :
    (setPart value name member).field? key = value.field? key := by
  obtain ⟨⟨fields, metadata, rfl, found⟩, _⟩ := shaped
  rw [setPart_of_metadata found]
  exact lookup_insertKey_ne _ _ away

theorem metadata_setPart (shaped : Shaped value) {asked : String}
    (away : asked ≠ name) (member : JSONValue) :
    ((setPart value name member).index "metadata").field? asked =
      (value.index "metadata").field? asked := by
  obtain ⟨⟨fields, metadata, rfl, found⟩, _⟩ := shaped
  rw [setPart_of_metadata found, index, index, field?_object, field?_object,
    lookup_insertKey_self, found]
  exact lookup_insertKey_ne _ _ away

theorem sameBesides_labels (shaped : Shaped value) {labels : Fields}
    (same : ∀ key, key ∉ [managed, projectLabel, clusterLabel] →
      labels.lookup key = (entries value "labels").lookup key) :
    SameBesides (setPart value "labels" (.object labels)) value := by
  refine ⟨fun key away => field?_setPart shaped away _ _,
    fun name noLabels _ => metadata_setPart shaped noLabels _, ?_, ?_⟩
  · intro key unmarked
    rw [entries_setPart shaped, if_pos rfl, same key unmarked]
  · intro key _
    rw [entries_setPart shaped, if_neg (by decide)]

theorem sameBesides_annotations (shaped : Shaped value) {annotations : Fields}
    (same : ∀ key, key ≠ digest →
      annotations.lookup key = (entries value "annotations").lookup key) :
    SameBesides (setPart value "annotations" (.object annotations)) value := by
  refine ⟨fun key away => field?_setPart shaped away _ _,
    fun name _ noAnnotations => metadata_setPart shaped noAnnotations _,
    ?_, ?_⟩
  · intro key _
    rw [entries_setPart shaped, if_neg (by decide)]
  · intro key away
    rw [entries_setPart shaped, if_pos rfl, same key away]

theorem shaped_stamped (shaped : Shaped value) (project cluster : String) :
    Shaped (setPart value "labels" (.object
      (stamped (ownership project cluster) (entries value "labels")))) :=
  shaped.setPart (canonical_stamped (canonical_entries shaped "labels") _) _

theorem shaped_base (shaped : Shaped value) (project cluster : String) :
    Shaped (base project cluster value) :=
  (shaped_stamped shaped project cluster).setPart
    (canonical_eraseKey (canonical_entries shaped "annotations")) _

theorem sameBesides_base (shaped : Shaped value) (project cluster : String) :
    SameBesides (base project cluster value) value := by
  have labels : SameBesides (setPart value "labels" (.object
      (stamped (ownership project cluster) (entries value "labels")))) value :=
    sameBesides_labels shaped fun key unmarked => lookup_stamped_ne unmarked
  refine (sameBesides_annotations (shaped_stamped shaped project cluster)
    ?_).trans labels
  intro key away
  rw [lookup_eraseKey, if_neg away, entries_setPart shaped,
    if_neg (by decide)]

theorem sameBesides_annotated (shaped : Shaped value) :
    SameBesides (annotated library value) value :=
  sameBesides_annotations shaped fun _ away => lookup_insertKey_ne _ _ away

/-- The marks are the same as well. -/
structure SameMarks (left right : JSONValue) : Prop
    extends SameBesides left right where
  marks : ∀ key ∈ [managed, projectLabel, clusterLabel],
    (entries left "labels").lookup key = (entries right "labels").lookup key
  sum : (entries left "annotations").lookup digest =
    (entries right "annotations").lookup digest

theorem eq_of_sameMarks (shaped : Shaped value) (shapedOther : Shaped other)
    (same : SameMarks value other)
    (there : ∀ name ∈ ["labels", "annotations"],
      part value name = .object (entries value name) ∧
        part other name = .object (entries other name)) :
    value = other := by
  have labels : entries value "labels" = entries other "labels" := by
    refine eq_of_lookup (sorted_entries shaped _)
      (sorted_entries shapedOther _) fun key => ?_
    by_cases marked : key ∈ [managed, projectLabel, clusterLabel]
    · exact same.marks key marked
    · exact same.labels key marked
  have annotations : entries value "annotations" =
      entries other "annotations" := by
    refine eq_of_lookup (sorted_entries shaped _)
      (sorted_entries shapedOther _) fun key => ?_
    by_cases marked : key = digest
    · exact marked ▸ same.sum
    · exact same.annotations key marked
  have parts : ∀ name ∈ ["labels", "annotations"],
      part value name = part other name := by
    intro name member
    rw [(there name member).1, (there name member).2]
    rcases List.mem_cons.mp member with rfl | member
    · rw [labels]
    · rw [List.mem_singleton.mp member, annotations]
  have held : ∀ name ∈ ["labels", "annotations"],
      (value.index "metadata").field? name =
        (other.index "metadata").field? name := by
    intro name member
    have some' : ∀ {value : JSONValue} {fields : Fields},
        part value name = .object fields →
        (value.index "metadata").field? name = some (.object fields) := by
      intro value fields found
      rw [part, index] at found
      cases looked : (value.index "metadata").field? name with
      | none =>
          rw [looked] at found
          cases found
      | some member =>
          rw [looked] at found
          exact congrArg some found
    rw [some' (there name member).1,
      some' ((parts name member).symm.trans (there name member).1)]
  obtain ⟨⟨fields, metadata, rfl, found⟩, canonical⟩ := shaped
  obtain ⟨⟨others, metadata', rfl, found'⟩, canonical'⟩ := shapedOther
  have metadataSame : metadata = metadata' := by
    refine eq_of_lookup
      (canonical_object_iff.mp (canonical_of_lookup canonical found)).1
      (canonical_object_iff.mp (canonical_of_lookup canonical' found')).1
      fun name => ?_
    have all : ((object fields).index "metadata").field? name =
        ((object others).index "metadata").field? name := by
      by_cases isLabels : name = "labels"
      · exact held name (by simp [isLabels])
      · by_cases isAnnotations : name = "annotations"
        · exact held name (by simp [isAnnotations])
        · exact same.metadata name isLabels isAnnotations
    rw [index, index, field?_object, field?_object, found, found'] at all
    exact all
  refine congrArg object (eq_of_lookup (canonical_object_iff.mp canonical).1
    (canonical_object_iff.mp canonical').1 fun key => ?_)
  by_cases isMetadata : key = "metadata"
  · rw [isMetadata, found, found', metadataSame]
  · exact same.fields key isMetadata

theorem entries_base (shaped : Shaped value) (project cluster : String) :
    entries (base project cluster value) "labels" =
        stamped (ownership project cluster) (entries value "labels") ∧
      entries (base project cluster value) "annotations" =
        eraseKey digest (entries value "annotations") := by
  have marked := shaped_stamped shaped project cluster
  rw [base, entries_setPart marked, entries_setPart marked,
    if_neg (by decide), if_pos rfl, entries_setPart shaped, if_pos rfl]
  exact ⟨rfl, rfl⟩

theorem part_base (shaped : Shaped value) (project cluster : String)
    (asked : name ∈ ["labels", "annotations"]) :
    part (base project cluster value) name =
      .object (entries (base project cluster value) name) := by
  have marked := shaped_stamped shaped project cluster
  have parts := entries_base shaped project cluster
  rcases List.mem_cons.mp asked with rfl | asked
  · rw [parts.1, base, marked.part_setPart, if_neg (by decide),
      shaped.part_setPart, if_pos rfl]
  · rw [List.mem_singleton.mp asked, parts.2, base, marked.part_setPart,
      if_pos rfl]

theorem base_eq_iff (shaped : Shaped value) (shapedOther : Shaped other) :
    base project cluster value = base project cluster other ↔
      SameBesides value other := by
  constructor
  · intro same
    exact (sameBesides_base shaped project cluster).symm.trans
      (same ▸ sameBesides_base shapedOther project cluster)
  · intro same
    have besides := ((sameBesides_base shaped project cluster).trans
      same).trans (sameBesides_base shapedOther project cluster).symm
    refine eq_of_sameMarks (shaped_base shaped _ _)
      (shaped_base shapedOther _ _) ⟨besides, ?_, ?_⟩
      (fun name asked => ⟨part_base shaped _ _ asked,
        part_base shapedOther _ _ asked⟩)
    · intro key marked
      obtain ⟨label, member, rfl⟩ : ∃ label ∈ ownership project cluster,
          label.1 = key := by
        rw [← List.mem_map]
        exact marked
      have nodup := nodup_ownership project cluster
      rw [(entries_base shaped _ _).1, (entries_base shapedOther _ _).1,
        lookup_stamped nodup member, lookup_stamped nodup member]
    · rw [(entries_base shaped _ _).2, (entries_base shapedOther _ _).2,
        lookup_eraseKey, lookup_eraseKey, if_pos rfl, if_pos rfl]

/-! ## The result of `owned` -/

theorem shaped_annotated (shaped : Shaped value) :
    Shaped (annotated library value) := by
  refine shaped.setPart ?_ "annotations"
  exact canonical_insertKey (canonical_entries shaped "annotations") rfl

theorem entries_annotated (shaped : Shaped value) :
    entries (annotated library value) "labels" = entries value "labels" ∧
      entries (annotated library value) "annotations" =
        insertKey digest (.string (digestOf library value))
          (entries value "annotations") := by
  rw [annotated, entries_setPart shaped, entries_setPart shaped,
    if_neg (by decide), if_pos rfl]
  exact ⟨rfl, rfl⟩

/-- All fields are texts. -/
def AllTexts (fields : Fields) : Prop :=
  ∀ field ∈ fields, ∃ text, field.2 = .string text

theorem AllTexts.insertKey {fields : Fields} (texts : AllTexts fields)
    (key text : String) : AllTexts (insertKey key (.string text) fields) := by
  intro field member
  rcases mem_insertKey member with rfl | before
  · exact ⟨text, rfl⟩
  · exact texts field before

theorem Texts.entries (texts : Texts value name) :
    AllTexts (entries value name) := by
  rw [Manifests.entries]
  rcases texts with missing | ⟨fields, found, texts⟩
  · rw [missing]
    exact List.forall_mem_nil _
  · rw [found]
    exact texts

theorem texts_setPart (shaped : Shaped value) {fields : Fields}
    (texts : AllTexts fields) :
    Texts (setPart value name (.object fields)) name :=
  .inr ⟨fields, by rw [shaped.part_setPart, if_pos rfl], texts⟩

theorem allTexts_stamped {labels : Fields} (texts : AllTexts labels)
    (marks : List (String × String)) : AllTexts (stamped marks labels) := by
  induction marks generalizing labels with
  | nil => exact texts
  | cons label rest ih =>
      exact ih (texts.insertKey label.1 label.2)

theorem ready_result (ready : Ready value) (project cluster : String) :
    Ready (annotated library (base project cluster value)) := by
  have shaped := ready.toShaped
  have marked := shaped_stamped shaped project cluster
  have hashed := shaped_base shaped project cluster
  have labels := allTexts_stamped ready.labels.entries
    (ownership project cluster)
  refine ⟨shaped_annotated hashed, ?_, ?_⟩
  · exact ((texts_setPart shaped labels).setPart_ne marked (by decide)
      _).setPart_ne hashed (by decide) _
  · refine texts_setPart hashed (AllTexts.insertKey ?_ _ _)
    rw [(entries_base shaped project cluster).2]
    intro field member
    exact ready.annotations.entries field (List.mem_of_mem_filter member)

theorem lookup_result (shaped : Shaped value) {label : String × String}
    (member : label ∈ ownership project cluster) :
    (entries (annotated library (base project cluster value))
      "labels").lookup label.1 = some (.string label.2) := by
  rw [(entries_annotated (shaped_base shaped project cluster)).1,
    (entries_base shaped project cluster).1]
  exact lookup_stamped (nodup_ownership project cluster) member

theorem unclaimed_result (shaped : Shaped value) :
    Unclaimed project cluster
      (annotated library (base project cluster value)) := by
  intro label member text found
  rw [lookup_result shaped member] at found
  cases found
  rfl

theorem sameBesides_result (shaped : Shaped value) (project cluster : String) :
    SameBesides (annotated library (base project cluster value)) value :=
  (sameBesides_annotated (shaped_base shaped project cluster)).trans
    (sameBesides_base shaped project cluster)

theorem owned_result (ready : Ready value) :
    owned library (annotated library (base project cluster value)) project
        cluster =
      .ok (annotated library (base project cluster value)) := by
  have shaped := ready.toShaped
  have result : Ready (annotated library (base project cluster value)) :=
    ready_result ready project cluster
  refine (owned_eq_ok_iff result).mpr ⟨unclaimed_result shaped, ?_⟩
  rw [(base_eq_iff result.toShaped shaped).mpr
    (sameBesides_result shaped project cluster)]

theorem digest_result (shaped : Shaped value) (project cluster : String) :
    (entries (annotated library (base project cluster value))
      "annotations").lookup digest =
      some (.string (digestOf library (base project cluster value))) := by
  rw [(entries_annotated (shaped_base shaped project cluster)).2]
  exact lookup_insertKey_self _ _ _

end Manifests

end Vzctl
