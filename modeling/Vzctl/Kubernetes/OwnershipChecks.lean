import Vzctl.Kubernetes.DesiredState
import Vzctl.Kubernetes.OwnershipMarks

/-!
# Ownership of existing objects

`check_existing`: an object is adopted if it carries the marks, and a list if
its items do.  What `owned` returns is one of these, unless it is a list that
came as the item of a list.
-/

namespace Vzctl

namespace Manifests

open JSONValue KeyedList

variable {library : Library} {value other : JSONValue}
  {project cluster : String}

def conflict (value : JSONValue) : String :=
  "ownership conflict: " ++ (value.index "kind").asString?.getD "?" ++ " " ++
    (part value "name").asString?.getD "?" ++
    " already exists outside this cluster controller"

def carries (project cluster : String) (value : JSONValue) : Bool :=
  (ownership project cluster).all fun label =>
    (part value "labels").index label.1 = .string label.2

mutual

def checkExisting (project cluster : String) :
    JSONValue → Except String Unit
  | .null => .ok ()
  | .object fields =>
      if fields.lookup "kind" = some (.string "List") then
        checkItemsField project cluster fields
      else if carries project cluster (.object fields) then
        .ok ()
      else
        .error (conflict (.object fields))
  | value => .error (conflict value)

/-- `value["items"]` of a list. -/
def checkItemsField (project cluster : String) :
    Fields → Except String Unit
  | [] => .error "invalid Kubernetes inventory"
  | (key, value) :: rest =>
      if key = "items" then
        match value with
        | .array items => checkItems project cluster items
        | _ => .error "invalid Kubernetes inventory"
      else
        checkItemsField project cluster rest

def checkItems (project cluster : String) :
    List JSONValue → Except String Unit
  | [] => .ok ()
  | item :: rest => do
      checkExisting project cluster item
      checkItems project cluster rest

end

/-! ## Inventories -/

mutual

/-- The objects of the lists, and of the lists in them; nothing if a list has
no items. -/
def inventory : JSONValue → Option (List JSONValue)
  | .null => some []
  | .object fields =>
      if fields.lookup "kind" = some (.string "List") then
        inventoryField fields
      else
        some [.object fields]
  | value => some [value]

def inventoryField : Fields → Option (List JSONValue)
  | [] => none
  | (key, value) :: rest =>
      if key = "items" then
        match value with
        | .array items => inventoryItems items
        | _ => none
      else
        inventoryField rest

def inventoryItems : List JSONValue → Option (List JSONValue)
  | [] => some []
  | item :: rest => do
      some ((← inventory item) ++ (← inventoryItems rest))

end

/-- There are objects, and all carry the marks. -/
def Carried (project cluster : String) (found : Option (List JSONValue)) :
    Prop :=
  ∃ objects, found = some objects ∧
    ∀ item ∈ objects, carries project cluster item = true

theorem carried_single :
    Carried project cluster (some [value]) ↔
      carries project cluster value = true := by
  simp [Carried]

mutual

theorem checkExisting_iff (project cluster : String) :
    (value : JSONValue) → (checkExisting project cluster value = .ok () ↔
      Carried project cluster (inventory value))
  | .null => by simp [checkExisting, inventory, Carried]
  | .bool _ => by simp [checkExisting, inventory, carried_single, carries,
      ownership, part, index, field?]
  | .number _ => by simp [checkExisting, inventory, carried_single, carries,
      ownership, part, index, field?]
  | .string _ => by simp [checkExisting, inventory, carried_single, carries,
      ownership, part, index, field?]
  | .array _ => by simp [checkExisting, inventory, carried_single, carries,
      ownership, part, index, field?]
  | .object fields => by
      rw [checkExisting, inventory]
      split
      · exact checkItemsField_iff project cluster fields
      · rw [carried_single]
        split <;> simp_all

theorem checkItemsField_iff (project cluster : String) :
    (fields : Fields) → (checkItemsField project cluster fields = .ok () ↔
      Carried project cluster (inventoryField fields))
  | [] => by simp [checkItemsField, inventoryField, Carried]
  | (key, value) :: rest => by
      rw [checkItemsField.eq_def, inventoryField.eq_def]
      dsimp only
      split
      · cases value with
        | array items => exact checkItems_iff project cluster items
        | _ => simp [Carried]
      · exact checkItemsField_iff project cluster rest

theorem checkItems_iff (project cluster : String) :
    (items : List JSONValue) → (checkItems project cluster items = .ok () ↔
      Carried project cluster (inventoryItems items))
  | [] => by simp [checkItems, inventoryItems, Carried]
  | item :: rest => by
      have first := checkExisting_iff project cluster item
      have later := checkItems_iff project cluster rest
      rw [checkItems, inventoryItems, Outcome.bind_eq_ok_iff]
      constructor
      · rintro ⟨_, one, more⟩
        obtain ⟨objects, found, carried⟩ := first.mp one
        obtain ⟨others, foundOthers, carriedOthers⟩ := later.mp more
        refine ⟨objects ++ others, by rw [found, foundOthers]; rfl, ?_⟩
        exact List.forall_mem_append.mpr ⟨carried, carriedOthers⟩
      · rintro ⟨all, found, carried⟩
        cases foundFirst : inventory item with
        | none =>
            rw [foundFirst] at found
            cases found
        | some objects =>
            cases foundLater : inventoryItems rest with
            | none =>
                rw [foundFirst, foundLater] at found
                cases found
            | some others =>
                rw [foundFirst, foundLater] at found
                cases found
                obtain ⟨one, more⟩ := List.forall_mem_append.mp carried
                exact ⟨(), first.mpr ⟨objects, foundFirst, one⟩,
                  later.mpr ⟨others, foundLater, more⟩⟩

end

theorem inventoryField_eq (fields : Fields) :
    inventoryField fields =
      match fields.lookup "items" with
      | some (.array items) => inventoryItems items
      | _ => none := by
  induction fields with
  | nil => rfl
  | cons field rest ih =>
      obtain ⟨key, value⟩ := field
      rw [inventoryField.eq_def, lookup_cons]
      dsimp only
      by_cases here : key = "items"
      · rw [if_pos here, if_pos here.symm]
        cases value <;> rfl
      · rw [if_neg here, if_neg (Ne.symm here), ih]

def IsList (value : JSONValue) : Prop :=
  value.field? "kind" = some (.string "List")

theorem inventory_of_isList (listed : IsList value) :
    inventory value =
      match value.field? "items" with
      | some (.array items) => inventoryItems items
      | _ => none := by
  obtain ⟨fields, rfl, found⟩ := eq_object_of_field? listed
  rw [inventory, if_pos found]
  exact inventoryField_eq fields

theorem inventory_of_not_isList (shaped : Shaped value)
    (single : ¬ IsList value) : inventory value = some [value] := by
  obtain ⟨⟨fields, metadata, rfl, found⟩, _⟩ := shaped
  rw [inventory]
  exact if_neg single

theorem carries_iff :
    carries project cluster value = true ↔
      ∀ label ∈ ownership project cluster,
        (entries value "labels").lookup label.1 = some (.string label.2) := by
  rw [carries, List.all_eq_true]
  refine forall₂_congr fun label _ => ?_
  rw [decide_eq_true_iff, index, field?_part]
  cases found : (entries value "labels").lookup label.1 with
  | none => simp
  | some member => simp

theorem eq_of_carries {project' cluster' : String}
    (carried : carries project cluster value = true)
    (carriedToo : carries project' cluster' value = true) :
    project = project' ∧ cluster = cluster' := by
  have labels := carries_iff.mp carried
  have labels' := carries_iff.mp carriedToo
  have first := labels (projectLabel, project) (by simp [ownership])
  have second := labels (clusterLabel, cluster) (by simp [ownership])
  rw [labels' (projectLabel, project') (by simp [ownership])] at first
  rw [labels' (clusterLabel, cluster') (by simp [ownership])] at second
  cases first
  cases second
  exact ⟨rfl, rfl⟩

/-- Accepted for one project and cluster, and for no others. -/
def Distinguishes (project cluster : String) (value : JSONValue) : Prop :=
  checkExisting project cluster value = .ok () ∧
    ∀ project' cluster', (project', cluster') ≠ (project, cluster) →
      ∃ failure, checkExisting project' cluster' value = .error failure

theorem distinguishes_iff :
    Distinguishes project cluster value ↔
      ∃ objects, inventory value = some objects ∧ objects ≠ [] ∧
        ∀ item ∈ objects, carries project cluster item = true := by
  rw [Distinguishes, checkExisting_iff]
  constructor
  · rintro ⟨⟨objects, found, carried⟩, others⟩
    refine ⟨objects, found, ?_, carried⟩
    rintro rfl
    obtain ⟨failure, failed⟩ := others (project ++ "x") cluster (by simp)
    have accepted := (checkExisting_iff (project ++ "x") cluster value).mpr
      ⟨[], found, List.forall_mem_nil _⟩
    rw [accepted] at failed
    cases failed
  · rintro ⟨objects, found, some', carried⟩
    refine ⟨⟨objects, found, carried⟩, ?_⟩
    intro project' cluster' different
    cases checked : checkExisting project' cluster' value with
    | error failure => exact ⟨failure, rfl⟩
    | ok done =>
        obtain ⟨objects', found', carried'⟩ :=
          (checkExisting_iff project' cluster' value).mp checked
        rw [found] at found'
        cases found'
        obtain ⟨item, member⟩ := List.exists_mem_of_ne_nil _ some'
        obtain ⟨rfl, rfl⟩ :=
          eq_of_carries (carried item member) (carried' item member)
        exact absurd rfl different

/-! ## What the marks are for -/

/-- A list has items behind it, and all of them carry the marks. -/
def ItemsMarked (project cluster : String) (value : JSONValue) : Prop :=
  IsList value → ∃ items objects,
    value.field? "items" = some (.array items) ∧
      inventoryItems items = some objects ∧ objects ≠ [] ∧
      ∀ item ∈ objects, carries project cluster item = true

/-- Marking succeeds where no label is in the way, is idempotent, changes the
marks only, and makes a value that `check_existing` knows again. -/
structure Marks (library : Library) (project cluster : String)
    (value : JSONValue) : Prop where
  succeeds : (∃ result, owned library value project cluster = .ok result) ↔
    Unclaimed project cluster value
  idempotent : ∀ result, owned library value project cluster = .ok result →
    owned library result project cluster = .ok result
  frame : ∀ result, owned library value project cluster = .ok result →
    SameBesides result value
  known : ∀ result, owned library value project cluster = .ok result →
    Distinguishes project cluster result

theorem field?_result (shaped : Shaped value) {key : String}
    (away : key ≠ "metadata") :
    (annotated library (base project cluster value)).field? key =
      value.field? key :=
  (sameBesides_result shaped project cluster).fields key away

theorem distinguishes_result_iff (ready : Ready value) :
    Distinguishes project cluster
        (annotated library (base project cluster value)) ↔
      ItemsMarked project cluster value := by
  have shaped := ready.toShaped
  have shapedResult : Shaped
      (annotated library (base project cluster value)) :=
    (ready_result ready project cluster).toShaped
  have kind : IsList (annotated library (base project cluster value)) ↔
      IsList value := by
    rw [IsList, field?_result shaped (by decide), IsList]
  rw [distinguishes_iff, ItemsMarked]
  by_cases listed : IsList value
  · rw [inventory_of_isList (kind.mpr listed),
      field?_result shaped (by decide)]
    constructor
    · rintro ⟨objects, found, some', carried⟩ _
      split at found
      · rename_i items held
        exact ⟨items, objects, held, found, some', carried⟩
      · cases found
    · intro marked
      obtain ⟨items, objects, held, found, some', carried⟩ := marked listed
      refine ⟨objects, ?_, some', carried⟩
      rw [held]
      exact found
  · rw [inventory_of_not_isList shapedResult (kind.not.mpr listed)]
    refine iff_of_true ⟨_, rfl, List.cons_ne_nil _ _, ?_⟩
      fun impossible => absurd impossible listed
    intro item member
    rw [List.mem_singleton.mp member]
    exact carries_iff.mpr fun label marked => lookup_result shaped marked

/-- The marks keep their promise exactly if no list is marked whose items are
not. -/
theorem marks_iff (ready : Ready value) :
    Marks library project cluster value ↔
      (Unclaimed project cluster value →
        ItemsMarked project cluster value) := by
  constructor
  · intro marks free
    obtain ⟨result, done⟩ := marks.succeeds.mpr free
    have known := marks.known result done
    rw [((owned_eq_ok_iff ready).mp done).2] at known
    exact (distinguishes_result_iff ready).mp known
  · intro marked
    refine ⟨?_, ?_, ?_, ?_⟩
    · constructor
      · rintro ⟨result, done⟩
        exact ((owned_eq_ok_iff ready).mp done).1
      · intro free
        exact ⟨_, (owned_eq_ok_iff ready).mpr ⟨free, rfl⟩⟩
    · intro result done
      rw [((owned_eq_ok_iff ready).mp done).2]
      exact owned_result ready
    · intro result done
      rw [((owned_eq_ok_iff ready).mp done).2]
      exact sameBesides_result ready.toShaped project cluster
    · intro result done
      obtain ⟨free, same⟩ := (owned_eq_ok_iff ready).mp done
      rw [same]
      exact (distinguishes_result_iff ready).mpr (marked free)

/-- The digest that `owned` leaves behind. -/
def digestIn (value : JSONValue) : Option JSONValue :=
  (entries value "annotations").lookup digest

/-- The two values are hashed apart, as SHA-256 is assumed to do. -/
def CollisionFree (library : Library) (first second : JSONValue) : Prop :=
  digestOf library first = digestOf library second → first = second

theorem digestIn_eq_iff (ready : Ready value) (readyOther : Ready other)
    (apart : CollisionFree library (base project cluster value)
      (base project cluster other))
    {result resultOther : JSONValue}
    (done : owned library value project cluster = .ok result)
    (doneOther : owned library other project cluster = .ok resultOther) :
    digestIn result = digestIn resultOther ↔ SameBesides value other := by
  have shaped := ready.toShaped
  have shapedOther := readyOther.toShaped
  rw [((owned_eq_ok_iff ready).mp done).2,
    ((owned_eq_ok_iff readyOther).mp doneOther).2, digestIn, digestIn,
    digest_result shaped, digest_result shapedOther]
  constructor
  · intro same
    exact (base_eq_iff shaped shapedOther).mp
      (apart (JSONValue.string.inj (Option.some.inj same)))
  · intro same
    rw [(base_eq_iff shaped shapedOther).mpr same]

/-- Objects of the API server beside the declared ones. -/
structure Matching : Prop where
  refl : ∀ value : Document, matchesDesired value.value value.value = true
  trans : ∀ first second third, matchesDesired first second = true →
    matchesDesired second third = true → matchesDesired first third = true
  gains : ∀ (desired : JSONValue) (actual : Document) (after : JSONValue),
    matchesDesired desired actual.value = true →
    Relation.ReflTransGen Gains actual.value after →
    matchesDesired desired after = true

theorem matching : Matching := by
  refine ⟨?_, ?_, ?_⟩
  · exact fun value => matches_self value.value value.canonical
  · exact fun first _ _ one two => matches_trans first one two
  · intro desired actual after fits gains
    exact matches_trans desired fits
      (matches_of_gains actual.canonical gains).2

/-- What is asked of the marks holds of an accepted object exactly if it is no
list, or one with marked items; digests and matching are as they should. -/
theorem ownership_marks_iff_itemsMarked
    (accepted : Accepted library value) (project cluster : String) :
    (Marks library project cluster value ↔
      (Unclaimed project cluster value →
        ItemsMarked project cluster value)) ∧
      (∀ other, Accepted library other →
        CollisionFree library (base project cluster value)
          (base project cluster other) →
        ∀ result resultOther,
          owned library value project cluster = .ok result →
          owned library other project cluster = .ok resultOther →
          (digestIn result = digestIn resultOther ↔
            SameBesides value other)) ∧
      Matching :=
  ⟨marks_iff accepted.ready,
    fun _ acceptedOther apart _ _ done doneOther =>
      digestIn_eq_iff accepted.ready acceptedOther.ready apart done doneOther,
    matching⟩

/-! ## A list in a list -/

def settings : JSONValue :=
  .object [("apiVersion", .string "v1"), ("kind", .string "ConfigMap"),
    ("metadata", .object [("name", .string "settings")])]

/-- The list that is an item of the document's list. -/
def innerList : JSONValue :=
  .object [("apiVersion", .string "v1"), ("items", .array [settings]),
    ("kind", .string "List"),
    ("metadata", .object [("name", .string "inner")])]

def outerList : Document where
  value := .object [("apiVersion", .string "v1"),
    ("items", .array [innerList]), ("kind", .string "List")]
  canonical := by decide

/-- SHA-256 of the inner list with the labels of `shop/main`. -/
def innerDigest : String :=
  "3fa69caef3edb0533156d3a11b5f0d51" ++ "1f303d69b8f708ad7a0d7f3990a7497c"

def markedList : JSONValue :=
  .object [("apiVersion", .string "v1"), ("items", .array [settings]),
    ("kind", .string "List"),
    ("metadata", .object [
      ("annotations", .object [(digest, .string innerDigest)]),
      ("labels", .object [(clusterLabel, .string "main"),
        (managed, .string "vzctl"), (projectLabel, .string "shop")]),
      ("name", .string "inner")])]

def nestedLibrary : Library where
  documents _ := [.ok outerList]
  toVec value :=
    if value = innerList then
      ("\x7b\"apiVersion\":\"v1\",\"items\":[\x7b\"apiVersion\":\"v1\"" ++
        ",\"kind\":\"ConfigMap\",\"metadata\":\x7b\"name\":\"settings\"" ++
        "\x7d\x7d],\"kind\":\"List\",\"metadata\":\x7b\"name\":\"inner" ++
        "\"\x7d\x7d").toUTF8.toList
    else
      ("\x7b\"apiVersion\":\"v1\",\"items\":[\x7b\"apiVersion\":\"v1\"" ++
        ",\"kind\":\"ConfigMap\",\"metadata\":\x7b\"name\":\"settings\"" ++
        "\x7d\x7d],\"kind\":\"List\",\"metadata\":\x7b\"annotations\":" ++
        "\x7b\x7d,\"labels\":\x7b\"vzctl.dev/cluster\":\"main\",\"vzctl" ++
        ".dev/managed-by\":\"vzctl\",\"vzctl.dev/project\":\"shop\"\x7d" ++
        ",\"name\":\"inner\"\x7d\x7d").toUTF8.toList
  hexDigest _ := innerDigest

theorem accepted_innerList : Accepted nestedLibrary innerList :=
  ⟨[], [innerList], by decide +kernel, List.mem_singleton_self _⟩

/-- `check_existing` takes the marked list for somebody else's. -/
theorem nested_list_is_rejected :
    Accepted nestedLibrary innerList ∧
      owned nestedLibrary innerList "shop" "main" = .ok markedList ∧
        checkExisting "shop" "main" markedList =
          .error ("ownership conflict: ConfigMap settings" ++
            " already exists outside this cluster controller") :=
  ⟨accepted_innerList, by decide +kernel, by decide +kernel⟩

theorem ownership_marks_of_innerList :
    Marks nestedLibrary "shop" "main" innerList ↔
      (Unclaimed "shop" "main" innerList →
        ItemsMarked "shop" "main" innerList) :=
  (ownership_marks_iff_itemsMarked accepted_innerList "shop" "main").1

end Manifests

end Vzctl
