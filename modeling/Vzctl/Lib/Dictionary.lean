import Mathlib.Data.List.AList

/-!
# Dictionaries with texts as keys
-/

universe u v

abbrev Dictionary (α : Type u) := AList fun _ : String => α

namespace Dictionary

variable {α : Type u} {β : Type v} {values : Dictionary α}
  {key other : String} {value : α}

/-- Change every value, or drop it. -/
def mapValues (values : Dictionary α) (change : String → α → Option β) :
    Dictionary β :=
  (values.entries.filterMap fun entry =>
    (change entry.1 entry.2).map fun changed =>
      (⟨entry.1, changed⟩ : Sigma fun _ : String => β)).toAList

/-- `values[key, default: initial]`, changed in place. -/
def modify (values : Dictionary α) (key : String) (initial : α)
    (change : α → α) : Dictionary α :=
  values.insert key (change ((values.lookup key).getD initial))

/-- `values.entry(key).or_insert(value)`. -/
def entryOrInsert (values : Dictionary α) (key : String) (value : α) :
    Dictionary α :=
  if (values.lookup key).isSome then values else values.insert key value

theorem lookup_of_lookup_erase
    (found : (values.erase other).lookup key = some value) :
    values.lookup key = some value := by
  by_cases same : key = other
  · rw [same, AList.lookup_erase] at found
    cases found
  · rw [AList.lookup_erase_ne same] at found
    exact found

theorem eq_of_lookup_insert {added : α}
    (found : (values.insert other added).lookup key = some value) :
    values.lookup key = some value ∨ other = key ∧ added = value := by
  by_cases same : key = other
  · rw [same, AList.lookup_insert] at found
    exact .inr ⟨same.symm, Option.some.inj found⟩
  · rw [AList.lookup_insert_ne same] at found
    exact .inl found

theorem lookup_modify (initial : α) (change : α → α) :
    (values.modify other initial change).lookup key =
      if key = other then
        some (change ((values.lookup other).getD initial))
      else
        values.lookup key := by
  rw [modify]
  split
  · rename_i same
    rw [same, AList.lookup_insert]
  · rename_i different
    rw [AList.lookup_insert_ne different]

theorem lookup_entryOrInsert :
    (values.entryOrInsert other value).lookup key =
      (values.lookup key).or (if other = key then some value else none) := by
  rw [entryOrInsert]
  by_cases same : other = key
  · rw [if_pos same, same]
    cases held : values.lookup key with
    | some first => rw [Option.isSome_some, if_pos rfl, held, Option.some_or]
    | none =>
        rw [Option.isSome_none, if_neg Bool.false_ne_true,
          AList.lookup_insert, Option.none_or]
  · rw [if_neg same, Option.or_none]
    split
    · rfl
    · exact AList.lookup_insert_ne (Ne.symm same)

theorem lookup_foldl_entryOrInsert (entries : List (Sigma fun _ : String => α))
    (values : Dictionary α) :
    (entries.foldl (fun soFar entry => soFar.entryOrInsert entry.1 entry.2)
      values).lookup key =
      (values.lookup key).or (List.dlookup key entries) := by
  induction entries generalizing values with
  | nil => rw [List.foldl_nil, List.dlookup_nil, Option.or_none]
  | cons entry rest ih =>
      rw [List.foldl_cons, ih, lookup_entryOrInsert,
        Option.or_assoc]
      congr 1
      rcases entry with ⟨other, value⟩
      by_cases same : other = key
      · subst same
        rw [if_pos rfl, Option.some_or, List.dlookup_cons_eq]
      · rw [if_neg same, Option.none_or,
          List.dlookup_cons_ne _ _ (Ne.symm same)]

theorem dlookup_filterMap (key : String)
    {entries : List (Sigma fun _ : String => α)}
    (nodup : entries.NodupKeys) (change : String → α → Option β) :
    (entries.filterMap fun entry =>
      (change entry.1 entry.2).map fun changed =>
        (⟨entry.1, changed⟩ : Sigma fun _ : String => β)).dlookup key =
      (entries.dlookup key).bind (change key) := by
  induction entries with
  | nil => rfl
  | cons entry rest ih =>
      obtain ⟨name, held⟩ := entry
      have parts := List.nodupKeys_cons.mp nodup
      have tail := ih parts.2
      by_cases same : key = name
      · subst same
        rw [List.dlookup_cons_eq]
        cases changed : change key held with
        | some result =>
            simp [changed]
        | none =>
            have absent : rest.dlookup key = none :=
              List.dlookup_eq_none.mpr parts.1
            simp only [List.filterMap_cons, changed, Option.map_none, tail,
              absent, Option.bind_none, Option.bind_some]
      · rw [List.dlookup_cons_ne _ _ same]
        cases changed : change name held with
        | some result =>
            simp only [List.filterMap_cons, changed, Option.map_some]
            rw [List.dlookup_cons_ne _ _ same, tail]
        | none =>
            simp only [List.filterMap_cons, changed, Option.map_none, tail]

theorem lookup_mapValues (change : String → α → Option β) :
    (values.mapValues change).lookup key =
      (values.lookup key).bind (change key) := by
  have dropped := dlookup_filterMap key values.nodupKeys change
  rw [mapValues, AList.lookup_to_alist]
  exact dropped

theorem length_filter_values (values : Dictionary α) (meets : α → Bool) :
    (values.entries.filter fun entry => meets entry.2).length =
      (values.keys.filter fun key =>
        (values.lookup key).any meets).length := by
  have same : values.entries.filter (fun entry => meets entry.2) =
      values.entries.filter fun entry =>
        (values.lookup entry.1).any meets := by
    apply List.filter_congr
    intro entry member
    have found : values.lookup entry.1 = some entry.2 :=
      AList.mem_lookup_iff.mpr member
    rw [found, Option.any_some]
  rw [same, AList.keys, List.keys, List.filter_map, List.length_map]
  rfl

end Dictionary
