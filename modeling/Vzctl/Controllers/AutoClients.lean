import Vzctl.Controllers.SecretStorage
import Vzctl.Json
import Vzctl.Lib.Outcome

/-!
# Automatic clients

The part of `auto_clients` that imports secrets: what it reads from an
existing `clients.json`, and the calls that it makes with it.
-/

namespace Vzctl

namespace JSONValue

mutual

/-- All strings of a value. -/
def strings : JSONValue → List String
  | .string value => [value]
  | .array items => stringsOfItems items
  | .object fields => stringsOfFields fields
  | _ => []

def stringsOfItems : List JSONValue → List String
  | [] => []
  | item :: rest => item.strings ++ stringsOfItems rest

def stringsOfFields : List (String × JSONValue) → List String
  | [] => []
  | (_, value) :: rest => value.strings ++ stringsOfFields rest

end

theorem strings_of_lookup {key : String} {value : JSONValue}
    {fields : List (String × JSONValue)}
    (found : fields.lookup key = some value) {text : String}
    (inside : text ∈ value.strings) : text ∈ stringsOfFields fields := by
  induction fields with
  | nil => cases found
  | cons first rest ih =>
      obtain ⟨name, item⟩ := first
      rw [stringsOfFields, List.mem_append]
      rw [List.lookup_cons] at found
      split at found
      · cases found
        exact .inl inside
      · exact .inr (ih found)

theorem strings_of_field {value member : JSONValue} {key : String}
    (found : value.field? key = some member) {text : String}
    (inside : text ∈ member.strings) : text ∈ value.strings := by
  cases value with
  | object fields =>
      rw [strings]
      exact strings_of_lookup found inside
  | _ => cases found

end JSONValue

namespace SecretStorage

open Texts

/-- `serde_json::from_slice`.  A string is not longer than its document. -/
structure ClientsReader where
  decode : ByteArray → Except Unit JSONValue
  short : ∀ bytes value text, decode bytes = .ok value →
    text ∈ value.strings → text.toByteArray.size ≤ bytes.size

/-- Secrets and owners by client ID. -/
structure Previous where
  secrets : List (String × String)
  owners : List (String × String)

/-- A string member that is not refused. -/
def textOf (value : JSONValue) (key : String) (refused : String → Bool) :
    Except Unit String :=
  match (value.field? key).bind JSONValue.asString? with
  | none => .error ()
  | some text => if refused text then .error () else .ok text

def addClient (previous : Previous) (client : JSONValue) :
    Except Unit Previous := do
  let id ← textOf client "id" String.isEmpty
  let secret ← textOf client "secret" blank
  if (previous.secrets.lookup id).isSome then .error ()
  else
    match client.field? "vzctlOwner" with
    | none =>
        pure { previous with secrets := (id, secret) :: previous.secrets }
    | some _ =>
        let owner ← textOf client "vzctlOwner" String.isEmpty
        pure
          { secrets := (id, secret) :: previous.secrets
            owners := (id, owner) :: previous.owners }

/-- `previous` and `owners` of `auto_clients`. -/
def previousClients (reader : ClientsReader) (project : String)
    (entry : Option Entry) : Except Unit Previous := do
  match ← readPrivate entry with
  | none => pure ⟨[], []⟩
  | some bytes =>
      let value ← reader.decode bytes
      if (value.field? "project").bind JSONValue.asString? = some project then
        match (value.field? "clients").bind JSONValue.asArray? with
        | none => .error ()
        | some clients => clients.foldlM addClient ⟨[], []⟩
      else .error ()

/-- `secret_for`: the call for the automatic client of a VM. -/
def secretFor (previous : Previous) (name : String) : Except Unit Call :=
  if (previous.owners.lookup name).isSome then .error ()
  else .ok ⟨name, previous.secrets.lookup name, .opening⟩

/-- The call for the client of a claim. -/
def claimSecret (previous : Previous) (owner id : String) :
    Except Unit Call :=
  if (previous.secrets.lookup id).isSome ∧
      previous.owners.lookup id ≠ some owner then .error ()
  else .ok
    ⟨"claim:" ++ owner ++ ":" ++ id, previous.secrets.lookup id, .opening⟩

/-- The calls of the consumers: S3 and PostgreSQL create, OIDC imports from
an existing `clients.json`. -/
inductive Consumer (reader : ClientsReader) : Call → Prop
  | create (key : String) : Consumer reader ⟨key, none, .opening⟩
  | vm {project name : String} {entry : Option Entry} {previous : Previous}
      {call : Call} :
      previousClients reader project entry = .ok previous →
      secretFor previous name = .ok call → Consumer reader call
  | claim {project owner id : String} {entry : Option Entry}
      {previous : Previous} {call : Call} :
      previousClients reader project entry = .ok previous →
      claimSecret previous owner id = .ok call → Consumer reader call

/-! ## Imported secrets -/

variable {reader : ClientsReader}

theorem strings_of_textOf {value : JSONValue} {key text : String}
    {refused : String → Bool} (found : textOf value key refused = .ok text) :
    text ∈ value.strings := by
  unfold textOf at found
  split at found
  · cases found
  · rename_i other member
    split at found
    · cases found
    · cases found
      obtain ⟨value, field, text⟩ := Option.bind_eq_some_iff.mp member
      refine JSONValue.strings_of_field field ?_
      cases value with
      | string value =>
          cases text
          exact List.mem_singleton.mpr rfl
      | _ => cases text

/-- The secrets of a list of clients are strings of the list. -/
def Within (limit : Nat) (previous : Previous) : Prop :=
  ∀ client ∈ previous.secrets, client.2.toByteArray.size ≤ limit

theorem within_nil {limit : Nat} : Within limit ⟨[], []⟩ :=
  List.forall_mem_nil _

theorem within_addClient {limit : Nat} {previous next : Previous}
    {client : JSONValue} (inside : Within limit previous)
    (small : ∀ text ∈ client.strings, text.toByteArray.size ≤ limit)
    (added : addClient previous client = .ok next) : Within limit next := by
  unfold addClient at added
  obtain ⟨id, _, added⟩ := Outcome.bind_eq_ok_iff.mp added
  obtain ⟨secret, found, added⟩ := Outcome.bind_eq_ok_iff.mp added
  have grown : ∀ entry ∈ (id, secret) :: previous.secrets,
      entry.2.toByteArray.size ≤ limit :=
    List.forall_mem_cons.mpr ⟨small secret (strings_of_textOf found), inside⟩
  split at added
  · cases added
  · split at added
    · cases added
      exact grown
    · obtain ⟨owner, _, added⟩ := Outcome.bind_eq_ok_iff.mp added
      cases added
      exact grown

theorem within_foldlM {limit : Nat} {clients : List JSONValue}
    {previous next : Previous} (inside : Within limit previous)
    (small : ∀ text ∈ JSONValue.stringsOfItems clients,
      text.toByteArray.size ≤ limit)
    (added : clients.foldlM addClient previous = .ok next) :
    Within limit next := by
  induction clients generalizing previous with
  | nil =>
      cases added
      exact inside
  | cons client rest ih =>
      rw [List.foldlM_cons] at added
      obtain ⟨middle, first, added⟩ := Outcome.bind_eq_ok_iff.mp added
      refine ih (within_addClient inside ?_ first) ?_ added
      · intro text member
        exact small text (List.mem_append_left _ member)
      · intro text member
        exact small text (List.mem_append_right _ member)

theorem within_previousClients {project : String} {entry : Option Entry}
    {previous : Previous}
    (found : previousClients reader project entry = .ok previous) :
    Within maxSecretBytes previous := by
  unfold previousClients at found
  obtain ⟨bytes, read, found⟩ := Outcome.bind_eq_ok_iff.mp found
  cases bytes with
  | none =>
      cases found
      exact within_nil
  | some bytes =>
      have fits : bytes.size ≤ maxSecretBytes := by
        unfold readPrivate at read
        split at read
        · cases read
        · split at read
          · rename_i readable
            cases read
            exact readable.2
          · cases read
      obtain ⟨value, decoded, found⟩ := Outcome.bind_eq_ok_iff.mp found
      split at found
      · split at found
        · cases found
        · rename_i clients member
          refine within_foldlM within_nil ?_ found
          intro text inside
          refine Nat.le_trans (reader.short bytes value text decoded ?_) fits
          obtain ⟨array, field, items⟩ := Option.bind_eq_some_iff.mp member
          refine JSONValue.strings_of_field field ?_
          cases array with
          | array values =>
              cases items
              exact inside
          | _ => cases items
      · cases found

theorem size_of_consumer {call : Call} (consumer : Consumer reader call)
    {secret : String} (imports : call.existing = some secret) :
    secret.toByteArray.size ≤ maxSecretBytes := by
  have listed : ∀ {name : String} {previous : Previous},
      Within maxSecretBytes previous →
        previous.secrets.lookup name = some secret →
        secret.toByteArray.size ≤ maxSecretBytes := by
    intro name previous inside found
    obtain ⟨before, rest, split, _⟩ := List.lookup_eq_some_iff.mp found
    refine inside (name, secret) ?_
    rw [split]
    exact List.mem_append_right _ List.mem_cons_self
  cases consumer with
  | create key => cases imports
  | vm found made =>
      unfold secretFor at made
      split at made
      · cases made
      · cases made
        exact listed (within_previousClients found) imports
  | claim found made =>
      unfold claimSecret at made
      split at made
      · cases made
      · cases made
        exact listed (within_previousClients found) imports

end SecretStorage

end Vzctl
