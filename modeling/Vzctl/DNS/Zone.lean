import Mathlib.Data.List.DropRight
import Vzctl.Lib.Dictionary
import Vzctl.Lib.SortedBy
import Vzctl.Network.InetAddress

/-!
# The zone that vz-edge serves

`DNSZone`: records of machines and services, the ingress names of the host, and
what they are for the host and for a guest listener.
-/

namespace Vzctl

namespace DNS

/-- A character that lower-casing leaves alone. -/
def isPlain (scalar : Char) : Bool :=
  scalar.isLower || scalar.isDigit || scalar = '.' || scalar = '-'

/-- The parts between the dots of a text, without the empty ones. -/
def parts (name : String) : List String :=
  ((name.toList.splitOn '.').filter (· ≠ [])).map String.ofList

/-- What the zone uses of Swift's texts. -/
structure TextRules where
  lowercased : String → String
  lowercased_of_plain : ∀ text, text.toList.all isPlain = true →
    lowercased text = text
  /-- `split(separator: ".")`.  A dot with a combining mark behind it is
  another character and separates nothing. -/
  labels : String → List String
  labels_nonempty : ∀ text, ∀ label ∈ labels text, label ≠ ""
  labels_of_plain : ∀ text,
    text.toList.all isPlain = true ∨ '.' ∉ text.toList →
      labels text = parts text
  isLetter : Char → Bool
  isNumber : Char → Bool
  isWhitespace : Char → Bool
  /-- `String.count`, the number of grapheme clusters. -/
  characterCount : String → Nat

theorem ne_empty_of_mem_parts {name label : String}
    (member : label ∈ parts name) : label ≠ "" := by
  rw [parts, List.mem_map] at member
  obtain ⟨scalars, isPart, rfl⟩ := member
  have notEmpty : scalars ≠ [] := by
    simpa using (List.mem_filter.mp isPart).2
  intro empty
  apply notEmpty
  have same := congrArg String.toList empty
  simpa using same

theorem toLower_of_isPlain {scalar : Char} (plain : isPlain scalar = true) :
    scalar.toLower = scalar := by
  have notUpper : ¬ (scalar.val ≥ 'A'.val ∧ scalar.val ≤ 'Z'.val) := by
    rintro ⟨low, high⟩
    rw [isPlain] at plain
    delta Char.isLower at plain
    simp only [Bool.or_eq_true, decide_eq_true_eq, Char.isDigit,
      Bool.and_eq_true] at plain
    rcases plain with ((lower | digit) | dot) | dash
    · have first := lower.1
      simp only [UInt32.le_iff_toNat_le, ge_iff_le] at *
      simp at *
      omega
    · have last := digit.2
      simp only [UInt32.le_iff_toNat_le, ge_iff_le] at *
      simp at *
      omega
    · subst dot
      exact absurd low (by decide)
    · subst dash
      exact absurd low (by decide)
  delta Char.toLower
  rw [dif_neg notUpper]

/-- Swift on ASCII texts. -/
def asciiRules : TextRules where
  lowercased text := String.ofList (text.toList.map Char.toLower)
  lowercased_of_plain text plain := by
    have same : text.toList.map Char.toLower = text.toList := by
      conv_rhs => rw [← List.map_id text.toList]
      apply List.map_congr_left
      intro scalar member
      exact toLower_of_isPlain (List.all_eq_true.mp plain scalar member)
    rw [same, String.ofList_toList]
  labels := parts
  labels_nonempty _ _ := ne_empty_of_mem_parts
  labels_of_plain _ _ := rfl
  isLetter := Char.isAlpha
  isNumber := Char.isDigit
  isWhitespace := Char.isWhitespace
  characterCount := String.length

/-- `trimmingCharacters(in:)`. -/
def trimming (drops : Char → Bool) (text : String) : String :=
  String.ofList ((text.toList.dropWhile drops).rdropWhile drops)

def hasSuffix (name suffix : String) : Bool :=
  suffix.toList.isSuffixOf name.toList

def joined (labels : List String) : String := ".".intercalate labels

def canonicalName (rules : TextRules) (name : String) : String :=
  trimming (· = '.') (rules.lowercased name)

/-- `ipv4Bytes`. -/
def ipv4Bytes (value : String) : Option (List UInt8) :=
  (inetPton value).map fun address =>
    (octetsOf address).map UInt8.ofNat

/-- Dotted-quad IPv4 used as a DNS name, not a hostname. -/
def ipv4Literal (rules : TextRules) (name : String) : Option String :=
  let canonical := canonicalName rules name
  if (canonical.toList.splitOn '.').length = 4 ∧
      (ipv4Bytes canonical).isSome then
    some canonical
  else
    none

def isIPv4Reverse (rules : TextRules) (name : String) : Bool :=
  let canonical := canonicalName rules name
  canonical = "in-addr.arpa" || hasSuffix canonical ".in-addr.arpa"

def contextKey (rules : TextRules) (stack : Option String)
    (network : String) : String :=
  stack.getD "" ++ "|" ++ canonicalName rules network

structure DNSGuestContext where
  network : String
  project : Option String
  stack : Option String
  gateway : String
  hostService : String
  deriving DecidableEq, Repr

inductive DNSHorizon where
  | host
  | guest (context : DNSGuestContext)
  deriving DecidableEq, Repr

structure DNSZone where
  /-- Guest-horizon A records and shared VM records. -/
  records : Dictionary (List String)
  /-- Base names for the synthesis of wildcards. -/
  wildcardRecords : Dictionary (List String)
  /-- Single-label names of a listener, by `contextKey`. -/
  shortRecords : Dictionary (Dictionary (List String))
  ptrRecords : Dictionary (List String)
  /-- Host-horizon A records for ingress and OIDC names. -/
  hostRecords : Dictionary (List String)
  /-- Guest-horizon ingress overrides: host, then listener network. -/
  ingressGuestAddresses : Dictionary (Dictionary String)
  /-- Project ownership for host-managed names. -/
  ingressProjects : Dictionary String
  reverseZones : List String
  zones : List String
  ttl : UInt32

namespace DNSZone

variable (rules : TextRules) (zone : DNSZone)

/-- The longest base name that a name is below. -/
def wildcardAddresses (name : String) : Option (List String) :=
  ((sortedBy (fun entry => -(rules.characterCount entry.1 : Int)) <|
    zone.wildcardRecords.entries.filter fun entry =>
      name ≠ entry.1 && hasSuffix name ("." ++ entry.1)).head?).map (·.2)

/-- The answer on a guest listener to a canonical name. -/
def guestAddresses (context : DNSGuestContext) (canonical : String) :
    Option (List String) :=
  if (zone.hostRecords.lookup canonical).isSome then
    if zone.ingressProjects.lookup canonical = context.project then
      match (zone.ingressGuestAddresses.lookup canonical).bind
          (·.lookup context.network) with
      | some networkIP => some [networkIP]
      | none => some [context.hostService]
    else
      none
  else
    match (zone.records.lookup canonical).or
        (zone.wildcardAddresses rules canonical) with
    | some exactly => some exactly
    | none =>
        if canonical.toList.contains '.' then
          none
        else
          (zone.shortRecords.lookup
            (contextKey rules context.stack context.network)).bind
              (·.lookup canonical)

def addresses (name : String) (horizon : DNSHorizon) :
    Option (List String) :=
  let canonical := canonicalName rules name
  match ipv4Literal rules canonical with
  | some ip => some [ip]
  | none =>
      match horizon with
      | .host =>
          (zone.hostRecords.lookup canonical).or
            ((zone.records.lookup canonical).or
              (zone.wildcardAddresses rules canonical))
      | .guest context => zone.guestAddresses rules context canonical

def ptrNames (name : String) : Option (List String) :=
  zone.ptrRecords.lookup (canonicalName rules name)

/-- The longest reverse zone of three to five labels that covers a name. -/
def matchingReverseZone (name : String) : Option String :=
  let labels := rules.labels (canonicalName rules name)
  if labels.length < 3 then
    none
  else
    (([5, 4, 3].filter (· ≤ labels.length)).map fun take =>
      joined (labels.drop (labels.length - take))).find?
        (zone.reverseZones.contains ·)

def isAuthoritative (name : String) (horizon : DNSHorizon) : Bool :=
  let canonical := canonicalName rules name
  if (zone.addresses rules canonical horizon).isSome ||
      (zone.ptrRecords.lookup canonical).isSome || canonical = "vz.test" ||
      hasSuffix canonical ".vz.test" then
    true
  else if isIPv4Reverse rules canonical then
    match horizon with
    | .host => true
    | .guest _ => (zone.matchingReverseZone rules canonical).isSome
  else
    false

/-- The SOA owner of a negative answer. -/
def authorityZone (name : String) : String :=
  let canonical := canonicalName rules name
  if isIPv4Reverse rules canonical then
    (zone.matchingReverseZone rules canonical).getD "in-addr.arpa"
  else
    let covering := zone.zones.filter fun candidate =>
      canonical = candidate || hasSuffix canonical ("." ++ candidate)
    let best := covering.foldl (fun (best : Option String) candidate =>
      if (best.map fun held => (rules.characterCount held : Int)).getD (-1) <
          rules.characterCount candidate then
        some candidate
      else
        best) none
    best.getD "vz.test"

end DNSZone

end DNS

end Vzctl
