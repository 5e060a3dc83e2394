import Mathlib.Data.List.Flatten
import Mathlib.Data.List.Nodup
import Mathlib.Data.List.Perm.Basic
import Vzctl.Ingress.Render
import Vzctl.Lib.Splitting

/-!
# Sites of rendered Caddyfiles

The addresses that the text of a site block gives before its brace, and when
those of all routes are distinct; the ports that Caddy listens on.
-/

namespace Vzctl

namespace Ingress

/-! ## Reading a site block -/

inductive Scheme where
  | http
  | https
  deriving DecidableEq

/-- White space and commas stand between the addresses of a site. -/
def separatesAddresses (character : Char) : Bool :=
  isWhitespace character || character == ','

def addressWords (text : Source) : List Source :=
  (text.splitOnP separatesAddresses).filter fun word => word ≠ []

/-- A path or a port ends a host. -/
def endsHost (character : Char) : Bool :=
  character == '/' || character == ':'

/-- Scheme and host, `https` where no scheme is given. -/
def readAddress (word : Source) : Scheme × String :=
  let parts :=
    match word with
    | 'h' :: 't' :: 't' :: 'p' :: ':' :: '/' :: '/' :: rest =>
        (Scheme.http, rest)
    | 'h' :: 't' :: 't' :: 'p' :: 's' :: ':' :: '/' :: '/' :: rest =>
        (Scheme.https, rest)
    | rest => (Scheme.https, rest)
  (parts.1,
    String.ofList (parts.2.takeWhile fun character => !endsHost character))

/-- What stands before the brace that opens the block. -/
def siteAddresses (text : Source) : List (Scheme × String) :=
  ((addressWords text).takeWhile fun word => word ≠ ['\x7b']).map readAddress

def SiteBlock.addresses (block : SiteBlock) : List (Scheme × String) :=
  siteAddresses block.text

def Caddyfile.addresses (file : Caddyfile) : List (Scheme × String) :=
  file.sites.flatMap SiteBlock.addresses

/-! ## Plain hosts -/

/-- A host that is one address: no white space, comma, path or port. -/
def PlainHost (host : Source) : Prop :=
  ∀ character ∈ host,
    separatesAddresses character = false ∧ endsHost character = false

instance (host : Source) : Decidable (PlainHost host) :=
  List.decidableBAll (fun character =>
    separatesAddresses character = false ∧ endsHost character = false) host

theorem readAddress_plain {word : Source}
    (whole : ∀ character ∈ word, separatesAddresses character = false) :
    PlainHost (readAddress word).2.toList := by
  have cut : ∀ rest : Source, rest ⊆ word →
      PlainHost (String.ofList
        (rest.takeWhile fun character => !endsHost character)).toList := by
    intro rest inside character member
    rw [String.toList_ofList] at member
    have kept := List.mem_takeWhile_imp member
    exact ⟨whole character
      (inside ((List.takeWhile_sublist _).subset member)), by simpa using kept⟩
  unfold readAddress
  split
  · exact cut _ (List.subset_append_right "http://".toList _)
  · exact cut _ (List.subset_append_right "https://".toList _)
  · exact cut _ fun _ member => member

/-- Whatever a block says, its addresses name plain hosts. -/
theorem plainHost_of_mem {text : Source} {address : Scheme × String}
    (member : address ∈ siteAddresses text) :
    PlainHost address.2.toList := by
  obtain ⟨word, inside, rfl⟩ := List.mem_map.mp member
  have isWord := (List.takeWhile_sublist _).subset inside
  exact readAddress_plain
    (Splitting.not_separates_of_mem (List.mem_filter.mp isWord).1)

/-! ## The addresses of plain blocks -/

theorem addressWords_append {separator : Char}
    (separates : separatesAddresses separator = true) (front back : Source) :
    addressWords (front ++ separator :: back) =
      addressWords front ++ addressWords back := by
  rw [addressWords, List.splitOnP_append_cons front back separates,
    List.filter_append]
  rfl

theorem addressWords_word {word : Source} (nonempty : word ≠ [])
    (whole : ∀ character ∈ word, separatesAddresses character = false) :
    addressWords word = [word] := by
  rw [addressWords, List.splitOnP_eq_singleton whole]
  simp [nonempty]

/-- A word in front of a comma and a blank. -/
theorem addressWords_listed {word : Source} (nonempty : word ≠ [])
    (whole : ∀ character ∈ word, separatesAddresses character = false)
    (back : Source) :
    addressWords (word ++ (", ".toList ++ back)) =
      word :: addressWords back := by
  have blank : addressWords (' ' :: back) = addressWords back :=
    addressWords_append (by decide) [] back
  have split : addressWords (word ++ ',' :: (' ' :: back)) =
      addressWords word ++ addressWords (' ' :: back) :=
    addressWords_append (by decide) word (' ' :: back)
  rw [addressWords_word nonempty whole, blank] at split
  exact split

/-- The words before the brace. -/
theorem siteAddresses_of_word {word : Source} (nonempty : word ≠ [])
    (whole : ∀ character ∈ word, separatesAddresses character = false)
    (noBrace : word ≠ ['\x7b']) (body : Source) :
    siteAddresses (word ++ (" \x7b\n\tbind ".toList ++ body)) =
      [readAddress word] := by
  have brace : addressWords ('\x7b' :: '\n' :: ("\tbind ".toList ++ body)) =
      ['\x7b'] :: addressWords ("\tbind ".toList ++ body) :=
    addressWords_append (by decide) ['\x7b'] _
  have split : addressWords
      (word ++ ' ' :: ('\x7b' :: '\n' :: ("\tbind ".toList ++ body))) =
      addressWords word ++ addressWords _ :=
    addressWords_append (by decide) word _
  rw [addressWords_word nonempty whole, brace] at split
  have words : addressWords (word ++ (" \x7b\n\tbind ".toList ++ body)) =
      word :: ['\x7b'] :: addressWords ("\tbind ".toList ++ body) := split
  rw [siteAddresses, words, List.takeWhile_cons_of_pos (by simp [noBrace]),
    List.takeWhile_cons_of_neg (by simp)]
  rfl

theorem siteAddresses_listed {word : Source} (nonempty : word ≠ [])
    (whole : ∀ character ∈ word, separatesAddresses character = false)
    (noBrace : word ≠ ['\x7b']) (back : Source) :
    siteAddresses (word ++ (", ".toList ++ back)) =
      readAddress word :: siteAddresses back := by
  rw [siteAddresses, addressWords_listed nonempty whole,
    List.takeWhile_cons_of_pos (by simp [noBrace])]
  rfl

section Plain

variable {host : String}

theorem cut_of_plain (plain : PlainHost host.toList) :
    String.ofList
      (host.toList.takeWhile fun character => !endsHost character) = host := by
  rw [List.takeWhile_eq_self_iff.mpr, String.ofList_toList]
  intro character member
  rw [(plain character member).2]
  rfl

theorem readAddress_http (plain : PlainHost host.toList) :
    readAddress ("http://".toList ++ host.toList) = (.http, host) :=
  congrArg (Prod.mk Scheme.http) (cut_of_plain plain)

theorem readAddress_https (plain : PlainHost host.toList) :
    readAddress ("https://".toList ++ host.toList) = (.https, host) :=
  congrArg (Prod.mk Scheme.https) (cut_of_plain plain)

theorem readAddress_bare (plain : PlainHost host.toList) :
    readAddress host.toList = (.https, host) := by
  have noScheme : ':' ∉ host.toList := by
    intro member
    cases (plain _ member).2
  unfold readAddress
  split
  · rename_i schemed
    rw [schemed] at noScheme
    simp at noScheme
  · rename_i schemed
    rw [schemed] at noScheme
    simp at noScheme
  · exact congrArg (Prod.mk Scheme.https) (cut_of_plain plain)

theorem whole_of_plain {scheme : Source}
    (schemeWhole : ∀ character ∈ scheme, separatesAddresses character = false)
    (plain : PlainHost host.toList) :
    ∀ character ∈ scheme ++ host.toList,
      separatesAddresses character = false := by
  intro character member
  rcases List.mem_append.mp member with inScheme | inHost
  · exact schemeWhole character inScheme
  · exact (plain character inHost).1

/-- The part of a block behind its addresses. -/
theorem text_redirect (host bind : String) :
    ∃ body, (SiteBlock.redirect host bind).text =
      "http://".toList ++ host.toList ++
        (" \x7b\n\tbind ".toList ++ body) := by
  have regroup : ∀ a b c d e f g h : Source,
      a ++ b ++ c ++ d ++ e ++ f ++ g ++ h =
        a ++ b ++ (c ++ (d ++ (e ++ (f ++ (g ++ h))))) := by
    intro a b c d e f g h
    simp only [List.append_assoc]
  exact ⟨_, regroup _ _ _ _ _ _ _ _⟩

theorem text_proxy (hosts : List String) (bind cert key backend : String) :
    ∃ body, (SiteBlock.proxy hosts bind cert key backend).text =
      "https://".toList ++
        List.intercalate ", ".toList (hosts.map String.toList) ++
          (" \x7b\n\tbind ".toList ++ body) := by
  have regroup : ∀ a b c d e f g h i j k l : Source,
      a ++ b ++ c ++ d ++ e ++ f ++ g ++ h ++ i ++ j ++ k ++ l =
        a ++ b ++ (c ++ (d ++ (e ++ (f ++ (g ++ (h ++ (i ++ (j ++
          (k ++ l))))))))) := by
    intro a b c d e f g h i j k l
    simp only [List.append_assoc]
  exact ⟨_, regroup _ _ _ _ _ _ _ _ _ _ _ _⟩

theorem addresses_redirect (plain : PlainHost host.toList) (bind : String) :
    (SiteBlock.redirect host bind).addresses = [(.http, host)] := by
  have whole : ∀ character ∈ "http://".toList ++ host.toList,
      separatesAddresses character = false :=
    whole_of_plain (by simp [separatesAddresses, isWhitespace]) plain
  obtain ⟨body, text⟩ := text_redirect host bind
  rw [SiteBlock.addresses, text, siteAddresses_of_word (by simp) whole
    (by simp), readAddress_http plain]

theorem addresses_proxy (plain : PlainHost host.toList)
    (bind cert key backend : String) :
    (SiteBlock.proxy [host] bind cert key backend).addresses =
      [(.https, host)] := by
  have whole : ∀ character ∈ "https://".toList ++ host.toList,
      separatesAddresses character = false :=
    whole_of_plain (by simp [separatesAddresses, isWhitespace]) plain
  obtain ⟨body, text⟩ := text_proxy [host] bind cert key backend
  rw [List.map_singleton, List.intercalate_singleton] at text
  rw [SiteBlock.addresses, text, siteAddresses_of_word (by simp) whole
    (by simp), readAddress_https plain]

theorem addresses_proxy_alias {short : String}
    (plain : PlainHost host.toList) (shortPlain : PlainHost short.toList)
    (isAlias : endsWithLocalhost short = true)
    (bind cert key backend : String) :
    (SiteBlock.proxy [host, short] bind cert key backend).addresses =
      [(.https, host), (.https, short)] := by
  have whole : ∀ character ∈ "https://".toList ++ host.toList,
      separatesAddresses character = false :=
    whole_of_plain (by simp [separatesAddresses, isWhitespace]) plain
  have long : 10 ≤ short.toList.length :=
    (List.isSuffixOf_iff_suffix.mp isAlias).length_le
  obtain ⟨body, text⟩ := text_proxy [host, short] bind cert key backend
  rw [List.map_cons, List.map_singleton, List.intercalate_cons_cons,
    List.intercalate_singleton, List.append_assoc (host.toList),
    ← List.append_assoc _ host.toList, List.append_assoc,
    List.append_assoc _ short.toList] at text
  rw [SiteBlock.addresses, text, siteAddresses_listed (by simp) whole
    (by simp), readAddress_https plain, siteAddresses_of_word ?_
      (fun character member => (shortPlain character member).1) ?_,
    readAddress_bare shortPlain]
  · intro empty
    rw [empty] at long
    exact absurd long (by decide)
  · intro brace
    rw [brace] at long
    exact absurd long (by decide)

end Plain

/-! ## Routes -/

/-- The addresses of the sites of one route. -/
def groupAddresses (group : Bool × List String) : List (Scheme × String) :=
  (if group.1 then group.2.map (Prod.mk .http) else []) ++
    group.2.map (Prod.mk .https)

theorem mem_groupAddresses {group : Bool × List String}
    {address : Scheme × String} (member : address ∈ groupAddresses group) :
    address.2 ∈ group.2 := by
  rw [groupAddresses, List.mem_append] at member
  rcases member with redirects | proxies
  · split at redirects
    · obtain ⟨host, inside, rfl⟩ := List.mem_map.mp redirects
      exact inside
    · cases redirects
  · obtain ⟨host, inside, rfl⟩ := List.mem_map.mp proxies
    exact inside

theorem nodup_groupAddresses {group : Bool × List String}
    (apart : group.2.Nodup) : (groupAddresses group).Nodup := by
  have marked : ∀ scheme : Scheme, (group.2.map (Prod.mk scheme)).Nodup :=
    fun scheme => apart.map (Prod.mk_right_injective scheme)
  rw [groupAddresses]
  split
  · refine List.Nodup.append (marked .http) (marked .https) ?_
    intro address redirect proxy
    obtain ⟨host, _, rfl⟩ := List.mem_map.mp redirect
    obtain ⟨other, _, same⟩ := List.mem_map.mp proxy
    cases same
  · exact marked .https

/-- Every host has its `https` site, so the addresses are distinct exactly
when the hosts are. -/
theorem nodup_flatMap_groupAddresses_iff
    (groups : List (Bool × List String)) :
    (groups.flatMap groupAddresses).Nodup ↔
      (groups.flatMap Prod.snd).Nodup := by
  constructor
  · intro apart
    have proxied : ((groups.flatMap Prod.snd).map (Prod.mk Scheme.https)).Nodup
        := by
      refine apart.sublist ?_
      rw [List.map_flatMap]
      exact List.Sublist.flatMap_right groups fun group _ =>
        List.sublist_append_right _ _
    exact proxied.of_map
  · intro apart
    rw [List.nodup_flatMap] at apart ⊢
    constructor
    · intro group member
      exact nodup_groupAddresses (apart.1 group member)
    · refine apart.2.imp ?_
      intro first second disjoint address inFirst inSecond
      exact disjoint (mem_groupAddresses inFirst) (mem_groupAddresses inSecond)

/-! ## Hosts and short aliases -/

def names (entry : Bool × String) : List String :=
  entry.2 :: if entry.1 then [shortLocalhost entry.2] else []

def labels (entry : Bool × String) : List String :=
  if entry.1 then [shortLabel entry.2] else []

theorem append_localhost_injective :
    Function.Injective fun label : String => label ++ ".localhost" := by
  intro left right same
  have texts := congrArg String.toList same
  rw [String.toList_append, String.toList_append] at texts
  exact String.toList_injective (List.append_cancel_right texts)

/-- Distinct hosts, none of them below `localhost`, and their aliases are all
distinct exactly when the labels of the aliases are. -/
theorem nodup_flatMap_names_iff {entries : List (Bool × String)}
    (apart : (entries.map Prod.snd).Nodup)
    (plain : ∀ entry ∈ entries, endsWithLocalhost entry.2 = false) :
    (entries.flatMap names).Nodup ↔ (entries.flatMap labels).Nodup := by
  have aliases : (entries.flatMap fun entry =>
      if entry.1 then [shortLocalhost entry.2] else []) =
      (entries.flatMap labels).map (· ++ ".localhost") := by
    rw [List.map_flatMap]
    refine List.flatMap_congr fun entry _ => ?_
    rw [labels]
    split
    · rfl
    · rfl
  have parts : (entries.flatMap names).Perm
      (entries.map Prod.snd ++
        (entries.flatMap labels).map (· ++ ".localhost")) := by
    rw [← aliases]
    exact (List.map_append_flatMap_perm entries _ _).symm
  have disjoint : (entries.map Prod.snd).Disjoint
      ((entries.flatMap labels).map (· ++ ".localhost")) := by
    intro name hosted aliased
    obtain ⟨entry, member, rfl⟩ := List.mem_map.mp hosted
    obtain ⟨label, labelled, same⟩ := List.mem_map.mp aliased
    have suffixed : endsWithLocalhost entry.2 = true := by
      rw [← same, endsWithLocalhost, String.toList_append,
        List.isSuffixOf_iff_suffix]
      exact List.suffix_append _ _
    rw [plain entry member] at suffixed
    cases suffixed
  rw [parts.nodup_iff, List.nodup_append']
  constructor
  · intro distinct
    exact distinct.2.1.of_map
  · intro distinct
    exact ⟨apart, distinct.map append_localhost_injective, disjoint⟩

/-! ## Ports -/

/-- One port is privileged and is moved to the other. -/
def PortsClash (left right : UInt16) : Prop :=
  left < 1024 ∧ right.toNat = left.toNat + 18000 ∨
    right < 1024 ∧ left.toNat = right.toNat + 18000

instance (left right : UInt16) : Decidable (PortsClash left right) :=
  inferInstanceAs (Decidable (_ ∨ _))

theorem toNat_caddyListenPort (port : UInt16) :
    (caddyListenPort port).toNat =
      if port.toNat < 1024 then port.toNat + 18000 else port.toNat := by
  have bound := port.toNat_lt
  rw [caddyListenPort]
  by_cases high : 1024 ≤ port
  · have atLeast : 1024 ≤ port.toNat := UInt16.le_iff_toNat_le.mp high
    rw [if_pos high, if_neg (by omega)]
  · have below : port.toNat < 1024 := by
      rw [UInt16.le_iff_toNat_le] at high
      exact Nat.lt_of_not_le high
    rw [if_neg high, if_pos below, UInt16.toNat_ofNat']
    omega

theorem caddyListenPort_eq_iff {left right : UInt16} :
    caddyListenPort left = caddyListenPort right ↔
      left = right ∨ PortsClash left right := by
  have leftBound := left.toNat_lt
  have rightBound := right.toNat_lt
  have limit : (1024 : UInt16).toNat = 1024 := rfl
  rw [← UInt16.toNat_inj, toNat_caddyListenPort, toNat_caddyListenPort,
    PortsClash, ← UInt16.toNat_inj, UInt16.lt_iff_toNat_lt,
    UInt16.lt_iff_toNat_lt, limit]
  split
  · split
    · omega
    · omega
  · split
    · omega
    · omega

end Ingress

end Vzctl
