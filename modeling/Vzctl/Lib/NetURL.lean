import Mathlib.Data.List.Basic
import Vzctl.Lib.Outcome

/-!
# URLs as the package `net/url` reads them

Texts are lists of bytes.  `parse` takes a text apart, `URL.string` puts it
together and `URL.resolveReference` follows a reference.  The lemmas say what
the host of a parsed text depends on: the part between the two slashes and the
next slash, question mark or number sign.
-/

namespace NetURL

abbrev Text := List UInt8

def byte (letter : Char) : UInt8 := letter.toUInt8

def text (letters : String) : Text := letters.toList.map byte

/-! ## Texts -/

/-- `strings.Cut`; without the separator the second part is empty. -/
def cut (separator : UInt8) (whole : Text) : Text × Text :=
  (whole.takeWhile (· ≠ separator),
    (whole.dropWhile (· ≠ separator)).drop 1)

/-- The parts before and after the last separator. -/
def cutLast (separator : UInt8) (whole : Text) : Option (Text × Text) :=
  if separator ∈ whole then
    some (((whole.reverse.dropWhile (· ≠ separator)).drop 1).reverse,
      (whole.reverse.takeWhile (· ≠ separator)).reverse)
  else none

/-- The UTF-8 forms of the runes for which `unicode.IsSpace` holds. -/
def spaces : List Text :=
  [[9], [10], [11], [12], [13], [32], [0xc2, 0x85], [0xc2, 0xa0],
    [0xe1, 0x9a, 0x80], [0xe2, 0x80, 0x80], [0xe2, 0x80, 0x81],
    [0xe2, 0x80, 0x82], [0xe2, 0x80, 0x83], [0xe2, 0x80, 0x84],
    [0xe2, 0x80, 0x85], [0xe2, 0x80, 0x86], [0xe2, 0x80, 0x87],
    [0xe2, 0x80, 0x88], [0xe2, 0x80, 0x89], [0xe2, 0x80, 0x8a],
    [0xe2, 0x80, 0xa8], [0xe2, 0x80, 0xa9], [0xe2, 0x80, 0xaf],
    [0xe2, 0x81, 0x9f], [0xe3, 0x80, 0x80]]

/-- Drop the listed texts from the front, at most `rounds` of them. -/
def dropFront (dropped : List Text) : Nat → Text → Text
  | 0, whole => whole
  | rounds + 1, whole =>
      match dropped.find? (·.isPrefixOf whole) with
      | some front => dropFront dropped rounds (whole.drop front.length)
      | none => whole

/-- `strings.TrimSpace`. -/
def trimSpace (whole : Text) : Text :=
  let left := dropFront spaces whole.length whole
  (dropFront (spaces.map List.reverse) left.length left.reverse).reverse

def lowerByte (letter : UInt8) : UInt8 :=
  if byte 'A' ≤ letter ∧ letter ≤ byte 'Z' then letter + 32 else letter

/-! ## Escapes -/

/-- Where in a URL a text stands. -/
inductive Encoding where
  | path
  | userPassword
  | host
  | zone
  | fragment
  deriving DecidableEq, Repr

inductive Failure where
  | controlCharacter
  | missingScheme
  | colonInFirstSegment
  | escape
  | invalidHost
  | missingBracket
  | invalidPort
  | invalidUserinfo
  deriving DecidableEq, Repr

def isDigit (letter : UInt8) : Bool := byte '0' ≤ letter && letter ≤ byte '9'

def isAlpha (letter : UInt8) : Bool :=
  (byte 'a' ≤ letter && letter ≤ byte 'z') ||
    (byte 'A' ≤ letter && letter ≤ byte 'Z')

def unhex (letter : UInt8) : Option UInt8 :=
  if isDigit letter then some (letter - byte '0')
  else if byte 'a' ≤ letter ∧ letter ≤ byte 'f' then
    some (letter - byte 'a' + 10)
  else if byte 'A' ≤ letter ∧ letter ≤ byte 'F' then
    some (letter - byte 'A' + 10)
  else none

def shouldEscape (mode : Encoding) (letter : UInt8) : Bool :=
  if isAlpha letter || isDigit letter then false
  else if (mode = .host || mode = .zone) &&
      (text "!$&'()*+,;=:[]<>\"").contains letter then false
  else if (text "-_.~").contains letter then false
  else if (text "$&+,/:;=?@").contains letter then
    match mode with
    | .path => letter = byte '?'
    | .userPassword => (text "@/?:").contains letter
    | .fragment => false
    | _ => true
  else !(mode = .fragment && (text "!()*").contains letter)

/-- The byte that two hexadecimal digits stand for, where it may be written so
in that place. -/
def escapedByte (mode : Encoding) (high low : UInt8) : Except Failure UInt8 :=
  match unhex high, unhex low with
  | some first, some second =>
      let value := first * 16 + second
      if mode = .host ∧ first < 8 ∧ value ≠ byte '%' then .error .escape
      else if mode = .zone ∧ value ≠ byte '%' ∧ value ≠ 32 ∧
          shouldEscape .host value = true then .error .escape
      else .ok value
  | _, _ => .error .escape

def unescape (mode : Encoding) : Text → Except Failure Text
  | [] => .ok []
  | letter :: rest =>
      if letter = byte '%' then
        match rest with
        | high :: low :: rest => do
            let value ← escapedByte mode high low
            let decoded ← unescape mode rest
            return value :: decoded
        | _ => .error .escape
      else if (mode = .host ∨ mode = .zone) ∧ letter < 0x80 ∧
          shouldEscape mode letter = true then .error .invalidHost
      else do
        let decoded ← unescape mode rest
        return letter :: decoded

def hexDigit (value : UInt8) : UInt8 :=
  if value < 10 then byte '0' + value else byte 'A' + (value - 10)

def escape (mode : Encoding) (whole : Text) : Text :=
  whole.flatMap fun letter =>
    if shouldEscape mode letter then
      [byte '%', hexDigit (letter / 16), hexDigit (letter % 16)]
    else [letter]

def validEncoded (mode : Encoding) (whole : Text) : Bool :=
  whole.all fun letter =>
    (text "!$&'()*+,;=:@[]%").contains letter || !shouldEscape mode letter

/-- A decoded text, and the text that it was written as where that is not the
usual one. -/
def decoded (mode : Encoding) (written : Text) :
    Except Failure (Text × Text) := do
  let plain ← unescape mode written
  return (plain, if escape mode plain = written then [] else written)

/-- The way a decoded text is written. -/
def encoded (mode : Encoding) (plain written : Text) : Text :=
  if written ≠ [] ∧ validEncoded mode written = true ∧
      (unescape mode written).toOption = some plain then written
  else if mode = .path ∧ plain = text "*" then text "*"
  else escape mode plain

/-! ## URLs -/

structure Userinfo where
  username : Text
  password : Option Text
  deriving DecidableEq, Repr

structure URL where
  scheme : Text
  rootless : Text
  user : Option Userinfo
  host : Text
  path : Text
  rawPath : Text
  omitHost : Bool
  forceQuery : Bool
  rawQuery : Text
  fragment : Text
  rawFragment : Text
  deriving DecidableEq, Repr

def URL.empty : URL :=
  ⟨[], [], none, [], [], [], false, false, [], [], []⟩

/-- The scheme and the rest of a text; a first byte that cannot begin a scheme,
or a byte that cannot be in one, means that there is none. -/
def schemeLength : Text → Option Nat
  | [] => none
  | letter :: rest =>
      if letter = byte ':' then some 0
      else if isAlpha letter || isDigit letter ||
          (text "+-.").contains letter then
        (schemeLength rest).map (· + 1)
      else none

def getScheme (whole : Text) : Except Failure (Text × Text) :=
  match whole with
  | [] => .ok ([], [])
  | first :: _ =>
      if isDigit first || (text "+-.").contains first then .ok ([], whole)
      else
        match schemeLength whole with
        | none => .ok ([], whole)
        | some 0 => .error .missingScheme
        | some length =>
            .ok (whole.take length, whole.drop (length + 1))

def validOptionalPort (port : Text) : Bool :=
  match port with
  | [] => true
  | first :: digits => first = byte ':' && digits.all isDigit

/-- The position of the first `%25`. -/
def zoneStart : Text → Option Nat
  | [] => none
  | whole@(_ :: rest) =>
      if (text "%25").isPrefixOf whole then some 0
      else (zoneStart rest).map (· + 1)

/-- A host in brackets: `inside` begins with the bracket and `after` is what
follows the last closing bracket. -/
def parseLiteral (inside after : Text) : Except Failure Text :=
  if validOptionalPort after = false then .error .invalidPort
  else
    match zoneStart inside with
    | some zone => do
        let before ← unescape .host (inside.take zone)
        let name ← unescape .zone (inside.drop zone)
        let last ← unescape .host (byte ']' :: after)
        return before ++ name ++ last
    | none => unescape .host (inside ++ byte ']' :: after)

def parseHost (host : Text) : Except Failure Text :=
  if (text "[").isPrefixOf host then
    match cutLast (byte ']') host with
    | none => .error .missingBracket
    | some (inside, after) => parseLiteral inside after
  else
    match cutLast (byte ':') host with
    | some (_, port) =>
        if validOptionalPort (byte ':' :: port) = false then
          .error .invalidPort
        else unescape .host host
    | none => unescape .host host

def validUserinfo (info : Text) : Bool :=
  info.all fun letter => isAlpha letter || isDigit letter ||
    (text "-._:~!$&'()*+,;=%@").contains letter

def parseUserinfo (info : Text) : Except Failure Userinfo :=
  if validUserinfo info = false then .error .invalidUserinfo
  else if byte ':' ∈ info then do
    let username ← unescape .userPassword (cut (byte ':') info).1
    let password ← unescape .userPassword (cut (byte ':') info).2
    return ⟨username, some password⟩
  else do
    let username ← unescape .userPassword info
    return ⟨username, none⟩

def parseAuthority (authority : Text) :
    Except Failure (Option Userinfo × Text) :=
  match cutLast (byte '@') authority with
  | none => do
      let host ← parseHost authority
      return (none, host)
  | some (info, written) => do
      let host ← parseHost written
      let user ← parseUserinfo info
      return (some user, host)

def URL.withPath (url : URL) (written : Text) : Except Failure URL := do
  let (path, rawPath) ← decoded .path written
  return { url with path := path, rawPath := rawPath }

/-- The part of a URL after its scheme and before its query. -/
def parseHierarchy (url : URL) (rest : Text) : Except Failure URL :=
  if (text "/").isPrefixOf rest then
    if (text "//").isPrefixOf rest ∧
        (url.scheme ≠ [] ∨ ¬ (text "///").isPrefixOf rest) then do
      let authority := (rest.drop 2).takeWhile (· ≠ byte '/')
      let (user, host) ← parseAuthority authority
      { url with user := user, host := host }.withPath
        ((rest.drop 2).dropWhile (· ≠ byte '/'))
    else
      { url with omitHost := url.scheme ≠ [] }.withPath rest
  else if url.scheme ≠ [] then
    .ok { url with rootless := rest }
  else if byte ':' ∈ (cut (byte '/') rest).1 then
    .error .colonInFirstSegment
  else url.withPath rest

/-- A text without its fragment. -/
def parseUnfragmented (whole : Text) : Except Failure URL :=
  if whole.any (fun letter => letter < 32 || letter = 127) then
    .error .controlCharacter
  else if whole = text "*" then
    .ok { URL.empty with path := text "*" }
  else do
    let (scheme, rest) ← getScheme whole
    let (hierarchy, query) := cut (byte '?') rest
    parseHierarchy { URL.empty with
      scheme := scheme.map lowerByte
      rawQuery := query
      forceQuery := query = [] ∧ byte '?' ∈ rest } hierarchy

def parse (whole : Text) : Except Failure URL := do
  let (front, fragment) := cut (byte '#') whole
  let url ← parseUnfragmented front
  let (plain, raw) ← decoded .fragment fragment
  return { url with fragment := plain, rawFragment := raw }

/-! ## Parts of a URL -/

def splitHostPort (hostPort : Text) : Text × Text :=
  let (host, port) :=
    match cutLast (byte ':') hostPort with
    | some (host, port) =>
        if validOptionalPort (byte ':' :: port) then (host, port)
        else (hostPort, [])
    | none => (hostPort, [])
  if (text "[").isPrefixOf host && (text "]").isSuffixOf host then
    ((host.drop 1).dropLast, port)
  else (host, port)

namespace URL

variable (url : URL)

def hostname : Text := (splitHostPort url.host).1

def port : Text := (splitHostPort url.host).2

def escapedPath : Text := encoded .path url.path url.rawPath

def escapedFragment : Text := encoded .fragment url.fragment url.rawFragment

/-- `URL.String` up to the path. -/
def authorityString : Text :=
  if (url.scheme = [] ∧ url.host = [] ∧ url.user = none) ∨
      (url.omitHost = true ∧ url.host = [] ∧ url.user = none) then []
  else
    (if url.host ≠ [] ∨ url.path ≠ [] ∨ url.user ≠ none then text "//"
      else []) ++
      (match url.user with
        | none => []
        | some user => escape .userPassword user.username ++
            (match user.password with
              | none => []
              | some password =>
                  byte ':' :: escape .userPassword password) ++
            [byte '@']) ++
      escape .host url.host

def string : Text :=
  let scheme := if url.scheme = [] then [] else url.scheme ++ [byte ':']
  let hierarchy :=
    if url.rootless ≠ [] then url.rootless
    else
      let path := url.escapedPath
      let before := scheme ++ url.authorityString
      url.authorityString ++
        (if path ≠ [] ∧ path.head? ≠ some (byte '/') ∧ url.host ≠ [] then
          [byte '/'] else []) ++
        (if before = [] ∧ byte ':' ∈ (cut (byte '/') path).1 then text "./"
          else []) ++
        path
  scheme ++ hierarchy ++
    (if url.forceQuery = true ∨ url.rawQuery ≠ [] then
      byte '?' :: url.rawQuery else []) ++
    (if url.fragment ≠ [] then byte '#' :: url.escapedFragment else [])

end URL

/-! ## References -/

/-- One element of a path, after what `resolvePath` has written: the text and
whether the next element is the first one. -/
def resolveElement (written : Text × Bool) (element : Text) : Text × Bool :=
  if element = text "." then (written.1, false)
  else if element = text ".." then
    match cutLast (byte '/') (written.1.drop 1) with
    | none => (text "/", true)
    | some (front, _) => (byte '/' :: front, written.2)
  else (written.1 ++ (if written.2 then [] else text "/") ++ element, false)

def elements (path : Text) : List Text := path.splitOn (byte '/')

def resolvePath (base reference : Text) : Text :=
  let full :=
    match reference with
    | [] => base
    | first :: _ =>
        if first = byte '/' then reference
        else
          match cutLast (byte '/') base with
          | none => reference
          | some (front, _) => front ++ byte '/' :: reference
  if full = [] then []
  else
    let all := elements full
    let written := (all.foldl resolveElement (text "/", true)).1
    let last := all.getLastD []
    let closed :=
      if last = text "." ∨ last = text ".." then written ++ text "/"
      else written
    if (text "//").isPrefixOf closed then closed.drop 1 else closed

/-- `setPath` leaves the path when it fails. -/
def URL.settingPath (url : URL) (written : Text) : URL :=
  match url.withPath written with
  | .ok changed => changed
  | .error _ => url

namespace URL

/-- The reference says where to connect to. -/
def namesHost (reference : URL) : Prop :=
  reference.scheme ≠ [] ∨ reference.host ≠ [] ∨ reference.user ≠ none

instance (reference : URL) : Decidable reference.namesHost :=
  inferInstanceAs (Decidable (_ ∨ _))

def resolveReference (url reference : URL) : URL :=
  let scheme :=
    if reference.scheme = [] then url.scheme else reference.scheme
  if reference.namesHost then
    { reference with scheme := scheme }.settingPath
      (resolvePath reference.escapedPath [])
  else if reference.rootless ≠ [] then
    { reference with scheme := scheme, user := none, host := [], path := [] }
  else
    let inherits := reference.path = [] ∧ reference.forceQuery = false ∧
      reference.rawQuery = []
    let last := if inherits ∧ reference.fragment = [] then url else reference
    let result := { reference with
      scheme := scheme
      rawQuery := if inherits then url.rawQuery else reference.rawQuery
      fragment := last.fragment
      rawFragment := last.rawFragment }
    if reference.path = [] ∧ url.rootless ≠ [] then
      { result with
        rootless := url.rootless, user := none, host := [], path := [] }
    else
      { result with host := url.host, user := url.user }.settingPath
        (resolvePath url.escapedPath reference.escapedPath)

end URL

/-! ## Trimming -/

/-- The bytes that occur in the forms of spaces. -/
def IsSpaceByte (letter : UInt8) : Prop := letter ≤ 32 ∨ 128 ≤ letter

instance (letter : UInt8) : Decidable (IsSpaceByte letter) :=
  inferInstanceAs (Decidable (_ ∨ _))

theorem isSpaceByte_of_spaces :
    ∀ space ∈ spaces, ∀ letter ∈ space, IsSpaceByte letter := by
  decide +kernel

theorem dropFront_parts (dropped : List Text) (rounds : Nat) (whole : Text) :
    ∃ front, whole = front ++ dropFront dropped rounds whole ∧
      ∀ letter ∈ front, ∃ each ∈ dropped, letter ∈ each := by
  induction rounds generalizing whole with
  | zero => exact ⟨[], rfl, by simp⟩
  | succ rounds ih =>
      rw [dropFront]
      cases found : dropped.find? (·.isPrefixOf whole) with
      | none => exact ⟨[], rfl, by simp⟩
      | some each =>
          have member := List.mem_of_find?_eq_some found
          have begins := List.find?_some found
          obtain ⟨rest, same⟩ := List.isPrefixOf_iff_prefix.mp begins
          obtain ⟨front, parts, all⟩ :=
            ih (whole.drop each.length)
          refine ⟨each ++ front, ?_, ?_⟩
          · rw [List.append_assoc, ← parts, ← same, List.drop_left]
          · intro letter inside
            rcases List.mem_append.mp inside with own | later
            · exact ⟨each, member, own⟩
            · exact all letter later

theorem trimSpace_parts (whole : Text) :
    ∃ before after, whole = before ++ trimSpace whole ++ after ∧
      (∀ letter ∈ before, IsSpaceByte letter) ∧
      ∀ letter ∈ after, IsSpaceByte letter := by
  obtain ⟨before, first, beforeSpaces⟩ :=
    dropFront_parts spaces whole.length whole
  obtain ⟨after, second, afterSpaces⟩ :=
    dropFront_parts (spaces.map List.reverse)
      (dropFront spaces whole.length whole).length
      (dropFront spaces whole.length whole).reverse
  refine ⟨before, after.reverse, ?_, ?_, ?_⟩
  · rw [trimSpace, List.append_assoc, ← List.reverse_append, ← second,
      List.reverse_reverse, ← first]
  · intro letter inside
    obtain ⟨space, member, occurs⟩ := beforeSpaces letter inside
    exact isSpaceByte_of_spaces space member letter occurs
  · intro letter inside
    obtain ⟨reversed, member, occurs⟩ :=
      afterSpaces letter (List.mem_reverse.mp inside)
    obtain ⟨space, listed, same⟩ := List.mem_map.mp member
    rw [← same, List.mem_reverse] at occurs
    exact isSpaceByte_of_spaces space listed letter occurs

theorem not_between_of_space {letter first last : UInt8}
    (space : IsSpaceByte letter) (low : 32 < first) (high : last < 128) :
    (decide (first ≤ letter) && decide (letter ≤ last)) = false := by
  rw [Bool.eq_false_iff]
  intro both
  rw [Bool.and_eq_true, decide_eq_true_eq, decide_eq_true_eq] at both
  rcases space with below | above
  · exact absurd (UInt8.lt_of_lt_of_le low both.1) (UInt8.not_lt.mpr below)
  · exact absurd (UInt8.lt_of_le_of_lt both.2 high) (UInt8.not_lt.mpr above)

theorem not_isDigit_of_space {letter : UInt8} (space : IsSpaceByte letter) :
    isDigit letter = false :=
  not_between_of_space space (by decide) (by decide)

theorem not_isAlpha_of_space {letter : UInt8} (space : IsSpaceByte letter) :
    isAlpha letter = false := by
  rw [isAlpha, not_between_of_space space (by decide) (by decide),
    not_between_of_space space (by decide) (by decide)]
  rfl

theorem ne_of_space {letter separator : UInt8} (space : IsSpaceByte letter)
    (between : 32 < separator ∧ separator < 128) : letter ≠ separator := by
  intro same
  rw [← same] at between
  rcases space with low | high
  · exact absurd between.1 (UInt8.not_lt.mpr low)
  · exact absurd between.2 (UInt8.not_lt.mpr high)

theorem not_mem_of_spaces {separator : UInt8} {after : Text}
    (spaces : ∀ letter ∈ after, IsSpaceByte letter)
    (between : 32 < separator ∧ separator < 128) : separator ∉ after := by
  intro member
  exact ne_of_space (spaces separator member) between rfl

/-! ## Cutting a longer text -/

section Longer

variable {separator : UInt8} {whole after : Text}

theorem takeWhile_longer (keep : UInt8 → Bool) (whole after : Text) :
    ∃ more, (whole ++ after).takeWhile keep = whole.takeWhile keep ++ more ∧
      ∀ letter ∈ more, letter ∈ after := by
  rw [List.takeWhile_append]
  split
  · rename_i all
    have same : whole.takeWhile keep = whole :=
      (List.takeWhile_prefix keep).eq_of_length all
    rw [same]
    exact ⟨after.takeWhile keep, rfl,
      fun letter inside => (List.takeWhile_sublist keep).mem inside⟩
  · exact ⟨[], by rw [List.append_nil], by simp⟩

theorem cutLast_longer (absent : separator ∉ after) :
    cutLast separator (whole ++ after) =
      (cutLast separator whole).map fun parts =>
        (parts.1, parts.2 ++ after) := by
  have passes : ∀ letter ∈ after.reverse, decide (letter ≠ separator) = true := by
    intro letter inside
    rw [decide_eq_true_eq]
    intro same
    exact absent (same ▸ List.mem_reverse.mp inside)
  by_cases present : separator ∈ whole
  · rw [cutLast, cutLast, if_pos (List.mem_append_left _ present),
      if_pos present, List.reverse_append,
      List.dropWhile_append_of_pos passes, List.takeWhile_append_of_pos passes,
      List.reverse_append, List.reverse_reverse]
    rfl
  · have missing : separator ∉ whole ++ after := by
      simp [present, absent]
    rw [cutLast, cutLast, if_neg missing, if_neg present]
    rfl

theorem schemeLength_longer (after : Text) {length : Nat}
    (found : schemeLength whole = some length) :
    schemeLength (whole ++ after) = some length ∧ length < whole.length := by
  induction whole generalizing length with
  | nil => cases found
  | cons letter rest ih =>
      rw [List.cons_append, schemeLength]
      rw [schemeLength] at found
      split at found
      · rename_i colon
        rw [if_pos colon]
        cases found
        exact ⟨rfl, Nat.succ_pos _⟩
      · rename_i notColon
        rw [if_neg notColon]
        split at found
        · rename_i allowed
          rw [if_pos allowed]
          obtain ⟨before, earlier, same⟩ := Option.map_eq_some_iff.mp found
          obtain ⟨later, bound⟩ := ih earlier
          rw [later, ← same]
          exact ⟨rfl, Nat.succ_lt_succ bound⟩
        · cases found

theorem getScheme_longer (after : Text) {scheme rest : Text}
    (got : getScheme whole = .ok (scheme, rest)) (named : scheme ≠ []) :
    getScheme (whole ++ after) = .ok (scheme, rest ++ after) := by
  cases whole with
  | nil =>
      cases got
      exact absurd rfl named
  | cons first more =>
      rw [getScheme] at got
      rw [List.cons_append, getScheme]
      split at got
      · cases got
        exact absurd rfl named
      · rename_i begins
        rw [if_neg begins]
        cases found : schemeLength (first :: more) with
        | none =>
            rw [found] at got
            cases got
            exact absurd rfl named
        | some length =>
            obtain ⟨longer, bound⟩ := schemeLength_longer after found
            rw [List.cons_append] at longer
            rw [found] at got
            rw [longer]
            cases length with
            | zero => cases got
            | succ length =>
                cases got
                have taken : (first :: more ++ after).take (length + 1) =
                    (first :: more).take (length + 1) :=
                  List.take_append_of_le_length (Nat.le_of_lt bound)
                have dropped : (first :: more ++ after).drop (length + 2) =
                    (first :: more).drop (length + 2) ++ after :=
                  List.drop_append_of_le_length bound
                rw [List.cons_append] at taken dropped
                rw [← taken, ← dropped]
                rfl

end Longer

/-! ## Hosts with a port -/

section Hosts

variable {host authority after : Text} {read other : Text}

theorem toNat_sub_lt {letter first last : UInt8} {base : Nat}
    (lower : first ≤ letter) (upper : letter ≤ last)
    (width : last.toNat < first.toNat + base) :
    (letter - first).toNat < base := by
  rw [UInt8.toNat_sub_of_le _ _ lower]
  have := UInt8.le_iff_toNat_le.mp lower
  have := UInt8.le_iff_toNat_le.mp upper
  omega

theorem unhex_lt {letter value : UInt8} (hex : unhex letter = some value) :
    value.toNat < 16 := by
  have more : ∀ {first last : UInt8}, first ≤ letter → letter ≤ last →
      last.toNat < first.toNat + 6 → (letter - first + 10).toNat < 16 := by
    intro first last lower upper width
    have small := toNat_sub_lt lower upper width
    have ten : (10 : UInt8).toNat = 10 := rfl
    rw [UInt8.toNat_add, ten]
    omega
  rw [unhex] at hex
  split at hex
  · rename_i digit
    rw [isDigit, Bool.and_eq_true, decide_eq_true_eq, decide_eq_true_eq] at digit
    cases hex
    exact toNat_sub_lt digit.1 digit.2 (by decide)
  · split at hex
    · rename_i lower
      cases hex
      exact more lower.1 lower.2 (by decide)
    · split at hex
      · rename_i upper
        cases hex
        exact more upper.1 upper.2 (by decide)
      · cases hex

/-- In a host only a percent sign and bytes beyond ASCII can be written as
escapes. -/
theorem escapedByte_host {high low value : UInt8}
    (written : escapedByte .host high low = .ok value) :
    value = byte '%' ∨ 128 ≤ value := by
  rw [escapedByte] at written
  split at written
  · rename_i first second hexFirst hexSecond
    have firstSmall := unhex_lt hexFirst
    have secondSmall := unhex_lt hexSecond
    simp only [true_and] at written
    split at written
    · cases written
    · rename_i allowed
      split at written
      · cases written
      · rw [← Except.ok.inj written]
        by_cases percent : first * 16 + second = byte '%'
        · exact .inl percent
        · right
          have high : ¬ first < 8 := fun low => allowed ⟨low, percent⟩
          have eight : (8 : UInt8).toNat = 8 := rfl
          have top : (128 : UInt8).toNat = 128 := rfl
          have sixteen : (16 : UInt8).toNat = 16 := rfl
          rw [UInt8.lt_iff_toNat_lt, eight] at high
          rw [UInt8.le_iff_toNat_le, UInt8.toNat_add, UInt8.toNat_mul, top,
            sixteen]
          omega
  · cases written

theorem colon_mem_of_unescape (decoded : unescape .host host = .ok read)
    (colon : byte ':' ∈ read) : byte ':' ∈ host := by
  induction host using unescape.induct .host generalizing read with
  | case1 =>
      cases decoded
      exact colon
  | case2 high low rest ih =>
      rw [unescape, if_pos rfl] at decoded
      obtain ⟨value, written, more⟩ := Outcome.bind_eq_ok_iff.mp decoded
      obtain ⟨later, decodedRest, same⟩ := Outcome.bind_eq_ok_iff.mp more
      cases same
      have elsewhere : byte ':' ≠ value := by
        intro same
        rw [← same] at written
        rcases escapedByte_host written with percent | high
        · exact absurd percent (by decide)
        · exact absurd high (by decide)
      have inRest := (List.mem_cons.mp colon).resolve_left elsewhere
      have written := ih decodedRest inRest
      exact List.mem_cons_of_mem _
        (List.mem_cons_of_mem _ (List.mem_cons_of_mem _ written))
  | case3 rest short =>
      rw [unescape, if_pos rfl] at decoded
      · cases decoded
      · exact short
  | case4 letter rest notPercent invalid =>
      unfold unescape at decoded
      rw [if_neg notPercent, if_pos invalid] at decoded
      cases decoded
  | case5 letter rest notPercent valid ih =>
      unfold unescape at decoded
      rw [if_neg notPercent, if_neg valid] at decoded
      obtain ⟨later, decodedRest, same⟩ := Outcome.bind_eq_ok_iff.mp decoded
      cases same
      rcases List.mem_cons.mp colon with here | inRest
      · rw [here]
        exact List.mem_cons_self
      · exact List.mem_cons_of_mem _ (ih decodedRest inRest)

theorem port_eq_nil (absent : byte ':' ∉ host) :
    (splitHostPort host).2 = [] := by
  have none : cutLast (byte ':') host = none := by
    rw [cutLast, if_neg absent]
  rw [splitHostPort, none]
  simp only []
  split <;> rfl

theorem spaces_eq_nil_of_digits
    (spaces : ∀ letter ∈ after, IsSpaceByte letter)
    (digits : after.all isDigit = true) : after = [] := by
  cases after with
  | nil => rfl
  | cons first rest =>
      have digit := List.all_eq_true.mp digits first List.mem_cons_self
      rw [not_isDigit_of_space (spaces first List.mem_cons_self)] at digit
      cases digit

theorem validOptionalPort_longer {port : Text}
    (valid : validOptionalPort (port ++ after) = true)
    (spaces : ∀ letter ∈ after, IsSpaceByte letter) : after = [] := by
  cases port with
  | nil =>
      cases after with
      | nil => rfl
      | cons first rest =>
          have colon : first = byte ':' := by
            rw [List.nil_append, validOptionalPort, Bool.and_eq_true,
              decide_eq_true_eq] at valid
            exact valid.1
          exact absurd colon
            (ne_of_space (spaces first List.mem_cons_self) (by decide))
  | cons first digits =>
      rw [List.cons_append, validOptionalPort, Bool.and_eq_true,
        List.all_append, Bool.and_eq_true] at valid
      exact spaces_eq_nil_of_digits spaces valid.2.2

theorem parseHost_longer (first : parseHost host = .ok read)
    (port : (splitHostPort read).2 ≠ [])
    (spaces : ∀ letter ∈ after, IsSpaceByte letter)
    (second : parseHost (host ++ after) = .ok other) : after = [] := by
  have noBracket : byte ']' ∉ after := not_mem_of_spaces spaces (by decide)
  have noColon : byte ':' ∉ after := not_mem_of_spaces spaces (by decide)
  rw [parseHost] at first second
  by_cases literal : (text "[").isPrefixOf host = true
  · have longer : (text "[").isPrefixOf (host ++ after) = true :=
      List.isPrefixOf_iff_prefix.mpr
        ((List.isPrefixOf_iff_prefix.mp literal).trans
          (List.prefix_append host after))
    rw [if_pos literal] at first
    rw [if_pos longer, cutLast_longer noBracket] at second
    cases parts : cutLast (byte ']') host with
    | none =>
        rw [parts] at first
        cases first
    | some both =>
        rw [parts] at second
        simp only [Option.map_some, parseLiteral] at second
        split at second
        · cases second
        · rename_i valid
          rw [Bool.not_eq_false] at valid
          exact validOptionalPort_longer valid spaces
  · have colon : byte ':' ∈ host := by
      by_contra absent
      have none : cutLast (byte ':') host = none := by
        rw [cutLast, if_neg absent]
      rw [if_neg literal, none] at first
      exact port (port_eq_nil fun member =>
        absent (colon_mem_of_unescape first member))
    have shorter : ¬ (text "[").isPrefixOf (host ++ after) = true := by
      cases host with
      | nil => cases colon
      | cons letter rest => simpa [text] using literal
    rw [if_neg shorter, cutLast_longer noColon, cutLast, if_pos colon]
      at second
    simp only [Option.map_some] at second
    split at second
    · cases second
    · rename_i valid
      rw [Bool.not_eq_false, ← List.cons_append] at valid
      exact validOptionalPort_longer valid spaces

theorem parseAuthority_longer {user otherUser : Option Userinfo}
    (first : parseAuthority authority = .ok (user, read))
    (port : (splitHostPort read).2 ≠ [])
    (spaces : ∀ letter ∈ after, IsSpaceByte letter)
    (second : parseAuthority (authority ++ after) = .ok (otherUser, other)) :
    after = [] := by
  have noAt : byte '@' ∉ after := not_mem_of_spaces spaces (by decide)
  rw [parseAuthority] at first second
  rw [cutLast_longer noAt] at second
  cases parts : cutLast (byte '@') authority with
  | none =>
      rw [parts] at first second
      obtain ⟨host, parsed, same⟩ := Outcome.bind_eq_ok_iff.mp first
      obtain ⟨longer, parsedLonger, _⟩ := Outcome.bind_eq_ok_iff.mp second
      cases same
      exact parseHost_longer parsed port spaces parsedLonger
  | some both =>
      rw [parts] at first second
      obtain ⟨host, parsed, more⟩ := Outcome.bind_eq_ok_iff.mp first
      obtain ⟨info, _, same⟩ := Outcome.bind_eq_ok_iff.mp more
      obtain ⟨longer, parsedLonger, _⟩ := Outcome.bind_eq_ok_iff.mp second
      cases same
      exact parseHost_longer parsed port spaces parsedLonger

end Hosts

/-! ## What parsing finds -/

section Parsing

variable {url result other : URL} {written rest whole before after : Text}

theorem withPath_parts (changed : url.withPath written = .ok result) :
    result.scheme = url.scheme ∧ result.host = url.host ∧
      result.rootless = url.rootless := by
  obtain ⟨parts, _, same⟩ := Outcome.bind_eq_ok_iff.mp changed
  cases same
  exact ⟨rfl, rfl, rfl⟩

theorem settingPath_parts :
    (url.settingPath written).scheme = url.scheme ∧
      (url.settingPath written).host = url.host ∧
      (url.settingPath written).rootless = url.rootless := by
  rw [URL.settingPath]
  split
  · rename_i changed did
    exact withPath_parts did
  · exact ⟨rfl, rfl, rfl⟩

/-- The text between the two slashes and the next one. -/
def authorityOf (rest : Text) : Text :=
  (rest.drop 2).takeWhile (· ≠ byte '/')

/-- What the scheme, the host and a rootless part come from. -/
structure Parsed (name rest : Text) (url : URL) : Prop where
  scheme : url.scheme = name.map lowerByte
  host : (text "//").isPrefixOf rest = true → name ≠ [] →
    ∃ user, parseAuthority (authorityOf rest) = .ok (user, url.host)
  slashes : url.host ≠ [] → (text "//").isPrefixOf rest = true
  rootless : url.rootless ≠ [] → url.host = [] ∧ url.scheme ≠ []

theorem parseHierarchy_parts {scheme : Text}
    (lower : url.scheme = scheme.map lowerByte)
    (noHost : url.host = []) (noRootless : url.rootless = [])
    (parsed : parseHierarchy url rest = .ok result) :
    Parsed scheme rest result := by
  have named : url.scheme = [] ↔ scheme = [] := by
    rw [lower, List.map_eq_nil_iff]
  rw [parseHierarchy] at parsed
  split at parsed
  · split at parsed
    · rename_i both
      obtain ⟨parts, authority, set⟩ := Outcome.bind_eq_ok_iff.mp parsed
      obtain ⟨sameScheme, sameHost, sameRootless⟩ := withPath_parts set
      refine ⟨sameScheme.trans lower, ?_, fun _ => both.1, ?_⟩
      · intro _ _
        rw [sameHost]
        exact ⟨parts.1, authority⟩
      · intro some
        exact absurd (sameRootless.trans noRootless) some
    · rename_i notBoth
      obtain ⟨sameScheme, sameHost, sameRootless⟩ := withPath_parts parsed
      refine ⟨sameScheme.trans lower, ?_, ?_, ?_⟩
      · intro slashes some
        exact absurd ⟨slashes, .inl fun none => some (named.mp none)⟩ notBoth
      · intro some
        exact absurd (sameHost.trans noHost) some
      · intro some
        exact absurd (sameRootless.trans noRootless) some
  · rename_i rooted
    have noSlashes : ¬ (text "//").isPrefixOf rest = true := by
      intro slashes
      apply rooted
      exact List.isPrefixOf_iff_prefix.mpr
        (List.IsPrefix.trans ⟨text "/", rfl⟩
          (List.isPrefixOf_iff_prefix.mp slashes))
    split at parsed
    · rename_i some
      cases parsed
      exact ⟨lower, fun slashes => absurd slashes noSlashes,
        fun host => absurd noHost host, fun _ => ⟨noHost, some⟩⟩
    · split at parsed
      · cases parsed
      · obtain ⟨sameScheme, sameHost, sameRootless⟩ := withPath_parts parsed
        exact ⟨sameScheme.trans lower,
          fun slashes => absurd slashes noSlashes,
          fun host => absurd (sameHost.trans noHost) host,
          fun some => absurd (sameRootless.trans noRootless) some⟩

theorem parse_parts (parsed : parse whole = .ok url) :
    ∃ scheme rest, getScheme (cut (byte '#') whole).1 = .ok (scheme, rest) ∧
      Parsed scheme (cut (byte '?') rest).1 url := by
  obtain ⟨front, unfragmented, more⟩ := Outcome.bind_eq_ok_iff.mp parsed
  obtain ⟨fragment, _, same⟩ := Outcome.bind_eq_ok_iff.mp more
  cases same
  rw [parseUnfragmented] at unfragmented
  split at unfragmented
  · cases unfragmented
  · split at unfragmented
    · rename_i star
      cases unfragmented
      have all : (cut (byte '#') whole).1 = text "*" := star
      refine ⟨[], text "*", ?_, rfl, ?_, ?_, ?_⟩
      · rw [all]
        rfl
      · intro _ some
        exact absurd rfl some
      · intro some
        exact absurd rfl some
      · intro some
        exact absurd rfl some
    · obtain ⟨parts, got, hierarchy⟩ :=
        Outcome.bind_eq_ok_iff.mp unfragmented
      refine ⟨parts.1, parts.2, got, ?_⟩
      have found := parseHierarchy_parts rfl rfl rfl hierarchy
      exact ⟨found.scheme, found.host, found.slashes, found.rootless⟩

theorem getScheme_of_space {letter : UInt8} (space : IsSpaceByte letter) :
    getScheme (letter :: rest) = .ok ([], letter :: rest) := by
  have notDigit := not_isDigit_of_space space
  have notAlpha := not_isAlpha_of_space space
  have notColon : letter ≠ byte ':' := ne_of_space space (by decide)
  have notMark : (text "+-.").contains letter = false := by
    rw [List.contains_eq_mem, decide_eq_false_iff_not]
    intro member
    have between : ∀ mark ∈ text "+-.", 32 < mark ∧ mark < 128 := by
      decide +kernel
    exact ne_of_space space (between letter member) rfl
  rw [getScheme, notDigit, notMark, schemeLength, if_neg notColon, notDigit,
    notMark, notAlpha]
  rfl

theorem authorityOf_longer
    (slashes : (text "//").isPrefixOf written = true) (after : Text) :
    ∃ more, authorityOf (written ++ after) = authorityOf written ++ more ∧
      ∀ letter ∈ more, letter ∈ after := by
  have long : 2 ≤ written.length :=
    (List.isPrefixOf_iff_prefix.mp slashes).length_le
  rw [authorityOf, authorityOf, List.drop_append_of_le_length long]
  exact takeWhile_longer _ _ _

/-- Spaces around a URL that names a host and a port do not change them: the
text with the spaces is refused, has no scheme, or has the same host. -/
theorem parse_of_trimSpace
    (trimmed : parse (trimSpace whole) = .ok url) (named : url.scheme ≠ [])
    (port : url.port ≠ []) (parsed : parse whole = .ok other)
    (otherNamed : other.scheme ≠ []) :
    other.scheme = url.scheme ∧ other.host = url.host := by
  obtain ⟨before, after, parts, beforeSpaces, afterSpaces⟩ :=
    trimSpace_parts whole
  obtain ⟨scheme, rest, got, found⟩ := parse_parts trimmed
  obtain ⟨otherScheme, otherRest, otherGot, otherFound⟩ := parse_parts parsed
  have written : ∀ {name : Text} {result : URL},
      result.scheme = name.map lowerByte → result.scheme ≠ [] → name ≠ [] := by
    intro name result lower some none
    rw [none] at lower
    exact some lower
  have schemeSome := written found.scheme named
  have otherSome := written otherFound.scheme otherNamed
  have none : before = [] := by
    cases before with
    | nil => rfl
    | cons first more =>
        have space := beforeSpaces first List.mem_cons_self
        have notSharp : first ≠ byte '#' := ne_of_space space (by decide)
        rw [parts, cut, List.cons_append, List.cons_append,
          List.takeWhile_cons_of_pos (by simpa using notSharp),
          getScheme_of_space space] at otherGot
        cases otherGot
        exact absurd rfl otherSome
  rw [none, List.nil_append] at parts
  obtain ⟨more, cutMore, moreAfter⟩ := takeWhile_longer
    (· ≠ byte '#') (trimSpace whole) after
  rw [← parts] at cutMore
  have longer := getScheme_longer more got schemeSome
  have same : (cut (byte '#') whole).1 =
      (cut (byte '#') (trimSpace whole)).1 ++ more := cutMore
  rw [← same, otherGot] at longer
  cases longer
  obtain ⟨later, cutLater, laterMore⟩ := takeWhile_longer
    (· ≠ byte '?') rest more
  have hierarchy : (cut (byte '?') (rest ++ more)).1 =
      (cut (byte '?') rest).1 ++ later := cutLater
  rw [hierarchy] at otherFound
  have someHost : url.host ≠ [] := by
    intro empty
    rw [URL.port, empty] at port
    exact port rfl
  have slashes := found.slashes someHost
  have otherSlashes : (text "//").isPrefixOf
      ((cut (byte '?') rest).1 ++ later) = true :=
    List.isPrefixOf_iff_prefix.mpr
      ((List.isPrefixOf_iff_prefix.mp slashes).trans
        (List.prefix_append _ later))
  obtain ⟨user, authority⟩ := found.host slashes schemeSome
  obtain ⟨otherUser, otherAuthority⟩ := otherFound.host otherSlashes schemeSome
  obtain ⟨last, authorityMore, lastLater⟩ := authorityOf_longer slashes later
  rw [authorityMore] at otherAuthority
  have lastSpaces : ∀ letter ∈ last, IsSpaceByte letter :=
    fun letter member => afterSpaces letter
      (moreAfter letter (laterMore letter (lastLater letter member)))
  have nothing := parseAuthority_longer authority port lastSpaces
    otherAuthority
  rw [nothing, List.append_nil, authority] at otherAuthority
  have host := (Prod.mk.inj (Except.ok.inj otherAuthority)).2
  exact ⟨otherFound.scheme.trans found.scheme.symm, host.symm⟩

end Parsing

/-! ## What a reference keeps -/

section References

variable {url reference : URL}

theorem resolveReference_of_namesHost (names : reference.namesHost) :
    (url.resolveReference reference).scheme =
        (if reference.scheme = [] then url.scheme else reference.scheme) ∧
      (url.resolveReference reference).host = reference.host ∧
      (url.resolveReference reference).rootless = reference.rootless := by
  rw [URL.resolveReference, if_pos names]
  exact settingPath_parts

theorem resolveReference_of_relative (relative : ¬ reference.namesHost)
    (rooted : reference.rootless = []) (urlRooted : url.rootless = []) :
    (url.resolveReference reference).scheme = url.scheme ∧
      (url.resolveReference reference).host = url.host ∧
      (url.resolveReference reference).rootless = [] := by
  have noScheme : reference.scheme = [] := by
    by_contra some
    exact relative (.inl some)
  rw [URL.resolveReference, if_neg relative, if_neg (not_not.mpr rooted)]
  have notRootless : ¬ (reference.path = [] ∧ url.rootless ≠ []) :=
    fun both => both.2 urlRooted
  simp only [if_neg notRootless]
  refine ⟨settingPath_parts.1.trans ?_, settingPath_parts.2.1,
    settingPath_parts.2.2.trans rooted⟩
  rw [if_pos noScheme]

end References

end NetURL
