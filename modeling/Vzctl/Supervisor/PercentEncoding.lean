import Vzctl.Supervisor.RestTraps

/-!
# Percent-encoded targets

Clients write path segments, query keys and query values as their UTF-8
octets, percent-encoded.  `percentDecode` makes one character of every octet,
which is the encoded text exactly where all octets are ASCII.
-/

namespace Vzctl

open Positions

namespace RestHTTP

/-! ## Clients -/

/-- The octets that `encodeURIComponent` leaves as they are. -/
def unescaped (octet : UInt8) : Bool :=
  (0x41 ≤ octet && octet ≤ 0x5A) || (0x61 ≤ octet && octet ≤ 0x7A) ||
    (0x30 ≤ octet && octet ≤ 0x39) ||
      [0x2D, 0x5F, 0x2E, 0x21, 0x7E, 0x2A, 0x27, 0x28, 0x29].contains octet

def octetCharacter (octet : UInt8) : Char := Char.ofNat octet.toNat

def hexDigit (digit : Nat) : String :=
  (if digit < 10 then Char.ofNat (0x30 + digit)
    else Char.ofNat (0x41 + digit - 10)).toString

def encodeOctet (octet : UInt8) : Text :=
  if unescaped octet then [(octetCharacter octet).toString]
  else ["%", hexDigit (octet.toNat / 16), hexDigit (octet.toNat % 16)]

def octetsOf (value : String) : List UInt8 := value.toUTF8.data.toList

def encodeURIComponent (value : String) : Text :=
  (octetsOf value).flatMap encodeOctet

def encodedPair (pair : String × String) : Text :=
  encodeURIComponent pair.1 ++ "=" :: encodeURIComponent pair.2

def encodedPath (segments : List String) : Text :=
  "/" :: ["/"].intercalate (segments.map encodeURIComponent)

def encodedTarget (segments : List String) (pairs : List (String × String)) :
    Text :=
  encodedPath segments ++
    if pairs = [] then [] else "?" :: ["&"].intercalate (pairs.map encodedPair)

/-! ## What comes back -/

/-- The key and the value that a pair of the query string is read as. -/
def readEntry (pair : Text) : Except Violation (String × String) := do
  let pieces := pairPieces pair
  let first ← element pieces 0
  let key ← percentDecode first
  let value ←
    if 1 < pieces.length then do
      let second ← element pieces 1
      percentDecode second
    else pure ""
  pure (key, value)

def queryOf (unicode : Unicode) (pairs : List (String × String)) :
    Dictionary String :=
  pairs.foldl (fun query pair => query.insert (unicode.canonical pair.1) pair.2)
    ∅

def entriesOf (target : Text) : Except Violation (List (String × String)) :=
  match target.findIdx? (· = "?") with
  | none => pure []
  | some q => (queryPairs (target.drop (q + 1))).mapM readEntry

/-- The segments, the keys and the values come back, and the query is the map
that they make. -/
def Survives (unicode : Unicode) (segments : List String)
    (pairs : List (String × String)) : Prop :=
  ∃ path, splitTarget unicode (encodedTarget segments pairs) =
      .ok (path, queryOf unicode pairs) ∧
    entriesOf (encodedTarget segments pairs) = .ok pairs ∧
    pathSegments path = .ok segments

def IsASCII (value : String) : Prop := ∀ octet ∈ octetsOf value, octet < 0x80

/-! ## Encoded octets -/

def separators : List String := ["/", "?", "&", "=", "+"]

theorem encodeOctet_ofNat : ∀ number < 256,
    ∀ character ∈ encodeOctet (UInt8.ofNat number),
      character ∉ separators := by
  decide +kernel

theorem encodeOctet_plain (octet : UInt8) :
    ∀ character ∈ encodeOctet octet, character ∉ separators := by
  have checked := encodeOctet_ofNat octet.toNat octet.toNat_lt
  rwa [UInt8.ofNat_toNat] at checked

theorem encodeURIComponent_plain (value : String) :
    ∀ character ∈ encodeURIComponent value, character ∉ separators := by
  intro character member
  obtain ⟨octet, _, inside⟩ := List.mem_flatMap.mp member
  exact encodeOctet_plain octet character inside

theorem hexDigits_ofNat : ∀ number < 256,
    parseByte [hexDigit (number / 16), hexDigit (number % 16)] =
      some (number : Int) := by
  decide +kernel

theorem unescaped_ofNat : ∀ number < 256,
    unescaped (UInt8.ofNat number) = true →
      (octetCharacter (UInt8.ofNat number)).toString ≠ "%" := by
  decide +kernel

theorem unescaped_plain {octet : UInt8} (plain : unescaped octet = true) :
    (octetCharacter octet).toString ≠ "%" ∧
      (octetCharacter octet).toString ≠ "+" := by
  have checked := unescaped_ofNat octet.toNat octet.toNat_lt
  rw [UInt8.ofNat_toNat] at checked
  have apart := encodeOctet_plain octet (octetCharacter octet).toString
    (by simp [encodeOctet, plain])
  refine ⟨checked plain, ?_⟩
  intro same
  rw [same] at apart
  exact apart (by decide)

/-! ## Decoding -/

theorem escapeAt_escape (front back : Text) (octet : UInt8) :
    escapeAt (front ++ (["%", hexDigit (octet.toNat / 16),
        hexDigit (octet.toNat % 16)] ++ back)) "%" front.length =
      .ok (some (octet.toNat : Int)) := by
  have digits := hexDigits_ofNat octet.toNat octet.toNat_lt
  generalize hexDigit (octet.toNat / 16) = high at digits ⊢
  generalize hexDigit (octet.toNat % 16) = low at digits ⊢
  have long : front.length + 3 ≤
      (front ++ (["%", high, low] ++ back)).length := by
    simp
  have limited : (indexLimited (front ++ (["%", high, low] ++ back))
      front.length 2).isSome = true := by
    rw [indexLimited, if_pos (by omega)]
    rfl
  have hex : closedSlice (front ++ (["%", high, low] ++ back))
      (front.length + 1) (front.length + 2) = .ok [high, low] := by
    have gathered : front ++ (["%", high, low] ++ back) =
        (front ++ ["%", high, low]) ++ back := by
      simp
    rw [closedSlice_of_lt (by omega) (by omega), gathered,
      List.take_left' (by simp), List.drop_length_add_append]
    rfl
  have past : indexOffset (front ++ (["%", high, low] ++ back))
      front.length 3 = .ok (front.length + 3) := indexOffset_of_le long
  rw [escapeAt, if_pos ⟨rfl, limited⟩, indexAfter_of_lt (by omega),
    indexOffset_of_le (by omega)]
  change (closedSlice _ (front.length + 1) (front.length + 2) >>= _) = _
  simp only [hex, Bind.bind, Except.bind, digits, past]
  rfl

theorem escapeAt_plain {value : Text} {character : String} {i : Nat}
    (plain : character ≠ "%") : escapeAt value character i = .ok none := by
  rw [escapeAt, if_neg fun both => plain both.1]
  rfl

theorem element_append (front back : Text) (character : String) :
    element (front ++ character :: back) front.length = .ok character := by
  simp [element]

theorem percentDecodeFrom_encoded (octets : List UInt8) (front : Text)
    (result : String) :
    ∃ decoded, percentDecodeFrom (front ++ octets.flatMap encodeOctet) result
        front.length = .ok decoded ∧
      decoded.toList = result.toList ++ octets.map octetCharacter := by
  induction octets generalizing front result with
  | nil =>
      refine ⟨result, ?_, by simp⟩
      rw [percentDecodeFrom, if_neg (by simp)]
      rfl
  | cons octet rest ih =>
      by_cases plain : unescaped octet = true
      · have apart := unescaped_plain plain
        have written : front ++ (octet :: rest).flatMap encodeOctet =
            front ++ (octetCharacter octet).toString ::
              rest.flatMap encodeOctet := by
          simp [encodeOctet, plain]
        have moved : front ++ (octetCharacter octet).toString ::
              rest.flatMap encodeOctet =
            (front ++ [(octetCharacter octet).toString]) ++
              rest.flatMap encodeOctet := by
          simp
        obtain ⟨decoded, performed, text⟩ := ih
          (front ++ [(octetCharacter octet).toString])
          (result ++ (octetCharacter octet).toString)
        refine ⟨decoded, ?_, ?_⟩
        · rw [written, percentDecodeFrom, if_pos (by simp), element_append]
          change (escapeAt _ _ _ >>= _) = _
          rw [escapeAt_plain apart.1]
          change (indexAfter _ front.length >>= _) = _
          rw [indexAfter_of_lt (by simp)]
          change percentDecodeFrom _ (result ++
            if (octetCharacter octet).toString = "+" then " "
            else (octetCharacter octet).toString) (front.length + 1) = _
          rw [if_neg apart.2, moved]
          simpa using performed
        · simp [text, Char.toString]
      · have written : front ++ (octet :: rest).flatMap encodeOctet =
            front ++ (["%", hexDigit (octet.toNat / 16),
              hexDigit (octet.toNat % 16)] ++ rest.flatMap encodeOctet) := by
          simp [encodeOctet, plain]
        have moved : front ++ (["%", hexDigit (octet.toNat / 16),
              hexDigit (octet.toNat % 16)] ++ rest.flatMap encodeOctet) =
            (front ++ ["%", hexDigit (octet.toNat / 16),
              hexDigit (octet.toNat % 16)]) ++ rest.flatMap encodeOctet := by
          simp
        obtain ⟨decoded, performed, text⟩ := ih
          (front ++ ["%", hexDigit (octet.toNat / 16),
            hexDigit (octet.toNat % 16)])
          (result.push (octetCharacter octet))
        refine ⟨decoded, ?_, ?_⟩
        · have escaped := escapeAt_escape front (rest.flatMap encodeOctet) octet
          rw [written, percentDecodeFrom, if_pos (by simp)]
          rw [List.cons_append, element_append]
          change (escapeAt _ "%" front.length >>= _) = _
          rw [← List.cons_append, escaped]
          change percentDecodeFrom _ (result.push (octetCharacter octet))
            (front.length + 3) = _
          rw [moved]
          simpa using performed
        · simp [text]

/-- The text with one character for every octet. -/
def octetText (value : String) : String :=
  String.ofList ((octetsOf value).map octetCharacter)

theorem percentDecode_encodeURIComponent (value : String) :
    percentDecode (encodeURIComponent value) = .ok (octetText value) := by
  obtain ⟨decoded, performed, text⟩ :=
    percentDecodeFrom_encoded (octetsOf value) [] ""
  have same : decoded = octetText value := by
    apply String.toList_injective
    rw [text]
    simp [octetText]
  rw [percentDecode, encodeURIComponent, ← same]
  exact performed

/-! ## ASCII -/

theorem octetsOf_eq (value : String) :
    octetsOf value = value.toList.flatMap String.utf8EncodeChar := by
  have encoded := String.utf8Encode_toList (b := value)
  rw [octetsOf, String.toUTF8, ← encoded, List.utf8Encode,
    List.toList_data_toByteArray]

theorem ascii_encodeChar_iff (character : Char) :
    (∀ octet ∈ String.utf8EncodeChar character, octet < 0x80) ↔
      character.utf8Size = 1 := by
  have continuation : ∀ bits : UInt8, ¬ bits ||| 0x80 < 0x80 := by
    intro bits small
    have most : 0x80 ≤ bits.toNat ||| 0x80 := Nat.right_le_or
    rw [UInt8.lt_iff_toNat_lt, UInt8.toNat_or] at small
    exact absurd small (Nat.not_lt.mpr most)
  constructor
  · intro ascii
    rcases character.utf8Size_eq with one | two | three | four
    · exact one
    · rw [String.utf8EncodeChar_eq_cons_cons two] at ascii
      have last := (List.forall_mem_cons.mp ascii).2
      exact absurd (last _ List.mem_cons_self) (continuation _)
    · rw [String.utf8EncodeChar_eq_cons_cons_cons three] at ascii
      have last := (List.forall_mem_cons.mp ascii).2
      exact absurd (last _ List.mem_cons_self) (continuation _)
    · rw [String.utf8EncodeChar_eq_cons_cons_cons_cons four] at ascii
      have last := (List.forall_mem_cons.mp ascii).2
      exact absurd (last _ List.mem_cons_self) (continuation _)
  · intro one octet member
    have small := Char.utf8Size_eq_one_iff.mp one
    rw [String.utf8EncodeChar_eq_singleton one] at member
    rw [List.mem_singleton.mp member, UInt8.lt_iff_toNat_lt]
    rw [UInt32.le_iff_toNat_le] at small
    have fits : character.val.toNat ≤ 127 := small
    rw [UInt32.toNat_toUInt8]
    change _ < 128
    omega

theorem decoded_of_single {character : Char} (one : character.utf8Size = 1) :
    (String.utf8EncodeChar character).map octetCharacter = [character] := by
  have small := Char.utf8Size_eq_one_iff.mp one
  rw [UInt32.le_iff_toNat_le] at small
  have fits : character.val.toNat ≤ 127 := small
  rw [String.utf8EncodeChar_eq_singleton one, List.map_singleton,
    octetCharacter, UInt32.toNat_toUInt8, Nat.mod_eq_of_lt (by omega)]
  exact congrArg (fun made => [made]) character.ofNat_toNat

theorem isASCII_iff (value : String) :
    IsASCII value ↔
      ∀ character ∈ value.toList, character.utf8Size = 1 := by
  rw [IsASCII, octetsOf_eq]
  constructor
  · intro ascii character member
    apply (ascii_encodeChar_iff character).mp
    intro octet inside
    exact ascii octet (List.mem_flatMap.mpr ⟨character, member, inside⟩)
  · intro single octet member
    obtain ⟨character, inside, encoded⟩ := List.mem_flatMap.mp member
    exact (ascii_encodeChar_iff character).mpr (single character inside)
      octet encoded

theorem length_le_encoded (characters : List Char) :
    characters.length ≤
      (characters.flatMap String.utf8EncodeChar).length := by
  induction characters with
  | nil => simp
  | cons character rest ih =>
      have positive := character.utf8Size_pos
      simp only [List.flatMap_cons, List.length_append, List.length_cons,
        String.length_utf8EncodeChar]
      omega

theorem decoded_eq_iff (characters : List Char) :
    (characters.flatMap String.utf8EncodeChar).map octetCharacter =
        characters ↔
      ∀ character ∈ characters, character.utf8Size = 1 := by
  constructor
  · intro same
    have length := congrArg List.length same
    rw [List.length_map] at length
    clear same
    induction characters with
    | nil => simp
    | cons character rest ih =>
        have positive := character.utf8Size_pos
        have more := length_le_encoded rest
        simp only [List.flatMap_cons, List.length_append, List.length_cons,
          String.length_utf8EncodeChar] at length
        have one : character.utf8Size = 1 := by omega
        exact List.forall_mem_cons.mpr ⟨one, ih (by omega)⟩
  · intro single
    induction characters with
    | nil => rfl
    | cons character rest ih =>
        have inside := List.forall_mem_cons.mp single
        rw [List.flatMap_cons, List.map_append, decoded_of_single inside.1,
          ih inside.2, List.singleton_append]

theorem octetText_eq_iff (value : String) :
    octetText value = value ↔ IsASCII value := by
  rw [isASCII_iff, ← decoded_eq_iff, ← octetsOf_eq, octetText]
  constructor
  · intro same
    have characters := congrArg String.toList same
    rwa [String.toList_ofList] at characters
  · intro same
    rw [same, String.ofList_toList]

/-! ## Targets -/

theorem encodeURIComponent_ne_nil {value : String} (nonempty : value ≠ "") :
    encodeURIComponent value ≠ [] := by
  intro nothing
  have decoded := percentDecode_encodeURIComponent value
  rw [nothing] at decoded
  have emptyText : octetText value = "" := by
    have performed : percentDecode [] = .ok "" := by
      rw [percentDecode, percentDecodeFrom, if_neg (by simp)]
      rfl
    rw [performed] at decoded
    exact (Except.ok.inj decoded).symm
  have noOctets : octetsOf value = [] := by
    have characters := congrArg String.toList emptyText
    rw [octetText, String.toList_ofList] at characters
    simpa using characters
  have fewer := length_le_encoded value.toList
  rw [← octetsOf_eq, noOctets] at fewer
  have noCharacters : value.toList = [] := by
    simpa using fewer
  exact nonempty (by simpa using noCharacters)

theorem apart_of_plain {text : Text} {separator : String}
    (plain : ∀ character ∈ text, character ∉ separators)
    (separates : separator ∈ separators) :
    ∀ character ∈ text, decide (character = separator) = false := by
  intro character member
  apply decide_eq_false
  intro same
  rw [same] at member
  exact plain separator member separates

theorem separates_self (separator : String) :
    decide (separator = separator) = true :=
  decide_eq_true rfl

theorem pathSegments_encodedPath {segments : List String}
    (nonempty : ∀ segment ∈ segments, segment ≠ "") :
    pathSegments (encodedPath segments) = .ok (segments.map octetText) := by
  have blocks : split (· = "/") none true (encodedPath segments) =
      segments.map encodeURIComponent := by
    have inner := @split_intercalate String (· = "/") "/" (separates_self "/")
      (segments.map encodeURIComponent) ?_ ?_
    · rw [split] at inner
      rw [encodedPath, split, splitting, if_pos (decide_eq_true rfl)]
      simpa using inner
    · intro block member
      obtain ⟨segment, inside, same⟩ := List.mem_map.mp member
      rw [← same]
      exact encodeURIComponent_ne_nil (nonempty segment inside)
    · intro block member
      obtain ⟨segment, _, same⟩ := List.mem_map.mp member
      rw [← same]
      exact apart_of_plain (encodeURIComponent_plain segment)
        (by simp [separators])
  have decoded : ∀ values : List String,
      (values.map encodeURIComponent).mapM percentDecode =
        .ok (values.map octetText) := by
    intro values
    induction values with
    | nil => rfl
    | cons value rest ih =>
        rw [List.map_cons, List.mapM_cons, percentDecode_encodeURIComponent,
          ih]
        rfl
  rw [pathSegments, blocks, decoded]

/-- A key and a value with one character for every octet. -/
def octetPair (pair : String × String) : String × String :=
  (octetText pair.1, octetText pair.2)

theorem readEntry_encodedPair {pair : String × String}
    (nonempty : pair.1 ≠ "") :
    readEntry (encodedPair pair) = .ok (octetPair pair) := by
  have pieces : pairPieces (encodedPair pair) =
      if encodeURIComponent pair.2 = [] then [encodeURIComponent pair.1]
      else [encodeURIComponent pair.1, encodeURIComponent pair.2] := by
    refine @split_once String (· = "=") "=" (separates_self "=") _
      (encodeURIComponent_ne_nil nonempty) ?_ _
    exact apart_of_plain (encodeURIComponent_plain pair.1)
      (by simp [separators])
  have key := percentDecode_encodeURIComponent pair.1
  have value := percentDecode_encodeURIComponent pair.2
  by_cases bare : encodeURIComponent pair.2 = []
  · have emptyValue : octetText pair.2 = "" := by
      by_contra filled
      have some : pair.2 ≠ "" := by
        intro same
        rw [same] at filled
        exact filled rfl
      exact encodeURIComponent_ne_nil some bare
    rw [if_pos bare] at pieces
    rw [readEntry, pieces]
    change (percentDecode (encodeURIComponent pair.1) >>= fun key =>
      .ok (key, "")) = _
    rw [key, octetPair, emptyValue]
    rfl
  · rw [if_neg bare] at pieces
    rw [readEntry, pieces]
    change (percentDecode (encodeURIComponent pair.1) >>= fun key =>
      percentDecode (encodeURIComponent pair.2) >>= fun value =>
        .ok (key, value)) = _
    rw [key, value]
    rfl

theorem readPair_encodedPair (unicode : Unicode)
    (query : Dictionary String) {pair : String × String}
    (nonempty : pair.1 ≠ "") :
    readPair unicode query (encodedPair pair) =
      .ok (query.insert (unicode.canonical (octetPair pair).1)
        (octetPair pair).2) := by
  have performed : readPair unicode query (encodedPair pair) =
      (readEntry (encodedPair pair) >>= fun entry =>
        .ok (query.insert (unicode.canonical entry.1) entry.2)) := by
    rw [readPair, readEntry]
    simp only [bind_assoc]
    split
    · simp only [bind_assoc, pure_bind]
      rfl
    · rfl
  rw [performed, readEntry_encodedPair nonempty]
  rfl

theorem queryPairs_encoded {pairs : List (String × String)} :
    queryPairs (["&"].intercalate (pairs.map encodedPair)) =
      pairs.map encodedPair := by
  refine @split_intercalate String (· = "&") "&" (separates_self "&") _ ?_ ?_
  · intro block member
    obtain ⟨pair, _, same⟩ := List.mem_map.mp member
    rw [← same, encodedPair]
    simp
  · intro block member
    obtain ⟨pair, _, same⟩ := List.mem_map.mp member
    have apart : "&" ∈ separators := by simp [separators]
    intro tested inside
    rw [← same, encodedPair, List.mem_append, List.mem_cons] at inside
    rcases inside with front | equals | back
    · exact apart_of_plain (encodeURIComponent_plain pair.1) apart tested front
    · rw [equals]
      decide
    · exact apart_of_plain (encodeURIComponent_plain pair.2) apart tested back

theorem encodedPath_plain (segments : List String) :
    ∀ character ∈ encodedPath segments, character ≠ "?" := by
  have joined : ∀ character ∈
      ["/"].intercalate (segments.map encodeURIComponent),
      character ≠ "?" := by
    induction segments with
    | nil => simp
    | cons segment rest ih =>
        have inside : ∀ character ∈ encodeURIComponent segment,
            character ≠ "?" := by
          intro character member same
          rw [same] at member
          exact encodeURIComponent_plain segment "?" member
            (by simp [separators])
        cases rest with
        | nil => simpa using inside
        | cons next others =>
            rw [List.map_cons] at ih
            rw [List.map_cons, List.map_cons, List.intercalate_cons_cons]
            intro character member
            rw [List.mem_append, List.mem_append] at member
            rcases member with (front | slash) | back
            · exact inside character front
            · rw [List.mem_singleton.mp slash]
              decide
            · exact ih character back
  intro character member
  rcases List.mem_cons.mp member with slash | inside
  · rw [slash]
    decide
  · exact joined character inside

theorem findIdx?_encodedPath (segments : List String) (query : Text) :
    (encodedPath segments ++ "?" :: query).findIdx? (· = "?") =
      some (encodedPath segments).length := by
  rw [List.findIdx?_append, List.findIdx?_eq_none_iff.mpr ?_]
  · simp [List.findIdx?_cons]
  · intro character member
    exact decide_eq_false (encodedPath_plain segments character member)

theorem splitTarget_encodedTarget (unicode : Unicode)
    (segments : List String) {pairs : List (String × String)}
    (nonempty : ∀ pair ∈ pairs, pair.1 ≠ "") :
    splitTarget unicode (encodedTarget segments pairs) =
      .ok (encodedPath segments, queryOf unicode (pairs.map octetPair)) := by
  have read : ∀ (entries : List (String × String))
      (query : Dictionary String), (∀ entry ∈ entries, entry.1 ≠ "") →
      (entries.map encodedPair).foldlM (readPair unicode) query =
        .ok ((entries.map octetPair).foldl (fun query entry =>
          query.insert (unicode.canonical entry.1) entry.2) query) := by
    intro entries
    induction entries with
    | nil => intros; rfl
    | cons entry rest ih =>
        intro query keys
        have inside := List.forall_mem_cons.mp keys
        rw [List.map_cons, List.foldlM_cons,
          readPair_encodedPair unicode query inside.1]
        exact ih _ inside.2
  by_cases noPairs : pairs = []
  · have absent : (encodedPath segments).findIdx? (· = "?") = none := by
      rw [List.findIdx?_eq_none_iff]
      intro character member
      exact decide_eq_false (encodedPath_plain segments character member)
    rw [encodedTarget, if_pos noPairs, List.append_nil, splitTarget, absent,
      noPairs]
    rfl
  · rw [encodedTarget, if_neg noPairs, splitTarget, findIdx?_encodedPath]
    change (slice _ 0 (encodedPath segments).length >>= _) = _
    rw [slice_of_le (Nat.zero_le _) (by simp), List.drop_zero,
      List.take_left' rfl]
    change (indexAfter _ (encodedPath segments).length >>= _) = _
    rw [indexAfter_of_lt (by simp)]
    change (slice _ ((encodedPath segments).length + 1) _ >>= _) = _
    rw [slice_to_end (by simp), List.drop_length_add_append, List.drop_one,
      List.tail_cons]
    change ((queryPairs _).foldlM (readPair unicode) ∅ >>= _) = _
    rw [queryPairs_encoded, read pairs ∅ nonempty]
    rfl

theorem entriesOf_encodedTarget (segments : List String)
    {pairs : List (String × String)}
    (nonempty : ∀ pair ∈ pairs, pair.1 ≠ "") :
    entriesOf (encodedTarget segments pairs) =
      .ok (pairs.map octetPair) := by
  have read : ∀ entries : List (String × String),
      (∀ entry ∈ entries, entry.1 ≠ "") →
      (entries.map encodedPair).mapM readEntry =
        .ok (entries.map octetPair) := by
    intro entries
    induction entries with
    | nil => intros; rfl
    | cons entry rest ih =>
        intro keys
        have inside := List.forall_mem_cons.mp keys
        rw [List.map_cons, List.mapM_cons, readEntry_encodedPair inside.1,
          ih inside.2]
        rfl
  by_cases noPairs : pairs = []
  · have absent : (encodedPath segments).findIdx? (· = "?") = none := by
      rw [List.findIdx?_eq_none_iff]
      intro character member
      exact decide_eq_false (encodedPath_plain segments character member)
    rw [encodedTarget, if_pos noPairs, List.append_nil, entriesOf, absent,
      noPairs]
    rfl
  · rw [encodedTarget, if_neg noPairs, entriesOf, findIdx?_encodedPath]
    change (queryPairs (List.drop _ _)).mapM readEntry = _
    rw [List.drop_length_add_append, List.drop_one, List.tail_cons,
      queryPairs_encoded, read pairs nonempty]

theorem map_octetText_eq_iff (values : List String) :
    values.map octetText = values ↔ ∀ value ∈ values, IsASCII value := by
  induction values with
  | nil => simp
  | cons value rest ih =>
      rw [List.map_cons, List.cons.injEq, octetText_eq_iff,
        ih, List.forall_mem_cons]

theorem map_octetPair_eq_iff (pairs : List (String × String)) :
    pairs.map octetPair = pairs ↔
      ∀ pair ∈ pairs, IsASCII pair.1 ∧ IsASCII pair.2 := by
  induction pairs with
  | nil => simp
  | cons pair rest ih =>
      rw [List.map_cons, List.cons.injEq, ih,
        List.forall_mem_cons, octetPair, Prod.ext_iff, octetText_eq_iff,
        octetText_eq_iff]

theorem survives_iff_unchanged (unicode : Unicode) {segments : List String}
    {pairs : List (String × String)}
    (someSegments : ∀ segment ∈ segments, segment ≠ "")
    (someKeys : ∀ pair ∈ pairs, pair.1 ≠ "") :
    Survives unicode segments pairs ↔
      segments.map octetText = segments ∧ pairs.map octetPair = pairs := by
  have split := splitTarget_encodedTarget unicode segments someKeys
  have entries := entriesOf_encodedTarget segments someKeys
  have decoded := pathSegments_encodedPath someSegments
  constructor
  · intro survives
    obtain ⟨path, target, read, parts⟩ := survives
    rw [split] at target
    have samePath : encodedPath segments = path :=
      congrArg Prod.fst (Except.ok.inj target)
    rw [entries] at read
    rw [← samePath, decoded] at parts
    exact ⟨Except.ok.inj parts, Except.ok.inj read⟩
  · intro same
    refine ⟨encodedPath segments, ?_, ?_, ?_⟩
    · rw [split, same.2]
    · rw [entries, same.2]
    · rw [decoded, same.1]

/-- Whatever has a character outside ASCII is lost, and nothing else is. -/
theorem survives_iff (unicode : Unicode) {segments : List String}
    {pairs : List (String × String)}
    (someSegments : ∀ segment ∈ segments, segment ≠ "")
    (someKeys : ∀ pair ∈ pairs, pair.1 ≠ "") :
    Survives unicode segments pairs ↔
      (∀ segment ∈ segments, IsASCII segment) ∧
        ∀ pair ∈ pairs, IsASCII pair.1 ∧ IsASCII pair.2 := by
  rw [survives_iff_unchanged unicode someSegments someKeys,
    map_octetText_eq_iff, map_octetPair_eq_iff]

/-- A slash, a plus and a percent sign come back. -/
theorem reserved_survive :
    Survives ascii ["project/vm", "a+b%"] [("after", "1 & 2=?")] := by
  have ascii_of : ∀ value : String,
      (octetsOf value).all (· < 0x80) = true → IsASCII value := by
    intro value all octet member
    exact of_decide_eq_true (List.all_eq_true.mp all octet member)
  refine (survives_iff ascii (by decide) (by decide)).mpr ⟨?_, ?_⟩
  · intro segment member
    apply ascii_of
    revert segment
    decide
  · intro pair member
    rw [List.mem_singleton.mp member]
    exact ⟨ascii_of _ (by decide), ascii_of _ (by decide)⟩

/-- The two octets of an accented letter come back as two characters. -/
theorem accent_lost :
    encodedTarget ["é"] [] = ["/", "%", "C", "3", "%", "A", "9"] ∧
      pathSegments (encodedTarget ["é"] []) = .ok ["Ã©"] ∧
      ¬ ∀ (unicode : Unicode) (segments : List String)
        (pairs : List (String × String)),
        (∀ segment ∈ segments, segment ≠ "") →
        (∀ pair ∈ pairs, pair.1 ≠ "") → Survives unicode segments pairs := by
  have decoded : pathSegments (encodedPath ["é"]) = .ok ["Ã©"] := by
    rw [pathSegments_encodedPath (by decide)]
    rfl
  have target : encodedTarget ["é"] [] = encodedPath ["é"] := by
    rw [encodedTarget, if_pos rfl, List.append_nil]
  refine ⟨by rfl, by rw [target, decoded], ?_⟩
  intro survive
  obtain ⟨path, read, _, parts⟩ :=
    survive ascii ["é"] [] (by decide) (by decide)
  rw [splitTarget_encodedTarget ascii ["é"] (by decide)] at read
  have samePath : encodedPath ["é"] = path :=
    congrArg Prod.fst (Except.ok.inj read)
  rw [← samePath, decoded] at parts
  exact absurd (Except.ok.inj parts) (by decide)

end RestHTTP

end Vzctl
