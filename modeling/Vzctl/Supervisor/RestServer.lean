import Vzctl.Lib.GrowingBuffer
import Vzctl.Supervisor.RestTraps

/-!
# Requests and the reads they arrive in

`RestServer.handleClient` parses the bytes received so far after every read.
The request that it hands to the router depends on the stream alone exactly
where the header announces the length of the body, or nothing follows the
header, and the end of the request is not just behind the limit.
-/

namespace Vzctl

open Positions GrowingBuffer

namespace RestServer

open RestHTTP

/-- Bytes of one read. -/
def bufferSize : Nat := 16384

/-- The number of pending bytes beyond which a client is given up. -/
def pendingLimit : Nat := 8000000

section Source

variable (unicode : Unicode)

/-- The reads of a client up to the end of its stream.  `admitted` is the
check of the peer on a Unix socket. -/
def handleClient (admitted : Bool) (reads : List (List UInt8)) :
    Except Violation (Option RestHTTPRequest) :=
  if admitted then feed (parseRequest unicode) pendingLimit [] reads
  else .ok none

/-- A request without its body. -/
def readHead (lines : List Text) :
    Except Violation (Option RestHTTPRequest) :=
  match lines with
  | [] => pure none
  | requestLine :: fields => do
      let parts := split (· = " ") none true requestLine
      if parts.length < 2 then pure none else
      let method ← element parts 0
      let rawTarget ← element parts 1
      let (path, query) ← splitTarget unicode rawTarget
      pure (some
        { method := unicode.uppercased (String.join method)
          path := path
          query := query
          headers := headerFields unicode fields
          body := [] })

/-- What the bytes in front of the empty line say. -/
def headOf (header : List UInt8) :
    Except Violation (Option RestHTTPRequest) :=
  match unicode.decoded header with
  | none => pure none
  | some headerText => readHead unicode (headerLines headerText)

end Source

/-- The request that a head and the bytes behind it make. -/
def withBody (head : RestHTTPRequest) (body : List UInt8) :
    Except Violation (Option RestHTTPRequest) :=
  match contentLength head.headers with
  | none => .ok (some { head with body := body })
  | some length =>
      if length < 0 then .error .negativeLength
      else if body.length < length then .ok none
      else .ok (some { head with body := body.take length.toNat })

/-- A request whose body has the announced length. -/
def AsAnnounced (request : RestHTTPRequest) : Prop :=
  (request.body.length : Int) = (contentLength request.headers).getD 0

/-- The outcome does not depend on the reads, and a request that is handed on
is complete and has no byte of what follows it. -/
def PacketFree (unicode : Unicode) (stream : List UInt8) : Prop :=
  (∀ first second, IsCut bufferSize stream first →
    IsCut bufferSize stream second → ∀ admitted,
      handleClient unicode admitted first =
        handleClient unicode admitted second) ∧
  ∀ reads request, IsCut bufferSize stream reads →
    handleClient unicode true reads = .ok (some request) →
      AsAnnounced request

/-- The number of bytes up to the end of the request. -/
def requestEnd (headerEnd : Nat) :
    Except Violation (Option RestHTTPRequest) → Option Nat
  | .error _ => some (headerEnd + 4)
  | .ok none => none
  | .ok (some head) =>
      some (headerEnd + 4 + ((contentLength head.headers).getD 0).toNat)

/-- A request that is complete is so at once or can never be reached, and one
without a length has nothing behind its header. -/
def SelfDelimited (unicode : Unicode) (stream : List UInt8) : Prop :=
  ∀ headerEnd, HeaderEnds stream headerEnd →
    ∀ finished, requestEnd headerEnd (headOf unicode (stream.take headerEnd)) =
        some finished → finished ≤ stream.length →
      pendingLimit + bufferSize < finished ∨
        finished ≤ pendingLimit + 1 ∧
          ∀ head, headOf unicode (stream.take headerEnd) = .ok (some head) →
            contentLength head.headers = none → stream.length = finished

variable {unicode : Unicode}

/-! ## Heads and bodies -/

theorem readBody_eq (head : RestHTTPRequest) (body : List UInt8) :
    (readBody head.headers body >>= fun bodyData =>
      (pure (bodyData.map fun sent => { head with body := sent }) :
        Except Violation (Option RestHTTPRequest))) = withBody head body := by
  rw [readBody, withBody]
  cases announced : contentLength head.headers with
  | none => rfl
  | some length =>
      by_cases negative : length < 0
      · have longer : length < body.length := by omega
        simp only [if_pos longer, if_pos negative, firstElements]
        rw [if_neg (by omega)]
        rfl
      · have natural : 0 ≤ length := by omega
        by_cases longer : length < body.length
        · have full : (body.take length.toNat).length = length.toNat := by
            rw [List.length_take]
            omega
          have complete : ¬ ((body.take length.toNat).length : Int) < length := by
            omega
          have noShort : ¬ (body.length : Int) < length := by omega
          simp only [if_pos longer, if_neg negative, firstElements,
            if_pos natural, if_neg noShort]
          change (Except.ok (Option.map _ (if _ then none else _))) = _
          rw [if_neg complete]
          rfl
        · by_cases short : (body.length : Int) < length
          · simp only [if_neg longer, if_neg negative, if_pos short]
            change (Except.ok (Option.map _ (if _ then none else _))) = _
            rw [if_pos short]
            rfl
          · have whole : body.take length.toNat = body := by
              apply List.take_of_length_le
              omega
            simp only [if_neg longer, if_neg negative, if_neg short, whole]
            change (Except.ok (Option.map _ (if _ then none else _))) = _
            rw [if_neg short]
            rfl

theorem readMessage_eq (lines : List Text) (body : List UInt8) :
    readMessage unicode lines body = (do
      match ← readHead unicode lines with
      | none => pure none
      | some head => withBody head body) := by
  cases lines with
  | nil => rfl
  | cons requestLine fields =>
      rw [readMessage, readHead]
      rcases parts : split (· = " ") none true requestLine with
        _ | ⟨method, _ | ⟨rawTarget, rest⟩⟩
      · rfl
      · rfl
      · have enough : ¬ (method :: rawTarget :: rest).length < 2 := by
          simp
        rw [if_neg enough, if_neg enough, foldlM_readHeader]
        change (splitTarget unicode rawTarget >>= fun target => _) =
          ((splitTarget unicode rawTarget >>= fun target => _) >>= _)
        cases splitTarget unicode rawTarget with
        | error failure => rfl
        | ok target =>
            exact readBody_eq
              { method := unicode.uppercased (String.join method)
                path := target.1
                query := target.2
                headers := headerFields unicode fields
                body := [] } body

/-! ## Prefixes of a stream -/

theorem emptyLineAt_append {front back : List UInt8} {place : Nat}
    (inside : place + 4 ≤ front.length) :
    EmptyLineAt (front ++ back) place ↔ EmptyLineAt front place := by
  have moved : (front ++ back).drop place = front.drop place ++ back :=
    List.drop_append_of_le_length (by omega)
  have long : [0x0D, 0x0A, 0x0D, 0x0A].length ≤ (front.drop place).length := by
    simp
    omega
  rw [EmptyLineAt, EmptyLineAt, moved]
  constructor
  · intro stands
    exact List.prefix_of_prefix_length_le stands (List.prefix_append _ _) long
  · intro stands
    exact stands.trans (List.prefix_append _ _)

theorem headerEnds_append_iff {front back : List UInt8} {headerEnd : Nat} :
    HeaderEnds front headerEnd ↔ HeaderEnds (front ++ back) headerEnd ∧
      headerEnd + 4 ≤ front.length := by
  constructor
  · intro ends
    have inside := lt_of_emptyLineAt ends.1
    have room : headerEnd + 4 ≤ front.length := by omega
    refine ⟨⟨(emptyLineAt_append room).mpr ends.1, ?_⟩, room⟩
    intro earlier sooner stands
    exact ends.2 earlier sooner ((emptyLineAt_append (by omega)).mp stands)
  · rintro ⟨ends, room⟩
    refine ⟨(emptyLineAt_append room).mp ends.1, ?_⟩
    intro earlier sooner stands
    exact ends.2 earlier sooner ((emptyLineAt_append (by omega)).mpr stands)

theorem headerEnds_unique {data : List UInt8} {first second : Nat}
    (one : HeaderEnds data first) (other : HeaderEnds data second) :
    first = second := by
  rcases Nat.lt_trichotomy first second with before | same | after
  · exact absurd one.1 (other.2 first before)
  · exact same
  · exact absurd other.1 (one.2 second after)

theorem parseRequest_of_open {data : List UInt8}
    (noEnd : ∀ headerEnd, ¬ HeaderEnds data headerEnd) :
    parseRequest unicode data = .ok none := by
  obtain ⟨found, performed, found_iff⟩ := findHeaderEnd_eq data
  cases found with
  | none =>
      rw [parseRequest, performed]
      rfl
  | some headerEnd => exact absurd ((found_iff headerEnd).mp rfl) (noEnd _)

theorem parseRequest_of_ends {data : List UInt8} {headerEnd : Nat}
    (ends : HeaderEnds data headerEnd) :
    parseRequest unicode data = (do
      match ← headOf unicode (data.take headerEnd) with
      | none => pure none
      | some head => withBody head (data.drop (headerEnd + 4))) := by
  have inside := lt_of_emptyLineAt ends.1
  obtain ⟨found, performed, found_iff⟩ := findHeaderEnd_eq data
  have same : found = some headerEnd := (found_iff headerEnd).mpr ends
  subst same
  have header : slice data 0 headerEnd = .ok (data.take headerEnd) := by
    rw [slice_of_le (Nat.zero_le headerEnd) (by omega), List.drop_zero]
  have message : ∀ body : List UInt8,
      (match unicode.decoded (data.take headerEnd) with
        | none => .ok none
        | some headerText =>
            readMessage unicode (headerLines headerText) body) = (do
      match ← headOf unicode (data.take headerEnd) with
      | none => pure none
      | some head => withBody head body) := by
    intro body
    rw [headOf]
    cases unicode.decoded (data.take headerEnd) with
    | none => rfl
    | some headerText => exact readMessage_eq _ _
  rw [parseRequest, performed]
  change (slice data 0 headerEnd >>= fun headerData => _) = _
  rw [header]
  by_cases more : headerEnd + 4 < data.length
  · have behind : slice data (headerEnd + 4) data.length =
        .ok (data.drop (headerEnd + 4)) := slice_to_end (by omega)
    change (if headerEnd + 4 < data.length then
      slice data (headerEnd + 4) data.length >>= _ else _) = _
    rw [if_pos more, behind]
    exact message _
  · have nothing : data.drop (headerEnd + 4) = [] :=
      List.drop_eq_nil_of_le (by omega)
    change (if headerEnd + 4 < data.length then
      slice data (headerEnd + 4) data.length >>= _ else _) = _
    rw [if_neg more, nothing]
    exact message []

section Stream

variable {stream front back : List UInt8} {headerEnd finished : Nat}

theorem parseRequest_short (ends : HeaderEnds stream headerEnd)
    (whole : front ++ back = stream) (short : front.length < headerEnd + 4) :
    parseRequest unicode front = .ok none := by
  apply parseRequest_of_open
  intro other otherEnds
  have found := (@headerEnds_append_iff _ back _).mp otherEnds
  rw [whole] at found
  have same := headerEnds_unique ends found.1
  omega

theorem parseRequest_long (ends : HeaderEnds stream headerEnd)
    (whole : front ++ back = stream) (long : headerEnd + 4 ≤ front.length) :
    parseRequest unicode front = (do
      match ← headOf unicode (stream.take headerEnd) with
      | none => pure none
      | some head => withBody head (front.drop (headerEnd + 4))) := by
  have frontEnds : HeaderEnds front headerEnd := by
    apply headerEnds_append_iff.mpr
    rw [whole]
    exact ⟨ends, long⟩
  have header : stream.take headerEnd = front.take headerEnd := by
    rw [← whole, List.take_append_of_le_length (by omega)]
  rw [parseRequest_of_ends frontEnds, header]

theorem le_requestEnd {head : Except Violation (Option RestHTTPRequest)}
    (stops : requestEnd headerEnd head = some finished) :
    headerEnd + 4 ≤ finished := by
  match head with
  | .error failure =>
      simp only [requestEnd, Option.some.injEq] at stops
      omega
  | .ok none => simp [requestEnd] at stops
  | .ok (some found) =>
      simp only [requestEnd, Option.some.injEq] at stops
      omega

theorem quietBelow_of_headless (ends : HeaderEnds stream headerEnd)
    (headless : headOf unicode (stream.take headerEnd) = .ok none)
    (needed : Nat) : QuietBelow (parseRequest unicode) stream needed := by
  intro front back whole _
  by_cases long : headerEnd + 4 ≤ front.length
  · rw [parseRequest_long ends whole long, headless]
    rfl
  · exact parseRequest_short ends whole (by omega)

theorem quietBelow_requestEnd (ends : HeaderEnds stream headerEnd)
    (stops : requestEnd headerEnd (headOf unicode (stream.take headerEnd)) =
      some finished) :
    QuietBelow (parseRequest unicode) stream finished := by
  intro front back whole short
  by_cases long : headerEnd + 4 ≤ front.length
  · rw [parseRequest_long ends whole long]
    cases read : headOf unicode (stream.take headerEnd) with
    | error failure =>
        simp [read, requestEnd] at stops
        omega
    | ok found =>
        cases found with
        | none => simp [read, requestEnd] at stops
        | some head =>
            simp only [read, requestEnd, Option.some.injEq] at stops
            change withBody head (front.drop (headerEnd + 4)) = _
            cases announced : contentLength head.headers with
            | none =>
                simp [announced] at stops
                omega
            | some length =>
                simp only [announced, Option.getD_some] at stops
                have few : ((front.drop (headerEnd + 4)).length : Int) <
                    length := by
                  rw [List.length_drop]
                  omega
                rw [withBody, announced]
                simp only [if_pos few]
                rw [if_neg (by omega)]
  · exact parseRequest_short ends whole (by omega)

theorem exists_answer (ends : HeaderEnds stream headerEnd)
    (stops : requestEnd headerEnd (headOf unicode (stream.take headerEnd)) =
      some finished) (reached : finished ≤ stream.length)
    (delimited : ∀ head, headOf unicode (stream.take headerEnd) =
      .ok (some head) → contentLength head.headers = none →
        stream.length = finished) :
    ∃ answered, answered ≠ .ok none ∧
      (∀ front back, front ++ back = stream → finished ≤ front.length →
        parseRequest unicode front = answered) ∧
      ∀ request, answered = .ok (some request) → AsAnnounced request := by
  cases read : headOf unicode (stream.take headerEnd) with
  | error failure =>
      simp only [read, requestEnd, Option.some.injEq] at stops
      refine ⟨.error failure, by simp, ?_, by simp⟩
      intro front back whole long
      rw [parseRequest_long ends whole (by omega), read]
      rfl
  | ok found =>
      cases found with
      | none => simp [read, requestEnd] at stops
      | some head =>
          simp only [read, requestEnd, Option.some.injEq] at stops
          cases announced : contentLength head.headers with
          | none =>
              have atEnd := delimited head read announced
              simp only [announced, Option.getD_none, Int.toNat_zero] at stops
              refine ⟨.ok (some { head with body := [] }), by simp, ?_, ?_⟩
              · intro front back whole long
                have total := congrArg List.length whole
                rw [List.length_append] at total
                have nothing : front.drop (headerEnd + 4) = [] :=
                  List.drop_eq_nil_of_le (by omega)
                rw [parseRequest_long ends whole (by omega), read]
                change withBody head (front.drop (headerEnd + 4)) = _
                rw [nothing, withBody, announced]
              · intro request same
                cases same
                simp [AsAnnounced, announced]
          | some length =>
              simp only [announced, Option.getD_some] at stops
              by_cases negative : length < 0
              · refine ⟨.error .negativeLength, by simp, ?_, by simp⟩
                intro front back whole long
                rw [parseRequest_long ends whole (by omega), read]
                change withBody head (front.drop (headerEnd + 4)) = _
                rw [withBody, announced]
                exact if_pos negative
              · refine ⟨.ok (some { head with
                  body := (stream.drop (headerEnd + 4)).take length.toNat }),
                  by simp, ?_, ?_⟩
                · intro front back whole long
                  have sent : (front.drop (headerEnd + 4)).take length.toNat =
                      (stream.drop (headerEnd + 4)).take length.toNat := by
                    rw [← whole, List.drop_append_of_le_length (by omega),
                      List.take_append_of_le_length]
                    rw [List.length_drop]
                    omega
                  have enough : ¬ ((front.drop (headerEnd + 4)).length : Int) <
                      length := by
                    rw [List.length_drop]
                    omega
                  rw [parseRequest_long ends whole (by omega), read]
                  change withBody head (front.drop (headerEnd + 4)) = _
                  rw [withBody, announced]
                  simp only [if_neg negative, if_neg enough, sent]
                · intro request same
                  cases same
                  have full : ((stream.drop (headerEnd + 4)).take
                      length.toNat).length = length.toNat := by
                    rw [List.length_take, List.length_drop]
                    omega
                  simp only [AsAnnounced, announced, Option.getD_some, full]
                  omega

theorem parseRequest_at_end (ends : HeaderEnds stream headerEnd)
    (stops : requestEnd headerEnd (headOf unicode (stream.take headerEnd)) =
      some finished) (whole : front ++ back = stream)
    (atEnd : front.length = finished) :
    parseRequest unicode front ≠ .ok none := by
  have frontEnds : HeaderEnds front headerEnd ∧
      stream.take headerEnd = front.take headerEnd := by
    have behind := le_requestEnd stops
    have room : headerEnd + 4 ≤ front.length := by omega
    constructor
    · apply headerEnds_append_iff.mpr
      rw [whole]
      exact ⟨ends, room⟩
    · rw [← whole, List.take_append_of_le_length (by omega)]
  rw [frontEnds.2] at stops
  obtain ⟨answered, isAnswer, settled, _⟩ := exists_answer frontEnds.1 stops
    (by omega) fun _ _ _ => atEnd
  rw [settled front [] (by simp) (by omega)]
  exact isAnswer

end Stream

/-! ## Reads -/

variable {stream : List UInt8}

theorem packetFree_of_outcome {outcome : Except Violation (Option RestHTTPRequest)}
    (same : ∀ reads, IsCut bufferSize stream reads →
      feed (parseRequest unicode) pendingLimit [] reads = outcome)
    (announced : ∀ request, outcome = .ok (some request) →
      AsAnnounced request) :
    PacketFree unicode stream := by
  constructor
  · intro first second firstCut secondCut admitted
    cases admitted with
    | false => rfl
    | true =>
        simp only [handleClient, if_true]
        rw [same first firstCut, same second secondCut]
  · intro reads request cut handed
    apply announced
    rw [← same reads cut]
    simpa [handleClient] using handed

theorem packetFree_of_silence
    (quiet : ∀ needed, QuietBelow (parseRequest unicode) stream needed) :
    PacketFree unicode stream := by
  apply @packetFree_of_outcome unicode stream (.ok none)
  · intro reads cut
    exact feed_eq_none (quiet (stream.length + 1)) (.inl (by omega))
      (Nat.zero_le _) cut.sizes cut.flatten
  · intro request impossible
    cases impossible

theorem packetFree_of_selfDelimited (delimited : SelfDelimited unicode stream) :
    PacketFree unicode stream := by
  by_cases open' : ∀ headerEnd, ¬ HeaderEnds stream headerEnd
  · apply packetFree_of_silence
    intro needed front back whole _
    apply parseRequest_of_open
    intro headerEnd ends
    have found := (@headerEnds_append_iff _ back _).mp ends
    rw [whole] at found
    exact open' headerEnd found.1
  · push Not at open'
    obtain ⟨headerEnd, ends⟩ := open'
    cases stops : requestEnd headerEnd
        (headOf unicode (stream.take headerEnd)) with
    | none =>
        apply packetFree_of_silence
        apply quietBelow_of_headless ends
        cases read : headOf unicode (stream.take headerEnd) with
        | error failure => simp [read, requestEnd] at stops
        | ok found =>
            cases found with
            | none => rfl
            | some head => simp [read, requestEnd] at stops
    | some finished =>
        have quiet := quietBelow_requestEnd ends stops
        by_cases reached : finished ≤ stream.length
        · rcases delimited headerEnd ends finished stops reached with
            beyond | ⟨early, alone⟩
          · apply @packetFree_of_outcome unicode stream (.ok none)
            · intro reads cut
              exact feed_eq_none quiet (.inr beyond) (Nat.zero_le _)
                cut.sizes cut.flatten
            · intro request impossible
              cases impossible
          · obtain ⟨answered, isAnswer, settled, announced⟩ :=
              exists_answer ends stops reached alone
            have behind := le_requestEnd stops
            have positive : 0 < finished := by omega
            apply packetFree_of_outcome _ announced
            intro reads cut
            exact feed_eq_answer quiet settled isAnswer early reached positive
              cut.flatten
        · apply @packetFree_of_outcome unicode stream (.ok none)
          · intro reads cut
            exact feed_eq_none quiet (.inl (by omega)) (Nat.zero_le _)
              cut.sizes cut.flatten
          · intro request impossible
            cases impossible

/-- A cut whose reads bring the request at once, and the cut into bytes, which
stops behind the limit. -/
theorem early_of_packetFree {headerEnd finished : Nat}
    (free : PacketFree unicode stream) (ends : HeaderEnds stream headerEnd)
    (stops : requestEnd headerEnd (headOf unicode (stream.take headerEnd)) =
      some finished) (reached : finished ≤ stream.length)
    (near : finished ≤ pendingLimit + bufferSize) :
    finished ≤ pendingLimit + 1 := by
  by_contra late
  have quiet := quietBelow_requestEnd ends stops
  obtain ⟨front, middle, back, whole, frontSize, middleSize⟩ :
      ∃ front middle back, front ++ middle ++ back = stream ∧
        front.length = pendingLimit ∧
        middle.length = finished - pendingLimit :=
    exists_middle (by omega)
  have filled : middle ≠ [] := by
    apply List.ne_nil_of_length_pos
    omega
  have around : IsCut bufferSize stream
      (singly front ++ middle :: singly back) := by
    rw [← whole]
    exact isCut_around filled (by omega)
  have bytes : IsCut bufferSize stream (singly stream) :=
    ⟨flatten_singly stream, sizes_singly (by decide) stream⟩
  have atEnd : (front ++ middle).length = finished := by
    simp
    omega
  have answers := parseRequest_at_end ends stops whole atEnd
  have handed : feed (parseRequest unicode) pendingLimit []
      (singly front ++ middle :: singly back) =
        parseRequest unicode (front ++ middle) :=
    feed_around (by rw [whole]; exact quiet) (by omega) (by omega) rfl answers
  have stopped : feed (parseRequest unicode) pendingLimit [] (singly stream) =
      .ok none := feed_singly_eq_none quiet (by omega) (by omega)
  have same := free.1 _ _ around bytes true
  simp only [handleClient, if_true] at same
  rw [handed, stopped] at same
  exact answers same

theorem alone_of_packetFree {headerEnd : Nat} {head : RestHTTPRequest}
    (free : PacketFree unicode stream) (ends : HeaderEnds stream headerEnd)
    (read : headOf unicode (stream.take headerEnd) = .ok (some head))
    (unannounced : contentLength head.headers = none)
    (early : headerEnd + 4 ≤ pendingLimit + 1)
    (reached : headerEnd + 4 ≤ stream.length) :
    stream.length = headerEnd + 4 := by
  by_contra more
  have stops : requestEnd headerEnd (headOf unicode (stream.take headerEnd)) =
      some (headerEnd + 4) := by
    rw [read, requestEnd, unannounced]
    rfl
  have quiet := quietBelow_requestEnd ends stops
  obtain ⟨front, middle, back, whole, frontSize, middleSize⟩ :
      ∃ front middle back, front ++ middle ++ back = stream ∧
        front.length = headerEnd + 3 ∧ middle.length = 2 :=
    exists_middle (by omega)
  have filled : middle ≠ [] := by
    apply List.ne_nil_of_length_pos
    omega
  have small : middle.length ≤ bufferSize := by
    rw [middleSize]
    decide
  have around : IsCut bufferSize stream
      (singly front ++ middle :: singly back) := by
    rw [← whole]
    exact isCut_around filled small
  have size : (front ++ middle).length = headerEnd + 5 := by
    simp
    omega
  have parsed : parseRequest unicode (front ++ middle) =
      .ok (some { head with body := (front ++ middle).drop (headerEnd + 4) }) := by
    rw [parseRequest_long ends whole (by omega), read]
    change withBody head ((front ++ middle).drop (headerEnd + 4)) = _
    rw [withBody, unannounced]
  have handed : feed (parseRequest unicode) pendingLimit []
      (singly front ++ middle :: singly back) =
        .ok (some { head with
          body := (front ++ middle).drop (headerEnd + 4) }) :=
    feed_around (by rw [whole]; exact quiet) (by omega) (by omega) parsed
      (by simp)
  have announced := free.2 _ _ around
    (by simpa only [handleClient, if_true] using handed)
  simp only [AsAnnounced, unannounced, Option.getD_none, List.length_drop] at announced
  omega

theorem selfDelimited_of_packetFree (free : PacketFree unicode stream) :
    SelfDelimited unicode stream := by
  intro headerEnd ends finished stops reached
  by_cases near : finished ≤ pendingLimit + bufferSize
  · right
    have early := early_of_packetFree free ends stops reached near
    refine ⟨early, ?_⟩
    intro head read unannounced
    have atHeader : headerEnd + 4 = finished := by
      rw [read, requestEnd, unannounced] at stops
      simpa using stops
    rw [← atHeader] at early reached ⊢
    exact alone_of_packetFree free ends read unannounced early reached
  · left
    omega

/-- The outcome is the same for all ways to cut the stream, and as announced,
exactly where the stream delimits its request itself. -/
theorem packetFree_iff (unicode : Unicode) (stream : List UInt8) :
    PacketFree unicode stream ↔ SelfDelimited unicode stream :=
  ⟨selfDelimited_of_packetFree, packetFree_of_selfDelimited⟩

/-! ## A request without a length -/

def unannouncedRequest : List UInt8 :=
  asciiBytes "POST / HTTP/1.1\r\n\r\n"

def bodySize (outcome : Except Violation (Option RestHTTPRequest)) :
    Option Nat :=
  match outcome with
  | .ok (some request) => some request.body.length
  | _ => none

/-- The bytes behind the header become the body or not, as they arrive. -/
theorem body_depends_on_reads :
    ¬ PacketFree ascii (unannouncedRequest ++ [0x61, 0x62, 0x63]) := by
  intro free
  have together : IsCut bufferSize (unannouncedRequest ++ [0x61, 0x62, 0x63])
      [unannouncedRequest ++ [0x61, 0x62, 0x63]] := by
    constructor
    · simp
    · decide
  have apart : IsCut bufferSize (unannouncedRequest ++ [0x61, 0x62, 0x63])
      [unannouncedRequest, [0x61, 0x62, 0x63]] := by
    constructor
    · simp
    · decide
  have same := congrArg bodySize (free.1 _ _ together apart true)
  have different : bodySize (handleClient ascii true
        [unannouncedRequest ++ [0x61, 0x62, 0x63]]) ≠
      bodySize (handleClient ascii true
        [unannouncedRequest, [0x61, 0x62, 0x63]]) := by
    decide
  exact different same

end RestServer

end Vzctl
