import Vzctl.Lib.NetURL
import Vzctl.Lib.Utf8

/-!
# The registry of published services

`validateServiceName`, `validateLoopbackURL` and `serviceRegistry` of the guest
agent.  A registry carries that each of its services was accepted by `put`.
-/

namespace Vzctl

namespace PublishedServices

open NetURL

structure PublishedService where
  name : Text
  kind : Text
  url : Text
  pid : Int
  deriving DecidableEq, Repr

/-! ## Runes -/

/-- The runes of the bytes behind the next `skip`; a byte that begins none is
read as the replacement character. -/
def runesFrom : Nat → Text → List Nat
  | _, [] => []
  | skip + 1, _ :: rest => runesFrom skip rest
  | 0, first :: rest =>
      if first < 0x80 then first.toNat :: runesFrom 0 rest
      else
        match Utf8.continuation first rest with
        | some tail => Utf8.codePoint first tail :: runesFrom tail.length rest
        | none => 0xfffd :: runesFrom 0 rest

def runes (value : Text) : List Nat := runesFrom 0 value

/-! ## Names -/

/-- `strings.ToLower`, for the runes whose lower case is in ASCII: the letters
of ASCII, the dotted capital I and the sign for kelvin.  What other runes
become is beyond ASCII too, and no comparison is with such a text. -/
def toLower : Text → Text
  | 0xc4 :: 0xb0 :: rest => byte 'i' :: toLower rest
  | 0xe2 :: 0x84 :: 0xaa :: rest => byte 'k' :: toLower rest
  | letter :: rest => lowerByte letter :: toLower rest
  | [] => []

/-- The first of each ten runes that `unicode.IsDigit` takes. -/
def digitZeros : List Nat :=
  [0x30, 0x660, 0x6f0, 0x7c0, 0x966, 0x9e6, 0xa66, 0xae6, 0xb66, 0xbe6, 0xc66,
    0xce6, 0xd66, 0xde6, 0xe50, 0xed0, 0xf20, 0x1040, 0x1090, 0x17e0, 0x1810,
    0x1946, 0x19d0, 0x1a80, 0x1a90, 0x1b50, 0x1bb0, 0x1c40, 0x1c50, 0xa620,
    0xa8d0, 0xa900, 0xa9d0, 0xa9f0, 0xaa50, 0xabf0, 0xff10, 0x104a0, 0x10d30,
    0x11066, 0x110f0, 0x11136, 0x111d0, 0x112f0, 0x11450, 0x114d0, 0x11650,
    0x116c0, 0x11730, 0x118e0, 0x11950, 0x11c50, 0x11d50, 0x11da0, 0x11f50,
    0x16a60, 0x16ac0, 0x16b50, 0x1d7ce, 0x1d7d8, 0x1d7e2, 0x1d7ec, 0x1d7f6,
    0x1e140, 0x1e2f0, 0x1e4f0, 0x1e950, 0x1fbf0]

def isDigitRune (rune : Nat) : Bool :=
  digitZeros.any fun first => first ≤ rune && rune ≤ first + 9

/-- A letter of ASCII from `a` to `z`. -/
def isLowerLetter (rune : Nat) : Bool := 0x61 ≤ rune && rune ≤ 0x7a

def validateServiceName (value : Text) : Except String Unit :=
  let value := toLower (trimSpace value)
  if value = [] then .error "service name is required"
  else if value = text "svc" then .error "service name \"svc\" is reserved"
  else if 63 < value.length then .error "service name is too long"
  else if value.head? = some (byte '-') ∨ value.getLast? = some (byte '-') then
    .error "invalid service name"
  else if (runes value).all fun rune =>
      isDigitRune rune || isLowerLetter rune || rune = 0x2d then .ok ()
  else .error "invalid service name"

/-! ## Loopback URLs -/

/-- A name of the loopback interface. -/
def LoopbackName (hostname : Text) : Prop :=
  toLower hostname = text "127.0.0.1" ∨ toLower hostname = text "localhost" ∨
    toLower hostname = text "::1"

instance (hostname : Text) : Decidable (LoopbackName hostname) :=
  inferInstanceAs (Decidable (_ ∨ _))

/-- A host of the loopback interface, with a port. -/
def LoopbackHost (url : URL) : Prop :=
  LoopbackName url.hostname ∧ url.port ≠ []

instance (url : URL) : Decidable (LoopbackHost url) :=
  inferInstanceAs (Decidable (_ ∧ _))

def validateLoopbackURL (raw : Text) : Except String Unit :=
  match parse (trimSpace raw) with
  | .error _ => .error "invalid url"
  | .ok parsed =>
      let host := toLower parsed.hostname
      if parsed.scheme ≠ text "http" ∧ parsed.scheme ≠ text "https" then
        .error "url must be http or https"
      else if host ≠ text "127.0.0.1" ∧ host ≠ text "localhost" ∧
          host ≠ text "::1" then
        .error "url host must be loopback"
      else if parsed.port = [] then .error "url must include a port"
      else .ok ()

/-- The transport takes these schemes. -/
def HTTPScheme (scheme : Text) : Prop :=
  scheme = text "http" ∨ scheme = text "https"

instance (scheme : Text) : Decidable (HTTPScheme scheme) :=
  inferInstanceAs (Decidable (_ ∨ _))

theorem validateLoopbackURL_eq_ok_iff {raw : Text} :
    validateLoopbackURL raw = .ok () ↔
      ∃ parsed, parse (trimSpace raw) = .ok parsed ∧
        HTTPScheme parsed.scheme ∧ LoopbackHost parsed := by
  rw [validateLoopbackURL]
  cases read : parse (trimSpace raw) with
  | error failure => simp only [reduceCtorEq, false_and, exists_false]
  | ok parsed =>
      have otherScheme : parsed.scheme ≠ text "http" ∧
          parsed.scheme ≠ text "https" ↔ ¬ HTTPScheme parsed.scheme :=
        not_or.symm
      have otherHost : toLower parsed.hostname ≠ text "127.0.0.1" ∧
          toLower parsed.hostname ≠ text "localhost" ∧
          toLower parsed.hostname ≠ text "::1" ↔
          ¬ LoopbackName parsed.hostname := by
        rw [LoopbackName, not_or, not_or]
      simp only [Except.ok.injEq, exists_eq_left', otherScheme, otherHost]
      by_cases scheme : HTTPScheme parsed.scheme
      · rw [if_neg (not_not.mpr scheme)]
        by_cases host : LoopbackName parsed.hostname
        · rw [if_neg (not_not.mpr host)]
          by_cases port : parsed.port = []
          · simp only [port, if_true, reduceCtorEq, LoopbackHost, ne_eq,
              not_true, and_false]
          · simp only [if_neg port, true_iff]
            exact ⟨scheme, host, port⟩
        · rw [if_pos host]
          simp only [reduceCtorEq, LoopbackHost, host, false_and, and_false]
      · rw [if_pos scheme]
        simp only [reduceCtorEq, scheme, false_and]

/-! ## The registry -/

/-- The checks of `put`. -/
def validateService (service : PublishedService) : Except String Unit := do
  validateServiceName service.name
  if service.kind = [] then
    throw "kind is required"
  validateLoopbackURL service.url

structure Registry where
  items : List (Text × PublishedService)
  accepted : ∀ item ∈ items, validateService item.2 = .ok ()

namespace Registry

variable (registry : Registry)

/-- Only the items that a condition keeps. -/
def keeping (keep : Text × PublishedService → Bool) : Registry where
  items := registry.items.filter keep
  accepted := fun item member =>
    registry.accepted item (List.mem_of_mem_filter member)

/-- The services whose process is gone are dropped. -/
def reap (alive : Int → Bool) : Registry :=
  registry.keeping fun item => !(0 < item.2.pid && !alive item.2.pid)

def get (alive : Int → Bool) (name : Text) : Option PublishedService :=
  (registry.reap alive).items.lookup name

end Registry

end PublishedServices

end Vzctl
