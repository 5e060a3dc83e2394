import Mathlib.Algebra.BigOperators.Group.List.Lemmas
import Mathlib.Algebra.GroupWithZero.Nat

/-!
# The size of JSON text

Compact JSON text of a tree, for any way to quote strings and any order that a
writer gives to the members of an object.  The size of the text depends on the
sizes of its parts alone, so it can be counted without writing the text.
-/

namespace JSONText

variable {σ : Type}

/-- A value to write.  The members of a `record` keep their order, those of an
`object` are put in the writer's order. -/
inductive Tree (σ : Type) where
  | literal (text : List UInt8)
  | string (text : σ)
  | array (items : List (Tree σ))
  | record (members : List (σ × Tree σ))
  | object (members : List (σ × Tree σ))

structure Writer (σ : Type) where
  quote : σ → List UInt8
  order : List (σ × List UInt8) → List (σ × List UInt8)
  order_perm : ∀ members, (order members).Perm members

def comma : UInt8 := 0x2c

def colon : UInt8 := 0x3a

/-- The parts with a comma between each two. -/
def separated : List (List UInt8) → List UInt8
  | [] => []
  | [part] => part
  | part :: next :: rest => part ++ comma :: separated (next :: rest)

def brackets (parts : List (List UInt8)) : List UInt8 :=
  0x5b :: separated parts ++ [0x5d]

def braces (parts : List (List UInt8)) : List UInt8 :=
  0x7b :: separated parts ++ [0x7d]

def Writer.member (writer : Writer σ) (member : σ × List UInt8) : List UInt8 :=
  writer.quote member.1 ++ colon :: member.2

/-! ## Writing -/

mutual

def encode (writer : Writer σ) : Tree σ → List UInt8
  | .literal text => text
  | .string text => writer.quote text
  | .array items => brackets (encodeItems writer items)
  | .record members =>
      braces ((encodeMembers writer members).map writer.member)
  | .object members =>
      braces ((writer.order (encodeMembers writer members)).map writer.member)

def encodeItems (writer : Writer σ) : List (Tree σ) → List (List UInt8)
  | [] => []
  | item :: items => encode writer item :: encodeItems writer items

def encodeMembers (writer : Writer σ) :
    List (σ × Tree σ) → List (σ × List UInt8)
  | [] => []
  | (key, value) :: members =>
      (key, encode writer value) :: encodeMembers writer members

end

/-! ## Counting -/

/-- The size of parts with brackets and commas around them. -/
def enclosed (count total : Nat) : Nat := 2 + (total + (count - 1))

mutual

/-- The size of the text, where a string counts `weight`. -/
def size (weight : σ → Nat) : Tree σ → Nat
  | .literal text => text.length
  | .string text => weight text
  | .array items => enclosed items.length (sizeItems weight items)
  | .record members => enclosed members.length (sizeMembers weight members)
  | .object members => enclosed members.length (sizeMembers weight members)

def sizeItems (weight : σ → Nat) : List (Tree σ) → Nat
  | [] => 0
  | item :: items => size weight item + sizeItems weight items

def sizeMembers (weight : σ → Nat) : List (σ × Tree σ) → Nat
  | [] => 0
  | (key, value) :: members =>
      weight key + 1 + size weight value + sizeMembers weight members

end

theorem length_separated (parts : List (List UInt8)) :
    (separated parts).length =
      (parts.map List.length).sum + (parts.length - 1) := by
  induction parts with
  | nil => rfl
  | cons part rest ih =>
      cases rest with
      | nil => simp [separated]
      | cons next rest =>
          simp only [separated, List.length_append, List.length_cons,
            ih, List.map_cons, List.sum_cons]
          omega

theorem length_brackets (parts : List (List UInt8)) :
    (brackets parts).length =
      enclosed parts.length (parts.map List.length).sum := by
  simp only [brackets, enclosed, List.length_append, List.length_cons,
    List.length_nil, length_separated]
  omega

theorem length_braces (parts : List (List UInt8)) :
    (braces parts).length =
      enclosed parts.length (parts.map List.length).sum := by
  simp only [braces, enclosed, List.length_append, List.length_cons,
    List.length_nil, length_separated]
  omega

section Sizes

variable {writer : Writer σ} {weight : σ → Nat}

theorem length_braces_of_perm {members others : List (σ × List UInt8)}
    (perm : members.Perm others) :
    (braces (members.map writer.member)).length =
      (braces (others.map writer.member)).length := by
  have parts := perm.map writer.member
  rw [length_braces, length_braces, parts.length_eq,
    (parts.map List.length).sum_eq]

theorem length_encodeItems (items : List (Tree σ)) :
    (encodeItems writer items).length = items.length := by
  induction items with
  | nil => rfl
  | cons item items ih =>
      rw [encodeItems, List.length_cons, List.length_cons,
        ih]

theorem length_encodeMembers (members : List (σ × Tree σ)) :
    (encodeMembers writer members).length = members.length := by
  induction members with
  | nil => rfl
  | cons member members ih =>
      rw [encodeMembers, List.length_cons, List.length_cons,
        ih]

mutual

theorem length_encode
    (weighs : ∀ text, (writer.quote text).length = weight text) :
    ∀ tree : Tree σ, (encode writer tree).length = size weight tree
  | .literal text => rfl
  | .string text => weighs text
  | .array items => by
      rw [encode, size, length_brackets, length_encodeItems,
        sum_encodeItems weighs items]
  | .record members => by
      rw [encode, size, length_braces, List.length_map,
        length_encodeMembers, sum_encodeMembers weighs members]
  | .object members => by
      rw [encode, size, length_braces_of_perm (writer.order_perm _),
        length_braces, List.length_map, length_encodeMembers,
        sum_encodeMembers weighs members]

theorem sum_encodeItems
    (weighs : ∀ text, (writer.quote text).length = weight text) :
    ∀ items : List (Tree σ),
      ((encodeItems writer items).map List.length).sum =
        sizeItems weight items
  | [] => rfl
  | item :: items => by
      rw [encodeItems, sizeItems, List.map_cons, List.sum_cons,
        length_encode weighs item, sum_encodeItems weighs items]

theorem sum_encodeMembers
    (weighs : ∀ text, (writer.quote text).length = weight text) :
    ∀ members : List (σ × Tree σ),
      (((encodeMembers writer members).map writer.member).map
        List.length).sum = sizeMembers weight members
  | [] => rfl
  | (key, value) :: members => by
      have single : (writer.member (key, encode writer value)).length =
          weight key + 1 + size weight value := by
        rw [Writer.member, List.length_append, List.length_cons,
          length_encode weighs value, weighs key]
        omega
      rw [encodeMembers, sizeMembers, List.map_cons, List.map_cons,
        List.sum_cons, single, sum_encodeMembers weighs members]

end

end Sizes

end JSONText
