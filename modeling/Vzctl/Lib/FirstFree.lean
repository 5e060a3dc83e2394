import Mathlib.Order.Nat

/-!
# The first free candidate

An allocator walks through numbered candidates until it meets one that is not
taken or until the candidates end.  Producing a candidate can fail, which stops
the walk.
-/

namespace FirstFree

universe u v

variable {τ : Type u} {α : Type v}
  {candidate : Nat → Except τ (Option α)} {taken : α → Bool}

/-- Walk from `offset` on, for at most `fuel` candidates. -/
def scan (candidate : Nat → Except τ (Option α)) (taken : α → Bool) :
    Nat → Nat → Except τ (Option α)
  | 0, _ => .ok none
  | fuel + 1, offset =>
      match candidate offset with
      | .error failure => .error failure
      | .ok none => .ok none
      | .ok (some value) =>
          if taken value then
            scan candidate taken fuel (offset + 1)
          else
            .ok (some value)

/-- A free candidate after taken ones only. -/
structure IsFirst (candidate : Nat → Except τ (Option α))
    (taken : α → Bool) (start position : Nat) (value : α) : Prop where
  notBefore : start ≤ position
  isCandidate : candidate position = .ok (some value)
  free : taken value = false
  takenBefore : ∀ earlier, start ≤ earlier → earlier < position →
    ∃ other, candidate earlier = .ok (some other) ∧ taken other = true

theorem isFirst_of_scan {fuel offset : Nat} {value : α}
    (found : scan candidate taken fuel offset = .ok (some value)) :
    ∃ position, position < offset + fuel ∧
      IsFirst candidate taken offset position value := by
  induction fuel generalizing offset with
  | zero => cases found
  | succ fuel ih =>
      unfold scan at found
      split at found
      · cases found
      · cases found
      · rename_i first isFirst
        split at found
        · rename_i firstTaken
          obtain ⟨position, inFuel, later⟩ := ih found
          refine ⟨position, by omega, Nat.le_of_succ_le later.notBefore,
            later.isCandidate, later.free, ?_⟩
          intro earlier fromStart before
          rcases Nat.eq_or_lt_of_le fromStart with rfl | afterStart
          · exact ⟨first, isFirst, firstTaken⟩
          · exact later.takenBefore earlier afterStart before
        · rename_i firstFree
          cases found
          refine ⟨offset, by omega, Nat.le_refl offset, isFirst,
            by simpa using firstFree, ?_⟩
          intro earlier fromStart before
          omega

/-- The walk comes back empty only when every candidate up to the end is
taken. -/
theorem taken_of_scan_none {fuel offset stop : Nat}
    (enough : stop ≤ offset + fuel)
    (candidates : ∀ position, offset ≤ position → position < stop →
      ∃ value, candidate position = .ok (some value))
    (nothing : scan candidate taken fuel offset = .ok none)
    {position : Nat} {value : α}
    (fromStart : offset ≤ position) (beforeStop : position < stop)
    (isCandidate : candidate position = .ok (some value)) :
    taken value = true := by
  induction fuel generalizing offset with
  | zero => omega
  | succ fuel ih =>
      obtain ⟨first, isFirst⟩ := candidates offset (Nat.le_refl offset) (by omega)
      rw [scan, isFirst] at nothing
      dsimp only at nothing
      split at nothing
      · rename_i firstTaken
        rcases Nat.eq_or_lt_of_le fromStart with rfl | afterStart
        · rw [isFirst] at isCandidate
          cases isCandidate
          exact firstTaken
        · exact ih (by omega)
            (fun other fromNext => candidates other (by omega)) nothing
            afterStart
      · cases nothing

theorem failed_of_scan_error {fuel offset : Nat} {failure : τ}
    (failed : scan candidate taken fuel offset = .error failure) :
    ∃ position, offset ≤ position ∧ position < offset + fuel ∧
      candidate position = .error failure ∧ ∀ earlier, offset ≤ earlier →
        earlier < position → ∃ other,
          candidate earlier = .ok (some other) ∧ taken other = true := by
  induction fuel generalizing offset with
  | zero => cases failed
  | succ fuel ih =>
      unfold scan at failed
      split at failed
      · rename_i reported isFailure
        cases failed
        refine ⟨offset, Nat.le_refl offset, by omega, isFailure, ?_⟩
        intro earlier fromStart before
        omega
      · cases failed
      · rename_i first isFirst
        split at failed
        · rename_i firstTaken
          obtain ⟨position, afterStart, inFuel, fails, before⟩ :=
            ih failed
          refine ⟨position, by omega, by omega, fails, ?_⟩
          intro earlier fromStart earlierBefore
          rcases Nat.eq_or_lt_of_le fromStart with rfl | fromNext
          · exact ⟨first, isFirst, firstTaken⟩
          · exact before earlier fromNext earlierBefore
        · cases failed

/-- A free candidate behind candidates only keeps the walk from coming back
empty-handed. -/
theorem exists_of_free {fuel offset position : Nat} {value : α}
    (fromStart : offset ≤ position) (inFuel : position < offset + fuel)
    (candidates : ∀ earlier, offset ≤ earlier → earlier ≤ position →
      ∃ other, candidate earlier = .ok (some other))
    (isCandidate : candidate position = .ok (some value))
    (free : taken value = false) :
    ∃ found, scan candidate taken fuel offset = .ok (some found) := by
  cases walked : scan candidate taken fuel offset with
  | error failure =>
      obtain ⟨stop, afterStart, _, fails, before⟩ :=
        failed_of_scan_error walked
      by_cases behind : position < stop
      · obtain ⟨other, isOther, isTaken⟩ := before position fromStart behind
        rw [isCandidate] at isOther
        cases isOther
        rw [free] at isTaken
        cases isTaken
      · obtain ⟨other, isOther⟩ := candidates stop afterStart (by omega)
        rw [fails] at isOther
        cases isOther
  | ok result =>
      cases result with
      | some found => exact ⟨found, rfl⟩
      | none =>
          have all : ∀ earlier, offset ≤ earlier → earlier < position + 1 →
              ∃ other, candidate earlier = .ok (some other) := by
            intro earlier afterStart before
            exact candidates earlier afterStart (by omega)
          have isTaken := taken_of_scan_none (by omega) all walked fromStart
            (by omega) isCandidate
          rw [free] at isTaken
          cases isTaken

end FirstFree
