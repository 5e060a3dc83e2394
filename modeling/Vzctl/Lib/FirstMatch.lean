import Mathlib.Data.List.Basic

/-!
# Ordered rules

A list of rules read from the front: the first rule that applies decides, and
a policy decides when none does.
-/

structure FirstMatch (Rule Packet Verdict : Type) where
  applies : Rule → Packet → Bool
  verdict : Rule → Verdict
  policy : Verdict

namespace FirstMatch

variable {Rule Packet Verdict : Type}
  (filter : FirstMatch Rule Packet Verdict)
  {rules front back : List Rule} {packet : Packet}

/-- The rule that decides. -/
def deciding (rules : List Rule) (packet : Packet) : Option Rule :=
  rules.find? fun rule => filter.applies rule packet

def run (rules : List Rule) (packet : Packet) : Verdict :=
  (filter.deciding rules packet).elim filter.policy filter.verdict

/-- No rule applies. -/
def Ignores (rules : List Rule) (packet : Packet) : Prop :=
  ∀ rule ∈ rules, filter.applies rule packet = false

theorem deciding_eq_none_iff :
    filter.deciding rules packet = none ↔ filter.Ignores rules packet := by
  simp [deciding, Ignores]

theorem ignores_or_exists :
    filter.Ignores rules packet ∨
      ∃ rule ∈ rules, filter.applies rule packet = true := by
  by_cases decided : ∃ rule ∈ rules, filter.applies rule packet = true
  · exact .inr decided
  · left
    intro rule member
    cases applies : filter.applies rule packet with
    | false => rfl
    | true => exact absurd ⟨rule, member, applies⟩ decided

variable {filter}

theorem run_nil : filter.run [] packet = filter.policy := rfl

theorem run_of_ignores (ignored : filter.Ignores rules packet) :
    filter.run rules packet = filter.policy := by
  rw [run, filter.deciding_eq_none_iff.mpr ignored]
  rfl

theorem run_cons_of_applies {rule : Rule}
    (applies : filter.applies rule packet = true) :
    filter.run (rule :: rules) packet = filter.verdict rule := by
  simp [run, deciding, applies]

theorem run_cons_of_not {rule : Rule}
    (passedOver : filter.applies rule packet = false) :
    filter.run (rule :: rules) packet = filter.run rules packet := by
  simp [run, deciding, passedOver]

theorem run_append_of_ignores (ignored : filter.Ignores front packet) :
    filter.run (front ++ back) packet = filter.run back packet := by
  have nothing : filter.deciding front packet = none :=
    filter.deciding_eq_none_iff.mpr ignored
  unfold deciding at nothing
  simp [run, deciding, List.find?_append, nothing]

theorem run_append_of_exists
    (decided : ∃ rule ∈ front, filter.applies rule packet = true) :
    filter.run (front ++ back) packet = filter.run front packet := by
  cases found : filter.deciding front packet with
  | none =>
      obtain ⟨rule, member, applies⟩ := decided
      have passedOver :=
        filter.deciding_eq_none_iff.mp found rule member
      rw [passedOver] at applies
      cases applies
  | some rule =>
      unfold deciding at found
      simp [run, deciding, List.find?_append, found]

theorem run_append_ignored (ignored : filter.Ignores back packet) :
    filter.run (front ++ back) packet = filter.run front packet := by
  rcases filter.ignores_or_exists with frontIgnored | decided
  · rw [run_append_of_ignores frontIgnored, run_of_ignores ignored,
      run_of_ignores frontIgnored]
  · exact run_append_of_exists decided

theorem run_append_congr {other : List Rule}
    (same : filter.run back packet = filter.run other packet) :
    filter.run (front ++ back) packet = filter.run (front ++ other) packet := by
  rcases filter.ignores_or_exists with ignored | decided
  · rw [run_append_of_ignores ignored, run_append_of_ignores ignored, same]
  · rw [run_append_of_exists decided, run_append_of_exists decided]

theorem run_eq_policy
    (agree : ∀ rule ∈ rules, filter.applies rule packet = true →
      filter.verdict rule = filter.policy) :
    filter.run rules packet = filter.policy := by
  induction rules with
  | nil => exact run_nil
  | cons rule rest ih =>
      cases applies : filter.applies rule packet with
      | true =>
          rw [run_cons_of_applies applies,
            agree rule List.mem_cons_self applies]
      | false =>
          rw [run_cons_of_not applies]
          exact ih fun other member =>
            agree other (List.mem_cons_of_mem rule member)

/-- With one verdict for all rules, the verdict is given exactly when some
rule applies. -/
theorem run_eq_iff_of_uniform {verdict : Verdict}
    (uniform : ∀ rule ∈ rules, filter.verdict rule = verdict)
    (otherPolicy : filter.policy ≠ verdict) :
    filter.run rules packet = verdict ↔
      ∃ rule ∈ rules, filter.applies rule packet = true := by
  induction rules with
  | nil => simp [run_nil, otherPolicy]
  | cons rule rest ih =>
      have ofRest := ih fun other member =>
        uniform other (List.mem_cons_of_mem rule member)
      cases applies : filter.applies rule packet with
      | true =>
          have given := uniform rule List.mem_cons_self
          simp [run_cons_of_applies applies, given, applies]
      | false =>
          rw [run_cons_of_not applies, ofRest]
          simp [applies]

end FirstMatch
