import Mathlib.Data.List.Basic
import Vzctl.Lib.Procedure

/-!
# Loops that stop at the first failure

A loop calls something for one item after the other and leaves at the first
item whose call fails.  The items it has called for are a prefix of all items;
they are all items exactly when no call but the last one fails.
-/

namespace Attempts

universe u v w

variable {β : Type u} {κ : Type v} {ε : Type w}

/-- The items for which a call is made. -/
def reached (outcome : β → Except ε PUnit.{u + 1}) : List β → List β
  | [] => []
  | item :: rest =>
      match outcome item with
      | .ok _ => item :: reached outcome rest
      | .error _ => [item]

/-- The first failure. -/
def verdict (outcome : β → Except ε PUnit.{u + 1}) : List β → Except ε PUnit.{u + 1}
  | [] => .ok ⟨⟩
  | item :: rest =>
      match outcome item with
      | .ok _ => verdict outcome rest
      | .error failure => .error failure

variable {outcome : β → Except ε PUnit.{u + 1}} {item : β} {items rest : List β}

theorem reached_cons_of_ok (succeeds : outcome item = .ok ⟨⟩) :
    reached outcome (item :: rest) = item :: reached outcome rest := by
  rw [reached, succeeds]

theorem reached_cons_of_error {failure : ε}
    (fails : outcome item = .error failure) :
    reached outcome (item :: rest) = [item] := by
  rw [reached, fails]

theorem verdict_cons_of_ok (succeeds : outcome item = .ok ⟨⟩) :
    verdict outcome (item :: rest) = verdict outcome rest := by
  rw [verdict, succeeds]

theorem verdict_cons_of_error {failure : ε}
    (fails : outcome item = .error failure) :
    verdict outcome (item :: rest) = .error failure := by
  rw [verdict, fails]

theorem head_mem_reached : item ∈ reached outcome (item :: rest) := by
  cases called : outcome item with
  | ok _ =>
      rw [reached_cons_of_ok called]
      exact List.mem_cons_self
  | error _ =>
      rw [reached_cons_of_error called]
      exact List.mem_cons_self

theorem mem_of_mem_reached (member : item ∈ reached outcome items) :
    item ∈ items := by
  induction items with
  | nil => cases member
  | cons head tail ih =>
      cases called : outcome head with
      | ok _ =>
          rw [reached_cons_of_ok called] at member
          rcases List.mem_cons.mp member with same | behind
          · exact List.mem_cons.mpr (.inl same)
          · exact List.mem_cons_of_mem head (ih behind)
      | error _ =>
          rw [reached_cons_of_error called] at member
          exact List.mem_cons.mpr (.inl (List.mem_singleton.mp member))

theorem verdict_eq_ok_iff :
    verdict outcome items = .ok ⟨⟩ ↔
      ∀ item ∈ items, outcome item = .ok ⟨⟩ := by
  induction items with
  | nil =>
      constructor
      · intro _ item member
        cases member
      · intro _
        rfl
  | cons head tail ih =>
      rw [List.forall_mem_cons]
      cases called : outcome head with
      | ok _ =>
          rw [verdict_cons_of_ok called, ih]
          exact (and_iff_right rfl).symm
      | error failure =>
          rw [verdict_cons_of_error called]
          constructor
          · intro absurdity
            cases absurdity
          · intro both
            cases both.1

theorem succeeds_of_reached {before after : List β}
    (reachable : item ∈ reached outcome (before ++ item :: after))
    (fresh : item ∉ before) :
    ∀ earlier ∈ before, outcome earlier = .ok ⟨⟩ := by
  induction before with
  | nil =>
      intro earlier member
      cases member
  | cons head tail ih =>
      have notHead : item ≠ head := fun same =>
        fresh (List.mem_cons.mpr (.inl same))
      rw [List.cons_append] at reachable
      cases called : outcome head with
      | ok _ =>
          rw [reached_cons_of_ok called] at reachable
          have behind : item ∈ reached outcome (tail ++ item :: after) :=
            (List.mem_cons.mp reachable).resolve_left notHead
          have others := ih behind fun member =>
            fresh (List.mem_cons_of_mem head member)
          exact List.forall_mem_cons.mpr ⟨called, others⟩
      | error _ =>
          rw [reached_cons_of_error called] at reachable
          exact absurd (List.mem_singleton.mp reachable) notHead

theorem reached_eq_self
    (succeeds : ∀ item ∈ items.dropLast, outcome item = .ok ⟨⟩) :
    reached outcome items = items := by
  induction items with
  | nil => rfl
  | cons head tail ih =>
      cases tail with
      | nil =>
          cases called : outcome head with
          | ok _ =>
              rw [reached_cons_of_ok called]
              rfl
          | error _ => rw [reached_cons_of_error called]
      | cons next rest =>
          rw [List.dropLast_cons_cons, List.forall_mem_cons] at succeeds
          rw [reached_cons_of_ok succeeds.1,
            ih succeeds.2]

/-! ## The items behind the first failure -/

/-- The items for which no call is made. -/
def unreached (outcome : β → Except ε PUnit.{u + 1}) : List β → List β
  | [] => []
  | item :: rest =>
      match outcome item with
      | .ok _ => unreached outcome rest
      | .error _ => rest

theorem reached_append_unreached :
    reached outcome items ++ unreached outcome items = items := by
  induction items with
  | nil => rfl
  | cons head tail ih =>
      cases called : outcome head with
      | ok _ =>
          simp only [reached, unreached, called, List.cons_append,
            ih]
      | error _ => simp only [reached, unreached, called, List.cons_append,
          List.nil_append]

/-- What holds of the items that are not reached is told by every item and
those behind it. -/
theorem forall_unreached_iff {holds : β → Prop} :
    (∀ item ∈ unreached outcome items, holds item) ↔
      items.Pairwise fun earlier later =>
        outcome earlier = .ok ⟨⟩ ∨ holds later := by
  induction items with
  | nil => simp [unreached]
  | cons head tail ih =>
      rw [List.pairwise_cons]
      cases called : outcome head with
      | ok done =>
          have same : unreached outcome (head :: tail) =
              unreached outcome tail := by
            simp only [unreached, called]
          rw [same, ih]
          simp
      | error failure =>
          have same : unreached outcome (head :: tail) = tail := by
            simp only [unreached, called]
          rw [same]
          constructor
          · intro each
            have behind : tail.Pairwise fun earlier later =>
                outcome earlier = .ok ⟨⟩ ∨ holds later :=
              List.pairwise_of_forall_mem_list fun _ _ later member =>
                .inr (each later member)
            exact ⟨fun later member => .inr (each later member), behind⟩
          · intro both later member
            exact (both.1 later member).resolve_left nofun

/-! ## The loop as a procedure that keeps a log of its calls -/

def visit (items : List β) (call : β → κ) (outcome : β → Except ε PUnit.{u + 1}) :
    Procedure (List κ) ε PUnit :=
  .forEach items fun item =>
    (.writing fun log => .ok (log ++ [call item]) :
      Procedure (List κ) ε PUnit).bind fun _ log =>
        (outcome item, log)

theorem visit_run (items : List β) (call : β → κ)
    (outcome : β → Except ε PUnit.{u + 1}) (log : List κ) :
    visit items call outcome log =
      (verdict outcome items,
        log ++ (reached outcome items).map call) := by
  induction items generalizing log with
  | nil =>
      rw [reached, List.map_nil, List.append_nil]
      rfl
  | cons item rest ih =>
      cases called : outcome item with
      | ok _ =>
          have first : visit (item :: rest) call outcome log =
              visit rest call outcome (log ++ [call item]) := by
            simp only [visit, Procedure.forEach, Procedure.bind,
              Procedure.writing, called]
          rw [first, ih, verdict_cons_of_ok called,
            reached_cons_of_ok called, List.map_cons, List.append_assoc]
          rfl
      | error failure =>
          rw [verdict_cons_of_error called, reached_cons_of_error called]
          simp only [visit, Procedure.forEach, Procedure.bind,
            Procedure.writing, called]
          rfl

end Attempts
