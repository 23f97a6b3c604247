/-
**Exactly-once completion, abstractly.**

A desk has owners that hold at most one ticket each. A free owner may be issued a fresh ticket, and
an owner may complete the ticket it holds; the history records both. Two facts hold of the history
of every run: no ticket is completed twice (`Orderly.once`), and an owner is only issued a ticket
after all its earlier ones were completed (`Orderly.exclusive`). A system that keeps such a desk is
shown to do so by a simulation into `Desk.Step`.
-/

import Mathlib.Logic.Function.Basic
import Mathlib.Logic.Relation
import TinyHan.Lib.History

namespace TinyHan.Lib

/-- An entry of the history. -/
inductive Ticket (Owner Id : Type) where
  | issue (owner : Owner) (id : Id)
  | complete (owner : Owner) (id : Id)
  deriving DecidableEq

/-- The entry completes the ticket, for whichever owner. -/
def Ticket.completes {Owner Id : Type} [DecidableEq Id] (id : Id) : Ticket Owner Id → Bool
  | .issue _ _ => false
  | .complete _ other => other == id

/-- The ticket each owner holds, and the history. -/
structure Desk (Owner Id : Type) where
  held : Owner → Option Id
  history : List (Ticket Owner Id)

section Desk

variable {Owner Id : Type} [DecidableEq Owner]

/-- The owner is issued a ticket. -/
def Desk.issue (desk : Desk Owner Id) (owner : Owner) (id : Id) : Desk Owner Id :=
  ⟨Function.update desk.held owner (some id), desk.history ++ [.issue owner id]⟩

/-- The owner completes its ticket. -/
def Desk.complete (desk : Desk Owner Id) (owner : Owner) (id : Id) : Desk Owner Id :=
  ⟨Function.update desk.held owner none, desk.history ++ [.complete owner id]⟩

/-- The moves of a desk. -/
inductive Desk.Step : Desk Owner Id → Desk Owner Id → Prop where
  | issue (desk : Desk Owner Id) (owner : Owner) (id : Id) (free : desk.held owner = none)
      (fresh : ∀ other, .issue other id ∉ desk.history) : Desk.Step desk (desk.issue owner id)
  | complete (desk : Desk Owner Id) (owner : Owner) (id : Id) (held : desk.held owner = some id) :
      Desk.Step desk (desk.complete owner id)

/-- What holds of every desk that is reached. -/
structure Desk.Orderly [DecidableEq Id] (desk : Desk Owner Id) : Prop where
  issued : ∀ {owner id}, desk.held owner = some id → .issue owner id ∈ desk.history
  pending : ∀ {owner id}, desk.held owner = some id →
    desk.history.countP (Ticket.completes id) = 0
  completed : ∀ {owner id}, .complete owner id ∈ desk.history → .issue owner id ∈ desk.history
  owned : ∀ {one two id}, .issue one id ∈ desk.history → .issue two id ∈ desk.history → one = two
  settled : ∀ {owner id}, .issue owner id ∈ desk.history →
    .complete owner id ∈ desk.history ∨ desk.held owner = some id
  once : ∀ id, desk.history.countP (Ticket.completes id) ≤ 1
  exclusive : ∀ {earlier later : List (Ticket Owner Id)} {owner id other},
    desk.history = earlier ++ .issue owner id :: later → .issue owner other ∈ earlier →
      .complete owner other ∈ earlier

section Completions

omit [DecidableEq Owner]
variable [DecidableEq Id] (history : List (Ticket Owner Id)) (owner : Owner) (id other : Id)

theorem countP_issue :
    (history ++ [Ticket.issue owner other]).countP (Ticket.completes id) =
      history.countP (Ticket.completes id) := by
  simp [Ticket.completes]

theorem countP_complete :
    (history ++ [Ticket.complete owner other]).countP (Ticket.completes id) =
      history.countP (Ticket.completes id) + if other = id then 1 else 0 := by
  simp [List.countP_cons, Ticket.completes]

theorem countP_eq_zero_of_unissued {history : List (Ticket Owner Id)} {id : Id}
    (completed : ∀ {owner}, .complete owner id ∈ history → .issue owner id ∈ history)
    (fresh : ∀ owner, .issue owner id ∉ history) : history.countP (Ticket.completes id) = 0 := by
  rw [List.countP_eq_zero]
  intro entry member completes
  cases entry with
  | issue owner other => cases completes
  | complete owner other =>
      rw [Ticket.completes, beq_iff_eq] at completes
      subst completes
      exact fresh owner (completed member)

theorem Desk.Orderly.empty : Desk.Orderly (⟨fun _ => none, []⟩ : Desk Owner Id) where
  issued held := by cases held
  pending held := by cases held
  completed mem := by cases mem
  owned mem := by cases mem
  settled mem := by cases mem
  once id := Nat.zero_le 1
  exclusive same := by simp at same

end Completions

variable [DecidableEq Id]

theorem Desk.Orderly.issue {desk : Desk Owner Id} (orderly : desk.Orderly) {owner : Owner} {id : Id}
    (free : desk.held owner = none) (fresh : ∀ other, .issue other id ∉ desk.history) :
    (desk.issue owner id).Orderly where
  issued {holder ticket} held := by
    dsimp only [Desk.issue] at held ⊢
    by_cases here : holder = owner
    · subst here
      rw [Function.update_self, Option.some.injEq] at held
      simp [held]
    · rw [Function.update_of_ne here] at held
      exact List.mem_append_left _ (orderly.issued held)
  pending {holder ticket} held := by
    dsimp only [Desk.issue] at held ⊢
    rw [countP_issue]
    by_cases here : holder = owner
    · subst here
      rw [Function.update_self, Option.some.injEq] at held
      subst held
      exact countP_eq_zero_of_unissued orderly.completed fresh
    · rw [Function.update_of_ne here] at held
      exact orderly.pending held
  completed {holder ticket} member := by
    have old : .complete holder ticket ∈ desk.history := by simpa [Desk.issue] using member
    exact List.mem_append_left _ (orderly.completed old)
  owned {one two ticket} first second := by
    rcases List.mem_append.mp first with first | first <;>
      rcases List.mem_append.mp second with second | second
    · exact orderly.owned first second
    · cases List.mem_singleton.mp second
      exact absurd first (fresh one)
    · cases List.mem_singleton.mp first
      exact absurd second (fresh two)
    · cases List.mem_singleton.mp first
      cases List.mem_singleton.mp second
      rfl
  settled {holder ticket} member := by
    rcases List.mem_append.mp member with member | member
    · rcases orderly.settled member with done | held
      · exact .inl (List.mem_append_left _ done)
      · have elsewhere : holder ≠ owner := by
          rintro rfl
          rw [free] at held
          cases held
        exact .inr ((Function.update_of_ne elsewhere _ _).trans held)
    · cases List.mem_singleton.mp member
      exact .inr (Function.update_self ..)
  once ticket := by
    rw [Desk.issue, countP_issue]
    exact orderly.once ticket
  exclusive {earlier later holder ticket other} same before := by
    rcases append_singleton_eq_append_cons same with ⟨rfl, entry, -⟩ | ⟨rest, -, inner⟩
    · cases entry
      exact (orderly.settled before).resolve_right (by rw [free]; exact nofun)
    · exact orderly.exclusive inner before

theorem Desk.Orderly.complete {desk : Desk Owner Id} (orderly : desk.Orderly) {owner : Owner}
    {id : Id} (held : desk.held owner = some id) :
    (desk.complete owner id).Orderly where
  issued {holder ticket} holds := by
    dsimp only [Desk.complete] at holds ⊢
    by_cases here : holder = owner
    · subst here
      rw [Function.update_self] at holds
      cases holds
    · rw [Function.update_of_ne here] at holds
      exact List.mem_append_left _ (orderly.issued holds)
  pending {holder ticket} holds := by
    dsimp only [Desk.complete] at holds ⊢
    by_cases here : holder = owner
    · subst here
      rw [Function.update_self] at holds
      cases holds
    · rw [Function.update_of_ne here] at holds
      have different : id ≠ ticket := by
        rintro rfl
        exact here (orderly.owned (orderly.issued holds) (orderly.issued held))
      rw [countP_complete, if_neg different]
      exact orderly.pending holds
  completed {holder ticket} member := by
    rcases List.mem_append.mp member with member | member
    · exact List.mem_append_left _ (orderly.completed member)
    · cases List.mem_singleton.mp member
      exact List.mem_append_left _ (orderly.issued held)
  owned {one two ticket} first second :=
    orderly.owned (by simpa [Desk.complete] using first) (by simpa [Desk.complete] using second)
  settled {holder ticket} member := by
    rcases orderly.settled (by simpa [Desk.complete] using member) with
      done | holds
    · exact .inl (List.mem_append_left _ done)
    · by_cases here : holder = owner
      · subst here
        rw [held, Option.some.injEq] at holds
        subst holds
        exact .inl (by simp [Desk.complete])
      · exact .inr ((Function.update_of_ne here _ _).trans holds)
  once ticket := by
    rw [Desk.complete, countP_complete]
    split
    · next same =>
      subst same
      have none := orderly.pending held
      omega
    · exact orderly.once ticket
  exclusive {earlier later holder ticket other} same before := by
    rcases append_singleton_eq_append_cons same with ⟨-, entry, -⟩ | ⟨rest, -, inner⟩
    · cases entry
    · exact orderly.exclusive inner before

/-- **Every move keeps a desk orderly.** -/
theorem Desk.Orderly.step {desk after : Desk Owner Id} (orderly : desk.Orderly)
    (step : Desk.Step desk after) : after.Orderly := by
  cases step with
  | issue owner id free fresh => exact orderly.issue free fresh
  | complete owner id held => exact orderly.complete held

/-- What the moves of a desk reach is orderly. -/
theorem Desk.Orderly.steps {desk after : Desk Owner Id} (orderly : desk.Orderly)
    (steps : Relation.ReflTransGen Desk.Step desk after) : after.Orderly := by
  induction steps with
  | refl => exact orderly
  | tail _ step ih => exact ih.step step

end Desk

end TinyHan.Lib
