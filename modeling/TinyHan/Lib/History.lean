/-
**What has happened so far.**

A log grows by one event at a time. A view of a log is a fold over its events: what is known after
them (`view_snoc`). `Always P log` says that every event of the log met `P`, a condition on the
events before it and the event; it is kept by an event that meets the condition now
(`always_snoc`).
-/

import Mathlib.Data.List.Basic

namespace TinyHan.Lib

/-- The last entry of a history, or one before it. -/
theorem append_singleton_eq_append_cons {α : Type} {entries earlier later : List α} {last entry : α}
    (same : entries ++ [last] = earlier ++ entry :: later) :
    (entries = earlier ∧ last = entry ∧ later = []) ∨
      ∃ rest, later = rest ++ [last] ∧ entries = earlier ++ entry :: rest := by
  rcases List.eq_nil_or_concat later with rfl | ⟨rest, final, rfl⟩
  · obtain ⟨front, back⟩ := List.append_inj' same rfl
    cases back
    exact .inl ⟨front, rfl, rfl⟩
  · rw [List.concat_eq_append, ← List.cons_append, ← List.append_assoc] at same
    obtain ⟨front, back⟩ := List.append_inj' same rfl
    cases back
    exact .inr ⟨rest, List.concat_eq_append, front⟩

section Log

variable {Event View : Type}

/-- What is known after the events of a log. -/
def view (observe : View → Event → View) (start : View) (log : List Event) : View :=
  log.foldl observe start

@[simp] theorem view_nil (observe : View → Event → View) (start : View) :
    view observe start [] = start := rfl

@[simp] theorem view_snoc (observe : View → Event → View) (start : View) (log : List Event)
    (event : Event) :
    view observe start (log ++ [event]) = observe (view observe start log) event := by
  simp [view]

/-- Every event of the log met the condition, with the events before it. -/
def Always (P : List Event → Event → Prop) (log : List Event) : Prop :=
  ∀ front event back, log = front ++ event :: back → P front event

variable {P Q : List Event → Event → Prop} {log : List Event}

theorem always_nil : Always P [] := by
  intro front event back is
  cases front <;> cases is

theorem always_snoc {event : Event} : Always P (log ++ [event]) ↔ Always P log ∧ P log event := by
  constructor
  · intro always
    refine ⟨fun front earlier back is => always front earlier (back ++ [event]) ?_,
      always log event [] rfl⟩
    rw [is, List.append_assoc, List.cons_append]
  · rintro ⟨always, last⟩ front earlier back is
    rcases append_singleton_eq_append_cons is with ⟨rfl, rfl, -⟩ | ⟨rest, -, inner⟩
    · exact last
    · exact always front earlier rest inner

theorem Always.mono (always : Always P log)
    (weaker : ∀ front event, P front event → Q front event) : Always Q log :=
  fun front event back is => weaker front event (always front event back is)

end Log

end TinyHan.Lib
