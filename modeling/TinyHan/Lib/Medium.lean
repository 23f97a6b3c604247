/-
**Devices on a shared medium.**

A system is a family of devices and the medium they share. A device makes a move when its user calls
it or when it hears a message, and everything it sends in a move goes on the medium, together with
the message whose reception provoked it. Any other device may then hear the message once, several
times (`again`), much later, or never: losing a copy is an action of its own.

The medium keeps every message under a number and knows which of them a device can no longer hear.
`System.history` remembers the moves. `System.run_induction` is the induction over runs, for runs
whose actions all meet a condition.
-/

import Mathlib.Logic.Function.Basic

namespace TinyHan.Lib

/-- A message on the medium, with the number of the message that provoked it. -/
structure Sent (P M : Type) where
  sender : P
  message : M
  cause : Option Nat

/-- The messages of a run, and which of them a device can no longer hear. -/
structure Medium (P M : Type) where
  sent : List (Sent P M)
  closed : P → Nat → Bool

/-- A move of a device: the state before and after it. -/
structure Move (P S : Type) where
  party : P
  before : S
  after : S

/-- What a device does when it is called and when it hears a message, and what it sent in a move. -/
structure Device (S C M R : Type) where
  call : S → C → S
  hear : S → M → R → S
  sent : S → S → List M

/-- The devices, the medium and the moves so far. -/
structure System (P S M : Type) where
  device : P → S
  medium : Medium P M
  history : List (Move P S)

/-- A user calls a device, a device hears a message (and may hear it `again`), or a copy is lost. -/
inductive Action (P C R : Type) where
  | call (party : P) (call : C)
  | hear (party : P) (number : Nat) (quality : R) (again : Bool)
  | lose (party : P) (number : Nat)

section Medium

variable {P M : Type} [DecidableEq P]

/-- The message a device can hear under a number. -/
def Medium.deliverable (medium : Medium P M) (receiver : P) (number : Nat) : Option (Sent P M) :=
  medium.sent[number]?.filter fun sent =>
    sent.sender ≠ receiver ∧ medium.closed receiver number = false

/-- A device sends messages. -/
def Medium.put (medium : Medium P M) (sender : P) (cause : Option Nat) (messages : List M) :
    Medium P M :=
  { medium with sent := medium.sent ++ messages.map fun message => ⟨sender, message, cause⟩ }

/-- A device can no longer hear a message. -/
def Medium.close (medium : Medium P M) (receiver : P) (number : Nat) : Medium P M :=
  { medium with closed := fun party other =>
      (party = receiver ∧ other = number) || medium.closed party other }

theorem deliverable_eq_some {medium : Medium P M} {receiver : P} {number : Nat} {sent : Sent P M} :
    medium.deliverable receiver number = some sent ↔
      medium.sent[number]? = some sent ∧ sent.sender ≠ receiver ∧
        medium.closed receiver number = false := by
  simp [Medium.deliverable, Option.filter_eq_some_iff]

/-- What can be heard after a device has sent was there before, or is one of its messages. -/
theorem deliverable_put {medium : Medium P M} {sender receiver : P} {cause : Option Nat}
    {messages : List M} {number : Nat} {sent : Sent P M}
    (heard : (medium.put sender cause messages).deliverable receiver number = some sent) :
    medium.deliverable receiver number = some sent ∨
      sent.message ∈ messages ∧ sent.sender = sender := by
  obtain ⟨found, other, left⟩ := deliverable_eq_some.mp heard
  rw [Medium.put, List.getElem?_append] at found
  split at found
  · exact .inl (deliverable_eq_some.mpr ⟨found, other, left⟩)
  · obtain ⟨message, member, rfl⟩ := List.mem_map.mp (List.mem_of_getElem? found)
    exact .inr ⟨member, rfl⟩

/-- What can be heard after a copy is gone could be heard before. -/
theorem deliverable_close {medium : Medium P M} {party receiver : P} {gone number : Nat}
    {sent : Sent P M}
    (heard : (medium.close party gone).deliverable receiver number = some sent) :
    medium.deliverable receiver number = some sent := by
  obtain ⟨found, other, left⟩ := deliverable_eq_some.mp heard
  refine deliverable_eq_some.mpr ⟨found, other, ?_⟩
  simp only [Medium.close, Bool.or_eq_false_iff] at left
  exact left.2

omit [DecidableEq P] in
/-- Messages keep their numbers. -/
theorem sent_put {medium : Medium P M} {number : Nat} {sent : Sent P M}
    (found : medium.sent[number]? = some sent) (sender : P) (cause : Option Nat)
    (messages : List M) : (medium.put sender cause messages).sent[number]? = some sent := by
  obtain ⟨small, -⟩ := List.getElem?_eq_some_iff.mp found
  rw [Medium.put, List.getElem?_append_left small, found]

omit [DecidableEq P] in
/-- A message is an old one, or was just sent. -/
theorem sent_put_cases {medium : Medium P M} {sender : P} {cause : Option Nat} {messages : List M}
    {number : Nat} {sent : Sent P M}
    (found : (medium.put sender cause messages).sent[number]? = some sent) :
    medium.sent[number]? = some sent ∨
      sent.message ∈ messages ∧ sent.sender = sender ∧ sent.cause = cause := by
  rw [Medium.put, List.getElem?_append] at found
  split at found
  · exact .inl found
  · obtain ⟨message, member, rfl⟩ := List.mem_map.mp (List.mem_of_getElem? found)
    exact .inr ⟨member, rfl, rfl⟩

end Medium

section System

variable {P S C M R : Type} [DecidableEq P] (device : Device S C M R)

/-- A device makes a move. -/
def System.move (system : System P S M) (party : P) (cause : Option Nat) (after : S) :
    System P S M where
  device := Function.update system.device party after
  medium := system.medium.put party cause (device.sent (system.device party) after)
  history := system.history ++ [⟨party, system.device party, after⟩]

/-- A copy of a message is gone. -/
def System.close (system : System P S M) (party : P) (number : Nat) : System P S M :=
  { system with medium := system.medium.close party number }

/-- One action. What cannot be heard changes nothing. -/
def System.step (system : System P S M) : Action P C R → System P S M
  | .call party call => system.move device party none (device.call (system.device party) call)
  | .hear party number quality again =>
      match system.medium.deliverable party number with
      | some sent =>
          let left := if again then system else system.close party number
          left.move device party (some number)
            (device.hear (system.device party) sent.message quality)
      | none => system
  | .lose party number => system.close party number

/-- A run. -/
def System.run (system : System P S M) (actions : List (Action P C R)) : System P S M :=
  actions.foldl (System.step device) system

/-- Every action of the run meets `cond`, in the state before it. -/
def System.Along (cond : System P S M → Action P C R → Prop) (system : System P S M) :
    List (Action P C R) → Prop
  | [] => True
  | action :: actions =>
      cond system action ∧ System.Along cond (system.step device action) actions

instance System.decidableAlong (cond : System P S M → Action P C R → Prop)
    [∀ system action, Decidable (cond system action)] (system : System P S M)
    (actions : List (Action P C R)) : Decidable (system.Along device cond actions) :=
  match actions with
  | [] => .isTrue trivial
  | action :: actions =>
      have := System.decidableAlong cond (system.step device action) actions
      inferInstanceAs (Decidable (_ ∧ _))

variable {device}

/-- **The induction over runs.** A property that survives every call, every reception and every loss
holds at the end of a run whose actions meet the condition. -/
theorem System.run_induction {motive : System P S M → Prop}
    {cond : System P S M → Action P C R → Prop}
    (calls : ∀ {system} party call, motive system → cond system (.call party call) →
      motive (system.move device party none (device.call (system.device party) call)))
    (hears : ∀ {system} party number quality again sent, motive system →
      cond system (.hear party number quality again) →
      system.medium.deliverable party number = some sent →
      motive (system.move device party (some number)
        (device.hear (system.device party) sent.message quality)))
    (loses : ∀ {system} party number, motive system → motive (system.close party number))
    {system : System P S M} (start : motive system) (actions : List (Action P C R))
    (along : system.Along device cond actions) : motive (system.run device actions) := by
  induction actions generalizing system with
  | nil => exact start
  | cons action actions ih =>
      obtain ⟨now, later⟩ := along
      refine ih ?_ later
      cases action with
      | call party call => exact calls party call start now
      | lose party number => exact loses party number start
      | hear party number quality again =>
          simp only [System.step]
          split
          · next sent heard =>
            cases again with
            | true => exact hears party number quality true sent start now heard
            | false =>
                -- the copy that was heard is gone from the medium only afterwards
                exact loses party number (hears party number quality false sent start now heard)
          · exact start

/-- A condition that every action meets. -/
theorem System.along_always {cond : System P S M → Action P C R → Prop}
    (always : ∀ system action, cond system action) (system : System P S M)
    (actions : List (Action P C R)) : system.Along device cond actions := by
  induction actions generalizing system with
  | nil => trivial
  | cons action actions ih => exact ⟨always system action, ih _⟩

/-- A property that survives every call, every reception and every loss holds at the end of every
run. -/
theorem System.run_invariant {motive : System P S M → Prop}
    (calls : ∀ {system} party call, motive system →
      motive (system.move device party none (device.call (system.device party) call)))
    (hears : ∀ {system} party number quality sent, motive system →
      system.medium.deliverable party number = some sent →
      motive (system.move device party (some number)
        (device.hear (system.device party) sent.message quality)))
    (loses : ∀ {system} party number, motive system → motive (system.close party number))
    {system : System P S M} (start : motive system) (actions : List (Action P C R)) :
    motive (system.run device actions) :=
  System.run_induction (fun party call holds _ => calls party call holds)
    (fun party number quality _ sent holds _ heard => hears party number quality sent holds heard)
    loses start actions (System.along_always (fun _ _ => trivial) system actions)

end System

end TinyHan.Lib
