/-
**Simulation between two systems on a medium.**

The lower and the upper system have the same parties. The states of a party are related, and so are
the messages with the same number (`Carries`). If every call of a lower device is matched by calls
of the upper one, and every reception by a reception and calls or by nothing at all, then every run
of the lower system is carried by a run of the upper one (`Carries.run`): what holds in all runs of
the upper system, and only speaks of its devices and its messages, holds of the lower one.

Receptions can be restricted: `System.clear` says of each message that is heard, and of how it is
heard, that it meets a condition. And a match may use what is `known` of the upper device in all
runs of the upper system.
-/

import Mathlib.Data.List.Forall2
import TinyHan.Lib.Medium

namespace TinyHan.Lib

/-! ### Calls in a row -/

section Calls

variable {P S C M R : Type} (device : Device S C M R)

/-- The state after some calls. -/
def Device.calls (state : S) (calls : List C) : S := calls.foldl device.call state

/-- What is sent in some calls. -/
def Device.sends (state : S) : List C → List M
  | [] => []
  | call :: calls =>
      device.sent state (device.call state call) ++ Device.sends (device.call state call) calls

@[simp] theorem Device.calls_nil (state : S) : device.calls state [] = state := rfl

theorem Device.calls_cons (state : S) (call : C) (calls : List C) :
    device.calls state (call :: calls) = device.calls (device.call state call) calls := rfl

@[simp] theorem Device.sends_nil (state : S) : device.sends state [] = [] := rfl

theorem Device.sends_cons (state : S) (call : C) (calls : List C) :
    device.sends state (call :: calls) =
      device.sent state (device.call state call) ++ device.sends (device.call state call) calls :=
  rfl

theorem Device.calls_append (state : S) (one two : List C) :
    device.calls state (one ++ two) = device.calls (device.calls state one) two :=
  List.foldl_append

variable [DecidableEq P]

theorem System.run_append (system : System P S M) (one two : List (Action P C R)) :
    system.run device (one ++ two) = (system.run device one).run device two :=
  List.foldl_append

/-- A party is called several times: its state, and what is on the medium. -/
theorem System.run_calls (system : System P S M) (party : P) (calls : List C) :
    (system.run device (calls.map (.call party))).device =
        Function.update system.device party (device.calls (system.device party) calls) ∧
      (system.run device (calls.map (.call party))).medium =
        system.medium.put party none (device.sends (system.device party) calls) := by
  induction calls generalizing system with
  | nil =>
      refine ⟨(Function.update_eq_self party system.device).symm, ?_⟩
      show system.medium = system.medium.put party none []
      rw [Medium.put, List.map_nil, List.append_nil]
  | cons call calls ih =>
      have moved : (system.step device (.call party call)).device party =
          device.call (system.device party) call := Function.update_self ..
      obtain ⟨devices, medium⟩ := ih (system.step device (.call party call))
      rw [List.map_cons]
      refine ⟨devices.trans ?_, medium.trans ?_⟩
      · rw [moved]
        exact Function.update_idem ..
      · rw [moved, Device.sends_cons, System.step, System.move, Medium.put, Medium.put, Medium.put,
          List.map_append, List.append_assoc]

/-- The system in which a message is heard: the copy stays on the medium, or is gone. -/
def System.hearing (system : System P S M) (party : P) (number : Nat) (again : Bool) :
    System P S M :=
  if again then system else system.close party number

@[simp] theorem System.hearing_device (system : System P S M) (party : P) (number : Nat)
    (again : Bool) : (system.hearing party number again).device = system.device := by
  cases again <;> rfl

theorem System.step_hear {system : System P S M} {party : P} {number : Nat} {heard : Sent P M}
    (found : system.medium.deliverable party number = some heard) (quality : R) (again : Bool) :
    system.step device (.hear party number quality again) =
      (system.hearing party number again).move device party (some number)
        (device.hear (system.device party) heard.message quality) := by
  rw [System.step, found]
  rfl

/-- The party goes to a state because it is called, or because it hears a message. -/
def System.Drives (system : System P S M) (action : Action P C R) (party : P) (after : S) : Prop :=
  (∃ call, action = .call party call ∧ after = device.call (system.device party) call) ∨
    ∃ number quality again sent, action = .hear party number quality again ∧
      system.medium.deliverable party number = some sent ∧
      after = device.hear (system.device party) sent.message quality

/-- **An action moves one party, or none.** -/
theorem System.step_moves (system : System P S M) (action : Action P C R) :
    let next := system.step device action
    (next.device = system.device ∧ next.history = system.history) ∨
      ∃ party after, system.Drives device action party after ∧
        next.device = Function.update system.device party after ∧
        next.history = system.history ++ [⟨party, system.device party, after⟩] := by
  cases action with
  | call party call => exact .inr ⟨party, _, .inl ⟨call, rfl, rfl⟩, rfl, rfl⟩
  | lose party number => exact .inl ⟨rfl, rfl⟩
  | hear party number quality again =>
      cases found : system.medium.deliverable party number with
      | none =>
          rw [System.step, found]
          exact .inl ⟨rfl, rfl⟩
      | some sent =>
          rw [System.step_hear device found]
          refine .inr ⟨party, device.hear (system.device party) sent.message quality,
            .inr ⟨number, quality, again, sent, rfl, found, rfl⟩, ?_, ?_⟩
          · cases again <;> rfl
          · cases again <;> rfl

/-- A party hears a message and is called several times. -/
theorem System.run_hear_calls {system : System P S M} {party : P} {number : Nat} {heard : Sent P M}
    (found : system.medium.deliverable party number = some heard) (quality : R) (again : Bool)
    (calls : List C) :
    let left := system.hearing party number again
    let state := device.hear (system.device party) heard.message quality
    let after := system.run device (.hear party number quality again :: calls.map (.call party))
    after.device = Function.update left.device party (device.calls state calls) ∧
      after.medium = { left.medium with
        sent := left.medium.sent ++
          ((device.sent (system.device party) state).map (⟨party, ·, some number⟩) ++
            (device.sends state calls).map (⟨party, ·, none⟩)) } := by
  intro left state after
  obtain ⟨devices, medium⟩ := System.run_calls device
    (left.move device party (some number) state) party calls
  have moved : (left.move device party (some number) state).device party = state :=
    Function.update_self ..
  have run : after = (left.move device party (some number) state).run device
      (calls.map (.call party)) := by
    rw [← System.step_hear device found quality again]
    rfl
  rw [run]
  constructor
  · rw [devices, moved]
    exact Function.update_idem ..
  · rw [medium, moved, System.move, Medium.put, Medium.put, List.append_assoc,
      System.hearing_device]

end Calls

/-! ### The relation -/

section Simulation

variable {P S C M R S' C' M' R' : Type}

/-- Two messages with the same number. -/
structure Relates (message : M → M' → Prop) (lower : Sent P M) (upper : Sent P M') : Prop where
  sender : lower.sender = upper.sender
  message : message lower.message upper.message

/-- The upper system carries the lower one: the states and the messages are related, and the same
messages can no longer be heard. -/
structure Carries (state : P → S → S' → Prop) (message : M → M' → Prop) (lower : System P S M)
    (upper : System P S' M') : Prop where
  device : ∀ party, state party (lower.device party) (upper.device party)
  sent : List.Forall₂ (Relates message) lower.medium.sent upper.medium.sent
  closed : lower.medium.closed = upper.medium.closed

/-- What can be heard is heard in a way that meets a condition. -/
def System.clear [DecidableEq P] (clear : M → R → Prop) (system : System P S M) :
    Action P C R → Prop
  | .hear party number quality _ =>
      ∀ sent, system.medium.deliverable party number = some sent → clear sent.message quality
  | _ => True

/-- Every message may be heard in every way. -/
theorem System.clear_always [DecidableEq P] (system : System P S M) (action : Action P C R) :
    system.clear (fun _ _ => True) action := by
  cases action with
  | hear party number quality again => exact fun _ _ => trivial
  | _ => trivial

/-- Messages of related lists have related messages with the same number. -/
theorem relates_getElem? {α β : Type} {related : α → β → Prop} {lower : List α} {upper : List β}
    (both : List.Forall₂ related lower upper) (number : Nat) :
    Option.Rel related lower[number]? upper[number]? := by
  induction both generalizing number with
  | nil => exact .none
  | cons first _ ih =>
      cases number with
      | zero => exact .some first
      | succ number => exact ih number

variable [DecidableEq P] {state : P → S → S' → Prop} {message : M → M' → Prop}
  {lower : System P S M} {upper : System P S' M'}

namespace Carries

/-- What can be heard below can be heard above. -/
theorem deliverable (carries : Carries state message lower upper) (party : P) (number : Nat) :
    lower.medium.deliverable party number = none ∨
      ∃ heard heard', lower.medium.deliverable party number = some heard ∧
        upper.medium.deliverable party number = some heard' ∧ Relates message heard heard' := by
  have both := relates_getElem? carries.sent number
  rw [Medium.deliverable, Medium.deliverable, carries.closed]
  generalize lower.medium.sent[number]? = low at both
  generalize upper.medium.sent[number]? = up at both
  cases both with
  | none => exact .inl rfl
  | @some heard heard' related =>
      rw [Option.filter_some, Option.filter_some, related.sender]
      split
      · exact .inr ⟨heard, heard', rfl, rfl, related⟩
      · exact .inl rfl

theorem close (carries : Carries state message lower upper) (party : P) (number : Nat) :
    Carries state message (lower.close party number) (upper.close party number) where
  device := carries.device
  sent := carries.sent
  closed := by
    simp only [System.close, Medium.close, carries.closed]

/-- A party moves in both systems, and sends related messages. -/
theorem moves (carries : Carries state message lower upper) {party : P} {low : S} {up : S'}
    (related : state party low up) {lowSent : List (Sent P M)} {upSent : List (Sent P M')}
    (sent : List.Forall₂ (Relates message) lowSent upSent) {after : System P S M}
    {after' : System P S' M'}
    (lowDevice : after.device = Function.update lower.device party low)
    (lowMedium : after.medium = { lower.medium with sent := lower.medium.sent ++ lowSent })
    (upDevice : after'.device = Function.update upper.device party up)
    (upMedium : after'.medium = { upper.medium with sent := upper.medium.sent ++ upSent }) :
    Carries state message after after' where
  device other := by
    rw [lowDevice, upDevice]
    by_cases same : other = party
    · subst same
      rw [Function.update_self, Function.update_self]
      exact related
    · rw [Function.update_of_ne same, Function.update_of_ne same]
      exact carries.device other
  sent := by
    rw [lowMedium, upMedium]
    exact List.rel_append carries.sent sent
  closed := by
    rw [lowMedium, upMedium]
    exact carries.closed

end Carries

omit [DecidableEq P] in
theorem messages_map (party : P) (cause : Option Nat) (messages : List M) :
    (messages.map fun message => (⟨party, message, cause⟩ : Sent P M)).map Sent.message =
      messages := by
  rw [List.map_map]
  exact List.map_id messages

omit [DecidableEq P] in
/-- Messages of one party, whatever provoked them. -/
theorem relates_own {party : P} (cause : Option Nat) {low : List M} {up : List (Sent P M')}
    (sent : List.Forall₂ message low (up.map Sent.message))
    (own : ∀ each ∈ up, each.sender = party) :
    List.Forall₂ (Relates message) (low.map fun message => (⟨party, message, cause⟩ : Sent P M))
      up := by
  rw [List.forall₂_map_right_iff] at sent
  rw [List.forall₂_map_left_iff]
  induction sent with
  | nil => exact .nil
  | cons first _ ih =>
      rw [List.forall_mem_cons] at own
      exact .cons ⟨own.1.symm, first⟩ (ih own.2)

/-! ### Runs -/

section Run

variable {low : Device S C M R} {up : Device S' C' M' R'} {clear : M → R → Prop}
  {known : P → S' → Prop}

/-- The calls of a device are matched by calls of the device above it. -/
def Device.CallsMatch (low : Device S C M R) (up : Device S' C' M' R')
    (state : P → S → S' → Prop) (message : M → M' → Prop) (known : P → S' → Prop) : Prop :=
  ∀ party before before' call, state party before before' → known party before' →
    ∃ calls, state party (low.call before call) (up.calls before' calls) ∧
      List.Forall₂ message (low.sent before (low.call before call)) (up.sends before' calls)

/-- The reception of a message is matched by a reception and calls, or it is ignored. -/
def Device.HearsMatch (low : Device S C M R) (up : Device S' C' M' R')
    (state : P → S → S' → Prop) (message : M → M' → Prop) (known : P → S' → Prop)
    (clear : M → R → Prop) : Prop :=
  ∀ party before before' heard heard' quality, state party before before' → known party before' →
    message heard heard' → clear heard quality →
    (∃ quality' calls,
      state party (low.hear before heard quality)
          (up.calls (up.hear before' heard' quality') calls) ∧
        List.Forall₂ message (low.sent before (low.hear before heard quality))
          (up.sent before' (up.hear before' heard' quality') ++
            up.sends (up.hear before' heard' quality') calls)) ∨
      state party (low.hear before heard quality) before' ∧
        low.sent before (low.hear before heard quality) = []

/-- A call of the lower device. -/
theorem Carries.called (carries : Carries state message lower upper)
    (callsMatch : low.CallsMatch up state message known)
    (sure : ∀ party, known party (upper.device party)) (party : P) (call : C) :
    ∃ actions : List (Action P C' R'),
      Carries state message (lower.step low (.call party call)) (upper.run up actions) := by
  obtain ⟨calls, related, sent⟩ := callsMatch party _ _ call (carries.device party) (sure party)
  obtain ⟨devices, medium⟩ := System.run_calls up upper party calls
  refine ⟨calls.map (.call party), carries.moves related (relates_own none ?_ ?_) rfl rfl devices
    medium⟩
  · rwa [messages_map]
  · rintro each member
    obtain ⟨_, -, rfl⟩ := List.mem_map.mp member
    rfl

/-- A message that is heard below. -/
theorem Carries.hears (carries : Carries state message lower upper)
    (hearsMatch : low.HearsMatch up state message known clear)
    (sure : ∀ party, known party (upper.device party)) {party : P} {number : Nat}
    {heard : Sent P M} {heard' : Sent P M'}
    (found : lower.medium.deliverable party number = some heard)
    (found' : upper.medium.deliverable party number = some heard')
    (related : Relates message heard heard') {quality : R} (clean : clear heard.message quality)
    (again : Bool) :
    ∃ actions : List (Action P C' R'), Carries state message
      (lower.step low (.hear party number quality again)) (upper.run up actions) := by
  have left : Carries state message (lower.hearing party number again)
      (upper.hearing party number again) := by
    cases again with
    | true => exact carries
    | false => exact carries.close party number
  have medium : ((lower.hearing party number again).move low party (some number)
      (low.hear (lower.device party) heard.message quality)).medium =
      { (lower.hearing party number again).medium with
        sent := (lower.hearing party number again).medium.sent ++
          (low.sent (lower.device party) (low.hear (lower.device party) heard.message quality)).map
            (⟨party, ·, some number⟩) } := by
    rw [System.move, Medium.put, System.hearing_device]
  rw [System.step_hear low found]
  rcases hearsMatch party _ _ _ _ quality (carries.device party) (sure party) related.message
    clean with ⟨quality', calls, after, sent⟩ | ⟨after, silent⟩
  · -- the message is heard above as well, and the calls follow
    obtain ⟨devices', medium'⟩ := System.run_hear_calls up found' quality' again calls
    refine ⟨_, left.moves after (relates_own (some number) ?_ ?_) rfl medium devices' medium'⟩
    · rwa [List.map_append, messages_map, messages_map]
    · rintro each member
      rcases List.mem_append.mp member with here | here <;>
        obtain ⟨_, -, rfl⟩ := List.mem_map.mp here <;> rfl
  · -- nothing happens above, but the copy may be gone
    have ignored : upper.run up (if again then [] else [.lose party number]) =
        upper.hearing party number again := by
      cases again <;> rfl
    refine ⟨if again then [] else [.lose party number], ?_⟩
    rw [ignored]
    refine left.moves after .nil rfl (medium.trans ?_) ?_ ?_
    · rw [silent, List.map_nil]
    · rw [System.hearing_device]
      exact (Function.update_eq_self party upper.device).symm
    · rw [List.append_nil]

variable (callsMatch : low.CallsMatch up state message known)
  (hearsMatch : low.HearsMatch up state message known clear)

include callsMatch hearsMatch

/-- **One action** of the lower system is a sequence of actions of the upper one. -/
theorem Carries.step (carries : Carries state message lower upper)
    (sure : ∀ party, known party (upper.device party)) (action : Action P C R)
    (clean : lower.clear clear action) :
    ∃ actions : List (Action P C' R'),
      Carries state message (lower.step low action) (upper.run up actions) := by
  cases action with
  | lose party number => exact ⟨[.lose party number], carries.close party number⟩
  | call party call => exact carries.called callsMatch sure party call
  | hear party number quality again =>
      rcases carries.deliverable party number with none | ⟨heard, heard', below, above, related⟩
      · rw [System.step, none]
        exact ⟨[], carries⟩
      · exact carries.hears hearsMatch sure below above related (clean heard below) again

/-- **Every run of the lower system is carried by a run of the upper one.** -/
theorem Carries.run (carries : Carries state message lower upper)
    (sure : ∀ (above : List (Action P C' R')) party,
      known party ((upper.run up above).device party))
    (actions : List (Action P C R)) (along : lower.Along low (System.clear clear) actions) :
    ∃ above : List (Action P C' R'),
      Carries state message (lower.run low actions) (upper.run up above) := by
  induction actions generalizing lower upper with
  | nil => exact ⟨[], carries⟩
  | cons action actions ih =>
      obtain ⟨clean, later⟩ := along
      obtain ⟨first, moved⟩ := carries.step callsMatch hearsMatch (sure []) action clean
      have still (above : List (Action P C' R')) (party : P) :
          known party (((upper.run up first).run up above).device party) := by
        rw [← System.run_append]
        exact sure (first ++ above) party
      obtain ⟨rest, carried⟩ := ih moved still later
      refine ⟨first ++ rest, ?_⟩
      rw [System.run_append]
      exact carried

end Run

end Simulation

end TinyHan.Lib
