/-
**One coordinator and its clients on the air.**

The devices of `TinyHan.Lib.Medium` are TinyMAC contexts: one in the coordinator role and a client
for every index. Their users call them, and what they hand to `phy_send` goes on the air, where any
other party may hear it, late, twice or not at all.

`Setup.Backs` carries what is known of a single context over to a network: every party is in a state
that it reaches from its own `tinymac_init`, and what is on the air is in the log of its sender.
-/

import TinyHan.Lib.Medium
import TinyHan.Client.Ops
import TinyHan.Coordinator.Registry

namespace TinyHan.Tinymac

open TinyHan.Lib

/-! ### The network -/

/-- The parties of a network. -/
inductive Party (ι : Type) where
  | coordinator
  | client (index : ι)
  deriving DecidableEq

/-- What the user of a context calls. -/
inductive Call where
  | tick
  | send (dest type : BitVec 8) (buf : List Byte) (validity : BitVec 16) (cb : Option SendCb)
  | permitAttach (permit : Bool)
  | registerRecvCb (cb : Bool)
  | registerRegCb (cb : Bool)
  | registerDeregCb (cb : Bool)

def Call.input : Call → Input
  | .tick => .tick
  | .send dest type buf validity cb => .send dest type buf validity cb
  | .permitAttach permit => .permitAttach permit
  | .registerRecvCb cb => .registerRecvCb cb
  | .registerRegCb cb => .registerRegCb cb
  | .registerDeregCb cb => .registerDeregCb cb

/-- A frame on the air, with the packet it carries. -/
structure Airing where
  packet : Option Nat
  frame : Frame

/-- What an event puts on the air. -/
def Event.airing : Event → Option Airing
  | .phySend packet frame _ => some ⟨packet, frame⟩
  | _ => none

/-- The frames a context has put on the air between two states. -/
def airings (before after : Mac) : List Airing :=
  (after.out.drop before.out.length).filterMap Event.airing

/-- A TinyMAC context as a device; the quality of a reception is its RSSI. -/
def macDevice : Device Mac Call Airing Int where
  call σ call := σ.step call.input
  hear σ airing rssi := σ.step (.frame airing.frame rssi)
  sent := airings

/-- A network of one coordinator and its clients. -/
abbrev Net (ι : Type) := System (Party ι) Mac Airing

/-- What can happen in a network. -/
abbrev Act (ι : Type) := Action (Party ι) Call Int

/-- What the parties of a network are started with. -/
structure Setup (ι : Type) where
  coordinator : Boot
  client : ι → Boot
  isCoordinator : coordinator.params.coordinator = true
  isClient : ∀ index, (client index).params.coordinator = false

def Setup.boot {ι : Type} (setup : Setup ι) : Party ι → Boot
  | .coordinator => setup.coordinator
  | .client index => setup.client index

/-- Every party is initialised, and nothing is on the air. -/
def Setup.start {ι : Type} (setup : Setup ι) : Net ι :=
  ⟨fun party => (setup.boot party).start, ⟨[], fun _ _ => false⟩, []⟩

/-- A run of the network. -/
def Setup.run {ι : Type} [DecidableEq ι] (setup : Setup ι) (acts : List (Act ι)) : Net ι :=
  setup.start.run macDevice acts

/-- The frames of events that satisfy `P`. -/
theorem Emits.airings {P : Event → Prop} {σ τ : Mac} (emits : Emits P σ τ) {airing : Airing}
    (aired : airing ∈ airings σ τ) :
    ∃ flags, P (.phySend airing.packet airing.frame flags) ∧
      .phySend airing.packet airing.frame flags ∈ τ.out := by
  obtain ⟨new, out, each⟩ := emits
  rw [Tinymac.airings, out, List.drop_left] at aired
  obtain ⟨event, member, shows⟩ := List.mem_filterMap.mp aired
  cases event with
  | phySend packet frame flags =>
      cases shows
      exact ⟨flags, each _ member, out ▸ List.mem_append_right _ member⟩
  | _ => cases shows

/-! ### Moves -/

section Moves

variable {ι : Type} [DecidableEq ι] {net : Net ι}

/-- A party takes a step. -/
def Net.step (net : Net ι) (party : Party ι) (cause : Option Nat) (input : Input) : Net ι :=
  System.move macDevice net party cause ((net.device party).step input)

theorem step_device_self (party : Party ι) (cause : Option Nat) (input : Input) :
    (net.step party cause input).device party = (net.device party).step input :=
  Function.update_self ..

theorem step_device_ne {party other : Party ι} (different : other ≠ party) (cause : Option Nat)
    (input : Input) : (net.step party cause input).device other = net.device other :=
  Function.update_of_ne different ..

/-- The input of a party in a run: a call, or a frame that is on its way to it. -/
inductive Net.Arrives (net : Net ι) (party : Party ι) : Option Nat → Input → Prop where
  | call (call : Call) : Net.Arrives net party none call.input
  | frame (number : Nat) (sent : Sent (Party ι) Airing) (rssi : Int)
      (heard : net.medium.deliverable party number = some sent) :
      Net.Arrives net party (some number) (.frame sent.message.frame rssi)

theorem Net.Arrives.of_recv {party : Party ι} {cause : Option Nat} {buf : Memory}
    {size : Nat} {rssi : Int} (arrives : net.Arrives party cause (.recv buf size rssi)) :
    ∃ number sent, net.medium.deliverable party number = some sent ∧
      buf = sent.message.frame.memory ∧ cause = some number := by
  generalize is : Input.recv buf size rssi = input at arrives
  cases arrives with
  | call call => cases call <;> cases is
  | frame number sent _ heard =>
      cases is
      exact ⟨number, sent, heard, rfl, rfl⟩

end Moves

/-! ### What holds of every party -/

section Backs

variable {ι : Type} [DecidableEq ι] {setup : Setup ι} {net : Net ι}

/-- Every party is in a state that it reaches by itself, and what is on the air is in the log of the
party that sent it. -/
structure Setup.Backs (setup : Setup ι) (net : Net ι) : Prop where
  reached : ∀ party, ∃ inputs, net.device party = (setup.boot party).start.run inputs
  logged : ∀ (number : Nat) (sent : Sent (Party ι) Airing), net.medium.sent[number]? = some sent →
    ∃ flags, .phySend sent.message.packet sent.message.frame flags ∈ (net.device sent.sender).out

namespace Setup.Backs

omit [DecidableEq ι] in
theorem hub (backs : setup.Backs net) : Hub (net.device .coordinator) := by
  obtain ⟨inputs, reached⟩ := backs.reached .coordinator
  rw [reached]
  exact reachable_hub _ setup.isCoordinator inputs

omit [DecidableEq ι] in
theorem client (backs : setup.Backs net) (index : ι) :
    Client (net.device (.client index)).ctx := by
  obtain ⟨inputs, reached⟩ := backs.reached (.client index)
  rw [reached]
  exact reachable_client _ (setup.isClient index) inputs

omit [DecidableEq ι] in
theorem params (backs : setup.Backs net) (index : ι) :
    (net.device (.client index)).ctx.params = (setup.client index).params := by
  obtain ⟨inputs, reached⟩ := backs.reached (.client index)
  rw [reached]
  exact ((start_client _ (setup.isClient index)).run_params inputs).trans (start_params _)

omit [DecidableEq ι] in
theorem grows (backs : setup.Backs net) (party : Party ι) (input : Input) :
    Emits (fun _ => True) (net.device party) ((net.device party).step input) := by
  cases party with
  | coordinator =>
      have coordinator := backs.hub.coordinator
      exact (step_ops _ coordinator input (admits_any _ input)).grows coordinator
  | client index =>
      have client := backs.client index
      exact (step_clientOps _ client.role input).emits client.coord fun _ => trivial

omit [DecidableEq ι] in
theorem start (setup : Setup ι) : setup.Backs setup.start where
  reached _ := ⟨[], rfl⟩
  logged _ _ found := nomatch found

theorem close (backs : setup.Backs net) (party : Party ι) (number : Nat) :
    setup.Backs (net.close party number) := ⟨backs.reached, backs.logged⟩

theorem step (backs : setup.Backs net) (party : Party ι) (cause : Option Nat) (input : Input) :
    setup.Backs (net.step party cause input) where
  reached other := by
    by_cases same : other = party
    · subst same
      obtain ⟨inputs, reached⟩ := backs.reached other
      refine ⟨inputs ++ [input], ?_⟩
      rw [step_device_self, run_append, ← reached]
      rfl
    · rw [step_device_ne same]
      exact backs.reached other
  logged number sent found := by
    rcases sent_put_cases found with old | ⟨new, sender, -⟩
    · obtain ⟨flags, logged⟩ := backs.logged number sent old
      by_cases same : sent.sender = party
      · rw [same, step_device_self]
        exact ⟨flags, (backs.grows party input).mem_of_mem (same ▸ logged)⟩
      · rw [step_device_ne same]
        exact ⟨flags, logged⟩
    · rw [sender, step_device_self]
      obtain ⟨flags, -, logged⟩ := (backs.grows party input).airings new
      exact ⟨flags, logged⟩

end Setup.Backs

end Backs

end TinyHan.Tinymac
