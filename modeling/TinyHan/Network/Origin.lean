/-
**Nothing is delivered that was not sent.**

What the application of a party is handed by `rx_cb` was handed to `tinymac_send` before: at the
coordinator by the application of a client, which then had the address of the record that the upcall
names, and at a client by the application of the coordinator, for the address that the client has
when it gets the data. This is so in every run, with every interleaving and every loss, repetition
and delay on the air, while registrations come and go (`delivered_was_sent`).
-/

import TinyHan.Lib.Simulation
import TinyHan.Network.Linked

namespace TinyHan.Tinymac

open TinyHan.Lib

section Network

variable {ι : Type} [DecidableEq ι]

/-- In a run, the application of a party has handed data for `dest` to `tinymac_send`, and the party
had the address `src` at that time. -/
def Setup.Handed (setup : Setup ι) (acts : List (Act ι)) (party : Party ι)
    (src dest type : BitVec 8) (payload : List Byte) : Prop :=
  ∃ before flagsType validity cb after,
    acts = before ++ .call party (.send dest flagsType payload validity cb) :: after ∧
      flagsType &&& flagsTypeMask.setWidth 8 = type ∧
      ((setup.run before).device party).ctx.addr = src

/-- An upcall of the coordinator is for data that a client was handed, with the address of the
record it names, or with none. -/
def Setup.Uploaded (setup : Setup ι) (acts : List (Act ι)) (ctx : Ctx) (node : Option NodePtr)
    (type : BitVec 8) (payload : List Byte) : Prop :=
  ∃ index src, setup.Handed acts (.client index) src 0#8 type payload ∧
    (node = none ∧ src = addrUnassigned ∨
      ∃ slot, node = some (.slot slot) ∧ (ctx.nodes slot).addr = src)

/-- An upcall of a client is for data that the coordinator was handed for its address. -/
def Setup.Downloaded (setup : Setup ι) (acts : List (Act ι)) (ctx : Ctx) (node : Option NodePtr)
    (type : BitVec 8) (payload : List Byte) : Prop :=
  node = some .coord ∧ setup.Handed acts .coordinator 0#8 ctx.addr type payload

/-- The data of an upcall was sent to the party that makes it. -/
def Setup.WasSent (setup : Setup ι) (acts : List (Act ι)) (move : Move (Party ι) Mac)
    (node : Option NodePtr) (type : BitVec 8) (payload : List Byte) : Prop :=
  match move.party with
  | .coordinator => setup.Uploaded acts move.before.ctx node type payload
  | .client _ => setup.Downloaded acts move.before.ctx node type payload

variable {setup : Setup ι} {acts : List (Act ι)}

theorem Setup.run_snoc (setup : Setup ι) (acts : List (Act ι)) (act : Act ι) :
    setup.run (acts ++ [act]) = System.step macDevice (setup.run acts) act :=
  System.run_append macDevice setup.start acts [act]

theorem Setup.Handed.snoc {party : Party ι} {src dest type : BitVec 8} {payload : List Byte}
    (handed : setup.Handed acts party src dest type payload) (act : Act ι) :
    setup.Handed (acts ++ [act]) party src dest type payload := by
  obtain ⟨before, flagsType, validity, cb, after, rfl, is, addr⟩ := handed
  exact ⟨before, flagsType, validity, cb, after ++ [act], by simp, is, addr⟩

theorem Setup.WasSent.snoc {move : Move (Party ι) Mac} {node : Option NodePtr} {type : BitVec 8}
    {payload : List Byte} (sent : setup.WasSent acts move node type payload) (act : Act ι) :
    setup.WasSent (acts ++ [act]) move node type payload := by
  obtain ⟨party, before, after⟩ := move
  cases party with
  | coordinator =>
      obtain ⟨index, src, handed, named⟩ := sent
      exact ⟨index, src, handed.snoc act, named⟩
  | client index => exact ⟨sent.1, sent.2.snoc act⟩

/-- A party moves because its application calls it, or because it hears a frame. -/
theorem drives_input {net : Net ι} {act : Act ι} {party : Party ι} {after : Mac}
    (drives : net.Drives macDevice act party after) :
    ∃ input, after = (net.device party).step input ∧
      ((∃ call, act = .call party call ∧ input = call.input) ∨
        ∃ number sent rssi, net.medium.deliverable party number = some sent ∧
          input = .frame sent.message.frame rssi) := by
  rcases drives with ⟨call, is, rfl⟩ | ⟨number, rssi, _, sent, -, heard, rfl⟩
  · exact ⟨call.input, rfl, .inl ⟨call, is, rfl⟩⟩
  · exact ⟨.frame sent.message.frame rssi, rfl, .inr ⟨number, sent, rssi, heard, rfl⟩⟩

/-! ### What a party has taken for transmission -/

/-- **Data that a party has taken** was handed to it, for the address the packet goes to and when
the party had the address it comes from. -/
theorem taken_handed (setup : Setup ι) (acts : List (Act ι)) (party : Party ι) {call : TxCall}
    (logged : .txPacket call ∈ ((setup.run acts).device party).out)
    (raw : typeRawData ≤ call.hdr.type) :
    setup.Handed acts party call.hdr.srcAddr call.hdr.destAddr call.hdr.type call.payload := by
  induction acts using List.reverseRecOn with
  | nil => cases start_logs _ logged
  | append_singleton acts act ih =>
      rw [Setup.run_snoc] at logged
      rcases System.step_moves macDevice (setup.run acts) act with
        ⟨same, -⟩ | ⟨mover, after, drives, moved, -⟩
      · rw [same] at logged
        exact (ih logged).snoc act
      · rw [moved] at logged
        obtain ⟨input, rfl, because⟩ := drives_input drives
        by_cases is : party = mover
        · subst is
          rw [Function.update_self] at logged
          rcases step_asked logged raw with old | ⟨dest, type, ptr, asked⟩
          · exact (ih old).snoc act
          · obtain ⟨validity, sends⟩ := asked.sends
            rcases because with ⟨made, rfl, driven⟩ | ⟨_, _, _, _, driven⟩
            · cases made <;> cases driven.symm.trans sends
              rw [asked.destAddr, asked.srcAddr, asked.hdr_type]
              exact ⟨acts, type, validity, call.cb, [], rfl, rfl, rfl⟩
            · cases driven.symm.trans sends
        · rw [Function.update_of_ne is] at logged
          exact (ih logged).snoc act

/-! ### Upcalls -/

/-- What a party hands to its application when it hears a frame. -/
theorem upcall_sent {party : Party ι} {act : Act ι} {input : Input}
    (drives : (∃ call, act = .call party call ∧ input = call.input) ∨
      ∃ number sent rssi, (setup.run acts).medium.deliverable party number = some sent ∧
        input = .frame sent.message.frame rssi)
    {node : Option NodePtr} {type : BitVec 8} {payload : List Byte}
    (upcall : Origin ((setup.run acts).device party).ctx input (.rxCb node type payload)) :
    setup.WasSent acts
      ⟨party, (setup.run acts).device party, ((setup.run acts).device party).step input⟩
      node type payload := by
  have linked := reachable_linked setup acts
  obtain ⟨_, _, _, hears⟩ := upcall.heard
  rcases drives with ⟨call, -, driven⟩ | ⟨number, sent, rssi, heard, rfl⟩
  · cases call <;> cases driven.symm.trans hears
  · obtain ⟨accepts, raw, names, rfl, rfl⟩ := upcall.of_frame
    obtain ⟨found, other, -⟩ := deliverable_eq_some.mp heard
    cases party with
    | coordinator =>
        obtain ⟨index, call, logged, -, is, dest, named⟩ := linked.uploaded found raw other names
        rw [is] at raw ⊢
        have handed := taken_handed setup acts _ logged raw
        rw [dest] at handed
        exact ⟨index, call.hdr.srcAddr, handed, named⟩
    | client index =>
        obtain ⟨named, call, logged, -, is, source, dest⟩ :=
          linked.downloaded found raw accepts names
        rw [is] at raw ⊢
        have handed := taken_handed setup acts _ logged raw
        rw [dest, source] at handed
        exact ⟨named, handed⟩

/-- **Nothing is delivered that was not sent.** In every run, what a party hands to its application
was handed to `tinymac_send` of a party of the other role: the application of a client that had the
address of the record named in the upcall, or that of the coordinator for the address the client
has. -/
theorem delivered_was_sent (setup : Setup ι) (acts : List (Act ι)) :
    ∀ move ∈ (setup.run acts).history, ∀ node type payload,
      .rxCb node type payload ∈ move.after.out.drop move.before.out.length →
        setup.WasSent acts move node type payload := by
  induction acts using List.reverseRecOn with
  | nil => exact fun _ member => nomatch member
  | append_singleton acts act ih =>
      intro move member node type payload upcall
      rw [Setup.run_snoc] at member
      rcases System.step_moves macDevice (setup.run acts) act with
        ⟨-, same⟩ | ⟨party, after, drives, -, grown⟩
      · rw [same] at member
        exact (ih move member node type payload upcall).snoc act
      · rw [grown, List.mem_append, List.mem_singleton] at member
        rcases member with old | rfl
        · exact (ih move old node type payload upcall).snoc act
        · obtain ⟨input, rfl, because⟩ := drives_input drives
          obtain ⟨new, out, each⟩ := step_origin ((setup.run acts).device party) input
          rw [out, List.drop_left] at upcall
          exact (upcall_sent because (each _ upcall)).snoc act

end Network

/-- A client of a pair registers, and gets a byte from the coordinator. -/
theorem delivered_was_sent_first :
    let acts := pairJoins ++ firstSent
    ∃ move ∈ (pairSetup.run acts).history,
      .rxCb (some .coord) 0x10#8 [1#8] ∈ move.after.out.drop move.before.out.length ∧
        pairSetup.WasSent acts move (some .coord) 0x10#8 [1#8] := by
  intro acts
  have upcall : (pairSetup.run acts).history.any (fun move =>
      .rxCb (some .coord) 0x10#8 [1#8] ∈ move.after.out.drop move.before.out.length) = true := by
    decide +kernel
  obtain ⟨move, member, made⟩ := List.any_eq_true.mp upcall
  have made := of_decide_eq_true made
  exact ⟨move, member, made, delivered_was_sent pairSetup acts move member _ _ _ made⟩

end TinyHan.Tinymac
