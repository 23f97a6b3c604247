/-
**Short addresses across a network.**

A short address is held in two places: in the slot of the coordinator that has it, and in the client
it was given to. The two are changed by different parties. A slot that expires is free for another
client, while the client that held it goes on using its address until it hears of it.

A UUID claims an address (`Net.Claims`) if its client is Registered with it, or if a response that
gives the address to it may still reach the client. As long as no slot is taken over from a UUID
that claims its address, every claim is honoured by a slot with that UUID and that address
(`Honours`), and so no two clients are Registered with the same address (`addresses_unique`). The
condition is needed: a table that is full of known UUIDs is reused from its first expired slot on
(`address_given_twice`).
-/

import TinyHan.Network.Air
import TinyHan.Client.Association
import TinyHan.Coordinator.Admission

namespace TinyHan.Tinymac

open TinyHan.Lib

/-! ### The client -/

/-- A client puts no response on the air that grants an address. -/
theorem Client.step_ungranting {σ : Mac} (client : Client σ.ctx) (input : Input) :
    Emits (fun event => ∀ uuid addr, ¬ event.Grants uuid addr) σ (σ.step input) := by
  refine (step_clientOps σ client.role input).emits client.coord fun logged uuid addr grants => ?_
  obtain ⟨packet, frame, flags, rfl, type, -⟩ := grants
  cases logged with
  | silent _ is => exact is.elim
  | ackFrame hdr asked origin => exact absurd type (by simp [PacketType.code])
  | packet id frame kind =>
      rw [type] at kind
      revert kind
      unfold clientType
      decide

/-! ### The coordinator -/

/-- A slot has the UUID and the address. -/
def Ctx.Holds (ctx : Ctx) (uuid : BitVec 64) (addr : BitVec 8) : Prop :=
  ∃ index, (ctx.nodes index).uuid = uuid ∧ (ctx.nodes index).addr = addr

theorem Ctx.Holds.keep {ctx ctx' : Ctx} {uuid : BitVec 64} {addr : BitVec 8}
    (holds : ctx.Holds uuid addr)
    (kept : ∀ index, (ctx.nodes index).Keeps (ctx'.nodes index)) : ctx'.Holds uuid addr := by
  obtain ⟨index, uuid, addr⟩ := holds
  exact ⟨index, (kept index).uuid.trans uuid, (kept index).addr.trans addr⟩

/-- Hearing a frame grants nothing: what is sent is an acknowledgement, or has waited in a slot. -/
theorem Hub.hear_ungranting {σ : Mac} (hub : Hub σ) (hdr : Header) (rssi : Int) :
    Emits (fun event => ∀ uuid addr, ¬ event.Grants uuid addr) σ (σ.hear hdr rssi) := by
  have silent : ∀ event : Event, event.standby → ∀ uuid addr, ¬ event.Grants uuid addr := by
    rintro event standby uuid addr ⟨packet, frame, flags, rfl, -⟩
    exact standby.elim
  refine hear_emits hub.coordinator.role hdr rssi silent ?_ ?_ ?_
  · rintro index uuid addr ⟨packet, frame, flags, is, type, -⟩
    cases is
    exact absurd type (by simp [PacketType.code])
  · rintro index pending uuid addr ⟨packet, frame, flags, is, grants⟩
    cases is
    exact hub.ungranted index uuid addr grants
  · rintro index cb - - - uuid addr ⟨packet, frame, flags, is, -⟩
    cases is

theorem Hub.hear {σ : Mac} (hub : Hub σ) (hdr : Header) (rssi : Int) : Hub (σ.hear hdr rssi) := by
  have ops : Ops .any σ (σ.hear hdr rssi) := hear_ops σ hub.coordinator.role hdr rssi
  exact (ops.preserve hub.coordinator (fun _ hub op => Hub.op hub op) hub).2

/-- What an operation grants, a slot holds after it. -/
theorem Hub.op_grants {ok : Condition} {σ τ : Mac} (hub : Hub σ) (op : Op ok σ τ) :
    Emits (fun event => ∀ uuid addr, event.Grants uuid addr → τ.ctx.Holds uuid addr) σ τ := by
  refine (op.grants hub.coordinator hub.ungranted).mono fun event given uuid addr grants => ?_
  obtain ⟨index, -, rfl, held⟩ := given uuid addr grants
  exact ⟨index, held, ((hub.op op).registry.addr index).trans (hub.registry.addr index).symm⟩

/-- Without a registration, the slots keep what they hold. -/
theorem Hub.ops_grants {σ τ : Mac} (hub : Hub σ)
    (ops : Ops ⟨fun _ _ _ => False, fun _ _ => True, True⟩ σ τ) :
    Emits (fun event => ∀ uuid addr, event.Grants uuid addr → τ.ctx.Holds uuid addr) σ τ := by
  refine (ops.preserve (P := fun τ => Hub τ ∧ Emits (fun event => ∀ uuid addr,
    event.Grants uuid addr → τ.ctx.Holds uuid addr) σ τ) hub.coordinator ?_
    ⟨hub, .refl σ⟩).2.2
  intro τ υ coordinator ⟨hub, granted⟩ op
  rcases op.table coordinator with kept | ⟨_, _, _, registers, _⟩
  · exact ⟨hub.op op, (granted.mono fun event holds uuid addr grants =>
      (holds uuid addr grants).keep kept).trans (hub.op_grants op)⟩
  · exact registers.elim

/-- **A coordinator grants what its slots hold.** -/
theorem Hub.step_grants {σ : Mac} (hub : Hub σ) (input : Input) :
    Emits (fun event => ∀ uuid addr, event.Grants uuid addr →
      (σ.step input).ctx.Holds uuid addr) σ (σ.step input) := by
  by_cases registers : ∃ buf size rssi, input = .recv buf size rssi ∧
      σ.ctx.reachesRegistration buf size = true
  · -- the response is the last frame of the step, and the slot is registered with it
    obtain ⟨buf, size, rssi, rfl, reaches⟩ := registers
    have heard := hub.hear (readHeader buf) rssi
    have quiet := hub.hear_ungranting (readHeader buf) rssi
    have registered : Op .any (σ.hear (readHeader buf) rssi) _ :=
      .register _ (readRegistrationRequest buf) fun _ _ => trivial
    show Emits (fun event => ∀ uuid addr, event.Grants uuid addr →
      (tinymacRecvCb σ buf size rssi).ctx.Holds uuid addr) σ (tinymacRecvCb σ buf size rssi)
    rw [recv_registration hub.coordinator rssi reaches,
      rxRegistrationRequest_eq _ buf heard.coordinator.role]
    dsimp only
    have granted := (quiet.mono fun event none uuid addr grants =>
      absurd grants (none uuid addr)).trans (heard.op_grants registered)
    split
    · refine granted.emit ?_
      rintro uuid addr ⟨packet, frame, flags, is, -⟩
      cases is
    · exact granted
  · refine hub.ops_grants (step_ops σ hub.coordinator input ?_)
    cases input with
    | recv buf size rssi =>
        exact ⟨fun reaches => absurd ⟨buf, size, rssi, rfl, reaches⟩ registers,
          fun _ _ _ _ => trivial⟩
    | _ => trivial

/-- No slot is taken over from a UUID that claims its address. -/
def Condition.sparing (claims : BitVec 64 → BitVec 8 → Prop) : Condition :=
  ⟨fun _ attach node => claims node.uuid node.addr → node.uuid = attach.uuid, fun _ _ => True, True⟩

/-- **Claims stay honoured** as long as the slots of others are spared. -/
theorem Hub.step_holds {σ : Mac} (hub : Hub σ) {claims : BitVec 64 → BitVec 8 → Prop}
    {input : Input} (spares : σ.ctx.admits (.sparing claims) input)
    (honoured : ∀ uuid addr, claims uuid addr → σ.ctx.Holds uuid addr) (uuid : BitVec 64)
    (addr : BitVec 8) (claimed : claims uuid addr) : (σ.step input).ctx.Holds uuid addr := by
  refine ((step_ops σ hub.coordinator input spares).preserve
    (P := fun τ => τ.ctx.Holds uuid addr) hub.coordinator ?_ (honoured uuid addr claimed)).2
  intro τ υ coordinator holds op
  rcases op.table coordinator with kept | ⟨slot, attach, -, spared, registered, others⟩
  · exact holds.keep kept
  · obtain ⟨index, rfl, rfl⟩ := holds
    refine ⟨index, ?_⟩
    by_cases here : index = slot
    · subst here
      rw [registered]
      exact ⟨(spared claimed).symm, rfl⟩
    · rw [others index here]
      exact ⟨rfl, rfl⟩

/-! ### The network -/

section Network

variable {ι : Type} [DecidableEq ι]

/-- The client is Registered with the address, or a response that gives it the address may still
reach it. -/
def Net.Uses (net : Net ι) (index : ι) (addr : BitVec 8) : Prop :=
  let ctx := (net.device (.client index)).ctx
  (ctx.state = .registered ∧ ctx.addr = addr) ∨
    ∃ number sent, net.medium.deliverable (.client index) number = some sent ∧
      sent.message.frame.Grants ctx.params.uuid addr

/-- The client with the UUID uses the address. -/
def Net.Claims (net : Net ι) (uuid : BitVec 64) (addr : BitVec 8) : Prop :=
  ∃ index, (net.device (.client index)).ctx.params.uuid = uuid ∧ net.Uses index addr

/-- No registration request takes a slot over from a UUID that claims its address. -/
def Net.spares (net : Net ι) : Act ι → Prop
  | .hear .coordinator number _ _ =>
      ∀ sent, net.medium.deliverable .coordinator number = some sent →
        let ctx := (net.device .coordinator).ctx
        let buf := sent.message.frame.memory
        ctx.reachesRegistration buf sent.message.frame.bytes.length = true →
          ∀ index, ctx.registrationSlot (readRegistrationRequest buf).uuid = some index →
            (ctx.nodes index).uuid ≠ (readRegistrationRequest buf).uuid →
            ¬ net.Claims (ctx.nodes index).uuid (ctx.nodes index).addr
  | _ => True

/-- Different clients that are Registered have different networks or different addresses. -/
def Net.Unique (net : Net ι) : Prop :=
  ∀ one two, one ≠ two →
    let ctx := fun index => (net.device (.client index)).ctx
    ¬ ((ctx one).state = .registered ∧ (ctx two).state = .registered ∧
      (ctx one).netId = (ctx two).netId ∧ (ctx one).addr = (ctx two).addr)

/-- Every claim is honoured by a slot. -/
structure Honours (setup : Setup ι) (net : Net ι) : Prop where
  backs : setup.Backs net
  honoured : ∀ uuid addr, net.Claims uuid addr → (net.device .coordinator).ctx.Holds uuid addr

variable {setup : Setup ι} {net : Net ι}

theorem Honours.start (setup : Setup ι) : Honours setup setup.start where
  backs := .start setup
  honoured uuid addr claimed := by
    obtain ⟨index, -, ⟨registered, -⟩ | ⟨number, sent, heard, -⟩⟩ := claimed
    · have unregistered := start_state (setup.client index)
      rw [if_neg (by simp [setup.isClient])] at unregistered
      cases unregistered.symm.trans registered
    · cases (deliverable_eq_some.mp heard).1

theorem Honours.close (honours : Honours setup net) (party : Party ι) (number : Nat) :
    Honours setup (net.close party number) where
  backs := honours.backs.close party number
  honoured uuid addr claimed := by
    obtain ⟨index, is, uses⟩ := claimed
    refine honours.honoured uuid addr ⟨index, is, uses.imp_right ?_⟩
    rintro ⟨other, sent, heard, grants⟩
    exact ⟨other, sent, deliverable_close heard, grants⟩

/-- A step of a client adds no claim: it grants nothing, and the address it gets was granted. -/
theorem Net.Claims.of_client {index : ι} {cause : Option Nat} {input : Input}
    (backs : setup.Backs net) (arrives : net.Arrives (.client index) cause input)
    {uuid : BitVec 64} {addr : BitVec 8}
    (claimed : (net.step (.client index) cause input).Claims uuid addr) :
    net.Claims uuid addr := by
  obtain ⟨other, is, uses⟩ := claimed
  have params : ((net.step (.client index) cause input).device (.client other)).ctx.params =
      (net.device (.client other)).ctx.params :=
    ((backs.step _ cause input).params other).trans (backs.params other).symm
  rw [params] at is
  refine ⟨other, is, ?_⟩
  rcases uses with ⟨registered, rfl⟩ | ⟨number, sent, heard, grants⟩
  · by_cases same : other = index
    · subst same
      rw [step_device_self] at registered ⊢
      rcases (backs.client other).step_address registered with ⟨before, kept⟩ |
        ⟨buf, size, rssi, rfl, type, given, named⟩
      · exact .inl ⟨before, kept.symm⟩
      · obtain ⟨number, sent, heard, rfl, -⟩ := arrives.of_recv
        rw [readHeader_frame] at type
        exact .inr ⟨number, sent, heard, type, given, named⟩
    · rw [step_device_ne (by simpa using same)] at registered ⊢
      exact .inl ⟨registered, rfl⟩
  · rw [params] at grants
    rcases deliverable_put heard with old | ⟨new, -⟩
    · exact .inr ⟨number, sent, old, grants⟩
    · obtain ⟨flags, ungranting, -⟩ := ((backs.client index).step_ungranting input).airings new
      exact absurd ⟨_, _, flags, rfl, grants⟩ (ungranting _ _)

theorem Honours.stepClient (honours : Honours setup net) (index : ι) {cause : Option Nat}
    {input : Input} (arrives : net.Arrives (.client index) cause input) :
    Honours setup (net.step (.client index) cause input) where
  backs := honours.backs.step _ cause input
  honoured uuid addr claimed := by
    rw [step_device_ne (by simp)]
    exact honours.honoured uuid addr (claimed.of_client honours.backs arrives)

theorem Honours.stepCoordinator (honours : Honours setup net) (cause : Option Nat) {input : Input}
    (spares : (net.device .coordinator).ctx.admits (.sparing net.Claims) input) :
    Honours setup (net.step .coordinator cause input) where
  backs := honours.backs.step _ cause input
  honoured uuid addr claimed := by
    have hub := honours.backs.hub
    have kept := hub.step_holds spares honours.honoured
    rw [step_device_self]
    obtain ⟨index, is, uses⟩ := claimed
    rw [Net.Uses, step_device_ne (by simp)] at uses
    rw [step_device_ne (by simp)] at is
    rcases uses with registered | ⟨number, sent, heard, grants⟩
    · exact kept uuid addr ⟨index, is, .inl registered⟩
    · rcases deliverable_put heard with old | ⟨new, -⟩
      · exact kept uuid addr ⟨index, is, .inr ⟨number, sent, old, grants⟩⟩
      · obtain ⟨flags, holds, -⟩ := (hub.step_grants input).airings new
        exact holds uuid addr ⟨_, _, flags, rfl, is ▸ grants⟩

/-- The condition on an action of the network is the one on the operations of its coordinator. -/
theorem Net.spares.admits {number : Nat} {rssi : Int} {again : Bool}
    (hub : Hub (net.device .coordinator)) {sent : Sent (Party ι) Airing}
    (spares : net.spares (.hear .coordinator number rssi again))
    (heard : net.medium.deliverable .coordinator number = some sent) :
    (net.device .coordinator).ctx.admits (.sparing net.Claims)
      (.frame sent.message.frame rssi) := by
  refine ⟨fun reaches index given claimed => ?_, fun _ _ _ _ => trivial⟩
  have kept := hear_keeps hub.coordinator.role (readHeader sent.message.frame.memory) rssi index
  rw [hear_registrationSlot hub.coordinator.role] at given
  rw [kept.uuid, kept.addr] at claimed
  rw [kept.uuid]
  by_contra other
  exact spares sent heard reaches index given other claimed

/-- **Claims are honoured in every state of a run** that spares them. -/
theorem reachable_honours (setup : Setup ι) (acts : List (Act ι))
    (along : setup.start.Along macDevice Net.spares acts) : Honours setup (setup.run acts) := by
  refine System.run_induction (motive := Honours setup) ?_ ?_ ?_ (.start setup) acts along
  · intro net party call honours spares
    cases party with
    | coordinator =>
        show Honours setup (Net.step net .coordinator none call.input)
        refine honours.stepCoordinator none ?_
        cases call <;> trivial
    | client index => exact honours.stepClient index (.call call)
  · intro net party number rssi again sent honours spares heard
    cases party with
    | coordinator => exact honours.stepCoordinator _ (spares.admits honours.backs.hub heard)
    | client index => exact honours.stepClient index (.frame number sent rssi heard)
  · exact fun party number honours => honours.close party number

/-- **Short addresses are unique across a network**: over a medium that loses, delays and repeats
frames, two clients are never Registered with the same address in the same network, in every run in
which no slot is taken over from a UUID that claims its address. -/
theorem addresses_unique (setup : Setup ι)
    (distinct : ∀ one two, (setup.client one).params.uuid = (setup.client two).params.uuid →
      one = two)
    (acts : List (Act ι)) (spared : setup.start.Along macDevice Net.spares acts) :
    (setup.run acts).Unique := by
  rintro one two different ctx ⟨registeredOne, registeredTwo, -, same⟩
  obtain ⟨backs, honoured⟩ := reachable_honours setup acts spared
  obtain ⟨slotOne, uuidOne, addrOne⟩ := honoured _ _ ⟨one, rfl, .inl ⟨registeredOne, rfl⟩⟩
  obtain ⟨slotTwo, uuidTwo, addrTwo⟩ := honoured _ _ ⟨two, rfl, .inl ⟨registeredTwo, rfl⟩⟩
  have slot : slotOne = slotTwo := by
    refine slotAddr_injective ?_
    rw [← backs.hub.registry.addr, ← backs.hub.registry.addr, addrOne, addrTwo]
    exact same
  rw [slot, uuidTwo, backs.params, backs.params] at uuidOne
  exact different (distinct one two uuidOne.symm)

/-- As long as a slot has never been given out, none is taken over. -/
theorem Net.spares_of_blank
    (nonzero : ∀ index, (net.device (.client index)).ctx.params.uuid ≠ 0#64) (blank : Slot)
    (unused : ((net.device .coordinator).ctx.nodes blank).uuid = 0#64) (act : Act ι) :
    net.spares act := by
  cases act with
  | hear party number rssi again =>
      cases party with
      | coordinator =>
          intro sent heard ctx buf reaches slot given other claimed
          have zero : (ctx.nodes slot).uuid = 0#64 := by
            rcases registrationSlot_cases given with ⟨known, -⟩ | ⟨-, ⟨zero, -⟩ | ⟨full, -⟩⟩
            · exact absurd known other
            · exact zero
            · exact absurd unused (full blank)
          obtain ⟨index, is, -⟩ := claimed
          exact nonzero index (is.trans zero)
      | client index => trivial
  | _ => trivial

end Network

/-! ### A full table -/

/-- A coordinator and 33 clients, one more than it has slots. -/
def crowdedSetup : Setup (Fin 33) where
  coordinator := .coordinatorOn 0x2A#8
  client index := .clientWith (BitVec.ofNat 64 (index.val + 1)) 0#16
  isCoordinator := rfl
  isClient _ := rfl

/-- A client registers, with the four frames of the handshake from `number` on. -/
def joinActs (index : Fin 33) (number : Nat) : List (Act (Fin 33)) :=
  [.call (.client index) .tick, .hear .coordinator number 0 false,
    .hear (.client index) (number + 1) 0 false, .hear .coordinator (number + 2) 0 false,
    .hear (.client index) (number + 3) 0 false]

/-- The first client registers. -/
def firstJoins : List (Act (Fin 33)) :=
  .call .coordinator (.permitAttach true) :: joinActs 0 0

/-- The slot of the first client expires, and the others register one after the other. -/
def othersJoin : List (Act (Fin 33)) :=
  List.replicate 13 (.call .coordinator .tick) ++
    (List.finRange 32).flatMap fun earlier => joinActs earlier.succ (4 * earlier.val + 4)

theorem addresses_unique_first :
    crowdedSetup.start.Along macDevice Net.spares firstJoins ∧
      (crowdedSetup.run firstJoins).Unique := by
  have spared : crowdedSetup.start.Along macDevice Net.spares firstJoins := by
    refine ⟨trivial, trivial, ?_, trivial, ?_, trivial, trivial⟩
    · exact Net.spares_of_blank (by decide +kernel) 0 (by decide +kernel) _
    · exact Net.spares_of_blank (by decide +kernel) 0 (by decide +kernel) _
  exact ⟨spared, addresses_unique crowdedSetup (by decide +kernel) firstJoins spared⟩

/-- The last client gets the slot of the first, which missed its heartbeats but is still Registered:
both have address 1. Every frame of the run is heard at once. -/
theorem address_given_twice :
    (∀ one two, (crowdedSetup.client one).params.uuid = (crowdedSetup.client two).params.uuid →
      one = two) ∧
    (∀ index, (crowdedSetup.client index).params.uuid ≠ 0#64) ∧
    ¬ (crowdedSetup.run (firstJoins ++ othersJoin)).Unique := by
  refine ⟨by decide +kernel, by decide +kernel, fun unique => unique 0 32 (by decide) ?_⟩
  decide +kernel

end TinyHan.Tinymac
