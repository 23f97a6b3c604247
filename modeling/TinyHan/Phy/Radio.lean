/-
**The Si443x PHY** (`phy-si443x.c`): receiving, and the power states.

`phy_event_handler` reads a packet from the FIFO when the radio has reported it as valid, turns the
receiver on again and hands the packet to the callback, as its last action. What it reads is
arbitrary, as in `TinyHan.Phy.Si443x`: a length register and the bytes of the FIFO.

`bus` goes on from call to call here, so that a statement about it is one about a whole run.

* `Attentive`: the state is RxValid only while the packet that was reported is untouched.
* **`reads_fresh`**: in every run of driver calls, with a radio that may present anything, every
  packet that is handed up was reported as valid, and the FIFO was neither cleared nor read between
  the report and the reading.
-/

import Mathlib.Data.List.Induction
import TinyHan.Phy.Transmission

namespace TinyHan.PhySi443x

open TinyHan.Lib

/-! ### Registers -/

/-- `R_DEVICE_TYPE`. -/
def rDeviceType : Byte := 0x00#8
/-- `R_DEVICE_VERSION`. -/
def rDeviceVersion : Byte := 0x01#8
/-- `R_INT_ENABLE`. -/
def rIntEnable : Byte := 0x05#8
/-- `R_WU_PERIOD1`. -/
def rWuPeriod1 : Byte := 0x14#8
/-- `R_WU_PERIOD2`. -/
def rWuPeriod2 : Byte := 0x15#8
/-- `R_RX_LENGTH`. -/
def rRxLength : Byte := 0x4B#8
/-- `R_FIFO`. -/
def rFifo : Byte := 0x7F#8

/-- `SWRES`. -/
def swres : Byte := 0x80#8
/-- `ENWT`. -/
def enwt : Byte := 0x20#8

/-- `DT_MASK` and `VC_MASK`. -/
def idMask : Byte := 31#8
/-- `SUPPORTED_DEVICE_TYPE`. -/
def supportedDeviceType : Byte := 0x08#8
/-- `SUPPORTED_DEVICE_VERSION`. -/
def supportedDeviceVersion : Byte := 0x06#8

/-- The interrupts that `phy_resume` enables; their bits are those of the status word. -/
def intEnable : BitVec 16 :=
  itxffafull ||| itxffaem ||| irxffafull ||| ipksent ||| iswdet ||| ipkvalid ||| icrcerror ||| iwut

/-- `MAX_PACKET`. -/
def maxPacket : Nat := 64

/-! ### Configuration and power -/

/-- Consecutive registers. -/
def Driver.writeBlock (driver : Driver) (address : Byte) (data : List Byte) : Driver :=
  { driver with
    bus := driver.bus ++ data.mapIdx fun index byte =>
      .write8 (address + BitVec.ofNat 8 index) byte }

/-- `si443x_write16`, with the high byte first. -/
def Driver.write16 (driver : Driver) (address : Byte) (word : BitVec 16) : Driver :=
  driver.writeBlock address [Lib.high word, Lib.low word]

/-- The groups of the configuration table: an address, a count and the data. Address zero ends the
table; every group uses a step of `fuel`. -/
def groups : Nat → List Byte → List (Byte × List Byte)
  | fuel + 1, address :: size :: rest =>
      if address = 0#8 then []
      else (address, rest.take size.toNat) :: groups fuel (rest.drop size.toNat)
  | _, _ => []

/-- `si443x_device_init`, for the table `config`. -/
def si443xDeviceInit (driver : Driver) (config : List Byte) : Driver :=
  (groups config.length config).foldl (fun driver group => driver.writeBlock group.1 group.2) driver

/-- `while (INP(nIRQ)) {}`. -/
def awaitReset : List Sample → Option (List Sample)
  | [] => none
  | sample :: rest => if sample.pending then some rest else awaitReset rest

/-- `phy_resume`, with its result; `device` and `version` are what the radio says it is. -/
def phyResume (driver : Driver) (config : List Byte) (device version : Byte)
    (samples : List Sample) : Option (Int × Driver × List Sample) := do
  let driver := (driver.transfer (.read8 rDeviceType)).transfer (.read8 rDeviceVersion)
  if device &&& idMask ≠ supportedDeviceType ∨ version &&& idMask ≠ supportedDeviceVersion then
    some (-1, driver, samples)
  else
    let driver := driver.transfer (.write8 rOpCtrl1 swres)
    let samples ← awaitReset samples
    let driver := phyStandby (si443xDeviceInit driver config)
    some (0, (driver.write16 rIntEnable 0#16).write16 rIntEnable intEnable, samples)

/-- `phy_delayed_standby`: the wake-up timer, and the receiver until then. The state stays. -/
def phyDelayedStandby (driver : Driver) (us : BitVec 16) : Driver :=
  let m := us.toNat * 32768 / 4000000
  ((driver.transfer (.write8 rWuPeriod1 0#8)).write16 rWuPeriod2 (BitVec.ofNat 16 m)).transfer
    (.write8 rOpCtrl1 (enwt ||| rxon ||| xton))

/-- The statics as they are loaded. -/
def Driver.loaded : Driver := ⟨.standby, 0, []⟩

/-! ### Receiving -/

/-- What the radio presents when a packet is read. -/
structure Reception where
  length : Byte
  fifo : Nat → Byte

/-- A call of the receive callback. -/
structure Upcall where
  buf : Memory
  size : Nat
  rssi : Int

/-- The driver with its receive buffer and its callback. -/
structure Radio where
  driver : Driver
  payload : Memory
  recvCb : Bool

/-- `si443x_read(R_FIFO, payload, size)`, on the bus. -/
def Driver.readFifo (driver : Driver) (size : Nat) : Driver :=
  { driver with bus := driver.bus ++ List.replicate size (.read8 rFifo) }

/-- The packet is copied into the buffer. -/
def Reception.fill (reception : Reception) (payload : Memory) (size : Nat) : Memory :=
  store payload 0 (window reception.fifo 0 size)

/-- The switch of `phy_event_handler`. -/
def Radio.despatch (radio : Radio) (reception : Reception) : Radio × Option Upcall :=
  match radio.driver.state with
  | .rxValid =>
      let driver := radio.driver.transfer (.read8 rRxLength)
      let size := min reception.length.toNat maxPacket
      let payload := reception.fill radio.payload size
      -- the callback may send, so the driver is idle again before it is called
      let driver := phyListen (driver.readFifo size)
      (⟨driver, payload, radio.recvCb⟩,
        if radio.recvCb then some ⟨payload, size, driver.rssi⟩ else none)
  | .rxInvalid | .fifoError => ({ radio with driver := phyListen radio.driver }, none)
  | _ => (radio, none)

/-- `phy_event_handler`, with the call of the callback that ends it. -/
def phyEventHandler (radio : Radio) (samples : List Sample) (reception : Reception) :
    Option (Radio × Option Upcall × List Sample) := do
  let (driver, samples) ← si443xEventHandler radio.driver samples
  let (radio, upcall) := Radio.despatch { radio with driver := driver } reception
  some (radio, upcall, samples)

/-! ### Runs -/

/-- What the user of the driver calls. -/
inductive Request where
  | poll (samples : List Sample) (reception : Reception)
  | send (bufs : List (List Byte)) (flags : Byte) (samples : List Sample)
  | listen
  | standby
  | delayedStandby (us : BitVec 16)
  | registerRecvCb (cb : Bool)

/-- One call, with the upcall it makes. A call that has not returned is `none`. -/
def Radio.step (radio : Radio) : Request → Option (Radio × Option Upcall)
  | .poll samples reception => do
      let (radio, upcall, _) ← phyEventHandler radio samples reception
      some (radio, upcall)
  | .send bufs flags samples => do
      let (_, driver, _) ← phySend radio.driver bufs flags samples
      some ({ radio with driver := driver }, none)
  | .listen => some ({ radio with driver := phyListen radio.driver }, none)
  | .standby => some ({ radio with driver := phyStandby radio.driver }, none)
  | .delayedStandby us => some ({ radio with driver := phyDelayedStandby radio.driver us }, none)
  | .registerRecvCb cb => some ({ radio with recvCb := cb }, none)

/-- A run of calls that have all returned, with the upcalls in their order. A call that the callback
makes comes after the upcall. -/
def Radio.run (radio : Radio) : List Request → Option (Radio × List Upcall)
  | [] => some (radio, [])
  | request :: rest => do
      let (radio, upcall) ← radio.step request
      let (radio, upcalls) ← Radio.run radio rest
      some (radio, upcall.toList ++ upcalls)

/-! ### What a call of `phy_send` keeps -/

section Keeps

variable {P : Driver → Prop} (status : ∀ driver sample, P driver → P (driver.onStatus sample))
  (byte : ∀ driver byte, P driver → P (driver.transfer (.fifo byte)))
  (modeTx : ∀ driver, P driver → P driver.modeTx)
  (prepare : ∀ driver cursor, driver.state.code ≤ State.listen.code → P driver →
    P (driver.prepare cursor))
  (listen : ∀ driver, P driver → P (phyListen driver))

include status in
/-- A property that every status word keeps. -/
theorem eventHandler_keeps {driver after : Driver} {samples rest : List Sample} (holds : P driver)
    (ends : si443xEventHandler driver samples = some (after, rest)) : P after := by
  induction samples generalizing driver with
  | nil => cases ends
  | cons sample samples ih =>
      rw [si443xEventHandler] at ends
      split at ends
      · exact ih (status driver sample holds) ends
      · cases ends
        exact holds

include byte in
theorem more_keeps {driver : Driver} (holds : P driver) (cursor : Cursor) (started : Bool) :
    P (Call.more driver cursor started).driver := by
  unfold Call.more
  split
  · exact byte _ _ holds
  · exact holds

include byte in
theorem turn_keeps {driver : Driver} (holds : P driver) (cursor : Cursor) (started : Bool) :
    P (Call.turn driver cursor started).driver := by
  unfold Call.turn
  split
  · exact more_keeps byte holds cursor started
  · exact holds

include listen in
theorem settle_keeps {driver : Driver} (holds : P driver) : P (Call.settle driver).driver := by
  unfold Call.settle
  split
  · exact holds
  · exact listen _ holds

include byte modeTx listen in
theorem polled_keeps {driver : Driver} (holds : P driver) (cursor : Cursor) (started : Bool) :
    P (Call.polled driver cursor started).driver := by
  have enabled : P (if starts driver cursor started then driver.modeTx else driver) := by
    split
    · exact modeTx _ holds
    · exact holds
  unfold Call.polled
  dsimp only
  split
  · exact turn_keeps byte enabled _ _
  · exact settle_keeps listen enabled

include status byte modeTx prepare listen in
/-- **A step of `phy_send`** keeps what its transfers keep. -/
theorem step_keeps {call : Call} (holds : P call.driver) (sample : Sample) :
    P (call.step sample).driver := by
  obtain ⟨driver, point⟩ := call
  have read : P (driver.onStatus sample) := status driver sample holds
  cases point with
  | entering bufs =>
      dsimp only [Call.step]
      split
      · exact read
      · unfold Call.entered
        dsimp only
        split
        · exact holds
        · next idle => exact turn_keeps byte (prepare _ _ (Nat.le_of_not_lt idle) holds) _ _
  | filling cursor started =>
      dsimp only [Call.step]
      split
      · exact holds
      · exact more_keeps byte holds cursor started
  | polling cursor started =>
      dsimp only [Call.step]
      split
      · exact read
      · exact polled_keeps byte modeTx listen holds cursor started
  | waiting =>
      dsimp only [Call.step]
      split
      · exact read
      · exact settle_keeps listen holds
  | returned => exact holds

include status byte modeTx prepare listen in
/-- **A call of `phy_send` that returns** keeps what its transfers keep. -/
theorem phySend_keeps {driver after : Driver} {bufs : List (List Byte)} {flags : Byte}
    {samples rest : List Sample} {rc : Int} (holds : P driver)
    (returns : phySend driver bufs flags samples = some (rc, after, rest)) : P after := by
  have run (call : Call) (before : P call.driver) : P (call.run samples).driver := by
    clear returns holds
    induction samples generalizing call with
    | nil => exact before
    | cons sample samples ih =>
        exact ih _ (step_keeps status byte modeTx prepare listen before sample)
  have ended := phySend_run driver bufs flags samples
  rw [returns] at ended
  have same := eq_of_result ended.symm
  have kept := run (Call.enter driver bufs) holds
  rw [same] at kept
  exact kept

end Keeps

/-! ### Packets that are read -/

/-- The transfer clears the FIFO for receiving, or reads it. -/
def Event.disturbs : Event → Bool
  | .write8 addr val => addr = rOpCtrl2 && val &&& ffclrrx != 0#8
  | .read8 addr => addr = rRxLength || addr = rFifo
  | .status _ => false
  | .fifo _ => false

/-- A valid packet has been reported, and the FIFO is as it was then. -/
def Reported (bus : List Event) : Prop :=
  ∃ before word after, bus = before ++ .status word :: after ∧ has word ipkvalid = true ∧
    ∀ event ∈ after, event.disturbs = false

/-- Whenever a packet is read, it has been reported and the FIFO is as it was then. -/
def FreshReads (bus : List Event) : Prop :=
  ∀ before after, bus = before ++ .read8 rRxLength :: after → Reported before

theorem Reported.append {bus new : List Event} (reported : Reported bus)
    (calm : ∀ event ∈ new, event.disturbs = false) : Reported (bus ++ new) := by
  obtain ⟨before, word, after, rfl, valid, quiet⟩ := reported
  refine ⟨before, word, after ++ new, by simp, valid, fun event member => ?_⟩
  rcases List.mem_append.mp member with old | added
  · exact quiet event old
  · exact calm event added

theorem FreshReads.append {bus new : List Event} (fresh : FreshReads bus)
    (other : .read8 rRxLength ∉ new) : FreshReads (bus ++ new) := by
  intro before after is
  rcases List.append_eq_append_iff.mp is with ⟨middle, rfl, rest⟩ | ⟨middle, rfl, rest⟩
  · refine absurd ?_ other
    rw [rest]
    exact List.mem_append_right _ List.mem_cons_self
  · cases middle with
    | nil =>
        refine absurd ?_ other
        rw [show new = .read8 rRxLength :: after from rest.symm]
        exact List.mem_cons_self
    | cons event middle =>
        obtain ⟨rfl, -⟩ := List.cons_eq_cons.mp rest
        exact fresh before middle rfl

theorem FreshReads.transfer {driver : Driver} (fresh : FreshReads driver.bus) {event : Event}
    (other : event ≠ .read8 rRxLength) : FreshReads (driver.transfer event).bus :=
  fresh.append fun member => other (List.mem_singleton.mp member).symm

theorem FreshReads.read {bus : List Event} (fresh : FreshReads bus) (reported : Reported bus) :
    FreshReads (bus ++ [.read8 rRxLength]) := by
  intro before after is
  rcases List.eq_nil_or_concat after with rfl | ⟨front, last, rfl⟩
  · rw [List.append_inj_left' is rfl] at reported
    exact reported
  · rw [List.concat_eq_append, ← List.cons_append, ← List.append_assoc] at is
    exact fresh before front (List.append_inj_left' is rfl)

/-- Every read is fresh, and in RxValid there is something to read. -/
structure Attentive (driver : Driver) : Prop where
  fresh : FreshReads driver.bus
  valid : driver.state = .rxValid → Reported driver.bus

theorem phyStandby_bus (driver : Driver) : (phyStandby driver).bus = driver.bus ++
    [.write8 rOpCtrl2 (ffclrtx ||| ffclrrx), .write8 rOpCtrl2 0#8, .write8 rOpCtrl1 0#8] :=
  (List.append_assoc ..).trans (List.append_assoc ..)

/-- The period of the wake-up timer for a delay, in units of 122 µs. -/
def wakePeriod (us : BitVec 16) : BitVec 16 := BitVec.ofNat 16 (us.toNat * 32768 / 4000000)

theorem phyDelayedStandby_bus (driver : Driver) (us : BitVec 16) :
    (phyDelayedStandby driver us).bus = driver.bus ++
      [.write8 rWuPeriod1 0#8, .write8 rWuPeriod2 (Lib.high (wakePeriod us)),
        .write8 (rWuPeriod2 + 1#8) (Lib.low (wakePeriod us)),
        .write8 rOpCtrl1 (enwt ||| rxon ||| xton)] := by
  simp [phyDelayedStandby, wakePeriod, Driver.write16, Driver.writeBlock, Driver.transfer]

theorem not_read_of_calm {new : List Event} (calm : ∀ event ∈ new, event.disturbs = false) :
    .read8 rRxLength ∉ new := fun member => absurd (calm _ member) (by decide)

/-- The state behind a status word: the last flag of the handler that is set decides. -/
theorem onStatus_state_eq (driver : Driver) (sample : Sample) :
    (driver.onStatus sample).state =
      if has sample.status iwut then .standby
      else if has sample.status ipksent then .standby
      else if has sample.status itxffaem then .tx
      else if has sample.status itxffafull then .txBusy
      else if has sample.status ifferr then .fifoError
      else if has sample.status icrcerror then .rxInvalid
      else if has sample.status ipkvalid then .rxValid
      else if has sample.status irxffafull then .rxReady
      else if driver.state = .listen ∧ has sample.status iswdet then .rx
      else driver.state := by
  have ite_state (c : Prop) [Decidable c] (one two : Driver) :
      (if c then one else two).state = if c then one.state else two.state := apply_ite ..
  unfold Driver.onStatus phyStandby Driver.clearFifos Driver.transfer Driver.setState
  simp only [ite_state]

namespace Attentive

variable {driver : Driver} (attentive : Attentive driver)

include attentive

theorem transfer {event : Event} (calm : event.disturbs = false) :
    Attentive (driver.transfer event) := by
  have calm : ∀ other ∈ [event], other.disturbs = false := by simpa using calm
  exact ⟨attentive.fresh.append (not_read_of_calm calm),
    fun valid => (attentive.valid valid).append calm⟩

theorem listen : Attentive (phyListen driver) where
  fresh := by
    rw [phyListen_bus]
    exact attentive.fresh.append (by decide)
  valid := by rintro ⟨⟩

theorem standby : Attentive (phyStandby driver) where
  fresh := by
    rw [phyStandby_bus]
    exact attentive.fresh.append (by decide)
  valid := by rintro ⟨⟩

theorem onStatus (sample : Sample) : Attentive (driver.onStatus sample) where
  fresh := by
    rw [onStatus_bus]
    refine attentive.fresh.append ?_
    unfold Driver.answers
    split <;> split <;> simp [rRssi, rRxLength]
  valid valid := by
    rw [onStatus_state_eq] at valid
    -- neither the wake-up timer nor a later flag has moved the state
    have calm : has sample.status iwut = false := by
      refine Bool.eq_false_iff.mpr fun wakes => ?_
      rw [if_pos wakes] at valid
      cases valid
    have quiet : ∀ event ∈ (if driver.state = .listen ∧ has sample.status iswdet then
        [Event.read8 rRssi] else []), event.disturbs = false := by
      split <;> simp [Event.disturbs, rRssi, rRxLength, rFifo]
    have bus : (driver.onStatus sample).bus = driver.bus ++ [.status sample.status] ++
        (if driver.state = .listen ∧ has sample.status iswdet then
          [Event.read8 rRssi] else []) := by
      rw [onStatus_bus, Driver.answers, calm, if_neg Bool.false_ne_true, List.append_nil]
      simp
    rw [bus]
    refine Reported.append ?_ quiet
    by_cases reports : has sample.status ipkvalid = true
    · exact ⟨driver.bus, sample.status, [], rfl, reports, by simp⟩
    · refine (attentive.valid ?_).append (by simp [Event.disturbs])
      rw [if_neg (by simp [calm])] at valid
      split_ifs at valid
      exact valid

theorem prepare (cursor : Cursor) : Attentive (driver.prepare cursor) where
  fresh := by
    rw [prepare_bus]
    exact attentive.fresh.append (by simp)
  valid := by rintro ⟨⟩

theorem send {after : Driver} {bufs : List (List Byte)} {flags : Byte} {samples rest : List Sample}
    {rc : Int} (returns : phySend driver bufs flags samples = some (rc, after, rest)) :
    Attentive after := by
  refine phySend_keeps (fun driver sample attentive => attentive.onStatus sample)
    (fun driver byte attentive => attentive.transfer rfl)
    (fun driver attentive => attentive.transfer (by decide))
    (fun driver cursor _ attentive => attentive.prepare cursor)
    (fun driver attentive => attentive.listen) attentive returns

theorem delayedStandby (us : BitVec 16) : Attentive (phyDelayedStandby driver us) := by
  have calm : ∀ event ∈ [Event.write8 rWuPeriod1 0#8,
      Event.write8 rWuPeriod2 (Lib.high (wakePeriod us)),
      Event.write8 (rWuPeriod2 + 1#8) (Lib.low (wakePeriod us)),
      Event.write8 rOpCtrl1 (enwt ||| rxon ||| xton)], event.disturbs = false := by
    simp [Event.disturbs, rWuPeriod1, rWuPeriod2, rOpCtrl1, rOpCtrl2]
  have bus := phyDelayedStandby_bus driver us
  refine ⟨?_, fun valid => ?_⟩
  · rw [bus]
    exact attentive.fresh.append (not_read_of_calm calm)
  · rw [bus]
    exact (attentive.valid valid).append calm

/-- The event handler reads what was reported. -/
theorem despatch {radio : Radio} (is : radio.driver = driver) (reception : Reception) :
    Attentive (radio.despatch reception).1.driver := by
  subst is
  unfold Radio.despatch
  split
  · next valid =>
    have read : FreshReads (radio.driver.bus ++ [.read8 rRxLength]) :=
      attentive.fresh.read (attentive.valid valid)
    refine ⟨?_, by rintro ⟨⟩⟩
    dsimp only
    rw [phyListen_bus]
    refine FreshReads.append (read.append fun member => ?_) (by decide)
    exact absurd (List.eq_of_mem_replicate member) (by decide)
  · exact attentive.listen
  · exact attentive.listen
  · exact attentive

end Attentive

/-! ### Upcalls -/

/-- The packets that have been read. -/
def readings (bus : List Event) : Nat := bus.count (.read8 rRxLength)

/-- What holds of the upcalls of a run: each goes with a packet that has been read, and fits the
buffer. -/
structure Radio.Tidy (radio : Radio) (upcalls : List Upcall) : Prop where
  attentive : Attentive radio.driver
  bounded : ∀ upcall ∈ upcalls, upcall.size ≤ maxPacket
  counted : upcalls.length ≤ readings radio.driver.bus

section Counting

/-- The transfers of `after` go on from those of `before`. -/
def Extends (before after : Driver) : Prop := before.bus <+: after.bus

theorem Extends.readings_le {before after : Driver} (extends_ : Extends before after) :
    readings before.bus ≤ readings after.bus := extends_.sublist.count_le _

theorem extends_onStatus {start : Driver} (driver : Driver) (sample : Sample)
    (before : Extends start driver) : Extends start (driver.onStatus sample) := by
  unfold Extends
  rw [onStatus_bus]
  exact before.trans (List.prefix_append ..)

theorem extends_transfer {start : Driver} (driver : Driver) (event : Event)
    (before : Extends start driver) : Extends start (driver.transfer event) :=
  before.trans (List.prefix_append ..)

theorem extends_listen {start : Driver} (driver : Driver) (before : Extends start driver) :
    Extends start (phyListen driver) := by
  unfold Extends
  rw [phyListen_bus]
  exact before.trans (List.prefix_append ..)

theorem extends_prepare {start : Driver} (driver : Driver) (cursor : Cursor)
    (before : Extends start driver) : Extends start (driver.prepare cursor) := by
  unfold Extends
  rw [prepare_bus]
  exact before.trans (List.prefix_append ..)

theorem extends_despatch {radio : Radio} {start : Driver} (before : Extends start radio.driver)
    (reception : Reception) : Extends start (radio.despatch reception).1.driver := by
  unfold Radio.despatch
  split
  · refine extends_listen _ ?_
    exact (extends_transfer _ _ before).trans (List.prefix_append ..)
  · exact extends_listen _ before
  · exact extends_listen _ before
  · exact before

end Counting

/-- Each upcall goes with a reading of its own. -/
theorem despatch_upcall {radio : Radio} {reception : Reception} {upcall : Upcall}
    (made : (radio.despatch reception).2 = some upcall) :
    upcall.size ≤ maxPacket ∧
      readings radio.driver.bus < readings (radio.despatch reception).1.driver.bus := by
  unfold Radio.despatch at made ⊢
  split at made
  · next valid =>
    dsimp only at made
    split at made
    · cases made
      refine ⟨Nat.min_le_right _ _, ?_⟩
      have read : readings (radio.driver.transfer (.read8 rRxLength)).bus =
          readings radio.driver.bus + 1 := by
        simp [readings, Driver.transfer]
      refine Nat.lt_of_lt_of_le (Nat.lt_of_lt_of_eq (Nat.lt_succ_self _) read.symm) ?_
      exact Extends.readings_le (extends_listen _ (List.prefix_append ..))
    · cases made
  · cases made
  · cases made
  · cases made

/-- The event handler reads the status words, and despatches. -/
theorem phyEventHandler_eq {radio after : Radio} {upcall : Option Upcall}
    {samples rest : List Sample} {reception : Reception}
    (returns : phyEventHandler radio samples reception = some (after, upcall, rest)) :
    ∃ driver, si443xEventHandler radio.driver samples = some (driver, rest) ∧
      Radio.despatch { radio with driver := driver } reception = (after, upcall) := by
  obtain ⟨⟨driver, left⟩, handled, is⟩ := Option.bind_eq_some_iff.mp returns
  cases is
  exact ⟨driver, handled, rfl⟩

namespace Radio.Tidy

variable {radio : Radio} {upcalls : List Upcall} (tidy : radio.Tidy upcalls)

include tidy

/-- A call that makes no upcall. -/
theorem quiet {after : Radio} (attentive : Attentive after.driver)
    (grows : Extends radio.driver after.driver) : after.Tidy (upcalls ++ []) where
  attentive := attentive
  bounded := by
    rw [List.append_nil]
    exact tidy.bounded
  counted := by
    rw [List.append_nil]
    exact tidy.counted.trans grows.readings_le

theorem despatch (reception : Reception) : (radio.despatch reception).1.Tidy
    (upcalls ++ (radio.despatch reception).2.toList) := by
  have attentive := tidy.attentive.despatch rfl reception
  have grows : Extends radio.driver (radio.despatch reception).1.driver :=
    extends_despatch List.prefix_rfl reception
  cases made : (radio.despatch reception).2 with
  | none => exact tidy.quiet attentive grows
  | some upcall =>
      obtain ⟨fits, more⟩ := despatch_upcall made
      refine ⟨attentive, fun other member => ?_, ?_⟩
      · rcases List.mem_append.mp member with old | new
        · exact tidy.bounded other old
        · obtain rfl := List.mem_singleton.mp new
          exact fits
      · have counted := tidy.counted
        rw [List.length_append, Option.toList_some, List.length_singleton]
        omega

theorem poll {after : Radio} {upcall : Option Upcall} {samples rest : List Sample}
    {reception : Reception}
    (returns : phyEventHandler radio samples reception = some (after, upcall, rest)) :
    after.Tidy (upcalls ++ upcall.toList) := by
  obtain ⟨driver, handled, is⟩ := phyEventHandler_eq returns
  have ready : Radio.Tidy { radio with driver := driver } (upcalls ++ []) := tidy.quiet
    (eventHandler_keeps (fun driver sample attentive => attentive.onStatus sample)
      tidy.attentive handled)
    (eventHandler_keeps extends_onStatus List.prefix_rfl handled)
  rw [List.append_nil] at ready
  have despatched := ready.despatch reception
  rw [is] at despatched
  exact despatched

theorem step {after : Radio} {upcall : Option Upcall} {request : Request}
    (returns : radio.step request = some (after, upcall)) :
    after.Tidy (upcalls ++ upcall.toList) := by
  cases request with
  | poll samples reception =>
      obtain ⟨⟨polled, made, rest⟩, handled, is⟩ := Option.bind_eq_some_iff.mp returns
      cases is
      exact tidy.poll handled
  | send bufs flags samples =>
      obtain ⟨⟨rc, driver, rest⟩, sent, is⟩ := Option.bind_eq_some_iff.mp returns
      cases is
      refine tidy.quiet (tidy.attentive.send sent) ?_
      exact phySend_keeps extends_onStatus (fun driver byte => extends_transfer driver _)
        (fun driver => extends_transfer driver _)
        (fun driver cursor _ => extends_prepare driver cursor) extends_listen List.prefix_rfl sent
  | listen =>
      cases returns
      exact tidy.quiet tidy.attentive.listen (extends_listen _ List.prefix_rfl)
  | standby =>
      cases returns
      refine tidy.quiet tidy.attentive.standby ?_
      rw [Extends, phyStandby_bus]
      exact List.prefix_append ..
  | delayedStandby us =>
      cases returns
      refine tidy.quiet (tidy.attentive.delayedStandby us) ?_
      rw [Extends, phyDelayedStandby_bus]
      exact List.prefix_append ..
  | registerRecvCb cb =>
      cases returns
      exact tidy.quiet tidy.attentive List.prefix_rfl

theorem run {after : Radio} {made : List Upcall} {requests : List Request}
    (returns : radio.run requests = some (after, made)) : after.Tidy (upcalls ++ made) := by
  induction requests generalizing radio upcalls made with
  | nil =>
      cases returns
      rw [List.append_nil]
      exact tidy
  | cons request rest ih =>
      obtain ⟨⟨between, first⟩, stepped, returns⟩ := Option.bind_eq_some_iff.mp returns
      obtain ⟨⟨last, others⟩, ran, is⟩ := Option.bind_eq_some_iff.mp returns
      cases is
      rw [← List.append_assoc]
      exact ih (tidy.step stepped) ran

end Radio.Tidy

/-! ### From the start -/

theorem freshReads_writeBlock {driver : Driver} (fresh : FreshReads driver.bus) (address : Byte)
    (data : List Byte) : FreshReads (driver.writeBlock address data).bus := by
  refine fresh.append fun member => ?_
  obtain ⟨index, inside, is⟩ := List.mem_mapIdx.mp member
  cases is

theorem freshReads_deviceInit {driver : Driver} (fresh : FreshReads driver.bus)
    (config : List Byte) : FreshReads (si443xDeviceInit driver config).bus := by
  unfold si443xDeviceInit
  generalize groups config.length config = list
  induction list generalizing driver with
  | nil => exact fresh
  | cons group rest ih => exact ih (freshReads_writeBlock fresh _ _)

/-- What `phy_resume` leaves behind when it has found its radio. -/
theorem resume_attentive {driver after : Driver} (fresh : FreshReads driver.bus)
    {config : List Byte} {device version : Byte} {samples rest : List Sample}
    (returns : phyResume driver config device version samples = some (0, after, rest)) :
    Attentive after ∧ after.state = .standby := by
  unfold phyResume at returns
  dsimp only at returns
  split at returns
  · cases returns
  · obtain ⟨left, awaited, is⟩ := Option.bind_eq_some_iff.mp returns
    cases is
    refine ⟨⟨?_, by rintro ⟨⟩⟩, rfl⟩
    refine freshReads_writeBlock (freshReads_writeBlock ?_ _ _) _ _
    rw [phyStandby_bus]
    refine FreshReads.append (freshReads_deviceInit ?_ config) (by decide)
    exact ((fresh.transfer (by decide)).transfer (by decide)).transfer (by decide)

/-- **Every packet that is handed up is fresh.** In every run of driver calls from `phy_resume` on,
whatever the radio presents, each upcall goes with a reading of the length register of its own, fits
the buffer, and at every such reading the radio has reported a valid packet and the FIFO has been
neither cleared nor read since the report. -/
theorem reads_fresh {config : List Byte} {device version : Byte} {samples rest : List Sample}
    {driver : Driver}
    (resumed : phyResume .loaded config device version samples = some (0, driver, rest))
    (payload : Memory) (recvCb : Bool) (requests : List Request) {radio : Radio}
    {upcalls : List Upcall}
    (returns : Radio.run ⟨driver, payload, recvCb⟩ requests = some (radio, upcalls)) :
    FreshReads radio.driver.bus ∧ upcalls.length ≤ readings radio.driver.bus ∧
      ∀ upcall ∈ upcalls, upcall.size ≤ maxPacket := by
  have none : FreshReads Driver.loaded.bus := by
    intro before after is
    cases before <;> cases is
  have start : Radio.Tidy ⟨driver, payload, recvCb⟩ [] :=
    ⟨(resume_attentive none resumed).1, nofun, Nat.zero_le _⟩
  have tidy := start.run returns
  exact ⟨tidy.attentive.fresh, tidy.counted, tidy.bounded⟩

/-- A packet is reported while `phy_send` looks whether the receiver is busy. The packet to be sent
is refused, and the one that was received is handed up by the next event handler. -/
def refusedThenRead : List Request :=
  [.listen, .send [[1#8]] 0#8 [⟨true, iswdet ||| ipkvalid, 0x80#8⟩, ⟨false, 0#16, 0#8⟩],
    .poll [⟨false, 0#16, 0#8⟩] ⟨3#8, fun index => BitVec.ofNat 8 index⟩]

theorem reads_fresh_refused : ∃ driver rest radio upcalls,
    phyResume .loaded [0x0B#8, 1#8, 0x15#8, 0#8] 0x08#8 0x06#8 [⟨true, 0#16, 0#8⟩] =
      some (0, driver, rest) ∧
    Radio.run ⟨driver, fun _ => 0#8, true⟩ refusedThenRead = some (radio, upcalls) ∧
    upcalls.map (fun upcall => (upcall.size, upcall.rssi)) = [(3, -59)] ∧
    FreshReads radio.driver.bus ∧ upcalls.length ≤ readings radio.driver.bus ∧
    ∀ upcall ∈ upcalls, upcall.size ≤ maxPacket :=
  ⟨_, [], _, _, rfl, rfl, rfl, @reads_fresh [0x0B#8, 1#8, 0x15#8, 0#8] 0x08#8 0x06#8
    [⟨true, 0#16, 0#8⟩] [] _ rfl (fun _ => 0#8) true refusedThenRead _ _ rfl⟩

end TinyHan.PhySi443x
