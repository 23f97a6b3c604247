/-
**The Si443x PHY** (`phy-si443x.c`): sending.

The driver talks to the radio over SPI and has one line back, nIRQ, which is low while the radio has
an interrupt pending. `si443x_event_handler` reads the interrupt status while the line is low, and
moves one state variable that receiving, sending and the wake-up timer share. `phy_send` fills the
FIFO byte by byte, looks at the line behind each byte, and waits for the state to be Standby.

* What the radio presents is arbitrary: a `Sample` for each test of nIRQ, with the level of the line
  and the registers that the driver reads when it finds it low. A function that has used up its
  samples is still running, and is `none`.
* `bus` lists the transfers to and from the radio since the call was made.
* The loops are as the source has them. `Call` is the same function as a machine, which makes one
  step for each sample, and `phySend_run` says that the loops run it.

`WAIT_EVENT` may return at any time and is left out, and so are the traces.
-/

import TinyHan.Lib.Bytes

namespace TinyHan.PhySi443x

open TinyHan.Lib

/-! ### Registers -/

/-- `R_OP_CTRL1`. -/
def rOpCtrl1 : Byte := 0x07#8
/-- `R_OP_CTRL2`. -/
def rOpCtrl2 : Byte := 0x08#8
/-- `R_RSSI`. -/
def rRssi : Byte := 0x26#8
/-- `R_TX_LENGTH`. -/
def rTxLength : Byte := 0x3E#8

/-- `TXON`. -/
def txon : Byte := 0x08#8
/-- `RXON`. -/
def rxon : Byte := 0x04#8
/-- `XTON`. -/
def xton : Byte := 0x01#8
/-- `FFCLRRX`. -/
def ffclrrx : Byte := 0x02#8
/-- `FFCLRTX`. -/
def ffclrtx : Byte := 0x01#8

/-- `IFFERR`. -/
def ifferr : BitVec 16 := 0x8000#16
/-- `ITXFFAFULL`. -/
def itxffafull : BitVec 16 := 0x4000#16
/-- `ITXFFAEM`. -/
def itxffaem : BitVec 16 := 0x2000#16
/-- `IRXFFAFULL`. -/
def irxffafull : BitVec 16 := 0x1000#16
/-- `IPKSENT`. -/
def ipksent : BitVec 16 := 0x0400#16
/-- `IPKVALID`. -/
def ipkvalid : BitVec 16 := 0x0200#16
/-- `ICRCERROR`. -/
def icrcerror : BitVec 16 := 0x0100#16
/-- `ISWDET`. -/
def iswdet : BitVec 16 := 0x0080#16
/-- `IWUT`. -/
def iwut : BitVec 16 := 0x0008#16

/-- `status & flag`. -/
def has (status flag : BitVec 16) : Bool := status &&& flag != 0#16

/-- `RSSI_DBM`. -/
def rssiDbm (rssi : Byte) : Int := (((rssi.toNat : Int) - 241) * 100).tdiv 191

/-! ### The driver -/

/-- `si443x_state_t`. -/
inductive State where
  | standby
  | listen
  | rx
  | rxReady
  | rxValid
  | rxInvalid
  | fifoError
  | tx
  | txBusy
  deriving DecidableEq, Repr

/-- The place of a state in the enumeration. -/
def State.code : State → Nat
  | .standby => 0
  | .listen => 1
  | .rx => 2
  | .rxReady => 3
  | .rxValid => 4
  | .rxInvalid => 5
  | .fifoError => 6
  | .tx => 7
  | .txBusy => 8

/-- A transfer between the driver and the radio. -/
inductive Event where
  /-- `si443x_write8`. -/
  | write8 (addr val : Byte)
  /-- `si443x_read8`. -/
  | read8 (addr : Byte)
  /-- `SI443X_STATUS`, which clears the flags it returns. -/
  | status (word : BitVec 16)
  /-- A byte to the FIFO, in a burst of `SPI_IO`. -/
  | fifo (byte : Byte)
  deriving DecidableEq, Repr

/-- The statics of the driver, and the transfers of the call. -/
structure Driver where
  state : State
  rssi : Int
  bus : List Event
  deriving DecidableEq, Repr

/-- What the radio presents at a test of nIRQ. -/
structure Sample where
  /-- The line is low. -/
  pending : Bool
  status : BitVec 16
  rssi : Byte
  deriving DecidableEq, Repr

/-- One transfer. -/
def Driver.transfer (driver : Driver) (event : Event) : Driver :=
  { driver with bus := driver.bus ++ [event] }

/-- A write of `phy_si443x_state`. -/
def Driver.setState (driver : Driver) (state : State) : Driver := { driver with state := state }

/-- `SI443X_CLEAR_TX_FIFO`. -/
def Driver.clearTxFifo (driver : Driver) : Driver :=
  (driver.transfer (.write8 rOpCtrl2 ffclrtx)).transfer (.write8 rOpCtrl2 0#8)

/-- `SI443X_CLEAR_FIFOS`. -/
def Driver.clearFifos (driver : Driver) : Driver :=
  (driver.transfer (.write8 rOpCtrl2 (ffclrtx ||| ffclrrx))).transfer (.write8 rOpCtrl2 0#8)

/-- `phy_listen`. -/
def phyListen (driver : Driver) : Driver :=
  (driver.clearFifos.transfer (.write8 rOpCtrl1 (rxon ||| xton))).setState .listen

/-- `phy_standby`. -/
def phyStandby (driver : Driver) : Driver :=
  (driver.clearFifos.transfer (.write8 rOpCtrl1 0#8)).setState .standby

/-- One turn of the loop of `si443x_event_handler`. -/
def Driver.onStatus (driver : Driver) (sample : Sample) : Driver :=
  let status := sample.status
  let driver := driver.transfer (.status status)
  let driver := if driver.state = .listen ∧ has status iswdet then
      { (driver.setState .rx).transfer (.read8 rRssi) with rssi := rssiDbm sample.rssi }
    else driver
  let driver := if has status irxffafull then driver.setState .rxReady else driver
  let driver := if has status ipkvalid then driver.setState .rxValid else driver
  let driver := if has status icrcerror then driver.setState .rxInvalid else driver
  let driver := if has status ifferr then driver.setState .fifoError else driver
  let driver := if has status itxffafull then driver.setState .txBusy else driver
  let driver := if has status itxffaem then driver.setState .tx else driver
  let driver := if has status ipksent then driver.setState .standby else driver
  if has status iwut then phyStandby driver else driver

/-- `si443x_event_handler`. -/
def si443xEventHandler (driver : Driver) : List Sample → Option (Driver × List Sample)
  | [] => none
  | sample :: rest =>
      if sample.pending then si443xEventHandler (driver.onStatus sample) rest
      else some (driver, rest)

/-! ### Fragments -/

/-- The local variables `size`, `buf` and `ptr` of `phy_send`: `size` counts the bytes that are
left, in the fragment at hand and in those behind it. -/
structure Cursor where
  size : Nat
  buf : List Byte
  ptr : List (List Byte)
  total : size = (buf ++ ptr.flatten).length

/-- The bytes that are left. -/
def Cursor.left (cursor : Cursor) : List Byte := cursor.buf ++ cursor.ptr.flatten

/-- `while (buf.size == 0) buf = *ptr++`. -/
def seek : List Byte → List (List Byte) → List Byte × List (List Byte)
  | [], buf :: ptr => seek buf ptr
  | buf, ptr => (buf, ptr)

theorem seek_left (buf : List Byte) (ptr : List (List Byte)) :
    (seek buf ptr).1 ++ (seek buf ptr).2.flatten = buf ++ ptr.flatten := by
  induction ptr generalizing buf with
  | nil => cases buf <;> rfl
  | cons next ptr ih =>
      cases buf with
      | nil => exact ih next
      | cons byte buf => rfl

/-- The search ends at a fragment with a byte, if there is one. -/
theorem seek_eq_nil {buf : List Byte} {ptr : List (List Byte)} (none : (seek buf ptr).1 = []) :
    buf ++ ptr.flatten = [] := by
  induction ptr generalizing buf with
  | nil =>
      cases buf with
      | nil => rfl
      | cons byte buf => cases none
  | cons next ptr ih =>
      cases buf with
      | nil => exact ih none
      | cons byte buf => cases none

/-- The cursor at the start, `buf = *ptr++`. The source asserts that there is a fragment. -/
def Cursor.start : List (List Byte) → Cursor
  | [] => ⟨0, [], [], rfl⟩
  | buf :: ptr => ⟨(buf ++ ptr.flatten).length, buf, ptr, rfl⟩

@[simp] theorem start_left (bufs : List (List Byte)) : (Cursor.start bufs).left = bufs.flatten := by
  cases bufs <;> rfl

theorem Cursor.size_eq (cursor : Cursor) : cursor.size = cursor.left.length := cursor.total

theorem Cursor.size_eq_zero {cursor : Cursor} : cursor.size = 0 ↔ cursor.left = [] := by
  rw [cursor.size_eq, List.length_eq_zero_iff]

/-- The next byte, and the cursor behind it. -/
def Cursor.next (cursor : Cursor) (more : cursor.size ≠ 0) : Byte × Cursor :=
  match found : seek cursor.buf cursor.ptr with
  | (byte :: buf, ptr) => (byte, ⟨cursor.size - 1, buf, ptr, by
      have same := congrArg List.length (seek_left cursor.buf cursor.ptr)
      rw [found, ← cursor.total] at same
      simp only [List.cons_append, List.length_cons] at same
      omega⟩)
  | ([], _) => absurd (cursor.total.trans (congrArg List.length
      (seek_eq_nil (congrArg Prod.fst found)))) more

theorem Cursor.next_left (cursor : Cursor) (more : cursor.size ≠ 0) :
    (cursor.next more).1 :: (cursor.next more).2.left = cursor.left := by
  unfold Cursor.next
  split
  · next byte buf ptr found =>
    have same := seek_left cursor.buf cursor.ptr
    rw [found] at same
    exact same
  · next ptr found =>
    have none : cursor.left = [] := seek_eq_nil (congrArg Prod.fst found)
    exact absurd (Cursor.size_eq_zero.mpr none) more

/-! ### `phy_send` -/

/-- The loop that copies data to the FIFO. -/
def fill (driver : Driver) (cursor : Cursor) : List Sample → Option (Driver × Cursor × List Sample)
  | [] => if cursor.size = 0 then some (driver, cursor, []) else none
  | sample :: rest =>
      if more : cursor.size ≠ 0 then
        let driver := driver.transfer (.fifo (cursor.next more).1)
        let cursor := (cursor.next more).2
        -- drop out if an event is pending
        if sample.pending then some (driver, cursor, rest) else fill driver cursor rest
      else some (driver, cursor, sample :: rest)

/-- `SI443X_MODE_TX`. -/
def Driver.modeTx (driver : Driver) : Driver := driver.transfer (.write8 rOpCtrl1 (txon ||| xton))

/-- The transmitter is to be enabled: the FIFO is almost full, or has all the data. -/
def starts (driver : Driver) (cursor : Cursor) (started : Bool) : Bool :=
  !started && (driver.state = .txBusy || cursor.size = 0)

/-- The loop `do { .. } while (size)`. Every turn uses a sample, and `fuel` counts the turns. -/
def transmit : Nat → Driver → Cursor → Bool → List Sample → Option (Driver × List Sample)
  | 0, _, _, _, _ => none
  | fuel + 1, driver, cursor, started, samples => do
      let (driver, cursor, samples) ←
        if driver.state = .tx then fill driver cursor samples else some (driver, cursor, samples)
      let (driver, samples) ← si443xEventHandler driver samples
      let start := starts driver cursor started
      let driver := if start then driver.modeTx else driver
      if cursor.size ≠ 0 then transmit fuel driver cursor (started || start) samples
      else some (driver, samples)

/-- The loop that waits for completion. -/
def complete : Nat → Driver → List Sample → Option (Driver × List Sample)
  | 0, _, _ => none
  | fuel + 1, driver, samples =>
      if driver.state ≠ .standby then do
        let (driver, samples) ← si443xEventHandler driver samples
        complete fuel driver samples
      else some (driver, samples)

/-- The state is set, the FIFO cleared and the length announced. -/
def Driver.prepare (driver : Driver) (cursor : Cursor) : Driver :=
  (driver.setState .tx).clearTxFifo.transfer (.write8 rTxLength (BitVec.ofNat 8 cursor.size))

/-- `phy_send`, with its result and the samples it has not used. It looks at no flag. -/
def phySend (driver : Driver) (bufs : List (List Byte)) (_flags : Byte) (samples : List Sample) :
    Option (Int × Driver × List Sample) := do
  let cursor := Cursor.start bufs
  let (driver, samples) ← si443xEventHandler driver samples
  if driver.state.code > State.listen.code then some (-1, driver, samples)
  else
    let driver := driver.prepare cursor
    let (driver, samples) ← transmit (samples.length + 1) driver cursor false samples
    let (driver, samples) ← complete (samples.length + 1) driver samples
    some (0, phyListen driver, samples)

/-! ### One step for each sample -/

/-- Where `phy_send` tests nIRQ. -/
inductive Point where
  /-- In the event handler, before the driver knows that it is idle. -/
  | entering (bufs : List (List Byte))
  /-- Behind a byte for the FIFO. -/
  | filling (cursor : Cursor) (started : Bool)
  /-- In the event handler, between two bursts. -/
  | polling (cursor : Cursor) (started : Bool)
  /-- In the event handler, behind the last byte. -/
  | waiting
  | returned (rc : Int)

/-- A call of `phy_send` on its way. -/
structure Call where
  driver : Driver
  point : Point

/-- The loop over the bytes goes on. -/
def Call.more (driver : Driver) (cursor : Cursor) (started : Bool) : Call :=
  if more : cursor.size ≠ 0 then
    ⟨driver.transfer (.fifo (cursor.next more).1), .filling (cursor.next more).2 started⟩
  else ⟨driver, .polling cursor started⟩

/-- The outer loop goes on. -/
def Call.turn (driver : Driver) (cursor : Cursor) (started : Bool) : Call :=
  if driver.state = .tx then .more driver cursor started else ⟨driver, .polling cursor started⟩

/-- The data is written: the call returns, or waits. -/
def Call.settle (driver : Driver) : Call :=
  if driver.state ≠ .standby then ⟨driver, .waiting⟩ else ⟨phyListen driver, .returned 0⟩

/-- Behind the event handler of the outer loop. -/
def Call.polled (driver : Driver) (cursor : Cursor) (started : Bool) : Call :=
  let start := starts driver cursor started
  let driver := if start then driver.modeTx else driver
  if cursor.size ≠ 0 then .turn driver cursor (started || start) else .settle driver

/-- Behind the event handler at the start. -/
def Call.entered (driver : Driver) (bufs : List (List Byte)) : Call :=
  let cursor := Cursor.start bufs
  if driver.state.code > State.listen.code then ⟨driver, .returned (-1)⟩
  else .turn (driver.prepare cursor) cursor false

/-- What the call does up to the next test of nIRQ. -/
def Call.step (call : Call) (sample : Sample) : Call :=
  match call.point with
  | .entering bufs =>
      if sample.pending then ⟨call.driver.onStatus sample, .entering bufs⟩
      else .entered call.driver bufs
  | .filling cursor started =>
      if sample.pending then ⟨call.driver, .polling cursor started⟩
      else .more call.driver cursor started
  | .polling cursor started =>
      if sample.pending then ⟨call.driver.onStatus sample, .polling cursor started⟩
      else .polled call.driver cursor started
  | .waiting =>
      if sample.pending then ⟨call.driver.onStatus sample, .waiting⟩
      else .settle call.driver
  | .returned _ => call

/-- The call over the samples. -/
def Call.run (call : Call) (samples : List Sample) : Call := samples.foldl Call.step call

/-- What the call has returned. -/
def Call.result (call : Call) : Option (Int × Driver) :=
  match call.point with
  | .returned rc => some (rc, call.driver)
  | _ => none

@[simp] theorem run_nil (call : Call) : call.run [] = call := rfl

theorem run_cons (call : Call) (sample : Sample) (rest : List Sample) :
    call.run (sample :: rest) = (call.step sample).run rest := rfl

/-- A call that has returned does nothing. -/
theorem run_returned (driver : Driver) (rc : Int) (samples : List Sample) :
    (Call.mk driver (.returned rc)).run samples = ⟨driver, .returned rc⟩ := by
  induction samples with
  | nil => rfl
  | cons sample rest ih => exact ih

theorem eq_of_result {call : Call} {rc : Int} {driver : Driver}
    (ended : call.result = some (rc, driver)) : call = ⟨driver, .returned rc⟩ := by
  obtain ⟨driver, point⟩ := call
  cases point with
  | returned rc =>
      cases ended
      rfl
  | entering | filling | polling | waiting => cases ended

/-! ### The loops run the machine -/

section Loops

theorem eventHandler_uses {driver after : Driver} {samples rest : List Sample}
    (ends : si443xEventHandler driver samples = some (after, rest)) :
    rest.length < samples.length := by
  induction samples generalizing driver with
  | nil => cases ends
  | cons sample samples ih =>
      rw [si443xEventHandler] at ends
      split at ends
      · exact (ih ends).trans (Nat.lt_succ_self _)
      · cases ends
        exact Nat.lt_succ_self _

theorem fill_uses {driver after : Driver} {cursor behind : Cursor} {samples rest : List Sample}
    (ends : fill driver cursor samples = some (after, behind, rest)) :
    rest.length ≤ samples.length := by
  induction samples generalizing driver cursor with
  | nil =>
      rw [fill] at ends
      split at ends
      · cases ends
        exact le_rfl
      · cases ends
  | cons sample samples ih =>
      rw [fill] at ends
      split at ends
      · dsimp only at ends
        split at ends
        · cases ends
          exact Nat.le_succ _
        · exact (ih ends).trans (Nat.le_succ _)
      · cases ends
        exact le_rfl

/-- **The event handler**, wherever it is called from: `leave` is what the call does behind it. -/
theorem eventHandler_run {point : Point} {leave : Driver → Call}
    (running : ∀ driver, (Call.mk driver point).result = none)
    (steps : ∀ driver sample, (Call.mk driver point).step sample =
      if sample.pending then ⟨driver.onStatus sample, point⟩ else leave driver)
    (driver : Driver) (samples : List Sample) :
    ((Call.mk driver point).run samples).result =
      (si443xEventHandler driver samples).bind fun after =>
        ((leave after.1).run after.2).result := by
  induction samples generalizing driver with
  | nil => exact running driver
  | cons sample rest ih =>
      rw [run_cons, steps, si443xEventHandler]
      split
      · exact ih _
      · rfl

/-- **A burst of bytes.** -/
theorem fill_run (driver : Driver) (cursor : Cursor) (started : Bool) (samples : List Sample) :
    ((Call.more driver cursor started).run samples).result =
      (fill driver cursor samples).bind fun after =>
        ((Call.mk after.1 (.polling after.2.1 started)).run after.2.2).result := by
  induction samples generalizing driver cursor with
  | nil =>
      rw [fill, Call.more]
      by_cases done : cursor.size = 0
      · rw [if_pos done, dif_neg (not_not.mpr done)]
        rfl
      · rw [if_neg done, dif_pos done]
        rfl
  | cons sample rest ih =>
      rw [fill, Call.more]
      by_cases done : cursor.size = 0
      · rw [dif_neg (not_not.mpr done), dif_neg (not_not.mpr done)]
        rfl
      · rw [dif_pos done, dif_pos done, run_cons]
        dsimp only [Call.step]
        split
        · rfl
        · exact ih _ _

/-- **The outer loop**, with fuel for the samples. -/
theorem transmit_run (fuel : Nat) (driver : Driver) (cursor : Cursor) (started : Bool)
    (samples : List Sample) (enough : samples.length < fuel) :
    ((Call.turn driver cursor started).run samples).result =
      (transmit fuel driver cursor started samples).bind fun after =>
        ((Call.settle after.1).run after.2).result := by
  induction fuel generalizing driver cursor started samples with
  | zero => cases enough
  | succ fuel ih =>
      have polls (driver : Driver) (cursor : Cursor) (samples : List Sample)
          (few : samples.length ≤ fuel) :
          ((Call.mk driver (.polling cursor started)).run samples).result =
            ((do
              let (driver, samples) ← si443xEventHandler driver samples
              let start := starts driver cursor started
              let driver := if start then driver.modeTx else driver
              if cursor.size ≠ 0 then transmit fuel driver cursor (started || start) samples
              else some (driver, samples) : Option (Driver × List Sample))).bind fun after =>
            ((Call.settle after.1).run after.2).result := by
        rw [eventHandler_run (fun _ => rfl) (fun _ _ => rfl) driver samples]
        cases ends : si443xEventHandler driver samples with
        | none => rfl
        | some after =>
            obtain ⟨after, rest⟩ := after
            have used := eventHandler_uses ends
            dsimp only [Option.bind_some, Option.bind_eq_bind, Call.polled]
            by_cases more : cursor.size ≠ 0
            · rw [if_pos more, if_pos more]
              exact ih _ _ _ _ (by omega)
            · rw [if_neg more, if_neg more]
              rfl
      rw [transmit, Call.turn]
      by_cases filling : driver.state = .tx
      · rw [if_pos filling, if_pos filling, fill_run]
        cases filled : fill driver cursor samples with
        | none => rfl
        | some after =>
            obtain ⟨after, behind, rest⟩ := after
            have used := fill_uses filled
            exact polls after behind rest (by omega)
      · rw [if_neg filling, if_neg filling]
        exact polls _ _ _ (by omega)

/-- **The wait for completion**, with fuel for the samples. -/
theorem complete_run (fuel : Nat) (driver : Driver) (samples : List Sample)
    (enough : samples.length < fuel) :
    ((Call.settle driver).run samples).result =
      (complete fuel driver samples).map fun after => (0, phyListen after.1) := by
  induction fuel generalizing driver samples with
  | zero => cases enough
  | succ fuel ih =>
      rw [complete, Call.settle]
      split
      · rw [eventHandler_run (fun _ => rfl) (fun _ _ => rfl) driver samples]
        cases ends : si443xEventHandler driver samples with
        | none => rfl
        | some after =>
            have used := eventHandler_uses ends
            exact ih _ _ (by omega)
      · rw [run_returned]
        rfl

end Loops

/-- The call as it starts. -/
def Call.enter (driver : Driver) (bufs : List (List Byte)) : Call := ⟨driver, .entering bufs⟩

/-- **`phy_send` is the machine.** It has returned exactly when the machine has, with the same
result and the same transfers. -/
theorem phySend_run (driver : Driver) (bufs : List (List Byte)) (flags : Byte)
    (samples : List Sample) :
    (phySend driver bufs flags samples).map (fun after => (after.1, after.2.1)) =
      ((Call.enter driver bufs).run samples).result := by
  rw [Call.enter, eventHandler_run (fun _ => rfl) (fun _ _ => rfl) driver samples, phySend]
  cases si443xEventHandler driver samples with
  | none => rfl
  | some after =>
      obtain ⟨driver, samples⟩ := after
      dsimp only [Option.bind_some, Option.bind_eq_bind, Call.entered]
      by_cases busy : driver.state.code > State.listen.code
      · rw [if_pos busy, if_pos busy, run_returned]
        rfl
      · rw [if_neg busy, if_neg busy, transmit_run _ _ _ _ _ (Nat.lt_succ_self samples.length)]
        cases transmit (samples.length + 1) (driver.prepare (Cursor.start bufs)) (Cursor.start bufs)
          false samples with
        | none => rfl
        | some after =>
            obtain ⟨driver, samples⟩ := after
            dsimp only [Option.bind_some]
            rw [complete_run _ _ _ (Nat.lt_succ_self samples.length)]
            cases complete (samples.length + 1) driver samples <;> rfl

end TinyHan.PhySi443x
