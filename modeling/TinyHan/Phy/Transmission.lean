/-
**A packet that `phy_send` reports as sent.**

A call of `phy_send` that returns 0 should have written every byte of the packet to the FIFO once
and in order, left the FIFO alone until the packet was sent, and read IPKSENT behind the last byte
(`Transmitted`). How far the transfers on the bus have come is their `Progress`:

* `transmitted_iff` — a packet is transmitted if and only if the progress is `sent`;
* `OnCourse.step` — a step of the call stays on course unless it reads IWUT while the packet is
  under way;
* `disturbed_lost` — such a step loses the packet, and the call may still return 0;
* `reachable_frame_transmitted` — what that means for the frames of a node on this radio.

The wake-up timer is armed by `phy_delayed_standby`, and its handler clears the FIFO and sets the
state that `phy_send` waits for.
-/

import TinyHan.Mac.Limits
import TinyHan.Phy.Si443x

namespace TinyHan.PhySi443x

open TinyHan.Lib

/-! ### The transfers of a packet -/

/-- The bytes that are written to the FIFO. -/
def written (bus : List Event) : List Byte :=
  bus.filterMap fun
    | .fifo byte => some byte
    | _ => none

/-- The transfer clears the FIFO for sending. -/
def Event.clears : Event → Bool
  | .write8 addr val => addr = rOpCtrl2 && val &&& ffclrtx != 0#8
  | _ => false

/-- The bytes on the bus are those of the packet, the FIFO is not cleared among them or before the
packet is sent, and IPKSENT is read behind the last of them. -/
def Transmitted (payload : List Byte) (bus : List Event) : Prop :=
  ∃ before during word after, bus = before ++ during ++ .status word :: after ∧
    written before = [] ∧ written during = payload ∧ written after = [] ∧
    (∀ event ∈ during, event.clears = false) ∧ has word ipksent = true

theorem written_append (one two : List Event) : written (one ++ two) = written one ++ written two :=
  List.filterMap_append

/-- How far a packet has come. -/
inductive Progress where
  /-- These bytes are in the FIFO. -/
  | writing (bytes : List Byte)
  | sent
  /-- The FIFO was cleared too early, or there are bytes behind the packet. -/
  | lost
  deriving DecidableEq, Repr

/-- The progress with one more transfer. -/
def Progress.next (payload : List Byte) (progress : Progress) (event : Event) : Progress :=
  match progress, event with
  | .writing bytes, .fifo byte => .writing (bytes ++ [byte])
  | .writing bytes, .status word =>
      if has word ipksent ∧ bytes = payload then .sent else .writing bytes
  | .writing bytes, .write8 addr val =>
      if (Event.write8 addr val).clears ∧ bytes ≠ [] then .lost else .writing bytes
  | .writing bytes, .read8 _ => .writing bytes
  | .sent, .fifo _ => .lost
  | .sent, _ => .sent
  | .lost, _ => .lost

/-- The progress of the transfers on a bus. -/
def progress (payload : List Byte) (bus : List Event) : Progress :=
  bus.foldl (Progress.next payload) (.writing [])

section Progress

variable {payload : List Byte}

theorem progress_append (bus new : List Event) :
    progress payload (bus ++ new) = new.foldl (Progress.next payload) (progress payload bus) :=
  List.foldl_append

theorem foldl_lost (new : List Event) : new.foldl (Progress.next payload) .lost = .lost := by
  induction new with
  | nil => rfl
  | cons event new ih => exact ih

/-- Behind a packet that is sent there are no more bytes. -/
theorem foldl_sent (new : List Event) (none : written new = []) :
    new.foldl (Progress.next payload) .sent = .sent := by
  induction new with
  | nil => rfl
  | cons event new ih =>
      cases event with
      | fifo byte => cases none
      | write8 | read8 | status => exact ih none

/-- Before its first byte a packet cannot be lost. -/
theorem foldl_empty (some : payload ≠ []) (new : List Event) (none : written new = []) :
    new.foldl (Progress.next payload) (.writing []) = .writing [] := by
  induction new with
  | nil => rfl
  | cons event new ih =>
      cases event with
      | fifo byte => cases none
      | write8 addr val => simpa [Progress.next] using ih none
      | read8 addr => exact ih none
      | status word => simpa [Progress.next, some.symm] using ih none

/-- The bytes of the packet, with no clear among them. IPKSENT may be read behind the last one. -/
theorem foldl_during (bytes : List Byte) (during : List Event)
    (whole : bytes ++ written during = payload)
    (untouched : ∀ event ∈ during, event.clears = false) :
    during.foldl (Progress.next payload) (.writing bytes) = .writing payload ∨
      during.foldl (Progress.next payload) (.writing bytes) = .sent := by
  induction during generalizing bytes with
  | nil => exact .inl (congrArg Progress.writing ((List.append_nil bytes).symm.trans whole))
  | cons event during ih =>
      have rest : ∀ event ∈ during, event.clears = false := fun event member =>
        untouched event (List.mem_cons_of_mem _ member)
      have calm := untouched event List.mem_cons_self
      rw [List.foldl_cons]
      cases event with
      | fifo byte =>
          refine ih (bytes ++ [byte]) ?_ rest
          rw [List.append_assoc]
          exact whole
      | read8 addr => exact ih bytes whole rest
      | write8 addr val =>
          rw [Progress.next, if_neg (by simp [calm])]
          exact ih bytes whole rest
      | status word =>
          rw [Progress.next]
          split
          · next sent =>
            have none : written during = [] := by
              have whole : bytes ++ written during = payload := whole
              rw [sent.2] at whole
              exact List.append_right_eq_self.mp whole
            exact .inr (foldl_sent during none)
          · exact ih bytes whole rest

/-- What the progress says about the bus. -/
def Progress.Holds (payload : List Byte) (bus : List Event) : Progress → Prop
  | .writing bytes => ∃ before during, bus = before ++ during ∧ written before = [] ∧
      written during = bytes ∧ ∀ event ∈ during, event.clears = false
  | .sent => Transmitted payload bus
  | .lost => True

theorem Transmitted.snoc {bus : List Event} {event : Event} (sent : Transmitted payload bus)
    (quiet : written [event] = []) : Transmitted payload (bus ++ [event]) := by
  obtain ⟨before, during, word, after, rfl, none, bytes, behind, untouched, sent⟩ := sent
  refine ⟨before, during, word, after ++ [event], ?_, none, bytes, ?_, untouched, sent⟩
  · simp
  · rw [written_append, behind, quiet]
    rfl

/-- While the bytes are written, a transfer that clears no FIFO. -/
theorem Progress.Holds.calm {bus : List Event} {bytes : List Byte} {event : Event}
    (holds : (Progress.writing bytes).Holds payload bus) (calm : event.clears = false) :
    (Progress.writing (bytes ++ written [event])).Holds payload (bus ++ [event]) := by
  obtain ⟨before, during, rfl, none, rfl, untouched⟩ := holds
  refine ⟨before, during ++ [event], List.append_assoc .., none, written_append .., ?_⟩
  intro other member
  rcases List.mem_append.mp member with old | new
  · exact untouched other old
  · rw [List.mem_singleton.mp new]
    exact calm

theorem Progress.Holds.next {bus : List Event} {progress : Progress}
    (holds : progress.Holds payload bus) (event : Event) :
    (progress.next payload event).Holds payload (bus ++ [event]) := by
  cases progress with
  | lost => trivial
  | sent =>
      cases event with
      | fifo byte => trivial
      | write8 | read8 | status => exact Transmitted.snoc holds rfl
  | writing bytes =>
      have longer (calm : event.clears = false) := holds.calm calm
      have same (calm : event.clears = false) (quiet : written [event] = []) :
          (Progress.writing bytes).Holds payload (bus ++ [event]) := by
        have kept := longer calm
        rwa [quiet, List.append_nil] at kept
      obtain ⟨before, during, rfl, none, rfl, untouched⟩ := holds
      cases event with
      | fifo byte => exact longer rfl
      | read8 addr => exact same rfl rfl
      | status word =>
          rw [Progress.next]
          split
          · next sent =>
            exact ⟨before, during, word, [], rfl, none, sent.2, rfl, untouched, sent.1⟩
          · exact same rfl rfl
      | write8 addr val =>
          rw [Progress.next]
          split
          · trivial
          · next kept =>
            by_cases empty : written during = []
            · refine ⟨before ++ during ++ [.write8 addr val], [], (List.append_nil _).symm, ?_,
                empty.symm, nofun⟩
              rw [written_append, written_append, none, empty]
              rfl
            · exact same (by simpa [empty] using kept) rfl

theorem progress_holds (bus : List Event) : (progress payload bus).Holds payload bus := by
  induction bus using List.reverseRecOn with
  | nil => exact ⟨[], [], rfl, rfl, rfl, nofun⟩
  | append_singleton bus event ih =>
      rw [progress_append]
      exact ih.next event

/-- **A packet is transmitted if and only if the progress says so.** -/
theorem transmitted_iff (some : payload ≠ []) (bus : List Event) :
    Transmitted payload bus ↔ progress payload bus = .sent := by
  constructor
  · rintro ⟨before, during, word, after, rfl, none, bytes, behind, untouched, sent⟩
    rw [progress_append, progress_append, progress, foldl_empty some before none, List.foldl_cons]
    rcases foldl_during [] during bytes untouched with written | early
    · rw [written, Progress.next, if_pos ⟨sent, rfl⟩, foldl_sent after behind]
    · rw [early]
      exact foldl_sent after behind
  · intro sent
    have holds : (progress payload bus).Holds payload bus := progress_holds bus
    rwa [sent] at holds

end Progress

/-! ### What a step transfers -/

section Transfers

variable (payload : List Byte) (driver : Driver)

@[simp] theorem transfer_state (event : Event) : (driver.transfer event).state = driver.state := rfl

theorem progress_transfer (event : Event) : progress payload (driver.transfer event).bus =
    (progress payload driver.bus).next payload event := progress_append ..

/-- To enable the transmitter is no progress. -/
theorem progress_modeTx : progress payload driver.modeTx.bus = progress payload driver.bus := by
  rw [Driver.modeTx, progress_transfer]
  cases progress payload driver.bus with
  | writing bytes =>
      rw [Progress.next, if_neg]
      exact fun cleared => absurd cleared.1 (by decide)
  | sent | lost => rfl

theorem phyListen_bus : (phyListen driver).bus = driver.bus ++
    [.write8 rOpCtrl2 (ffclrtx ||| ffclrrx), .write8 rOpCtrl2 0#8,
      .write8 rOpCtrl1 (rxon ||| xton)] :=
  (List.append_assoc ..).trans (List.append_assoc ..)

theorem prepare_bus (cursor : Cursor) : (driver.prepare cursor).bus = driver.bus ++
    [.write8 rOpCtrl2 ffclrtx, .write8 rOpCtrl2 0#8,
      .write8 rTxLength (BitVec.ofNat 8 cursor.size)] :=
  (List.append_assoc ..).trans (List.append_assoc ..)

/-- The transfers for a status word: the RSSI is read at a sync word, and the wake-up timer puts the
radio into standby. -/
def Driver.answers (sample : Sample) : List Event :=
  .status sample.status ::
    ((if driver.state = .listen ∧ has sample.status iswdet then [.read8 rRssi] else []) ++
      if has sample.status iwut then
        [.write8 rOpCtrl2 (ffclrtx ||| ffclrrx), .write8 rOpCtrl2 0#8, .write8 rOpCtrl1 0#8]
      else [])

theorem onStatus_bus (sample : Sample) :
    (driver.onStatus sample).bus = driver.bus ++ driver.answers sample := by
  have ite_bus (c : Prop) [Decidable c] (one two : Driver) :
      (if c then one else two).bus = if c then one.bus else two.bus := apply_ite ..
  unfold Driver.onStatus Driver.answers phyStandby Driver.clearFifos Driver.transfer Driver.setState
  simp only [ite_bus, ite_self]
  split <;> split <;> simp

theorem written_answers (sample : Sample) : written (driver.answers sample) = [] := by
  unfold Driver.answers
  split <;> split <;> rfl

/-- A status word with neither IPKSENT nor IWUT does not end in Standby. -/
theorem onStatus_state {sample : Sample} (sent : has sample.status ipksent = false)
    (wakes : has sample.status iwut = false) (away : driver.state ≠ .standby) :
    (driver.onStatus sample).state ≠ .standby := by
  have ite_state (c : Prop) [Decidable c] (one two : Driver) :
      (if c then one else two).state = if c then one.state else two.state := apply_ite ..
  unfold Driver.onStatus Driver.transfer Driver.setState
  simp only [sent, wakes, ite_state, Bool.false_eq_true, if_false]
  split_ifs <;> first | exact away | nofun

/-- **The progress at a status word** while the packet is under way. -/
theorem progress_onStatus {bytes : List Byte} (some : bytes ≠ [])
    (now : progress payload driver.bus = .writing bytes) (sample : Sample) :
    progress payload (driver.onStatus sample).bus =
      if has sample.status ipksent ∧ bytes = payload then .sent
      else if has sample.status iwut then .lost
      else .writing bytes := by
  rw [onStatus_bus, progress_append, now, Driver.answers, List.foldl_cons, Progress.next]
  split
  · exact foldl_sent _ (written_answers driver sample)
  · rw [List.foldl_append]
    have rssi : (if driver.state = .listen ∧ has sample.status iswdet then [Event.read8 rRssi]
        else []).foldl (Progress.next payload) (.writing bytes) = .writing bytes := by
      split <;> rfl
    rw [rssi]
    split
    · rw [List.foldl_cons, Progress.next, if_pos ⟨by decide, some⟩, foldl_lost]
    · rfl

end Transfers

/-! ### The course of a call -/

section Course

variable (payload : List Byte)

/-- Behind the first byte, with the bytes `left` to write: the packet is under way, and the state is
not Standby once it is written, or the packet is sent. -/
inductive Sending (driver : Driver) (left : List Byte) : Prop where
  | writing (bytes : List Byte) (some : bytes ≠ []) (whole : bytes ++ left = payload)
      (now : progress payload driver.bus = .writing bytes)
      (away : left = [] → driver.state ≠ .standby)
  | sent (done : left = []) (now : progress payload driver.bus = .sent)

/-- The call has not lost its packet. -/
inductive OnCourse : Call → Prop where
  | entering (driver : Driver) (bufs : List (List Byte)) (whole : bufs.flatten = payload)
      (now : progress payload driver.bus = .writing []) : OnCourse ⟨driver, .entering bufs⟩
  | filling (driver : Driver) (cursor : Cursor) (started : Bool) (bytes : List Byte)
      (some : bytes ≠ []) (whole : bytes ++ cursor.left = payload)
      (now : progress payload driver.bus = .writing bytes) (state : driver.state = .tx) :
      OnCourse ⟨driver, .filling cursor started⟩
  | polling (driver : Driver) (cursor : Cursor) (started : Bool)
      (sending : Sending payload driver cursor.left) : OnCourse ⟨driver, .polling cursor started⟩
  | waiting (driver : Driver) (sending : Sending payload driver []) : OnCourse ⟨driver, .waiting⟩
  | refused (driver : Driver) : OnCourse ⟨driver, .returned (-1)⟩
  | returned (driver : Driver) (now : progress payload driver.bus = .sent) :
      OnCourse ⟨driver, .returned 0⟩

/-- The packet of the call is under way: its first byte is written, and it is not sent. -/
def Call.Underway (call : Call) (bytes : List Byte) : Prop :=
  bytes ≠ [] ∧ progress payload call.driver.bus = .writing bytes

/-- The sample of nIRQ is taken by the event handler. -/
def Call.reads (call : Call) : Bool :=
  match call.point with
  | .entering _ | .polling _ _ | .waiting => true
  | .filling _ _ | .returned _ => false

/-- The call does not read IWUT while its packet is under way, except together with IPKSENT for the
whole packet. -/
def Call.Undisturbed (call : Call) (sample : Sample) : Prop :=
  call.reads = true → sample.pending = true → has sample.status iwut = true →
    ∀ bytes, call.Underway payload bytes → bytes = payload ∧ has sample.status ipksent = true

/-- Every sample of the call meets the condition, in the state in which it is taken. -/
def Call.Along (cond : Call → Sample → Prop) (call : Call) : List Sample → Prop
  | [] => True
  | sample :: rest => cond call sample ∧ Call.Along cond (call.step sample) rest

variable {payload}

/-- A status word that does not disturb the packet. -/
theorem Sending.onStatus {driver : Driver} {left : List Byte}
    (sending : Sending payload driver left) {sample : Sample}
    (undisturbed : has sample.status iwut = true → ∀ bytes, bytes ≠ [] →
      progress payload driver.bus = .writing bytes →
      bytes = payload ∧ has sample.status ipksent = true) :
    Sending payload (driver.onStatus sample) left := by
  cases sending with
  | sent done now =>
      refine .sent done ?_
      rw [onStatus_bus, progress_append, now]
      exact foldl_sent _ (written_answers driver sample)
  | writing bytes some whole now away =>
      have after := progress_onStatus payload driver some now sample
      by_cases sent : has sample.status ipksent = true ∧ bytes = payload
      · rw [if_pos sent] at after
        rw [sent.2] at whole
        exact .sent (List.append_right_eq_self.mp whole) after
      · have calm : has sample.status iwut = false := by
          refine Bool.eq_false_iff.mpr fun wakes => sent ?_
          exact (undisturbed wakes bytes some now).symm
        rw [if_neg sent, calm, if_neg Bool.false_ne_true] at after
        refine .writing bytes some whole after fun done => onStatus_state driver ?_ calm (away done)
        rw [done, List.append_nil] at whole
        exact Bool.eq_false_iff.mpr fun is => sent ⟨is, whole⟩

/-- The loop over the bytes goes on. -/
theorem OnCourse.more {driver : Driver} {cursor : Cursor} (started : Bool) {bytes : List Byte}
    (whole : bytes ++ cursor.left = payload) (some : bytes = [] → cursor.left ≠ [])
    (now : progress payload driver.bus = .writing bytes) (state : driver.state = .tx) :
    OnCourse payload (.more driver cursor started) := by
  unfold Call.more
  split
  · next left =>
    refine .filling _ _ _ (bytes ++ [(cursor.next left).1]) (by simp) ?_ ?_ state
    · rw [List.append_assoc, List.singleton_append, cursor.next_left, whole]
    · rw [progress_transfer, now]
      rfl
  · next done =>
    have none := Cursor.size_eq_zero.mp (not_not.mp done)
    refine .polling _ _ _ (.writing bytes (fun empty => some empty none) whole now fun _ => ?_)
    rw [state]
    decide

theorem OnCourse.turn {driver : Driver} {cursor : Cursor} (started : Bool) {bytes : List Byte}
    (some : bytes ≠ []) (whole : bytes ++ cursor.left = payload)
    (now : progress payload driver.bus = .writing bytes) (left : cursor.left ≠ []) :
    OnCourse payload (.turn driver cursor started) := by
  unfold Call.turn
  split
  · next filling => exact .more started whole (fun empty => absurd empty some) now filling
  · exact .polling _ _ _ (.writing bytes some whole now fun none => absurd none left)

/-- All bytes are written: in Standby the packet is sent. -/
theorem OnCourse.settle {driver : Driver} (sending : Sending payload driver []) :
    OnCourse payload (.settle driver) := by
  unfold Call.settle
  split
  · exact .waiting _ sending
  · next standby =>
    cases sending with
    | writing bytes some whole now away => exact absurd (not_not.mp standby) (away rfl)
    | sent done now =>
        refine .returned _ ?_
        rw [phyListen_bus, progress_append, now]
        rfl

/-- The event handler of the outer loop returns. -/
theorem OnCourse.polled {driver : Driver} {cursor : Cursor} (started : Bool)
    (sending : Sending payload driver cursor.left) :
    OnCourse payload (.polled driver cursor started) := by
  have enabled (start : Bool) :
      Sending payload (if start then driver.modeTx else driver) cursor.left := by
    cases start with
    | false => exact sending
    | true =>
        cases sending with
        | writing bytes some whole now away =>
            exact .writing bytes some whole ((progress_modeTx payload driver).trans now) away
        | sent done now => exact .sent done ((progress_modeTx payload driver).trans now)
  unfold Call.polled
  dsimp only
  split
  · next more =>
    have left : cursor.left ≠ [] := fun none => more (Cursor.size_eq_zero.mpr none)
    cases enabled (starts driver cursor started) with
    | writing bytes some whole now away => exact .turn _ some whole now left
    | sent done now => exact absurd done left
  · next done =>
    rw [Cursor.size_eq_zero.mp (not_not.mp done)] at enabled
    exact .settle (enabled _)

/-- The event handler at the start returns. -/
theorem OnCourse.entered {driver : Driver} {bufs : List (List Byte)} (some : payload ≠ [])
    (whole : bufs.flatten = payload) (now : progress payload driver.bus = .writing []) :
    OnCourse payload (.entered driver bufs) := by
  unfold Call.entered
  dsimp only
  split
  · exact .refused _
  · have tx : (driver.prepare (Cursor.start bufs)).state = .tx := rfl
    rw [Call.turn, if_pos tx]
    have ready : progress payload (driver.prepare (Cursor.start bufs)).bus = .writing [] := by
      rw [prepare_bus, progress_append, now]
      exact foldl_empty some _ rfl
    refine .more false ?_ (fun _ => ?_) ready tx
    · rw [start_left, List.nil_append, whole]
    · rw [start_left, whole]
      exact some

/-- **A step that is not disturbed stays on course.** -/
theorem OnCourse.step {call : Call} (course : OnCourse payload call) (some : payload ≠ [])
    {sample : Sample} (undisturbed : call.Undisturbed payload sample) :
    OnCourse payload (call.step sample) := by
  cases course with
  | entering driver bufs whole now =>
      dsimp only [Call.step]
      split
      · refine .entering _ bufs whole ?_
        rw [onStatus_bus, progress_append, now]
        exact foldl_empty some _ (written_answers driver sample)
      · exact .entered some whole now
  | filling driver cursor started bytes some whole now state =>
      dsimp only [Call.step]
      split
      · refine .polling _ _ _ (.writing bytes some whole now fun _ => ?_)
        rw [state]
        nofun
      · exact .more started whole (fun empty => absurd empty some) now state
  | polling driver cursor started sending =>
      dsimp only [Call.step]
      split
      · next pending =>
        refine .polling _ _ _ (sending.onStatus fun wakes bytes some now => ?_)
        exact undisturbed rfl pending wakes bytes ⟨some, now⟩
      · exact .polled started sending
  | waiting driver sending =>
      dsimp only [Call.step]
      split
      · next pending =>
        refine .waiting _ (sending.onStatus fun wakes bytes some now => ?_)
        exact undisturbed rfl pending wakes bytes ⟨some, now⟩
      · exact .settle sending
  | refused driver => exact .refused driver
  | returned driver now => exact .returned driver now

/-- A call that is undisturbed throughout stays on course. -/
theorem OnCourse.run {call : Call} (course : OnCourse payload call) (some : payload ≠ [])
    {samples : List Sample} (undisturbed : call.Along (Call.Undisturbed payload) samples) :
    OnCourse payload (call.run samples) := by
  induction samples generalizing call with
  | nil => exact course
  | cons sample rest ih => exact ih (course.step some undisturbed.1) undisturbed.2

/-- **A disturbed step loses the packet.** -/
theorem disturbed_lost {call : Call} {sample : Sample}
    (disturbed : ¬ call.Undisturbed payload sample) :
    progress payload (call.step sample).driver.bus = .lost := by
  obtain ⟨driver, point⟩ := call
  simp only [Call.Undisturbed, not_forall] at disturbed
  obtain ⟨reads, pending, wakes, bytes, ⟨some, now⟩, unsent⟩ := disturbed
  have lost : progress payload (driver.onStatus sample).bus = .lost := by
    rw [progress_onStatus payload driver some now sample, if_neg fun sent => unsent sent.symm,
      if_pos wakes]
  cases point with
  | entering | polling | waiting =>
      dsimp only [Call.step]
      rw [if_pos pending]
      exact lost
  | filling | returned => cases reads

theorem more_bus (driver : Driver) (cursor : Cursor) (started : Bool) :
    driver.bus <+: (Call.more driver cursor started).driver.bus := by
  unfold Call.more
  split
  · exact List.prefix_append ..
  · exact List.prefix_rfl

theorem turn_bus (driver : Driver) (cursor : Cursor) (started : Bool) :
    driver.bus <+: (Call.turn driver cursor started).driver.bus := by
  unfold Call.turn
  split
  · exact more_bus ..
  · exact List.prefix_rfl

theorem settle_bus (driver : Driver) : driver.bus <+: (Call.settle driver).driver.bus := by
  unfold Call.settle
  split
  · exact List.prefix_rfl
  · exact phyListen_bus driver ▸ List.prefix_append ..

theorem polled_bus (driver : Driver) (cursor : Cursor) (started : Bool) :
    driver.bus <+: (Call.polled driver cursor started).driver.bus := by
  have enabled (start : Bool) : driver.bus <+: (if start then driver.modeTx else driver).bus := by
    cases start with
    | true => exact List.prefix_append ..
    | false => exact List.prefix_rfl
  unfold Call.polled
  dsimp only
  split
  · exact (enabled _).trans (turn_bus ..)
  · exact (enabled _).trans (settle_bus _)

/-- A step only adds transfers. -/
theorem step_bus (call : Call) (sample : Sample) :
    call.driver.bus <+: (call.step sample).driver.bus := by
  obtain ⟨driver, point⟩ := call
  have status : driver.bus <+: (driver.onStatus sample).bus :=
    onStatus_bus driver sample ▸ List.prefix_append ..
  cases point with
  | entering bufs =>
      dsimp only [Call.step]
      split
      · exact status
      · unfold Call.entered
        dsimp only
        split
        · exact List.prefix_rfl
        · refine List.IsPrefix.trans ?_ (turn_bus ..)
          exact prepare_bus driver _ ▸ List.prefix_append ..
  | filling cursor started =>
      dsimp only [Call.step]
      split
      · exact List.prefix_rfl
      · exact more_bus ..
  | polling cursor started =>
      dsimp only [Call.step]
      split
      · exact status
      · exact polled_bus ..
  | waiting =>
      dsimp only [Call.step]
      split
      · exact status
      · exact settle_bus driver
  | returned rc => exact List.prefix_rfl

theorem run_lost {call : Call} (lost : progress payload call.driver.bus = .lost)
    (samples : List Sample) : progress payload (call.run samples).driver.bus = .lost := by
  induction samples generalizing call with
  | nil => exact lost
  | cons sample rest ih =>
      refine ih ?_
      obtain ⟨new, grows⟩ := step_bus call sample
      rw [← grows, progress_append, lost, foldl_lost]

/-- A call that is disturbed once has lost its packet in the end. -/
theorem along_of_not_lost {call : Call} {samples : List Sample}
    (kept : progress payload (call.run samples).driver.bus ≠ .lost) :
    call.Along (Call.Undisturbed payload) samples := by
  induction samples generalizing call with
  | nil => trivial
  | cons sample rest ih =>
      refine ⟨not_not.mp fun disturbed => kept ?_, ih kept⟩
      exact run_lost (disturbed_lost disturbed) rest

end Course

/-! ### `phy_send` returns 0 -/

/-- The statics of the driver as the call finds them. -/
def idle (state : State) (rssi : Int) : Driver := ⟨state, rssi, []⟩

section Returns

variable {state : State} {rssi : Int} {bufs : List (List Byte)} {flags : Byte}
  {samples rest : List Sample} {after : Driver}

theorem run_of_returns
    (returns : phySend (idle state rssi) bufs flags samples = some (0, after, rest)) :
    (Call.enter (idle state rssi) bufs).run samples = ⟨after, .returned 0⟩ := by
  have result := phySend_run (idle state rssi) bufs flags samples
  rw [returns] at result
  exact eq_of_result result.symm

/-- On its course the call returns 0 behind IPKSENT only. -/
theorem sent_of_along (some : bufs.flatten ≠ [])
    (returns : phySend (idle state rssi) bufs flags samples = .some (0, after, rest))
    (undisturbed : (Call.enter (idle state rssi) bufs).Along (Call.Undisturbed bufs.flatten)
      samples) :
    progress bufs.flatten after.bus = .sent := by
  have course := (OnCourse.entering (idle state rssi) bufs rfl rfl).run some undisturbed
  rw [← Call.enter, run_of_returns returns] at course
  cases course with
  | returned driver now => exact now

/-- Without the wake-up timer nothing disturbs a call. -/
theorem along_of_quiet {payload : List Byte} {call : Call}
    (quiet : ∀ sample ∈ samples, has sample.status iwut = false) :
    call.Along (Call.Undisturbed payload) samples := by
  induction samples generalizing call with
  | nil => trivial
  | cons sample rest ih =>
      refine ⟨fun _ _ wakes => ?_, ih fun other member => quiet other (.tail _ member)⟩
      rw [quiet sample (.head _)] at wakes
      cases wakes

end Returns

/-- **A send that returns 0** has transmitted its packet if and only if no interrupt status that it
read between the first byte of the packet and its IPKSENT had the wake-up timer in it. -/
theorem send_transmitted_iff (state : State) (rssi : Int) (bufs : List (List Byte)) (flags : Byte)
    (samples rest : List Sample) (after : Driver) (some : bufs.flatten ≠ [])
    (returns : phySend (idle state rssi) bufs flags samples = .some (0, after, rest)) :
    Transmitted bufs.flatten after.bus ↔
      (Call.enter (idle state rssi) bufs).Along (Call.Undisturbed bufs.flatten) samples := by
  rw [transmitted_iff some]
  constructor
  · intro sent
    refine along_of_not_lost ?_
    rw [run_of_returns returns, sent]
    nofun
  · exact sent_of_along some returns

/-- nIRQ is high. -/
def high : Sample := ⟨false, 0#16, 0#8⟩

/-- nIRQ is low, with this interrupt status. -/
def low (status : BitVec 16) : Sample := ⟨true, status, 0#8⟩

/-- Two bytes in three fragments. The FIFO is almost full behind the first of them, so the
transmitter is started there, and IPKSENT comes behind the second. -/
def twoFragments : List Sample :=
  [high, low itxffafull, low itxffafull, high, low itxffaem, high, high, high, low ipksent, high]

/-- The transfers of `twoFragments`. -/
def twoFragmentsBus : List Event :=
  [.write8 rOpCtrl2 ffclrtx, .write8 rOpCtrl2 0#8, .write8 rTxLength 2#8, .fifo 0x01#8,
    .status itxffafull, .write8 rOpCtrl1 (txon ||| xton), .status itxffaem, .fifo 0x02#8,
    .status ipksent, .write8 rOpCtrl2 (ffclrtx ||| ffclrrx), .write8 rOpCtrl2 0#8,
    .write8 rOpCtrl1 (rxon ||| xton)]

theorem send_transmitted_two_fragments :
    phySend (idle .listen 0) [[0x01#8], [], [0x02#8]] 0#8 twoFragments =
        some (0, ⟨.listen, 0, twoFragmentsBus⟩, []) ∧
      Transmitted [0x01#8, 0x02#8] twoFragmentsBus := by
  have returns : phySend (idle .listen 0) [[0x01#8], [], [0x02#8]] 0#8 twoFragments =
      some (0, ⟨.listen, 0, twoFragmentsBus⟩, []) := by decide +kernel
  refine ⟨returns, (send_transmitted_iff _ _ [[0x01#8], [], [0x02#8]] _ _ _ _ ?_ returns).mpr ?_⟩
  · decide
  · exact along_of_quiet (by decide)

/-- The transfers of a call in which the wake-up timer fires behind the only byte: the FIFO is
cleared before the transmitter is started, and the state is the one that the call waits for. -/
def wakeupBus : List Event :=
  [.write8 rOpCtrl2 ffclrtx, .write8 rOpCtrl2 0#8, .write8 rTxLength 1#8, .fifo 0x55#8,
    .status iwut, .write8 rOpCtrl2 (ffclrtx ||| ffclrrx), .write8 rOpCtrl2 0#8,
    .write8 rOpCtrl1 0#8, .write8 rOpCtrl1 (txon ||| xton),
    .write8 rOpCtrl2 (ffclrtx ||| ffclrrx), .write8 rOpCtrl2 0#8, .write8 rOpCtrl1 (rxon ||| xton)]

theorem send_cleared_by_wakeup :
    phySend (idle .standby 0) [[0x55#8]] 0#8 [high, high, low iwut, high] =
        some (0, ⟨.listen, 0, wakeupBus⟩, []) ∧
      ¬ Transmitted [0x55#8] wakeupBus := by
  refine ⟨by decide +kernel, ?_⟩
  rw [transmitted_iff (by decide)]
  decide

/-- **The frames of the MAC.** Whatever a node on this radio hands to `phy_send`, in whatever
fragments, fits the length register, and is transmitted when the call returns 0 and the wake-up
timer did not fire in it. -/
theorem reachable_frame_transmitted (boot : Tinymac.Boot) (radio : boot.phy = .si443x)
    (inputs : List Tinymac.Input) {frame : Tinymac.Frame}
    (member : frame ∈ Tinymac.frames (boot.start.run inputs).out) {bufs : List (List Byte)}
    (fragments : bufs.flatten = frame.bytes) :
    (BitVec.ofNat 8 (Cursor.start bufs).size).toNat = frame.bytes.length ∧
      ∀ state rssi flags samples rest after,
        phySend (idle state rssi) bufs flags samples = some (0, after, rest) →
        (∀ sample ∈ samples, has sample.status iwut = false) →
        Transmitted frame.bytes after.bus := by
  have sized := (Tinymac.reachable_sized boot inputs).sent frame member
  rw [radio] at sized
  have length := frame.bytes_length
  have header : Tinymac.headerSize = 6 := rfl
  have some : bufs.flatten ≠ [] := by
    intro empty
    rw [← fragments, empty, header] at length
    simp at length
    omega
  constructor
  · have small : frame.payload.length + Tinymac.headerSize ≤ 62 := sized
    rw [Cursor.size_eq, start_left, fragments, BitVec.toNat_ofNat, Nat.mod_eq_of_lt]
    omega
  · intro state rssi flags samples rest after returns quiet
    rw [← fragments, transmitted_iff some]
    exact sent_of_along some returns (along_of_quiet quiet)

end TinyHan.PhySi443x
