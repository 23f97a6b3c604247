/-
**A node on a Si443x radio**, and when its receiver is on.

A `Mote` is a TinyMAC context above the driver of `TinyHan.Phy.Radio`. The context logs its PHY
calls, and the driver executes them in their order (`follow`); the answers of `phy_send` that the
context has gone on from are those that the driver gives.

The receiver is governed by `R_OP_CTRL1`. `phy_delayed_standby` sets the wake-up timer with the
receiver, and every other call writes the register without the timer. So the timer is lost whenever
the event handler returns to listening by itself:

* **`left_on_iff`**: after a run of a sleepy node, its receiver is on with no timer to turn it off
  exactly if the register was last written when the driver met a receive error, or a packet that the
  MAC did not accept.
* **`always_listening`**: between two calls the receiver of any other node is on, as long as the
  radio does not report the wake-up timer.
-/

import TinyHan.Mac.Beats
import TinyHan.Network.Air
import TinyHan.Phy.Radio

namespace TinyHan.PhySi443x

open TinyHan.Lib

/-! ### The node -/

/-- A context on a radio. -/
structure Mote where
  mac : Tinymac.Mac
  radio : Radio

/-- What happens to a node. -/
inductive Prompt where
  /-- `phy_event_handler`. The samples are for the callback as well. -/
  | poll (samples : List Sample) (reception : Reception)
  /-- A call of the MAC. -/
  | call (call : Tinymac.Call) (samples : List Sample)

section Model

variable (split : Tinymac.Frame → List (List Byte))

/-- The driver executes a PHY call, and gives the answer `rc` if it is `phy_send`. -/
def perform (rc : Int) (driver : Driver) (event : Tinymac.Event) (samples : List Sample) :
    Option (Driver × List Sample) :=
  match event with
  | .phySend _ frame flags => do
      let (result, driver, samples) ← phySend driver (split frame) flags samples
      if result = rc then some (driver, samples) else none
  | .phyListen => some (phyListen driver, samples)
  | .phyStandby => some (phyStandby driver, samples)
  | .phyDelayedStandby us => some (phyDelayedStandby driver (BitVec.ofNat 16 us), samples)
  | _ => some (driver, samples)

/-- The driver executes the PHY calls of a log from `position` on. A call that has not returned, or
whose answer is another one, gives `none`. -/
def follow (phyRc : Nat → Int) (position : Nat) (driver : Driver) (events : List Tinymac.Event)
    (samples : List Sample) : Option (Driver × List Sample) :=
  match events with
  | [] => some (driver, samples)
  | event :: rest => do
      let (driver, samples) ← perform split (phyRc position) driver event samples
      follow phyRc (position + 1) driver rest samples

/-- A step of the context, with its PHY calls. -/
def Mote.advance (mote : Mote) (input : Tinymac.Input) (samples : List Sample) : Option Mote := do
  let mac := mote.mac.step input
  let (driver, _) ← follow split mote.mac.phyRc mote.mac.out.length mote.radio.driver
    (mac.out.drop mote.mac.out.length) samples
  some ⟨mac, { mote.radio with driver := driver }⟩

/-- A step of the node. -/
def Mote.step (mote : Mote) : Prompt → Option Mote
  | .poll samples reception => do
      let (radio, upcall, samples) ← phyEventHandler mote.radio samples reception
      match upcall with
      | some upcall =>
          Mote.advance split ⟨mote.mac, radio⟩
            (.recv upcall.buf upcall.size upcall.rssi) samples
      | none => some ⟨mote.mac, radio⟩
  | .call call samples => mote.advance split call.input samples

/-- A run of the node. -/
def Mote.run (mote : Mote) (prompts : List Prompt) : Option Mote :=
  prompts.foldlM (fun mote prompt => mote.step split prompt) mote

/-- `tinymac_init`, which registers `tinymac_recv_cb` and makes the PHY calls of its log. -/
def Mote.start (boot : Tinymac.Boot) (driver : Driver) (payload : Memory) : Option Mote := do
  let (driver, _) ← follow split boot.phyRc 0 driver boot.start.out []
  some ⟨boot.start, ⟨driver, payload, true⟩⟩

end Model

/-! ### The operating mode -/

/-- What a transfer writes to `R_OP_CTRL1`. -/
def Event.mode : Event → Option Byte
  | .write8 addr val => if addr = rOpCtrl1 then some val else none
  | _ => none

/-- What has been written to `R_OP_CTRL1`. -/
def modes (bus : List Event) : List Byte := bus.filterMap Event.mode

/-- What was last written to `R_OP_CTRL1`. -/
def mode (bus : List Event) : Option Byte := (modes bus).getLast?

/-- The receiver is on, and no timer will turn it off. -/
def Driver.Watching (driver : Driver) : Prop := mode driver.bus = some (rxon ||| xton)

/-- The receiver is off, or the wake-up timer will turn it off. -/
def Driver.Dozing (driver : Driver) : Prop :=
  mode driver.bus = some 0#8 ∨ mode driver.bus = some (enwt ||| rxon ||| xton)

theorem modes_append (bus new : List Event) : modes (bus ++ new) = modes bus ++ modes new :=
  List.filterMap_append

theorem mode_append {bus new : List Event} {val : Byte} (last : mode new = some val) :
    mode (bus ++ new) = some val := by
  rw [mode, modes_append, List.getLast?_append]
  have last : (modes new).getLast? = some val := last
  rw [last]
  rfl

theorem mode_append_none {bus new : List Event} (none : modes new = []) :
    modes (bus ++ new) = modes bus := by
  rw [modes_append, none, List.append_nil]

theorem Driver.Dozing.not_watching {driver : Driver} (dozing : driver.Dozing) :
    ¬ driver.Watching := by
  intro watching
  rcases dozing with off | timed
  · rw [Driver.Watching, off] at watching
    exact absurd watching (by decide)
  · rw [Driver.Watching, timed] at watching
    exact absurd watching (by decide)

theorem Driver.Watching.transfer {one two : Driver} (watching : one.Watching)
    (same : modes one.bus = modes two.bus) : two.Watching := by
  unfold Driver.Watching mode at watching ⊢
  rw [← same]
  exact watching

section Calls

variable (driver : Driver)

theorem listen_watching : (phyListen driver).Watching := by
  rw [Driver.Watching, phyListen_bus]
  exact mode_append (by decide)

theorem standby_dozing : (phyStandby driver).Dozing := by
  rw [Driver.Dozing, phyStandby_bus]
  exact .inl (mode_append (by decide))

theorem delayedStandby_dozing (us : BitVec 16) : (phyDelayedStandby driver us).Dozing := by
  rw [Driver.Dozing, phyDelayedStandby_bus]
  exact .inr (mode_append (by simp [mode, modes, Event.mode, rWuPeriod1, rWuPeriod2, rOpCtrl1]))

/-- A status word writes the mode if it reports the wake-up timer. -/
theorem onStatus_mode (sample : Sample) :
    has sample.status iwut = true ∧ (driver.onStatus sample).Dozing ∨
      has sample.status iwut = false ∧ modes (driver.onStatus sample).bus = modes driver.bus := by
  have bus := onStatus_bus driver sample
  cases wakes : has sample.status iwut with
  | true =>
      refine .inl ⟨rfl, .inl ?_⟩
      rw [bus, Driver.answers, wakes, if_pos rfl, ← List.cons_append, ← List.append_assoc]
      exact mode_append (by decide)
  | false =>
      refine .inr ⟨rfl, ?_⟩
      rw [bus]
      refine mode_append_none ?_
      rw [Driver.answers, wakes, if_neg Bool.false_ne_true, List.append_nil]
      split <;> rfl

end Calls

/-- The driver as the event handler leaves it: dozing, or with the mode it had. -/
theorem eventHandler_mode {driver after : Driver} {samples rest : List Sample}
    (ends : si443xEventHandler driver samples = some (after, rest)) :
    after.Dozing ∨ modes after.bus = modes driver.bus := by
  refine eventHandler_keeps
    (P := fun after => after.Dozing ∨ modes after.bus = modes driver.bus) ?_ (.inr rfl) ends
  intro current sample so
  rcases onStatus_mode current sample with ⟨-, dozing⟩ | ⟨-, same⟩
  · exact .inl dozing
  · rcases so with dozing | kept
    · left
      unfold Driver.Dozing mode at dozing ⊢
      rw [same]
      exact dozing
    · exact .inr (same.trans kept)

/-- `phy_send` is refused behind the event handler, or ends in `phy_listen`. -/
theorem phySend_ends {driver after : Driver} {bufs : List (List Byte)} {flags : Byte}
    {samples rest : List Sample} {rc : Int}
    (returns : phySend driver bufs flags samples = some (rc, after, rest)) :
    si443xEventHandler driver samples = some (after, rest) ∨ ∃ sent, after = phyListen sent := by
  obtain ⟨⟨ready, left⟩, handled, returns⟩ := Option.bind_eq_some_iff.mp returns
  dsimp only at returns
  split at returns
  · cases returns
    exact .inl handled
  · obtain ⟨⟨filled, left⟩, -, returns⟩ := Option.bind_eq_some_iff.mp returns
    obtain ⟨⟨sent, left⟩, -, returns⟩ := Option.bind_eq_some_iff.mp returns
    cases returns
    exact .inr ⟨sent, rfl⟩

/-! ### Sleepy nodes -/

section Sleepy

variable {split : Tinymac.Frame → List (List Byte)}

/-- What an event of the log does to the mode. -/
theorem perform_mode {rc : Int} {driver after : Driver} {event : Tinymac.Event}
    {samples rest : List Sample}
    (performs : perform split rc driver event samples = some (after, rest)) :
    (event.poise = none → after = driver) ∧ (event.poise = some .dozing → after.Dozing) := by
  cases event with
  | phySend packet frame flags => exact ⟨by rintro ⟨⟩, by rintro ⟨⟩⟩
  | phyListen => exact ⟨by rintro ⟨⟩, by rintro ⟨⟩⟩
  | phyStandby =>
      cases performs
      exact ⟨by rintro ⟨⟩, fun _ => standby_dozing driver⟩
  | phyDelayedStandby us =>
      cases performs
      exact ⟨by rintro ⟨⟩, fun _ => delayedStandby_dozing driver _⟩
  | _ =>
      cases performs
      exact ⟨fun _ => rfl, by rintro ⟨⟩⟩

/-- What the events of a log do to the mode: the last PHY call decides. -/
theorem follow_mode {phyRc : Nat → Int} {position : Nat} {driver after : Driver}
    {events : List Tinymac.Event} {samples rest : List Sample}
    (follows : follow split phyRc position driver events samples = some (after, rest)) :
    (Tinymac.poise events = none → after = driver) ∧
      (Tinymac.poise events = some .dozing → after.Dozing) := by
  induction events generalizing position driver samples with
  | nil =>
      cases follows
      exact ⟨fun _ => rfl, by rintro ⟨⟩⟩
  | cons event events ih =>
      obtain ⟨⟨between, left⟩, performs, follows⟩ := Option.bind_eq_some_iff.mp follows
      obtain ⟨still, dozes⟩ := perform_mode performs
      obtain ⟨stills, dozen⟩ := ih follows
      have last : Tinymac.poise (event :: events) =
          (Tinymac.poise events).or event.poise := by
        rw [← List.singleton_append, Tinymac.poise_append]
        cases event <;> rfl
      rw [last]
      cases called : Tinymac.poise events with
      | none =>
          obtain rfl := stills called
          exact ⟨still, dozes⟩
      | some call => exact ⟨by rintro ⟨⟩, fun is => dozen (called.trans is)⟩

/-- Something is received that the MAC does not act on: a receive error, or a packet that it does
not accept. -/
def Mote.strays (mote : Mote) : Prompt → Bool
  | .poll samples reception =>
      match si443xEventHandler mote.radio.driver samples with
      | some (driver, _) =>
          match driver.state with
          | .rxValid =>
              let size := min reception.length.toNat maxPacket
              let payload := reception.fill mote.radio.payload size
              !mote.mac.ctx.accepts (Tinymac.readHeader payload) size
          | .rxInvalid | .fifoError => true
          | _ => false
      | none => false
  | .call _ _ => false

/-- A context that is sleepy, on a radio whose callback is registered. -/
structure Mote.Sleepy (mote : Mote) : Prop where
  sleepy : mote.mac.ctx.params.sleepy = true
  recvCb : mote.radio.recvCb = true

/-- A step of the context is one of the log and one of the driver. -/
theorem advance_eq {mote after : Mote} {input : Tinymac.Input} {samples : List Sample}
    (steps : mote.advance split input samples = some after) :
    ∃ driver rest, after = ⟨mote.mac.step input, { mote.radio with driver := driver }⟩ ∧
      follow split mote.mac.phyRc mote.mac.out.length mote.radio.driver
        ((mote.mac.step input).out.drop mote.mac.out.length) samples = some (driver, rest) := by
  obtain ⟨⟨driver, rest⟩, follows, is⟩ := Option.bind_eq_some_iff.mp steps
  cases is
  exact ⟨driver, rest, rfl, follows⟩

theorem Mote.Sleepy.advance {mote after : Mote} (sleepy : mote.Sleepy) {input : Tinymac.Input}
    {samples : List Sample} (steps : mote.advance split input samples = some after) :
    after.Sleepy := by
  obtain ⟨driver, rest, rfl, -⟩ := advance_eq steps
  refine ⟨?_, sleepy.recvCb⟩
  rw [(Tinymac.step_beats mote.mac input).params.1]
  exact sleepy.sleepy

/-- A call of the MAC leaves a sleepy node dozing, or its radio alone. -/
theorem Mote.Sleepy.advance_mode {mote after : Mote} (sleepy : mote.Sleepy)
    {input : Tinymac.Input} {samples : List Sample}
    (steps : mote.advance split input samples = some after) :
    after.radio.driver.Dozing ∨ after.radio.driver = mote.radio.driver := by
  obtain ⟨driver, rest, rfl, follows⟩ := advance_eq steps
  obtain ⟨new, out, calm⟩ := (Tinymac.step_beats mote.mac input).poise sleepy.sleepy
  rw [out, List.drop_left] at follows
  obtain ⟨still, dozes⟩ := follow_mode follows
  cases last : Tinymac.poise new with
  | none => exact .inr (still last)
  | some call =>
      cases call with
      | on => exact absurd last calm
      | dozing => exact .inl (dozes last)

/-- A frame that is accepted leaves a sleepy node dozing. -/
theorem Mote.Sleepy.recv_dozing {mote after : Mote} (sleepy : mote.Sleepy) {buf : Memory}
    {size : Nat} {rssi : Int} {samples : List Sample}
    (steps : mote.advance split (.recv buf size rssi) samples = some after)
    (accepts : mote.mac.ctx.accepts (Tinymac.readHeader buf) size = true) :
    after.radio.driver.Dozing := by
  obtain ⟨driver, rest, rfl, follows⟩ := advance_eq steps
  obtain ⟨new, out, dozes⟩ := Tinymac.recv_poise mote.mac buf size rssi accepts sleepy.sleepy
  rw [show (mote.mac.step (.recv buf size rssi)).out = mote.mac.out ++ new from out,
    List.drop_left] at follows
  exact (follow_mode follows).2 dozes

/-- A frame that is not accepted is not acted on. -/
theorem recv_rejected {mote after : Mote} {buf : Memory} {size : Nat} {rssi : Int}
    {samples : List Sample}
    (steps : mote.advance split (.recv buf size rssi) samples = some after)
    (rejects : mote.mac.ctx.accepts (Tinymac.readHeader buf) size = false) : after = mote := by
  obtain ⟨driver, rest, rfl, follows⟩ := advance_eq steps
  have still : mote.mac.step (.recv buf size rssi) = mote.mac := by
    show Tinymac.tinymacRecvCb mote.mac buf size rssi = mote.mac
    unfold Tinymac.tinymacRecvCb
    dsimp only
    rw [if_neg (by simp [rejects])]
  rw [still, List.drop_length] at follows
  cases follows
  rw [still]

/-- How a step leaves the radio of a sleepy node. -/
structure Mote.Leaves (mote : Mote) (prompt : Prompt) (after : Mote) : Prop where
  sleepy : after.Sleepy
  stray : mote.strays prompt = true → after.radio.driver.Watching
  calm : mote.strays prompt = false →
    after.radio.driver.Dozing ∨ modes after.radio.driver.bus = modes mote.radio.driver.bus

theorem Mote.Sleepy.poll {mote after : Mote} (sleepy : mote.Sleepy) {samples : List Sample}
    {reception : Reception} (steps : mote.step split (.poll samples reception) = some after) :
    mote.Leaves (.poll samples reception) after := by
  obtain ⟨⟨radio, upcall, rest⟩, handles, steps⟩ := Option.bind_eq_some_iff.mp steps
  obtain ⟨driver, handled, is⟩ := phyEventHandler_eq handles
  have listening (other : Radio) (recvCb : other.recvCb = true) :
      Mote.Sleepy ⟨mote.mac, other⟩ := ⟨sleepy.sleepy, recvCb⟩
  unfold Radio.despatch at is
  cases state : driver.state with
  | rxValid =>
      simp only [state, sleepy.recvCb, if_true] at is
      cases is
      dsimp only at steps
      cases accepts : mote.mac.ctx.accepts (Tinymac.readHeader (reception.fill mote.radio.payload
          (min reception.length.toNat maxPacket))) (min reception.length.toNat maxPacket) with
      | true =>
          have calm : mote.strays (.poll samples reception) = false := by
            simp only [Mote.strays, handled, state, accepts, Bool.not_true]
          refine ⟨(listening _ rfl).advance steps, fun stray => ?_, fun _ => .inl ?_⟩
          · rw [calm] at stray
            cases stray
          · exact (listening _ rfl).recv_dozing steps accepts
      | false =>
          have stray : mote.strays (.poll samples reception) = true := by
            simp only [Mote.strays, handled, state, accepts, Bool.not_false]
          obtain rfl := recv_rejected steps accepts
          refine ⟨listening _ rfl, fun _ => listen_watching _, fun calm => ?_⟩
          rw [stray] at calm
          cases calm
  | rxInvalid | fifoError =>
      simp only [state] at is
      cases is
      cases steps
      refine ⟨listening _ sleepy.recvCb, fun _ => listen_watching _, fun calm => ?_⟩
      simp only [Mote.strays, handled, state] at calm
      cases calm
  | _ =>
      simp only [state] at is
      cases is
      cases steps
      refine ⟨listening _ sleepy.recvCb, fun stray => ?_, fun _ => eventHandler_mode handled⟩
      simp only [Mote.strays, handled, state] at stray
      cases stray

theorem Mote.Sleepy.step {mote after : Mote} (sleepy : mote.Sleepy) {prompt : Prompt}
    (steps : mote.step split prompt = some after) : mote.Leaves prompt after := by
  cases prompt with
  | poll samples reception => exact sleepy.poll steps
  | call call samples =>
      refine ⟨sleepy.advance steps, by rintro ⟨⟩, fun _ => ?_⟩
      rcases sleepy.advance_mode steps with dozing | same
      · exact .inl dozing
      · exact .inr (congrArg (fun driver => modes driver.bus) same)

/-- The run of `prompts` was left on by a step that strayed, and the mode has not been written
since. -/
def Mote.LeftOn (split : Tinymac.Frame → List (List Byte)) (start : Mote) (prompts : List Prompt)
    (last : Mote) : Prop :=
  ∃ front prompt back before after, prompts = front ++ prompt :: back ∧
    start.run split front = some before ∧ before.step split prompt = some after ∧
    before.strays prompt = true ∧ modes after.radio.driver.bus = modes last.radio.driver.bus

theorem Mote.run_snoc (start : Mote) (prompts : List Prompt) (prompt : Prompt) :
    start.run split (prompts ++ [prompt]) =
      (start.run split prompts).bind fun mote => mote.step split prompt := by
  rw [Mote.run, List.foldlM_append]
  refine bind_congr fun mote => ?_
  rw [List.foldlM_cons]
  exact bind_pure _

theorem Mote.Sleepy.run {start last : Mote} (sleepy : start.Sleepy) {prompts : List Prompt}
    (runs : start.run split prompts = some last) : last.Sleepy := by
  induction prompts using List.reverseRecOn generalizing last with
  | nil =>
      cases runs
      exact sleepy
  | append_singleton prompts prompt ih =>
      rw [Mote.run_snoc] at runs
      obtain ⟨before, ran, steps⟩ := Option.bind_eq_some_iff.mp runs
      exact ((ih ran).step steps).sleepy

/-- A run that does not start with the receiver on. -/
theorem Mote.Sleepy.watching_iff {start last : Mote} (sleepy : start.Sleepy)
    (off : ¬ start.radio.driver.Watching) {prompts : List Prompt}
    (runs : start.run split prompts = some last) :
    last.radio.driver.Watching ↔ start.LeftOn split prompts last := by
  constructor
  · intro watching
    induction prompts using List.reverseRecOn generalizing last with
    | nil =>
        cases runs
        exact absurd watching off
    | append_singleton prompts prompt ih =>
        rw [Mote.run_snoc] at runs
        obtain ⟨before, ran, steps⟩ := Option.bind_eq_some_iff.mp runs
        have leaves := (sleepy.run ran).step steps
        cases strays : before.strays prompt with
        | true => exact ⟨prompts, prompt, [], before, last, rfl, ran, steps, strays, rfl⟩
        | false =>
            rcases leaves.calm strays with dozing | same
            · exact absurd watching dozing.not_watching
            · obtain ⟨front, other, back, mote, after, rfl, ran', steps', strays', kept⟩ :=
                ih ran (watching.transfer same)
              exact ⟨front, other, back ++ [prompt], mote, after, by simp, ran', steps', strays',
                kept.trans same.symm⟩
  · rintro ⟨front, prompt, back, before, after, rfl, ran, steps, strays, kept⟩
    exact (((sleepy.run ran).step steps).stray strays).transfer kept

/-- What `phy_resume` leaves behind when it has found its radio. -/
theorem resume_dozing {driver after : Driver} {config : List Byte} {device version : Byte}
    {samples rest : List Sample}
    (returns : phyResume driver config device version samples = some (0, after, rest)) :
    after.Dozing := by
  unfold phyResume at returns
  dsimp only at returns
  split at returns
  · cases returns
  · obtain ⟨left, awaited, is⟩ := Option.bind_eq_some_iff.mp returns
    cases is
    have standby := standby_dozing (si443xDeviceInit (((driver.transfer
      (.read8 rDeviceType)).transfer (.read8 rDeviceVersion)).transfer (.write8 rOpCtrl1 swres))
        config)
    unfold Driver.Dozing mode at standby ⊢
    unfold Driver.write16 Driver.writeBlock
    dsimp only
    rw [mode_append_none (by decide), mode_append_none (by decide)]
    exact standby

/-- **What leaves the receiver of a sleepy node on.** Behind every run of a sleepy node from
`phy_resume` and `tinymac_init` on, its receiver is on with no timer to turn it off exactly if some
step met a receive error, or a packet that the MAC does not accept, and `R_OP_CTRL1` has not been
written since. -/
theorem left_on_iff {config : List Byte} {device version : Byte} {samples rest : List Sample}
    {driver : Driver}
    (resumed : phyResume .loaded config device version samples = some (0, driver, rest))
    (boot : Tinymac.Boot) (sleepy : boot.params.sleepy = true) (payload : Memory)
    {start last : Mote} (starts : Mote.start split boot driver payload = some start)
    (prompts : List Prompt) (runs : start.run split prompts = some last) :
    last.radio.driver.Watching ↔ start.LeftOn split prompts last := by
  have params : boot.start.ctx.params = boot.params := Tinymac.start_params boot
  unfold Mote.start at starts
  rw [Tinymac.start_out, if_pos sleepy] at starts
  cases starts
  refine Mote.Sleepy.watching_iff ⟨?_, rfl⟩ (resume_dozing resumed).not_watching runs
  dsimp only
  rw [params]
  exact sleepy

/-- A sleepy client on this radio. -/
def sleepyBoot : Tinymac.Boot :=
  { Tinymac.Boot.clientWith 1#64 Tinymac.attachFlagsSleepy with phy := .si443x }

/-- The configuration ends at once. -/
def resumed : Driver where
  state := .standby
  rssi := 0
  bus := [.read8 rDeviceType, .read8 rDeviceVersion, .write8 rOpCtrl1 swres,
    .write8 rOpCtrl2 (ffclrtx ||| ffclrrx), .write8 rOpCtrl2 0#8, .write8 rOpCtrl1 0#8,
    .write8 rIntEnable 0#8, .write8 (rIntEnable + 1#8) 0#8,
    .write8 rIntEnable (Lib.high intEnable), .write8 (rIntEnable + 1#8) (Lib.low intEnable)]

/-- A beacon is requested, the node goes to sleep after the listening period, and before that a
packet comes with a wrong CRC. -/
def wrongCrc : List Prompt :=
  [.call .tick (List.replicate 8 high ++ [low ipksent, high]),
    .poll [low (iswdet ||| icrcerror), high] ⟨0#8, fun _ => 0#8⟩]

theorem left_on_iff_wrong_crc :
    let start : Mote := ⟨sleepyBoot.start, ⟨resumed, fun _ => 0#8, true⟩⟩
    ∃ last, start.run (fun frame => [frame.bytes]) wrongCrc = some last ∧
      last.radio.driver.Watching ∧ start.LeftOn (fun frame => [frame.bytes]) wrongCrc last := by
  intro start
  have resumes : phyResume .loaded [0#8, 0#8] 0x08#8 0x06#8 [low 0#16] = some (0, resumed, []) := by
    decide +kernel
  obtain ⟨last, runs, watching⟩ := Option.map_eq_some_iff.mp (show
    (start.run (fun frame => [frame.bytes]) wrongCrc).map (fun mote => mode mote.radio.driver.bus) =
      some (some (rxon ||| xton)) by decide +kernel)
  exact ⟨last, runs, watching,
    (left_on_iff resumes sleepyBoot (by decide) (fun _ => 0#8) rfl wrongCrc runs).mp watching⟩

end Sleepy

/-! ### Other nodes -/

section Awake

variable {split : Tinymac.Frame → List (List Byte)}

/-- The wake-up timer is reported. -/
def Event.wakes : Event → Bool
  | .status word => has word iwut
  | _ => false

/-- The wake-up timer has not been reported. -/
def Driver.Undisturbed (driver : Driver) : Prop := ∀ event ∈ driver.bus, event.wakes = false

/-- The receiver is on, unless the wake-up timer has been reported. -/
def Driver.Listening (driver : Driver) : Prop := driver.Undisturbed → driver.Watching

theorem listening_onStatus (driver : Driver) (sample : Sample) (listening : driver.Listening) :
    (driver.onStatus sample).Listening := by
  intro calm
  have bus := onStatus_bus driver sample
  have before : driver.Undisturbed := by
    intro event member
    refine calm event ?_
    rw [bus]
    exact List.mem_append_left _ member
  rcases onStatus_mode driver sample with ⟨wakes, -⟩ | ⟨-, same⟩
  · have none : has sample.status iwut = false := by
      refine calm (.status sample.status) ?_
      rw [bus]
      exact List.mem_append_right _ List.mem_cons_self
    rw [none] at wakes
    cases wakes
  · exact (listening before).transfer same.symm

theorem perform_listening {rc : Int} {driver after : Driver} {event : Tinymac.Event}
    {samples rest : List Sample} (listening : driver.Listening) (steady : event.steady)
    (performs : perform split rc driver event samples = some (after, rest)) :
    after.Listening := by
  cases event with
  | phySend packet frame flags =>
      obtain ⟨⟨result, sent, left⟩, sends, is⟩ := Option.bind_eq_some_iff.mp performs
      dsimp only at is
      split at is
      · cases is
        rcases phySend_ends sends with handled | ⟨idle, rfl⟩
        · exact eventHandler_keeps listening_onStatus listening handled
        · exact fun _ => listen_watching idle
      · cases is
  | phyListen =>
      cases performs
      exact fun _ => listen_watching driver
  | phyStandby => exact absurd rfl steady
  | phyDelayedStandby us => exact absurd rfl steady
  | _ =>
      cases performs
      exact listening

theorem follow_listening {phyRc : Nat → Int} {position : Nat} {driver after : Driver}
    {events : List Tinymac.Event} {samples rest : List Sample} (listening : driver.Listening)
    (steady : ∀ event ∈ events, event.steady)
    (follows : follow split phyRc position driver events samples = some (after, rest)) :
    after.Listening := by
  induction events generalizing position driver samples with
  | nil =>
      cases follows
      exact listening
  | cons event events ih =>
      obtain ⟨⟨between, left⟩, performs, follows⟩ := Option.bind_eq_some_iff.mp follows
      have next := perform_listening listening (steady event List.mem_cons_self) performs
      exact ih next (fun other member => steady other (List.mem_cons_of_mem _ member)) follows

/-- A context that is not sleepy, with its receiver on. -/
structure Mote.Awake (mote : Mote) : Prop where
  awake : mote.mac.ctx.params.sleepy = false
  listening : mote.radio.driver.Listening

theorem Mote.Awake.advance {mote after : Mote} (awake : mote.Awake) {input : Tinymac.Input}
    {samples : List Sample} (steps : mote.advance split input samples = some after) :
    after.Awake := by
  obtain ⟨driver, rest, rfl, follows⟩ := advance_eq steps
  have beats := Tinymac.step_beats mote.mac input
  obtain ⟨new, out, steady⟩ := beats.steady awake.awake
  rw [out, List.drop_left] at follows
  refine ⟨?_, follow_listening awake.listening steady follows⟩
  rw [beats.params.1]
  exact awake.awake

theorem Mote.Awake.step {mote after : Mote} (awake : mote.Awake) {prompt : Prompt}
    (steps : mote.step split prompt = some after) : after.Awake := by
  cases prompt with
  | call call samples => exact awake.advance steps
  | poll samples reception =>
      obtain ⟨⟨radio, upcall, rest⟩, handles, steps⟩ := Option.bind_eq_some_iff.mp steps
      obtain ⟨driver, handled, is⟩ := phyEventHandler_eq handles
      have polled : Mote.Awake ⟨mote.mac, radio⟩ := by
        refine ⟨awake.awake, ?_⟩
        have ready := eventHandler_keeps listening_onStatus awake.listening handled
        unfold Radio.despatch at is
        split at is
        · cases is
          exact fun _ => listen_watching _
        · cases is
          exact fun _ => listen_watching _
        · cases is
          exact fun _ => listen_watching _
        · cases is
          exact ready
      cases upcall with
      | none =>
          cases steps
          exact polled
      | some upcall => exact polled.advance steps

/-- **A node that is not sleepy listens.** Behind every run from `tinymac_init` on, of a coordinator
or a client, its receiver is on, unless the radio has reported the wake-up timer. -/
theorem always_listening (boot : Tinymac.Boot) (awake : boot.params.sleepy = false)
    (driver : Driver) (payload : Memory) {start last : Mote}
    (starts : Mote.start split boot driver payload = some start) (prompts : List Prompt)
    (runs : start.run split prompts = some last) (undisturbed : last.radio.driver.Undisturbed) :
    last.radio.driver.Watching := by
  have begins : start.Awake := by
    unfold Mote.start at starts
    rw [Tinymac.start_out, if_neg (by simp [awake])] at starts
    cases starts
    refine ⟨?_, fun _ => listen_watching driver⟩
    dsimp only
    rw [Tinymac.start_params]
    exact awake
  have ends : last.Awake := by
    clear undisturbed
    induction prompts using List.reverseRecOn generalizing last with
    | nil =>
        cases runs
        exact begins
    | append_singleton prompts prompt ih =>
        rw [Mote.run_snoc] at runs
        obtain ⟨before, ran, steps⟩ := Option.bind_eq_some_iff.mp runs
        exact (ih ran).step steps
  exact ends.listening undisturbed

/-- A coordinator on this radio. -/
def coordinatorBoot : Tinymac.Boot := { Tinymac.Boot.coordinatorOn 0x2A#8 with phy := .si443x }

/-- A packet comes with a wrong CRC; a beacon is requested, and sent; the next packet comes in. -/
def asked : List Prompt :=
  [.call (.permitAttach true) [],
    .poll [low (iswdet ||| icrcerror), high] ⟨0#8, fun _ => 0#8⟩,
    .poll ([low ipkvalid, high] ++ List.replicate 20 high ++ [low ipksent, high])
      ⟨6#8, Tinymac.Frame.memory ⟨⟨0x0001#16, 0xFF#8, 0xFF#8, 0xFF#8, 1#8⟩, []⟩⟩,
    .poll [low iswdet, high] ⟨0#8, fun _ => 0#8⟩]

theorem always_listening_asked : ∃ start last,
    Mote.start (fun frame => [frame.bytes]) coordinatorBoot resumed (fun _ => 0#8) = some start ∧
      start.run (fun frame => [frame.bytes]) asked = some last ∧
      last.radio.driver.state = .rx ∧ (Tinymac.frames last.mac.out).length = 1 ∧
      last.radio.driver.Watching := by
  let start : Mote := ⟨coordinatorBoot.start, ⟨phyListen resumed, fun _ => 0#8, true⟩⟩
  obtain ⟨last, runs, facts⟩ := Option.map_eq_some_iff.mp (show
    (start.run (fun frame => [frame.bytes]) asked).map (fun mote =>
      (mote.radio.driver.state, (Tinymac.frames mote.mac.out).length,
        mote.radio.driver.bus.all fun event => event.wakes = false)) = some (.rx, 1, true) by
    decide +kernel)
  simp only [Prod.mk.injEq, List.all_eq_true, decide_eq_true_eq] at facts
  obtain ⟨state, frames, undisturbed⟩ := facts
  exact ⟨start, last, rfl, runs, state, frames,
    always_listening coordinatorBoot (by decide) resumed (fun _ => 0#8) rfl asked runs undisturbed⟩

end Awake

end TinyHan.PhySi443x
