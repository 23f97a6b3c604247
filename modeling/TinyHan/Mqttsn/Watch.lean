/-
**A session and the clock.**

The client reads the clock at several places of a call. A `Watch` is a session with what an observer
with the same clock sees of it: the last reading, when the last request was first sent and when
anything was last sent. All of it is read off the log, call by call, and the client knows
nothing of it.

* A call is a sequence of stages (`Stage`), and a property of a session and its times that every
  stage keeps is a property of every run (`Watch.invariant`).
* **`Timely`**: the ping timer is set from the last transmission, and a request may be retransmitted
  until `(N_RETRY + 1) * T_RETRY` seconds after it was first sent.
* **`keepalive_kept`**: a client that is not Disconnected is never silent for `KEEP_ALIVE` seconds
  when the handler is called.
-/

import Mathlib.Data.List.Induction
import TinyHan.Mqttsn.Registration
import TinyHan.Mqttsn.Retry

namespace TinyHan.Mqttsn

open TinyHan.Lib

/-! ### Times -/

/-- The event is the first transmission of a message that is retransmitted. -/
def Event.asks : Event → Bool
  | .send _ retry _ => retry
  | _ => false

/-- When things were sent. -/
structure Times where
  /-- The clock at the start of the call that first sent the last request. -/
  since : Nat
  /-- The clock when something was last sent. -/
  sent : Nat

/-- The reading of the clock that goes with a transmission of `mqttsn_c_handler`: the third one if a
message is sent again, else the one that `mqttsn_send` takes when it sets the ping timer. -/
def handlerReading : Event → Nat
  | .resend _ => 2
  | .send _ true _ => 7
  | _ => 5

theorem handlerReading_le (event : Event) : handlerReading event ≤ 8 := by
  unfold handlerReading
  split <;> decide

/-- The call with these readings of the clock does something; `reading` is the one that goes with a
transmission. -/
def Times.note (now : Nat → Time) (reading : Event → Nat) (times : Times) (event : Event) :
    Times where
  since := if event.asks then (now 0).toNat else times.since
  sent := if event.airs then (now (reading event)).toNat else times.sent

/-- The times after some events of a call. -/
abbrev Times.after (now : Nat → Time) (reading : Event → Nat) (times : Times)
    (events : List Event) : Times :=
  view (Times.note now reading) times events

theorem Times.after_silent {now : Nat → Time} {reading : Event → Nat} {times : Times}
    {events : List Event} (silent : ∀ event ∈ events, event.airs = false) :
    times.after now reading events = times := by
  induction events with
  | nil => rfl
  | cons event events ih =>
      obtain ⟨airs, rest⟩ := List.forall_mem_cons.mp silent
      have same : times.note now reading event = times := by
        cases event with
        | send | resend => cases airs
        | _ => rfl
      rw [Times.after, view, List.foldl_cons, same]
      exact ih rest

/-- The readings of a call are in order, and the clock does not wrap. -/
structure Steady (now : Nat → Time) : Prop where
  ordered : ∀ call later, call ≤ later → later ≤ 8 → (now call).toNat ≤ (now later).toNat
  wraps : (now 8).toNat + keepAlive < 2 ^ 32

theorem Steady.first {now : Nat → Time} (steady : Steady now) (call : Nat) (read : call ≤ 8) :
    (now 0).toNat ≤ (now call).toNat := steady.ordered 0 call (Nat.zero_le _) read

theorem Steady.add {now : Nat → Time} (steady : Steady now) {call delay : Nat} (read : call ≤ 8)
    (short : delay ≤ keepAlive) :
    (now call + BitVec.ofNat 32 delay).toNat = (now call).toNat + delay := by
  have upper := steady.ordered call 8 read le_rfl
  have wraps := steady.wraps
  have ten : keepAlive = 10 := rfl
  rw [BitVec.toNat_add, BitVec.toNat_ofNat]
  omega

/-- What is sent in a call is not sent before it. -/
theorem Times.after_heard {now : Nat → Time} {reading : Event → Nat} {times : Times}
    {events : List Event} (steady : Steady now) (read : ∀ event, reading event ≤ 8)
    (heard : ∃ event ∈ events, event.airs = true) :
    (now 0).toNat ≤ (times.after now reading events).sent := by
  induction events using List.reverseRecOn with
  | nil => exact absurd heard (by simp)
  | append_singleton events event ih =>
      rw [Times.after, view_snoc]
      cases airs : event.airs with
      | true => exact (steady.first _ (read event)).trans_eq (if_pos airs).symm
      | false =>
          refine Nat.le_trans (ih ?_) (if_neg (by rw [airs]; decide)).ge
          obtain ⟨other, member, heard⟩ := heard
          rcases List.mem_append.mp member with earlier | last
          · exact ⟨other, earlier, heard⟩
          · cases List.mem_singleton.mp last
            exact absurd (airs.symm.trans heard) (by decide)

/-! ### Stages of a call -/

/-- From one session to another within a call, a property of the session and the times is kept. -/
def Stage (now : Nat → Time) (reading : Event → Nat) (P : Session → Times → Prop)
    (before after : Session) : Prop :=
  ∃ events, after.log = before.log ++ events ∧
    ∀ times, P before times → P after (times.after now reading events)

section Stages

variable {now : Nat → Time} {reading : Event → Nat} {P : Session → Times → Prop}
  {before between after : Session}

theorem Stage.refl : Stage now reading P before before :=
  ⟨[], (List.append_nil _).symm, fun _ holds => holds⟩

theorem Stage.trans (first : Stage now reading P before between)
    (second : Stage now reading P between after) : Stage now reading P before after := by
  obtain ⟨events, grows, keeps⟩ := first
  obtain ⟨more, grown, kept⟩ := second
  refine ⟨events ++ more, ?_, fun times holds => ?_⟩
  · rw [grown, grows, List.append_assoc]
  · rw [Times.after, view, List.foldl_append]
    exact kept _ (keeps times holds)

/-- A stage that sends nothing. -/
theorem Stage.silent (events : List Event) (grows : after.log = before.log ++ events)
    (silent : ∀ event ∈ events, event.airs = false)
    (keeps : ∀ times, P before times → P after times) : Stage now reading P before after := by
  refine ⟨events, grows, fun times holds => ?_⟩
  rw [Times.after_silent silent]
  exact keeps times holds

end Stages

/-! ### The timers -/

/-- The timers of a session are as the times of its transmissions say. -/
structure Timely (session : Session) (times : Times) : Prop where
  ping : session.ctx.nextPing.toNat ≤ times.sent + keepAlive
  rests : session.ctx.state.waits = false → session.ctx.tRetry = 0
  few : session.ctx.state.waits = true → session.ctx.nRetries ≤ nRetry
  again : session.ctx.state.waits = true → session.ctx.tRetry.toNat ≤ times.sent + retryPeriod
  patient : session.ctx.state.waits = true → times.since + (nRetry + 1) * retryPeriod ≤
    session.ctx.tRetry.toNat + session.ctx.nRetries * retryPeriod

section Timers

variable {config : Config} {session : Session} {now : Nat → Time} {reading : Event → Nat}
  {times : Times}

/-- A client that waits has its timer armed. -/
theorem Timely.armed (timely : Timely session times) (waits : session.ctx.state.waits = true) :
    session.ctx.tRetry ≠ 0 := by
  intro off
  have few := timely.few waits
  have patient := timely.patient waits
  have zero : (0 : Time).toNat = 0 := rfl
  rw [off, zero] at patient
  simp only [nRetry, retryPeriod] at few patient
  omega

/-- A client enters a state in which it does not wait. -/
theorem timely_toState {state : State} {before : Session} (rests : state.waits = false)
    (samePing : session.ctx.nextPing = before.ctx.nextPing) (timely : Timely before times) :
    Timely (mqttsnToState session state) times where
  ping := by
    have ping := timely.ping
    rw [← samePing] at ping
    exact ping
  rests := fun _ => rfl
  few := fun waits => absurd (waits.symm.trans rests) (by decide)
  again := fun waits => absurd (waits.symm.trans rests) (by decide)
  patient := fun waits => absurd (waits.symm.trans rests) (by decide)

theorem issue_nextPing (readings : Nat → Time) (extra : List Byte) (message : Message)
    (retry : Bool) :
    (session.issue readings extra message retry).ctx.nextPing =
      readings 1 + BitVec.ofNat 32 keepAlive := by
  unfold Session.issue
  split <;> cases retry <;> rfl

theorem issue_tRetry_of_retry (readings : Nat → Time) (extra : List Byte) (message : Message) :
    (session.issue readings extra message true).ctx.tRetry =
      readings 0 + BitVec.ofNat 32 retryPeriod := by
  unfold Session.issue
  split <;> rfl

/-- `mqttsn_send` reads the clock twice, from this place of the call on. -/
structure Within (now readings : Nat → Time) (call : Nat) : Prop where
  first : readings 0 = now call
  second : readings 1 = now (call + 1)
  inside : call + 1 ≤ 8

theorem Within.shift (now : Nat → Time) {call : Nat} (inside : call + 1 ≤ 8) :
    Within now (fun reading => now (call + reading)) call := ⟨rfl, rfl, inside⟩

theorem Within.self (now : Nat → Time) : Within now now 0 := ⟨rfl, rfl, by decide⟩

theorem issue_ping (steady : Steady now) {readings : Nat → Time} {call : Nat}
    (reads : Within now readings call) (extra : List Byte) (message : Message) (retry : Bool) :
    (session.issue readings extra message retry).ctx.nextPing.toNat =
      (now (call + 1)).toNat + keepAlive := by
  rw [issue_nextPing, reads.second, steady.add reads.inside le_rfl]

/-- **A client that begins to wait** sends the request it waits for. -/
theorem request_timely (steady : Steady now) {readings : Nat → Time} {call : Nat}
    (reads : Within now readings call) (extra : List Byte) (message : Message) {ready : Session}
    {state : State} (takes : ∀ bytes, reading (.send bytes true message) = call + 1)
    (grows : ready.log = session.log ++ [.entered state]) (waits : ready.ctx.state.waits = true) :
    Stage now reading Timely session (ready.issue readings extra message true) := by
  have inside : call ≤ 8 := (Nat.le_succ call).trans reads.inside
  have timer : (ready.issue readings extra message true).ctx.tRetry.toNat =
      (now call).toNat + retryPeriod := by
    rw [issue_tRetry_of_retry, reads.first, steady.add inside (by decide)]
  have retries : (ready.issue readings extra message true).ctx.nRetries = nRetry :=
    issue_nRetries_of_retry _ _ _ _ _ rfl
  refine ⟨[.entered state, .send (ready.outgoing readings extra message true) true message], ?_,
    fun times _ => ?_⟩
  · rw [issue_log, grows, List.append_assoc]
    rfl
  have since : (times.after now reading [.entered state,
      .send (ready.outgoing readings extra message true) true message]).since = (now 0).toNat := rfl
  have sent : (times.after now reading [.entered state,
      .send (ready.outgoing readings extra message true) true message]).sent =
        (now (call + 1)).toNat := congrArg (fun place => (now place).toNat) (takes _)
  refine ⟨?_, fun rests => ?_, fun _ => retries.le, fun _ => ?_, fun _ => ?_⟩
  · rw [sent]
    exact (issue_ping steady reads extra message true).le
  · rw [issue_state, waits] at rests
    cases rests
  · rw [timer, sent]
    exact Nat.add_le_add_right (steady.ordered call _ (Nat.le_succ call) reads.inside) _
  · have later := steady.first call inside
    rw [since, timer, retries]
    simp only [nRetry, retryPeriod]
    omega

/-- **A client that does not wait** sends a message once. -/
theorem once_timely (steady : Steady now) {readings : Nat → Time} {call : Nat}
    (reads : Within now readings call) (extra : List Byte) (message : Message)
    (takes : ∀ bytes, reading (.send bytes false message) = call + 1)
    (rests : session.ctx.state.waits = false) :
    Stage now reading Timely session (session.issue readings extra message false) := by
  refine ⟨[.send (session.outgoing readings extra message false) false message], issue_log ..,
    fun times timely => ⟨?_, fun _ => ?_, ?_, ?_, ?_⟩⟩
  · have sent : (times.after now reading [.send (session.outgoing readings extra message false)
        false message]).sent = (now (call + 1)).toNat :=
      congrArg (fun place => (now place).toNat) (takes _)
    rw [sent]
    exact (issue_ping steady reads extra message false).le
  · rw [issue_tRetry_of_not_retry _ _ _ _ _ rfl]
    exact timely.rests rests
  all_goals
    intro waits
    rw [issue_state, rests] at waits
    cases waits

/-- What is logged and is not a transmission. -/
theorem emit_timely {event : Event} (silent : event.airs = false) :
    Stage now reading Timely session (session.emit event) :=
  .silent [event] rfl (by simpa using silent) fun _ timely =>
    ⟨timely.ping, timely.rests, timely.few, timely.again, timely.patient⟩

/-- A write to the context that leaves the state and the timers alone. -/
theorem update_timely {change : Ctx → Ctx}
    (sameState : (change session.ctx).state = session.ctx.state)
    (sameRetries : (change session.ctx).nRetries = session.ctx.nRetries)
    (sameTimer : (change session.ctx).tRetry = session.ctx.tRetry)
    (samePing : (change session.ctx).nextPing = session.ctx.nextPing) :
    Stage now reading Timely session (session.update change) := by
  refine .silent [] (List.append_nil _).symm (by simp) fun _ timely => ?_
  constructor
  · rw [update_ctx, samePing]
    exact timely.ping
  · rw [update_ctx, sameState, sameTimer]
    exact timely.rests
  · rw [update_ctx, sameState, sameRetries]
    exact timely.few
  · rw [update_ctx, sameState, sameTimer]
    exact timely.again
  · rw [update_ctx, sameState, sameTimer, sameRetries]
    exact timely.patient

theorem checkRetry_timely (steady : Steady now) :
    Stage now handlerReading Timely session (session.checkRetry now) := by
  unfold Session.checkRetry
  split
  · next expired =>
    split
    · next left =>
      refine ⟨[.resend session.resent], rfl, fun times timely => ?_⟩
      have waits : session.ctx.state.waits = true := by
        by_contra rests
        exact expired.1 (timely.rests (Bool.eq_false_iff.mpr rests))
      have due : session.ctx.tRetry.toNat ≤ (now 0).toNat := expired.2
      have next : (now 1 + BitVec.ofNat 32 retryPeriod).toNat = (now 1).toNat + retryPeriod :=
        steady.add (by decide) (by decide)
      refine ⟨?_, fun rests => ?_, fun _ => ?_, fun _ => ?_, fun _ => ?_⟩
      · exact (steady.add (by decide) le_rfl).le
      · rw [Session.retransmit] at rests
        exact absurd (waits.symm.trans rests) (by decide)
      · exact (Nat.sub_le _ _).trans (timely.few waits)
      · exact next.trans_le (Nat.add_le_add_right (steady.ordered 1 2 (by decide) (by decide)) _)
      · have patient := timely.patient waits
        have later := steady.first 1 (by decide)
        change times.since + _ ≤ (now 1 + BitVec.ofNat 32 retryPeriod).toNat +
          (session.ctx.nRetries - 1) * retryPeriod
        rw [next]
        simp only [nRetry, retryPeriod] at patient ⊢
        omega
    · exact .silent [.entered .disconnected] rfl (by simp [Event.airs])
        fun _ => timely_toState rfl rfl
  · exact .refl

theorem checkPing_timely (steady : Steady now) :
    Stage now handlerReading Timely session (session.checkPing now) := by
  unfold Session.checkPing
  split
  · next due =>
    have rests : session.ctx.state.waits = false := by
      rw [due.1]
      rfl
    rw [ping_eq]
    exact once_timely steady (.shift now (by decide)) _ _ (fun _ => rfl) rests
  · exact .refl

theorem processInbound_timely (entry : Nat → Topic) (datagram : List Byte) :
    Stage now reading Timely session (session.processInbound entry datagram) := by
  -- nothing is transmitted here, so the times of the past are what they were
  obtain ⟨events, grows, silent⟩ := processInbound_silent session entry datagram
  refine .silent events grows silent fun times => ?_
  refine processInbound_elim (P := fun after => Timely session times → Timely after times)
    (fun events still timely => ?_) (fun _ => ?_) (fun _ _ _ => ?_) (fun ack _ _ _ _ _ => ?_)
    (fun _ _ => ?_) (fun _ => ?_)
  · exact ⟨timely.ping, timely.rests, timely.few, timely.again, timely.patient⟩
  · refine timely_toState ?_ rfl
    split <;> rfl
  · exact timely_toState rfl rfl
  · refine timely_toState rfl ?_
    rw [update_ctx, Ctx.answer]
    split <;> rfl
  · exact timely_toState rfl (congrArg Ctx.nextPing (acknowledge_ctx _ _))
  · exact timely_toState rfl rfl

theorem driveRegistration_timely (steady : Steady now) (entry : Nat → Topic) :
    Stage now handlerReading Timely session (session.driveRegistration entry now) := by
  unfold Session.driveRegistration
  split
  · dsimp only
    split
    · exact .silent [.registered, .entered .connected]
        (by rw [toState_log, emit_log, update_log, List.append_assoc]; rfl)
        (by simp [Event.airs]) fun _ => timely_toState rfl rfl
    · rw [request_eq]
      exact (request_timely steady (.shift now (by decide)) _ _ (fun _ => rfl)
        (toState_log session .busy) rfl).trans (update_timely rfl rfl rfl rfl)
  · exact .refl

theorem handler_timely (steady : Steady now) (entry : Nat → Topic)
    (datagram : Option (List Byte)) :
    Stage now handlerReading Timely session (mqttsnCHandler entry session now datagram) := by
  refine ((checkRetry_timely steady).trans (checkPing_timely steady)).trans ?_
  refine Stage.trans ?_ (driveRegistration_timely steady entry)
  cases datagram with
  | none => exact .refl
  | some datagram => exact processInbound_timely entry datagram

theorem publish_timely (steady : Steady now) (index : Fin maxClientTopics) {qos : Int}
    (standard : qos = 0 ∨ qos = 1) (data : List Byte) (connected : session.ctx.state = .connected) :
    Stage now (fun _ => 1) Timely session (session.publish now index qos data).2 := by
  have rests : session.ctx.state.waits = false := by
    rw [connected]
    rfl
  rw [publish_eq]
  refine Stage.trans ?_ (emit_timely rfl)
  rcases standard with rfl | rfl
  · have counted : Stage now (fun _ => 1) Timely session (session.prepare 0) :=
      update_timely rfl rfl rfl rfl
    exact counted.trans (once_timely steady (.self now) _ _ (fun _ => rfl) rests)
  · exact request_timely steady (.self now) _ _ (fun _ => rfl) (toState_log session .busy) rfl

end Timers

/-! ### Calls -/

/-- The readings of the clock in a call, if it is one that needs the clock. -/
def Input.readings : Input → Option (Nat → Time)
  | .handler now _ | .connect now | .disconnect now _ | .publish now .. => some now
  | .setPublishCallback _ | .setPubackCallback _ => none

/-- The reading of the clock that goes with a transmission of a call. -/
def Input.reading : Input → Event → Nat
  | .handler _ _ => handlerReading
  | _ => fun _ => 1

/-- A call publishes with one of the two qualities of service that are implemented. -/
def Input.Standard : Input → Prop
  | .publish _ _ qos _ => qos = 0 ∨ qos = 1
  | _ => True

/-- A session, the clock, and when things were sent. -/
structure Watch where
  session : Session
  /-- The last reading of the clock. -/
  clock : Nat
  times : Times

/-- One call. -/
def Watch.step (config : Config) (watch : Watch) (input : Input) : Watch :=
  let session := watch.session.step config input
  match input.readings with
  | none => { watch with session := session }
  | some now => ⟨session, (now 8).toNat,
      watch.times.after now input.reading (session.log.drop watch.session.log.length)⟩

/-- The calls of a run. -/
def Watch.run (config : Config) (watch : Watch) (inputs : List Input) : Watch :=
  inputs.foldl (Watch.step config) watch

/-- Every call of the run meets a condition. -/
def Watch.Along (config : Config) (cond : Watch → Input → Prop) (watch : Watch) :
    List Input → Prop
  | [] => True
  | input :: inputs => cond watch input ∧ Watch.Along config cond (watch.step config input) inputs

/-- Time passes, and the call is one of those that are implemented. -/
structure Watch.Ticks (watch : Watch) (input : Input) : Prop where
  later : ∀ now ∈ input.readings, watch.clock ≤ (now 0).toNat
  steady : ∀ now ∈ input.readings, Steady now
  standard : input.Standard

section Calls

variable {config : Config} {watch : Watch} {input : Input} {P : Session → Times → Prop}

theorem Watch.step_session (config : Config) (watch : Watch) (input : Input) :
    (watch.step config input).session = watch.session.step config input := by
  unfold Watch.step
  cases input.readings <;> rfl

/-- What every stage of a call keeps is kept by the call. -/
theorem Watch.step_kept
    (clocked : ∀ now ∈ input.readings,
      Stage now input.reading P watch.session (watch.session.step config input))
    (unclocked : input.readings = none → P watch.session watch.times →
      P (watch.session.step config input) watch.times)
    (holds : P watch.session watch.times) :
    P (watch.step config input).session (watch.step config input).times := by
  unfold Watch.step
  cases read : input.readings with
  | none => exact unclocked read holds
  | some now =>
      obtain ⟨events, grows, keeps⟩ := clocked now read
      dsimp only
      rw [grows, List.drop_left]
      exact keeps _ holds

/-- **The invariant rule.** -/
theorem Watch.invariant {cond : Watch → Input → Prop} {I : Watch → Prop} {inputs : List Input}
    (start : I watch) (kept : ∀ watch input, cond watch input → I watch →
      I (watch.step config input))
    (along : watch.Along config cond inputs) : I (watch.run config inputs) := by
  induction inputs generalizing watch with
  | nil => exact start
  | cons input inputs ih => exact ih (kept watch input along.1 start) along.2

/-- **Every call keeps the timers as the times say.** -/
theorem Watch.step_timely (ticks : watch.Ticks input) (timely : Timely watch.session watch.times) :
    Timely (watch.step config input).session (watch.step config input).times := by
  refine step_kept (fun now read => ?_) (fun none timely => ?_) timely
  · have steady := ticks.steady now read
    cases input with
    | handler _ datagram =>
        cases read
        exact handler_timely steady config.topics.entry datagram
    | connect =>
        cases read
        rw [Session.step]
        by_cases idle : watch.session.ctx.state = .disconnected
        · rw [connect_eq config watch.session now idle]
          exact (emit_timely rfl).trans
            (request_timely steady (.self now) _ _ (fun _ => rfl) (toState_log _ .connecting) rfl)
        · have refused : mqttsnCConnect config watch.session now = watch.session.emit .connect :=
            if_pos idle
          rw [refused]
          exact emit_timely rfl
    | disconnect _ duration =>
        cases read
        rw [Session.step]
        by_cases idle : watch.session.ctx.state = .disconnected
        · have refused : mqttsnCDisconnect watch.session now duration = watch.session := if_pos idle
          rw [refused]
          exact .refl
        · rw [disconnect_eq watch.session now duration idle]
          exact (emit_timely rfl).trans
            (request_timely steady (.self now) _ _ (fun _ => rfl)
              (toState_log _ .disconnecting) rfl)
    | publish _ index qos data =>
        cases read
        rw [Session.step, mqttsnCPublish]
        split
        · exact .refl
        · next connected =>
          split
          · exact .refl
          · exact publish_timely steady index ticks.standard data (not_not.mp connected)
    | setPublishCallback | setPubackCallback => cases read
  · cases input with
    | handler | connect | disconnect | publish => cases none
    | setPublishCallback | setPubackCallback =>
        exact ⟨timely.ping, timely.rests, timely.few, timely.again, timely.patient⟩

theorem Watch.along_snoc {cond : Watch → Input → Prop} {inputs : List Input} :
    watch.Along config cond (inputs ++ [input]) ↔
      watch.Along config cond inputs ∧ cond (watch.run config inputs) input := by
  induction inputs generalizing watch with
  | nil => exact ⟨fun along => ⟨trivial, along.1⟩, fun along => ⟨along.2, trivial⟩⟩
  | cons first inputs ih =>
      refine (and_congr_right fun _ => ih).trans ?_
      rw [← and_assoc]
      rfl

theorem Watch.run_snoc (inputs : List Input) :
    watch.run config (inputs ++ [input]) = (watch.run config inputs).step config input := by
  rw [Watch.run, List.foldl_append]
  rfl

end Calls

/-! ### The keep-alive period -/

section KeepAlive

variable {config : Config} {session : Session} {now : Nat → Time} {times : Times}

theorem driveRegistration_settled (session : Session) (entry : Nat → Topic) (now : Nat → Time) :
    (session.driveRegistration entry now).ctx.state ≠ .registering := by
  unfold Session.driveRegistration
  split
  · dsimp only
    split
    · exact nofun
    · rw [request_eq, update_ctx]
      dsimp only
      rw [issue_state]
      exact nofun
  · next settled => exact settled

/-- A call does not leave the client between two registrations. -/
theorem step_settled {input : Input} (settled : session.ctx.state ≠ .registering) :
    (session.step config input).ctx.state ≠ .registering := by
  cases input with
  | handler now datagram => exact driveRegistration_settled _ config.topics.entry now
  | connect now =>
      rw [Session.step]
      by_cases idle : session.ctx.state = .disconnected
      · rw [connect_eq config session now idle, issue_state]
        rintro ⟨⟩
      · have refused : mqttsnCConnect config session now = session.emit .connect := if_pos idle
        rw [refused]
        exact settled
  | disconnect now duration =>
      rw [Session.step]
      by_cases idle : session.ctx.state = .disconnected
      · have refused : mqttsnCDisconnect session now duration = session := if_pos idle
        rw [refused]
        exact settled
      · rw [disconnect_eq session now duration idle, issue_state]
        rintro ⟨⟩
  | publish now index qos data =>
      rw [Session.step, mqttsnCPublish]
      split
      · exact settled
      · split
        · exact settled
        · rw [publish_eq]
          change (((session.prepare qos).issue _ _ _ _).ctx.state) ≠ _
          rw [issue_state, prepare_state]
          split
          · decide
          · exact settled
  | setPublishCallback | setPubackCallback => exact settled

/-- A client that is Disconnected stays so in the handler. -/
theorem handler_disconnected (idle : session.ctx.state = .disconnected)
    (off : session.ctx.tRetry = 0) (datagram : Option (List Byte)) :
    (mqttsnCHandler config.topics.entry session now datagram).ctx.state = .disconnected := by
  have checked : (session.checkRetry now).checkPing now = session := by
    have retried : session.checkRetry now = session := if_neg fun expired => expired.1 off
    rw [retried]
    exact if_neg fun due => absurd (idle.symm.trans due.1) (by decide)
  have received : ∀ received : Session, received.ctx.state = .disconnected →
      (received.driveRegistration config.topics.entry now).ctx.state = .disconnected := by
    intro received idle
    rw [Session.driveRegistration, if_neg (by rw [idle]; decide)]
    exact idle
  refine received _ ?_
  rw [checked]
  cases datagram with
  | none => exact idle
  | some datagram => exact processInbound_disconnected idle config.topics.entry datagram

/-- **The handler is not silent for long**: it sends something now, or something was sent within the
keep-alive period. -/
theorem handler_audible (steady : Steady now) (timely : Timely session times)
    (settled : session.ctx.state ≠ .registering) {datagram : Option (List Byte)}
    (active : (mqttsnCHandler config.topics.entry session now datagram).ctx.state ≠
      .disconnected) :
    (now 0).toNat < (times.after now handlerReading ((mqttsnCHandler config.topics.entry session now
      datagram).log.drop session.log.length)).sent + keepAlive := by
  let checked := (session.checkRetry now).checkPing now
  obtain ⟨early, checks, -⟩ : Stage now handlerReading Timely session checked :=
    (checkRetry_timely steady).trans (checkPing_timely steady)
  obtain ⟨late, rest, -⟩ : Stage now handlerReading Timely checked
      (mqttsnCHandler config.topics.entry session now datagram) := by
    refine Stage.trans ?_ (driveRegistration_timely steady config.topics.entry)
    cases datagram with
    | none => exact .refl
    | some datagram => exact processInbound_timely config.topics.entry datagram
  rw [rest, checks, List.append_assoc, List.drop_left]
  by_cases heard : ∃ event ∈ early ++ late, event.airs = true
  · have sent : (now 0).toNat ≤ (times.after now handlerReading (early ++ late)).sent :=
      Times.after_heard steady handlerReading_le heard
    exact Nat.lt_of_le_of_lt sent (Nat.lt_add_of_pos_right (by decide))
  · have silent : ∀ event ∈ early ++ late, event.airs = false := by
      intro event member
      exact Bool.eq_false_iff.mpr fun airs => heard ⟨event, member, airs⟩
    rw [Times.after_silent silent]
    have unheard {event : Event} {before : Session} (logged : before.log = session.log ++ [event])
        (more : List Event) (grows : checked.log = before.log ++ more) : event.airs = false := by
      rw [checks, logged, List.append_assoc] at grows
      refine silent event (List.mem_append_left _ ?_)
      rw [List.append_cancel_left grows]
      exact List.mem_cons_self
    by_cases waits : session.ctx.state.waits = true
    · by_cases expired : session.ctx.expired now
      · by_cases left : session.ctx.nRetries = 0
        · exact absurd (handler_gives_up config datagram expired left) active
        · have again : session.checkRetry now = session.retransmit now := by
            rw [Session.checkRetry, if_pos expired, if_pos left]
          obtain ⟨more, grows, -⟩ :
              Stage now handlerReading Timely (session.checkRetry now) checked :=
            checkPing_timely steady
          rw [again] at grows
          cases unheard (retransmit_log session now) more grows
      · have early := not_and.mp expired (timely.armed waits)
        have bound := timely.again waits
        have pending : (now 0).toNat < session.ctx.tRetry.toNat := not_le.mp early
        simp only [retryPeriod, keepAlive] at bound ⊢
        omega
    · have off := timely.rests (Bool.eq_false_iff.mpr waits)
      have retried : session.checkRetry now = session := if_neg fun expired => expired.1 off
      cases state : session.ctx.state with
      | connected =>
          have ping := timely.ping
          have later := steady.first 3 (by decide)
          by_cases due : session.ctx.nextPing ≤ now 3
          · have pings : checked = session.issue (fun call => now (4 + call)) [] (.pingreq [])
                false := by
              rw [← ping_eq]
              change (session.checkRetry now).checkPing now = _
              rw [retried, Session.checkPing, if_pos ⟨state, due⟩]
            cases unheard (issue_log ..) [] (by rw [pings, List.append_nil])
          · have pending : (now 3).toNat < session.ctx.nextPing.toNat := not_le.mp due
            omega
      | disconnected => exact absurd (handler_disconnected state off datagram) active
      | registering => exact absurd state settled
      | connecting | busy | disconnecting => exact absurd (by rw [state]; rfl) waits

/-- A client that has just been initialised. -/
def Watch.start : Watch := ⟨mqttsnCInit, 0, ⟨0, 0⟩⟩

theorem start_timely : Timely Watch.start.session Watch.start.times :=
  ⟨by decide, fun _ => rfl, nofun, nofun, nofun⟩

/-- **A connected client is heard.** In every run in which the clock does not go back and does not
wrap: when the handler returns and the client is not Disconnected, the client has sent something
less than the keep-alive period before the handler was called, or within the call. -/
theorem keepalive_kept (config : Config) (inputs : List Input) (now : Nat → Time)
    (datagram : Option (List Byte))
    (ticks : Watch.start.Along config Watch.Ticks (inputs ++ [.handler now datagram]))
    (active : (Watch.start.run config (inputs ++ [.handler now datagram])).session.ctx.state ≠
      .disconnected) :
    (now 0).toNat <
      (Watch.start.run config (inputs ++ [.handler now datagram])).times.sent + keepAlive := by
  obtain ⟨ticking, last⟩ := Watch.along_snoc.mp ticks
  obtain ⟨timely, settled⟩ := Watch.invariant
    (I := fun watch => Timely watch.session watch.times ∧ watch.session.ctx.state ≠ .registering)
    ⟨start_timely, nofun⟩
    (fun watch input ticks ⟨timely, settled⟩ => ⟨watch.step_timely ticks timely, by
      rw [Watch.step_session]
      exact step_settled settled⟩) ticking
  rw [Watch.run_snoc] at active ⊢
  exact handler_audible (last.steady now rfl) timely settled active

theorem steady_const {time : Time} (early : time.toNat + keepAlive < 2 ^ 32) :
    Steady fun _ => time :=
  ⟨fun _ _ _ _ => le_rfl, early⟩

theorem Watch.Ticks.const {watch : Watch} {time : Time} {datagram : Option (List Byte)}
    (early : time.toNat + keepAlive < 2 ^ 32) (later : watch.clock ≤ time.toNat) :
    watch.Ticks (.handler (fun _ => time) datagram) :=
  ⟨by rintro now ⟨⟩; exact later, by rintro now ⟨⟩; exact steady_const early, trivial⟩

theorem Watch.Ticks.connect {watch : Watch} {time : Time} (early : time.toNat + keepAlive < 2 ^ 32)
    (later : watch.clock ≤ time.toNat) : watch.Ticks (.connect fun _ => time) :=
  ⟨by rintro now ⟨⟩; exact later, by rintro now ⟨⟩; exact steady_const early, trivial⟩

/-- A client that has subscribed to its topic in the second second is silent in the eighth, and has
been heard six seconds before. -/
theorem keepalive_kept_quiet :
    let inputs := [.connect fun _ => 0#32, .handler (fun _ => 1#32) (some [3#8, 0x05#8, 0x00#8]),
      .handler (fun _ => 2#32) (some [8#8, 0x13#8, 0x00#8, 0x00#8, 0x01#8, 0x00#8, 0x00#8, 0x00#8])]
    let watch := Watch.start.run subscriber (inputs ++ [.handler (fun _ => 8#32) none])
    watch.session.ctx.state = .connected ∧ watch.times.sent = 1 ∧
      (8#32).toNat < watch.times.sent + keepAlive := by
  intro inputs watch
  have connected : watch.session.ctx.state = .connected := by decide +kernel
  refine ⟨connected, by decide +kernel, keepalive_kept subscriber inputs _ none ⟨?_, ?_, ?_, ?_,
    trivial⟩ (by rw [connected]; decide)⟩
  · exact .connect (by decide) (by decide)
  · exact .const (by decide) (by decide)
  · exact .const (by decide) (by decide)
  · exact .const (by decide) (by decide)

end KeepAlive

end TinyHan.Mqttsn
