import Handoff.Proofs.Channels.Current
import Handoff.Proofs.Streams.Custody

namespace Handoff.Site

/-! The stream at work.

What the stream of a body does no client code has part in: its handler, if it has
one, is the forwarder.  Chunks that are accepted, and the end of the stream, are
therefore on their way through the channel by the time the library replies. -/

open Machine

/-- The library replies over `stack` by itself, and the stream then stands as `goal`
says. -/
def Serves (site : Site) (link : Option Nat) (base stack : List Frame)
    (goal : Reply → Current → Prop) (machine : Machine) : Prop :=
  ∃ after reply current, Solo base machine after ∧ after.stack = stack ∧
    after.control = .reply reply ∧ site.Carries link current after ∧ goal reply current

variable {site : Site} {link : Option Nat} {base stack : List Frame}
  {goal : Reply → Current → Prop} {machine : Machine} {current : Current}

theorem serves_reply (carries : site.Carries link current machine) {reply : Reply}
    (holds : goal reply current) : site.Serves link base machine.stack goal (machine.reply reply) :=
  ⟨machine.reply reply, reply, current, .still _, rfl, rfl, carries.stands, holds⟩

theorem serves_turn {task : Task}
    (serves : site.Serves link base stack goal ((machine.turn task).perform task)) :
    site.Serves link base stack goal (machine.turn task) := by
  obtain ⟨after, reply, current, solo, rest⟩ := serves
  exact ⟨after, reply, current, .task solo, rest⟩

/-- The work above a frame replies, before its reply goes through the frame. -/
theorem Serves.through {frame : Frame} {lower : List Frame}
    (above : site.Serves link base (frame :: lower) goal machine) :
    ∃ below reply current, below.stack = lower ∧ below.control = .reply reply ∧
      site.Carries link current below ∧ goal reply current ∧
        Solo base machine (below.push frame) := by
  obtain ⟨⟨world, top, control, journal⟩, reply, current, solo, same, replied, carries, holds⟩ := above
  obtain rfl : top = frame :: lower := same
  obtain rfl : control = .reply reply := replied
  exact ⟨⟨world, lower, .reply reply, journal⟩, reply, current, rfl, rfl, carries.stands, holds, solo⟩

theorem serves_frame {frame : Frame} {lower : List Frame} {middle : Reply → Current → Prop}
    (part : base <:+ lower) (above : site.Serves link base (frame :: lower) middle machine)
    (resumed : ∀ (below : Machine) (reply : Reply) (current : Current), below.stack = lower →
      below.control = .reply reply → site.Carries link current below → middle reply current →
        site.Serves link base stack goal (below.resume reply frame)) :
    site.Serves link base stack goal machine := by
  obtain ⟨below, reply, current, bottom, replied, carries, holds, solo⟩ := above.through
  obtain ⟨after, last, final, later, rest⟩ :=
    resumed below reply current bottom replied carries holds
  exact ⟨after, last, final, solo.trans (.frame (bottom ▸ part) replied later), rest⟩

/-! The forwarder. -/

section Forwarder

variable {channel : Nat}

theorem serves_letGo (part : base <:+ machine.stack)
    (carries : site.Carries (some channel) current machine)
    (closed : (machine.world.accumulator site.accumulator).closed = true)
    (holds : goal .done { current with
      pipe := .ceased
      opened := current.opened && current.senders > 1
      senders := current.senders - 1 }) :
    site.Serves (some channel) base machine.stack goal
      (machine.letGo site.accumulator (.forwarding channel)) := by
  have fits : Pipe.Fits (some channel) current.accepted .ceased
      (machine.world.accumulator site.accumulator).release := ⟨rfl, closed⟩
  have released : site.Carries (some channel) { current with pipe := .ceased }
      ((machine.setAccumulator site.accumulator
        (machine.world.accumulator site.accumulator).release).note (.released site.accumulator)) :=
    (carries.setAccumulator fits).note _ rfl fun _ => rfl
  have left := released.setChannel (released.channel channel rfl).leave
  have discarded : site.Serves (some channel) base (.released :: machine.stack)
      (fun reply final => reply = .done ∧ final = { current with
        pipe := .ceased
        opened := current.opened && current.senders > 1
        senders := current.senders - 1 })
      (machine.letGo site.accumulator (.forwarding channel)) :=
    serves_turn (serves_reply (left.stands) ⟨rfl, rfl⟩)
  refine serves_frame part discarded fun below reply final bottom replied stands same => ?_
  obtain ⟨rfl, rfl⟩ := same
  rw [← bottom]
  exact serves_reply (stands.log _) holds

/-- A drain that has sent everything deals with the end. -/
theorem serves_ending (part : base <:+ machine.stack)
    (carries : site.Carries (some channel) current machine) {ending : Ending}
    (pipe : current.pipe = .draining [] (some ending)) (opened : current.opened = true)
    (senders : current.senders = 2) (sent : current.sent = current.accepted.map .ok)
    (holds : ∀ pipe sent opened senders,
      ({ current with pipe, sent, opened, senders } : Current).Rests (some channel) (some ending) →
        goal .done { current with pipe, sent, opened, senders }) :
    site.Serves (some channel) base machine.stack goal
      (machine.next site.accumulator (.forwarding channel)) := by
  have fits := carries.pipe
  rw [pipe] at fits
  obtain ⟨draining, queue, closed, wantsEnd⟩ := fits
  have last : (machine.world.accumulator site.accumulator).queue = [.ending ending] := queue
  have shut : (machine.world.accumulator site.accumulator).closed = true := closed
  have fits : Pipe.Fits (some channel) current.accepted .closing
      { machine.world.accumulator site.accumulator with queue := [] } := ⟨draining, shut⟩
  have read := carries.setAccumulator fits
  simp only [Machine.next, last]
  cases ending with
  | aborted =>
      rw [if_neg (by simp)]
      refine serves_letGo part read ?_ (holds .ceased _ _ _ ⟨rfl, ?_, sent⟩)
      · rw [accumulator_setAccumulator, if_pos rfl]
        exact shut
      · simp [opened, senders]
  | finished =>
      rw [if_pos (by simp [wantsEnd])]
      have told := read.note (.ended site.accumulator) rfl fun _ => rfl
      have ended := told.setChannel (told.channel channel rfl).close
      have above : site.Serves (some channel) base
          (.fedEnd site.accumulator (.forwarding channel) :: machine.stack)
          (fun _ final => final = { current with pipe := .closing, opened := false })
          ((((machine.setAccumulator site.accumulator
            { machine.world.accumulator site.accumulator with queue := [] }).note
              (.ended site.accumulator)).push
                (.fedEnd site.accumulator (.forwarding channel))).turn
                  (.feedEnd (.forwarding channel))) :=
        serves_turn (serves_reply ended.stands rfl)
      refine serves_frame part above fun below reply final bottom replied stands same => ?_
      subst same
      rw [← bottom]
      exact serves_letGo (bottom ▸ part) stands stands.pipe.2
        (holds .ceased _ _ _ ⟨rfl, rfl, sent⟩)

/-- A drain that has the forwarder sends what is left and deals with the end. -/
theorem serves_next (part : base <:+ machine.stack)
    (carries : site.Carries (some channel) current machine) {left : List Bytes}
    {ending : Option Ending} (pipe : current.pipe = .draining left ending)
    (opened : current.opened = true) (senders : current.senders = 2)
    (whole : current.sent ++ left.map .ok = current.accepted.map .ok)
    (holds : ∀ pipe sent opened senders,
      ({ current with pipe, sent, opened, senders } : Current).Rests (some channel) ending →
        goal .done { current with pipe, sent, opened, senders }) :
    site.Serves (some channel) base machine.stack goal
      (machine.next site.accumulator (.forwarding channel)) := by
  induction left generalizing machine current with
  | nil =>
      have sent : current.sent = current.accepted.map .ok := by simpa using whole
      cases ending with
      | none =>
          have fits := carries.pipe
          rw [pipe] at fits
          obtain ⟨draining, queue, closed, wantsEnd⟩ := fits
          have dry : (machine.world.accumulator site.accumulator).queue = [] := queue
          simp only [Machine.next, dry]
          have fits : Pipe.Fits (some channel) current.accepted (.parked [] none)
              ((machine.world.accumulator site.accumulator).park (.forwarding channel)) :=
            ⟨⟨channel, rfl, rfl⟩, dry, closed, wantsEnd⟩
          exact serves_reply (carries.setAccumulator fits)
            (holds _ _ _ _ ⟨rfl, opened, senders, sent⟩)
      | some ending => exact serves_ending part carries pipe opened senders sent holds
  | cons bytes left ih =>
      have fits := carries.pipe
      rw [pipe] at fits
      obtain ⟨draining, queue, closed, wantsEnd⟩ := fits
      have queue : (machine.world.accumulator site.accumulator).queue =
          .chunk bytes :: Item.line left ending := queue
      simp only [Machine.next, queue]
      have fits : Pipe.Fits (some channel) current.accepted (.draining left ending)
          ((machine.world.accumulator site.accumulator).dequeue bytes (Item.line left ending)) :=
        ⟨draining, rfl, closed, wantsEnd⟩
      have handed := (carries.setAccumulator fits).note (.handed site.accumulator bytes) rfl
        fun _ => rfl
      have sent := handed.setChannel ((handed.channel channel rfl).send opened (.ok bytes))
      have above : site.Serves (some channel) base
          (.fed site.accumulator (.forwarding channel) :: machine.stack)
          (fun reply final => reply = .flag true ∧ final = { current with
            pipe := .draining left ending, sent := current.sent ++ [.ok bytes] })
          ((((machine.setAccumulator site.accumulator ((machine.world.accumulator
            site.accumulator).dequeue bytes (Item.line left ending))).note
              (.handed site.accumulator bytes)).push
                (.fed site.accumulator (.forwarding channel))).turn
                  (.feed (.forwarding channel) bytes)) :=
        serves_turn (serves_reply sent.stands ⟨rfl, rfl⟩)
      refine serves_frame part above fun below reply final bottom replied stands same => ?_
      obtain ⟨rfl, rfl⟩ := same
      obtain ⟨draining, queue, closed, wantsEnd⟩ := stands.pipe
      have fits : Pipe.Fits (some channel) current.accepted (.draining left ending)
          { below.world.accumulator site.accumulator with wantsEnd := true } :=
        ⟨draining, queue, closed, rfl⟩
      have answered := (stands.setAccumulator fits).note (.answered site.accumulator true) rfl
        fun _ => rfl
      rw [← bottom] at part ⊢
      exact serves_turn (ih part answered.stands rfl opened senders
        ((List.append_assoc ..).trans whole) holds)

end Forwarder

/-! The calls that reach the stream. -/

/-! What joins the queue of a stream at rest. -/

theorem Carries.joins_chunk (carries : site.Carries link current machine)
    (rests : current.Rests link none) (bytes : Bytes) :
    ∃ pipe, Pipe.Fits link (current.accepted ++ [bytes]) pipe
        ((machine.world.accumulator site.accumulator).enqueue bytes) ∧
      ({ current with accepted := current.accepted ++ [bytes], pipe } : Current).Moves link none := by
  have fits := carries.pipe
  cases link with
  | none =>
      have pipe : current.pipe = .idle none := rests
      rw [pipe] at fits
      obtain ⟨stage, queue, closed, wantsEnd⟩ := fits
      have longer := (congrArg (· ++ [Item.chunk bytes]) queue).trans (Item.line_chunk _ _)
      exact ⟨.idle none, ⟨stage, longer, closed, wantsEnd⟩, rfl⟩
  | some channel =>
      obtain ⟨pipe, opened, senders, sent⟩ := rests
      rw [pipe] at fits
      obtain ⟨stage, queue, closed, wantsEnd⟩ := fits
      have longer := congrArg (· ++ [Item.chunk bytes]) queue
      refine ⟨.parked [bytes] none, ⟨stage, longer, closed, wantsEnd⟩, [bytes], rfl, opened,
        senders, ?_⟩
      simp [sent]

theorem Carries.joins_ending (carries : site.Carries link current machine)
    (rests : current.Rests link none) (ending : Ending) :
    ∃ pipe, Pipe.Fits link current.accepted pipe
        ((machine.world.accumulator site.accumulator).close ending) ∧
      ({ current with pipe } : Current).Moves link (some ending) := by
  have fits := carries.pipe
  cases link with
  | none =>
      have pipe : current.pipe = .idle none := rests
      rw [pipe] at fits
      obtain ⟨stage, queue, closed, wantsEnd⟩ := fits
      have longer := (congrArg (· ++ [Item.ending ending]) queue).trans (Item.line_ending _ _)
      exact ⟨.idle (some ending), ⟨stage, longer, rfl, wantsEnd⟩, rfl⟩
  | some channel =>
      obtain ⟨pipe, opened, senders, sent⟩ := rests
      rw [pipe] at fits
      obtain ⟨stage, queue, closed, wantsEnd⟩ := fits
      have longer := congrArg (· ++ [Item.ending ending]) queue
      refine ⟨.parked [] (some ending), ⟨stage, longer, rfl, wantsEnd⟩, [], rfl, opened,
        senders, ?_⟩
      simp [sent]

section Stream

variable (part : base <:+ machine.stack) (carries : site.Carries link current machine)

include part carries

theorem serves_drain {ending : Option Ending} (moves : current.Moves link ending)
    (holds : ∀ pipe sent opened senders,
      ({ current with pipe, sent, opened, senders } : Current).Rests link ending →
        goal .done { current with pipe, sent, opened, senders }) :
    site.Serves link base machine.stack goal (machine.drain site.accumulator) := by
  have fits := carries.pipe
  cases link with
  | none =>
      have pipe : current.pipe = .idle ending := moves
      rw [pipe] at fits
      simp only [Machine.drain, fits.1]
      exact serves_reply carries (holds current.pipe _ _ _ pipe)
  | some channel =>
      obtain ⟨left, pipe, opened, senders, whole⟩ := moves
      rw [pipe] at fits
      obtain ⟨⟨_, named, parked⟩, queue, closed, wantsEnd⟩ := fits
      obtain rfl := Option.some.inj named
      simp only [Machine.drain, parked]
      have fits : Pipe.Fits (some channel) current.accepted (.draining left ending)
          { machine.world.accumulator site.accumulator with stage := .draining } :=
        ⟨rfl, queue, closed, wantsEnd⟩
      have taken := carries.setAccumulator fits
      exact serves_turn (serves_next part taken.stands rfl opened senders whole holds)

/-- What joined the queue is on its way by the time the library replies. -/
theorem serves_joined {ending : Option Ending} (moves : current.Moves link ending)
    (holds : ∀ pipe sent opened senders,
      ({ current with pipe, sent, opened, senders } : Current).Rests link ending →
        goal .ok { current with pipe, sent, opened, senders }) :
    site.Serves link base machine.stack goal
      ((machine.push (.replying .ok)).turn (.drain site.accumulator)) := by
  have drained : site.Serves link base (.replying .ok :: machine.stack)
      (fun _ final => ∃ pipe sent opened senders,
        ({ current with pipe, sent, opened, senders } : Current).Rests link ending ∧
          final = { current with pipe, sent, opened, senders })
      ((machine.push (.replying .ok)).turn (.drain site.accumulator)) :=
    serves_turn (serves_drain (part.trans (List.suffix_cons _ _)) carries.stands moves
      fun pipe sent opened senders rests => ⟨pipe, sent, opened, senders, rests, rfl⟩)
  refine serves_frame part drained fun below reply final bottom replied stands same => ?_
  obtain ⟨pipe, sent, opened, senders, rests, rfl⟩ := same
  rw [← bottom]
  exact serves_reply stands (holds pipe sent opened senders rests)

/-- A chunk is refused, or it is on its way by the time the library replies. -/
theorem serves_deliver (calm : current.Calm link) (bytes : Bytes)
    (refused : ∀ error, goal (.refused error) current)
    (accepted : current.outcome = none → ∀ pipe sent opened senders,
      ({ current with accepted := current.accepted ++ [bytes], pipe, sent, opened, senders } :
        Current).Rests link none →
          goal .ok { current with
            accepted := current.accepted ++ [bytes], pipe, sent, opened, senders }) :
    site.Serves link base machine.stack goal (machine.deliver site.accumulator bytes) := by
  simp only [Machine.deliver]
  split
  case h_1 error _ => exact serves_reply carries (refused error)
  case h_2 fits =>
      have unclosed := Accumulator.closed_of_accepts fits
      have pending : current.outcome = none := by
        cases settled : current.outcome with
        | none => rfl
        | some outcome => exact absurd (unclosed.symm.trans (carries.closed calm settled)) (by simp)
      obtain ⟨pipe, fits, moves⟩ := carries.joins_chunk (calm.pending pending).1 bytes
      -- A chunk that has to wait is logged, and the stream stands as before.
      split
      · exact serves_joined part (carries.accept fits) moves (accepted pending)
      · exact serves_joined part ((carries.log _).accept fits) moves (accepted pending)

/-- The stream ends, unless it has ended before. -/
theorem serves_finish (rests : current.Rests link none) (ending : Ending)
    (holds : ∀ pipe sent opened senders,
      ({ current with pipe, sent, opened, senders } : Current).Rests link (some ending) →
        goal .ok { current with pipe, sent, opened, senders }) :
    site.Serves link base machine.stack goal (machine.finish site.accumulator ending) := by
  simp only [Machine.finish, carries.unclosed rests]
  obtain ⟨pipe, fits, moves⟩ := carries.joins_ending rests ending
  have stored := (carries.setAccumulator fits).note (.closed site.accumulator ending) rfl
    fun _ => rfl
  exact serves_joined part stored moves holds

end Stream

end Handoff.Site
