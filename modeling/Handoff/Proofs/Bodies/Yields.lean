import Handoff.Proofs.Bodies.Site
import Handoff.Proofs.Promises.Laws

namespace Handoff.Site

/-! Calls on a body.

While a call on a body runs, client code does not panic and does not call the
body.  Then every piece of work comes back with a reply, and how the site stands
after it is known from how it stood before. -/

open Machine

/-- The calls of the sender, and the one that cancels the body. -/
def isOwn (site : Site) : Call → Bool
  | .send body _ | .complete body _ | .fail body _ | .dropSender body => body == site.body
  | .cancel promise _ => promise == site.promise
  | _ => false

def isHandOver (site : Site) : Call → Bool
  | .text body _ | .chunks body => body == site.body
  | .attach accumulator _ => accumulator == site.accumulator
  | _ => false

/-- The calls that write to the accumulator without the sender, and the one that
cancels the text. -/
def isBypass (site : Site) : Call → Bool
  | .deliver accumulator _ | .finish accumulator _ => accumulator == site.accumulator
  | .cancel promise _ => site.derived? == some promise
  | _ => false

/-- What client code may do while a call on the body runs. -/
def spares (site : Site) : Move → Bool
  | .call call => !(site.isOwn call || site.isHandOver call || site.isBypass call)
  | .panic _ => false
  | _ => true

/-- The work above `base` ends with a reply, and the site stands as `goal` says. -/
def Yields (site : Site) (base : List Frame) (goal : Reply → View → Prop) (machine : Machine) :
    Prop :=
  Ends (fun _ move => site.spares move = true) base
    (fun after => ∃ reply view, after.control = .reply reply ∧ site.Shows view after ∧
      goal reply view) machine

variable {site : Site} {base : List Frame} {goal : Reply → View → Prop} {machine : Machine}
  {view : View}

theorem Shows.unowned (shows : site.Shows view machine) {promise : Nat}
    (owned : (machine.world.promise promise).owned = true) :
    promise ≠ site.promise ∧ site.derived? ≠ some promise := by
  refine ⟨?_, ?_⟩
  · rintro rfl
    simp [shows.promise.unowned] at owned
  · intro texted
    obtain ⟨⟨derived, charset⟩, found, rfl⟩ := Option.map_eq_some_iff.mp texted
    simp [(shows.text derived charset found).2.unowned] at owned

theorem Shows.call_in (shows : site.Shows view machine) {call : Call} {panics : Prop}
    (own : site.isOwn call = false) (handOver : site.isHandOver call = false)
    (bypass : site.isBypass call = false) (admitted : machine.world.admits call = true) :
    call.In (site.outside panics) := by
  cases call with
  | settle promise outcome => exact shows.unowned admitted
  | dropSink promise => exact shows.unowned admitted
  | newHandler handler =>
      cases handler with
      | collecting charset capacity promise => exact shows.unowned admitted
      | _ => trivial
  | cancel promise force => exact ⟨by simpa [isOwn] using own, by simpa [isBypass] using bypass⟩
  | deliver accumulator bytes => exact fun same => by simp [isBypass, same] at bypass
  | finish accumulator ending => exact fun same => by simp [isBypass, same] at bypass
  | attach accumulator handler => exact fun same => by simp [isHandOver, same] at handOver
  | text body charset => exact fun same => by simp [isHandOver, same] at handOver
  | chunks body => exact fun same => by simp [isHandOver, same] at handOver
  | send body bytes => exact fun same => by simp [isOwn, same] at own
  | complete body value => exact fun same => by simp [isOwn, same] at own
  | fail body outcome => exact fun same => by simp [isOwn, same] at own
  | dropSender body => exact fun same => by simp [isOwn, same] at own
  | _ => trivial

theorem Shows.spared (shows : site.Shows view machine) {move : Move}
    (spared : site.spares move = true) : move.In (site.outside False) machine.world := by
  cases move with
  | call call =>
      simp only [spares, Bool.not_eq_true', Bool.or_eq_false_iff] at spared
      exact shows.call_in spared.1.1 spared.1.2 spared.2
  | panic message => simp [spares] at spared
  | _ => trivial

theorem yields_done {reply : Reply} (bottom : machine.stack = base)
    (replied : machine.control = .reply reply) (shows : site.Shows view machine)
    (holds : goal reply view) : site.Yields base goal machine :=
  ends_of_over ⟨bottom, by simp [replied, Control.isOver]⟩ ⟨reply, view, replied, shows, holds⟩

theorem yields_task {task : Task} (working : machine.control = .task task)
    (yields : site.Yields base goal (machine.perform task)) : site.Yields base goal machine := by
  refine ends_tick (by simp [Over, working, Control.isOver]) (by simp [working]) ?_
  rw [tick, working]
  exact yields

theorem yields_above {frame : Frame} (middle : Reply → View → Prop)
    (part : frame :: base <:+ machine.stack) (working : ∀ sight, machine.control ≠ .client sight)
    (above : site.Yields (frame :: base) middle machine)
    (resumed : ∀ (below : Machine) (reply : Reply) (view : View), below.stack = base →
      site.Shows view below → middle reply view →
        site.Yields base goal (below.resume reply frame)) :
    site.Yields base goal machine := by
  have rises : Rises (frame :: base) machine :=
    ⟨part, fun sight idle => absurd idle (working sight)⟩
  refine ends_frame rises above ?_ ?_
  · rintro below reply bottom replied ⟨answer, view, replied', shows, holds⟩
    have same : reply = answer := Control.reply.inj (replied.symm.trans replied')
    subst same
    exact resumed below reply view bottom (shows.same rfl rfl) holds
  · rintro below message bottom panicking ⟨answer, view, replied, shows, holds⟩
    have clash : Control.panic message = .reply answer := panicking.symm.trans replied
    cases clash

theorem yields_frame {frame : Frame} (middle : Reply → View → Prop)
    (top : machine.stack = frame :: base) (working : ∀ sight, machine.control ≠ .client sight)
    (above : site.Yields (frame :: base) middle machine)
    (resumed : ∀ (below : Machine) (reply : Reply) (view : View), below.stack = base →
      site.Shows view below → middle reply view →
        site.Yields base goal (below.resume reply frame)) :
    site.Yields base goal machine :=
  yields_above middle (top ▸ List.suffix_refl _) working above resumed

/-- Work outside of the site comes back, and the site stands as before. -/
theorem yields_outside {task : Task} (bottom : machine.stack = base)
    (working : machine.control = .task task) (shows : site.Shows view machine)
    (inside : task.In (site.outside False) machine.world) (holds : ∀ reply, goal reply view) :
    site.Yields base goal machine := by
  have rises : Rises base machine :=
    ⟨bottom ▸ List.suffix_refl _, fun sight idle => by simp [working] at idle⟩
  have start : Inside (site.outside False) base machine machine :=
    ⟨⟨shows.outside, ⟨[], bottom, by simp⟩, .refl _⟩, by rw [working]; exact inside⟩
  refine (ends_inside shows.opened (fun before move world kept spared => ?_) rises start).weaken ?_
  · exact (shows.kept world kept).spared spared
  · intro after ceased inside
    have shows := shows.kept inside.world inside.kept
    have control := inside.control
    have ceased := ceased.2
    cases replied : after.control with
    | reply reply => exact ⟨reply, view, rfl, shows, holds reply⟩
    | panic message =>
        rw [replied] at control
        exact control.elim
    | _ => simp [replied, Control.isOver] at ceased

end Handoff.Site
