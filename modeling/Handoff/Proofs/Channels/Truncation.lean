import Handoff.Proofs.Channels.Delivery

namespace Handoff

/-! A failure that the reader does not hear of.

The reader of a body that failed or was cancelled gets the error before it is told of
the end, whatever handlers panic, with one exception: a panic may go through the
dispatch of the outcome before the forwarder had its turn.  The forwarder is then let
go unheard, and the end of the stream looks like that of a whole body. -/

namespace Site

open Machine

variable {site : Site} {link : Option Nat} {channel body : Nat} {config : Config}
  {machine start born before between after : Machine} {sight : Sight} {outcome : Outcome}
  {allow : Machine → Move → Prop}

/-- Nobody closes the stream behind the sender's back. -/
def entrusts (site : Site) (_ : Machine) (move : Move) : Bool :=
  !site.closes move

/-- A panic took the forwarder out of the dispatch before its turn. -/
def Forsaken (site : Site) (channel : Nat) (before after : Machine) : Prop :=
  ∃ moment, Trail site.entrusts before moment ∧ site.Deserts channel moment ∧
    Trail site.entrusts moment after

/-- All goes well with a body that was handed over until its forwarder is forsaken. -/
theorem Tends.trail (tends : site.Tends link machine)
    (trail : Trail site.entrusts machine after) :
    site.Tends link after ∨
      ∃ channel, link = some channel ∧ site.Forsaken channel machine after := by
  induction trail with
  | start machine => exact .inl tends
  | @move machine after move entrusted rest ih =>
      by_cases spared : ∀ channel, link = some channel → ¬ site.Deserts channel machine
      · refine (ih (tends.act (by simpa [entrusts] using entrusted) spared)).imp id ?_
        rintro ⟨channel, linked, moment, earlier, deserts, later⟩
        exact ⟨channel, linked, moment, .move entrusted earlier, deserts, later⟩
      · simp only [Classical.not_forall, Classical.not_not] at spared
        obtain ⟨channel, linked, deserts⟩ := spared
        exact .inr ⟨channel, linked, machine, .start machine, deserts, .move entrusted rest⟩

/-- A reader that is told of the end of a body that failed or was cancelled got all
its chunks and then the error, unless a panic met the dispatch of the outcome. -/
theorem error_unless_forsaken (reached : start.Reached)
    (made : Machine.Called allow (.newBody config) start born)
    (named : born.control = .reply (.made body))
    (early : Trail (born.site body).entrusts born before)
    (handed : Machine.Called allow (.chunks body) before between)
    (succeeds : between.control = .reply (.made channel))
    (late : Trail (born.site body).entrusts between after)
    (idle : after.control = .client sight)
    (settled : (after.world.promise (born.world.body body).promise).outcome? = some outcome)
    (fails : outcome.fails = true) (polled : after.PollsEnd channel) :
    (∃ error, outcome.result = .error error ∧ after.yields channel =
      (after.accepted (born.world.body body).accumulator).map .ok ++ [.error error]) ∨
      (born.site body).Forsaken channel between after := by
  have first : (born.site body).Tends none before :=
    ((tends_made reached made named).trail early).resolve_right (by simp)
  rcases (first.chunks handed succeeds).trail late with tends | ⟨other, linked, forsaken⟩
  · obtain ⟨current, streams⟩ := tends.rest idle
    obtain ⟨-, everything⟩ := streams.of_pollsEnd idle polled
    have parting : after.yields channel =
        (after.accepted (born.world.body body).accumulator).map .ok ++ outcome.parting := by
      rw [everything, Machine.whole]
      exact congrArg (_ ++ Option.elim · [] Outcome.parting) settled
    cases outcome with
    | resolved value => cases fails
    | failed cause => exact .inl ⟨_, rfl, parting⟩
    | cancelled force => exact .inl ⟨_, rfl, parting⟩
  · obtain rfl := Option.some.inj linked
    exact .inr forsaken

/-! The stations of a body whose first listener panics when it learns that the body
was cancelled.  The stream of chunks was made after that listener came. -/

def listened : Machine :=
  (initial.begin (.newBody .usual)).run (.replicate 2 .tick)

def untilChunked : List Move :=
  [.tick, .call (.listen 0 7 .all), .tick, .tick]

def chunked : Machine :=
  ((listened.run untilChunked).begin (.chunks 0)).run (.replicate 7 .tick)

def sinceChunked : List Move :=
  [.tick, .call (.send 0 [97])] ++ .replicate 9 .tick ++
    .call (.fail 0 (.cancelled true)) :: .replicate 16 .tick ++
      .panic "broken" :: .replicate 8 .tick ++ [.call (.poll 0), .tick]

theorem error_unless_forsaken_panicked :
    (listened.site 0).Forsaken 0 chunked (chunked.run sinceChunked) := by
  have made : Machine.Called (fun _ _ => True) (.newBody .usual) initial listened :=
    called_ticks 2 rfl rfl (fun _ => trivial) (by decide) ⟨rfl, rfl⟩
  have handed : Machine.Called (fun _ _ => True) (.chunks 0) (listened.run untilChunked)
      chunked := called_ticks 7 rfl rfl (fun _ => trivial) (by decide) ⟨rfl, rfl⟩
  have early : Trail (listened.site 0).entrusts listened (listened.run untilChunked) :=
    trail_run (by decide)
  have late : Trail (listened.site 0).entrusts chunked (chunked.run sinceChunked) :=
    trail_run (by decide)
  have cancelled : ((chunked.run sinceChunked).world.promise
      (listened.world.body 0).promise).outcome? = some (.cancelled true) := rfl
  have polled : (chunked.run sinceChunked).PollsEnd 0 := by
    unfold PollsEnd
    rfl
  have law := error_unless_forsaken ⟨[], rfl⟩ made rfl early handed rfl late rfl cancelled rfl
    polled
  refine law.resolve_left ?_
  rintro ⟨error, -, yields⟩
  have got : (chunked.run sinceChunked).yields 0 = [.ok [97]] := rfl
  have last := congrArg List.getLast? (got.symm.trans yields)
  simp at last

/-- The reader gets the chunk and is told of the end, but not of the cancellation. -/
theorem cancellation_unheard :
    Machine.Called (fun _ _ => True) (.chunks 0) (listened.run untilChunked) chunked ∧
      chunked.control = .reply (.made 0) ∧
        Trail (listened.site 0).entrusts chunked (chunked.run sinceChunked) ∧
          ((chunked.run sinceChunked).world.promise 0).outcome? = some (.cancelled true) ∧
            (chunked.run sinceChunked).PollsEnd 0 ∧
              (chunked.run sinceChunked).yields 0 = [.ok [97]] :=
  ⟨called_ticks 7 rfl rfl (fun _ => trivial) (by decide) ⟨rfl, rfl⟩, rfl, trail_run (by decide),
    rfl, by unfold PollsEnd; rfl, rfl⟩

end Site

end Handoff
