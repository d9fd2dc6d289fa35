import Handoff.Proofs.Channels.Opening
import Handoff.Proofs.Channels.Reading

namespace Handoff

/-! What the reader of a body gets.

The reader gets the chunks that were accepted, in their order, and then an error
unless the body was resolved.  This holds whenever the body is handed over, whoever
settles it, and however polls and other calls follow each other, as long as the
stream is not closed behind the sender's back and no completion handler panics. -/

namespace Machine

/-- A piece of a run in which every move is allowed. -/
inductive Trail (allow : Machine → Move → Bool) : Machine → Machine → Prop
  | start (machine : Machine) : Trail allow machine machine
  | move {machine after : Machine} {move : Move} (allowed : allow machine move = true)
      (rest : Trail allow (machine.act move) after) : Trail allow machine after

variable {allow : Machine → Move → Bool} {machine between after : Machine}

theorem Trail.reached (trail : Trail allow machine after) : ∃ moves, machine.run moves = after := by
  induction trail with
  | start machine => exact ⟨[], rfl⟩
  | @move _ _ move _ _ ih =>
      obtain ⟨moves, same⟩ := ih
      exact ⟨move :: moves, same⟩

/-- Every move is allowed when its turn comes. -/
def obeys (allow : Machine → Move → Bool) : Machine → List Move → Bool
  | _, [] => true
  | machine, move :: moves => allow machine move && obeys allow (machine.act move) moves

theorem trail_run {moves : List Move} (obeyed : obeys allow machine moves = true) :
    Trail allow machine (machine.run moves) := by
  induction moves generalizing machine with
  | nil => exact .start machine
  | cons move moves ih =>
      obtain ⟨allowed, rest⟩ := Bool.and_eq_true_iff.mp obeyed
      exact .move allowed (ih rest)

/-- All that a reader is to get, as far as it is known. -/
def whole (machine : Machine) (site : Site) : List (Except Error Bytes) :=
  (machine.accepted site.accumulator).map .ok ++
    (machine.world.promise site.promise).outcome?.elim [] Outcome.parting

/-- A poll says that nothing follows. -/
def PollsEnd (machine : Machine) (channel : Nat) : Prop :=
  (machine.act (.call (.poll channel))).control = .reply (.polled .ended)

theorem pollsEnd_iff {sight : Sight} (idle : machine.control = .client sight) (channel : Nat) :
    machine.PollsEnd channel ↔ (machine.world.channel channel).listening = true ∧
      (machine.world.channel channel).items = [] ∧
        (machine.world.channel channel).opened = false := by
  simp only [PollsEnd, act, idle]
  cases listening : (machine.world.channel channel).listening with
  | false => simp [World.admits, listening, idle]
  | true =>
      simp only [World.admits, listening, begin, if_true, control_reply, Control.reply.injEq,
        Reply.polled.injEq, true_and]
      simp only [Channel.poll]
      split
      case h_1 bytes rest items => simp [items]
      case h_2 error rest items => simp [items]
      case h_3 items => cases (machine.world.channel channel).opened <;> simp [items]

end Machine

namespace Site

open Machine

variable {site : Site} {link : Option Nat} {current : Current} {channel body : Nat}
  {machine start born before between after : Machine} {sight : Sight} {config : Config}
  {allow : Machine → Move → Prop}

/-- The stream of the body is closed behind the sender's back. -/
def closes (site : Site) : Move → Bool
  | .call (.finish accumulator _) => accumulator == site.accumulator
  | _ => false

def permits (site : Site) (machine : Machine) (move : Move) : Bool :=
  machine.tame move && !site.closes move

/-- All goes well with a body that is used as a stream of chunks, unless its stream
was given a handler of the client. -/
structure Tends (site : Site) (link : Option Nat) (machine : Machine) : Prop where
  reached : machine.Reached
  guards : site.Guards machine
  flows : Soon (site.Flowing link) machine ∨ link = none ∧
    (machine.world.accumulator site.accumulator).isAttached = true

/-- The same, and no panic has met a dispatch. -/
structure Conducts (site : Site) (link : Option Nat) (machine : Machine) : Prop
    extends Tends site link machine where
  shelters : machine.Shelters

theorem Tends.act (tends : site.Tends link machine) {move : Move}
    (kept : site.closes move = false)
    (spared : ∀ channel, link = some channel → ¬ site.Deserts channel machine) :
    site.Tends link (machine.act move) := by
  refine ⟨tends.reached.run [move],
    tends.guards.moved (tends.reached.handled _) (machine.moved_act move), ?_⟩
  rcases tends.flows with flows | ⟨unlinked, attached⟩
  · by_cases given : link = none ∧
      ((machine.act move).world.accumulator site.accumulator).isAttached = true
    · exact .inr given
    · refine .inl (flows.act fun ⟨current, streams⟩ => ?_)
      refine (streams.act tends.reached tends.guards.toGrounds spared ?_).resolve_right given
      rintro ending rfl
      simp [closes] at kept
  · exact .inr ⟨unlinked, tends.reached.attached attached [move]⟩

theorem Conducts.act (conducts : site.Conducts link machine) {move : Move}
    (permitted : site.permits machine move = true) : site.Conducts link (machine.act move) := by
  obtain ⟨tame, kept⟩ := Bool.and_eq_true_iff.mp permitted
  exact ⟨conducts.toTends.act (by simpa using kept) fun _ _ deserts =>
    deserts.unsheltered conducts.shelters, conducts.shelters.act conducts.reached.handled tame⟩

theorem Conducts.trail (conducts : site.Conducts link machine)
    (trail : Trail site.permits machine after) : site.Conducts link after := by
  induction trail with
  | start machine => exact conducts
  | move permitted rest ih => exact ih (conducts.act permitted)

/-! A new body. -/

def newCurrent : Current where
  accepted := []
  pipe := .idle none
  outcome := none
  shares := 1
  linked := true
  sent := []
  opened := false
  senders := 0

theorem beyond_nextSite (machine : Machine) (config : Config) :
    (machine.nextSite config).beyond none = (machine.nextSite config).outside True := by
  simp [beyond, outside, nextSite, derived?]

theorem carries_withBody (reached : machine.Reached) (config : Config) :
    (machine.nextSite config).Carries none newCurrent (machine.withBody config) := by
  have shows := shows_withBody reached config
  refine ⟨?_, ?_, shows.accepted, shows.flow, ?_, by simp⟩
  · rw [beyond_nextSite]
    exact outside_world shows.outside
  · rw [beyond_nextSite]
    exact outside_open shows.opened
  · have row : (machine.withBody config).world.promise (machine.nextSite config).promise =
        ⟨.pending [⟨machine.world.registrations, .aborting machine.world.accumulators.size⟩], 1,
          false⟩ :=
      (machine.world.promise_withBody config _).trans (if_pos rfl)
    rw [row]
    exact ⟨rfl, rfl, fun _ => ⟨_, [], rfl, by simp, by simp⟩⟩

theorem streams_withBody (reached : machine.Reached) (config : Config) :
    (machine.nextSite config).Streams none newCurrent (machine.withBody config) := by
  have stands := stands_withBody reached config
  refine ⟨carries_withBody reached config, ⟨fun _ => ⟨rfl, rfl⟩, (fun _ same => by cases same), rfl⟩,
    fun frame member => .inl ?_, .inl trivial, by simp⟩
  rw [beyond_nextSite]
  exact stands.frames frame member

/-- A new body. -/
theorem tends_made (reached : start.Reached)
    (made : Machine.Called allow (.newBody config) start born)
    (named : born.control = .reply (.made body)) :
    (born.site body).Tends none born := by
  obtain ⟨moves, same⟩ := made.reached
  have guards : (start.nextSite config).Guards born := by
    obtain ⟨later, same⟩ := made.course.reached
    have born : (start.begin (.newBody config)).Reached :=
      made.begun ▸ reached.run [.call (.newBody config)]
    exact same ▸ (guards_born reached config).run born later
  have bornReached : born.Reached := same ▸ reached.run moves
  obtain rfl := ends_newBody config born made.course made.ceased
  obtain rfl : start.world.bodies.size = body := Reply.made.inj (Control.reply.inj named)
  rw [site_withBody]
  exact ⟨bornReached, guards, .inl (.now ⟨_, streams_withBody reached config⟩)⟩

theorem sheltered_called {call : Call} {reply : Reply} (shelters : before.Shelters)
    (called : Machine.Called allow call before after) (replied : after.control = .reply reply) :
    after.Shelters := by
  refine ⟨?_, fun _ => ?_⟩
  · rw [called.ceased.1]
    exact shelters.stack
  · rw [replied]
    trivial

theorem conducts_made (prior : Trail tame initial start)
    (made : Machine.Called allow (.newBody config) start born)
    (named : born.control = .reply (.made body)) :
    (born.site body).Conducts none born := by
  have kept {before after : Machine} (trail : Trail tame before after) (reached : before.Reached)
      (shelters : before.Shelters) : after.Shelters := by
    induction trail with
    | start machine => exact shelters
    | @move _ _ move allowed _ ih =>
        exact ih (reached.run [move]) (shelters.act reached.handled allowed)
  have shelters : start.Shelters := kept prior ⟨[], rfl⟩ shelters_initial
  exact ⟨tends_made prior.reached made named, sheltered_called shelters made named⟩

/-- The body is handed over. -/
theorem Tends.chunks (tends : site.Tends none before)
    (handed : Machine.Called allow (.chunks site.body) before between)
    (succeeds : between.control = .reply (.made channel)) :
    site.Tends (some channel) between := by
  obtain ⟨sight, idle⟩ := handed.idle
  obtain ⟨moves, same⟩ := handed.reached
  have attachment : site.Flowing none before := by
    rcases tends.flows with flows | ⟨-, attached⟩
    · exact flows.client idle
    · rw [← tends.guards.accumulator] at attached
      exact absurd succeeds (refused_chunks attached handed)
  obtain ⟨current, streams⟩ := attachment
  obtain ⟨replied, flowing⟩ := streams.chunks tends.reached tends.guards handed
  obtain rfl : before.world.channels.size = channel :=
    Reply.made.inj (Control.reply.inj (replied.symm.trans succeeds))
  exact ⟨same ▸ tends.reached.run moves, same ▸ tends.guards.run tends.reached moves,
    .inl (.now flowing)⟩

theorem Conducts.chunks (conducts : site.Conducts none before)
    (handed : Machine.Called allow (.chunks site.body) before between)
    (succeeds : between.control = .reply (.made channel)) :
    site.Conducts (some channel) between :=
  ⟨conducts.toTends.chunks handed succeeds, sheltered_called conducts.shelters handed succeeds⟩

/-! At rest, the stream and the channel agree. -/

section Rest

variable (streams : site.Streams (some channel) current machine)

include streams

theorem Streams.whole : machine.whole site =
    current.accepted.map .ok ++ current.outcome.elim [] Outcome.parting := by
  rw [Machine.whole, streams.carries.accepted, streams.carries.promise.stored]

/-- What was sent is all that is known to come, or the error is still missing. -/
theorem Streams.sent : current.sent = machine.whole site ∧ (current.opened = false ↔
      current.outcome.isSome = true) ∨
    current.opened = true ∧ ∃ outcome, current.outcome = some outcome ∧ outcome.fails = true ∧
      current.sent = current.accepted.map .ok := by
  rw [streams.whole]
  cases concluded : current.outcome with
  | none =>
      obtain ⟨⟨-, opened, -, sent⟩, -⟩ := streams.calm.pending concluded
      exact .inl ⟨by simp [sent], by simp [opened]⟩
  | some outcome =>
      rcases streams.calm.settled outcome concluded with ⟨-, opened, sent⟩ | ⟨-, told⟩
      · cases fails : outcome.fails with
        | true =>
            rw [Outcome.ending_of_fails fails] at opened
            exact .inr ⟨opened, outcome, rfl, fails, sent⟩
        | false =>
            cases outcome with
            | resolved value => exact .inl ⟨by simp [sent, Outcome.parting], by simp [opened, Outcome.ending]⟩
            | failed cause => cases fails
            | cancelled force => cases fails
      · exact .inl ⟨told.sent, by simp [told.opened]⟩

theorem Streams.got : machine.yields channel <+: current.sent := by
  have conveys := streams.carries.channel channel rfl
  cases listening : (machine.world.channel channel).listening with
  | true => exact ⟨_, conveys.heard listening⟩
  | false => exact conveys.unheard listening

theorem Streams.yields_prefix : machine.yields channel <+: machine.whole site := by
  rcases streams.sent with ⟨sent, -⟩ | ⟨-, outcome, concluded, fails, sent⟩
  · exact sent ▸ streams.got
  · rw [streams.whole]
    exact streams.got.trans (sent ▸ List.prefix_append _ _)

/-- A reader that is told of the end got everything. -/
theorem Streams.of_pollsEnd {sight : Sight} (idle : machine.control = .client sight)
    (polled : machine.PollsEnd channel) :
    current.outcome.isSome = true ∧ machine.yields channel = machine.whole site := by
  obtain ⟨listening, items, shut⟩ := (pollsEnd_iff idle channel).mp polled
  have conveys := streams.carries.channel channel rfl
  have closed : current.opened = false := conveys.opened.symm.trans shut
  have got := conveys.heard listening
  rw [items, List.append_nil] at got
  rcases streams.sent with ⟨sent, ends⟩ | ⟨opened, -⟩
  · exact ⟨ends.mp closed, got.trans sent⟩
  · exact absurd (opened.symm.trans closed) (by simp)

/-- A reader that got everything is told of the end, if the body is settled. -/
theorem Streams.pollsEnd {sight : Sight} (idle : machine.control = .client sight)
    (concluded : current.outcome.isSome = true)
    (everything : machine.yields channel = machine.whole site)
    (listening : (machine.world.channel channel).listening = true) : machine.PollsEnd channel := by
  have conveys := streams.carries.channel channel rfl
  have got := conveys.heard listening
  rcases streams.sent with ⟨sent, ends⟩ | ⟨-, outcome, stored, fails, sent⟩
  · rw [sent, ← everything, List.append_right_eq_self] at got
    exact (pollsEnd_iff idle channel).mpr
      ⟨listening, got, conveys.opened.trans (ends.mpr concluded)⟩
  · -- The error is still missing, so the reader cannot have got everything.
    have longer := streams.got.length_le
    rw [everything, sent, streams.whole, stored, List.length_append, Option.elim_some] at longer
    cases outcome with
    | resolved value => cases fails
    | failed cause => exact absurd longer (by simp [Outcome.parting])
    | cancelled force => exact absurd longer (by simp [Outcome.parting])

/-- Nothing is withheld from the reader while the body is pending, or when no call is
under way. -/
theorem Streams.waits_for_reader {sight : Sight} (idle : machine.control = .client sight)
    (quiet : current.outcome = none ∨ machine.stack = [])
    (listening : (machine.world.channel channel).listening = true) :
    machine.yields channel ++ (machine.world.channel channel).items = machine.whole site := by
  have got := (streams.carries.channel channel rfl).heard listening
  rcases streams.sent with ⟨sent, -⟩ | ⟨opened, outcome, stored, -⟩
  · exact got.trans sent
  · rcases quiet with pending | empty
    · exact absurd (stored.symm.trans pending) (by simp)
    · rcases streams.heir channel rfl opened (by simp [stored]) with bequest | ⟨_, _, _, same, -⟩
      · obtain ⟨_, _, _, member, -⟩ := bequest
        rw [empty] at member
        cases member
      · rw [idle] at same
        cases same

end Rest

theorem Tends.rest (tends : site.Tends (some channel) machine)
    (idle : machine.control = .client sight) : site.Flowing (some channel) machine :=
  (tends.flows.resolve_right (by simp)).client idle

/-- Once the body is settled, no more is to come than was known then. -/
theorem Conducts.whole_trail (conducts : site.Conducts (some channel) machine)
    (idle : machine.control = .client sight)
    (concluded : (machine.world.promise site.promise).outcome?.isSome = true)
    (trail : Trail site.permits machine after) :
    (after.world.promise site.promise).outcome? = (machine.world.promise site.promise).outcome? ∧
      after.whole site = machine.whole site := by
  obtain ⟨current, streams⟩ := conducts.rest idle
  obtain ⟨outcome, settled⟩ := Option.isSome_iff_exists.mp concluded
  obtain ⟨moves, rfl⟩ := trail.reached
  have lawful : (machine.cord site.promise).Lawful := by
    obtain ⟨earlier, rfl⟩ := conducts.reached
    exact (cord_laws site.promise earlier).1
  have closed := streams.carries.closed streams.calm (streams.carries.promise.stored.symm.trans settled)
  have kept := outcome?_run lawful settled moves
  refine ⟨kept.trans settled.symm, ?_⟩
  rw [whole, whole, accepted_run (conducts.reached.handled _) closed, settled, kept]

/-- The reader gets what was accepted, in order, and then the error of a body that
failed or was cancelled, and nothing else.  It is told of the end only when the body
is settled and nothing is left, and then always. -/
theorem chunks_follow_body (prior : Trail tame initial start)
    (made : Machine.Called allow (.newBody config) start born)
    (named : born.control = .reply (.made body))
    (early : Trail (born.site body).permits born before)
    (handed : Machine.Called allow (.chunks body) before between)
    (succeeds : between.control = .reply (.made channel))
    (late : Trail (born.site body).permits between after)
    (idle : after.control = .client sight) :
    let outcome := (after.world.promise (born.world.body body).promise).outcome?
    let whole := (after.accepted (born.world.body body).accumulator).map .ok ++
      outcome.elim [] Outcome.parting
    let row := after.world.channel channel
    after.yields channel <+: whole ∧
      (after.PollsEnd channel → outcome.isSome = true ∧ after.yields channel = whole) ∧
      (outcome.isSome = true → after.yields channel = whole → ∀ final later,
        Trail (born.site body).permits after final → final.control = .client later →
          (final.world.channel channel).listening = true → final.PollsEnd channel) ∧
      (row.listening = true → outcome = none ∨ after.stack = [] →
        after.yields channel ++ row.items = whole) := by
  have conducts := (((conducts_made prior made named).trail early).chunks handed succeeds).trail late
  obtain ⟨current, streams⟩ := conducts.rest idle
  have stored := streams.carries.promise.stored
  refine ⟨streams.yields_prefix, fun polled => ?_, fun concluded everything final later trail rests
    listening => ?_, fun listening quiet => ?_⟩
  · obtain ⟨concluded, everything⟩ := streams.of_pollsEnd idle polled
    exact ⟨(congrArg Option.isSome stored).trans concluded, everything⟩
  · obtain ⟨kept, same⟩ := conducts.whole_trail idle concluded trail
    have everything : after.yields channel = after.whole (born.site body) := everything
    obtain ⟨lastly, streams⟩ := (conducts.trail trail).rest rests
    obtain ⟨moves, rfl⟩ := trail.reached
    have concluded : lastly.outcome.isSome = true :=
      (congrArg Option.isSome (streams.carries.promise.stored.symm.trans kept)).trans concluded
    have more := yields_run after moves channel
    have less := streams.yields_prefix
    rw [same, ← everything] at less
    refine streams.pollsEnd rests concluded ?_ listening
    exact (less.eq_of_length_le more.length_le).trans (everything.trans same.symm)
  · exact streams.waits_for_reader idle (quiet.imp_left fun pending => stored.symm.trans pending) listening

/-- The stations of a body that is handed over between its two chunks, and cancelled
by its consumer after the first was read. -/
def streaming : Machine :=
  (initial.begin (.newBody .usual)).run (.replicate 2 .tick)

def beforeChunks : List Move :=
  [.tick, .call (.send 0 [104])] ++ .replicate 5 .tick

def chunking : Machine :=
  ((streaming.run beforeChunks).begin (.chunks 0)).run (.replicate 10 .tick)

def afterChunks : List Move :=
  [.tick, .call (.send 0 [105])] ++ .replicate 9 .tick ++
    [.call (.poll 0), .tick, .call (.cancel 0 true)] ++ .replicate 19 .tick ++
      [.call (.poll 0), .tick, .call (.poll 0), .tick]

theorem chunks_follow_body_cancelled :
    (chunking.run afterChunks).PollsEnd 0 ∧ (chunking.run afterChunks).yields 0 =
      [.ok [104], .ok [105], .error (.cancelled true)] := by
  have made : Machine.Called (fun _ _ => True) (.newBody .usual) initial streaming :=
    called_ticks 2 rfl rfl (fun _ => trivial) (by decide) ⟨rfl, rfl⟩
  have handed : Machine.Called (fun _ _ => True) (.chunks 0) (streaming.run beforeChunks) chunking :=
    called_ticks 10 rfl rfl (fun _ => trivial) (by decide) ⟨rfl, rfl⟩
  have early : Trail (streaming.site 0).permits streaming (streaming.run beforeChunks) :=
    trail_run (by decide)
  have late : Trail (streaming.site 0).permits chunking (chunking.run afterChunks) :=
    trail_run (by decide)
  have law := chunks_follow_body (.start _) made rfl early handed rfl late rfl
  have polled : (chunking.run afterChunks).PollsEnd 0 := by
    unfold PollsEnd
    rfl
  exact ⟨polled, (law.2.1 polled).2.trans rfl⟩

end Site

end Handoff
