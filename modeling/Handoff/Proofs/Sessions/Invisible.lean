import Handoff.Proofs.Sessions.Pairs

namespace Handoff

/-! Operations that are refused do not show. -/

/-- The errors with which operations on a body are refused. -/
def Error.isRefusal : Error → Bool
  | .capacityExceeded _ _ | .streamClosed | .alreadyAttached | .alreadyCompleted => true
  | _ => false

/-- The operations that were not refused. -/
def unrefused (exchanges : List (Operation × Reply)) : List (Operation × Reply) :=
  exchanges.filter fun exchange => !exchange.2.isRefused

theorem Accumulator.isRefusal_refusal? {accumulator : Accumulator} {bytes : Bytes} {error : Error}
    (refused : accumulator.refusal? bytes = some error) : error.isRefusal = true := by
  unfold Accumulator.refusal? at refused
  split at refused
  · cases refused
    rfl
  · split at refused
    · cases refused
    · split at refused
      · cases refused
      · split at refused
        · cases refused
          rfl
        · cases refused

section

variable {client : Client} {operation : Operation} {reply : Reply} {before between after : Machine}
  {site : Site} {sight : Sight} {error : Error} {index : Nat} {exchanges : List (Operation × Reply)}

theorem Operation.isRefusal_refusal? (refused : operation.refusal? index before = some error) :
    error.isRefusal = true := by
  cases operation with
  | send bytes => exact Accumulator.isRefusal_refusal? refused
  | deliver bytes => exact Accumulator.isRefusal_refusal? refused
  | listen handler hearing => cases refused
  | log name => cases refused
  | poll channel => cases refused
  | _ =>
      obtain ⟨-, ⟨⟩⟩ := Option.ite_none_right_eq_some.mp refused
      rfl

/-- What a hand-over makes is there afterwards. -/
theorem Performs.makes (performs : Performs client index operation before reply after)
    (reached : before.Reached) (idle : before.control = .client sight) :
    (∀ charset, operation = .text charset →
      before.world.promises.size < after.world.promises.size) ∧
    (operation = .chunks → before.world.channels.size < after.world.channels.size) := by
  obtain ⟨between, course, -, -, rfl⟩ := performs.course
  obtain ⟨moves, rfl⟩ := course.reached
  have begun := reached.run (operation.moves index before)
  have grown := (begun.rooted.run (moves ++ [.tick])).2
  have later : (before.run (operation.moves index before)).run (moves ++ [.tick]) =
      ((before.run (operation.moves index before)).run moves).tick := by
    rw [Machine.run_append]
    rfl
  rw [later] at grown
  refine ⟨?_, ?_⟩
  · rintro charset rfl
    refine Nat.lt_of_lt_of_le ?_ grown.promises
    rw [Machine.run_moves idle rfl performs.admitted]
    exact Nat.lt_of_lt_of_eq (Nat.lt_succ_self _) (Store.size_add _ _).symm
  · rintro rfl
    refine Nat.lt_of_lt_of_le ?_ grown.channels
    rw [Machine.run_moves idle rfl performs.admitted]
    exact Nat.lt_of_lt_of_eq (Nat.lt_succ_self _) (Store.size_add _ _).symm

end

namespace Machine

variable {bounds : Bounds} {client : Client} {full reduced after : Machine} {site : Site}
  {exchanges : List (Operation × Reply)}

/-- What the client got from a session matters. -/
structure Obtained (bounds : Bounds) (exchanges : List (Operation × Reply)) : Prop where
  texts : ∀ charset derived, (.text charset, .made derived) ∈ exchanges →
    bounds.zone.promise derived
  streams : ∀ channel, (.chunks, .made channel) ∈ exchanges → bounds.zone.channel channel
  refusals : ∀ operation error, (operation, .refused error) ∈ exchanges → error.isRefusal = true

theorem Obtained.refused (obtained : Obtained bounds exchanges) (operation : Operation)
    {error : Error} (refusal : error.isRefusal = true) :
    Obtained bounds ((operation, .refused error) :: exchanges) where
  texts charset derived member := by
    rcases List.mem_cons.mp member with same | member
    · cases same
    · exact obtained.texts charset derived member
  streams channel member := by
    rcases List.mem_cons.mp member with same | member
    · cases same
    · exact obtained.streams channel member
  refusals other reason member := by
    rcases List.mem_cons.mp member with same | member
    · cases same
      exact refusal
    · exact obtained.refusals other reason member

theorem Obtained.granted (obtained : Obtained bounds exchanges) {operation : Operation}
    {reply : Reply} (done : reply.isRefused = false)
    (text : ∀ charset derived, operation = .text charset → reply = .made derived →
      bounds.zone.promise derived)
    (stream : ∀ channel, operation = .chunks → reply = .made channel →
      bounds.zone.channel channel) : Obtained bounds ((operation, reply) :: exchanges) where
  texts charset derived member := by
    rcases List.mem_cons.mp member with same | member
    · cases same
      exact text charset derived rfl rfl
    · exact obtained.texts charset derived member
  streams channel member := by
    rcases List.mem_cons.mp member with same | member
    · cases same
      exact stream channel rfl rfl
    · exact obtained.streams channel member
  refusals other reason member := by
    rcases List.mem_cons.mp member with same | member
    · cases same
      cases done
    · exact obtained.refusals other reason member

theorem Keeps.refl (world : World) (bounds : Bounds) : Keeps world bounds bounds :=
  ⟨fun _ _ own => own, fun _ _ own => own⟩

theorem Keeps.trans {first second third : Bounds} {before after : World}
    (earlier : Keeps before first second) (later : Keeps after second third)
    (grown : before.Grown after) : Keeps before first third where
  promises index made own :=
    later.promises index (Nat.lt_of_lt_of_le made grown.promises) (earlier.promises index made own)
  channels index made own :=
    later.channels index (Nat.lt_of_lt_of_le made grown.channels) (earlier.channels index made own)

/-- The bounds in which an operation that is refused does not show. -/
theorem Pair.ignores {operation : Operation} {error : Error} {sight seen : Sight}
    (pair : Pair bounds site.accumulator full reduced) (reached : full.Reached)
    (follows : reduced.Reached) (guards : site.Guards full) (empty : full.stack = [])
    (idle : full.control = .client sight)
    (refused : operation.refusal? site.body full = some error)
    (wastes : Wastes (!operation.handsOver) full after) (rests : after.control = .client seen) :
    ∃ later, Pair later site.accumulator after reduced ∧ Keeps full.world bounds later := by
  cases hands : operation.handsOver with
  | false =>
      have clean : (!operation.handsOver) = true := by rw [hands]; rfl
      exact ⟨bounds, pair.refused wastes (.inl clean) empty idle rests, .refl _ _⟩
  | true =>
      have attached : (full.world.accumulator site.accumulator).isAttached = true := by
        rw [← guards.accumulator]
        cases attached : (full.world.accumulator
            (full.world.body site.body).accumulator).isAttached with
        | true => rfl
        | false =>
            cases operation with
            | attach handler => simp [Operation.refusal?, attached] at refused
            | text charset => simp [Operation.refusal?, attached] at refused
            | chunks => simp [Operation.refusal?, attached] at refused
            | _ => cases hands
      have made := Nat.lt_of_le_of_lt (Nat.zero_le _) (promise_made guards)
      obtain ⟨later, pair, keeps, promises, channels, same⟩ :=
        pair.narrow reached follows made attached
      exact ⟨later, pair.refused wastes (.inr ⟨promises, channels, same⟩) empty idle rests, keeps⟩

theorem Pair.session (session : Session client site.body full exchanges after)
    (pair : Pair bounds site.accumulator full reduced) (reached : full.Reached)
    (follows : reduced.Reached) (guards : site.Guards full) (guarded : site.Guards reduced)
    (empty : full.stack = []) (idle : ∃ sight, full.control = .client sight) :
    ∃ later next, Session client site.body reduced (unrefused exchanges) next ∧
      Pair later site.accumulator after next ∧ Keeps full.world bounds later ∧
        Obtained later exchanges := by
  induction session generalizing bounds reduced with
  | start machine =>
      exact ⟨bounds, reduced, .start reduced, pair, .refl _ _, ⟨by simp, by simp, by simp⟩⟩
  | @perform full between after operation reply exchanges performs rest ih =>
      obtain ⟨sight, idle⟩ := idle
      obtain ⟨floor, rests⟩ := performs.idle
      obtain ⟨moves, ran⟩ := performs.run
      have arrived : between.Reached := ran ▸ reached.run moves
      have watched : site.Guards between := ran ▸ guards.run reached moves
      have grown : full.world.Grown between.world := ran ▸ (reached.rooted.run moves).2
      cases refused : operation.refusal? site.body full with
      | some error =>
          obtain ⟨rfl, wastes⟩ := performs.refused guards reached empty idle refused
          obtain ⟨middle, pair, keeps⟩ :=
            pair.ignores reached follows guards empty idle refused wastes rests
          obtain ⟨later, next, session, pair, kept, obtained⟩ :=
            ih pair arrived follows watched guarded floor ⟨_, rests⟩
          exact ⟨later, next, session, pair, keeps.trans kept grown,
            obtained.refused operation (Operation.isRefusal_refusal? refused)⟩
      | none =>
          have answered := performs.granted guards reached empty idle refused
          have suits := pair.suits refused guards.accumulator
          obtain ⟨next, again, pair⟩ :=
            pair.granted reached follows guarded empty idle suits performs
          obtain ⟨steps, went⟩ := again.run
          obtain ⟨later, last, session, pair, kept, obtained⟩ := ih pair arrived
            (went ▸ follows.run steps) watched (went ▸ guarded.run follows steps) floor ⟨_, rests⟩
          have done : reply.isRefused = false := answered ▸ operation.isRefused_success full
          have passes : unrefused ((operation, reply) :: exchanges) =
              (operation, reply) :: unrefused exchanges :=
            List.filter_cons_of_pos (by simp only [done, Bool.not_false])
          refine ⟨later, last, passes ▸ .perform again session, pair,
            (Keeps.refl _ _).trans kept grown, obtained.granted done ?_ ?_⟩
          · rintro charset derived rfl made
            cases answered.symm.trans made
            obtain rfl := suits.resolve_left (by simp [Operation.handsOver])
            exact kept.promises _ ((performs.makes reached idle).1 charset rfl) (Bounds.promise_whole _)
          · rintro channel rfl made
            cases answered.symm.trans made
            obtain rfl := suits.resolve_left (by simp [Operation.handsOver])
            exact kept.channels _ ((performs.makes reached idle).2 rfl) (Bounds.channel_whole _)

end Machine

/-- Deleting the operations that were refused from a session leaves the results of the
others, the calls of handlers, the stream and the completion of the body, and every text
and channel that the client got as they were. -/
theorem refusals_invisible {client : Client} {index : Nat} {before after : Machine} {sight : Sight}
    {exchanges : List (Operation × Reply)} (reached : before.Reached)
    (idle : before.control = .client sight) (empty : before.stack = [])
    (made : index < before.world.bodies.size)
    (session : Session client index before exchanges after) :
    ∃ reduced, Session client index before (unrefused exchanges) reduced ∧
      (∀ others other, Session client index before others other →
        others.map Prod.fst = (unrefused exchanges).map Prod.fst →
          others = unrefused exchanges ∧ other = reduced) ∧
      reduced.calls = after.calls ∧
      reduced.world.accumulator (before.world.body index).accumulator =
        after.world.accumulator (before.world.body index).accumulator ∧
      reduced.world.promise (before.world.body index).promise =
        after.world.promise (before.world.body index).promise ∧
      (∀ charset derived, (.text charset, .made derived) ∈ exchanges →
        reduced.world.promise derived = after.world.promise derived) ∧
      (∀ channel, (.chunks, .made channel) ∈ exchanges →
        reduced.world.channel channel = after.world.channel channel) ∧
      ∀ operation error, (operation, .refused error) ∈ exchanges → error.isRefusal = true := by
  obtain ⟨site, rfl, guards⟩ := reached.guarded index made
  obtain ⟨bounds, reduced, kept, pair, keeps, obtained⟩ :=
    (Machine.pair_start reached site.accumulator).session session reached reached guards guards
      empty ⟨sight, idle⟩
  have promise : bounds.zone.promise (before.world.body site.body).promise := by
    rw [guards.promise]
    exact keeps.promises _ (Machine.promise_made guards) (Bounds.promise_whole _)
  exact ⟨reduced, kept, fun others other session same => kept.unique session same,
    pair.alike.calls.symm, (pair.alike.accumulator _).symm, (pair.alike.promise promise).symm,
    fun charset derived member => (pair.alike.promise (obtained.texts charset derived member)).symm,
    fun channel member => (pair.alike.channel (obtained.streams channel member)).symm,
    obtained.refusals⟩

/-! A client that attaches a handler asks for the text in vain, and sends too late. -/

def eager : Client :=
  ⟨fun _ => true, fun _ => ""⟩

def bodied : Machine :=
  Machine.initial.run (.call (.newBody .usual) :: .replicate 3 .tick)

def joined : Machine :=
  eager.complete 0 (.attach (.client 7)) 4 bodied

def heard : Machine :=
  eager.complete 0 (.send [104]) 9 joined

def rebuffed : Machine :=
  eager.complete 0 (.text .utf8) 10 heard

def completed : Machine :=
  eager.complete 0 (.complete "done") 18 rebuffed

theorem refusals_invisible_rebuffed :
    ∃ reduced, Session eager 0 bodied [(.attach (.client 7), .ok), (.send [104], .ok),
      (.complete "done", .ok)] reduced ∧
        reduced.calls = [.invoked (.ending 7), .invoked (.chunk 7 [104])] := by
  have session : Session eager 0 bodied [(.attach (.client 7), .ok), (.send [104], .ok),
      (.text .utf8, .refused .alreadyAttached), (.complete "done", .ok),
        (.send [105], .refused .streamClosed)] (eager.complete 0 (.send [105]) 2 completed) :=
    .perform (performs_play 4 ⟨rfl, rfl⟩ (by decide) rfl rfl)
      (.perform (performs_play 9 ⟨rfl, trivial⟩ (by decide) rfl rfl)
        (.perform (performs_play 10 ⟨rfl, trivial⟩ (by decide) rfl rfl)
          (.perform (performs_play 18 ⟨rfl, trivial⟩ (by decide) rfl rfl)
            (.perform (performs_play 2 ⟨rfl, trivial⟩ (by decide) rfl rfl) (.start _)))))
  obtain ⟨reduced, kept, -, calls, -⟩ :=
    refusals_invisible ⟨_, rfl⟩ rfl rfl (by decide) session
  exact ⟨reduced, kept, calls.trans rfl⟩

end Handoff
