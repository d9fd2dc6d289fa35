import Handoff.Proofs.Bodies.Handing
import Handoff.Proofs.Bodies.Making

namespace Handoff.Site

/-! The text of a body.

A body is made, used, handed over as text, and used again.  The text depends on
the chunks that were accepted and on the outcome of the body, and on nothing
else: not on how the body was cut into chunks, and not on when it was handed
over. -/

open Machine

variable {site : Site} {charset : Charset} {chunks : List Bytes} {outcome text : Option Outcome}

theorem Delivers.follows (delivers : site.Delivers charset chunks outcome text)
    (fits : site.config.textCapacity.holds chunks.flatten.length = true) :
    text = outcome.map (rendered charset chunks) := by
  have sound : site.config.textCapacity.holds 0 = true := rfl
  have whole : site.refusal? chunks = none :=
    (Capacity.firstRefusal_eq_none sound chunks).mpr (by simpa using fits)
  rwa [Delivers, whole] at delivers

/-- The text of a body that does not fit failed with its first chunk too many. -/
theorem Delivers.exceeds (delivers : site.Delivers charset chunks outcome text)
    (exceeds : site.config.textCapacity.holds chunks.flatten.length = false) :
    ∃ earlier bytes later number, chunks = earlier ++ bytes :: later ∧
      site.config.textCapacity.holds earlier.flatten.length = true ∧
      site.config.textCapacity.holds (earlier ++ [bytes]).flatten.length = false ∧
      text = some (.failed (.raised number
        (site.config.textCapacity.refusal (earlier ++ [bytes]).flatten.length))) := by
  have sound : site.config.textCapacity.holds 0 = true := rfl
  cases refused : site.refusal? chunks with
  | none =>
      have fits := (Capacity.firstRefusal_eq_none sound chunks).mp refused
      rw [Nat.zero_add, exceeds] at fits
      cases fits
  | some error =>
      rw [Delivers, refused] at delivers
      obtain ⟨number, failed⟩ := delivers
      obtain ⟨earlier, bytes, later, cut, held, more, rfl⟩ :=
        Capacity.firstRefusal_eq_some refused sound
      simp only [Nat.zero_add] at held more failed
      exact ⟨earlier, bytes, later, number, cut, held, more, failed⟩

section Runs

variable {start born before between after : Machine} {config : Config} {body derived : Nat}
  {allow : Machine → Move → Prop} {earlier later : List Call}

theorem born_of_made (made : Machine.Called allow (.newBody config) start born)
    (named : born.control = .reply (.made body)) :
    born = start.withBody config ∧ body = start.world.bodies.size := by
  have same := ends_newBody config born made.course made.ceased
  refine ⟨same, ?_⟩
  rw [same] at named
  exact (Reply.made.inj (Control.reply.inj named)).symm

theorem stands_of_use (reached : start.Reached)
    (made : Machine.Called allow (.newBody config) start born)
    (named : born.control = .reply (.made body))
    (early : (born.site body).Use born earlier before)
    (handed : ((born.site body).asText derived charset).Called (.text body charset) before between)
    (succeeds : between.control = .reply (.made derived))
    (late : ((born.site body).asText derived charset).Use between later after) :
    ∃ view, ((born.site body).asText derived charset).Stands view after ∧
      view.outcome = (earlier ++ later).findSome? Call.verdict := by
  obtain ⟨rfl, rfl⟩ := born_of_made made named
  have bornReached : (start.withBody config).Reached := by
    obtain ⟨moves, same⟩ := made.reached
    exact same ▸ reached.run moves
  obtain ⟨moves, rfl⟩ := early.reached
  have beforeReached := bornReached.run moves
  have first : ((start.withBody config).site start.world.bodies.size).Sound none
      (start.withBody config) := by
    rw [site_withBody]
    exact .inl ⟨newView, stands_withBody reached config, rfl⟩
  rcases early.keeps bornReached first with ⟨view, stands, same⟩ | ⟨-, attached⟩
  case inr =>
      -- A stream that has a handler is not handed over.
      have made : start.world.bodies.size < (start.withBody config).world.bodies.size := by
        have size := (start.world.sizes_withBody config).2.2
        exact size ▸ Nat.lt_succ_self _
      have stream := (bornReached.rooted.run moves).2.streams _ made
      have accumulator : ((start.withBody config).site start.world.bodies.size).accumulator =
          ((start.withBody config).world.body start.world.bodies.size).accumulator := rfl
      rw [accumulator, ← stream] at attached
      exact absurd succeeds (refused_text attached handed)
  case inl =>
      obtain rfl := made_text handed succeeds
      obtain ⟨-, view', stands', same'⟩ := stands.asText beforeReached rfl handed
      have betweenReached : between.Reached := by
        obtain ⟨moves, same⟩ := handed.reached
        exact same ▸ beforeReached.run moves
      rcases late.keeps betweenReached (.inl ⟨view', stands', rfl⟩) with
        ⟨final, stands, last⟩ | ⟨untexted, -⟩
      · refine ⟨final, stands, ?_⟩
        rw [last, same', same, List.findSome?_append]
        rfl
      · simp [asText] at untexted

/-- The text of a body that was finished holds what was accepted, and that of a
body which failed or was cancelled fails or is cancelled likewise; but a body that
does not fit has no text, whatever became of it. -/
theorem text_follows_body (reached : start.Reached)
    (made : Machine.Called allow (.newBody config) start born)
    (named : born.control = .reply (.made body))
    (early : (born.site body).Use born earlier before)
    (handed : ((born.site body).asText derived charset).Called (.text body charset) before between)
    (succeeds : between.control = .reply (.made derived))
    (late : ((born.site body).asText derived charset).Use between later after) :
    let chunks := after.accepted (born.world.body body).accumulator
    let outcome := (after.world.promise (born.world.body body).promise).outcome?
    let text := (after.world.promise derived).outcome?
    outcome = (earlier ++ later).findSome? Call.verdict ∧
      (config.textCapacity.holds chunks.flatten.length = true →
        text = outcome.map (rendered charset chunks)) ∧
      (config.textCapacity.holds chunks.flatten.length = false →
        ∃ whole bytes rest number, chunks = whole ++ bytes :: rest ∧
          config.textCapacity.holds whole.flatten.length = true ∧
          config.textCapacity.holds (whole ++ [bytes]).flatten.length = false ∧
          text = some (.failed (.raised number
            (config.textCapacity.refusal (whole ++ [bytes]).flatten.length)))) ∧
      charset.decode [] = "" := by
  intro chunks outcome text
  obtain ⟨view, stands, verdict⟩ := stands_of_use reached made named early handed succeeds late
  obtain ⟨rfl, rfl⟩ := born_of_made made named
  have accepted : chunks = view.accepted := stands.shows.accepted
  have settled : outcome = view.outcome := stands.shows.promise.stored
  have told : text = view.text := (stands.shows.text derived charset rfl).2.stored
  have capacity : (((start.withBody config).site start.world.bodies.size).asText derived
      charset).config.textCapacity = config.textCapacity := by
    rw [site_withBody]
    rfl
  have delivers := stands.calm.text derived charset rfl
  rw [← accepted, ← settled, ← told] at delivers
  rw [← capacity]
  exact ⟨settled.trans verdict, delivers.follows, delivers.exceeds, by cases charset <;> rfl⟩

end Runs

/-- The stations of a body that is handed over as text between its two chunks. -/
def newborn : Machine :=
  (initial.begin (.newBody .usual)).run (.replicate 2 .tick)

def halfSent : Machine :=
  ((newborn.act .tick).begin (.send 0 [104])).run (.replicate 4 .tick)

def handedOver : Machine :=
  ((halfSent.act .tick).begin (.text 0 .utf8)).run (.replicate 10 .tick)

def fullySent : Machine :=
  ((handedOver.act .tick).begin (.send 0 [105])).run (.replicate 8 .tick)

def finished : Machine :=
  ((fullySent.act .tick).begin (.complete 0 "done")).run (.replicate 26 .tick)

theorem text_follows_body_halfway :
    (finished.world.promise 1).outcome? = some (.resolved "hi") := by
  have early : (newborn.site 0).Use newborn [.send 0 [104]] (halfSent.act .tick) :=
    .move rfl (.call rfl (called_ticks 4 rfl rfl (fun _ => rfl) (by decide) ⟨rfl, rfl⟩)
      (.move rfl (.start _)))
  have handed : ((newborn.site 0).asText 1 .utf8).Called (.text 0 .utf8) (halfSent.act .tick)
      handedOver :=
    called_ticks 10 rfl rfl (fun _ => rfl) (by decide) ⟨rfl, rfl⟩
  have late : ((newborn.site 0).asText 1 .utf8).Use handedOver
      [.send 0 [105], .complete 0 "done"] finished :=
    .move rfl (.call rfl (called_ticks 8 rfl rfl (fun _ => rfl) (by decide) ⟨rfl, rfl⟩)
      (.move rfl (.call rfl (called_ticks 26 rfl rfl (fun _ => rfl) (by decide) ⟨rfl, rfl⟩)
        (.start _))))
  have made : Machine.Called (fun _ _ => True) (.newBody .usual) initial newborn :=
    called_ticks 2 rfl rfl (fun _ => trivial) (by decide) ⟨rfl, rfl⟩
  have law := text_follows_body ⟨[], rfl⟩ made rfl early handed rfl late
  exact (law.2.1 (by decide)).trans rfl

end Handoff.Site
