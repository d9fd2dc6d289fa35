import Handoff.Error

namespace Handoff

/-! The errors behind an error.

Whoever asks an error for its source, and that for its source, meets causes, and errors
of this library where a cause is one.  An error that a producer caused holds the cause
in a wrapping.  The wrapping says what the cause says and has the source that the cause
has, so that the cause itself is not met a second time.

The main result is that each wrapping adds one error in front and changes nothing
behind it, however often a cause is wrapped. -/

/-- What may be asked for its source. -/
inductive Source where
  /-- An error of this library. -/
  | own (error : Error)
  /-- A cause as an error of this library holds it. -/
  | wrapping (cause : Cause)
  /-- A cause as the producer gave it. -/
  | given (cause : Cause)

/-- An error of this library wraps its source. -/
def Error.next? (error : Error) : Option Source :=
  error.source?.map .wrapping

def Cause.next? (cause : Cause) : Option Source :=
  match cause.asError? with
  | some error => error.next?
  | none => cause.source?.map .given

namespace Source

def message : Source → String
  | .own error => error.message
  | .wrapping cause => cause.message
  | .given cause => cause.message

/-- A wrapping passes the question on to its cause. -/
def next? : Source → Option Source
  | .own error => error.next?
  | .wrapping cause => cause.next?
  | .given cause => cause.next?

end Source

/-- What is met, first to last, by asking for the source until there is none. -/
inductive Behind : Source → List Source → Prop where
  | nothing {asked} : asked.next? = none → Behind asked []
  | more {asked next rest} : asked.next? = some next → Behind next rest →
      Behind asked (next :: rest)

namespace Behind

variable {asked other : Source} {met others : List Source}

theorem unique (first : Behind asked met) (second : Behind asked others) : met = others := by
  induction first generalizing others with
  | nothing last =>
      cases second with
      | nothing => rfl
      | more next => rw [last] at next; contradiction
  | more next _ ih =>
      cases second with
      | nothing last => rw [last] at next; contradiction
      | more again rest =>
          rw [again] at next
          cases next
          rw [ih rest]

/-- Only the first answer matters. -/
theorem congr (behind : Behind asked met) (same : asked.next? = other.next?) :
    Behind other met := by
  cases behind with
  | nothing last => exact .nothing (same ▸ last)
  | more next rest => exact .more (same ▸ next) rest

/-- Behind anything that is met there is less than behind what was asked. -/
theorem exists_shorter (behind : Behind asked met) (member : other ∈ met) :
    ∃ fewer, Behind other fewer ∧ fewer.length < met.length := by
  induction behind with
  | nothing => contradiction
  | more next rest ih =>
      rcases List.mem_cons.mp member with rfl | later
      · exact ⟨_, rest, Nat.lt_succ_self _⟩
      · obtain ⟨fewer, behind, shorter⟩ := ih later
        exact ⟨fewer, behind, Nat.lt_succ_of_lt shorter⟩

/-- Nothing is met twice. -/
theorem nodup (behind : Behind asked met) : met.Nodup := by
  induction behind with
  | nothing => exact List.nodup_nil
  | more next rest ih =>
      refine List.nodup_cons.mpr ⟨fun again => ?_, ih⟩
      obtain ⟨fewer, behind, shorter⟩ := rest.exists_shorter again
      rw [behind.unique rest] at shorter
      exact Nat.lt_irrefl _ shorter

end Behind

/-! What is met, by the shape of errors and causes. -/

mutual

def Error.sources : Error → List Source
  | .producerFailed cause => .wrapping cause :: cause.sources
  | .capacityExceeded _ _ | .readOnly | .invalidCapacity | .alreadyCompleted
  | .timedOut | .cancelled _ | .alreadyAttached | .streamClosed => []

def Cause.sources : Cause → List Source
  | .stated _ _ => []
  | .because _ _ deeper => .given deeper :: deeper.sources
  | .raised _ error => error.sources

end

mutual

theorem Error.behind_sources : (error : Error) → Behind (.own error) error.sources
  | .producerFailed cause =>
      have wrapping : Behind (.wrapping cause) cause.sources := cause.behind_sources.congr rfl
      .more rfl wrapping
  | .capacityExceeded _ _ | .readOnly | .invalidCapacity | .alreadyCompleted
  | .timedOut | .cancelled _ | .alreadyAttached | .streamClosed => .nothing rfl

theorem Cause.behind_sources : (cause : Cause) → Behind (.given cause) cause.sources
  | .stated _ _ => .nothing rfl
  | .because _ _ deeper => .more rfl deeper.behind_sources
  | .raised _ error => error.behind_sources.congr rfl

end

mutual

/-- What is met says what the chain of an error says. -/
theorem Error.map_message_sources : (error : Error) →
    error.sources.map Source.message = error.chain.map Cause.message
  | .producerFailed cause => congrArg (cause.message :: ·) cause.map_message_sources
  | .capacityExceeded _ _ | .readOnly | .invalidCapacity | .alreadyCompleted
  | .timedOut | .cancelled _ | .alreadyAttached | .streamClosed => rfl

theorem Cause.map_message_sources : (cause : Cause) →
    cause.sources.map Source.message = cause.chain.map Cause.message
  | .stated _ _ => rfl
  | .because _ _ deeper => congrArg (deeper.message :: ·) deeper.map_message_sources
  | .raised _ error => error.map_message_sources

end

theorem Error.message_producerFailed (cause : Cause) :
    (producerFailed cause).message = "Upstream failure: " ++ cause.message :=
  rfl

namespace Cause

/-- A cause wrapped in an error, that error given as a cause and wrapped again, and so
on: once more than there are numbers for the cause instances in between. -/
def wrapped (base : Cause) : List Nat → Error
  | [] => .producerFailed base
  | instanceId :: inner => .producerFailed (.raised instanceId (base.wrapped inner))

/-- The wrappings that were put around a cause, outermost first. -/
def wrappings (base : Cause) : List Nat → List Source
  | [] => [.wrapping base]
  | instanceId :: inner =>
      .wrapping (.raised instanceId (base.wrapped inner)) :: base.wrappings inner

variable (base : Cause) (between : List Nat)

theorem sources_wrapped :
    (base.wrapped between).sources = base.wrappings between ++ base.sources := by
  induction between with
  | nil => rfl
  | cons instanceId inner ih => exact congrArg (_ :: ·) ih

theorem length_wrappings : (base.wrappings between).length = between.length + 1 := by
  induction between with
  | nil => rfl
  | cons instanceId inner ih => rw [wrappings, List.length_cons, List.length_cons, ih]

theorem message_wrapped : (base.wrapped between).message =
    String.join (List.replicate (between.length + 1) "Upstream failure: ") ++ base.message := by
  induction between with
  | nil => exact Error.message_producerFailed base
  | cons instanceId inner ih =>
      rw [List.length_cons, List.replicate_succ, String.join_cons, String.append_assoc, ← ih]
      exact Error.message_producerFailed (.raised instanceId (base.wrapped inner))

/-- The law of sources.  Behind an error that a producer caused there is one error that
says what the cause says, and then exactly what is behind the cause.  A cause that is
wrapped several times has as many errors in front, each of them met once, and its text
comes after as many announcements of a failure. -/
theorem sources_law : ∃ behind,
    (∀ met, Behind (.given base) met ↔ met = behind) ∧
    (∀ met, Behind (.own (.producerFailed base)) met ↔ met = .wrapping base :: behind) ∧
    (Source.wrapping base).message = (Source.given base).message ∧
    ∀ between,
      (∀ met, Behind (.own (base.wrapped between)) met ↔
        met = base.wrappings between ++ behind) ∧
      (base.wrappings between ++ behind).Nodup ∧
      (base.wrappings between ++ behind).length = between.length + 1 + behind.length ∧
      (base.wrappings between ++ behind).map Source.message =
        (base.wrapped between).chain.map message ∧
      (base.wrapped between).message =
        String.join (List.replicate (between.length + 1) "Upstream failure: ") ++
          base.message := by
  have only {asked : Source} {found : List Source} (behind : Behind asked found)
      (met : List Source) : Behind asked met ↔ met = found :=
    ⟨fun other => other.unique behind, fun same => same ▸ behind⟩
  refine ⟨base.sources, only base.behind_sources,
    only (Error.producerFailed base).behind_sources, rfl, fun between => ?_⟩
  have behind := (base.wrapped between).behind_sources
  rw [← sources_wrapped]
  refine ⟨only behind, behind.nodup, ?_, Error.map_message_sources _,
    base.message_wrapped between⟩
  rw [sources_wrapped, List.length_append, length_wrappings]

example : ((because 0 "refused" (.stated 1 "no route")).wrapped [2]).chain.map message =
    ["Upstream failure: refused", "refused", "no route"] := rfl

end Cause

end Handoff
