import Handoff.Script.Player

namespace Handoff.Script

/-! How steps are performed.

A step that calls the library goes on until that call has returned or panicked.
Whenever the library calls client code in the meantime, the program of that
handler runs, and its steps are performed in the same way.  `fuel` bounds the
calls; `Play` gives more than a script can use. -/

abbrev Playing := StateM Player

def resultOf : Sight → Result
  | .panicked message => .panicked message
  | .replied (.result (.error error)) => .refused error
  | .replied (.polled poll) => .poll poll
  | _ => .ok

/-- Performs an action that gives a name, unless the name is taken. -/
def naming (name : String) (action : Playing Result) : Playing Result := do
  match (← get).giveName name with
  | none => return .nameTaken
  | some player =>
      set player
      action

def onFound (found : Option α) (action : α → Playing Result) : Playing Result :=
  match found with
  | none => return .noHandle
  | some value => action value

def keeping (sight : Sight) (keep : Nat → Player → Player) : Playing Result := do
  if let .replied (.made index) := sight then modify (keep index)
  return resultOf sight

namespace Player

def addFuture (name : String) (player : Player) (index : Nat) : Player :=
  { player with futures := player.futures ++ [(name, index)] }

def addOwned (name : String) (player : Player) (owned : Owned) : Player :=
  { player with owned := player.owned ++ [(name, owned)] }

def addCause (name : String) (player : Player) (cause : Cause) : Player :=
  { player with causes := player.causes ++ [(name, cause)] }

def addAccumulator (name : String) (player : Player) (index : Nat) : Player :=
  { player with accumulators := player.accumulators ++ [(name, index)] }

/-- A body is a sender, a future and an accumulator under one name. -/
def addBody (name : String) (player : Player) (index : Nat) : Player :=
  let body := player.world.body index
  let player := { player with bodies := player.bodies ++ [(name, index)] }
  ((player.addOwned name (.sender index)).addFuture name body.promise).addAccumulator name
    body.accumulator

def addStream (name : String) (player : Player) (index : Nat) : Player :=
  { player with streams := player.streams ++ [(name, index)] }

def addWaiter (name : String) (player : Player) (index : Nat) : Player :=
  { player with waiters := player.waiters ++ [(name, index)] }

def countCall (handler : Nat) (player : Player) : Player :=
  { player with recorders := player.recorders.modify handler fun recorder =>
      { recorder with calls := recorder.calls + 1 } }

def disown (name : String) (player : Player) : Player :=
  { player with owned := player.owned.filter fun entry => entry.1 ≠ name }

end Player

def Limits.config : Limits → Option Config
  | .usual => some .usual
  | .bounded maximum => some (.bounded maximum)
  | .json text => (Config.ofJson text).toOption

/-- The charset of a name; no name stands for the usual charset. -/
def charset? : Option String → Option Charset
  | none => some default
  | some name => Charset.ofName? name

def Owned.ending : Owned → Outcome → Call
  | .sink promise, outcome => .settle promise outcome
  | .sender body, outcome => .fail body outcome

def Owned.drop : Owned → Call
  | .sink promise => .dropSink promise
  | .sender body => .dropSender body

def sameResult : Option (Except Error String) → Option (Except Error String) → Bool
  | none, none => true
  | some (.ok value), some (.ok value') => value == value'
  | some (.error error), some (.error error') => error.same error'
  | _, _ => false

def outcomeOr (promise : Promise) (pending : Result) : Result :=
  match promise.result? with
  | some result => .outcome result
  | none => pending

def heard (tag : String) : Outcome → Event
  | .resolved value => .completed tag value
  | .failed cause => .failed tag cause.message
  | .cancelled force => .cancelled tag force

/-- The handler that a consumer describes, unless it needs what is not there. -/
def prepare : Consumer → Playing (Option NewHandler)
  | .recording program => do
      let (index, player) := (← get).addRecorder program
      set player
      return some (.client index)
  | .logging name => return some (.logging name)
  | .text sink charset capacity => do
      match (← get).sink? sink, charset? charset with
      | some promise, some charset => return some (.collecting charset capacity promise)
      | _, _ => return none

mutual

/-- Makes a call and goes on until it is over. -/
def ask : Nat → Call → Playing Sight
  | 0, _ => return .start
  | fuel + 1, call => do
      modify fun player => player.act (.call call)
      converse fuel

/-- Answers the library until the call under way is over. -/
def converse : Nat → Playing Sight
  | 0 => return .start
  | fuel + 1 => do
      let machine := (← get).machine
      match machine.control, machine.stack with
      | .client .called, .client invocation :: _ => do
          let move ← respond fuel invocation
          modify fun player => player.act move
          converse fuel
      | .client sight, _ => return sight
      | _, _ => return .start

def respond : Nat → Invocation → Playing Move
  | 0, _ => return .tick
  | fuel + 1, .told handler outcome => do
      let some listener := (← get).listeners[handler]? | return .answer .done
      modify fun player => player.record (heard listener.tag outcome)
      match ← performAll fuel listener.tag 0 listener.steps with
      | some message => return .panic message
      | none =>
          if listener.panics then return .panic ("handler " ++ listener.tag ++ " panicked")
          else return .answer .done
  | _ + 1, .mapping function value => do
      let some mapping := (← get).mappings[function]? | return .answer (.value value)
      modify fun player => player.record (.mapped mapping.name value)
      match mapping.function with
      | .panic => return .panic ("map " ++ mapping.name ++ " panicked")
      | function => return .answer (.value (function.apply value))
  | fuel + 1, .chunk handler bytes => do
      let some ⟨program, call⟩ := (← get).recorders[handler]? | return .answer (.flag true)
      modify fun player => (player.countCall handler).record (.chunk program.tag bytes)
      match ← performAll fuel program.tag 0 (program.reaction call) with
      | some message => return .panic message
      | none =>
          if program.panicsAt = some call then
            return .panic ("handler " ++ program.tag ++ " panicked")
          else return .answer (.flag (program.answer call))
  | fuel + 1, .ending handler => do
      let some ⟨program, _⟩ := (← get).recorders[handler]? | return .answer .done
      if program.closure then return .answer .done
      modify fun player => player.record (.ended program.tag)
      match ← performAll fuel program.tag 0 program.finale with
      | some message => return .panic message
      | none =>
          if program.panicsAtEnd then return .panic ("handler " ++ program.tag ++ " panicked")
          else return .answer .done

/-- Performs the steps inside a handler; gives the message of a panic. -/
def performAll : Nat → String → Nat → List Step → Playing (Option String)
  | 0, _, _, _ => return none
  | _ + 1, _, _, [] => return none
  | fuel + 1, tag, index, step :: rest => do
      match ← perform fuel step with
      | .panicked message => return some message
      | result =>
          modify fun player => player.record (.step tag index result)
          performAll fuel tag (index + 1) rest

def listenAll : Nat → Nat → List Listener → Playing Result
  | 0, _, _ => return .ok
  | _ + 1, _, [] => return .ok
  | fuel + 1, promise, listener :: rest => do
      let call ← match listener.listening with
        | .logging name => pure (Call.log promise name)
        | _ => do
            let (index, player) := (← get).addListener listener
            set player
            pure (.listen promise index listener.hearing)
      match resultOf (← ask fuel call) with
      | .ok => listenAll fuel promise rest
      | result => return result

def tellAll : Nat → CompletionHandler → Bool → List Told → Playing Result
  | 0, _, _, _ => return .ok
  | _ + 1, _, _, [] => return .ok
  | fuel + 1, handler, once, told :: rest => do
      let outcome ← match told with
        | .completed value => pure (Outcome.resolved value)
        | .failed text => do
            let (cause, player) := (← get).describe (.stated none text)
            set player
            pure (.failed cause)
        | .cancelled force => pure (.cancelled force)
      match resultOf (← ask fuel (.tell handler outcome)) with
      | .ok =>
          let handler := match handler with
            | .client index hearing => .client index (if once then hearing.after outcome else hearing)
            | other => other
          tellAll fuel handler once rest
      | result => return result

/-- Calls a chunk handler directly, again and again, and then drops it. -/
def feedAll : Nat → Nat → List (Option Bool) → List Fed → Playing Result
  | 0, _, _, _ => return .ok
  | fuel + 1, handler, answers, [] => do
      match resultOf (← ask fuel (.discard handler)) with
      | .ok => return .answers answers
      | result => return result
  | fuel + 1, handler, answers, fed :: rest => do
      let call := match fed with
        | .chunk bytes => Call.feed handler bytes
        | .ended => .feedEnd handler
      match ← ask fuel call with
      | .panicked message =>
          let _ ← ask fuel (.discard handler)
          return .panicked message
      | .replied (.flag answer) => feedAll fuel handler (answers ++ [some answer]) rest
      | _ => feedAll fuel handler (answers ++ [none]) rest

/-- Takes items from a stream until there is none, or no more. -/
def pollAll : Nat → Nat → List Poll → Playing Result
  | 0, _, polls => return .polls polls
  | fuel + 1, stream, polls => do
      match ← ask fuel (.poll stream) with
      | .replied (.polled .pending) => return .polls (polls ++ [.pending])
      | .replied (.polled .ended) => return .polls (polls ++ [.ended])
      | .replied (.polled poll) => pollAll fuel stream (polls ++ [poll])
      | _ => return .polls polls

def perform : Nat → Step → Playing Result
  | 0, _ => return .unknownStep
  | fuel + 1, .promise name =>
      naming name do
        keeping (← ask fuel .newPromise) fun index player =>
          (player.addFuture name index).addOwned name (.sink index)
  | fuel + 1, .ready name value =>
      naming name do
        keeping (← ask fuel (.newSettled (.resolved value))) fun index player =>
          player.addFuture name index
  | fuel + 1, .failed name cause => do
      onFound ((← get).causes.lookup cause) fun cause =>
        naming name do
          keeping (← ask fuel (.newSettled (.failed cause))) fun index player =>
            player.addFuture name index
  | _ + 1, .cause name text deeper =>
      naming name do
        let player ← get
        let description := match deeper.bind fun known => player.causes.lookup known with
          | some cause => Cause.Description.because none text (.known cause)
          | none => .stated none text
        let (cause, player) := player.describe description
        set (player.addCause name cause)
        return .ok
  | _ + 1, .causeOf name error =>
      naming name do
        let (cause, player) := (← get).describe (.raised none error)
        set (player.addCause name cause)
        return .ok
  | fuel + 1, .resolve name value => do
      onFound ((← get).sink? name) fun promise =>
        return resultOf (← ask fuel (.settle promise (.resolved value)))
  | fuel + 1, .fail name description => do
      onFound ((← get).owned.lookup name) fun owned => do
        let (cause, player) := (← get).describe description
        set player
        return resultOf (← ask fuel (owned.ending (.failed cause)))
  | fuel + 1, .failWith name cause => do
      onFound ((← get).owned.lookup name) fun owned => do
        onFound ((← get).causes.lookup cause) fun cause =>
          return resultOf (← ask fuel (owned.ending (.failed cause)))
  | fuel + 1, .cancel name force => do
      onFound ((← get).owned.lookup name) fun owned =>
        return resultOf (← ask fuel (owned.ending (.cancelled force)))
  | _ + 1, .isDone name => do
      let player ← get
      onFound (player.owned.lookup name) fun owned =>
        return .flag (match owned with
          | .sink promise => (player.promise promise).isDone
          | .sender body => (player.promise (player.world.body body).promise).isDone)
  | fuel + 1, .drop name => do
      onFound ((← get).owned.lookup name) fun owned => do
        modify (Player.disown name)
        return resultOf (← ask fuel owned.drop)
  | fuel + 1, .cancelFuture name force => do
      onFound ((← get).future? name) fun promise =>
        return resultOf (← ask fuel (.cancel promise force))
  | _ + 1, .future name new => do
      onFound ((← get).sink? name) fun promise =>
        naming new do
          modify fun player => player.addFuture new promise
          return .ok
  | _ + 1, .state name => do
      let player ← get
      onFound (player.future? name) fun promise =>
        return .state (player.promise promise).status
  | fuel + 1, .listen name listeners => do
      onFound ((← get).future? name) fun promise => listenAll fuel promise listeners
  | fuel + 1, .map name new function => do
      onFound ((← get).future? name) fun promise =>
        naming new do
          let (index, player) := (← get).addMapping ⟨new, function⟩
          set player
          keeping (← ask fuel (.map promise index)) fun index player =>
            player.addFuture new index
  | _ + 1, .result name => do
      let player ← get
      onFound (player.future? name) fun promise =>
        return outcomeOr (player.promise promise) .nothing
  | _ + 1, .wait name bounded => do
      let player ← get
      onFound (player.future? name) fun promise =>
        return outcomeOr (player.promise promise)
          (if bounded then .outcome (.error .timedOut) else .wouldBlock)
  | _ + 1, .waiter name new => do
      onFound ((← get).future? name) fun promise =>
        naming new do
          modify fun player => player.addWaiter new promise
          return .ok
  | _ + 1, .join name => do
      let player ← get
      onFound (player.waiters.lookup name) fun promise => do
        let promise := player.promise promise
        if promise.isDone then
          set { player with waiters := player.waiters.filter fun entry => entry.1 ≠ name }
        return outcomeOr promise .wouldBlock
  | _ + 1, .same name other => do
      let player ← get
      onFound (player.future? name) fun promise =>
        onFound (player.future? other) fun other =>
          return .flag (sameResult (player.promise promise).result? (player.promise other).result?)
  | _ + 1, .inspect name => return .texts ((← get).inspect name)
  | _ + 1, .inspectCallbacks hearing => return .text hearing.inspect
  | fuel + 1, .tell listener calls => do
      match listener.listening with
      | .logging name => tellAll fuel (.logging name) false calls
      | .callbacks hearing => do
          let (index, player) := (← get).addListener listener
          set player
          tellAll fuel (.client index hearing) true calls
      | _ => do
          let (index, player) := (← get).addListener listener
          set player
          tellAll fuel (.client index listener.hearing) false calls
  | fuel + 1, .feed consumer calls => do
      onFound (← prepare consumer) fun handler => do
        match ← ask fuel (.newHandler handler) with
        | .replied (.made index) => feedAll fuel index [] calls
        | sight => return resultOf sight
  | fuel + 1, .accumulator name ceiling =>
      naming name do
        keeping (← ask fuel (.newAccumulator ceiling)) fun index player =>
          player.addAccumulator name index
  | fuel + 1, .deliver name bytes => do
      onFound ((← get).accumulator? name) fun accumulator =>
        return resultOf (← ask fuel (.deliver accumulator bytes))
  | fuel + 1, .close name => do
      onFound ((← get).accumulator? name) fun accumulator =>
        return resultOf (← ask fuel (.finish accumulator .finished))
  | fuel + 1, .abort name => do
      onFound ((← get).accumulator? name) fun accumulator =>
        return resultOf (← ask fuel (.finish accumulator .aborted))
  | fuel + 1, .attach name consumer => do
      onFound (← prepare consumer) fun handler => do
        match ← ask fuel (.newHandler handler) with
        | .replied (.made index) =>
            match (← get).accumulator? name with
            | some accumulator => return resultOf (← ask fuel (.attach accumulator index))
            | none =>
                let _ ← ask fuel (.discard index)
                return .noHandle
        | sight => return resultOf sight
  | _ + 1, .status name => return .summary ((← get).summary name)
  | fuel + 1, .body name limits => do
      match limits.config with
      | none => return .badLimits
      | some config =>
          naming name do
            keeping (← ask fuel (.newBody config)) fun index player => player.addBody name index
  | fuel + 1, .send name bytes => do
      onFound ((← get).sender? name) fun body =>
        return resultOf (← ask fuel (.send body bytes))
  | fuel + 1, .finish name value => do
      onFound ((← get).sender? name) fun body =>
        return resultOf (← ask fuel (.complete body value))
  | fuel + 1, .text name new charset => do
      onFound ((← get).body? name) fun body => do
        match charset? charset with
        | none => return .badCharset
        | some charset =>
            naming new do
              keeping (← ask fuel (.text body charset)) fun index player =>
                player.addFuture new index
  | fuel + 1, .chunks name new => do
      onFound ((← get).body? name) fun body =>
        naming new do
          keeping (← ask fuel (.chunks body)) fun index player => player.addStream new index
  | fuel + 1, .poll name => do
      onFound ((← get).stream? name) fun stream =>
        return resultOf (← ask fuel (.poll stream))
  | fuel + 1, .pollAll name => do
      onFound ((← get).stream? name) fun stream => pollAll fuel stream []
  | fuel + 1, .dropStream name => do
      onFound ((← get).stream? name) fun stream => do
        modify fun player =>
          { player with streams := player.streams.filter fun entry => entry.1 ≠ name }
        return resultOf (← ask fuel (.dropStream stream))
  | _ + 1, .unknown _ => return .unknownStep

end

end Handoff.Script
