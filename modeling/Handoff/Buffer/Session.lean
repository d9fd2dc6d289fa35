import Handoff.Buffer.Writer

namespace Handoff.Buffer

/-! A session works on one buffer step by step and keeps a second, saved one. -/

inductive Step where
  | append (bytes : Bytes)
  /-- Two appends; the second is left out when the first fails. -/
  | appendTwo (first second : Bytes)
  | write (bytes : Bytes)
  | writeAll (bytes : Bytes)
  | flush
  | flip
  | rewind
  | clear
  | read (count : Nat)
  | readable
  | text (charset : Charset)
  | capacity
  | drain (writer : Writer.Limited)
  | save
  | swap
  /-- Hands the content over and starts again with a usual buffer. -/
  | handOver

inductive Answer where
  | done
  | refused (error : Error)
  | notWritten (error : WriteError)
  | written (count : Nat)
  | taken (bytes : Bytes)
  | octets (bytes : Bytes)
  | text (text : Option String)
  | capacity (capacity : Capacity)
  | drained (result : Except WriteError Nat) (received : Bytes)

structure Session where
  current : Buffer
  saved : Buffer

structure Opening where
  capacity : Option Capacity
  required : Option Nat

namespace Session

/-- The saved buffer at the start is a small empty one. -/
def start (opening : Opening) : Except Error Session := do
  let capacity := opening.capacity.getD .usual
  let current ← match opening.required with
    | some required => Buffer.withStorage capacity required
    | none => pure (Buffer.new capacity)
  return ⟨current, Buffer.new (.fixed 8)⟩

structure Result where
  session : Session
  answer : Answer
  notices : List Notice

private def keep (session : Session) (answer : Answer) : Result :=
  ⟨session, answer, []⟩

private def change (session : Session) (buffer : Buffer) (answer : Answer) : Result :=
  ⟨{ session with current := buffer }, answer, session.current.growth buffer⟩

private def appended (session : Session) (bytes : Bytes) : Result :=
  match session.current.append bytes with
  | .ok buffer => change session buffer .done
  | .error error => keep session (.refused error)

def perform (session : Session) : Step → Result
  | .append bytes => appended session bytes
  | .appendTwo first second =>
      match appended session first with
      | ⟨session, .done, notices⟩ =>
          let result := appended session second
          { result with notices := notices ++ result.notices }
      | result => result
  | .write bytes =>
      match session.current.write bytes with
      | .ok buffer => change session buffer (.written bytes.length)
      | .error error => keep session (.notWritten error)
  | .writeAll bytes =>
      match session.current.writeAll bytes with
      | .ok buffer => change session buffer .done
      | .error error => keep session (.notWritten error)
  | .flush => keep session .done
  | .flip => change session session.current.flip .done
  | .rewind => change session session.current.rewind .done
  | .clear => change session session.current.clear .done
  | .read count =>
      let (bytes, buffer) := session.current.read count
      change session buffer (.taken bytes)
  | .readable => keep session (.octets session.current.readable)
  | .text charset => keep session (.text (session.current.text? charset))
  | .capacity => keep session (.capacity session.current.capacity)
  | .drain writer =>
      let drained := session.current.drain (writer.responses session.current.readable.length)
      change session drained.buffer (.drained drained.result drained.received)
  | .save => keep { session with saved := session.current } .done
  | .swap => keep ⟨session.saved, session.current⟩ .done
  | .handOver =>
      keep { session with current := Buffer.new .usual } (.octets session.current.content)

end Session

end Handoff.Buffer
