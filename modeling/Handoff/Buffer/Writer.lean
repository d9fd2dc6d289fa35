import Handoff.Buffer

namespace Handoff

/-! Writing octets out.

A writer is known by its answers: each time it is offered octets it takes some
of them, asks to be called again, or fails.  A writer with no answers left takes
whatever it is offered. -/

inductive WriteError where
  /-- A buffer was the writer and refused. -/
  | refused (error : Error)
  /-- The writer took nothing, and never would. -/
  | tookNothing
  | failed (kind message : String)

namespace WriteError

def kind : WriteError → String
  | .refused _ => "Other"
  | .tookNothing => "WriteZero"
  | .failed kind _ => kind

def message : WriteError → String
  | .refused error => error.message
  | .tookNothing => "failed to write whole buffer"
  | .failed _ message => message

def error? : WriteError → Option Error
  | .refused error => some error
  | _ => none

end WriteError

namespace Writer

/-- What a writer does with the octets it is offered. -/
inductive Response where
  /-- Takes up to `count` octets. -/
  | takes (count : Nat)
  /-- Takes none and asks to be called again. -/
  | interrupted
  | fails (error : WriteError)

/-- Offers octets again and again until all are taken or the writer gives up.
`pieces` holds what the writer got so far, latest piece first; the second part
of the answer is what it got in the end.  Nothing is never offered. -/
def writeAllFrom (pieces : List Bytes) : List Response → Bytes → Except WriteError Unit × List Bytes
  | _, [] => (.ok (), pieces)
  | [], offered => (.ok (), offered :: pieces)
  | .takes 0 :: _, _ => (.error .tookNothing, pieces)
  | .takes count :: responses, offered =>
      writeAllFrom (offered.take count :: pieces) responses (offered.drop count)
  | .interrupted :: responses, offered => writeAllFrom pieces responses offered
  | .fails error :: _, _ => (.error error, pieces)

def writeAll (responses : List Response) (offered : Bytes) : Except WriteError Unit × Bytes :=
  let (result, pieces) := writeAllFrom [] responses offered
  (result, pieces.reverse.flatten)

/-- A writer that takes at most `piece` octets a call and `quota` octets in all.
Its first `interruptions` calls are interrupted.  When it can take no more it
either takes nothing or fails, as `silent` says. -/
structure Limited where
  piece : Option Nat
  quota : Option Nat
  silent : Bool
  interruptions : Nat

namespace Limited

def full : WriteError :=
  .failed "BrokenPipe" "sink full"

/-- The answers given to `offered` octets once no interruption is left: whole
pieces, what the quota leaves of a piece, and then the end of it. -/
def takes (writer : Limited) (offered : Nat) : List Response :=
  let piece := writer.piece.getD offered
  let total := if piece = 0 then 0 else min (writer.quota.getD offered) offered
  List.replicate (total / piece) (.takes piece)
    ++ (if total % piece = 0 then [] else [.takes (total % piece)])
    ++ [if writer.silent then .takes 0 else .fails full]

def responses (writer : Limited) (offered : Nat) : List Response :=
  List.replicate writer.interruptions .interrupted ++ writer.takes offered

end Limited

end Writer

namespace Buffer

def write (buffer : Buffer) (bytes : Bytes) : Except WriteError Buffer :=
  (buffer.append bytes).mapError .refused

/-- Writes a whole run of octets; an empty run is never offered to the buffer. -/
def writeAll (buffer : Buffer) (bytes : Bytes) : Except WriteError Buffer :=
  if bytes.isEmpty then .ok buffer else buffer.write bytes

structure Drained where
  result : Except WriteError Nat
  received : Bytes
  buffer : Buffer

/-- Writes out everything readable and clears the buffer.  When the writer
fails, the buffer stays as it was. -/
def drain (buffer : Buffer) (responses : List Writer.Response) : Drained :=
  let offered := buffer.readable
  match Writer.writeAll responses offered with
  | (.ok (), received) => ⟨.ok offered.length, received, buffer.clear⟩
  | (.error error, received) => ⟨.error error, received, buffer⟩

end Buffer

end Handoff
