/-!
# Channels

Where a program reads and writes.  Both ends are streams of bytes.  A sink may
have room for a limited number of bytes: a write takes as many bytes as still
fit and fails if some are left over.  Input is taken line by line, and the
bytes of a line have to be UTF-8.
-/

namespace TinyImp

inductive ChannelError where
  | sinkFull
  | flushRefused
  | notText
deriving DecidableEq, Repr

def ChannelError.message : ChannelError → String
  | .sinkFull => "sink is full"
  | .flushRefused => "flush refused"
  | .notText => "stream did not contain valid UTF-8"

def textBytes (text : String) : List UInt8 :=
  text.toUTF8.data.toList

def bytesText? (bytes : List UInt8) : Option String :=
  String.fromUTF8? ⟨bytes.toArray⟩

/-- Where output goes: what has been written, how many bytes there is room for
in all, and whether flushing succeeds. -/
structure Sink where
  written : Array UInt8 := #[]
  capacity : Option Nat := none
  flushes : Bool := true

namespace Sink

/-- The part of `bytes` that still fits. -/
def fitting (sink : Sink) (bytes : List UInt8) : List UInt8 :=
  match sink.capacity with
  | none => bytes
  | some capacity => bytes.take (capacity - sink.written.size)

/-- Writes what fits of the bytes, and fails if some do not fit. -/
def write (bytes : List UInt8) : EStateM ChannelError Sink Unit := do
  let sink ← get
  let taken := sink.fitting bytes
  set { sink with written := sink.written ++ taken.toArray }
  if taken.length < bytes.length then
    throw .sinkFull

def flush : EStateM ChannelError Sink Unit := do
  if !(← get).flushes then
    throw .flushRefused

end Sink

/-- The first line of the input, with its line feed if it has one, and the
rest. -/
def splitLine : List UInt8 → List UInt8 × List UInt8
  | [] => ([], [])
  | byte :: bytes =>
      if byte = 10 then ([byte], bytes)
      else
        let (line, rest) := splitLine bytes
        (byte :: line, rest)

/-- The line without its line feed and without a carriage return before
that. -/
def withoutLineEnd (line : List Char) : List Char :=
  match line.reverse with
  | '\n' :: '\r' :: others => others.reverse
  | '\n' :: others => others.reverse
  | _ => line

end TinyImp
