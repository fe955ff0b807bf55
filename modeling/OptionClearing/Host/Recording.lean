import OptionClearing.Host.Session

/-!
Hosts that keep what they are given: the last output in a buffer of fixed size, or every output in
turn.
-/

namespace OptionClearing

structure BufferHost where
  input : Bytes
  buffer : Bytes
  written : Nat
  deriving DecidableEq, Repr

namespace BufferHost

def start (input buffer : Bytes) : BufferHost := ⟨input, buffer, 0⟩

def output (host : BufferHost) : Bytes := host.buffer.take host.written

/-- An output that does not fit leaves the buffer as it is and counts as empty. -/
def write (host : BufferHost) (bytes : Bytes) : Except RecordFault Unit × BufferHost :=
  if host.buffer.length < bytes.length then
    (.error (.outputTooSmall bytes.length host.buffer.length), { host with written := 0 })
  else
    (.ok (), { host with buffer := host.buffer.overwrite 0 bytes, written := bytes.length })

instance : Host BufferHost := ⟨input, write⟩

end BufferHost

structure RecordingHost where
  input : Bytes
  refuses : Bool
  outputs : List Bytes
  deriving DecidableEq, Repr

namespace RecordingHost

def start (input : Bytes) (refuses : Bool) : RecordingHost := ⟨input, refuses, []⟩

/-- A refused output is kept all the same. -/
def write (host : RecordingHost) (bytes : Bytes) : Except RecordFault Unit × RecordingHost :=
  (if host.refuses then .error (.outputTooSmall bytes.length 0) else .ok (),
    { host with outputs := host.outputs ++ [bytes] })

instance : Host RecordingHost := ⟨input, write⟩

end RecordingHost

end OptionClearing
