/-
# Writing through a buffer

Small portions are collected and handed to a device together. The buffer is
emptied when a portion does not fit into it and when the writer is flushed; a
portion as large as the buffer goes past it.

A device may fail, or take only a part of what it is offered. As long as it takes
something it is offered the rest at once. When it fails, what it has not taken of
the buffer stays there and is offered again the next time; what it has not taken
of a portion that went past the buffer is gone.
-/

namespace CallTrace

/-- A kind of device that takes bytes. A write fails, or takes some of the bytes from
the front and tells how many. -/
class ByteSink (δ : Type) where
  write : List UInt8 → δ → Option Nat × δ

/-- Offers bytes to a device until it has taken all of them, and gives those that it
has not. A device that fails or takes nothing is not offered the rest. -/
def ByteSink.offer {δ : Type} [ByteSink δ] (bytes : List UInt8) (device : δ) :
    List UInt8 × δ :=
  match bytes with
  | [] => ([], device)
  | byte :: rest =>
    match write (byte :: rest) device with
    | (some (more + 1), device) => offer (rest.drop more) device
    | (_, device) => (byte :: rest, device)
termination_by bytes.length
decreasing_by
  rw [List.length_drop, List.length_cons]
  omega

/-- A device with a buffer before it. -/
structure BufferedWriter (δ : Type) where
  buffer : List UInt8
  device : δ

namespace BufferedWriter

variable {δ : Type} [ByteSink δ]

/-- The number of bytes that the buffer holds. -/
def capacity : Nat := 8192

def new (device : δ) : BufferedWriter δ :=
  ⟨[], device⟩

/-- Hands the buffer to the device and tells whether it was taken. -/
def flush (writer : BufferedWriter δ) : Bool × BufferedWriter δ :=
  let (left, device) := ByteSink.offer writer.buffer writer.device
  (left.isEmpty, ⟨left, device⟩)

/-- Empties the buffer if `bytes` does not fit into it. -/
def makeRoom (bytes : List UInt8) (writer : BufferedWriter δ) : Bool × BufferedWriter δ :=
  if capacity < writer.buffer.length + bytes.length then writer.flush else (true, writer)

/-- Writes one portion and tells whether it was taken. -/
def put (bytes : List UInt8) (writer : BufferedWriter δ) : Bool × BufferedWriter δ :=
  let (room, writer) := writer.makeRoom bytes
  if !room then (false, writer)
  else if capacity ≤ bytes.length then
    let (left, device) := ByteSink.offer bytes writer.device
    (left.isEmpty, { writer with device := device })
  else (true, { writer with buffer := writer.buffer ++ bytes })

/-- Writes portions in order, up to the first that is not taken. -/
def putAll : List (List UInt8) → BufferedWriter δ → Bool × BufferedWriter δ
  | [], writer => (true, writer)
  | bytes :: rest, writer =>
    match writer.put bytes with
    | (true, writer) => putAll rest writer
    | (false, writer) => (false, writer)

end BufferedWriter

end CallTrace
