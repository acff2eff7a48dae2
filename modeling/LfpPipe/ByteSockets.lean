import LfpPipe.ChunkedReads

/-!
# Sockets as pairs of streams

One end of a connection has bytes that can still be read and bytes that
were written to it. Looking at the next bytes consumes nothing, filling a
buffered reader moves them into its buffer, and a bidirectional copy
forwards whatever each side has left to read.
-/

namespace LfpPipe.ByteSockets

open Stream' ChunkedReads

variable {α : Type*}

/-- One end of a connection. -/
structure Socket (α : Type*) where
  /-- What can still be read from it, to its end. -/
  unread : Seq α
  /-- Everything written to it, in order. -/
  written : Seq α

/-- A connection on which nothing was written yet. -/
def Socket.fresh (unread : Seq α) : Socket α := ⟨unread, Seq.nil⟩

/-- Write a buffer completely. -/
def Socket.writeAll (socket : Socket α) (bytes : List α) : Socket α :=
  { socket with written := Seq.append socket.written (Seq.ofList bytes) }

/-- The next bytes, at most as many as asked for; nothing is consumed. -/
def Socket.peek (socket : Socket α) (delivered size : ℕ) : List α :=
  readChunk delivered size socket.unread

/-- Copy in both directions until both ends are exhausted. -/
def forward (left right : Socket α) : Socket α × Socket α :=
  (⟨Seq.nil, Seq.append left.written right.unread⟩,
    ⟨Seq.nil, Seq.append right.written left.unread⟩)

/-- A socket behind a read buffer; writes go through. -/
structure BufReader (α : Type*) where
  /-- Bytes taken from the socket and not yet consumed. -/
  buffer : List α
  /-- The socket. -/
  inner : Socket α

/-- Nothing is buffered at first. -/
def BufReader.new (inner : Socket α) : BufReader α := ⟨[], inner⟩

/-- What a reader of the buffered socket sees: the buffer, then the rest. -/
def BufReader.socket (reader : BufReader α) : Socket α :=
  ⟨Seq.append (Seq.ofList reader.buffer) reader.inner.unread, reader.inner.written⟩

/-- Fill an empty buffer by one read; the answer is the buffer, which is not
consumed. -/
def BufReader.fillBuf (reader : BufReader α) (delivered capacity : ℕ) :
    List α × BufReader α :=
  if reader.buffer.isEmpty then
    let chunk := readChunk delivered capacity reader.inner.unread
    (chunk, ⟨chunk, { reader.inner with unread := reader.inner.unread.drop chunk.length }⟩)
  else (reader.buffer, reader)

/-- A new reader hides nothing. -/
@[simp] theorem BufReader.socket_new (inner : Socket α) : (BufReader.new inner).socket = inner := by
  rw [BufReader.socket, BufReader.new, Seq.ofList_nil, Seq.nil_append]

/-- Filling the buffer changes nothing that is read later. -/
theorem BufReader.socket_fillBuf (reader : BufReader α) (delivered capacity : ℕ) :
    (reader.fillBuf delivered capacity).2.socket = reader.socket := by
  rw [BufReader.fillBuf]
  split
  · next hempty =>
    have hnil : reader.buffer = [] := List.isEmpty_iff.mp hempty
    have hchunk := append_take_drop reader.inner.unread
      (readChunk delivered capacity reader.inner.unread).length
    have htake : reader.inner.unread.take (readChunk delivered capacity
        reader.inner.unread).length = readChunk delivered capacity reader.inner.unread :=
      take_length_take _ _
    rw [htake] at hchunk
    rw [BufReader.socket, BufReader.socket, hnil, Seq.ofList_nil, Seq.nil_append]
    dsimp only
    rw [hchunk]
  · rfl

/-- Forwarding a replayed beginning and the rest writes the whole stream. -/
theorem forward_replay {left right : Socket α} {preface : List α} {stream : Seq α}
    (hstream : Seq.append (Seq.ofList preface) left.unread = stream) :
    forward left (right.writeAll preface) =
      (⟨Seq.nil, Seq.append left.written right.unread⟩,
        ⟨Seq.nil, Seq.append right.written stream⟩) := by
  rw [forward, Socket.writeAll, Seq.append_assoc, hstream]

end LfpPipe.ByteSockets
