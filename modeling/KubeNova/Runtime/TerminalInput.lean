import KubeNova.Foundation.Channel
import KubeNova.Foundation.Machine

/-!
# Input of a terminal

The runtime gateway hands what the client types on to the exec stream.  `PushInput` and `PushSize`
queue it without waiting, `Read` and `Next` take it out, and what a short `Read` leaves of a chunk
stays in a buffer.
-/

namespace KubeNova.Runtime

open KubeNova.Foundation

structure TerminalSize where
  width : UInt16
  height : UInt16
  deriving Repr, DecidableEq

structure TerminalClientEnvelope where
  type : String
  input : List UInt8
  cols : UInt16
  rows : UInt16
  deriving Repr, DecidableEq

structure SystemFrame where
  state : String
  code : String
  content : String
  deriving Repr, DecidableEq

inductive MessageType where
  | text
  | binary
  | other
  deriving Repr, DecidableEq

/-- The encodings of the white space `bytes.TrimSpace` strips. -/
def spaces : List (List UInt8) :=
  [[9], [10], [11], [12], [13], [32], [0xC2, 0x85], [0xC2, 0xA0], [0xE1, 0x9A, 0x80]] ++
    (List.range 11).map (fun i => [0xE2, 0x80, 0x80 + UInt8.ofNat i]) ++
    [[0xE2, 0x80, 0xA8], [0xE2, 0x80, 0xA9], [0xE2, 0x80, 0xAF], [0xE2, 0x81, 0x9F],
      [0xE3, 0x80, 0x80]]

def stripAll (sequences : List (List UInt8)) : Nat → List UInt8 → List UInt8
  | 0, bytes => bytes
  | fuel + 1, bytes =>
      match sequences.find? (·.isPrefixOf bytes) with
      | some found => stripAll sequences fuel (bytes.drop found.length)
      | none => bytes

def trimSpace (bytes : List UInt8) : List UInt8 :=
  let rest := stripAll spaces bytes.length bytes
  (stripAll (spaces.map List.reverse) rest.length rest.reverse).reverse

def normalizeTerminalInput (input : List UInt8) : List UInt8 :=
  if input = [] then input
  else if input.getLast? = some 10 ∨ input.getLast? = some 13 then input
  else input ++ [10]

structure TerminalWSReader where
  buffer : List UInt8
  inputCh : Channel (List UInt8) 64
  sizeCh : Channel TerminalSize 8
  closed : Bool
  deriving Repr, DecidableEq

def newTerminalWSReader : TerminalWSReader := ⟨[], .empty, .empty, false⟩

namespace TerminalWSReader

variable (r : TerminalWSReader)

/-- A `select` takes any case that is ready: `done` says whether it takes that of `doneCh`. -/
def pushInput (done : Bool) (input : List UInt8) : TerminalWSReader :=
  if input = [] then r
  else if r.closed && (done || r.inputCh.isFull) then r
  else { r with inputCh := r.inputCh.trySend input }

def pushSize (done : Bool) (cols rows : UInt16) : TerminalWSReader :=
  if r.closed && (done || r.sizeCh.isFull) then r
  else { r with sizeCh := r.sizeCh.trySend ⟨cols, rows⟩ }

/-- `Read` with a buffer of the given size: the bytes it returns, or `none` for the end of the
stream.  A call that has to wait is no step. -/
def read (size : Nat) (done : Bool) : Option (Option (List UInt8) × TerminalWSReader) :=
  if r.buffer ≠ [] then some (some (r.buffer.take size), { r with buffer := r.buffer.drop size })
  else if r.closed && (done || r.inputCh.items.isEmpty) then some (none, r)
  else r.inputCh.receive.map fun received =>
    (some (received.1.take size),
      { r with buffer := received.1.drop size, inputCh := received.2 })

def next (done : Bool) : Option (Option TerminalSize × TerminalWSReader) :=
  if r.closed && (done || r.sizeCh.items.isEmpty) then some (none, r)
  else r.sizeCh.receive.map fun received => (some received.1, { r with sizeCh := received.2 })

def close : TerminalWSReader := { r with closed := true }

end TerminalWSReader

/-- What `handleTerminalEnvelope` makes of a message. -/
structure EnvelopeOutcome where
  handled : Bool
  error : Option String
  frames : List SystemFrame
  reader : TerminalWSReader
  deriving Repr, DecidableEq

section

variable (unmarshal : List UInt8 → Option TerminalClientEnvelope)

def handleTerminalEnvelope (done : Bool) (payload : List UInt8) (reader : TerminalWSReader) :
    EnvelopeOutcome :=
  let trimmed := trimSpace payload
  if trimmed.head? ≠ some 0x7B then ⟨false, none, [], reader⟩
  else match unmarshal trimmed with
    | none => ⟨true, some "terminal control message is invalid json", [], reader⟩
    | some envelope =>
        if envelope.type = "input" then
          if envelope.input = [] then ⟨true, some "input payload is empty", [], reader⟩
          else ⟨true, none, [], reader.pushInput done envelope.input⟩
        else if envelope.type = "resize" then
          if envelope.cols = 0 ∨ envelope.rows = 0 then
            ⟨true, some "resize payload requires positive cols and rows", [], reader⟩
          else ⟨true, none, [], reader.pushSize done envelope.cols envelope.rows⟩
        else if envelope.type = "ping" then ⟨true, none, [⟨"keepalive", "", "pong"⟩], reader⟩
        else if envelope.type = "" then ⟨false, none, [], reader⟩
        else ⟨true, some ("unsupported terminal message type: " ++ envelope.type), [], reader⟩

/-- One round of `pumpTerminalClientMessages`. -/
def pumpMessage (done : Bool) (messageType : MessageType) (payload : List UInt8)
    (reader : TerminalWSReader) : TerminalWSReader × List SystemFrame :=
  if messageType = .other then (reader, [])
  else
    let outcome := handleTerminalEnvelope unmarshal done payload reader
    if outcome.handled then
      (outcome.reader, outcome.frames ++ outcome.error.toList.map fun message =>
        ⟨"error", "RUNTIME_BAD_REQUEST", message⟩)
    else (outcome.reader.pushInput done (normalizeTerminalInput payload), outcome.frames)

end

end KubeNova.Runtime
