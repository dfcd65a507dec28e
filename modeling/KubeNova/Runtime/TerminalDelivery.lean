import KubeNova.Runtime.TerminalInput

/-!
# Delivery of terminal input

Messages of the client, `Read` and `Next` calls of the exec stream and `Close` come in any order.
While no message finds its queue full, what `Read` returns is what the client typed:
`delivered_of_run`.  A message that finds it full is dropped without an error: `paste_loses_input`.
-/

namespace KubeNova.Runtime

open KubeNova.Foundation

inductive TerminalRequest where
  | input (bytes : List UInt8)
  | resize (size : TerminalSize)
  | nothing
  deriving Repr, DecidableEq

inductive TerminalAction where
  | message (done : Bool) (messageType : MessageType) (payload : List UInt8)
  | read (size : Nat) (done : Bool)
  | next (done : Bool)
  | close
  deriving Repr, DecidableEq

structure TerminalSession where
  reader : TerminalWSReader
  frames : List SystemFrame
  accepted : List UInt8
  returned : List UInt8
  sent : List TerminalSize
  sizes : List TerminalSize
  deriving Repr, DecidableEq

namespace TerminalSession

def start : TerminalSession := ⟨newTerminalWSReader, [], [], [], [], []⟩

def asked (s : TerminalSession) : TerminalRequest → TerminalSession
  | .input bytes => { s with accepted := s.accepted ++ bytes }
  | .resize size => { s with sent := s.sent ++ [size] }
  | .nothing => s

end TerminalSession

section

variable (unmarshal : List UInt8 → Option TerminalClientEnvelope)

def terminalRequest (messageType : MessageType) (payload : List UInt8) : TerminalRequest :=
  if messageType = .other then .nothing
  else if (trimSpace payload).head? ≠ some 0x7B then .input (normalizeTerminalInput payload)
  else match unmarshal (trimSpace payload) with
    | none => .nothing
    | some envelope =>
        if envelope.type = "input" then .input envelope.input
        else if envelope.type = "resize" then
          if envelope.cols = 0 ∨ envelope.rows = 0 then .nothing
          else .resize ⟨envelope.cols, envelope.rows⟩
        else if envelope.type = "" then .input (normalizeTerminalInput payload)
        else .nothing

def terminal : Machine TerminalAction TerminalSession where
  step
    | .message done messageType payload, s =>
        let pumped := pumpMessage unmarshal done messageType payload s.reader
        some { s.asked (terminalRequest unmarshal messageType payload) with
          reader := pumped.1, frames := s.frames ++ pumped.2 }
    | .read size done, s => (s.reader.read size done).map fun result =>
        { s with reader := result.2, returned := s.returned ++ result.1.getD [] }
    | .next done, s => (s.reader.next done).map fun result =>
        { s with reader := result.2, sizes := s.sizes ++ result.1.toList }
    | .close, s => some { s with reader := s.reader.close }

def FindsRoom (s : TerminalSession) : TerminalAction → Prop
  | .message _ messageType payload =>
      match terminalRequest unmarshal messageType payload with
      | .input bytes => bytes = [] ∨ s.reader.inputCh.isFull = false
      | .resize _ => s.reader.sizeCh.isFull = false
      | .nothing => True
  | _ => True

end

/-- What was asked for is what was returned and what is waiting. -/
structure Intact (s : TerminalSession) : Prop where
  input : s.returned ++ (s.reader.buffer ++ s.reader.inputCh.items.flatten) = s.accepted
  sizes : s.sizes ++ s.reader.sizeCh.items = s.sent

/-! ## One step -/

section

variable {unmarshal : List UInt8 → Option TerminalClientEnvelope} {s s' : TerminalSession}

theorem pumpMessage_reader (unmarshal : List UInt8 → Option TerminalClientEnvelope) (done : Bool)
    (messageType : MessageType) (payload : List UInt8) (reader : TerminalWSReader) :
    (pumpMessage unmarshal done messageType payload reader).1 =
      match terminalRequest unmarshal messageType payload with
      | .input bytes => reader.pushInput done bytes
      | .resize size => reader.pushSize done size.width size.height
      | .nothing => reader := by
  by_cases hother : messageType = .other
  · simp [pumpMessage, terminalRequest, hother]
  by_cases htext : (trimSpace payload).head? ≠ some 0x7B
  · simp [pumpMessage, terminalRequest, handleTerminalEnvelope, hother, htext]
  cases henvelope : unmarshal (trimSpace payload) with
  | none => simp [pumpMessage, terminalRequest, handleTerminalEnvelope, hother, htext, henvelope]
  | some envelope =>
      simp only [pumpMessage, terminalRequest, handleTerminalEnvelope, hother, htext, henvelope,
        if_false]
      split_ifs with hinput hempty hresize hzero hping huntyped <;>
        first
          | rfl
          | simp_all [TerminalWSReader.pushInput]

theorem pushInput_items {r : TerminalWSReader} (done : Bool) {input : List UInt8}
    (hopen : r.closed = false) (hroom : input = [] ∨ r.inputCh.isFull = false) :
    (r.pushInput done input).inputCh.items.flatten = r.inputCh.items.flatten ++ input ∧
      (r.pushInput done input).buffer = r.buffer ∧
      (r.pushInput done input).sizeCh = r.sizeCh := by
  unfold TerminalWSReader.pushInput
  by_cases hempty : input = []
  · simp [hempty]
  · have hroom := hroom.resolve_left hempty
    simp [hempty, hopen, Channel.items_trySend hroom]

theorem pushSize_items {r : TerminalWSReader} (done : Bool) (cols rows : UInt16)
    (hopen : r.closed = false) (hroom : r.sizeCh.isFull = false) :
    (r.pushSize done cols rows).sizeCh.items = r.sizeCh.items ++ [⟨cols, rows⟩] ∧
      (r.pushSize done cols rows).buffer = r.buffer ∧
      (r.pushSize done cols rows).inputCh = r.inputCh := by
  unfold TerminalWSReader.pushSize
  simp [hopen, Channel.items_trySend hroom]

theorem pushInput_closed (r : TerminalWSReader) (done : Bool) (input : List UInt8) :
    (r.pushInput done input).closed = r.closed := by
  unfold TerminalWSReader.pushInput
  split_ifs <;> rfl

theorem pushSize_closed (r : TerminalWSReader) (done : Bool) (cols rows : UInt16) :
    (r.pushSize done cols rows).closed = r.closed := by
  unfold TerminalWSReader.pushSize
  split_ifs <;> rfl

theorem read_closed {r r' : TerminalWSReader} {size : Nat} {done : Bool}
    {result : Option (List UInt8)} (h : r.read size done = some (result, r')) :
    r'.closed = r.closed := by
  unfold TerminalWSReader.read at h
  split_ifs at h
  · cases h
    rfl
  · cases h
    rfl
  · obtain ⟨received, -, heq⟩ := Option.map_eq_some_iff.mp h
    cases heq
    rfl

theorem next_closed {r r' : TerminalWSReader} {done : Bool} {result : Option TerminalSize}
    (h : r.next done = some (result, r')) : r'.closed = r.closed := by
  unfold TerminalWSReader.next at h
  split_ifs at h
  · cases h
    rfl
  · obtain ⟨received, -, heq⟩ := Option.map_eq_some_iff.mp h
    cases heq
    rfl

theorem read_items {r r' : TerminalWSReader} {size : Nat} {done : Bool}
    {result : Option (List UInt8)} (hopen : r.closed = false)
    (h : r.read size done = some (result, r')) :
    result.getD [] ++ (r'.buffer ++ r'.inputCh.items.flatten) =
        r.buffer ++ r.inputCh.items.flatten ∧ r'.sizeCh = r.sizeCh := by
  unfold TerminalWSReader.read at h
  by_cases hbuffer : r.buffer = []
  · rw [if_neg (not_not.mpr hbuffer), hopen, Bool.false_and, if_neg Bool.false_ne_true] at h
    obtain ⟨⟨chunk, rest⟩, hreceive, heq⟩ := Option.map_eq_some_iff.mp h
    cases heq
    have hitems := Channel.items_of_receive hreceive
    refine ⟨?_, rfl⟩
    simp only [Option.getD_some, hbuffer, hitems, List.flatten_cons, List.nil_append]
    rw [← List.append_assoc, List.take_append_drop]
  · rw [if_pos hbuffer] at h
    cases h
    refine ⟨?_, rfl⟩
    simp only [Option.getD_some]
    rw [← List.append_assoc, List.take_append_drop]

theorem next_items {r r' : TerminalWSReader} {done : Bool} {result : Option TerminalSize}
    (hopen : r.closed = false) (h : r.next done = some (result, r')) :
    result.toList ++ r'.sizeCh.items = r.sizeCh.items ∧ r'.buffer = r.buffer ∧
      r'.inputCh = r.inputCh := by
  unfold TerminalWSReader.next at h
  rw [hopen, Bool.false_and, if_neg Bool.false_ne_true] at h
  obtain ⟨⟨size, rest⟩, hreceive, heq⟩ := Option.map_eq_some_iff.mp h
  cases heq
  exact ⟨(Channel.items_of_receive hreceive).symm, rfl, rfl⟩

theorem intact_step {action : TerminalAction} (hroom : FindsRoom unmarshal s action)
    (h : (terminal unmarshal).step action s = some s')
    (hintact : s.reader.closed = false → Intact s) : s'.reader.closed = false → Intact s' := by
  intro hopen
  cases action with
  | message done messageType payload =>
      have hreader := pumpMessage_reader unmarshal done messageType payload s.reader
      simp only [terminal, Option.some.injEq] at h
      subst h
      simp only at hopen ⊢
      unfold FindsRoom at hroom
      rw [hreader] at hopen
      cases hrequest : terminalRequest unmarshal messageType payload with
      | input bytes =>
          simp only [hrequest] at hroom hopen hreader
          rw [pushInput_closed] at hopen
          obtain ⟨hitems, hbuffer, hsizes⟩ := pushInput_items done hopen hroom
          have hbefore := hintact hopen
          constructor
          · simp only [TerminalSession.asked, hreader, hitems, hbuffer, ← hbefore.input,
              List.append_assoc]
          · simp only [TerminalSession.asked, hreader, hsizes, hbefore.sizes]
      | resize size =>
          simp only [hrequest] at hroom hopen hreader
          rw [pushSize_closed] at hopen
          obtain ⟨hitems, hbuffer, hinput⟩ := pushSize_items done size.width size.height
            hopen hroom
          have hbefore := hintact hopen
          constructor
          · simp only [TerminalSession.asked, hreader, hinput, hbuffer, hbefore.input]
          · simp only [TerminalSession.asked, hreader, hitems, ← hbefore.sizes, List.append_assoc]
      | nothing =>
          simp only [hrequest] at hopen hreader
          have hbefore := hintact hopen
          constructor
          · simp only [TerminalSession.asked, hreader, hbefore.input]
          · simp only [TerminalSession.asked, hreader, hbefore.sizes]
  | read size done =>
      obtain ⟨⟨result, r⟩, hread, rfl⟩ := Option.map_eq_some_iff.mp h
      have hopen : s.reader.closed = false := (read_closed hread).symm.trans hopen
      have hbefore := hintact hopen
      obtain ⟨hitems, hsizes⟩ := read_items hopen hread
      constructor
      · simp only [List.append_assoc, hitems, hbefore.input]
      · simp only [hsizes, hbefore.sizes]
  | next done =>
      obtain ⟨⟨result, r⟩, hnext, rfl⟩ := Option.map_eq_some_iff.mp h
      have hopen : s.reader.closed = false := (next_closed hnext).symm.trans hopen
      have hbefore := hintact hopen
      obtain ⟨hitems, hbuffer, hinput⟩ := next_items hopen hnext
      constructor
      · simp only [hbuffer, hinput, hbefore.input]
      · simp only [List.append_assoc, hitems, hbefore.sizes]
  | close =>
      cases h
      cases hopen

end

/-- As long as the reader is open and no message has found its queue full, what was returned is the
beginning of what was typed, and all of it once nothing waits; and the last size that was returned
is the last that was sent once none waits. -/
theorem delivered_of_run (unmarshal : List UInt8 → Option TerminalClientEnvelope)
    (s : TerminalSession) (hrun : (terminal unmarshal).Run (FindsRoom unmarshal) .start s)
    (hopen : s.reader.closed = false) :
    s.returned ++ (s.reader.buffer ++ s.reader.inputCh.items.flatten) = s.accepted ∧
      (s.reader.sizeCh.items = [] → s.sizes.getLast? = s.sent.getLast?) := by
  have hintact : s.reader.closed = false → Intact s :=
    hrun.invariant (fun s action s' hroom hstep h => intact_step hroom hstep h) fun _ => ⟨rfl, rfl⟩
  refine ⟨(hintact hopen).input, fun hdrained => ?_⟩
  rw [← (hintact hopen).sizes, hdrained, List.append_nil]

def halfRead : TerminalSession :=
  ⟨⟨[10], .empty, .empty, false⟩, [], [97, 10], [97], [], []⟩

theorem halfRead_delivered :
    halfRead.returned ++ (halfRead.reader.buffer ++ halfRead.reader.inputCh.items.flatten) =
      halfRead.accepted := by
  have hrequest : terminalRequest (fun _ => none) .text [97] = .input [97, 10] := by
    decide +kernel
  have hroom : FindsRoom (fun _ => none) .start (.message false .text [97]) := by
    rw [FindsRoom, hrequest]
    exact .inr rfl
  have hmessage : (terminal fun _ => none).step (.message false .text [97]) .start =
      some ⟨⟨[], ⟨[[97, 10]], by decide⟩, .empty, false⟩, [], [97, 10], [], [], []⟩ := by
    decide +kernel
  have hread : (terminal fun _ => none).step (.read 1 false)
      ⟨⟨[], ⟨[[97, 10]], by decide⟩, .empty, false⟩, [], [97, 10], [], [], []⟩ =
        some halfRead := by decide +kernel
  exact (delivered_of_run (fun _ => none) halfRead (.head ⟨_, hroom, hmessage⟩
    (.single ⟨.read 1 false, trivial, hread⟩)) rfl).1

def Short (s : TerminalSession) : Prop :=
  (s.returned ++ (s.reader.buffer ++ s.reader.inputCh.items.flatten)).length < s.accepted.length

section

variable {unmarshal : List UInt8 → Option TerminalClientEnvelope} {s s' : TerminalSession}

theorem pushInput_length (r : TerminalWSReader) (done : Bool) (input : List UInt8) :
    (r.pushInput done input).inputCh.items.flatten.length ≤
        r.inputCh.items.flatten.length + input.length ∧
      (r.pushInput done input).buffer = r.buffer := by
  unfold TerminalWSReader.pushInput
  split_ifs
  · exact ⟨Nat.le_add_right _ _, rfl⟩
  · exact ⟨Nat.le_add_right _ _, rfl⟩
  · refine ⟨?_, rfl⟩
    cases hfull : r.inputCh.isFull with
    | true => rw [Channel.trySend_of_isFull hfull]; exact Nat.le_add_right _ _
    | false => rw [Channel.items_trySend hfull]; simp

theorem pushSize_input (r : TerminalWSReader) (done : Bool) (cols rows : UInt16) :
    (r.pushSize done cols rows).inputCh = r.inputCh ∧
      (r.pushSize done cols rows).buffer = r.buffer := by
  unfold TerminalWSReader.pushSize
  split_ifs <;> exact ⟨rfl, rfl⟩

theorem short_of_full {done : Bool} {messageType : MessageType} {payload bytes : List UInt8}
    (hrequest : terminalRequest unmarshal messageType payload = .input bytes) (hbytes : bytes ≠ [])
    (hfull : s.reader.inputCh.isFull = true) (hintact : Intact s)
    (h : (terminal unmarshal).step (.message done messageType payload) s = some s') : Short s' := by
  have hreader := pumpMessage_reader unmarshal done messageType payload s.reader
  simp only [hrequest] at hreader
  have hsame : s.reader.pushInput done bytes = s.reader := by
    unfold TerminalWSReader.pushInput
    rw [Channel.trySend_of_isFull hfull]
    split_ifs <;> rfl
  simp only [terminal, Option.some.injEq] at h
  subst h
  have hpos : 0 < bytes.length := List.length_pos_of_ne_nil hbytes
  simp only [Short, TerminalSession.asked, hrequest, hreader, hsame, hintact.input,
    List.length_append]
  omega

theorem short_step {action : TerminalAction}
    (h : (terminal unmarshal).step action s = some s') (hshort : s.reader.closed = false → Short s) :
    s'.reader.closed = false → Short s' := by
  intro hopen
  cases action with
  | message done messageType payload =>
      have hreader := pumpMessage_reader unmarshal done messageType payload s.reader
      simp only [terminal, Option.some.injEq] at h
      subst h
      simp only at hopen
      rw [hreader] at hopen
      cases hrequest : terminalRequest unmarshal messageType payload with
      | input bytes =>
          simp only [hrequest, pushInput_closed] at hopen hreader
          have hbefore := hshort hopen
          obtain ⟨hlength, hbuffer⟩ := pushInput_length s.reader done bytes
          simp only [Short, TerminalSession.asked, hreader, hbuffer, List.length_append] at hbefore ⊢
          omega
      | resize size =>
          simp only [hrequest, pushSize_closed] at hopen hreader
          obtain ⟨hinput, hbuffer⟩ := pushSize_input s.reader done size.width size.height
          simpa only [Short, TerminalSession.asked, hreader, hinput, hbuffer] using hshort hopen
      | nothing =>
          simp only [hrequest] at hopen hreader
          simpa only [Short, TerminalSession.asked, hreader] using hshort hopen
  | read size done =>
      obtain ⟨⟨result, r⟩, hread, rfl⟩ := Option.map_eq_some_iff.mp h
      have hopen : s.reader.closed = false := (read_closed hread).symm.trans hopen
      obtain ⟨hitems, -⟩ := read_items hopen hread
      have hbefore := hshort hopen
      simp only [Short, List.append_assoc, hitems] at hbefore ⊢
      exact hbefore
  | next done =>
      obtain ⟨⟨result, r⟩, hnext, rfl⟩ := Option.map_eq_some_iff.mp h
      have hopen : s.reader.closed = false := (next_closed hnext).symm.trans hopen
      obtain ⟨-, hbuffer, hinput⟩ := next_items hopen hnext
      simpa only [Short, hbuffer, hinput] using hshort hopen
  | close =>
      cases h
      cases hopen

end

def sixtyFourLines : TerminalSession :=
  ⟨⟨[], ⟨List.replicate 64 [97, 10], by decide⟩, .empty, false⟩, [],
    (List.replicate 64 [97, 10]).flatten, [], [], []⟩

/-- Sixty-five lines are typed before the shell reads; the last one never reaches it. -/
theorem paste_loses_input :
    ∃ s, (terminal fun _ => none).play (List.replicate 65 (.message false .text [97, 10]) ++
        List.replicate 64 (.read 2 false)) .start = some s ∧ s.reader.closed = false ∧
      s.reader.buffer = [] ∧ s.reader.inputCh.items = [] ∧ s.returned ≠ s.accepted := by
  have hplay : ((terminal fun _ => none).play (List.replicate 65 (.message false .text [97, 10]) ++
      List.replicate 64 (.read 2 false)) .start).map (fun s => (s.reader.closed, s.reader.buffer,
        s.reader.inputCh.items, decide (s.returned = s.accepted))) =
          some (false, [], [], false) := by
    decide +kernel
  obtain ⟨s, hs, hfinal⟩ := Option.map_eq_some_iff.mp hplay
  simp only [Prod.mk.injEq, decide_eq_false_iff_not] at hfinal
  exact ⟨s, hs, hfinal⟩

end KubeNova.Runtime
