import KubeNova.Foundation.Utf8

/-!
# Output of a terminal

The runtime gateway sends each `Write` of the exec stream as a frame of its own, with the bytes in
base64 so that they lose nothing, and the browser decodes each frame by itself.  `output_eq_iff`
says which writes show the text that was written.
-/

namespace KubeNova.Runtime

open KubeNova.Foundation KubeNova.Foundation.Utf8

/-- A frame as the browser finds it: `contentB64` is what base64 stands for. -/
structure ParsedFrame where
  type : String
  content : Option String
  contentB64 : Option (List UInt8)
  state : Option String
  code : Option String
  deriving Repr, DecidableEq

inductive MessageKind where
  | stdout
  | stderr
  | system
  | control
  deriving Repr, DecidableEq

inductive TerminalControl where
  | clear
  deriving Repr, DecidableEq

structure TerminalParsedMessage where
  kind : MessageKind
  text : String
  state : Option String
  code : Option String
  control : Option TerminalControl
  deriving Repr, DecidableEq

inductive TerminalPayload where
  | buffer (bytes : List UInt8)
  | frame (frame : ParsedFrame)
  | text (text : String)
  deriving Repr, DecidableEq

def jsonRunes : Nat → List UInt8 → List Char
  | 0, _ => []
  | _, [] => []
  | fuel + 1, b :: rest =>
      match (b :: rest).toByteArray.utf8DecodeChar? 0 with
      | some c => c :: jsonRunes fuel ((b :: rest).drop c.utf8Size)
      | none => replacement :: jsonRunes fuel rest

def jsonString (bytes : List UInt8) : String := String.ofList (jsonRunes bytes.length bytes)

/-- `Write`: the frame that is sent, and how many bytes count as written. -/
def streamWrite (type : String) (p : List UInt8) : Option ParsedFrame × Nat :=
  if p = [] then (none, 0)
  else (some ⟨type, some (jsonString p), some p, none, none⟩, p.length)

def stdout (p : List UInt8) : Option ParsedFrame × Nat := streamWrite "stdout" p

def stderr (p : List UInt8) : Option ParsedFrame × Nat := streamWrite "stderr" p

def resetSequence : String := String.ofList [Char.ofNat 0x1B, 'c']

def decodeBase64Text : Option (List UInt8) → String
  | none => ""
  | some bytes => String.ofList (textDecode bytes)

def parseFrame (frame : ParsedFrame) : TerminalParsedMessage :=
  let text :=
    if frame.state = some "keepalive" then ""
    else if decodeBase64Text frame.contentB64 ≠ "" then decodeBase64Text frame.contentB64
    else frame.content.getD ""
  if text = resetSequence then ⟨.control, "", frame.state, frame.code, some .clear⟩
  else
    let kind := if frame.type = "stderr" then .stderr
      else if frame.type = "stdout" then .stdout else .system
    ⟨kind, text, frame.state, frame.code, none⟩

def parseTerminalMessagePayload : TerminalPayload → TerminalParsedMessage
  | .buffer bytes =>
      let text := String.ofList (textDecode bytes)
      if text = resetSequence then ⟨.control, "", none, none, some .clear⟩
      else ⟨.stdout, text, none, none, none⟩
  | .frame frame => parseFrame frame
  | .text text =>
      if text = resetSequence then ⟨.control, "", none, none, some .clear⟩
      else ⟨.stdout, text, none, none, none⟩

def TerminalParsedMessage.shown (message : TerminalParsedMessage) : List Char :=
  if message.control = some .clear then resetSequence.toList else message.text.toList

def writeShown (p : List UInt8) : List Char :=
  (stdout p).1.toList.flatMap fun frame => (parseTerminalMessagePayload (.frame frame)).shown

def terminalOutput (writes : List (List UInt8)) : List Char := writes.flatMap writeShown

def KeepsText (p : List UInt8) : Prop :=
  ∃ cs, p = encode cs ∧ ∀ rest, cs = byteOrderMark :: rest → rest = []

theorem shown_parseFrame (frame : ParsedFrame) (hstate : frame.state = none) :
    (parseFrame frame).shown =
      if decodeBase64Text frame.contentB64 ≠ "" then (decodeBase64Text frame.contentB64).toList
      else (frame.content.getD "").toList := by
  unfold parseFrame TerminalParsedMessage.shown
  have hkeepalive : frame.state ≠ some "keepalive" := by rw [hstate]; simp
  simp only [if_neg hkeepalive]
  split_ifs <;> simp_all

theorem writeShown_of_ne_nil {p : List UInt8} (hp : p ≠ []) :
    writeShown p = if textDecode p ≠ [] then textDecode p else jsonRunes p.length p := by
  have hframe : (stdout p).1 = some ⟨"stdout", some (jsonString p), some p, none, none⟩ := by
    rw [stdout, streamWrite, if_neg hp]
  have hempty : String.ofList (textDecode p) ≠ "" ↔ textDecode p ≠ [] := by
    rw [ne_eq, ne_eq, ← String.toList_inj, String.toList_ofList]
    rfl
  rw [writeShown, hframe]
  simp only [Option.toList_some, List.flatMap_cons, List.flatMap_nil, List.append_nil,
    parseTerminalMessagePayload]
  rw [shown_parseFrame _ rfl]
  simp only [decodeBase64Text, hempty, String.toList_ofList, Option.getD_some, jsonString]

theorem writeShown_byteOrderMark : writeShown (encode [byteOrderMark]) = [byteOrderMark] := by
  decide +kernel

def cutShown (part : List UInt8) : List Char := if part = [] then [] else [replacement]

/-- A piece of a text: bytes left over from a character, whole characters, and the beginning of
another one. -/
structure Piece (p left : List UInt8) (cs : List Char) (part : List UInt8) : Prop where
  bytes : p = left ++ (encode cs ++ part)
  left : ∀ b ∈ left, IsContinuation b
  part : decode part = cutShown part

def pieceShown (left : List UInt8) (cs : List Char) (part : List UInt8) : List Char :=
  List.replicate left.length replacement ++ (cs ++ cutShown part)

theorem Piece.decode {p left part : List UInt8} {cs : List Char} (h : Piece p left cs part) :
    Utf8.decode p = pieceShown left cs part := by
  rw [h.bytes, decode_continuations h.left, decode_encode_append, h.part, pieceShown]

theorem writeShown_of_decode {p : List UInt8} {c : Char} {cs : List Char}
    (hdecode : decode p = c :: cs) (hne : c ≠ byteOrderMark) : writeShown p = c :: cs := by
  have hp : p ≠ [] := by
    rintro rfl
    cases hdecode
  have htext : textDecode p = c :: cs := by
    rw [textDecode, hdecode]
    exact if_neg hne
  rw [writeShown_of_ne_nil hp, htext, if_pos (List.cons_ne_nil c cs)]

theorem Piece.shown {p left part : List UInt8} {cs : List Char} (h : Piece p left cs part)
    (hp : p ≠ []) :
    (writeShown p = pieceShown left cs part ∧
        (left = [] → ∀ rest, cs = byteOrderMark :: rest → rest = [])) ∨
      left = [] ∧ ∃ rest, cs = byteOrderMark :: rest ∧ rest ++ cutShown part ≠ [] ∧
        writeShown p = rest ++ cutShown part := by
  have hdecode := h.decode
  cases hleft : left with
  | cons b bs =>
      subst hleft
      exact .inl ⟨writeShown_of_decode hdecode (by decide), fun hnil => by cases hnil⟩
  | nil =>
      subst hleft
      cases cs with
      | nil =>
          have hpart : part ≠ [] := fun hnone => hp (by rw [h.bytes, hnone]; rfl)
          have hcut : cutShown part = [replacement] := if_neg hpart
          rw [pieceShown, hcut] at hdecode
          left
          refine ⟨?_, fun _ rest hcs => by cases hcs⟩
          rw [pieceShown, hcut]
          exact writeShown_of_decode hdecode (by decide)
      | cons c rest =>
          by_cases hbom : c = byteOrderMark
          · subst hbom
            by_cases hempty : rest ++ cutShown part = []
            · -- The whole write is a byte order mark.
              obtain ⟨rfl, hcut⟩ := List.append_eq_nil_iff.mp hempty
              have hpart : part = [] := by
                by_contra hpart
                rw [cutShown, if_neg hpart] at hcut
                cases hcut
              have hp' : p = encode [byteOrderMark] := by
                rw [h.bytes, hpart, List.append_nil]
                rfl
              left
              refine ⟨?_, fun _ rest hcs => (List.cons.inj hcs).2.symm⟩
              rw [hp', writeShown_byteOrderMark, hpart]
              rfl
            · have htext : textDecode p = rest ++ cutShown part := by
                rw [textDecode, hdecode]
                exact if_pos rfl
              exact .inr ⟨rfl, rest, rfl, hempty, by
                rw [writeShown_of_ne_nil hp, htext, if_pos hempty]⟩
          · exact .inl ⟨writeShown_of_decode hdecode hbom,
              fun _ _ hcs => absurd (List.cons.inj hcs).1 hbom⟩

def Altered (output cs : List Char) : Prop :=
  cs.count replacement + output.count byteOrderMark <
    output.count replacement + cs.count byteOrderMark

theorem not_altered_self (cs : List Char) : ¬Altered cs cs := Nat.lt_irrefl _

theorem altered_of_left {n : Nat} (hn : 0 < n) {before output after : List Char}
    (h : output = after ∨ Altered output after) :
    Altered (List.replicate n replacement ++ before ++ output) (before ++ after) := by
  have hne : (replacement == byteOrderMark) = false := by decide
  rcases h with rfl | haltered
  · simp [Altered, List.count_append, List.count_replicate, hne]
    omega
  · simp [Altered, List.count_append, List.count_replicate, hne] at haltered ⊢
    omega

theorem altered_of_cut (n : Nat) {before output after : List Char} (c : Char)
    (h : Altered output after) :
    Altered (List.replicate n replacement ++ before ++ replacement :: output)
      (before ++ c :: after) := by
  have hne : (replacement == byteOrderMark) = false := by decide
  simp only [Altered, List.count_append, List.count_replicate, List.count_cons, hne, beq_self_eq_true,
    if_true, Bool.false_eq_true, if_false] at h ⊢
  split_ifs <;> omega

theorem altered_of_mark {before output after : List Char}
    (h : output = after ∨ Altered output after) :
    Altered (before ++ output) (byteOrderMark :: before ++ after) := by
  have hne : (byteOrderMark == replacement) = false := by decide
  rcases h with rfl | haltered
  · simp [Altered, List.count_append, List.count_cons, hne]
  · simp [Altered, List.count_append, List.count_cons, hne] at haltered ⊢
    omega

theorem kept_or_altered {writes : List (List UInt8)} :
    ∀ {left : List UInt8} {cs : List Char}, (∀ b ∈ left, IsContinuation b) →
      writes.flatten = left ++ encode cs →
      (left = [] ∧ (∀ p ∈ writes, KeepsText p) ∧ terminalOutput writes = cs) ∨
        Altered (terminalOutput writes) cs := by
  induction writes with
  | nil =>
      intro left cs hleft h
      obtain ⟨rfl, hcs⟩ := List.append_eq_nil_iff.mp h.symm
      obtain rfl : [] = cs := encode_injective hcs.symm
      exact .inl ⟨rfl, by simp, rfl⟩
  | cons p writes ih =>
      intro left cs hleft h
      rw [List.flatten_cons] at h
      have houtput : terminalOutput (p :: writes) = writeShown p ++ terminalOutput writes := rfl
      by_cases hempty : p = []
      · -- An empty write sends nothing.
        subst hempty
        rcases ih hleft h with ⟨hnone, hkept, hsame⟩ | haltered
        · exact .inl ⟨hnone, List.forall_mem_cons.mpr ⟨⟨[], rfl, fun _ h => by cases h⟩, hkept⟩,
            hsame⟩
        · exact .inr haltered
      rw [houtput]
      rcases List.append_eq_append_iff.mp h with ⟨left', rfl, hrest⟩ | ⟨p', rfl, hrest⟩
      · -- The write lies within the character that was cut.
        have hpiece : Piece p p [] [] :=
          ⟨(List.append_nil p).symm, fun b hb => hleft b (List.mem_append_left _ hb), rfl⟩
        have hshown : writeShown p = List.replicate p.length replacement := by
          rcases hpiece.shown hempty with ⟨hsame, -⟩ | ⟨hnone, -⟩
          · simpa [pieceShown, cutShown] using hsame
          · exact absurd hnone hempty
        have hnext := (ih (fun b hb => hleft b (List.mem_append_right _ hb)) hrest).imp_left
          fun hkept => hkept.2.2
        have haltered := @altered_of_left p.length (List.length_pos_of_ne_nil hempty) [] _ _ hnext
        rw [List.append_nil] at haltered
        rw [hshown]
        exact .inr haltered
      · cases encode_cut hrest.symm with
        | between before after hcs hfront hback =>
            have hpiece : Piece (left ++ p') left before [] :=
              ⟨by rw [hfront, List.append_nil], hleft, rfl⟩
            have hnext := @ih [] after (by simp) hback
            have hnext' := hnext.imp_left fun hkept => hkept.2.2
            rcases hpiece.shown hempty with ⟨hshown, hmark⟩ | ⟨-, rest, hbefore, -, hshown⟩
            · rw [hshown, pieceShown, cutShown, if_pos rfl, List.append_nil, hcs]
              by_cases hnone : left = []
              · subst hnone
                rcases hnext with ⟨-, hkept, hsame⟩ | haltered
                · refine .inl ⟨rfl, List.forall_mem_cons.mpr ⟨⟨before, hfront, hmark rfl⟩, hkept⟩, ?_⟩
                  rw [hsame]
                  rfl
                · right
                  simpa [Altered, List.count_append, Nat.add_assoc, Nat.add_left_comm] using haltered
              · exact .inr (altered_of_left (List.length_pos_of_ne_nil hnone) hnext')
            · rw [hshown, cutShown, if_pos rfl, List.append_nil, hcs, hbefore]
              exact .inr (altered_of_mark hnext')
        | inside before after c part left' hcs hchar hpart hleft' hfront hback =>
            have hpiece : Piece (left ++ p') left before part :=
              ⟨by rw [hfront], hleft, (decode_part hchar hpart hleft').trans (if_neg hpart).symm⟩
            have hcut : cutShown part = [replacement] := if_neg hpart
            have haltered : Altered (terminalOutput writes) after :=
              (ih (isContinuation_of_mem_left hchar hpart) hback).resolve_left
                fun hkept => hleft' hkept.1
            right
            rcases hpiece.shown hempty with ⟨hshown, -⟩ | ⟨-, rest, hbefore, -, hshown⟩
            · have h := @altered_of_cut left.length before _ _ c haltered
              rw [hshown, pieceShown, hcut, hcs]
              simpa using h
            · have h := @altered_of_mark [] _ _ (.inr (@altered_of_cut 0 rest _ _ c haltered))
              rw [hshown, hcut, hcs, hbefore]
              simpa using h

theorem writeShown_of_keepsText {p : List UInt8} (h : KeepsText p) :
    p = encode (writeShown p) := by
  obtain ⟨cs, rfl, hmark⟩ := h
  by_cases hempty : encode cs = []
  · rw [hempty]
    rfl
  have hpiece : Piece (encode cs) [] cs [] := ⟨by simp, by simp, rfl⟩
  rcases hpiece.shown hempty with ⟨hshown, -⟩ | ⟨-, rest, hcs, hrest, -⟩
  · rw [hshown]
    simp [pieceShown, cutShown]
  · rw [hmark rest hcs] at hrest
    exact absurd rfl hrest

theorem terminalOutput_of_keepsText {writes : List (List UInt8)}
    (h : ∀ p ∈ writes, KeepsText p) : writes.flatten = encode (terminalOutput writes) := by
  induction writes with
  | nil => rfl
  | cons p writes ih =>
      obtain ⟨hp, hrest⟩ := List.forall_mem_cons.mp h
      have houtput : terminalOutput (p :: writes) = writeShown p ++ terminalOutput writes := rfl
      rw [houtput, encode_append, ← writeShown_of_keepsText hp, ← ih hrest, List.flatten_cons]

/-- What is shown is the text just when every write holds whole characters, and none begins with a
byte order mark that is followed by others. -/
theorem output_eq_iff (cs : List Char) (writes : List (List UInt8))
    (h : writes.flatten = encode cs) :
    terminalOutput writes = cs ↔ ∀ p ∈ writes, KeepsText p := by
  constructor
  · intro hsame
    have hwrites : writes.flatten = [] ++ encode cs := h
    rcases kept_or_altered (by simp) hwrites with ⟨-, hkept, -⟩ | haltered
    · exact hkept
    · rw [hsame] at haltered
      exact absurd haltered (not_altered_self cs)
  · intro hkept
    exact encode_injective ((terminalOutput_of_keepsText hkept).symm.trans h)

theorem split_character_is_lost :
    ∃ writes, writes.flatten = encode [Char.ofNat 0xE9] ∧ (∀ p ∈ writes, p ≠ []) ∧
      terminalOutput writes = [replacement, replacement] ∧
      terminalOutput writes ≠ [Char.ofNat 0xE9] :=
  ⟨[[0xC3], [0xA9]], by decide +kernel, by decide, by decide +kernel, by decide +kernel⟩

theorem whole_characters_are_shown :
    terminalOutput [[0xC3, 0xA9], [0x78]] = [Char.ofNat 0xE9, 'x'] := by
  refine (output_eq_iff [Char.ofNat 0xE9, 'x'] [[0xC3, 0xA9], [0x78]] (by decide +kernel)).mpr ?_
  intro p hp
  simp only [List.mem_cons, List.not_mem_nil, or_false] at hp
  rcases hp with rfl | rfl
  · exact ⟨[Char.ofNat 0xE9], by decide +kernel, fun rest h => (List.cons.inj h).2.symm⟩
  · exact ⟨['x'], by decide +kernel, fun rest h => (List.cons.inj h).2.symm⟩

end KubeNova.Runtime
