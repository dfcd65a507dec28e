import KubeNova.Common.Crypto
import KubeNova.Common.Exceptions
import Mathlib.Tactic.Common

/-!
# Time-based one-time codes

`mfa-totp.ts`: base-32 secrets, the six-digit code of a time step and the search
for the step whose code was presented.
-/

namespace KubeNova.Auth

open KubeNova.Common KubeNova.Foundation

def PERIOD : Nat := 30

def DIGITS : Nat := 6

def stepMs : Nat := PERIOD * 1000

/-- The position of an upper-case character in the base-32 alphabet. -/
def base32Index (c : Char) : Option Nat :=
  if 'A' ≤ c ∧ c ≤ 'Z' then some (c.toNat - 65)
  else if '2' ≤ c ∧ c ≤ '7' then some (c.toNat - 24)
  else none

/-- One character of the decoding loop.  The buffer is a 32-bit integer in the
source; only its low twelve bits are ever read, so it may as well be unbounded. -/
def base32Step (st : Nat × Nat × List UInt8) (n : Nat) : Nat × Nat × List UInt8 :=
  let (bits, buffer, out) := st
  let buffer := buffer * 32 + n
  let bits := bits + 5
  if 8 ≤ bits then
    (bits - 8, buffer, out ++ [UInt8.ofNat (buffer / 2 ^ (bits - 8))])
  else (bits, buffer, out)

def invalidSecret {α : Type} : Except Exception α := .error (.error "invalid MFA secret")

def base32Decode (value : String) : Except Exception (List UInt8) :=
  let cs := (value.toList.map Char.toUpper)
  let input := cs.takeWhile (· ≠ '=')
  let padding := cs.dropWhile (· ≠ '=')
  match input.mapM base32Index with
  | none => invalidSecret
  | some indices =>
      if input = [] ∨ padding.any (· ≠ '=') ∨ 6 < padding.length then invalidSecret
      else if [0, 2, 4, 5, 7].contains (input.length % 8) = false ∨
          (padding ≠ [] ∧ cs.length % 8 ≠ 0) then invalidSecret
      else
        let (bits, buffer, out) := indices.foldl base32Step (0, 0, [])
        if out = [] ∨ buffer % 2 ^ bits ≠ 0 then invalidSecret else .ok out

/-- `data.writeBigUInt64BE(counter)`. -/
def counterBytes (counter : Nat) : List UInt8 :=
  (List.range 8).map fun i => UInt8.ofNat (counter / 256 ^ (7 - i))

def readUInt32BE (digest : List UInt8) (offset : Nat) : Nat :=
  ((digest.drop offset).take 4).foldl (fun acc b => acc * 256 + b.toNat) 0

/-- `String(value).padStart(6, '0')` of a number below a million. -/
def sixDigits (value : Nat) : String :=
  String.ofList ((List.range DIGITS).map fun i => hexDigit (value / 10 ^ (DIGITS - 1 - i) % 10))

def isTimestamp (timestamp : Int) : Bool := 0 ≤ timestamp ∧ timestamp < 2 ^ 53

/-- `Math.floor(timestamp / 1000 / PERIOD)`. -/
def counterAt (timestamp : Int) : Nat := timestamp.toNat / stepMs

def totpCode (crypto : Crypto) (secret : String) (timestamp : Int) : Except Exception String :=
  if isTimestamp timestamp = false then .error (.error "invalid MFA timestamp")
  else do
    let key ← base32Decode secret
    let digest := crypto.hmacSha1 key (counterBytes (counterAt timestamp))
    let offset := (digest.getLastD 0).toNat % 16
    return sixDigits (readUInt32BE digest offset % 2 ^ 31 % 1000000)

/-- `/^\d{6}$/`. -/
def isCode (code : String) : Bool := code.toList.length == 6 && code.toList.all Text.isDigit

/-- The loop over `delta`, from the newest step to the oldest. -/
def findCounter (crypto : Crypto) (secret code : String) (timestamp : Int) :
    List Int → Except Exception (Option Nat)
  | [] => .ok none
  | delta :: deltas =>
      let candidateTime := timestamp + delta * stepMs
      if isTimestamp candidateTime = false then findCounter crypto secret code timestamp deltas
      else do
        let expected ← totpCode crypto secret candidateTime
        if expected = code then return some (counterAt candidateTime)
        else findCounter crypto secret code timestamp deltas

def matchTotpCounter (crypto : Crypto) (secret code : String) (timestamp : Int) (window : Nat := 1) :
    Except Exception (Option Nat) :=
  if isTimestamp timestamp = false then .error (.error "invalid MFA timestamp")
  else if 10 < window then .error (.error "invalid MFA window")
  else do
    let _ ← base32Decode secret
    if isCode code = false then return none
    -- Prefer the newest collision so advancing time cannot redeem the same code again.
    findCounter crypto secret code timestamp
      ((List.range (2 * window + 1)).map fun i : Nat => (window : Int) - (i : Int))

def encryptMfaSecret (crypto : Crypto) (iv secret key : String) : Except Exception String :=
  if Text.trim key = "" then .error (.error "missing MFA encryption key")
  else .ok (crypto.encrypt iv secret key)

def decryptMfaSecret (crypto : Crypto) (payload key : String) : Except Exception String :=
  if Text.trim key = "" then .error (.error "missing MFA encryption key")
  else match crypto.decrypt payload key with
    | some secret => .ok secret
    | none => invalidSecret

def hashRecoveryCode (crypto : Crypto) (code : String) : String := crypto.sha256 code

theorem findCounter_eq_some {crypto : Crypto} {secret code : String} {timestamp : Int}
    {deltas : List Int} {counter : Nat}
    (h : findCounter crypto secret code timestamp deltas = .ok (some counter)) :
    ∃ delta ∈ deltas, 0 ≤ timestamp + delta * stepMs ∧
      counter = counterAt (timestamp + delta * stepMs) ∧
      totpCode crypto secret (timestamp + delta * stepMs) = .ok code := by
  induction deltas with
  | nil => simp [findCounter] at h
  | cons delta deltas ih =>
      simp only [findCounter] at h
      split at h
      · obtain ⟨d, hd, hrest⟩ := ih h
        exact ⟨d, List.mem_cons_of_mem _ hd, hrest⟩
      · rename_i htime
        have hpos : 0 ≤ timestamp + delta * stepMs := by
          simp only [isTimestamp, Bool.decide_and, Bool.and_eq_true, decide_eq_true_eq,
            Bool.not_eq_false] at htime
          exact htime.1
        cases hcode : totpCode crypto secret (timestamp + delta * stepMs) with
        | error e => simp [hcode, bind, Except.bind] at h
        | ok expected =>
            simp only [hcode, bind, Except.bind] at h
            split at h
            · rename_i heq
              obtain rfl : counterAt (timestamp + delta * stepMs) = counter := by
                simpa [pure, Except.pure] using h
              exact ⟨delta, by simp, hpos, rfl, heq ▸ hcode⟩
            · obtain ⟨d, hd, hrest⟩ := ih h
              exact ⟨d, List.mem_cons_of_mem _ hd, hrest⟩

/-- The counter lies within `window` steps of the clock reading. -/
def withinSteps (window counter matchedAt : Nat) : Prop :=
  counter ≤ matchedAt / stepMs + window ∧ matchedAt / stepMs ≤ counter + window

theorem withinSteps_counterAt {now window i : Nat} (hi : i < 2 * window + 1)
    (hpos : 0 ≤ (now : Int) + ((window : Int) - i) * stepMs) :
    withinSteps window (counterAt ((now : Int) + ((window : Int) - i) * stepMs)) now := by
  have hstep : stepMs = 30000 := rfl
  simp only [withinSteps, counterAt, hstep] at hpos ⊢
  obtain ⟨time, htime⟩ := Int.eq_ofNat_of_zero_le hpos
  rw [htime, Int.toNat_natCast]
  omega

theorem matchTotpCounter_within {crypto : Crypto} {secret code : String} {now window counter : Nat}
    (h : matchTotpCounter crypto secret code now window = .ok (some counter)) :
    withinSteps window counter now := by
  unfold matchTotpCounter at h
  split at h
  · simp at h
  split at h
  · simp at h
  cases hsecret : base32Decode secret with
  | error e => simp [hsecret, bind, Except.bind] at h
  | ok key =>
      simp only [hsecret, bind, Except.bind] at h
      by_cases hcode : isCode code = false
      · simp [hcode, pure, Except.pure] at h
      · rw [if_neg hcode] at h
        obtain ⟨delta, hdelta, hpos, hcounter, -⟩ := findCounter_eq_some h
        obtain ⟨i, hi, hdelta⟩ := List.mem_map.mp hdelta
        subst hdelta hcounter
        exact withinSteps_counterAt (List.mem_range.mp hi) hpos

end KubeNova.Auth
