import Handover.Bytes

namespace Handover.Text.Utf8

def encode (s : String) : Bytes :=
  s.toUTF8.data.toList

def decode? (bs : Bytes) : Option String :=
  String.fromUTF8? ⟨bs.toArray⟩

theorem decode?_encode (s : String) : decode? (encode s) = some s := by
  have h : (ByteArray.mk s.toUTF8.data).IsValidUTF8 := s.isValidUTF8
  rw [decode?, encode, Array.toArray_toList, String.fromUTF8?, dif_pos h]
  rfl

theorem eq_encode_of_decode? {bs : Bytes} {s : String} (h : decode? bs = some s) :
    bs = encode s := by
  simp only [decode?, String.fromUTF8?] at h
  split at h
  · cases h
    rfl
  · cases h

theorem decode?_eq_some_iff {bs : Bytes} {s : String} : decode? bs = some s ↔ bs = encode s :=
  ⟨eq_encode_of_decode?, fun h => h ▸ decode?_encode s⟩

/-- Where and why bytes are no UTF-8: the offending bytes are those from `start` up to `stop`. -/
structure Fault where
  start : Nat
  stop : Nat
  first : UInt8
  reason : String
  deriving DecidableEq, Repr

def continuation? (b : UInt8) : Option (Nat × UInt8 × UInt8) :=
  if 0xC2 ≤ b && b ≤ 0xDF then some (1, 0x80, 0xBF)
  else if b == 0xE0 then some (2, 0xA0, 0xBF)
  else if b == 0xED then some (2, 0x80, 0x9F)
  else if 0xE1 ≤ b && b ≤ 0xEF then some (2, 0x80, 0xBF)
  else if b == 0xF0 then some (3, 0x90, 0xBF)
  else if b == 0xF4 then some (3, 0x80, 0x8F)
  else if 0xF1 ≤ b && b ≤ 0xF3 then some (3, 0x80, 0xBF)
  else none

/-- Of the bytes after a lead byte, how many belong to its character; the flag tells whether the bytes
ran out. -/
def matched : (need : Nat) → (low high : UInt8) → Bytes → Nat × Bool
  | 0, _, _, _ => (0, false)
  | _ + 1, _, _, [] => (0, true)
  | need + 1, low, high, b :: rest =>
      if low ≤ b && b ≤ high then
        let (n, ended) := matched need 0x80 0xBF rest
        (n + 1, ended)
      else (0, false)

def endsEarly : String := "unexpected end of data"

def faultFrom : (fuel : Nat) → (pos : Nat) → Bytes → Option Fault
  | 0, _, _ => none
  | _, _, [] => none
  | fuel + 1, pos, b :: rest =>
      if b < 0x80 then faultFrom fuel (pos + 1) rest
      else
        match continuation? b with
        | none => some ⟨pos, pos + 1, b, "invalid start byte"⟩
        | some (need, low, high) =>
            let (n, ended) := matched need low high rest
            if n = need then faultFrom fuel (pos + 1 + n) (rest.drop n)
            else if ended then some ⟨pos, pos + 1 + n, b, endsEarly⟩
            else some ⟨pos, pos + 1 + n, b, "invalid continuation byte"⟩

def fault? (bs : Bytes) : Option Fault :=
  faultFrom bs.length 0 bs

/-- The first two bytes of a surrogate. They are refused only when a third one is there. -/
def isCutSurrogate : Bytes → Bool
  | [a, b] => a == 0xED && 0xA0 ≤ b && b ≤ 0xBF
  | _ => false

def charsOf (bs : Bytes) : List Char :=
  ((decode? bs).map String.toList).getD []

/-- The characters in bytes, and the bytes at the end that are not a whole character yet. After the
last piece of a text there may be none of these. -/
def decodePiece (last : Bool) (bs : Bytes) : Except Fault (List Char × Bytes) :=
  match fault? bs with
  | none => .ok (charsOf bs, [])
  | some e =>
      let rest := bs.drop e.start
      if !last && (e.reason == endsEarly || isCutSurrogate rest) then
        .ok (charsOf (bs.take e.start), rest)
      else .error e

end Handover.Text.Utf8
