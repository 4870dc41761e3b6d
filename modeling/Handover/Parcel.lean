import Handover.Bytes
import Handover.Text.Encoding

namespace Handover

/-- A byte container that is written at the end and read from the front. Numbers are little-endian;
flags are 32-bit zeros and ones; text and blobs follow a 32-bit length, and a length of -1 stands
for an absent one. -/
structure Parcel where
  buffer : Bytes := []
  position : Int := 0
  deriving DecidableEq, Repr

namespace Parcel

inductive Fault where
  | truncated (what : String) (need offset left : Int)
  | flag (what : String) (value : Int)
  | length (what : String) (value : Int)
  | text (what : String)
  | trailing (count : Int)
  | width
  | encoding (e : EncodingFault)
  | serialization (e : EncodingFault)
  deriving DecidableEq, Repr

def serializationMessage (e : EncodingFault) : String :=
  "Error serializing to JSON: UnicodeEncodeError: " ++ e.message

def Fault.message : Fault → String
  | truncated what need offset left =>
      s!"truncated data reading {what}: need {need} bytes at offset {offset}, have {left}"
  | flag what value => s!"invalid {what} flag: {value}"
  | length what value => s!"negative {what} length: {value}"
  | text what => s!"{what} is not valid UTF-8"
  | trailing count => s!"{count} trailing bytes after payload"
  | width => "number does not fit its width"
  | encoding e => e.message
  | serialization e => serializationMessage e

/-- An operation on a parcel. One that fails may have changed the parcel. -/
def Op (α : Type) := Parcel → Except Fault α × Parcel

namespace Op

def pure (a : α) : Op α :=
  fun p => (.ok a, p)

def bind (x : Op α) (f : α → Op β) : Op β :=
  fun p =>
    match x p with
    | (.ok a, p) => f a p
    | (.error e, p) => (.error e, p)

def fail (e : Fault) : Op α :=
  fun p => (.error e, p)

instance : Monad Op where
  pure := pure
  bind := bind

end Op

def remaining (p : Parcel) : Int :=
  p.buffer.length - p.position

def ofBytes (bs : Bytes) : Parcel :=
  { buffer := bs }

def writeRaw (bs : Bytes) : Op Unit :=
  fun p => (.ok (), { p with buffer := p.buffer ++ bs })

def writeNumber (width : Nat) (low high n : Int) : Op Unit :=
  if low ≤ n ∧ n < high then writeRaw (Bytes.ofNat width (n % Bytes.capacity width).toNat)
  else Op.fail .width

def writeUint8 (n : Int) : Op Unit :=
  writeNumber 1 0 0x100 n

def writeUint16 (n : Int) : Op Unit :=
  writeNumber 2 0 0x10000 n

def writeInt32 (n : Int) : Op Unit :=
  writeNumber 4 (-0x80000000) 0x80000000 n

def writeBool (b : Bool) : Op Unit :=
  writeInt32 (if b then 1 else 0)

def absent : Int := -1

def writeBlob : Option Bytes → Op Unit
  | none => writeInt32 absent
  | some bs => do
      writeInt32 bs.length
      writeRaw bs

def writeString : Option Text → Op Unit
  | none => writeBlob none
  | some t =>
      match t.encode with
      | .ok bs => writeBlob (some bs)
      | .error e => Op.fail (.encoding e)

def readRaw (size : Int) (what : String := "raw bytes") : Op Bytes :=
  fun p =>
    if p.remaining < size then
      (.error (.truncated what size p.position p.remaining), p)
    else
      (.ok (slice p.buffer p.position (p.position + size)),
        { p with position := p.position + size })

def readNumber (width : Nat) (what : String) : Op Nat := do
  let bs ← readRaw width what
  if bs.length = width then pure (Bytes.toNat bs) else Op.fail .width

def readUint8 (what : String := "uint8") : Op Nat :=
  readNumber 1 what

def readUint16 (what : String := "uint16") : Op Nat :=
  readNumber 2 what

def signed32 (n : Nat) : Int :=
  if n < 0x80000000 then n else n - 0x100000000

def readInt32 (what : String := "int32") : Op Int := do
  let n ← readNumber 4 what
  pure (signed32 n)

def readBool (what : String := "bool") : Op Bool := do
  let n ← readInt32 what
  if n = 0 then pure false
  else if n = 1 then pure true
  else Op.fail (.flag what n)

def readLength (what : String) : Op Int := do
  let n ← readInt32 (what ++ " length")
  if n < absent then Op.fail (.length what n) else pure n

def readBlob (what : String := "blob") : Op (Option Bytes) := do
  let n ← readLength what
  if n = absent then pure none
  else do
    let bs ← readRaw n what
    pure (some bs)

def readString (what : String := "string") : Op (Option Text) := do
  match ← readBlob what with
  | none => pure none
  | some bs =>
      match Text.Utf8.decode? bs with
      | some s => pure (some (.proper s))
      | none => Op.fail (.text what)

def expectEnd : Op Unit :=
  fun p => if p.remaining = 0 then (.ok (), p) else (.error (.trailing p.remaining), p)

end Parcel

end Handover
