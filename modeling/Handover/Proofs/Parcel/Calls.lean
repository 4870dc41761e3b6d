import Handover.Proofs.Parcel.Channel

namespace Handover.Parcel

open Payload (Accepts take)

inductive Reading where
  | raw (size : Int)
  | uint8
  | uint16
  | int32
  | flag
  | length
  | blob
  | text
  deriving DecidableEq, Repr

namespace Reading

def read (what : String) : Reading → Op Item
  | raw size => do
      let bs ← readRaw size what
      pure (.raw bs)
  | uint8 => do
      let n ← readUint8 what
      pure (.uint8 n)
  | uint16 => do
      let n ← readUint16 what
      pure (.uint16 n)
  | int32 => do
      let n ← readInt32 what
      pure (.int32 n)
  | flag => do
      let b ← readBool what
      pure (.flag b)
  | length => do
      let n ← readLength what
      pure (.int32 n)
  | blob => do
      let o ← readBlob what
      pure (.blob o)
  | text => do
      let t ← readString what
      pure (.text t)

def headSize : Reading → Int
  | raw size => size
  | uint8 => 1
  | uint16 => 2
  | _ => 4

def isSized : Reading → Bool
  | length => true
  | blob => true
  | text => true
  | _ => false

def headName (what : String) : Reading → String
  | length => what ++ " length"
  | blob => what ++ " length"
  | text => what ++ " length"
  | _ => what

def IsNegative : Reading → Prop
  | raw size => size < 0
  | _ => False

end Reading

inductive Call where
  | write (i : Item)
  | read (r : Reading) (what : String)
  | expectEnd
  | toBytes
  deriving DecidableEq, Repr

def Item.fault : Item → Fault
  | .text (some (.ill codes _)) => .encoding (.ofCodes codes)
  | _ => .width

abbrev Answer := Except Fault (Option Item)

def Call.run : Call → Op (Option Item)
  | write i => do
      i.write
      pure none
  | read r what => do
      let i ← r.read what
      pure (some i)
  | expectEnd => do
      Parcel.expectEnd
      pure none
  | toBytes => fun p => (.ok (some (.raw p.buffer)), p)

inductive Refuses (what : String) : Reading → Fault → Bytes → Prop where
  | short {r offset left} :
      Refuses what r (.truncated (r.headName what) r.headSize offset left) []
  | flag {n} (neither : n ≠ 0 ∧ n ≠ 1) (fits : FitsInt32 n) :
      Refuses what .flag (.flag what n) (int32Bytes n)
  | length {r n} (sized : r.isSized = true) (negative : n < absent) (fits : FitsInt32 n) :
      Refuses what r (.length what n) (int32Bytes n)
  | body {r n offset left} (bodied : r = .blob ∨ r = .text) (size : 0 ≤ n) (fits : FitsInt32 n) :
      Refuses what r (.truncated what n offset left) (int32Bytes n)
  | text {bs} (fits : BlobFits (some bs)) (ill : Text.Utf8.decode? bs = none) :
      Refuses what .text (.text what) (blobBytes (some bs))

/-- The bytes that a call has taken and those it has put, by its answer. -/
inductive Moves : Call → Answer → (taken put : Bytes) → Prop where
  | written {i} (fits : i.Fits) : Moves (.write i) (.ok none) [] i.bytes
  | unwritten {i} (unfit : ¬ i.Fits) : Moves (.write i) (.error i.fault) [] []
  | given {r what i} (fits : i.Fits) : Moves (.read r what) (.ok (some i)) i.bytes []
  | refused {r what e bs} (stops : Refuses what r e bs) : Moves (.read r what) (.error e) bs []
  | ended : Moves .expectEnd (.ok none) [] []
  | trailing {n} : Moves .expectEnd (.error (.trailing n)) [] []
  | copied {bs} : Moves .toBytes (.ok (some (.raw bs))) [] []

theorem writeNumber_unfit (width : Nat) {low high n : Int} (wide : ¬ (low ≤ n ∧ n < high))
    (p : Parcel) : writeNumber width low high n p = (.error .width, p) := by
  rw [writeNumber, if_neg wide]
  rfl

theorem Op.bind_of_error {x : Op α} {p q : Parcel} {e : Fault} (h : x p = (.error e, q))
    (f : α → Op β) : (x >>= f) p = (.error e, q) := by
  rw [Op.bind_apply, h]

theorem writeBlob_unfit {o : Option Bytes} (wide : ¬ BlobFits o) (p : Parcel) :
    writeBlob o p = (.error .width, p) := by
  cases o with
  | none => exact absurd trivial wide
  | some bs =>
      have length : writeInt32 bs.length p = (.error .width, p) :=
        writeNumber_unfit 4 (mt fitsInt32_length.1 wide) p
      exact Op.bind_of_error length fun _ => writeRaw bs

theorem write_unfit {i : Item} (unfit : ¬ i.Fits) (p : Parcel) :
    i.write p = (.error i.fault, p) := by
  match i with
  | .raw bs => exact absurd trivial unfit
  | .uint8 n => exact writeNumber_unfit 1 unfit p
  | .uint16 n => exact writeNumber_unfit 2 unfit p
  | .int32 n => exact writeNumber_unfit 4 unfit p
  | .flag b => exact absurd trivial unfit
  | .blob o => exact writeBlob_unfit unfit p
  | .text none => exact absurd trivial unfit
  | .text (some (.proper s)) => exact writeBlob_unfit (o := some (Text.Utf8.encode s)) unfit p
  | .text (some (.ill codes surrogate)) => rfl

/-- A reading that is refused has taken complete items from the front, as its fault tells. -/
def Stops (x : Op α) (R : Fault → Bytes → Prop) : Prop :=
  ∀ taken left e q, x (between taken left) = (.error e, q) →
    ∃ bs rest, left = bs ++ rest ∧ q = between (taken ++ bs) rest ∧ R e bs

theorem stops_pure (a : α) (R : Fault → Bytes → Prop) : Stops (pure a : Op α) R := by
  intro taken left e q h
  cases h

theorem stops_fail {e : Fault} {R : Fault → Bytes → Prop} (h : R e []) :
    Stops (Op.fail e : Op α) R := by
  rintro taken left _ _ ⟨⟩
  exact ⟨[], left, rfl, by rw [List.append_nil], h⟩

theorem Stops.mono {x : Op α} {R S : Fault → Bytes → Prop} (hx : Stops x R)
    (h : ∀ e bs, R e bs → S e bs) : Stops x S := by
  intro taken left e q failed
  obtain ⟨bs, rest, rfl, rfl, stop⟩ := hx taken left e q failed
  exact ⟨bs, rest, rfl, rfl, h e bs stop⟩

theorem Stops.bind {x : Op α} {f : α → Op β} {L : Bytes → α → Prop} {R : Fault → Bytes → Prop}
    (hx : Accepts (take x) L) (first : Stops x R)
    (later : ∀ front a, L front a → Stops (f a) fun e back => R e (front ++ back)) :
    Stops (x >>= f) R := by
  intro taken left e q failed
  rw [Op.bind_apply] at failed
  rcases read : x (between taken left) with ⟨e' | a, p⟩
  · rw [read] at failed
    cases failed
    exact first taken left e q read
  · rw [read] at failed
    obtain ⟨front, rest, rfl, accepted, rfl⟩ :=
      (hx.ok_iff taken left a p).1 (take_eq_ok_iff.2 read)
    obtain ⟨back, rest, rfl, rfl, stop⟩ := later front a accepted (taken ++ front) rest e q failed
    refine ⟨front ++ back, rest, ?_, ?_, stop⟩
    · rw [List.append_assoc]
    · rw [List.append_assoc]

def Short (what : String) (size : Int) (e : Fault) (bs : Bytes) : Prop :=
  bs = [] ∧ ∃ offset left, e = .truncated what size offset left

theorem stops_raw (n : Nat) (what : String) : Stops (readRaw n what) (Short what n) := by
  intro taken left e q failed
  by_cases h : n ≤ left.length
  · rw [readRaw_between h] at failed
    cases failed
  · rw [readRaw_short (Nat.lt_of_not_le h)] at failed
    cases failed
    exact ⟨[], left, rfl, by rw [List.append_nil], rfl, _, _, rfl⟩

theorem stops_number (width : Nat) (what : String) :
    Stops (readNumber width what) (Short what width) := by
  refine (stops_raw width what).bind (Payload.accepts_raw width what) ?_
  rintro front _ ⟨length, rfl⟩
  rw [if_pos length]
  exact stops_pure _ _

theorem stops_int32 (what : String) : Stops (readInt32 what) (Short what 4) :=
  (stops_number 4 what).bind (Payload.accepts_number 4 what) fun _ _ _ => stops_pure _ _

theorem Stops.refuses {x : Op α} {what : String} {r : Reading}
    (h : Stops x (Short (r.headName what) r.headSize)) : Stops x (Refuses what r) := by
  refine h.mono ?_
  rintro _ _ ⟨rfl, offset, left, rfl⟩
  exact .short

theorem stops_flag (what : String) : Stops (readBool what) (Refuses what .flag) := by
  have first : Stops (readInt32 what) (Refuses what .flag) := (stops_int32 what).refuses
  refine first.bind (Payload.accepts_int32 what) ?_
  rintro front n ⟨fits, rfl⟩
  by_cases zero : n = 0
  · rw [if_pos zero]
    exact stops_pure _ _
  · rw [if_neg zero]
    by_cases one : n = 1
    · rw [if_pos one]
      exact stops_pure _ _
    · rw [if_neg one]
      apply stops_fail
      rw [List.append_nil]
      exact .flag ⟨zero, one⟩ fits

theorem stops_length (what : String) : Stops (readLength what) (Refuses what .length) := by
  have first : Stops (readInt32 (what ++ " length")) (Refuses what .length) :=
    (stops_int32 _).refuses
  refine first.bind (Payload.accepts_int32 _) ?_
  rintro front n ⟨fits, rfl⟩
  by_cases negative : n < absent
  · rw [if_pos negative]
    apply stops_fail
    rw [List.append_nil]
    exact .length rfl negative fits
  · rw [if_neg negative]
    exact stops_pure _ _

theorem Refuses.blob_of_length {what : String} {e : Fault} {bs : Bytes}
    (h : Refuses what .length e bs) : Refuses what .blob e bs := by
  cases h with
  | short => exact .short
  | length _ negative fits => exact .length rfl negative fits
  | body bodied => simp at bodied

theorem Refuses.text_of_blob {what : String} {e : Fault} {bs : Bytes}
    (h : Refuses what .blob e bs) : Refuses what .text e bs := by
  cases h with
  | short => exact .short
  | length _ negative fits => exact .length rfl negative fits
  | body _ size fits => exact .body (.inr rfl) size fits

theorem stops_blob (what : String) : Stops (readBlob what) (Refuses what .blob) := by
  have first : Stops (readLength what) (Refuses what .blob) :=
    (stops_length what).mono fun _ _ => Refuses.blob_of_length
  refine first.bind (Payload.accepts_length what) ?_
  rintro front n ⟨⟨fits, rfl⟩, low⟩
  -- A length that is accepted and not null is no less than zero, so the body is a plain reading.
  by_cases null : n = absent
  · rw [if_pos null]
    exact stops_pure _ _
  · rw [if_neg null]
    have size : 0 ≤ n := by
      rw [absent] at low null
      omega
    obtain ⟨k, rfl⟩ := Int.eq_ofNat_of_zero_le size
    refine Stops.bind (Payload.accepts_raw k what) ?_ fun _ _ _ => stops_pure _ _
    refine (stops_raw k what).mono ?_
    rintro e _ ⟨rfl, offset, left, rfl⟩
    rw [List.append_nil]
    exact .body (.inl rfl) size fits

theorem stops_text (what : String) : Stops (readString what) (Refuses what .text) := by
  have first : Stops (readBlob what) (Refuses what .text) :=
    (stops_blob what).mono fun _ _ => Refuses.text_of_blob
  rw [Payload.readString_eq]
  refine first.bind (Payload.accepts_blob what) ?_
  rintro front o ⟨fits, rfl⟩
  cases o with
  | none => exact stops_pure _ _
  | some bs =>
      cases decoded : Text.Utf8.decode? bs with
      | some s =>
          simp only [Payload.textOf, decoded]
          exact stops_pure _ _
      | none =>
          simp only [Payload.textOf, decoded]
          apply stops_fail
          rw [List.append_nil]
          exact .text fits decoded

theorem reads_item {x : Op α} {L : Bytes → α → Prop} {r : Reading} {what : String}
    (accepts : Accepts (take x) L) (stops : Stops x (Refuses what r)) (f : α → Item)
    (fits : ∀ bs a, L bs a → (f a).Fits ∧ bs = (f a).bytes) (taken left : Bytes) :
    ∃ answer bs rest, left = bs ++ rest ∧ Moves (.read r what) answer bs [] ∧
      ((x >>= fun a => pure (f a)) >>= fun i => pure (some i) : Op (Option Item))
        (between taken left) = (answer, between (taken ++ bs) rest) := by
  rcases read : x (between taken left) with ⟨e | a, q⟩
  · obtain ⟨bs, rest, rfl, rfl, stop⟩ := stops taken left e q read
    refine ⟨.error e, bs, rest, rfl, .refused stop, ?_⟩
    exact Op.bind_of_error (Op.bind_of_error read _) _
  · obtain ⟨bs, rest, rfl, accepted, rfl⟩ :=
      (accepts.ok_iff taken left a q).1 (take_eq_ok_iff.2 read)
    obtain ⟨fit, rfl⟩ := fits bs a accepted
    refine ⟨.ok (some (f a)), _, rest, rfl, .given fit, ?_⟩
    rw [Op.bind_apply, Op.bind_apply, read]
    rfl

theorem fits_number {width : Nat} {bs : Bytes} {n : Nat}
    (h : bs.length = width ∧ Bytes.toNat bs = n) :
    (0 ≤ (n : Int) ∧ (n : Int) < Bytes.capacity width) ∧ bs = numberBytes width n := by
  obtain ⟨rfl, rfl⟩ := h
  have small : (Bytes.toNat bs : Int) < Bytes.capacity bs.length :=
    Int.ofNat_lt.2 (Bytes.toNat_lt bs)
  have whole : ((Bytes.toNat bs : Int) % Bytes.capacity bs.length).toNat = Bytes.toNat bs := by
    rw [Int.emod_eq_of_lt (Int.natCast_nonneg _) small, Int.toNat_natCast]
  refine ⟨⟨Int.natCast_nonneg _, small⟩, ?_⟩
  rw [numberBytes, whole, Bytes.ofNat_toNat]

theorem moves_read {r : Reading} (positive : ¬ r.IsNegative) (what : String) (taken left : Bytes) :
    ∃ answer bs rest, left = bs ++ rest ∧ Moves (.read r what) answer bs [] ∧
      (Call.read r what).run (between taken left) = (answer, between (taken ++ bs) rest) := by
  cases r with
  | raw size =>
      obtain ⟨n, rfl⟩ := Int.eq_ofNat_of_zero_le (Int.not_lt.1 positive)
      refine reads_item (Payload.accepts_raw n what) (stops_raw n what).refuses .raw ?_ taken left
      rintro bs _ ⟨-, rfl⟩
      exact ⟨trivial, rfl⟩
  | uint8 =>
      exact reads_item (Payload.accepts_number 1 what) (stops_number 1 what).refuses
        (fun n => .uint8 n) (fun _ _ => fits_number) taken left
  | uint16 =>
      exact reads_item (Payload.accepts_number 2 what) (stops_number 2 what).refuses
        (fun n => .uint16 n) (fun _ _ => fits_number) taken left
  | int32 =>
      exact reads_item (Payload.accepts_int32 what) (stops_int32 what).refuses .int32
        (fun _ _ h => h) taken left
  | flag =>
      exact reads_item (Payload.accepts_flag what) (stops_flag what) .flag
        (fun _ _ h => ⟨trivial, h⟩) taken left
  | length =>
      exact reads_item (Payload.accepts_length what) (stops_length what) .int32
        (fun _ _ h => h.1) taken left
  | blob =>
      exact reads_item (Payload.accepts_blob what) (stops_blob what) .blob (fun _ _ h => h)
        taken left
  | text =>
      exact reads_item (Payload.accepts_text what) (stops_text what) .text (fun _ _ h => h)
        taken left

def Call.IsNegative : Call → Prop
  | read r _ => r.IsNegative
  | _ => False

theorem moves_call {c : Call} (positive : ¬ c.IsNegative) (taken left : Bytes) :
    ∃ answer bs put rest, left ++ put = bs ++ rest ∧ Moves c answer bs put ∧
      c.run (between taken left) = (answer, between (taken ++ bs) rest) := by
  cases c with
  | write i =>
      by_cases fits : i.Fits
      · refine ⟨.ok none, [], i.bytes, left ++ i.bytes, rfl, .written fits, ?_⟩
        rw [Call.run, Op.bind_apply, write_item fits, List.append_nil]
        rfl
      · refine ⟨.error i.fault, [], [], left, List.append_nil left, .unwritten fits, ?_⟩
        rw [List.append_nil]
        exact Op.bind_of_error (write_unfit fits _) _
  | read r what =>
      obtain ⟨answer, bs, rest, rfl, moves, run⟩ := moves_read positive what taken left
      exact ⟨answer, bs, [], rest, List.append_nil _, moves, run⟩
  | expectEnd =>
      by_cases ended : (between taken left).remaining = 0
      · refine ⟨.ok none, [], [], left, List.append_nil left, .ended, ?_⟩
        rw [Call.run, Op.bind_apply, expectEnd, if_pos ended, List.append_nil]
        rfl
      · refine ⟨.error (.trailing (between taken left).remaining), [], [], left,
          List.append_nil left, .trailing, ?_⟩
        rw [Call.run, Op.bind_apply, expectEnd, if_neg ended, List.append_nil]
  | toBytes =>
      refine ⟨.ok (some (.raw (between taken left).buffer)), [], [], left,
        List.append_nil left, .copied, ?_⟩
      rw [List.append_nil]
      rfl

end Handover.Parcel
