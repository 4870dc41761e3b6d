import Handover.Proofs.Parcel.Position

namespace Handover.Parcel

def left (p : Parcel) : Bytes :=
  p.buffer.drop p.position.toNat

/-- Why a reading fails on the bytes left from an offset on, and how many of them it has taken. -/
inductive Halts (what : String) (offset : Int) (left : Bytes) : Reading → Fault → Nat → Prop where
  | head {r} (few : (left.length : Int) < r.headSize) :
      Halts what offset left r (.truncated (r.headName what) r.headSize offset left.length) 0
  | flag {n rest} (front : left = int32Bytes n ++ rest) (fits : FitsInt32 n)
      (neither : n ≠ 0 ∧ n ≠ 1) : Halts what offset left .flag (.flag what n) 4
  | length {r n rest} (front : left = int32Bytes n ++ rest) (fits : FitsInt32 n)
      (sized : r.isSized = true) (negative : n < absent) :
      Halts what offset left r (.length what n) 4
  | body {r n rest} (front : left = int32Bytes n ++ rest) (fits : FitsInt32 n)
      (bodied : r = .blob ∨ r = .text) (size : 0 ≤ n) (few : (rest.length : Int) < n) :
      Halts what offset left r (.truncated what n (offset + 4) rest.length) 4
  | text {bs rest} (front : left = blobBytes (some bs) ++ rest) (fits : BlobFits (some bs))
      (ill : Text.Utf8.decode? bs = none) :
      Halts what offset left .text (.text what) (4 + bs.length)

def Reading.fixed? : Reading → Option Shape
  | raw size => some (.raw size.toNat)
  | uint8 => some .uint8
  | uint16 => some .uint16
  | int32 => some .int32
  | _ => none

/-- A call that failed has changed no more than the position, and that by what it took. -/
structure Contained (p : Parcel) (c : Call) (e : Fault) (q : Parcel) : Prop where
  buffer : q.buffer = p.buffer
  unread : (∀ r what, c ≠ .read r what) → q.position = p.position
  taken : ∀ r what, c = .read r what →
    ∃ n, Halts what p.position p.left r e n ∧ q.position = p.position + n
  again : ∀ r what shape, c = .read r what → r.fixed? = some shape → ∀ puts : List Item,
    r.headSize ≤ (after (puts.map .write) q).remaining →
      p.buffer <+: (after (puts.map .write) q).buffer ∧
      ∃ i, (c.run (after (puts.map .write) q)).1 = .ok (some i) ∧ i.shape = shape ∧
        i.bytes = ((after (puts.map .write) q).buffer.drop p.position.toNat).take r.headSize.toNat

/-- Where the bytes run out, the fault tells the position, and that fewer are left than are needed. -/
def Honest (x : Op α) : Prop :=
  ∀ p q what need offset left, x p = (.error (.truncated what need offset left), q) →
    offset = q.position ∧ left = q.remaining ∧ left < need

theorem honest_pure (a : α) : Honest (pure a : Op α) := by
  intro p q what need offset left failed
  cases failed

theorem honest_fail {e : Fault} (other : ∀ what need offset left, e ≠ .truncated what need offset left) :
    Honest (Op.fail e : Op α) := by
  intro p q what need offset left failed
  cases failed
  exact absurd rfl (other what need offset left)

theorem Honest.bind {x : Op α} {f : α → Op β} (hx : Honest x) (hf : ∀ a, Honest (f a)) :
    Honest (x >>= f) := by
  intro p q what need offset left failed
  rw [Op.bind_apply] at failed
  rcases read : x p with ⟨e | a, p'⟩
  · rw [read] at failed
    cases failed
    exact hx p _ what need offset left read
  · rw [read] at failed
    exact hf a p' q what need offset left failed

theorem honest_raw (size : Int) (what : String) : Honest (readRaw size what) := by
  intro p q what' need offset left failed
  rw [readRaw] at failed
  split at failed
  · next few =>
      cases failed
      exact ⟨rfl, rfl, few⟩
  · cases failed

theorem honest_number (width : Nat) (what : String) : Honest (readNumber width what) := by
  refine (honest_raw width what).bind fun bs => ?_
  split
  · exact honest_pure _
  · exact honest_fail nofun

theorem honest_int32 (what : String) : Honest (readInt32 what) :=
  (honest_number 4 what).bind fun _ => honest_pure _

theorem honest_flag (what : String) : Honest (readBool what) := by
  refine (honest_int32 what).bind fun n => ?_
  split
  · exact honest_pure _
  · split
    · exact honest_pure _
    · exact honest_fail nofun

theorem honest_length (what : String) : Honest (readLength what) := by
  refine (honest_int32 (what ++ " length")).bind fun n => ?_
  split
  · exact honest_fail nofun
  · exact honest_pure _

theorem honest_blob (what : String) : Honest (readBlob what) := by
  refine (honest_length what).bind fun n => ?_
  split
  · exact honest_pure _
  · exact (honest_raw n what).bind fun _ => honest_pure _

theorem honest_text (what : String) : Honest (readString what) := by
  refine (honest_blob what).bind fun o => ?_
  cases o with
  | none => exact honest_pure _
  | some bs =>
      dsimp only
      split
      · exact honest_pure _
      · exact honest_fail nofun

theorem honest_read (r : Reading) (what : String) : Honest (r.read what) := by
  cases r with
  | raw size => exact (honest_raw size what).bind fun _ => honest_pure _
  | uint8 => exact (honest_number 1 what).bind fun _ => honest_pure _
  | uint16 => exact (honest_number 2 what).bind fun _ => honest_pure _
  | int32 => exact (honest_int32 what).bind fun _ => honest_pure _
  | flag => exact (honest_flag what).bind fun _ => honest_pure _
  | length => exact (honest_length what).bind fun _ => honest_pure _
  | blob => exact (honest_blob what).bind fun _ => honest_pure _
  | text => exact (honest_text what).bind fun _ => honest_pure _

theorem left_between (front back : Bytes) : (between front back).left = back := by
  have position : (between front back).position.toNat = front.length := Int.toNat_natCast _
  rw [left, position]
  exact List.drop_left

theorem read_fixed {r : Reading} {shape : Shape} (fixed : r.fixed? = some shape)
    (positive : ¬ r.IsNegative) (what : String) {front back : Bytes}
    (enough : r.headSize ≤ back.length) :
    ∃ i q, (r.read what) (between front back) = (.ok i, q) ∧ i.shape = shape ∧
      i.bytes = back.take r.headSize.toNat := by
  obtain ⟨bs, rest, whole, length⟩ :
      ∃ bs rest, back = bs ++ rest ∧ bs.length = r.headSize.toNat := by
    refine ⟨back.take r.headSize.toNat, back.drop r.headSize.toNat, ?_, ?_⟩
    · exact (List.take_append_drop _ _).symm
    · rw [List.length_take]
      omega
  rw [whole, ← length, List.take_left]
  cases r with
  | raw size =>
      cases fixed
      obtain ⟨n, rfl⟩ := Int.eq_ofNat_of_zero_le (Int.not_lt.1 positive)
      have read := read_of_accepts (Payload.accepts_raw n what) ⟨length, rfl⟩ Item.raw front rest
      exact ⟨_, _, read, congrArg Shape.raw length, rfl⟩
  | uint8 =>
      cases fixed
      have read := read_of_accepts (Payload.accepts_number 1 what) ⟨length, rfl⟩
        (fun n => Item.uint8 n) front rest
      exact ⟨_, _, read, rfl, (fits_number ⟨length, rfl⟩).2.symm⟩
  | uint16 =>
      cases fixed
      have read := read_of_accepts (Payload.accepts_number 2 what) ⟨length, rfl⟩
        (fun n => Item.uint16 n) front rest
      exact ⟨_, _, read, rfl, (fits_number ⟨length, rfl⟩).2.symm⟩
  | int32 =>
      cases fixed
      have four : bs.length = 4 := length
      have number := int32Bytes_signed32 four
      have read := read_of_accepts (Payload.accepts_int32 what)
        ⟨fitsInt32_signed32 four, number.symm⟩ Item.int32 front rest
      exact ⟨_, _, read, rfl, number⟩
  | flag => cases fixed
  | length => cases fixed
  | blob => cases fixed
  | text => cases fixed

theorem after_writes (puts : List Item) (front back : Bytes) :
    ∃ more, after (puts.map .write) (between front back) = between front (back ++ more) := by
  induction puts generalizing back with
  | nil => exact ⟨[], by rw [List.append_nil]; rfl⟩
  | cons i puts ih =>
      by_cases fits : i.Fits
      · have written : ((Call.write i).run (between front back)).2 =
            between front (back ++ i.bytes) := by
          rw [Call.run, Op.bind_apply, write_item fits]
          rfl
        obtain ⟨more, stands⟩ := ih (back ++ i.bytes)
        refine ⟨i.bytes ++ more, ?_⟩
        rw [List.map_cons, after, written, stands, List.append_assoc]
      · have kept : ((Call.write i).run (between front back)).2 = between front back := by
          rw [Call.run, Op.bind_of_error (write_unfit fits _)]
        obtain ⟨more, stands⟩ := ih back
        exact ⟨more, by rw [List.map_cons, after, kept, stands]⟩

theorem halts_fixed {what : String} {offset : Int} {left : Bytes} {r : Reading} {e : Fault} {n : Nat}
    {shape : Shape} (halts : Halts what offset left r e n) (fixed : r.fixed? = some shape) :
    n = 0 := by
  cases halts with
  | head => rfl
  | flag => cases fixed
  | length _ _ sized => cases r <;> cases fixed <;> cases sized
  | body _ _ bodied => rcases bodied with rfl | rfl <;> cases fixed
  | text => cases fixed

theorem halts_read {r : Reading} {what : String} {front back : Bytes} {e : Fault} {q : Parcel}
    (positive : ¬ r.IsNegative) (failed : (r.read what) (between front back) = (.error e, q)) :
    ∃ bs rest, back = bs ++ rest ∧ q = between (front ++ bs) rest ∧
      Halts what front.length back r e bs.length := by
  obtain ⟨answer, bs, rest, rfl, moves, run⟩ := moves_read positive what front back
  have ends : (answer, between (front ++ bs) rest) = (.error e, q) := by
    rw [← run]
    exact Op.bind_of_error failed _
  cases ends
  refine ⟨bs, rest, rfl, rfl, ?_⟩
  have honest := honest_read r what (between front (bs ++ rest)) (between (front ++ bs) rest)
  cases moves with
  | refused stops =>
      cases stops with
      | short =>
          obtain ⟨rfl, rfl, few⟩ := honest _ _ _ _ failed
          rw [remaining_between] at few ⊢
          rw [List.append_nil]
          exact .head few
      | flag neither fits =>
          rw [length_int32Bytes]
          exact .flag rfl fits neither
      | length sized negative fits =>
          rw [length_int32Bytes]
          exact .length rfl fits sized negative
      | @body r n _ _ bodied size fits =>
          obtain ⟨rfl, rfl, few⟩ := honest _ _ _ _ failed
          have offset : (between (front ++ int32Bytes n) rest).position = front.length + 4 := by
            simp [between]
          rw [remaining_between] at few ⊢
          rw [offset, length_int32Bytes]
          exact .body rfl fits bodied size few
      | @text bs fits ill =>
          have length : (blobBytes (some bs)).length = 4 + bs.length := by
            simp [blobBytes]
          rw [length]
          exact .text rfl fits ill

theorem read_again {r : Reading} {shape : Shape} (fixed : r.fixed? = some shape)
    (positive : ¬ r.IsNegative) (what : String) {puts : List Item} {front back : Bytes}
    {p q : Parcel} (start : p = between front back) (ends : q = after (puts.map .write) p)
    (enough : r.headSize ≤ q.remaining) :
    p.buffer <+: q.buffer ∧
      ∃ i, ((Call.read r what).run q).1 = .ok (some i) ∧ i.shape = shape ∧
        i.bytes = (q.buffer.drop p.position.toNat).take r.headSize.toNat := by
  obtain ⟨more, stands⟩ := after_writes puts front back
  rw [start, stands] at ends
  rw [ends, remaining_between] at enough
  obtain ⟨i, q', read, shaped, bytes⟩ := read_fixed fixed positive what enough
  have position : p.position.toNat = front.length := by
    rw [start]
    exact Int.toNat_natCast _
  have given : ((Call.read r what).run q).1 = .ok (some i) := by
    rw [ends, Call.run, Op.bind_apply, read]
    rfl
  refine ⟨⟨more, by simp [start, ends, between]⟩, i, given, shaped, ?_⟩
  rw [bytes, position, ends]
  exact congrArg _ List.drop_left.symm

theorem contained_read {r : Reading} {what : String} {front back : Bytes} {e : Fault} {q : Parcel}
    (positive : ¬ r.IsNegative)
    (failed : (Call.read r what).run (between front back) = (.error e, q)) :
    Contained (between front back) (.read r what) e q := by
  have stopped : (r.read what) (between front back) = (.error e, q) := by
    rw [Call.run, Op.bind_apply] at failed
    rcases read : (r.read what) (between front back) with ⟨e' | i, p⟩
    · rw [read] at failed
      cases failed
      rfl
    · rw [read] at failed
      cases failed
  obtain ⟨bs, rest, whole, ends, halts⟩ := halts_read positive stopped
  constructor
  · simp [between, whole, ends]
  · intro other
    exact absurd rfl (other r what)
  · rintro _ _ ⟨⟩
    rw [left_between]
    exact ⟨bs.length, halts, by simp [between, ends]⟩
  · rintro _ _ shape ⟨⟩ fixed puts
    -- A reading of a fixed number of bytes fails at its head, so the parcel is as it was.
    have none : bs = [] := List.length_eq_zero_iff.1 (halts_fixed halts fixed)
    have kept : q = between front back := by
      rw [ends, whole, none, List.append_nil, List.nil_append]
    rw [kept]
    exact read_again fixed positive what rfl rfl

theorem contained_kept {c : Call} (other : ∀ r what, c ≠ .read r what) {p q : Parcel} {e : Fault}
    (kept : q = p) : Contained p c e q := by
  subst kept
  constructor
  · rfl
  · exact fun _ => rfl
  · exact fun r what read => absurd read (other r what)
  · exact fun r what _ read => absurd read (other r what)

theorem contained_between {c : Call} (positive : ¬ c.IsNegative) {front back : Bytes} {e : Fault}
    {q : Parcel} (failed : c.run (between front back) = (.error e, q)) :
    Contained (between front back) c e q := by
  obtain ⟨answer, bs, put, rest, whole, moves, run⟩ := moves_call positive front back
  cases failed.symm.trans run
  cases moves with
  | refused => exact contained_read positive failed
  | unwritten =>
      have kept : rest = back := by simpa using whole.symm
      exact contained_kept (by simp) (by rw [kept, List.append_nil])
  | trailing =>
      have kept : rest = back := by simpa using whole.symm
      exact contained_kept (by simp) (by rw [kept, List.append_nil])

theorem failing_contained (bs : Bytes) {calls : List Call} {c : Call}
    (positive : ∀ d ∈ calls ++ [c], ¬ d.IsNegative) {e : Fault} {q : Parcel}
    (failed : c.run (after calls (ofBytes bs)) = (.error e, q)) :
    Contained (after calls (ofBytes bs)) c e q := by
  have before : ∀ d ∈ calls, ¬ d.IsNegative := fun d mem => positive d (by simp [mem])
  obtain ⟨parts, rest, -, stands⟩ := took_between before [] bs
  have start : after calls (ofBytes bs) = between ([] ++ parts.flatten) rest := stands
  rw [start] at failed ⊢
  exact contained_between (positive c (by simp)) failed

def illTextBytes : Bytes :=
  [7, 2, 0, 0, 0, 0xC3, 0x28]

def loneSurrogate : Text :=
  .ill [0xD800] rfl

theorem failing_contained_illText :
    (∀ d ∈ [Call.read .uint8 "uint8", .read .text "name"], ¬ d.IsNegative) ∧
      (∃ q, (Call.read .text "name").run (after [.read .uint8 "uint8"] (ofBytes illTextBytes)) =
          (.error (.text "name"), q) ∧ q.buffer = illTextBytes ∧ q.position = 7 ∧
        Contained (after [.read .uint8 "uint8"] (ofBytes illTextBytes)) (.read .text "name")
          (.text "name") q) ∧
      ∃ q, (Call.write (.text (some loneSurrogate))).run (ofBytes illTextBytes) =
          (.error (.encoding ⟨0xD800, 0, 1⟩), q) ∧
        Contained (ofBytes illTextBytes) (.write (.text (some loneSurrogate)))
          (.encoding ⟨0xD800, 0, 1⟩) q := by
  have positive : ∀ d ∈ [Call.read .uint8 "uint8", .read .text "name"], ¬ d.IsNegative := by
    simp [Call.IsNegative, Reading.IsNegative]
  have failed : (Call.read .text "name").run
      (after [.read .uint8 "uint8"] (ofBytes illTextBytes)) =
        (.error (.text "name"), ⟨illTextBytes, 7⟩) := by decide +kernel
  have unwritten : (Call.write (.text (some loneSurrogate))).run
      (after [] (ofBytes illTextBytes)) =
        (.error (.encoding ⟨0xD800, 0, 1⟩), ofBytes illTextBytes) := by decide +kernel
  have writes : ∀ d ∈ [] ++ [Call.write (.text (some loneSurrogate))], ¬ d.IsNegative := by
    simp [Call.IsNegative]
  exact ⟨positive, ⟨_, failed, rfl, rfl, failing_contained illTextBytes positive failed⟩,
    _, unwritten, failing_contained illTextBytes writes unwritten⟩

end Handover.Parcel
