import Handover.Parcel
import Handover.Proofs.Text.Proper

namespace Handover

theorem Bytes.eq_ofNat_iff {bs : Bytes} {width n : Nat} (h : n < capacity width) :
    (bs.length = width ∧ toNat bs = n) ↔ bs = ofNat width n := by
  constructor
  · rintro ⟨rfl, rfl⟩
    exact (ofNat_toNat bs).symm
  · rintro rfl
    exact ⟨length_ofNat _ _, by rw [toNat_ofNat, Nat.mod_eq_of_lt h]⟩

namespace Parcel

def FitsInt32 (n : Int) : Prop :=
  -0x80000000 ≤ n ∧ n < 0x80000000

instance (n : Int) : Decidable (FitsInt32 n) :=
  inferInstanceAs (Decidable (_ ∧ _))

def int32Bytes (n : Int) : Bytes :=
  Bytes.ofNat 4 (n % 0x100000000).toNat

theorem capacity_four : Bytes.capacity 4 = 0x100000000 :=
  rfl

@[simp] theorem length_int32Bytes (n : Int) : (int32Bytes n).length = 4 :=
  Bytes.length_ofNat 4 _

theorem toNat_int32Bytes (n : Int) : (Bytes.toNat (int32Bytes n) : Int) = n % 0x100000000 := by
  rw [int32Bytes, Bytes.toNat_ofNat, capacity_four]
  omega

theorem signed32_int32Bytes {n : Int} (h : FitsInt32 n) :
    signed32 (Bytes.toNat (int32Bytes n)) = n := by
  have number := toNat_int32Bytes n
  obtain ⟨low, high⟩ := h
  rw [signed32]
  split <;> omega

theorem fitsInt32_signed32 {bs : Bytes} (h : bs.length = 4) :
    FitsInt32 (signed32 (Bytes.toNat bs)) := by
  have bound := Bytes.toNat_lt bs
  rw [h, capacity_four] at bound
  rw [signed32, FitsInt32]
  split <;> omega

theorem int32Bytes_signed32 {bs : Bytes} (h : bs.length = 4) :
    int32Bytes (signed32 (Bytes.toNat bs)) = bs := by
  have bound := Bytes.toNat_lt bs
  rw [h, capacity_four] at bound
  have number : (signed32 (Bytes.toNat bs) % 0x100000000).toNat = Bytes.toNat bs := by
    rw [signed32]
    split <;> omega
  rw [int32Bytes, number, ← h, Bytes.ofNat_toNat]

def flagBytes (b : Bool) : Bytes :=
  int32Bytes (if b then 1 else 0)

def blobBytes : Option Bytes → Bytes
  | none => int32Bytes absent
  | some bs => int32Bytes bs.length ++ bs

def BlobFits : Option Bytes → Prop
  | none => True
  | some bs => bs.length < 0x80000000

instance (o : Option Bytes) : Decidable (BlobFits o) :=
  match o with
  | none => isTrue trivial
  | some bs => inferInstanceAs (Decidable (bs.length < 0x80000000))

def encodedBytes : Except EncodingFault Bytes → Bytes
  | .ok bs => blobBytes (some bs)
  | .error _ => []

def EncodedFits : Except EncodingFault Bytes → Prop
  | .ok bs => BlobFits (some bs)
  | .error _ => False

instance (x : Except EncodingFault Bytes) : Decidable (EncodedFits x) :=
  match x with
  | .ok bs => inferInstanceAs (Decidable (BlobFits (some bs)))
  | .error _ => isFalse id

def textBytes : Option Text → Bytes
  | none => blobBytes none
  | some t => encodedBytes t.encode

def TextFits : Option Text → Prop
  | none => True
  | some t => EncodedFits t.encode

instance (t : Option Text) : Decidable (TextFits t) :=
  match t with
  | none => isTrue trivial
  | some t => inferInstanceAs (Decidable (EncodedFits t.encode))

theorem TextFits.isProper {t : Text} (h : TextFits (some t)) : t.IsProper := by
  cases t with
  | proper s => trivial
  | ill codes surrogate => exact h

theorem fitsInt32_flag (b : Bool) : FitsInt32 (if b then 1 else 0) := by
  cases b <;> decide

theorem fitsInt32_length {bs : Bytes} : FitsInt32 bs.length ↔ BlobFits (some bs) := by
  simp only [FitsInt32, BlobFits]
  omega

structure Appends (op : Op Unit) (fits : Prop) (bs : Bytes) : Prop where
  ok : fits → ∀ p : Parcel, op p = (.ok (), { p with buffer := p.buffer ++ bs })
  error : ¬ fits → ∀ p : Parcel, ∃ e q, op p = (.error e, q)

theorem Op.bind_apply (x : Op α) (f : α → Op β) (p : Parcel) :
    (x >>= f) p =
      match x p with
      | (.ok a, q) => f a q
      | (.error e, q) => (.error e, q) :=
  rfl

theorem appends_pure : Appends (pure ()) True [] where
  ok _ p := by
    rw [List.append_nil]
    rfl
  error h := absurd trivial h

theorem Appends.bind {x y : Op Unit} {c d : Prop} {a b : Bytes} (hx : Appends x c a)
    (hy : Appends y d b) : Appends (x >>= fun _ => y) (c ∧ d) (a ++ b) where
  ok h p := by
    rw [Op.bind_apply, hx.ok h.1]
    simp only [hy.ok h.2, List.append_assoc]
  error h p := by
    by_cases hc : c
    · have hd : ¬ d := fun hd => h ⟨hc, hd⟩
      rw [Op.bind_apply, hx.ok hc]
      exact hy.error hd _
    · obtain ⟨e, q, hq⟩ := hx.error hc p
      exact ⟨e, q, by rw [Op.bind_apply, hq]⟩

theorem appends_raw (bs : Bytes) : Appends (writeRaw bs) True bs where
  ok _ _ := rfl
  error h := absurd trivial h

theorem appends_number (width : Nat) (low high n : Int) :
    Appends (writeNumber width low high n) (low ≤ n ∧ n < high)
      (Bytes.ofNat width (n % Bytes.capacity width).toNat) where
  ok h p := by
    rw [writeNumber, if_pos h]
    rfl
  error h p := by
    rw [writeNumber, if_neg h]
    exact ⟨_, _, rfl⟩

theorem appends_int32 (n : Int) : Appends (writeInt32 n) (FitsInt32 n) (int32Bytes n) :=
  appends_number 4 _ _ n

theorem appends_flag (b : Bool) : Appends (writeBool b) True (flagBytes b) where
  ok _ := (appends_int32 _).ok (fitsInt32_flag b)
  error h := absurd trivial h

theorem appends_blob (o : Option Bytes) : Appends (writeBlob o) (BlobFits o) (blobBytes o) := by
  cases o with
  | none =>
      have h := appends_int32 absent
      exact ⟨fun _ => h.ok (by decide), fun hn => absurd trivial hn⟩
  | some bs =>
      have h := (appends_int32 bs.length).bind (appends_raw bs)
      exact ⟨fun fits => h.ok ⟨fitsInt32_length.2 fits, trivial⟩,
        fun large => h.error fun hn => large (fitsInt32_length.1 hn.1)⟩

theorem appends_text (o : Option Text) : Appends (writeString o) (TextFits o) (textBytes o) := by
  cases o with
  | none => exact appends_blob none
  | some t =>
      cases t with
      | proper s => exact appends_blob (some (Text.Utf8.encode s))
      | ill codes surrogate => exact ⟨False.elim, fun _ p => ⟨_, p, rfl⟩⟩

end Parcel

end Handover
