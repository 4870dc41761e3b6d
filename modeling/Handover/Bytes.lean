namespace Handover

abbrev Bytes := List UInt8

namespace Bytes

def ofNat : (width : Nat) → (n : Nat) → Bytes
  | 0, _ => []
  | width + 1, n => UInt8.ofNat (n % 256) :: ofNat width (n / 256)

def toNat : Bytes → Nat
  | [] => 0
  | b :: rest => b.toNat + 256 * toNat rest

def capacity : (width : Nat) → Nat
  | 0 => 1
  | width + 1 => 256 * capacity width

@[simp] theorem length_ofNat (width n : Nat) : (ofNat width n).length = width := by
  induction width generalizing n with
  | zero => rfl
  | succ w ih => simp [ofNat, ih]

theorem toNat_ofNat (width n : Nat) : toNat (ofNat width n) = n % capacity width := by
  induction width generalizing n with
  | zero => simp [ofNat, toNat, capacity, Nat.mod_one]
  | succ w ih =>
      have low : (UInt8.ofNat (n % 256)).toNat = n % 256 := by simp
      rw [ofNat, toNat, low, ih, capacity, Nat.mod_mul]

theorem toNat_lt (bs : Bytes) : toNat bs < capacity bs.length := by
  induction bs with
  | nil => simp [toNat, capacity]
  | cons b rest ih =>
      have hb := b.toNat_lt
      simp only [toNat, List.length_cons, capacity]
      omega

theorem ofNat_toNat (bs : Bytes) : ofNat bs.length (toNat bs) = bs := by
  induction bs with
  | nil => rfl
  | cons b rest ih =>
      have hb := b.toNat_lt
      have low : (b.toNat + 256 * toNat rest) % 256 = b.toNat := by omega
      have high : (b.toNat + 256 * toNat rest) / 256 = toNat rest := by omega
      simp [ofNat, toNat, low, high, ih]

end Bytes

/-- A position counted from the end when negative, kept between 0 and the length. -/
def bound (length : Nat) (i : Int) : Nat :=
  if i < 0 then (i + length).toNat else min i.toNat length

def slice (xs : List α) (i j : Int) : List α :=
  (xs.drop (bound xs.length i)).take (bound xs.length j - bound xs.length i)

theorem slice_nat (xs : List α) {i n : Nat} (h : i + n ≤ xs.length) :
    slice xs i (i + n) = (xs.drop i).take n := by
  have hi : ¬ (i : Int) < 0 := by omega
  have hj : ¬ (i : Int) + n < 0 := by omega
  have ei : min (i : Int).toNat xs.length = i := by omega
  have ej : min ((i : Int) + n).toNat xs.length = i + n := by omega
  simp only [slice, bound, hi, hj, if_false, ei, ej, Nat.add_sub_cancel_left]

end Handover
