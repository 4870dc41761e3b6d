import Handover.Proofs.Transfer.Reading
import Mathlib.Data.List.Infix

namespace Handover.Parcel

open Payload (Accepts take)

inductive Item where
  | raw (bs : Bytes)
  | uint8 (n : Int)
  | uint16 (n : Int)
  | int32 (n : Int)
  | flag (b : Bool)
  | blob (o : Option Bytes)
  | text (t : Option Text)
  deriving DecidableEq, Repr

inductive Shape where
  | raw (size : Nat)
  | uint8
  | uint16
  | int32
  | flag
  | blob
  | text
  deriving DecidableEq, Repr

def numberBytes (width : Nat) (n : Int) : Bytes :=
  Bytes.ofNat width (n % Bytes.capacity width).toNat

namespace Item

def shape : Item → Shape
  | raw bs => .raw bs.length
  | uint8 _ => .uint8
  | uint16 _ => .uint16
  | int32 _ => .int32
  | flag _ => .flag
  | blob _ => .blob
  | text _ => .text

def Fits : Item → Prop
  | raw _ => True
  | uint8 n => 0 ≤ n ∧ n < 0x100
  | uint16 n => 0 ≤ n ∧ n < 0x10000
  | int32 n => FitsInt32 n
  | flag _ => True
  | blob o => BlobFits o
  | text t => TextFits t

instance (i : Item) : Decidable i.Fits :=
  match i with
  | raw _ => isTrue trivial
  | uint8 n => inferInstanceAs (Decidable (0 ≤ n ∧ n < 0x100))
  | uint16 n => inferInstanceAs (Decidable (0 ≤ n ∧ n < 0x10000))
  | int32 n => inferInstanceAs (Decidable (FitsInt32 n))
  | flag _ => isTrue trivial
  | blob o => inferInstanceAs (Decidable (BlobFits o))
  | text t => inferInstanceAs (Decidable (TextFits t))

def bytes : Item → Bytes
  | raw bs => bs
  | uint8 n => numberBytes 1 n
  | uint16 n => numberBytes 2 n
  | int32 n => int32Bytes n
  | flag b => flagBytes b
  | blob o => blobBytes o
  | text t => textBytes t

def write : Item → Op Unit
  | raw bs => writeRaw bs
  | uint8 n => writeUint8 n
  | uint16 n => writeUint16 n
  | int32 n => writeInt32 n
  | flag b => writeBool b
  | blob o => writeBlob o
  | text t => writeString t

end Item

def Shape.read (what : String) : Shape → Op Item
  | raw size => do
      let bs ← readRaw size what
      pure (.raw bs)
  | uint8 => do
      let n ← readUint8 what
      pure (.uint8 n)
  | uint16 => do
      let n ← readUint16 what
      pure (.uint16 n)
  | int32 => do
      let n ← readInt32 what
      pure (.int32 n)
  | flag => do
      let b ← readBool what
      pure (.flag b)
  | blob => do
      let o ← readBlob what
      pure (.blob o)
  | text => do
      let t ← readString what
      pure (.text t)

theorem numberBytes_eq {width : Nat} {n : Int} (low : 0 ≤ n) (high : n < Bytes.capacity width) :
    (numberBytes width n).length = width ∧ (Bytes.toNat (numberBytes width n) : Int) = n := by
  obtain ⟨k, rfl⟩ := Int.eq_ofNat_of_zero_le low
  have small : k < Bytes.capacity width := Int.ofNat_lt.1 high
  have whole : ((k : Int) % Bytes.capacity width).toNat = k := by
    rw [Int.emod_eq_of_lt low high, Int.toNat_natCast]
  rw [numberBytes, whole, Bytes.toNat_ofNat, Nat.mod_eq_of_lt small]
  exact ⟨Bytes.length_ofNat width k, rfl⟩

theorem appends_item (i : Item) : Appends i.write i.Fits i.bytes := by
  cases i with
  | raw bs => exact appends_raw bs
  | uint8 n => exact appends_number 1 0 0x100 n
  | uint16 n => exact appends_number 2 0 0x10000 n
  | int32 n => exact appends_int32 n
  | flag b => exact appends_flag b
  | blob o => exact appends_blob o
  | text t => exact appends_text t

theorem take_eq_ok_iff {x : Op α} {p q : Parcel} {a : α} :
    take x p = .ok (a, q) ↔ x p = (.ok a, q) := by
  rw [take]
  rcases x p with ⟨_ | b, r⟩
  · simp
  · simp

theorem read_of_accepts {x : Op α} {L : Bytes → α → Prop} (accepts : Accepts (take x) L)
    {bs : Bytes} {a : α} (h : L bs a) (f : α → Item) (taken left : Bytes) :
    (x >>= fun a => pure (f a)) (between taken (bs ++ left)) =
      (.ok (f a), between (taken ++ bs) left) := by
  have read := (accepts.ok_iff taken (bs ++ left) a _).2 ⟨bs, left, rfl, h, rfl⟩
  rw [Op.bind_apply, take_eq_ok_iff.1 read]
  rfl

theorem read_number (width : Nat) {n : Int} (low : 0 ≤ n) (high : n < Bytes.capacity width)
    (f : Int → Item) (what : String) (taken left : Bytes) :
    (readNumber width what >>= fun k => pure (f k)) (between taken (numberBytes width n ++ left)) =
      (.ok (f n), between (taken ++ numberBytes width n) left) := by
  obtain ⟨length, number⟩ := numberBytes_eq low high
  have read := read_of_accepts (Payload.accepts_number width what) ⟨length, rfl⟩
    (fun k => f k) taken left
  rwa [number] at read

theorem read_item {i : Item} (fits : i.Fits) (what : String) (taken left : Bytes) :
    i.shape.read what (between taken (i.bytes ++ left)) =
      (.ok i, between (taken ++ i.bytes) left) := by
  cases i with
  | raw bs => exact read_of_accepts (Payload.accepts_raw bs.length what) ⟨rfl, rfl⟩ .raw taken left
  | uint8 n => exact read_number 1 fits.1 fits.2 .uint8 what taken left
  | uint16 n => exact read_number 2 fits.1 fits.2 .uint16 what taken left
  | int32 n => exact read_of_accepts (Payload.accepts_int32 what) ⟨fits, rfl⟩ .int32 taken left
  | flag b => exact read_of_accepts (Payload.accepts_flag what) rfl .flag taken left
  | blob o => exact read_of_accepts (Payload.accepts_blob what) ⟨fits, rfl⟩ .blob taken left
  | text t => exact read_of_accepts (Payload.accepts_text what) ⟨fits, rfl⟩ .text taken left

theorem write_item {i : Item} (fits : i.Fits) (taken left : Bytes) :
    i.write (between taken left) = (.ok (), between taken (left ++ i.bytes)) := by
  rw [(appends_item i).ok fits]
  simp [between]

inductive Step where
  | write (i : Item)
  | read (s : Shape) (what : String)
  deriving DecidableEq, Repr

def written : List Step → List Item
  | [] => []
  | .write i :: rest => i :: written rest
  | .read _ _ :: rest => written rest

def readings : List Step → List Shape
  | [] => []
  | .write _ :: rest => readings rest
  | .read s _ :: rest => s :: readings rest

def transmit : List Step → Op (List Item)
  | [] => pure []
  | .write i :: rest => do
      i.write
      transmit rest
  | .read s what :: rest => do
      let i ← s.read what
      let is ← transmit rest
      pure (i :: is)

/-- At each point, what was read so far has the shapes of what was put in first, where `queue` was in
the parcel already. -/
def MatchedAfter (queue : List Item) (steps : List Step) : Prop :=
  ∀ before, before <+: steps → readings before <+: (queue ++ written before).map Item.shape

def Matched (steps : List Step) : Prop :=
  ∀ before, before <+: steps → readings before <+: (written before).map Item.shape

theorem MatchedAfter.write {queue : List Item} {i : Item} {rest : List Step}
    (h : MatchedAfter queue (.write i :: rest)) : MatchedAfter (queue ++ [i]) rest := by
  intro before start
  have longer := h (.write i :: before) ((List.prefix_cons_inj _).2 start)
  rw [List.append_assoc]
  exact longer

theorem MatchedAfter.read {queue : List Item} {s : Shape} {what : String} {rest : List Step}
    (h : MatchedAfter queue (.read s what :: rest)) :
    ∃ i left, queue = i :: left ∧ i.shape = s ∧ MatchedAfter left rest := by
  have first := h [.read s what] (by simp)
  cases queue with
  | nil => simp [readings, written] at first
  | cons i left =>
      simp only [readings, written, List.append_nil, List.map_cons, List.cons_prefix_cons] at first
      refine ⟨i, left, rfl, first.1.symm, ?_⟩
      intro before start
      have longer := h (.read s what :: before) ((List.prefix_cons_inj _).2 start)
      simp only [readings, written, List.cons_append, List.map_cons, List.cons_prefix_cons] at longer
      exact longer.2

/-- What was in the parcel and what is put in is what is read and what is left. -/
theorem transmit_between {steps : List Step} {queue : List Item} (matched : MatchedAfter queue steps)
    (fits : ∀ i ∈ queue ++ written steps, i.Fits) (taken : Bytes) :
    ∃ got left, queue ++ written steps = got ++ left ∧ got.length = (readings steps).length ∧
      transmit steps (between taken (queue.flatMap Item.bytes)) =
        (.ok got, between (taken ++ got.flatMap Item.bytes) (left.flatMap Item.bytes)) := by
  induction steps generalizing queue taken with
  | nil =>
      refine ⟨[], queue, List.append_nil queue, rfl, ?_⟩
      rw [List.flatMap_nil, List.append_nil]
      rfl
  | cons step rest ih =>
      cases step with
      | write i =>
          have whole : queue ++ written (.write i :: rest) = (queue ++ [i]) ++ written rest := by
            rw [List.append_assoc]
            rfl
          rw [whole] at fits ⊢
          have fit : i.Fits := fits i (by simp)
          obtain ⟨got, left, parts, count, run⟩ := ih matched.write fits taken
          refine ⟨got, left, parts, count, ?_⟩
          rw [List.flatMap_append, List.flatMap_singleton] at run
          rw [transmit, Op.bind_apply, write_item fit]
          exact run
      | read s what =>
          obtain ⟨i, later, rfl, rfl, further⟩ := matched.read
          have fit : i.Fits := fits i (by simp)
          have others : ∀ j ∈ later ++ written rest, j.Fits := by
            intro j mem
            exact fits j (List.mem_cons_of_mem i mem)
          obtain ⟨got, left, parts, count, run⟩ := ih further others (taken ++ i.bytes)
          refine ⟨i :: got, left, congrArg (i :: ·) parts, congrArg Nat.succ count, ?_⟩
          rw [transmit, Op.bind_apply, List.flatMap_cons, read_item fit]
          dsimp only
          rw [Op.bind_apply, run, List.flatMap_cons, List.append_assoc]
          rfl

theorem transmit_fifo {steps : List Step} (matched : Matched steps)
    (fits : ∀ i ∈ written steps, i.Fits) :
    ∃ p, transmit steps {} = (.ok ((written steps).take (readings steps).length), p) ∧
      ((readings steps).length = (written steps).length →
        p.remaining = 0 ∧ expectEnd p = (.ok (), p)) := by
  have start : MatchedAfter [] steps := matched
  obtain ⟨got, left, parts, count, run⟩ := transmit_between start fits []
  change written steps = got ++ left at parts
  have front : (written steps).take (readings steps).length = got := by
    rw [parts, ← count, List.take_left]
  rw [front]
  refine ⟨_, run, ?_⟩
  intro all
  have none : left = [] := by
    rw [parts, List.length_append, ← count] at all
    exact List.length_eq_zero_iff.1 (by omega)
  have spent : (between ([] ++ got.flatMap Item.bytes) (left.flatMap Item.bytes)).remaining = 0 := by
    rw [remaining_between, none]
    rfl
  exact ⟨spent, by rw [expectEnd, if_pos spent]⟩

instance (steps : List Step) : Decidable (Matched steps) :=
  decidable_of_iff (∀ before ∈ steps.inits, readings before <+: (written before).map Item.shape)
    (by simp only [List.mem_inits, Matched])

def mixedSteps : List Step :=
  [.write (.text none), .write (.text (some "")), .read .text "first", .write (.raw [0, 255]),
    .write (.int32 (-1)), .read .text "second", .read (.raw 2) "third", .write (.flag true),
    .read .int32 "fourth", .read .flag "fifth"]

theorem transmit_fifo_mixed :
    Matched mixedSteps ∧ (∀ i ∈ written mixedSteps, i.Fits) ∧
      ∃ p, transmit mixedSteps {} = (.ok [.text none, .text (some ""), .raw [0, 255], .int32 (-1),
          .flag true], p) ∧ p.remaining = 0 ∧ expectEnd p = (.ok (), p) := by
  have matched : Matched mixedSteps := by decide
  have fits : ∀ i ∈ written mixedSteps, i.Fits := by decide +kernel
  obtain ⟨p, run, all⟩ := transmit_fifo matched fits
  exact ⟨matched, fits, p, run, all rfl⟩

end Handover.Parcel
