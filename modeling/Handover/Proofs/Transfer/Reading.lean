import Handover.Proofs.Parcel.Layout
import Handover.Transfer.Payload

/-!
Readings of a parcel as languages: which bytes a reading accepts, and as what. Every other input is
refused as malformed.
-/

namespace Handover.Parcel

def between (taken left : Bytes) : Parcel :=
  { buffer := taken ++ left, position := taken.length }

theorem remaining_between (taken left : Bytes) : (between taken left).remaining = left.length := by
  simp only [remaining, between, List.length_append]
  omega

theorem between_append (taken bs left : Bytes) :
    between (taken ++ bs) left =
      { between taken (bs ++ left) with position := (taken ++ bs).length } := by
  simp [between]

theorem readRaw_between {n : Nat} {left : Bytes} (h : n ≤ left.length) (what : String)
    (taken : Bytes) :
    readRaw n what (between taken left) =
      (.ok (left.take n), between (taken ++ left.take n) (left.drop n)) := by
  have enough : ¬ (between taken left).remaining < n := by
    rw [remaining_between]
    omega
  have part : slice (taken ++ left) taken.length (taken.length + n) = left.take n := by
    rw [slice_nat _ (by simp; omega), List.drop_left]
  simp only [readRaw, enough, if_false]
  rw [between_append, List.take_append_drop]
  simp [between, part, h]

theorem readRaw_short {n : Nat} {left : Bytes} (h : left.length < n) (what : String)
    (taken : Bytes) :
    readRaw n what (between taken left) =
      (.error (.truncated what n taken.length left.length), between taken left) := by
  have short : (left.length : Int) < n := by omega
  simp only [readRaw, remaining_between, short, if_true]
  rfl

end Handover.Parcel

namespace Handover

/-- A refusal of bytes that were read, not of something that was to be written. -/
def Parcel.Fault.OfBytes : Parcel.Fault → Prop
  | .width => False
  | .encoding _ => False
  | .serialization _ => False
  | _ => True

def Malformed.OfBytes : Malformed → Prop
  | .parcel e => e.OfBytes
  | _ => True

end Handover

namespace Handover.Payload

open Parcel (between)

theorem Decode.bind_apply (x : Decode α) (f : α → Decode β) (p : Parcel) :
    (x >>= f) p =
      match x p with
      | .ok (a, q) => f a q
      | .error e => .error e :=
  rfl

theorem Decode.bind_eq_ok {x : Decode α} {f : α → Decode β} {p : Parcel} {r : β × Parcel} :
    (x >>= f) p = .ok r ↔ ∃ a q, x p = .ok (a, q) ∧ f a q = .ok r := by
  rw [bind_apply]
  cases x p with
  | error e => exact ⟨nofun, nofun⟩
  | ok s =>
      constructor
      · intro h
        exact ⟨s.1, s.2, rfl, h⟩
      · rintro ⟨_, _, ⟨⟩, h⟩
        exact h

theorem Decode.bind_eq_error {x : Decode α} {f : α → Decode β} {p : Parcel} {e : Malformed} :
    (x >>= f) p = .error e ↔
      x p = .error e ∨ ∃ a q, x p = .ok (a, q) ∧ f a q = .error e := by
  rw [bind_apply]
  cases x p with
  | error e' =>
      constructor
      · rintro ⟨⟩
        exact .inl rfl
      · rintro (⟨⟨⟩⟩ | ⟨_, _, ⟨⟩, _⟩)
        rfl
  | ok s =>
      constructor
      · intro h
        exact .inr ⟨s.1, s.2, rfl, h⟩
      · rintro (⟨⟨⟩⟩ | ⟨_, _, ⟨⟩, h⟩)
        exact h

def MalformedOnly (x : Decode α) : Prop :=
  ∀ taken left e, x (between taken left) = .error e → e.OfBytes

/-- A reading accepts the bytes of a language at the front of what is left, and takes only them. -/
structure Accepts (x : Decode α) (L : Bytes → α → Prop) : Prop where
  ok_iff : ∀ taken left a p, x (between taken left) = .ok (a, p) ↔
    ∃ bs rest, left = bs ++ rest ∧ L bs a ∧ p = between (taken ++ bs) rest
  malformed : MalformedOnly x

def PrefixFree (L : Bytes → α → Prop) : Prop :=
  ∀ bs rest a b, L bs a → L (bs ++ rest) b → rest = []

structure AcceptsAll (x : Decode α) (L : Bytes → α → Prop) : Prop where
  ok_iff : ∀ taken left a, (∃ p, x (between taken left) = .ok (a, p)) ↔ L left a
  malformed : MalformedOnly x
  prefixFree : PrefixFree L

theorem Accepts.congr {x : Decode α} {L M : Bytes → α → Prop} (hx : Accepts x L)
    (h : ∀ bs a, L bs a ↔ M bs a) : Accepts x M := by
  have same : L = M := funext fun bs => funext fun a => propext (h bs a)
  exact same ▸ hx

theorem AcceptsAll.congr {x : Decode α} {L M : Bytes → α → Prop} (hx : AcceptsAll x L)
    (h : ∀ bs a, L bs a ↔ M bs a) : AcceptsAll x M := by
  have same : L = M := funext fun bs => funext fun a => propext (h bs a)
  exact same ▸ hx

theorem accepts_pure (a : α) : Accepts (pure a) fun bs b => bs = [] ∧ b = a where
  ok_iff taken left b p := by
    constructor
    · rintro ⟨⟩
      exact ⟨[], left, rfl, ⟨rfl, rfl⟩, by rw [List.append_nil]⟩
    · rintro ⟨_, _, rfl, ⟨rfl, rfl⟩, rfl⟩
      rw [List.append_nil]
      rfl
  malformed _ _ _ h := nomatch h

theorem accepts_fail {e : Malformed} (h : e.OfBytes) :
    Accepts (Decode.fail e : Decode α) fun _ _ => False where
  ok_iff _ _ _ _ := ⟨nofun, fun ⟨_, _, _, no, _⟩ => no.elim⟩
  malformed _ _ _ he := by
    cases he
    exact h

theorem acceptsAll_fail {e : Malformed} (h : e.OfBytes) :
    AcceptsAll (Decode.fail e : Decode α) fun _ _ => False where
  ok_iff _ _ _ := ⟨nofun, False.elim⟩
  malformed _ _ _ he := by
    cases he
    exact h
  prefixFree _ _ _ _ no := no.elim

theorem MalformedOnly.bind {x : Decode α} {f : α → Decode β} {L : Bytes → α → Prop}
    (hx : Accepts x L) (hf : ∀ bs a, L bs a → MalformedOnly (f a)) : MalformedOnly (x >>= f) := by
  intro taken left e h
  obtain h | ⟨a, q, ha, h⟩ := Decode.bind_eq_error.1 h
  · exact hx.malformed _ _ _ h
  · obtain ⟨bs, rest, rfl, hbs, rfl⟩ := (hx.ok_iff taken left a q).1 ha
    exact hf bs a hbs _ _ _ h

def Followed (L : Bytes → α → Prop) (M : α → Bytes → β → Prop) (bs : Bytes) (b : β) : Prop :=
  ∃ a front back, bs = front ++ back ∧ L front a ∧ M a back b

theorem followed_layout {layout : α → Bytes} {M : α → Bytes → β → Prop} {bs : Bytes} {b : β} :
    Followed (fun bs a => bs = layout a) M bs b ↔ ∃ a rest, bs = layout a ++ rest ∧ M a rest b := by
  constructor
  · rintro ⟨a, _, rest, rfl, rfl, h⟩
    exact ⟨a, rest, rfl, h⟩
  · rintro ⟨a, rest, rfl, h⟩
    exact ⟨a, layout a, rest, rfl, rfl, h⟩

theorem followed_fitting {fits : α → Prop} {layout : α → Bytes} {M : α → Bytes → β → Prop}
    {bs : Bytes} {b : β} :
    Followed (fun bs a => fits a ∧ bs = layout a) M bs b ↔
      ∃ a rest, fits a ∧ bs = layout a ++ rest ∧ M a rest b := by
  constructor
  · rintro ⟨a, _, rest, rfl, ⟨fit, rfl⟩, h⟩
    exact ⟨a, rest, fit, rfl, h⟩
  · rintro ⟨a, rest, fit, rfl, h⟩
    exact ⟨a, layout a, rest, rfl, ⟨fit, rfl⟩, h⟩

theorem Accepts.bind {x : Decode α} {f : α → Decode β} {L : Bytes → α → Prop}
    {M : α → Bytes → β → Prop} (hx : Accepts x L) (hf : ∀ bs a, L bs a → Accepts (f a) (M a)) :
    Accepts (x >>= f) (Followed L M) where
  ok_iff taken left b p := by
    rw [Decode.bind_eq_ok]
    constructor
    · rintro ⟨a, q, ha, hb⟩
      obtain ⟨front, rest, rfl, hfront, rfl⟩ := (hx.ok_iff taken left a q).1 ha
      obtain ⟨back, rest, rfl, hback, rfl⟩ := ((hf front a hfront).ok_iff _ _ b p).1 hb
      exact ⟨front ++ back, rest, by simp, ⟨a, front, back, rfl, hfront, hback⟩, by simp⟩
    · rintro ⟨_, rest, rfl, ⟨a, front, back, rfl, hfront, hback⟩, rfl⟩
      refine ⟨a, _, (hx.ok_iff _ _ _ _).2 ⟨front, back ++ rest, by simp, hfront, rfl⟩, ?_⟩
      exact ((hf front a hfront).ok_iff _ _ b _).2 ⟨back, rest, rfl, hback, by simp⟩
  malformed := .bind hx fun bs a h => (hf bs a h).malformed

theorem Accepts.unique {x : Decode α} {L : Bytes → α → Prop} (hx : Accepts x L)
    {front back front' back' : Bytes} {a a' : α} (h : L front a) (h' : L front' a')
    (same : front ++ back = front' ++ back') : front = front' ∧ a = a' ∧ back = back' := by
  have read := (hx.ok_iff [] (front ++ back) a _).2 ⟨front, back, rfl, h, rfl⟩
  have read' := (hx.ok_iff [] (front ++ back) a' _).2 ⟨front', back', same, h', rfl⟩
  rw [read] at read'
  simp only [Except.ok.injEq, Prod.mk.injEq, between, Parcel.mk.injEq, List.nil_append] at read'
  obtain ⟨value, -, length⟩ := read'
  obtain ⟨hfront, hback⟩ := List.append_inj same (Int.ofNat.inj length)
  exact ⟨hfront, value, hback⟩

/-- Where the first part ends is seen from its own bytes, so only the second one can go on. -/
theorem PrefixFree.followed {x : Decode α} {L : Bytes → α → Prop} {M : α → Bytes → β → Prop}
    (hx : Accepts x L) (hM : ∀ bs a, L bs a → PrefixFree (M a)) : PrefixFree (Followed L M) := by
  rintro _ rest b b' ⟨a, front, back, rfl, hfront, hback⟩ ⟨a', front', back', same, hfront', hback'⟩
  rw [List.append_assoc] at same
  obtain ⟨rfl, rfl, rfl⟩ := hx.unique hfront hfront' same
  exact hM front a hfront back rest b b' hback hback'

theorem Accepts.bindAll {x : Decode α} {f : α → Decode β} {L : Bytes → α → Prop}
    {M : α → Bytes → β → Prop} (hx : Accepts x L)
    (hf : ∀ bs a, L bs a → AcceptsAll (f a) (M a)) : AcceptsAll (x >>= f) (Followed L M) where
  ok_iff taken left b := by
    simp only [Decode.bind_eq_ok]
    constructor
    · rintro ⟨p, a, q, ha, hb⟩
      obtain ⟨front, back, rfl, hfront, rfl⟩ := (hx.ok_iff taken left a q).1 ha
      exact ⟨a, front, back, rfl, hfront, ((hf front a hfront).ok_iff _ _ b).1 ⟨p, hb⟩⟩
    · rintro ⟨a, front, back, rfl, hfront, hback⟩
      obtain ⟨p, hp⟩ := ((hf front a hfront).ok_iff (taken ++ front) back b).2 hback
      exact ⟨p, a, _, (hx.ok_iff _ _ _ _).2 ⟨front, back, rfl, hfront, rfl⟩, hp⟩
  malformed := .bind hx fun bs a h => (hf bs a h).malformed
  prefixFree := .followed hx fun bs a h => (hf bs a h).prefixFree

theorem take_bind (x : Parcel.Op α) (f : α → Parcel.Op β) :
    take (x >>= f) = take x >>= fun a => take (f a) := by
  funext p
  simp only [take, Parcel.Op.bind_apply, Decode.bind_apply]
  rcases x p with ⟨_ | _, q⟩ <;> rfl

theorem accepts_raw (n : Nat) (what : String) :
    Accepts (take (Parcel.readRaw n what)) fun bs a => bs.length = n ∧ a = bs where
  ok_iff taken left a p := by
    by_cases h : n ≤ left.length
    · simp only [take, Parcel.readRaw_between h]
      constructor
      · rintro ⟨⟩
        exact ⟨left.take n, left.drop n, by simp, ⟨by simp [h], rfl⟩, rfl⟩
      · rintro ⟨bs, rest, rfl, ⟨rfl, rfl⟩, rfl⟩
        simp
    · simp only [take, Parcel.readRaw_short (Nat.lt_of_not_le h)]
      constructor
      · nofun
      · rintro ⟨bs, rest, rfl, ⟨rfl, rfl⟩, rfl⟩
        simp at h
  malformed taken left e he := by
    by_cases h : n ≤ left.length
    · simp [take, Parcel.readRaw_between h] at he
    · simp only [take, Parcel.readRaw_short (Nat.lt_of_not_le h)] at he
      cases he
      trivial

theorem accepts_fault {e : Parcel.Fault} (h : e.OfBytes) :
    Accepts (take (Parcel.Op.fail e) : Decode α) fun _ _ => False :=
  accepts_fail (e := .parcel e) h

theorem accepts_number (width : Nat) (what : String) :
    Accepts (take (Parcel.readNumber width what)) fun bs n =>
      bs.length = width ∧ Bytes.toNat bs = n := by
  have step : ∀ bs a, bs.length = width ∧ a = bs →
      Accepts (take (if a.length = width then pure (Bytes.toNat a) else Parcel.Op.fail .width))
        fun rest n => rest = [] ∧ n = Bytes.toNat a := by
    rintro bs _ ⟨h, rfl⟩
    rw [if_pos h]
    exact accepts_pure _
  rw [Parcel.readNumber, take_bind]
  refine ((accepts_raw width what).bind step).congr fun bs n => ?_
  constructor
  · rintro ⟨_, front, _, rfl, ⟨h, rfl⟩, rfl, rfl⟩
    simp [h]
  · rintro ⟨h, rfl⟩
    exact ⟨bs, bs, [], by simp, ⟨h, rfl⟩, rfl, rfl⟩

theorem accepts_int32 (what : String) :
    Accepts (take (Parcel.readInt32 what)) fun bs n =>
      Parcel.FitsInt32 n ∧ bs = Parcel.int32Bytes n := by
  rw [Parcel.readInt32, take_bind]
  refine ((accepts_number 4 what).bind fun _ n _ => accepts_pure (Parcel.signed32 n)).congr
    fun bs n => ?_
  constructor
  · rintro ⟨_, front, _, rfl, ⟨h, rfl⟩, rfl, rfl⟩
    rw [List.append_nil]
    exact ⟨Parcel.fitsInt32_signed32 h, (Parcel.int32Bytes_signed32 h).symm⟩
  · rintro ⟨h, rfl⟩
    exact ⟨_, Parcel.int32Bytes n, [], by simp, ⟨by simp, rfl⟩, rfl,
      (Parcel.signed32_int32Bytes h).symm⟩

theorem accepts_flag (what : String) :
    Accepts (take (Parcel.readBool what)) fun bs b => bs = Parcel.flagBytes b := by
  have step : ∀ bs n, Parcel.FitsInt32 n ∧ bs = Parcel.int32Bytes n →
      Accepts (take (if n = 0 then pure false else if n = 1 then pure true
        else Parcel.Op.fail (.flag what n)))
        fun rest b => rest = [] ∧ n = if b then 1 else 0 := by
    intro bs n _
    by_cases zero : n = 0
    · subst zero
      refine (accepts_pure false).congr fun rest b => ?_
      cases b <;> simp
    · by_cases one : n = 1
      · subst one
        refine (accepts_pure true).congr fun rest b => ?_
        cases b <;> simp
      · rw [if_neg zero, if_neg one]
        refine (accepts_fault (e := .flag what n) trivial).congr fun rest b => ?_
        cases b <;> simp [zero, one]
  rw [Parcel.readBool, take_bind]
  refine ((accepts_int32 what).bind step).congr fun bs b => ?_
  constructor
  · rintro ⟨_, front, _, rfl, ⟨_, rfl⟩, rfl, rfl⟩
    rw [List.append_nil]
    rfl
  · rintro rfl
    exact ⟨_, Parcel.flagBytes b, [], by simp, ⟨Parcel.fitsInt32_flag b, rfl⟩, rfl, rfl⟩

theorem accepts_length (what : String) :
    Accepts (take (Parcel.readLength what)) fun bs n =>
      (Parcel.FitsInt32 n ∧ bs = Parcel.int32Bytes n) ∧ Parcel.absent ≤ n := by
  have step : ∀ bs n, Parcel.FitsInt32 n ∧ bs = Parcel.int32Bytes n →
      Accepts (take (if n < Parcel.absent then Parcel.Op.fail (.length what n) else pure n))
        fun rest m => (rest = [] ∧ m = n) ∧ Parcel.absent ≤ n := by
    intro bs n _
    by_cases low : n < Parcel.absent
    · rw [if_pos low]
      refine (accepts_fault (e := .length what n) trivial).congr fun rest m => ?_
      simp [Int.not_le.2 low]
    · rw [if_neg low]
      refine (accepts_pure n).congr fun rest m => ?_
      simp [Int.not_lt.1 low]
  rw [Parcel.readLength, take_bind]
  refine ((accepts_int32 _).bind step).congr fun bs n => ?_
  constructor
  · rintro ⟨m, front, _, rfl, ⟨fits, rfl⟩, ⟨rfl, rfl⟩, h⟩
    exact ⟨⟨fits, by simp⟩, h⟩
  · rintro ⟨⟨fits, rfl⟩, h⟩
    exact ⟨n, _, [], by simp, ⟨fits, rfl⟩, ⟨rfl, rfl⟩, h⟩

theorem accepts_blob (what : String) :
    Accepts (take (Parcel.readBlob what)) fun bs o =>
      Parcel.BlobFits o ∧ bs = Parcel.blobBytes o := by
  have step : ∀ bs n, (Parcel.FitsInt32 n ∧ bs = Parcel.int32Bytes n) ∧ Parcel.absent ≤ n →
      Accepts (take (if n = Parcel.absent then pure none
        else Parcel.readRaw n what >>= fun bs => pure (some bs)))
        fun rest o => (n = Parcel.absent ∧ rest = [] ∧ o = none) ∨
          (n = rest.length ∧ o = some rest) := by
    rintro bs n ⟨_, h⟩
    by_cases null : n = Parcel.absent
    · subst null
      rw [if_pos rfl]
      refine (accepts_pure none).congr fun rest o => ?_
      have negative : Parcel.absent ≠ rest.length := by
        rw [Parcel.absent]
        omega
      simp [negative]
    · have positive : 0 ≤ n := by
        rw [Parcel.absent] at *
        omega
      obtain ⟨k, rfl⟩ : ∃ k : Nat, n = k := Int.eq_ofNat_of_zero_le positive
      rw [if_neg null, take_bind]
      refine ((accepts_raw k what).bind fun _ a _ => accepts_pure (some a)).congr fun rest o => ?_
      constructor
      · rintro ⟨_, front, _, rfl, ⟨rfl, rfl⟩, rfl, rfl⟩
        simp
      · rintro (⟨h, _⟩ | ⟨h, rfl⟩)
        · exact absurd h null
        · exact ⟨rest, rest, [], by simp, ⟨by omega, rfl⟩, rfl, rfl⟩
  rw [Parcel.readBlob, take_bind]
  refine ((accepts_length what).bind step).congr fun bs o => ?_
  constructor
  · rintro ⟨n, front, back, rfl, ⟨⟨fits, rfl⟩, _⟩, ⟨rfl, rfl, rfl⟩ | ⟨rfl, rfl⟩⟩
    · exact ⟨trivial, by simp [Parcel.blobBytes]⟩
    · exact ⟨Parcel.fitsInt32_length.1 fits, rfl⟩
  · rintro ⟨fits, rfl⟩
    cases o with
    | none =>
        exact ⟨Parcel.absent, Parcel.blobBytes none, [], by simp, ⟨⟨by decide, rfl⟩, Int.le_refl _⟩,
          .inl ⟨rfl, rfl, rfl⟩⟩
    | some bs =>
        have low : Parcel.absent ≤ bs.length := by
          rw [Parcel.absent]
          omega
        exact ⟨bs.length, Parcel.int32Bytes bs.length, bs, rfl,
          ⟨⟨Parcel.fitsInt32_length.2 fits, rfl⟩, low⟩, .inr ⟨rfl, rfl⟩⟩

def textOf (what : String) : Option Bytes → Parcel.Op (Option Text)
  | none => pure none
  | some bs =>
      match Text.Utf8.decode? bs with
      | some s => pure (some (.proper s))
      | none => Parcel.Op.fail (.text what)

theorem readString_eq (what : String) :
    Parcel.readString what = Parcel.readBlob what >>= textOf what := by
  rw [Parcel.readString]
  congr 1

def Holds : Option Bytes → Option Text → Prop
  | none, o => o = none
  | some bs, o => ∃ s : String, o = some (.proper s) ∧ bs = Text.Utf8.encode s

theorem fits_iff_holds {o : Option Text} {bs : Bytes} :
    Parcel.TextFits o ∧ bs = Parcel.textBytes o ↔
      ∃ blob, Parcel.BlobFits blob ∧ bs = Parcel.blobBytes blob ∧ Holds blob o := by
  constructor
  · rintro ⟨fits, rfl⟩
    match o with
    | none => exact ⟨none, trivial, rfl, rfl⟩
    | some (.proper s) => exact ⟨some (Text.Utf8.encode s), fits, rfl, s, rfl, rfl⟩
    | some (.ill _ _) => exact fits.elim
  · rintro ⟨blob, fits, rfl, holds⟩
    cases blob with
    | none =>
        cases holds
        exact ⟨trivial, rfl⟩
    | some bs =>
        obtain ⟨s, rfl, rfl⟩ := holds
        exact ⟨fits, rfl⟩

theorem accepts_textOf (what : String) (o : Option Bytes) :
    Accepts (take (textOf what o)) fun rest t => rest = [] ∧ Holds o t := by
  cases o with
  | none => exact accepts_pure none
  | some bs =>
      cases decoded : Text.Utf8.decode? bs with
      | none =>
          simp only [textOf, decoded]
          refine (accepts_fault (e := .text what) trivial).congr fun rest t => ?_
          have other : ∀ s, ¬ bs = Text.Utf8.encode s := fun s => by
            rw [← Text.Utf8.decode?_eq_some_iff, decoded]
            nofun
          simp [Holds, other]
      | some u =>
          simp only [textOf, decoded]
          refine (accepts_pure (some (Text.proper u))).congr fun rest t => ?_
          have same : ∀ s, bs = Text.Utf8.encode s ↔ s = u := fun s => by
            rw [← Text.Utf8.decode?_eq_some_iff, decoded]
            exact ⟨fun h => (Option.some.inj h).symm, fun h => congrArg some h.symm⟩
          simp [Holds, same]

theorem accepts_text (what : String) :
    Accepts (take (Parcel.readString what)) fun bs o =>
      Parcel.TextFits o ∧ bs = Parcel.textBytes o := by
  rw [readString_eq, take_bind]
  refine ((accepts_blob what).bind fun _ o _ => accepts_textOf what o).congr fun bs o => ?_
  rw [fits_iff_holds]
  constructor
  · rintro ⟨blob, front, _, rfl, ⟨fits, rfl⟩, rfl, holds⟩
    exact ⟨blob, fits, by simp, holds⟩
  · rintro ⟨blob, fits, rfl, holds⟩
    exact ⟨blob, _, [], by simp, ⟨fits, rfl⟩, rfl, holds⟩

theorem expectEnd_between (taken left : Bytes) :
    take Parcel.expectEnd (between taken left) =
      if left = [] then .ok ((), between taken left)
      else .error (.parcel (.trailing left.length)) := by
  simp only [take, Parcel.expectEnd, Parcel.remaining_between]
  by_cases h : left = [] <;> simp [h]

theorem acceptsAll_end (a : α) :
    AcceptsAll (take Parcel.expectEnd >>= fun _ => pure a) fun bs b => bs = [] ∧ b = a where
  ok_iff taken left b := by
    simp only [Decode.bind_eq_ok, expectEnd_between]
    constructor
    · rintro ⟨p, _, q, h, ⟨⟩⟩
      by_cases ended : left = []
      · exact ⟨ended, rfl⟩
      · simp [ended] at h
    · rintro ⟨rfl, rfl⟩
      exact ⟨_, (), _, rfl, rfl⟩
  malformed taken left e h := by
    rw [Decode.bind_eq_error, expectEnd_between] at h
    obtain h | ⟨_, _, _, ⟨⟩⟩ := h
    by_cases ended : left = []
    · simp [ended] at h
    · rw [if_neg ended] at h
      cases h
      trivial
  prefixFree bs rest a b := by
    rintro ⟨rfl, -⟩ ⟨ended, -⟩
    exact ended

theorem decoded_eq_ok_iff {x : Decode α} {L : Bytes → α → Prop} (hx : AcceptsAll x L) {bs : Bytes}
    {a : α} : decoded x bs = .ok a ↔ L bs a := by
  have start : Parcel.ofBytes bs = between [] bs := rfl
  rw [← hx.ok_iff [] bs a, decoded, start]
  cases x (between [] bs) with
  | error e => simp
  | ok r => simp [Prod.ext_iff]

theorem malformed_of_decoded {x : Decode α} {L : Bytes → α → Prop} (hx : AcceptsAll x L)
    {bs : Bytes} {e : Malformed} (h : decoded x bs = .error e) : e.OfBytes := by
  refine hx.malformed [] bs e ?_
  have start : Parcel.ofBytes bs = between [] bs := rfl
  rw [decoded, start] at h
  cases hr : x (between [] bs) with
  | error e' =>
      rw [hr] at h
      cases h
      rfl
  | ok r =>
      rw [hr] at h
      cases h

theorem decoded_eq_error {x : Decode α} {L : Bytes → α → Prop} (hx : AcceptsAll x L) {bs : Bytes}
    (h : ∀ a, ¬ L bs a) : ∃ e, decoded x bs = .error e ∧ e.OfBytes := by
  cases hd : decoded x bs with
  | ok a => exact absurd ((decoded_eq_ok_iff hx).1 hd) (h a)
  | error e => exact ⟨e, rfl, malformed_of_decoded hx hd⟩

def headerBytes (kind : Kind) : Bytes :=
  Malformed.magicBytes ++ Bytes.ofNat 2 formatVersion ++ Bytes.ofNat 1 kind.code

theorem Accepts.expect {r : Decode β} {L : Bytes → β → Prop} {x : Decode α}
    {M : Bytes → α → Prop} (bad : β → Prop) [DecidablePred bad] (e : β → Malformed) (lit : Bytes)
    (he : ∀ b, (e b).OfBytes) (hr : Accepts r L)
    (h : ∀ bs, (∃ b, L bs b ∧ ¬ bad b) ↔ bs = lit) (hx : Accepts x M) :
    Accepts (r >>= fun b => if bad b then Decode.fail (e b) else x)
      fun bs a => ∃ rest, bs = lit ++ rest ∧ M rest a := by
  have step : ∀ bs b, L bs b → Accepts (if bad b then Decode.fail (e b) else x)
      fun rest a => ¬ bad b ∧ M rest a := by
    intro bs b _
    by_cases hb : bad b
    · rw [if_pos hb]
      exact (accepts_fail (he b)).congr fun rest a => by simp [hb]
    · rw [if_neg hb]
      exact hx.congr fun rest a => by simp [hb]
  refine (hr.bind step).congr fun bs a => ?_
  constructor
  · rintro ⟨b, front, back, rfl, hfront, good, hback⟩
    exact ⟨back, by rw [(h front).1 ⟨b, hfront, good⟩], hback⟩
  · rintro ⟨back, rfl, hback⟩
    obtain ⟨b, hb, good⟩ := (h lit).2 rfl
    exact ⟨b, lit, back, rfl, hb, good, hback⟩

theorem expected_magic (bs : Bytes) :
    (∃ magic, (bs.length = Malformed.magicBytes.length ∧ magic = bs) ∧
      ¬ magic ≠ Malformed.magicBytes) ↔ bs = Malformed.magicBytes := by
  constructor
  · rintro ⟨_, ⟨_, rfl⟩, same⟩
    exact Decidable.not_not.1 same
  · rintro rfl
    exact ⟨_, ⟨rfl, rfl⟩, by simp⟩

theorem expected_version (bs : Bytes) :
    (∃ version, (bs.length = 2 ∧ Bytes.toNat bs = version) ∧ ¬ version ∉ readableVersions) ↔
      bs = Bytes.ofNat 2 formatVersion := by
  rw [← Bytes.eq_ofNat_iff (by decide)]
  simp [readableVersions]

theorem expected_kind (kind : Kind) (bs : Bytes) :
    (∃ found, (bs.length = 1 ∧ Bytes.toNat bs = found) ∧ ¬ found ≠ kind.code) ↔
      bs = Bytes.ofNat 1 kind.code := by
  have small : kind.code < Bytes.capacity 1 := by cases kind <;> decide
  rw [← Bytes.eq_ofNat_iff small]
  simp

theorem accepts_header (kind : Kind) :
    Accepts (readHeader kind) fun bs _ => bs = headerBytes kind := by
  have found := Accepts.expect (· ≠ kind.code) (.kind · kind.code) _ (fun _ => trivial)
    (accepts_number 1 "payload kind") (expected_kind kind) (accepts_pure ())
  have version := Accepts.expect (· ∉ readableVersions) .version _ (fun _ => trivial)
    (accepts_number 2 "format version") expected_version found
  have magic := Accepts.expect (· ≠ Malformed.magicBytes) .magic _ (fun _ => trivial)
    (accepts_raw Malformed.magicBytes.length "magic") expected_magic version
  refine magic.congr fun bs _ => ?_
  simp [headerBytes]

theorem appends_header (kind : Kind) :
    Parcel.Appends (writeHeader kind) True (headerBytes kind) := by
  have version := Parcel.appends_number 2 0 0x10000 formatVersion
  have code := Parcel.appends_number 1 0 0x100 kind.code
  have h := (Parcel.appends_raw Malformed.magicBytes).bind (version.bind code)
  have fits : True ∧ (0 ≤ (formatVersion : Int) ∧ (formatVersion : Int) < 0x10000) ∧
      0 ≤ (kind.code : Int) ∧ (kind.code : Int) < 0x100 := by
    cases kind <;> decide
  have bytes : headerBytes kind = Malformed.magicBytes ++
      (Bytes.ofNat 2 ((formatVersion : Int) % Bytes.capacity 2).toNat ++
        Bytes.ofNat 1 ((kind.code : Int) % Bytes.capacity 1).toNat) := by
    cases kind <;> decide
  rw [bytes]
  exact ⟨fun _ => h.ok fits, fun no => absurd trivial no⟩

theorem written_eq_ok_iff {op : Parcel.Op Unit} {fits : Prop} {bs d : Bytes}
    (h : Parcel.Appends op fits bs) : written op = .ok d ↔ fits ∧ d = bs := by
  by_cases hf : fits
  · have run := h.ok hf {}
    simp only [written, run]
    simp [hf, eq_comm]
  · obtain ⟨e, q, run⟩ := h.error hf {}
    simp [written, run, hf]

end Handover.Payload
