import Handover.Number.Integer
import Handover.Proofs.Text.Trim
import Mathlib.Data.Nat.Digits.Defs

namespace Handover

namespace Text

def IsDigit (c : Char) (d : Nat) : Prop :=
  d < 10 ∧ ∃ z ∈ zeros, c.toNat = z + d

theorem zeros_apart : ∀ a ∈ zeros, ∀ b ∈ zeros, a = b ∨ a + 10 ≤ b ∨ b + 10 ≤ a := by
  decide +kernel

theorem zeros_visible : ∀ z ∈ zeros, (0x20 < z ∧ z + 10 ≤ 0x85) ∨ (0xA0 < z ∧ z + 10 ≤ 0x1680) ∨
    (0x1680 < z ∧ z + 10 ≤ 0x2000) ∨ 0x3000 < z := by
  decide

theorem decimalValue?_eq_some_iff {c : Char} {d : Nat} :
    decimalValue? c = some d ↔ IsDigit c d := by
  constructor
  · intro h
    obtain ⟨z, found, rfl⟩ := Option.map_eq_some_iff.1 h
    have within := List.find?_some found
    simp only [Bool.and_eq_true, decide_eq_true_eq] at within
    exact ⟨by omega, z, List.mem_of_find?_eq_some found, by omega⟩
  · rintro ⟨small, z, mem, code⟩
    rw [decimalValue?]
    cases found : zeros.find? fun z => z ≤ c.toNat && c.toNat < z + 10 with
    | none =>
        have out := List.find?_eq_none.1 found z mem
        simp only [Bool.and_eq_true, decide_eq_true_eq] at out
        omega
    | some z' =>
        have within := List.find?_some found
        simp only [Bool.and_eq_true, decide_eq_true_eq] at within
        have same := zeros_apart z mem z' (List.mem_of_find?_eq_some found)
        simp only [Option.map_some, Option.some.injEq]
        omega

theorem IsDigit.visible {c : Char} {d : Nat} (h : IsDigit c d) : isBlank c = false := by
  obtain ⟨small, z, mem, code⟩ := h
  have apart := zeros_visible z mem
  simp only [isBlank, isWhiteSpace, Bool.or_eq_false_iff, Bool.and_eq_false_iff,
    decide_eq_false_iff_not, beq_eq_false_iff_ne]
  omega

theorem isDigit_ascii {c : Char} (h : c.isDigit = true) : IsDigit c (c.toNat - '0'.toNat) := by
  have range : 48 ≤ c.toNat ∧ c.toNat ≤ 57 := by
    simpa [Char.isDigit, UInt32.le_iff_toNat_le] using h
  refine ⟨?_, 0x30, by decide, ?_⟩
  · show c.toNat - 48 < 10
    omega
  · show c.toNat = 48 + (c.toNat - 48)
    omega

theorem not_isDigit {c : Char} (h : decimalValue? c = none) (d : Nat) : ¬ IsDigit c d := by
  rw [← decimalValue?_eq_some_iff, h]
  nofun

end Text

namespace Number

open Text (IsDigit isBlank)

inductive DigitRun : List Char → List Nat → Prop where
  | one {c d} (digit : IsDigit c d) : DigitRun [c] [d]
  | next {c d cs ds} (digit : IsDigit c d) (rest : DigitRun cs ds) : DigitRun (c :: cs) (d :: ds)
  | apart {c d cs ds} (digit : IsDigit c d) (rest : DigitRun cs ds) :
      DigitRun (c :: '_' :: cs) (d :: ds)

theorem DigitRun.ne_nil {cs : List Char} {ds : List Nat} (h : DigitRun cs ds) : cs ≠ [] := by
  cases h <;> simp

theorem DigitRun.head {cs : List Char} {ds : List Nat} (h : DigitRun cs ds) :
    ∀ c ∈ cs.head?, ∃ d, IsDigit c d := by
  cases h with
  | one digit => simpa using ⟨_, digit⟩
  | next digit => simpa using ⟨_, digit⟩
  | apart digit => simpa using ⟨_, digit⟩

theorem DigitRun.last {cs : List Char} {ds : List Nat} (h : DigitRun cs ds) :
    ∀ c ∈ cs.getLast?, ∃ d, IsDigit c d := by
  induction h with
  | one digit => simpa using ⟨_, digit⟩
  | next digit rest ih => simpa [List.getLast?_cons_of_ne_nil rest.ne_nil] using ih
  | apart digit rest ih => simpa [List.getLast?_cons_of_ne_nil rest.ne_nil] using ih

theorem DigitRun.digitRun? {cs : List Char} {ds : List Nat} (h : DigitRun cs ds) :
    digitRun? cs = some ds := by
  induction h with
  | one digit =>
      rw [Number.digitRun?, Text.decimalValue?_eq_some_iff.2 digit]
      rfl
  | @next c d cs ds digit rest ih =>
      have value := Text.decimalValue?_eq_some_iff.2 digit
      -- an underscore is no digit, so the rest cannot be read as one that is set apart
      have other : ∀ more, cs ≠ '_' :: more := by
        rintro more rfl
        obtain ⟨d, underscore⟩ := rest.head '_' rfl
        exact Text.not_isDigit (by decide) d underscore
      rw [Number.digitRun?, value, ih]
      · rfl
      · exact rest.ne_nil
      · exact other
  | apart digit rest ih =>
      rw [Number.digitRun?, Text.decimalValue?_eq_some_iff.2 digit, ih]
      rfl

theorem digitRun?_eq_some_iff {cs : List Char} {ds : List Nat} :
    digitRun? cs = some ds ↔ DigitRun cs ds := by
  refine ⟨fun h => ?_, DigitRun.digitRun?⟩
  fun_induction digitRun? cs generalizing ds with
  | case1 => cases h
  | case2 c =>
      obtain ⟨d, digit, rfl⟩ := Option.map_eq_some_iff.1 h
      exact .one (Text.decimalValue?_eq_some_iff.1 digit)
  | case3 => cases h
  | case4 c rest d digit ih =>
      obtain ⟨ds, run, rfl⟩ := Option.map_eq_some_iff.1 h
      exact .apart (Text.decimalValue?_eq_some_iff.1 digit) (ih run)
  | case5 => cases h
  | case6 c rest _ _ d digit ih =>
      obtain ⟨ds, run, rfl⟩ := Option.map_eq_some_iff.1 h
      exact .next (Text.decimalValue?_eq_some_iff.1 digit) (ih run)

inductive Numeral : List Char → Int → Prop where
  | unsigned {cs ds} (run : DigitRun cs ds) (short : ds.length ≤ digitLimit) :
      Numeral cs (Nat.ofDigits 10 ds.reverse : Nat)
  | positive {cs ds} (run : DigitRun cs ds) (short : ds.length ≤ digitLimit) :
      Numeral ('+' :: cs) (Nat.ofDigits 10 ds.reverse : Nat)
  | negative {cs ds} (run : DigitRun cs ds) (short : ds.length ≤ digitLimit) :
      Numeral ('-' :: cs) (-(Nat.ofDigits 10 ds.reverse : Nat))

def Denotes (s : String) (n : Int) : Prop :=
  ∃ before body after, (∀ c ∈ before, isBlank c = true) ∧ (∀ c ∈ after, isBlank c = true) ∧
    s.toList = before ++ body ++ after ∧ Numeral body n

theorem ofDigits_eq (ds : List Nat) : ofDigits ds = Nat.ofDigits 10 ds.reverse := by
  rw [ofDigits, Nat.ofDigits_eq_foldr, List.foldr_reverse]
  congr 1
  funext n d
  simp [Nat.mul_comm, Nat.add_comm]

theorem natural?_eq_some_iff {cs : List Char} {n : Nat} :
    natural? cs = some n ↔
      ∃ ds, DigitRun cs ds ∧ ds.length ≤ digitLimit ∧ Nat.ofDigits 10 ds.reverse = n := by
  simp only [natural?, ← digitRun?_eq_some_iff, ← ofDigits_eq]
  cases digitRun? cs with
  | none => simp
  | some ds => simp

theorem Numeral.head {body : List Char} {n : Int} (h : Numeral body n) :
    ∀ c ∈ body.head?, isBlank c = false := by
  cases h with
  | unsigned run =>
      intro c mem
      obtain ⟨d, digit⟩ := run.head c mem
      exact digit.visible
  | positive => simpa using by decide
  | negative => simpa using by decide

theorem Numeral.last {body : List Char} {n : Int} (h : Numeral body n) :
    ∀ c ∈ body.getLast?, isBlank c = false := by
  have visible {cs ds} (run : DigitRun cs ds) : ∀ c ∈ cs.getLast?, isBlank c = false := by
    intro c mem
    obtain ⟨d, digit⟩ := run.last c mem
    exact digit.visible
  cases h with
  | unsigned run => exact visible run
  | positive run => simpa [List.getLast?_cons_of_ne_nil run.ne_nil] using visible run
  | negative run => simpa [List.getLast?_cons_of_ne_nil run.ne_nil] using visible run

def ofChars? : List Char → Option Int
  | '-' :: rest => (natural? rest).map fun n : Nat => -(n : Int)
  | '+' :: rest => (natural? rest).map fun n : Nat => (n : Int)
  | rest => (natural? rest).map fun n : Nat => (n : Int)

theorem ofText?_eq (s : String) : ofText? s = ofChars? (Text.trimChars isBlank s.toList) := by
  have cast (x : Option Nat) (f : Int → Int) :
      (x >>= fun a => pure (a : Int)).map f = x.map fun n : Nat => f n := by
    cases x <;> rfl
  simp only [ofText?, cast]
  rfl

theorem ofChars?_unsigned {cs : List Char} {ds : List Nat} (run : DigitRun cs ds) :
    ofChars? cs = (natural? cs).map fun n : Nat => (n : Int) := by
  have other {sign : Char} (h : Text.decimalValue? sign = none) : ∀ rest, cs ≠ sign :: rest := by
    rintro rest rfl
    obtain ⟨d, digit⟩ := run.head sign rfl
    exact Text.not_isDigit h d digit
  rw [ofChars?]
  · exact other (by decide)
  · exact other (by decide)

theorem ofChars?_eq_some_iff {cs : List Char} {n : Int} : ofChars? cs = some n ↔ Numeral cs n := by
  constructor
  · intro h
    unfold ofChars? at h
    split at h
    all_goals
      obtain ⟨m, read, rfl⟩ := Option.map_eq_some_iff.1 h
      obtain ⟨ds, run, short, rfl⟩ := natural?_eq_some_iff.1 read
    · exact .negative run short
    · exact .positive run short
    · exact .unsigned run short
  · intro h
    cases h with
    | unsigned run short =>
        rw [ofChars?_unsigned run, natural?_eq_some_iff.2 ⟨_, run, short, rfl⟩]
        rfl
    | positive run short =>
        rw [ofChars?, natural?_eq_some_iff.2 ⟨_, run, short, rfl⟩]
        rfl
    | negative run short =>
        rw [ofChars?, natural?_eq_some_iff.2 ⟨_, run, short, rfl⟩]
        rfl

theorem ofText?_eq_some_iff {s : String} {n : Int} : ofText? s = some n ↔ Denotes s n := by
  rw [ofText?_eq, ofChars?_eq_some_iff]
  constructor
  · intro numeral
    obtain ⟨before, after, allBefore, allAfter, split⟩ := Text.exists_trimChars isBlank s.toList
    exact ⟨before, _, after, allBefore, allAfter, split, numeral⟩
  · rintro ⟨before, body, after, allBefore, allAfter, split, numeral⟩
    rw [split, Text.trimChars_append allBefore allAfter numeral.head numeral.last]
    exact numeral

theorem digitRun_toDigits (n : Nat) :
    DigitRun (Nat.toDigits 10 n) ((Nat.toDigits 10 n).map fun c => c.toNat - '0'.toNat) := by
  have ascii : ∀ c ∈ Nat.toDigits 10 n, IsDigit c (c.toNat - '0'.toNat) := by
    intro c mem
    exact Text.isDigit_ascii (Nat.isDigit_of_mem_toDigits (by decide) (by decide) mem)
  have nonempty : Nat.toDigits 10 n ≠ [] := Nat.toDigits_ne_nil
  generalize Nat.toDigits 10 n = cs at ascii nonempty
  induction cs with
  | nil => exact absurd rfl nonempty
  | cons c rest ih =>
      obtain ⟨digit, later⟩ := List.forall_mem_cons.1 ascii
      cases rest with
      | nil => exact .one digit
      | cons c' rest => exact .next digit (ih later nofun)

theorem ofDigits_toDigits (n : Nat) :
    Nat.ofDigits 10 ((Nat.toDigits 10 n).map fun c => c.toNat - '0'.toNat).reverse = n := by
  have value := Nat.ofDigitChars_ten_toDigits (n := n)
  rw [Nat.ofDigitChars_eq_foldl] at value
  rw [← ofDigits_eq, ofDigits, List.foldl_map]
  simpa [Nat.mul_comm] using value

theorem denotes_toString {n : Int} (short : (Nat.toDigits 10 n.natAbs).length ≤ digitLimit) :
    Denotes (toString n) n := by
  refine ⟨[], (toString n).toList, [], nofun, nofun, by simp, ?_⟩
  have value := ofDigits_toDigits n.natAbs
  have run := digitRun_toDigits n.natAbs
  cases n with
  | ofNat m =>
      have text : (toString (Int.ofNat m)).toList = Nat.toDigits 10 m := by
        simp [toString, Int.repr, Nat.repr]
      have numeral := Numeral.unsigned run (by simpa using short)
      rw [value] at numeral
      rw [text]
      exact numeral
  | negSucc m =>
      have text : (toString (Int.negSucc m)).toList = '-' :: Nat.toDigits 10 (m + 1) := by
        simp [toString, Int.repr, Nat.repr]
      have numeral := Numeral.negative run (by simpa using short)
      rw [value] at numeral
      rw [text]
      exact numeral

end Number

end Handover
