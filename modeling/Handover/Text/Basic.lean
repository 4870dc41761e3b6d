namespace Handover

/-- Halves of a pair in UTF-16; alone they stand for no character. -/
def isSurrogate (n : Nat) : Bool :=
  0xD800 ≤ n && n ≤ 0xDFFF

/-- Text by its code points. Ill text has a surrogate among them, so that it has no UTF-8 form. -/
inductive Text where
  | proper (s : String)
  | ill (codes : List Nat) (surrogate : codes.any isSurrogate = true)
  deriving DecidableEq, Repr

namespace Text

instance : Coe String Text :=
  ⟨proper⟩

instance : Inhabited Text :=
  ⟨proper ""⟩

def ofCodes (codes : List Nat) : Text :=
  if h : codes.any isSurrogate = true then ill codes h
  else proper (String.ofList (codes.map Char.ofNat))

def codes : Text → List Nat
  | proper s => s.toList.map Char.toNat
  | ill codes _ => codes

def length (t : Text) : Nat :=
  t.codes.length

def proper? : Text → Option String
  | proper s => some s
  | ill _ _ => none

def append (s t : Text) : Text :=
  match s, t with
  | proper s, proper t => proper (s ++ t)
  | s, t => ofCodes (s.codes ++ t.codes)

instance : Append Text :=
  ⟨append⟩

theorem isSurrogate_toNat (c : Char) : isSurrogate c.toNat = false := by
  have valid : c.toNat < 0xD800 ∨ 0xDFFF < c.toNat ∧ c.toNat < 0x110000 := c.valid
  simp only [isSurrogate, Bool.and_eq_false_iff, decide_eq_false_iff_not]
  omega

theorem ofCodes_codes (t : Text) : ofCodes t.codes = t := by
  cases t with
  | ill codes surrogate => rw [ofCodes, Text.codes, dif_pos surrogate]
  | proper s =>
      have none : (s.toList.map Char.toNat).any isSurrogate = false := by
        simp [isSurrogate_toNat]
      rw [ofCodes, Text.codes, dif_neg (by simp [none])]
      simp [Function.comp_def]

theorem codes_inj {s t : Text} : s.codes = t.codes ↔ s = t :=
  ⟨fun h => by rw [← ofCodes_codes s, h, ofCodes_codes], congrArg codes⟩

end Text

end Handover
