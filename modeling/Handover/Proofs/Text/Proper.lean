import Handover.Text.Encoding

namespace Handover.Text

def IsProper : Text → Prop
  | proper _ => True
  | ill _ _ => False

instance (t : Text) : Decidable t.IsProper :=
  match t with
  | proper _ => isTrue trivial
  | ill _ _ => isFalse id

theorem isProper_iff {t : Text} : t.IsProper ↔ ∃ s : String, t = proper s := by
  cases t with
  | proper s => simp [IsProper]
  | ill codes surrogate => simp [IsProper]

theorem exists_string_iff {t : Text} : (∃ s, t.string = .ok s) ↔ t.IsProper := by
  cases t with
  | proper s => simp [IsProper, string]
  | ill codes surrogate => simp [IsProper, string]

end Handover.Text
