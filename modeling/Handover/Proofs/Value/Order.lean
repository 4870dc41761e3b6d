import Handover.Value.Order
import Mathlib.Data.List.Basic

namespace Handover.Value

inductive Kind where
  | number
  | text
  | bytes
  | date
  | dateTime (zoned : Bool)
  deriving DecidableEq, Repr

def kind? : Value → Option Kind
  | bool _ => some .number
  | int _ => some .number
  | float _ => some .number
  | text _ => some .text
  | bytes _ => some .bytes
  | date _ => some .date
  | dateTime t => some (.dateTime t.offset.isSome)
  | _ => none

def SameKind (a b : Value) : Prop :=
  ∃ k, a.kind? = some k ∧ b.kind? = some k

theorem SameKind.symm {a b : Value} : SameKind a b → SameKind b a := by
  rintro ⟨k, ha, hb⟩
  exact ⟨k, hb, ha⟩

theorem SameKind.trans {a b c : Value} (h : SameKind a b) (h' : SameKind b c) : SameKind a c := by
  obtain ⟨k, ha, hb⟩ := h
  obtain ⟨l, hb', hc⟩ := h'
  cases hb.symm.trans hb'
  exact ⟨k, ha, hc⟩

theorem kind?_of_codes? {a : Value} {s : List Nat} (h : a.codes? = some s) :
    a.kind? = some .text := by
  cases a <;> simp [codes?, kind?] at h ⊢

theorem kind?_of_isNumber {a : Value} (h : a.isNumber = true) : a.kind? = some .number := by
  cases a <;> simp [isNumber, kind?] at h ⊢

theorem kind?_of_point? {a : Value} {p : Point} (h : a.point? = some p) :
    a.kind? = some .number := by
  cases a <;> simp [point?, kind?] at h ⊢

theorem sameKind_of_order? {a b : Value} (h : (a.order? b).isSome = true) : SameKind a b := by
  unfold order? at h
  split at h
  · exact ⟨.bytes, rfl, rfl⟩
  · exact ⟨.date, rfl, rfl⟩
  · split at h
    · next same => exact ⟨_, rfl, by simp [kind?, same]⟩
    · cases h
  · split at h
    · next ha hb => exact ⟨.text, kind?_of_codes? ha, kind?_of_codes? hb⟩
    · next ha hb _ => exact ⟨.number, kind?_of_point? ha, kind?_of_point? hb⟩
    · split at h
      · next numbers =>
          rw [Bool.and_eq_true] at numbers
          exact ⟨.number, kind?_of_isNumber numbers.1, kind?_of_isNumber numbers.2⟩
      · cases h

theorem order?_of_sameKind {a b : Value} (h : SameKind a b) : (a.order? b).isSome = true := by
  obtain ⟨k, ha, hb⟩ := h
  cases k with
  | number =>
      cases a <;> simp [kind?] at ha <;> cases b <;> simp [kind?] at hb <;>
        simp only [order?, codes?, isNumber, Bool.and_self, if_true] <;> split <;> rfl
  | text =>
      cases a <;> simp [kind?] at ha
      cases b <;> simp [kind?] at hb
      rfl
  | bytes =>
      cases a <;> simp [kind?] at ha
      cases b <;> simp [kind?] at hb
      rfl
  | date =>
      cases a <;> simp [kind?] at ha
      cases b <;> simp [kind?] at hb
      rfl
  | dateTime zoned =>
      cases a <;> simp [kind?] at ha
      cases b <;> simp [kind?] at hb
      simp [order?, ha, hb]

theorem insertSorted_perm {a : Value} {l m : List Value} (h : insertSorted a l = some m) :
    m.Perm (a :: l) := by
  induction l generalizing m with
  | nil =>
      cases h
      exact .refl _
  | cons b rest ih =>
      rw [insertSorted] at h
      split at h
      · cases h
      · cases h
        exact .refl _
      · obtain ⟨m', inserted, rfl⟩ := Option.map_eq_some_iff.1 h
        exact ((ih inserted).cons b).trans (.swap a b rest)

theorem sorted?_perm {l m : List Value} (h : sorted? l = some m) : m.Perm l := by
  induction l generalizing m with
  | nil =>
      cases h
      exact .refl _
  | cons a rest ih =>
      obtain ⟨m', sorted, inserted⟩ := Option.bind_eq_some_iff.1 h
      exact (insertSorted_perm inserted).trans ((ih sorted).cons a)

theorem isSome_insertSorted {a : Value} {l : List Value} (h : ∀ b ∈ l, SameKind a b) :
    (insertSorted a l).isSome = true := by
  induction l with
  | nil => rfl
  | cons b rest ih =>
      obtain ⟨first, later⟩ := List.forall_mem_cons.1 h
      have inserted := ih later
      obtain ⟨o, ordered⟩ := Option.isSome_iff_exists.1 (order?_of_sameKind first)
      cases o <;> simp [insertSorted, ordered, inserted]

theorem sameKind_of_insertSorted {a : Value} {l m : List Value} (h : insertSorted a l = some m)
    (kinds : l.Pairwise SameKind) : ∀ b ∈ l, SameKind a b := by
  cases l with
  | nil => simp
  | cons b rest =>
      have first : SameKind a b := by
        apply sameKind_of_order?
        rw [insertSorted] at h
        split at h
        · cases h
        · next lt => rw [lt]; rfl
        · next other => rw [other]; rfl
      refine List.forall_mem_cons.2 ⟨first, fun c mem => ?_⟩
      exact first.trans ((List.pairwise_cons.1 kinds).1 c mem)

theorem isSome_sorted?_iff (l : List Value) : (sorted? l).isSome = true ↔ l.Pairwise SameKind := by
  induction l with
  | nil => simp [sorted?]
  | cons a rest ih =>
      rw [List.pairwise_cons, ← ih, sorted?]
      cases sorted : sorted? rest with
      | none => simp
      | some m =>
          have perm := sorted?_perm sorted
          have kinds : m.Pairwise SameKind :=
            (perm.pairwise_iff SameKind.symm).2 (ih.1 (by rw [sorted]; rfl))
          have same : (∀ b ∈ rest, SameKind a b) ↔ ∀ b ∈ m, SameKind a b := by
            simp only [perm.mem_iff]
          rw [Option.bind_some, same]
          simp only [Option.isSome_some, and_true]
          constructor
          · intro h
            obtain ⟨m', inserted⟩ := Option.isSome_iff_exists.1 h
            exact sameKind_of_insertSorted inserted kinds
          · exact isSome_insertSorted

end Handover.Value
