import Handover.Value.Order
import Mathlib.Data.List.Basic

namespace Handover.Value

variable {α : Type}

def Distinct (es : List (Value × α)) : Prop :=
  es.Pairwise fun a b => a.1.sameKey b.1 = false

theorem sameKey_text_iff {s t : Text} : (text s).sameKey (text t) = true ↔ s = t := by
  simp [sameKey, order?, codes?, Text.codes_inj]

theorem mem_insertEntry {key : Value} {value : α} {es : List (Value × α)} {e : Value × α}
    (h : e ∈ insertEntry key value es) :
    e ∈ es ∨ e = (key, value) ∨ ∃ k v, (k, v) ∈ es ∧ e = (k, value) := by
  induction es with
  | nil =>
      rw [insertEntry, List.mem_singleton] at h
      exact .inr (.inl h)
  | cons head rest ih =>
      obtain ⟨k, v⟩ := head
      rw [insertEntry] at h
      split at h
      · rcases List.mem_cons.1 h with rfl | later
        · exact .inr (.inr ⟨k, v, by simp, rfl⟩)
        · exact .inl (by simp [later])
      · rcases List.mem_cons.1 h with rfl | later
        · exact .inl (by simp)
        · rcases ih later with old | new | ⟨k', v', old, changed⟩
          · exact .inl (by simp [old])
          · exact .inr (.inl new)
          · exact .inr (.inr ⟨k', v', by simp [old], changed⟩)

theorem key_of_mem_insertEntry {key : Value} {value : α} {es : List (Value × α)}
    {e : Value × α} (h : e ∈ insertEntry key value es) :
    e.1 = key ∨ ∃ v, (e.1, v) ∈ es := by
  rcases mem_insertEntry h with old | rfl | ⟨k, v, old, rfl⟩
  · exact .inr ⟨e.2, old⟩
  · exact .inl rfl
  · exact .inr ⟨v, old⟩

theorem distinct_insertEntry {es : List (Value × α)} (h : Distinct es) (key : Value) (value : α) :
    Distinct (insertEntry key value es) := by
  induction es with
  | nil => exact List.pairwise_singleton _ _
  | cons head rest ih =>
      obtain ⟨k, v⟩ := head
      obtain ⟨first, later⟩ := List.pairwise_cons.1 h
      rw [insertEntry]
      split
      · exact List.pairwise_cons.2 ⟨first, later⟩
      · next other =>
          refine List.pairwise_cons.2 ⟨?_, ih later⟩
          intro e mem
          rcases key_of_mem_insertEntry mem with new | ⟨w, old⟩
          · rw [new]
            exact Bool.eq_false_iff.2 other
          · exact first (e.1, w) old

theorem Distinct.notMem_tail {s : Text} {v w : α} {rest : List (Value × α)}
    (h : Distinct ((text s, v) :: rest)) : (text s, w) ∉ rest := by
  intro mem
  have other := (List.pairwise_cons.1 h).1 _ mem
  rw [sameKey_text_iff.2 rfl] at other
  cases other

theorem Distinct.unique {es : List (Value × α)} (h : Distinct es) {s : Text} {v w : α}
    (hv : (text s, v) ∈ es) (hw : (text s, w) ∈ es) : v = w := by
  induction es with
  | nil => cases hv
  | cons head rest ih =>
      rcases List.mem_cons.1 hv with rfl | laterv
      · rcases List.mem_cons.1 hw with same | laterw
        · exact (Prod.mk.inj same).2.symm
        · exact absurd laterw h.notMem_tail
      · rcases List.mem_cons.1 hw with rfl | laterw
        · exact absurd laterv h.notMem_tail
        · exact ih (List.pairwise_cons.1 h).2 laterv laterw

theorem mem_of_field? {name : String} {es : List (Value × Value)} {v : Value}
    (h : field? name es = some v) : (text (.proper name), v) ∈ es := by
  fun_induction field? name es with
  | case1 => cases h
  | case2 w rest =>
      cases h
      exact List.mem_cons_self
  | case3 k w rest other ih => exact List.mem_cons_of_mem _ (ih h)
  | case4 e rest other ih => exact List.mem_cons_of_mem _ (ih h)

theorem field?_eq_none_iff {name : String} {es : List (Value × Value)} :
    field? name es = none ↔ ∀ v, (text (.proper name), v) ∉ es := by
  constructor
  · intro missing v mem
    fun_induction field? name es with
    | case1 => cases mem
    | case2 => cases missing
    | case3 k v rest other ih =>
        rcases List.mem_cons.1 mem with same | mem
        · exact other (Value.text.inj (Prod.mk.inj same).1).symm
        · exact ih missing mem
    | case4 e rest other ih =>
        rcases List.mem_cons.1 mem with rfl | mem
        · exact other _ _ rfl
        · exact ih missing mem
  · intro missing
    cases found : field? name es with
    | none => rfl
    | some v => exact absurd (mem_of_field? found) (missing v)

theorem Distinct.field?_eq_some_iff {es : List (Value × Value)} (h : Distinct es) {name : String}
    {v : Value} : field? name es = some v ↔ (text (.proper name), v) ∈ es := by
  constructor
  · exact mem_of_field?
  · intro mem
    cases found : field? name es with
    | none => exact absurd mem (field?_eq_none_iff.1 found v)
    | some w => rw [h.unique (mem_of_field? found) mem]

end Handover.Value
