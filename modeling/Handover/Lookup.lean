namespace Handover

variable {κ α : Type} [DecidableEq κ] [BEq κ] [LawfulBEq κ]

theorem lookup_cons (k m : κ) (a : α) (es : List (κ × α)) :
    ((m, a) :: es).lookup k = if k = m then some a else es.lookup k := by
  by_cases found : k = m
  · simp [found]
  · have other : (k == m) = false := beq_false_of_ne found
    simp [List.lookup_cons, other, found]

theorem mem_of_lookup {k : κ} {a : α} {es : List (κ × α)} (h : es.lookup k = some a) :
    (k, a) ∈ es := by
  induction es with
  | nil => cases h
  | cons e rest ih =>
      obtain ⟨m, b⟩ := e
      rw [lookup_cons] at h
      split at h
      · next same =>
          cases h
          rw [same]
          exact List.mem_cons_self
      · exact List.mem_cons_of_mem _ (ih h)

theorem lookup_filter (es : List (κ × α)) (k l : κ) :
    (es.filter fun e => e.1 ≠ k).lookup l = if l = k then none else es.lookup l := by
  induction es with
  | nil => simp
  | cons e rest ih =>
      obtain ⟨m, a⟩ := e
      by_cases removed : m = k
      · rw [List.filter_cons_of_neg (by simp [removed]), ih, lookup_cons, removed]
        split <;> rfl
      · rw [List.filter_cons_of_pos (by simp [removed]), lookup_cons, lookup_cons, ih]
        by_cases same : l = m
        · simp [same, removed]
        · simp [same]

end Handover
