import Handover.Text.Blank
import Mathlib.Data.List.TakeWhile

namespace Handover.Text

variable {cut : Char → Bool}

theorem exists_dropWhile (cut : Char → Bool) (cs : List Char) :
    ∃ front, (∀ c ∈ front, cut c = true) ∧ cs = front ++ cs.dropWhile cut :=
  ⟨cs.takeWhile cut, fun _ => List.mem_takeWhile_imp, List.takeWhile_append_dropWhile.symm⟩

theorem head_dropWhile (cut : Char → Bool) (cs : List Char) :
    ∀ c ∈ (cs.dropWhile cut).head?, cut c = false := by
  intro c mem
  have stops := List.head?_dropWhile_not cut cs
  rwa [Option.mem_def.1 mem] at stops

theorem dropWhile_append {front rest : List Char} (all : ∀ c ∈ front, cut c = true)
    (stop : ∀ c ∈ rest.head?, cut c = false) : (front ++ rest).dropWhile cut = rest := by
  rw [List.dropWhile_append_of_pos all]
  cases rest with
  | nil => rfl
  | cons c cs => rw [List.dropWhile_cons_of_neg (by simp [stop c rfl])]

theorem exists_dropWhile_eq (cut : Char → Bool) (cs : List Char) :
    ∃ after, (∀ c ∈ after, cut c = true) ∧ cs.dropWhile cut = trimChars cut cs ++ after := by
  obtain ⟨after, all, split⟩ := exists_dropWhile cut (cs.dropWhile cut).reverse
  refine ⟨after.reverse, by simpa using all, ?_⟩
  rw [trimChars, ← List.reverse_append, ← split, List.reverse_reverse]

theorem exists_trimChars (cut : Char → Bool) (cs : List Char) :
    ∃ before after, (∀ c ∈ before, cut c = true) ∧ (∀ c ∈ after, cut c = true) ∧
      cs = before ++ trimChars cut cs ++ after := by
  obtain ⟨before, allBefore, split⟩ := exists_dropWhile cut cs
  obtain ⟨after, allAfter, rest⟩ := exists_dropWhile_eq cut cs
  refine ⟨before, after, allBefore, allAfter, ?_⟩
  rw [List.append_assoc, ← rest]
  exact split

theorem head_trimChars (cut : Char → Bool) (cs : List Char) :
    ∀ c ∈ (trimChars cut cs).head?, cut c = false := by
  obtain ⟨after, -, rest⟩ := exists_dropWhile_eq cut cs
  intro c mem
  apply head_dropWhile cut cs c
  rw [rest, List.head?_append, mem]
  rfl

theorem last_trimChars (cut : Char → Bool) (cs : List Char) :
    ∀ c ∈ (trimChars cut cs).getLast?, cut c = false := by
  rw [trimChars, List.getLast?_reverse]
  exact head_dropWhile cut _

theorem trimChars_append {before body after : List Char} (allBefore : ∀ c ∈ before, cut c = true)
    (allAfter : ∀ c ∈ after, cut c = true) (head : ∀ c ∈ body.head?, cut c = false)
    (last : ∀ c ∈ body.getLast?, cut c = false) :
    trimChars cut (before ++ body ++ after) = body := by
  cases body with
  | nil =>
      have all : ∀ c ∈ before ++ after, cut c = true := by
        simpa [or_imp, forall_and] using And.intro allBefore allAfter
      have gone : (before ++ after).dropWhile cut = [] := List.dropWhile_eq_nil_iff.2 all
      simp [trimChars, gone]
  | cons c cs =>
      have front : (before ++ (c :: cs) ++ after).dropWhile cut = (c :: cs) ++ after := by
        rw [List.append_assoc]
        exact dropWhile_append allBefore (by simpa using head)
      have back : (after.reverse ++ (c :: cs).reverse).dropWhile cut = (c :: cs).reverse := by
        refine dropWhile_append (by simpa using allAfter) ?_
        rwa [List.head?_reverse]
      rw [trimChars, front, List.reverse_append, back, List.reverse_reverse]

def Trimmed (s t : String) : Prop :=
  ∃ before after, (∀ c ∈ before, isBlank c = true) ∧ (∀ c ∈ after, isBlank c = true) ∧
    s.toList = before ++ t.toList ++ after ∧
    (∀ c ∈ t.toList.head?, isBlank c = false) ∧ ∀ c ∈ t.toList.getLast?, isBlank c = false

theorem trimmed_iff {s t : String} : Trimmed s t ↔ t = trim s := by
  constructor
  · rintro ⟨before, after, allBefore, allAfter, split, head, last⟩
    rw [trim, split, trimChars_append allBefore allAfter head last, String.ofList_toList]
  · rintro rfl
    obtain ⟨before, after, allBefore, allAfter, split⟩ := exists_trimChars isBlank s.toList
    refine ⟨before, after, allBefore, allAfter, ?_⟩
    rw [trim, String.toList_ofList]
    exact ⟨split, head_trimChars isBlank _, last_trimChars isBlank _⟩

end Handover.Text
