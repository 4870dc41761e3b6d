import Handover.Proofs.Parcel.Calls

namespace Handover.Parcel

def after : List Call → Parcel → Parcel
  | [], p => p
  | c :: rest, p => after rest (c.run p).2

def answers : List Call → Parcel → List Answer
  | [], _ => []
  | c :: rest, p => (c.run p).1 :: answers rest (c.run p).2

theorem after_append (before rest : List Call) (p : Parcel) :
    after (before ++ rest) p = after rest (after before p) := by
  induction before generalizing p with
  | nil => rfl
  | cons c before ih => exact ih _

inductive Took : List Call → List Answer → List Bytes → Prop where
  | nil : Took [] [] []
  | cons {c answer bs put calls rest parts} (moves : Moves c answer bs put)
      (later : Took calls rest parts) : Took (c :: calls) (answer :: rest) (bs :: parts)

structure Sane (calls : List Call) (p : Parcel) : Prop where
  forward : ∀ before c, before ++ [c] <+: calls →
    (after before p).position ≤ (after (before ++ [c]) p).position
  within : ∀ before, before <+: calls →
    0 ≤ (after before p).position ∧ (after before p).position ≤ (after before p).buffer.length
  remaining : ∀ before, before <+: calls →
    0 ≤ (after before p).remaining ∧ (after before p).remaining ≤ (after before p).buffer.length
  taken : ∀ before, before <+: calls → ∃ parts, Took before (answers before p) parts ∧
    parts.flatten = (after before p).buffer.take (after before p).position.toNat

variable {calls : List Call}

theorem took_between (positive : ∀ c ∈ calls, ¬ c.IsNegative) (taken left : Bytes) :
    ∃ parts rest, Took calls (answers calls (between taken left)) parts ∧
      after calls (between taken left) = between (taken ++ parts.flatten) rest := by
  -- What a call takes joins the front, whatever it puts joins the end; the two never meet.
  induction calls generalizing taken left with
  | nil =>
      refine ⟨[], left, .nil, ?_⟩
      rw [List.flatten_nil, List.append_nil]
      rfl
  | cons c calls ih =>
      have first : ¬ c.IsNegative := positive c (by simp)
      have others : ∀ d ∈ calls, ¬ d.IsNegative := fun d mem => positive d (by simp [mem])
      obtain ⟨answer, bs, put, rest, -, moves, run⟩ := moves_call first taken left
      obtain ⟨parts, rest', took, stands⟩ := ih others (taken ++ bs) rest
      refine ⟨bs :: parts, rest', ?_, ?_⟩
      · rw [answers, run]
        exact .cons moves took
      · rw [after, run, stands, List.flatten_cons, List.append_assoc]

theorem within_between (taken left : Bytes) :
    0 ≤ (between taken left).position ∧
      (between taken left).position ≤ (between taken left).buffer.length := by
  simp only [between, List.length_append]
  omega

theorem forward_between {c : Call} (positive : ¬ c.IsNegative) (taken left : Bytes) :
    (between taken left).position ≤ (c.run (between taken left)).2.position := by
  obtain ⟨answer, bs, put, rest, -, -, run⟩ := moves_call positive taken left
  rw [run]
  simp only [between, List.length_append]
  omega

theorem sane_of_positive (positive : ∀ c ∈ calls, ¬ c.IsNegative) (bs : Bytes) :
    Sane calls (ofBytes bs) := by
  have run : ∀ before, before <+: calls → ∃ parts rest,
      Took before (answers before (ofBytes bs)) parts ∧
        after before (ofBytes bs) = between parts.flatten rest := by
    intro before start
    exact took_between (fun c mem => positive c (start.subset mem)) [] bs
  constructor
  · intro before c start
    obtain ⟨parts, rest, -, stands⟩ := run before ((List.prefix_append _ _).trans start)
    rw [after_append, stands]
    exact forward_between (positive c (start.subset (by simp))) _ _
  · intro before start
    obtain ⟨parts, rest, -, stands⟩ := run before start
    rw [stands]
    exact within_between _ _
  · intro before start
    obtain ⟨parts, rest, -, stands⟩ := run before start
    obtain ⟨low, high⟩ := within_between parts.flatten rest
    rw [stands, Parcel.remaining]
    omega
  · intro before start
    obtain ⟨parts, rest, took, stands⟩ := run before start
    refine ⟨parts, took, ?_⟩
    have position : (between parts.flatten rest).position.toNat = parts.flatten.length :=
      Int.toNat_natCast _
    rw [stands, position]
    exact List.take_left.symm

theorem backwards_of_negative {c : Call} (negative : c.IsNegative) {p : Parcel}
    (left : 0 ≤ p.remaining) : (c.run p).2.position < p.position := by
  cases c with
  | read r what =>
      cases r with
      | raw size =>
          have less : size < 0 := negative
          have enough : ¬ p.remaining < size := by omega
          have moved : ((Call.read (.raw size) what).run p).2.position = p.position + size := by
            rw [Call.run, Op.bind_apply, Reading.read, Op.bind_apply, readRaw, if_neg enough]
            rfl
          omega
      | _ => exact negative.elim
  | _ => exact negative.elim

theorem sane_iff (bs : Bytes) (calls : List Call) :
    Sane calls (ofBytes bs) ↔ ∀ c ∈ calls, ¬ c.IsNegative := by
  constructor
  · intro sane c mem negative
    obtain ⟨before, rest, rfl⟩ := List.append_of_mem mem
    have left := (sane.remaining before (List.prefix_append _ _)).1
    have forward := sane.forward before c ⟨rest, by simp⟩
    rw [after_append] at forward
    exact Int.not_le.2 (backwards_of_negative negative left) forward
  · intro positive
    exact sane_of_positive positive bs

theorem not_sane_backwards :
    ¬ Sane [.read .uint8 "uint8", .read (.raw (-1)) "raw bytes", .read .uint8 "uint8"]
      (ofBytes [1, 2]) := by
  intro sane
  have positive := (sane_iff [1, 2] _).1 sane (.read (.raw (-1)) "raw bytes") (by simp)
  exact positive (by decide : (-1 : Int) < 0)

end Handover.Parcel
