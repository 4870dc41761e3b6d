import Handover.Proofs.Action
import Handover.Settings.Provider

namespace Handover.Provider

variable {σ τ : Type} {part : τ → σ} {put : σ → τ → τ}

theorem getInt_within (h : Action.PartOf part put) (p : Provider σ) (key : String) (default : Int) :
    (p.within part put).getInt key default = (p.getInt key default).zoom part put := by
  rw [getInt, getInt, Action.zoom_bind h]
  congr 1
  funext o
  cases o with
  | none => exact (Action.zoom_pure h default).symm
  | some raw =>
      cases hn : raw.proper?.bind Number.ofText? with
      | some n =>
          simp only [hn]
          exact (Action.zoom_pure h n).symm
      | none =>
          simp only [hn]
          rw [Action.zoom_bind h, Action.zoom_log h]
          congr 1
          funext _
          exact (Action.zoom_pure h default).symm

theorem getFlag_within (h : Action.PartOf part put) (p : Provider σ) (s : Setting)
    (default : Bool) :
    (p.within part put).getFlag s default = (p.getFlag s default).zoom part put := by
  rw [getFlag, getFlag, Action.zoom_bind h, getInt_within h]
  congr 1
  funext n
  exact (Action.zoom_pure h _).symm

theorem load_within (h : Action.PartOf part put) (p : Provider σ) :
    (p.within part put).load = p.load.zoom part put := by
  have name : (p.within part put).getString Setting.p2pDeviceName.key =
      (p.getString Setting.p2pDeviceName.key).zoom part put := rfl
  simp only [load, Action.zoom_bind h, Action.zoom_log h, Action.zoom_pure h, getFlag_within h,
    name]

section

variable {R : σ → σ → Prop} {p : Provider σ}

theorem respects_getInt (h : Equivalence R) (reads : ∀ key, Action.Respects R (p.getString key))
    (key : String) (default : Int) : Action.Respects R (p.getInt key default) := by
  refine (reads key).bind h fun found => ?_
  cases found with
  | none => exact (Action.keeps_pure default).respects h
  | some raw =>
      dsimp only
      split
      · exact (Action.keeps_pure _).respects h
      · exact ((Action.keeps_log _ _).bind fun _ => Action.keeps_pure _).respects h

theorem respects_getFlag (h : Equivalence R) (reads : ∀ key, Action.Respects R (p.getString key))
    (s : Setting) (default : Bool) : Action.Respects R (p.getFlag s default) :=
  (respects_getInt h reads _ _).bind h fun _ => (Action.keeps_pure _).respects h

theorem respects_load (h : Equivalence R) (reads : ∀ key, Action.Respects R (p.getString key)) :
    Action.Respects R p.load := by
  have flag := respects_getFlag h reads
  refine (flag _ _).bind h fun _ => (flag _ _).bind h fun _ => (reads _).bind h fun _ => ?_
  refine (flag _ _).bind h fun _ => (flag _ _).bind h fun _ => (flag _ _).bind h fun _ => ?_
  refine (flag _ _).bind h fun _ => ?_
  exact ((Action.keeps_log _ _).bind fun _ => Action.keeps_pure _).respects h

end

end Handover.Provider
