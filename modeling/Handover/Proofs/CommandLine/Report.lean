import Handover.CommandLine.Command
import Handover.Proofs.Action
import Handover.Proofs.Text.Proper
import Mathlib.Tactic.Choose

namespace Handover.CommandLine

open Handover.Action (Keeps Tells)

variable {σ ε α : Type}

def Reports (x : Action σ ε Unit) : Prop :=
  ∃ journal, Tells x journal

theorem Reports.bind {x y : Action σ ε Unit} (hx : Reports x) (hy : Reports y) :
    Reports (x >>= fun _ => y) := by
  obtain ⟨before, hx⟩ := hx
  obtain ⟨after, hy⟩ := hy
  exact ⟨before ++ after, hx.bind hy⟩

theorem Reports.keeps {x : Action σ ε Unit} (hx : Reports x) : Keeps x := by
  obtain ⟨journal, hx⟩ := hx
  exact hx.keeps

theorem Reports.returns {x : Action σ ε Unit} (hx : Reports x) (s : σ) : (x s).value = .ok () := by
  obtain ⟨journal, hx⟩ := hx
  rw [hx s]

theorem reports_printAll (lines : List String) : Reports (printAll lines : Action σ ε Unit) := by
  induction lines with
  | nil => exact ⟨_, Action.tells_pure⟩
  | cons line rest ih => exact .bind ⟨_, Action.tells_print line⟩ ih

theorem reports_say (markup : String) : Reports (say markup : Action σ ε Unit) :=
  reports_printAll _

theorem keeps_tell (style label : String) (message : Text) :
    Keeps (tell style label message : Action σ Ending Unit) := by
  cases message with
  | proper s => exact (reports_say _).keeps
  | ill codes surrogate => exact Action.keeps_fail _

def Printable (s : SettingsSnapshot) : Prop :=
  ∀ t, s.p2pDeviceName = some t → t.IsProper

theorem exists_settingsTable? {s : SettingsSnapshot} (printable : Printable s) :
    ∃ table, settingsTable? s = some table := by
  have rows (x : Setting) : ∃ row, settingRow? s x = some row := by
    cases x with
    | p2pDeviceName =>
        cases name : s.p2pDeviceName with
        | none => exact ⟨_, by simp [settingRow?, SettingsSnapshot.get, name]; rfl⟩
        | some t =>
            obtain ⟨n, rfl⟩ := Text.isProper_iff.1 (printable t name)
            exact ⟨_, by simp [settingRow?, SettingsSnapshot.get, name]; rfl⟩
    | _ => exact ⟨_, rfl⟩
  choose row given using rows
  exact ⟨_, by simp [settingsTable?, Setting.all, given]; rfl⟩

theorem reports_showSettings {s : Option SettingsSnapshot}
    (printable : ∀ x, s = some x → Printable x) : Reports (showSettings s : Action σ Ending Unit) := by
  cases s with
  | none => exact reports_say _
  | some s =>
      obtain ⟨table, made⟩ := exists_settingsTable? (printable s rfl)
      rw [showSettings, made]
      exact reports_printAll _

theorem keeps_showSettings (s : Option SettingsSnapshot) :
    Keeps (showSettings s : Action σ Ending Unit) := by
  cases s with
  | none => exact (reports_say _).keeps
  | some s =>
      rw [showSettings]
      split
      · exact (reports_printAll _).keeps
      · exact Action.keeps_fail _

theorem reports_showNetworks (rs : Option (List NetworkRecord)) :
    Reports (showNetworks rs : Action σ ε Unit) := by
  cases rs with
  | none => exact reports_say _
  | some rs => exact reports_printAll _

theorem reports_showAccessPoint (r : Option AccessPointRecord) :
    Reports (showAccessPoint r : Action σ ε Unit) := by
  cases r with
  | none => exact reports_say _
  | some r => exact reports_say _

theorem reports_showConfig (s : Option ConfigSnapshot) :
    Reports (showConfig s : Action σ ε Unit) := by
  cases s with
  | none => exact reports_say _
  | some s => exact (reports_showNetworks _).bind (reports_showAccessPoint _)

theorem reports_showErrors (errors : List String) :
    Reports (showErrors errors : Action σ ε Unit) := by
  induction errors with
  | nil => exact ⟨_, Action.tells_pure⟩
  | cons e rest ih => exact (reports_say _).bind ih

theorem reports_showOutcome {o : Outcome} (printable : ∀ x, o.settings = some x → Printable x) :
    Reports (showOutcome o : Action σ Ending Unit) :=
  (reports_showConfig _).bind ((reports_showSettings printable).bind (reports_showErrors _))

theorem keeps_reportFailure (e : Fault) : Keeps (reportFailure e : Action σ Ending α) := by
  rw [reportFailure]
  split
  · exact (keeps_tell _ _ _).bind fun _ => Action.keeps_fail _
  · exact Action.keeps_fail _

end Handover.CommandLine
