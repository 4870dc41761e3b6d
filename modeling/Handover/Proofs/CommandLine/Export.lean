import Handover.Proofs.CommandLine.Report
import Handover.Proofs.LegacyStore.Contents
import Handover.Proofs.Settings.Within
import Handover.Proofs.Transfer.Framing
import Handover.Proofs.Transfer.Placing

namespace Handover.CommandLine

open TransferFile (Staged)

def collectedSettings (path : Path) (es : List (Value × Value)) (p : Provider Live) (live : Live) :
    Except Fault SettingsSnapshot :=
  match LegacyStore.settings path.text es with
  | .error e => .error e
  | .ok (some settings) => .ok settings
  | .ok none => ((p.load.mapError Fault.unavailable) live).value

def collected (path : Path) (bs : Bytes) (p : Provider Live) (live : Live) :
    Except Fault (ConfigSnapshot × SettingsSnapshot) :=
  match LegacyStore.parse path.text bs with
  | .error e => .error e
  | .ok es =>
      match LegacyStore.config es with
      | .error e => .error (.store path.text e)
      | .ok config =>
          match collectedSettings path es p live with
          | .error e => .error e
          | .ok settings => .ok (config, settings)

theorem collected_valid {path : Path} {bs : Bytes} {p : Provider Live} {live : Live}
    {config : ConfigSnapshot} {settings : SettingsSnapshot}
    (h : collected path bs p live = .ok (config, settings)) : config.Valid := by
  unfold collected at h
  split at h
  · cases h
  · split at h
    · cases h
    · next hc =>
        split at h
        · cases h
        · cases h
          exact LegacyStore.config_valid hc

def exportProvider (p : Provider Live) : Provider ExportSite :=
  p.within ExportSite.live fun l e => { e with live := l }

theorem partOf_live : Action.PartOf ExportSite.live fun l e => { e with live := l } :=
  ⟨fun _ _ => rfl, fun _ => rfl, fun _ _ _ => rfl⟩

variable {t : FileTree} {cwd : Location} {path output : Path} {bs : Bytes} {p : Provider Live}
  {live : Live}

def exportStart (path : Path) (t : FileTree) (live : Live) : ExportSite :=
  ⟨LegacyStore.fresh path t, live⟩

theorem loadConfig_apply (e : ExportSite) :
    (storeSource cwd).loadConfig e =
      ⟨(LegacyStore.loadConfig cwd e.site).value,
        { e with site := (LegacyStore.loadConfig cwd e.site).state },
        (LegacyStore.loadConfig cwd e.site).journal⟩ :=
  rfl

theorem loadSettings_elsewhere (p : Provider Live) :
    (Source.live.loadSettings (exportProvider p) : Action ExportSite _ _) =
      (p.load.mapError Fault.unavailable).zoom ExportSite.live fun l e => { e with live := l } := by
  rw [← Action.zoom_mapError, ← Provider.load_within partOf_live]
  rfl

theorem loadSettings_read (t : FileTree) (cwd : Location) (path : Path) (p : Provider Live)
    (live : Live) (es : List (Value × Value)) (taken : Bool) :
    ∃ after journal,
      (storeSource cwd).loadSettings (exportProvider p) ⟨⟨⟨path, some es, taken⟩, t⟩, live⟩ =
        ⟨collectedSettings path es p live, ⟨⟨⟨path, some es, taken⟩, t⟩, after⟩, journal⟩ := by
  simp only [storeSource, LegacyStore.source, Action.bind_apply, Action.zoom,
    LegacyStore.ownSettings_read, loadSettings_elsewhere, collectedSettings]
  cases LegacyStore.settings path.text es with
  | error e => exact ⟨_, _, rfl⟩
  | ok own =>
      cases own with
      | none => exact ⟨_, _, rfl⟩
      | some settings => exact ⟨_, _, rfl⟩

def gather (cwd : Location) (environment : Provider ExportSite) :
    Action ExportSite Fault (Option ConfigSnapshot × SettingsSnapshot) := do
  let config ← (storeSource cwd).loadConfig
  let settings ← (storeSource cwd).loadSettings environment
  pure (config, settings)

theorem handOver_eq (environment : Provider ExportSite) :
    handOver cwd environment output =
      gather cwd environment >>= fun r =>
        onTree (TransferFile.write cwd output r.1 r.2) >>= fun _ => pure r := by
  funext s
  simp only [handOver, gather, Action.bind_apply]
  rcases (storeSource cwd).loadConfig s with ⟨_ | config, s, journal⟩
  · rfl
  · simp only
    rcases (storeSource cwd).loadSettings environment s with ⟨_ | settings, s, journal'⟩
    · rfl
    · simp [Action.pure_apply]

theorem gather_fresh (p : Provider Live) (live : Live) (h : t.read cwd path = .ok bs) :
    ∃ cache taken after,
      (gather cwd (exportProvider p) (exportStart path t live)).value =
        (collected path bs p live).map (fun r => (some r.1, r.2)) ∧
      (gather cwd (exportProvider p) (exportStart path t live)).state =
        ⟨⟨⟨path, cache, taken⟩, t⟩, after⟩ ∧
      ∀ r, collected path bs p live = .ok r → taken = true := by
  have load := LegacyStore.loadConfig_fresh h
  unfold gather exportStart
  rw [Action.bind_apply, loadConfig_apply]
  unfold collected
  rw [load]
  generalize LegacyStore.parse path.text bs = parsed
  cases parsed with
  | error e => exact ⟨none, false, live, rfl, rfl, fun _ no => by cases no⟩
  | ok es =>
      dsimp only
      generalize LegacyStore.config es = made
      cases made with
      | error e => exact ⟨some es, false, live, rfl, rfl, fun _ no => by cases no⟩
      | ok config =>
          obtain ⟨after, journal, settings⟩ := loadSettings_read t cwd path p live es true
          dsimp only
          rw [Action.bind_apply, settings]
          refine ⟨some es, true, after, ?_, ?_, fun _ _ => rfl⟩
          · cases collectedSettings path es p live <;> rfl
          · cases collectedSettings path es p live <;> rfl

theorem handOver_refused (output : Path) (h : t.read cwd path = .ok bs) {e : Fault}
    (hc : collected path bs p live = .error e) :
    (handOver cwd (exportProvider p) output (exportStart path t live)).value = .error e ∧
      (handOver cwd (exportProvider p) output (exportStart path t live)).state.site.tree =
        t := by
  obtain ⟨cache, taken, after, value, state, -⟩ := gather_fresh p live h
  rw [hc] at value
  rw [handOver_eq]
  obtain ⟨value', state'⟩ := Action.bind_of_error value fun r =>
    onTree (TransferFile.write cwd output r.1 r.2) >>= fun _ => pure r
  exact ⟨value', by rw [state', state]⟩

theorem handOver_collected (output : Path) (h : t.read cwd path = .ok bs) {config : ConfigSnapshot}
    {settings : SettingsSnapshot} (hc : collected path bs p live = .ok (config, settings)) :
    (handOver cwd (exportProvider p) output (exportStart path t live)).value =
        (TransferFile.write cwd output (some config) settings t).value.map
          (fun _ => (some config, settings)) ∧
      ∃ cache,
        (handOver cwd (exportProvider p) output (exportStart path t live)).state.site =
          ⟨⟨path, cache, true⟩,
            (TransferFile.write cwd output (some config) settings t).state⟩ := by
  obtain ⟨cache, taken, after, value, state, handed⟩ := gather_fresh p live h
  rw [hc] at value
  cases handed _ hc
  obtain ⟨value', state'⟩ := Action.bind_of_ok value fun r =>
    onTree (TransferFile.write cwd output r.1 r.2) >>= fun _ => pure r
  rw [handOver_eq, value', state', state]
  simp only [onTree, Action.zoom, Action.bind_apply]
  rcases TransferFile.write cwd output (some config) settings t with ⟨_ | _, u, journal⟩
  · exact ⟨rfl, cache, rfl⟩
  · exact ⟨rfl, cache, rfl⟩

theorem state_removeStore (e : ExportSite) :
    (removeStore cwd e).state = { e with site := (LegacyStore.commit cwd e.site).state } := by
  rw [removeStore, Action.state_bind_keeps]
  · rfl
  · intro result
    split
    · exact Action.keeps_pure ()
    · split
      · exact keeps_tell _ _ _
      · exact Action.keeps_fail _

theorem state_exportFrom_error {environment : Provider ExportSite} {e : ExportSite} {f : Fault}
    (h : (handOver cwd environment output e).value = .error f) :
    (exportFrom cwd environment output e).state = (handOver cwd environment output e).state := by
  rw [exportFrom, Action.state_attempt_bind, h]
  exact keeps_reportFailure f _

theorem state_exportFrom_ok {environment : Provider ExportSite} {e : ExportSite}
    {r : Option ConfigSnapshot × SettingsSnapshot}
    (h : (handOver cwd environment output e).value = .ok r) :
    (exportFrom cwd environment output e).state =
      (removeStore cwd (handOver cwd environment output e).state).state := by
  rw [exportFrom, Action.state_attempt_bind, h]
  refine Action.state_bind_keeps (fun _ => ?_) _
  refine (Action.keeps_log _ _).bind fun _ => ?_
  exact (reports_showConfig _).keeps.bind fun _ => keeps_showSettings _

theorem tree_exportFrom_refused (h : t.read cwd path = .ok bs) {e : Fault}
    (hc : collected path bs p live = .error e) :
    (exportFrom cwd (exportProvider p) output (exportStart path t live)).state.site.tree =
      t := by
  obtain ⟨value, tree⟩ := handOver_refused output h hc
  rw [state_exportFrom_error value, tree]

theorem tree_exportFrom_collected (h : t.read cwd path = .ok bs) {config : ConfigSnapshot}
    {settings : SettingsSnapshot} (hc : collected path bs p live = .ok (config, settings)) :
    (exportFrom cwd (exportProvider p) output (exportStart path t live)).state.site.tree =
      match TransferFile.write cwd output (some config) settings t with
      | ⟨.ok (), u, _⟩ => LegacyStore.committed u cwd path
      | ⟨.error _, u, _⟩ => u := by
  obtain ⟨value, cache, site⟩ := handOver_collected output h hc
  generalize TransferFile.write cwd output (some config) settings t = written at value site ⊢
  rcases written with ⟨_ | _, u, journal⟩
  · rw [state_exportFrom_error value, site]
  · rw [state_exportFrom_ok value, state_removeStore, site]
    exact LegacyStore.tree_commit cache

end Handover.CommandLine
