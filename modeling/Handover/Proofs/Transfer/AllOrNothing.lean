import Handover.Proofs.Transfer.Framing
import Handover.Proofs.Transfer.Placing

namespace Handover

def FileTree.SameFiles (t u : FileTree) (except : Location → Prop) : Prop :=
  ∀ l, ¬ except l → ∀ bs, t.find? l = some (.file bs) ↔ u.find? l = some (.file bs)

namespace TransferFile

def AtTemporary (t : FileTree) (cwd : Location) (p : Path) (l : Location) : Prop :=
  ∃ tmp, temporary p = .ok tmp ∧ t.locate cwd tmp = .ok l

structure Finished (t u : FileTree) (cwd : Location) (p : Path) (config : Option ConfigSnapshot)
    (settings : SettingsSnapshot) : Prop where
  stored : (∀ s, config = some s → Payload.CountReadable s) →
    read u cwd p = .ok (config, settings)
  cleared : ∀ l, AtTemporary u cwd p l → u.find? l = none
  others : t.SameFiles u fun l => u.locate cwd p = .ok l ∨ AtTemporary u cwd p l

/-- Under `steady`, the path gives no file that it did not give before. -/
structure Refused (steady : Prop) (t u : FileTree) (cwd : Location) (p : Path) : Prop where
  kept : ∀ bs, t.read cwd p = .ok bs → u.read cwd p = .ok bs
  absent : steady → ∀ bs, u.read cwd p = .ok bs → t.read cwd p = .ok bs
  cleared : ∀ l bs, AtTemporary u cwd p l → u.find? l = some (.file bs) →
    t.find? l = some (.file bs)
  others : t.SameFiles u (AtTemporary u cwd p)

structure AllOrNothing (steady : Prop) (t : FileTree) (cwd : Location) (p : Path)
    (config : Option ConfigSnapshot) (settings : SettingsSnapshot) : Prop where
  finished : (write cwd p config settings t).value = .ok () →
    Finished t (write cwd p config settings t).state cwd p config settings
  refused : ∀ e, (write cwd p config settings t).value = .error e →
    Refused steady t (write cwd p config settings t).state cwd p

section

variable {t u v w : FileTree} {cwd : Location} {p tmp : Path} {config : Option ConfigSnapshot}
  {settings : SettingsSnapshot}

theorem decode_encoded (valid : ∀ s, config = some s → s.Valid)
    (readable : ∀ s, config = some s → Payload.CountReadable s) {content : Bytes}
    (h : encoded config settings = .ok content) :
    Framing.decode content = .ok (config, settings) := by
  obtain ⟨c, s, hc, hs, framed⟩ := Framing.encode_eq_ok_iff.1 (encoded_eq_ok_iff.1 h)
  obtain ⟨fits, rfl⟩ := Payload.encodeConfig_eq_ok_iff.1 hc
  have payloads := Framing.payloads_eq_ok_iff.2 framed
  have configBack := Payload.decodeConfig_configBytes valid (fun s e => (fits s e).1)
    (fun s e => (fits s e).2) readable
  have settingsBack : Payload.decodeSettings s = .ok settings :=
    Payload.decodeSettings_eq_ok_iff.2 (Payload.encodeSettings_eq_ok_iff.1 hs)
  exact Framing.decode_eq_ok_iff.2 ⟨_, s, payloads, configBack, settingsBack⟩

theorem finished_of_moved (valid : ∀ s, config = some s → s.Valid)
    (staged : Staged t cwd p config settings tmp u) (renamed : u.rename cwd tmp p = .ok v) :
    Finished t v cwd p config settings := by
  obtain ⟨k, m, content, hc, apart, same, hk, hm, found⟩ := staged.moved renamed
  have tmpPlace : v.locate cwd tmp = .ok k := same.locate.1 hk
  have place : v.locate cwd p = .ok m := same.locate.1 hm
  constructor
  · intro readable
    have stands : v.find? m = some (.file content) := by rw [found, if_pos rfl]
    have content_read : v.read cwd p = .ok content := (FileTree.read_of_locate place).2 stands
    exact read_eq_ok_iff.2 ⟨content, content_read, decode_encoded valid readable hc⟩
  · rintro l ⟨tmp', name, hl⟩
    cases staged.name.symm.trans name
    cases tmpPlace.symm.trans hl
    rw [found, if_neg apart, if_pos rfl]
  · intro l other bs
    have notTarget : l ≠ m := by
      rintro rfl
      exact other (.inl place)
    have notTmp : l ≠ k := by
      rintro rfl
      exact other (.inr ⟨tmp, staged.name, tmpPlace⟩)
    rw [found, if_neg notTarget, if_neg notTmp]
    exact (FileTree.deepens_ensureDirectory t cwd p.parent).file_iff

theorem refused_of_removed (deeper : t.Deepens u) (same : u.SameDirectories w)
    (left : ∀ l, w.find? l = u.find? l ∨ AtTemporary w cwd p l ∧ w.find? l = none) :
    Refused (t.Settled cwd p) t w cwd p := by
  have notTemporary : ∀ m, w.locate cwd p = .ok m → w.find? m = u.find? m := by
    intro m hm
    rcases left m with found | ⟨⟨tmp, name, hk⟩, -⟩
    · exact found
    · exact absurd rfl (locate_temporary_ne name hk hm)
  have files : ∀ l bs, w.find? l = some (.file bs) → t.find? l = some (.file bs) := by
    intro l bs stands
    rcases left l with found | ⟨-, gone⟩
    · rw [found] at stands
      exact deeper.file_iff.2 stands
    · cases gone.symm.trans stands
  constructor
  · intro bs stored
    obtain ⟨m, hm, stands⟩ := FileTree.read_eq_ok_iff.1 (deeper.grows.read stored)
    have place : w.locate cwd p = .ok m := same.locate.1 hm
    rw [FileTree.read_of_locate place, notTemporary m place]
    exact stands
  · intro settled bs stored
    obtain ⟨m, hm, stands⟩ := FileTree.read_eq_ok_iff.1 stored
    have stood := files m bs stands
    have directories : ∀ l, t.find? l = some .directory → w.find? l = some .directory := by
      intro l directory
      exact (same l).1 (deeper.grows l .directory directory)
    have place := settled.locate directories hm (by simp [stood])
    exact (FileTree.read_of_locate place).2 stood
  · intro l bs _ stands
    exact files l bs stands
  · intro l other bs
    rcases left l with found | ⟨temporary, -⟩
    · rw [found]
      exact deeper.file_iff
    · exact absurd temporary other

theorem refused_of_withdrawn (staged : Staged t cwd p config settings tmp u)
    (unlinked : u.unlink cwd tmp = .ok w) : Refused (t.Settled cwd p) t w cwd p := by
  obtain ⟨k, content, -, same, hk, found⟩ := staged.stands
  obtain ⟨k', bs, hk', file, rfl⟩ := FileTree.unlink_eq_ok_iff.1 unlinked
  cases hk.symm.trans hk'
  have tmpFile : u.find? k ≠ some .directory := by simp [file]
  have removed := FileTree.sameDirectories_remove tmpFile
  have gone := FileTree.find?_remove_of_ne_nil u (FileTree.ne_nil_of_find? tmpFile)
  apply refused_of_removed (FileTree.deepens_ensureDirectory t cwd p.parent) (same.trans removed)
  intro l
  by_cases under : l = k
  · subst under
    exact .inr ⟨⟨tmp, staged.name, removed.locate.1 hk⟩, by rw [gone, if_pos rfl]⟩
  · exact .inl (by rw [gone, if_neg under, found, if_neg under])

theorem write_allOrNothing (t : FileTree) (cwd : Location) (p : Path)
    (config : Option ConfigSnapshot) (settings : SettingsSnapshot)
    (valid : ∀ s, config = some s → s.Valid) :
    AllOrNothing (t.Settled cwd p) t cwd p config settings := by
  have ends := write_ends t cwd p config settings
  constructor
  · intro succeeded
    rw [succeeded] at ends
    generalize (write cwd p config settings t).state = u at ends ⊢
    cases ends with
    | moved staged renamed => exact finished_of_moved valid staged renamed
  · intro e failed
    rw [failed] at ends
    generalize (write cwd p config settings t).state = u at ends ⊢
    cases ends with
    | withdrawn staged _ unlinked => exact refused_of_withdrawn staged unlinked
    | unstaged =>
        have made := FileTree.deepens_ensureDirectory t cwd p.parent
        exact refused_of_removed made (fun _ => Iff.rfl) fun _ => .inl rfl

end

def homeConfig : ConfigSnapshot :=
  { savedNetworks := some [{ ssid := "Home" }] }

def staleTree : FileTree :=
  ⟨[(["w"], .directory), (["w", "t.tmp"], .file [0x57])]⟩

def staleTarget : Path :=
  ⟨.relative, ["t"]⟩

theorem write_allOrNothing_stale :
    homeConfig.Valid ∧ (write ["w"] staleTarget (some homeConfig) {} staleTree).value.isOk = true ∧
      AllOrNothing (staleTree.Settled ["w"] staleTarget) staleTree ["w"] staleTarget
        (some homeConfig) {} := by
  have valid : homeConfig.Valid := by
    constructor
    · rintro _ ⟨⟩
      decide
    · rintro _ ⟨⟩
  have all : ∀ s, some homeConfig = some s → s.Valid := by
    rintro _ ⟨⟩
    exact valid
  have succeeds : (write ["w"] staleTarget (some homeConfig) {} staleTree).value.isOk = true := by
    decide +kernel
  exact ⟨valid, succeeds, write_allOrNothing staleTree ["w"] staleTarget (some homeConfig) {} all⟩

def blockedTree : FileTree :=
  ⟨[(["w"], .directory), (["w", "f"], .file [0x57]), (["w", "f.tmp"], .directory)]⟩

def detour : Path :=
  ⟨.relative, ["x", "..", "f"]⟩

theorem not_allOrNothing_detour : ¬ AllOrNothing True blockedTree ["w"] detour none {} := by
  have failed : write ["w"] detour none {} blockedTree =
      ⟨.error (.file .isDirectory), blockedTree.put ["w", "x"] .directory, []⟩ := by rfl
  have before : blockedTree.read ["w"] detour = .error .notFound := by rfl
  have after : (blockedTree.put ["w", "x"] .directory).read ["w"] detour = .ok [0x57] := by rfl
  intro all
  have refused := all.refused (.file .isDirectory) (by rw [failed])
  rw [failed] at refused
  cases before.symm.trans (refused.absent trivial [0x57] after)

end TransferFile

end Handover
