import Handover.Proofs.CommandLine.Export

namespace Handover.CommandLine

open TransferFile (Staged)

/-- An export of these snapshots destroys them: the transfer file takes the place of the store and
is removed as the store, or cannot be read where it is, or the temporary file takes the place of the
store and is withdrawn. -/
inductive Loses (t : FileTree) (cwd : Location) (paths : ExportPaths) (config : ConfigSnapshot)
    (settings : SettingsSnapshot) : Prop where
  | removed {tmp : Path} {u v : FileTree}
      (staged : Staged t cwd paths.output (some config) settings tmp u)
      (renamed : u.rename cwd tmp paths.output = .ok v)
      (same : u.SamePlace cwd paths.output paths.store)
  | unreadable {tmp : Path} {u v : FileTree}
      (staged : Staged t cwd paths.output (some config) settings tmp u)
      (renamed : u.rename cwd tmp paths.output = .ok v) (long : ¬ Payload.CountReadable config)
  | withdrawn {tmp : Path} {u : FileTree} {e : FileFault}
      (staged : Staged t cwd paths.output (some config) settings tmp u)
      (refused : u.rename cwd tmp paths.output = .error e)
      (same : u.SamePlace cwd tmp paths.store)
      (elsewhere : TransferFile.read u cwd paths.output ≠ .ok (some config, settings))

def Kept (t : FileTree) (cwd : Location) (paths : ExportPaths) (bs : Bytes)
    (config : ConfigSnapshot) (settings : SettingsSnapshot) : Prop :=
  t.read cwd paths.store = .ok bs ∨
    TransferFile.read t cwd paths.output = .ok (some config, settings)

section

variable {t u v : FileTree} {cwd : Location} {paths : ExportPaths} {tmp : Path} {bs : Bytes}
  {config : ConfigSnapshot} {settings : SettingsSnapshot}

theorem kept_moved (stored : t.read cwd paths.store = .ok bs) (valid : config.Valid)
    (staged : Staged t cwd paths.output (some config) settings tmp u)
    (renamed : u.rename cwd tmp paths.output = .ok v) :
    Kept (LegacyStore.committed v cwd paths.store) cwd paths bs config settings ↔
      ¬ u.SamePlace cwd paths.output paths.store ∧ Payload.CountReadable config := by
  obtain ⟨l, hl, file⟩ := staged.locates stored
  obtain ⟨k, m, content, encoded, -, directories, -, hm, found⟩ := staged.moved renamed
  have storeFile : v.find? l ≠ some .directory := by
    rw [found]
    split
    · nofun
    · split
      · nofun
      · simp [file]
  obtain ⟨directories', committed⟩ :=
    LegacyStore.find?_committed (directories.locate.1 hl) storeFile
  have all := directories.trans directories'
  rw [FileTree.samePlace_iff hm hl, Kept, TransferFile.read_eq_ok_iff,
    FileTree.read_of_locate (all.locate.1 hl), committed, if_pos rfl]
  simp only [FileTree.read_of_locate (all.locate.1 hm), committed, found, if_true]
  rw [← Framing.decode_encode_iff valid (TransferFile.encoded_eq_ok_iff.1 encoded)]
  by_cases onto : m = l
  · simp [onto]
  · simp [onto]

theorem kept_withdrawn {w : FileTree} (stored : t.read cwd paths.store = .ok bs)
    (staged : Staged t cwd paths.output (some config) settings tmp u)
    (unlinked : u.unlink cwd tmp = .ok w) :
    Kept w cwd paths bs config settings ↔
      ¬ (u.SamePlace cwd tmp paths.store ∧
        TransferFile.read u cwd paths.output ≠ .ok (some config, settings)) := by
  obtain ⟨l, hl, file⟩ := staged.locates stored
  obtain ⟨k, content, -, -, hk, found⟩ := staged.stands
  obtain ⟨k', old, hk', he, rfl⟩ := FileTree.unlink_eq_ok_iff.1 unlinked
  cases hk.symm.trans hk'
  have tmpFile : u.find? k ≠ some .directory := by simp [he]
  have gone := FileTree.find?_remove_of_ne_nil u (FileTree.ne_nil_of_find? tmpFile)
  have directories := FileTree.sameDirectories_remove tmpFile
  have output : ∀ c,
      (u.remove k).read cwd paths.output = .ok c ↔ u.read cwd paths.output = .ok c := by
    intro c
    simp only [FileTree.read_eq_ok_iff, ← directories.locate]
    refine exists_congr fun m => and_congr_right fun hm => ?_
    rw [gone, if_neg (Ne.symm (TransferFile.locate_temporary_ne staged.name hk hm))]
  rw [FileTree.samePlace_iff hk hl, Kept, FileTree.read_of_locate (directories.locate.1 hl), gone]
  simp only [TransferFile.read_eq_ok_iff, output]
  by_cases under : l = k
  · simp [under, TransferFile.read_eq_ok_iff]
  · have kept : u.find? l = some (.file bs) := by rw [found, if_neg under, file]
    simp [under, kept, Ne.symm under]

theorem kept_iff (stored : t.read cwd paths.store = .ok bs) {p : Provider Live} {live : Live}
    (hc : collected paths.store bs p live = .ok (config, settings)) :
    Kept (exportFrom cwd (exportProvider p) paths.output
        (exportStart paths.store t live)).state.site.tree cwd paths bs config settings ↔
      ¬ Loses t cwd paths config settings := by
  rw [tree_exportFrom_collected stored hc]
  have ends := TransferFile.write_ends t cwd paths.output (some config) settings
  generalize TransferFile.write cwd paths.output (some config) settings t = written at ends ⊢
  obtain ⟨value, tree, journal⟩ := written
  cases ends with
  | moved staged renamed =>
      refine (kept_moved stored (collected_valid hc) staged renamed).trans ?_
      constructor
      · rintro ⟨apart, readable⟩ (⟨staged', -, same⟩ | ⟨-, -, long⟩ | ⟨staged', refused, -, -⟩)
        · obtain ⟨-, rfl⟩ := staged.unique staged'
          exact apart same
        · exact long readable
        · obtain ⟨rfl, rfl⟩ := staged.unique staged'
          cases renamed.symm.trans refused
      · intro safe
        refine ⟨fun same => safe (.removed staged renamed same), ?_⟩
        exact Classical.byContradiction fun long => safe (.unreadable staged renamed long)
  | withdrawn staged refused unlinked =>
      refine (kept_withdrawn stored staged unlinked).trans (not_congr ?_)
      constructor
      · rintro ⟨same, elsewhere⟩
        exact .withdrawn staged refused same elsewhere
      · rintro (⟨staged', renamed, -⟩ | ⟨staged', renamed, -⟩ | ⟨staged', -, same, elsewhere⟩)
        · obtain ⟨rfl, rfl⟩ := staged.unique staged'
          cases refused.symm.trans renamed
        · obtain ⟨rfl, rfl⟩ := staged.unique staged'
          cases refused.symm.trans renamed
        · obtain ⟨rfl, rfl⟩ := staged.unique staged'
          exact ⟨same, elsewhere⟩
  | unstaged none =>
      constructor
      · rintro - (⟨staged, -, -⟩ | ⟨staged, -, -⟩ | ⟨staged, -, -, -⟩)
        · exact none _ _ staged
        · exact none _ _ staged
        · exact none _ _ staged
      · intro _
        exact .inl ((FileTree.deepens_ensureDirectory t cwd paths.output.parent).grows.read stored)

end

structure ExportCall where
  context : Context
  configuration : Configuration := {}
  store : Option String := none
  device : Option String := none
  settingsFile : Option String := none
  output : Option String := none

namespace ExportCall

def location (x : ExportCall) : Location :=
  x.context.host.location

def paths (x : ExportCall) (t : FileTree) : Except Fault ExportPaths :=
  exportPaths x.context t x.configuration x.store x.output

def after (x : ExportCall) (t : FileTree) : FileTree :=
  (exportTo x.context x.configuration x.store x.device x.settingsFile x.output t).state

def storePath (x : ExportCall) (t : FileTree) : Except Fault Path := do
  let store ← Host.pathOf (orElse x.store x.configuration.legacyStore.path)
  x.context.host.resolve t store {}

def provider (x : ExportCall) : Provider Live :=
  Live.provider x.context.device (orElse x.device x.configuration.device.serial)

def loaded (x : ExportCall) (t : FileTree) (store : Path) (bs : Bytes) :
    Except Fault (ConfigSnapshot × SettingsSnapshot) :=
  match openLive x.context.host t x.settingsFile with
  | .error e => .error e
  | .ok live => collected store bs x.provider live

/-- The store still holds its bytes, or the transfer file holds what was loaded from them. -/
def DataKept (x : ExportCall) (t : FileTree) (store : Path) (bs : Bytes) : Prop :=
  (x.after t).read x.location store = .ok bs ∨
    ∃ paths config settings, x.paths t = .ok paths ∧
      x.loaded t store bs = .ok (config, settings) ∧
      TransferFile.read (x.after t) x.location paths.output = .ok (some config, settings)

theorem storePath_of_paths {x : ExportCall} {t : FileTree} {paths : ExportPaths}
    (h : x.paths t = .ok paths) :
    x.storePath t = .ok paths.store := by
  unfold ExportCall.paths exportPaths at h
  unfold storePath
  cases hp : Host.pathOf (orElse x.store x.configuration.legacyStore.path) with
  | error e => simp [hp, bind, Except.bind] at h
  | ok p =>
      cases hr : x.context.host.resolve t p {} with
      | error e => simp [hp, hr, bind, Except.bind] at h
      | ok q =>
          simp only [hp, hr, bind, Except.bind] at h ⊢
          split at h
          · cases h
            rfl
          · split at h
            · cases h
            · split at h
              · cases h
              · split at h
                · cases h
                · cases h
                  rfl

theorem after_eq (x : ExportCall) (t : FileTree) :
    x.after t =
      match x.paths t with
      | .error _ => t
      | .ok paths =>
          match openLive x.context.host t x.settingsFile with
          | .error _ => t
          | .ok live =>
              (exportFrom x.location (exportProvider x.provider) paths.output
                (exportStart paths.store t live)).state.site.tree := by
  unfold after exportTo
  rw [Action.bind_apply, Action.get]
  dsimp only
  rw [← paths.eq_1]
  cases x.paths t with
  | error e => rfl
  | ok paths =>
      dsimp only
      cases openLive x.context.host t x.settingsFile with
      | error e => exact keeps_reportFailure e t
      | ok live => rfl

theorem dataKept_iff (x : ExportCall) (t : FileTree) {store : Path} {bs : Bytes}
    (resolved : x.storePath t = .ok store) (stored : t.read x.location store = .ok bs) :
    x.DataKept t store bs ↔
      ∀ paths config settings, x.paths t = .ok paths →
        x.loaded t store bs = .ok (config, settings) →
          ¬ Loses t x.location paths config settings := by
  rw [DataKept, after_eq]
  cases hp : x.paths t with
  | error e => simp [stored]
  | ok paths =>
      cases resolved.symm.trans (storePath_of_paths hp)
      cases hl : openLive x.context.host t x.settingsFile with
      | error e => simp [stored, loaded, hl]
      | ok live =>
          simp only [loaded, hl]
          cases hc : collected paths.store bs x.provider live with
          | error e =>
              rw [tree_exportFrom_refused stored hc]
              simp [stored]
          | ok r =>
              constructor
              · rintro (kept | ⟨_, _, _, ⟨⟩, ⟨⟩, kept⟩) _ _ _ ⟨⟩ ⟨⟩
                · exact (kept_iff stored hc).1 (.inl kept)
                · exact (kept_iff stored hc).1 (.inr kept)
              · intro safe
                obtain kept | kept := (kept_iff stored hc).2 (safe _ _ _ rfl rfl)
                · exact .inl kept
                · exact .inr ⟨_, _, _, rfl, rfl, kept⟩

def storedText : String := "networks: [{ssid: a}]\n"

def storedGraph : Yaml.Graph where
  nodes := #[.scalar .text "networks", .scalar .text "ssid", .scalar .text "a",
    .mapping .mapping [(1, 2)], .sequence .sequence [3], .mapping .mapping [(0, 4)]]
  root := 5

def storedEntries : List (Value × Value) :=
  [(.text "networks", .list [.map [(.text "ssid", .text "a")]])]

def storedConfig : ConfigSnapshot :=
  { savedNetworks := some [{ ssid := "a" }] }

theorem parse_storedText (path : String) :
    LegacyStore.parse path (Text.Utf8.encode storedText) = .ok storedEntries := by
  have written : storedGraph.isWrittenAs storedText.toList = true := by decide +kernel
  have parsed : Yaml.ofBytes (Text.Utf8.encode storedText) = .ok (.map storedEntries) := by
    rw [Yaml.ofBytes_text written]
    rfl
  exact LegacyStore.parse_of_ofBytes path parsed

def storedPath : Path := ⟨.slash, ["w", "store"]⟩

def storedTree : FileTree :=
  ⟨[(["w"], .directory), (["w", "store"], .file (Text.Utf8.encode storedText))]⟩

def ontoStore : ExportCall where
  context :=
    { host := { working := ⟨.slash, ["w"]⟩, project := ⟨.slash, ["p"]⟩, home := ⟨.slash, ["h"]⟩ }
      device := { connect := fun _ => .ok "", shell := fun _ _ => .ok Device.unset } }
  store := some "/w/store"
  output := some "/w/store"

theorem loaded_ontoStore :
    ontoStore.loaded storedTree storedPath (Text.Utf8.encode storedText) =
      .ok (storedConfig, {}) := by
  have opened : openLive ontoStore.context.host storedTree ontoStore.settingsFile =
      .ok (.device {}) := rfl
  have config : LegacyStore.config storedEntries = .ok storedConfig := by rfl
  have own : LegacyStore.settings storedPath.text storedEntries = .ok none := by rfl
  have live : ((ontoStore.provider.load.mapError Fault.unavailable) (.device {})).value =
      .ok {} := by rfl
  unfold loaded collected collectedSettings
  rw [opened]
  dsimp only
  rw [parse_storedText]
  simp only [config, own, live]

def ontoBytes : Bytes :=
  Parcel.blobBytes (some (Payload.configBytes (some storedConfig))) ++
    Parcel.blobBytes (some (Payload.settingsBytes {}))

theorem encoded_ontoStore : TransferFile.encoded (some storedConfig) {} = .ok ontoBytes := by
  have fits : storedConfig.Proper ∧ Payload.SnapshotFits storedConfig := by
    refine Payload.proper_and_fits_iff.2 ⟨?_, ?_⟩
    · rintro _ ⟨⟩
      decide +kernel
    · rintro _ ⟨⟩
  have config : Payload.encodeConfig (some storedConfig) =
      .ok (Payload.configBytes (some storedConfig)) :=
    Payload.encodeConfig_eq_ok_iff.2 ⟨by rintro _ ⟨⟩; exact fits, rfl⟩
  have settings : Payload.encodeSettings {} = .ok (Payload.settingsBytes {}) :=
    Payload.encodeSettings_eq_ok_iff.2 ⟨trivial, rfl⟩
  have small : Parcel.BlobFits (some (Payload.configBytes (some storedConfig))) ∧
      Parcel.BlobFits (some (Payload.settingsBytes {})) := by
    rw [Parcel.BlobFits, Parcel.BlobFits]
    decide +kernel
  rw [TransferFile.encoded_eq_ok_iff, Framing.encode_eq_ok_iff]
  exact ⟨_, _, config, settings, Framing.frame_eq_ok_iff.2 ⟨small, rfl⟩⟩

theorem not_dataKept_ontoStore :
    ontoStore.storePath storedTree = .ok storedPath ∧
      storedTree.read ontoStore.location storedPath = .ok (Text.Utf8.encode storedText) ∧
      ¬ ontoStore.DataKept storedTree storedPath (Text.Utf8.encode storedText) := by
  have resolved : ontoStore.storePath storedTree = .ok storedPath := by rfl
  have stored : storedTree.read ontoStore.location storedPath =
      .ok (Text.Utf8.encode storedText) := by rfl
  have paths : ontoStore.paths storedTree = .ok ⟨storedPath, storedPath⟩ := by rfl
  have staged : Staged storedTree ["w"] storedPath (some storedConfig) {}
      ⟨.slash, ["w", "store.tmp"]⟩ (storedTree.put ["w", "store.tmp"] (.file ontoBytes)) :=
    ⟨rfl, rfl, ontoBytes, encoded_ontoStore, rfl⟩
  refine ⟨resolved, stored, fun kept => ?_⟩
  refine (dataKept_iff ontoStore storedTree resolved stored).1 kept _ _ _ paths loaded_ontoStore ?_
  exact .removed staged rfl ⟨["w", "store"], rfl, rfl⟩

end ExportCall

end Handover.CommandLine
