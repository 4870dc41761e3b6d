import Handover.Proofs.CommandLine.ExportLoss
import Handover.Proofs.CommandLine.Failure
import Handover.Proofs.Settings.Agreement
import Handover.Proofs.Transfer.Writable

namespace Handover

namespace KeyValueStore

inductive GivesSettings : Value → KeyValueStore → Prop where
  | empty {v} (falsy : v.truthy = false) : GivesSettings v {}
  | mapping {es} (shown : ∀ e ∈ es, e.2.isShown = true) :
      GivesSettings (.map es) (ofMapping es)

theorem ofValue_eq_ok_iff {v : Value} {s : KeyValueStore} :
    ofValue v = .ok s ↔ GivesSettings v s := by
  constructor
  · intro made
    unfold ofValue at made
    split at made
    · split at made
      · next es =>
          split at made
          · next shown =>
              cases made
              exact .mapping (List.all_eq_true.1 shown)
          · cases made
      · cases made
    · next falsy =>
        cases made
        exact .empty (Bool.eq_false_iff.2 falsy)
  · intro given
    cases given with
    | empty falsy => exact if_neg (Bool.eq_false_iff.1 falsy)
    | @mapping es shown =>
        cases es with
        | nil => rfl
        | cons e rest =>
            have truthy : (Value.map (e :: rest)).truthy = true := rfl
            exact (if_pos truthy).trans (if_pos (List.all_eq_true.2 shown))

end KeyValueStore

namespace CommandLine

open KeyValueStore (GivesSettings)
open TransferFile (Staged)

def fileSettings (bs : Bytes) : Except Fault KeyValueStore :=
  match Yaml.ofBytes bs with
  | .error e => .error (.document e)
  | .ok v => KeyValueStore.ofValue v

theorem fileSettings_eq_ok_iff {bs : Bytes} {s : KeyValueStore} :
    fileSettings bs = .ok s ↔ ∃ v, Yaml.ofBytes bs = .ok v ∧ GivesSettings v s := by
  unfold fileSettings
  cases Yaml.ofBytes bs with
  | error e => simp
  | ok v => simp [KeyValueStore.ofValue_eq_ok_iff]

theorem not_isTold_ofValue {v : Value} {e : Fault} (refused : KeyValueStore.ofValue v = .error e) :
    ¬ IsTold e := by
  rintro ⟨reported, -⟩
  unfold KeyValueStore.ofValue at refused
  split at refused
  · split at refused
    · split at refused
      · cases refused
      · cases refused
        cases reported
    · cases refused
      cases reported
  · cases refused

theorem isTold_fileSettings_iff {bs : Bytes} {e : Fault}
    (yaml : ∀ e, Yaml.ofBytes bs = .error e → e = .malformed)
    (refused : fileSettings bs = .error e) : IsTold e ↔ Yaml.ofBytes bs = .error .malformed := by
  unfold fileSettings at refused
  cases parsed : Yaml.ofBytes bs with
  | error f =>
      rw [parsed] at refused
      cases refused
      cases yaml f parsed
      exact iff_of_true ⟨rfl, trivial⟩ rfl
  | ok v =>
      rw [parsed] at refused
      exact iff_of_false (not_isTold_ofValue refused) (by rintro ⟨⟩)

theorem isProper_fileSettings {bs : Bytes} {e : Fault} (refused : fileSettings bs = .error e) :
    e.message.IsProper := by
  unfold fileSettings KeyValueStore.ofValue at refused
  split at refused
  · cases refused
    trivial
  · split at refused
    · split at refused
      · split at refused
        · cases refused
        · cases refused
          trivial
      · cases refused
        trivial
    · cases refused

theorem openLive_file {host : Host} {t : FileTree} {file : String} {bs : Bytes}
    (found : t.statText host.location file = .ok (.file bs)) :
    openLive host t (some file) = (fileSettings bs).map Live.memory := by
  have named : (file != "") = true := by
    rw [bne_iff_ne]
    rintro rfl
    rw [FileTree.statText, if_pos rfl] at found
    cases found
  have kept : (some file).filter (· != "") = some file := by
    rw [Option.filter_some, if_pos named]
  unfold openLive fileSettings
  rw [kept]
  dsimp only
  rw [found]
  dsimp only
  cases Yaml.ofBytes bs with
  | error e => rfl
  | ok v =>
      dsimp only
      cases KeyValueStore.ofValue v <;> rfl

theorem load_memory (d : Device) (serial : Value) (s : KeyValueStore) :
    ∃ x, (((Live.provider d serial).load.mapError Fault.unavailable) (.memory s)).value = .ok x ∧
      (KeyValueStore.provider.load s).value = .ok x := by
  have answer (setting : Setting) :
      Action.Agree (fun live s' => live = .memory s ∧ s' = s)
        ((Live.provider d serial).getString setting.key)
        (KeyValueStore.provider.getString setting.key) := by
    rintro _ _ ⟨rfl, rfl⟩
    exact ⟨_, rfl, rfl, ⟨rfl, rfl⟩, rfl⟩
  obtain ⟨x, live, store, -, -⟩ := Provider.agree_load answer (.memory s) s ⟨rfl, rfl⟩
  refine ⟨x, ?_, store⟩
  rw [(Action.mapError_ends _ _ _).1, live]
  rfl

section

variable {t : FileTree} {cwd : Location} {path : Path} {p : Provider Live} {live : Live}
  {config : Option ConfigSnapshot} {own : Option SettingsSnapshot} {x : SettingsSnapshot}

inductive StoreGives (t : FileTree) (cwd : Location) (path : Path) :
    Option ConfigSnapshot → Option SettingsSnapshot → Prop where
  | absent (missing : t.isThere cwd path = false) : StoreGives t cwd path none none
  | held {bs es config own} (stored : t.read cwd path = .ok bs)
      (parsed : LegacyStore.parse path.text bs = .ok es)
      (made : LegacyStore.config es = .ok config)
      (settings : LegacyStore.settings path.text es = .ok own) :
      StoreGives t cwd path (some config) own

theorem gather_absent (missing : t.isThere cwd path = false)
    (loads : ((p.load.mapError Fault.unavailable) live).value = .ok x) :
    ∃ after, (gather cwd (exportProvider p)).Ends (exportStart path t live) (.ok (none, x))
      ⟨LegacyStore.fresh path t, after⟩ := by
  have config := LegacyStore.loadConfig_absent (s := LegacyStore.fresh path t) rfl rfl missing
  have own : LegacyStore.ownSettings cwd (LegacyStore.fresh path t) =
      ⟨.ok none, LegacyStore.fresh path t, []⟩ := by
    rw [LegacyStore.ownSettings, Action.get_bind,
      Action.bind_of_eq (LegacyStore.read_absent rfl missing)]
    rfl
  have loaded : ((storeSource cwd).loadConfig).Ends (exportStart path t live) (.ok none)
      (exportStart path t live) := by
    constructor
    · rw [loadConfig_apply]
      exact config.value
    · rw [loadConfig_apply]
      exact congrArg (ExportSite.mk · live) config.state
  have settings : ((storeSource cwd).loadSettings (exportProvider p)).Ends (exportStart path t live)
      (.ok x) ⟨LegacyStore.fresh path t, ((p.load.mapError Fault.unavailable) live).state⟩ := by
    simp only [storeSource, LegacyStore.source, loadSettings_elsewhere]
    constructor
    · simp [Action.bind_apply, Action.zoom, exportStart, own, loads]
    · simp [Action.bind_apply, Action.zoom, exportStart, own, loads]
  exact ⟨_, loaded.bind (settings.bind (Action.ends _ _))⟩

theorem gather_given (given : StoreGives t cwd path config own)
    (loads : ((p.load.mapError Fault.unavailable) live).value = .ok x) :
    (gather cwd (exportProvider p) (exportStart path t live)).value = .ok (config, own.getD x) ∧
      (gather cwd (exportProvider p) (exportStart path t live)).state.site.tree = t := by
  cases given with
  | absent missing =>
      obtain ⟨after, ends⟩ := gather_absent missing loads
      exact ⟨ends.value, by rw [ends.state]; rfl⟩
  | @held bs es config own stored parsed made settings =>
      have collects : collected path bs p live = .ok (config, own.getD x) := by
        unfold collected collectedSettings
        rw [parsed]
        dsimp only
        rw [made]
        dsimp only
        rw [settings]
        cases own with
        | none => simp only [loads, Option.getD_none]
        | some _ => rfl
      obtain ⟨cache, taken, after, value, state, -⟩ := gather_fresh p live stored
      rw [collects] at value
      exact ⟨value, by rw [state]⟩

theorem handOver_given (output : Path) (given : StoreGives t cwd path config own)
    (loads : ((p.load.mapError Fault.unavailable) live).value = .ok x) :
    (handOver cwd (exportProvider p) output (exportStart path t live)).value =
      (TransferFile.write cwd output config (own.getD x) t).value.map
        (fun _ => (config, own.getD x)) := by
  obtain ⟨value, tree⟩ := gather_given given loads
  rw [handOver_eq, (Action.bind_of_ok value _).1]
  simp only [onTree, Action.zoom, Action.bind_apply, tree]
  rcases TransferFile.write cwd output config (own.getD x) t with ⟨_ | _, u, journal⟩
  · rfl
  · rfl

theorem failsOnly_commit (cwd : Location) :
    Action.FailsOnly TransferFile.OfFiles (LegacyStore.commit cwd) := by
  intro site e failed
  unfold LegacyStore.commit at failed
  split at failed
  · split at failed
    · next f _ =>
        cases failed
        exact ⟨f, rfl⟩
    · cases failed
  · cases failed

theorem value_removeStore (e : ExportSite) : (removeStore cwd e).value = .ok () := by
  have value : ((storeSource cwd).commit e).value = (LegacyStore.commit cwd e.site).value := rfl
  rw [removeStore, Action.value_attempt_bind, value]
  cases committed : (LegacyStore.commit cwd e.site).value with
  | ok _ => rfl
  | error f =>
      obtain ⟨g, rfl⟩ := failsOnly_commit cwd e.site f committed
      exact (reports_say _).returns _

theorem printable_of_encoded {content : Bytes}
    (fits : TransferFile.encoded config x = .ok content) : Printable x := by
  obtain ⟨c, s, -, settings, -⟩ :=
    Framing.encode_eq_ok_iff.1 (TransferFile.encoded_eq_ok_iff.1 fits)
  intro t name
  have short := (Payload.encodeSettings_eq_ok_iff.1 settings).1
  rw [name] at short
  exact short.isProper

theorem printable_of_handOver {environment : Provider ExportSite} {output : Path} {e : ExportSite}
    {r : Option ConfigSnapshot × SettingsSnapshot}
    (handed : (handOver cwd environment output e).value = .ok r) : Printable r.2 := by
  rw [handOver_eq] at handed
  obtain ⟨r', -, rest, -⟩ := Action.bind_eq_ok handed
  obtain ⟨_, written, same, -⟩ := Action.bind_eq_ok rest
  cases same
  obtain ⟨tmp, u, v, staged, -⟩ := TransferFile.exists_staged_of_write written
  obtain ⟨content, fits, -⟩ := staged.written
  exact printable_of_encoded fits

theorem concludes_exportFrom (cwd : Location) (environment : Provider ExportSite) (output : Path)
    (e : ExportSite) :
    Concludes (exportFrom cwd environment output e)
      ((handOver cwd environment output e).value.map fun _ => ()) := by
  rw [exportFrom]
  refine Concludes.attempt_bind ?_
  cases handed : (handOver cwd environment output e).value with
  | error f => exact concludes_reportFailure f _
  | ok r =>
      have printable := printable_of_handOver handed
      have shown : Reports (showConfig r.1 >>= fun _ => showSettings (some r.2) :
          Action ExportSite Ending Unit) :=
        (reports_showConfig _).bind (reports_showSettings (by rintro _ ⟨⟩; exact printable))
      have told : Reports (Action.log .info ("Transfer file written to " ++ output.text) :
          Action ExportSite Ending Unit) := ⟨_, Action.tells_log _ _⟩
      refine .done ((Action.bind_of_ok (value_removeStore _) _).1.trans ?_)
      exact (told.bind shown).returns _

theorem value_showSettings_ne_exit (s : Option SettingsSnapshot) (t : FileTree) (code : Nat) :
    (showSettings s t).value ≠ .error (.exit code) := by
  intro exited
  cases s with
  | none => cases ((reports_say _).returns t).symm.trans exited
  | some s =>
      rw [showSettings] at exited
      cases table : settingsTable? s with
      | none =>
          rw [table] at exited
          cases exited
      | some made =>
          rw [table] at exited
          cases ((reports_printAll _).returns t).symm.trans exited

end

namespace ExportCall

variable {x : ExportCall} {t : FileTree} {paths : ExportPaths} {e : Fault} {s : KeyValueStore}

def result (x : ExportCall) (t : FileTree) : Result FileTree Ending Unit :=
  exportTo x.context x.configuration x.store x.device x.settingsFile x.output t

def shown (x : ExportCall) (device : Option String) (t : FileTree) : Result FileTree Ending Unit :=
  settings x.context x.configuration device x.settingsFile t

/-- An export tells of a failure exactly when the settings cannot be shown. -/
def Alike (x : ExportCall) (t : FileTree) : Prop :=
  ∀ device, (∃ e, FailsWith (x.result t) migrationLabel e) ↔
    ∃ e, FailsWith (x.shown device t) settingsLabel e

theorem result_eq (x : ExportCall) (t : FileTree) :
    x.result t =
      match x.paths t with
      | .error e => ⟨.error (.raised e), t, []⟩
      | .ok paths =>
          match openLive x.context.host t x.settingsFile with
          | .error e => reportFailure e t
          | .ok live =>
              onExportSite paths.store live
                (exportFrom x.location (exportProvider x.provider) paths.output) t := by
  rw [result, exportTo, Action.get_bind, ← paths.eq_1]
  cases x.paths t with
  | error e => rfl
  | ok paths =>
      dsimp only
      cases openLive x.context.host t x.settingsFile with
      | error e => rfl
      | ok live => rfl

theorem shown_refused (device : Option String) (printable : e.message.IsProper)
    (refused : openLive x.context.host t x.settingsFile = .error e) :
    FailsWith (x.shown device t) settingsLabel e := by
  rw [shown, settings, Action.get_bind]
  refine FailsWith.attempt_bind ?_
  simp only [Action.zoom, readSettings, refused]
  exact failsWith_tell letters_settingsLabel printable t

theorem not_failsWith_shown_memory (device : Option String)
    (opened : openLive x.context.host t x.settingsFile = .ok (.memory s)) :
    ¬ FailsWith (x.shown device t) settingsLabel e := by
  obtain ⟨live, loaded, -⟩ := load_memory x.context.device
    (orElse device x.configuration.device.serial) s
  intro fails
  have exited := fails.exit
  rw [shown, settings, Action.get_bind, Action.value_attempt_bind] at exited
  simp only [Action.zoom, readSettings, opened, loaded] at exited
  exact value_showSettings_ne_exit _ _ _ exited

theorem not_orderly_unresolved (unresolved : x.paths t = .error e) : ¬ Orderly (x.result t) := by
  rw [result_eq, unresolved]
  exact not_orderly_raised rfl

theorem concludes_refused (located : x.paths t = .ok paths)
    (refused : openLive x.context.host t x.settingsFile = .error e) :
    Concludes (x.result t) (.error e) := by
  rw [result_eq, located]
  simp only [refused]
  exact concludes_reportFailure e t

section

variable {bs : Bytes} {config : Option ConfigSnapshot} {own : Option SettingsSnapshot}

theorem concludes_memory {live : SettingsSnapshot} (located : x.paths t = .ok paths)
    (opened : openLive x.context.host t x.settingsFile = .ok (.memory s))
    (given : StoreGives t x.location paths.store config own)
    (loads : (KeyValueStore.provider.load s).value = .ok live) :
    Concludes (x.result t)
      (TransferFile.write x.location paths.output config (own.getD live) t).value := by
  obtain ⟨live', loaded, loads'⟩ := load_memory x.context.device
    (orElse x.device x.configuration.device.serial) s
  cases loads.symm.trans loads'
  have concludes := concludes_exportFrom x.location (exportProvider x.provider) paths.output
    (exportStart paths.store t (.memory s))
  have handed := handOver_given (p := x.provider) paths.output given loaded
  have kept (v : Except Fault Unit) (r : Option ConfigSnapshot × SettingsSnapshot) :
      (v.map fun _ => r).map (fun _ => ()) = v := by
    cases v <;> rfl
  rw [handed, kept] at concludes
  rw [result_eq, located]
  simp only [opened]
  exact concludes.congr rfl rfl

theorem isTold_write_iff {p : Path} {settings : SettingsSnapshot} {e : Fault}
    (failed : (TransferFile.write x.location p config settings t).value = .error e) :
    IsTold e ↔ TransferFile.OfFiles e := by
  have unfit {e : Fault} (h : TransferFile.Unfit e) : IsTold e ↔ TransferFile.OfFiles e := by
    refine iff_of_false ?_ h.not_ofFiles
    rintro ⟨reported, -⟩
    cases h <;> cases reported
  refine TransferFile.failsOnly_write (P := fun e => IsTold e ↔ TransferFile.OfFiles e)
    x.location ?_ ?_ ?_ t e failed
  · rintro _ ⟨f, rfl⟩
    exact iff_of_true ⟨rfl, trivial⟩ ⟨f, rfl⟩
  · exact fun e unencoded => unfit (TransferFile.unfit_of_encoded unencoded)
  · exact fun e nameless => unfit (TransferFile.unfit_of_temporary nameless)

theorem orderly_located_iff (located : x.paths t = .ok paths)
    (opened : openLive x.context.host t x.settingsFile = (fileSettings bs).map Live.memory)
    (yaml : ∀ e, Yaml.ofBytes bs = .error e → e = .malformed)
    (given : StoreGives t x.location paths.store config own) :
    Orderly (x.result t) ↔
      Yaml.ofBytes bs = .error .malformed ∨
        ∃ v s live, Yaml.ofBytes bs = .ok v ∧ GivesSettings v s ∧
          (KeyValueStore.provider.load s).value = .ok live ∧
          ((t.ensureDirectory x.location paths.output.parent).2 = .ok () →
            TransferFile.Ready paths.output config (own.getD live)) := by
  cases made : fileSettings bs with
  | error e =>
      rw [made] at opened
      rw [(concludes_refused located opened).orderly_iff]
      constructor
      · intro reported
        exact .inl ((isTold_fileSettings_iff yaml made).1 (reported e rfl))
      · rintro (malformed | ⟨v, s, live, parsed, gives, -⟩)
        · rintro _ ⟨⟩
          exact (isTold_fileSettings_iff yaml made).2 malformed
        · cases made.symm.trans (fileSettings_eq_ok_iff.2 ⟨v, parsed, gives⟩)
  | ok s =>
      rw [made] at opened
      obtain ⟨v, parsed, gives⟩ := fileSettings_eq_ok_iff.1 made
      obtain ⟨live, -, loads⟩ := load_memory x.context.device .null s
      rw [(concludes_memory located opened given loads).orderly_iff]
      constructor
      · intro reported
        refine .inr ⟨v, s, live, parsed, gives, loads, ?_⟩
        refine TransferFile.write_ofFiles_iff.1 fun e failed => ?_
        exact (isTold_write_iff failed).1 (reported e failed)
      · rintro (malformed | ⟨v', s', live', parsed', gives', loads', ready⟩)
        · cases parsed.symm.trans malformed
        · cases made.symm.trans (fileSettings_eq_ok_iff.2 ⟨v', parsed', gives'⟩)
          cases loads.symm.trans loads'
          intro e failed
          have ofFiles := TransferFile.write_ofFiles_iff.2 ready e failed
          exact (isTold_write_iff failed).2 ofFiles

theorem alike_located_iff (located : x.paths t = .ok paths)
    (opened : openLive x.context.host t x.settingsFile = (fileSettings bs).map Live.memory)
    (yaml : ∀ e, Yaml.ofBytes bs = .error e → e = .malformed)
    (given : StoreGives t x.location paths.store config none)
    (writable : TransferFile.Writable t x.location paths.output) :
    x.Alike t ↔
      Yaml.ofBytes bs = .error .malformed ∨ ∃ v s, Yaml.ofBytes bs = .ok v ∧ GivesSettings v s := by
  cases made : fileSettings bs with
  | error e =>
      rw [made] at opened
      have told := (concludes_refused located opened).told_iff
      constructor
      · intro alike
        obtain ⟨_, ⟨⟩, reported⟩ := told.1 ((alike none).2 ⟨e, shown_refused none (isProper_fileSettings made) opened⟩)
        exact .inl ((isTold_fileSettings_iff yaml made).1 reported)
      · rintro (malformed | ⟨v, s, parsed, gives⟩)
        · have reported := (isTold_fileSettings_iff yaml made).2 malformed
          have printable := isProper_fileSettings made
          exact fun device =>
            iff_of_true (told.2 ⟨e, rfl, reported⟩) ⟨e, shown_refused device printable opened⟩
        · cases made.symm.trans (fileSettings_eq_ok_iff.2 ⟨v, parsed, gives⟩)
  | ok s =>
      rw [made] at opened
      obtain ⟨v, parsed, gives⟩ := fileSettings_eq_ok_iff.1 made
      obtain ⟨live, -, loads⟩ := load_memory x.context.device .null s
      refine iff_of_true (fun device => iff_of_false ?_ ?_) (.inr ⟨v, s, parsed, gives⟩)
      · rw [(concludes_memory located opened given loads).told_iff]
        rintro ⟨e, failed, reported⟩
        exact writable.not_ofFiles failed ((isTold_write_iff failed).1 reported)
      · rintro ⟨e, fails⟩
        exact not_failsWith_shown_memory device opened fails

end

def listText : String := "[a]\n"

def listTree : FileTree :=
  ⟨[(["w"], .directory), (["w", "live.yaml"], .file (Text.Utf8.encode listText))]⟩

def fromList : ExportCall where
  context := ontoStore.context
  store := some "/w/none.yaml"
  settingsFile := some "/w/live.yaml"
  output := some "/w/out.bin"

def listPaths : ExportPaths :=
  ⟨⟨.slash, ["w", "none.yaml"]⟩, ⟨.slash, ["w", "out.bin"]⟩⟩

def listGraph : Yaml.Graph where
  nodes := #[.scalar .text "a", .sequence .sequence [0]]
  root := 1

theorem ofBytes_listText : Yaml.ofBytes (Text.Utf8.encode listText) = .ok (.list [.text "a"]) := by
  have written : listGraph.isWrittenAs listText.toList = true := by decide +kernel
  rw [Yaml.ofBytes_text written]
  rfl

theorem not_givesSettings_list (s : KeyValueStore) : ¬ GivesSettings (.list [.text "a"]) s := by
  rintro (falsy | -)
  cases falsy

theorem writable_listPaths :
    TransferFile.Writable listTree fromList.location listPaths.output := by
  obtain ⟨content, fits⟩ : ∃ content, TransferFile.encoded none {} = .ok content := ⟨_, by rfl⟩
  have staged : Staged listTree ["w"] listPaths.output none {} ⟨.slash, ["w", "out.bin.tmp"]⟩
      (listTree.put ["w", "out.bin.tmp"] (.file content)) :=
    ⟨rfl, rfl, content, fits, rfl⟩
  exact ⟨none, {}, TransferFile.write_of_staged staged rfl⟩

end ExportCall

end CommandLine

end Handover
