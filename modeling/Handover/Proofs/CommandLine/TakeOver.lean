import Handover.Proofs.CommandLine.Report
import Handover.Proofs.Consumer.Receive
import Handover.Proofs.Transfer.Framing
import Handover.Proofs.Transfer.Placing

namespace Handover.CommandLine

open Consumer (salvaged entries Apart)
open Payload (decodeConfig decodeSettings)

def fileLabel : String := "transfer file: "

def errorLabels : List String :=
  [fileLabel, "config: ", "settings: "]

def payloadsOutcome : Except Malformed (Bytes × Bytes) → Outcome
  | .ok (config, settings) => salvaged (decodeConfig config) (decodeSettings settings)
  | .error e => { errors := [fileLabel ++ e.message] }

def contentOutcome (file : Bytes) : Outcome :=
  payloadsOutcome (Framing.payloads file)

variable {file : Bytes} {config : Option ConfigSnapshot} {settings : SettingsSnapshot} {e : Malformed}

theorem contentOutcome_of_ok (h : Framing.decode file = .ok (config, settings)) :
    contentOutcome file = { config, settings := some settings } := by
  obtain ⟨c, s, hp, hc, hs⟩ := Framing.decode_eq_ok_iff.1 h
  rw [contentOutcome, hp, payloadsOutcome, hc, hs]
  rfl

theorem contentOutcome_of_error (h : Framing.decode file = .error e) :
    ∃ label ∈ errorLabels, ∃ rest, (contentOutcome file).errors = (label ++ e.message) :: rest := by
  rw [contentOutcome]
  obtain hp | ⟨c, s, hp, hc | ⟨config, hc, hs⟩⟩ := Framing.decode_eq_error_iff.1 h
  · rw [hp]
    exact ⟨fileLabel, by simp [errorLabels], [], rfl⟩
  · rw [hp, payloadsOutcome, hc]
    exact ⟨"config: ", by simp [errorLabels], entries "settings: " (decodeSettings s), rfl⟩
  · rw [hp, payloadsOutcome, hc, hs]
    exact ⟨"settings: ", by simp [errorLabels], [], rfl⟩

theorem printable_of_decodeSettings {bs : Bytes} (h : decodeSettings bs = .ok settings) :
    Printable settings := by
  intro t name
  have fits := (Payload.decodeSettings_eq_ok_iff.1 h).1
  rw [name] at fits
  exact fits.isProper

theorem printable_contentOutcome (file : Bytes) :
    ∀ x, (contentOutcome file).settings = some x → Printable x := by
  intro x given
  rw [contentOutcome] at given
  cases payloads : Framing.payloads file with
  | error e =>
      rw [payloads] at given
      cases given
  | ok p =>
      rw [payloads] at given
      have read : (decodeSettings p.2).toOption = some x := given
      cases decoded : decodeSettings p.2 with
      | error e =>
          rw [decoded] at read
          cases read
      | ok s =>
          rw [decoded] at read
          cases read
          exact printable_of_decodeSettings decoded

theorem apart_of_ne {label other : String} (hl : label ∈ errorLabels) (ho : other ∈ errorLabels)
    (ne : label ≠ other) : Apart label other := by
  simp only [errorLabels, List.mem_cons, List.not_mem_nil, or_false] at hl ho
  rcases hl with rfl | rfl | rfl <;> rcases ho with rfl | rfl | rfl
  all_goals first | exact absurd rfl ne | exact fun _ => rfl

theorem message_of_labelled {label other m n : String} (hl : label ∈ errorLabels)
    (ho : other ∈ errorLabels) (same : label ++ m = other ++ n) : m = n := by
  have chars : label.toList ++ m.toList = other.toList ++ n.toList := by
    rw [← String.toList_append, ← String.toList_append, same]
  by_cases eq : label = other
  · subst eq
    exact String.toList_inj.1 (List.append_cancel_left chars)
  · have no := apart_of_ne hl ho eq n.toList
    rw [← chars, ← Bool.not_eq_true, List.isPrefixOf_iff_prefix] at no
    exact absurd (List.prefix_append _ _) no

theorem decode_eq_ok_iff_outcome :
    Framing.decode file = .ok (config, settings) ↔
      (contentOutcome file).config = config ∧ (contentOutcome file).settings = some settings ∧
        (contentOutcome file).errors = [] := by
  cases h : Framing.decode file with
  | ok r =>
      rw [contentOutcome_of_ok h]
      simp [Prod.ext_iff]
  | error e =>
      obtain ⟨label, -, rest, errors⟩ := contentOutcome_of_error h
      simp [errors]

theorem decode_eq_error_iff_outcome {m : String} :
    (∃ e, Framing.decode file = .error e ∧ e.message = m) ↔
      ∃ label ∈ errorLabels, ∃ rest, (contentOutcome file).errors = (label ++ m) :: rest := by
  constructor
  · rintro ⟨e, h, rfl⟩
    exact contentOutcome_of_error h
  · rintro ⟨label, hl, rest, errors⟩
    cases h : Framing.decode file with
    | ok r => simp [contentOutcome_of_ok h] at errors
    | error e =>
        obtain ⟨other, ho, rest', errors'⟩ := contentOutcome_of_error h
        rw [errors'] at errors
        exact ⟨e, rfl, message_of_labelled ho hl (List.cons.inj errors).1⟩

variable {c : Context} {t : FileTree} {path : String}

theorem outcomeOf_stored (stored : t.read c.host.location (Path.ofText path) = .ok file) :
    ∃ journal, outcomeOf c path t = ⟨.ok (contentOutcome file), t, journal⟩ := by
  rw [outcomeOf, Action.get_bind, TransferFile.readPayloads_of_content stored, contentOutcome]
  cases Framing.payloads file with
  | error e => exact ⟨_, rfl⟩
  | ok payloads =>
      obtain ⟨config, settings⟩ := payloads
      simp only [TransferFile.refused, takeOver, Action.zoom, Action.mapError,
        Consumer.receive_unclaimed]
      exact ⟨_, rfl⟩

theorem run_stored (stored : t.read c.host.location (Path.ofText path) = .ok file) :
    run c path t =
      ⟨.ok (), t, (outcomeOf c path t).journal ++
        (showOutcome (contentOutcome file) t : Result FileTree Ending Unit).journal⟩ := by
  obtain ⟨journal, outcome⟩ := outcomeOf_stored stored
  obtain ⟨lines, shown⟩ := reports_showOutcome (σ := FileTree) (printable_contentOutcome file)
  rw [run, Action.bind_of_eq outcome, outcome, shown t]

theorem inspect_stored (stored : t.read c.host.location (Path.ofText path) = .ok file) :
    (inspect c path t).value =
      if (contentOutcome file).errors = [] then .ok () else .error (.exit 1) := by
  rw [inspect, Action.get_bind, TransferFile.read_of_content stored]
  cases h : Framing.decode file with
  | ok r =>
      obtain ⟨config, settings⟩ := r
      have printable : ∀ x, some settings = some x → Printable x := by
        rintro _ ⟨⟩
        obtain ⟨_, _, -, -, decoded⟩ := Framing.decode_eq_ok_iff.1 h
        exact printable_of_decodeSettings decoded
      obtain ⟨lines, shown⟩ : Reports (showConfig config >>= fun _ => showSettings (some settings) :
          Action FileTree Ending Unit) :=
        (reports_showConfig _).bind (reports_showSettings printable)
      rw [contentOutcome_of_ok h, if_pos rfl]
      simp only [TransferFile.refused]
      rw [shown t]
  | error e =>
      obtain ⟨label, -, rest, errors⟩ := contentOutcome_of_error h
      obtain ⟨lines, said⟩ : Reports (tell "red" "Malformed transfer file: " e.message :
          Action FileTree Ending Unit) := reports_say _
      rw [errors, if_neg (List.cons_ne_nil _ _)]
      simp only [TransferFile.refused]
      rw [said.then]
      rfl

theorem inspect_agrees_with_run
    (stored : t.read c.host.location (Path.ofText path) = .ok file) :
    ∃ o, (outcomeOf c path t).value = .ok o ∧
      run c path t =
        ⟨.ok (), t, (outcomeOf c path t).journal ++
          (showOutcome o t : Result FileTree Ending Unit).journal⟩ ∧
      (∀ config settings,
        TransferFile.read t c.host.location (Path.ofText path) = .ok (config, settings) ↔
          o.config = config ∧ o.settings = some settings ∧ o.errors = []) ∧
      (∀ m : String,
        (∃ f, TransferFile.read t c.host.location (Path.ofText path) = .error f ∧ f.OfBytes ∧
          f.message = m) ↔
          ∃ label ∈ errorLabels, ∃ rest, o.errors = (label ++ m) :: rest) ∧
      (∀ f, TransferFile.read t c.host.location (Path.ofText path) = .error f → f.OfBytes) ∧
      ((inspect c path t).value = .error (.exit 1) ↔ o.errors ≠ []) ∧
      ((inspect c path t).value = .ok () ↔ o.errors = []) := by
  obtain ⟨journal, outcome⟩ := outcomeOf_stored stored
  refine ⟨contentOutcome file, by rw [outcome], run_stored stored, fun config settings => ?_,
    fun m => ?_, fun f => ?_, ?_, ?_⟩
  · rw [TransferFile.read_of_content stored, ← decode_eq_ok_iff_outcome]
    cases Framing.decode file <;> simp [TransferFile.refused]
  · rw [TransferFile.read_of_content stored, ← decode_eq_error_iff_outcome]
    constructor
    · rintro ⟨f, refused, -, message⟩
      obtain ⟨e, h, rfl⟩ := TransferFile.refused_eq_error_iff.1 refused
      exact ⟨e, h, Text.proper.inj message⟩
    · rintro ⟨e, h, rfl⟩
      exact ⟨.malformed e, TransferFile.refused_eq_error_iff.2 ⟨e, h, rfl⟩,
        Framing.ofBytes_of_decode h, rfl⟩
  · rw [TransferFile.read_of_content stored]
    intro refused
    obtain ⟨e, h, rfl⟩ := TransferFile.refused_eq_error_iff.1 refused
    exact Framing.ofBytes_of_decode h
  · rw [inspect_stored stored]
    split <;> simp [*]
  · rw [inspect_stored stored]
    split <;> simp [*]

def withoutConfig : Bytes :=
  Parcel.blobBytes (some []) ++ Parcel.blobBytes (some (Payload.settingsBytes {}))

def withoutConfigTree : FileTree :=
  ⟨[(["w"], .directory), (["w", "t"], .file withoutConfig)]⟩

def atWork : Context where
  host := { working := ⟨.slash, ["w"]⟩, project := ⟨.slash, ["p"]⟩, home := ⟨.slash, ["h"]⟩ }
  device := { connect := fun _ => .error "no device", shell := fun _ _ => .error "no device" }

theorem inspect_agrees_with_run_withoutConfig :
    withoutConfigTree.read atWork.host.location (Path.ofText "t") = .ok withoutConfig ∧
      ∃ o, (outcomeOf atWork "t" withoutConfigTree).value = .ok o ∧ o.settings = some {} ∧
        o.errors = ["config: truncated data reading magic: need 4 bytes at offset 0, have 0"] ∧
        (inspect atWork "t" withoutConfigTree).value = .error (.exit 1) ∧
        (run atWork "t" withoutConfigTree).value = .ok () := by
  have stored : withoutConfigTree.read atWork.host.location (Path.ofText "t") =
      .ok withoutConfig := by rfl
  have given : (outcomeOf atWork "t" withoutConfigTree).value =
      .ok { settings := some {}
            errors := ["config: truncated data reading magic: need 4 bytes at offset 0, have 0"] } := by
    rfl
  obtain ⟨o, outcome, ran, -, -, -, exits, -⟩ := inspect_agrees_with_run stored
  cases outcome.symm.trans given
  exact ⟨stored, _, outcome, rfl, rfl, exits.2 (List.cons_ne_nil _ _), by rw [ran]⟩

end Handover.CommandLine
