import Handover.Configuration.File
import Handover.Proofs.Yaml.Keys

namespace Handover

inductive Slot where
  | serial
  | storePath
  | outputDirectory
  | fileName
  | debug
  | richText
  deriving DecidableEq

namespace Slot

def all : List Slot :=
  [serial, storePath, outputDirectory, fileName, debug, richText]

theorem mem_all (slot : Slot) : slot ∈ all := by
  cases slot <;> decide

def sectionName : Slot → String
  | serial => "device"
  | storePath => "legacy_store"
  | outputDirectory => "transfer"
  | fileName => "transfer"
  | debug => "logging"
  | richText => "logging"

def name : Slot → String
  | serial => "serial"
  | storePath => "path"
  | outputDirectory => "output_dir"
  | fileName => "file_name"
  | debug => "debug"
  | richText => "rich_text"

theorem name_injective {x y : Slot} (h : x.name = y.name) : x = y := by
  cases x <;> cases y <;> first | rfl | simp [name] at h

def ofSection (sectionName : String) : List Slot :=
  all.filter fun slot => slot.sectionName = sectionName

theorem mem_ofSection {sectionName : String} {slot : Slot} :
    slot ∈ ofSection sectionName ↔ slot.sectionName = sectionName := by
  simp [ofSection, mem_all]

theorem eq_of_key {x y : Slot} (h : Value.text x.name = .text y.name) : x = y := by
  simp only [Value.text.injEq, Text.proper.injEq] at h
  exact name_injective h

end Slot

namespace Configuration

open Value (Distinct)
open Yaml (Keyed)

def get (c : Configuration) : Slot → Value
  | .serial => c.device.serial
  | .storePath => c.legacyStore.path
  | .outputDirectory => c.transfer.outputDirectory
  | .fileName => c.transfer.fileName
  | .debug => c.logging.debug
  | .richText => c.logging.richText

def Known (sectionName : String) (m : List (Value × Value)) : Prop :=
  ∀ e ∈ m, ∃ slot : Slot, slot.sectionName = sectionName ∧ e.1 = .text slot.name

def FitsSection (sectionName : String) (es : List (Value × Value)) : Prop :=
  ∀ v, (.text sectionName, v) ∈ es → ∃ m, v = .map m ∧ Known sectionName m

structure Fits (es : List (Value × Value)) : Prop where
  nonempty : es ≠ []
  sections : ∀ slot : Slot, FitsSection slot.sectionName es

structure Gives (es : List (Value × Value)) (slot : Slot) (default v : Value) : Prop where
  given : ∀ m w, (.text slot.sectionName, .map m) ∈ es → (.text slot.name, w) ∈ m → v = w
  absent : (∀ m w, (.text slot.sectionName, .map m) ∈ es → (.text slot.name, w) ∉ m) → v = default

def Denotes (es : List (Value × Value)) (c : Configuration) : Prop :=
  ∀ slot, Gives es slot (({} : Configuration).get slot) (c.get slot)

variable {α : Type} {sectionName : String} {fields : List (FieldOf α)} {get : α → Slot → Value}
  {m es : List (Value × Value)} {s s' : α}

structure Fills (sectionName : String) (fields : List (FieldOf α)) (get : α → Slot → Value) :
    Prop where
  known : ∀ slot : Slot, slot.sectionName = sectionName → ∀ v s, ∃ s',
    set? fields slot.name v s = some s' ∧
      ∀ other, other.sectionName = sectionName → get s' other = if other = slot then v else get s other
  unknown : ∀ name, (∀ slot : Slot, slot.sectionName = sectionName → slot.name ≠ name) →
    ∀ v s, set? fields name v s = none

/-- A section over another one: the given fields have their values, the others stay. -/
structure Laid (sectionName : String) (get : α → Slot → Value) (s : α) (m : List (Value × Value))
    (s' : α) : Prop where
  given : ∀ slot v, Slot.sectionName slot = sectionName → (.text slot.name, v) ∈ m → get s' slot = v
  others : ∀ slot, Slot.sectionName slot = sectionName → (∀ v, (.text slot.name, v) ∉ m) →
    get s' slot = get s slot

-- A later entry under the same key would win, so the keys of the rest have to be others.
theorem Laid.cons {slot : Slot} {v : Value} {t : α}
    (distinct : Distinct ((.text slot.name, v) :: m))
    (put : ∀ other, other.sectionName = sectionName →
      get t other = if other = slot then v else get s other)
    (later : Laid sectionName get t m s') :
    Laid sectionName get s ((.text slot.name, v) :: m) s' := by
  constructor
  · intro other w here mem
    rcases List.mem_cons.1 mem with same | mem
    · obtain ⟨name, rfl⟩ := Prod.mk.inj same
      obtain rfl := Slot.eq_of_key name
      rw [later.others other here fun w => distinct.notMem_tail, put other here, if_pos rfl]
    · exact later.given other w here mem
  · intro other here absent
    have apart : other ≠ slot := by
      rintro rfl
      exact absent v List.mem_cons_self
    rw [later.others other here fun w mem => absent w (List.mem_cons_of_mem _ mem),
      put other here, if_neg apart]

theorem Fills.setAll (fills : Fills sectionName fields get) (distinct : Distinct m)
    (known : Known sectionName m) (s : α) :
    ∃ s', Configuration.setAll fields s m = .ok s' ∧ Laid sectionName get s m s' := by
  induction m generalizing s with
  | nil => exact ⟨s, rfl, nofun, fun _ _ _ => rfl⟩
  | cons e rest ih =>
      obtain ⟨k, v⟩ := e
      obtain ⟨⟨slot, here, rfl⟩, later⟩ := List.forall_mem_cons.1 known
      obtain ⟨t, set, put⟩ := fills.known slot here v s
      obtain ⟨s', made, laid⟩ := ih (List.pairwise_cons.1 distinct).2 later t
      refine ⟨s', ?_, laid.cons distinct put⟩
      simp only [Configuration.setAll, set, made]

theorem Fills.setAll_unknown (fills : Fills sectionName fields get) (misfit : ¬ Known sectionName m)
    (s : α) : ∃ e, Configuration.setAll fields s m = .error e := by
  induction m generalizing s with
  | nil => exact absurd nofun misfit
  | cons e rest ih =>
      obtain ⟨k, v⟩ := e
      by_cases proper : ∃ name : String, k = .text name
      · obtain ⟨name, rfl⟩ := proper
        by_cases named : ∃ slot : Slot, slot.sectionName = sectionName ∧ slot.name = name
        · obtain ⟨slot, here, rfl⟩ := named
          obtain ⟨t, set, -⟩ := fills.known slot here v s
          have later : ¬ Known sectionName rest := by
            intro known
            exact misfit (List.forall_mem_cons.2 ⟨⟨slot, here, rfl⟩, known⟩)
          obtain ⟨e, refused⟩ := ih later t
          exact ⟨e, by simp only [Configuration.setAll, set, refused]⟩
        · have none := fills.unknown name (fun slot here same => named ⟨slot, here, same⟩) v s
          exact ⟨.mismatch, by simp only [Configuration.setAll, none]⟩
      · refine ⟨.mismatch, ?_⟩
        rw [Configuration.setAll]
        exact fun name _ same => proper ⟨name, (Prod.mk.inj same).1⟩

theorem Fills.readSection (fills : Fills sectionName fields get) (keyed : Keyed es)
    (fits : FitsSection sectionName es) (default : α) :
    ∃ s, Configuration.readSection fields default (Value.field? sectionName es) = .ok s ∧
      ∀ slot : Slot, slot.sectionName = sectionName →
        Gives es slot (get default slot) (get s slot) := by
  cases field : Value.field? sectionName es with
  | none =>
      have absent := Value.field?_eq_none_iff.1 field
      refine ⟨default, rfl, ?_⟩
      rintro slot rfl
      exact ⟨fun m v mem => absurd mem (absent _), fun _ => rfl⟩
  | some v =>
      have under := Value.mem_of_field? field
      obtain ⟨m, rfl, known⟩ := fits v under
      obtain ⟨s, made, laid⟩ := fills.setAll (keyed.inner _ m under) known default
      refine ⟨s, made, ?_⟩
      rintro slot rfl
      constructor
      · intro m' v mem
        obtain rfl : m' = m := Value.map.inj (keyed.own.unique mem under)
        exact laid.given slot v rfl
      · intro absent
        exact laid.others slot rfl fun v => absent m v under

theorem Fills.readSection_misfit (fills : Fills sectionName fields get) (keyed : Keyed es)
    (misfit : ¬ FitsSection sectionName es) (default : α) :
    ∃ e, Configuration.readSection fields default (Value.field? sectionName es) = .error e := by
  simp only [FitsSection, not_forall] at misfit
  obtain ⟨v, under, misfit⟩ := misfit
  rw [keyed.own.field?_eq_some_iff.2 under]
  cases v with
  | map m => exact fills.setAll_unknown (fun known => misfit ⟨m, rfl, known⟩) default
  | _ => exact ⟨.mismatch, rfl⟩

theorem set?_slots {slots : List Slot} {slot : Slot} (mem : slot ∈ slots)
    (put : Slot → Value → α → α) (v : Value) (s : α) :
    set? (slots.map fun x => ⟨x.name, put x⟩) slot.name v s = some (put slot v s) := by
  induction slots with
  | nil => cases mem
  | cons first rest ih =>
      rw [set?, List.map_cons, List.find?_cons]
      by_cases same : first.name = slot.name
      · rw [Slot.name_injective same]
        simp
      · have later : slot ∈ rest := by
          rcases List.mem_cons.1 mem with rfl | later
          · exact absurd rfl same
          · exact later
        rw [beq_eq_false_iff_ne.2 same]
        exact ih later

theorem fills_of_slots (put : Slot → Value → α → α)
    (made : fields = (Slot.ofSection sectionName).map fun slot => ⟨slot.name, put slot⟩)
    (frame : ∀ slot ∈ Slot.ofSection sectionName, ∀ other ∈ Slot.ofSection sectionName, ∀ v s,
      get (put slot v s) other = if other = slot then v else get s other) :
    Fills sectionName fields get := by
  rw [made]
  constructor
  · intro slot here v s
    have mem := Slot.mem_ofSection.2 here
    exact ⟨_, set?_slots mem put v s, fun other there =>
      frame slot mem other (Slot.mem_ofSection.2 there) v s⟩
  · intro name apart v s
    rw [set?, Option.map_eq_none_iff, List.find?_eq_none]
    intro f mem
    obtain ⟨slot, inside, rfl⟩ := List.mem_map.1 mem
    exact fun same => apart slot (Slot.mem_ofSection.1 inside) (beq_iff_eq.1 same)

theorem fills_device :
    Fills "device" deviceFields fun s => Configuration.get { device := s } :=
  fills_of_slots (fun _ v (s : DeviceSection) => { s with serial := v }) rfl
    (by simp [Slot.ofSection, Slot.all, Slot.sectionName, Configuration.get])

theorem fills_legacyStore :
    Fills "legacy_store" legacyStoreFields fun s => Configuration.get { legacyStore := s } :=
  fills_of_slots (fun _ v (s : LegacyStoreSection) => { s with path := v }) rfl
    (by simp [Slot.ofSection, Slot.all, Slot.sectionName, Configuration.get])

def putTransfer (slot : Slot) (v : Value) (s : TransferSection) : TransferSection :=
  match slot with
  | .fileName => { s with fileName := v }
  | _ => { s with outputDirectory := v }

theorem fills_transfer :
    Fills "transfer" transferFields fun s => Configuration.get { transfer := s } :=
  fills_of_slots putTransfer rfl
    (by simp [Slot.ofSection, Slot.all, Slot.sectionName, Configuration.get, putTransfer])

def putLogging (slot : Slot) (v : Value) (s : LoggingSection) : LoggingSection :=
  match slot with
  | .debug => { s with debug := v }
  | _ => { s with richText := v }

theorem fills_logging :
    Fills "logging" loggingFields fun s => Configuration.get { logging := s } :=
  fills_of_slots putLogging rfl
    (by simp [Slot.ofSection, Slot.all, Slot.sectionName, Configuration.get, putLogging])

theorem ofValue_map_eq_ok_iff {c : Configuration} :
    ofValue (.map es) = .ok c ↔
      readSection deviceFields {} (Value.field? "device" es) = .ok c.device ∧
        readSection legacyStoreFields {} (Value.field? "legacy_store" es) = .ok c.legacyStore ∧
        readSection transferFields {} (Value.field? "transfer" es) = .ok c.transfer ∧
        readSection loggingFields {} (Value.field? "logging" es) = .ok c.logging := by
  rw [ofValue]
  cases readSection deviceFields {} (Value.field? "device" es) with
  | error e => simp [bind, Except.bind]
  | ok device =>
      cases readSection legacyStoreFields {} (Value.field? "legacy_store" es) with
      | error e => simp [bind, Except.bind]
      | ok legacyStore =>
          cases readSection transferFields {} (Value.field? "transfer" es) with
          | error e => simp [bind, Except.bind]
          | ok transfer =>
              cases readSection loggingFields {} (Value.field? "logging" es) with
              | error e => simp [bind, Except.bind]
              | ok logging =>
                  obtain ⟨d, l, t, g⟩ := c
                  simp [bind, Except.bind, pure, Except.pure]

theorem exists_ofValue (keyed : Keyed es) (fits : ∀ slot : Slot, FitsSection slot.sectionName es) :
    ∃ c, ofValue (.map es) = .ok c ∧ Denotes es c := by
  obtain ⟨device, madeDevice, hasDevice⟩ := fills_device.readSection keyed (fits .serial) {}
  obtain ⟨store, madeStore, hasStore⟩ := fills_legacyStore.readSection keyed (fits .storePath) {}
  obtain ⟨transfer, madeTransfer, hasTransfer⟩ :=
    fills_transfer.readSection keyed (fits .fileName) {}
  obtain ⟨logging, madeLogging, hasLogging⟩ := fills_logging.readSection keyed (fits .debug) {}
  refine ⟨⟨device, store, transfer, logging⟩,
    ofValue_map_eq_ok_iff.2 ⟨madeDevice, madeStore, madeTransfer, madeLogging⟩, ?_⟩
  intro slot
  cases slot with
  | serial => exact hasDevice .serial rfl
  | storePath => exact hasStore .storePath rfl
  | outputDirectory => exact hasTransfer .outputDirectory rfl
  | fileName => exact hasTransfer .fileName rfl
  | debug => exact hasLogging .debug rfl
  | richText => exact hasLogging .richText rfl

theorem ofValue_misfit (keyed : Keyed es)
    (misfit : ¬ ∀ slot : Slot, FitsSection slot.sectionName es) :
    ∃ e, ofValue (.map es) = .error e := by
  cases made : ofValue (.map es) with
  | error e => exact ⟨e, rfl⟩
  | ok c =>
      obtain ⟨device, store, transfer, logging⟩ := ofValue_map_eq_ok_iff.1 made
      obtain ⟨slot, misfit⟩ := not_forall.1 misfit
      have refuses {α : Type} {fields : List (FieldOf α)} {get : α → Slot → Value} {default s : α}
          (fills : Fills slot.sectionName fields get)
          (read : Configuration.readSection fields default
            (Value.field? slot.sectionName es) = .ok s) : False := by
        obtain ⟨e, refused⟩ := fills.readSection_misfit keyed misfit default
        cases read.symm.trans refused
      cases slot with
      | serial => exact (refuses fills_device device).elim
      | storePath => exact (refuses fills_legacyStore store).elim
      | outputDirectory | fileName => exact (refuses fills_transfer transfer).elim
      | debug | richText => exact (refuses fills_logging logging).elim

/-- What is made of a document: all that it says, or nothing of it and one warning. -/
inductive Taken (v : Value) : Configuration → List Event → Prop
  | whole {es c} (mapping : v = .map es) (fits : Fits es) (denotes : Denotes es c) : Taken v c []
  | nothing (text : String) (unfit : ∀ es, v = .map es → ¬ Fits es) :
      Taken v {} [.logged .warning text]

theorem taken_ofDocument {v : Value} (keyed : ∀ es, v = .map es → Keyed es) (path : String) :
    Taken v (ConfigurationFile.ofDocument path v).1 (ConfigurationFile.ofDocument path v).2 := by
  by_cases fitting : ∃ es, v = .map es ∧ Fits es
  · obtain ⟨es, rfl, fits⟩ := fitting
    obtain ⟨c, made, denotes⟩ := exists_ofValue (keyed es rfl) fits.sections
    have nonempty : (Value.map es).truthy = true := by
      simpa [Value.truthy] using fits.nonempty
    rw [ConfigurationFile.ofDocument, if_pos nonempty, made]
    exact .whole rfl fits denotes
  · have unfit : ∀ es, v = .map es → ¬ Fits es := fun es mapping fits => fitting ⟨es, mapping, fits⟩
    have refused : v.truthy = true → ∃ e, ofValue v = .error e := by
      intro truthy
      cases v with
      | map es =>
          refine ofValue_misfit (keyed es rfl) fun sections => ?_
          exact unfit es rfl ⟨by simpa [Value.truthy] using truthy, sections⟩
      | _ => exact ⟨_, rfl⟩
    rw [ConfigurationFile.ofDocument]
    split
    · next truthy =>
        obtain ⟨e, refused⟩ := refused truthy
        rw [refused]
        exact .nothing _ unfit
    · exact .nothing _ unfit

/-- The configuration that the bytes of a file stand for: what their document says, or the defaults
if they hold no document that fits the schema. -/
inductive Stands (bs : Bytes) : Configuration → Prop
  | given {es c} (parsed : Yaml.ofBytes bs = .ok (.map es)) (fits : Fits es)
      (denotes : Denotes es c) : Stands bs c
  | defaults (unfit : ∀ es, Yaml.ofBytes bs = .ok (.map es) → ¬ Fits es) : Stands bs {}

theorem Gives.unique {slot : Slot} {default v w : Value} (hv : Gives es slot default v)
    (hw : Gives es slot default w) : v = w := by
  by_cases absent : ∀ m u, (.text slot.sectionName, .map m) ∈ es → (.text slot.name, u) ∉ m
  · rw [hv.absent absent, hw.absent absent]
  · simp only [not_forall, not_not] at absent
    obtain ⟨m, u, under, mem⟩ := absent
    rw [hv.given m u under mem, hw.given m u under mem]

theorem eq_of_get {c d : Configuration} (same : ∀ slot, c.get slot = d.get slot) : c = d := by
  obtain ⟨⟨serial⟩, ⟨path⟩, ⟨directory, file⟩, ⟨debug, rich⟩⟩ := c
  obtain rfl : serial = d.device.serial := same .serial
  obtain rfl : path = d.legacyStore.path := same .storePath
  obtain rfl : directory = d.transfer.outputDirectory := same .outputDirectory
  obtain rfl : file = d.transfer.fileName := same .fileName
  obtain rfl : debug = d.logging.debug := same .debug
  obtain rfl : rich = d.logging.richText := same .richText
  rfl

theorem Denotes.unique {c d : Configuration} (hc : Denotes es c) (hd : Denotes es d) : c = d :=
  eq_of_get fun slot => (hc slot).unique (hd slot)

theorem Taken.unique {v : Value} {c d : Configuration} {journal journal' : List Event}
    (hc : Taken v c journal) (hd : Taken v d journal') : c = d := by
  cases hc with
  | whole mapping fits denotes =>
      cases hd with
      | whole mapping' _ denotes' =>
          cases mapping
          cases mapping'
          exact denotes.unique denotes'
      | nothing _ unfit => exact absurd fits (unfit _ mapping)
  | nothing _ unfit =>
      cases hd with
      | whole mapping fits _ => exact absurd fits (unfit _ mapping)
      | nothing _ _ => rfl

theorem Stands.unique {bs : Bytes} {c d : Configuration} (hc : Stands bs c) (hd : Stands bs d) :
    c = d := by
  cases hc with
  | given parsed fits denotes =>
      cases hd with
      | given parsed' _ denotes' =>
          cases parsed.symm.trans parsed'
          exact denotes.unique denotes'
      | defaults unfit => exact absurd fits (unfit _ parsed)
  | defaults unfit =>
      cases hd with
      | given parsed fits _ => exact absurd fits (unfit _ parsed)
      | defaults _ => rfl

theorem taken_of_parsed {bs : Bytes} {v : Value} (parsed : Yaml.ofBytes bs = .ok v)
    (path : String) :
    Taken v (ConfigurationFile.ofDocument path v).1 (ConfigurationFile.ofDocument path v).2 := by
  refine taken_ofDocument ?_ path
  rintro es rfl
  exact Yaml.keyed_of_ofBytes parsed

theorem stands_ofDocument {bs : Bytes} {v : Value} (parsed : Yaml.ofBytes bs = .ok v)
    (path : String) : Stands bs (ConfigurationFile.ofDocument path v).1 := by
  have taken := taken_of_parsed parsed path
  generalize ConfigurationFile.ofDocument path v = r at taken ⊢
  obtain ⟨c, journal⟩ := r
  cases taken with
  | whole mapping fits denotes => exact .given (mapping ▸ parsed) fits denotes
  | nothing text unfit =>
      refine .defaults fun es read => unfit es ?_
      exact Except.ok.inj (parsed.symm.trans read)

end Configuration

end Handover
