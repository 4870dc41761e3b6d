import Handover.Proofs.LegacyStore.World
import Handover.Proofs.Record.Valid
import Handover.Proofs.Yaml.Keys
import Handover.Proofs.Yaml.Printed
import Mathlib.Data.List.Forall2

namespace Handover

theorem Value.textEntries?_eq_some_iff {es : List (Value × Value)}
    {fields : List (Text × Value)} :
    textEntries? es = some fields ↔ es = fields.map fun f => (text f.1, f.2) := by
  fun_induction textEntries? es generalizing fields with
  | case1 => cases fields <;> simp
  | case2 k v rest ih =>
      cases fields with
      | nil => simp
      | cons f fields => simp [ih, Prod.ext_iff, and_comm]
  | case3 e rest other =>
      cases fields with
      | nil => simp
      | cons f fields =>
          refine iff_of_false nofun fun same => ?_
          exact other f.1 f.2 (List.cons.inj same).1

namespace LegacyStore

open Value (Distinct field?_eq_none_iff)

variable {α : Type}

def GivenBy (ofEntries : List (Text × Value) → Except RecordFault α) (v : Value) (r : α) : Prop :=
  ∃ fields, v = .map (fields.map fun f => (.text f.1, f.2)) ∧ ofEntries fields = .ok r

theorem recordOf_eq_ok_iff {ofEntries : List (Text × Value) → Except RecordFault α} {v : Value}
    {r : α} : recordOf ofEntries v = .ok r ↔ GivenBy ofEntries v r := by
  unfold recordOf
  split
  · next es =>
      simp only [GivenBy, Value.map.injEq, ← Value.textEntries?_eq_some_iff]
      cases Value.textEntries? es with
      | none => simp
      | some fields => cases made : ofEntries fields <;> simp [made]
  · next other =>
      refine iff_of_false nofun ?_
      rintro ⟨fields, rfl, -⟩
      exact other _ rfl

theorem not_givenBy_null {ofEntries : List (Text × Value) → Except RecordFault α} (r : α) :
    ¬ GivenBy ofEntries .null r := by
  rintro ⟨fields, ⟨⟩, -⟩

theorem networkRecords_eq_ok_iff {items : List Value} {rs : List NetworkRecord} :
    networkRecords items = .ok rs ↔ List.Forall₂ (GivenBy NetworkRecord.ofEntries) items rs := by
  induction items generalizing rs with
  | nil => simp [networkRecords, eq_comm]
  | cons v rest ih =>
      simp only [List.forall₂_cons_left_iff, ← recordOf_eq_ok_iff, ← ih, networkRecords]
      cases recordOf NetworkRecord.ofEntries v with
      | error e => simp
      | ok r => cases networkRecords rest <;> simp [eq_comm]

inductive GivesNetworks (es : List (Value × Value)) : Option (List NetworkRecord) → Prop where
  | missing (absent : ∀ v, (.text "networks", v) ∉ es) : GivesNetworks es none
  | empty {v} (under : (.text "networks", v) ∈ es) (falsy : v.truthy = false) :
      GivesNetworks es (some [])
  | records {items rs} (under : (.text "networks", .list items) ∈ es)
      (given : List.Forall₂ (GivenBy NetworkRecord.ofEntries) items rs) :
      GivesNetworks es (some rs)

inductive GivesAccessPoint (es : List (Value × Value)) : Option AccessPointRecord → Prop where
  | missing (absent : ∀ v, (.text "softap", v) ∉ es) : GivesAccessPoint es none
  | null (under : (.text "softap", .null) ∈ es) : GivesAccessPoint es none
  | record {v r} (under : (.text "softap", v) ∈ es)
      (given : GivenBy AccessPointRecord.ofEntries v r) : GivesAccessPoint es (some r)

inductive GivesConfig : Value → ConfigSnapshot → Prop where
  | null : GivesConfig .null {}
  | map {es savedNetworks accessPoint} (networks : GivesNetworks es savedNetworks)
      (softap : GivesAccessPoint es accessPoint) :
      GivesConfig (.map es) { savedNetworks, accessPoint }

theorem networks_eq_ok_iff {v : Value} {rs : List NetworkRecord} :
    networks v = .ok rs ↔
      (v.truthy = false ∧ rs = []) ∨
        ∃ items, v = .list items ∧ List.Forall₂ (GivenBy NetworkRecord.ofEntries) items rs := by
  unfold networks
  split
  · next truthy =>
      simp only [truthy, Bool.true_eq_false, false_and, false_or]
      split
      · next items => simp [networkRecords_eq_ok_iff]
      · next other =>
          refine iff_of_false nofun ?_
          rintro ⟨items, rfl, -⟩
          exact other items rfl
  · next falsy =>
      -- An empty list is falsy as well, and gives the same.
      constructor
      · rintro ⟨⟩
        exact .inl ⟨Bool.eq_false_iff.2 falsy, rfl⟩
      · rintro (⟨-, rfl⟩ | ⟨items, rfl, given⟩)
        · rfl
        · have empty : items = [] := by simpa [Value.truthy] using falsy
          rw [empty] at given
          rw [List.forall₂_nil_left_iff.1 given]

theorem savedNetworks_eq_ok_iff {es : List (Value × Value)} (distinct : Distinct es)
    {found : Option (List NetworkRecord)} :
    savedNetworks es = .ok found ↔ GivesNetworks es found := by
  rw [savedNetworks]
  cases field : Value.field? "networks" es with
  | none =>
      have absent := field?_eq_none_iff.1 field
      constructor
      · rintro ⟨⟩
        exact .missing absent
      · intro given
        cases given with
        | missing => rfl
        | empty under => exact absurd under (absent _)
        | records under => exact absurd under (absent _)
  | some v =>
      have under := Value.mem_of_field? field
      have same {w} (mem : (.text "networks", w) ∈ es) : w = v := distinct.unique mem under
      constructor
      · intro made
        cases read : networks v with
        | error e => simp [read] at made
        | ok rs =>
            simp only [read, Except.ok.injEq] at made
            rw [← made]
            rcases networks_eq_ok_iff.1 read with ⟨falsy, rfl⟩ | ⟨items, rfl, given⟩
            · exact .empty under falsy
            · exact .records under given
      · intro given
        cases given with
        | missing absent => exact absurd under (absent v)
        | empty mem falsy =>
            rw [same mem] at falsy
            simp [networks_eq_ok_iff.2 (.inl ⟨falsy, rfl⟩)]
        | records mem given =>
            simp [networks_eq_ok_iff.2 (.inr ⟨_, (same mem).symm, given⟩)]

theorem accessPoint_eq_ok_iff {es : List (Value × Value)} (distinct : Distinct es)
    {found : Option AccessPointRecord} :
    accessPoint es = .ok found ↔ GivesAccessPoint es found := by
  unfold accessPoint
  split
  · next field =>
      have absent := field?_eq_none_iff.1 field
      constructor
      · rintro ⟨⟩
        exact .missing absent
      · intro given
        cases given with
        | missing => rfl
        | null => rfl
        | record under => exact absurd under (absent _)
  · next field =>
      have under := Value.mem_of_field? field
      constructor
      · rintro ⟨⟩
        exact .null under
      · intro given
        cases given with
        | missing => rfl
        | null => rfl
        | record mem given =>
            rw [distinct.unique mem under] at given
            exact absurd given (not_givenBy_null _)
  · next v other field =>
      have under := Value.mem_of_field? field
      constructor
      · intro made
        cases read : recordOf AccessPointRecord.ofEntries v with
        | error e => simp [read] at made
        | ok r =>
            simp only [read, Except.ok.injEq] at made
            rw [← made]
            exact .record under (recordOf_eq_ok_iff.1 read)
      · intro given
        cases given with
        | missing absent => exact absurd under (absent v)
        | null mem => exact absurd (distinct.unique under mem) other
        | record mem given =>
            rw [distinct.unique mem under] at given
            simp [recordOf_eq_ok_iff.2 given]

theorem config_eq_ok_iff {es : List (Value × Value)} (distinct : Distinct es)
    {c : ConfigSnapshot} :
    config es = .ok c ↔ GivesNetworks es c.savedNetworks ∧ GivesAccessPoint es c.accessPoint := by
  rw [← savedNetworks_eq_ok_iff distinct, ← accessPoint_eq_ok_iff distinct, config]
  cases savedNetworks es with
  | error e => simp
  | ok found =>
      cases accessPoint es with
      | error e => simp
      | ok r =>
          obtain ⟨n, a⟩ := c
          simp

theorem givesConfig_iff {v : Value} (distinct : ∀ es, v = .map es → Distinct es) (path : String)
    {c : ConfigSnapshot} :
    GivesConfig v c ↔ ∃ es, entries path v = .ok es ∧ config es = .ok c := by
  constructor
  · intro given
    cases given with
    | null => exact ⟨[], rfl, rfl⟩
    | map networks softap =>
        exact ⟨_, rfl, (config_eq_ok_iff (distinct _ rfl)).2 ⟨networks, softap⟩⟩
  · rintro ⟨es, kept, made⟩
    unfold entries at kept
    split at kept
    · cases kept
      cases made
      exact .null
    · cases kept
      obtain ⟨networks, softap⟩ := (config_eq_ok_iff (distinct _ rfl)).1 made
      exact .map networks softap
    · cases kept

structure Documented (c : ConfigSnapshot) : Prop where
  networks : ∀ rs, c.savedNetworks = some rs → ∀ r ∈ rs, ∃ v, GivenBy NetworkRecord.ofEntries v r
  accessPoint : ∀ r, c.accessPoint = some r → ∃ v, GivenBy AccessPointRecord.ofEntries v r

theorem exists_givenBy_of_mem {items : List Value} {rs : List NetworkRecord}
    (h : List.Forall₂ (GivenBy NetworkRecord.ofEntries) items rs) :
    ∀ r ∈ rs, ∃ v, GivenBy NetworkRecord.ofEntries v r := by
  induction h with
  | nil => simp
  | cons first _ ih => exact List.forall_mem_cons.2 ⟨⟨_, first⟩, ih⟩

theorem savedNetworks_documented {es : List (Value × Value)} {rs : List NetworkRecord}
    (h : savedNetworks es = .ok (some rs)) :
    ∀ r ∈ rs, ∃ v, GivenBy NetworkRecord.ofEntries v r := by
  unfold savedNetworks at h
  split at h
  · cases h
  · split at h
    · next made =>
        cases h
        rcases networks_eq_ok_iff.1 made with ⟨-, rfl⟩ | ⟨items, -, given⟩
        · simp
        · exact exists_givenBy_of_mem given
    · cases h

theorem accessPoint_documented {es : List (Value × Value)} {r : AccessPointRecord}
    (h : accessPoint es = .ok (some r)) : ∃ v, GivenBy AccessPointRecord.ofEntries v r := by
  unfold accessPoint at h
  split at h
  · cases h
  · cases h
  · split at h
    · next read =>
        cases h
        exact ⟨_, recordOf_eq_ok_iff.1 read⟩
    · cases h

theorem config_documented {es : List (Value × Value)} {c : ConfigSnapshot}
    (h : config es = .ok c) : Documented c := by
  unfold config at h
  split at h
  · cases h
  · next networks =>
      split at h
      · next point =>
          cases h
          constructor
          · rintro rs rfl
            exact savedNetworks_documented networks
          · rintro r rfl
            exact accessPoint_documented point
      · cases h

theorem Documented.valid {c : ConfigSnapshot} (h : Documented c) : c.Valid := by
  constructor
  · intro rs saved r mem
    obtain ⟨_, fields, -, made⟩ := h.networks rs saved r mem
    exact NetworkRecord.valid_of_ofEntries made
  · intro r point
    obtain ⟨_, fields, -, made⟩ := h.accessPoint r point
    exact AccessPointRecord.valid_of_ofEntries made

theorem config_valid {es : List (Value × Value)} {s : ConfigSnapshot} (h : config es = .ok s) :
    s.Valid :=
  (config_documented h).valid

variable {t : FileTree} {cwd : Location} {path : Path} {bs : Bytes} {v : Value}

/-- What a store with a given document hands over, and what a commit does after a refusal. -/
structure HandsOverContents (cwd : Location) (path : Path) (t : FileTree) (v : Value) : Prop where
  handed : ∀ c, (loadConfig cwd (fresh path t)).value = .ok (some c) ↔ GivesConfig v c
  refused : (∀ c, ¬ GivesConfig v c) →
    ∃ e, (loadConfig cwd (fresh path t)).value = .error (.store path.text e)
  kept : (∀ c, ¬ GivesConfig v c) →
    (commit cwd (loadConfig cwd (fresh path t)).state).value = .ok () ∧
      (commit cwd (loadConfig cwd (fresh path t)).state).state.tree = t

theorem store_of_entries {text : String} {v : Value} {e : Fault} (h : entries text v = .error e) :
    ∃ f, e = .store text f := by
  unfold entries at h
  split at h
  · cases h
  · cases h
  · cases h
    exact ⟨_, rfl⟩

theorem handsOverContents_of_refused {e : StoreFault} {cache : Option (List (Value × Value))}
    (load : loadConfig cwd (fresh path t) =
      ⟨.error (.store path.text e), ⟨⟨path, cache, false⟩, t⟩, []⟩)
    (none : ∀ c, ¬ GivesConfig v c) : HandsOverContents cwd path t v := by
  constructor
  · simp [load, none]
  · exact fun _ => ⟨e, by rw [load]⟩
  · rw [load]
    exact fun _ => ⟨value_commit_untaken rfl, by simp [state_commit]⟩

theorem handsOverContents (stored : t.read cwd path = .ok bs) (parsed : Yaml.ofBytes bs = .ok v) :
    HandsOverContents cwd path t v := by
  have distinct : ∀ es, v = .map es → Distinct es := by
    rintro es rfl
    exact (Yaml.keyed_of_ofBytes parsed).own
  have gives (c : ConfigSnapshot) := givesConfig_iff (c := c) distinct path.text
  have load := loadConfig_fresh stored
  rw [parse_of_ofBytes _ parsed] at load
  cases kept : entries path.text v with
  | error e =>
      obtain ⟨f, rfl⟩ := store_of_entries kept
      rw [kept] at load
      exact handsOverContents_of_refused load (by simp [gives, kept])
  | ok es =>
      rw [kept] at load
      cases made : config es with
      | error e =>
          simp only [made] at load
          exact handsOverContents_of_refused load (by simp [gives, kept, made])
      | ok c =>
          simp only [made] at load
          have given : GivesConfig v c := (gives c).2 ⟨es, kept, made⟩
          constructor
          · simp [load, gives, kept, made]
          · exact fun none => absurd given (none c)
          · exact fun none => absurd given (none c)

def sparseText : String := "softap: {ssid: a}\nnetworks:\nsettings: {p2p_device_name: a}\n"

def sparseGraph : Yaml.Graph where
  nodes := #[.scalar .text "softap", .scalar .text "ssid", .scalar .text "a",
    .mapping .mapping [(1, 2)], .scalar .text "networks", .scalar .null "",
    .scalar .text "settings", .scalar .text "p2p_device_name", .scalar .text "a",
    .mapping .mapping [(7, 8)], .mapping .mapping [(0, 3), (4, 5), (6, 9)]]
  root := 10

def sparseEntries : List (Value × Value) :=
  [(.text "softap", .map [(.text "ssid", .text "a")]), (.text "networks", .null),
    (.text "settings", .map [(.text "p2p_device_name", .text "a")])]

theorem ofBytes_sparseText :
    Yaml.ofBytes (Text.Utf8.encode sparseText) = .ok (.map sparseEntries) := by
  have written : sparseGraph.isWrittenAs sparseText.toList = true := by decide +kernel
  rw [Yaml.ofBytes_text written]
  rfl

def sparsePath : Path := ⟨.slash, ["w", "store"]⟩

def sparseTree : FileTree :=
  ⟨[(["w"], .directory), (["w", "store"], .file (Text.Utf8.encode sparseText))]⟩

theorem handsOverContents_sparse :
    sparseTree.read ["w"] sparsePath = .ok (Text.Utf8.encode sparseText) ∧
      Yaml.ofBytes (Text.Utf8.encode sparseText) = .ok (.map sparseEntries) ∧
      (loadConfig ["w"] (fresh sparsePath sparseTree)).value =
        .ok (some { savedNetworks := some [], accessPoint := some { ssid := some "a" } }) := by
  have stored : sparseTree.read ["w"] sparsePath = .ok (Text.Utf8.encode sparseText) := by rfl
  refine ⟨stored, ofBytes_sparseText, ?_⟩
  refine ((handsOverContents stored ofBytes_sparseText).handed _).2 (.map ?_ ?_)
  · exact .empty (v := .null) (by simp [sparseEntries]) rfl
  · exact .record (v := .map [(.text "ssid", .text "a")]) (by simp [sparseEntries])
      ⟨[(.proper "ssid", .text "a")], rfl, rfl⟩

end LegacyStore

end Handover
