import Handover.Proofs.LegacyStore.Removal

namespace Handover.LegacyStore

variable {ρ : Type}

def document (cwd : Location) (s : StoreWorld ρ) : Option Bytes :=
  (content cwd s).filter fun bs => (parse s.store.path.text bs).isOk

def Happening.document (cwd : Location) (h : Happening ρ) (s : StoreWorld ρ) : Option Bytes :=
  if h.isLoader then LegacyStore.document cwd s else none

def firstDocument (cwd : Location) : List (Happening ρ) → StoreWorld ρ → Option Bytes
  | [], _ => none
  | h :: rest, s => (h.document cwd s).or (firstDocument cwd rest (h.effect cwd s))

theorem firstDocument_append (cwd : Location) (as bs : List (Happening ρ)) (s : StoreWorld ρ) :
    firstDocument cwd (as ++ bs) s =
      (firstDocument cwd as s).or (firstDocument cwd bs (after cwd as s)) := by
  induction as generalizing s with
  | nil => rfl
  | cons a rest ih => simp only [List.cons_append, firstDocument, after, ih, Option.or_assoc]

theorem firstDocument_concat (cwd : Location) (hs : List (Happening ρ)) (h : Happening ρ)
    (s : StoreWorld ρ) :
    firstDocument cwd (hs ++ [h]) s =
      (firstDocument cwd hs s).or (h.document cwd (after cwd hs s)) := by
  rw [firstDocument_append, firstDocument, firstDocument, Option.or_none]

/-- The entries that a store keeps when a run has read `doc`. -/
inductive Holds (path : Path) : (doc : Option Bytes) → Option (List (Value × Value)) → Prop where
  | unread : Holds path none none
  | read {bs es} (parsed : parse path.text bs = .ok es) : Holds path (some bs) (some es)

inductive Finds (path : Path) : (doc : Option Bytes) →
    Except Fault (Option (List (Value × Value))) → Option (List (Value × Value)) → Prop where
  | read {bs es} (parsed : parse path.text bs = .ok es) :
      Finds path (some bs) (.ok (some es)) (some es)
  | absent : Finds path none (.ok none) none
  | failed {e} : Finds path none (.error e) none

variable {cwd : Location} {path : Path} {ds : List Deed} {s : StoreWorld ρ} {doc : Option Bytes}

theorem Finds.holds {value kept} (h : Finds path doc value kept) : Holds path doc kept := by
  cases h with
  | read parsed => exact .read parsed
  | absent => exact .unread
  | failed => exact .unread

theorem document_of_parsed {bs es} (stored : content cwd s = some bs)
    (parsed : parse s.store.path.text bs = .ok es) : document cwd s = some bs := by
  rw [document, stored, Option.filter_some, parsed]
  rfl

theorem document_of_refused {bs e} (stored : content cwd s = some bs)
    (refused : parse s.store.path.text bs = .error e) : document cwd s = none := by
  rw [document, stored, Option.filter_some, refused]
  rfl

theorem document_of_content_none (nothing : content cwd s = none) : document cwd s = none := by
  rw [document, nothing, Option.filter_none]

theorem content_of_absent (missing : s.world.tree.isThere cwd s.store.path = false) :
    content cwd s = none := by
  cases stored : content cwd s with
  | none => rfl
  | some bs =>
      have there := FileTree.isThere_of_read (content_eq_some_iff.1 stored)
      cases missing.symm.trans there

theorem finds_unread (place : s.store.path = path) (unread : s.store.cache = none) {value}
    {u : StoreSite} (ends : ReadEnds cwd s.site value u) :
    Finds path (document cwd s) value u.store.cache := by
  have kept : s.site.store.cache = none := unread
  cases ends with
  | kept cached => cases kept.symm.trans cached
  | absent _ missing =>
      rw [document_of_content_none (content_of_absent missing), kept]
      exact .absent
  | closed _ _ refused =>
      have nothing : content cwd s = none := by
        change s.world.tree.read cwd s.store.path = _ at refused
        rw [content, refused]
        rfl
      rw [document_of_content_none nothing, kept]
      exact .failed
  | unparsed _ stored refused =>
      rw [document_of_refused (content_eq_some_iff.2 stored) refused, kept]
      exact .failed
  | parsed _ stored parsed =>
      rw [document_of_parsed (content_eq_some_iff.2 stored) parsed]
      exact .read (place ▸ parsed)

theorem ReadEnds.cached {s u : StoreSite} {es value} (cached : s.store.cache = some es)
    (h : ReadEnds cwd s value u) : value = .ok (some es) ∧ u.store.cache = some es := by
  cases h with
  | kept found =>
      cases cached.symm.trans found
      exact ⟨rfl, cached⟩
  | absent unread => cases cached.symm.trans unread
  | closed unread => cases cached.symm.trans unread
  | unparsed unread => cases cached.symm.trans unread
  | parsed unread => cases cached.symm.trans unread

theorem finds_of_read (place : s.store.path = path) (holds : Holds path doc s.store.cache) {value}
    {u : StoreSite} (ends : ReadEnds cwd s.site value u) :
    Finds path (doc.or (document cwd s)) value u.store.cache := by
  generalize cache : s.store.cache = kept at holds
  cases holds with
  | unread =>
      rw [Option.none_or]
      exact finds_unread place cache ends
  | read parsed =>
      obtain ⟨rfl, kept⟩ := ends.cached cache
      rw [kept, Option.some_or]
      exact .read parsed

theorem holds_loadConfig (tracks : Tracks path ds s) (holds : Holds path doc s.store.cache) :
    Holds path (doc.or (document cwd s)) (Happening.loadConfig.effect cwd s).store.cache := by
  have ends := loadConfig_ends cwd s.site
  rw [effect_loadConfig]
  generalize (loadConfig cwd s.site).value = value, (loadConfig cwd s.site).state = u at ends ⊢
  cases ends with
  | again taken =>
      -- The entries were kept before: the flag is set only when they are.
      obtain ⟨o, c, claimed, -⟩ := tracks.handed_of_taken taken
      obtain ⟨es, cache, -⟩ := tracks.handed c claimed
      change Holds path _ s.store.cache
      rw [cache] at holds ⊢
      cases holds with
      | read parsed => exact .read parsed
  | unread _ read => exact (finds_of_read tracks.place holds read).holds
  | absent _ read => exact (finds_of_read tracks.place holds read).holds
  | refused _ read => exact (finds_of_read tracks.place holds read).holds
  | handed _ read => exact (finds_of_read tracks.place holds read).holds

theorem holds_effect (h : Happening ρ) (tracks : Tracks path ds s)
    (holds : Holds path doc s.store.cache) :
    Holds path (doc.or (h.document cwd s)) (h.effect cwd s).store.cache := by
  have idle (none : h.isLoader = false) :
      Holds path (doc.or (h.document cwd s)) (h.effect cwd s).store.cache := by
    rw [store_effect none, Happening.document, none, if_neg Bool.false_ne_true, Option.or_none]
    exact holds
  cases h with
  | loadConfig => exact holds_loadConfig tracks holds
  | loadSettings fallback =>
      rw [(effect_loadSettings cwd fallback s).1]
      exact (finds_of_read tracks.place holds (read_ends cwd s.site)).holds
  | commit => exact idle rfl
  | written bs => exact idle rfl
  | deleted => exact idle rfl

theorem holds_after (cwd : Location) (path : Path) (hs : List (Happening ρ)) (w : World ρ) :
    Holds path (firstDocument cwd hs (opened path w)) (after cwd hs (opened path w)).store.cache := by
  induction hs using List.reverseRecOn with
  | nil => exact .unread
  | append_singleton hs h ih =>
      rw [firstDocument_concat, after_append]
      exact holds_effect h (tracks_run cwd path hs w) ih

theorem finds_run {h : Happening ρ} (loader : h.isLoader = true) (before : List (Happening ρ))
    (w : World ρ) {value} {u : StoreSite}
    (ends : ReadEnds cwd (after cwd before (opened path w)).site value u) :
    Finds path (firstDocument cwd (before ++ [h]) (opened path w)) value u.store.cache := by
  rw [firstDocument_concat, Happening.document, if_pos loader]
  exact finds_of_read (tracks_run cwd path before w).place (holds_after cwd path before w) ends

def storedSettings (path : Path) (bs : Bytes) : Except Fault (Option SettingsSnapshot) :=
  (parse path.text bs).bind (settings path.text)

inductive SettingsEnd (path : Path) (other : Except Fault SettingsSnapshot) :
    (doc : Option Bytes) → Except Fault SettingsSnapshot → Prop where
  | own {bs x} (stored : storedSettings path bs = .ok (some x)) :
      SettingsEnd path other (some bs) (.ok x)
  | refused {bs e} (refused : storedSettings path bs = .error e) :
      SettingsEnd path other (some bs) (.error e)
  | silent {bs} (unset : storedSettings path bs = .ok none) : SettingsEnd path other (some bs) other
  | absent : SettingsEnd path other none other
  | unread {e} : SettingsEnd path other none (.error e)

theorem settingsEnd_answered {value kept} (finds : Finds path doc value kept)
    (fallback : Action ρ Fault SettingsSnapshot) (r : ρ) :
    SettingsEnd path (fallback r).value doc (answered fallback r (value.bind (own path))).1 := by
  cases finds with
  | absent => exact .absent
  | failed => exact .unread
  | @read bs es parsed =>
      have stored : storedSettings path bs = settings path.text es := by
        rw [storedSettings, parsed]
        rfl
      change SettingsEnd path _ _ (answered fallback r (settings path.text es)).1
      cases made : settings path.text es with
      | error e => exact .refused (stored.trans made)
      | ok found =>
          cases found with
          | some x => exact .own (stored.trans made)
          | none => exact .silent (stored.trans made)

/-- What comes from the file comes from the first document of a run, which stays the first. -/
structure OneVersion (cwd : Location) (path : Path) (hs : List (Happening ρ))
    (s : StoreWorld ρ) : Prop where
  first : ∀ before rest bs, hs = before ++ rest → firstDocument cwd before s = some bs →
    firstDocument cwd hs s = some bs
  config : ∀ before rest c, hs = before ++ .loadConfig :: rest →
    ((fileSource cwd).loadConfig (after cwd before s)).value = .ok (some c) →
    ∃ bs, firstDocument cwd (before ++ [.loadConfig]) s = some bs ∧ snapshot path bs = .ok c
  settings : ∀ before fallback rest, hs = before ++ .loadSettings fallback :: rest →
    SettingsEnd path (fallback (after cwd before s).world.rest).value
      (firstDocument cwd (before ++ [.loadSettings fallback]) s)
      ((backed cwd fallback).loadSettings ⟨fun _ => pure none⟩ (after cwd before s)).value

theorem snapshot_of_loadConfig (before : List (Happening ρ)) (w : World ρ) {c : ConfigSnapshot}
    (given : ((fileSource cwd).loadConfig (after cwd before (opened path w))).value = .ok (some c)) :
    ∃ bs, firstDocument cwd (before ++ [.loadConfig]) (opened path w) = some bs ∧
      snapshot path bs = .ok c := by
  have ends := loadConfig_ends cwd (after cwd before (opened path w)).site
  rw [(loadConfig_within cwd _).value] at given
  rw [given] at ends
  generalize (loadConfig cwd (after cwd before (opened path w)).site).state = u at ends
  cases ends with
  | @handed es c u untaken read made =>
      have finds := finds_run (h := .loadConfig) rfl before w read
      generalize firstDocument cwd (before ++ [.loadConfig]) (opened path w) = doc,
        u.store.cache = kept at finds ⊢
      cases finds with
      | @read bs _ parsed => exact ⟨bs, rfl, snapshot_eq_ok_iff.2 ⟨es, parsed, made⟩⟩

theorem oneVersion_opened (cwd : Location) (path : Path) (hs : List (Happening ρ)) (w : World ρ) :
    OneVersion cwd path hs (opened path w) := by
  constructor
  · rintro before rest bs rfl found
    rw [firstDocument_append, found, Option.some_or]
  · rintro before rest c rfl given
    exact snapshot_of_loadConfig before w given
  · rintro before fallback rest rfl
    have ends := read_ends cwd (after cwd before (opened path w)).site
    have finds := finds_run (h := .loadSettings fallback) rfl before w ends
    rw [(backed_ends cwd fallback _).value, (tracks_run cwd path before w).place]
    exact settingsEnd_answered finds fallback _

end Handover.LegacyStore
