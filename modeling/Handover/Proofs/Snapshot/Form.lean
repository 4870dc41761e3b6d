import Handover.Proofs.Settings.Fields
import Mathlib.Data.List.Nodup

/-!
Forms: fields that setters fill one at a time, or a construction all at once. A setter that writes its
own field alone keeps what it accepted last; a construction that sets the given fields in declared
order agrees with the setters in any order, and fails as the setter of its first bad field does.
-/

namespace Handover

theorem Field.last?_eq_some_iff {entries : List (String × Value)} {name : String} {v : Value}
    (distinct : (entries.map Prod.fst).Nodup) :
    last? name entries = some v ↔ (name, v) ∈ entries := by
  induction entries generalizing v with
  | nil => simp [last?]
  | cons e rest ih =>
      obtain ⟨k, w⟩ := e
      obtain ⟨apart, later⟩ := List.nodup_cons.1 distinct
      have absent (u : Value) : (k, u) ∉ rest := by
        intro mem
        exact apart (List.mem_map.2 ⟨_, mem, rfl⟩)
      rw [last?, List.mem_cons, ← ih later]
      cases found : last? name rest with
      | some u =>
          have other : name ≠ k := by
            rintro rfl
            exact absent u ((ih later).1 found)
          simp [other]
      | none => simp [eq_comm]

/-- What a field holds of a value that it takes: of any sequence, the tuple of its items. -/
def Value.held : Value → Value
  | .list items => .tuple items
  | .sequence _ items => .tuple items
  | .byteArray bs => .tuple (bs.map fun b => .int b.toNat)
  | v => v.kept

inductive BuilderCall (φ : Type) where
  | set (field : φ) (v : Value)
  | build

inductive BuilderAnswer (σ : Type) where
  | accepted
  | refused (e : InvalidArgument)
  | built (s : σ)

/-- Fields in declared order, a builder with a setter for each, and the construction by name. -/
structure Form (φ β σ : Type) where
  fields : List φ
  name : φ → String
  fresh : β
  set : β → φ → Value → Except InvalidArgument β
  build : β → σ
  get : σ → φ → Value
  construct : List (String × Value) → Except EntryFault σ
  Admits : φ → Value → Prop
  counts : Value → Bool

namespace Form

variable {φ β σ : Type}

def answer (f : Form φ β σ) (b : β) : BuilderCall φ → BuilderAnswer σ
  | .set field v =>
      match f.set b field v with
      | .ok _ => .accepted
      | .error e => .refused e
  | .build => .built (f.build b)

def next (f : Form φ β σ) (b : β) : BuilderCall φ → β
  | .set field v =>
      match f.set b field v with
      | .ok c => c
      | .error _ => b
  | .build => b

def after (f : Form φ β σ) : List (BuilderCall φ) → β → β
  | [], b => b
  | call :: rest, b => f.after rest (f.next b call)

def exchanges (f : Form φ β σ) : List (BuilderCall φ) → β → List (BuilderCall φ × BuilderAnswer σ)
  | [], _ => []
  | call :: rest, b => (call, f.answer b call) :: f.exchanges rest (f.next b call)

def Accepts (f : Form φ β σ) (x : φ × Value) : Prop :=
  f.answer f.fresh (.set x.1 x.2) = .accepted

def acceptedFor [DecidableEq φ] (field : φ) : BuilderCall φ × BuilderAnswer σ → Option Value
  | (.set other v, .accepted) => if other = field then some v else none
  | _ => none

def lastAccepted [DecidableEq φ] (field : φ) (es : List (BuilderCall φ × BuilderAnswer σ)) :
    Option Value :=
  (es.filterMap (acceptedFor field)).getLast?

def puts (args : List (φ × Value)) : List (BuilderCall φ) :=
  args.map fun x => .set x.1 x.2

def named (f : Form φ β σ) (args : List (φ × Value)) : List (String × Value) :=
  args.map fun x => (f.name x.1, x.2)

def given (f : Form φ β σ) (entries : List (String × Value)) (field : φ) : Option Value :=
  (Field.last? (f.name field) entries).filter f.counts

def chosen (given : φ → Option Value) (fields : List φ) : List (φ × Value) :=
  fields.filterMap fun field => (given field).map (field, ·)

def setGiven (f : Form φ β σ) (given : φ → Option Value) : List φ → β → Except InvalidArgument β
  | [], b => .ok b
  | field :: rest, b =>
      match given field with
      | none => f.setGiven given rest b
      | some v =>
          match f.set b field v with
          | .ok c => f.setGiven given rest c
          | .error e => .error e

/-- A setter writes its own field alone and takes no notice of the others, and a construction sets
the given fields in declared order. -/
structure Lawful [DecidableEq φ] (f : Form φ β σ) : Prop where
  nodup : f.fields.Nodup
  complete : ∀ field, field ∈ f.fields
  injective : Function.Injective f.name
  ext : ∀ {s t}, (∀ field, f.get s field = f.get t field) → s = t
  get_set : ∀ {b c field v}, f.set b field v = .ok c → ∀ other,
    f.get (f.build c) other = if other = field then v.held else f.get (f.build b) other
  set_iff : ∀ {b field v}, (∃ c, f.set b field v = .ok c) ↔ f.Admits field v
  refused : ∀ {b field v e}, f.set b field v = .error e → ∀ c, f.set c field v = .error e
  construct : ∀ {entries}, (∀ e ∈ entries, ∃ field, e.1 = f.name field) →
    f.construct entries =
      ((f.setGiven (f.given entries) f.fields f.fresh).map f.build).mapError .refused
  settable : ∀ s field, if f.counts (f.get s field) then f.Admits field (f.get s field)
    else f.get s field = f.get (f.build f.fresh) field
  held_get : ∀ s field, (f.get s field).held = f.get s field

/-- From a builder `b` whose fields are as in `start`, each field keeps the last value that its own
setter accepted. -/
structure KeepsLast [DecidableEq φ] (f : Form φ β σ) (b : β) (start : φ → Value) : Prop where
  accepted : ∀ calls field v, f.Admits field v →
    f.answer (f.after calls b) (.set field v) = .accepted
  refused : ∀ calls field v, ¬ f.Admits field v →
    (∃ e, f.answer (f.after calls b) (.set field v) = .refused e) ∧
      f.next (f.after calls b) (.set field v) = f.after calls b
  built : ∀ calls, ∃ s, f.answer (f.after calls b) .build = .built s ∧
    f.construct (f.named (f.fields.map fun field => (field, f.get s field))) = .ok s ∧
    ∀ field, f.get s field =
      ((lastAccepted field (f.exchanges calls b)).map Value.held).getD (start field)
  frame : ∀ calls field v other, other ≠ field →
    f.get (f.build (f.next (f.after calls b) (.set field v))) other =
      f.get (f.build (f.after calls b)) other

/-- Construction from some fields agrees with a new builder on which they are set. -/
structure Agrees (f : Form φ β σ) (args : List (φ × Value)) : Prop where
  succeeds : (∃ s, f.construct (f.named args) = .ok s) ↔ ∀ x ∈ args, f.counts x.2 → f.Accepts x
  equal : ∀ {s}, f.construct (f.named args) = .ok s → ∀ order : List (φ × Value),
    order.Perm (args.filter fun x => f.counts x.2) →
      (∀ e ∈ f.exchanges (puts order) f.fresh, e.2 = .accepted) ∧
        f.build (f.after (puts order) f.fresh) = s
  stored : ∀ {s}, f.construct (f.named args) = .ok s → ∀ field v, (field, v) ∈ args →
    f.counts v → f.get s field = v.held
  refused : (∀ s, f.construct (f.named args) ≠ .ok s) →
    ∃ before field rest v e, f.fields = before ++ field :: rest ∧ (field, v) ∈ args ∧
      f.counts v ∧ f.answer f.fresh (.set field v) = .refused e ∧
      (∀ x ∈ args, x.1 ∈ before → f.counts x.2 → f.Accepts x) ∧
      f.construct (f.named args) = .error (.refused e)

variable {f : Form φ β σ}

theorem answer_set_iff {b : β} {field : φ} {v : Value} :
    f.answer b (.set field v) = .accepted ↔ ∃ c, f.set b field v = .ok c := by
  rw [answer]
  cases f.set b field v <;> simp

theorem answer_set_refused_iff {b : β} {field : φ} {v : Value} {e : InvalidArgument} :
    f.answer b (.set field v) = .refused e ↔ f.set b field v = .error e := by
  rw [answer]
  cases f.set b field v <;> simp

theorem next_of_refused {b : β} {field : φ} {v : Value} {e : InvalidArgument}
    (h : f.answer b (.set field v) = .refused e) : f.next b (.set field v) = b := by
  rw [next, answer_set_refused_iff.1 h]

theorem mem_chosen {given : φ → Option Value} {fields : List φ} {x : φ × Value} :
    x ∈ chosen given fields ↔ x.1 ∈ fields ∧ given x.1 = some x.2 := by
  obtain ⟨field, v⟩ := x
  simp only [chosen, List.mem_filterMap, Option.map_eq_some_iff, Prod.mk.injEq]
  constructor
  · rintro ⟨_, mem, _, found, rfl, rfl⟩
    exact ⟨mem, found⟩
  · rintro ⟨mem, found⟩
    exact ⟨field, mem, v, found, rfl, rfl⟩

theorem chosen_cons_of_none {given : φ → Option Value} {field : φ} (found : given field = none)
    (rest : List φ) : chosen given (field :: rest) = chosen given rest := by
  simp [chosen, found]

theorem chosen_cons_of_some {given : φ → Option Value} {field : φ} {v : Value}
    (found : given field = some v) (rest : List φ) :
    chosen given (field :: rest) = (field, v) :: chosen given rest := by
  simp [chosen, found]

theorem chosen_fields_sublist (given : φ → Option Value) (fields : List φ) :
    ((chosen given fields).map Prod.fst).Sublist fields := by
  induction fields with
  | nil => exact List.Sublist.slnil
  | cons field rest ih =>
      cases found : given field with
      | none =>
          rw [chosen_cons_of_none found]
          exact ih.cons field
      | some v =>
          rw [chosen_cons_of_some found]
          exact ih.cons_cons field

variable [DecidableEq φ]

namespace Lawful

variable (h : f.Lawful)

include h

theorem answer_set (b c : β) (field : φ) (v : Value) :
    f.answer b (.set field v) = f.answer c (.set field v) := by
  rw [answer, answer]
  cases before : f.set b field v with
  | error e => rw [h.refused before c]
  | ok b' =>
      cases other : f.set c field v with
      | ok c' => rfl
      | error e =>
          rw [h.refused other b] at before
          cases before

theorem accepts_iff {x : φ × Value} : f.Accepts x ↔ f.Admits x.1 x.2 := by
  rw [Accepts, answer_set_iff, h.set_iff]

theorem get_next (b : β) (call : BuilderCall φ) (field : φ) :
    f.get (f.build (f.next b call)) field =
      ((acceptedFor field (call, f.answer b call)).map Value.held).getD
        (f.get (f.build b) field) := by
  cases call with
  | build => rfl
  | set other v =>
      rw [next, answer]
      cases made : f.set b other v with
      | error e => rfl
      | ok c =>
          rw [h.get_set made]
          by_cases same : other = field
          · simp [acceptedFor, same]
          · simp [acceptedFor, same, Ne.symm same]

theorem get_next_other {b : β} {field other : φ} {v : Value} (apart : other ≠ field) :
    f.get (f.build (f.next b (.set field v))) other = f.get (f.build b) other := by
  rw [h.get_next]
  cases f.answer b (.set field v) <;> simp [acceptedFor, Ne.symm apart]

theorem get_after (calls : List (BuilderCall φ)) (b : β) (field : φ) :
    f.get (f.build (f.after calls b)) field =
      ((lastAccepted field (f.exchanges calls b)).map Value.held).getD
        (f.get (f.build b) field) := by
  induction calls generalizing b with
  | nil => rfl
  | cons call rest ih =>
      rw [after, ih, h.get_next, lastAccepted, lastAccepted, exchanges, List.filterMap_cons]
      cases acceptedFor field (call, f.answer b call) with
      | none => rfl
      | some v =>
          rw [List.getLast?_cons]
          cases ((f.exchanges rest (f.next b call)).filterMap (acceptedFor field)).getLast? <;> rfl

theorem accepted_puts {args : List (φ × Value)} (accepts : ∀ x ∈ args, f.Accepts x) (b : β) :
    ∀ e ∈ f.exchanges (puts args) b, e.2 = .accepted := by
  induction args generalizing b with
  | nil => simp [puts, exchanges]
  | cons x rest ih =>
      obtain ⟨first, later⟩ := List.forall_mem_cons.1 accepts
      refine List.forall_mem_cons.2 ⟨?_, ih later _⟩
      exact (h.answer_set b f.fresh x.1 x.2).trans first

theorem get_puts_of_notMem {args : List (φ × Value)} {field : φ}
    (absent : ∀ v, (field, v) ∉ args) (b : β) :
    f.get (f.build (f.after (puts args) b)) field = f.get (f.build b) field := by
  induction args generalizing b with
  | nil => rfl
  | cons x rest ih =>
      have apart : field ≠ x.1 := by
        rintro rfl
        exact absent x.2 List.mem_cons_self
      have first := h.get_next_other (b := b) (v := x.2) apart
      rw [← first]
      exact ih (fun v mem => absent v (List.mem_cons_of_mem _ mem)) _

theorem get_puts_of_mem {args : List (φ × Value)} (distinct : (args.map Prod.fst).Nodup)
    (accepts : ∀ x ∈ args, f.Accepts x) {field : φ} {v : Value} (mem : (field, v) ∈ args) (b : β) :
    f.get (f.build (f.after (puts args) b)) field = v.held := by
  induction args generalizing b with
  | nil => cases mem
  | cons x rest ih =>
      obtain ⟨apart, later⟩ := List.nodup_cons.1 distinct
      obtain ⟨first, others⟩ := List.forall_mem_cons.1 accepts
      rcases List.mem_cons.1 mem with rfl | mem
      · have absent : ∀ w, (field, w) ∉ rest := by
          intro w mem
          exact apart (List.mem_map.2 ⟨_, mem, rfl⟩)
        have made : f.get (f.build (f.next b (.set field v))) field = v.held := by
          rw [h.get_next, (h.answer_set b f.fresh field v).trans first]
          simp [acceptedFor]
        rw [← made]
        exact h.get_puts_of_notMem absent _
      · exact ih later others mem _

theorem build_puts_congr {args args' : List (φ × Value)} (distinct : (args.map Prod.fst).Nodup)
    (distinct' : (args'.map Prod.fst).Nodup) (same : ∀ x, x ∈ args ↔ x ∈ args')
    (accepts : ∀ x ∈ args, f.Accepts x) (b : β) :
    f.build (f.after (puts args) b) = f.build (f.after (puts args') b) := by
  have accepts' : ∀ x ∈ args', f.Accepts x := fun x mem => accepts x ((same x).2 mem)
  apply h.ext
  intro field
  by_cases given : ∃ v, (field, v) ∈ args
  · obtain ⟨v, mem⟩ := given
    rw [h.get_puts_of_mem distinct accepts mem,
      h.get_puts_of_mem distinct' accepts' ((same _).1 mem)]
  · have absent : ∀ v, (field, v) ∉ args := fun v mem => given ⟨v, mem⟩
    have absent' : ∀ v, (field, v) ∉ args' := fun v mem => given ⟨v, (same _).2 mem⟩
    rw [h.get_puts_of_notMem absent, h.get_puts_of_notMem absent']

theorem setGiven_ends (given : φ → Option Value) (fields : List φ) (b : β) :
    ((∀ x ∈ chosen given fields, f.Accepts x) ∧
      f.setGiven given fields b = .ok (f.after (puts (chosen given fields)) b)) ∨
    ∃ before field rest v e, fields = before ++ field :: rest ∧ given field = some v ∧
      f.answer f.fresh (.set field v) = .refused e ∧
      (∀ x ∈ chosen given before, f.Accepts x) ∧ f.setGiven given fields b = .error e := by
  -- The builder moves on with each field, but a setter answers as on a new one.
  induction fields generalizing b with
  | nil => exact .inl ⟨by simp [chosen], rfl⟩
  | cons field rest ih =>
      cases found : given field with
      | none =>
          rw [setGiven, found, chosen_cons_of_none found]
          obtain done | ⟨before, other, later, v, e, rfl, least⟩ := ih b
          · exact .inl done
          · refine .inr ⟨field :: before, other, later, v, e, rfl, ?_⟩
            rw [chosen_cons_of_none found]
            exact least
      | some v =>
          rw [setGiven, found, chosen_cons_of_some found]
          dsimp only
          cases made : f.set b field v with
          | error e =>
              refine .inr ⟨[], field, rest, v, e, rfl, found, ?_, by simp [chosen], rfl⟩
              rw [h.answer_set f.fresh b, answer_set_refused_iff, made]
          | ok c =>
              have accepted : f.Accepts (field, v) := by
                rw [h.accepts_iff]
                exact h.set_iff.1 ⟨c, made⟩
              have moved : f.next b (.set field v) = c := by rw [next, made]
              obtain ⟨accepts, done⟩ |
                ⟨before, other, later, w, e, rfl, given_w, refused, least, ends⟩ := ih c
              · refine .inl ⟨List.forall_mem_cons.2 ⟨accepted, accepts⟩, ?_⟩
                rw [puts, List.map_cons, after, moved]
                exact done
              · refine .inr ⟨field :: before, other, later, w, e, rfl, given_w, refused, ?_, ends⟩
                rw [chosen_cons_of_some found]
                exact List.forall_mem_cons.2 ⟨accepted, least⟩

variable {args : List (φ × Value)}

theorem given_named_iff (distinct : (args.map Prod.fst).Nodup) {field : φ} {v : Value} :
    f.given (f.named args) field = some v ↔ (field, v) ∈ args ∧ f.counts v := by
  have names : ((f.named args).map Prod.fst).Nodup := by
    have renamed := distinct.map h.injective
    rw [List.map_map] at renamed
    rw [named, List.map_map]
    exact renamed
  rw [given, Option.filter_eq_some_iff, Field.last?_eq_some_iff names, named, List.mem_map]
  refine and_congr_left fun _ => ⟨?_, fun mem => ⟨_, mem, rfl⟩⟩
  rintro ⟨⟨other, w⟩, mem, same⟩
  cases h.injective (congrArg Prod.fst same)
  cases congrArg Prod.snd same
  exact mem

theorem nodup_chosen (given : φ → Option Value) :
    ((chosen given f.fields).map Prod.fst).Nodup :=
  (chosen_fields_sublist given f.fields).nodup h.nodup

theorem mem_chosen_named (distinct : (args.map Prod.fst).Nodup) {x : φ × Value} :
    x ∈ chosen (f.given (f.named args)) f.fields ↔ x ∈ args ∧ f.counts x.2 := by
  rw [mem_chosen, h.given_named_iff distinct]
  exact and_iff_right (h.complete x.1)

theorem forall_chosen_iff (distinct : (args.map Prod.fst).Nodup) {p : φ × Value → Prop} :
    (∀ x ∈ chosen (f.given (f.named args)) f.fields, p x) ↔
      ∀ x ∈ args, f.counts x.2 → p x := by
  simp only [h.mem_chosen_named distinct, and_imp]

theorem construct_named :
    f.construct (f.named args) =
      ((f.setGiven (f.given (f.named args)) f.fields f.fresh).map f.build).mapError .refused := by
  apply h.construct
  intro e mem
  obtain ⟨x, -, rfl⟩ := List.mem_map.1 mem
  exact ⟨x.1, rfl⟩

theorem construct_eq_ok_iff {s : σ} :
    f.construct (f.named args) = .ok s ↔
      (∀ x ∈ chosen (f.given (f.named args)) f.fields, f.Accepts x) ∧
        f.build (f.after (puts (chosen (f.given (f.named args)) f.fields)) f.fresh) = s := by
  rw [h.construct_named]
  obtain ⟨accepts, done⟩ | ⟨before, field, rest, v, e, -, found, refused, -, ends⟩ :=
    h.setGiven_ends (f.given (f.named args)) f.fields f.fresh
  · rw [done]
    exact ⟨fun made => ⟨accepts, Except.ok.inj made⟩, fun made => congrArg Except.ok made.2⟩
  · rw [ends]
    constructor
    · rintro ⟨⟩
    · rintro ⟨accepts, -⟩
      have accepted : f.answer f.fresh (.set field v) = .accepted :=
        accepts (field, v) (mem_chosen.2 ⟨h.complete field, found⟩)
      rw [refused] at accepted
      cases accepted

theorem get_construct {s : σ} (made : f.construct (f.named args) = .ok s) (field : φ) :
    f.get s field = ((f.given (f.named args) field).map Value.held).getD
      (f.get (f.build f.fresh) field) := by
  obtain ⟨accepts, rfl⟩ := h.construct_eq_ok_iff.1 made
  cases found : f.given (f.named args) field with
  | none =>
      apply h.get_puts_of_notMem
      intro v mem
      cases found.symm.trans (mem_chosen.1 mem).2
  | some v =>
      exact h.get_puts_of_mem (h.nodup_chosen _) accepts
        (mem_chosen.2 ⟨h.complete field, found⟩) f.fresh

theorem refused_of_construct (distinct : (args.map Prod.fst).Nodup)
    (fails : ∀ s, f.construct (f.named args) ≠ .ok s) :
    ∃ before field rest v e, f.fields = before ++ field :: rest ∧ (field, v) ∈ args ∧
      f.counts v ∧ f.answer f.fresh (.set field v) = .refused e ∧
      (∀ x ∈ args, x.1 ∈ before → f.counts x.2 → f.Accepts x) ∧
      f.construct (f.named args) = .error (.refused e) := by
  rw [h.construct_named] at fails ⊢
  obtain ⟨-, done⟩ | ⟨before, field, rest, v, e, split, found, refused, least, ends⟩ :=
    h.setGiven_ends (f.given (f.named args)) f.fields f.fresh
  · rw [done] at fails
    exact absurd rfl (fails _)
  · obtain ⟨mem, counts⟩ := (h.given_named_iff distinct).1 found
    refine ⟨before, field, rest, v, e, split, mem, counts, refused, ?_, ?_⟩
    · intro x mem earlier counts
      exact least x (mem_chosen.2 ⟨earlier, (h.given_named_iff distinct).2 ⟨mem, counts⟩⟩)
    · rw [ends]
      rfl

theorem agrees (distinct : (args.map Prod.fst).Nodup) : f.Agrees args := by
  refine ⟨?_, ?_, ?_, h.refused_of_construct distinct⟩
  · rw [← h.forall_chosen_iff distinct]
    constructor
    · rintro ⟨s, made⟩
      exact (h.construct_eq_ok_iff.1 made).1
    · intro accepts
      exact ⟨_, h.construct_eq_ok_iff.2 ⟨accepts, rfl⟩⟩
  · intro s made order perm
    obtain ⟨accepts, rfl⟩ := h.construct_eq_ok_iff.1 made
    have same (x : φ × Value) : x ∈ chosen (f.given (f.named args)) f.fields ↔ x ∈ order := by
      rw [h.mem_chosen_named distinct, perm.mem_iff, List.mem_filter]
    have distinct' : (order.map Prod.fst).Nodup := by
      rw [(perm.map Prod.fst).nodup_iff]
      exact (List.filter_sublist.map _).nodup distinct
    refine ⟨h.accepted_puts (fun x mem => accepts x ((same x).2 mem)) f.fresh, ?_⟩
    exact (h.build_puts_congr (h.nodup_chosen _) distinct' same accepts f.fresh).symm
  · intro s made field v mem counts
    rw [h.get_construct made, (h.given_named_iff distinct).2 ⟨mem, counts⟩]
    rfl

theorem construct_fields (s : σ) :
    f.construct (f.named (f.fields.map fun field => (field, f.get s field))) = .ok s := by
  set own := f.fields.map fun field => (field, f.get s field) with own_eq
  have mem (field : φ) : (field, f.get s field) ∈ own :=
    List.mem_map.2 ⟨field, h.complete field, rfl⟩
  have distinct : (own.map Prod.fst).Nodup := by
    rw [own_eq, List.map_map, show Prod.fst ∘ (fun field => (field, f.get s field)) = id from rfl,
      List.map_id]
    exact h.nodup
  have accepts : ∀ x ∈ own, f.counts x.2 → f.Accepts x := by
    intro x mem counts
    obtain ⟨field, -, rfl⟩ := List.mem_map.1 mem
    have settable := h.settable s field
    rw [if_pos counts] at settable
    exact h.accepts_iff.2 settable
  have made := h.construct_eq_ok_iff.2 ⟨(h.forall_chosen_iff distinct).2 accepts, rfl⟩
  rw [made]
  congr 1
  apply h.ext
  intro field
  rw [h.get_construct made]
  have settable := h.settable s field
  split at settable
  case isTrue counts =>
    rw [(h.given_named_iff distinct).2 ⟨mem field, counts⟩]
    exact h.held_get s field
  case isFalse uncounted =>
    -- Then construction leaves the field out, and it is as in a new builder.
    have absent : f.given (f.named own) field = none := by
      rw [Option.eq_none_iff_forall_ne_some]
      intro v found
      obtain ⟨mem, counts⟩ := (h.given_named_iff distinct).1 found
      obtain ⟨_, -, same⟩ := List.mem_map.1 mem
      cases same
      exact uncounted counts
    rw [absent]
    exact settable.symm

theorem keepsLast {b : β} {start : φ → Value}
    (starts : ∀ field, f.get (f.build b) field = start field) : f.KeepsLast b start := by
  refine ⟨?_, ?_, ?_, ?_⟩
  · intro calls field v admits
    rw [answer_set_iff]
    exact h.set_iff.2 admits
  · intro calls field v admits
    obtain ⟨e, refused⟩ : ∃ e, f.answer (f.after calls b) (.set field v) = .refused e := by
      cases made : f.set (f.after calls b) field v with
      | error e => exact ⟨e, answer_set_refused_iff.2 made⟩
      | ok c => exact absurd (h.set_iff.1 ⟨c, made⟩) admits
    exact ⟨⟨e, refused⟩, next_of_refused refused⟩
  · intro calls
    refine ⟨_, rfl, h.construct_fields _, ?_⟩
    intro field
    rw [h.get_after, starts]
  · intro calls field v other apart
    exact h.get_next_other apart

end Lawful

end Form

end Handover
