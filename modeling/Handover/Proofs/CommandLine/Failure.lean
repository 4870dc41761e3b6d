import Handover.Proofs.CommandLine.Report

namespace Handover

namespace Console

/-- A character that is shown as it is, wherever it stands. -/
def IsLetter (c : Char) : Prop :=
  c ∉ ['[', '\\', '\n', '\t'] ∧ movesCursor c = false

instance (c : Char) : Decidable (IsLetter c) :=
  inferInstanceAs (Decidable (_ ∧ _))

-- The list is checked, and not all characters that there are.
theorem letters_of_all {s : String} (all : s.toList.all (fun c => decide (IsLetter c)) = true) :
    ∀ c ∈ s.toList, IsLetter c :=
  fun c mem => of_decide_eq_true (List.all_eq_true.1 all c mem)

theorem Markup.plainFrom_append {cs : List Char} (letters : ∀ c ∈ cs, IsLetter c) (fuel : Nat)
    (rest : List Char) :
    plainFrom (cs.length + fuel) 0 (cs ++ rest) = cs ++ plainFrom fuel 0 rest := by
  induction cs with
  | nil => rw [List.length_nil, Nat.zero_add, List.nil_append, List.nil_append]
  | cons c cs ih =>
      obtain ⟨⟨other, -⟩, others⟩ := List.forall_mem_cons.1 letters
      simp only [List.mem_cons, not_or] at other
      have step : (c :: cs).length + fuel = cs.length + fuel + 1 := by
        rw [List.length_cons]
        omega
      have none : tagAt? (c :: (cs ++ rest)) = none := by
        unfold tagAt?
        split
        · next same =>
            exact absurd (List.cons.inj same).1 other.1
        · rfl
      rw [step, List.cons_append, plainFrom]
      simp [other, none, ih others, slashes]

theorem splitLines_ne_nil (cs : List Char) : splitLines cs ≠ [] := by
  cases cs with
  | nil => exact List.cons_ne_nil _ _
  | cons c rest =>
      rw [splitLines]
      split
      · exact List.cons_ne_nil _ _
      · split
        · exact List.cons_ne_nil _ _
        · exact List.cons_ne_nil _ _

theorem splitLines_append {cs : List Char} (letters : ∀ c ∈ cs, IsLetter c) (rest : List Char) :
    ∃ line more, splitLines (cs ++ rest) = (cs ++ line) :: more := by
  induction cs with
  | nil => exact List.exists_cons_of_ne_nil (splitLines_ne_nil rest)
  | cons c cs ih =>
      obtain ⟨⟨other, -⟩, others⟩ := List.forall_mem_cons.1 letters
      obtain ⟨line, more, split⟩ := ih others
      refine ⟨line, more, ?_⟩
      simp only [List.mem_cons, not_or] at other
      rw [List.cons_append, splitLines, split]
      simp [other]

theorem expandTabs_append {cs : List Char} (letters : ∀ c ∈ cs, IsLetter c) (column : Nat)
    (rest : List Char) : ∃ line, expandTabs column (cs ++ rest) = cs ++ line := by
  induction cs generalizing column with
  | nil => exact ⟨_, rfl⟩
  | cons c cs ih =>
      obtain ⟨⟨other, -⟩, others⟩ := List.forall_mem_cons.1 letters
      obtain ⟨line, expanded⟩ := ih others (column + Text.charCells c)
      refine ⟨line, ?_⟩
      simp only [List.mem_cons, not_or] at other
      rw [List.cons_append, expandTabs]
      simp [other, expanded]

theorem lines_append {s : String} (letters : ∀ c ∈ s.toList, IsLetter c) (rest : List Char) :
    ∃ line more, lines (String.ofList (s.toList ++ rest)) = (s ++ line) :: more := by
  have kept : s.toList.filter (fun c => !movesCursor c) = s.toList := by
    refine List.filter_eq_self.2 fun c mem => ?_
    rw [(letters c mem).2]
    rfl
  obtain ⟨line, more, split⟩ := splitLines_append letters (rest.filter fun c => !movesCursor c)
  obtain ⟨line, expanded⟩ := expandTabs_append letters 0 line
  refine ⟨String.ofList line, more.map fun line => String.ofList (expandTabs 0 line), ?_⟩
  rw [lines, String.toList_ofList, List.filter_append, kept, split, List.map_cons, expanded,
    String.ofList_append, String.ofList_toList]

end Console

namespace CommandLine

def failureLines (label : String) (e : Fault) : List String :=
  match e.message with
  | .proper s => Console.lines (Console.Markup.plain (styled "red" (label ++ escape s)))
  | .ill _ _ => []

theorem plain_red {label : String} (letters : ∀ c ∈ label.toList, Console.IsLetter c)
    (text : String) :
    ∃ rest, Console.Markup.plain (styled "red" (label ++ text)) =
      String.ofList (label.toList ++ rest) := by
  have chars : (styled "red" (label ++ text)).toList =
      '[' :: 'r' :: 'e' :: 'd' :: ']' :: (label.toList ++ (text.toList ++ ['[', '/', ']'])) := by
    simp [styled, String.toList_append]
  have bracket : (styled "red" (label ++ text)).toList.contains '[' = true := by
    rw [chars]
    simp
  have tag (rest : List Char) :
      Console.Markup.tagAt? ('[' :: 'r' :: 'e' :: 'd' :: ']' :: rest) = some (['r', 'e', 'd'], rest) := by
    rfl
  have length : (styled "red" (label ++ text)).toList.length =
      label.toList.length + (text.toList.length + 8) := by
    rw [chars]
    simp
    omega
  refine ⟨Console.Markup.plainFrom (text.toList.length + 8) 0 (text.toList ++ ['[', '/', ']']), ?_⟩
  rw [Console.Markup.plain, if_pos bracket, length, chars, Console.Markup.plainFrom, tag]
  simp [Console.Markup.slashes, Console.Markup.plainFrom_append letters]

theorem failureLines_eq {label : String} (letters : ∀ c ∈ label.toList, Console.IsLetter c)
    {e : Fault} (printable : e.message.IsProper) :
    ∃ line more, failureLines label e = (label ++ line) :: more := by
  obtain ⟨s, message⟩ := Text.isProper_iff.1 printable
  obtain ⟨rest, plain⟩ := plain_red letters (escape s)
  rw [failureLines, message]
  dsimp only
  rw [plain]
  exact Console.lines_append letters rest

/-- What a run ends with that tells of a failure behind a label and exits with code 1. -/
structure FailsWith {σ : Type} (r : Result σ Ending Unit) (label : String) (e : Fault) : Prop where
  exit : r.value = .error (.exit 1)
  printed : ∃ before, r.journal = before ++ (failureLines label e).map .printed
  labelled : ∃ line more, failureLines label e = (label ++ line) :: more

theorem FailsWith.bind {σ α : Type} {x : Action σ Ending α} {s t : σ} {a : α}
    {journal : List Event} {f : α → Action σ Ending Unit} {label : String} {e : Fault}
    (hx : x s = ⟨.ok a, t, journal⟩) (fails : FailsWith (f a t) label e) :
    FailsWith ((x >>= f) s) label e := by
  obtain ⟨before, printed⟩ := fails.printed
  rw [Action.bind_of_eq hx]
  refine ⟨fails.exit, ⟨journal ++ before, ?_⟩, fails.labelled⟩
  dsimp only
  rw [printed, List.append_assoc]

theorem FailsWith.attempt_bind {σ ε α : Type} {x : Action σ ε α} {s : σ}
    {f : Except ε α → Action σ Ending Unit} {label : String} {e : Fault}
    (fails : FailsWith (f (x s).value (x s).state) label e) :
    FailsWith ((Action.attempt x >>= f) s) label e :=
  .bind rfl fails

def migrationLabel : String := "Migration failed: "

def settingsLabel : String := "Error reading settings: "

theorem letters_migrationLabel : ∀ c ∈ migrationLabel.toList, Console.IsLetter c :=
  Console.letters_of_all (by rfl)

theorem letters_settingsLabel : ∀ c ∈ settingsLabel.toList, Console.IsLetter c :=
  Console.letters_of_all (by rfl)

variable {σ : Type}

theorem printAll_apply (lines : List String) (s : σ) :
    (printAll lines s : Result σ Ending Unit) = ⟨.ok (), s, lines.map .printed⟩ := by
  induction lines with
  | nil => rfl
  | cons line rest ih =>
      rw [printAll, (Action.tells_print line).then, ih]
      rfl

theorem failsWith_tell {label : String} (letters : ∀ c ∈ label.toList, Console.IsLetter c)
    {e : Fault} (printable : e.message.IsProper) (s : σ) :
    FailsWith ((tell "red" label e.message >>= fun _ =>
      Action.fail (.exit 1) : Action σ Ending Unit) s) label e := by
  have labelled := failureLines_eq letters printable
  obtain ⟨text, message⟩ := Text.isProper_iff.1 printable
  have said : (tell "red" label e.message s : Result σ Ending Unit) =
      ⟨.ok (), s, (failureLines label e).map .printed⟩ := by
    rw [failureLines, message]
    exact printAll_apply _ s
  rw [Action.bind_of_eq said]
  refine ⟨rfl, ⟨[], ?_⟩, labelled⟩
  rw [Action.fail, List.append_nil, List.nil_append]

theorem value_tell_of_ill (style label : String) {message : Text} (ill : ¬ message.IsProper) (s : σ) :
    (tell style label message s : Result σ Ending Unit).value = .error (.raised .unprintable) := by
  cases message with
  | proper text => exact absurd trivial ill
  | ill codes surrogate => rfl

def IsTold (e : Fault) : Prop :=
  isReported e = true ∧ e.message.IsProper

/-- The end of a run whose work was done, or stopped at a fault that is told or ends the program. -/
inductive Concludes {σ : Type} (r : Result σ Ending Unit) : Except Fault Unit → Prop where
  | done (returned : r.value = .ok ()) : Concludes r (.ok ())
  | reported {e} (kind : IsTold e) (told : FailsWith r migrationLabel e) : Concludes r (.error e)
  | raised {e f} (kind : ¬ IsTold e) (escaped : r.value = .error (.raised f)) : Concludes r (.error e)

def Orderly {σ : Type} (r : Result σ Ending Unit) : Prop :=
  r.value = .ok () ∨ ∃ e, FailsWith r migrationLabel e

theorem not_orderly_raised {r : Result σ Ending Unit} {e : Fault}
    (escaped : r.value = .error (.raised e)) : ¬ Orderly r := by
  rintro (returned | ⟨f, told⟩)
  · cases returned.symm.trans escaped
  · cases told.exit.symm.trans escaped

namespace Concludes

variable {r : Result σ Ending Unit} {cause : Except Fault Unit}

theorem orderly_iff (h : Concludes r cause) :
    Orderly r ↔ ∀ e, cause = .error e → IsTold e := by
  cases h with
  | done returned => exact iff_of_true (.inl returned) (by rintro e ⟨⟩)
  | @reported e kind told =>
      refine iff_of_true (.inr ⟨e, told⟩) ?_
      rintro _ ⟨⟩
      exact kind
  | @raised e f kind escaped =>
      exact iff_of_false (not_orderly_raised escaped) fun told => kind (told e rfl)

theorem told_iff (h : Concludes r cause) :
    (∃ e, FailsWith r migrationLabel e) ↔ ∃ e, cause = .error e ∧ IsTold e := by
  cases h with
  | done returned =>
      refine iff_of_false ?_ (by rintro ⟨e, ⟨⟩, -⟩)
      rintro ⟨e, told⟩
      cases told.exit.symm.trans returned
  | @reported e kind told => exact iff_of_true ⟨e, told⟩ ⟨e, rfl, kind⟩
  | @raised e f kind escaped =>
      refine iff_of_false (fun told => not_orderly_raised escaped (.inr told)) ?_
      rintro ⟨_, ⟨⟩, told⟩
      exact kind told

theorem congr {τ : Type} {r' : Result τ Ending Unit} (h : Concludes r cause)
    (value : r'.value = r.value) (journal : r'.journal = r.journal) : Concludes r' cause := by
  cases h with
  | done returned => exact .done (value.trans returned)
  | reported kind told =>
      obtain ⟨before, printed⟩ := told.printed
      exact .reported kind ⟨value.trans told.exit, ⟨before, journal.trans printed⟩, told.labelled⟩
  | raised kind escaped => exact .raised kind (value.trans escaped)

theorem attempt_bind {ε α : Type} {x : Action σ ε α} {s : σ}
    {f : Except ε α → Action σ Ending Unit} (h : Concludes (f (x s).value (x s).state) cause) :
    Concludes ((Action.attempt x >>= f) s) cause := by
  cases h with
  | done returned => exact .done returned
  | reported kind told => exact .reported kind told.attempt_bind
  | raised kind escaped => exact .raised kind escaped

end Concludes

theorem concludes_reportFailure (e : Fault) (s : σ) :
    Concludes (reportFailure e s) (.error e) := by
  rw [reportFailure]
  by_cases kind : isReported e = true
  · rw [if_pos kind]
    by_cases printable : e.message.IsProper
    · exact .reported ⟨kind, printable⟩ (failsWith_tell letters_migrationLabel printable s)
    · have escaped := Action.bind_of_error (value_tell_of_ill "red" migrationLabel printable s)
        fun _ => (Action.fail (.exit 1) : Action σ Ending Unit)
      exact .raised (fun told => printable told.2) escaped.1
  · rw [if_neg kind]
    exact .raised (fun told => kind told.1) rfl

end CommandLine

end Handover
