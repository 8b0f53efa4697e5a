import RegistrySync.Command.Recorder
import RegistrySync.Proofs.Text.Infix
import RegistrySync.Proofs.Text.Utf8
import RegistrySync.Registry.Aws

/-!
When a repository counts as missing.

Whether it does is read off the message of a failed run, and that message names the program and its
arguments besides what the program said. None of its parts can run into another so as to name the
exception, so a repository counts as missing exactly if the program said so, or if the name of the
exception stands in one of the other parts.
-/

namespace RegistrySync

open Text

lemma Command.Exit.letter_not_mem_text (e : Command.Exit) : 'y' ∉ e.text.toList := by
  have hnumber (n : ℕ) : 'y' ∉ (toString n).toList := by
    intro h
    rw [Nat.toString_eq_repr, Nat.toList_repr] at h
    exact absurd (Nat.isDigit_of_mem_toDigits (by decide) (by decide) h) (by decide)
  have hnames : ∀ p ∈ signalNames, 'y' ∉ p.2.toList := by decide
  have hsignal (number : ℕ) : 'y' ∉ (signalText number).toList := by
    rw [signalText, String.toList_append, String.toList_append, List.mem_append, List.mem_append]
    refine not_or.2 ⟨not_or.2 ⟨by decide, hnumber number⟩, ?_⟩
    split
    · rename_i name hname
      obtain ⟨_, _, hlist, -⟩ := List.lookup_eq_some_iff.1 hname
      have hmem : (number, name) ∈ signalNames := hlist ▸ List.mem_append_right _ List.mem_cons_self
      simpa using hnames _ hmem
    · exact List.not_mem_nil
  cases e with
  | status code =>
    rw [text, String.toList_append, List.mem_append]
    exact not_or.2 ⟨by decide, hnumber code⟩
  | signal number => exact hsignal number
  | dumped number =>
    rw [text, String.toList_append, List.mem_append]
    exact not_or.2 ⟨hsignal number, by decide⟩

namespace Aws

open Command

variable {σ : Type} {r : Runner σ} {program : String} {arguments : List String} {o : Outcome}
  {s : σ} {runs : List Execution}

/-- The text names the exception that stands for a missing repository. -/
def Mentions (text : String) : Prop := missingRepository.toList <:+: text.toList

instance (text : String) : Decidable (Mentions text) := inferInstanceAs (Decidable (_ <:+: _))

/-- The program came to a good end and has written text. -/
def IsFine : Outcome → Prop
  | .finished f => f.exit.isSuccess = true ∧ ∃ text, Utf8.decode f.output = .ok text
  | .notStarted _ => False

/-- The program ran, failed, and named the exception in its error output. -/
def SaysMissing : Outcome → Prop
  | .finished f => f.exit.isSuccess = false ∧ Utf8.encode missingRepository <:+: f.errorOutput
  | .notStarted _ => False

/-- The message of a failure names the exception in a part that is not from the program. -/
def Misleads (program : String) (arguments : List String) : Outcome → Prop
  | .finished f => f.exit.isSuccess = false ∧ (Mentions program ∨ ∃ a ∈ arguments, Mentions a)
  | .notStarted why => Mentions program ∨ Mentions why

/-! ### What a run means -/

/-- What is made of the outcome of a run. -/
def meaning (program : String) (arguments : List String) : Outcome → Except Error String
  | .finished f => verdict program arguments f
  | .notStarted why => .error (.managedRegistry ("cannot run '" ++ program ++ "': " ++ why))

lemma run_eq : run r program arguments s =
    (meaning program arguments (r.run program arguments s).1, (r.run program arguments s).2) := by
  rw [run]
  split <;> rename_i h <;> rw [h] <;> rfl

lemma mem_missingRepository :
    ∀ c ∈ missingRepository.toList, Utf8.IsSingle c ∧ isBlank c = false := by
  have hall : missingRepository.toList.all fun c => Utf8.IsSingle c ∧ isBlank c = false := by decide
  exact fun c hc => of_decide_eq_true (List.all_eq_true.1 hall c hc)

lemma mentions_failure (program : String) (arguments : List String) (f : Finished) :
    Mentions ("'" ++ program ++ " " ++ joinWith " " arguments ++ "' failed (" ++ f.exit.text ++
      "): " ++ trim (Utf8.decodeLossy f.errorOutput)) ↔
    Mentions program ∨ (∃ a ∈ arguments, Mentions a) ∨
      Utf8.encode missingRepository <:+: f.errorOutput := by
  have hmessage : ("'" ++ program ++ " " ++ joinWith " " arguments ++ "' failed (" ++ f.exit.text ++
      "): " ++ trim (Utf8.decodeLossy f.errorOutput)).toList =
      [] ++ '\'' :: (program.toList ++ ' ' :: ([' '].intercalate (arguments.map String.toList) ++
        '\'' :: ((" failed (".toList ++ f.exit.text.toList ++ "):".toList) ++
          ' ' :: trimBy isBlank (Utf8.decodeLossyChars f.errorOutput)))) := by
    simp [joinWith, String.toList_intercalate, trim, Utf8.decodeLossy]
  have hstart : ¬ missingRepository.toList <:+: [] := by decide
  have hexit : ¬ missingRepository.toList <:+:
      " failed (".toList ++ f.exit.text.toList ++ "):".toList := by
    refine not_infix_of_not_mem (c := 'y') (by decide) ?_
    simp [f.exit.letter_not_mem_text]
  have hblank : ' ' ∉ missingRepository.toList := by decide
  have hquote : '\'' ∉ missingRepository.toList := by decide
  rw [Mentions, hmessage, infix_append_cons_iff hquote, infix_append_cons_iff hblank,
    infix_append_cons_iff hquote, infix_append_cons_iff hblank,
    infix_intercalate_iff hblank (by decide),
    infix_trimBy_iff (fun c hc => (mem_missingRepository c hc).2) (by decide),
    Utf8.infix_decodeLossyChars_iff fun c hc => (mem_missingRepository c hc).1]
  simp only [hstart, hexit, false_or, List.mem_map, exists_exists_and_eq_and]
  rfl

lemma mentions_absence (program why : String) :
    Mentions ("cannot run '" ++ program ++ "': " ++ why) ↔ Mentions program ∨ Mentions why := by
  have hmessage : ("cannot run '" ++ program ++ "': " ++ why).toList =
      "cannot run ".toList ++
        '\'' :: (program.toList ++ '\'' :: (":".toList ++ ' ' :: why.toList)) := by
    simp
  have hstart : ¬ missingRepository.toList <:+: "cannot run ".toList := by decide
  have hcolon : ¬ missingRepository.toList <:+: ":".toList := by decide
  have hblank : ' ' ∉ missingRepository.toList := by decide
  have hquote : '\'' ∉ missingRepository.toList := by decide
  rw [Mentions, hmessage, infix_append_cons_iff hquote, infix_append_cons_iff hquote,
    infix_append_cons_iff hblank]
  simp only [hstart, hcolon, false_or]
  rfl

def CountsAsMissing (program : String) (arguments : List String) (o : Outcome) : Prop :=
  SaysMissing o ∨ Misleads program arguments o

lemma isMissingRepository_managedRegistry {message : String} :
    isMissingRepository (.managedRegistry message) = true ↔ Mentions message :=
  contains_iff_infix

lemma meaning_cases (program : String) (arguments : List String) (o : Outcome) :
    (∃ text, meaning program arguments o = .ok text ∧ IsFine o ∧
      ¬ CountsAsMissing program arguments o) ∨
    ∃ e, meaning program arguments o = .error e ∧ ¬ IsFine o ∧
      (isMissingRepository e = true ↔ CountsAsMissing program arguments o) := by
  rcases o with f | why
  · rcases hexit : f.exit.isSuccess with _ | _
    · refine .inr ⟨_, by rw [meaning, verdict, hexit]; rfl, fun h => ?_, ?_⟩
      · rw [IsFine, hexit] at h
        cases h.1
      · rw [isMissingRepository_managedRegistry, mentions_failure, CountsAsMissing, SaysMissing,
          Misleads, hexit]
        simp only [true_and]
        rw [← or_assoc, or_comm]
    · have hnot : ¬ CountsAsMissing program arguments (.finished f) := by
        simp [CountsAsMissing, SaysMissing, Misleads, hexit]
      rcases htext : Utf8.decode f.output with fault | text
      · refine .inr ⟨_, by rw [meaning, verdict, hexit, htext]; rfl, fun h => ?_, ?_⟩
        · obtain ⟨-, text, h⟩ := h
          rw [htext] at h
          cases h
        · exact ⟨fun h => absurd h Bool.false_ne_true, fun h => absurd h hnot⟩
      · exact .inl ⟨text, by rw [meaning, verdict, hexit, htext]; rfl, ⟨hexit, text, htext⟩, hnot⟩
  · refine .inr ⟨_, rfl, id, ?_⟩
    rw [isMissingRepository_managedRegistry, mentions_absence, CountsAsMissing, SaysMissing,
      Misleads, false_or]

/-! ### The two operations -/

/-- The arguments that remove a repository. -/
def deletion (region name : String) (force : Bool) : List String :=
  ["ecr", "delete-repository", "--region", region, "--repository-name", name] ++
    if force then ["--force"] else []

lemma deleteRepository_spec (r : Runner σ) (program region name : String) (force : Bool) (s : σ) :
    let ran := r.run program (deletion region name force) s
    ∃ result, deleteRepository r program region name force s = (result, ran.2) ∧
      (result = .ok () ↔
        IsFine ran.1 ∨ CountsAsMissing program (deletion region name force) ran.1) := by
  intro ran
  have hrun : run r program (deletion region name force) s =
      (meaning program (deletion region name force) ran.1, ran.2) := run_eq
  rcases meaning_cases program (deletion region name force) ran.1 with
    ⟨text, hm, hfine, -⟩ | ⟨e, hm, hfine, hmissing⟩
  all_goals rw [hm, deletion] at hrun
  · refine ⟨.ok (), ?_, fun _ => .inl hfine, fun _ => rfl⟩
    simp only [deleteRepository, hrun]
  · by_cases hcounts : isMissingRepository e = true
    · refine ⟨.ok (), ?_, fun _ => .inr (hmissing.1 hcounts), fun _ => rfl⟩
      simp only [deleteRepository, hrun, hcounts, if_true]
    · refine ⟨.error e, ?_, nofun, fun h => ?_⟩
      · simp only [deleteRepository, hrun, hcounts]
        rfl
      · exact absurd h (not_or.2 ⟨hfine, mt hmissing.2 hcounts⟩)

/-- The arguments that ask for a repository. -/
def question (i : Identity) (name : String) : List String :=
  ["ecr", "describe-repositories", "--region", i.region, "--registry-id", i.account,
    "--repository-names", name]

/-- The arguments that create a repository. -/
def order (i : Identity) (name : String) : List String :=
  ["ecr", "create-repository", "--region", i.region, "--registry-id", i.account,
    "--repository-name", name]

lemma ensureRepository_spec (r : Runner σ) (program : String) (i : Identity) (name : String)
    (s : σ) :
    let asked := r.run program (question i name) s
    let made := r.run program (order i name) asked.2
    CountsAsMissing program (question i name) asked.1 ∧ ensureRepository r program i name s =
        ((meaning program (order i name) made.1).map fun _ => (), made.2) ∨
      ¬ CountsAsMissing program (question i name) asked.1 ∧
        ∃ result, ensureRepository r program i name s = (result, asked.2) ∧
          (result = .ok () ↔ IsFine asked.1) := by
  intro asked made
  have hasked : run r program (question i name) s =
      (meaning program (question i name) asked.1, asked.2) := run_eq
  have hmade : run r program (order i name) asked.2 =
      (meaning program (order i name) made.1, made.2) := run_eq
  rw [order] at hmade
  rcases meaning_cases program (question i name) asked.1 with
    ⟨text, hm, hfine, hnot⟩ | ⟨e, hm, hfine, hmissing⟩
  all_goals rw [hm, question] at hasked
  · refine .inr ⟨hnot, .ok (), ?_, fun _ => hfine, fun _ => rfl⟩
    simp only [ensureRepository, onRepository, hasked]
  · by_cases hcounts : isMissingRepository e = true
    · refine .inl ⟨hmissing.1 hcounts, ?_⟩
      simp only [ensureRepository, onRepository, hasked, hcounts, if_true, hmade]
      rfl
    · refine .inr ⟨mt hmissing.2 hcounts, .error e, ?_, nofun, fun h => absurd h hfine⟩
      simp only [ensureRepository, onRepository, hasked, hcounts]
      rfl

/-- **When a repository counts as missing.** A deletion is one run of the program, and comes to a
good end exactly if that run did, or if the repository counts as missing. A repository is asked for
in one run; if it counts as missing, and not else, it is created in a second run, which then
decides. It counts as missing if the program ran, failed and said so. But the name of the exception
in the program's own name, in an argument of a failed run, or in the reason why the program could
not be started has the same effect. -/
theorem counts_as_missing_iff (r : Runner σ) (program region name : String) (i : Identity)
    (force : Bool) (s : σ) :
    (let ran := r.run program (deletion region name force) s
      ∃ result, deleteRepository r.transcribed program region name force (s, []) =
          (result, ran.2, [⟨program, deletion region name force, ran.1⟩]) ∧
        (result = .ok () ↔
          IsFine ran.1 ∨ SaysMissing ran.1 ∨ Misleads program (deletion region name force) ran.1)) ∧
    let asked := r.run program (question i name) s
    let made := r.run program (order i name) asked.2
    (SaysMissing asked.1 ∨ Misleads program (question i name) asked.1 →
      ensureRepository r.transcribed program i name (s, []) =
        ((meaning program (order i name) made.1).map fun _ => (), made.2,
          [⟨program, question i name, asked.1⟩, ⟨program, order i name, made.1⟩])) ∧
    (¬ (SaysMissing asked.1 ∨ Misleads program (question i name) asked.1) →
      ∃ result, ensureRepository r.transcribed program i name (s, []) =
          (result, asked.2, [⟨program, question i name, asked.1⟩]) ∧
        (result = .ok () ↔ IsFine asked.1)) := by
  refine ⟨deleteRepository_spec r.transcribed program region name force (s, []), ?_⟩
  rcases ensureRepository_spec r.transcribed program i name (s, []) with
    ⟨hcounts, hcreated⟩ | ⟨hnot, hasked⟩
  · exact ⟨fun _ => hcreated, fun h => absurd hcounts h⟩
  · exact ⟨fun h => absurd h hnot, fun _ => hasked⟩

/-- A repository that is missing is created, and the second run decides. -/
theorem counts_as_missing_iff_created :
    let i : Identity := ⟨"123456789012", "eu-west-1"⟩
    let missing : Outcome := .finished ⟨.status 254, [],
      Utf8.encode "An error occurred (RepositoryNotFoundException)"⟩
    let created : Outcome := .finished ⟨.status 0, Utf8.encode "done", []⟩
    let r : Runner (List Outcome) := ⟨fun _ _ s => (s.headD created, s.tail)⟩
    SaysMissing missing ∧ ensureRepository r.transcribed "aws" i "mirror/a" ([missing], []) =
      (.ok (), [],
        [⟨"aws", ["ecr", "describe-repositories", "--region", "eu-west-1", "--registry-id",
          "123456789012", "--repository-names", "mirror/a"], missing⟩,
        ⟨"aws", ["ecr", "create-repository", "--region", "eu-west-1", "--registry-id",
          "123456789012", "--repository-name", "mirror/a"], created⟩]) := by
  intro i missing created r
  have hmissing : SaysMissing missing := ⟨rfl, by decide +kernel⟩
  have hmade : meaning "aws" (order i "mirror/a") created = .ok "done" := by
    rw [meaning, verdict, Utf8.decode_encode]
    rfl
  have hcourse := counts_as_missing_iff r "aws" "" "mirror/a" i false [missing]
  refine ⟨hmissing, (hcourse.2.1 (.inl hmissing)).trans ?_⟩
  rw [show r.run "aws" (order i "mirror/a") _ = (created, []) from rfl, hmade]
  rfl

/-- An access that is denied is taken for a missing repository because of how this one is called:
the deletion that failed counts as done, and a repository is created that nobody found missing. -/
theorem refusal_taken_for_missing :
    let denied : Outcome := .finished ⟨.status 254, [],
      Utf8.encode "An error occurred (AccessDeniedException)"⟩
    let r : Runner Unit := ⟨fun _ _ s => (denied, s)⟩
    let i : Identity := ⟨"123456789012", "eu-west-1"⟩
    let name := "mirror/RepositoryNotFoundException"
    ¬ IsFine denied ∧ ¬ SaysMissing denied ∧
      (deleteRepository r "aws" "eu-west-1" name false ()).1 = .ok () ∧
      (ensureRepository r.transcribed "aws" i name ((), [])).2.2 =
        [⟨"aws", question i name, denied⟩, ⟨"aws", order i name, denied⟩] := by
  intro denied r i name
  have hfine : ¬ IsFine denied := fun h => absurd h.1 Bool.false_ne_true
  have hmissing : ¬ Utf8.encode missingRepository <:+:
      Utf8.encode "An error occurred (AccessDeniedException)" := by decide +kernel
  have hname : Mentions name := by decide
  have hdeletion : Misleads "aws" (deletion "eu-west-1" name false) denied :=
    ⟨rfl, .inr ⟨name, by simp [deletion], hname⟩⟩
  have hquestion : Misleads "aws" (question i name) denied :=
    ⟨rfl, .inr ⟨name, by simp [question], hname⟩⟩
  refine ⟨hfine, fun h => hmissing h.2, ?_, ?_⟩
  · obtain ⟨result, hrun, hok⟩ := deleteRepository_spec r "aws" "eu-west-1" name false ()
    rw [hrun]
    exact hok.2 (.inr (.inr hdeletion))
  · rcases ensureRepository_spec r.transcribed "aws" i name ((), []) with
      ⟨-, hrun⟩ | ⟨hnot, -⟩
    · rw [hrun]
      rfl
    · exact absurd (.inr hquestion) hnot

end Aws

end RegistrySync
