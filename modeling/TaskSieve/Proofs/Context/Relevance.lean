import Mathlib.Data.List.TakeWhile
import TaskSieve.Proofs.Context.Reached
import TaskSieve.Proofs.Text.Splitting

/-!
# Relevance by whole segments

A test group lies in a changed directory exactly when the segments of its path
begin with those of the directory, so a directory whose name only begins alike
does not count.  The vote against tasks without relevant tests rests on the
changed directories alone, and more changed files or more groups can only turn
it in favour of a task.
-/

namespace TaskSieve

open Step

namespace RelevantTests

/-- A path with a slash is cut at its last one. -/
theorem directory?_append {directory name : List Char} (plain : '/' ∉ name) :
    directory? (directory ++ '/' :: name) = some directory := by
  have passes : ∀ letter ∈ name.reverse, (letter != '/') = true := by
    intro letter member
    rw [bne_iff_ne]
    intro isSlash
    exact plain (isSlash ▸ List.mem_reverse.mp member)
  have backwards : (directory ++ '/' :: name).reverse =
      name.reverse ++ '/' :: directory.reverse := by simp
  have dropped : (directory ++ '/' :: name).reverse.dropWhile (· != '/') =
      '/' :: directory.reverse := by
    rw [backwards, List.dropWhile_append_of_pos passes]
    simp
  simp only [directory?, dropped, List.reverse_reverse]

theorem exists_name_of_directory? {file directory : List Char}
    (found : directory? file = some directory) :
    ∃ name, '/' ∉ name ∧ file = directory ++ '/' :: name := by
  rw [directory?] at found
  cases back : file.reverse.dropWhile (· != '/') with
  | nil => simp [back] at found
  | cons slash front =>
      have isSlash : slash = '/' := by
        have stops := List.head?_dropWhile_not (· != '/') file.reverse
        simpa [back] using stops
      have isFront : front.reverse = directory := by simpa [back] using found
      let name := file.reverse.takeWhile (· != '/')
      refine ⟨name.reverse, ?_, ?_⟩
      · intro member
        simpa using List.mem_takeWhile_imp (List.mem_reverse.mp member)
      · calc
          file = (name ++ file.reverse.dropWhile (· != '/')).reverse := by
            rw [List.takeWhile_append_dropWhile, List.reverse_reverse]
          _ = directory ++ '/' :: name.reverse := by
            rw [back, List.reverse_append, List.reverse_cons, isFront, isSlash,
              List.append_assoc, List.singleton_append]

theorem directory?_eq_some_iff {file directory : List Char} :
    directory? file = some directory ↔
      ∃ name, '/' ∉ name ∧ file = directory ++ '/' :: name := by
  constructor
  · exact exists_name_of_directory?
  · rintro ⟨name, plain, rfl⟩
    exact directory?_append plain

theorem isUnder_iff {path directory : String} :
    isUnder path directory = true ↔
      Path.segments directory <+: Path.segments path := by
  rw [Path.segments_prefix_iff, isUnder]
  cases after : directory.toList.isPrefixOf? path.toList with
  | none =>
      have apart : ∀ rest, path.toList ≠ directory.toList ++ rest := by
        intro rest same
        rw [List.isPrefixOf?_eq_some_iff_append_eq.mpr same.symm] at after
        cases after
      have differ : path.toList ≠ directory.toList := by
        simpa using apart []
      simp [differ, apart]
  | some rest =>
      rw [List.isPrefixOf?_eq_some_iff_append_eq] at after
      cases rest with
      | nil => simp [← after]
      | cons next rest => simp [← after]

/-- A directory other than the root that some of the files lie in, with nothing
between. -/
def Holds (files : List String) (directory : String) : Prop :=
  directory ≠ "" ∧ ∃ name : String, '/' ∉ name.toList ∧
    directory ++ "/" ++ name ∈ files

/-- Some of the groups lie in a directory that holds some of the files, or below
it. -/
def Near (manifests files : List String) : Prop :=
  ∃ manifest ∈ manifests, ∃ directory, Holds files directory ∧
    Path.segments directory <+: Path.segments manifest

variable {files others manifests more : List String} {directory : String}

theorem mem_directories_iff : directory ∈ (directories files).keys ↔
      Holds files directory := by
  have slash : "/".toList = ['/'] := rfl
  rw [Table.mem_keys_iff, directories, Names.contains_ofList]
  simp only [List.contains_iff_mem, List.mem_map, List.mem_filter,
    List.mem_filterMap, directory?_eq_some_iff, Bool.not_eq_true',
    List.isEmpty_eq_false_iff]
  constructor
  · rintro ⟨front, ⟨⟨file, member, name, plain, same⟩, nonempty⟩, rfl⟩
    have whole : String.ofList front ++ "/" ++ String.ofList name = file := by
      apply String.toList_injective
      simp [same, slash]
    refine ⟨by simpa using nonempty, String.ofList name, by simpa using plain,
      ?_⟩
    rwa [whole]
  · rintro ⟨nonempty, name, plain, member⟩
    refine ⟨directory.toList, ⟨⟨_, member, name.toList, plain, ?_⟩, ?_⟩,
      String.ofList_toList⟩
    · simp [slash]
    · simpa using nonempty

theorem anyUnder_directories_iff :
    anyUnder manifests (directories files) = true ↔ Near manifests files := by
  simp only [anyUnder, List.any_eq_true, mem_directories_iff, isUnder_iff, Near]

/-- Only files that are not at the root lie in a directory. -/
theorem Holds.mono (below : ∀ file ∈ files, '/' ∈ file.toList → file ∈ others)
    (holds : Holds files directory) : Holds others directory := by
  obtain ⟨nonempty, name, plain, member⟩ := holds
  refine ⟨nonempty, name, plain, below _ member ?_⟩
  have slash : "/".toList = ['/'] := rfl
  simp [slash]

theorem Near.mono (groups : manifests ⊆ more)
    (below : ∀ directory, Holds files directory → Holds others directory)
    (near : Near manifests files) : Near more others := by
  obtain ⟨manifest, member, directory, holds, starts⟩ := near
  exact ⟨manifest, groups member, directory, below directory holds, starts⟩

/-- A path that goes on after a directory without a slash is not under it. -/
theorem isUnder_append {rest : String} (nonempty : rest ≠ "")
    (noSlash : rest.toList.head? ≠ some '/') :
    isUnder (directory ++ rest) directory = false := by
  have after : directory.toList.isPrefixOf? (directory ++ rest).toList =
      some rest.toList := by
    rw [List.isPrefixOf?_eq_some_iff_append_eq, String.toList_append]
  rw [isUnder, after]
  cases letters : rest.toList with
  | nil => exact (nonempty (by simpa using letters)).elim
  | cons next _ => simpa [letters] using noSlash

end RelevantTests

open RelevantTests

/-- A question about a task with a suite, when the changed files are known. -/
structure Question.IsAboutTests (question : Question) (files : List String) :
    Prop where
  suite : question.task.attributes.suite.isSome = true
  known : question.context.changedFiles = some files

/-- The vote for lack of relevant tests, whenever it is asked for. -/
def Question.AnswersRelevance (question : Question) (removes : Bool) : Prop :=
  ∀ state, question.context.Reached state →
    (Strategy.relevantTests.decide question state).1 = .ok removes

namespace Question

variable {question other : Question} {files others : List String}
  {removes : Bool}

/-- The vote looks at the changed directories, whether or not they were derived
before. -/
theorem decide_relevantTests (about : question.IsAboutTests files)
    {state : State} (reached : question.context.Reached state) :
    (Strategy.relevantTests.decide question state).1 =
      .ok !anyUnder question.task.manifests (directories files) := by
  obtain ⟨suite, known⟩ := about
  have derived : ∃ after, Context.directories files state =
      (.ok (directories files), after) :=
    reached.derived fun allows => directories_settles allows known
  obtain ⟨after, answered⟩ := derived
  obtain ⟨name, isSuite⟩ := Option.isSome_iff_exists.mp suite
  rw [Strategy.decide, removesIrrelevant, isSuite, known]
  dsimp only
  rw [bind_apply_ok _ answered]
  rfl

theorem answersRelevance_iff (about : question.IsAboutTests files) :
    question.AnswersRelevance removes ↔
      (!anyUnder question.task.manifests (directories files)) = removes := by
  constructor
  · intro answers
    have vote := answers {} (.fresh {} rfl)
    rw [decide_relevantTests about (.fresh {} rfl)] at vote
    exact Except.ok.inj vote
  · intro same state reached
    rw [decide_relevantTests about reached, same]

theorem keeps_iff_near (about : question.IsAboutTests files) :
    question.AnswersRelevance false ↔ Near question.task.manifests files := by
  rw [answersRelevance_iff about, Bool.not_eq_false', anyUnder_directories_iff]

theorem removes_iff_not_near (about : question.IsAboutTests files) :
    question.AnswersRelevance true ↔ ¬ Near question.task.manifests files := by
  rw [answersRelevance_iff about, Bool.not_eq_true', Bool.eq_false_iff, ne_eq,
    anyUnder_directories_iff]

/-- Two tasks with the same groups are answered alike when the same directories
change. -/
theorem answersRelevance_congr (about : question.IsAboutTests files)
    (aboutOther : other.IsAboutTests others)
    (groups : question.task.manifests = other.task.manifests)
    (same : ∀ directory, Holds files directory ↔ Holds others directory) :
    question.AnswersRelevance removes ↔ other.AnswersRelevance removes := by
  have alike : Near question.task.manifests files ↔
      Near other.task.manifests others := by
    simp only [Near, groups, same]
  cases removes with
  | false => rw [keeps_iff_near about, keeps_iff_near aboutOther, alike]
  | true =>
      rw [removes_iff_not_near about, removes_iff_not_near aboutOther, alike]

/-- A task with a suite is kept exactly when the segments of some directory that
holds changed files begin those of one of its groups.  So only the changed
directories matter, and files at the root do not; no change to the files or
groups that only adds some turns against the task; and a directory does not
match the paths that go on after it without a slash. -/
theorem relevantTests_by_segments (about : question.IsAboutTests files)
    (aboutOther : other.IsAboutTests others) :
    (question.AnswersRelevance false ↔ Near question.task.manifests files) ∧
    (question.AnswersRelevance true ↔ ¬ Near question.task.manifests files) ∧
    (question.task.manifests = other.task.manifests →
      ((∀ directory, Holds files directory ↔ Holds others directory) ∨
        ∀ file, '/' ∈ file.toList → (file ∈ files ↔ file ∈ others)) →
      ∀ removes, question.AnswersRelevance removes ↔
        other.AnswersRelevance removes) ∧
    (question.task.manifests ⊆ other.task.manifests → files ⊆ others →
      question.AnswersRelevance false → other.AnswersRelevance false) ∧
    ∀ directory rest : String, rest ≠ "" → rest.toList.head? ≠ some '/' →
      isUnder (directory ++ rest) directory = false := by
  refine ⟨keeps_iff_near about, removes_iff_not_near about, ?_, ?_, ?_⟩
  · rintro groups (same | below) removes
    · exact answersRelevance_congr about aboutOther groups same
    · refine answersRelevance_congr about aboutOther groups fun directory =>
        ⟨?_, ?_⟩
      · exact Holds.mono fun file member slash => (below file slash).mp member
      · exact Holds.mono fun file member slash => (below file slash).mpr member
  · intro groups added keeps
    rw [keeps_iff_near about] at keeps
    rw [keeps_iff_near aboutOther]
    exact keeps.mono groups fun _ => Holds.mono fun file member _ =>
      added member
  · intro directory rest nonempty noSlash
    exact isUnder_append nonempty noSlash

/-- A question about a task with one group, on a push that no predictor answers
for. -/
def aboutGroup (manifest : String) (files : List String) : Question where
  client := {
    environment := {
      fetch := fun _ _ _ => (.ok .pending, 0)
      pushes := fun _ _ _ _ => .ok ∅ }
    polling := { interval := 2, timeout := 5, positive := Nat.two_pos } }
  context := { changedFiles := some files }
  push := {
    branch := "autoland", repository := "repo", revision := "abc",
    project := "autoland", id := 3 }
  task := {
    label := "task"
    attributes := { suite := some "mochitest", manifests := some [manifest] } }

/-- A file in `dom/base` is relevant to a group below that directory, without
the file at the root and with a file elsewhere as well, and not to one in
`dom/basement`. -/
theorem relevantTests_by_segments_of_basement :
    let below := aboutGroup "dom/base/test/mochitest.ini"
    let beside := aboutGroup "dom/basement/mochitest.ini"
    let files := ["dom/base/Element.cpp", "README.md"]
    (below files).IsAboutTests files ∧ (beside files).IsAboutTests files ∧
      (below files).AnswersRelevance false ∧
      (below ["dom/base/Element.cpp"]).AnswersRelevance false ∧
      (below ("layout/Frame.cpp" :: files)).AnswersRelevance false ∧
      (beside files).AnswersRelevance true ∧
      isUnder "dom/basement/mochitest.ini" "dom/base" = false := by
  intro below beside files
  have about : (below files).IsAboutTests files := ⟨rfl, rfl⟩
  have aboutOne :
      (below ["dom/base/Element.cpp"]).IsAboutTests ["dom/base/Element.cpp"] :=
    ⟨rfl, rfl⟩
  have aboutMore : (below ("layout/Frame.cpp" :: files)).IsAboutTests
      ("layout/Frame.cpp" :: files) := ⟨rfl, rfl⟩
  have aboutBeside : (beside files).IsAboutTests files := ⟨rfl, rfl⟩
  have near : Near ["dom/base/test/mochitest.ini"] files := by
    rw [← anyUnder_directories_iff]
    decide
  have far : ¬ Near ["dom/basement/mochitest.ini"] files := by
    rw [← anyUnder_directories_iff]
    decide
  have rootFile : ∀ file : String, '/' ∈ file.toList →
      (file ∈ files ↔ file ∈ ["dom/base/Element.cpp"]) := by
    intro file slash
    have notRoot : file ≠ "README.md" := by
      rintro rfl
      revert slash
      decide
    simp [files, notRoot]
  obtain ⟨keeps, _, alike, _, apart⟩ := relevantTests_by_segments about aboutOne
  obtain ⟨_, _, _, grows, _⟩ := relevantTests_by_segments about aboutMore
  obtain ⟨_, removes, _⟩ := relevantTests_by_segments aboutBeside about
  have kept := keeps.mpr near
  refine ⟨about, aboutBeside, kept, ?_, ?_, removes.mpr far, ?_⟩
  · exact (alike rfl (.inr rootFile) false).mp kept
  · exact grows (List.Subset.refl _) (List.subset_cons_self _ _) kept
  · exact apart "dom/base" "ment/mochitest.ini" (by decide) (by decide)

end Question

end TaskSieve
