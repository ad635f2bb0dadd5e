import CircuitDiagram.Proofs.Document.RoundTrip
import CircuitDiagram.Proofs.Run.Confinement
import CircuitDiagram.Proofs.Run.Outcome
import CircuitDiagram.Proofs.Text.Symbol
import Mathlib.Algebra.BigOperators.Group.List.Basic
import Mathlib.Algebra.GroupWithZero.Nat

/-!
The list of paths that a session prints. It has one line for each circuit, and cutting it into lines
gives the paths back, unless the name of a circuit has a line break in it: that goes into the path
as it is. A session that fails prints the failure and nothing else.
-/

namespace CircuitDiagram

open CircuitDiagram.Path (withExtension withExtension_eq)

variable {σ : Type}

section Breaks

def breakCount (text : String) : Nat :=
  text.toList.count '\n'

theorem breakCount_append (text more : String) :
    breakCount (text ++ more) = breakCount text + breakCount more := by
  rw [breakCount, String.toList_append, List.count_append, breakCount, breakCount]

theorem breakCount_eq_zero_iff {text : String} : breakCount text = 0 ↔ '\n' ∉ text.toList :=
  List.count_eq_zero

/-- How many line breaks a circuit's name brings into the stem of its artifact. -/
def Naming.breaks (naming : Naming) (name : String) : Nat :=
  match naming with
  | .key => breakCount name
  | .position => 0

theorem breaks_eq_zero_iff (naming : Naming) (name : String) :
    naming.breaks name = 0 ↔ naming = .position ∨ '\n' ∉ name.toList := by
  cases naming with
  | key =>
      rw [Naming.breaks, breakCount_eq_zero_iff]
      simp
  | position => simp [Naming.breaks]

theorem breakCount_toString (number : Nat) : breakCount (toString number) = 0 := by
  rw [breakCount_eq_zero_iff]
  intro inside
  have digit := isDigit_of_mem_toString inside
  contradiction

theorem breakCount_numbered (stem : String) (number : Nat) :
    breakCount (numbered stem number) = breakCount stem := by
  have hyphen : breakCount "-" = 0 := rfl
  rw [numbered, breakCount_append, breakCount_append, hyphen, breakCount_toString]
  rfl

-- Separators are replaced, and a line break is none; nor is the character that they become.
theorem breakCount_stemOfName (name : String) : breakCount (stemOfName name) = breakCount name := by
  rw [stemOfName]
  split
  · rename_i empty
    rw [String.isEmpty_iff.mp empty]
    rfl
  · rw [breakCount, String.toList_ofList, List.count, List.countP_map, breakCount, List.count]
    apply List.countP_congr
    intro character _
    simp only [Function.comp_apply]
    split
    · rename_i separates
      simp only [isSeparator, Bool.or_eq_true, beq_iff_eq] at separates
      rcases separates with (rfl | rfl) | rfl <;> decide
    · rfl

theorem breakCount_stem (naming : Naming) (name : String) (position : Nat) :
    breakCount (naming.stem name position) = naming.breaks name := by
  cases naming with
  | key => exact breakCount_stemOfName name
  | position => exact breakCount_toString position

theorem breakCount_availableStem (taken : List String) (stem : String) :
    breakCount (availableStem taken stem) = breakCount stem := by
  rw [availableStem]
  split
  · exact breakCount_numbered stem _
  · rfl

-- Stems may get a number, but the line breaks of one are those of the stem that was wanted.
theorem breaks_jobsFrom (settings : Settings) (position : Nat) (taken : List String)
    (entries : List (String × Circuit)) :
    (settings.jobsFrom position taken entries).map (fun job => breakCount job.request.stem) =
      entries.map fun entry => settings.naming.breaks entry.1 := by
  induction entries generalizing position taken with
  | nil => rfl
  | cons entry rest ih =>
      obtain ⟨name, circuit⟩ := entry
      have own := breakCount_stem settings.naming name position
      rw [← breakCount_availableStem taken] at own
      rw [Settings.jobsFrom, List.map_cons, ih, List.map_cons, ← own]
      rfl

theorem breakCount_withExtension (stem : String) (format : Format) :
    breakCount (withExtension stem format.extension) = breakCount stem := by
  have behind : breakCount ("." ++ format.extension) = 0 := by cases format <;> rfl
  rw [withExtension_eq, breakCount_append, behind, Nat.add_zero]

theorem breakCount_join {directory name : String} (plain : '\n' ∉ directory.toList)
    (inside : '/' ∉ name.toList) : breakCount (Path.join directory name) = breakCount name := by
  have none : breakCount directory = 0 := breakCount_eq_zero_iff.mpr plain
  have slash : breakCount "/" = 0 := rfl
  rw [Path.join, Path.isAbsolute_of_not_mem inside, if_neg Bool.false_ne_true]
  split
  · rw [breakCount_append, none, Nat.zero_add]
  · rw [breakCount_append, breakCount_append, none, slash, Nat.zero_add]

end Breaks

section Lines

/-- A reader that stops at line breaks has what is between them, and what is behind the last one. -/
def linesOf (text : String) : List (List Char) :=
  text.toList.splitOn '\n'

theorem length_linesOf (text : String) : (linesOf text).length = breakCount text + 1 := by
  rw [linesOf, breakCount]
  induction text.toList with
  | nil => rfl
  | cons character rest ih =>
      rw [List.splitOn] at ih ⊢
      rw [List.splitOnP_cons_eq_if_modifyHead, List.count_cons]
      split
      · rw [List.length_cons, ih]
      · rw [List.length_modifyHead, ih]

variable {paths : List String}

theorem breakCount_lines (paths : List String) :
    breakCount (String.join (paths.map (· ++ "\n"))) =
      paths.length + (paths.map breakCount).sum := by
  induction paths with
  | nil => rfl
  | cons path rest ih =>
      have ending : breakCount "\n" = 1 := rfl
      rw [List.map_cons, String.join_cons, breakCount_append, breakCount_append, ih, ending,
        List.length_cons, List.map_cons, List.sum_cons]
      omega

theorem linesOf_lines (plain : ∀ path ∈ paths, '\n' ∉ path.toList) :
    linesOf (String.join (paths.map (· ++ "\n"))) = paths.map String.toList ++ [[]] := by
  induction paths with
  | nil => rfl
  | cons path rest ih =>
      rw [List.forall_mem_cons] at plain
      have unbroken : ∀ character ∈ path.toList, (character == '\n') = false := by
        intro character inside
        rw [beq_eq_false_iff_ne]
        rintro rfl
        exact plain.1 inside
      have text : (String.join ((path :: rest).map (· ++ "\n"))).toList =
          path.toList ++ '\n' :: (String.join (rest.map (· ++ "\n"))).toList := by
        simp [String.join_cons]
      have later := ih plain.2
      rw [linesOf, List.splitOn] at later ⊢
      rw [text, List.splitOnP_append_cons_of_forall_mem unbroken '\n' rfl, later]
      rfl

/-- As many lines too many as there are line breaks in the paths. -/
theorem linesOf_lines_iff (paths : List String) :
    linesOf (String.join (paths.map (· ++ "\n"))) = paths.map String.toList ++ [[]] ↔
      ∀ path ∈ paths, '\n' ∉ path.toList := by
  constructor
  · intro same path inside
    -- There is one line more than there are line breaks, so there are none but those between paths.
    have count := congrArg List.length same
    rw [length_linesOf, breakCount_lines, List.length_append, List.length_map,
      List.length_singleton] at count
    have none : (paths.map breakCount).sum = 0 := by omega
    rw [List.sum_eq_zero_iff_forall_eq_nat] at none
    exact breakCount_eq_zero_iff.mp (none _ (List.mem_map_of_mem inside))
  · exact linesOf_lines

end Lines

namespace CommandLine

variable {host : Host σ} {options : Options} {document : Document} {state : σ}
  {artifacts : List Artifact}

theorem paths_of_ok
    (done : (runDocument (options.renderer host) options.settings document state).result =
      .ok artifacts) :
    artifacts.map Artifact.path = (options.settings.plan document).map fun job =>
      Path.join options.directory (withExtension job.request.stem options.format.extension) := by
  rw [result_runDocument] at done
  rw [artifacts_of_consistent (consistent_renderer host options) done, List.map_map]
  rfl

theorem breaks_of_ok (plain : '\n' ∉ options.directory.toList)
    (done : (runDocument (options.renderer host) options.settings document state).result =
      .ok artifacts) :
    (artifacts.map Artifact.path).map breakCount =
      document.circuits.names.map options.naming.breaks := by
  have unseparated := unseparated_jobsFrom options.settings 0 [] document.circuits.entries
  rw [paths_of_ok done, List.map_map, Table.names, List.map_map]
  refine Eq.trans ?_ (breaks_jobsFrom options.settings 0 [] document.circuits.entries)
  apply List.map_congr_left
  intro job planned
  have inside := (unseparated job planned).withExtension
    (isExtension_format options.format).unseparated
  rw [Function.comp_apply, breakCount_join plain inside.not_mem_slash, breakCount_withExtension]

theorem pathLines_eq (artifacts : List Artifact) :
    pathLines artifacts = String.join ((artifacts.map Artifact.path).map (· ++ "\n")) := by
  rw [pathLines, List.map_map]
  rfl

theorem breakCount_pathLines (plain : '\n' ∉ options.directory.toList)
    (done : (runDocument (options.renderer host) options.settings document state).result =
      .ok artifacts) :
    breakCount (pathLines artifacts) =
      document.size + (document.circuits.names.map options.naming.breaks).sum := by
  have count := congrArg List.length (circuits_of_ok done)
  rw [List.length_map, Table.names, List.length_map] at count
  rw [pathLines_eq, breakCount_lines, breaks_of_ok plain done, List.length_map, count,
    Document.size, Table.size]

theorem linesOf_pathLines_iff (plain : '\n' ∉ options.directory.toList)
    (done : (runDocument (options.renderer host) options.settings document state).result =
      .ok artifacts) :
    linesOf (pathLines artifacts) = (artifacts.map Artifact.path).map String.toList ++ [[]] ↔
      options.naming = .position ∨ ∀ name ∈ document.circuits.names, '\n' ∉ name.toList := by
  have broken : (∀ count ∈ (artifacts.map Artifact.path).map breakCount, count = 0) ↔
      ∀ count ∈ document.circuits.names.map options.naming.breaks, count = 0 := by
    rw [breaks_of_ok plain done]
  rw [pathLines_eq, linesOf_lines_iff]
  simp only [List.forall_mem_map, breakCount_eq_zero_iff, breaks_eq_zero_iff] at broken ⊢
  rw [broken]
  constructor
  · intro each
    by_cases byPosition : options.naming = .position
    · exact .inl byPosition
    · exact .inr fun name inside => (each name inside).resolve_left byPosition
  · rintro (byPosition | unbroken) name inside
    · exact .inl byPosition
    · exact .inr (unbroken name inside)

section Session

variable {console : Console}

theorem work_of_unloaded {failure : Failure}
    (failed : loadDocument (readInput host console options state) = .error failure) :
    (work host console options state).1 = ⟨1, "", "Error: " ++ failure.message ++ "\n"⟩ := by
  rw [work, failed]
  rfl

theorem work_of_failed {failure : Failure} (listing : options.printDot = false)
    (loaded : loadDocument (readInput host console options state) = .ok document)
    (failed : (runDocument (options.renderer host) options.settings document state).result =
      .error failure) :
    (work host console options state).1 = ⟨1, "", "Error: " ++ failure.message ++ "\n"⟩ := by
  simp only [work, loaded, listing, Bool.false_eq_true, if_false, failed]
  rfl

theorem work_of_ok (listing : options.printDot = false)
    (loaded : loadDocument (readInput host console options state) = .ok document)
    (done : (runDocument (options.renderer host) options.settings document state).result =
      .ok artifacts) :
    (work host console options state).1 = ⟨0, pathLines artifacts, ""⟩ := by
  simp only [work, loaded, listing, Bool.false_eq_true, if_false, done]
  rfl

/-- The text of a document on the standard input is read as that document. -/
theorem loadDocument_of_written (standard : options.input = none)
    (given : console.input = .ok (encodeText document.toValue.compact)) :
    loadDocument (readInput host console options state) = .ok document := by
  rw [readInput, standard, given]
  simp only [decodeInput, Symbol.strict_encodeText, loadDocument, Document.parse_compact]

end Session

/-- What a session prints that lists paths. One that fails tells the failure and nothing else. One
that succeeds prints a line for each circuit and one more for each line break in the name of a
circuit, so the paths can be read back just if there is none. -/
theorem pathList_of_session (host : Host σ) (console : Console) (state : σ) {options : Options}
    (asked : readOptions console.arguments console.environment = .ok options)
    (listing : options.printDot = false) :
    ∃ ended after, session host console state = .ok (ended, after) ∧
      (∀ failure, loadDocument (readInput host console options state) = .error failure →
        ended = ⟨1, "", "Error: " ++ failure.message ++ "\n"⟩) ∧
      ∀ document, loadDocument (readInput host console options state) = .ok document →
        let outcome := runDocument (options.renderer host) options.settings document state
        (∀ failure, outcome.result = .error failure →
          ended = ⟨1, "", "Error: " ++ failure.message ++ "\n"⟩) ∧
        ∀ artifacts, outcome.result = .ok artifacts →
          ended.code = 0 ∧ ended.complaints = "" ∧
            artifacts.map Artifact.circuit = document.circuits.names ∧
            ('\n' ∉ options.directory.toList →
              breakCount ended.output =
                document.size + (document.circuits.names.map options.naming.breaks).sum ∧
              (linesOf ended.output = (artifacts.map Artifact.path).map String.toList ++ [[]] ↔
                options.naming = .position ∨
                  ∀ name ∈ document.circuits.names, '\n' ∉ name.toList)) := by
  refine ⟨_, _, by rw [session, asked], ?_, ?_⟩
  · intro failure
    exact work_of_unloaded
  · intro document loaded outcome
    constructor
    · intro failure
      exact work_of_failed listing loaded
    · intro artifacts done
      rw [work_of_ok listing loaded done]
      refine ⟨rfl, rfl, circuits_of_ok done, fun plain => ?_⟩
      exact ⟨breakCount_pathLines plain done, linesOf_pathLines_iff plain done⟩

/-- A circuit without nodes whose name goes over two lines. -/
def brokenNameDocument : Document :=
  ⟨⟨[("a\nb", ⟨.empty, .empty⟩)], by decide⟩⟩

/-- A session that is sent that document. -/
def brokenNameConsole (arguments : List String) : Console :=
  ⟨arguments, [], .ok (encodeText brokenNameDocument.toValue.compact)⟩

theorem numbered_pathList_of_session :
    let options : Options := ⟨none, ".", .dot, "dot", false, .position, true, false⟩
    let console := brokenNameConsole ["-T", "dot", "--name-by=index"]
    readOptions console.arguments console.environment = .ok options ∧ options.printDot = false ∧
      ∃ ended after, session FileSystem.bareHost console FileSystem.fresh = .ok (ended, after) ∧
        ended.code = 0 ∧ breakCount ended.output = brokenNameDocument.size ∧
        linesOf ended.output = ["./0.dot".toList, []] := by
  intro options console
  have asked : readOptions console.arguments console.environment = .ok options := rfl
  have done : (runDocument (Render.dotFile FileSystem.bareHost ".") ⟨.position, ⟨true⟩⟩
      brokenNameDocument FileSystem.fresh).result = .ok [⟨"a\nb", "./0.dot", 0, 0, []⟩] := by
    rfl
  obtain ⟨ended, after, ran, -, listed⟩ :=
    pathList_of_session FileSystem.bareHost console FileSystem.fresh asked rfl
  obtain ⟨code, -, -, lines⟩ := (listed _ (loadDocument_of_written rfl rfl)).2 _ done
  obtain ⟨count, readBack⟩ := lines (by decide)
  exact ⟨asked, rfl, ended, after, ran, code, count, readBack.mpr (.inl rfl)⟩

-- Named by its key, the only circuit has its path on two lines, and neither of them is a path.
theorem broken_pathList :
    let console := brokenNameConsole ["-T", "dot"]
    brokenNameDocument.size = 1 ∧
      (session FileSystem.bareHost console FileSystem.fresh).map Prod.fst =
        .ok ⟨0, "./a\nb.dot\n", ""⟩ ∧
      linesOf "./a\nb.dot\n" = ["./a".toList, "b.dot".toList, []] := by
  intro console
  let options : Options := ⟨none, ".", .dot, "dot", false, .key, true, false⟩
  have asked : readOptions console.arguments console.environment = .ok options := rfl
  have done : (runDocument (Render.dotFile FileSystem.bareHost ".") ⟨.key, ⟨true⟩⟩
      brokenNameDocument FileSystem.fresh).result = .ok [⟨"a\nb", "./a\nb.dot", 0, 0, []⟩] := by
    rfl
  have loaded : loadDocument (readInput FileSystem.bareHost console options FileSystem.fresh) =
      .ok brokenNameDocument := loadDocument_of_written rfl rfl
  have ended := work_of_ok rfl loaded done
  refine ⟨rfl, ?_, by decide +kernel⟩
  rw [session, asked, Except.map, ended]
  rfl

end CommandLine

end CircuitDiagram
