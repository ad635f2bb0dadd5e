import CircuitDiagram.Proofs.Path
import CircuitDiagram.Proofs.Run.Allocation

/-!
File names of a run when letter case does not count. Stems stay apart without regard to case, but an
extension is a word that goes on: a capital sigma that ends a stem is no longer final in front of
it, and is then written as a small one. Nothing else can bring two file names together.
-/

namespace CircuitDiagram

open CommandLine (notingHost)
open CircuitDiagram.Path (withExtension withExtension_eq withExtension_injective)
open Text (lowerCase isUncapital meetsCased SigmaTwins lowerCase_of_isUncapital
  lowerCase_append_eq_iff_sigmaTwins)

variable {σ : Type}

section Extension

theorem isUncapital_extension (format : Format) :
    ("." ++ format.extension).toList.all isUncapital = true := by
  cases format <;> decide

theorem meetsCased_extension (format : Format) :
    meetsCased ("." ++ format.extension).toList = true := by
  cases format <;> decide +kernel

/-- Stems that differ in more than letter case come together in front of an extension just when one
ends with a final capital sigma where the other has a small one. -/
theorem lowerCase_withExtension_eq_iff {stem other : String} (format : Format)
    (different : lowerCase stem ≠ lowerCase other) :
    lowerCase (withExtension stem format.extension) =
        lowerCase (withExtension other format.extension) ↔
      SigmaTwins stem other ∨ SigmaTwins other stem := by
  rw [withExtension_eq, withExtension_eq]
  exact lowerCase_append_eq_iff_sigmaTwins (isUncapital_extension format)
    (meetsCased_extension format) different

theorem lowerCase_numeral_extension (number : Nat) (format : Format) :
    lowerCase (withExtension (toString number) format.extension) =
      withExtension (toString number) format.extension := by
  apply lowerCase_of_isUncapital
  rw [withExtension_eq, String.toList_append, List.all_append, isUncapital_toString,
    isUncapital_extension, Bool.and_true]

end Extension

section Separators

/-- There is nothing in the text that may not stand in a file name. -/
def Unseparated (text : String) : Prop :=
  ∀ character ∈ text.toList, isSeparator character = false

instance (text : String) : Decidable (Unseparated text) :=
  List.decidableBAll (fun character => isSeparator character = false) text.toList

variable {stem other : String}

theorem Unseparated.append (first : Unseparated stem) (second : Unseparated other) :
    Unseparated (stem ++ other) := by
  intro character inside
  rw [String.toList_append, List.mem_append] at inside
  exact inside.elim (first character) (second character)

theorem Unseparated.not_mem_slash (unseparated : Unseparated stem) : '/' ∉ stem.toList := by
  intro inside
  exact absurd (unseparated '/' inside) (by decide)

theorem unseparated_toString (number : Nat) : Unseparated (toString number) := by
  intro character inside
  have digit := isDigit_of_mem_toString inside
  cases separates : isSeparator character with
  | false => rfl
  | true =>
      simp only [isSeparator, Bool.or_eq_true, beq_iff_eq] at separates
      rcases separates with (rfl | rfl) | rfl <;> exact absurd digit (by decide)

theorem unseparated_stemOfName (name : String) : Unseparated (stemOfName name) := by
  intro character inside
  rw [stemOfName] at inside
  split at inside
  · rw [List.mem_singleton.mp inside]
    rfl
  · rw [String.toList_ofList, List.mem_map] at inside
    obtain ⟨old, -, rfl⟩ := inside
    split
    · rfl
    · rename_i kept
      simpa using kept

theorem unseparated_stem (naming : Naming) (name : String) (position : Nat) :
    Unseparated (naming.stem name position) := by
  cases naming with
  | key => exact unseparated_stemOfName name
  | position => exact unseparated_toString position

theorem Unseparated.numbered (unseparated : Unseparated stem) (number : Nat) :
    Unseparated (numbered stem number) := by
  have hyphen : Unseparated "-" := by decide
  exact (unseparated.append hyphen).append (unseparated_toString number)

theorem Unseparated.withExtension (unseparated : Unseparated stem)
    (behind : Unseparated other) : Unseparated (withExtension stem other) := by
  have dot : Unseparated "." := by decide
  exact (unseparated.append dot).append behind

/-- What is so of every stem that a circuit would have alone, and stays so with a number behind it,
is so of the stems of a run. -/
theorem stems_jobsFrom_of (good : String → Prop) (settings : Settings)
    (alone : ∀ name position, good (settings.naming.stem name position))
    (kept : ∀ stem number, good stem → good (numbered stem number))
    (position : Nat) (taken : List String) (entries : List (String × Circuit)) :
    ∀ job ∈ settings.jobsFrom position taken entries, good job.request.stem := by
  induction entries generalizing position taken with
  | nil => exact fun job inside => nomatch inside
  | cons entry rest ih =>
      obtain ⟨name, circuit⟩ := entry
      intro job inside
      rcases List.mem_cons.mp inside with rfl | later
      · have given := alone name position
        simp only [Settings.job, availableStem]
        split
        · exact kept _ _ given
        · exact given
      · exact ih _ _ job later

/-- Whatever a circuit is called, nothing in its stem separates paths. -/
theorem unseparated_jobsFrom (settings : Settings) (position : Nat) (taken : List String)
    (entries : List (String × Circuit)) :
    ∀ job ∈ settings.jobsFrom position taken entries, Unseparated job.request.stem :=
  stems_jobsFrom_of Unseparated settings (unseparated_stem settings.naming)
    (fun _ number unseparated => unseparated.numbered number) position taken entries

end Separators

/-- The file names of a run differ, also without regard to letter case unless two stems are sigma
twins. Named by position, artifacts never come together. -/
theorem fileNames_of_run (renderer : Renderer σ) (settings : Settings) (document : Document)
    (state : σ) (format : Format) :
    let stems := (requestsOf renderer settings document state).map Request.stem
    let fileName := fun stem => withExtension stem format.extension
    (stems.map fileName).Nodup ∧
      (stems.Pairwise fun stem other =>
        lowerCase (fileName stem) = lowerCase (fileName other) ↔
          SigmaTwins stem other ∨ SigmaTwins other stem) ∧
      (settings.naming = .position → (stems.map (lowerCase ∘ fileName)).Nodup) := by
  intro stems fileName
  have apart : (stems.map lowerCase).Nodup :=
    (allocated_requestsOf renderer settings document state).nodup
  refine ⟨?_, ?_, ?_⟩
  · exact (apart.of_map _).map fun _ _ same => withExtension_injective same
  · rw [List.nodup_iff_pairwise_ne, List.pairwise_map] at apart
    exact apart.imp fun different => lowerCase_withExtension_eq_iff format different
  · intro byPosition
    have numerals : stems = (List.range stems.length).map toString := by
      rw [List.length_map]
      exact stems_requestsOf_position renderer settings document state byPosition
    rw [numerals, List.map_map]
    apply List.nodup_range.map
    intro number other same
    simp only [Function.comp_apply, fileName, lowerCase_numeral_extension] at same
    exact toString_injective (withExtension_injective same)

/-- Two circuits without nodes, named by a word that ends with a capital sigma and by the same word
with a small one in its place. -/
def sigmaDocument : Document :=
  ⟨⟨[("aΣ", ⟨.empty, .empty⟩), ("aσ", ⟨.empty, .empty⟩)], by decide⟩⟩

theorem sigma_fileNames_clash :
    let renderer := Render.dotFile (notingHost (.ok [])) "."
    let stems := (requestsOf renderer ⟨.key, ⟨true⟩⟩ sigmaDocument []).map Request.stem
    stems = ["aΣ", "aσ"] ∧
      ¬ (stems.map fun stem => lowerCase (withExtension stem Format.dot.extension)).Nodup := by
  decide +kernel

end CircuitDiagram
