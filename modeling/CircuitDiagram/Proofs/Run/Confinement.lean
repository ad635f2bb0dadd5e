import Mathlib.Data.List.Nodup
import Mathlib.Data.List.ProdSigma
import CircuitDiagram.Proofs.Render.Stages
import CircuitDiagram.Proofs.Run.FileNames
import CircuitDiagram.Proofs.Run.Outcome

/-!
Where the files of a run lie. A host is made to keep the paths of the files it is asked for, those
that it writes itself and those that a program is to write. Each is the output directory and one
name in it, and as stems differ and no extension has a dot, no file is asked for twice.
-/

namespace CircuitDiagram

open CircuitDiagram.Path (withExtension)
open Render (LayoutSettings)

variable {σ : Type}

section Names

/-- A name that leads from a directory to an entry of it. -/
structure IsFileName (name : String) : Prop where
  filled : name ≠ ""
  noSlash : '/' ∉ name.toList
  noBackslash : '\\' ∉ name.toList
  noNul : '\x00' ∉ name.toList
  notHere : name ≠ "."
  notAbove : name ≠ ".."

/-- A word that is told from what is in front of it by the dot between. -/
structure IsExtension (extension : String) : Prop where
  filled : extension ≠ ""
  noDot : '.' ∉ extension.toList
  unseparated : Unseparated extension

variable {stem extension : String}

theorem unseparated_iff : Unseparated stem ↔
    '/' ∉ stem.toList ∧ '\\' ∉ stem.toList ∧ '\x00' ∉ stem.toList := by
  simp only [Unseparated, isSeparator, Bool.or_eq_false_iff, beq_eq_false_iff_ne]
  constructor
  · intro each
    exact ⟨fun inside => (each _ inside).1.1 rfl, fun inside => (each _ inside).1.2 rfl,
      fun inside => (each _ inside).2 rfl⟩
  · rintro ⟨slash, backslash, nul⟩ character inside
    refine ⟨⟨?_, ?_⟩, ?_⟩ <;> rintro rfl <;> contradiction

theorem isExtension_format (format : Format) : IsExtension format.extension := by
  constructor <;> cases format <;> decide

theorem isExtension_source : IsExtension Render.sourceExtension := by
  constructor <;> decide

/-- The last dot of a name with an extension has something behind it. -/
theorem withExtension_ne_of_ends_with_dot (isExtension : IsExtension extension) {name : String}
    (ends : name.toList.reverse.takeWhile (· != '.') = []) :
    withExtension stem extension ≠ name := by
  rintro rfl
  rw [Path.extension_of_withExtension isExtension.noDot, List.reverse_eq_nil_iff] at ends
  exact isExtension.filled (String.toList_eq_nil_iff.mp ends)

theorem isFileName_withExtension (unseparated : Unseparated stem)
    (isExtension : IsExtension extension) : IsFileName (withExtension stem extension) := by
  obtain ⟨slash, backslash, nul⟩ :=
    unseparated_iff.mp (unseparated.withExtension isExtension.unseparated)
  exact {
    filled := withExtension_ne_of_ends_with_dot isExtension rfl
    noSlash := slash
    noBackslash := backslash
    noNul := nul
    notHere := withExtension_ne_of_ends_with_dot isExtension rfl
    notAbove := withExtension_ne_of_ends_with_dot isExtension rfl }

theorem stemOfName_ne_empty (name : String) : stemOfName name ≠ "" := by
  rw [stemOfName]
  split
  · decide
  · rename_i filled
    rw [ne_eq, ← String.toList_eq_nil_iff, String.toList_ofList, List.map_eq_nil_iff,
      String.toList_eq_nil_iff]
    rintro rfl
    exact filled rfl

theorem toString_ne_empty (number : Nat) : toString number ≠ "" := by
  rw [ne_eq, ← String.toList_eq_nil_iff, Nat.toString_eq_repr, Nat.toList_repr]
  exact Nat.toDigits_ne_nil

theorem stem_ne_empty (naming : Naming) (name : String) (position : Nat) :
    naming.stem name position ≠ "" := by
  cases naming with
  | key => exact stemOfName_ne_empty name
  | position => exact toString_ne_empty position

theorem numbered_ne_empty (stem : String) (number : Nat) : numbered stem number ≠ "" := by
  simp [numbered]

/-- The stems of a run can stand in a path, and there is something of each. -/
theorem stems_requestsOf (renderer : Renderer σ) (settings : Settings) (document : Document)
    (state : σ) :
    ∀ request ∈ requestsOf renderer settings document state,
      request.stem ≠ "" ∧ Unseparated request.stem := by
  obtain ⟨count, planned⟩ := requestsOf_plan renderer settings document state
  intro request inside
  rw [planned, List.mem_map] at inside
  obtain ⟨job, planned, rfl⟩ := inside
  constructor
  · exact stems_jobsFrom_of (· ≠ "") settings (stem_ne_empty settings.naming)
      (fun stem number _ => numbered_ne_empty stem number) _ _ _ job planned
  · exact unseparated_jobsFrom settings _ _ _ job planned

end Names

section Tracing

/-- The paths that a program is told to write. -/
def outputsOf (arguments : List String) : List String :=
  (arguments.zip (arguments.drop 1)).filterMap fun (option, path) =>
    if option = "-o" then some path else none

/-- The files that a call asks for: one to be written, or those that a program is told to write. -/
def Call.outputs : Call → List String
  | .write path => [path]
  | .start _ arguments _ => outputsOf arguments

/-- A host that also keeps the paths of the files it is asked for, the last one last. -/
def Host.tracing (host : Host σ) : Host (σ × List String) :=
  host.noting Call.outputs

/-- The files with these extensions for a stem. -/
def filesOf (directory : String) (extensions : List String) (stem : String) : List String :=
  extensions.map fun extension => Path.join directory (withExtension stem extension)

/-- What is kept beside the artifacts of a layout program. -/
def Render.LayoutSettings.kept (layout : LayoutSettings) : List String :=
  if layout.keepSource then [Render.sourceExtension] else []

/-- A renderer on a host that keeps track of files, beside the same renderer on a host that does
not. It asks for the files of a request in turn, and for all of them if it has an artifact to
show. -/
def Asks (tracing : Renderer (σ × List String)) (renderer : Renderer σ)
    (files : Request → List String) (artifact : Request → String) : Prop :=
  ∀ request state earlier,
    let reply := renderer request state
    ∃ asked, asked <+: files request ∧
      tracing request (state, earlier) =
        ⟨reply.answer, reply.log, (reply.state, earlier ++ asked)⟩ ∧
      ∀ path, reply.answer = .ok path → asked = files request ∧ path = artifact request

variable {tracing : Renderer (σ × List String)} {renderer : Renderer σ}
  {files : Request → List String} {artifact : Request → String}

-- A request that is answered has had all of its files, so those of the next come right behind.
theorem asked_perform (asks : Asks tracing renderer files artifact) (jobs : List Job) (state : σ)
    (earlier : List String) :
    let outcome := perform renderer jobs state
    ∃ asked,
      asked <+: ((attempted renderer jobs state).map Job.request).flatMap files ∧
      perform tracing jobs (state, earlier) =
        ⟨outcome.result, outcome.log, (outcome.state, earlier ++ asked)⟩ ∧
      ∀ artifacts, outcome.result = .ok artifacts →
        asked = (jobs.map Job.request).flatMap files ∧
          artifacts.map Artifact.path = (jobs.map Job.request).map artifact := by
  induction jobs generalizing state earlier with
  | nil => exact ⟨[], List.prefix_refl [], by simp [perform], fun _ done => by cases done; simp⟩
  | cons job rest ih =>
      obtain ⟨first, begins, traced, shown⟩ := asks job.request state earlier
      cases answered : (renderer job.request state).answer with
      | error failure =>
          rw [answered] at traced
          refine ⟨first, ?_, ?_, ?_⟩
          · simpa [attempted, answered] using begins
          · simp [perform, traced, answered]
          · intro artifacts done
            simp [perform, answered] at done
      | ok path =>
          obtain ⟨whole, own⟩ := shown path answered
          obtain ⟨asked, begins, tracedRest, all⟩ :=
            ih (renderer job.request state).state (earlier ++ first)
          rw [answered] at traced
          refine ⟨first ++ asked, ?_, ?_, ?_⟩
          · simpa [attempted, answered, whole, List.prefix_append_right_inj] using begins
          · simp [perform, traced, answered, tracedRest]
          · intro artifacts done
            simp only [perform, answered] at done
            cases later : (perform renderer rest (renderer job.request state).state).result with
            | error failure =>
                simp [later, Except.map] at done
            | ok others =>
                simp only [later, Except.map, Except.ok.injEq] at done
                obtain ⟨asked, paths⟩ := all others later
                subst done
                simp [whole, asked, paths, own, Job.artifact]

-- The end of a run is told of without asking for anything.
theorem asked_runDocument (asks : Asks tracing renderer files artifact) (settings : Settings)
    (document : Document) (state : σ) :
    let outcome := runDocument renderer settings document state
    let requests := requestsOf renderer settings document state
    ∃ asked, asked <+: requests.flatMap files ∧
      runDocument tracing settings document (state, []) =
        ⟨outcome.result, outcome.log, (outcome.state, asked)⟩ ∧
      ∀ artifacts, outcome.result = .ok artifacts →
        asked = requests.flatMap files ∧
          artifacts.map Artifact.path = requests.map artifact := by
  intro outcome requests
  obtain ⟨asked, begins, traced, all⟩ := asked_perform asks (settings.plan document) state []
  have planned : requests = _ := requestsOf_eq renderer settings document state
  refine ⟨asked, ?_, ?_, fun artifacts done => ?_⟩
  · rw [planned]
    exact begins
  · simp only [outcome, runDocument, traced, List.nil_append]
    split
    · rename_i failed
      simp [failed]
    · rename_i done
      simp [done]
  · have finished : requests = _ := requestsOf_of_ok done
    rw [finished, Settings.requests]
    rw [result_runDocument] at done
    exact all artifacts done

end Tracing

section Renderers

variable (host : Host σ)

theorem asks_dotFile (directory : String) :
    Asks (Render.dotFile host.tracing directory) (Render.dotFile host directory)
      (fun request => filesOf directory [Render.dotExtension] request.stem)
      (fun request => Path.join directory (withExtension request.stem Render.dotExtension)) := by
  intro request state earlier reply
  rcases made : host.makeDirectories directory state with ⟨error | _, ready⟩
  · refine ⟨[], List.nil_prefix, ?_, ?_⟩ <;> simp [reply, Render.dotFile, Host.tracing, made]
  let path := Path.join directory (withExtension request.stem Render.dotExtension)
  rcases written : host.writeFile path (encodeText request.dot) ready with ⟨error | _, after⟩ <;>
    refine ⟨[path], List.prefix_refl _, ?_, ?_⟩ <;>
    simp [reply, filesOf, Render.dotFile, Host.tracing, Call.outputs, made, written, path]

theorem outputsOf_arguments (layout : LayoutSettings) (stem : String) :
    outputsOf (layout.arguments stem) = [layout.artifactPath stem] := by
  have other : "-T" ++ layout.format.extension ≠ "-o" := by
    cases layout.format <;> decide
  simp [outputsOf, LayoutSettings.arguments, other]

theorem isExtension_of_layout (layout : LayoutSettings) :
    ∀ ending ∈ layout.kept ++ [layout.format.extension], IsExtension ending := by
  intro ending used
  rw [List.mem_append, List.mem_singleton, LayoutSettings.kept] at used
  rcases used with kept | rfl
  · split at kept
    · rw [List.mem_singleton.mp kept]
      exact isExtension_source
    · cases kept
  · exact isExtension_format layout.format

theorem nodup_extensions (layout : LayoutSettings) :
    (layout.kept ++ [layout.format.extension]).Nodup := by
  rw [LayoutSettings.kept]
  cases layout.keepSource <;> cases layout.format <;> decide

theorem outputs_sourceCalls (layout : LayoutSettings) (request : Request) :
    (layout.sourceCalls request).flatMap Call.outputs =
      filesOf layout.directory layout.kept request.stem := by
  rw [LayoutSettings.sourceCalls, LayoutSettings.kept]
  split <;> rfl

-- The program is told of the artifact, whether or not it can be started.
theorem outputs_calls (layout : LayoutSettings) (request : Request) (begun : Bool) :
    (layout.calls request begun).flatMap Call.outputs =
      filesOf layout.directory (layout.kept ++ [layout.format.extension]) request.stem := by
  rw [flatMap_calls, outputs_sourceCalls, Call.outputs, outputsOf_arguments, filesOf, filesOf,
    List.map_append]
  rfl

theorem Ending.outputs_isFirstPart {host : Host σ} {layout : LayoutSettings} {request : Request}
    {state : σ} {reply : Reply σ} {calls : List Call}
    (ending : Ending host layout request state reply calls) :
    calls.flatMap Call.outputs <+:
      filesOf layout.directory (layout.kept ++ [layout.format.extension]) request.stem := by
  have whole (begun : Bool) : (layout.calls request begun).flatMap Call.outputs <+:
      filesOf layout.directory (layout.kept ++ [layout.format.extension]) request.stem :=
    outputs_calls layout request begun ▸ List.prefix_rfl
  cases ending with
  | noDirectory => exact List.nil_prefix
  | noSource =>
      rw [outputs_sourceCalls]
      exact ⟨_, List.map_append.symm⟩
  | notStarted => exact whole false
  | lost => exact whole true
  | ended => exact whole true

theorem asks_layout (layout : LayoutSettings) :
    Asks (Render.layout host.tracing layout) (Render.layout host layout)
      (fun request =>
        filesOf layout.directory (layout.kept ++ [layout.format.extension]) request.stem)
      (fun request => layout.artifactPath request.stem) := by
  intro request state earlier reply
  obtain ⟨calls, ending⟩ := exists_ending host layout request state
  refine ⟨_, ending.outputs_isFirstPart, (ending.noting Call.outputs earlier).layout_eq, ?_⟩
  intro path shown
  obtain ⟨same, finished, after, ended, -⟩ := (ending.ok_iff path).mp shown
  obtain ⟨-, rfl⟩ := ending.unique (.ended ended)
  exact ⟨outputs_calls layout request true, same⟩

end Renderers

section Run

/-- The files of a run lie in one directory, each for itself. The circuits have their turn by their
names, and what is asked for are the files of their stems in turn; if nothing fails, all circuits
have had their turn. Each file is an entry of the directory, and no two paths are one, also when
names that lead nowhere do not count. -/
structure Confined (directory : String) (kept : List String) (extension : String)
    (names : List String) (requests : List Request) (outcome : Outcome σ)
    (traced : Outcome (σ × List String)) : Prop where
  same : traced.result = outcome.result ∧ traced.log = outcome.log ∧
    traced.state.1 = outcome.state
  turns : requests.map Request.circuit <+: names
  asked : traced.state.2 <+:
    (requests.map Request.stem).flatMap (filesOf directory (kept ++ [extension]))
  covered (artifacts : List Artifact) (done : outcome.result = .ok artifacts) :
    requests.map Request.circuit = names ∧ artifacts.map Artifact.circuit = names
  shown (artifacts : List Artifact) (done : outcome.result = .ok artifacts) :
    traced.state.2 =
        (requests.map Request.stem).flatMap (filesOf directory (kept ++ [extension])) ∧
      artifacts.map Artifact.path = (requests.map Request.stem).map fun stem =>
        Path.join directory (withExtension stem extension)
  inside (stem : String) (given : stem ∈ requests.map Request.stem) (ending : String)
      (used : ending ∈ kept ++ [extension]) :
    let name := withExtension stem ending
    let path := Path.join directory name
    IsFileName name ∧ Path.components path = Path.components directory ++ [name] ∧
      Path.isAbsolute path = Path.isAbsolute directory
  apart : (((requests.map Request.stem).flatMap
    (filesOf directory (kept ++ [extension]))).map Path.components).Nodup

variable {tracing : Renderer (σ × List String)} {renderer : Renderer σ} {directory : String}
  {kept : List String} {extension : String}

theorem components_join_withExtension {stem ending : String} (unseparated : Unseparated stem)
    (isExtension : IsExtension ending) (directory : String) :
    Path.components (Path.join directory (withExtension stem ending)) =
      Path.components directory ++ [withExtension stem ending] := by
  have isName := isFileName_withExtension unseparated isExtension
  exact Path.components_join directory isName.noSlash isName.filled isName.notHere

/-- A path tells the extension by its last dot, and then the stem. -/
theorem nodup_files {stems : List String} (unseparated : ∀ stem ∈ stems, Unseparated stem)
    (extensions : ∀ ending ∈ kept ++ [extension], IsExtension ending) (distinct : stems.Nodup)
    (apart : (kept ++ [extension]).Nodup) :
    ((stems.flatMap (filesOf directory (kept ++ [extension]))).map Path.components).Nodup := by
  have pairs : (stems.flatMap (filesOf directory (kept ++ [extension]))).map Path.components =
      (stems ×ˢ (kept ++ [extension])).map fun pair =>
        Path.components (Path.join directory (withExtension pair.1 pair.2)) := by
    simp only [filesOf, SProd.sprod, List.product, List.map_flatMap, List.map_map,
      Function.comp_def]
  rw [pairs]
  apply (distinct.product apart).map_on
  rintro ⟨stem, ending⟩ inside ⟨other, otherEnding⟩ otherInside same
  rw [List.mem_product] at inside otherInside
  have isExtension := extensions ending inside.2
  have otherIsExtension := extensions otherEnding otherInside.2
  simp only [components_join_withExtension (unseparated stem inside.1) isExtension,
    components_join_withExtension (unseparated other otherInside.1) otherIsExtension,
    List.append_cancel_left_eq, List.singleton_inj] at same
  obtain rfl := Path.extension_injective isExtension.noDot otherIsExtension.noDot same
  rw [Path.withExtension_injective same]

-- A stem may be nothing but dots, or end like a file that is kept.
example :
    [".", "..", "a", "a.gv"].flatMap (filesOf "/out/" ["gv", "pdf"]) =
      ["/out/..gv", "/out/..pdf", "/out/...gv", "/out/...pdf", "/out/a.gv", "/out/a.pdf",
        "/out/a.gv.gv", "/out/a.gv.pdf"] := by
  decide

theorem confined_of_asks
    (asks : Asks tracing renderer
      (fun request => filesOf directory (kept ++ [extension]) request.stem)
      (fun request => Path.join directory (withExtension request.stem extension)))
    (extensions : ∀ ending ∈ kept ++ [extension], IsExtension ending)
    (apart : (kept ++ [extension]).Nodup) (settings : Settings) (document : Document)
    (state : σ) :
    Confined directory kept extension document.circuits.names
      (requestsOf renderer settings document state) (runDocument renderer settings document state)
      (runDocument tracing settings document (state, [])) := by
  obtain ⟨asked, begins, traced, all⟩ := asked_runDocument asks settings document state
  have stems := stems_requestsOf renderer settings document state
  have unseparated : ∀ stem ∈ (requestsOf renderer settings document state).map Request.stem,
      Unseparated stem := by
    rw [List.forall_mem_map]
    exact fun request inside => (stems request inside).2
  have distinct := (allocated_requestsOf renderer settings document state).nodup.of_map
  constructor
  · rw [traced]
    exact ⟨rfl, rfl, rfl⟩
  · exact circuits_requestsOf renderer settings document state
  · rw [traced, List.flatMap_map]
    exact begins
  · intro artifacts done
    exact ⟨circuits_requestsOf_of_ok done, circuits_of_ok done⟩
  · intro artifacts done
    rw [traced, List.flatMap_map, List.map_map]
    exact all artifacts done
  · intro stem given ending used name path
    have isExtension := extensions ending used
    have isName := isFileName_withExtension (unseparated stem given) isExtension
    exact ⟨isName, components_join_withExtension (unseparated stem given) isExtension directory,
      Path.isAbsolute_join directory isName.noSlash⟩
  · exact nodup_files unseparated extensions distinct apart

/-- Whatever circuits are called, the files of their run are entries of the output directory, one
for each circuit and extension. -/
theorem files_of_run (host : Host σ) (layout : LayoutSettings) (settings : Settings)
    (document : Document) (state : σ) :
    let laidOut := Render.layout host layout
    let written := Render.dotFile host layout.directory
    (∀ renderer : Renderer σ, ∀ request ∈ requestsOf renderer settings document state,
      request.stem ≠ "" ∧ '/' ∉ request.stem.toList ∧ '\\' ∉ request.stem.toList ∧
        '\x00' ∉ request.stem.toList) ∧
      Confined layout.directory layout.kept layout.format.extension document.circuits.names
        (requestsOf laidOut settings document state) (runDocument laidOut settings document state)
        (runDocument (Render.layout host.tracing layout) settings document (state, [])) ∧
      Confined layout.directory [] Render.dotExtension document.circuits.names
        (requestsOf written settings document state) (runDocument written settings document state)
        (runDocument (Render.dotFile host.tracing layout.directory) settings document
          (state, [])) := by
  refine ⟨?_, ?_, ?_⟩
  · intro renderer request inside
    obtain ⟨filled, unseparated⟩ := stems_requestsOf renderer settings document state request inside
    exact ⟨filled, unseparated_iff.mp unseparated⟩
  · exact confined_of_asks (asks_layout host layout) (isExtension_of_layout layout)
      (nodup_extensions layout) settings document state
  · refine confined_of_asks (asks_dotFile host layout.directory) ?_ (List.nodup_singleton _)
      settings document state
    intro ending used
    rw [List.mem_singleton.mp used]
    exact isExtension_format .dot

/-- Files, and programs that are content with their input and say nothing. -/
def contentHost : Host FileSystem :=
  FileSystem.host fun _ _ _ files => (.ok ⟨fun later => (.ok ⟨.code 0, [], none⟩, later)⟩, files)

theorem crowded_files_of_run :
    let layout : LayoutSettings := ⟨"dot", .pdf, "out", true⟩
    let settings : Settings := ⟨.key, ⟨true⟩⟩
    let outcome := runDocument (Render.layout contentHost layout) settings crowdedDocument
      FileSystem.fresh
    let traced := runDocument (Render.layout contentHost.tracing layout) settings crowdedDocument
      (FileSystem.fresh, [])
    ∃ artifacts, outcome.result = .ok artifacts ∧
      artifacts.map Artifact.circuit = ["a/b", "a_b-1", "A_B", "a\\b"] ∧
      artifacts.map Artifact.path =
        ["out/a_b.pdf", "out/a_b-1.pdf", "out/A_B-2.pdf", "out/a_b-3.pdf"] ∧
      traced.state.2 = ["out/a_b.gv", "out/a_b.pdf", "out/a_b-1.gv", "out/a_b-1.pdf",
        "out/A_B-2.gv", "out/A_B-2.pdf", "out/a_b-3.gv", "out/a_b-3.pdf"] ∧
      (traced.state.2.map Path.components).Nodup := by
  -- The names of the statement stay unread until the end: behind them the run is done again.
  have planned : (Settings.requests ⟨.key, ⟨true⟩⟩ crowdedDocument).map Request.stem =
      ["a_b", "a_b-1", "A_B-2", "a_b-3"] := by
    decide +kernel
  have finished : (runDocument (Render.layout contentHost ⟨"dot", .pdf, "out", true⟩)
      ⟨.key, ⟨true⟩⟩ crowdedDocument FileSystem.fresh).result.isOk = true := by
    decide +kernel
  obtain ⟨-, confined, -⟩ := files_of_run contentHost ⟨"dot", .pdf, "out", true⟩ ⟨.key, ⟨true⟩⟩
    crowdedDocument FileSystem.fresh
  cases done : (runDocument (Render.layout contentHost ⟨"dot", .pdf, "out", true⟩)
      ⟨.key, ⟨true⟩⟩ crowdedDocument FileSystem.fresh).result with
  | error failure =>
      rw [done] at finished
      cases finished
  | ok artifacts =>
      obtain ⟨-, circuits⟩ := confined.covered artifacts done
      obtain ⟨asked, paths⟩ := confined.shown artifacts done
      have apart := confined.apart
      rw [← asked] at apart
      rw [requestsOf_of_ok done, planned] at asked paths
      exact ⟨artifacts, done, circuits, paths.trans (by decide), asked.trans (by decide), apart⟩

end Run

end CircuitDiagram
