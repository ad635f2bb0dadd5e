import CircuitDiagram.CommandLine.Session
import CircuitDiagram.Proofs.Document.RoundTrip
import CircuitDiagram.Proofs.FileSystem
import CircuitDiagram.Proofs.Run.FileNames

/-!
DOT files of a run. No two circuits are written to one file, so what a file is given when its
circuit has its turn is in it when the run is over, and the files together are what is printed when
the texts are asked for instead.
-/

namespace CircuitDiagram

open CommandLine (Console Options dotTexts loadDocument readInput work)
open CircuitDiagram.Path (withExtension withExtension_injective)

variable {σ κ : Type}

namespace Request

def dotName (request : Request) : String :=
  withExtension request.stem Render.dotExtension

def dotPath (request : Request) (directory : String) : String :=
  Path.join directory request.dotName

def bytes (request : Request) : List UInt8 :=
  encodeText request.dot

end Request

/-- How the files that are written for requests lie in a directory, as long as states are `usable`:
`file` tells which file a path is of, and `content` what is in it. Paths that differ are of
different files; making the directory changes no file, and writing a file no other. -/
structure Filing (host : Host σ) (directory : String) (requests : List Request)
    (file : String → κ) (content : σ → κ → Option (List UInt8)) (usable : σ → Prop) : Prop where
  apart : ∀ request ∈ requests, ∀ other ∈ requests,
    request.dotPath directory ≠ other.dotPath directory →
      file (request.dotPath directory) ≠ file (other.dotPath directory)
  made : ∀ state after, usable state → host.makeDirectories directory state = (.ok (), after) →
    usable after ∧ content after = content state
  written : ∀ request ∈ requests, ∀ bytes state after, usable state →
    host.writeFile (request.dotPath directory) bytes state = (.ok (), after) →
      usable after ∧ content after (file (request.dotPath directory)) = some bytes ∧
        ∀ other, other ≠ file (request.dotPath directory) →
          content after other = content state other

/-- Whether the files of requests can be written one after the other. -/
def allWritten (host : Host σ) (directory : String) : List Request → σ → Bool
  | [], _ => true
  | request :: rest, state =>
      match host.makeDirectories directory state with
      | (.error _, _) => false
      | (.ok (), made) =>
          match host.writeFile (request.dotPath directory) request.bytes made with
          | (.error _, _) => false
          | (.ok (), after) => allWritten host directory rest after

section Writing

variable {host : Host σ} {directory : String} {requests : List Request} {file : String → κ}
  {content : σ → κ → Option (List UInt8)} {usable : σ → Prop}

/-- One request of many: its file is written, and the others can still be. -/
theorem dotFile_written (filing : Filing host directory requests file content usable)
    {request : Request} (known : request ∈ requests) {rest : List Request} {state : σ}
    (ready : usable state) (writes : allWritten host directory (request :: rest) state = true) :
    ∃ after, Render.dotFile host directory request state =
        ⟨.ok (request.dotPath directory), [], after⟩ ∧
      usable after ∧ allWritten host directory rest after = true ∧
      content after (file (request.dotPath directory)) = some request.bytes ∧
      ∀ other, other ≠ file (request.dotPath directory) →
        content after other = content state other := by
  rw [allWritten] at writes
  split at writes
  · cases writes
  · rename_i made directories
    split at writes
    · cases writes
    · rename_i after stored
      obtain ⟨readyThen, same⟩ := filing.made state made ready directories
      obtain ⟨readyAfter, holds, others⟩ :=
        filing.written request known request.bytes made after readyThen stored
      refine ⟨after, ?_, readyAfter, writes, holds, fun other different => ?_⟩
      · rw [Request.dotPath, Request.dotName, Request.bytes] at stored
        simp only [Render.dotFile, directories, stored, Request.dotPath, Request.dotName]
      · rw [others other different, same]

-- A file keeps what it was given because the files written later are all others.
theorem perform_dotFile (filing : Filing host directory requests file content usable)
    {jobs : List Job} {state : σ} (known : ∀ job ∈ jobs, job.request ∈ requests)
    (distinct : (jobs.map fun job => file (job.request.dotPath directory)).Nodup)
    (ready : usable state)
    (writes : allWritten host directory (jobs.map Job.request) state = true) :
    let outcome := perform (Render.dotFile host directory) jobs state
    outcome.result = .ok (jobs.map fun job => job.artifact (job.request.dotPath directory)) ∧
      (∀ job ∈ jobs, content outcome.state (file (job.request.dotPath directory)) =
        some job.request.bytes) ∧
      ∀ other, other ∉ jobs.map (fun job => file (job.request.dotPath directory)) →
        content outcome.state other = content state other := by
  induction jobs generalizing state with
  | nil => exact ⟨rfl, List.forall_mem_nil _, fun other outside => rfl⟩
  | cons job rest ih =>
      rw [List.map_cons, List.nodup_cons] at distinct
      rw [List.forall_mem_cons] at known
      obtain ⟨after, replied, readyAfter, writesRest, holds, others⟩ :=
        dotFile_written filing known.1 ready writes
      obtain ⟨result, each, rest⟩ := ih known.2 distinct.2 readyAfter writesRest
      simp only [perform, replied]
      refine ⟨?_, ?_, ?_⟩
      · rw [result]
        rfl
      · rw [List.forall_mem_cons]
        -- The file of this job is none of those that are written later.
        exact ⟨(rest _ distinct.1).trans holds, each⟩
      · intro other outside
        rw [List.map_cons, List.mem_cons, not_or] at outside
        exact (rest other outside.2).trans (others other outside.1)

end Writing

section Planned

variable (settings : Settings) (document : Document)

theorem dots_plan :
    (settings.plan document).map (fun job => job.request.dot) =
      document.graphs.map fun graph => graph.toDot settings.style := by
  rw [Settings.plan, dots_jobsFrom, Document.graphs, List.map_map]
  rfl

theorem bytes_plan :
    (settings.plan document).map (fun job => job.request.bytes) =
      document.graphs.map fun graph => encodeText (graph.toDot settings.style) := by
  have encoded := congrArg (List.map encodeText) (dots_plan settings document)
  simpa only [List.map_map, Function.comp_def, Request.bytes] using encoded

theorem plain_dotName {request : Request} (inside : request ∈ settings.requests document) :
    '/' ∉ request.dotName.toList := by
  obtain ⟨job, planned, rfl⟩ := List.mem_map.mp inside
  have unseparated := unseparated_jobsFrom settings 0 [] document.circuits.entries job planned
  have behind : Unseparated Render.dotExtension := by decide
  exact (unseparated.withExtension behind).not_mem_slash

/-- No two circuits of a document are written to one file. -/
theorem files_distinct {host : Host σ} {directory : String} {file : String → κ}
    {content : σ → κ → Option (List UInt8)} {usable : σ → Prop}
    (filing : Filing host directory (settings.requests document) file content usable) :
    ((settings.plan document).map fun job => file (job.request.dotPath directory)).Nodup := by
  have stems := (allocated_jobsFrom settings document.circuits.entries).nodup.of_map
  rw [List.map_map] at stems
  rw [List.nodup_iff_pairwise_ne, List.pairwise_map] at stems ⊢
  refine stems.imp_of_mem fun {job other} first second different => ?_
  have planned : job.request ∈ settings.requests document := List.mem_map_of_mem first
  have otherPlanned : other.request ∈ settings.requests document := List.mem_map_of_mem second
  apply filing.apart _ planned _ otherPlanned
  intro same
  have names := Path.join_injective (plain_dotName settings document planned)
    (plain_dotName settings document otherPlanned) same
  exact different (withExtension_injective names)

theorem encodeText_join (texts : List String) :
    encodeText (String.join texts) = (texts.map encodeText).flatten := by
  induction texts with
  | nil => rfl
  | cons text rest ih =>
      rw [String.join_cons, List.map_cons, List.flatten_cons, ← ih, encodeText, encodeText,
        encodeText, String.toList_append, List.flatMap_append]

theorem encodeText_dotTexts (options : Options) :
    encodeText (dotTexts options document) = (document.graphs.map fun graph =>
      encodeText (graph.toDot options.settings.style)).flatten := by
  simp only [dotTexts, encodeText_join, List.map_map, Function.comp_def]

/-- A session that prints DOT texts prints those of all circuits and nothing else. -/
theorem output_printDot {host : Host σ} {console : Console} {options : Options}
    {document : Document} {state : σ}
    (loaded : loadDocument (readInput host console options state) = .ok document) :
    (work host console { options with printDot := true } state).1.output =
      dotTexts options document := by
  -- What is read does not depend on what is done with it.
  have read : readInput host console { options with printDot := true } state =
      readInput host console options state := rfl
  rw [work, read, loaded]
  rfl

theorem map_getD_of_map_eq {keys : List κ} {read : κ → Option (List UInt8)}
    {contents : List (List UInt8)} (held : keys.map read = contents.map some) :
    keys.map (fun key => (read key).getD []) = contents := by
  have opened := congrArg (List.map (Option.getD · [])) held
  simpa [Function.comp_def] using opened

end Planned

section Files

theorem dotName_ne_null (request : Request) : request.dotName ≠ "null" := by
  intro same
  have last := congrArg (fun text => text.toList.getLast?) same
  simp [Request.dotName, withExtension, Render.dotExtension] at last

theorem dotName_ne_empty (request : Request) : request.dotName ≠ "" := by
  intro same
  have length := congrArg String.length same
  simp [Request.dotName, withExtension, Render.dotExtension] at length

variable (settings : Settings) (document : Document) (working : Location) (directory : String)

theorem placeOf_dotPath {request : Request} (planned : request ∈ settings.requests document) :
    ∃ front, FileSystem.placeOf working (request.dotPath directory) = front ++ [request.dotName] :=
  FileSystem.placeOf_join working directory (plain_dotName settings document planned)
    (dotName_ne_empty request)

/-- In a file system the files lie in any directory as a run needs it. -/
theorem filing_files (start : Starter FileSystem) :
    Filing (FileSystem.host start) directory (settings.requests document)
      (FileSystem.placeOf working) FileSystem.contentAt fun files => files.working = working where
  apart := by
    intro request planned other otherPlanned different same
    obtain ⟨front, place⟩ := placeOf_dotPath settings document working directory planned
    obtain ⟨otherFront, otherPlace⟩ :=
      placeOf_dotPath settings document working directory otherPlanned
    rw [place, otherPlace] at same
    have names := (List.append_inj' same rfl).2
    rw [List.cons.injEq] at names
    exact different (congrArg (Path.join directory) names.1)
  made := by
    intro files after ready directories
    have same := files.sameFiles_makeDirectories directory
    rw [show files.makeDirectories directory = (.ok (), after) from directories] at same
    exact ⟨same.working.trans ready, same.contents⟩
  written := by
    intro request planned bytes files after ready stored
    obtain ⟨front, place⟩ := placeOf_dotPath settings document working directory planned
    have kept : FileSystem.placeOf files.working (request.dotPath directory) ≠
        FileSystem.nullDevice := by
      rw [ready, place]
      intro null
      have last := congrArg List.getLast? null
      rw [List.getLast?_concat] at last
      exact dotName_ne_null request (Option.some.inj last)
    obtain ⟨stays, contents⟩ := FileSystem.writeFile_eq stored kept
    rw [ready] at contents
    refine ⟨stays.trans ready, ?_, fun other different => ?_⟩
    · rw [contents, if_pos rfl]
    · rw [contents, if_neg different]

end Files

/-- When every file can be written, each artifact's file holds the DOT text of its own circuit at
the end of the run, the files one behind the other are what is printed instead of them, there is one
for every circuit, and nothing else has changed. -/
theorem dotFiles_of_run {host : Host σ} {options : Options} {document : Document}
    {file : String → κ} {content : σ → κ → Option (List UInt8)} {usable : σ → Prop} {state : σ}
    (filing : Filing host options.directory (options.settings.requests document) file content
      usable)
    (ready : usable state)
    (writes : allWritten host options.directory (options.settings.requests document) state = true) :
    ∃ artifacts,
      let outcome :=
        runDocument (Render.dotFile host options.directory) options.settings document state
      let files := artifacts.map fun artifact => file artifact.path
      outcome.result = .ok artifacts ∧
        artifacts.map Artifact.circuit = document.circuits.names ∧
        files.map (content outcome.state) = document.graphs.map
          (fun graph => some (encodeText (graph.toDot options.settings.style))) ∧
        (∀ (τ : Type) (reader : Host τ) (console : Console) (before : τ),
          loadDocument (readInput reader console options before) = .ok document →
            (files.map fun written => (content outcome.state written).getD []).flatten =
              encodeText (work reader console { options with printDot := true } before).1.output) ∧
        files.Nodup ∧
        files.length = document.size ∧
        ∀ other, other ∉ files → content outcome.state other = content state other := by
  let jobs := options.settings.plan document
  let path := fun job : Job => job.request.dotPath options.directory
  have distinct : (jobs.map fun job => file (path job)).Nodup :=
    files_distinct options.settings document filing
  have known : ∀ job ∈ jobs, job.request ∈ options.settings.requests document :=
    fun job inside => List.mem_map_of_mem inside
  obtain ⟨result, holds, others⟩ := perform_dotFile filing known distinct ready writes
  let final := (perform (Render.dotFile host options.directory) jobs state).state
  let files := jobs.map fun job => file (path job)
  have held : files.map (content final) =
      (document.graphs.map fun graph => encodeText (graph.toDot options.settings.style)).map
        some := by
    rw [← bytes_plan, List.map_map, List.map_map]
    exact List.map_congr_left holds
  have written : (jobs.map fun job => job.artifact (path job)).map
      (fun artifact => file artifact.path) = files := List.map_map
  refine ⟨jobs.map fun job => job.artifact (path job), ?_⟩
  simp only [result_runDocument, state_runDocument, written]
  refine ⟨result, ?_, ?_, ?_, distinct, ?_, others⟩
  · rw [List.map_map]
    exact circuits_jobsFrom options.settings 0 [] document.circuits.entries
  · exact held.trans List.map_map
  · intro τ reader console before loaded
    rw [output_printDot loaded, encodeText_dotTexts, ← map_getD_of_map_eq held]
  · rw [List.length_map, Document.size, Table.size]
    exact length_jobsFrom options.settings 0 [] document.circuits.entries

/-- Two circuits whose names differ in letter case only, one with a wire and one without. -/
def pairDocument : Document :=
  ⟨⟨[("a", ⟨.empty, ⟨[("g", [⟨"x", "y", "1"⟩])], by decide⟩⟩), ("A", ⟨.empty, .empty⟩)],
    by decide⟩⟩

theorem pair_dotFiles_of_run :
    let options : Options := ⟨none, "out", .dot, "dot", false, .key, true, false⟩
    let console : Console := ⟨[], [], .ok (encodeText pairDocument.toValue.compact)⟩
    let renderer := Render.dotFile FileSystem.bareHost options.directory
    let outcome := runDocument renderer options.settings pairDocument FileSystem.fresh
    ∃ artifacts,
      let files := artifacts.map fun artifact : Artifact =>
        FileSystem.placeOf ["tmp", "work"] artifact.path
      outcome.result = .ok artifacts ∧ files.length = 2 ∧
        files.map outcome.state.contentAt = pairDocument.graphs.map
          (fun graph => some (encodeText (graph.toDot ⟨true⟩))) ∧
        (files.map fun written => (outcome.state.contentAt written).getD []).flatten =
          encodeText (work FileSystem.bareHost console { options with printDot := true }
            FileSystem.fresh).1.output := by
  intro options console renderer outcome
  have filing := filing_files options.settings pairDocument ["tmp", "work"] options.directory
    FileSystem.startsNothing
  have writes : allWritten FileSystem.bareHost options.directory
      (options.settings.requests pairDocument) FileSystem.fresh = true := by
    decide +kernel
  have decoded : Symbol.strict? (encodeText pairDocument.toValue.compact) =
      some pairDocument.toValue.compact := by
    decide +kernel
  have loaded : loadDocument (readInput FileSystem.bareHost console options FileSystem.fresh) =
      .ok pairDocument := by
    simp only [readInput, options, console, CommandLine.decodeInput, decoded, loadDocument,
      Document.parse_compact]
  obtain ⟨artifacts, done, -, held, printed, -, count, -⟩ :=
    dotFiles_of_run filing rfl writes
  exact ⟨artifacts, done, count, held, printed FileSystem FileSystem.bareHost console _ loaded⟩

end CircuitDiagram
