import CircuitDiagram.Proofs.Graph.Undeclared
import CircuitDiagram.Proofs.Run.Allocation
import CircuitDiagram.Proofs.Run.Outcome

/-!
What circuits of a document have to do with each other: the ones in front may take a stem away, and
that is all. A document that goes on behind another is rendered like it as far as that goes, and
what is shown of a circuit is the same in every document that has it under the same name.
-/

namespace CircuitDiagram

open CommandLine (notingHost)

variable {σ τ : Type}

section Appending

variable {renderer : Renderer σ} {jobs : List Job} {state : σ}

theorem attempted_append (renderer : Renderer σ) (jobs more : List Job) (state : σ) :
    attempted renderer jobs state <+: attempted renderer (jobs ++ more) state := by
  induction jobs generalizing state with
  | nil => exact List.nil_prefix
  | cons job rest ih =>
      rw [List.cons_append, attempted, attempted]
      split
      · exact List.prefix_refl _
      · exact List.cons_prefix_cons.mpr ⟨rfl, ih _⟩

theorem perform_append_of_error {failure : Failure}
    (failed : (perform renderer jobs state).result = .error failure) (more : List Job) :
    perform renderer (jobs ++ more) state = perform renderer jobs state := by
  induction jobs generalizing state with
  | nil => cases failed
  | cons job rest ih =>
      rw [List.cons_append, perform, perform]
      cases answered : (renderer job.request state).answer with
      | error failure => rfl
      | ok path =>
          have later : (perform renderer rest (renderer job.request state).state).result =
              .error failure := by
            simp only [perform, answered] at failed
            cases ended : (perform renderer rest (renderer job.request state).state).result with
            | error other => simpa [ended, Except.map] using failed
            | ok artifacts => simp [ended, Except.map] at failed
          rw [ih later]

end Appending

section Prefixes

variable {document other : Document}

/-- No circuit has a say in what is planned for those in front of it. -/
theorem plan_append (settings : Settings)
    (begins : document.circuits.entries <+: other.circuits.entries) :
    ∃ more, settings.plan other = settings.plan document ++ more := by
  -- A first part of a plan is the plan of the first part.
  have first := jobsFrom_take settings 0 [] other.circuits.entries document.circuits.entries.length
  rw [← List.prefix_iff_eq_take.mp begins] at first
  refine ⟨(settings.plan other).drop document.circuits.entries.length, ?_⟩
  rw [Settings.plan, Settings.plan, ← first, List.take_append_drop]

theorem requestsOf_prefix (renderer : Renderer σ) (settings : Settings)
    (begins : document.circuits.entries <+: other.circuits.entries) (state : σ) :
    requestsOf renderer settings document state <+: requestsOf renderer settings other state := by
  obtain ⟨more, plan⟩ := plan_append settings begins
  rw [requestsOf_eq, requestsOf_eq, plan]
  exact (attempted_append renderer _ more state).map Job.request

theorem runDocument_of_error {renderer : Renderer σ} {settings : Settings} {state : σ}
    {failure : Failure} (begins : document.circuits.entries <+: other.circuits.entries)
    (failed : (runDocument renderer settings document state).result = .error failure) :
    runDocument renderer settings other state = runDocument renderer settings document state := by
  obtain ⟨more, plan⟩ := plan_append settings begins
  rw [result_runDocument] at failed
  have same := perform_append_of_error failed more
  simp only [runDocument, plan, same]

variable {renderer : Renderer σ} {another : Renderer τ} {path : Request → String}
  {settings : Settings} {state : σ} {start : τ} {artifacts all : List Artifact}

/-- Paths are settled by requests, so the artifacts of a plan are settled by the plan. -/
theorem artifacts_prefix (consistent : Consistent renderer path)
    (consistentThere : Consistent another path)
    (begins : document.circuits.entries <+: other.circuits.entries)
    (done : (runDocument renderer settings document state).result = .ok artifacts)
    (doneThere : (runDocument another settings other start).result = .ok all) :
    requestsOf renderer settings document state <+: requestsOf another settings other start ∧
      artifacts <+: all := by
  obtain ⟨more, plan⟩ := plan_append settings begins
  constructor
  · rw [requestsOf_of_ok done, requestsOf_of_ok doneThere, Settings.requests, Settings.requests,
      plan, List.map_append]
    exact List.prefix_append _ _
  · rw [result_runDocument] at done doneThere
    rw [artifacts_of_consistent consistent done, artifacts_of_consistent consistentThere doneThere,
      plan, List.map_append]
    exact List.prefix_append _ _

end Prefixes

section Surroundings

variable {entries : List (String × Circuit)} {name : String} {circuit : Circuit}

theorem exists_mem_of_map_eq {α β γ : Type} {view : α → γ} {own : β → γ} {values : List α}
    {others : List β} (same : values.map view = others.map own) {value : α}
    (inside : value ∈ values) : ∃ other ∈ others, own other = view value := by
  have viewed : view value ∈ values.map view := List.mem_map_of_mem inside
  rwa [same, List.mem_map] at viewed

theorem circuit_of_mem (distinct : (entries.map Prod.fst).Nodup)
    (inside : (name, circuit) ∈ entries) {entry : String × Circuit} (listed : entry ∈ entries)
    (named : entry.1 = name) : entry = (name, circuit) := by
  obtain ⟨other, found⟩ := entry
  subst named
  have one := lookup_of_mem distinct inside
  rw [lookup_of_mem distinct listed] at one
  rw [Option.some.inj one]

theorem job_of_mem {settings : Settings} {position : Nat} {taken : List String}
    (distinct : (entries.map Prod.fst).Nodup) (inside : (name, circuit) ∈ entries) {job : Job}
    (planned : job ∈ settings.jobsFrom position taken entries)
    (named : job.request.circuit = name) :
    job.request.dot = (circuit.pruned name).1.toDot settings.style ∧
      job.artifact = artifactAt (name, circuit) := by
  have views : (settings.jobsFrom position taken entries).map (fun job =>
      (job.request.circuit, job.request.dot, job.artifact)) = entries.map fun entry =>
        (entry.1, (entry.2.pruned entry.1).1.toDot settings.style, artifactAt entry) :=
    map_jobsFrom settings (fun _ _ _ _ => rfl) position taken entries
  obtain ⟨entry, listed, same⟩ := exists_mem_of_map_eq views planned
  simp only [Prod.mk.injEq] at same
  obtain ⟨circuitSame, dot, artifact⟩ := same
  obtain rfl := circuit_of_mem distinct inside listed (circuitSame.trans named)
  exact ⟨dot.symm, artifact.symm⟩

/-- The node that is told of, if it is one of the circuit. -/
def nodeIn? (name : String) (told : String × String) : Option String :=
  if told.1 = name then some told.2 else none

def undeclaredIn (name : String) (log : List Event) : List String :=
  (log.filterMap Event.undeclared?).filterMap (nodeIn? name)

/-- The undeclared nodes of circuits, one circuit after the other. -/
def undeclaredOf (entries : List (String × Circuit)) : List (String × String) :=
  entries.flatMap fun entry => (entry.2.undeclared entry.1).map fun node => (entry.1, node)

theorem filterMap_nodeIn (name other : String) (nodes : List String) :
    (nodes.map fun node => (other, node)).filterMap (nodeIn? name) =
      if other = name then nodes else [] := by
  rw [List.filterMap_map]
  by_cases same : other = name
  · have all : nodeIn? name ∘ (fun node => (other, node)) = some := by
      funext node
      rw [Function.comp_apply, nodeIn?, if_pos same]
    rw [all, List.filterMap_some, if_pos same]
  · have none : nodeIn? name ∘ (fun node => (other, node)) = fun _ => none := by
      funext node
      rw [Function.comp_apply, nodeIn?, if_neg same]
    rw [none, List.filterMap_none, if_neg same]

-- No other circuit has the name, so the circuits before and behind have nothing to add.
theorem filterMap_undeclaredOf (distinct : (entries.map Prod.fst).Nodup)
    (inside : (name, circuit) ∈ entries) :
    (undeclaredOf entries).filterMap (nodeIn? name) = circuit.undeclared name := by
  obtain ⟨before, behind, rfl⟩ := List.append_of_mem inside
  rw [List.map_append, List.map_cons, List.nodup_middle, List.nodup_cons, List.mem_append,
    not_or] at distinct
  have others : ∀ part : List (String × Circuit), name ∉ part.map Prod.fst →
      part.flatMap (fun entry =>
        if entry.1 = name then entry.2.undeclared entry.1 else []) = [] := by
    intro part outside
    rw [List.flatMap_eq_nil_iff]
    intro entry listed
    rw [if_neg]
    rintro rfl
    exact outside (List.mem_map_of_mem listed)
  rw [undeclaredOf, List.filterMap_flatMap]
  simp only [filterMap_nodeIn]
  rw [List.flatMap_append, List.flatMap_cons, others before distinct.1.1,
    others behind distinct.1.2, if_pos rfl, List.nil_append, List.append_nil]

/-- A renderer that tells of no undeclared nodes itself. -/
def Quiet (renderer : Renderer σ) : Prop :=
  ∀ request state, (renderer request state).log.filterMap Event.undeclared? = []

theorem quiet_renderer (host : Host σ) (options : CommandLine.Options) :
    Quiet (options.renderer host) :=
  (reserved_renderer host options).unseen fun _ _ => rfl

variable {renderer : Renderer σ} {settings : Settings} {document : Document} {state : σ}

theorem undeclaredIn_log (quiet : Quiet renderer)
    (inside : (name, circuit) ∈ document.circuits.entries)
    (asked : name ∈ (requestsOf renderer settings document state).map Request.circuit) :
    undeclaredIn name (runDocument renderer settings document state).log =
      circuit.undeclared name := by
  obtain ⟨count, planned⟩ := attempted_plan renderer settings document state
  -- The run comes as far as these circuits, and tells of the undeclared nodes of each in turn.
  let reached := document.circuits.entries.take count
  have told : (runDocument renderer settings document state).log.filterMap Event.undeclared? =
      undeclaredOf reached := by
    rw [filterMap_log_runDocument fun _ => rfl, filterMap_log_perform quiet fun _ _ => rfl,
      planned, List.flatMap_def, undeclaredOf, List.flatMap_def]
    congr 1
    exact map_jobsFrom settings (fun name base stem circuit =>
      circuit.undeclared_warningsOf name base stem) 0 [] reached
  have circuits := circuits_jobsFrom settings 0 [] reached
  rw [requestsOf_eq, planned, List.map_map, Function.comp_def, circuits, List.mem_map] at asked
  obtain ⟨entry, came, named⟩ := asked
  obtain rfl := circuit_of_mem document.circuits.distinct inside (List.mem_of_mem_take came) named
  have distinct : (reached.map Prod.fst).Nodup :=
    document.circuits.distinct.sublist ((List.take_sublist count _).map Prod.fst)
  rw [undeclaredIn, told, filterMap_undeclaredOf distinct came]

theorem request_of_mem {request : Request} (inside : (name, circuit) ∈ document.circuits.entries)
    (asked : request ∈ requestsOf renderer settings document state)
    (named : request.circuit = name) :
    request = ⟨name, request.stem, (circuit.pruned name).1.toDot settings.style⟩ := by
  obtain ⟨count, planned⟩ := attempted_plan renderer settings document state
  rw [requestsOf_eq, List.mem_map] at asked
  obtain ⟨job, tried, rfl⟩ := asked
  have first := attempted_isFirstPart renderer (settings.plan document) state
  obtain ⟨dot, -⟩ := job_of_mem document.circuits.distinct inside (first.subset tried) named
  subst named
  rw [← dot]

theorem artifact_of_mem {artifacts : List Artifact} {artifact : Artifact}
    (inside : (name, circuit) ∈ document.circuits.entries)
    (done : (runDocument renderer settings document state).result = .ok artifacts)
    (shown : artifact ∈ artifacts) (named : artifact.circuit = name) :
    artifact = artifactAt (name, circuit) artifact.path := by
  rw [result_runDocument] at done
  have views : artifacts.map (fun artifact =>
      (artifact.circuit, fun path => { artifact with path := path })) =
        (settings.plan document).map fun job => (job.request.circuit, job.artifact) :=
    map_artifacts_of_ok (fun _ _ => rfl) done
  obtain ⟨job, planned, same⟩ := exists_mem_of_map_eq views shown
  obtain ⟨circuitSame, made⟩ := Prod.mk.inj same
  obtain ⟨-, own⟩ := job_of_mem document.circuits.distinct inside planned (circuitSame.trans named)
  rw [← own, made]

end Surroundings

/-- Two runs with documents that share circuits. If one document goes on behind the other, its run
does at first what the run of the other does, and fails where that fails. A circuit that both have
under one name is shown in the same way wherever it stands, but for its stem. -/
theorem circuits_independent (renderer : Renderer σ) (another : Renderer τ) (settings : Settings)
    (document other : Document) (state : σ) (start : τ) :
    let requests := requestsOf renderer settings document state
    let others := requestsOf another settings other start
    let outcome := runDocument renderer settings document state
    let otherwise := runDocument another settings other start
    (document.circuits.entries <+: other.circuits.entries →
      (∀ path artifacts all, Consistent renderer path → Consistent another path →
        outcome.result = .ok artifacts → otherwise.result = .ok all →
        requests <+: others ∧ artifacts <+: all) ∧
      requests <+: requestsOf renderer settings other state ∧
      ∀ failure, outcome.result = .error failure →
        runDocument renderer settings other state = outcome) ∧
    ∀ name circuit, (name, circuit) ∈ document.circuits.entries →
      (name, circuit) ∈ other.circuits.entries →
      (∀ request ∈ requests, ∀ again ∈ others, request.circuit = name → again.circuit = name →
        again = { request with stem := again.stem }) ∧
      (∀ artifacts all, outcome.result = .ok artifacts → otherwise.result = .ok all →
        name ∈ artifacts.map Artifact.circuit ∧ name ∈ all.map Artifact.circuit ∧
        ∀ artifact ∈ artifacts, ∀ again ∈ all, artifact.circuit = name → again.circuit = name →
          again = { artifact with path := again.path }) ∧
      (Quiet renderer → Quiet another →
        name ∈ requests.map Request.circuit → name ∈ others.map Request.circuit →
          undeclaredIn name otherwise.log = undeclaredIn name outcome.log) := by
  intro requests others outcome otherwise
  refine ⟨fun begins => ⟨?_, ?_, ?_⟩, fun name circuit inside insideThere => ⟨?_, ?_, ?_⟩⟩
  · intro path artifacts all consistent consistentThere
    exact artifacts_prefix consistent consistentThere begins
  · exact requestsOf_prefix renderer settings begins state
  · intro failure failed
    exact runDocument_of_error begins failed
  · intro request asked again askedThere named namedThere
    rw [request_of_mem inside asked named, request_of_mem insideThere askedThere namedThere]
  · intro artifacts all done doneThere
    rw [circuits_of_ok done, circuits_of_ok doneThere]
    refine ⟨List.mem_map_of_mem inside, List.mem_map_of_mem insideThere, ?_⟩
    intro artifact shown again shownThere named namedThere
    rw [artifact_of_mem inside done shown named,
      artifact_of_mem insideThere doneThere shownThere namedThere]
    rfl
  · intro quiet quietThere asked askedThere
    rw [undeclaredIn_log quiet inside asked, undeclaredIn_log quietThere insideThere askedThere]

/-- A circuit with a node that only a wire mentions. -/
def loopCircuit : Circuit :=
  ⟨.empty, ⟨[("loops", [⟨"z", "z", "q"⟩])], by decide⟩⟩

def loneDocument : Document :=
  ⟨⟨[("a_b", loopCircuit)], by decide⟩⟩

def leadingDocument : Document :=
  ⟨⟨[("a/b", ⟨.empty, .empty⟩)], by decide⟩⟩

/-- The circuit of the leading document is in the way of the other one's stem. -/
def joinedDocument : Document :=
  ⟨⟨[("a/b", ⟨.empty, .empty⟩), ("a_b", loopCircuit)], by decide⟩⟩

def dotOptions : CommandLine.Options :=
  ⟨none, "out", .dot, "dot", false, .key, true, false⟩

theorem joined_circuits_independent :
    let renderer := dotOptions.renderer (notingHost (.ok []))
    let settings := dotOptions.settings
    requestsOf renderer settings leadingDocument [] <+:
      requestsOf renderer settings joinedDocument [] ∧
    (requestsOf renderer settings loneDocument []).map Request.stem = ["a_b"] ∧
    (requestsOf renderer settings joinedDocument []).map Request.stem = ["a_b", "a_b-1"] ∧
    (∀ request ∈ requestsOf renderer settings loneDocument [],
      ∀ again ∈ requestsOf renderer settings joinedDocument [], request.circuit = "a_b" →
        again.circuit = "a_b" → again = { request with stem := again.stem }) ∧
    undeclaredIn "a_b" (runDocument renderer settings joinedDocument []).log =
      undeclaredIn "a_b" (runDocument renderer settings loneDocument []).log := by
  intro renderer settings
  have quiet := quiet_renderer (notingHost (.ok [])) dotOptions
  have consistent := consistent_renderer (notingHost (.ok [])) dotOptions
  let dotFile := Render.dotFile (notingHost (.ok [])) "out"
  have led : (runDocument dotFile ⟨.key, ⟨true⟩⟩ leadingDocument []).result =
      .ok [⟨"a/b", "out/a_b.dot", 0, 0, []⟩] := by
    rfl
  have joined : (runDocument dotFile ⟨.key, ⟨true⟩⟩ joinedDocument []).result =
      .ok [⟨"a/b", "out/a_b.dot", 0, 0, []⟩, ⟨"a_b", "out/a_b-1.dot", 1, 1, []⟩] := by
    rfl
  obtain ⟨lead, -⟩ :=
    circuits_independent renderer renderer settings leadingDocument joinedDocument [] []
  obtain ⟨-, lone⟩ :=
    circuits_independent renderer renderer settings loneDocument joinedDocument [] []
  obtain ⟨begins, -⟩ := lead ⟨_, rfl⟩
  obtain ⟨first, -⟩ := begins _ _ _ consistent consistent led joined
  obtain ⟨same, -, told⟩ :=
    lone "a_b" loopCircuit List.mem_cons_self (List.mem_cons_of_mem _ List.mem_cons_self)
  exact ⟨first, by decide +kernel, by decide +kernel, same,
    told quiet quiet (by decide +kernel) (by decide +kernel)⟩

end CircuitDiagram
