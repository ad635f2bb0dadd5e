import CircuitDiagram.Proofs.FileSystem
import CircuitDiagram.Proofs.Render.Stages
import CircuitDiagram.Proofs.Text.Blank
import CircuitDiagram.Proofs.Text.Symbol

/-!
How a rendering by a layout program ends. What can be refused before the program is started is told
as such, and once it has ended its status decides between an artifact and a failure, whatever became
of its input. A program that was started and cannot be waited for is told of like one that was not
started; with a host that can wait for what it has started this does not happen.
-/

namespace CircuitDiagram

open Render (LayoutSettings inputProblem)

variable {σ : Type}

/-- The program that has been started, with its arguments. -/
def Call.begun : Call → List (String × List String)
  | .write _ => []
  | .start program arguments begun => if begun then [(program, arguments)] else []

/-- A host that also keeps the programs that have been started, the last one last. -/
def Host.watching (host : Host σ) : Host (σ × List (String × List String)) :=
  host.noting Call.begun

/-- What has been started can be waited for. -/
def Host.Awaits (host : Host σ) : Prop :=
  ∀ program arguments input state process running,
    host.start program arguments input state = (.ok process, running) →
      ∃ finished after, process.await running = (.ok finished, after)

section Words

/-- What is told of a program that ran: its words without the blanks around, then the trouble with
its input if there was any, and something between the two if there are both. -/
def Reported (finished : Finished) (said : String) : Prop :=
  ∃ words, Text.Trims (Symbol.lossy finished.said) words ∧
    (finished.inputError = none → said = words) ∧
    ∀ error, finished.inputError = some error →
      said = words ++ (if words = "" then "" else "; ") ++ inputProblem error

theorem reported_iff {finished : Finished} {said : String} :
    Reported finished said ↔ said = Render.complaint finished := by
  rw [Reported, Render.complaint]
  simp only [Text.trims_iff, exists_eq_left]
  cases finished.inputError with
  | none => simp
  | some error =>
      by_cases silent : Text.trimmed (Symbol.lossy finished.said) = ""
      · simp [silent]
      · simp [silent]

variable {layout : LayoutSettings} {request : Request} {finished : Finished}

theorem judge_of_succeeded (succeeded : finished.status = .code 0) :
    Render.judge layout request finished = (.ok (layout.artifactPath request.stem),
      finished.inputError.toList.map fun error =>
        .inputLeftUnread request.circuit error.message) := by
  have successful : finished.status.succeeded = true := beq_of_eq succeeded
  rw [Render.judge, successful, if_pos rfl]
  cases finished.inputError <;> rfl

theorem judge_of_failed (failed : finished.status ≠ .code 0) :
    Render.judge layout request finished = (.error (.renderingFailed request.circuit
      finished.status.describe (Render.complaint finished)), []) := by
  have unsuccessful : finished.status.succeeded = false := beq_false_of_ne failed
  rw [Render.judge, unsuccessful, if_neg Bool.false_ne_true]

end Words

section Answers

variable {host : Host σ} {layout : LayoutSettings} {request : Request} {state : σ}
  {reply : Reply σ} {calls : List Call}

theorem begun_sourceCalls (layout : LayoutSettings) (request : Request) :
    (layout.sourceCalls request).flatMap Call.begun = [] := by
  rw [LayoutSettings.sourceCalls]
  split <;> rfl

theorem begun_calls (layout : LayoutSettings) (request : Request) (begun : Bool) :
    (layout.calls request begun).flatMap Call.begun =
      if begun then [(layout.program, layout.arguments request.stem)] else [] := by
  rw [flatMap_calls, begun_sourceCalls, List.nil_append, Call.begun]

theorem Ending.begun_cases (ending : Ending host layout request state reply calls) :
    calls.flatMap Call.begun = [] ∨
      calls.flatMap Call.begun = [(layout.program, layout.arguments request.stem)] := by
  cases ending with
  | noDirectory => exact .inl rfl
  | noSource => exact .inl (begun_sourceCalls layout request)
  | notStarted => exact .inl (begun_calls layout request false)
  | lost => exact .inr (begun_calls layout request true)
  | ended => exact .inr (begun_calls layout request true)

theorem Ending.begun_iff (ending : Ending host layout request state reply calls) :
    calls.flatMap Call.begun ≠ [] ↔
      ∃ process running, Running host layout request state process running := by
  constructor
  · intro begun
    cases ending with
    | noDirectory => exact absurd rfl begun
    | noSource => exact absurd (begun_sourceCalls layout request) begun
    | notStarted => exact absurd (begun_calls layout request false) begun
    | lost started => exact ⟨_, _, started⟩
    | ended ended =>
        obtain ⟨process, running, started, -⟩ := ended
        exact ⟨process, running, started⟩
  · -- A program that has been started has ended or is lost, and there is no other ending then.
    rintro ⟨process, running, started⟩
    rcases awaited : process.await running with ⟨error | finished, after⟩
    · obtain ⟨-, rfl⟩ := ending.unique (.lost started awaited)
      simp [begun_calls]
    · obtain ⟨-, rfl⟩ := ending.unique (.ended ⟨process, running, started, awaited⟩)
      simp [begun_calls]

theorem Ending.ok_iff (ending : Ending host layout request state reply calls) (path : String) :
    reply.answer = .ok path ↔ path = layout.artifactPath request.stem ∧
      ∃ finished after, Ended host layout request state finished after ∧
        finished.status = .code 0 := by
  constructor
  · intro answered
    cases ending with
    | @ended finished after ended =>
        by_cases succeeded : finished.status = .code 0
        · rw [judge_of_succeeded succeeded] at answered
          exact ⟨(Except.ok.inj answered).symm, finished, after, ended, succeeded⟩
        · rw [judge_of_failed succeeded] at answered
          cases answered
    | _ => cases answered
  · rintro ⟨rfl, finished, after, ended, succeeded⟩
    obtain ⟨rfl, -⟩ := ending.unique (.ended ended)
    rw [judge_of_succeeded succeeded]

theorem Ending.failed_iff (ending : Ending host layout request state reply calls)
    (circuit status said : String) :
    reply.answer = .error (.renderingFailed circuit status said) ↔
      circuit = request.circuit ∧ ∃ finished after,
        Ended host layout request state finished after ∧ finished.status ≠ .code 0 ∧
          status = finished.status.describe ∧ Reported finished said := by
  constructor
  · intro answered
    cases ending with
    | @ended finished after ended =>
        by_cases succeeded : finished.status = .code 0
        · rw [judge_of_succeeded succeeded] at answered
          cases answered
        · rw [judge_of_failed succeeded] at answered
          cases answered
          exact ⟨rfl, finished, after, ended, succeeded, rfl, reported_iff.mpr rfl⟩
    | _ => cases answered
  · rintro ⟨rfl, finished, after, ended, failed, rfl, reported⟩
    obtain ⟨rfl, -⟩ := ending.unique (.ended ended)
    rw [judge_of_failed failed, reported_iff.mp reported]

-- Nothing but the host makes the output unwritable: a program that ran is never to blame.
theorem Ending.unwritable_iff (ending : Ending host layout request state reply calls)
    (path : String) (error : SystemError) :
    reply.answer = .error (.unwritableOutput path error) ↔
      path = layout.directory ∧ (host.makeDirectories layout.directory state).1 = .error error ∨
      path = layout.sourcePath request.stem ∧ layout.keepSource = true ∧ ∃ made,
        host.makeDirectories layout.directory state = (.ok (), made) ∧
        (host.writeFile (layout.sourcePath request.stem) (encodeText request.dot) made).1 =
          .error error := by
  constructor
  · intro refusal
    cases ending with
    | noDirectory refused =>
        cases refusal
        exact .inl ⟨rfl, congrArg Prod.fst refused⟩
    | noSource keeps directories refused =>
        cases refusal
        exact .inr ⟨rfl, keeps, _, directories, congrArg Prod.fst refused⟩
    | notStarted => cases refusal
    | lost => cases refusal
    | @ended finished _ _ =>
        by_cases succeeded : finished.status = .code 0
        · rw [judge_of_succeeded succeeded] at refusal
          cases refusal
        · rw [judge_of_failed succeeded] at refusal
          cases refusal
  · rintro (⟨rfl, refused⟩ | ⟨rfl, keeps, made, directories, refused⟩)
    · obtain ⟨rfl, -⟩ := ending.unique (.noDirectory (Prod.ext refused rfl))
      rfl
    · obtain ⟨rfl, -⟩ := ending.unique (.noSource keeps directories (Prod.ext refused rfl))
      rfl

theorem Ending.unstarted_iff (ending : Ending host layout request state reply calls)
    (program : String) (error : SystemError) :
    reply.answer = .error (.programNotStarted program error) ↔
      program = layout.program ∧
        ((∃ ready, Prepared host layout request state ready ∧
          (startFor host layout request ready).1 = .error error) ∨
        ∃ process running, Running host layout request state process running ∧
          (process.await running).1 = .error error) := by
  constructor
  · intro refusal
    cases ending with
    | noDirectory => cases refusal
    | noSource => cases refusal
    | notStarted prepared refused =>
        cases refusal
        exact ⟨rfl, .inl ⟨_, prepared, congrArg Prod.fst refused⟩⟩
    | lost started refused =>
        cases refusal
        exact ⟨rfl, .inr ⟨_, _, started, congrArg Prod.fst refused⟩⟩
    | @ended finished _ _ =>
        by_cases succeeded : finished.status = .code 0
        · rw [judge_of_succeeded succeeded] at refusal
          cases refusal
        · rw [judge_of_failed succeeded] at refusal
          cases refusal
  · rintro ⟨rfl, ⟨ready, prepared, refused⟩ | ⟨process, running, started, refused⟩⟩
    · obtain ⟨rfl, -⟩ := ending.unique (.notStarted prepared (Prod.ext refused rfl))
      rfl
    · obtain ⟨rfl, -⟩ := ending.unique (.lost started (Prod.ext refused rfl))
      rfl

theorem Ending.begun_of_unwritable (ending : Ending host layout request state reply calls)
    {path : String} {error : SystemError}
    (refused : reply.answer = .error (.unwritableOutput path error)) :
    calls.flatMap Call.begun = [] := by
  rcases (ending.unwritable_iff path error).mp refused with
    ⟨-, failed⟩ | ⟨-, keeps, made, directories, failed⟩
  · obtain ⟨-, rfl⟩ := ending.unique (.noDirectory (Prod.ext failed rfl))
    rfl
  · obtain ⟨-, rfl⟩ := ending.unique (.noSource keeps directories (Prod.ext failed rfl))
    exact begun_sourceCalls layout request

/-- With a host that can wait for what it has started, a program that was not started is the only
reason for the other failures. -/
theorem Ending.begun_eq_nil_iff (ending : Ending host layout request state reply calls)
    (awaits : host.Awaits) : calls.flatMap Call.begun = [] ↔
      (∃ path error, reply.answer = .error (.unwritableOutput path error)) ∨
        ∃ program error, reply.answer = .error (.programNotStarted program error) := by
  constructor
  · intro idle
    cases ending with
    | noDirectory => exact .inl ⟨_, _, rfl⟩
    | noSource => exact .inl ⟨_, _, rfl⟩
    | notStarted => exact .inr ⟨_, _, rfl⟩
    | lost => simp [begun_calls] at idle
    | ended => simp [begun_calls] at idle
  · rintro (⟨path, error, refused⟩ | ⟨program, error, refused⟩)
    · exact ending.begun_of_unwritable refused
    · rcases (ending.unstarted_iff program error).mp refused with
        ⟨-, ⟨ready, prepared, failed⟩ | ⟨process, running, ⟨ready, -, started⟩, failed⟩⟩
      · obtain ⟨-, rfl⟩ := ending.unique (.notStarted prepared (Prod.ext failed rfl))
        exact begun_calls layout request false
      · obtain ⟨finished, after, ended⟩ := awaits _ _ _ _ _ _ started
        rw [ended] at failed
        cases failed

theorem Ending.log_of_ok (ending : Ending host layout request state reply calls) {path : String}
    {finished : Finished} {after : σ} (answered : reply.answer = .ok path)
    (ended : Ended host layout request state finished after) :
    reply.log = finished.inputError.toList.map fun error =>
      .inputLeftUnread request.circuit error.message := by
  obtain ⟨rfl, -⟩ := ending.unique (.ended ended)
  by_cases succeeded : finished.status = .code 0
  · rw [judge_of_succeeded succeeded]
  · rw [judge_of_failed succeeded] at answered
    cases answered

theorem Ending.log_of_error (ending : Ending host layout request state reply calls)
    {failure : Failure} (failed : reply.answer = .error failure) : reply.log = [] := by
  cases ending with
  | @ended finished _ _ =>
      by_cases succeeded : finished.status = .code 0
      · rw [judge_of_succeeded succeeded] at failed
        cases failed
      · rw [judge_of_failed succeeded]
  | _ => rfl

theorem Ending.unread_of_mem_log (ending : Ending host layout request state reply calls)
    {event : Event} (told : event ∈ reply.log) :
    ∃ error, event = .inputLeftUnread request.circuit error := by
  cases answer : reply.answer with
  | error failure =>
      rw [ending.log_of_error answer] at told
      cases told
  | ok path =>
      obtain ⟨-, finished, after, ended, -⟩ := (ending.ok_iff path).mp answer
      rw [ending.log_of_ok answer ended, List.mem_map] at told
      obtain ⟨error, -, rfl⟩ := told
      exact ⟨error.message, rfl⟩

/-- Nobody but the program touches the source once it is written. -/
theorem Ending.source_kept (ending : Ending host layout request state reply calls)
    {content : σ → Option (List UInt8)} (keeps : layout.keepSource = true)
    (written : ∀ made ready, host.makeDirectories layout.directory state = (.ok (), made) →
      host.writeFile (layout.sourcePath request.stem) (encodeText request.dot) made =
        (.ok (), ready) → content ready = some (encodeText request.dot))
    (untouched : ∀ ready, Prepared host layout request state ready →
      content (startFor host layout request ready).2 = content ready)
    (untouchedThen : ∀ process running, Running host layout request state process running →
      content (process.await running).2 = content running)
    (stored : ∀ path error, reply.answer ≠ .error (.unwritableOutput path error)) :
    content reply.state = some (encodeText request.dot) := by
  have held : ∀ ready, Prepared host layout request state ready →
      content (startFor host layout request ready).2 = some (encodeText request.dot) := by
    intro ready prepared
    rw [untouched ready prepared]
    obtain ⟨made, directories, kept⟩ := prepared
    rw [if_pos keeps] at kept
    exact written made ready directories kept
  have heldThen : ∀ process running, Running host layout request state process running →
      content (process.await running).2 = some (encodeText request.dot) := by
    intro process running started
    rw [untouchedThen process running started]
    obtain ⟨ready, prepared, begun⟩ := started
    have source := held ready prepared
    rwa [begun] at source
  cases ending with
  | noDirectory => exact absurd rfl (stored _ _)
  | noSource => exact absurd rfl (stored _ _)
  | notStarted prepared refused =>
      have source := held _ prepared
      rwa [refused] at source
  | lost started refused =>
      have source := heldThen _ _ started
      rwa [refused] at source
  | ended ended =>
      obtain ⟨process, running, started, awaited⟩ := ended
      have source := heldThen process running started
      rwa [awaited] at source

end Answers

/-- What there is to say of a rendering by its reply and by the programs that were started. -/
structure LaidOut (host : Host σ) (layout : LayoutSettings) (request : Request) (state : σ)
    (reply : Reply σ) (begun : List (String × List String)) : Prop where
  once : begun = [] ∨ begun = [(layout.program, layout.arguments request.stem)]
  started : begun ≠ [] ↔ ∃ process running, Running host layout request state process running
  answered (path : String) : reply.answer = .ok path ↔
    path = layout.artifactPath request.stem ∧ ∃ finished after,
      Ended host layout request state finished after ∧ finished.status = .code 0
  warned (path : String) (finished : Finished) (after : σ) (done : reply.answer = .ok path)
    (ended : Ended host layout request state finished after) : reply.log =
      finished.inputError.toList.map fun error => .inputLeftUnread request.circuit error.message
  silent (failure : Failure) (failed : reply.answer = .error failure) : reply.log = []
  unwritable (path : String) (error : SystemError) :
    reply.answer = .error (.unwritableOutput path error) ↔
      path = layout.directory ∧ (host.makeDirectories layout.directory state).1 = .error error ∨
      path = layout.sourcePath request.stem ∧ layout.keepSource = true ∧ ∃ made,
        host.makeDirectories layout.directory state = (.ok (), made) ∧
        (host.writeFile (layout.sourcePath request.stem) (encodeText request.dot) made).1 =
          .error error
  unstarted (program : String) (error : SystemError) :
    reply.answer = .error (.programNotStarted program error) ↔
      program = layout.program ∧
        ((∃ ready, Prepared host layout request state ready ∧
          (startFor host layout request ready).1 = .error error) ∨
        ∃ process running, Running host layout request state process running ∧
          (process.await running).1 = .error error)
  failed (circuit status said : String) :
    reply.answer = .error (.renderingFailed circuit status said) ↔
      circuit = request.circuit ∧ ∃ finished after,
        Ended host layout request state finished after ∧ finished.status ≠ .code 0 ∧
          status = finished.status.describe ∧ Reported finished said
  untried (path : String) (error : SystemError)
    (refused : reply.answer = .error (.unwritableOutput path error)) : begun = []
  idle (awaits : host.Awaits) : begun = [] ↔
    (∃ path error, reply.answer = .error (.unwritableOutput path error)) ∨
      ∃ program error, reply.answer = .error (.programNotStarted program error)
  kept (content : σ → Option (List UInt8)) (keeps : layout.keepSource = true)
    (written : ∀ made ready, host.makeDirectories layout.directory state = (.ok (), made) →
      host.writeFile (layout.sourcePath request.stem) (encodeText request.dot) made =
        (.ok (), ready) → content ready = some (encodeText request.dot))
    (untouched : ∀ ready, Prepared host layout request state ready →
      content (startFor host layout request ready).2 = content ready)
    (untouchedThen : ∀ process running, Running host layout request state process running →
      content (process.await running).2 = content running)
    (stored : ∀ path error, reply.answer ≠ .error (.unwritableOutput path error)) :
    content reply.state = some (encodeText request.dot)

/-- However the directory, the source and the program do, a rendering has an artifact just if all of
them come off; it tells of the first that does not, and of the program only once that has ended. -/
theorem laidOut_layout (host : Host σ) (layout : LayoutSettings) (request : Request) (state : σ) :
    let reply := Render.layout host layout request state
    let watched := Render.layout host.watching layout request (state, [])
    watched.answer = reply.answer ∧ watched.log = reply.log ∧ watched.state.1 = reply.state ∧
      LaidOut host layout request state reply watched.state.2 := by
  intro reply watched
  obtain ⟨calls, ending⟩ := exists_ending host layout request state
  have same : watched = _ := (ending.noting Call.begun []).layout_eq
  rw [same, List.nil_append]
  refine ⟨rfl, rfl, rfl, ?_⟩
  exact {
    once := ending.begun_cases
    started := ending.begun_iff
    answered := ending.ok_iff
    warned := fun _ _ _ => ending.log_of_ok
    silent := fun _ => ending.log_of_error
    unwritable := ending.unwritable_iff
    unstarted := ending.unstarted_iff
    failed := ending.failed_iff
    untried := fun _ _ => ending.begun_of_unwritable
    idle := ending.begun_eq_nil_iff
    kept := fun _ => ending.source_kept }

/-- Files, and programs that complain, leave their input and abort. -/
def abortingHost : Host FileSystem :=
  FileSystem.host fun _ _ _ files =>
    (.ok ⟨fun later =>
      (.ok ⟨.signal 6 true, encodeText " boom\n" ++ [0xFF], some .brokenPipe⟩, later)⟩, files)

theorem awaits_abortingHost : abortingHost.Awaits := by
  rintro program arguments input state process running ⟨⟩
  exact ⟨_, _, rfl⟩

def keepingLayout : LayoutSettings :=
  ⟨"dot", .pdf, "out", true⟩

/-- Whatever was there, the source is in the file of its name once it is written. -/
theorem contentAt_source {made ready : FileSystem} (working : made.working = ["tmp", "work"])
    (written : made.writeFile (keepingLayout.sourcePath "c") (encodeText "digraph") =
      (.ok (), ready)) :
    ready.contentAt ["tmp", "work", "out", "c.gv"] = some (encodeText "digraph") := by
  have place : FileSystem.placeOf made.working (keepingLayout.sourcePath "c") =
      ["tmp", "work", "out", "c.gv"] := by
    rw [working]
    decide
  obtain ⟨-, contents⟩ := FileSystem.writeFile_eq written (by rw [place]; decide)
  rw [contents, if_pos place.symm]

theorem aborted_laidOut_layout :
    let request : Request := ⟨"c/d", "c", "digraph"⟩
    let reply := Render.layout abortingHost keepingLayout request FileSystem.fresh
    let watched := Render.layout abortingHost.watching keepingLayout request (FileSystem.fresh, [])
    abortingHost.Awaits ∧
      reply.answer = .error (.renderingFailed "c/d" "signal: 6 (SIGABRT) (core dumped)"
        "boom\n\uFFFD; writing DOT to stdin failed: Broken pipe (os error 32)") ∧
      reply.log = [] ∧ watched.state.2 = [("dot", ["-Tpdf", "-o", "out/c.pdf"])] ∧
      reply.state.contentAt ["tmp", "work", "out", "c.gv"] = some (encodeText "digraph") := by
  intro request reply watched
  obtain ⟨-, -, -, laidOut⟩ := laidOut_layout abortingHost keepingLayout request FileSystem.fresh
  have reported : Reported ⟨.signal 6 true, encodeText " boom\n" ++ [0xFF], some .brokenPipe⟩
      "boom\n\uFFFD; writing DOT to stdin failed: Broken pipe (os error 32)" :=
    reported_iff.mpr (by decide +kernel)
  have made : (FileSystem.fresh.makeDirectories "out").1 = .ok () := by
    decide +kernel
  have written : (FileSystem.writeFile (FileSystem.fresh.makeDirectories "out").2
      (keepingLayout.sourcePath "c") (encodeText "digraph")).1 = .ok () := by
    decide +kernel
  have prepared : Prepared abortingHost keepingLayout request FileSystem.fresh _ :=
    ⟨_, Prod.ext made rfl, Prod.ext written rfl⟩
  have ended : Ended abortingHost keepingLayout request FileSystem.fresh _ _ :=
    ⟨_, _, ⟨_, prepared, rfl⟩, rfl⟩
  have failed := (laidOut.failed "c/d" "signal: 6 (SIGABRT) (core dumped)" _).mpr
    ⟨rfl, _, _, ended, by decide, by decide, reported⟩
  -- The program was started, for nothing else was refused.
  have begun : watched.state.2 ≠ [] := by
    intro idle
    rcases (laidOut.idle awaits_abortingHost).mp idle with ⟨_, _, refused⟩ | ⟨_, _, refused⟩
    · rw [failed] at refused
      cases refused
    · rw [failed] at refused
      cases refused
  refine ⟨awaits_abortingHost, failed, laidOut.silent _ failed, ?_, ?_⟩
  · rw [laidOut.once.resolve_left begun]
    decide
  apply laidOut.kept (fun files => files.contentAt ["tmp", "work", "out", "c.gv"]) rfl
  · intro before after opened filled
    have same := FileSystem.fresh.sameFiles_makeDirectories "out"
    change FileSystem.fresh.makeDirectories "out" = (.ok (), before) at opened
    rw [opened] at same
    exact contentAt_source same.working filled
  · intro ready _
    rfl
  · rintro process running ⟨ready, -, ⟨⟩⟩
    rfl
  · intro path error refused
    rw [failed] at refused
    cases refused

end CircuitDiagram
