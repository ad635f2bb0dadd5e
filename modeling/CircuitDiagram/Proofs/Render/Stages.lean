import CircuitDiagram.Render

/-!
How far a rendering by a layout program comes. The directory is made, the source is kept if it is
wanted, the program is started and then waited for: each of these may fail, and nothing that is
behind it is done. A host that also takes notes is asked for the same things as one that does not.
-/

namespace CircuitDiagram

open Render (LayoutSettings)

variable {σ ν : Type}

section Noting

/-- What a host is asked for and others may see: a file to be written, or a program to be started,
with its arguments and whether it was. -/
inductive Call where
  | write (path : String)
  | start (program : String) (arguments : List String) (begun : Bool)

def Process.noting (process : Process σ) : Process (σ × List ν) where
  await state :=
    let (answer, after) := process.await state.1
    (answer, after, state.2)

/-- A host that also takes notes of what it is asked for, the last one last. -/
def Host.noting (host : Host σ) (note : Call → List ν) : Host (σ × List ν) where
  makeDirectories path state :=
    let (answer, after) := host.makeDirectories path state.1
    (answer, after, state.2)
  readFile path state := host.readFile path state.1
  writeFile path content state :=
    let (answer, after) := host.writeFile path content state.1
    (answer, after, state.2 ++ note (.write path))
  start program arguments input state :=
    let (answer, after) := host.start program arguments input state.1
    (answer.map Process.noting, after,
      state.2 ++ note (.start program arguments answer.isOk))

variable (host : Host σ) (note : Call → List ν) (state : σ) (earlier : List ν)

@[simp]
theorem await_noting (process : Process σ) :
    process.noting.await (state, earlier) =
      let answered := process.await state
      (answered.1, answered.2, earlier) := rfl

@[simp]
theorem makeDirectories_noting (path : String) :
    (host.noting note).makeDirectories path (state, earlier) =
      let answered := host.makeDirectories path state
      (answered.1, answered.2, earlier) := rfl

@[simp]
theorem writeFile_noting (path : String) (content : List UInt8) :
    (host.noting note).writeFile path content (state, earlier) =
      let answered := host.writeFile path content state
      (answered.1, answered.2, earlier ++ note (.write path)) := rfl

@[simp]
theorem start_noting (program : String) (arguments : List String) (input : List UInt8) :
    (host.noting note).start program arguments input (state, earlier) =
      let answered := host.start program arguments input state
      (answered.1.map Process.noting, answered.2,
        earlier ++ note (.start program arguments answered.1.isOk)) := rfl

end Noting

namespace Render.LayoutSettings

variable (layout : LayoutSettings) (request : Request)

def sourceCalls : List Call :=
  if layout.keepSource then [.write (layout.sourcePath request.stem)] else []

/-- What a rendering asks for that comes as far as the program. -/
def calls (begun : Bool) : List Call :=
  layout.sourceCalls request ++ [.start layout.program (layout.arguments request.stem) begun]

end Render.LayoutSettings

section Stages

variable (host : Host σ) (layout : LayoutSettings) (request : Request) (state : σ)

/-- The directory is there, and the source in it if it is to be kept. -/
def Prepared (ready : σ) : Prop :=
  ∃ made, host.makeDirectories layout.directory state = (.ok (), made) ∧
    if layout.keepSource then
      host.writeFile (layout.sourcePath request.stem) (encodeText request.dot) made =
        (.ok (), ready)
    else ready = made

def startFor (ready : σ) : Except SystemError (Process σ) × σ :=
  host.start layout.program (layout.arguments request.stem) (encodeText request.dot) ready

/-- The program has been started. -/
def Running (process : Process σ) (running : σ) : Prop :=
  ∃ ready, Prepared host layout request state ready ∧
    startFor host layout request ready = (.ok process, running)

/-- The program has been started and has ended. -/
def Ended (finished : Finished) (after : σ) : Prop :=
  ∃ process running, Running host layout request state process running ∧
    process.await running = (.ok finished, after)

/-- How far a rendering comes, and what it comes to: a reply, and what the host was asked for. -/
inductive Ending : Reply σ → List Call → Prop where
  | noDirectory {error after} (refused : host.makeDirectories layout.directory state =
      (.error error, after)) :
      Ending ⟨.error (.unwritableOutput layout.directory error), [], after⟩ []
  | noSource {made error after} (keeps : layout.keepSource = true)
      (directories : host.makeDirectories layout.directory state = (.ok (), made))
      (refused : host.writeFile (layout.sourcePath request.stem) (encodeText request.dot) made =
        (.error error, after)) :
      Ending ⟨.error (.unwritableOutput (layout.sourcePath request.stem) error), [], after⟩
        (layout.sourceCalls request)
  | notStarted {ready error after} (prepared : Prepared host layout request state ready)
      (refused : startFor host layout request ready = (.error error, after)) :
      Ending ⟨.error (.programNotStarted layout.program error), [], after⟩
        (layout.calls request false)
  | lost {process running error after} (started : Running host layout request state process running)
      (refused : process.await running = (.error error, after)) :
      Ending ⟨.error (.programNotStarted layout.program error), [], after⟩
        (layout.calls request true)
  | ended {finished after} (ended : Ended host layout request state finished after) :
      Ending ⟨(Render.judge layout request finished).1, (Render.judge layout request finished).2,
        after⟩ (layout.calls request true)

end Stages

section Endings

variable {host : Host σ} {layout : LayoutSettings} {request : Request} {state ready running : σ}
  {process : Process σ} {finished : Finished} {after : σ} {reply : Reply σ} {calls : List Call}

theorem keepSource_of_prepared (prepared : Prepared host layout request state ready) :
    ∃ made, host.makeDirectories layout.directory state = (.ok (), made) ∧
      Render.keepSource host layout request made = (.ok (), ready) := by
  obtain ⟨made, directories, kept⟩ := prepared
  refine ⟨made, directories, ?_⟩
  rw [Render.keepSource]
  split at kept
  · rename_i keeps
    rw [if_pos keeps, kept]
  · rename_i drops
    rw [if_neg drops, kept]

theorem layout_of_running (started : Running host layout request state process running) :
    Render.layout host layout request state =
      Render.attend layout request process running := by
  obtain ⟨ready, prepared, started⟩ := started
  obtain ⟨made, directories, kept⟩ := keepSource_of_prepared prepared
  rw [startFor] at started
  simp only [Render.layout, directories, kept, started]

-- Each ending says which branches are taken on the way to it.
theorem Ending.layout_eq (ending : Ending host layout request state reply calls) :
    Render.layout host layout request state = reply := by
  cases ending with
  | noDirectory refused => simp only [Render.layout, refused]
  | noSource keeps directories refused =>
      simp only [Render.layout, directories, Render.keepSource, keeps, if_true, refused]
  | notStarted prepared refused =>
      obtain ⟨made, directories, kept⟩ := keepSource_of_prepared prepared
      rw [startFor] at refused
      simp only [Render.layout, directories, kept, refused]
  | lost started refused => simp only [layout_of_running started, Render.attend, refused]
  | ended ended =>
      obtain ⟨process, running, started, awaited⟩ := ended
      simp only [layout_of_running started, Render.attend, awaited]

theorem exists_ending (host : Host σ) (layout : LayoutSettings) (request : Request) (state : σ) :
    ∃ calls, Ending host layout request state (Render.layout host layout request state) calls := by
  suffices some : ∃ reply calls, Ending host layout request state reply calls by
    obtain ⟨reply, calls, ending⟩ := some
    rw [ending.layout_eq]
    exact ⟨calls, ending⟩
  rcases directories : host.makeDirectories layout.directory state with ⟨error | _, made⟩
  · exact ⟨_, _, .noDirectory directories⟩
  have settled : (∃ error after, layout.keepSource = true ∧
      host.writeFile (layout.sourcePath request.stem) (encodeText request.dot) made =
        (.error error, after)) ∨ ∃ ready, Prepared host layout request state ready := by
    by_cases keeps : layout.keepSource = true
    · rcases written : host.writeFile (layout.sourcePath request.stem) (encodeText request.dot) made
        with ⟨error | _, after⟩
      · exact .inl ⟨error, after, keeps, rfl⟩
      · exact .inr ⟨after, made, directories, by rw [if_pos keeps, written]⟩
    · exact .inr ⟨made, made, directories, by rw [if_neg keeps]⟩
  -- Everything is prepared, and it is up to the program.
  rcases settled with ⟨error, after, keeps, refused⟩ | ⟨ready, prepared⟩
  · exact ⟨_, _, .noSource keeps directories refused⟩
  rcases begun : startFor host layout request ready with ⟨error | process, running⟩
  · exact ⟨_, _, .notStarted prepared begun⟩
  rcases awaited : process.await running with ⟨error | finished, after⟩
  · exact ⟨_, _, .lost ⟨ready, prepared, begun⟩ awaited⟩
  · exact ⟨_, _, .ended ⟨process, running, ⟨ready, prepared, begun⟩, awaited⟩⟩

variable (note : Call → List ν) (earlier : List ν)

theorem Prepared.noting (prepared : Prepared host layout request state ready) :
    Prepared (host.noting note) layout request (state, earlier)
      (ready, earlier ++ (layout.sourceCalls request).flatMap note) := by
  obtain ⟨made, directories, kept⟩ := prepared
  refine ⟨(made, earlier), by simp [directories], ?_⟩
  split at kept
  · rename_i keeps
    simp [keeps, kept, LayoutSettings.sourceCalls]
  · rename_i drops
    simp [drops, kept, LayoutSettings.sourceCalls]

theorem startFor_noting (asked : List ν) :
    startFor (host.noting note) layout request (ready, asked) =
      let answered := startFor host layout request ready
      (answered.1.map Process.noting, answered.2, asked ++
        note (.start layout.program (layout.arguments request.stem) answered.1.isOk)) := rfl

theorem flatMap_calls (begun : Bool) : (layout.calls request begun).flatMap note =
    (layout.sourceCalls request).flatMap note ++
      note (.start layout.program (layout.arguments request.stem) begun) := by
  rw [LayoutSettings.calls, List.flatMap_append, List.flatMap_singleton]

theorem Running.noting (started : Running host layout request state process running) :
    Running (host.noting note) layout request (state, earlier) process.noting
      (running, earlier ++ (layout.calls request true).flatMap note) := by
  obtain ⟨ready, prepared, started⟩ := started
  refine ⟨_, prepared.noting note earlier, ?_⟩
  rw [flatMap_calls, ← List.append_assoc, startFor_noting, started]
  rfl

-- Taking notes changes nothing else about a host, so a rendering ends in the same way with it.
theorem Ending.noting (ending : Ending host layout request state reply calls) :
    Ending (host.noting note) layout request (state, earlier)
      ⟨reply.answer, reply.log, (reply.state, earlier ++ calls.flatMap note)⟩ calls := by
  cases ending with
  | noDirectory refused =>
      apply Ending.noDirectory
      simp [refused]
  | @noSource made _ _ keeps directories refused =>
      have ready : (host.noting note).makeDirectories layout.directory (state, earlier) =
          (.ok (), made, earlier) := by
        simp [directories]
      apply Ending.noSource keeps ready
      simp [refused, keeps, LayoutSettings.sourceCalls]
  | notStarted prepared refused =>
      apply Ending.notStarted (prepared.noting note earlier)
      rw [flatMap_calls, ← List.append_assoc, startFor_noting, refused]
      rfl
  | lost started refused =>
      apply Ending.lost (started.noting note earlier)
      simp [refused]
  | ended ended =>
      obtain ⟨process, running, started, awaited⟩ := ended
      apply Ending.ended
      refine ⟨process.noting, _, started.noting note earlier, ?_⟩
      simp [awaited]

/-- Whatever has come of a rendering settles all that comes of it. -/
theorem Ending.unique {other : Reply σ} {others : List Call}
    (ending : Ending host layout request state reply calls)
    (another : Ending host layout request state other others) :
    reply = other ∧ calls = others := by
  -- The reply does not tell the calls, but that of a host that notes them all does.
  have noted := (ending.noting (fun call => [call]) []).layout_eq
  have same := noted.symm.trans (another.noting (fun call => [call]) []).layout_eq
  refine ⟨ending.layout_eq.symm.trans another.layout_eq, ?_⟩
  simpa using congrArg (fun reply => reply.state.2) same

end Endings

end CircuitDiagram
