import Daq.Data
import Daq.Lib.Reach

namespace Daq.Stream

/-! A test module that runs in a container of its own, from the moment it has
been started.  It ends through the stream monitor, which copies its output and
tells it of the hangup, or because its host terminates it. -/

/-- What came first: an error of copying or a hangup, or the termination. -/
inductive Ending
  | trouble
  | termination
deriving DecidableEq

structure ExternalModule where
  name : String := ""
  /-- The test is the one whose result is inverted. -/
  inverted : Bool := false
  /-- `fail_module` has it that finalizing fails. -/
  induced : Bool := false
  host : Bool := true
  pipe : Bool := true
  log : Bool := true
  /-- The stream monitor has the module's stream. -/
  monitored : Bool := true
  /-- The calls of the module's callback. -/
  calls : List (Option Int × Option Exc) := []
  first : Option Ending := none

/-- What the steps of one `_finalize` come to, if they are taken. -/
structure Answers where
  finishHook : Option Exc := none
  removeHost : Option Exc := none
  monitorForget : Option Exc := none
  terminate : Except Exc Int := .ok 0
  closeLog : Option Exc := none

namespace ExternalModule

abbrev Action := Exec ExternalModule Exc

def step (answer : Option Exc) : Action Unit := Exec.whenSome answer Exec.raise

/-- The return code, inverted for one test. -/
def modifiedCode (inverted : Bool) (returnCode : Int) : Int :=
  if inverted then (if returnCode = 0 then 1 else 0) else returnCode

/-! `_finalize` in three parts: the stream, the container and the log. -/

def closeLog (answers : Answers) (start : ExternalModule) (returnCode : Int) : Action Int := do
  step answers.closeLog
  Exec.modify fun module => { module with log := false }
  Exec.require (start.induced = false) (.exception "Induced finalize failure")
  pure (modifiedCode start.inverted returnCode)

def terminateHost (answers : Answers) (start : ExternalModule) : Action Int := do
  let returnCode ← Exec.ofExcept answers.terminate
  Exec.modify fun module => { module with host := false }
  closeLog answers start returnCode

def forgetPipe (answers : Answers) (start : ExternalModule) : Action Unit :=
  Exec.when (start.pipe = true) do
    step answers.monitorForget
    Exec.modify fun module => { module with monitored := false, pipe := false }

def finalize (answers : Answers) : Action Int := do
  let start ← Exec.get
  Exec.require (start.host = true) (.assertionError s!"test host {start.name} already finalized")
  step answers.finishHook
  step answers.removeHost
  forgetPipe answers start
  terminateHost answers start

/-- A call of the callback, which may raise. -/
def callback (answer : Option Exc) (returnCode : Option Int) (exception : Option Exc) :
    Action Unit := do
  Exec.modify fun module => { module with calls := module.calls ++ [(returnCode, exception)] }
  step answer

/-- The container's return code is a number, so that finalizing never returns
`None`. -/
def error (answers : Answers) (called : Option Exc) (exception : Exc) : Action Unit := do
  let _ ← finalize answers
  callback called none (some exception)

/-- The module's stream has ended. -/
def finalizeEnded (answers : Answers) : Action Int := do
  let module ← Exec.get
  Exec.require (module.pipe = true) (.assertionError "complete without active pipe")
  Exec.modify fun module => { module with pipe := false }
  finalize answers

/-- The return code and the exception that finalizing comes to. -/
def completion (answers : Answers) : Action (Int × Option Exc) :=
  Exec.attempt
    (do
      let returnCode ← finalizeEnded answers
      pure (returnCode, none))
    (fun raised => pure (-1, some raised))

/-- Whatever finalizing comes to is passed on. -/
def complete (answers : Answers) (called : Option Exc) : Action Unit := do
  let outcome ← completion answers
  callback called (some outcome.1) outcome.2

/-- The stream monitor logs what an error handler raises. -/
def errorHandler (answers : Answers) (called : Option Exc) (exception : Exc) : Action Unit :=
  Exec.attempt (error answers called exception) fun _ => pure ()

/-- There is output, which is copied to the log. -/
def triggerCallback (copy : Option Exc) (answers : Answers) (called : Option Exc) : Action Unit :=
  Exec.attempt (step copy) fun raised => do
    Exec.modify fun module => { module with first := module.first.or (some .trouble) }
    errorHandler answers called raised

/-- The stream ends; the error handler has its own answers, as finalizing may
be tried twice. -/
def triggerHangup (answers again : Answers) (called calledAgain : Option Exc) : Action Unit := do
  Exec.modify fun module =>
    { module with first := module.first.or (some .trouble), monitored := false }
  Exec.attempt (complete answers called) (errorHandler again calledAgain)

/-- Forcibly terminate this module. -/
def terminate (answers : Answers) : Action Int := do
  Exec.modify fun module => { module with first := module.first.or (some .termination) }
  finalize answers

end ExternalModule

/-- What happens to a module: the stream monitor only acts for streams it
has. -/
inductive Occurrence
  | output (copy : Option Exc) (answers : Answers) (called : Option Exc)
  | hangup (answers again : Answers) (called calledAgain : Option Exc)
  | terminate (answers : Answers)

namespace Occurrence

open ExternalModule

def perform : Occurrence → Action Unit
  | .output copy answers called => do
      let module ← Exec.get
      Exec.when (module.monitored = true) (triggerCallback copy answers called)
  | .hangup answers again called calledAgain => do
      let module ← Exec.get
      Exec.when (module.monitored = true) (triggerHangup answers again called calledAgain)
  | .terminate answers => do
      let _ ← ExternalModule.terminate answers
      pure ()

def step (occurrence : Occurrence) (module : ExternalModule) : ExternalModule :=
  (occurrence.perform.run module).2

end Occurrence

namespace ExternalModule

/-! What finalizing leaves alone, and what it does when its steps succeed. -/

/-- The callback is not called, and neither the stream nor the container comes
back. -/
structure Quiet (before after : ExternalModule) : Prop where
  calls : after.calls = before.calls
  first : after.first = before.first
  induced : after.induced = before.induced
  monitored : before.monitored = false → after.monitored = false
  host : before.host = false → after.host = false

def quiet : Frame ExternalModule where
  rel := Quiet
  refl _ := ⟨rfl, rfl, rfl, id, id⟩
  trans one other :=
    { calls := other.calls.trans one.calls
      first := other.first.trans one.first
      induced := other.induced.trans one.induced
      monitored := other.monitored ∘ one.monitored
      host := other.host ∘ one.host }

theorem step_within {frame : Frame ExternalModule} (answer : Option Exc) :
    (step answer).Within frame :=
  Exec.within_whenSome answer fun _ => Exec.within_raise _

theorem closeLog_quiet (answers : Answers) (start : ExternalModule) (returnCode : Int) :
    (closeLog answers start returnCode).Within quiet := by
  unfold closeLog
  refine Exec.within_bind (step_within _) fun _ => ?_
  refine Exec.within_bind (Exec.within_modify fun _ => ⟨rfl, rfl, rfl, id, id⟩) fun _ => ?_
  exact Exec.within_bind (Exec.within_require _) fun _ => Exec.within_pure _

theorem terminateHost_quiet (answers : Answers) (start : ExternalModule) :
    (terminateHost answers start).Within quiet := by
  unfold terminateHost
  refine Exec.within_bind (Exec.within_ofExcept _) fun _ => ?_
  exact Exec.within_bind (Exec.within_modify fun _ => ⟨rfl, rfl, rfl, id, fun _ => rfl⟩) fun _ =>
    closeLog_quiet _ _ _

theorem forgetPipe_quiet (answers : Answers) (start : ExternalModule) :
    (forgetPipe answers start).Within quiet :=
  Exec.within_when (Exec.within_bind (step_within _) fun _ =>
    Exec.within_modify fun _ => ⟨rfl, rfl, rfl, fun _ => rfl, id⟩)

theorem finalize_quiet (answers : Answers) : (finalize answers).Within quiet := by
  unfold finalize
  refine Exec.within_bind Exec.within_get fun start => ?_
  refine Exec.within_bind (Exec.within_require _) fun _ => ?_
  refine Exec.within_bind (step_within _) fun _ => Exec.within_bind (step_within _) fun _ => ?_
  exact Exec.within_bind (forgetPipe_quiet _ _) fun _ => terminateHost_quiet _ _

theorem finalize_absent {module : ExternalModule} (absent : module.host = false)
    (answers : Answers) : ∃ raised, (finalize answers).run module = (.error raised, module) := by
  refine ⟨.assertionError s!"test host {module.name} already finalized", ?_⟩
  unfold finalize
  rw [Exec.get_bind_run, Exec.require_bind_run_not]
  rw [absent]
  exact Bool.false_ne_true

end ExternalModule

/-- The steps before the stream is forgotten, and that one, succeed. -/
def Answers.Forgets (answers : Answers) : Prop :=
  answers.finishHook = none ∧ answers.removeHost = none ∧ answers.monitorForget = none

/-- The steps succeed with which the container is let go, once the stream is. -/
def Answers.LetsGo (answers : Answers) : Prop :=
  answers.finishHook = none ∧ answers.removeHost = none ∧ answers.terminate.isOk = true

/-- Once the stream is forgotten there is a return code. -/
def Answers.Ends (answers : Answers) : Prop := answers.LetsGo ∧ answers.closeLog = none

instance (answers : Answers) : Decidable answers.Forgets := inferInstanceAs (Decidable (_ ∧ _))
instance (answers : Answers) : Decidable answers.LetsGo := inferInstanceAs (Decidable (_ ∧ _))
instance (answers : Answers) : Decidable answers.Ends := inferInstanceAs (Decidable (_ ∧ _))

namespace ExternalModule

variable {module : ExternalModule} {answers : Answers}

theorem finalize_run (finish : answers.finishHook = none) (remove : answers.removeHost = none)
    (present : module.host = true) :
    (finalize answers).run module =
      (forgetPipe answers module >>= fun _ => terminateHost answers module).run module := by
  unfold finalize
  rw [Exec.get_bind_run, Exec.require_bind_run _ _ present, finish, remove]
  rfl

theorem forgetPipe_run (piped : module.pipe = true) (forget : answers.monitorForget = none)
    (next : Unit → Action Int) :
    (forgetPipe answers module >>= next).run module =
      (next ()).run { module with monitored := false, pipe := false } := by
  unfold forgetPipe
  rw [forget, piped]
  rfl

theorem forgetPipe_run_not (unpiped : module.pipe = false) (next : Unit → Action Int) :
    (forgetPipe answers module >>= next).run module = (next ()).run module := by
  unfold forgetPipe
  rw [unpiped]
  rfl

theorem finalize_forgets (forgets : answers.Forgets) (present : module.host = true)
    (piped : module.pipe = true) :
    (finalize answers).Holds module (fun _ after => after.monitored = false) := by
  obtain ⟨finish, remove, forget⟩ := forgets
  rw [Exec.holds_congr ((finalize_run finish remove present).trans (forgetPipe_run piped forget _))]
  exact ((terminateHost_quiet answers module).holds _).mono fun _ _ kept => kept.monitored rfl

theorem terminateHost_run {returnCode : Int} (ends : answers.terminate = .ok returnCode)
    (start : ExternalModule) :
    (terminateHost answers start).run module =
      (closeLog answers start returnCode).run { module with host := false } := by
  unfold terminateHost
  rw [ends]
  rfl

theorem terminate_of_isOk (ends : answers.terminate.isOk = true) :
    ∃ returnCode, answers.terminate = .ok returnCode := by
  cases code : answers.terminate with
  | error raised =>
      rw [code] at ends
      cases ends
  | ok returnCode => exact ⟨returnCode, rfl⟩

theorem finalize_letsGo (letsGo : answers.LetsGo) (unpiped : module.pipe = false) :
    (finalize answers).Holds module (fun _ after => after.host = false) := by
  obtain ⟨finish, remove, ends⟩ := letsGo
  cases present : module.host with
  | false =>
      obtain ⟨raised, ran⟩ := finalize_absent present answers
      rw [Exec.holds_of_run ran]
      exact present
  | true =>
      obtain ⟨returnCode, ends⟩ := terminate_of_isOk ends
      rw [Exec.holds_congr (((finalize_run finish remove present).trans
        (forgetPipe_run_not unpiped _)).trans (terminateHost_run ends module))]
      exact ((closeLog_quiet answers module returnCode).holds _).mono fun _ _ kept => kept.host rfl

/-- When all steps succeed there is a return code. -/
theorem finalize_smooth (forgets : answers.Forgets) (ends : answers.Ends)
    (present : module.host = true) (piped : module.pipe = true)
    (planned : module.induced = false) :
    ∃ code, (finalize answers).run module =
      (.ok code, { module with monitored := false, pipe := false, host := false, log := false }) := by
  obtain ⟨finish, remove, forget⟩ := forgets
  obtain ⟨⟨_, _, ends⟩, closes⟩ := ends
  obtain ⟨returnCode, ends⟩ := terminate_of_isOk ends
  refine ⟨modifiedCode module.inverted returnCode, ?_⟩
  rw [finalize_run finish remove present, forgetPipe_run piped forget, terminateHost_run ends]
  unfold closeLog
  rw [closes, planned]
  rfl

/-! There is one only if they do. -/

theorem step_returns (answer : Option Exc) (module : ExternalModule) :
    (step answer).Holds module (fun outcome after =>
      (outcome = .ok () → answer = none) ∧ after = module) := by
  cases answer with
  | none => exact ⟨fun _ => rfl, rfl⟩
  | some raised =>
      refine ⟨?_, rfl⟩
      intro wrong
      cases wrong

theorem closeLog_returns (answers : Answers) (start module : ExternalModule) (returnCode : Int) :
    (closeLog answers start returnCode).Holds module (fun outcome _ => outcome.isOk = true →
      answers.closeLog = none ∧ start.induced = false) := by
  unfold closeLog
  refine (step_returns answers.closeLog module).bind (fun _ _ _ wrong => absurd wrong ?_) ?_
  · exact Bool.false_ne_true
  rintro _ _ ⟨closes, rfl⟩
  rw [Exec.holds_congr (Exec.modify_bind_run _ _ _), Exec.holds_bind, Exec.holds_require]
  exact ⟨fun planned _ => ⟨closes rfl, planned⟩, fun _ wrong => absurd wrong Bool.false_ne_true⟩

theorem terminateHost_returns (answers : Answers) (start module : ExternalModule) :
    (terminateHost answers start).Holds module (fun outcome _ => outcome.isOk = true →
      answers.terminate.isOk = true ∧ answers.closeLog = none ∧ start.induced = false) := by
  unfold terminateHost
  cases answers.terminate with
  | error raised => exact fun wrong => absurd wrong Bool.false_ne_true
  | ok returnCode =>
      have closes := closeLog_returns answers start { module with host := false } returnCode
      exact fun returned => ⟨rfl, closes returned⟩

theorem finalize_returns (answers : Answers) (module : ExternalModule) :
    (finalize answers).Holds module (fun outcome _ => outcome.isOk = true →
      module.host = true ∧ answers.Ends ∧ module.induced = false) := by
  have raises (raised : Exc) (after : ExternalModule) :
      (Except.error raised : Except Exc Int).isOk = true →
        module.host = true ∧ answers.Ends ∧ module.induced = false :=
    fun wrong => absurd wrong Bool.false_ne_true
  unfold finalize
  rw [Exec.holds_congr (Exec.get_bind_run _ _), Exec.holds_bind, Exec.holds_require]
  refine ⟨fun present => ?_, fun _ => raises _ module⟩
  rw [Exec.then_ok]
  refine (step_returns answers.finishHook module).bind (fun _ _ _ => raises _ module) ?_
  rintro _ _ ⟨finish, same⟩
  rw [same]
  refine (step_returns answers.removeHost module).bind (fun _ _ _ => raises _ module) ?_
  rintro _ _ ⟨remove, same⟩
  rw [same]
  refine ((forgetPipe_quiet answers module).holds module).bind (fun _ _ _ => raises _ module) ?_
  intro _ reached _
  refine (terminateHost_returns answers module reached).mono ?_
  intro _ _ ends returned
  obtain ⟨returns, closes, planned⟩ := ends returned
  exact ⟨present, ⟨⟨finish rfl, remove rfl, returns⟩, closes⟩, planned⟩

/-! Runs. -/

/-- The callback has been called once if a copy error or a hangup came first,
and not at all if the termination did or neither has. -/
structure Accounted (module : ExternalModule) : Prop where
  live : module.monitored = true → module.host = true ∧ module.pipe = true ∧ module.first = none
  unended : module.first = none → module.calls = []
  once : module.first = some .trouble → module.calls.length = 1
  never : module.first = some .termination → module.calls = []

theorem callback_run (answer : Option Exc) (returnCode : Option Int) (exception : Option Exc) :
    ((callback answer returnCode exception).run module).2 =
      { module with calls := module.calls ++ [(returnCode, exception)] } := by
  cases answer with
  | none => rfl
  | some raised => rfl

theorem errorHandler_run (called : Option Exc) (exception : Exc) :
    ((errorHandler answers called exception).run module).2 =
      ((error answers called exception).run module).2 := by
  unfold errorHandler Exec.attempt
  dsimp only
  split
  · rename_i ran
    rw [ran]
  · rename_i ran
    rw [ran]
    rfl

/-! The callback is called for an error if finalizing returns. -/

theorem errorHandler_run_ok {code : Int} {after : ExternalModule}
    (ran : (finalize answers).run module = (.ok code, after)) (called : Option Exc)
    (exception : Exc) :
    ((errorHandler answers called exception).run module).2 =
      { after with calls := after.calls ++ [(none, some exception)] } := by
  rw [errorHandler_run]
  unfold error
  rw [Exec.bind_run_ok ran, callback_run]

theorem errorHandler_run_error {raised : Exc} {after : ExternalModule}
    (ran : (finalize answers).run module = (.error raised, after)) (called : Option Exc)
    (exception : Exc) : ((errorHandler answers called exception).run module).2 = after := by
  rw [errorHandler_run]
  unfold error
  rw [Exec.bind_run_error ran]

theorem triggerCallback_run (raised : Exc) (called : Option Exc) :
    (triggerCallback (some raised) answers called).run module =
      (errorHandler answers called raised).run
        { module with first := module.first.or (some .trouble) } := rfl

theorem finalizeEnded_holds (piped : module.pipe = true) :
    (finalizeEnded answers).Holds module (fun _ after => quiet.rel module after ∧
      (answers.LetsGo → after.host = false)) := by
  unfold finalizeEnded
  rw [Exec.holds_congr (Exec.get_bind_run _ _),
    Exec.holds_congr (Exec.require_bind_run _ _ piped), Exec.holds_congr (Exec.modify_bind_run _ _ _)]
  have kept := (finalize_quiet answers).holds { module with pipe := false }
  have quietly : quiet.rel module { module with pipe := false } := ⟨rfl, rfl, rfl, id, id⟩
  by_cases letsGo : answers.LetsGo
  · refine (kept.and (finalize_letsGo letsGo rfl)).mono ?_
    exact fun _ _ both => ⟨quiet.trans quietly both.1, fun _ => both.2⟩
  · exact kept.mono fun _ _ kept =>
      ⟨quiet.trans quietly kept, fun wrong => absurd wrong letsGo⟩

theorem completion_holds (piped : module.pipe = true) :
    (completion answers).Holds module (fun outcome after => (∃ result, outcome = .ok result) ∧
      quiet.rel module after ∧ (answers.LetsGo → after.host = false)) := by
  unfold completion
  rw [Exec.holds_attempt, Exec.holds_bind]
  refine (finalizeEnded_holds piped).mono ?_
  intro outcome reached kept
  cases outcome with
  | ok returnCode => exact ⟨⟨(returnCode, none), rfl⟩, kept⟩
  | error raised => exact ⟨⟨(-1, some raised), rfl⟩, kept⟩

/-- On hangup the callback is called whatever finalizing comes to. -/
theorem complete_holds (piped : module.pipe = true) (called : Option Exc) :
    (complete answers called).Holds module (fun outcome after =>
      after.calls.length = module.calls.length + 1 ∧ after.first = module.first ∧
        after.induced = module.induced ∧ (module.monitored = false → after.monitored = false) ∧
        (called = none → outcome = .ok ()) ∧ (answers.LetsGo → after.host = false)) := by
  unfold complete
  refine (completion_holds piped).bind ?_ ?_
  · rintro raised reached ⟨⟨result, wrong⟩, _⟩
    cases wrong
  · rintro result reached ⟨_, kept, gone⟩
    unfold Exec.Holds
    rw [callback_run]
    refine ⟨?_, kept.first, kept.induced, kept.monitored, ?_, gone⟩
    · rw [List.length_append, kept.calls]
      rfl
    · intro returns
      rw [returns]
      rfl

theorem Accounted.ended {after : ExternalModule} (monitored : after.monitored = false)
    (first : after.first = some .trouble) (calls : after.calls.length = 1) : after.Accounted where
  live present := by cases present.symm.trans monitored
  unended none := absurd (first.symm.trans none) (Option.some_ne_none _)
  once _ := calls
  never other := by cases first.symm.trans other

theorem Accounted.terminated {after : ExternalModule} (monitored : after.monitored = false)
    (first : after.first = some .termination) (calls : after.calls = []) : after.Accounted where
  live present := by cases present.symm.trans monitored
  unended _ := calls
  once other := by cases first.symm.trans other
  never _ := calls

/-- Once the stream is gone, finalizing changes nothing about the calls. -/
theorem Accounted.quiet {after : ExternalModule} (accounted : module.Accounted)
    (monitored : module.monitored = false) (quietly : Quiet module after) : after.Accounted where
  live present := by cases present.symm.trans (quietly.monitored monitored)
  unended none := quietly.calls.trans (accounted.unended (quietly.first.symm.trans none))
  once trouble := by
    rw [quietly.calls]
    exact accounted.once (quietly.first.symm.trans trouble)
  never termination := quietly.calls.trans (accounted.never (quietly.first.symm.trans termination))

end ExternalModule

/-- When copying fails nothing fails in finalizing; when the callback raises on
hangup, finalizing has let the container go or fails the second time too; and
when the host terminates the module its stream is forgotten. -/
def Orderly (module : ExternalModule) : Occurrence → Prop
  | .output copy answers _ => module.monitored = true → copy ≠ none →
      answers.Forgets ∧ answers.Ends ∧ module.induced = false
  | .hangup answers again called _ => module.monitored = true → called ≠ none →
      answers.LetsGo ∨ ¬ (again.Ends ∧ module.induced = false)
  | .terminate answers => module.monitored = true → answers.Forgets

instance (module : ExternalModule) : DecidablePred (Orderly module)
  | .output _ _ _ => inferInstanceAs (Decidable (_ → _ → _))
  | .hangup _ _ _ _ => inferInstanceAs (Decidable (_ → _ → _))
  | .terminate _ => inferInstanceAs (Decidable (_ → _))

namespace ExternalModule.Accounted

variable {module : ExternalModule}

theorem output (accounted : module.Accounted) {copy : Option Exc} {answers : Answers}
    {called : Option Exc} (orderly : Orderly module (.output copy answers called)) :
    (Occurrence.output copy answers called).perform.Holds module
      (fun _ after => after.Accounted) := by
  unfold Exec.Holds Occurrence.perform
  rw [Exec.get_bind_run]
  cases monitored : module.monitored with
  | false => exact accounted
  | true =>
      cases copy with
      | none => exact accounted
      | some raised =>
          obtain ⟨forgets, ends, planned⟩ := orderly monitored (Option.some_ne_none _)
          obtain ⟨present, piped, unended⟩ := accounted.live monitored
          have calls := accounted.unended unended
          unfold Exec.when
          rw [if_pos rfl, triggerCallback_run, unended, Option.none_or]
          obtain ⟨code, ran⟩ := @finalize_smooth { module with first := some .trouble } answers
            forgets ends present piped planned
          rw [errorHandler_run_ok ran]
          refine .ended rfl rfl ?_
          dsimp only
          rw [calls]
          rfl

theorem hangup (accounted : module.Accounted) {answers again : Answers}
    {called calledAgain : Option Exc}
    (orderly : Orderly module (.hangup answers again called calledAgain)) :
    (Occurrence.hangup answers again called calledAgain).perform.Holds module
      (fun _ after => after.Accounted) := by
  unfold Occurrence.perform
  rw [Exec.holds_congr (Exec.get_bind_run _ _)]
  cases monitored : module.monitored with
  | false => exact accounted
  | true =>
      obtain ⟨present, piped, unended⟩ := accounted.live monitored
      have calls := accounted.unended unended
      unfold Exec.when triggerHangup
      rw [if_pos rfl, Exec.holds_congr (Exec.modify_bind_run _ _ _), unended, Option.none_or]
      have completed := @complete_holds
        { module with first := some .trouble, monitored := false } answers piped called
      refine completed.attempt ?_ ?_
      · rintro _ reached ⟨length, first, _, forgotten, _, _⟩
        refine .ended (forgotten rfl) first ?_
        rw [length, calls]
        rfl
      · rintro raised reached ⟨length, first, induced, forgotten, returns, gone⟩
        have quietly := finalize_quiet again reached
        have returning := finalize_returns again reached
        have ending : ((finalize again).run reached).2.Accounted := by
          refine .ended (quietly.monitored (forgotten rfl)) (quietly.first.trans first) ?_
          rw [quietly.calls, length, calls]
          rfl
        unfold Exec.Holds at returning ⊢
        cases ran : (finalize again).run reached with
        | mk outcome after =>
            rw [ran] at ending returning
            cases outcome with
            | error again =>
                rw [errorHandler_run_error ran]
                exact ending
            | ok code =>
                obtain ⟨present, ends, planned⟩ := returning rfl
                have raises : called ≠ none := fun none => by cases returns none
                cases orderly monitored raises with
                | inl letsGo => exact absurd ((gone letsGo).symm.trans present) Bool.false_ne_true
                | inr fails => exact absurd ⟨ends, induced.symm.trans planned⟩ fails

theorem begin (accounted : module.Accounted) (unmonitored : module.monitored = false) :
    { module with first := module.first.or (some .termination) }.Accounted := by
  cases first : module.first with
  | none => exact .terminated unmonitored rfl (accounted.unended first)
  | some ending =>
      rw [Option.some_or, ← first]
      exact accounted

theorem terminate (accounted : module.Accounted) {answers : Answers}
    (orderly : Orderly module (.terminate answers)) :
    (Occurrence.terminate answers).perform.Holds module (fun _ after => after.Accounted) := by
  have quietly := finalize_quiet answers
    { module with first := module.first.or (some .termination) }
  have finalized : (finalize answers).Holds
      { module with first := module.first.or (some .termination) }
      (fun _ after => after.Accounted) := by
    by_cases monitored : module.monitored = true
    · obtain ⟨present, piped, unended⟩ := accounted.live monitored
      have forgotten := @finalize_forgets
        { module with first := module.first.or (some .termination) } answers (orderly monitored)
        present piped
      refine .terminated forgotten ?_ (quietly.calls.trans (accounted.unended unended))
      rw [quietly.first, unended]
      rfl
    · have unmonitored := Bool.eq_false_of_not_eq_true monitored
      exact (accounted.begin unmonitored).quiet unmonitored quietly
  unfold Occurrence.perform ExternalModule.terminate
  dsimp only
  rw [Exec.bind_assoc, Exec.holds_congr (Exec.modify_bind_run _ _ _)]
  exact finalized.bind (fun _ _ ended => ended) fun _ _ ended => ended

theorem step (accounted : module.Accounted) {occurrence : Occurrence}
    (orderly : Orderly module occurrence) : (occurrence.step module).Accounted := by
  cases occurrence with
  | output copy answers called => exact accounted.output orderly
  | hangup answers again called calledAgain => exact accounted.hangup orderly
  | terminate answers => exact accounted.terminate orderly

theorem started (name : String) (inverted induced : Bool) :
    Accounted { name := name, inverted := inverted, induced := induced } where
  live _ := ⟨rfl, rfl, rfl⟩
  unended _ := rfl
  once wrong := by cases wrong
  never wrong := by cases wrong

end ExternalModule.Accounted

namespace External

def failure : Exc := .exception "Read-only file system"

/-- Copying fails, and the host terminates the module afterwards. -/
def copying : List Occurrence :=
  [.output none {} none, .output (some failure) {} none, .terminate {}]

def copied : ExternalModule :=
  copying.foldl (fun module occurrence => occurrence.step module) { name := "pass01" }

/-- Copying fails, and so does the hook that finalizing begins with. -/
def hooked : ExternalModule :=
  (Occurrence.output (some failure) { finishHook := some failure } none).step { name := "pass01" }

end External

end Daq.Stream
