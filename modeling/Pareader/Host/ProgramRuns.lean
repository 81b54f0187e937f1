import Pareader.Host.ReaderProgram
import Pareader.Host.Shutdown

/-!
# Endless runs of the reader program

As long as the event loop runs, refreshes follow one another for ever.  Once the
program is asked to quit, it exits: the event loop returns, `main` closes the
service, and the call of `Close` returns, because the program is fair to the
goroutines of its service if it is fair to all of its own.
-/

namespace Pareader.Host.ProgramRuns

open Pareader.Core
open Pareader.Host.Sessions
open Pareader.Host.Supervision
open Pareader.Host.Ownership
open Pareader.Host.Discovery
open Pareader.Host.Display
open Pareader.Host.ReaderProgram

variable {settings : Settings}

/-! ## Participants -/

inductive Party where
  | service (party : Shutdown.Party)
  | command (index : Nat)
  | receive (index : Nat)
  | main

def Party.acts : Party → ProgramAction → Prop
  | .service party, action =>
      ∃ moved, action = .service moved ∧ party.acts moved
  | .command index, action => ∃ instant, action = .command index instant
  | .receive index, action => action = .receive index
  | .main, action => action = .main

/--
Everybody acts who can act, and a transport which was closed returns finitely
many further reports.
-/
structure Cooperative (run : (programMachine settings).Run) : Prop where
  fair : ∀ party : Party, run.Fair party.acts
  silent : ∀ id, ∃ start, run.LawfulFrom
    (fun program action => ∀ moved, action = .service moved →
      Shutdown.Silent id program.service moved) start

def anyAction (_ : Program) (_ : ProgramAction) : Prop := True

/-- A program which has not exited takes the steps which it can. -/
theorem enabled_of_operate
    {program after : Program} {action : ProgramAction}
    {party : ProgramAction → Prop} (acts : party action)
    (alive : program.phase ≠ .exited)
    (operated : program.operate settings.timeout action = some after) :
    (programMachine settings).Enabled party program := by
  refine ⟨action, { after with
    history := program.history ++ [program.service] }, acts, ?_⟩
  show program.step settings action = _
  unfold Program.step
  split
  · rename_i exited
    exact (alive exited).elim
  · rw [operated]
    rfl

/-! ## A run which quits -/

/--
A reader is connected when the key is pressed.  The event loop returns, `main`
closes the service, and the session ends.
-/
def pressing : List ProgramAction :=
  reading ++
    [.input (.key "q"), .command 2 0, .receive 2, .main,
      .service (.closer 0), .service (.closer 0), .service (.closer 0),
      .service (.closer 0), .service .contextDone, .service .run,
      .service (.session 0 (.readFails (.code .disconnected))),
      .service (.session 0 .loop), .service (.session 0 .loop),
      .service (.session 0 .loop), .service .run, .service .run,
      .service .run, .service .run, .service .run, .service .run,
      .service .run, .service (.closer 0), .main]

/-- Whether the process has ended. -/
def hasExited (program : Program) : Bool :=
  match program.phase with
  | .exited => true
  | _ => false

theorem disabled_of_hasExited
    {program : Program} (exited : hasExited program = true)
    (party : Party) :
    ¬ (programMachine settings).Enabled party.acts program := by
  rintro ⟨action, next, -, taken⟩
  change program.step settings action = some next at taken
  cases phase : program.phase with
  | exited =>
      rw [Program.step, phase] at taken
      cases taken
  | running =>
      rw [hasExited, phase] at exited
      cases exited
  | returned =>
      rw [hasExited, phase] at exited
      cases exited
  | closing call =>
      rw [hasExited, phase] at exited
      cases exited

/-- A run in which the key is pressed and everybody has done what he can. -/
theorem exists_pressed :
    ∃ run : (programMachine flags).Run, Cooperative run ∧
      (run.state reading.length).service.active = some 0 ∧
      run.action reading.length = some (.input (.key "q")) := by
  have ends :
      ((programMachine flags).replay (programMachine flags).start
        pressing).any hasExited = true := by
    decide +kernel
  have connects :
      ((programMachine flags).replay (programMachine flags).start
        (pressing.take reading.length)).any
          (fun program => decide (program.service.active = some 0)) =
        true := by
    decide +kernel
  rcases (Option.any_eq_true _ _).mp ends with ⟨final, replayed, exited⟩
  rcases (Option.any_eq_true _ _).mp connects with
    ⟨middle, reached, active⟩
  refine ⟨Machine.Run.ofTrace _ replayed, ⟨fun party =>
    Machine.Run.ofTrace_fair replayed (disabled_of_hasExited exited party),
    fun id => ⟨_, Machine.Run.ofTrace_lawful replayed _⟩⟩, ?_, rfl⟩
  rw [Machine.Run.ofTrace_state replayed reached]
  exact of_decide_eq_true active

/-! ## Refreshes go on -/

def refresher (program : Program) : Nat :=
  program.commands.findIdx Command.refreshes

def underWay (program : Program) : Command :=
  (program.commands[refresher program]?).getD .done

/-- The operations which are left until the result is received. -/
def Command.remaining : Command → Nat
  | .ticking _ => 8
  | .sending .refreshNow => 7
  | .loadingDevice => 6
  | .loadingActive _ => 5
  | .loadingCard _ _ => 4
  | .checkingActive _ _ => 3
  | .loadingErr _ _ => 2
  | .sampled _ _ _ => 1
  | _ => 0

/-- Who moves a command on. -/
def Command.mover (index : Nat) : Command → Party
  | .sending _ => .receive index
  | _ => .command index

theorem underWay_of_sole
    {program : Program} {index : Nat} {command : Command}
    (sole : Sole Command.refreshes program.commands index command) :
    refresher program = index ∧ underWay program = command := by
  have found := sole.findIdx_eq
  refine ⟨found, ?_⟩
  show (program.commands[program.commands.findIdx _]?).getD .done = command
  rw [found, sole.located, Option.getD_some]

theorem remaining_of_operate
    {service : Service DeviceInfo} {instant : Int} {point target : Command}
    (refreshes : point.refreshes = true)
    (operation : point.operate service instant = some target) :
    Command.remaining target < Command.remaining point := by
  cases point with
  | loadingActive device =>
      simp only [Command.operate] at operation
      split at operation <;> cases operation <;> simp [Command.remaining]
  | checkingActive device card =>
      simp only [Command.operate] at operation
      split at operation <;> cases operation <;> simp [Command.remaining]
  | quitting => cases refreshes
  | sending message => cases operation
  | done => cases operation
  | _ =>
      cases operation
      simp [Command.remaining]

/-- The event loop runs and has received so many results. -/
structure Refreshed (count : Nat) (program : Program) : Prop where
  running : program.phase = .running
  received : program.results.length = count

/-- A command can operate until it sends its message. -/
theorem exists_operate
    (service : Service DeviceInfo) (instant : Int) {point : Command}
    (unsent : ∀ message, point ≠ .sending message) (unfinished : point ≠ .done) :
    ∃ target, point.operate service instant = some target := by
  cases point with
  | loadingActive device =>
      cases active : service.active with
      | none => exact ⟨_, by rw [Command.operate, active]⟩
      | some id => exact ⟨_, by rw [Command.operate, active]⟩
  | checkingActive device card =>
      cases active : service.active.isSome with
      | true => exact ⟨_, by rw [Command.operate, if_pos active]⟩
      | false =>
          exact ⟨_, by
            rw [Command.operate, if_neg (Bool.not_eq_true _ ▸ active)]⟩
  | sending message => exact (unsent message rfl).elim
  | done => exact (unfinished rfl).elim
  | _ => exact ⟨_, rfl⟩

/-- Whoever moves a command on can do so while the event loop runs. -/
theorem mover_enabled
    {program : Program} (running : program.phase = .running) {index : Nat}
    {command : Command} (located : program.commands[index]? = some command)
    (unfinished : command ≠ .done) :
    (programMachine settings).Enabled
      (Command.mover index command).acts program := by
  have alive : program.phase ≠ .exited := by
    rw [running]
    intro impossible
    cases impossible
  by_cases sends : ∃ message, command = .sending message
  · rcases sends with ⟨message, rfl⟩
    have received : program.operate settings.timeout (.receive index) =
        some (Program.handle
          { program with commands := program.commands.set index .done }
          message) := by
      simp only [Program.operate, running, located]
    exact enabled_of_operate rfl alive received
  · have unsent : ∀ message, command ≠ .sending message :=
      fun message same => sends ⟨message, same⟩
    rcases exists_operate program.service 0 unsent unfinished with
      ⟨target, operation⟩
    have operated : program.operate settings.timeout (.command index 0) =
        some { program with commands := program.commands.set index target } := by
      simp only [Program.operate, located, Option.bind_some, operation,
        Option.map_some]
    have acts : (Command.mover index command).acts (.command index 0) := by
      cases command with
      | sending message => exact (unsent message rfl).elim
      | _ => exact ⟨0, rfl⟩
    exact enabled_of_operate acts alive operated

theorem acts_of_mover
    {index : Nat} {command : Command} {action : ProgramAction}
    (commands : ∀ instant, action ≠ .command index instant)
    (receives : action ≠ .receive index) :
    ¬ (Command.mover index command).acts action := by
  intro acts
  cases command with
  | sending message => exact receives acts
  | _ =>
      rcases acts with ⟨instant, same⟩
      exact commands instant same

/-- The next result is received, unless the event loop returns. -/
def refreshing (settings : Settings) (count : Nat) :
    (programMachine settings).Progress anyAction Party.acts
      (Refreshed count)
      (fun program =>
        program.phase ≠ .running ∨ count < program.results.length) where
  rank program := Command.remaining (underWay program)
  helper program := Command.mover (refresher program) (underWay program)
  enabled program reached refreshed := by
    rcases refreshing_of_reachable reached with ⟨index, command, known⟩
    rcases underWay_of_sole known.sole with ⟨here, current⟩
    rw [here, current]
    refine Or.inr (mover_enabled refreshed.running known.sole.located ?_)
    rintro rfl
    cases known.sole.holds
  advances program action next reached refreshed _ taken := by
    rcases effect_of_step taken with ⟨after, effect, rfl⟩
    rcases refreshing_of_reachable reached with ⟨index, command, known⟩
    rcases underWay_of_sole known.sole with ⟨here, current⟩
    by_cases running : after.phase = .running
    · rw [here, current]
      cases course_of_effect known.sole effect with
      | waits kept results commands receives =>
          rcases underWay_of_sole kept with ⟨hereAfter, currentAfter⟩
          refine Or.inr ⟨⟨running, ?_⟩, Or.inr ⟨?_, ?_, ?_⟩⟩
          · exact (congrArg List.length results).trans refreshed.received
          · exact congrArg Command.remaining currentAfter
          · exact congrArg₂ Command.mover hereAfter currentAfter
          · exact acts_of_mover commands receives
      | operates operation moved =>
          rcases
              @underWay_of_sole
                { program with commands := program.commands.set index _ }
                _ _ moved with
            ⟨hereAfter, currentAfter⟩
          refine Or.inr ⟨⟨running, refreshed.received⟩, Or.inl ?_⟩
          refine (congrArg Command.remaining currentAfter).trans_lt ?_
          exact remaining_of_operate known.sole.holds operation
      | renews same handed results service =>
          rcases underWay_of_sole handed with ⟨hereAfter, currentAfter⟩
          refine Or.inr ⟨⟨running, ?_⟩, Or.inl ?_⟩
          · exact (congrArg List.length results).trans refreshed.received
          · refine (congrArg Command.remaining currentAfter).trans_lt ?_
            rw [same]
            decide
      | completes same handed results service =>
          refine Or.inl (Or.inr ?_)
          show count < after.results.length
          rw [results, List.length_append, refreshed.received]
          exact Nat.lt_succ_self count
    · exact Or.inl (Or.inl running)

/-- The session is served, and its read loop has met no failure. -/
structure Serving (service : Service DeviceInfo) : Prop where
  run : service.run = .serving 0
  cancelled : service.cancelled = false
  closers : service.closers = []
  session : ∃ session, service.sessions = [session] ∧
    session.done = false ∧
    (session.loop = .reading ∨ ∃ card, session.loop = .storing card)

/-- All commands but the refresh are done, and the reader is connected. -/
structure Steady (program : Program) : Prop where
  late : reading.length ≤ program.history.length
  running : program.phase = .running
  commands : ∃ finished point,
    program.commands = List.replicate finished .done ++ [point] ∧
      point.refreshes = true
  serving : Serving program.service

/-- The read loop stores the card which it has read, or reads again. -/
def readTurn (service : Service DeviceInfo) : ServiceAction DeviceInfo :=
  match service.sessions[0]?.map Session.loop with
  | some .reading => .session 0 (.read mifareReport)
  | _ => .session 0 .loop

/-- A command moves on. -/
def Command.turn (index : Nat) : Command → ProgramAction
  | .sending _ => .receive index
  | _ => .command index 0

/-- The command which was started last moves on. -/
def refreshTurn (commands : List Command) : ProgramAction :=
  Command.turn (commands.length - 1) (commands.getLast?.getD .done)

/-- After the connection the refresh and the read loop take turns. -/
def turn (program : Program) : ProgramAction :=
  match reading[program.history.length]? with
  | some action => action
  | none =>
      if program.history.length % 2 = 0 then
        refreshTurn program.commands
      else
        .service (readTurn program.service)

theorem exists_routePoint :
    ∃ card, routePoint mifareReport = .storing card := by
  have stored : (match routePoint mifareReport with
      | .storing _ => true
      | _ => false) = true := by
    decide +kernel
  split at stored
  · exact ⟨_, ‹_›⟩
  · cases stored

/-- A step of the only session. -/
theorem step_of_session
    {service : Service DeviceInfo} {session after : Session}
    {event : SessionEvent} (timeout : Int)
    (only : service.sessions = [session])
    (stepped : session.step event.action = some after) :
    service.step timeout (.session 0 event) =
      some { service with sessions := [after] } := by
  show service.stepSession 0 event.action = _
  rw [Service.stepSession, only, List.getElem?_cons_zero]
  exact congrArg (Option.map _) stepped

/-- The turn of the read loop keeps the service serving. -/
theorem Serving.reads
    {service : Service DeviceInfo} (serving : Serving service)
    (timeout : Int) :
    ∃ next, service.step timeout (readTurn service) = some next ∧
      Serving next := by
  rcases serving with
    ⟨run, cancelled, closers, session, only, unfinished, loop⟩
  have first : service.sessions[0]?.map Session.loop =
      some session.loop := by
    rw [only]
    rfl
  rcases loop with reads | ⟨card, stores⟩
  · have stepped : session.step (SessionEvent.read mifareReport).action =
        some
          { session with
            loop := routePoint mifareReport
            received := session.received ++ [mifareReport] } := by
      simp only [SessionEvent.action, Session.step, reads]
    have chosen : readTurn service = .session 0 (.read mifareReport) := by
      rw [readTurn, first, reads]
    rw [chosen]
    exact ⟨_, step_of_session timeout only stepped, run, cancelled, closers,
      _, rfl, unfinished, Or.inr exists_routePoint⟩
  · have stepped : session.step SessionEvent.loop.action =
        some { session with latest := some card, loop := .reading } := by
      simp only [SessionEvent.action, Session.step, Session.loopStep, stores]
    have chosen : readTurn service = .session 0 .loop := by
      rw [readTurn, first, stores]
    rw [chosen]
    exact ⟨_, step_of_session timeout only stepped, run, cancelled, closers,
      _, rfl, unfinished, Or.inl rfl⟩

/-- While a session is served, only its read loop has something to do. -/
theorem Serving.rests
    {service : Service DeviceInfo} (serving : Serving service)
    (timeout : Int) {party : Shutdown.Party} (other : party ≠ .loop 0) :
    ¬ (serviceMachine DeviceInfo timeout).Enabled party.acts service := by
  rcases serving with ⟨run, cancelled, closers, session, only, unfinished, -⟩
  rintro ⟨action, next, acts, taken⟩
  change service.step timeout action = some next at taken
  cases party with
  | supervisor =>
      have open_ : service.sessionDone 0 = false := by
        simp [Service.sessionDone, only, unfinished]
      cases action <;>
        simp [Shutdown.Party.acts, Shutdown.supervises, Service.step,
          Service.runStep, Service.respond, Service.timeOut,
          Service.contextDone, Service.observeDone, run, cancelled,
          open_] at acts taken
  | loop id =>
      rcases acts with ⟨event, -, rfl⟩
      cases id with
      | zero => exact other rfl
      | succ id =>
          simp [Service.step, Service.stepSession, only] at taken
  | closer index =>
      cases acts
      simp [Service.step, Service.closeStep, closers] at taken

/-- The last command is the refresh. -/
theorem getElem?_commands
    {finished index : Nat} {point found : Command}
    (located :
      (List.replicate finished Command.done ++ [point])[index]? =
        some found) :
    found = .done ∨ index = finished ∧ found = point := by
  rw [List.getElem?_append, List.length_replicate] at located
  split at located
  · rename_i before
    rw [List.getElem?_replicate_of_lt before] at located
    exact Or.inl (Option.some.inj located).symm
  · rename_i behind
    rcases List.getElem?_eq_some_iff.mp located with ⟨inside, same⟩
    rw [List.length_singleton] at inside
    obtain rfl : index = finished := by omega
    refine Or.inr ⟨rfl, ?_⟩
    rw [← same]
    simp

theorem mover_of_operate
    {service : Service DeviceInfo} {instant : Int} {point target : Command}
    (operation : point.operate service instant = some target)
    (index : Nat) : Command.mover index point = .command index := by
  cases point with
  | sending message => cases operation
  | _ => rfl

/-- Who is not the read loop or the refresh has nothing to do. -/
theorem Steady.rests
    {program : Program} (steady : Steady program) {finished : Nat}
    {point : Command}
    (commands :
      program.commands = List.replicate finished .done ++ [point])
    {party : Party}
    (other : party ≠ .service (.loop 0))
    (idle : party ≠ Command.mover finished point) :
    ¬ (programMachine flags).Enabled party.acts program := by
  rintro ⟨action, next, acts, taken⟩
  rcases effect_of_step taken with ⟨after, effect, -⟩
  cases party with
  | service party =>
      rcases acts with ⟨moved, rfl, acts⟩
      have different : party ≠ .loop 0 := by
        rintro rfl
        exact other rfl
      cases effect with
      | service stepped =>
          exact steady.serving.rests flags.timeout different
            ⟨moved, _, acts, stepped⟩
  | command index =>
      rcases acts with ⟨instant, rfl⟩
      cases effect with
      | command located operation =>
          rw [commands] at located
          rcases getElem?_commands located with rfl | ⟨rfl, rfl⟩
          · cases operation
          · exact idle (mover_of_operate operation index).symm
  | receive index =>
      cases acts
      cases effect with
      | receive running located =>
          rw [commands] at located
          rcases getElem?_commands located with impossible | ⟨rfl, same⟩
          · cases impossible
          · subst same
            exact idle rfl
  | main =>
      cases acts
      have running := steady.running
      cases effect with
      | close returned called => cases running.symm.trans returned
      | exit closing closed => cases running.symm.trans closing

/-- The event loop runs, and a command is about to end it. -/
structure Quitting (index : Nat) (program : Program) : Prop where
  running : program.phase = .running
  quits : program.commands[index]? = some .quitting ∨
    program.commands[index]? = some (.sending .quit)

/-- Commands are started behind those which there are. -/
theorem handle_located
    {program : Program} {index : Nat} {command : Command}
    (located : program.commands[index]? = some command) (message : Msg) :
    (program.handle message).commands[index]? = some command := by
  rcases List.getElem?_eq_some_iff.mp located with ⟨inside, -⟩
  cases message with
  | quit => exact located
  | _ => exact (List.getElem?_append_left inside).trans located

/-- What a step does to a command which is about to end the event loop. -/
theorem quitting_of_effect
    {program after : Program} {action : ProgramAction} {index : Nat}
    {command : Command}
    (located : program.commands[index]? = some command)
    (quits : command = .quitting ∨ command = .sending .quit)
    (effect : Effect settings program action after) :
    after.commands[index]? = some command ∧
        ¬ (Command.mover index command).acts action ∨
      command = .quitting ∧ after.phase = program.phase ∧
        after.commands[index]? = some (.sending .quit) ∨
      after.phase = .returned := by
  have others : (∀ instant, action ≠ .command index instant) →
      action ≠ .receive index →
        ¬ (Command.mover index command).acts action :=
    fun commands receives => acts_of_mover commands receives
  cases effect with
  | service taken => exact Or.inl ⟨located, others (by simp) (by simp)⟩
  | close returned taken =>
      exact Or.inl ⟨located, others (by simp) (by simp)⟩
  | exit closing closed =>
      exact Or.inl ⟨located, others (by simp) (by simp)⟩
  | input running expected =>
      exact Or.inl ⟨handle_located located _, others (by simp) (by simp)⟩
  | @command number instant point target found operation =>
      by_cases here : number = index
      · subst here
        obtain rfl : point = command :=
          Option.some.inj (found.symm.trans located)
        rcases quits with rfl | rfl
        · cases operation
          rcases List.getElem?_eq_some_iff.mp located with ⟨inside, -⟩
          exact Or.inr (Or.inl ⟨rfl, rfl, List.getElem?_set_self inside⟩)
        · cases operation
      · exact Or.inl
          ⟨(List.getElem?_set_ne here).trans located,
            others (by simp [here]) (by simp)⟩
  | @receive number message running found =>
      by_cases here : number = index
      · subst here
        have same := Option.some.inj (found.symm.trans located)
        rcases quits with rfl | rfl
        · cases same
        · cases same
          exact Or.inr (Or.inr rfl)
      · refine Or.inl ⟨handle_located ?_ message,
          others (by simp) (by simp [here])⟩
        exact (List.getElem?_set_ne here).trans located

/-- The operations which are left until the event loop is told to return. -/
def urgency : Command → Nat
  | .quitting => 1
  | _ => 0

/-- The event loop returns when it has been asked to. -/
def quitting (settings : Settings) (index : Nat) :
    (programMachine settings).Progress anyAction Party.acts
      (Quitting index) (fun program => program.phase ≠ .running) where
  rank program := (program.commands[index]?).elim 0 urgency
  helper program :=
    Command.mover index ((program.commands[index]?).getD .done)
  enabled program reached waiting := by
    rcases waiting.quits with located | located
    · rw [located]
      exact Or.inr (mover_enabled waiting.running located (by simp))
    · rw [located]
      exact Or.inr (mover_enabled waiting.running located (by simp))
  advances program action next reached waiting _ taken := by
    rcases effect_of_step taken with ⟨after, effect, rfl⟩
    by_cases running : after.phase = .running
    · have located : ∃ command,
          program.commands[index]? = some command ∧
            (command = .quitting ∨ command = .sending .quit) := by
        rcases waiting.quits with located | located
        · exact ⟨_, located, Or.inl rfl⟩
        · exact ⟨_, located, Or.inr rfl⟩
      rcases located with ⟨command, located, quits⟩
      rcases quitting_of_effect located quits effect with
        ⟨kept, other⟩ | ⟨rfl, -, sends⟩ | returned
      · refine Or.inr ⟨⟨running, ?_⟩, Or.inr ⟨?_, ?_, ?_⟩⟩
        · show after.commands[index]? = _ ∨ after.commands[index]? = _
          rcases quits with rfl | rfl
          · exact Or.inl kept
          · exact Or.inr kept
        · exact congrArg (Option.elim · 0 urgency)
            (kept.trans located.symm)
        · exact congrArg (fun found => Command.mover index (found.getD .done))
            (kept.trans located.symm)
        · rw [located]
          exact other
      · refine Or.inr ⟨⟨running, Or.inr sends⟩, Or.inl ?_⟩
        show (after.commands[index]?).elim 0 urgency <
          (program.commands[index]?).elim 0 urgency
        rw [sends, located]
        decide
      · rw [returned] at running
        cases running
    · exact Or.inl running

/-! ## The run of the service -/

/-- The step of the service in a step of the program. -/
def moveOf (program : Program) :
    ProgramAction → Option (ServiceAction DeviceInfo)
  | .service moved => some moved
  | .main =>
      match program.phase with
      | .returned => some .callClose
      | _ => none
  | _ => none

theorem service_moves
    {program after : Program} {action : ProgramAction}
    (effect : Effect settings program action after) :
    (moveOf program action).elim (some program.service)
        (program.service.step settings.timeout) =
      some after.service := by
  cases effect with
  | service taken => exact taken
  | close returned taken =>
      rw [moveOf, returned]
      exact taken
  | exit closing closed =>
      rw [moveOf, closing]
      rfl
  | input running expected => exact congrArg some (handle_service _ _).symm
  | receive running located =>
      exact congrArg some
        (handle_service
          { program with commands := program.commands.set _ .done } _).symm
  | command located operation => rfl

/-- The service is a component of the program. -/
def serviceOf (settings : Settings) :
    (programMachine settings).Component
      (serviceMachine DeviceInfo settings.timeout) where
  view := Program.service
  move := moveOf
  starts := rfl
  moves program action next taken := by
    rcases effect_of_step taken with ⟨after, effect, rfl⟩
    show (moveOf program action).elim _ _ = some after.service
    exact service_moves effect

/-- A goroutine of the service does not call `Close`. -/
theorem uncalled_of_acts
    {party : Shutdown.Party} {action : ServiceAction DeviceInfo}
    (acts : party.acts action) : isCall action = false := by
  cases action with
  | callClose =>
      cases party with
      | supervisor => cases acts
      | loop id =>
          rcases acts with ⟨event, -, impossible⟩
          cases impossible
      | closer index => cases acts
  | _ => rfl

/-- As long as the program does not exit, it is cooperative to its service. -/
theorem cooperative_project
    {run : (programMachine settings).Run} (cooperative : Cooperative run)
    (alive : ∀ moment, (run.state moment).phase ≠ .exited) :
    Shutdown.Cooperative (run.project (serviceOf settings)) := by
  constructor
  · intro party
    refine Machine.Run.project_fair (serviceOf settings)
      (cooperative.fair (.service party)) ?_ ?_
    · rintro program action ⟨moved, rfl, acts⟩
      exact ⟨moved, rfl, acts⟩
    · rintro moment ⟨moved, next, acts, taken⟩
      have operated :
          (run.state moment).operate settings.timeout (.service moved) =
            some { run.state moment with service := next } := by
        show (if isCall moved = true then none else _) = _
        rw [uncalled_of_acts acts]
        exact congrArg
          (Option.map (fun next => { run.state moment with service := next }))
          taken
      exact enabled_of_operate ⟨moved, rfl, acts⟩ (alive moment) operated
  · intro id
    rcases cooperative.silent id with ⟨start, lawful⟩
    refine ⟨start, Machine.Run.project_lawful (serviceOf settings) lawful ?_⟩
    intro program action moved silent same raw read
    rw [read] at same
    cases action with
    | service other =>
        cases same
        exact silent _ rfl raw rfl
    | main =>
        simp only [serviceOf, moveOf] at same
        split at same <;> cases same
    | input message => cases same
    | command index instant => cases same
    | receive index => cases same

/-! ## The program exits -/

theorem exited_stays
    (run : (programMachine settings).Run) {moment later : Nat}
    (order : moment ≤ later)
    (exited : (run.state moment).phase = .exited) :
    (run.state later).phase = .exited := by
  refine
    @Machine.Run.stable _ _ _ run (fun program => program.phase = .exited) ?_
      moment later order exited
  intro program action next _ exited taken
  change program.step settings action = some next at taken
  rw [Program.step, exited] at taken
  cases taken

/-- `main` calls `Close` after the event loop has returned. -/
def calling (settings : Settings) :
    (programMachine settings).Progress anyAction Party.acts
      (fun program => program.phase = .returned)
      (fun program => ∃ call, program.phase = .closing call) where
  rank _ := 0
  helper _ := .main
  enabled program reached returned := by
    have alive : program.phase ≠ .exited := by
      rw [returned]
      intro impossible
      cases impossible
    have operated : program.operate settings.timeout .main =
        some
          { program with
            service := { program.service with
              closers := program.service.closers ++ [.entering] }
            phase := .closing program.service.closers.length } := by
      simp only [Program.operate, returned]
      rfl
    exact Or.inr (enabled_of_operate rfl alive operated)
  advances program action next reached returned _ taken := by
    rcases effect_of_step taken with ⟨after, effect, rfl⟩
    cases effect with
    | close returned called => exact Or.inl ⟨_, rfl⟩
    | service moved =>
        exact Or.inr ⟨returned, Or.inr ⟨rfl, rfl, by simp [Party.acts]⟩⟩
    | command located operation =>
        exact Or.inr ⟨returned, Or.inr ⟨rfl, rfl, by simp [Party.acts]⟩⟩
    | input running expected => cases running.symm.trans returned
    | receive running located => cases running.symm.trans returned
    | exit closing closed => cases closing.symm.trans returned

/-- `Close` has returned to `main`. -/
structure Closed (call : Nat) (program : Program) : Prop where
  phase : program.phase = .closing call
  returned : program.service.closers[call]? = some .returned

/-- A call which has returned stays returned. -/
theorem closer_returned_stays
    {timeout : Int} {service next : Service DeviceInfo}
    {action : ServiceAction DeviceInfo} {call : Nat}
    (taken : service.step timeout action = some next)
    (returned : service.closers[call]? = some .returned) :
    next.closers[call]? = some .returned := by
  rcases Shutdown.closer_of_step taken returned with ⟨-, kept⟩ | effect
  · exact kept
  · cases effect

/-- `main` returns after `Close` has. -/
def exiting (settings : Settings) (call : Nat) :
    (programMachine settings).Progress anyAction Party.acts (Closed call)
      (fun program => program.phase = .exited) where
  rank _ := 0
  helper _ := .main
  enabled program reached closed := by
    have alive : program.phase ≠ .exited := by
      rw [closed.phase]
      intro impossible
      cases impossible
    have operated : program.operate settings.timeout .main =
        some { program with phase := .exited } := by
      simp only [Program.operate, closed.phase, closed.returned]
    exact Or.inr (enabled_of_operate rfl alive operated)
  advances program action next reached closed _ taken := by
    rcases effect_of_step taken with ⟨after, effect, rfl⟩
    cases effect with
    | exit closing done => exact Or.inl rfl
    | service moved =>
        exact Or.inr ⟨⟨closed.phase,
            closer_returned_stays moved closed.returned⟩,
          Or.inr ⟨rfl, rfl, by simp [Party.acts]⟩⟩
    | command located operation =>
        exact Or.inr ⟨⟨closed.phase, closed.returned⟩,
          Or.inr ⟨rfl, rfl, by simp [Party.acts]⟩⟩
    | input running expected => cases running.symm.trans closed.phase
    | receive running located => cases running.symm.trans closed.phase
    | close returned called => cases returned.symm.trans closed.phase

/-- While `main` waits for `Close`, it leaves this state only by exiting. -/
theorem closing_stays
    (run : (programMachine settings).Run)
    (alive : ∀ moment, (run.state moment).phase ≠ .exited)
    {moment later call : Nat} (order : moment ≤ later)
    (closing : (run.state moment).phase = .closing call) :
    (run.state later).phase = .closing call := by
  have either : (run.state later).phase = .closing call ∨
      (run.state later).phase = .exited := by
    refine
      @Machine.Run.stable _ _ _ run
        (fun program =>
          program.phase = .closing call ∨ program.phase = .exited) ?_
        moment later order (Or.inl closing)
    intro program action next _ either taken
    rcases effect_of_step taken with ⟨after, effect, rfl⟩
    rcases either with closing | exited
    · cases effect with
      | service moved => exact Or.inl closing
      | command located operation => exact Or.inl closing
      | exit waiting done => exact Or.inr rfl
      | input running expected => cases running.symm.trans closing
      | receive running located => cases running.symm.trans closing
      | close returned called => cases returned.symm.trans closing
    · change program.step settings action = some _ at taken
      rw [Program.step, exited] at taken
      cases taken
  exact either.resolve_right (alive later)

/-- Where `main` waits for `Close` it has called it, and `Close` has returned. -/
structure Calls (program : Program) : Prop where
  called : ∀ call, program.phase = .closing call →
    ∃ point, program.service.closers[call]? = some point
  stopped : program.phase = .exited → program.service.stopped = true

theorem Calls.handle
    {program : Program} (running : program.phase = .running)
    (message : Msg) : Calls (program.handle message) := by
  have phase : (program.handle message).phase = .running ∨
      (program.handle message).phase = .returned := by
    cases message with
    | quit => exact Or.inr rfl
    | _ => exact Or.inl running
  constructor
  · intro call closing
    rw [closing] at phase
    rcases phase with impossible | impossible <;> cases impossible
  · intro exited
    rw [exited] at phase
    rcases phase with impossible | impossible <;> cases impossible

theorem calls_of_reachable
    {program : Program} (reached : (programMachine settings).Reachable program) :
    Calls program := by
  refine
    @Machine.Reachable.invariant _ _ (programMachine settings) Calls program
      reached ⟨?_, ?_⟩ ?_
  · intro call impossible
    cases impossible
  · intro impossible
    cases impossible
  · intro program action next before calls taken
    rcases effect_of_step taken with ⟨after, effect, rfl⟩
    have kept : Calls after := by
      cases effect with
      | input running expected => exact Calls.handle running _
      | receive running located =>
          exact @Calls.handle
            { program with commands := program.commands.set _ .done }
            running _
      | command located operation => exact ⟨calls.called, calls.stopped⟩
      | service moved =>
          constructor
          · intro call closing
            exact Shutdown.called_of_step moved (calls.called call closing)
          · intro exited
            exact stopped_of_transition (Service.transition_of_step moved)
              (calls.stopped exited)
      | close returned called =>
          cases called
          constructor
          · intro call closing
            cases closing
            exact ⟨.entering, List.getElem?_concat_length⟩
          · intro impossible
            cases impossible
      | exit closing closed =>
          constructor
          · intro call impossible
            cases impossible
          · intro _
            exact (halted_of_reachable (serviceReachable before).now).returned
              _ closed
    exact ⟨kept.called, kept.stopped⟩

/-- When `Close` is under way, the program exits. -/
theorem exits_of_closing
    {run : (programMachine settings).Run} (cooperative : Cooperative run)
    {moment call : Nat}
    (closing : (run.state moment).phase = .closing call) :
    ∃ later, moment ≤ later ∧ (run.state later).phase = .exited := by
  by_cases ever : ∃ other, (run.state other).phase = .exited
  · rcases ever with ⟨other, exited⟩
    exact ⟨max moment other, Nat.le_max_left _ _,
      exited_stays run (Nat.le_max_right _ _) exited⟩
  · have alive : ∀ other, (run.state other).phase ≠ .exited :=
      fun other exited => ever ⟨other, exited⟩
    rcases (calls_of_reachable (run.reachable moment)).called call closing with
      ⟨point, located⟩
    have called : call < (run.state moment).service.closers.length :=
      (List.getElem?_eq_some_iff.mp located).1
    rcases
        Shutdown.returned_eventually (cooperative_project cooperative alive)
          called with
      ⟨later, order, -, returned⟩
    rcases
        (exiting settings call).reaches run cooperative.fair
          (fun _ _ _ _ => trivial)
          ⟨closing_stays run alive order closing, returned⟩ with
      ⟨final, after, exited⟩
    exact ⟨final, order.trans after, exited⟩

/-- Once the event loop does not run any more, the program exits. -/
theorem exits_of_returned
    {run : (programMachine settings).Run} (cooperative : Cooperative run)
    {moment : Nat} (returned : (run.state moment).phase ≠ .running) :
    ∃ later, moment ≤ later ∧ (run.state later).phase = .exited := by
  cases phase : (run.state moment).phase with
  | running => exact (returned phase).elim
  | exited => exact ⟨moment, Nat.le_refl _, phase⟩
  | closing call => exact exits_of_closing cooperative phase
  | returned =>
      rcases
          (calling settings).reaches run cooperative.fair
            (fun _ _ _ _ => trivial) phase with
        ⟨later, order, call, closing⟩
      rcases exits_of_closing cooperative closing with ⟨final, after, exited⟩
      exact ⟨final, order.trans after, exited⟩

/-- The user, or a signal, asks the program to quit. -/
def asksToQuit : Msg → Bool
  | .key name => name = "q" || name = "ctrl+c" || name = "esc"
  | .quit => true
  | _ => false

/-- Asked to quit, the program leaves the event loop or starts a command. -/
theorem quitting_of_asked
    {program next : Program} {message : Msg}
    (asks : asksToQuit message = true)
    (taken : program.step settings (.input message) = some next) :
    next.phase ≠ .running ∨ ∃ index, Quitting index next := by
  rcases effect_of_step taken with ⟨after, effect, rfl⟩
  cases effect with
  | input running expected =>
      cases message with
      | quit =>
          refine Or.inl ?_
          intro impossible
          cases impossible
      | key name =>
          have pressed : name = "q" ∨ name = "ctrl+c" ∨ name = "esc" := by
            simpa [asksToQuit, or_assoc] using asks
          refine Or.inr ⟨program.commands.length, running, Or.inl ?_⟩
          show (program.handle (.key name)).commands[program.commands.length]? =
            some .quitting
          simp only [Program.handle, update, if_pos pressed]
          exact List.getElem?_concat_length
      | windowSize width height => cases asks
      | refreshNow => cases asks
      | refreshResult result => cases asks

/--
A program which was asked to quit, by a key or by a signal, exits in every run
in which everybody acts again and again as long as he can and no closed
transport returns reports for ever.  In no run does it exit before its service
is shut down.
-/
theorem program_exits
    (settings : Settings) (run : (programMachine settings).Run) :
    (∀ moment, (run.state moment).phase = .exited →
      ShutDown (run.state moment).service) ∧
    (Cooperative run → ∀ moment message,
      run.action moment = some (.input message) →
      asksToQuit message = true →
        ∃ later, moment ≤ later ∧ (run.state later).phase = .exited) := by
  constructor
  · intro moment exited
    have reached := run.reachable moment
    exact shutDown_of_stopped (serviceReachable reached).now
      ((calls_of_reachable reached).stopped exited)
  · intro cooperative moment message asked asks
    rcases run.cases moment with ⟨passed, -⟩ | ⟨action, acted, taken⟩
    · rw [asked] at passed
      cases passed
    · obtain rfl : ProgramAction.input message = action :=
        Option.some.inj (asked.symm.trans acted)
      rcases quitting_of_asked asks taken with returned | ⟨index, quits⟩
      · rcases exits_of_returned cooperative returned with
          ⟨later, order, exited⟩
        exact ⟨later, (Nat.le_succ moment).trans order, exited⟩
      · rcases
            (quitting settings index).reaches run cooperative.fair
              (fun _ _ _ _ => trivial) quits with
          ⟨middle, first, returned⟩
        rcases exits_of_returned cooperative returned with
          ⟨later, second, exited⟩
        exact ⟨later, (Nat.le_succ moment).trans (first.trans second), exited⟩

/-- The key is pressed while a session is served. -/
theorem program_exits_pressed :
    ∃ (run : (programMachine flags).Run) (moment later : Nat),
      (run.state moment).service.active = some 0 ∧
      moment ≤ later ∧ (run.state later).phase = .exited ∧
        ShutDown (run.state later).service := by
  rcases exists_pressed with ⟨run, cooperative, active, pressed⟩
  rcases (program_exits flags run).2 cooperative _ _ pressed rfl with
    ⟨later, order, exited⟩
  exact ⟨run, _, later, active, order, exited,
    (program_exits flags run).1 later exited⟩

end Pareader.Host.ProgramRuns
