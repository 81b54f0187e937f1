import Pareader.Host.Display
import Pareader.Host.Exports

/-!
# The reader program

The event loop of the program receives one message after another, updates the
model and starts the next command.  Commands are goroutines of their own which
send one message each: a refresh asks the getters of the service one after
another, while the supervisor and the read loops of the service go on.

Of the library behind the event loop no more is taken over than it documents:
messages are received one at a time and in any order, each is passed to `Update`
once, the command which that returns runs in a goroutine of its own and sends
its result as a message, and the loop returns on `QuitMsg`.

There is always exactly one refresh under way, and what the display has been
told is a sequence of true samples of the service, in their order in time.
-/

namespace Pareader.Host.ReaderProgram

open Pareader.Core
open Pareader.Host.Protocol
open Pareader.Host.Sessions
open Pareader.Host.Supervision
open Pareader.Host.Ownership
open Pareader.Host.Getters
open Pareader.Host.Exports
open Pareader.Host.Discovery
open Pareader.Host.Display

/-! ## Commands -/

/-- The control points of a command; a refresh makes its loads one by one. -/
inductive Command where
  | loadingDevice
  | loadingActive (device : Option DeviceInfo)
  | loadingCard (device : Option DeviceInfo) (active : Nat)
  | checkingActive (device : Option DeviceInfo) (card : Card)
  | loadingErr (device : Option DeviceInfo) (card : Card)
  | sampled (device : Option DeviceInfo) (card : Card)
      (err : Option GoError)
  | ticking (interval : Int)
  | quitting
  | sending (message : Msg)
  | done

def Command.of : Cmd → Command
  | .refreshCardState => .loadingDevice
  | .tick interval => .ticking interval
  | .quit => .quitting

/-- One operation of a command; `instant` is the time of the moment. -/
def Command.operate (service : Service DeviceInfo) (instant : Int) :
    Command → Option Command
  | .loadingDevice => some (.loadingActive service.deviceInfo)
  | .loadingActive device =>
      match service.active with
      | none => some (.checkingActive device Card.none)
      | some id => some (.loadingCard device id)
  | .loadingCard device id =>
      some (.checkingActive device (cardAt (some id) service))
  | .checkingActive device card =>
      if service.active.isSome then
        some (.sampled device card none)
      else
        some (.loadingErr device card)
  | .loadingErr device card =>
      some (.sampled device card (errAt false service))
  | .sampled device card err =>
      some (.sending (.refreshResult ⟨card, device, err, instant⟩))
  | .ticking _ => some (.sending .refreshNow)
  | .quitting => some (.sending .quit)
  | .sending _ => none
  | .done => none

/-! ## The program -/

/-- Where `run` is, after it has started the program. -/
inductive Phase where
  | running
  | returned
  | closing (call : Nat)
  | exited

/--
The program and its service.  `results` are the refreshes which the event loop
has received, and `history` the states of the service at all moments so far,
both for the specification only.
-/
structure Program where
  service : Service DeviceInfo
  model : Model
  commands : List Command
  phase : Phase
  results : List RefreshResult
  history : List (Service DeviceInfo)

/-- What the flags of the program select. -/
structure Settings where
  vid : UInt16
  pid : UInt16
  timeout : Int
  interval : Int

def Settings.model (settings : Settings) : Model :=
  newModel
    { path := []
      vendorID := settings.vid
      productID := settings.pid
      serial := []
      manufacturer := []
      product := "PA Reader".toList }
    ⟨0, 1⟩ settings.interval

inductive ProgramAction where
  | service (action : ServiceAction DeviceInfo)
  | input (message : Msg)
  | command (index : Nat) (instant : Int)
  | receive (index : Nat)
  | main

/-- The user presses a key or resizes the window, or a signal asks to quit. -/
def isInput : Msg → Bool
  | .key _ => true
  | .windowSize _ _ => true
  | .quit => true
  | _ => false

/-- Only `main` calls `Close`. -/
def isCall : ServiceAction DeviceInfo → Bool
  | .callClose => true
  | _ => false

/-- The event loop returns on `QuitMsg`, and updates the model otherwise. -/
def Program.handle (program : Program) (message : Msg) : Program :=
  match message with
  | .quit => { program with phase := .returned }
  | .refreshResult result =>
      { program with
        model := (update program.model message).1
        commands :=
          program.commands ++
            (update program.model message).2.toList.map Command.of
        results := program.results ++ [result] }
  | _ =>
      { program with
        model := (update program.model message).1
        commands :=
          program.commands ++
            (update program.model message).2.toList.map Command.of }

def Program.operate (timeout : Int) (program : Program) :
    ProgramAction → Option Program
  | .service action =>
      if isCall action then
        none
      else
        (program.service.step timeout action).map
          (fun next => { program with service := next })
  | .input message =>
      match program.phase with
      | .running =>
          if isInput message then some (program.handle message) else none
      | _ => none
  | .command index instant =>
      (program.commands[index]?.bind
          (Command.operate program.service instant)).map
        (fun next =>
          { program with commands := program.commands.set index next })
  | .receive index =>
      match program.phase, program.commands[index]? with
      | .running, some (.sending message) =>
          some
            (Program.handle
              { program with commands := program.commands.set index .done }
              message)
      | _, _ => none
  | .main =>
      match program.phase with
      | .returned =>
          (program.service.step timeout .callClose).map
            (fun next =>
              { program with
                service := next
                phase := .closing program.service.closers.length })
      | .closing call =>
          match program.service.closers[call]? with
          | some .returned => some { program with phase := .exited }
          | _ => none
      | _ => none

/-- When `main` returns, the process ends. -/
def Program.step (settings : Settings) (program : Program)
    (action : ProgramAction) : Option Program :=
  match program.phase with
  | .exited => none
  | _ =>
      (program.operate settings.timeout action).map
        (fun next =>
          { next with history := program.history ++ [program.service] })

def Settings.program (settings : Settings) : Program where
  service := newService
  model := settings.model
  commands := [Command.of init]
  phase := .running
  results := []
  history := []

def programMachine (settings : Settings) :
    Machine Program ProgramAction where
  start := settings.program
  step := Program.step settings

/-! ## What a step can do -/

/-- Everything a step can do, besides recording the moment. -/
inductive Effect (settings : Settings) (program : Program) :
    ProgramAction → Program → Prop where
  | service {action : ServiceAction DeviceInfo} {next : Service DeviceInfo}
      (taken : program.service.step settings.timeout action = some next) :
      Effect settings program (.service action)
        { program with service := next }
  | input {message : Msg} (running : program.phase = .running)
      (expected : isInput message = true) :
      Effect settings program (.input message) (program.handle message)
  | command {index : Nat} {instant : Int} {point target : Command}
      (located : program.commands[index]? = some point)
      (operation :
        point.operate program.service instant = some target) :
      Effect settings program (.command index instant)
        { program with commands := program.commands.set index target }
  | receive {index : Nat} {message : Msg}
      (running : program.phase = .running)
      (located : program.commands[index]? = some (.sending message)) :
      Effect settings program (.receive index)
        (Program.handle
          { program with commands := program.commands.set index .done }
          message)
  | close {next : Service DeviceInfo} (returned : program.phase = .returned)
      (taken : program.service.step settings.timeout .callClose = some next) :
      Effect settings program .main
        { program with
          service := next
          phase := .closing program.service.closers.length }
  | exit {call : Nat} (closing : program.phase = .closing call)
      (closed : program.service.closers[call]? = some .returned) :
      Effect settings program .main { program with phase := .exited }

theorem effect_of_operate
    {settings : Settings} {program next : Program} {action : ProgramAction}
    (taken : program.operate settings.timeout action = some next) :
    Effect settings program action next := by
  cases action with
  | service action =>
      simp only [Program.operate] at taken
      split at taken
      · cases taken
      · rcases Option.map_eq_some_iff.mp taken with ⟨after, stepped, rfl⟩
        exact .service stepped
  | input message =>
      simp only [Program.operate] at taken
      split at taken
      · split at taken <;> cases taken
        exact .input ‹_› ‹_›
      · cases taken
  | command index instant =>
      rcases Option.map_eq_some_iff.mp taken with ⟨target, operated, rfl⟩
      rcases Option.bind_eq_some_iff.mp operated with
        ⟨point, located, operation⟩
      exact .command located operation
  | receive index =>
      simp only [Program.operate] at taken
      split at taken <;> cases taken
      exact .receive ‹_› ‹_›
  | main =>
      simp only [Program.operate] at taken
      split at taken
      · rcases Option.map_eq_some_iff.mp taken with ⟨after, stepped, rfl⟩
        exact .close ‹_› stepped
      · split at taken <;> cases taken
        exact .exit ‹_› ‹_›
      · cases taken

/-- Inversion: a step has an effect, and the moment is recorded. -/
theorem effect_of_step
    {settings : Settings} {program next : Program} {action : ProgramAction}
    (taken : program.step settings action = some next) :
    ∃ after, Effect settings program action after ∧
      next =
        { after with history := program.history ++ [program.service] } := by
  unfold Program.step at taken
  split at taken
  · cases taken
  · rcases Option.map_eq_some_iff.mp taken with ⟨after, operated, rfl⟩
    exact ⟨after, effect_of_operate operated, rfl⟩

/-! ## The service of a reachable program -/

@[simp]
theorem handle_service (program : Program) (message : Msg) :
    (program.handle message).service = program.service := by
  cases message <;> rfl

/-- A step of the program is at most one step of the service. -/
theorem service_of_effect
    {settings : Settings} {program next : Program} {action : ProgramAction}
    (effect : Effect settings program action next) :
    next.service = program.service ∨
      ∃ moved,
        (serviceMachine DeviceInfo settings.timeout).step program.service
          moved = some next.service := by
  cases effect with
  | service taken => exact Or.inr ⟨_, taken⟩
  | close returned taken => exact Or.inr ⟨.callClose, taken⟩
  | input running expected => exact Or.inl (handle_service _ _)
  | receive running located => exact Or.inl (handle_service _ _)
  | command located operation => exact Or.inl rfl
  | exit closing closed => exact Or.inl rfl

/-- The service, now and at all moments so far, is reachable. -/
structure ServiceReachable (settings : Settings) (program : Program) :
    Prop where
  now :
    (serviceMachine DeviceInfo settings.timeout).Reachable program.service
  before : ∀ service ∈ program.history,
    (serviceMachine DeviceInfo settings.timeout).Reachable service

theorem serviceReachable
    {settings : Settings} {program : Program}
    (reached : (programMachine settings).Reachable program) :
    ServiceReachable settings program := by
  refine
    @Machine.Reachable.invariant _ _ (programMachine settings)
      (ServiceReachable settings) program reached ⟨.start, by simp [
        programMachine, Settings.program]⟩ ?_
  intro program action next _ reachable taken
  rcases effect_of_step taken with ⟨after, effect, rfl⟩
  constructor
  · show (serviceMachine DeviceInfo settings.timeout).Reachable after.service
    rcases service_of_effect effect with same | ⟨moved, stepped⟩
    · rw [same]
      exact reachable.now
    · exact reachable.now.step moved stepped
  · intro service member
    rcases List.mem_append.mp member with earlier | here
    · exact reachable.before service earlier
    · rw [List.mem_singleton.mp here]
      exact reachable.now

/-! ## The loads of a refresh -/

/-- What the getters would have returned for a result. -/
def samplesOf (result : RefreshResult) :
    List (Service DeviceInfo → Prop) :=
  [fun service => service.deviceInfo = result.device,
    fun service => service.currentCard = result.card,
    fun service => service.err = result.err]

/-- What the loads which a command has completed would have returned. -/
def Command.loads : Command → List (Service DeviceInfo → Prop)
  | .loadingActive device => [fun service => service.deviceInfo = device]
  | .loadingCard device _ => [fun service => service.deviceInfo = device]
  | .checkingActive device card =>
      [fun service => service.deviceInfo = device,
        fun service => service.currentCard = card]
  | .loadingErr device card =>
      [fun service => service.deviceInfo = device,
        fun service => service.currentCard = card]
  | .sampled device card err =>
      [fun service => service.deviceInfo = device,
        fun service => service.currentCard = card,
        fun service => service.err = err]
  | .sending (.refreshResult result) => samplesOf result
  | _ => []

/-- What is known between the two loads of a getter. -/
def Command.Watches (timeout : Int) (history : List (Service DeviceInfo))
    (service : Service DeviceInfo) : Command → Prop
  | .loadingCard _ id =>
      (cardFrozen DeviceInfo timeout).Seen (some id) history service
  | .loadingErr _ _ =>
      (errFrozen DeviceInfo timeout).Seen false history service
  | _ => True

/-- The completed loads are samples of the history. -/
def Loaded (timeout : Int) (results : List RefreshResult)
    (history : List (Service DeviceInfo)) (service : Service DeviceInfo)
    (command : Command) : Prop :=
  ∃ before after, history = before ++ after ∧
    Samples (results.flatMap samplesOf ++ command.loads) before ∧
    command.Watches timeout after service

/-- A command is part of a refresh, or waits for the next one. -/
def Command.refreshes : Command → Bool
  | .quitting => false
  | .done => false
  | .sending (.key _) => false
  | .sending (.windowSize _ _) => false
  | .sending .quit => false
  | _ => true

/-- What was loaded stays loaded while others take steps. -/
theorem Loaded.idle
    {timeout : Int} {results : List RefreshResult}
    {history : List (Service DeviceInfo)}
    {service next : Service DeviceInfo} {command : Command}
    (loaded : Loaded timeout results history service command)
    (reached : (serviceMachine DeviceInfo timeout).Reachable service)
    (moves : next = service ∨ ∃ moved,
      (serviceMachine DeviceInfo timeout).step service moved = some next) :
    Loaded timeout results (history ++ [service]) next command := by
  rcases loaded with ⟨before, after, rfl, samples, watches⟩
  refine ⟨before, after ++ [service], List.append_assoc _ _ _, samples, ?_⟩
  rcases moves with rfl | ⟨moved, taken⟩
  · cases command with
    | loadingCard device id => exact watches.extend _
    | loadingErr device card => exact watches.extend _
    | _ => trivial
  · cases command with
    | loadingCard device id => exact watches.step reached taken
    | loadingErr device card => exact watches.step reached taken
    | _ => trivial

/-- A command which watches nothing knows its samples. -/
theorem Loaded.of_samples
    {timeout : Int} {results : List RefreshResult}
    {history : List (Service DeviceInfo)} {service : Service DeviceInfo}
    {command : Command}
    (samples :
      Samples (results.flatMap samplesOf ++ command.loads) history)
    (watches : command.Watches timeout [] service) :
    Loaded timeout results history service command :=
  ⟨history, [], (List.append_nil history).symm, samples, watches⟩

theorem Loaded.samples
    {timeout : Int} {results : List RefreshResult}
    {history : List (Service DeviceInfo)} {service : Service DeviceInfo}
    {command : Command}
    (loaded : Loaded timeout results history service command) :
    Samples (results.flatMap samplesOf ++ command.loads) history := by
  rcases loaded with ⟨before, after, rfl, samples, -⟩
  exact samples.extend after

/-- A refresh goes on until its message is sent. -/
theorem refreshes_of_operate
    {service : Service DeviceInfo} {instant : Int} {point target : Command}
    (refreshes : point.refreshes = true)
    (operation : point.operate service instant = some target) :
    target.refreshes = true := by
  cases point with
  | loadingActive device =>
      simp only [Command.operate] at operation
      split at operation <;> cases operation <;> rfl
  | checkingActive device card =>
      simp only [Command.operate] at operation
      split at operation <;> cases operation <;> rfl
  | quitting => cases refreshes
  | sending message => cases operation
  | done => cases operation
  | _ =>
      cases operation
      rfl

/-- What a command watches is the sample which its last load takes. -/
theorem samples_of_watched
    {results : List RefreshResult}
    {before after : List (Service DeviceInfo)}
    {service : Service DeviceInfo}
    {loads : List (Service DeviceInfo → Prop)}
    {test : Service DeviceInfo → Prop}
    (samples : Samples (results.flatMap samplesOf ++ loads) before)
    (passed : ∃ state ∈ after ++ [service], test state) :
    Samples (results.flatMap samplesOf ++ (loads ++ [test]))
      (before ++ after ++ [service]) := by
  rw [← List.append_assoc, List.append_assoc before]
  exact samples.concat passed

/-- The next load of a refresh is a sample of the present or of a past moment. -/
theorem Loaded.operate
    {timeout : Int} {results : List RefreshResult}
    {history : List (Service DeviceInfo)} {service : Service DeviceInfo}
    {command target : Command} {instant : Int}
    (loaded : Loaded timeout results history service command)
    (refreshes : command.refreshes = true)
    (operation : command.operate service instant = some target) :
    Loaded timeout results (history ++ [service]) service target := by
  have samples := loaded.samples
  -- One more load, which is a sample of the present state.
  have present : ∀ {test : Service DeviceInfo → Prop}, test service →
      Samples (results.flatMap samplesOf ++ (command.loads ++ [test]))
        (history ++ [service]) := by
    intro test holds
    rw [← List.append_assoc]
    exact samples.concat ⟨service, List.mem_singleton_self service, holds⟩
  cases command with
  | loadingDevice =>
      cases operation
      exact .of_samples (present rfl) trivial
  | loadingActive device =>
      simp only [Command.operate] at operation
      split at operation
      · rename_i inactive
        cases operation
        refine .of_samples (present ?_) trivial
        rw [Service.currentCard, inactive]
        rfl
      · rename_i id active
        cases operation
        exact .of_samples (samples.extend [service]) (Or.inl active)
  | loadingCard device id =>
      cases operation
      rcases loaded with ⟨before, after, rfl, earlier, watches⟩
      exact .of_samples (samples_of_watched earlier watches.sample) trivial
  | checkingActive device card =>
      simp only [Command.operate] at operation
      split at operation
      · rename_i active
        cases operation
        refine .of_samples (present ?_) trivial
        rw [Service.err, if_pos active]
      · rename_i inactive
        cases operation
        exact .of_samples (samples.extend [service])
          (Or.inl (Bool.not_eq_true _ ▸ inactive))
  | loadingErr device card =>
      cases operation
      rcases loaded with ⟨before, after, rfl, earlier, watches⟩
      exact .of_samples (samples_of_watched earlier watches.sample) trivial
  | sampled device card err =>
      cases operation
      exact .of_samples (samples.extend [service]) trivial
  | ticking interval =>
      cases operation
      exact .of_samples (samples.extend [service]) trivial
  | quitting => cases refreshes
  | sending message => cases operation
  | done => cases operation

/-! ## One refresh at a time -/

/-- One command refreshes, and its loads are samples. -/
structure Refreshing (timeout : Int) (program : Program) (index : Nat)
    (command : Command) : Prop where
  sole : Sole Command.refreshes program.commands index command
  loaded : Loaded timeout program.results program.history program.service
    command

/-- A message which does not belong to a refresh starts none. -/
theorem handle_of_quiet
    (program : Program) {message : Msg}
    (quiet : (Command.sending message).refreshes = false) :
    (program.handle message).results = program.results ∧
      ((program.handle message).commands = program.commands ∨
        (program.handle message).commands =
          program.commands ++ [.quitting]) := by
  cases message with
  | key name =>
      refine ⟨rfl, ?_⟩
      simp only [Program.handle, update]
      split
      · exact Or.inr rfl
      · exact Or.inl (List.append_nil _)
  | windowSize width height =>
      exact ⟨rfl, Or.inl (List.append_nil _)⟩
  | quit => exact ⟨rfl, Or.inl rfl⟩
  | refreshNow => cases quiet
  | refreshResult result => cases quiet

/-- Commands which do not refresh do not begin to. -/
theorem quiet_of_operate
    {service : Service DeviceInfo} {instant : Int} {point target : Command}
    (quiet : point.refreshes = false)
    (operation : point.operate service instant = some target) :
    target.refreshes = false := by
  cases point with
  | quitting =>
      cases operation
      rfl
  | done => cases operation
  | sending message => cases operation
  | _ => cases quiet

/-- After a quiet message the same command refreshes. -/
theorem Sole.handle
    {program : Program} {message : Msg} {index : Nat} {command : Command}
    (sole : Sole Command.refreshes program.commands index command)
    (quiet : (Command.sending message).refreshes = false) :
    Sole Command.refreshes (program.handle message).commands index
      command := by
  rcases (handle_of_quiet program quiet).2 with same | grown
  · rw [same]
    exact sole
  · rw [grown]
    exact sole.spawn rfl

/--
What a step does to the refresh which is under way: nothing, or one operation;
or its message is received, and the next command takes over.
-/
inductive Course (program : Program) (index : Nat) (command : Command) :
    ProgramAction → Program → Prop where
  | waits {action : ProgramAction} {after : Program}
      (sole : Sole Command.refreshes after.commands index command)
      (results : after.results = program.results)
      (commands : ∀ instant, action ≠ .command index instant)
      (receives : action ≠ .receive index) :
      Course program index command action after
  | operates {instant : Int} {target : Command}
      (operation : command.operate program.service instant = some target)
      (sole :
        Sole Command.refreshes (program.commands.set index target) index
          target) :
      Course program index command (.command index instant)
        { program with commands := program.commands.set index target }
  | renews {after : Program} (same : command = .sending .refreshNow)
      (sole :
        Sole Command.refreshes after.commands program.commands.length
          .loadingDevice)
      (results : after.results = program.results)
      (service : after.service = program.service) :
      Course program index command (.receive index) after
  | completes {after : Program} {result : RefreshResult}
      (same : command = .sending (.refreshResult result))
      (sole :
        Sole Command.refreshes after.commands program.commands.length
          (.ticking program.model.interval))
      (results : after.results = program.results ++ [result])
      (service : after.service = program.service) :
      Course program index command (.receive index) after

theorem course_of_effect
    {settings : Settings} {program after : Program} {action : ProgramAction}
    {index : Nat} {command : Command}
    (sole : Sole Command.refreshes program.commands index command)
    (effect : Effect settings program action after) :
    Course program index command action after := by
  cases effect with
  | service taken => exact .waits sole rfl (by simp) (by simp)
  | close returned taken => exact .waits sole rfl (by simp) (by simp)
  | exit closing closed => exact .waits sole rfl (by simp) (by simp)
  | @input message running expected =>
      have quiet : (Command.sending message).refreshes = false := by
        cases message <;> first | rfl | cases expected
      exact .waits (Sole.handle sole quiet) (handle_of_quiet program quiet).1
        (by simp) (by simp)
  | @command number instant point target located operation =>
      by_cases here : number = index
      · subst here
        obtain rfl : point = command :=
          Option.some.inj (located.symm.trans sole.located)
        have holds := refreshes_of_operate sole.holds operation
        exact .operates operation (sole.move holds)
      · have quiet : point.refreshes = false := by
          by_contra known
          exact here (sole.only number point located
            (Bool.not_eq_false _ ▸ known))
        exact .waits (sole.moveOther here (quiet_of_operate quiet operation))
          rfl (by simp [here]) (by simp)
  | @receive number message running located =>
      by_cases quiet : (Command.sending message).refreshes = false
      · have different : number ≠ index := by
          rintro rfl
          have same := Option.some.inj (located.symm.trans sole.located)
          rw [same, sole.holds] at quiet
          cases quiet
        exact .waits (Sole.handle (sole.moveOther different rfl) quiet)
          (handle_of_quiet _ quiet).1 (by simp) (by simp [different])
      · obtain rfl : number = index :=
          sole.only number _ located (Bool.not_eq_false _ ▸ quiet)
        obtain rfl : command = .sending message :=
          Option.some.inj (sole.located.symm.trans located)
        cases message with
        | refreshNow => exact .renews rfl (sole.handOver rfl rfl) rfl rfl
        | refreshResult result =>
            exact .completes rfl (sole.handOver rfl rfl) rfl rfl
        | key name => exact absurd rfl quiet
        | windowSize width height => exact absurd rfl quiet
        | quit => exact absurd rfl quiet

/-- A step keeps the refresh, moves it on, or hands it over. -/
theorem Refreshing.step
    {settings : Settings} {program after : Program} {action : ProgramAction}
    {index : Nat} {command : Command}
    (refreshing : Refreshing settings.timeout program index command)
    (reachable : ServiceReachable settings program)
    (effect : Effect settings program action after) :
    ∃ index command, Refreshing settings.timeout
      { after with history := program.history ++ [program.service] }
      index command := by
  have moves := service_of_effect effect
  rcases refreshing with ⟨sole, loaded⟩
  -- The next command has made no load yet.
  have fresh : ∀ {results : List RefreshResult} {next : Command}
      {service : Service DeviceInfo},
      results.flatMap samplesOf =
        program.results.flatMap samplesOf ++ command.loads →
      next.loads = [] → next.Watches settings.timeout [] service →
        Loaded settings.timeout results
          (program.history ++ [program.service]) service next := by
    intro results next service same none watches
    refine .of_samples ?_ watches
    rw [none, List.append_nil, same]
    exact loaded.samples.extend [program.service]
  cases course_of_effect sole effect with
  | waits sole results commands receives =>
      refine ⟨index, command, sole, ?_⟩
      show Loaded settings.timeout after.results _ after.service command
      rw [results]
      exact loaded.idle reachable.now moves
  | operates operation moved =>
      exact ⟨index, _, moved, loaded.operate sole.holds operation⟩
  | renews same handed results service =>
      subst same
      refine ⟨_, _, handed, ?_⟩
      show Loaded settings.timeout after.results _ after.service _
      rw [results]
      exact fresh (List.append_nil _).symm rfl trivial
  | completes same handed results service =>
      subst same
      refine ⟨_, _, handed, ?_⟩
      show Loaded settings.timeout after.results _ after.service _
      rw [results]
      refine fresh ?_ rfl trivial
      rw [List.flatMap_append, List.flatMap_singleton]
      rfl

theorem refreshing_of_reachable
    {settings : Settings} {program : Program}
    (reached : (programMachine settings).Reachable program) :
    ∃ index command, Refreshing settings.timeout program index command := by
  refine
    @Machine.Reachable.invariant _ _ (programMachine settings)
      (fun program =>
        ∃ index command, Refreshing settings.timeout program index command)
      program reached ?_ ?_
  · refine ⟨0, .loadingDevice, ⟨rfl, rfl, ?_⟩, .of_samples .nil trivial⟩
    intro other found located _
    exact Nat.lt_one_iff.mp (List.getElem?_eq_some_iff.mp located).1
  · rintro program action next before ⟨index, command, refreshing⟩ taken
    rcases effect_of_step taken with ⟨after, effect, rfl⟩
    exact refreshing.step (serviceReachable before) effect

/-! ## What the display shows -/

/-- A field of the latest result which is kept. -/
def latest {Value : Type} (keep : RefreshResult → Bool)
    (field : RefreshResult → Value) (default : Value)
    (results : List RefreshResult) : Value :=
  (results.filter keep).getLast?.elim default field

theorem latest_concat
    {Value : Type} (keep : RefreshResult → Bool)
    (field : RefreshResult → Value) (default : Value)
    (results : List RefreshResult) (result : RefreshResult) :
    latest keep field default (results ++ [result]) =
      if keep result then
        field result
      else
        latest keep field default results := by
  unfold latest
  rw [List.filter_append]
  split
  · rename_i kept
    rw [List.filter_cons_of_pos kept, List.filter_nil, List.getLast?_concat]
    rfl
  · rename_i dropped
    rw [List.filter_cons_of_neg dropped, List.filter_nil, List.append_nil]

/-- Whatever is shown was in some result, or is still the default. -/
theorem latest_cases
    {Value : Type} (keep : RefreshResult → Bool)
    (field : RefreshResult → Value) (default : Value)
    (results : List RefreshResult) :
    latest keep field default results = default ∨
      ∃ result ∈ results, keep result = true ∧
        latest keep field default results = field result := by
  unfold latest
  cases last : (results.filter keep).getLast? with
  | none => exact Or.inl rfl
  | some result =>
      rcases List.mem_filter.mp (List.mem_of_getLast? last) with
        ⟨member, kept⟩
      exact Or.inr ⟨result, member, kept, rfl⟩

/-- The result is without an error. -/
def good (result : RefreshResult) : Bool := decide (result.err = none)

/-- The result names a card. -/
def named (result : RefreshResult) : Bool :=
  good result && decide (cardIdentifier result.card ≠ [])

/-- The fields of the model as functions of all results so far. -/
structure Shows (settings : Settings) (results : List RefreshResult)
    (model : Model) : Prop where
  err : model.err = latest (fun _ => true) RefreshResult.err none results
  device : model.device =
    latest (fun result => result.device.isSome)
      (fun result => result.device.getD settings.model.device)
      settings.model.device results
  card : model.card = latest good RefreshResult.card Card.none results
  lastID : model.lastID =
    latest named (fun result => cardIdentifier result.card) [] results
  lastSeen : model.lastSeen = latest named RefreshResult.instant 0 results
  interval : model.interval = settings.interval

/-- The fields of the model after a refresh. -/
theorem refresh_eq (model : Model) (result : RefreshResult) :
    model.refresh result =
      { model with
        err := result.err
        device := result.device.getD model.device
        card := if good result then result.card else model.card
        lastID :=
          if named result then cardIdentifier result.card else model.lastID
        lastSeen :=
          if named result then result.instant else model.lastSeen } := by
  unfold Model.refresh named good
  by_cases failed : result.err = none
  · by_cases blank : cardIdentifier result.card = []
    · simp [failed, blank]
    · simp [failed, blank]
  · simp [failed]

theorem Shows.refresh
    {settings : Settings} {results : List RefreshResult} {model : Model}
    (shows : Shows settings results model) (result : RefreshResult) :
    Shows settings (results ++ [result]) (model.refresh result) := by
  rw [refresh_eq]
  constructor
  · rw [latest_concat]
    rfl
  · rw [latest_concat, ← shows.device]
    cases result.device <;> rfl
  · rw [latest_concat, ← shows.card]
  · rw [latest_concat, ← shows.lastID]
  · rw [latest_concat, ← shows.lastSeen]
  · exact shows.interval

/-- Messages other than results leave all this alone. -/
theorem Shows.handle
    {settings : Settings} {program : Program}
    (shows : Shows settings program.results program.model)
    (message : Msg) :
    Shows settings (program.handle message).results
      (program.handle message).model := by
  cases message with
  | key name =>
      simp only [Program.handle, update]
      split <;> exact shows
  | windowSize width height => exact ⟨shows.err, shows.device, shows.card,
      shows.lastID, shows.lastSeen, shows.interval⟩
  | refreshNow => exact shows
  | refreshResult result => exact shows.refresh result
  | quit => exact shows

theorem shows_of_reachable
    {settings : Settings} {program : Program}
    (reached : (programMachine settings).Reachable program) :
    Shows settings program.results program.model := by
  refine
    @Machine.Reachable.invariant _ _ (programMachine settings)
      (fun program => Shows settings program.results program.model)
      program reached ⟨rfl, rfl, rfl, rfl, rfl, rfl⟩ ?_
  intro program action next _ shows taken
  rcases effect_of_step taken with ⟨after, effect, rfl⟩
  show Shows settings after.results after.model
  cases effect with
  | input running expected => exact shows.handle _
  | receive running located =>
      exact
        @Shows.handle settings
          { program with commands := program.commands.set _ .done } shows _
  | service taken => exact shows
  | command located operation => exact shows
  | close returned taken => exact shows
  | exit closing closed => exact shows

/-! ## Samples of the service -/

/-- The history is the one of the trace. -/
theorem history_of_replay
    {settings : Settings} {program : Program} {trace : List ProgramAction}
    (replayed :
      (programMachine settings).replay (programMachine settings).start
        trace = some program) :
    program.history =
      ((programMachine settings).states (programMachine settings).start
        trace).map Program.service := by
  refine @Machine.recorded_states _ _ (programMachine settings) _
    Program.service Program.history ?_ _ _ _ rfl replayed
  intro program action next taken
  rcases effect_of_step taken with ⟨after, -, rfl⟩
  rfl

/--
Over every trace of the program there is exactly one refresh under way; the
results which the display has received are, in their order, what the getters
would have returned at successive moments; and the display shows the error of
the latest result, the card of the latest one without an error, and the
identifier and the device of the latest ones which name a card and a device.
-/
theorem display_samples
    (settings : Settings) (trace : List ProgramAction) (program : Program)
    (replayed :
      (programMachine settings).replay (programMachine settings).start
        trace = some program) :
    (∃! index : Nat, ∃ command : Command,
      program.commands[index]? = some command ∧
        command.refreshes = true) ∧
    Samples (program.results.flatMap samplesOf)
      (((programMachine settings).states (programMachine settings).start
        trace).map Program.service) ∧
    Shows settings program.results program.model := by
  have reached : (programMachine settings).Reachable program :=
    Machine.Reachable.start.replay trace replayed
  rcases refreshing_of_reachable reached with ⟨index, command, refreshing⟩
  refine ⟨⟨index, ⟨command, refreshing.sole.located,
    refreshing.sole.holds⟩, ?_⟩, ?_, shows_of_reachable reached⟩
  · rintro other ⟨found, located, refreshes⟩
    exact refreshing.sole.only other found located refreshes
  · rw [← history_of_replay replayed]
    exact refreshing.loaded.samples.left

/-- A reader which answers its version query. -/
def pareader : DeviceInfo where
  path := ['p']
  vendorID := 0x5041
  productID := 0x5245
  serial := []
  manufacturer := []
  product := []

def flags : Settings := ⟨0x5041, 0x5245, 1000, 100⟩

/-- A reader connects, a card is put down, and one refresh is displayed. -/
def reading : List ProgramAction :=
  [.service .run, .service (.opens pareader), .service .run, .service .run,
    .service .run, .service .run, .service .writes,
    .service (.session 0 (.read versionResponse)),
    .service (.session 0 .loop), .service (.session 0 .loop),
    .service (.session 0 .loop), .service (.session 0 .loop),
    .service (.session 0 .loop), .service .responds, .service .run,
    .service .run, .service .run, .service (.session 0 (.read mifareReport)),
    .service (.session 0 .loop), .command 0 0, .command 0 0, .command 0 0,
    .command 0 0, .command 0 7, .receive 0]

theorem display_samples_read :
    ∃ program : Program,
      program.model.lastID.length = 20 ∧ program.model.lastSeen = 7 ∧
      Samples (program.results.flatMap samplesOf)
        (((programMachine flags).states (programMachine flags).start
          reading).map Program.service) ∧
      program.model.device =
        latest (fun result => result.device.isSome)
          (fun result => result.device.getD flags.model.device)
          flags.model.device program.results := by
  have shown :
      ((programMachine flags).replay (programMachine flags).start
        reading).any
          (fun program =>
            decide (program.model.lastID.length = 20) &&
              decide (program.model.lastSeen = 7)) = true := by
    decide +kernel
  rcases (Option.any_eq_true _ _).mp shown with ⟨program, replayed, shown⟩
  rcases Bool.and_eq_true_iff.mp shown with ⟨length, instant⟩
  rcases display_samples flags reading program replayed with
    ⟨-, samples, shows⟩
  exact ⟨program, of_decide_eq_true length, of_decide_eq_true instant,
    samples, shows.device⟩

/-! ## What is shown was reported -/

/-- A result is a sample of reachable states of the history. -/
theorem sampled_of_mem
    {settings : Settings} {program : Program}
    (reached : (programMachine settings).Reachable program)
    {result : RefreshResult} (member : result ∈ program.results) :
    (∃ service ∈ program.history,
      (serviceMachine DeviceInfo settings.timeout).Reachable service ∧
        service.currentCard = result.card) ∧
    ∃ service ∈ program.history, service.err = result.err := by
  rcases refreshing_of_reachable reached with ⟨index, command, refreshing⟩
  have samples := refreshing.loaded.samples.left
  constructor
  · rcases
        samples.exists_of_mem
          (List.mem_flatMap.mpr ⟨result, member,
            .tail _ (.head _)⟩) with
      ⟨service, inside, card⟩
    exact ⟨service, inside, (serviceReachable reached).before service inside,
      card⟩
  · exact
      samples.exists_of_mem
        (List.mem_flatMap.mpr ⟨result, member,
          .tail _ (.tail _ (.head _))⟩)

/-- The card in the model is absent, or has been reported. -/
theorem reported_card
    {settings : Settings} {program : Program}
    (reached : (programMachine settings).Reachable program)
    {result : RefreshResult} (member : result ∈ program.results)
    (present : result.card ≠ Card.none) :
    ∃ service ∈ program.history, Reported service result.card := by
  rcases (sampled_of_mem reached member).1 with
    ⟨service, inside, known, card⟩
  refine ⟨service, inside, ?_⟩
  rw [← card] at present ⊢
  exact reported_of_present known present

/-- While an error is stored, no session is published. -/
theorem inactive_of_err
    {service : Service DeviceInfo} {failure : GoError}
    (failed : service.err = some failure) : service.active = none := by
  unfold Service.err at failed
  split at failed
  · cases failed
  · rename_i inactive
    exact Option.not_isSome_iff_eq_none.mp inactive

theorem read_of_status
    {errorText : GoError → List Char} {model : Model}
    (status : (view errorText model).status = "已读取") :
    model.err = none ∧ model.card ≠ Card.none ∧
      (view errorText model).identifier = cardIdentifier model.card := by
  change (model.cardLines errorText).1 = "已读取" at status
  show _ ∧ _ ∧ (model.cardLines errorText).2.2 = cardIdentifier model.card
  unfold Model.cardLines at status ⊢
  cases failed : model.err with
  | some failure =>
      rw [failed] at status
      exact absurd (show "读取异常" = "已读取" from status) (by decide)
  | none =>
      rw [failed] at status
      cases type : model.card.type with
      | none =>
          rw [type] at status
          exact absurd (show "等待卡片" = "已读取" from status) (by decide)
      | mifare =>
          refine ⟨rfl, ?_, rfl⟩
          intro absent
          rw [absent] at type
          cases type
      | felica =>
          refine ⟨rfl, ?_, ?_⟩
          · intro absent
            rw [absent] at type
            cases type
          · rw [cardIdentifier, type]

theorem failed_of_status
    {errorText : GoError → List Char} {model : Model}
    (status : (view errorText model).status = "读取异常") :
    ∃ failure, model.err = some failure ∧
      (view errorText model).identifier = errorText failure := by
  change (model.cardLines errorText).1 = "读取异常" at status
  show ∃ failure, _ ∧ (model.cardLines errorText).2.2 = errorText failure
  unfold Model.cardLines at status ⊢
  cases failed : model.err with
  | some failure => exact ⟨failure, rfl, rfl⟩
  | none =>
      rw [failed] at status
      cases type : model.card.type <;> rw [type] at status <;>
        simp at status

theorem fields_of_lastRead
    {errorText : GoError → List Char} {model : Model}
    {identifier : List Char} {instant : Int}
    (read : (view errorText model).lastRead = some (identifier, instant)) :
    model.lastID ≠ [] ∧ model.lastID = identifier := by
  simp only [view] at read
  split at read
  · rename_i shown
    exact ⟨shown.2.1, (Prod.mk.inj (Option.some.inj read)).1⟩
  · cases read

theorem cardIdentifier_none : cardIdentifier Card.none = [] :=
  rfl

/-- The card in the model is that of a result which has shown one. -/
theorem Shows.card_reported
    {settings : Settings} {program : Program}
    (shows : Shows settings program.results program.model)
    (reached : (programMachine settings).Reachable program)
    (present : program.model.card ≠ Card.none) :
    ∃ service ∈ program.history, Reported service program.model.card := by
  have card := shows.card
  rcases latest_cases good RefreshResult.card Card.none program.results with
    absent | ⟨result, member, -, same⟩
  · exact (present (card.trans absent)).elim
  · rw [card.trans same] at present ⊢
    exact reported_card reached member present

/-- An identifier in the model is that of a card which has been reported. -/
theorem Shows.lastID_reported
    {settings : Settings} {program : Program}
    (shows : Shows settings program.results program.model)
    (reached : (programMachine settings).Reachable program)
    (present : program.model.lastID ≠ []) :
    ∃ service ∈ program.history, ∃ card, Reported service card ∧
      program.model.lastID = cardIdentifier card := by
  have last := shows.lastID
  rcases
      latest_cases named (fun result => cardIdentifier result.card) []
        program.results with
    absent | ⟨result, member, -, same⟩
  · exact (present (last.trans absent)).elim
  · have shown : program.model.lastID = cardIdentifier result.card :=
      last.trans same
    have known : result.card ≠ Card.none := by
      intro absent
      rw [shown, absent] at present
      exact present cardIdentifier_none
    rcases reported_card reached member known with
      ⟨service, inside, reported⟩
    exact ⟨service, inside, result.card, reported, shown⟩

/-- An error in the model has been the error of the service. -/
theorem Shows.err_given
    {settings : Settings} {program : Program}
    (shows : Shows settings program.results program.model)
    (reached : (programMachine settings).Reachable program)
    {failure : GoError} (failed : program.model.err = some failure) :
    ∃ service ∈ program.history, service.err = some failure := by
  have err := shows.err
  rcases
      latest_cases (fun _ => true) RefreshResult.err none
        program.results with
    absent | ⟨result, member, -, same⟩
  · rw [err.trans absent] at failed
    cases failed
  · rcases (sampled_of_mem reached member).2 with ⟨service, inside, given⟩
    exact ⟨service, inside,
      given.trans (same.symm.trans (err.symm.trans failed))⟩

/--
Whatever the screen shows goes back to a moment of the run: a card which is
present, or was read last, to one at which a verified session had received it in
a valid card state; an error to one at which the service had no session and gave
this error.
-/
theorem displayed_reported
    (settings : Settings) (errorText : GoError → List Char)
    (trace : List ProgramAction) (program : Program)
    (replayed :
      (programMachine settings).replay (programMachine settings).start
        trace = some program) :
    ((view errorText program.model).status = "已读取" →
      ∃ state ∈ (programMachine settings).states
          (programMachine settings).start trace,
        ∃ card, Reported state.service card ∧
          (view errorText program.model).identifier =
            cardIdentifier card) ∧
    (∀ identifier instant,
      (view errorText program.model).lastRead = some (identifier, instant) →
        ∃ state ∈ (programMachine settings).states
            (programMachine settings).start trace,
          ∃ card, Reported state.service card ∧
            identifier = cardIdentifier card) ∧
    ((view errorText program.model).status = "读取异常" →
      ∃ state ∈ (programMachine settings).states
          (programMachine settings).start trace,
        state.service.active = none ∧
        ∃ failure, state.service.err = some failure ∧
          (view errorText program.model).identifier = errorText failure) := by
  have reached : (programMachine settings).Reachable program :=
    Machine.Reachable.start.replay trace replayed
  have shows := shows_of_reachable reached
  have passed : ∀ service ∈ program.history,
      ∃ state ∈ (programMachine settings).states
        (programMachine settings).start trace, state.service = service := by
    intro service member
    rw [history_of_replay replayed] at member
    exact List.mem_map.mp member
  refine ⟨?_, ?_, ?_⟩
  · intro status
    rcases read_of_status status with ⟨-, present, identifier⟩
    rcases shows.card_reported reached present with
      ⟨service, inside, reported⟩
    rcases passed service inside with ⟨state, known, rfl⟩
    exact ⟨state, known, program.model.card, reported, identifier⟩
  · intro identifier instant read
    rcases fields_of_lastRead read with ⟨present, rfl⟩
    rcases shows.lastID_reported reached present with
      ⟨service, inside, card, reported, same⟩
    rcases passed service inside with ⟨state, known, rfl⟩
    exact ⟨state, known, card, reported, same⟩
  · intro status
    rcases failed_of_status status with ⟨failure, failed, identifier⟩
    rcases shows.err_given reached failed with ⟨service, inside, given⟩
    rcases passed service inside with ⟨state, known, rfl⟩
    exact ⟨state, known, inactive_of_err given, failure, given, identifier⟩

theorem displayed_reported_read :
    ∃ state ∈ (programMachine flags).states (programMachine flags).start
      reading, ∃ card, Reported state.service card ∧
        (cardIdentifier card).length = 20 := by
  have shown :
      ((programMachine flags).replay (programMachine flags).start
        reading).any
          (fun program =>
            decide ((view (fun _ => []) program.model).status = "已读取") &&
              decide
                ((view (fun _ => []) program.model).identifier.length =
                  20)) = true := by
    decide +kernel
  rcases (Option.any_eq_true _ _).mp shown with ⟨program, replayed, shown⟩
  rcases Bool.and_eq_true_iff.mp shown with ⟨status, length⟩
  rcases
      (displayed_reported flags (fun _ => []) reading program replayed).1
        (of_decide_eq_true status) with
    ⟨state, passed, card, reported, identifier⟩
  have sized := of_decide_eq_true length
  rw [identifier] at sized
  exact ⟨state, passed, card, reported, sized⟩

end Pareader.Host.ReaderProgram
