import Pareader.Core.TwoLoads
import Pareader.Host.Ownership

/-!
# The getters of a service

A getter of `Service` loads the pointer to the published session and then reads
that session, or loads the last error.  The supervisor and the read loops go on
in between, so that the session may be detached, and even another one be
published, before the second load.

What a getter returns is nevertheless what one atomic look at the service would
have returned at some moment of the call: a detached session shows no card any
more, and a service which publishes a session has forgotten its last error.
-/

namespace Pareader.Host.Getters

open Pareader.Core
open Pareader.Host.Protocol
open Pareader.Host.Sessions
open Pareader.Host.Supervision
open Pareader.Host.Ownership

variable {Info : Type}

/-! ## The two loads of each getter -/

/-- The session which was loaded from `active`, as it is later. -/
def loaded (first later : Service Info) : Option Session :=
  first.active.bind (later.sessions[·]?)

/-- `CurrentCard`, with its loads at two moments. -/
def currentCard (first later : Service Info) : Card :=
  match loaded first later with
  | none => Card.none
  | some session => session.currentCard

/-- `AimeID`, with its loads at two moments. -/
def aimeID (first later : Service Info) : Option (Vector Byte 10) :=
  (loaded first later).bind Session.aimeID

/-- `MIFAREBlocks`, with its loads at two moments. -/
def mifareBlocks (first later : Service Info) : Option (Vector Byte 32) :=
  (loaded first later).bind Session.mifareBlocks

/-- `FeliCaID`, with its loads at two moments. -/
def feliCaID (first later : Service Info) : Option UInt64 :=
  (loaded first later).bind Session.feliCaID

/-- `Err`, with its loads at two moments. -/
def err (first later : Service Info) : Option GoError :=
  if first.active.isSome then
    none
  else
    some (later.lastErr.getD (.code .disconnected))

/-- The other getters of the card are functions of the current one. -/
theorem aimeID_eq (first later : Service Info) :
    aimeID first later = (currentCard first later).aimeID := by
  unfold aimeID currentCard
  cases loaded first later <;> rfl

theorem mifareBlocks_eq (first later : Service Info) :
    mifareBlocks first later = (currentCard first later).mifareBlocks := by
  unfold mifareBlocks currentCard
  cases loaded first later <;> rfl

theorem feliCaID_eq (first later : Service Info) :
    feliCaID first later = (currentCard first later).feliCaID := by
  unfold feliCaID currentCard
  cases loaded first later <;> rfl

/-! ## The card of a detached session is frozen -/

/-- Read the card of a session. -/
def cardAt (active : Option Nat) (service : Service Info) : Card :=
  match active.bind (service.sessions[·]?) with
  | none => Card.none
  | some session => session.currentCard

/-- `CurrentCard` -/
def cardRead (Info : Type) : TwoLoads (Service Info) (Option Nat) Card where
  key service := service.active
  value := cardAt

/-- The read loop of the session has ended. -/
def Detached (service : Service Info) : Option Nat → Prop
  | none => True
  | some id =>
      OfSession service.sessions id (fun session => session.loop = .ended)

@[simp]
theorem storeError_active
    (service : Service Info) (failure : Option GoError) :
    (service.storeError failure).active = service.active := by
  cases failure <;> rfl

/-- An ended session shows no card. -/
theorem cardAt_of_ended
    {service : Service Info} (valid : service.SessionsValid) {id : Nat}
    (ended : OfSession service.sessions id (fun session =>
      session.loop = .ended)) :
    cardAt (some id) service = Card.none := by
  rcases ended with ⟨session, found, ended⟩
  have card := (invariant_of_reachable
    (valid.reachable session (List.mem_of_getElem? found))).card
  rw [Session.CardPoint, ended] at card
  rw [cardAt, Option.bind_some, found]
  show session.latest.getD Card.none = Card.none
  rw [card, Option.getD_some]

/-- The pointer to the session changes in two places. -/
theorem active_of_transition
    {timeout : Int} {service next : Service Info}
    {action : ServiceAction Info}
    (transition : service.Transition timeout action next)
    (changed : next.active ≠ service.active) :
    (∃ id, service.run = .storingActive id ∧
        next = { service with active := some id, run := .serving id }) ∨
      ∃ id, service.run = .detaching id ∧ next.active = none ∧
        next.sessions = service.sessions := by
  cases transition with
  | storesActive point => exact Or.inl ⟨_, point, rfl⟩
  | @detaches id point =>
      refine Or.inr ⟨id, point, ?_, rfl⟩
      by_cases published : service.active = some id
      · exact if_pos published
      · exact (changed (if_neg published)).elim
  | storesErr point => simp at changed
  | _ => exact (changed rfl).elim

/-- The pointer is only set when nothing is published. -/
theorem idle_of_storingActive
    {timeout : Int} {service : Service Info}
    (reached : (serviceMachine Info timeout).Reachable service) {id : Nat}
    (point : service.run = .storingActive id) :
    service.active = none ∧ service.lastErr = none := by
  have assertion := assertion_of_reachable reached
  rw [Service.Assertion, point] at assertion
  exact ⟨assertion.1, assertion.2.2⟩

/-- The pointer is only taken back where the session is published. -/
theorem published_of_detaching
    {timeout : Int} {service : Service Info}
    (reached : (serviceMachine Info timeout).Reachable service) {id : Nat}
    (point : service.run = .detaching id) :
    service.active = some id := by
  have assertion := assertion_of_reachable reached
  rw [Service.Assertion, point] at assertion
  exact assertion.1

def cardFrozen (Info : Type) (timeout : Int) :
    (cardRead Info).Frozen (serviceMachine Info timeout) where
  left key service := Detached service key
  leaves service action next reached taken changed := by
    rcases active_of_transition (Service.transition_of_step taken) changed with
      ⟨id, point, rfl⟩ | ⟨id, point, inactive, sessions⟩
    · have idle := (idle_of_storingActive reached point).1
      show Detached _ service.active ∧
        cardAt service.active _ = cardAt service.active service
      rw [idle]
      exact ⟨trivial, rfl⟩
    · have published := published_of_detaching reached point
      have ended := (owned_of_reachable reached).releasing
      rw [point] at ended
      show Detached next service.active ∧
        cardAt service.active next = cardAt service.active service
      rw [published]
      refine ⟨?_, ?_⟩
      · show OfSession next.sessions id _
        rw [sessions]
        exact ended
      · show cardAt (some id) next = cardAt (some id) service
        simp only [cardAt, sessions]
  stays key service action next reached left taken := by
    refine Or.inr ?_
    cases key with
    | none => exact ⟨trivial, rfl⟩
    | some id =>
        have later : OfSession next.sessions id (fun session =>
            session.loop = .ended) := by
          rcases left with ⟨session, found, ended⟩
          rcases
              (Service.transition_of_step taken).sessionsEffect.related
                Onward.refl (fun _ _ _ _ stepped => onward_of_step stepped)
                found with
            ⟨after, located, onward⟩
          exact ⟨after, located, onward.ended ended⟩
        refine ⟨later, ?_⟩
        show cardAt (some id) next = cardAt (some id) service
        rw [cardAt_of_ended (sessionsValid_of_reachable reached) left,
          cardAt_of_ended
            (sessionsValid_of_reachable (reached.step action taken)) later]

/-! ## The error of a published session is frozen -/

/-- Read the last error unless a session is published. -/
def errAt (active : Bool) (service : Service Info) : Option GoError :=
  if active then none else some (service.lastErr.getD (.code .disconnected))

/-- `Err` -/
def errRead (Info : Type) :
    TwoLoads (Service Info) Bool (Option GoError) where
  key service := service.active.isSome
  value := errAt

/-- While a session is published there is no last error. -/
theorem errAt_of_active
    {timeout : Int} {service : Service Info}
    (reached : (serviceMachine Info timeout).Reachable service)
    (active : service.active.isSome = true) :
    errAt false service = some (.code .disconnected) := by
  rcases Option.isSome_iff_exists.mp active with ⟨id, published⟩
  rcases (assertion_of_reachable reached).published published with
    ⟨⟨-, -, lastErr⟩, -⟩
  rw [errAt, lastErr]
  rfl

def errFrozen (Info : Type) (timeout : Int) :
    (errRead Info).Frozen (serviceMachine Info timeout) where
  left active service := active = true ∨ service.active.isSome = true
  leaves service action next reached taken changed := by
    have moved : next.active ≠ service.active :=
      fun same => changed (congrArg Option.isSome same)
    rcases active_of_transition (Service.transition_of_step taken) moved with
      ⟨id, point, rfl⟩ | ⟨id, point, inactive, sessions⟩
    · rcases idle_of_storingActive reached point with ⟨inactive, lastErr⟩
      show (service.active.isSome = true ∨ _) ∧
        errAt service.active.isSome _ =
          errAt service.active.isSome service
      rw [inactive]
      exact ⟨Or.inr rfl, rfl⟩
    · have published := published_of_detaching reached point
      show (service.active.isSome = true ∨ _) ∧
        errAt service.active.isSome next =
          errAt service.active.isSome service
      rw [published]
      exact ⟨Or.inl rfl, rfl⟩
  stays active service action next reached left taken := by
    cases active with
    | true => exact Or.inr ⟨Or.inl rfl, rfl⟩
    | false =>
        have before : service.active.isSome = true :=
          left.resolve_left Bool.false_ne_true
        cases after : next.active.isSome with
        | false => exact Or.inl after
        | true =>
            refine Or.inr ⟨Or.inr rfl, ?_⟩
            exact (errAt_of_active (reached.step action taken) after).trans
              (errAt_of_active reached before).symm

/-! ## Linearizability -/

/--
A getter whose first load is made in a reachable state and whose second load is
made any number of steps later returns what the atomic getter would have
returned at some moment in between.
-/
theorem getters_linearizable
    (Info : Type) (timeout : Int) (service later : Service Info)
    (reached : (serviceMachine Info timeout).Reachable service)
    (trace : List (ServiceAction Info))
    (replayed :
      (serviceMachine Info timeout).replay service trace = some later) :
    (∃ middle, (serviceMachine Info timeout).Passes service trace middle ∧
      currentCard service later = middle.currentCard ∧
      aimeID service later = middle.aimeID ∧
      mifareBlocks service later = middle.mifareBlocks ∧
      feliCaID service later = middle.feliCaID) ∧
    ∃ middle, (serviceMachine Info timeout).Passes service trace middle ∧
      err service later = middle.err := by
  constructor
  · rcases (cardFrozen Info timeout).linearizable reached trace replayed with
      ⟨middle, passes, same⟩
    have card : currentCard service later = currentCard middle middle :=
      same.symm
    refine ⟨middle, passes, card, ?_, ?_, ?_⟩
    · show aimeID service later = aimeID middle middle
      rw [aimeID_eq, aimeID_eq, card]
    · show mifareBlocks service later = mifareBlocks middle middle
      rw [mifareBlocks_eq, mifareBlocks_eq, card]
    · show feliCaID service later = feliCaID middle middle
      rw [feliCaID_eq, feliCaID_eq, card]
  · rcases (errFrozen Info timeout).linearizable reached trace replayed with
      ⟨middle, passes, same⟩
    exact ⟨middle, passes, same.symm⟩

/-- A session is lost and its error is stored, between the two loads. -/
def losing : List (ServiceAction Nat) :=
  [.session 0 (.readFails (.code .disconnected)), .session 0 .loop,
    .session 0 .loop, .session 0 .loop, .sessionDone, .run, .run, .run]

/-- The card of a session which is lost during the getter is not returned. -/
theorem getters_linearizable_lost :
    ∃ service later middle : Service Nat,
      service.aimeID = some #v[0, 0, 0, 0, 0, 0, 0, 0, 0, 1] ∧
      later.err = some (.code .disconnected) ∧
      (serviceMachine Nat 1000).Passes service losing middle ∧
      aimeID service later = middle.aimeID := by
  have passes :
      ((serviceMachine Nat 1000).replay (serviceMachine Nat 1000).start
        (connecting ++ [.session 0 (.read mifareReport), .session 0 .loop])).any
          (fun service =>
            decide (service.aimeID =
              some #v[0, 0, 0, 0, 0, 0, 0, 0, 0, 1]) &&
            ((serviceMachine Nat 1000).replay service losing).any
              (fun later =>
                decide (later.err = some (.code .disconnected)))) =
        true := by
    decide +kernel
  rcases (Option.any_eq_true _ _).mp passes with ⟨service, before, passed⟩
  rcases Bool.and_eq_true_iff.mp passed with ⟨present, continues⟩
  rcases (Option.any_eq_true _ _).mp continues with ⟨later, replayed, lost⟩
  rcases
      (getters_linearizable Nat 1000 service later
        (Machine.Reachable.start.replay _ before) losing replayed).1 with
    ⟨middle, passes, -, same, -⟩
  exact ⟨service, later, middle, of_decide_eq_true present,
    of_decide_eq_true lost, passes, same⟩

end Pareader.Host.Getters
