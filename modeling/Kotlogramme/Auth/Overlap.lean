/-
Login calls that overlap.

A call holds the lock only while it takes the pending token and while it writes
what Telegram's answer left; in between other calls run.  Each token carries the
number of code requests and sign-outs that were complete when the code it stems
from was stored.
-/

import Kotlogramme.Auth.Login
import Mathlib.Logic.Function.Basic

namespace Kotlogramme.Auth
namespace Overlap

open Fallible

/-! ### The lock sections of the operations -/

section Sections

variable {κ ω υ : Type}

/-- `request_login_code` from the answer on. -/
def concludeLoginCode (phone : String) :
    Except String κ → Stateful (Authentication κ ω) String
  | .error message => throw message
  | .ok token => do
      let _ ← replaceState (.loginCode token)
      return phone

/-- `check_password` from the answer on, which leaves the state alone. -/
def concludePassword : Except String υ → Stateful (Authentication κ ω) υ
  | .ok user => return user
  | .error message => throw message

theorem requestLoginCode_eq (payload : Except String String) (answer : Except String κ) :
    (requestLoginCode payload answer : Stateful (Authentication κ ω) String) =
      parsePayload payload >>= fun phone => concludeLoginCode phone answer := by
  cases answer <;> rfl

theorem signIn_eq (payload : Except String String) (answer : Except (SignInError ω) υ) :
    (signIn payload answer : Stateful (Authentication κ ω) (SignInResult υ)) =
      takeLoginCode payload >>= fun taken => concludeSignIn taken.1 answer :=
  rfl

theorem checkPassword_eq (payload : Except String String) (answer : Except String υ) :
    (checkPassword payload answer : Stateful (Authentication κ ω) υ) =
      takePassword payload >>= fun _ => concludePassword answer := by
  cases answer <;> rfl

end Sections

/-! ### Runs of overlapping calls -/

structure Stamped (α : Type) where
  token : α
  generation : Nat
  deriving DecidableEq

/-- Where a caller stands: between two calls, or waiting for Telegram. -/
inductive Phase (κ ω : Type)
  | idle
  | requesting (phone : String)
  | signingIn (token : Stamped κ)
  | checking (token : PasswordToken (Stamped ω))
  | signingOut

/-- `generation` counts the code requests and sign-outs that are complete. -/
structure State (ρ κ ω : Type) where
  authentication : Authentication (Stamped κ) (Stamped ω)
  phase : ρ → Phase κ ω
  generation : Nat

/-- A call begins with its payload and ends with Telegram's answer. -/
inductive Action (ρ κ ω υ : Type)
  | beginLoginCode (caller : ρ) (payload : Except String String)
  | endLoginCode (caller : ρ) (answer : Except String κ)
  | beginSignIn (caller : ρ) (payload : Except String String)
  | endSignIn (caller : ρ) (answer : Except (SignInError ω) υ)
  | beginPassword (caller : ρ) (payload : Except String String)
  | endPassword (caller : ρ) (answer : Except String υ)
  | beginSignOut (caller : ρ)
  | endSignOut (caller : ρ) (answer : Except String Unit)
  | poison

variable {ρ κ ω υ α : Type} [DecidableEq ρ]

/-- The first section of a call; where it fails, so does the call. -/
def State.enter (state : State ρ κ ω) (caller : ρ)
    (call : Stateful (Authentication (Stamped κ) (Stamped ω)) α) (waiting : α → Phase κ ω) :
    State ρ κ ω :=
  match call.runOn state.authentication with
  | (.ok value, authentication) =>
      { state with authentication, phase := Function.update state.phase caller (waiting value) }
  | (.error _, authentication) => { state with authentication }

/-- The last section of a call. -/
def State.leave (state : State ρ κ ω) (caller : ρ)
    (call : Stateful (Authentication (Stamped κ) (Stamped ω)) α) : State ρ κ ω :=
  { state with
    authentication := (call.runOn state.authentication).2
    phase := Function.update state.phase caller .idle }

/-- The last section of a call that begins a new generation where it succeeds. -/
def State.renew (state : State ρ κ ω) (caller : ρ)
    (call : Stateful (Authentication (Stamped κ) (Stamped ω)) α) : State ρ κ ω :=
  match call.runOn state.authentication with
  | (.ok _, authentication) =>
      { authentication, phase := Function.update state.phase caller .idle
        generation := state.generation + 1 }
  | (.error _, authentication) =>
      { state with authentication, phase := Function.update state.phase caller .idle }

/-- A password token stems from the code that was checked. -/
def stampAnswer (generation : Nat) :
    Except (SignInError ω) υ → Except (SignInError (Stamped ω)) υ
  | .ok user => .ok user
  | .error (.passwordRequired token) =>
      .error (.passwordRequired { token := ⟨token.token, generation⟩, hint := token.hint })
  | .error .invalidCode => .error .invalidCode
  | .error (.other message) => .error (.other message)

def step (state : State ρ κ ω) : Action ρ κ ω υ → Option (State ρ κ ω)
  | .beginLoginCode caller payload =>
      match state.phase caller with
      | .idle => some (state.enter caller (parsePayload payload) .requesting)
      | _ => none
  | .endLoginCode caller answer =>
      match state.phase caller with
      | .requesting phone =>
          some (state.renew caller
            (concludeLoginCode phone (answer.map fun token => ⟨token, state.generation + 1⟩)))
      | _ => none
  | .beginSignIn caller payload =>
      match state.phase caller with
      | .idle => some (state.enter caller (takeLoginCode payload) fun taken => .signingIn taken.1)
      | _ => none
  | .endSignIn caller answer =>
      match state.phase caller with
      | .signingIn token =>
          some (state.leave caller (concludeSignIn token (stampAnswer token.generation answer)))
      | _ => none
  | .beginPassword caller payload =>
      match state.phase caller with
      | .idle => some (state.enter caller (takePassword payload) fun taken => .checking taken.1)
      | _ => none
  | .endPassword caller answer =>
      match state.phase caller with
      | .checking _ => some (state.leave caller (concludePassword answer))
      | _ => none
  | .beginSignOut caller =>
      match state.phase caller with
      | .idle => some { state with phase := Function.update state.phase caller .signingOut }
      | _ => none
  | .endSignOut caller answer =>
      match state.phase caller with
      | .signingOut => some (state.renew caller (signOut answer))
      | _ => none
  | .poison =>
      some { state with authentication := { state.authentication with poisoned := true } }

def system (ρ κ ω υ : Type) [DecidableEq ρ] : System (State ρ κ ω) (Action ρ κ ω υ) where
  initial :=
    { authentication := { state := .idle, poisoned := false }, phase := fun _ => .idle
      generation := 0 }
  step := step

/-! ### The latest completed step -/

/-- A pending token stems from the latest generation. -/
def Latest (generation : Nat) : AuthenticationState (Stamped κ) (Stamped ω) → Prop
  | .idle => True
  | .loginCode token => token.generation = generation
  | .password token => token.token.generation = generation

@[simp] theorem latest_loginCode (generation : Nat) (token : Stamped κ) :
    Latest generation (.loginCode token : AuthenticationState (Stamped κ) (Stamped ω)) ↔
      token.generation = generation :=
  Iff.rfl

@[simp] theorem latest_password (generation : Nat) (token : PasswordToken (Stamped ω)) :
    Latest generation (.password token : AuthenticationState (Stamped κ) (Stamped ω)) ↔
      token.token.generation = generation :=
  Iff.rfl

/-- The login state reflects the latest code request or sign-out that is complete:
no token is pending that stems from before it. -/
def Current (state : State ρ κ ω) : Prop := Latest state.generation state.authentication.state

/-- Telegram's answer makes a sign-in write a token back. -/
def WritesBack : Except (SignInError ω) υ → Prop
  | .error (.passwordRequired _) | .error .invalidCode => True
  | .ok _ | .error (.other _) => False

/-- A sign-in that writes a token back took its code in the generation that still
is the latest. -/
def InTime (state : State ρ κ ω) : Action ρ κ ω υ → Prop
  | .endSignIn caller answer =>
      match state.phase caller with
      | .signingIn token =>
          WritesBack answer → state.authentication.poisoned = true ∨
            token.generation = state.generation
      | _ => True
  | _ => True

/-- A section that keeps the state or leaves it idle. -/
def Clears (call : Stateful (Authentication (Stamped κ) (Stamped ω)) α) : Prop :=
  ∀ authentication, (call.runOn authentication).2.state = authentication.state ∨
    (call.runOn authentication).2.state = .idle

omit [DecidableEq ρ] in
theorem latest_of_clears {call : Stateful (Authentication (Stamped κ) (Stamped ω)) α}
    (clears : Clears call) {state : State ρ κ ω} (current : Current state) :
    Latest state.generation (call.runOn state.authentication).2.state := by
  rcases clears state.authentication with kept | idle
  · rw [kept]
    exact current
  · rw [idle]
    trivial

theorem enter_current {call : Stateful (Authentication (Stamped κ) (Stamped ω)) α}
    (clears : Clears call) {state : State ρ κ ω} (current : Current state) (caller : ρ)
    (waiting : α → Phase κ ω) : Current (state.enter caller call waiting) := by
  have latest := latest_of_clears clears current
  unfold State.enter
  cases ran : call.runOn state.authentication with
  | mk answer later =>
      rw [ran] at latest
      cases answer <;> exact latest

/-- A new generation begins with no token or with its own. -/
theorem renew_current {call : Stateful (Authentication (Stamped κ) (Stamped ω)) α}
    {state : State ρ κ ω} (current : Current state) (caller : ρ)
    (renewed : ∀ value later, call.runOn state.authentication = (.ok value, later) →
      Latest (state.generation + 1) later.state)
    (kept : ∀ failure later, call.runOn state.authentication = (.error failure, later) →
      later.state = state.authentication.state) :
    Current (state.renew caller call) := by
  unfold State.renew
  cases ran : call.runOn state.authentication with
  | mk answer later =>
      cases answer with
      | ok value => exact renewed value later ran
      | error failure =>
          change Latest state.generation later.state
          rw [kept failure later ran]
          exact current

theorem clears_parsePayload {β : Type} (payload : Except String β) :
    Clears (parsePayload payload : Stateful (Authentication (Stamped κ) (Stamped ω)) β) := by
  intro authentication
  cases payload <;> exact .inl rfl

theorem clears_takeLoginCode (payload : Except String String) :
    Clears (takeLoginCode payload :
      Stateful (Authentication (Stamped κ) (Stamped ω)) (Stamped κ × String)) := by
  rintro ⟨state, poisoned⟩
  rw [takeLoginCode_runOn]
  cases payload with
  | error failure => exact .inl rfl
  | ok code => cases poisoned <;> cases state <;> simp

theorem clears_takePassword (payload : Except String String) :
    Clears (takePassword payload :
      Stateful (Authentication (Stamped κ) (Stamped ω)) (PasswordToken (Stamped ω) × String)) := by
  rintro ⟨state, poisoned⟩
  rw [takePassword_runOn]
  cases payload with
  | error failure => exact .inl rfl
  | ok password => cases poisoned <;> cases state <;> simp

theorem clears_concludePassword (answer : Except String υ) :
    Clears (concludePassword answer :
      Stateful (Authentication (Stamped κ) (Stamped ω)) υ) := by
  intro authentication
  cases answer <;> exact .inl rfl

/-- What a sign-in writes back is from the latest generation exactly if the code
it took is. -/
theorem concludeSignIn_latest_iff {token : Stamped κ} {answer : Except (SignInError ω) υ}
    {generation : Nat} {authentication : Authentication (Stamped κ) (Stamped ω)}
    (latest : Latest generation authentication.state) :
    Latest generation ((concludeSignIn token (stampAnswer token.generation answer)).runOn
        authentication).2.state ↔
      (WritesBack answer → authentication.poisoned = true ∨ token.generation = generation) := by
  rcases authentication with ⟨state, poisoned⟩
  cases answer with
  | ok user => simp [stampAnswer, concludeSignIn, WritesBack, latest]
  | error refusal =>
      cases refusal with
      | passwordRequired passwordToken =>
          cases poisoned with
          | true =>
              simpa [stampAnswer, concludeSignIn, WritesBack, runOn_map, replaceState_runOn]
                using latest
          | false => simp [stampAnswer, concludeSignIn, WritesBack, runOn_map, replaceState_runOn]
      | invalidCode =>
          cases poisoned with
          | true =>
              simpa [stampAnswer, concludeSignIn, WritesBack, runOn_bind, replaceState_runOn]
                using latest
          | false => simp [stampAnswer, concludeSignIn, WritesBack, runOn_bind, replaceState_runOn]
      | other message => simp [stampAnswer, concludeSignIn, WritesBack, latest]

theorem endLoginCode_current {state : State ρ κ ω} (current : Current state) (caller : ρ)
    (phone : String) (answer : Except String κ) :
    Current (state.renew caller
      (concludeLoginCode phone (answer.map fun token => ⟨token, state.generation + 1⟩))) := by
  cases answer with
  | error message =>
      refine renew_current current caller ?_ ?_ <;> simp [concludeLoginCode, Except.map]
  | ok token =>
      refine renew_current current caller ?_ ?_
      · simp only [Except.map, concludeLoginCode, runOn_bind, replaceState_runOn]
        cases state.authentication.poisoned <;> simp [Latest]
      · simp only [Except.map, concludeLoginCode, runOn_bind, replaceState_runOn]
        cases state.authentication.poisoned <;> simp

theorem endSignOut_current {state : State ρ κ ω} (current : Current state) (caller : ρ)
    (answer : Except String Unit) : Current (state.renew caller (signOut answer)) := by
  cases answer with
  | error message => refine renew_current current caller ?_ ?_ <;> simp [signOut]
  | ok done =>
      refine renew_current current caller ?_ ?_
      · simp only [signOut, runOn_bind, replaceState_runOn]
        cases state.authentication.poisoned <;> simp [Latest]
      · simp only [signOut, runOn_bind, replaceState_runOn]
        cases state.authentication.poisoned <;> simp

theorem step_current_iff {before after : State ρ κ ω} {action : Action ρ κ ω υ}
    (current : Current before) (stepped : step before action = some after) :
    Current after ↔ InTime before action := by
  cases action with
  | endSignIn caller answer =>
      simp only [step] at stepped
      split at stepped
      · rename_i token signingIn
        cases stepped
        simp only [InTime, signingIn]
        exact concludeSignIn_latest_iff current
      · cases stepped
  | beginLoginCode caller payload =>
      simp only [step] at stepped
      split at stepped
      · cases stepped
        exact iff_of_true (enter_current (clears_parsePayload payload) current caller _) trivial
      · cases stepped
  | endLoginCode caller answer =>
      simp only [step] at stepped
      split at stepped
      · cases stepped
        exact iff_of_true (endLoginCode_current current caller _ answer) trivial
      · cases stepped
  | beginSignIn caller payload =>
      simp only [step] at stepped
      split at stepped
      · cases stepped
        exact iff_of_true (enter_current (clears_takeLoginCode payload) current caller _) trivial
      · cases stepped
  | beginPassword caller payload =>
      simp only [step] at stepped
      split at stepped
      · cases stepped
        exact iff_of_true (enter_current (clears_takePassword payload) current caller _) trivial
      · cases stepped
  | endPassword caller answer =>
      simp only [step] at stepped
      split at stepped
      · cases stepped
        exact iff_of_true (latest_of_clears (clears_concludePassword answer) current) trivial
      · cases stepped
  | beginSignOut caller =>
      simp only [step] at stepped
      split at stepped
      · cases stepped
        exact iff_of_true current trivial
      · cases stepped
  | endSignOut caller answer =>
      simp only [step] at stepped
      split at stepped
      · cases stepped
        exact iff_of_true (endSignOut_current current caller answer) trivial
      · cases stepped
  | poison =>
      cases stepped
      exact iff_of_true current trivial

/-- The login state reflects the latest completed step all along a run exactly if
each sign-in of the run that writes a token back is in time. -/
theorem current_throughout_iff {trace : List (Action ρ κ ω υ)} {state : State ρ κ ω}
    (ran : (system ρ κ ω υ).run trace = some state) :
    (∀ early passed, early <+: trace → (system ρ κ ω υ).run early = some passed →
        Current passed) ↔
      System.Along InTime (system ρ κ ω υ) (system ρ κ ω υ).initial trace :=
  System.runFrom_throughout_iff (fun _ _ _ _ current stepped => step_current_iff current stepped)
    .initial trivial ran

/-- A mistyped code, then the right one. -/
def mistypedTrace : List (Action Nat Nat Nat Nat) :=
  [.beginLoginCode 0 (.ok "+431"), .endLoginCode 0 (.ok 7), .beginSignIn 0 (.ok "11111"),
    .endSignIn 0 (.error .invalidCode), .beginSignIn 0 (.ok "12345"), .endSignIn 0 (.ok 3)]

theorem current_throughout_iff_mistyped :
    ∃ state, (system Nat Nat Nat Nat).run mistypedTrace = some state ∧
      ((∀ early passed, early <+: mistypedTrace →
          (system Nat Nat Nat Nat).run early = some passed → Current passed) ↔
        System.Along InTime (system Nat Nat Nat Nat) (system Nat Nat Nat Nat).initial
          mistypedTrace) :=
  ⟨_, rfl, current_throughout_iff rfl⟩

/-- A sign-in with a mistyped code is under way while another caller signs out. -/
def signedOutTrace : List (Action Nat Nat Nat Nat) :=
  [.beginLoginCode 0 (.ok "+431"), .endLoginCode 0 (.ok 7), .beginSignIn 0 (.ok "11111"),
    .beginSignOut 1, .endSignOut 1 (.ok ()), .endSignIn 0 (.error .invalidCode)]

/-- The code from before the sign-out is pending after it. -/
theorem sign_out_overwritten :
    ∃ state, (system Nat Nat Nat Nat).run signedOutTrace = some state ∧
      state.authentication.state = .loginCode ⟨7, 1⟩ ∧ state.generation = 2 ∧
      ¬ ∀ early passed, early <+: signedOutTrace →
        (system Nat Nat Nat Nat).run early = some passed → Current passed := by
  refine ⟨_, rfl, rfl, rfl, ?_⟩
  intro throughout
  have last := throughout signedOutTrace _ (List.prefix_refl _) rfl
  cases last

end Overlap
end Kotlogramme.Auth
