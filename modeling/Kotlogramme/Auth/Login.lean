/-
The user login.

A login goes from a code token to a password token where the account asks for a
password.  A call takes the pending token out of the shared state before it asks
Telegram, and it depends on the answer whether a token goes back.
-/

import Kotlogramme.Foundation.Stateful
import Kotlogramme.Foundation.Transition

namespace Kotlogramme.Auth

open Fallible

structure PasswordToken (ω : Type) where
  token : ω
  hint : Option String
  deriving DecidableEq

inductive AuthenticationState (κ ω : Type)
  | idle
  | loginCode (token : κ)
  | password (token : PasswordToken ω)
  deriving DecidableEq

structure Authentication (κ ω : Type) where
  state : AuthenticationState κ ω
  poisoned : Bool

/-- Why grammers refuses a code; `other` stands for each refusal that is only
reported as a text. -/
inductive SignInError (ω : Type)
  | passwordRequired (token : PasswordToken ω)
  | invalidCode
  | other (message : String)

inductive SignInResult (υ : Type)
  | authorized (user : υ)
  | passwordRequired (hint : Option String)

variable {κ ω υ : Type}

/-! ### The operations -/

def parsePayload {σ α : Type} : Except String α → Stateful σ α
  | .ok value => return value
  | .error failure => throw ("invalid request payload: " ++ failure)

/-- `mem::replace` under the lock. -/
def replaceState (later : AuthenticationState κ ω) :
    Stateful (Authentication κ ω) (AuthenticationState κ ω) := do
  let authentication ← get
  if authentication.poisoned then throw "authentication state is poisoned"
  set { authentication with state := later }
  return authentication.state

/-- `answer` is what Telegram says to the request, here and below. -/
def requestLoginCode (payload : Except String String) (answer : Except String κ) :
    Stateful (Authentication κ ω) String := do
  let phone ← parsePayload payload
  match answer with
  | .error message => throw message
  | .ok token =>
      let _ ← replaceState (.loginCode token)
      return phone

/-- `sign_in` up to its request. -/
def takeLoginCode (payload : Except String String) :
    Stateful (Authentication κ ω) (κ × String) := do
  let code ← parsePayload payload
  match ← replaceState .idle with
  | .loginCode token => return (token, code)
  | _ => throw "requestLoginCode must be called before signIn"

/-- `sign_in` from the answer on. -/
def concludeSignIn (token : κ) :
    Except (SignInError ω) υ → Stateful (Authentication κ ω) (SignInResult υ)
  | .ok user => return .authorized user
  | .error (.passwordRequired passwordToken) => do
      let _ ← replaceState (.password passwordToken)
      return .passwordRequired passwordToken.hint
  | .error .invalidCode => do
      let _ ← replaceState (.loginCode token)
      throw "invalid login code"
  | .error (.other message) => throw message

def signIn (payload : Except String String) (answer : Except (SignInError ω) υ) :
    Stateful (Authentication κ ω) (SignInResult υ) := do
  let (token, _) ← takeLoginCode payload
  concludeSignIn token answer

/-- `check_password` up to its request. -/
def takePassword (payload : Except String String) :
    Stateful (Authentication κ ω) (PasswordToken ω × String) := do
  let password ← parsePayload payload
  match ← replaceState .idle with
  | .password token => return (token, password)
  | _ => throw "signIn must report passwordRequired before checkPassword"

def checkPassword (payload : Except String String) (answer : Except String υ) :
    Stateful (Authentication κ ω) υ := do
  let _ ← takePassword payload
  match answer with
  | .ok user => return user
  | .error message => throw message

def signOut (answer : Except String Unit) : Stateful (Authentication κ ω) Unit := do
  match answer with
  | .error message => throw message
  | .ok () =>
      let _ ← replaceState .idle

/-! ### Runs of calls -/

/-- `failures` holds the states before and after each failed sign-in and password
check. -/
structure State (κ ω : Type) where
  authentication : Authentication κ ω
  failures : List (AuthenticationState κ ω × AuthenticationState κ ω)

/-- The lock is poisoned by a thread that panics while it holds it. -/
inductive Action (κ ω υ : Type)
  | requestLoginCode (payload : Except String String) (answer : Except String κ)
  | signIn (payload : Except String String) (answer : Except (SignInError ω) υ)
  | checkPassword (payload : Except String String) (answer : Except String υ)
  | signOut (answer : Except String Unit)
  | poison

def State.attempt {α : Type} (state : State κ ω) (call : Stateful (Authentication κ ω) α) :
    State κ ω :=
  match call.runOn state.authentication with
  | (.ok _, authentication) => { state with authentication }
  | (.error _, authentication) =>
      { authentication
        failures := state.failures ++ [(state.authentication.state, authentication.state)] }

def step (state : State κ ω) : Action κ ω υ → Option (State κ ω)
  | .requestLoginCode payload answer =>
      some { state with
        authentication := ((requestLoginCode payload answer).runOn state.authentication).2 }
  | .signIn payload answer => some (state.attempt (signIn payload answer))
  | .checkPassword payload answer => some (state.attempt (checkPassword payload answer))
  | .signOut answer =>
      some { state with authentication := ((signOut answer).runOn state.authentication).2 }
  | .poison =>
      some { state with authentication := { state.authentication with poisoned := true } }

def login (κ ω υ : Type) : System (State κ ω) (Action κ ω υ) where
  initial := { authentication := { state := .idle, poisoned := false }, failures := [] }
  step := step

def Kept (before after : AuthenticationState κ ω) : Prop := before = .idle ∨ after = before

/-- A call that would fail fails before it takes the token or because the code
is wrong. -/
def Harmless (authentication : Authentication κ ω) : Action κ ω υ → Prop
  | .signIn payload answer =>
      (∃ failure, payload = .error failure) ∨ authentication.poisoned = true ∨
        match authentication.state with
        | .idle => True
        | .loginCode _ => ∀ message, answer ≠ .error (.other message)
        | .password _ => False
  | .checkPassword payload answer =>
      (∃ failure, payload = .error failure) ∨ authentication.poisoned = true ∨
        match authentication.state with
        | .idle => True
        | .loginCode _ => False
        | .password _ => ∃ user, answer = .ok user
  | _ => True

/-! ### What a failed call leaves -/

/-- Where the call fails, the pending token is kept. -/
def Keeps {α : Type} (call : Stateful (Authentication κ ω) α)
    (authentication : Authentication κ ω) : Prop :=
  ∀ failure later, call.runOn authentication = (.error failure, later) →
    Kept authentication.state later.state

theorem replaceState_runOn (later : AuthenticationState κ ω)
    (authentication : Authentication κ ω) :
    (replaceState later).runOn authentication =
      if authentication.poisoned then (.error "authentication state is poisoned", authentication)
      else (.ok authentication.state, { authentication with state := later }) := by
  rcases authentication with ⟨state, poisoned⟩
  cases poisoned <;> rfl

theorem takeLoginCode_runOn (payload : Except String String)
    (authentication : Authentication κ ω) :
    (takeLoginCode payload).runOn authentication =
      match payload with
      | .error failure => (.error ("invalid request payload: " ++ failure), authentication)
      | .ok code =>
          if authentication.poisoned then
            (.error "authentication state is poisoned", authentication)
          else
            match authentication.state with
            | .loginCode token => (.ok (token, code), { authentication with state := .idle })
            | _ => (.error "requestLoginCode must be called before signIn",
                { authentication with state := .idle }) := by
  rcases authentication with ⟨state, poisoned⟩
  cases payload with
  | error failure => rfl
  | ok code => cases poisoned <;> cases state <;> rfl

theorem takePassword_runOn (payload : Except String String)
    (authentication : Authentication κ ω) :
    (takePassword payload).runOn authentication =
      match payload with
      | .error failure => (.error ("invalid request payload: " ++ failure), authentication)
      | .ok password =>
          if authentication.poisoned then
            (.error "authentication state is poisoned", authentication)
          else
            match authentication.state with
            | .password token => (.ok (token, password), { authentication with state := .idle })
            | _ => (.error "signIn must report passwordRequired before checkPassword",
                { authentication with state := .idle }) := by
  rcases authentication with ⟨state, poisoned⟩
  cases payload with
  | error failure => rfl
  | ok password => cases poisoned <;> cases state <;> rfl

/-- Only an invalid code puts the token back where the sign-in fails. -/
theorem concludeSignIn_keeps_iff {token : κ} {answer : Except (SignInError ω) υ} :
    (∀ failure later, (concludeSignIn token answer).runOn
        ({ state := .idle, poisoned := false } : Authentication κ ω) = (.error failure, later) →
      later.state = .loginCode token) ↔ ∀ message, answer ≠ .error (.other message) := by
  cases answer with
  | ok user => simp [concludeSignIn]
  | error refusal =>
      cases refusal with
      | passwordRequired passwordToken =>
          simp [concludeSignIn, runOn_map, replaceState_runOn]
      | invalidCode => simp [concludeSignIn, runOn_bind, replaceState_runOn]
      | other message => simp [concludeSignIn]

theorem signIn_keeps_iff {payload : Except String String} {answer : Except (SignInError ω) υ}
    {authentication : Authentication κ ω} :
    Keeps (signIn payload answer) authentication ↔
      Harmless authentication (.signIn payload answer) := by
  rcases authentication with ⟨state, poisoned⟩
  unfold Keeps Harmless signIn
  rw [runOn_bind, takeLoginCode_runOn]
  cases payload with
  | error failure => simp [Kept]
  | ok code =>
      cases poisoned with
      | true => simp [Kept]
      | false =>
          cases state with
          | idle => simp [Kept]
          | loginCode token =>
              simp only [Kept, reduceCtorEq, exists_false, false_or]
              exact concludeSignIn_keeps_iff
          | password token => simp [Kept]

theorem checkPassword_keeps_iff {payload : Except String String} {answer : Except String υ}
    {authentication : Authentication κ ω} :
    Keeps (checkPassword payload answer) authentication ↔
      Harmless authentication (.checkPassword payload answer : Action κ ω υ) := by
  rcases authentication with ⟨state, poisoned⟩
  unfold Keeps Harmless checkPassword
  rw [runOn_bind, takePassword_runOn]
  cases payload with
  | error failure => simp [Kept]
  | ok password =>
      cases poisoned with
      | true => simp [Kept]
      | false =>
          cases state with
          | idle => simp [Kept]
          | loginCode token => simp [Kept]
          | password token => cases answer <;> simp [Kept]

/-! ### Runs -/

def AllKept (state : State κ ω) : Prop := ∀ failure ∈ state.failures, Kept failure.1 failure.2

theorem attempt_allKept_iff {α : Type} {state : State κ ω}
    {call : Stateful (Authentication κ ω) α} :
    AllKept (state.attempt call) ↔ AllKept state ∧ Keeps call state.authentication := by
  unfold State.attempt AllKept Keeps
  rcases call.runOn state.authentication with ⟨answer, later⟩
  cases answer with
  | ok value => simp
  | error failure => simp [or_imp, forall_and]

theorem step_allKept_iff {before after : State κ ω} {action : Action κ ω υ}
    (stepped : step before action = some after) :
    AllKept after ↔ AllKept before ∧ Harmless before.authentication action := by
  cases action with
  | requestLoginCode payload answer =>
      cases stepped
      exact (and_iff_left trivial).symm
  | signIn payload answer =>
      cases stepped
      rw [attempt_allKept_iff, signIn_keeps_iff]
  | checkPassword payload answer =>
      cases stepped
      rw [attempt_allKept_iff, checkPassword_keeps_iff]
  | signOut answer =>
      cases stepped
      exact (and_iff_left trivial).symm
  | poison =>
      cases stepped
      exact (and_iff_left trivial).symm

/-- Every failed call of a run kept the pending token exactly if no call failed
after it had taken the token, unless for an invalid code. -/
theorem pending_kept_iff {trace : List (Action κ ω υ)} {state : State κ ω}
    (ran : (login κ ω υ).run trace = some state) :
    (∀ failure ∈ state.failures, Kept failure.1 failure.2) ↔
      System.Along (fun state => Harmless state.authentication) (login κ ω υ)
        (login κ ω υ).initial trace := by
  have initially : AllKept (login κ ω υ).initial := by
    intro failure member
    cases member
  exact System.run_clean_iff initially (fun _ _ _ _ stepped => step_allKept_iff stepped) ran

theorem pending_kept_iff_mistyped :
    ∃ state, (login Nat Nat Nat).run [.requestLoginCode (.ok "+431") (.ok 7),
        .signIn (.ok "11111") (.error .invalidCode)] = some state ∧
      state.failures = [(.loginCode 7, .loginCode 7)] ∧
      ((∀ failure ∈ state.failures, Kept failure.1 failure.2) ↔
        System.Along (fun state => Harmless state.authentication) (login Nat Nat Nat)
          (login Nat Nat Nat).initial [.requestLoginCode (.ok "+431") (.ok 7),
            .signIn (.ok "11111") (.error .invalidCode)]) :=
  ⟨_, rfl, rfl, pending_kept_iff rfl⟩

/-- A flood wait loses the code token. -/
theorem flood_wait_loses_token :
    ∃ state, (login Nat Nat Nat).run [.requestLoginCode (.ok "+431") (.ok 7),
        .signIn (.ok "12345") (.error (.other "FLOOD_WAIT"))] = some state ∧
      state.failures = [(.loginCode 7, .idle)] ∧
      ¬ ∀ failure ∈ state.failures, Kept failure.1 failure.2 := by
  refine ⟨_, rfl, rfl, ?_⟩
  intro kept
  rcases kept _ (List.mem_cons_self ..) with idle | same
  · cases idle
  · cases same

end Kotlogramme.Auth
