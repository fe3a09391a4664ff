/-
Dates of a request, in epoch milliseconds, as the whole seconds of the layer.

Four conversions are written apart from one another.  The one for a ban truncates
and wraps, the one for a mute truncates and checks its range, the other two round
down and check it.  A search makes an instant of each of its bounds and leaves the
second to grammers.
-/

import Kotlogramme.Chats.Rights

namespace Kotlogramme.Protocol

open Kotlogramme.Chats

def InI32 (seconds : Int) : Prop := -2 ^ 31 ≤ seconds ∧ seconds < 2 ^ 31

instance (seconds : Int) : Decidable (InI32 seconds) :=
  inferInstanceAs (Decidable (-2 ^ 31 ≤ seconds ∧ seconds < 2 ^ 31))

/-- `i32::try_from` and what its failure is mapped to. -/
def tryI32 (failure : String) (seconds : Int) : Except String Int :=
  if InI32 seconds then .ok seconds else .error failure

def epochSeconds (millis : Int) : Except String Int :=
  tryI32 ("date is outside the supported range: " ++ toString millis) (millis / 1000)

def scheduleSeconds (millis : Int) : Except String Int :=
  tryI32 ("the schedule date is out of range: " ++ toString millis) (millis / 1000)

def seconds (millis : Int) : Except String Int :=
  tryI32 ("muteUntil " ++ toString millis ++ " is out of the layer's date range")
    (millis.tdiv 1000)

/-- The instants of the time library, whose whole seconds are truncated, and the
second that grammers sends for one. -/
structure Timestamps (τ : Type) where
  fromMillisecond : Int → Except String τ
  asSecond : τ → Int
  sent : τ → Int
  truncated : ∀ millis instant, fromMillisecond millis = .ok instant →
    asSecond instant = millis.tdiv 1000
  narrowed : ∀ instant, InI32 (asSecond instant) → sent instant = asSecond instant

def Timestamps.searchDate {τ : Type} (timestamps : Timestamps τ) (millis : Int) :
    Except String Int := do
  let instant ← timestamps.fromMillisecond millis
  return timestamps.sent instant

/-- The dates of requests that are sent in seconds. -/
inductive DateField
  | bannedUntil
  | historyMaxDate
  | searchDate
  | scheduleDate
  | muteUntil

/-- `bannedUntil` is what `ChatBannedRights.ofDto` does with its date. -/
def DateField.convert {τ : Type} (timestamps : Timestamps τ) :
    DateField → Int → Except String Int
  | .bannedUntil, millis => .ok (wholeSeconds millis)
  | .historyMaxDate, millis => epochSeconds millis
  | .searchDate, millis => timestamps.searchDate millis
  | .scheduleDate, millis => scheduleSeconds millis
  | .muteUntil, millis => seconds millis

/-- A date is rounded down to the second or refused, and only zero is forever. -/
structure FlooredOrRefused {τ : Type} (timestamps : Timestamps τ) (millis : Int) : Prop where
  floored : ∀ (field : DateField) sent, field.convert timestamps millis = .ok sent →
    InI32 sent ∧ sent = millis / 1000
  banned : ∀ rights : ChatRestrictionsDto, rights.untilDate = millis →
    (ChatBannedRights.ofDto rights).untilDate = millis / 1000
  finite : ∀ rights : ChatRestrictionsDto, rights.untilDate = millis → millis ≠ 0 →
    (ChatBannedRights.ofDto rights).untilDate ≠ 0
  agree : ∀ (first second : DateField) sent other, first.convert timestamps millis = .ok sent →
    second.convert timestamps millis = .ok other → sent = other

/-- A date of the 32-bit range that truncating rounds down, and not to zero. -/
def Plain (millis : Int) : Prop :=
  (millis = 0 ∨ 1000 ≤ millis ∨ (millis < 0 ∧ millis % 1000 = 0)) ∧ InI32 (millis / 1000)

theorem tryI32_eq_ok {failure : String} {value sent : Int} :
    tryI32 failure value = .ok sent ↔ InI32 value ∧ sent = value := by
  unfold tryI32
  by_cases fits : InI32 value
  · rw [if_pos fits]
    constructor
    · intro same
      cases same
      exact ⟨fits, rfl⟩
    · rintro ⟨-, rfl⟩
      rfl
  · rw [if_neg fits]
    constructor
    · exact nofun
    · intro both
      exact absurd both.1 fits

theorem tdiv_thousand (millis : Int) :
    millis.tdiv 1000 =
      if 0 ≤ millis ∨ millis % 1000 = 0 then millis / 1000 else millis / 1000 + 1 := by
  rw [Int.tdiv_eq_ediv]
  by_cases down : 0 ≤ millis ∨ millis % 1000 = 0
  · have divides : 0 ≤ millis ∨ (1000 : Int) ∣ millis := by omega
    rw [if_pos down, if_pos divides, Int.add_zero]
  · have divides : ¬ (0 ≤ millis ∨ (1000 : Int) ∣ millis) := by omega
    rw [if_neg down, if_neg divides]
    rfl

/-- A ban's date is rounded down just where truncating does so within the range. -/
theorem wholeSeconds_eq_iff (millis : Int) :
    wholeSeconds millis = millis / 1000 ↔
      (0 ≤ millis ∨ millis % 1000 = 0) ∧ InI32 (millis / 1000) := by
  unfold wholeSeconds
  rw [Int.bmod_eq_iff (by omega), tdiv_thousand]
  by_cases down : 0 ≤ millis ∨ millis % 1000 = 0
  · rw [if_pos down]
    simp only [InI32]
    omega
  · rw [if_neg down]
    simp only [InI32]
    omega

theorem seconds_floored_iff (millis : Int) :
    (∀ sent, seconds millis = .ok sent → sent = millis / 1000) ↔
      (0 ≤ millis ∨ millis % 1000 = 0) ∨ ¬ InI32 (millis.tdiv 1000) := by
  simp only [seconds, tryI32_eq_ok, and_imp]
  rw [tdiv_thousand]
  by_cases down : 0 ≤ millis ∨ millis % 1000 = 0
  · rw [if_pos down]
    exact iff_of_true (fun sent _ same => same) (.inl down)
  · rw [if_neg down]
    constructor
    · intro all
      refine .inr fun fits => ?_
      have same := all _ fits rfl
      omega
    · rintro (down' | outside) sent fits same
      · exact absurd down' down
      · exact absurd fits outside

theorem convert_floored {τ : Type} (timestamps : Timestamps τ) {millis : Int}
    (down : 0 ≤ millis ∨ millis % 1000 = 0) (fits : InI32 (millis / 1000)) (field : DateField)
    (sent : Int) (sentAs : field.convert timestamps millis = .ok sent) : sent = millis / 1000 := by
  cases field with
  | bannedUntil =>
      obtain rfl := Except.ok.inj sentAs
      exact (wholeSeconds_eq_iff millis).mpr ⟨down, fits⟩
  | historyMaxDate => exact (tryI32_eq_ok.mp sentAs).2
  | searchDate =>
      obtain ⟨instant, made, same⟩ := bind_eq_ok.mp sentAs
      cases same
      have whole : timestamps.asSecond instant = millis / 1000 := by
        rw [timestamps.truncated millis instant made, tdiv_thousand, if_pos down]
      rw [timestamps.narrowed instant (whole ▸ fits), whole]
  | scheduleDate => exact (tryI32_eq_ok.mp sentAs).2
  | muteUntil => exact (seconds_floored_iff millis).mpr (.inl down) sent sentAs

theorem flooredOrRefused_of_plain {τ : Type} (timestamps : Timestamps τ) {millis : Int}
    (plain : Plain millis) : FlooredOrRefused timestamps millis := by
  obtain ⟨shape, fits⟩ := plain
  have down : 0 ≤ millis ∨ millis % 1000 = 0 := by omega
  have banned : wholeSeconds millis = millis / 1000 := (wholeSeconds_eq_iff _).mpr ⟨down, fits⟩
  constructor
  · intro field sent sentAs
    have same := convert_floored timestamps down fits field sent sentAs
    exact ⟨same ▸ fits, same⟩
  · rintro rights rfl
    exact banned
  · rintro rights rfl notZero
    change wholeSeconds rights.untilDate ≠ 0
    rw [banned]
    omega
  · intro first second sent other sentAs otherAs
    rw [convert_floored timestamps down fits first sent sentAs,
      convert_floored timestamps down fits second other otherAs]

theorem plain_of_flooredOrRefused {τ : Type} {timestamps : Timestamps τ} {millis : Int}
    (kept : FlooredOrRefused timestamps millis) : Plain millis := by
  have someRights : ∃ rights : ChatRestrictionsDto, rights.untilDate = millis :=
    ⟨⟨false, false, false, false, false, false, false, false, false, false, false, false, false,
      false, false, false, false, false, false, false, false, false, false, millis⟩, rfl⟩
  obtain ⟨rights, rfl⟩ := someRights
  have banned : wholeSeconds rights.untilDate = rights.untilDate / 1000 :=
    kept.banned rights rfl
  have finite : rights.untilDate ≠ 0 → wholeSeconds rights.untilDate ≠ 0 :=
    kept.finite rights rfl
  obtain ⟨down, fits⟩ := (wholeSeconds_eq_iff _).mp banned
  rw [banned] at finite
  refine ⟨?_, fits⟩
  omega

/-- The requests are exact on the plain dates and on no others.  By themselves, the dates
of a history and of a schedule are always exact, that of a ban is where truncating rounds
down within the range, and that of a mute also where it is refused. -/
theorem flooredOrRefused_iff {τ : Type} (timestamps : Timestamps τ) (millis : Int) :
    (FlooredOrRefused timestamps millis ↔ Plain millis) ∧
      (wholeSeconds millis = millis / 1000 ↔
        (0 ≤ millis ∨ millis % 1000 = 0) ∧ InI32 (millis / 1000)) ∧
      ((∀ sent, seconds millis = .ok sent → sent = millis / 1000) ↔
        (0 ≤ millis ∨ millis % 1000 = 0) ∨ ¬ InI32 (millis.tdiv 1000)) ∧
      (∀ sent, epochSeconds millis = .ok sent → sent = millis / 1000) ∧
      ∀ sent, scheduleSeconds millis = .ok sent → sent = millis / 1000 :=
  ⟨⟨plain_of_flooredOrRefused, flooredOrRefused_of_plain timestamps⟩,
    wholeSeconds_eq_iff millis, seconds_floored_iff millis,
    fun _ sentAs => (tryI32_eq_ok.mp sentAs).2, fun _ sentAs => (tryI32_eq_ok.mp sentAs).2⟩

/-- The range of the time library's instants, and a second that is cut to 32 bits. -/
def documentedTimestamps : Timestamps Int where
  fromMillisecond millis :=
    if -377705023201000 ≤ millis ∧ millis ≤ 253402207200999 then .ok millis
    else .error "parameter is not in the required range"
  asSecond instant := instant.tdiv 1000
  sent instant := (instant.tdiv 1000).bmod (2 ^ 32)
  truncated millis instant made := by
    split at made
    · cases made
      rfl
    · cases made
  narrowed instant fits := by
    obtain ⟨least, most⟩ := fits
    exact Int.bmod_eq_of_le (by omega) (by omega)

/-- A ban until a second past the 32-bit range is one until 1901, and one until
the first half second is forever. -/
theorem ban_wraps :
    wholeSeconds 2147483648000 = -2147483648 ∧ wholeSeconds 500 = 0 ∧ seconds (-1) = .ok 0 ∧
      scheduleSeconds (-1) = .ok (-1) ∧ ¬ FlooredOrRefused documentedTimestamps 2147483648000 := by
  refine ⟨rfl, rfl, rfl, rfl, ?_⟩
  intro kept
  cases (kept.floored .bannedUntil (-2147483648) rfl).2

end Kotlogramme.Protocol
