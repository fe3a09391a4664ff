/-
Decoders that take bytes off the front of an input.

A decoder either fails or answers a value and what is left of the input.  It
decodes a byte string to a value when it takes exactly those bytes, whatever
follows them; that relation composes along the monad.
-/

import Kotlogramme.Foundation.LittleEndian

namespace Kotlogramme

theorem bind_eq_ok {ε α β : Type} {attempt : Except ε α} {next : α → Except ε β} {answer : β} :
    (attempt >>= next) = .ok answer ↔ ∃ value, attempt = .ok value ∧ next value = .ok answer := by
  cases attempt with
  | error failure => simp [bind, Except.bind]
  | ok value => simp [bind, Except.bind]

theorem map_eq_ok {ε α β : Type} {attempt : Except ε α} {image : α → β} {answer : β} :
    image <$> attempt = .ok answer ↔ ∃ value, attempt = .ok value ∧ image value = answer := by
  cases attempt with
  | error failure => simp [Functor.map, Except.map]
  | ok value => simp [Functor.map, Except.map]

/-- A decoder over a byte input with failures in `ε`. -/
abbrev Decoder (ε α : Type) := StateT (List Byte) (Except ε) α

namespace Decoder

variable {ε α β : Type}

/-- The next `count` bytes, or `truncated` when the input is shorter. -/
def advance (truncated : ε) (count : Nat) : Decoder ε (List Byte) := fun input =>
  if count ≤ input.length then .ok (input.take count, input.drop count)
  else .error truncated

def times : Nat → Decoder ε α → Decoder ε (List α)
  | 0, _ => pure []
  | count + 1, decoder => do
      let value ← decoder
      let values ← times count decoder
      return value :: values

/-- The decoder takes exactly `bytes` and answers `value`, whatever follows. -/
def Decodes (decoder : Decoder ε α) (bytes : List Byte) (value : α) : Prop :=
  ∀ rest, decoder.run (bytes ++ rest) = .ok (value, rest)

theorem Decodes.run_eq {decoder : Decoder ε α} {bytes : List Byte} {value : α}
    (decodes : Decodes decoder bytes value) :
    decoder.run bytes = .ok (value, []) := by
  have result := decodes []
  rwa [List.append_nil] at result

theorem decodes_pure (value : α) : Decodes (pure value : Decoder ε α) [] value := by
  intro rest
  rfl

theorem Decodes.bind {decoder : Decoder ε α} {first second : List Byte} {value : α}
    {answer : β} (left : Decodes decoder first value) (next : α → Decoder ε β)
    (right : Decodes (next value) second answer) :
    Decodes (decoder >>= next) (first ++ second) answer := by
  intro rest
  rw [StateT.run_bind, List.append_assoc, left (second ++ rest)]
  exact right rest

theorem Decodes.map {decoder : Decoder ε α} {bytes : List Byte} {value : α}
    (decodes : Decodes decoder bytes value) (image : α → β) :
    Decodes (image <$> decoder) bytes (image value) := by
  intro rest
  rw [StateT.run_map, decodes rest]
  rfl

theorem decodes_lift {attempt : Except ε α} {value : α} (succeeded : attempt = .ok value) :
    Decodes (liftM attempt : Decoder ε α) [] value := by
  intro rest
  rw [succeeded]
  rfl

theorem decodes_advance (truncated : ε) (bytes : List Byte) :
    Decodes (advance truncated bytes.length) bytes bytes := by
  intro rest
  have enough : bytes.length ≤ (bytes ++ rest).length := by
    rw [List.length_append]
    omega
  change (if bytes.length ≤ (bytes ++ rest).length then
    Except.ok ((bytes ++ rest).take bytes.length, (bytes ++ rest).drop bytes.length)
    else .error truncated) = .ok (bytes, rest)
  rw [if_pos enough, List.take_left, List.drop_left]

/-- Decoding a list of values one after the other takes the concatenation of
their encodings. -/
theorem decodes_times {decoder : Decoder ε α} {pieces : List (List Byte × α)}
    (each : ∀ piece ∈ pieces, Decodes decoder piece.1 piece.2) :
    Decodes (times pieces.length decoder) (pieces.map Prod.fst).flatten
      (pieces.map Prod.snd) := by
  induction pieces with
  | nil => exact decodes_pure []
  | cons piece rest ih =>
      have first := each piece List.mem_cons_self
      have later := ih fun other member => each other (List.mem_cons_of_mem piece member)
      have ended : Decodes (pure (piece.2 :: rest.map Prod.snd) : Decoder ε (List α)) []
          (piece.2 :: rest.map Prod.snd) := decodes_pure _
      have tail := later.bind (fun values => pure (piece.2 :: values)) ended
      rw [List.append_nil] at tail
      exact first.bind (fun value => do
        let values ← times rest.length decoder
        return value :: values) tail

theorem run_bind_eq_ok {decoder : Decoder ε α} {next : α → Decoder ε β}
    {input rest : List Byte} {answer : β} :
    (decoder >>= next).run input = .ok (answer, rest) ↔
      ∃ value between, decoder.run input = .ok (value, between) ∧
        (next value).run between = .ok (answer, rest) := by
  rw [StateT.run_bind]
  cases ran : decoder.run input with
  | error failure => simp [bind, Except.bind]
  | ok reached =>
      rcases reached with ⟨value, between⟩
      constructor
      · intro accepted
        exact ⟨value, between, rfl, accepted⟩
      · rintro ⟨value', between', same, accepted⟩
        cases same
        exact accepted

theorem run_map_eq_ok {decoder : Decoder ε α} {image : α → β}
    {input rest : List Byte} {answer : β} :
    (image <$> decoder).run input = .ok (answer, rest) ↔
      ∃ value, decoder.run input = .ok (value, rest) ∧ image value = answer := by
  rw [StateT.run_map]
  cases ran : decoder.run input with
  | error failure => simp [Functor.map, Except.map]
  | ok reached =>
      rcases reached with ⟨value, between⟩
      constructor
      · intro accepted
        cases accepted
        exact ⟨value, rfl, rfl⟩
      · rintro ⟨value', same, image_eq⟩
        cases same
        rw [← image_eq]
        rfl

theorem run_pure_eq_ok {value answer : α} {input rest : List Byte} :
    (pure value : Decoder ε α).run input = .ok (answer, rest) ↔
      value = answer ∧ input = rest := by
  constructor
  · intro accepted
    cases accepted
    exact ⟨rfl, rfl⟩
  · rintro ⟨rfl, rfl⟩
    rfl

theorem run_lift_eq_ok {attempt : Except ε α} {answer : α} {input rest : List Byte} :
    (liftM attempt : Decoder ε α).run input = .ok (answer, rest) ↔
      attempt = .ok answer ∧ input = rest := by
  cases attempt with
  | error failure =>
      constructor
      · intro accepted
        cases accepted
      · rintro ⟨accepted, -⟩
        cases accepted
  | ok value =>
      constructor
      · intro accepted
        cases accepted
        exact ⟨rfl, rfl⟩
      · rintro ⟨accepted, rfl⟩
        cases accepted
        rfl

theorem run_throw_ne_ok {failure : ε} {answer : α} {input rest : List Byte} :
    (throw failure : Decoder ε α).run input ≠ .ok (answer, rest) := by
  intro accepted
  cases accepted

theorem run_advance_eq_ok {truncated : ε} {count : Nat} {input taken rest : List Byte} :
    (advance truncated count).run input = .ok (taken, rest) ↔
      taken.length = count ∧ input = taken ++ rest := by
  change (if count ≤ input.length then
    Except.ok (input.take count, input.drop count) else .error truncated) = _ ↔ _
  constructor
  · intro accepted
    split at accepted
    · rename_i enough
      cases accepted
      exact ⟨by rw [List.length_take]; omega, (List.take_append_drop count input).symm⟩
    · cases accepted
  · rintro ⟨rfl, rfl⟩
    rw [if_pos (by rw [List.length_append]; omega), List.take_left, List.drop_left]

theorem run_times_eq_ok {decoder : Decoder ε α} {count : Nat} {input rest : List Byte}
    {values : List α} (accepted : (times count decoder).run input = .ok (values, rest)) :
    values.length = count ∧
      ∀ value ∈ values, ∃ before after, decoder.run before = .ok (value, after) := by
  induction count generalizing input rest values with
  | zero =>
      obtain ⟨none, -⟩ := run_pure_eq_ok.mp accepted
      subst none
      simp
  | succ count ih =>
      obtain ⟨value, between, first, tail⟩ := run_bind_eq_ok.mp accepted
      obtain ⟨later, between', second, ended⟩ := run_bind_eq_ok.mp tail
      obtain ⟨whole, -⟩ := run_pure_eq_ok.mp ended
      obtain ⟨length, each⟩ := ih second
      subst whole
      refine ⟨by rw [List.length_cons, length], fun other member => ?_⟩
      rcases List.mem_cons.mp member with same | inLater
      · exact ⟨input, between, same ▸ first⟩
      · exact each other inLater

/-! ### Decoders that accept more -/

/-- Whatever the weak decoder accepts, the strong one accepts with the same
answer. -/
def Extends (weak strong : Decoder ε α) : Prop :=
  ∀ input value rest, weak.run input = .ok (value, rest) → strong.run input = .ok (value, rest)

theorem Extends.refl (decoder : Decoder ε α) : Extends decoder decoder := by
  intro input value rest accepted
  exact accepted

theorem Extends.bind {weak strong : Decoder ε α} {weakNext strongNext : α → Decoder ε β}
    (first : Extends weak strong) (next : ∀ value, Extends (weakNext value) (strongNext value)) :
    Extends (weak >>= weakNext) (strong >>= strongNext) := by
  intro input answer rest accepted
  obtain ⟨value, between, left, right⟩ := run_bind_eq_ok.mp accepted
  apply run_bind_eq_ok.mpr
  exact ⟨value, between, first input value between left, next value between answer rest right⟩

theorem Extends.map {weak strong : Decoder ε α} (image : α → β) (first : Extends weak strong) :
    Extends (image <$> weak) (image <$> strong) := by
  intro input answer rest accepted
  obtain ⟨value, left, same⟩ := run_map_eq_ok.mp accepted
  exact run_map_eq_ok.mpr ⟨value, first input value rest left, same⟩

theorem Extends.times {weak strong : Decoder ε α} (first : Extends weak strong) (count : Nat) :
    Extends (times count weak) (times count strong) := by
  induction count with
  | zero => exact Extends.refl _
  | succ count ih =>
      exact first.bind fun value => ih.bind fun values => Extends.refl _

/-! ### What a success takes -/

/-- A success takes at least so many bytes. -/
def Consumes (least : Nat) (decoder : Decoder ε α) : Prop :=
  ∀ input value rest, decoder.run input = .ok (value, rest) → rest.length + least ≤ input.length

theorem Consumes.mono {decoder : Decoder ε α} {least less : Nat} (consumes : Consumes least decoder)
    (below : less ≤ least) : Consumes less decoder := by
  intro input value rest accepted
  have taken := consumes input value rest accepted
  omega

theorem Consumes.bind {decoder : Decoder ε α} {next : α → Decoder ε β} {first second : Nat}
    (left : Consumes first decoder) (right : ∀ value, Consumes second (next value)) :
    Consumes (first + second) (decoder >>= next) := by
  intro input answer rest accepted
  obtain ⟨value, between, ran, continued⟩ := run_bind_eq_ok.mp accepted
  have before := left input value between ran
  have after := right value between answer rest continued
  omega

theorem Consumes.seq {decoder : Decoder ε α} {next : α → Decoder ε β} {least : Nat}
    (left : Consumes least decoder) (right : ∀ value, Consumes 0 (next value)) :
    Consumes least (decoder >>= next) :=
  left.bind right

theorem Consumes.map {decoder : Decoder ε α} {least : Nat} (consumes : Consumes least decoder)
    (image : α → β) : Consumes least (image <$> decoder) := by
  intro input answer rest accepted
  obtain ⟨value, ran, -⟩ := run_map_eq_ok.mp accepted
  exact consumes input value rest ran

theorem consumes_pure (value : α) : Consumes 0 (pure value : Decoder ε α) := by
  intro input answer rest accepted
  rw [(run_pure_eq_ok.mp accepted).2]
  exact Nat.le_refl _

theorem consumes_lift (attempt : Except ε α) : Consumes 0 (liftM attempt : Decoder ε α) := by
  intro input answer rest accepted
  rw [(run_lift_eq_ok.mp accepted).2]
  exact Nat.le_refl _

theorem consumes_throw (least : Nat) (failure : ε) :
    Consumes least (throw failure : Decoder ε α) := by
  intro input answer rest accepted
  exact absurd accepted run_throw_ne_ok

theorem consumes_advance (truncated : ε) (count : Nat) :
    Consumes count (advance truncated count) := by
  intro input taken rest accepted
  obtain ⟨length, whole⟩ := run_advance_eq_ok.mp accepted
  rw [whole, List.length_append]
  omega

theorem Consumes.ite {yes no : Decoder ε α} {least : Nat} (condition : Prop)
    [Decidable condition] (left : Consumes least yes) (right : Consumes least no) :
    Consumes least (if condition then yes else no) := by
  split
  · exact left
  · exact right

theorem Consumes.times {decoder : Decoder ε α} (consumes : Consumes 0 decoder) (count : Nat) :
    Consumes 0 (times count decoder) := by
  induction count with
  | zero => exact consumes_pure []
  | succ count ih => exact consumes.bind fun value => ih.bind fun values => consumes_pure _

/-! ### Decoders that agree on short inputs -/

def AgreeWithin (limit : Nat) (left right : Decoder ε α) : Prop :=
  ∀ input : List Byte, input.length ≤ limit → left.run input = right.run input

theorem AgreeWithin.refl (limit : Nat) (decoder : Decoder ε α) :
    AgreeWithin limit decoder decoder := by
  intro input short
  rfl

/-- The second halves need agree only on what the first half can leave. -/
theorem AgreeWithin.bind {limit least : Nat} {left right : Decoder ε α}
    {leftNext rightNext : α → Decoder ε β} (first : AgreeWithin limit left right)
    (consumes : Consumes least left)
    (next : least ≤ limit → ∀ value,
      AgreeWithin (limit - least) (leftNext value) (rightNext value)) :
    AgreeWithin limit (left >>= leftNext) (right >>= rightNext) := by
  intro input short
  rw [StateT.run_bind, StateT.run_bind, ← first input short]
  cases ran : left.run input with
  | error failure => rfl
  | ok reached =>
      rcases reached with ⟨value, between⟩
      have taken := consumes input value between ran
      exact next (by omega) value between (by omega)

theorem AgreeWithin.map {limit : Nat} {left right : Decoder ε α}
    (agree : AgreeWithin limit left right) (image : α → β) :
    AgreeWithin limit (image <$> left) (image <$> right) := by
  intro input short
  rw [StateT.run_map, StateT.run_map, agree input short]

theorem AgreeWithin.times {limit : Nat} {left right : Decoder ε α}
    (agree : AgreeWithin limit left right) (consumes : Consumes 0 left) (count : Nat) :
    AgreeWithin limit (times count left) (times count right) := by
  induction count with
  | zero => exact AgreeWithin.refl limit _
  | succ count ih =>
      exact agree.bind consumes fun _ value =>
        ih.bind (consumes.times count) fun _ values => AgreeWithin.refl _ _

/-! ### Decoders that do not look ahead -/

/-- What a success takes off the front decodes to the same value whatever
follows it. -/
def SelfDelimiting (decoder : Decoder ε α) : Prop :=
  ∀ input value rest, decoder.run input = .ok (value, rest) →
    ∃ taken, input = taken ++ rest ∧ Decodes decoder taken value

theorem SelfDelimiting.bind {decoder : Decoder ε α} {next : α → Decoder ε β}
    (first : SelfDelimiting decoder) (second : ∀ value, SelfDelimiting (next value)) :
    SelfDelimiting (decoder >>= next) := by
  intro input answer rest accepted
  obtain ⟨value, between, ran, continued⟩ := run_bind_eq_ok.mp accepted
  obtain ⟨here, split, left⟩ := first input value between ran
  obtain ⟨later, splitRest, right⟩ := second value between answer rest continued
  refine ⟨here ++ later, ?_, left.bind next right⟩
  rw [split, splitRest, List.append_assoc]

theorem SelfDelimiting.map {decoder : Decoder ε α} (delimiting : SelfDelimiting decoder)
    (image : α → β) : SelfDelimiting (image <$> decoder) := by
  intro input answer rest accepted
  obtain ⟨value, ran, same⟩ := run_map_eq_ok.mp accepted
  obtain ⟨taken, split, decodes⟩ := delimiting input value rest ran
  rw [← same]
  exact ⟨taken, split, decodes.map image⟩

theorem selfDelimiting_pure (value : α) : SelfDelimiting (pure value : Decoder ε α) := by
  intro input answer rest accepted
  obtain ⟨same, left⟩ := run_pure_eq_ok.mp accepted
  rw [← same]
  exact ⟨[], left, decodes_pure value⟩

theorem selfDelimiting_lift (attempt : Except ε α) :
    SelfDelimiting (liftM attempt : Decoder ε α) := by
  intro input answer rest accepted
  obtain ⟨succeeded, left⟩ := run_lift_eq_ok.mp accepted
  exact ⟨[], left, decodes_lift succeeded⟩

theorem selfDelimiting_throw (failure : ε) : SelfDelimiting (throw failure : Decoder ε α) := by
  intro input answer rest accepted
  exact absurd accepted run_throw_ne_ok

theorem selfDelimiting_advance (truncated : ε) (count : Nat) :
    SelfDelimiting (advance truncated count) := by
  intro input taken rest accepted
  obtain ⟨length, whole⟩ := run_advance_eq_ok.mp accepted
  refine ⟨taken, whole, ?_⟩
  rw [← length]
  exact decodes_advance truncated taken

theorem SelfDelimiting.ite {yes no : Decoder ε α} (condition : Prop) [Decidable condition]
    (left : SelfDelimiting yes) (right : SelfDelimiting no) :
    SelfDelimiting (if condition then yes else no) := by
  split
  · exact left
  · exact right

theorem SelfDelimiting.times {decoder : Decoder ε α} (delimiting : SelfDelimiting decoder)
    (count : Nat) : SelfDelimiting (times count decoder) := by
  induction count with
  | zero => exact selfDelimiting_pure []
  | succ count ih =>
      apply delimiting.bind
      intro value
      apply ih.bind
      intro values
      exact selfDelimiting_pure _

end Decoder
end Kotlogramme
