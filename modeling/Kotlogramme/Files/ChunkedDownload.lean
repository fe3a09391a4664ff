/-
Downloads of a message's media, a chunk at a time.

A call names the size of a chunk and how many chunks come before it.  The size is
checked before grammers is asked, since its iterator panics on any other, and the bytes
cross the bridge as base64.
-/

import Kotlogramme.Client.Peers
import Kotlogramme.Files.Base64
import Kotlogramme.Foundation.Loop
import Kotlogramme.Foundation.Sources

namespace Kotlogramme.Files

open Kotlogramme.Client Kotlogramme.Protocol

def minChunkSize : Int := 4 * 1024

def maxChunkSize : Int := 512 * 1024

def validateChunkSize (size : Int) : Except String Int :=
  if minChunkSize ≤ size ∧ size ≤ maxChunkSize ∧ size.tmod minChunkSize = 0 then .ok size
  else .error ("chunkSize must be a multiple of " ++ toString minChunkSize ++ " between " ++
    toString minChunkSize ++ " and " ++ toString maxChunkSize ++ ", got " ++ toString size)

def chunkOffset (chunkSize skipChunks : Int) : Int := chunkSize * skipChunks

structure DownloadChunkPayload where
  peer : PeerTarget
  messageId : Int
  chunkSize : Int
  skipChunks : Int

structure MediaChunkDto where
  data : List Byte
  offset : Int
  size : Int

/-- What grammers has for a download: a peer's messages, a message's media, and the
iterator over the chunks of a media. -/
structure Downloads (ρ α μ : Type) where
  getMessagesById : ρ → List Int → Except String (List (Option α))
  media : α → Option μ
  iterDownload : μ → (chunkSize skipChunks : Int) → Source String (List Byte)

section Calls

variable {π ρ α μ : Type} (grammers : Grammers π ρ) (registry : PeerRegistry π)

def messageMedia (downloads : Downloads ρ α μ) (peer : ρ) (messageId : Int) :
    Except String μ := do
  let messages ← downloads.getMessagesById peer [messageId]
  match messages.reduceOption.head? with
  | none => throw ("message " ++ toString messageId ++ " was not found")
  | some message =>
      match downloads.media message with
      | none => throw ("message " ++ toString messageId ++ " has no downloadable media")
      | some media => return media

def downloadMediaChunk (downloads : Downloads ρ α μ) (data : DownloadChunkPayload) :
    Except String (Option MediaChunkDto) :=
  if data.skipChunks < 0 then .error "skipChunks must not be negative"
  else do
    let chunkSize ← validateChunkSize data.chunkSize
    let peer ← resolvePeer grammers registry data.peer
    let media ← messageMedia downloads peer data.messageId
    match ← (downloads.iterDownload media chunkSize data.skipChunks).next with
    | none => return none
    | some (bytes, _) => return some {
        data := base64 bytes
        offset := chunkOffset chunkSize data.skipChunks
        size := bytes.length }

/-! ### The facade -/

/-- Java's decoder, on the encodings of the RFC. -/
structure Base64Decoder where
  decode : List Byte → Except String (List Byte)
  decodes : ∀ bytes, decode (Rfc4648.encode bytes) = .ok bytes

structure MediaChunk where
  offset : Int
  size : Int
  data : List Byte

def MediaChunkDto.toCompatibility (decoder : Base64Decoder) (chunk : MediaChunkDto) :
    Except String MediaChunk := do
  return { offset := chunk.offset, size := chunk.size, data := ← decoder.decode chunk.data }

/-- `FilesApi.downloadMediaChunk` over the bridge. -/
def mediaChunk (decoder : Base64Decoder) (downloads : Downloads ρ α μ)
    (data : DownloadChunkPayload) : Except String (Option MediaChunk) := do
  match ← downloadMediaChunk grammers registry downloads data with
  | none => return none
  | some chunk => return some (← chunk.toCompatibility decoder)

/-! ### What grammers documents -/

/-- The sizes that do not make the iterator panic. -/
def Divides (size : Int) : Prop :=
  minChunkSize ≤ size ∧ size ≤ maxChunkSize ∧ size.tmod minChunkSize = 0

/-- A chunk of a file, if the file goes on that far. -/
def chunkOf (file : List Byte) (size count : Nat) : Option (List Byte) :=
  if size * count < file.length then some ((file.drop (size * count)).take size) else none

/-- The first read of the iterator answers the chunk that it begins at. -/
def Reads (downloads : Downloads ρ α μ) (file : μ → List Byte) : Prop :=
  ∀ media size count answer, Divides size → 0 ≤ count →
    (downloads.iterDownload media size count).next = .ok answer →
      answer.map Prod.fst = chunkOf (file media) size.toNat count.toNat

theorem validateChunkSize_eq_ok {size checked : Int} :
    validateChunkSize size = .ok checked ↔ Divides size ∧ checked = size := by
  unfold validateChunkSize Divides
  split
  · next divides =>
      constructor
      · intro same
        exact ⟨divides, (Except.ok.inj same).symm⟩
      · intro both
        rw [both.2]
  · next differs =>
      constructor
      · exact nofun
      · intro both
        exact absurd both.1 differs

/-! ### One call -/

section Answers

variable {grammers registry} {downloads : Downloads ρ α μ} {decoder : Base64Decoder}

/-- What a call for a chunk of a file answers. -/
def answerOf (file : List Byte) (chunkSize skipChunks : Int) : Option MediaChunk :=
  (chunkOf file chunkSize.toNat skipChunks.toNat).map fun bytes =>
    { offset := chunkSize * skipChunks, size := bytes.length, data := bytes }

theorem mediaChunk_answer (data : DownloadChunkPayload) {peer : ρ} {media : μ}
    {file : μ → List Byte} (reads : Reads downloads file)
    (resolved : resolvePeer grammers registry data.peer = .ok peer)
    (found : messageMedia downloads peer data.messageId = .ok media)
    {answer : Option MediaChunk}
    (answered : mediaChunk grammers registry decoder downloads data = .ok answer) :
    0 ≤ data.skipChunks ∧ Divides data.chunkSize ∧
      answer = answerOf (file media) data.chunkSize data.skipChunks := by
  obtain ⟨chunk, called, projected⟩ := bind_eq_ok.mp answered
  unfold downloadMediaChunk at called
  have skipped : 0 ≤ data.skipChunks := by
    by_contra negative
    rw [if_pos (by omega)] at called
    cases called
  rw [if_neg (by omega)] at called
  obtain ⟨size, checked, continued⟩ := bind_eq_ok.mp called
  obtain ⟨divides, same⟩ := validateChunkSize_eq_ok.mp checked
  subst same
  obtain ⟨_, resolvedTo, continued⟩ := bind_eq_ok.mp continued
  cases resolved.symm.trans resolvedTo
  obtain ⟨_, foundIn, continued⟩ := bind_eq_ok.mp continued
  cases found.symm.trans foundIn
  obtain ⟨read, next, continued⟩ := bind_eq_ok.mp continued
  have documented := reads media data.chunkSize data.skipChunks read divides skipped next
  refine ⟨skipped, divides, ?_⟩
  unfold answerOf
  rw [← documented]
  cases read with
  | none =>
      cases continued
      exact (Except.ok.inj projected).symm
  | some item =>
      obtain ⟨bytes, rest⟩ := item
      cases continued
      obtain ⟨facade, converted, given⟩ := bind_eq_ok.mp projected
      cases given
      obtain ⟨decoded, decodes, made⟩ := bind_eq_ok.mp converted
      rw [base64_eq_encode, decoder.decodes] at decodes
      cases decodes
      cases made
      rfl

/-- Where nothing fails before the chunk is read, a call answers. -/
theorem answerOf_some {file : List Byte} {chunkSize skipChunks : Int} {chunk : MediaChunk}
    (answered : answerOf file chunkSize skipChunks = some chunk) :
    chunkSize.toNat * skipChunks.toNat < file.length ∧
      chunk.data = (file.drop (chunkSize.toNat * skipChunks.toNat)).take chunkSize.toNat ∧
      chunk.offset = chunkSize * skipChunks ∧ chunk.size = chunk.data.length := by
  unfold answerOf chunkOf at answered
  split at answered
  · next within =>
      cases answered
      exact ⟨within, rfl, rfl, rfl⟩
  · cases answered

theorem answerOf_none {file : List Byte} {chunkSize skipChunks : Int}
    (answered : answerOf file chunkSize skipChunks = none) :
    file.length ≤ chunkSize.toNat * skipChunks.toNat := by
  unfold answerOf chunkOf at answered
  split at answered
  · cases answered
  · omega

end Answers

/-! ### Chunk after chunk -/

structure Download where
  taken : Nat
  collected : List Byte

/-- A caller that asks for one chunk after the other until there is none. -/
def download (serve : Nat → Except String (Option MediaChunk)) :
    Loop Download (Except String (List Byte)) where
  step state :=
    match serve state.taken with
    | .error failure => .inl (.error failure)
    | .ok none => .inl (.ok state.collected)
    | .ok (some chunk) => .inr ⟨state.taken + 1, state.collected ++ chunk.data⟩

/-- Each call that is answered answers the chunk of that number. -/
def ServesChunks (file : List Byte) (chunkSize : Int)
    (serve : Nat → Except String (Option MediaChunk)) : Prop :=
  ∀ taken < 2 ^ 31, ∀ answer, serve taken = .ok answer → answer = answerOf file chunkSize taken

theorem download_from {file : List Byte} {chunkSize : Int}
    {serve : Nat → Except String (Option MediaChunk)}
    (serves : ServesChunks file chunkSize serve) (positive : 0 < chunkSize.toNat)
    (small : file.length ≤ chunkSize.toNat * (2 ^ 31 - 1)) (left : Nat) :
    ∀ taken, file.length - chunkSize.toNat * taken ≤ left →
      chunkSize.toNat * taken < file.length + chunkSize.toNat →
      ∃ outcome, (download serve).Ends ⟨taken, file.take (chunkSize.toNat * taken)⟩ outcome ∧
        ∀ bytes, outcome = .ok bytes → bytes = file := by
  induction left using Nat.strongRecOn with
  | ind left ih =>
    intro taken within reached
    have low : taken < 2 ^ 31 := by
      have below : chunkSize.toNat * taken < chunkSize.toNat * 2 ^ 31 := by omega
      exact Nat.lt_of_mul_lt_mul_left below
    cases served : serve taken with
    | error failure =>
        exact ⟨.error failure, Loop.ends_of_inl (by simp only [download, served]), nofun⟩
    | ok answer =>
        have answered := serves taken low answer served
        cases answer with
        | none =>
            have whole := answerOf_none answered.symm
            rw [Int.toNat_natCast] at whole
            rw [List.take_of_length_le whole]
            refine ⟨.ok file, Loop.ends_of_inl (by simp only [download, served]), fun bytes same => ?_⟩
            exact (Except.ok.inj same).symm
        | some chunk =>
            obtain ⟨inside, data, -, -⟩ := answerOf_some answered.symm
            rw [Int.toNat_natCast] at inside data
            have more : chunkSize.toNat * (taken + 1) =
                chunkSize.toNat * taken + chunkSize.toNat := Nat.mul_succ _ _
            have goesOn : (download serve).step ⟨taken, file.take (chunkSize.toNat * taken)⟩ =
                .inr ⟨taken + 1, file.take (chunkSize.toNat * (taken + 1))⟩ := by
              simp only [download, served, data, more, List.take_add]
            obtain ⟨outcome, ends, whole⟩ := ih (file.length - chunkSize.toNat * (taken + 1))
              (by omega) (taken + 1) (Nat.le_refl _) (by omega)
            exact ⟨outcome, (Loop.ends_inr_iff goesOn).mpr ends, whole⟩

section Whole

variable {grammers registry} {downloads : Downloads ρ α μ} {decoder : Base64Decoder}
  {file : μ → List Byte} {data : DownloadChunkPayload} {peer : ρ} {media : μ}

/-- The call for the chunk of a number. -/
def chunkAt (grammers : Grammers π ρ) (registry : PeerRegistry π) (decoder : Base64Decoder)
    (downloads : Downloads ρ α μ) (data : DownloadChunkPayload) (taken : Nat) :
    Except String (Option MediaChunk) :=
  mediaChunk grammers registry decoder downloads { data with skipChunks := kotlinInt taken }

theorem chunkAt_serves (reads : Reads downloads file)
    (resolved : resolvePeer grammers registry data.peer = .ok peer)
    (found : messageMedia downloads peer data.messageId = .ok media) :
    ServesChunks (file media) data.chunkSize
      (chunkAt grammers registry decoder downloads data) := by
  intro taken small answer answered
  obtain ⟨-, -, same⟩ := mediaChunk_answer { data with skipChunks := kotlinInt taken } reads
    resolved found answered
  rw [same]
  simp only [kotlinInt_eq small]

/-- Whatever is skipped, a chunk that is answered is the part of the file at its offset, and
none is answered past the end; and if the numbers of a file's chunks fit a Kotlin `Int`, a
download chunk after chunk ends, with the file if no call of it fails. -/
theorem chunks_are_the_file (reads : Reads downloads file)
    (resolved : resolvePeer grammers registry data.peer = .ok peer)
    (found : messageMedia downloads peer data.messageId = .ok media) :
    (∀ answer, mediaChunk grammers registry decoder downloads data = .ok answer →
      (answer = none ↔
        ((file media).length : Int) ≤ data.chunkSize * data.skipChunks) ∧
      ∀ chunk, answer = some chunk → chunk.offset = data.chunkSize * data.skipChunks ∧
        chunk.size = chunk.data.length ∧
        chunk.data = ((file media).drop chunk.offset.toNat).take data.chunkSize.toNat) ∧
    ((file media).length ≤ data.chunkSize.toNat * (2 ^ 31 - 1) →
      ∃ outcome,
        (download (chunkAt grammers registry decoder downloads data)).Ends ⟨0, []⟩ outcome ∧
          ∀ bytes, outcome = .ok bytes → bytes = file media) := by
  constructor
  · intro answer answered
    obtain ⟨skipped, divides, same⟩ := mediaChunk_answer data reads resolved found answered
    have least : 0 ≤ data.chunkSize := Int.le_trans (by decide) divides.1
    have offset : (data.chunkSize * data.skipChunks).toNat =
        data.chunkSize.toNat * data.skipChunks.toNat := Int.toNat_mul least skipped
    have above : 0 ≤ data.chunkSize * data.skipChunks := Int.mul_nonneg least skipped
    subst same
    constructor
    · cases answer : answerOf (file media) data.chunkSize data.skipChunks with
      | none =>
          have past := answerOf_none answer
          simp only [true_iff]
          omega
      | some chunk =>
          have inside := (answerOf_some answer).1
          simp only [reduceCtorEq, false_iff]
          omega
    · intro chunk given
      obtain ⟨-, part, at', size⟩ := answerOf_some given
      exact ⟨at', size, by rw [at', offset, part]⟩
  · intro small
    by_cases divides : Divides data.chunkSize
    · have least := divides.1
      have positive : 0 < data.chunkSize.toNat := by
        have unit : (0 : Int) < minChunkSize := by decide
        omega
      have serves : ServesChunks (file media) data.chunkSize
          (chunkAt grammers registry decoder downloads data) := chunkAt_serves reads resolved found
      have ended := download_from serves positive small _ 0 (Nat.le_refl _) (by omega)
      rwa [Nat.mul_zero, List.take_zero] at ended
    · cases served : chunkAt grammers registry decoder downloads data 0 with
      | error failure =>
          exact ⟨.error failure, Loop.ends_of_inl (by simp only [download, served]), nofun⟩
      | ok answer =>
          obtain ⟨-, checked, -⟩ := mediaChunk_answer { data with skipChunks := kotlinInt 0 }
            reads resolved found served
          exact absurd checked divides

end Whole
end Calls

/-- The decoder of the bridge is one for the encodings of the RFC. -/
def bridgeDecoder : Base64Decoder where
  decode := decodeBase64
  decodes bytes := by
    have accepted := accepted_encode bytes
    have plain : withoutWhitespace (Rfc4648.encode bytes) = Rfc4648.encode bytes :=
      List.filter_eq_self.mpr fun byte member => by simp [accepted.plain byte member]
    rw [decodeBase64_eq_ok, plain]
    exact accepted

def zeros : List Byte := List.replicate 5000 0

/-- Every peer's only message has a file of five thousand bytes. -/
def fiveThousand : Downloads InputPeer Unit Unit where
  getMessagesById _ _ := .ok [some ()]
  media _ := some ()
  iterDownload _ size count := ⟨(chunkOf zeros size.toNat count.toNat).toList, .ok ()⟩

theorem fiveThousand_reads : Reads fiveThousand fun _ => zeros := by
  intro media size count answer _ _ next
  simp only [fiveThousand, Source.next] at next
  cases chunk : chunkOf zeros size.toNat count.toNat with
  | none =>
      rw [chunk] at next
      cases next
      rfl
  | some bytes =>
      rw [chunk] at next
      cases next
      rfl

theorem chunks_are_the_file_fiveThousand :
    ∃ outcome, (download (chunkAt onlyAda noPeers bridgeDecoder fiveThousand
        ⟨⟨none, some "ada"⟩, 1, 4096, 0⟩)).Ends ⟨0, []⟩ outcome ∧
      ∀ bytes, outcome = .ok bytes → bytes = zeros := by
  have small : zeros.length ≤ (4096 : Int).toNat * (2 ^ 31 - 1) := by
    rw [zeros, List.length_replicate]
    decide
  exact (@chunks_are_the_file _ _ _ _ onlyAda noPeers fiveThousand bridgeDecoder
    (fun _ => zeros) ⟨⟨none, some "ada"⟩, 1, 4096, 0⟩ (.user 7 0) () fiveThousand_reads rfl
    rfl).2 small

end Kotlogramme.Files
