/-
Building a reply markup and reading it back.

A spec names one of four markups with its rows of buttons; the grammers builders
make the layer object, a projection flattens it into a document with a name for each
kind, and the facade turns the document back into a spec.  What the builders put into
the layer object is a parameter here, with what their documentation says of them.
-/

import Kotlogramme.Foundation.Traverse
import Kotlogramme.Protocol.Layer

namespace Kotlogramme.Messages

open Kotlogramme.Protocol

/-! ### The specs -/

inductive InlineButtonSpec
  | url (text url : String)
  | webView (text url : String)
  | callback (text data : String)
  | switchInline (text query : String) (samePeer : Option Bool)
  deriving DecidableEq

inductive KeyboardButtonSpec
  | text (text : String)
  | requestPhone (text : String)
  | requestGeo (text : String)
  | requestPoll (text : String) (quiz : Bool)
  deriving DecidableEq

inductive MarkupSpec
  | inline (rows : List (List InlineButtonSpec))
  | keyboard (rows : List (List KeyboardButtonSpec)) (fitSize singleUse selective : Bool)
  | forceReply (singleUse selective : Bool)
  | hide (selective : Bool)
  deriving DecidableEq

/-! ### The layer objects -/

inductive InlineQueryPeerType
  | sameBotPm | pm | chat | megagroup | broadcast | botPm

inductive InlineButtonType
  | url (url : String)
  | webView (url : String)
  | callback (requiresPassword : Bool) (data : ByteArray)
  | switchInline (samePeer : Bool) (query : String)
      (peerTypes : Option (List InlineQueryPeerType))
  | game
  | buy
  | urlAuth (fwdText : Option String) (url : String) (buttonId : Int)
  | inputUrlAuth (requestWriteAccess : Bool) (fwdText : Option String) (url : String)
      (bot : Option InputUser)
  | userProfile (userId : Int)
  | inputUserProfile (userId : InputUser)
  | copy (copyText : String)
  | disabled

structure KeyboardInlineButton where
  text : String
  type : InlineButtonType

/-- What kind of peer a `requestPeer` button asks for is left out. -/
inductive ButtonType
  | default
  | requestPhone
  | requestGeoLocation
  | requestPoll (quiz : Option Bool)
  | requestPeer (buttonId maxQuantity : Int)
  | inputRequestPeer (nameRequested usernameRequested photoRequested : Bool)
      (buttonId maxQuantity : Int)
  | simpleWebView (url : String)

structure KeyboardButton where
  text : String
  type : ButtonType

structure ReplyKeyboardMarkup where
  resize : Bool
  singleUse : Bool
  selective : Bool
  persistent : Bool
  forceReply : Bool
  rows : List (List KeyboardButton)
  placeholder : Option String

structure ReplyKeyboardForceReply where
  singleUse : Bool
  selective : Bool
  placeholder : Option String

inductive ReplyMarkup
  | inline (forceReply : Bool) (rows : List (List KeyboardInlineButton))
  | keyboard (markup : ReplyKeyboardMarkup)
  | forceReply (markup : ReplyKeyboardForceReply)
  | hide (selective : Bool)

/-! ### The builders -/

/-- The builders of grammers. -/
structure Builders where
  url : String → String → KeyboardInlineButton
  webview : String → String → KeyboardInlineButton
  data : String → ByteArray → KeyboardInlineButton
  switch : String → String → KeyboardInlineButton
  switchElsewhere : String → String → KeyboardInlineButton
  text : String → KeyboardButton
  requestPhone : String → KeyboardButton
  requestGeo : String → KeyboardButton
  requestPoll : String → KeyboardButton
  requestQuiz : String → KeyboardButton
  fromButtons : List (List KeyboardInlineButton) → ReplyMarkup
  fromKeys : List (List KeyboardButton) → ReplyMarkup
  forceReply : ReplyMarkup
  hide : ReplyMarkup
  fitSize : ReplyMarkup → ReplyMarkup
  singleUse : ReplyMarkup → ReplyMarkup
  selective : ReplyMarkup → ReplyMarkup

/-- The layer fields that the builders' documentation names. -/
structure Documented (builders : Builders) : Prop where
  url : ∀ text url, builders.url text url = ⟨text, .url url⟩
  webview : ∀ text url, builders.webview text url = ⟨text, .webView url⟩
  data : ∀ text data, builders.data text data = ⟨text, .callback false data⟩
  switch : ∀ text query, builders.switch text query = ⟨text, .switchInline true query none⟩
  switchElsewhere : ∀ text query,
    builders.switchElsewhere text query = ⟨text, .switchInline false query none⟩
  text : ∀ text, builders.text text = ⟨text, .default⟩
  requestPhone : ∀ text, builders.requestPhone text = ⟨text, .requestPhone⟩
  requestGeo : ∀ text, builders.requestGeo text = ⟨text, .requestGeoLocation⟩
  requestPoll : ∀ text, builders.requestPoll text = ⟨text, .requestPoll (some false)⟩
  requestQuiz : ∀ text, builders.requestQuiz text = ⟨text, .requestPoll (some true)⟩
  fromButtons : ∀ rows, builders.fromButtons rows = .inline false rows
  fromKeys : ∀ rows,
    builders.fromKeys rows = .keyboard ⟨false, false, false, false, false, rows, none⟩
  forceReply : builders.forceReply = .forceReply ⟨false, false, none⟩
  hide : builders.hide = .hide false
  fitSize : ∀ markup,
    builders.fitSize (.keyboard markup) = .keyboard { markup with resize := true }
  keyboardSingleUse : ∀ markup,
    builders.singleUse (.keyboard markup) = .keyboard { markup with singleUse := true }
  forceReplySingleUse : ∀ markup,
    builders.singleUse (.forceReply markup) = .forceReply { markup with singleUse := true }
  keyboardSelective : ∀ markup,
    builders.selective (.keyboard markup) = .keyboard { markup with selective := true }
  forceReplySelective : ∀ markup,
    builders.selective (.forceReply markup) = .forceReply { markup with selective := true }
  hideSelective : ∀ selective, builders.selective (.hide selective) = .hide true

/-! ### Building -/

def callbackDataLimit : Nat := 64

def label (text : String) : Except String String :=
  if text.isEmpty then .error "a button label must not be empty" else .ok text

def callbackData (data : String) : Except String ByteArray :=
  if data.isEmpty then .error "callback data must not be empty"
  else if data.utf8ByteSize > callbackDataLimit then
    .error ("callback data must be at most " ++ toString callbackDataLimit ++
      " bytes, but it is " ++ toString data.utf8ByteSize)
  else .ok data.toUTF8

/-- A row matrix; an empty matrix and an empty row are refused. -/
def buildRows {σ β : Type} (specs : List (List σ)) (build : σ → Except String β) :
    Except String (List (List β)) :=
  if specs.isEmpty then .error "a reply markup must contain at least one row of buttons"
  else
    specs.zipIdx.mapM fun (row, index) =>
      if row.isEmpty then .error ("row " ++ toString index ++ " has no buttons")
      else row.mapM build

section Building

variable (builders : Builders)

def inlineButton : InlineButtonSpec → Except String KeyboardInlineButton
  | .url text url => do return builders.url (← label text) url
  | .webView text url => do return builders.webview (← label text) url
  | .callback text data => do
      let text ← label text
      return builders.data text (← callbackData data)
  | .switchInline text query samePeer => do
      let text ← label text
      if samePeer.getD true then return builders.switch text query
      else return builders.switchElsewhere text query

def keyboardButton : KeyboardButtonSpec → Except String KeyboardButton
  | .text text => do return builders.text (← label text)
  | .requestPhone text => do return builders.requestPhone (← label text)
  | .requestGeo text => do return builders.requestGeo (← label text)
  | .requestPoll text quiz => do
      let text ← label text
      if quiz then return builders.requestQuiz text
      else return builders.requestPoll text

def replyKeyboardMarkup (fitSize singleUse selective : Bool)
    (rows : List (List KeyboardButton)) : ReplyMarkup :=
  let markup := builders.fromKeys rows
  let markup := if fitSize then builders.fitSize markup else markup
  let markup := if singleUse then builders.singleUse markup else markup
  if selective then builders.selective markup else markup

def forceReplyMarkup (singleUse selective : Bool) : ReplyMarkup :=
  let markup := builders.forceReply
  let markup := if singleUse then builders.singleUse markup else markup
  if selective then builders.selective markup else markup

def hideKeyboardMarkup (selective : Bool) : ReplyMarkup :=
  if selective then builders.selective builders.hide else builders.hide

def replyMarkupFromSpec : MarkupSpec → Except String ReplyMarkup
  | .inline rows => do return builders.fromButtons (← buildRows rows (inlineButton builders))
  | .keyboard rows fitSize singleUse selective => do
      let rows ← buildRows rows (keyboardButton builders)
      return replyKeyboardMarkup builders fitSize singleUse selective rows
  | .forceReply singleUse selective => .ok (forceReplyMarkup builders singleUse selective)
  | .hide selective => .ok (hideKeyboardMarkup builders selective)

end Building

/-! ### The projection -/

structure ButtonDto where
  kind : String
  text : String
  url : Option String := none
  data : Option String := none
  requiresPassword : Option Bool := none
  fwdText : Option String := none
  buttonId : Option Int := none
  query : Option String := none
  samePeer : Option Bool := none
  peerTypes : Option (List String) := none
  quiz : Option Bool := none
  userId : Option Int := none
  copyText : Option String := none
  maxQuantity : Option Int := none
  requestWriteAccess : Option Bool := none

structure ReplyMarkupDto where
  kind : String
  rows : List (List ButtonDto) := []
  fitSize : Bool := false
  singleUse : Bool := false
  selective : Bool := false
  persistent : Bool := false
  placeholder : Option String := none

def peerTypeName : InlineQueryPeerType → String
  | .sameBotPm => "sameBotPm"
  | .pm => "pm"
  | .chat => "chat"
  | .megagroup => "megagroup"
  | .broadcast => "broadcast"
  | .botPm => "botPm"

def inlineButtonDto (button : KeyboardInlineButton) : ButtonDto :=
  let text := button.text
  match button.type with
  | .url url => { kind := "url", text, url := some url }
  | .webView url => { kind := "webView", text, url := some url }
  | .callback requiresPassword data =>
      { kind := "callback", text, data := String.fromUTF8? data,
        requiresPassword := some requiresPassword }
  | .switchInline samePeer query peerTypes =>
      { kind := "switchInline", text, query := some query, samePeer := some samePeer,
        peerTypes := peerTypes.map fun types => types.map peerTypeName }
  | .game => { kind := "game", text }
  | .buy => { kind := "pay", text }
  | .urlAuth fwdText url buttonId =>
      { kind := "urlAuth", text, fwdText, url := some url, buttonId := some buttonId }
  | .inputUrlAuth requestWriteAccess fwdText url _ =>
      { kind := "inputUrlAuth", text, fwdText, url := some url,
        requestWriteAccess := some requestWriteAccess }
  | .userProfile userId => { kind := "userProfile", text, userId := some userId }
  | .inputUserProfile _ => { kind := "inputUserProfile", text }
  | .copy copyText => { kind := "copy", text, copyText := some copyText }
  | .disabled => { kind := "disabled", text }

def keyboardButtonDto (button : KeyboardButton) : ButtonDto :=
  let text := button.text
  match button.type with
  | .default => { kind := "text", text }
  | .requestPhone => { kind := "requestPhone", text }
  | .requestGeoLocation => { kind := "requestGeo", text }
  | .requestPoll quiz => { kind := "requestPoll", text, quiz }
  | .requestPeer buttonId maxQuantity =>
      { kind := "requestPeer", text, buttonId := some buttonId,
        maxQuantity := some maxQuantity }
  | .inputRequestPeer _ _ _ buttonId maxQuantity =>
      { kind := "inputRequestPeer", text, buttonId := some buttonId,
        maxQuantity := some maxQuantity }
  | .simpleWebView url => { kind := "simpleWebView", text, url := some url }

def inlineRowsDto (rows : List (List KeyboardInlineButton)) : List (List ButtonDto) :=
  rows.map fun row => row.map inlineButtonDto

def keyboardRowsDto (rows : List (List KeyboardButton)) : List (List ButtonDto) :=
  rows.map fun row => row.map keyboardButtonDto

def replyMarkupDto : ReplyMarkup → ReplyMarkupDto
  | .inline _ rows => { kind := "inline", rows := inlineRowsDto rows }
  | .keyboard markup =>
      { kind := "keyboard"
        rows := keyboardRowsDto markup.rows
        fitSize := markup.resize
        singleUse := markup.singleUse
        selective := markup.selective
        persistent := markup.persistent
        placeholder := markup.placeholder }
  | .forceReply markup =>
      { kind := "forceReply"
        singleUse := markup.singleUse
        selective := markup.selective
        placeholder := markup.placeholder }
  | .hide selective => { kind := "hide", selective }

/-! ### The facade -/

def ButtonDto.requireField (button : ButtonDto) (name : String) :
    Option String → Except String String
  | some value => .ok value
  | none => .error ("a " ++ button.kind ++ " button carries no " ++ name)

def ButtonDto.asInlineSpec (button : ButtonDto) : Except String InlineButtonSpec :=
  match button.kind with
  | "url" => do return .url button.text (← button.requireField "url" button.url)
  | "webView" => do return .webView button.text (← button.requireField "url" button.url)
  | "callback" => do return .callback button.text (← button.requireField "data" button.data)
  | "switchInline" => do
      return .switchInline button.text (← button.requireField "query" button.query)
        button.samePeer
  | kind => .error ("grammers builds no inline button of kind '" ++ kind ++ "'")

def ButtonDto.asKeyboardSpec (button : ButtonDto) : Except String KeyboardButtonSpec :=
  match button.kind with
  | "text" => .ok (.text button.text)
  | "requestPhone" => .ok (.requestPhone button.text)
  | "requestGeo" => .ok (.requestGeo button.text)
  | "requestPoll" => .ok (.requestPoll button.text (button.quiz.getD false))
  | kind => .error ("grammers builds no keyboard button of kind '" ++ kind ++ "'")

def ReplyMarkupDto.asSpec (markup : ReplyMarkupDto) : Except String MarkupSpec :=
  match markup.kind with
  | "inline" => do return .inline (← markup.rows.mapM fun row => row.mapM ButtonDto.asInlineSpec)
  | "keyboard" => do
      let rows ← markup.rows.mapM fun row => row.mapM ButtonDto.asKeyboardSpec
      return .keyboard rows markup.fitSize markup.singleUse markup.selective
  | "forceReply" => .ok (.forceReply markup.singleUse markup.selective)
  | "hide" => .ok (.hide markup.selective)
  | kind => .error ("grammers builds no markup of kind '" ++ kind ++ "'")

/-! ### Reading back -/

/-- A spec as it is read back, with an absent `samePeer` as `true`. -/
def InlineButtonSpec.readBack : InlineButtonSpec → InlineButtonSpec
  | .switchInline text query none => .switchInline text query (some true)
  | spec => spec

def MarkupSpec.readBack : MarkupSpec → MarkupSpec
  | .inline rows => .inline (rows.map fun row => row.map InlineButtonSpec.readBack)
  | spec => spec

theorem fromUTF8?_toUTF8 (data : String) : String.fromUTF8? data.toUTF8 = some data := by
  have valid : data.toUTF8.IsValidUTF8 := data.isValidUTF8
  rw [String.fromUTF8?, dif_pos valid]
  rfl

theorem label_eq_ok {text named : String} (accepted : label text = .ok named) : named = text := by
  unfold label at accepted
  split at accepted
  · cases accepted
  · exact (Except.ok.inj accepted).symm

theorem callbackData_eq_ok {data : String} {bytes : ByteArray}
    (accepted : callbackData data = .ok bytes) : bytes = data.toUTF8 := by
  unfold callbackData at accepted
  split at accepted
  · cases accepted
  · split at accepted
    · cases accepted
    · exact (Except.ok.inj accepted).symm

section Rows

variable {σ β γ : Type} {build : σ → Except String β} {specs : List (List σ)}
  {rows : List (List β)}

/-- The accepted rows are built button by button. -/
theorem buildRows_eq_ok (accepted : buildRows specs build = .ok rows) :
    List.Forall₂ (List.Forall₂ fun spec button => build spec = .ok button) specs rows := by
  unfold buildRows at accepted
  split at accepted
  · cases accepted
  · rw [mapM_eq_ok_iff] at accepted
    rw [← List.zipIdx_map_fst 0 specs, List.forall₂_map_left_iff]
    refine List.Forall₂.imp (fun numbered buttons builtRow => ?_) accepted
    obtain ⟨row, index⟩ := numbered
    dsimp only at builtRow
    by_cases noButtons : row.isEmpty = true
    · rw [if_pos noButtons] at builtRow
      cases builtRow
    · rw [if_neg noButtons] at builtRow
      exact mapM_eq_ok_iff.mp builtRow

/-- Rows that are read back button by button are read back as a whole. -/
theorem mapM_rows_of_built {project : β → γ} {readBack : γ → Except String σ} {image : σ → σ}
    (reads : ∀ spec button, build spec = .ok button →
      readBack (project button) = .ok (image spec))
    (built : List.Forall₂ (List.Forall₂ fun spec button => build spec = .ok button) specs rows) :
    ((rows.map fun row => row.map project).mapM fun row => row.mapM readBack) =
      .ok (specs.map fun row => row.map image) := by
  rw [mapM_eq_ok_iff, List.forall₂_map_left_iff, List.forall₂_map_right_iff]
  refine List.Forall₂.imp (fun row buttons builtRow => ?_) built.flip
  rw [mapM_eq_ok_iff, List.forall₂_map_left_iff, List.forall₂_map_right_iff]
  exact List.Forall₂.imp (fun button spec isBuilt => reads spec button isBuilt) builtRow.flip

end Rows

section Documented

variable {builders : Builders} (documented : Documented builders)

include documented

theorem asInlineSpec_of_built {spec : InlineButtonSpec} {button : KeyboardInlineButton}
    (built : inlineButton builders spec = .ok button) :
    (inlineButtonDto button).asInlineSpec = .ok spec.readBack := by
  cases spec with
  | url text url =>
      obtain ⟨named, labelled, made⟩ := bind_eq_ok.mp built
      cases made
      rw [documented.url, label_eq_ok labelled]
      rfl
  | webView text url =>
      obtain ⟨named, labelled, made⟩ := bind_eq_ok.mp built
      cases made
      rw [documented.webview, label_eq_ok labelled]
      rfl
  | callback text data =>
      obtain ⟨named, labelled, continued⟩ := bind_eq_ok.mp built
      obtain ⟨bytes, checked, made⟩ := bind_eq_ok.mp continued
      cases made
      rw [documented.data, label_eq_ok labelled, callbackData_eq_ok checked]
      simp only [inlineButtonDto, fromUTF8?_toUTF8]
      rfl
  | switchInline text query samePeer =>
      obtain ⟨named, labelled, made⟩ := bind_eq_ok.mp built
      rw [label_eq_ok labelled] at made
      rcases samePeer with _ | _ | _
      · cases made
        rw [documented.switch]
        rfl
      · cases made
        rw [documented.switchElsewhere]
        rfl
      · cases made
        rw [documented.switch]
        rfl

theorem asKeyboardSpec_of_built {spec : KeyboardButtonSpec} {button : KeyboardButton}
    (built : keyboardButton builders spec = .ok button) :
    (keyboardButtonDto button).asKeyboardSpec = .ok spec := by
  cases spec with
  | text text =>
      obtain ⟨named, labelled, made⟩ := bind_eq_ok.mp built
      cases made
      rw [documented.text, label_eq_ok labelled]
      rfl
  | requestPhone text =>
      obtain ⟨named, labelled, made⟩ := bind_eq_ok.mp built
      cases made
      rw [documented.requestPhone, label_eq_ok labelled]
      rfl
  | requestGeo text =>
      obtain ⟨named, labelled, made⟩ := bind_eq_ok.mp built
      cases made
      rw [documented.requestGeo, label_eq_ok labelled]
      rfl
  | requestPoll text quiz =>
      obtain ⟨named, labelled, made⟩ := bind_eq_ok.mp built
      rw [label_eq_ok labelled] at made
      cases quiz with
      | false =>
          cases made
          rw [documented.requestPoll]
          rfl
      | true =>
          cases made
          rw [documented.requestQuiz]
          rfl

theorem replyKeyboardMarkup_eq (fitSize singleUse selective : Bool)
    (rows : List (List KeyboardButton)) :
    replyKeyboardMarkup builders fitSize singleUse selective rows =
      .keyboard ⟨fitSize, singleUse, selective, false, false, rows, none⟩ := by
  cases fitSize <;> cases singleUse <;> cases selective <;>
    simp [replyKeyboardMarkup, documented.fromKeys, documented.fitSize,
      documented.keyboardSingleUse, documented.keyboardSelective]

theorem forceReplyMarkup_eq (singleUse selective : Bool) :
    forceReplyMarkup builders singleUse selective =
      .forceReply ⟨singleUse, selective, none⟩ := by
  cases singleUse <;> cases selective <;>
    simp [forceReplyMarkup, documented.forceReply, documented.forceReplySingleUse,
      documented.forceReplySelective]

theorem hideKeyboardMarkup_eq (selective : Bool) :
    hideKeyboardMarkup builders selective = .hide selective := by
  cases selective <;> simp [hideKeyboardMarkup, documented.hide, documented.hideSelective]

/-- A markup that is built from a spec is read back as that spec, with an absent
`samePeer` as `true`. -/
theorem asSpec_of_built {spec : MarkupSpec} {markup : ReplyMarkup}
    (built : replyMarkupFromSpec builders spec = .ok markup) :
    (replyMarkupDto markup).asSpec = .ok spec.readBack := by
  cases spec with
  | inline specs =>
      obtain ⟨rows, builtRows, made⟩ := bind_eq_ok.mp built
      cases made
      have read := mapM_rows_of_built (fun _ _ => asInlineSpec_of_built documented)
        (buildRows_eq_ok builtRows)
      rw [documented.fromButtons]
      simp only [replyMarkupDto, inlineRowsDto, ReplyMarkupDto.asSpec, read]
      rfl
  | keyboard specs fitSize singleUse selective =>
      obtain ⟨rows, builtRows, made⟩ := bind_eq_ok.mp built
      cases made
      have reads : ∀ spec button, keyboardButton builders spec = .ok button →
          (keyboardButtonDto button).asKeyboardSpec = .ok (id spec) :=
        fun _ _ => asKeyboardSpec_of_built documented
      have read := mapM_rows_of_built reads (buildRows_eq_ok builtRows)
      rw [replyKeyboardMarkup_eq documented]
      have same : (specs.map fun row => row.map id) = specs := by simp
      rw [same] at read
      simp only [replyMarkupDto, keyboardRowsDto, ReplyMarkupDto.asSpec, read]
      rfl
  | forceReply singleUse selective =>
      cases built
      rw [forceReplyMarkup_eq documented]
      rfl
  | hide selective =>
      cases built
      rw [hideKeyboardMarkup_eq documented]
      rfl

end Documented

/-- Builders that behave as documented. -/
def documentedBuilders : Builders where
  url text url := ⟨text, .url url⟩
  webview text url := ⟨text, .webView url⟩
  data text data := ⟨text, .callback false data⟩
  switch text query := ⟨text, .switchInline true query none⟩
  switchElsewhere text query := ⟨text, .switchInline false query none⟩
  text text := ⟨text, .default⟩
  requestPhone text := ⟨text, .requestPhone⟩
  requestGeo text := ⟨text, .requestGeoLocation⟩
  requestPoll text := ⟨text, .requestPoll (some false)⟩
  requestQuiz text := ⟨text, .requestPoll (some true)⟩
  fromButtons rows := .inline false rows
  fromKeys rows := .keyboard ⟨false, false, false, false, false, rows, none⟩
  forceReply := .forceReply ⟨false, false, none⟩
  hide := .hide false
  fitSize
    | .keyboard markup => .keyboard { markup with resize := true }
    | markup => markup
  singleUse
    | .keyboard markup => .keyboard { markup with singleUse := true }
    | .forceReply markup => .forceReply { markup with singleUse := true }
    | markup => markup
  selective
    | .keyboard markup => .keyboard { markup with selective := true }
    | .forceReply markup => .forceReply { markup with selective := true }
    | .hide _ => .hide true
    | markup => markup

theorem documentedBuilders_documented : Documented documentedBuilders := by
  constructor <;> intros <;> rfl

/-- Two rows with a link, a callback and a search in another chat. -/
def voteSpec : MarkupSpec :=
  .inline [[.url "Docs" "https://example.org", .callback "Yes" "vote:yes"],
    [.switchInline "Search" "cats " (some false), .switchInline "Here" "" none]]

theorem asSpec_of_built_voteSpec :
    ∃ markup, replyMarkupFromSpec documentedBuilders voteSpec = .ok markup ∧
      (replyMarkupDto markup).asSpec = .ok voteSpec.readBack := by
  have built : ∃ markup, replyMarkupFromSpec documentedBuilders voteSpec = .ok markup :=
    ⟨_, rfl⟩
  obtain ⟨markup, isBuilt⟩ := built
  exact ⟨markup, isBuilt, asSpec_of_built documentedBuilders_documented isBuilt⟩

end Kotlogramme.Messages
