import GreenBubbles.Connector.Approval

/-! # What identities and approvals bind

Both byte strings join fields with zero bytes. The JSON parts of a draft and its
digests contain none, so a draft is read back from its identity as soon as the
account, the source fingerprint, the requester and the connector version contain
none; an approval, as soon as the account, the conversation and the adapter's
name and version do.
-/
namespace GreenBubbles.Connector

open Library Library.Bytes
open Outbox (ActionCapability)

def NulFree (text : String) : Prop := '\x00' ∉ text.toList

instance (text : String) : Decidable (NulFree text) :=
  inferInstanceAs (Decidable ('\x00' ∉ text.toList))

/-! The text of a draft's identity -/

def joined (values : List String) : List Char := values.flatMap fun value => value.toList ++ ['\x00']

def intentText : Option ActionCapability → List Char
  | none => []
  | some intent => (Json.str (actionCapabilityName intent)).render ++ ['\x00']

def draftIdentityText (draft : ActionDraft) : List Char :=
  joined draft.identityFields ++ (draft.recipient.toJson.render ++
    '\x00' :: ((optionJson DraftReplyTarget.toJson draft.replyTarget).render ++
    '\x00' :: ((Json.arr (draft.attachments.map DraftAttachment.toJson)).render ++
    intentText draft.attachmentIntent)))

theorem utf8_ofList_append (first second : List Char) :
    utf8 (String.ofList (first ++ second)) =
      utf8 (String.ofList first) ++ utf8 (String.ofList second) := by
  rw [← utf8_append]
  congr 1
  apply String.toList_injective
  simp

theorem utf8_ofList_cons (rest : List Char) :
    utf8 (String.ofList ('\x00' :: rest)) = 0 :: utf8 (String.ofList rest) := by
  have hsplit := utf8_ofList_append ['\x00'] rest
  have hzero : utf8 (String.ofList ['\x00']) = [0] := by decide
  rw [List.singleton_append, hzero] at hsplit
  exact hsplit

theorem utf8_joined (values : List String) :
    utf8 (String.ofList (joined values)) = values.flatMap fun value => utf8 value ++ [0] := by
  induction values with
  | nil => rfl
  | cons value values ih =>
    rw [joined, List.flatMap_cons, List.append_assoc, utf8_ofList_append, String.ofList_toList,
      List.singleton_append, utf8_ofList_cons, List.flatMap_cons, List.append_assoc]
    rw [joined] at ih
    rw [ih, List.singleton_append]

theorem utf8_intentText (intent : Option ActionCapability) :
    utf8 (String.ofList (intentText intent)) = intentBytes intent := by
  cases intent with
  | none => rfl
  | some intent =>
    rw [intentText, utf8_ofList_append, utf8_ofList_cons]
    rfl

theorem draftIdentityBytes_eq (draft : ActionDraft) :
    draftIdentityBytes draft = utf8 (String.ofList (draftIdentityText draft)) ++
      (leBytes draft.createdAtUnixNanoseconds ++ leBytes draft.expiresAtUnixNanoseconds) := by
  simp only [draftIdentityText, draftIdentityBytes, utf8_ofList_append, utf8_ofList_cons,
    utf8_joined, utf8_intentText, Json.toText, List.append_assoc, List.cons_append,
    List.nil_append]

theorem text_eq_of_bytes {first second : ActionDraft}
    (h : draftIdentityBytes first = draftIdentityBytes second) :
    draftIdentityText first = draftIdentityText second ∧
      first.createdAtUnixNanoseconds = second.createdAtUnixNanoseconds ∧
      first.expiresAtUnixNanoseconds = second.expiresAtUnixNanoseconds := by
  rw [draftIdentityBytes_eq, draftIdentityBytes_eq] at h
  have htext := List.append_inj' h (by simp)
  have htimes := List.append_inj' htext.2 (by simp)
  exact ⟨String.ofList_injective (utf8_injective htext.1), leBytes_injective htimes.1,
    leBytes_injective htimes.2⟩

theorem nul_notMem_render (value : Json) : '\x00' ∉ value.render := by
  intro h
  exact absurd (Json.printable_render value _ h) (by decide)

theorem getLast?_attachments {before : List Char} {attachments : List Json} :
    (before ++ '\x00' :: (Json.arr attachments).render).getLast? ≠ some '\x00' := by
  have hne : (Json.arr attachments).render ≠ [] := by
    cases attachments <;> exact List.cons_ne_nil _ _
  rw [List.append_cons, List.getLast?_append_of_ne_nil _ hne]
  intro h
  exact nul_notMem_render _ (List.mem_of_getLast? h)

theorem getLast?_intent {before attachments : List Char} {intent : ActionCapability} :
    (before ++ '\x00' :: (attachments ++ intentText (some intent))).getLast? = some '\x00' := by
  rw [intentText, List.append_cons, ← List.append_assoc, ← List.append_assoc,
    List.getLast?_append_of_ne_nil _ (List.cons_ne_nil _ _)]
  rfl

/-- What follows the last zero of the text is the attachments and the intent: a
closing bracket ends it when there is no intent, a zero when there is one. -/
theorem attachments_of_text {before before' : List Char} {attachments attachments' : List Json}
    {intent intent' : Option ActionCapability}
    (h : before ++ '\x00' :: ((Json.arr attachments).render ++ intentText intent) =
      before' ++ '\x00' :: ((Json.arr attachments').render ++ intentText intent')) :
    before = before' ∧ attachments = attachments' ∧ intent = intent' := by
  cases intent with
  | none =>
    rw [intentText, List.append_nil] at h
    cases intent' with
    | none =>
      rw [intentText, List.append_nil] at h
      have hcut := cut_at_last (nul_notMem_render _) (nul_notMem_render _) h
      have harr := Json.render_inj (.arr attachments) (.arr attachments') [] []
        Json.delimited_nil Json.delimited_nil (by rw [hcut.2])
      exact ⟨hcut.1, Json.arr.inj harr.1, rfl⟩
    | some intent' =>
      have hends : (before ++ '\x00' :: (Json.arr attachments).render).getLast? = some '\x00' := by
        rw [h, getLast?_intent]
      exact absurd hends getLast?_attachments
  | some intent =>
    cases intent' with
    | none =>
      rw [intentText.eq_1, List.append_nil] at h
      have hends : (before' ++ '\x00' :: (Json.arr attachments').render).getLast? =
          some '\x00' := by rw [← h, getLast?_intent]
      exact absurd hends getLast?_attachments
    | some intent' =>
      have hends : (before ++ '\x00' :: ((Json.arr attachments).render ++
            (Json.str (actionCapabilityName intent)).render)) ++ ['\x00'] =
          (before' ++ '\x00' :: ((Json.arr attachments').render ++
            (Json.str (actionCapabilityName intent')).render)) ++ ['\x00'] := by
        simpa only [intentText, List.append_assoc, List.cons_append] using h
      have hfree : ∀ values capability, '\x00' ∉ (Json.arr values).render ++
          (Json.str (actionCapabilityName capability)).render := by
        intro values capability hmem
        rcases List.mem_append.mp hmem with hmem | hmem
        · exact nul_notMem_render _ hmem
        · exact nul_notMem_render _ hmem
      have hcut := cut_at_last (hfree _ _) (hfree _ _) (List.append_cancel_right hends)
      have hstop : ∀ capability,
          Json.Delimited (Json.str (actionCapabilityName capability)).render :=
        fun _ => Json.delimited_cons (by decide)
      have harr := Json.render_inj _ _ _ _ (hstop intent) (hstop intent') hcut.2
      have hstr := Json.render_inj (.str (actionCapabilityName intent))
        (.str (actionCapabilityName intent')) [] [] Json.delimited_nil Json.delimited_nil
        (by rw [harr.2])
      exact ⟨hcut.1, Json.arr.inj harr.1,
        congrArg some (actionCapabilityName_injective (Json.str.inj hstr.1))⟩

theorem joined_ends {values : List String} (h : values ≠ []) :
    ∃ before, joined values = before ++ ['\x00'] := by
  have hlast := List.dropLast_append_getLast h
  refine ⟨joined values.dropLast ++ (values.getLast h).toList, ?_⟩
  conv_lhs => rw [← hlast]
  simp [joined]

/-- The JSON parts of a draft are read from the end of the text. -/
theorem parts_of_text {first second : ActionDraft}
    (h : draftIdentityText first = draftIdentityText second) :
    joined first.identityFields = joined second.identityFields ∧
      first.recipient = second.recipient ∧ first.replyTarget = second.replyTarget ∧
      first.attachments = second.attachments ∧
      first.attachmentIntent = second.attachmentIntent := by
  have hreply : Function.Injective (optionJson DraftReplyTarget.toJson) :=
    optionJson_injective DraftReplyTarget.toJson_injective fun _ h => Json.noConfusion h
  have hattachments := List.map_injective_iff.mpr DraftAttachment.toJson_injective
  have hsplit : ∀ draft : ActionDraft, draftIdentityText draft =
      ((joined draft.identityFields ++ draft.recipient.toJson.render) ++
        '\x00' :: (optionJson DraftReplyTarget.toJson draft.replyTarget).render) ++
      '\x00' :: ((Json.arr (draft.attachments.map DraftAttachment.toJson)).render ++
        intentText draft.attachmentIntent) := by
    intro draft
    simp only [draftIdentityText, List.append_assoc, List.cons_append]
  rw [hsplit, hsplit] at h
  obtain ⟨hbefore, hvalues, hintent⟩ := attachments_of_text h
  have hcut := cut_at_last (nul_notMem_render _) (nul_notMem_render _) hbefore
  have htarget := Json.render_inj (optionJson DraftReplyTarget.toJson first.replyTarget)
    (optionJson DraftReplyTarget.toJson second.replyTarget) [] [] Json.delimited_nil
    Json.delimited_nil (by rw [hcut.2])
  obtain ⟨fields, hfields⟩ : ∃ before, joined first.identityFields = before ++ ['\x00'] :=
    joined_ends (List.cons_ne_nil _ _)
  obtain ⟨fields', hfields'⟩ : ∃ before, joined second.identityFields = before ++ ['\x00'] :=
    joined_ends (List.cons_ne_nil _ _)
  have hjoined := hcut.1
  rw [hfields, hfields', List.append_assoc, List.append_assoc, List.singleton_append,
    List.singleton_append] at hjoined
  have hrecipient := cut_at_last (nul_notMem_render _) (nul_notMem_render _) hjoined
  have hjson := Json.render_inj first.recipient.toJson second.recipient.toJson [] []
    Json.delimited_nil Json.delimited_nil (by rw [hrecipient.2])
  refine ⟨by rw [hfields, hfields', hrecipient.1], ?_, hreply htarget.1, hattachments hvalues,
    hintent⟩
  exact ResolvedConversation.toJson_injective hjson.1

/-! Reading the joined fields -/

theorem joined_cons (value : String) (values : List String) :
    joined (value :: values) = value.toList ++ '\x00' :: joined values := by
  simp [joined]

theorem joined_cons_inj {value value' : String} {values values' : List String}
    (hvalue : NulFree value) (hvalue' : NulFree value')
    (h : joined (value :: values) = joined (value' :: values')) :
    value = value' ∧ joined values = joined values' := by
  rw [joined_cons, joined_cons] at h
  have hcut := cut_at_first hvalue hvalue' h
  exact ⟨String.toList_injective hcut.1, hcut.2⟩

theorem joined_last {value value' : String} (h : joined [value] = joined [value']) :
    value = value' := by
  apply String.toList_injective
  simpa [joined] using h

theorem nulFree_of_isSha256 {value : String} (h : isSha256 value = true) : NulFree value :=
  nul_notMem_of_isSha256 h

/-- The unrestricted texts an identity joins before the last one are free of zeros. -/
structure ActionDraft.Separable (draft : ActionDraft) : Prop where
  accountId : NulFree draft.accountId
  sourceFingerprint : NulFree draft.sourceFingerprint
  requesterId : NulFree draft.requesterId
  connectorVersion : NulFree draft.connectorVersion

/-- Two drafts agree on all an identity is meant to bind. -/
structure SameBoundFields (first second : ActionDraft) : Prop where
  accountId : first.accountId = second.accountId
  conversationId : first.conversationId = second.conversationId
  recipient : first.recipient = second.recipient
  replyTarget : first.replyTarget = second.replyTarget
  renderedTextSha256 : first.renderedTextSha256 = second.renderedTextSha256
  attachments : first.attachments = second.attachments
  attachmentIntent : first.attachmentIntent = second.attachmentIntent
  sourceFingerprint : first.sourceFingerprint = second.sourceFingerprint
  policyDecisionId : first.policyDecisionId = second.policyDecisionId
  requesterId : first.requesterId = second.requesterId
  connectorVersion : first.connectorVersion = second.connectorVersion
  apiVersion : first.apiVersion = second.apiVersion
  createdAtUnixNanoseconds : first.createdAtUnixNanoseconds = second.createdAtUnixNanoseconds
  expiresAtUnixNanoseconds : first.expiresAtUnixNanoseconds = second.expiresAtUnixNanoseconds

/-- What an accepted draft says of its own identity. -/
structure ActionDraft.Accepted (draft : ActionDraft) : Prop where
  formatVersion : draft.formatVersion = 1
  policyDecisionId : isSha256 draft.policyDecisionId = true
  renderedTextSha256 : draft.renderedTextSha256 = Sha256.hexDigest (utf8 draft.renderedText)
  conversationId : draft.recipient.conversationId = draft.conversationId
  draftId : draft.draftId = draftIdentity draft

theorem accepted_of_valid {draft : ActionDraft} (h : validateDraftStructure draft = .ok ()) :
    draft.Accepted := by
  rw [validateDraftStructure, require_ok] at h
  simp only [ActionDraft.structureValid, ActionDraft.textValid, ActionDraft.recipientValid,
    Bool.and_eq_true, beq_iff_eq] at h
  obtain ⟨⟨⟨⟨⟨⟨⟨⟨⟨⟨⟨hformat, -⟩, -⟩, hpolicy⟩, -⟩, ⟨-, htext⟩⟩, -⟩, hrecipient⟩, -⟩, -⟩, -⟩, hid⟩ := h
  exact ⟨hformat, hpolicy, htext, hrecipient.1.1.1, hid.symm⟩

theorem identityFields_inj {first second : ActionDraft} (hfirst : first.Accepted)
    (hsecond : second.Accepted) (hsep : first.Separable) (hsep' : second.Separable)
    (hrecipient : first.recipient = second.recipient)
    (h : joined first.identityFields = joined second.identityFields) :
    first.identityFields = second.identityFields := by
  have hconversation : first.conversationId = second.conversationId := by
    rw [← hfirst.conversationId, ← hsecond.conversationId, hrecipient]
  have hdigest : ∀ draft : ActionDraft, draft.Accepted → NulFree draft.renderedTextSha256 := by
    intro draft hdraft
    rw [hdraft.renderedTextSha256]
    exact nulFree_of_isSha256 (isSha256_hexDigest _)
  unfold ActionDraft.identityFields at h ⊢
  obtain ⟨haccount, h⟩ := joined_cons_inj hsep.accountId hsep'.accountId h
  -- the conversation is known from the recipient, whatever characters it holds
  rw [joined_cons first.conversationId, joined_cons second.conversationId, hconversation] at h
  have h := (List.cons.inj (List.append_cancel_left h)).2
  obtain ⟨htext, h⟩ := joined_cons_inj (hdigest first hfirst) (hdigest second hsecond) h
  obtain ⟨hsource, h⟩ := joined_cons_inj hsep.sourceFingerprint hsep'.sourceFingerprint h
  obtain ⟨hpolicy, h⟩ := joined_cons_inj (nulFree_of_isSha256 hfirst.policyDecisionId)
    (nulFree_of_isSha256 hsecond.policyDecisionId) h
  obtain ⟨hrequester, h⟩ := joined_cons_inj hsep.requesterId hsep'.requesterId h
  obtain ⟨hversion, h⟩ := joined_cons_inj hsep.connectorVersion hsep'.connectorVersion h
  rw [haccount, hconversation, htext, hsource, hpolicy, hrequester, hversion, joined_last h]

theorem sameBoundFields_of_bytes {first second : ActionDraft} (hfirst : first.Accepted)
    (hsecond : second.Accepted) (hsep : first.Separable) (hsep' : second.Separable)
    (h : draftIdentityBytes first = draftIdentityBytes second) : SameBoundFields first second := by
  obtain ⟨htext, hcreated, hexpires⟩ := text_eq_of_bytes h
  obtain ⟨hjoined, hrecipient, hreply, hattachments, hintent⟩ := parts_of_text htext
  have hfields := identityFields_inj hfirst hsecond hsep hsep' hrecipient hjoined
  simp only [ActionDraft.identityFields, List.cons.injEq, and_true] at hfields
  obtain ⟨haccount, hconversation, hdigest, hsource, hpolicy, hrequester, hversion, hapi⟩ := hfields
  exact
    { accountId := haccount
      conversationId := hconversation
      recipient := hrecipient
      replyTarget := hreply
      renderedTextSha256 := hdigest
      attachments := hattachments
      attachmentIntent := hintent
      sourceFingerprint := hsource
      policyDecisionId := hpolicy
      requesterId := hrequester
      connectorVersion := hversion
      apiVersion := hapi
      createdAtUnixNanoseconds := hcreated
      expiresAtUnixNanoseconds := hexpires }

/-- Two byte strings with one digest. -/
def Collision (first second : List UInt8) : Prop :=
  first ≠ second ∧ Sha256.hexDigest first = Sha256.hexDigest second

/-- Drafts with one identity are one draft, unless the digest collided on what
their identities hash or on their texts. -/
theorem draft_eq_of_identity {first second : ActionDraft} (hfirst : first.Accepted)
    (hsecond : second.Accepted) (hsep : first.Separable) (hsep' : second.Separable)
    (h : first.draftId = second.draftId) :
    first = second ∨ Collision (draftIdentityBytes first) (draftIdentityBytes second) ∨
      Collision (utf8 first.renderedText) (utf8 second.renderedText) := by
  have hdigest : Sha256.hexDigest (draftIdentityBytes first) =
      Sha256.hexDigest (draftIdentityBytes second) := by
    rw [hfirst.draftId, hsecond.draftId] at h
    exact h
  by_cases hbytes : draftIdentityBytes first = draftIdentityBytes second
  · have hsame := sameBoundFields_of_bytes hfirst hsecond hsep hsep' hbytes
    have htexts : Sha256.hexDigest (utf8 first.renderedText) =
        Sha256.hexDigest (utf8 second.renderedText) := by
      rw [← hfirst.renderedTextSha256, ← hsecond.renderedTextSha256, hsame.renderedTextSha256]
    by_cases htext : utf8 first.renderedText = utf8 second.renderedText
    · left
      obtain ⟨⟩ := hsame
      have hformat := hfirst.formatVersion.trans hsecond.formatVersion.symm
      have hrendered := utf8_injective htext
      cases first
      cases second
      simp_all
    · exact .inr (.inr ⟨htext, htexts⟩)
  · exact .inr (.inl ⟨hbytes, hdigest⟩)

/-! Approvals -/

structure ActionAttemptIntent.Separable (intent : ActionAttemptIntent) : Prop where
  accountId : NulFree intent.accountId
  conversationId : NulFree intent.conversationId
  adapterId : NulFree intent.adapter.adapterId
  adapterVersion : NulFree intent.adapter.adapterVersion

/-- Two attempts agree on all an approval is meant to bind. -/
structure SameApproved (gate gate' : String) (first second : ActionAttemptIntent) : Prop where
  gateDecisionId : gate = gate'
  capability : first.capability = second.capability
  draftId : first.draftId = second.draftId
  accountId : first.accountId = second.accountId
  conversationId : first.conversationId = second.conversationId
  adapter : first.adapter = second.adapter

theorem approvalBindingBytes_eq (gate : String) (intent : ActionAttemptIntent) :
    approvalBindingBytes gate intent = utf8 (String.ofList (joined
      [gate, actionCapabilityName intent.capability, intent.draftId, intent.accountId,
       intent.conversationId, intent.adapter.adapterId, intent.adapter.adapterVersion,
       intent.adapter.clientBuildProfileId])) :=
  (utf8_joined _).symm

theorem nulFree_actionCapabilityName (capability : ActionCapability) :
    NulFree (actionCapabilityName capability) := by
  cases capability <;> decide

theorem sameApproved_of_bytes {gate gate' : String} {first second : ActionAttemptIntent}
    (hgate : isSha256 gate = true) (hgate' : isSha256 gate' = true)
    (hdraft : isSha256 first.draftId = true) (hdraft' : isSha256 second.draftId = true)
    (hsep : first.Separable) (hsep' : second.Separable)
    (h : approvalBindingBytes gate first = approvalBindingBytes gate' second) :
    SameApproved gate gate' first second := by
  rw [approvalBindingBytes_eq, approvalBindingBytes_eq] at h
  have h := String.ofList_injective (utf8_injective h)
  obtain ⟨hgate, h⟩ := joined_cons_inj (nulFree_of_isSha256 hgate) (nulFree_of_isSha256 hgate') h
  obtain ⟨hname, h⟩ := joined_cons_inj (nulFree_actionCapabilityName _)
    (nulFree_actionCapabilityName _) h
  obtain ⟨hdraft, h⟩ := joined_cons_inj (nulFree_of_isSha256 hdraft)
    (nulFree_of_isSha256 hdraft') h
  obtain ⟨haccount, h⟩ := joined_cons_inj hsep.accountId hsep'.accountId h
  obtain ⟨hconversation, h⟩ := joined_cons_inj hsep.conversationId hsep'.conversationId h
  obtain ⟨hid, h⟩ := joined_cons_inj hsep.adapterId hsep'.adapterId h
  obtain ⟨hversion, h⟩ := joined_cons_inj hsep.adapterVersion hsep'.adapterVersion h
  have hprofile := joined_last h
  have hadapter : first.adapter = second.adapter := by
    rw [show first.adapter = ⟨_, _, _⟩ from rfl, hid, hversion, hprofile]
  exact ⟨hgate, actionCapabilityName_injective hname, hdraft, haccount, hconversation, hadapter⟩

theorem sameApproved_of_binding {context context' : ActionGuardContext}
    {first second : ActionAttemptIntent}
    (hfirst : (assessActionAttempt context first).permitted = true)
    (hsecond : (assessActionAttempt context' second).permitted = true)
    (hsep : first.Separable) (hsep' : second.Separable)
    (h : first.approval.immutableBindingSha256 = second.approval.immutableBindingSha256) :
    SameApproved context.gate.gateDecisionId context'.gate.gateDecisionId first second ∨
      Collision (approvalBindingBytes context.gate.gateDecisionId first)
        (approvalBindingBytes context'.gate.gateDecisionId second) := by
  obtain ⟨hgate, hdraft, hbinding⟩ := expectedApprovalBinding_some (binding_of_permitted hfirst)
  obtain ⟨hgate', hdraft', hbinding'⟩ := expectedApprovalBinding_some (binding_of_permitted hsecond)
  by_cases hbytes : approvalBindingBytes context.gate.gateDecisionId first =
      approvalBindingBytes context'.gate.gateDecisionId second
  · exact .inl (sameApproved_of_bytes hgate hgate' hdraft hdraft' hsep hsep' hbytes)
  · exact .inr ⟨hbytes, by rw [← hbinding, ← hbinding', h]⟩

/-- Accepted drafts without zeros in their joined texts are bound by their
identity in every field, and accepted attempts by their approval in the gate
decision, the draft and the adapter. -/
theorem approval_binds_draft_and_adapter :
    (∀ first second : ActionDraft,
      validateDraftStructure first = .ok () → validateDraftStructure second = .ok () →
      first.Separable → second.Separable →
      (draftIdentityBytes first = draftIdentityBytes second → SameBoundFields first second) ∧
      (first.draftId = second.draftId →
        first = second ∨ Collision (draftIdentityBytes first) (draftIdentityBytes second) ∨
          Collision (utf8 first.renderedText) (utf8 second.renderedText))) ∧
    (∀ (context context' : ActionGuardContext) (first second : ActionAttemptIntent),
      (assessActionAttempt context first).permitted = true →
      (assessActionAttempt context' second).permitted = true →
      first.Separable → second.Separable →
      (approvalBindingBytes context.gate.gateDecisionId first =
          approvalBindingBytes context'.gate.gateDecisionId second →
        SameApproved context.gate.gateDecisionId context'.gate.gateDecisionId first second) ∧
      (first.approval.immutableBindingSha256 = second.approval.immutableBindingSha256 →
        SameApproved context.gate.gateDecisionId context'.gate.gateDecisionId first second ∨
          Collision (approvalBindingBytes context.gate.gateDecisionId first)
            (approvalBindingBytes context'.gate.gateDecisionId second))) := by
  constructor
  · intro first second hvalid hvalid' hsep hsep'
    have hfirst := accepted_of_valid hvalid
    have hsecond := accepted_of_valid hvalid'
    exact ⟨sameBoundFields_of_bytes hfirst hsecond hsep hsep',
      draft_eq_of_identity hfirst hsecond hsep hsep'⟩
  · intro context context' first second hpermitted hpermitted' hsep hsep'
    obtain ⟨hgate, hdraft, -⟩ := expectedApprovalBinding_some (binding_of_permitted hpermitted)
    obtain ⟨hgate', hdraft', -⟩ := expectedApprovalBinding_some (binding_of_permitted hpermitted')
    exact ⟨sameApproved_of_bytes hgate hgate' hdraft hdraft' hsep hsep',
      sameApproved_of_binding hpermitted hpermitted' hsep hsep'⟩

/-! Where fields shift -/

def sampleSha256 : String := String.ofList (List.replicate 64 'a')

theorem isSha256_sample : isSha256 sampleSha256 = true := isSha256_replicate rfl rfl

/-- A text draft whose requester and connector version are chosen by the caller. -/
def sampleFields (requesterId connectorVersion : String) : ActionDraft where
  formatVersion := 1
  draftId := ""
  state := .draftOnly
  accountId := "account"
  conversationId := "conversation"
  recipient :=
    { conversationId := "conversation", kind := .direct, humanLabel := "Peer"
      participantCount := 0, participants := [], ownerParticipantId := none
      entityDecodeState := .complete, sourceDatabaseFreshness := .fresh, limitationCodes := [] }
  replyTarget := none
  renderedText := "hello"
  renderedTextSha256 := Sha256.hexDigest (utf8 "hello")
  attachments := []
  attachmentIntent := none
  connectorVersion
  apiVersion := connectorApiVersion
  sourceFingerprint := "fingerprint"
  policyDecisionId := sampleSha256
  requesterId
  createdAtUnixNanoseconds := 1000
  expiresAtUnixNanoseconds := 2000

def sampleDraft (requesterId connectorVersion : String) : ActionDraft :=
  { sampleFields requesterId connectorVersion with
    draftId := draftIdentity (sampleFields requesterId connectorVersion) }

def sampleAdapter : ActionAdapterBinding where
  adapterId := "adapter"
  adapterVersion := "1"
  clientBuildProfileId := "profile"

/-- A guard under which the sample attempts are permitted. -/
def sampleContext : ActionGuardContext where
  formatVersion := 1
  nowUnixNanoseconds := 3000
  globalKillSwitchEngaged := false
  gate :=
    { gateDecisionId := sampleSha256, acquisitionGatePassed := true
      restorationGatePassed := true, mechanismApproved := true, legalReviewApproved := true }
  requiredAdapter := sampleAdapter
  allowList :=
    { accountIds := .ofList ["account"], conversationIds := .ofList ["conversation"]
      recipientTitles := .ofList [("conversation", "Peer")], capabilities := [.textSend] }
  rate :=
    { windowStartedAtUnixNanoseconds := 0, windowEndsAtUnixNanoseconds := 10000
      maximumAttempts := 5, reservedAttempts := 0 }
  consumedApprovalIds := .empty
  reservedIdempotencyKeys := .empty

def sampleAttempt : ActionAttemptIntent where
  capability := .textSend
  draftId := sampleSha256
  accountId := "account"
  conversationId := "conversation"
  recipientTitle := "Peer"
  adapter := sampleAdapter
  idempotencyKey := sampleSha256
  approval :=
    { approvalId := "", immutableBindingSha256 := "", approverId := ""
      approvedAtUnixNanoseconds := 0, expiresAtUnixNanoseconds := 0 }

def sampleIntent (approvedAtUnixNanoseconds : ℕ) : ActionAttemptIntent :=
  { sampleAttempt with
    approval :=
      { approvalId := sampleSha256
        immutableBindingSha256 := Sha256.hexDigest (approvalBindingBytes sampleSha256 sampleAttempt)
        approverId := "owner", approvedAtUnixNanoseconds, expiresAtUnixNanoseconds := 9000 } }

theorem sampleDraft_identity (requesterId connectorVersion : String) :
    draftIdentity (sampleDraft requesterId connectorVersion) =
      (sampleDraft requesterId connectorVersion).draftId :=
  draftIdentity_withId (sampleFields requesterId connectorVersion) _

theorem sampleDraft_valid {requesterId connectorVersion : String}
    (hnames : (sampleDraft requesterId connectorVersion).namesValid = true) :
    validateDraftStructure (sampleDraft requesterId connectorVersion) = .ok () := by
  have htimes : (sampleDraft requesterId connectorVersion).timesValid = true := by
    simp [ActionDraft.timesValid, sampleDraft, sampleFields, maxDraftExpirySeconds]
  have hrecipient : (sampleDraft requesterId connectorVersion).recipientValid = true := by
    simp [ActionDraft.recipientValid, sampleDraft, sampleFields, participantsValid]
  have hsize : "hello".utf8ByteSize ≤ maxConnectorDraftBytes := by decide
  have htext : (sampleDraft requesterId connectorVersion).textValid = true := by
    simp [ActionDraft.textValid, sampleDraft, sampleFields, hsize]
  have hpolicy := isSha256_sample
  have hdigest : isSha256 (sampleDraft requesterId connectorVersion).draftId = true :=
    isSha256_hexDigest _
  rw [validateDraftStructure, require_ok, ActionDraft.structureValid, hnames, htimes, htext,
    hrecipient, hdigest, sampleDraft_identity, beq_self_eq_true]
  simp [sampleDraft, sampleFields, hpolicy, ActionDraft.intentValid, attachmentsValid, replyValid]

theorem sampleIntent_binding (time : ℕ) :
    approvalBindingBytes sampleSha256 (sampleIntent time) =
      approvalBindingBytes sampleSha256 sampleAttempt :=
  approvalBindingBytes_withApproval sampleSha256 sampleAttempt _

theorem sampleIntent_permitted (time : ℕ) (h : time ≤ 3000) :
    (assessActionAttempt sampleContext (sampleIntent time)).permitted = true := by
  have hgate : gateDenials sampleContext = [] := by decide
  have hscope : scopeDenials sampleContext (sampleIntent time) = [] := by
    change scopeDenials sampleContext (sampleIntent 0) = []
    decide +kernel
  have hsha := isSha256_sample
  have hbinding' : expectedApprovalBinding sampleContext.gate.gateDecisionId (sampleIntent time) =
      some (sampleIntent time).approval.immutableBindingSha256 := by
    rw [sampleIntent, expectedApprovalBinding_withApproval, expectedApprovalBinding, if_neg]
    · rfl
    · simp [sampleAttempt, sampleContext, hsha, ActionAdapterBinding.complete, sampleAdapter]
  have hdigest : isSha256 (sampleIntent time).approval.immutableBindingSha256 = true :=
    isSha256_hexDigest _
  have happroval : approvalDenials sampleContext (sampleIntent time) = [] := by
    have htime : (sampleIntent time).approval.approvedAtUnixNanoseconds = time := rfl
    have hexpiry : (sampleIntent time).approval.expiresAtUnixNanoseconds = 9000 := rfl
    have hid : isSha256 (sampleIntent time).approval.approvalId = true := hsha
    have happrover : (sampleIntent time).approval.approverId = "owner" := rfl
    have hnow : sampleContext.nowUnixNanoseconds = 3000 := rfl
    have hconsumed : sampleContext.consumedApprovalIds.contains
        (sampleIntent time).approval.approvalId = false := by
      change sampleContext.consumedApprovalIds.contains (sampleIntent 0).approval.approvalId = false
      decide +kernel
    simp only [approvalDenials, List.append_eq_nil_iff, denyIf_eq_nil, hdigest, htime, hexpiry, hid,
      happrover, hnow, hconsumed, hbinding']
    simp
    omega
  have hreserve : reservationDenials sampleContext (sampleIntent time) = [] := by
    change reservationDenials sampleContext (sampleIntent 0) = []
    decide +kernel
  rw [assessActionAttempt, hgate, hscope, happroval, hreserve]
  rfl

/-- A zero moves from the requester to the version of two accepted drafts, and
two accepted approvals differ in their times alone. -/
theorem identities_ambiguous :
    (validateDraftStructure (sampleDraft "x\x00y" "z") = .ok () ∧
      validateDraftStructure (sampleDraft "x" "y\x00z") = .ok () ∧
      draftIdentityBytes (sampleDraft "x\x00y" "z") =
        draftIdentityBytes (sampleDraft "x" "y\x00z") ∧
      (sampleDraft "x\x00y" "z").draftId = (sampleDraft "x" "y\x00z").draftId ∧
      (sampleDraft "x\x00y" "z").requesterId ≠ (sampleDraft "x" "y\x00z").requesterId) ∧
    (assessActionAttempt sampleContext (sampleIntent 1000)).permitted = true ∧
      (assessActionAttempt sampleContext (sampleIntent 2000)).permitted = true ∧
      approvalBindingBytes sampleSha256 (sampleIntent 1000) =
        approvalBindingBytes sampleSha256 (sampleIntent 2000) ∧
      (sampleIntent 1000).approval.approvedAtUnixNanoseconds ≠
        (sampleIntent 2000).approval.approvedAtUnixNanoseconds := by
  have hbytes : draftIdentityBytes (sampleDraft "x\x00y" "z") =
      draftIdentityBytes (sampleDraft "x" "y\x00z") := by
    have hrequester : utf8 "x\x00y" = utf8 "x" ++ ([0] ++ utf8 "y") := by decide
    have hversion : utf8 "y\x00z" = utf8 "y" ++ ([0] ++ utf8 "z") := by decide
    simp only [draftIdentityBytes, ActionDraft.identityFields, sampleDraft, sampleFields,
      List.flatMap_cons, hrequester, hversion, List.append_assoc]
  have hid : (sampleDraft "x\x00y" "z").draftId = (sampleDraft "x" "y\x00z").draftId := by
    rw [← sampleDraft_identity, ← sampleDraft_identity, draftIdentity, draftIdentity, hbytes]
  have happroved : approvalBindingBytes sampleSha256 (sampleIntent 1000) =
      approvalBindingBytes sampleSha256 (sampleIntent 2000) := by
    rw [sampleIntent_binding, sampleIntent_binding]
  exact ⟨⟨sampleDraft_valid (by decide), sampleDraft_valid (by decide), hbytes, hid, by decide⟩,
    sampleIntent_permitted _ (by decide), sampleIntent_permitted _ (by decide), happroved, by decide⟩

theorem approval_binds_sample :
    SameBoundFields (sampleDraft "x" "y") (sampleDraft "x" "y") ∧
      SameApproved sampleSha256 sampleSha256 (sampleIntent 1000) (sampleIntent 2000) := by
  have hdraft : validateDraftStructure (sampleDraft "x" "y") = .ok () :=
    sampleDraft_valid (by decide)
  have hsep : (sampleDraft "x" "y").Separable := by constructor <;> decide
  have hintent : ∀ time, (sampleIntent time).Separable := fun _ =>
    ⟨(by decide : NulFree "account"), (by decide : NulFree "conversation"),
      (by decide : NulFree "adapter"), (by decide : NulFree "1")⟩
  have hfirst := sampleIntent_permitted 1000 (by decide)
  have hsecond := sampleIntent_permitted 2000 (by decide)
  have hbind := approval_binds_draft_and_adapter
  exact ⟨(hbind.1 _ _ hdraft hdraft hsep hsep).1 rfl,
    (hbind.2 sampleContext sampleContext _ _ hfirst hsecond (hintent _) (hintent _)).1 rfl⟩

end GreenBubbles.Connector
