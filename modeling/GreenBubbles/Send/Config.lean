import GreenBubbles.Connector.Approval
import GreenBubbles.Outbox.Contract

/-! # The send adapter's configuration

The owner-only configuration and its static validation. Durations are stated
in seconds or milliseconds as the document states them.
-/
namespace GreenBubbles.Send

open Connector (ActionAdapterBinding ActionAllowList ActionGateEvidence)
open Outbox (SendFailureCode SendRolloutStage)

def sendAdapterConfigVersion : ℕ := 1
def minimumHelperTimeoutMilliseconds : ℕ := 250
def maximumHelperTimeoutMilliseconds : ℕ := 120000
def maximumAllowListedConversations : ℕ := 2

/-- Unicode `White_Space`. -/
def isWhiteSpace (c : Char) : Bool :=
  let code := c.toNat
  (9 ≤ code && code ≤ 13) || code == 0x20 || code == 0x85 || code == 0xa0 || code == 0x1680 ||
    (0x2000 ≤ code && code ≤ 0x200a) || code == 0x2028 || code == 0x2029 || code == 0x202f ||
    code == 0x205f || code == 0x3000

def isAbsolute (path : String) : Bool := path.toList.head? == some '/'

inductive SendAddressingMode where
  | search
  | currentConversation
  deriving DecidableEq

def SendAddressingMode.typesBeforeRecipientGate : SendAddressingMode → Bool
  | .search => true
  | .currentConversation => false

structure SendHelperConfig where
  dispatcherExecutable : String
  machServiceName : String
  statusTimeoutMilliseconds : ℕ
  selftestTimeoutMilliseconds : ℕ
  sendTimeoutMilliseconds : ℕ

structure SendAdapterConfig where
  formatVersion : ℕ
  accountId : String
  rolloutStage : SendRolloutStage
  globalKillSwitchEngaged : Bool
  gate : ActionGateEvidence
  adapter : ActionAdapterBinding
  allowList : ActionAllowList
  selfSendConversationId : String
  addressingMode : SendAddressingMode
  /-- A ladder of its own: an attachment needs both open. -/
  attachmentRolloutStage : SendRolloutStage
  maximumAttachmentAttemptsPerWindow : ℕ
  stagingRoot : String
  searchKeyOverrides : List (String × String)
  attemptWindowSeconds : ℕ
  maximumAttemptsPerWindow : ℕ
  circuitBreakerFailureThreshold : ℕ
  circuitBreakerCooldownSeconds : ℕ
  capabilityValiditySeconds : ℕ
  reconciliationGraceSeconds : ℕ
  recallWindowSeconds : ℕ
  expectedMacosBuild : String
  expectedMacosMajor : ℕ
  expectedWechatBuild : String
  calibrationProfilePath : String
  compatibilityMatrixPath : String
  developmentTrustRootPath : Option String
  outboxDirectory : String
  auditLogPath : String
  draftDirectory : String
  helper : SendHelperConfig

namespace SendAdapterConfig

def timeoutsValid (config : SendAdapterConfig) : Bool :=
  [config.helper.statusTimeoutMilliseconds, config.helper.selftestTimeoutMilliseconds,
   config.helper.sendTimeoutMilliseconds].all fun value =>
    minimumHelperTimeoutMilliseconds ≤ value && value ≤ maximumHelperTimeoutMilliseconds

def pathsAbsolute (config : SendAdapterConfig) : Bool :=
  [config.calibrationProfilePath, config.compatibilityMatrixPath, config.outboxDirectory,
   config.auditLogPath, config.draftDirectory, config.helper.dispatcherExecutable,
   config.stagingRoot].all isAbsolute && config.developmentTrustRootPath.all isAbsolute

/-- Every allow-listed conversation has an authorized, visible title and no other has one. -/
def titlesValid (config : SendAdapterConfig) : Bool :=
  config.allowList.recipientTitles.keys == config.allowList.conversationIds.toList &&
    !config.allowList.recipientTitles.values.any fun title => title.toList.all isWhiteSpace

def fieldsValid (config : SendAdapterConfig) : Bool :=
  config.formatVersion == sendAdapterConfigVersion && config.accountId != "" &&
    config.adapter.complete && config.selfSendConversationId != "" &&
    config.expectedMacosBuild != "" && config.expectedWechatBuild != "" &&
    10 ≤ config.expectedMacosMajor && config.helper.machServiceName != "" &&
    config.attemptWindowSeconds != 0 && config.maximumAttemptsPerWindow != 0 &&
    config.capabilityValiditySeconds != 0 && config.capabilityValiditySeconds ≤ 3600 &&
    config.reconciliationGraceSeconds != 0 && config.recallWindowSeconds != 0 &&
    config.maximumAttachmentAttemptsPerWindow != 0 && isAbsolute config.stagingRoot &&
    config.timeoutsValid && config.pathsAbsolute && !config.allowList.capabilities.isEmpty &&
    config.allowList.accountIds.toList == [config.accountId] && config.titlesValid

/-- Each rollout stage narrows the conversations that may be allow-listed. -/
def stageValid (config : SendAdapterConfig) : Bool :=
  let conversations := config.allowList.conversationIds.toList
  match config.rolloutStage with
  | .dryRun => true
  | .selfSend => conversations == [config.selfSendConversationId]
  | .allowListed =>
    conversations.contains config.selfSendConversationId &&
      conversations.length ≤ maximumAllowListedConversations && !conversations.isEmpty

/-- Every failure keeps the send path closed. Grace, validity and timeouts are
bounded one by one. -/
def validate (config : SendAdapterConfig) : Except SendFailureCode Unit :=
  if config.fieldsValid && config.stageValid then .ok () else .error .configurationInvalid

def secondsToNanoseconds (seconds : ℕ) : ℕ := seconds * 1000000000

end SendAdapterConfig

/-- A loaded adapter: its configuration has passed validation. -/
structure SendAdapter where
  config : SendAdapterConfig
  valid : config.validate = .ok ()

end GreenBubbles.Send
