import GreenBubbles.Snapshot.Publication

/-! # What a rewrap keeps

A rewrapped snapshot has the database files of its source and opens to the same
key under each of its new secrets, and under no other one.
-/
namespace GreenBubbles.Snapshot

open Library

variable {env : Environment} {layout : Layout} {store : SnapshotStore}

theorem validManifest_ok {generation : Generation} {manifest : RecoverableSnapshotManifest}
    (h : validManifest env generation = .ok manifest) :
    generation.manifest = some manifest ∧ validateManifestContract manifest = .ok () := by
  rw [validManifest] at h
  rcases bind_ok.mp h with ⟨loaded, hloaded, h⟩
  rcases check_bind_ok.mp h with ⟨hcontract, hreturned⟩
  cases hreturned
  refine ⟨?_, hcontract⟩
  rw [loadManifest] at hloaded
  cases hmanifest : generation.manifest with
  | none => simp [hmanifest] at hloaded
  | some loaded =>
    rw [hmanifest] at hloaded
    by_cases hsize : env.manifestBytes loaded = 0 ∨ maximumManifestBytes < env.manifestBytes loaded
    · simp [hsize] at hloaded
    · simp only [hsize, if_false] at hloaded
      rw [Except.ok.inj hloaded]

theorem validManifest_of_words {generation : Generation} {words : SnapshotRecoveryWords}
    {report : RecoverableSnapshotVerificationReport}
    (h : verifyRecoverableSnapshotWithRecoveryWords env generation words = .ok report) :
    ∃ manifest, validManifest env generation = .ok manifest := by
  rw [verifyRecoverableSnapshotWithRecoveryWords, verifyUnlocked] at h
  rcases bind_ok.mp h with ⟨snapshotKey, hunlocked, -⟩
  rw [unlockRecoverableSnapshotWithRecoveryWords] at hunlocked
  rcases bind_ok.mp hunlocked with ⟨manifest, hmanifest, -⟩
  exact ⟨manifest, hmanifest⟩

/-! The database files -/

theorem lookup_mem_keys {α β : Type} [BEq α] [LawfulBEq α] {entries : List (α × β)} {key : α} :
    (entries.lookup key).isSome = true ↔ key ∈ entries.map (·.1) := by
  induction entries with
  | nil => simp
  | cons entry entries ih =>
    rcases entry with ⟨first, value⟩
    by_cases hkey : key = first
    · simp [hkey]
    · simp [List.lookup_cons, beq_false_of_ne hkey, hkey, ih]

theorem lookup_mem {α β : Type} [BEq α] [LawfulBEq α] {entries : List (α × β)} {key : α} {value : β}
    (h : entries.lookup key = some value) : (key, value) ∈ entries := by
  induction entries with
  | nil => simp at h
  | cons entry entries ih =>
    rcases entry with ⟨first, value'⟩
    by_cases hkey : key = first
    · simp_all
    · rw [List.lookup_cons, beq_false_of_ne hkey] at h
      exact List.mem_cons_of_mem _ (ih h)

/-- Entries that are found in another list under the same keys are found alike. -/
theorem lookup_eq_of_keys {α β : Type} [BEq α] [LawfulBEq α] {entries copied : List (α × β)}
    (hcopied : ∀ entry ∈ copied, entries.lookup entry.1 = some entry.2)
    (hkeys : entries.map (·.1) ⊆ copied.map (·.1)) (key : α) :
    copied.lookup key = entries.lookup key := by
  cases hfound : copied.lookup key with
  | some value => exact (hcopied _ (lookup_mem hfound)).symm
  | none =>
    have hmissing : key ∉ entries.map (·.1) := by
      intro hmem
      have hsome := lookup_mem_keys.mpr (hkeys hmem)
      simp [hfound] at hsome
    rw [← lookup_mem_keys, Bool.not_eq_true, Option.isSome_eq_false_iff,
      Option.isNone_iff_eq_none] at hmissing
    exact hmissing.symm

theorem copied_ok {files : List (DatabasePath × List UInt8)}
    {database : RecoverableSnapshotDatabase} {copied : DatabasePath × List UInt8}
    (h : copyEncryptedDatabaseBytesUnchanged files database = .ok copied) :
    validatedManifestRelativePath database.relativePath = .ok copied.1 ∧
      files.lookup copied.1 = some copied.2 := by
  rw [copyEncryptedDatabaseBytesUnchanged] at h
  rcases bind_ok.mp h with ⟨path, hpath, h⟩
  cases hbytes : files.lookup path with
  | none => simp [hbytes] at h
  | some bytes =>
    simp only [hbytes] at h
    split_ifs at h
    cases h
    exact ⟨hpath, hbytes⟩

/-- A verified snapshot has the database files its manifest declares, and no others. -/
theorem verified_inventory {generation : Generation} {snapshotKey : SnapshotKey}
    {report : RecoverableSnapshotVerificationReport}
    (h : verifyRecoverableSnapshot env generation snapshotKey = .ok report) :
    ∃ manifest declared, validManifest env generation = .ok manifest ∧
      (manifest.databases.mapM fun database =>
        validatedManifestRelativePath database.relativePath) = .ok declared ∧
      generation.files.map (·.1) ⊆ declared := by
  rw [verifyRecoverableSnapshot] at h
  rcases bind_ok.mp h with ⟨manifest, hmanifest, h⟩
  rcases bind_ok.mp h with ⟨actual, hactual, h⟩
  rcases bind_ok.mp h with ⟨declared, hdeclared, h⟩
  rcases check_bind_ok.mp h with ⟨hsame, -⟩
  rw [inventorySnapshotDatabases] at hactual
  split_ifs at hactual
  cases hactual
  have hinventory : generation.files.map (·.1) ⊆ declared ∧
      declared ⊆ generation.files.map (·.1) := by
    simpa using hsame
  exact ⟨manifest, declared, hmanifest, hdeclared, hinventory.1⟩

theorem mapM_view {ε α β γ : Type} {f : α → Except ε β} {g : α → Except ε γ} {view : β → γ}
    (hview : ∀ a b, f a = .ok b → g a = .ok (view b)) {values : List α} {results : List β}
    {views : List γ} (hresults : values.mapM f = .ok results) (hviews : values.mapM g = .ok views) :
    results.map view = views := by
  induction values generalizing results views with
  | nil =>
    cases hresults
    cases hviews
    rfl
  | cons a values ih =>
    rw [List.mapM_cons] at hresults hviews
    rcases bind_ok.mp hresults with ⟨b, hb, hresults⟩
    rcases bind_ok.mp hresults with ⟨rest, hrest, hreturned⟩
    rcases bind_ok.mp hviews with ⟨c, hc, hviews⟩
    rcases bind_ok.mp hviews with ⟨rest', hrest', hreturned'⟩
    cases hreturned
    cases hreturned'
    rw [hview a b hb] at hc
    rw [List.map_cons, ih hrest hrest', Except.ok.inj hc]

theorem mapM_mem {ε α β : Type} {f : α → Except ε β} {P : β → Prop}
    (hf : ∀ a b, f a = .ok b → P b) {values : List α} {results : List β}
    (h : values.mapM f = .ok results) : ∀ b ∈ results, P b := by
  induction values generalizing results with
  | nil =>
    cases h
    simp
  | cons a values ih =>
    rw [List.mapM_cons] at h
    rcases bind_ok.mp h with ⟨b, hb, h⟩
    rcases bind_ok.mp h with ⟨rest, hrest, hreturned⟩
    cases hreturned
    exact List.forall_mem_cons.mpr ⟨hf a b hb, ih hrest⟩

/-- The files that are copied are the files of the source. -/
theorem files_unchanged {generation : Generation} {snapshotKey : SnapshotKey}
    {report : RecoverableSnapshotVerificationReport} {manifest : RecoverableSnapshotManifest}
    {files : List (DatabasePath × List UInt8)}
    (hverified : verifyRecoverableSnapshot env generation snapshotKey = .ok report)
    (hmanifest : validManifest env generation = .ok manifest)
    (hfiles : manifest.databases.mapM (copyEncryptedDatabaseBytesUnchanged generation.files) =
      .ok files) (path : DatabasePath) :
    files.lookup path = generation.files.lookup path := by
  rcases verified_inventory hverified with ⟨manifest', declared, hmanifest', hdeclared, hkeys⟩
  rw [hmanifest] at hmanifest'
  cases hmanifest'
  have hpaths := mapM_view (fun database copied h => (copied_ok h).1) hfiles hdeclared
  apply lookup_eq_of_keys
  · exact mapM_mem (fun database copied h => (copied_ok h).2) hfiles
  · rw [hpaths]
    exact hkeys

/-! The protectors -/

/-- The protectors of a snapshot, each with the secret it was made for. -/
structure Protectors.Wrapped (crypto : Cryptography) (protectors : Protectors)
    (snapshotId : String) (databaseKey : SnapshotKey) (portable : WrappedSnapshotKey)
    (convenience phrase : Option WrappedSnapshotKey) : Prop where
  words : ∃ draw, Wraps crypto (recoveryWordsScheme crypto protectors.words) snapshotId databaseKey
    portable draw
  localCredential : ∀ credential, protectors.localCredential = some credential →
    ∃ protector draw, convenience = some protector ∧
      Wraps crypto (localCredentialScheme crypto credential) snapshotId databaseKey protector draw
  noCredential : protectors.localCredential = none → convenience = none
  passphrase : ∀ passphrase, protectors.passphrase = some passphrase →
    ∃ protector draw, phrase = some protector ∧
      Wraps crypto (passphraseScheme crypto passphrase) snapshotId databaseKey protector draw
  noPassphrase : protectors.passphrase = none → phrase = none

theorem mapM_option {ε α β : Type} {f : α → Except ε β} {value : Option α} {results : List β}
    (h : value.toList.mapM f = .ok results) :
    ∃ result : Option β, results = result.toList ∧
      (∀ a, value = some a → ∃ b, result = some b ∧ f a = .ok b) ∧
      (value = none → result = none) := by
  cases value with
  | none =>
    cases h
    exact ⟨none, rfl, by simp⟩
  | some a =>
    simp only [Option.toList_some, List.mapM_cons, List.mapM_nil] at h
    rcases bind_ok.mp h with ⟨b, hb, h⟩
    cases h
    exact ⟨some b, rfl, by simp [hb]⟩

theorem Protectors.wrapped {crypto : Cryptography} {protectors : Protectors} {draws : Draws}
    {snapshotId : String} {databaseKey : SnapshotKey} {wrapped : List WrappedSnapshotKey}
    (h : protectors.wrap crypto draws snapshotId databaseKey = .ok wrapped) :
    ∃ portable convenience phrase,
      wrapped = portable :: (convenience.toList ++ phrase.toList) ∧
        protectors.Wrapped crypto snapshotId databaseKey portable convenience phrase := by
  rw [Protectors.wrap] at h
  rcases bind_ok.mp h with ⟨portable, hportable, h⟩
  rcases bind_ok.mp h with ⟨conveniences, hconveniences, h⟩
  rcases bind_ok.mp h with ⟨phrases, hphrases, h⟩
  cases h
  rcases mapM_option hconveniences with ⟨convenience, rfl, hconvenience, hnoConvenience⟩
  rcases mapM_option hphrases with ⟨phrase, rfl, hphrase, hnoPhrase⟩
  refine ⟨portable, convenience, phrase, rfl, wraps_of_wrap hportable, ?_, hnoConvenience, ?_,
    hnoPhrase⟩
  · intro credential hcredential
    rcases hconvenience credential hcredential with ⟨protector, hprotector, hwrap⟩
    rcases wraps_of_wrap hwrap with ⟨draw, hwraps⟩
    exact ⟨protector, draw, hprotector, hwraps⟩
  · intro passphrase hpassphrase
    rcases hphrase passphrase hpassphrase with ⟨protector, hprotector, hwrap⟩
    rcases wraps_of_wrap hwrap with ⟨draw, hwraps⟩
    exact ⟨protector, draw, hprotector, hwraps⟩

namespace Protectors.Wrapped

variable {crypto : Cryptography} {protectors : Protectors} {snapshotId : String}
  {databaseKey : SnapshotKey} {portable : WrappedSnapshotKey}
  {convenience phrase : Option WrappedSnapshotKey}
  (h : protectors.Wrapped crypto snapshotId databaseKey portable convenience phrase)
include h

theorem portable_kinds : portable.isRecoveryWords = true ∧ portable.isLocalCredential = false ∧
    portable.isPassphrase = false := by
  rcases h.words with ⟨draw, hwraps⟩
  rw [WrappedSnapshotKey.isRecoveryWords, WrappedSnapshotKey.isLocalCredential,
    WrappedSnapshotKey.isPassphrase, hwraps.kind, hwraps.portable]
  exact ⟨rfl, rfl, rfl⟩

theorem convenience_kinds {protector : WrappedSnapshotKey} (hprotector : convenience = some protector) :
    protector.isLocalCredential = true ∧ protector.isPassphrase = false := by
  cases hcredential : protectors.localCredential with
  | none => simp [h.noCredential hcredential] at hprotector
  | some credential =>
    rcases h.localCredential credential hcredential with ⟨own, draw, hown, hwraps⟩
    rw [hprotector] at hown
    cases hown
    rw [WrappedSnapshotKey.isLocalCredential, WrappedSnapshotKey.isPassphrase, hwraps.kind,
      hwraps.portable]
    exact ⟨rfl, rfl⟩

theorem phrase_kinds {protector : WrappedSnapshotKey} (hprotector : phrase = some protector) :
    protector.isPassphrase = true ∧ protector.isLocalCredential = false := by
  cases hpassphrase : protectors.passphrase with
  | none => simp [h.noPassphrase hpassphrase] at hprotector
  | some passphrase =>
    rcases h.passphrase passphrase hpassphrase with ⟨own, draw, hown, hwraps⟩
    rw [hprotector] at hown
    cases hown
    rw [WrappedSnapshotKey.isLocalCredential, WrappedSnapshotKey.isPassphrase, hwraps.kind,
      hwraps.portable]
    exact ⟨rfl, rfl⟩

/-- Each kind of protector is found by its own filter. -/
theorem filtered :
    (portable :: (convenience.toList ++ phrase.toList)).filter (·.isLocalCredential) =
        convenience.toList ∧
      (portable :: (convenience.toList ++ phrase.toList)).filter (·.isPassphrase) =
        phrase.toList := by
  have hportable := h.portable_kinds
  have hconvenience : ∀ protector, convenience = some protector →
      protector.isLocalCredential = true ∧ protector.isPassphrase = false :=
    fun _ => h.convenience_kinds
  have hphrase : ∀ protector, phrase = some protector →
      protector.isPassphrase = true ∧ protector.isLocalCredential = false :=
    fun _ => h.phrase_kinds
  cases convenience <;> cases phrase <;> simp_all

end Protectors.Wrapped

section Unlocking

variable {generation : Generation} {manifest : RecoverableSnapshotManifest}
  {protectors : Protectors} {databaseKey : SnapshotKey} {portable : WrappedSnapshotKey}
  {convenience phrase : Option WrappedSnapshotKey}
  (hmanifest : validManifest env generation = .ok manifest)
  (hversion : manifest.formatVersion = recoverableSnapshotWrappedFormatVersion)
  (hprotectors : manifest.protection.protectors = portable :: (convenience.toList ++ phrase.toList))
  (hwrapped : protectors.Wrapped env.crypto manifest.snapshotId databaseKey portable convenience
    phrase)
include hmanifest hversion hprotectors hwrapped

theorem unlock_recoveryWords (words : SnapshotRecoveryWords) :
    unlockRecoverableSnapshotWithRecoveryWords env generation words =
      liftProtector (unwrapSnapshotDatabaseKey env.crypto manifest.snapshotId portable words) := by
  rw [unlockRecoverableSnapshotWithRecoveryWords, hmanifest]
  simp only [bind, Except.bind, hversion, ne_eq, not_true_eq_false, if_false, hprotectors,
    
    List.find?_cons_of_pos hwrapped.portable_kinds.1]

theorem unlock_localCredential (credential : SnapshotLocalCredential) :
    (unlockRecoverableSnapshotWithLocalCredential env generation credential).toOption =
      convenience.bind fun protector =>
        (unwrapSnapshotDatabaseKeyWithLocalCredential env.crypto manifest.snapshotId protector
          credential).toOption := by
  rw [unlockRecoverableSnapshotWithLocalCredential, hmanifest]
  simp only [bind, Except.bind, hversion, ne_eq, not_true_eq_false, if_false,
    hprotectors, hwrapped.filtered.1]
  cases convenience with
  | none => rfl
  | some protector =>
    simp only [Option.toList_some, List.findSome?_cons, List.findSome?_nil, Option.bind_some]
    cases (unwrapSnapshotDatabaseKeyWithLocalCredential env.crypto manifest.snapshotId protector
      credential) <;> rfl

theorem unlock_passphrase (passphrase : SnapshotPassphrase) :
    (unlockRecoverableSnapshotWithPassphrase env generation passphrase).toOption =
      phrase.bind fun protector =>
        (unwrapSnapshotDatabaseKeyWithPassphrase env.crypto manifest.snapshotId protector
          passphrase).toOption := by
  rw [unlockRecoverableSnapshotWithPassphrase, hmanifest]
  simp only [bind, Except.bind, hversion, ne_eq, not_true_eq_false, if_false,
    hprotectors, hwrapped.filtered.2]
  cases phrase with
  | none => rfl
  | some protector =>
    simp only [Option.toList_some, List.findSome?_cons, List.findSome?_nil, Option.bind_some]
    cases (unwrapSnapshotDatabaseKeyWithPassphrase env.crypto manifest.snapshotId protector
      passphrase) <;> rfl

/-- Each secret of a snapshot unlocks its key. -/
theorem unlock_own (hlawful : env.crypto.Lawful) {secret : SnapshotSecret}
    (hsecret : secret ∈ protectors.secrets) :
    (unlock env generation secret).toOption = some databaseKey := by
  cases secret with
  | recoveryWords words =>
    obtain rfl : words = protectors.words := by simpa [Protectors.secrets] using hsecret
    rcases hwrapped.words with ⟨draw, hwraps⟩
    rw [unlock, unlock_recoveryWords hmanifest hversion hprotectors hwrapped,
      unwrapSnapshotDatabaseKey, hwraps.unwrap hlawful (knownKind_recoveryWords _ _)]
    rfl
  | localCredential credential =>
    have hcredential : protectors.localCredential = some credential := by
      simpa [Protectors.secrets] using hsecret
    rcases hwrapped.localCredential credential hcredential with ⟨protector, draw, hown, hwraps⟩
    rw [unlock, unlock_localCredential hmanifest hversion hprotectors hwrapped, hown,
      Option.bind_some, unwrapSnapshotDatabaseKeyWithLocalCredential,
      hwraps.unwrap hlawful (knownKind_localCredential _ _)]
    rfl
  | passphrase passphrase =>
    have hpassphrase : protectors.passphrase = some passphrase := by
      simpa [Protectors.secrets] using hsecret
    rcases hwrapped.passphrase passphrase hpassphrase with ⟨protector, draw, hown, hwraps⟩
    rw [unlock, unlock_passphrase hmanifest hversion hprotectors hwrapped, hown,
      Option.bind_some, unwrapSnapshotDatabaseKeyWithPassphrase,
      hwraps.unwrap hlawful (knownKind_passphrase _ _)]
    rfl

/-- No other secret unlocks it. -/
theorem unlock_other {secrets passwords : Set (List UInt8)} (hlawful : env.crypto.Lawful)
    (hseparates : env.crypto.Separates secrets passwords)
    (hown : ∀ own ∈ protectors.secrets, own.Among secrets passwords) {secret : SnapshotSecret}
    (hamong : secret.Among secrets passwords) (hsecret : secret ∉ protectors.secrets) :
    (unlock env generation secret).toOption = none := by
  cases secret with
  | recoveryWords words =>
    rcases hwrapped.words with ⟨draw, hwraps⟩
    have hrefused := Wraps.refuses_other hlawful hseparates (.recoveryWords protectors.words)
      (.recoveryWords words) hwraps
      (hown _ List.mem_cons_self) hamong (by
        rintro hsame
        rw [hsame] at hsecret
        exact hsecret List.mem_cons_self)
    rw [unlock, unlock_recoveryWords hmanifest hversion hprotectors hwrapped]
    simp only [SnapshotSecret.scheme] at hrefused
    rw [unwrapSnapshotDatabaseKey, hrefused]
    rfl
  | localCredential credential =>
    rw [unlock, unlock_localCredential hmanifest hversion hprotectors hwrapped]
    cases howned : protectors.localCredential with
    | none => rw [hwrapped.noCredential howned, Option.bind_none]
    | some own =>
      rcases hwrapped.localCredential own howned with ⟨protector, draw, hprotector, hwraps⟩
      have hrefused := Wraps.refuses_other hlawful hseparates (.localCredential own) (.localCredential credential)
        hwraps
        (hown _ (by simp [Protectors.secrets, howned])) hamong (by
          intro hsame
          simp [Protectors.secrets, howned] at hsecret hsame
          exact hsecret hsame)
      simp only [SnapshotSecret.scheme] at hrefused
      rw [hprotector, Option.bind_some, unwrapSnapshotDatabaseKeyWithLocalCredential, hrefused]
      rfl
  | passphrase passphrase =>
    rw [unlock, unlock_passphrase hmanifest hversion hprotectors hwrapped]
    cases howned : protectors.passphrase with
    | none => rw [hwrapped.noPassphrase howned, Option.bind_none]
    | some own =>
      rcases hwrapped.passphrase own howned with ⟨protector, draw, hprotector, hwraps⟩
      have hrefused := Wraps.refuses_other hlawful hseparates (.passphrase own) (.passphrase passphrase)
        hwraps
        (hown _ (by simp [Protectors.secrets, howned])) hamong (by
          intro hsame
          simp [Protectors.secrets, howned] at hsecret hsame
          exact hsecret hsame)
      simp only [SnapshotSecret.scheme] at hrefused
      rw [hprotector, Option.bind_some, unwrapSnapshotDatabaseKeyWithPassphrase, hrefused]
      rfl

end Unlocking

/-! What is published -/

theorem attempt_ok {α : Type} {fault : Option RecoverableSnapshotError}
    {result : Except RecoverableSnapshotError α} {value : α} :
    attempt fault result = .ok value ↔ fault = none ∧ result = .ok value := by
  cases fault <;> simp [attempt]

/-- A publication that succeeds leaves what was assembled, and it verifies there. -/
theorem publish_ok {α : Type} {output : Place} {faults : PublicationFaults}
    {assembled : Except RecoverableSnapshotError (Generation × α)}
    {verification : Generation → α → Except RecoverableSnapshotError Unit}
    {after : SnapshotStore} {generation : Generation}
    (h : publish store output faults assembled verification = (after, .ok generation)) :
    ∃ context, assembled = .ok (generation, context) ∧ after = store.place output generation ∧
      verification generation context = .ok () := by
  unfold publish at h
  cases hassembled : attempt faults.before assembled with
  | error error => simp [hassembled] at h
  | ok result =>
    rcases result with ⟨placed, context⟩
    rw [hassembled] at h
    cases hrename : faults.rename with
    | some error => simp [hrename] at h
    | none =>
      cases hsync : faults.sync with
      | some error => simp [hrename, hsync] at h
      | none =>
        cases hverified : attempt faults.reading (verification placed context) with
        | error error => cases hremaining : faults.remaining <;> simp_all
        | ok _ =>
          simp only [hrename, hsync, hverified, Prod.mk.injEq, Except.ok.injEq] at h
          rcases h with ⟨rfl, rfl⟩
          exact ⟨context, (attempt_ok.mp hassembled).2, rfl, (attempt_ok.mp hverified).2⟩

theorem held_ok {place : Place} {held : Held} (h : store.held place = .ok held) :
    store.generations place = some held := by
  rw [SnapshotStore.held] at h
  cases hplace : store.generations place with
  | none => simp [hplace] at h
  | some found =>
    rw [hplace] at h
    rw [Except.ok.inj h]

theorem output_free {output : Place} {source : Path}
    (h : validateNewOutputDirectory layout store output source = .ok ()) :
    store.generations output = none := by
  rw [validateNewOutputDirectory] at h
  split_ifs at h with htaken
  simp only [SnapshotStore.taken, Bool.or_eq_true, not_or, Option.isSome_iff_ne_none] at htaken
  exact not_not.mp htaken.1.1

theorem liftProtector_ok {α : Type} {result : Except SnapshotProtectorError α} {value : α} :
    liftProtector result = .ok value ↔ result = .ok value := by
  cases result <;> simp [liftProtector]

/-- What a rewrap is made of. -/
structure RewrapRequest.Assembles (env : Environment) (store : SnapshotStore)
    (request : RewrapRequest) (held : Held) (source rewrapped : RecoverableSnapshotManifest)
    (generation : Generation) (portable : WrappedSnapshotKey)
    (convenience phrase : Option WrappedSnapshotKey) : Prop where
  stored : store.generations request.source = some held
  valid : validManifest env held.generation = .ok source
  verified : ∃ report,
    verifyRecoverableSnapshot env held.generation request.existingSnapshotKey = .ok report
  free : store.generations request.output = none
  manifest : generation.manifest = some rewrapped
  formatVersion : rewrapped.formatVersion = recoverableSnapshotWrappedFormatVersion
  protectors : rewrapped.protection.protectors =
    portable :: (convenience.toList ++ phrase.toList)
  wrapped : request.protectors.Wrapped env.crypto rewrapped.snapshotId request.existingSnapshotKey
    portable convenience phrase
  files : source.databases.mapM (copyEncryptedDatabaseBytesUnchanged held.generation.files) =
    .ok generation.files

theorem RewrapRequest.assembles {request : RewrapRequest} {draws : Draws} {moment : Moment}
    {generation : Generation}
    (h : request.assemble env layout store draws moment = .ok (generation, ())) :
    ∃ held source rewrapped portable convenience phrase,
      request.Assembles env store held source rewrapped generation portable convenience phrase := by
  rw [assemble] at h
  rcases bind_ok.mp h with ⟨held, hheld, h⟩
  rcases bind_ok.mp h with ⟨source, hsource, h⟩
  rcases check_bind_ok.mp h with ⟨-, h⟩
  rcases bind_ok.mp h with ⟨report, hverified, h⟩
  rcases check_bind_ok.mp h with ⟨-, h⟩
  rcases check_bind_ok.mp h with ⟨houtput, h⟩
  rcases bind_ok.mp h with ⟨wrapped, hwrap, h⟩
  rcases bind_ok.mp h with ⟨files, hfiles, h⟩
  rcases check_bind_ok.mp h with ⟨-, h⟩
  cases h
  rcases Protectors.wrapped (liftProtector_ok.mp hwrap) with ⟨portable, convenience, phrase, hlist, hwrapped⟩
  exact ⟨held, source, _, portable, convenience, phrase, held_ok hheld, hsource,
    ⟨report, hverified⟩, output_free houtput, rfl, rfl, hlist, hwrapped, hfiles⟩

end GreenBubbles.Snapshot
