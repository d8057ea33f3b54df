import GreenBubbles.Library.Runs
import GreenBubbles.Snapshot.Rewrap
import Mathlib.Logic.Equiv.Basic
import Mathlib.Logic.Relation

/-! # Retention of snapshot generations

A generation is retired into the quarantine directory when a newer one of its
family stands outside, and restored from there. A move is verified where it
ends and taken back when the verification fails. In every run that is not cut
short between a rename and its check no generation is lost.
-/
namespace GreenBubbles.Snapshot

open Library Library.Runs

structure SnapshotRetentionReport where
  schema : String
  formatVersion : ℕ
  operation : String
  retiringSnapshotId : String
  replacementSnapshotId : Option String
  retiringRecoveryVerified : Bool
  replacementPortableRecoveryVerified : Bool
  wholeGeneration : Bool
  recoverableMove : Bool
  deriving DecidableEq

/-- What the file system refuses of a move. Whatever fails ahead of the rename ends alike. -/
structure MoveFaults where
  before : Option RecoverableSnapshotError
  rename : Option RecoverableSnapshotError
  sync : Option RecoverableSnapshotError
  reading : Option RecoverableSnapshotError
  rollbackRefused : Bool
  rollbackUnsynced : Bool

/-- What follows the rename went well, or was taken back. -/
def MoveFaults.Settled (faults : MoveFaults) : Prop :=
  faults.sync = none ∧ (faults.reading = none ∨ faults.rollbackRefused = false)

namespace SnapshotStore

variable (store : SnapshotStore)

def move (source destination : Place) : SnapshotStore where
  generations := Function.update (Function.update store.generations source none) destination
    (store.generations source)
  born := store.born

def moveVerified (source destination : Place) (faults : MoveFaults) (message : String)
    (verification : Except RecoverableSnapshotError RecoverableSnapshotVerificationReport)
    (report : SnapshotRetentionReport) :
    SnapshotStore × Except RecoverableSnapshotError SnapshotRetentionReport :=
  match faults.rename with
  | some error => (store, .error error)
  | none =>
    let moved := store.move source destination
    match faults.sync with
    | some error => (moved, .error error)
    | none =>
      match attempt faults.reading verification with
      | .ok _ => (moved, .ok report)
      | .error error =>
        if faults.rollbackRefused then (moved, .error (.integrity message))
        else (moved.move destination source,
          .error (if faults.rollbackUnsynced then .integrity message else error))

end SnapshotStore

namespace RecoverableSnapshotManifest

def linked (replacement retiring : RecoverableSnapshotManifest) : Bool :=
  replacement.parentSnapshotId == some retiring.snapshotId ||
    replacement.sourceIdentity == retiring.sourceIdentity

/-- The name of a generation in the quarantine, its time in twenty digits. -/
def retiredName (manifest : RecoverableSnapshotManifest) : String :=
  let time := toString manifest.createdAtUnixMilliseconds
  "retired-" ++ .ofList (List.replicate (20 - time.length) '0') ++ time ++ "-" ++
    manifest.snapshotId

end RecoverableSnapshotManifest

def rejectNestedRetentionPaths (retiring replacement quarantine : Path) :
    Except RecoverableSnapshotError Unit :=
  let nested := fun (left right : Path) => left.isPrefixOf right || right.isPrefixOf left
  refuseIf (nested retiring replacement || nested retiring quarantine ||
    nested replacement quarantine) (.unsafePath
      "retiring, replacement, and quarantine directories must not contain one another")

section Moves

variable (env : Environment) (layout : Layout) (store : SnapshotStore)

structure QuarantineRequest where
  retiring : Place
  retiringSnapshotKey : SnapshotKey
  replacement : Place
  replacementRecoveryWords : SnapshotRecoveryWords

namespace QuarantineRequest

variable (request : QuarantineRequest)

def destination (retiring : RecoverableSnapshotManifest) : Place := ⟨.quarantine, retiring.retiredName⟩

/-- The generation to retire, its manifest and that of its replacement. -/
def checks : Except RecoverableSnapshotError
    (Held × RecoverableSnapshotManifest × RecoverableSnapshotManifest) := do
  let retiring ← store.held request.retiring
  let replacement ← store.held request.replacement
  rejectNestedRetentionPaths (layout.path request.retiring) (layout.path request.replacement)
    layout.quarantine
  let retiringVerification ←
    verifyRecoverableSnapshot env retiring.generation request.retiringSnapshotKey
  let replacementVerification ← verifyRecoverableSnapshotWithRecoveryWords env
    replacement.generation request.replacementRecoveryWords
  let retiringManifest ← validManifest env retiring.generation
  let replacementManifest ← validManifest env replacement.generation
  refuseIf (!replacementManifest.linked retiringManifest ||
      decide (replacementManifest.createdAtUnixMilliseconds ≤
        retiringManifest.createdAtUnixMilliseconds) ||
      !replacementVerification.recoveryVerifiedWithoutWechatKey ||
      !replacementVerification.portableRecoveryProtectorVerified)
    (.invalidArgument
      "replacement must be a newer linked generation verified through portable recovery")
  refuseIf (!retiringVerification.recoveryVerifiedWithoutWechatKey)
    (.integrity "retiring generation did not pass recovery verification")
  refuseIf (layout.device request.retiring.directory != layout.quarantineDevice)
    (.unsafePath "recoverable snapshot retention requires one filesystem")
  refuseIf (store.taken layout (destination retiringManifest))
    (.unsafePath "snapshot quarantine destination already exists")
  return (retiring, retiringManifest, replacementManifest)

end QuarantineRequest

def quarantineRecoverableSnapshotGeneration (request : QuarantineRequest) (faults : MoveFaults) :
    SnapshotStore × Except RecoverableSnapshotError SnapshotRetentionReport :=
  match attempt faults.before (request.checks env layout store) with
  | .error error => (store, .error error)
  | .ok (retiring, retiringManifest, replacementManifest) =>
    store.moveVerified request.retiring (QuarantineRequest.destination retiringManifest) faults
      "quarantine verification failed and the automatic rollback also failed"
      (verifyRecoverableSnapshot env retiring.generation request.retiringSnapshotKey)
      { schema := "greenbubbles.snapshot-retention.v1"
        formatVersion := 1
        operation := "quarantine"
        retiringSnapshotId := retiringManifest.snapshotId
        replacementSnapshotId := some replacementManifest.snapshotId
        retiringRecoveryVerified := true
        replacementPortableRecoveryVerified := true
        wholeGeneration := true
        recoverableMove := true }

structure RestoreRequest where
  quarantined : Place
  snapshotKey : SnapshotKey
  restored : Place

def RestoreRequest.checks (request : RestoreRequest) :
    Except RecoverableSnapshotError (Held × RecoverableSnapshotManifest) := do
  let quarantined ← store.held request.quarantined
  let verification ← verifyRecoverableSnapshot env quarantined.generation request.snapshotKey
  refuseIf (!verification.recoveryVerifiedWithoutWechatKey)
    (.integrity "quarantined generation did not pass recovery verification")
  let manifest ← validManifest env quarantined.generation
  validateNewOutputDirectory layout store request.restored (layout.path request.quarantined)
  refuseIf (layout.device request.quarantined.directory != layout.device request.restored.directory)
    (.unsafePath "recoverable snapshot retention requires one filesystem")
  return (quarantined, manifest)

def restoreQuarantinedSnapshotGeneration (request : RestoreRequest) (faults : MoveFaults) :
    SnapshotStore × Except RecoverableSnapshotError SnapshotRetentionReport :=
  match attempt faults.before (request.checks env layout store) with
  | .error error => (store, .error error)
  | .ok (quarantined, manifest) =>
    store.moveVerified request.quarantined request.restored faults
      "restored-generation verification failed and the automatic rollback also failed"
      (verifyRecoverableSnapshot env quarantined.generation request.snapshotKey)
      { schema := "greenbubbles.snapshot-retention.v1"
        formatVersion := 1
        operation := "restore"
        retiringSnapshotId := manifest.snapshotId
        replacementSnapshotId := none
        retiringRecoveryVerified := true
        replacementPortableRecoveryVerified := false
        wholeGeneration := true
        recoverableMove := true }

end Moves

/-! Runs -/

inductive Operation where
  | create (request : CreateRequest) (draws : Draws) (moment : Moment) (faults : PublicationFaults)
  | rewrap (request : RewrapRequest) (draws : Draws) (moment : Moment) (faults : PublicationFaults)
  | rekey (request : RekeyRequest) (draws : Draws) (moment : Moment) (faults : PublicationFaults)
  | quarantine (request : QuarantineRequest) (faults : MoveFaults)
  | restore (request : RestoreRequest) (faults : MoveFaults)

section Runs

variable (env : Environment) (layout : Layout)

/-- The store after an operation, and whether it ended in an error. -/
def perform (store : SnapshotStore) :
    Operation → SnapshotStore × Except RecoverableSnapshotError Unit
  | .create request draws moment faults =>
    (createRecoverableSnapshot env layout store request draws moment faults).map id (·.map fun _ => ())
  | .rewrap request draws moment faults =>
    (rewrapRecoverableSnapshotProtectors env layout store request draws moment faults).map id
      (·.map fun _ => ())
  | .rekey request draws moment faults =>
    (rekeyRecoverableSnapshot env layout store request draws moment faults).map id
      (·.map fun _ => ())
  | .quarantine request faults =>
    (quarantineRecoverableSnapshotGeneration env layout store request faults).map id
      (·.map fun _ => ())
  | .restore request faults =>
    (restoreQuarantinedSnapshotGeneration env layout store request faults).map id
      (·.map fun _ => ())

def SnapshotStore.step (store : SnapshotStore) (operation : Operation) : SnapshotStore :=
  (perform env layout store operation).1

/-- What is published or restored goes to the snapshots, the new secrets of a rewrap do not open
its source, and no move is left behind by an error. -/
def Orderly (store : SnapshotStore) : Operation → Prop
  | .create request _ _ _ => request.output.directory = .snapshots
  | .rewrap request _ _ _ => request.output.directory = .snapshots ∧
      ∀ held, store.generations request.source = some held →
        ∀ secret ∈ request.protectors.secrets, (unlock env held.generation secret).toOption = none
  | .rekey request _ _ _ => request.output.directory = .snapshots
  | .quarantine _ faults => faults.Settled
  | .restore request faults => faults.Settled ∧
      (request.restored.directory = .quarantine → request.quarantined.directory = .quarantine)

/-- The new secrets of a rewrap are among those that are told apart. -/
def Operation.Among (secrets passwords : Set (List UInt8)) : Operation → Prop
  | .rewrap request _ _ _ => ∀ secret ∈ request.protectors.secrets, secret.Among secrets passwords
  | _ => True

end Runs

/-! What is kept -/

/-- A strictly newer generation, linked to another one. -/
def Generation.Replaces (newer older : Generation) : Prop :=
  ∃ manifest retired, newer.manifest = some manifest ∧ older.manifest = some retired ∧
    manifest.linked retired = true ∧
      retired.createdAtUnixMilliseconds < manifest.createdAtUnixMilliseconds

/-- Two generations of a store, one of them linked to the other. -/
def SnapshotStore.Related (store : SnapshotStore) (first second : Held) : Prop :=
  (∃ place, store.generations place = some first) ∧ (∃ place, store.generations place = some second) ∧
    ∃ manifest manifest', first.generation.manifest = some manifest ∧
      second.generation.manifest = some manifest' ∧
        (manifest.linked manifest' = true ∨ manifest'.linked manifest = true)

/-- None of the family of a generation is newer than it. -/
def SnapshotStore.Newest (store : SnapshotStore) (held : Held) : Prop :=
  ∀ other manifest manifest', Relation.ReflTransGen store.Related held other →
    held.generation.manifest = some manifest → other.generation.manifest = some manifest' →
      manifest'.createdAtUnixMilliseconds ≤ manifest.createdAtUnixMilliseconds

/-- What an operation keeps of the generations. -/
structure Keeps (env : Environment) (layout : Layout) (secrets passwords : Set (List UInt8))
    (store : SnapshotStore) (operation : Operation) : Prop where
  moved : ∀ held place retired, place.directory ≠ .quarantine → retired.directory = .quarantine →
    store.generations place = some held →
    (store.step env layout operation).generations retired = some held →
      ∃ outside newer words report, outside.directory ≠ .quarantine ∧
        store.generations outside = some newer ∧
        (store.step env layout operation).generations outside = some newer ∧
        newer.generation.Replaces held.generation ∧
        verifyRecoverableSnapshotWithRecoveryWords env newer.generation words = .ok report
  newest : ∀ held place, (store.step env layout operation).generations place = some held →
    (store.step env layout operation).Newest held → held.generation.manifest.isSome = true →
      place.directory ≠ .quarantine
  failed : ∀ error, (perform env layout store operation).2 = .error error →
    ∀ place held, store.generations place = some held →
      (store.step env layout operation).generations place = some held
  unique : ∀ serial < (store.step env layout operation).born,
    ∃! place, ((store.step env layout operation).generations place).map (·.serial) = some serial
  rewrapped : ∀ request draws moment faults, operation = .rewrap request draws moment faults →
    (perform env layout store operation).2 = .ok () →
      ∃ held new, store.generations request.source = some held ∧
        (store.step env layout operation).generations request.output = some new ∧
        (∀ path, new.generation.files.lookup path = held.generation.files.lookup path) ∧
        (∀ secret ∈ request.protectors.secrets,
          (unlock env new.generation secret).toOption = some request.existingSnapshotKey) ∧
        ∀ secret, secret.Among secrets passwords →
          (unlock env held.generation secret).toOption ≠ none →
            (unlock env new.generation secret).toOption = none

/-! How a store changes -/

namespace SnapshotStore

variable {store : SnapshotStore}

/-- A move to a free place exchanges the two places. -/
theorem move_generations {source destination : Place}
    (hfree : store.generations destination = none) (place : Place) :
    (store.move source destination).generations place =
      store.generations (Equiv.swap source destination place) := by
  by_cases hdestination : place = destination
  · subst hdestination
    rw [Equiv.swap_apply_right]
    simp [move]
  · by_cases hsource : place = source
    · subst hsource
      rw [Equiv.swap_apply_left, hfree]
      simp [move, Function.update_of_ne hdestination]
    · rw [Equiv.swap_apply_of_ne_of_ne hsource hdestination]
      simp [move, Function.update_of_ne hdestination, Function.update_of_ne hsource]

theorem move_back {source destination : Place} (hfree : store.generations destination = none) :
    (store.move source destination).move destination source = store := by
  have hsource : (store.move source destination).generations source = none := by
    rw [move_generations hfree, Equiv.swap_apply_left, hfree]
  have hgenerations : ((store.move source destination).move destination source).generations =
      store.generations := by
    funext place
    rw [move_generations hsource, move_generations hfree, Equiv.swap_comm destination source,
      Equiv.swap_apply_self]
  cases store
  exact congrArg (SnapshotStore.mk · _) hgenerations

/-- A generation is published where there was none, or moved there. -/
inductive Change (store : SnapshotStore) : SnapshotStore → Prop
  | same : Change store store
  | placed (output : Place) (generation : Generation)
      (hfree : store.generations output = none) : Change store (store.place output generation)
  | moved (source destination : Place) (held : Held)
      (hsource : store.generations source = some held)
      (hfree : store.generations destination = none) : Change store (store.move source destination)

/-- Every generation that was published is in one place. -/
structure Placed (store : SnapshotStore) : Prop where
  bounded : ∀ place held, store.generations place = some held → held.serial < store.born
  unique : ∀ serial < store.born,
    ∃! place, (store.generations place).map (·.serial) = some serial

theorem Placed.injective (h : store.Placed) {first second : Place} {held : Held}
    (hfirst : store.generations first = some held) (hsecond : store.generations second = some held) :
    first = second := by
  have hunique := h.unique held.serial (h.bounded first held hfirst)
  exact hunique.unique (by rw [hfirst]; rfl) (by rw [hsecond]; rfl)

theorem place_of_ne {output place : Place} {generation : Generation} (h : place ≠ output) :
    (store.place output generation).generations place = store.generations place :=
  Function.update_of_ne h ..

theorem place_self {output : Place} {generation : Generation} :
    (store.place output generation).generations output = some ⟨store.born, generation⟩ :=
  Function.update_self ..

/-- What is there is not where something is published. -/
theorem ne_of_free {output place : Place} {held : Held} (hfree : store.generations output = none)
    (hplace : store.generations place = some held) : place ≠ output := by
  rintro rfl
  rw [hfree] at hplace
  cases hplace

theorem Placed.place (h : store.Placed) {output : Place} {generation : Generation}
    (hfree : store.generations output = none) : (store.place output generation).Placed where
  bounded place held hplace := by
    by_cases houtput : place = output
    · subst houtput
      rw [place_self] at hplace
      cases hplace
      exact Nat.lt_succ_self _
    · rw [place_of_ne houtput] at hplace
      exact Nat.lt_succ_of_lt (h.bounded place held hplace)
  unique serial hserial := by
    rcases Nat.lt_succ_iff_lt_or_eq.mp hserial with hold | rfl
    · rcases h.unique serial hold with ⟨place, hplace, hunique⟩
      have hne : place ≠ output := by
        rintro rfl
        simp [hfree] at hplace
      refine ⟨place, by simpa only [place_of_ne hne] using hplace, ?_⟩
      intro other hother
      by_cases houtput : other = output
      · subst houtput
        rw [place_self] at hother
        cases hother
        exact absurd hold (Nat.lt_irrefl _)
      · rw [place_of_ne houtput] at hother
        exact hunique other hother
    · refine ⟨output, by simp [place_self], ?_⟩
      intro other hother
      by_contra houtput
      simp only [place_of_ne houtput] at hother
      rcases Option.map_eq_some_iff.mp hother with ⟨held, hheld, hserial'⟩
      exact absurd (h.bounded other held hheld) (hserial' ▸ Nat.lt_irrefl _)

theorem Placed.move (h : store.Placed) {source destination : Place}
    (hfree : store.generations destination = none) : (store.move source destination).Placed where
  bounded place held hplace := by
    rw [move_generations hfree] at hplace
    exact h.bounded _ held hplace
  unique serial hserial := by
    rcases h.unique serial hserial with ⟨place, hplace, hunique⟩
    refine ⟨Equiv.swap source destination place, ?_, ?_⟩
    · simpa only [move_generations hfree, Equiv.swap_apply_self] using hplace
    · intro other hother
      simp only [move_generations hfree] at hother
      rw [← hunique _ hother, Equiv.swap_apply_self]

theorem Placed.change {after : SnapshotStore} (h : store.Placed) (hchange : store.Change after) :
    after.Placed := by
  cases hchange with
  | same => exact h
  | placed output generation hfree => exact h.place hfree
  | moved source destination held hsource hfree => exact h.move hfree

/-- Each generation in the quarantine has a newer one it is linked to. -/
def Superseded (store : SnapshotStore) : Prop :=
  ∀ place held, place.directory = .quarantine → store.generations place = some held →
    ∃ other newer, store.generations other = some newer ∧ newer.generation.Replaces held.generation

/-- What is stored stays stored. -/
theorem Change.stored {after : SnapshotStore} (h : store.Change after) {place : Place} {held : Held}
    (hplace : store.generations place = some held) : ∃ other, after.generations other = some held := by
  cases h with
  | same => exact ⟨place, hplace⟩
  | placed output generation hfree =>
    exact ⟨place, by rw [place_of_ne (ne_of_free hfree hplace), hplace]⟩
  | moved source destination held' hsource hfree =>
    exact ⟨Equiv.swap source destination place, by
      rw [move_generations hfree, Equiv.swap_apply_self, hplace]⟩

theorem Superseded.keep {after : SnapshotStore} (h : store.Superseded) (hchange : store.Change after)
    (hnew : ∀ place held, place.directory = .quarantine → after.generations place = some held →
      (∃ before, before.directory = .quarantine ∧ store.generations before = some held) ∨
        ∃ other newer, store.generations other = some newer ∧
          newer.generation.Replaces held.generation) :
    after.Superseded := by
  intro place held hquarantine hplace
  have hnewer : ∃ other newer, store.generations other = some newer ∧
      newer.generation.Replaces held.generation := by
    rcases hnew place held hquarantine hplace with ⟨before, hbefore, hstored⟩ | hnewer
    · exact h before held hbefore hstored
    · exact hnewer
  rcases hnewer with ⟨other, newer, hother, hreplaces⟩
  rcases hchange.stored hother with ⟨other', hother'⟩
  exact ⟨other', newer, hother', hreplaces⟩

/-- The newest of a family is not superseded. -/
theorem Superseded.newest (h : store.Superseded) {place : Place} {held : Held}
    (hplace : store.generations place = some held) (hnewest : store.Newest held) :
    place.directory ≠ .quarantine := by
  intro hquarantine
  rcases h place held hquarantine hplace with
    ⟨other, newer, hother, manifest, retired, hmanifest, hretired, hlinked, hlater⟩
  have hrelated : store.Related held newer :=
    ⟨⟨place, hplace⟩, ⟨other, hother⟩, retired, manifest, hretired, hmanifest, .inr hlinked⟩
  have hbound := hnewest newer retired manifest (Relation.ReflTransGen.single hrelated) hretired
    hmanifest
  omega

end SnapshotStore

/-! What each operation does -/

section Steps

variable {env : Environment} {layout : Layout} {store : SnapshotStore}

/-- A publication changes nothing or fills its output. -/
theorem publish_change {α : Type} {output : Place} {faults : PublicationFaults}
    {assembled : Except RecoverableSnapshotError (Generation × α)}
    {verification : Generation → α → Except RecoverableSnapshotError Unit}
    (hfree : ∀ generation context, assembled = .ok (generation, context) →
      store.generations output = none) :
    (publish store output faults assembled verification).1 = store ∨
      ∃ generation, store.generations output = none ∧
        (publish store output faults assembled verification).1 = store.place output generation := by
  unfold publish
  cases hassembled : attempt faults.before assembled with
  | error error => exact .inl rfl
  | ok result =>
    rcases result with ⟨generation, context⟩
    replace hfree := hfree generation context (attempt_ok.mp hassembled).2
    cases faults.rename with
    | some error => exact .inl rfl
    | none =>
      cases faults.sync with
      | some error => exact .inr ⟨generation, hfree, rfl⟩
      | none =>
        simp only
        generalize attempt faults.reading (verification generation context) = verified
        cases verified with
        | ok _ => exact .inr ⟨generation, hfree, rfl⟩
        | error error =>
          cases faults.remaining with
          | none => exact .inl rfl
          | some kept => exact .inr ⟨_, hfree, rfl⟩

theorem CreateRequest.free {request : CreateRequest} {draws : Draws} {moment : Moment}
    {generation : Generation} {databaseKey : SnapshotKey}
    (h : request.assemble env layout store draws moment = .ok (generation, databaseKey)) :
    store.generations request.output = none := by
  rw [assemble] at h
  rcases bind_ok.mp h with ⟨mode, -, h⟩
  rcases bind_ok.mp h with ⟨source, -, h⟩
  rcases check_bind_ok.mp h with ⟨-, h⟩
  rcases check_bind_ok.mp h with ⟨-, h⟩
  rcases check_bind_ok.mp h with ⟨-, h⟩
  rcases check_bind_ok.mp h with ⟨houtput, -⟩
  exact output_free houtput

/-- A move that settled changes nothing when it ends in an error, and moves otherwise. -/
theorem moveVerified_settled {source destination : Place} {faults : MoveFaults} {message : String}
    {verification : Except RecoverableSnapshotError RecoverableSnapshotVerificationReport}
    {report : SnapshotRetentionReport} (hfree : store.generations destination = none)
    (hverified : ∃ verified, verification = .ok verified) (hsettled : faults.Settled) :
    (∃ error, store.moveVerified source destination faults message verification report =
        (store, .error error)) ∨
      store.moveVerified source destination faults message verification report =
        (store.move source destination, .ok report) := by
  rcases hverified with ⟨verified, rfl⟩
  unfold SnapshotStore.moveVerified
  cases faults.rename with
  | some error => exact .inl ⟨error, rfl⟩
  | none =>
    rw [hsettled.1]
    cases hreading : faults.reading with
    | none => exact .inr rfl
    | some error =>
      have hrollback : faults.rollbackRefused = false :=
        hsettled.2.resolve_left (by simp [hreading])
      refine .inl ⟨if faults.rollbackUnsynced then .integrity message else error, ?_⟩
      simp only [attempt, hrollback, Bool.false_eq_true, if_false,
        SnapshotStore.move_back hfree]

/-- What the checks of a quarantine found. -/
structure QuarantineRequest.Admits (env : Environment) (layout : Layout) (store : SnapshotStore)
    (request : QuarantineRequest) (retiring : Held) (retired : RecoverableSnapshotManifest) :
    Prop where
  stored : store.generations request.retiring = some retiring
  free : store.generations (QuarantineRequest.destination retired) = none
  verified : ∃ report,
    verifyRecoverableSnapshot env retiring.generation request.retiringSnapshotKey = .ok report
  outside : request.replacement.directory ≠ .quarantine
  apart : request.replacement ≠ request.retiring
  replacement : ∃ newer report, store.generations request.replacement = some newer ∧
    newer.generation.Replaces retiring.generation ∧
    verifyRecoverableSnapshotWithRecoveryWords env newer.generation
      request.replacementRecoveryWords = .ok report

theorem QuarantineRequest.admits {request : QuarantineRequest} {retiring : Held}
    {retired replacing : RecoverableSnapshotManifest}
    (h : request.checks env layout store = .ok (retiring, retired, replacing)) :
    request.Admits env layout store retiring retired := by
  rw [checks] at h
  rcases bind_ok.mp h with ⟨_, hretiring, h⟩
  rcases bind_ok.mp h with ⟨newer, hnewer, h⟩
  rcases check_bind_ok.mp h with ⟨hnested, h⟩
  rcases bind_ok.mp h with ⟨report, hverified, h⟩
  rcases bind_ok.mp h with ⟨report', hwords, h⟩
  rcases bind_ok.mp h with ⟨_, hretired, h⟩
  rcases bind_ok.mp h with ⟨_, hreplacing, h⟩
  rcases check_bind_ok.mp h with ⟨hnewest, h⟩
  rcases check_bind_ok.mp h with ⟨-, h⟩
  rcases check_bind_ok.mp h with ⟨-, h⟩
  rcases check_bind_ok.mp h with ⟨htaken, h⟩
  cases h
  simp only [rejectNestedRetentionPaths, refuseIf_ok, Bool.or_eq_false_iff] at hnested
  simp only [refuseIf_ok, Bool.or_eq_false_iff, Bool.not_eq_false', decide_eq_false_iff_not,
    Nat.not_le] at hnewest
  refine ⟨held_ok hretiring, ?_, ⟨report, hverified⟩, ?_, ?_, newer, report', held_ok hnewer,
    ⟨_, _, (validManifest_ok hreplacing).1, (validManifest_ok hretired).1, hnewest.1.1.1,
      hnewest.1.1.2⟩, hwords⟩
  · rw [refuseIf_ok, SnapshotStore.taken, Bool.or_eq_false_iff, Bool.or_eq_false_iff,
      Option.isSome_eq_false_iff, Option.isNone_iff_eq_none] at htaken
    exact htaken.1.1
  · intro hquarantine
    have hstarts : layout.quarantine.isPrefixOf (layout.path request.replacement) = true := by
      rw [Layout.path, hquarantine, List.isPrefixOf_iff_prefix]
      exact List.prefix_append ..
    rw [hstarts] at hnested
    simp at hnested
  · intro hsame
    rw [hsame] at hnested
    have hself : (layout.path request.retiring).isPrefixOf (layout.path request.retiring) = true :=
      List.isPrefixOf_iff_prefix.mpr (List.prefix_refl _)
    rw [hself] at hnested
    simp at hnested

theorem RestoreRequest.stored {request : RestoreRequest} {held : Held}
    {manifest : RecoverableSnapshotManifest} (h : request.checks env layout store = .ok (held, manifest)) :
    store.generations request.quarantined = some held ∧
      store.generations request.restored = none ∧ ∃ report,
        verifyRecoverableSnapshot env held.generation request.snapshotKey = .ok report := by
  rw [checks] at h
  rcases bind_ok.mp h with ⟨_, hheld, h⟩
  rcases bind_ok.mp h with ⟨report, hverified, h⟩
  rcases check_bind_ok.mp h with ⟨-, h⟩
  rcases bind_ok.mp h with ⟨_, -, h⟩
  rcases check_bind_ok.mp h with ⟨houtput, h⟩
  rcases check_bind_ok.mp h with ⟨-, h⟩
  cases h
  exact ⟨held_ok hheld, output_free houtput, report, hverified⟩

/-- The effects an orderly operation can have. -/
inductive Effect (env : Environment) (layout : Layout) (store : SnapshotStore) :
    SnapshotStore × Except RecoverableSnapshotError Unit → Prop
  | same (result : Except RecoverableSnapshotError Unit) : Effect env layout store (store, result)
  | published (output : Place) (generation : Generation)
      (result : Except RecoverableSnapshotError Unit) (hfree : store.generations output = none)
      (houtside : output.directory = .snapshots) :
      Effect env layout store (store.place output generation, result)
  | retired (request : QuarantineRequest) (retiring : Held) (retired : RecoverableSnapshotManifest)
      (h : request.Admits env layout store retiring retired) :
      Effect env layout store
        (store.move request.retiring (QuarantineRequest.destination retired), .ok ())
  | restored (source destination : Place) (held : Held)
      (hsource : store.generations source = some held)
      (hfree : store.generations destination = none)
      (hdirection : destination.directory = .quarantine → source.directory = .quarantine) :
      Effect env layout store (store.move source destination, .ok ())

theorem Effect.of_publication {output : Place} (houtside : output.directory = .snapshots)
    {published : SnapshotStore × Except RecoverableSnapshotError Generation}
    (h : published.1 = store ∨ ∃ generation, store.generations output = none ∧
      published.1 = store.place output generation) :
    Effect env layout store (published.map id (·.map fun _ => ())) := by
  rcases published with ⟨after, result⟩
  rcases h with rfl | ⟨generation, hfree, rfl⟩
  · exact .same _
  · exact .published output generation _ hfree houtside

theorem Effect.of_move {source destination : Place} {faults : MoveFaults} {message : String}
    {verification : Except RecoverableSnapshotError RecoverableSnapshotVerificationReport}
    {report : SnapshotRetentionReport} (hfree : store.generations destination = none)
    (hverified : ∃ verified, verification = .ok verified) (hsettled : faults.Settled)
    (hmove : Effect env layout store (store.move source destination, .ok ())) :
    Effect env layout store ((store.moveVerified source destination faults message verification
      report).map id (·.map fun _ => ())) := by
  rcases @moveVerified_settled store source destination faults message verification report hfree
    hverified hsettled with ⟨error, hmoved⟩ | hmoved
  · rw [hmoved]
    exact .same _
  · rw [hmoved]
    exact hmove

theorem Orderly.effect {operation : Operation} (h : Orderly env store operation) :
    Effect env layout store (perform env layout store operation) := by
  cases operation with
  | create request draws moment faults =>
    exact Effect.of_publication h (publish_change fun _ _ hassembled =>
      CreateRequest.free hassembled)
  | rewrap request draws moment faults =>
    refine Effect.of_publication h.1 (publish_change fun generation _ hassembled => ?_)
    rcases RewrapRequest.assembles hassembled with ⟨_, _, _, _, _, _, hmade⟩
    exact hmade.free
  | rekey request draws moment faults =>
    refine @Effect.of_publication env layout store request.output h _ ?_
    cases request.checks env store with
    | error error => exact .inl rfl
    | ok _ => exact publish_change fun _ _ hassembled => CreateRequest.free hassembled
  | quarantine request faults =>
    rw [perform, quarantineRecoverableSnapshotGeneration]
    cases hchecks : attempt faults.before (request.checks env layout store) with
    | error error => exact .same _
    | ok found =>
      rcases found with ⟨retiring, retired, replacing⟩
      have hadmits := QuarantineRequest.admits (attempt_ok.mp hchecks).2
      exact Effect.of_move hadmits.free hadmits.verified h
        (.retired request retiring retired hadmits)
  | restore request faults =>
    rw [perform, restoreQuarantinedSnapshotGeneration]
    cases hchecks : attempt faults.before (request.checks env layout store) with
    | error error => exact .same _
    | ok found =>
      rcases found with ⟨held, manifest⟩
      rcases RestoreRequest.stored (attempt_ok.mp hchecks).2 with ⟨hstored, hfree, hverified⟩
      exact Effect.of_move hfree hverified h.1
        (.restored request.quarantined request.restored held hstored hfree h.2)

theorem Effect.change {result : SnapshotStore × Except RecoverableSnapshotError Unit}
    (h : Effect env layout store result) : store.Change result.1 := by
  cases h with
  | same result => exact .same
  | published output generation result hfree houtside => exact .placed output generation hfree
  | retired request retiring retired hadmits =>
    exact .moved _ _ retiring hadmits.stored hadmits.free
  | restored source destination held hsource hfree hdirection =>
    exact .moved source destination held hsource hfree

theorem Effect.superseded {result : SnapshotStore × Except RecoverableSnapshotError Unit}
    (h : Effect env layout store result) (hsuperseded : store.Superseded) :
    result.1.Superseded := by
  refine hsuperseded.keep h.change ?_
  intro place held hquarantine hplace
  cases h with
  | same result => exact .inl ⟨place, hquarantine, hplace⟩
  | published output generation result hfree houtside =>
    have hne : place ≠ output := by
      rintro rfl
      rw [houtside] at hquarantine
      cases hquarantine
    rw [SnapshotStore.place_of_ne hne] at hplace
    exact .inl ⟨place, hquarantine, hplace⟩
  | retired request retiring retired hadmits =>
    rw [SnapshotStore.move_generations hadmits.free] at hplace
    by_cases hdestination : place = QuarantineRequest.destination retired
    · rw [hdestination, Equiv.swap_apply_right, hadmits.stored] at hplace
      cases hplace
      rcases hadmits.replacement with ⟨newer, report, hnewer, hreplaces, -⟩
      exact .inr ⟨_, newer, hnewer, hreplaces⟩
    · by_cases hretiring : place = request.retiring
      · rw [hretiring, Equiv.swap_apply_left, hadmits.free] at hplace
        cases hplace
      · rw [Equiv.swap_apply_of_ne_of_ne hretiring hdestination] at hplace
        exact .inl ⟨place, hquarantine, hplace⟩
  | restored source destination held' hsource hfree hdirection =>
    rw [SnapshotStore.move_generations hfree] at hplace
    by_cases hdestination : place = destination
    · subst hdestination
      rw [Equiv.swap_apply_right] at hplace
      exact .inl ⟨source, hdirection hquarantine, hplace⟩
    · by_cases hplaced : place = source
      · rw [hplaced, Equiv.swap_apply_left, hfree] at hplace
        cases hplace
      · rw [Equiv.swap_apply_of_ne_of_ne hplaced hdestination] at hplace
        exact .inl ⟨place, hquarantine, hplace⟩

/-- An error leaves every generation where it was. -/
theorem Effect.failed {result : SnapshotStore × Except RecoverableSnapshotError Unit}
    (h : Effect env layout store result) {error : RecoverableSnapshotError}
    (herror : result.2 = .error error) {place : Place} {held : Held}
    (hplace : store.generations place = some held) : result.1.generations place = some held := by
  cases h with
  | same result => exact hplace
  | published output generation result hfree houtside =>
    rw [SnapshotStore.place_of_ne (SnapshotStore.ne_of_free hfree hplace), hplace]
  | retired request retiring retired hadmits => cases herror
  | restored source destination held' hsource hfree hdirection => cases herror

/-- What comes into the quarantine has a newer generation outside. -/
theorem Effect.moved {result : SnapshotStore × Except RecoverableSnapshotError Unit}
    (h : Effect env layout store result) (hplaced : store.Placed) {place retired : Place}
    {held : Held} (hplace : place.directory ≠ .quarantine) (hretired : retired.directory = .quarantine)
    (hbefore : store.generations place = some held)
    (hafter : result.1.generations retired = some held) :
    ∃ outside newer words report, outside.directory ≠ .quarantine ∧
      store.generations outside = some newer ∧ result.1.generations outside = some newer ∧
      newer.generation.Replaces held.generation ∧
      verifyRecoverableSnapshotWithRecoveryWords env newer.generation words = .ok report := by
  have hstays : store.generations retired ≠ some held := fun hsame =>
    hplace (hplaced.injective hbefore hsame ▸ hretired)
  cases h with
  | same result => exact absurd hafter hstays
  | published output generation result hfree houtside =>
    have hne : retired ≠ output := by
      rintro rfl
      rw [houtside] at hretired
      cases hretired
    rw [SnapshotStore.place_of_ne hne] at hafter
    exact absurd hafter hstays
  | retired request retiring retired' hadmits =>
    rw [SnapshotStore.move_generations hadmits.free] at hafter
    have hsource := hplaced.injective hafter hbefore
    rcases hadmits.replacement with ⟨newer, report, hnewer, hreplaces, hwords⟩
    by_cases hretiring : place = request.retiring
    · rw [hretiring, hadmits.stored] at hbefore
      cases hbefore
      refine ⟨request.replacement, newer, request.replacementRecoveryWords, report, hadmits.outside,
        hnewer, ?_, hreplaces, hwords⟩
      rw [SnapshotStore.move_generations hadmits.free, Equiv.swap_apply_of_ne_of_ne hadmits.apart
        (SnapshotStore.ne_of_free hadmits.free hnewer), hnewer]
    · by_cases hdestination : retired = QuarantineRequest.destination retired'
      · rw [hdestination, Equiv.swap_apply_right] at hsource
        exact absurd hsource.symm hretiring
      · by_cases hmoving : retired = request.retiring
        · rw [hmoving, Equiv.swap_apply_left, hadmits.free] at hafter
          cases hafter
        · rw [Equiv.swap_apply_of_ne_of_ne hmoving hdestination] at hafter
          exact absurd hafter hstays
  | restored source destination held' hsource hfree hdirection =>
    rw [SnapshotStore.move_generations hfree] at hafter
    by_cases hdestination : retired = destination
    · rw [hdestination, Equiv.swap_apply_right] at hafter
      have hsame := hplaced.injective hafter hbefore
      exact absurd (hsame ▸ hdirection (hdestination ▸ hretired)) hplace
    · by_cases hmoving : retired = source
      · rw [hmoving, Equiv.swap_apply_left, hfree] at hafter
        cases hafter
      · rw [Equiv.swap_apply_of_ne_of_ne hmoving hdestination] at hafter
        exact absurd hafter hstays

/-- A rewrap that succeeds keeps the files, and its own secrets are the only ones to open it. -/
theorem rewrap_keeps {request : RewrapRequest} {draws : Draws} {moment : Moment}
    {faults : PublicationFaults} {secrets passwords : Set (List UInt8)}
    (hlawful : env.crypto.Lawful) (hseparates : env.crypto.Separates secrets passwords)
    (hamong : ∀ secret ∈ request.protectors.secrets, secret.Among secrets passwords)
    (horderly : Orderly env store (.rewrap request draws moment faults))
    (hdone : (perform env layout store (.rewrap request draws moment faults)).2 = .ok ()) :
    ∃ held new, store.generations request.source = some held ∧
      (perform env layout store (.rewrap request draws moment faults)).1.generations
        request.output = some new ∧
      (∀ path, new.generation.files.lookup path = held.generation.files.lookup path) ∧
      (∀ secret ∈ request.protectors.secrets,
        (unlock env new.generation secret).toOption = some request.existingSnapshotKey) ∧
      ∀ secret, secret.Among secrets passwords →
        (unlock env held.generation secret).toOption ≠ none →
          (unlock env new.generation secret).toOption = none := by
  rcases hpublished : rewrapRecoverableSnapshotProtectors env layout store request draws moment faults
    with ⟨after, result⟩
  rw [perform, hpublished] at hdone
  cases result with
  | error error => cases hdone
  | ok generation =>
    rcases publish_ok hpublished with ⟨⟨⟩, hassembled, rfl, hverified⟩
    rcases RewrapRequest.assembles hassembled with
      ⟨held, source, rewrapped, portable, convenience, phrase, hmade⟩
    rcases hmade.verified with ⟨report, hsource⟩
    rw [RewrapRequest.verification] at hverified
    rcases bind_ok.mp hverified with ⟨portableReport, hprotectors, -⟩
    rw [verifyProtectors] at hprotectors
    rcases bind_ok.mp hprotectors with ⟨wordsReport, hwords, -⟩
    rcases validManifest_of_words hwords with ⟨manifest, hmanifest⟩
    have hsame : manifest = rewrapped :=
      Option.some.inj ((validManifest_ok hmanifest).1.symm.trans hmade.manifest)
    subst hsame
    refine ⟨held, ⟨store.born, generation⟩, hmade.stored, ?_, ?_, ?_, ?_⟩
    · rw [perform, hpublished]
      exact SnapshotStore.place_self
    · exact files_unchanged hsource hmade.valid hmade.files
    · intro secret hsecret
      exact unlock_own hmanifest hmade.formatVersion hmade.protectors hmade.wrapped hlawful hsecret
    · intro secret hknown hopens
      refine unlock_other hmanifest hmade.formatVersion hmade.protectors hmade.wrapped hlawful
        hseparates hamong hknown fun hsecret => ?_
      exact hopens (horderly.2 held hmade.stored secret hsecret)

end Steps

section Theorem

variable {env : Environment} {layout : Layout}

/-- What every orderly operation preserves. -/
theorem orderly_invariant {operations : List Operation}
    (h : Meets (SnapshotStore.step env layout) (Orderly env) .empty operations) :
    (execute (SnapshotStore.step env layout) .empty operations).Placed ∧
      (execute (SnapshotStore.step env layout) .empty operations).Superseded := by
  refine @Meets.invariant _ _ (SnapshotStore.step env layout) (Orderly env)
    (fun store => store.Placed ∧ store.Superseded) ?_ _ _ h ?_
  · intro store operation hstore horderly
    have heffect := @Orderly.effect env layout store operation horderly
    exact ⟨hstore.1.change heffect.change, heffect.superseded hstore.2⟩
  · refine ⟨⟨?_, ?_⟩, ?_⟩
    · intro place held hplace
      cases hplace
    · intro serial hserial
      exact absurd hserial (Nat.not_lt_zero serial)
    · intro place held hquarantine hplace
      cases hplace

/-- In every orderly run each operation keeps what there is of the generations. -/
theorem generations_never_lost {secrets passwords : Set (List UInt8)}
    (hlawful : env.crypto.Lawful) (hseparates : env.crypto.Separates secrets passwords)
    (operations : List Operation) (operation : Operation)
    (hamong : operation.Among secrets passwords)
    (horderly : Meets (SnapshotStore.step env layout) (Orderly env) .empty
      (operations ++ [operation])) :
    Keeps env layout secrets passwords
      (execute (SnapshotStore.step env layout) .empty operations) operation := by
  rcases (Meets.append _).mp horderly with ⟨hbefore, hlast, -⟩
  rcases orderly_invariant hbefore with ⟨hplaced, hsuperseded⟩
  have heffect := @Orderly.effect env layout _ operation hlast
  refine ⟨?_, ?_, ?_, ?_, ?_⟩
  · intro held place retired hplace hretired hstored hafter
    exact heffect.moved hplaced hplace hretired hstored hafter
  · intro held place hplace hnewest _
    exact (heffect.superseded hsuperseded).newest hplace hnewest
  · intro error herror place held hplace
    exact heffect.failed herror hplace
  · exact (hplaced.change heffect.change).unique
  · rintro request draws moment faults rfl hdone
    exact rewrap_keeps hlawful hseparates hamong hlast hdone

end Theorem

/-! Two snapshots of one source, the first of which is retired -/

/-- A cipher whose tag is the beginning of its key. -/
def sampleCryptography : Cryptography where
  hkdf _ secret _ := secret
  argon2 password _ := password
  encrypt key _ _ message := message ++ (key ++ List.replicate 16 0).take 16
  decrypt key _ _ ciphertext :=
    if ciphertext.drop (ciphertext.length - 16) = (key ++ List.replicate 16 0).take 16 then
      some (ciphertext.take (ciphertext.length - 16))
    else none

theorem sampleCryptography_lawful : sampleCryptography.Lawful where
  opens key nonce associated message := by simp [sampleCryptography]
  tagged key nonce associated message := by simp [sampleCryptography]

theorem sampleCryptography_separates : sampleCryptography.Separates
    {List.replicate 32 1, List.replicate 32 2} ∅ where
  hkdf secret hsecret other hother hne salt info nonce associated message := by
    rcases hsecret with rfl | rfl <;> rcases hother with rfl | rfl
    · exact absurd rfl hne
    · simp [sampleCryptography]
    · simp [sampleCryptography]
    · exact absurd rfl hne
  argon2 secret hsecret := False.elim hsecret

def sampleEnvironment : Environment where
  crypto := sampleCryptography
  openDatabase _ _ := .ok 1
  manifestBytes _ := 1000

def sampleLayout : Layout := ⟨["snapshots"], ["quarantine"], 1, 1⟩

def sampleDatabases : List DatabasePath := [["contact", "contact.db"], ["session", "session.db"]]

def sampleFiles : List (DatabasePath × List UInt8) := sampleDatabases.map (·, [0])

def sampleEntry (path : DatabasePath) : RecoverableSnapshotDatabase :=
  ⟨pathString path, 1, 1, Sha256.hexDigest [0], "ok", true⟩

def sampleSource : OpenedSource where
  root := ["source"]
  identity := "source"
  databases := sampleDatabases
  copyDatabaseLogically _ _ := .ok [0]

def sampleKey : SnapshotKey := ⟨List.replicate 32 7, rfl⟩

def sampleWords : SnapshotRecoveryWords := ⟨List.replicate 32 1, rfl⟩

def sampleProtectors : Protectors := ⟨sampleWords, none, none⟩

def sampleDraws : Draws :=
  ⟨some sampleKey, some ⟨List.replicate 16 3, List.replicate 32 4, List.replicate 24 5, by simp⟩,
    none, none⟩

def sampleRequest (name : String) (protection : SnapshotOutputProtection) : CreateRequest where
  access := .decrypted
  capture := false
  opened := .ok sampleSource
  stable := .ok ()
  output := ⟨.snapshots, name⟩
  protection

def sampleOperations : List Operation :=
  [.create (sampleRequest "first" (.legacyRawKey sampleKey)) sampleDraws ⟨10, 10, 1⟩
      ⟨none, none, none, none, none⟩,
    .create (sampleRequest "second" (.recoveryWords sampleProtectors)) sampleDraws ⟨20, 20, 1⟩
      ⟨none, none, none, none, none⟩]

def sampleQuarantine : QuarantineRequest :=
  ⟨⟨.snapshots, "first"⟩, sampleKey, ⟨.snapshots, "second"⟩, sampleWords⟩

/-- The first snapshot is retired for the second one. -/
theorem sampleQuarantine_keeps :
    Keeps sampleEnvironment sampleLayout {List.replicate 32 1, List.replicate 32 2} ∅
      (execute (SnapshotStore.step sampleEnvironment sampleLayout) .empty sampleOperations)
      (.quarantine sampleQuarantine ⟨none, none, none, none, false, false⟩) :=
  generations_never_lost sampleCryptography_lawful sampleCryptography_separates sampleOperations _
    trivial ⟨rfl, rfl, ⟨rfl, .inl rfl⟩, trivial⟩

theorem sample_copyDatabase {path : DatabasePath} (h : path ≠ []) (databaseKey : SnapshotKey) :
    copyDatabase sampleEnvironment sampleSource databaseKey path =
      .ok ((path, [0]), sampleEntry path) := by
  have hheader : sqliteHeader ≠ [0] := by decide
  simp [copyDatabase, sampleSource, verifyOneDatabase, h, sampleEnvironment, hheader.symm, bind,
    Except.bind, pure, Except.pure, sampleEntry]

def sampleManifest (schema snapshotId : String) (formatVersion created : ℕ)
    (protection : SnapshotProtection) : RecoverableSnapshotManifest where
  schema
  formatVersion
  snapshotId
  parentSnapshotId := none
  createdAtUnixMilliseconds := created
  sourceIdentity := "source"
  sourceMode := .decrypted
  consistency := ⟨"perDatabaseOnlineBackup", 2, false⟩
  protection
  recoveryVerified := true
  databases := sampleDatabases.map sampleEntry

theorem sample_path_valid : ∀ path ∈ sampleDatabases,
    validatedManifestRelativePath (pathString path) = .ok path := by
  decide +kernel

theorem sample_checkDatabases : checkDatabases [] (sampleDatabases.map sampleEntry) = .ok () := by
  have hcontact := sample_path_valid ["contact", "contact.db"] (by decide)
  have hsession := sample_path_valid ["session", "session.db"] (by decide)
  simp [sampleDatabases, sampleEntry, checkDatabases, hcontact, hsession, isSha256_hexDigest, bind,
    Except.bind]

theorem validManifest_of {env : Environment} {generation : Generation}
    {manifest : RecoverableSnapshotManifest} (hload : loadManifest env generation = .ok manifest)
    (hcontract : validateManifestContract manifest = .ok ()) :
    validManifest env generation = .ok manifest :=
  bind_ok.mpr ⟨manifest, hload, check_bind_ok.mpr ⟨hcontract, rfl⟩⟩

theorem verifyUnlocked_of {env : Environment} {generation : Generation}
    {unlocked : Except RecoverableSnapshotError SnapshotKey} {snapshotKey : SnapshotKey}
    {present : RecoverableSnapshotVerificationReport → Bool} {message : String}
    {report : RecoverableSnapshotVerificationReport} (hunlocked : unlocked = .ok snapshotKey)
    (hverified : verifyRecoverableSnapshot env generation snapshotKey = .ok report)
    (hversion : report.formatVersion = recoverableSnapshotWrappedFormatVersion)
    (hpresent : present report = true)
    (hportable : report.portableRecoveryProtectorVerified = true) :
    verifyUnlocked env generation unlocked present message = .ok report := by
  simp [verifyUnlocked, hunlocked, hverified, hversion, hpresent, hportable, bind, Except.bind]

theorem sample_verifies {manifest : RecoverableSnapshotManifest}
    (hcontract : validateManifestContract manifest = .ok ())
    (hdatabases : manifest.databases = sampleDatabases.map sampleEntry) (snapshotKey : SnapshotKey) :
    verifyRecoverableSnapshot sampleEnvironment ⟨some manifest, sampleFiles⟩ snapshotKey =
      .ok (manifest.report 2) := by
  have hcontact := sample_path_valid ["contact", "contact.db"] (by decide)
  have hsession := sample_path_valid ["session", "session.db"] (by decide)
  have hinventory : inventorySnapshotDatabases sampleFiles = .ok sampleDatabases := by
    decide +kernel
  have hheader : [0] ≠ sqliteHeader := by decide
  have hload : loadManifest sampleEnvironment ⟨some manifest, sampleFiles⟩ = .ok manifest := rfl
  have hdeclared : (manifest.databases.mapM fun database =>
      validatedManifestRelativePath database.relativePath) = .ok sampleDatabases := by
    rw [hdatabases]
    simp [sampleDatabases, sampleEntry, hcontact, hsession, bind, Except.bind, pure, Except.pure]
  have htotal : verifyDatabases sampleEnvironment sampleFiles snapshotKey manifest.databases 0 =
      .ok 2 := by
    have hfirst : sampleFiles.lookup ["contact", "contact.db"] = some [0] := by decide
    have hsecond : sampleFiles.lookup ["session", "session.db"] = some [0] := by decide
    rw [hdatabases]
    simp [sampleDatabases, sampleEntry, verifyDatabases, verifyOneDatabase, hcontact, hsession,
      hfirst, hsecond, hheader, sampleEnvironment, bind, Except.bind]
  rw [verifyRecoverableSnapshot, validManifest, hload]
  simp only [bind, Except.bind, hcontract, pure, Except.pure, hinventory, hdeclared, htotal]
  rfl

theorem sample_assembles (store : SnapshotStore) (name : String)
    {protection : SnapshotOutputProtection} (moment : Moment)
    {prepared : PreparedSnapshotOutputProtection}
    (hprepared : protection.prepare sampleCryptography sampleDraws
      (generateSnapshotId "source" 2 moment) = .ok prepared)
    (houtput : validateNewOutputDirectory sampleLayout store ⟨.snapshots, name⟩ ["source"] = .ok ()) :
    (sampleRequest name protection).assemble sampleEnvironment sampleLayout store sampleDraws
        moment =
      .ok (⟨some (sampleManifest prepared.schema (generateSnapshotId "source" 2 moment)
        prepared.formatVersion moment.created prepared.manifest), sampleFiles⟩,
        prepared.databaseKey) := by
  have hcopied : sampleSource.databases.mapM
      (copyDatabase sampleEnvironment sampleSource prepared.databaseKey) =
        .ok (sampleDatabases.map fun path => ((path, [0]), sampleEntry path)) := by
    change sampleDatabases.mapM _ = _
    simp [sampleDatabases, sample_copyDatabase, bind, Except.bind, pure, Except.pure]
  have hcontact : requireCoreDatabase sampleSource.databases ["contact", "contact.db"] = .ok () := by
    decide
  have hsession : requireCoreDatabase sampleSource.databases ["session", "session.db"] = .ok () := by
    decide
  have hprepared' : (sampleRequest name protection).protection.prepare sampleEnvironment.crypto
      sampleDraws (generateSnapshotId sampleSource.identity sampleSource.databases.length moment) =
        .ok prepared := hprepared
  have houtput' : validateNewOutputDirectory sampleLayout store
      (sampleRequest name protection).output sampleSource.root = .ok () := houtput
  have hmode : (sampleRequest name protection).sourceMode = .ok .decrypted := rfl
  have hopened : (sampleRequest name protection).opened = .ok sampleSource := rfl
  have hstable : (sampleRequest name protection).stable = .ok () := rfl
  have hnonempty : refuseIf sampleSource.databases.isEmpty
      (.invalidArgument "source contains no regular .db files") = .ok () := rfl
  rw [CreateRequest.assemble, hmode, hopened]
  simp only [bind, Except.bind, hnonempty, hcontact, hsession, houtput', hprepared', liftProtector,
    hcopied, hstable]
  rfl

/-- A publication without a fault leaves the assembled snapshot. -/
theorem publish_done {α : Type} {store : SnapshotStore} {output : Place} {generation : Generation}
    {context : α} {assembled : Except RecoverableSnapshotError (Generation × α)}
    {verification : Generation → α → Except RecoverableSnapshotError Unit}
    (hassembled : assembled = .ok (generation, context))
    (hverified : verification generation context = .ok ()) :
    publish store output ⟨none, none, none, none, none⟩ assembled verification =
      (store.place output generation, .ok generation) := by
  simp [publish, attempt, hassembled, hverified]

def sampleProtection : SnapshotProtection :=
  ⟨"sqlcipher4RawKey", "portable256BitRecoveryKey", true, false, []⟩

theorem validateManifestContract_of {manifest : RecoverableSnapshotManifest}
    (hholds : manifest.contractHolds = true)
    (hprotectors : manifest.wrappedProtection = true →
      checkProtectors [] manifest.protection.protectors = .ok () ∧
        manifest.protection.protectors.any (·.isRecoveryWords) = true)
    (hdatabases : checkDatabases [] manifest.databases = .ok ()) :
    validateManifestContract manifest = .ok () := by
  rw [validateManifestContract, hholds]
  cases hwrapped : manifest.wrappedProtection with
  | false => simp [hdatabases, bind, Except.bind]
  | true =>
    obtain ⟨hall, hany⟩ := hprotectors hwrapped
    simp [hdatabases, hall, hany, bind, Except.bind, refuseIf]

theorem sample_legacy_contract {snapshotId : String} {created : ℕ} (h : isSha256 snapshotId = true) :
    validateManifestContract (sampleManifest recoverableSnapshotSchema snapshotId
      recoverableSnapshotFormatVersion created sampleProtection) = .ok () := by
  refine validateManifestContract_of ?_ (fun hwrapped => ?_) sample_checkDatabases
  · simp [RecoverableSnapshotManifest.contractHolds, RecoverableSnapshotManifest.legacyProtection,
      sampleManifest, sampleProtection, h, sampleDatabases, recoverableSnapshotSchema]
  · simp [RecoverableSnapshotManifest.wrappedProtection, sampleManifest, sampleProtection] at hwrapped

def firstManifest : RecoverableSnapshotManifest :=
  sampleManifest recoverableSnapshotSchema (generateSnapshotId "source" 2 ⟨10, 10, 1⟩)
    recoverableSnapshotFormatVersion 10 sampleProtection

theorem firstManifest_contract : validateManifestContract firstManifest = .ok () :=
  sample_legacy_contract (isSha256_hexDigest _)

theorem first_published : perform sampleEnvironment sampleLayout .empty
    (.create (sampleRequest "first" (.legacyRawKey sampleKey)) sampleDraws ⟨10, 10, 1⟩
      ⟨none, none, none, none, none⟩) =
    (SnapshotStore.empty.place ⟨.snapshots, "first"⟩ ⟨some firstManifest, sampleFiles⟩, .ok ()) := by
  have hassembled := @sample_assembles .empty "first" (.legacyRawKey sampleKey) ⟨10, 10, 1⟩ _ rfl
    (by decide)
  have hverified : (sampleRequest "first" (.legacyRawKey sampleKey)).verification sampleEnvironment
      ⟨some firstManifest, sampleFiles⟩ sampleKey = .ok () := by
    change (do
      let report ← verifyRecoverableSnapshot sampleEnvironment ⟨some firstManifest, sampleFiles⟩
        sampleKey
      refuseIf (!report.recoveryVerifiedWithoutWechatKey)
        (.integrity "published snapshot did not pass recovery verification")) = _
    rw [sample_verifies firstManifest_contract rfl]
    rfl
  rw [perform, createRecoverableSnapshot, publish_done hassembled hverified]
  rfl

def sampleProtector : WrappedSnapshotKey where
  formatVersion := 1
  protectorId := Bytes.encode (List.replicate 16 3)
  kind := recoveryWordsProtectorKind
  keyDerivation := keyDerivationName
  salt := Base64.encode (List.replicate 32 4)
  wrappingCipher := wrappingCipherName
  nonce := Base64.encode (List.replicate 24 5)
  wrappedDatabaseKey := Base64.encode (List.replicate 32 7 ++ List.replicate 16 1)
  portable := true
  credentialId := none

theorem sample_prepared {snapshotId : String} (h : isSha256 snapshotId = true) :
    (SnapshotOutputProtection.recoveryWords sampleProtectors).prepare sampleCryptography sampleDraws
        snapshotId =
      .ok ⟨recoverableSnapshotWrappedSchema, recoverableSnapshotWrappedFormatVersion, sampleKey,
        wrappedProtectionOf [sampleProtector]⟩ := by
  have hportable : wrapSnapshotDatabaseKeyWithRecoveryWords sampleCryptography
      sampleDraws.recoveryWords snapshotId sampleKey sampleWords = .ok sampleProtector := by
    unfold wrapSnapshotDatabaseKeyWithRecoveryWords wrap
    rw [h]
    rfl
  have hwrap : sampleProtectors.wrap sampleCryptography sampleDraws snapshotId sampleKey =
      .ok [sampleProtector] := by
    unfold Protectors.wrap
    rw [show sampleProtectors.words = sampleWords from rfl, hportable]
    rfl
  have hkey : sampleDraws.databaseKey = some sampleKey := rfl
  simp only [SnapshotOutputProtection.prepare, h, hkey, hwrap, Bool.not_true, Bool.false_eq_true,
    if_false]
  rfl

theorem sampleProtector_wraps {snapshotId : String} (h : isSha256 snapshotId = true) :
    sampleProtectors.Wrapped sampleCryptography snapshotId sampleKey sampleProtector none none where
  words := ⟨⟨List.replicate 16 3, List.replicate 32 4, List.replicate 24 5, by simp⟩,
    h, rfl, rfl, rfl, rfl, rfl, rfl, rfl, rfl, rfl, rfl⟩
  localCredential credential hcredential := by cases hcredential
  noCredential _ := rfl
  passphrase phrase hphrase := by cases hphrase
  noPassphrase _ := rfl

theorem sample_wrapped_contract {snapshotId : String} {created : ℕ}
    (h : isSha256 snapshotId = true) :
    validateManifestContract (sampleManifest recoverableSnapshotWrappedSchema snapshotId
      recoverableSnapshotWrappedFormatVersion created (wrappedProtectionOf [sampleProtector])) =
        .ok () := by
  rcases (sampleProtector_wraps h).words with ⟨draw, hwraps⟩
  have hvalid := hwraps.valid sampleCryptography_lawful (knownKind_recoveryWords _ _)
  have hprotectors : checkProtectors [] [sampleProtector] = .ok () := by
    simp [checkProtectors, hvalid]
  have hrecovery : [sampleProtector].any (·.isRecoveryWords) = true := by decide
  refine validateManifestContract_of ?_ (fun _ => ⟨hprotectors, hrecovery⟩) sample_checkDatabases
  simp [RecoverableSnapshotManifest.contractHolds, RecoverableSnapshotManifest.wrappedProtection,
    sampleManifest, wrappedProtectionOf, h, sampleDatabases, recoverableSnapshotWrappedSchema]

def secondManifest : RecoverableSnapshotManifest :=
  sampleManifest recoverableSnapshotWrappedSchema (generateSnapshotId "source" 2 ⟨20, 20, 1⟩)
    recoverableSnapshotWrappedFormatVersion 20 (wrappedProtectionOf [sampleProtector])

theorem secondManifest_contract : validateManifestContract secondManifest = .ok () :=
  sample_wrapped_contract (isSha256_hexDigest _)

/-- The second snapshot opens to its words. -/
theorem second_verifies : verifyRecoverableSnapshotWithRecoveryWords sampleEnvironment
    ⟨some secondManifest, sampleFiles⟩ sampleWords = .ok (secondManifest.report 2) := by
  have hmanifest : validManifest sampleEnvironment ⟨some secondManifest, sampleFiles⟩ =
      .ok secondManifest := validManifest_of rfl secondManifest_contract
  have hwrapped : sampleProtectors.Wrapped sampleCryptography secondManifest.snapshotId sampleKey
      sampleProtector none none := sampleProtector_wraps (isSha256_hexDigest _)
  rcases hwrapped.words with ⟨draw, hwraps⟩
  have hopened := hwraps.unwrap sampleCryptography_lawful (knownKind_recoveryWords _ _)
  refine verifyUnlocked_of ?_ (sample_verifies secondManifest_contract rfl sampleKey) rfl rfl rfl
  rw [unlock_recoveryWords hmanifest rfl rfl hwrapped, unwrapSnapshotDatabaseKey]
  exact congrArg liftProtector hopened

theorem second_published {store : SnapshotStore}
    (houtput : validateNewOutputDirectory sampleLayout store ⟨.snapshots, "second"⟩ ["source"] =
      .ok ()) :
    perform sampleEnvironment sampleLayout store
      (.create (sampleRequest "second" (.recoveryWords sampleProtectors)) sampleDraws ⟨20, 20, 1⟩
        ⟨none, none, none, none, none⟩) =
      (store.place ⟨.snapshots, "second"⟩ ⟨some secondManifest, sampleFiles⟩, .ok ()) := by
  have hassembled := sample_assembles store "second" ⟨20, 20, 1⟩
    (sample_prepared (isSha256_hexDigest _)) houtput
  have hverified : (sampleRequest "second" (.recoveryWords sampleProtectors)).verification
      sampleEnvironment ⟨some secondManifest, sampleFiles⟩ sampleKey = .ok () := by
    rw [CreateRequest.verification]
    change (do
      let report ← verifyProtectors sampleEnvironment ⟨some secondManifest, sampleFiles⟩
        sampleProtectors "local and portable protectors resolved different snapshots"
        "passphrase and portable protectors resolved different snapshots"
      refuseIf (!report.recoveryVerifiedWithoutWechatKey)
        (.integrity "published snapshot did not pass recovery verification")) = _
    rw [verifyProtectors]
    change ((do
      let portable ← verifyRecoverableSnapshotWithRecoveryWords sampleEnvironment
        ⟨some secondManifest, sampleFiles⟩ sampleWords
      Except.ok portable) >>= _) = _
    rw [second_verifies]
    rfl
  rw [perform, createRecoverableSnapshot, publish_done hassembled hverified]
  rfl

def sampleStore : SnapshotStore :=
  (SnapshotStore.empty.place ⟨.snapshots, "first"⟩ ⟨some firstManifest, sampleFiles⟩).place
    ⟨.snapshots, "second"⟩ ⟨some secondManifest, sampleFiles⟩

theorem sampleOperations_store :
    execute (SnapshotStore.step sampleEnvironment sampleLayout) .empty sampleOperations =
      sampleStore := by
  have houtput : validateNewOutputDirectory sampleLayout
      (SnapshotStore.empty.place ⟨.snapshots, "first"⟩ ⟨some firstManifest, sampleFiles⟩)
      ⟨.snapshots, "second"⟩ ["source"] = .ok () := by
    have hfree : (SnapshotStore.empty.place ⟨.snapshots, "first"⟩
        ⟨some firstManifest, sampleFiles⟩).generations ⟨.snapshots, "second"⟩ = none :=
      SnapshotStore.place_of_ne (by decide)
    rw [validateNewOutputDirectory, SnapshotStore.taken, hfree]
    decide
  rw [sampleOperations, execute_cons, execute_cons, execute_nil, SnapshotStore.step,
    SnapshotStore.step, first_published, second_published houtput]
  rfl

theorem sampleQuarantine_checks : sampleQuarantine.checks sampleEnvironment sampleLayout sampleStore =
    .ok (⟨0, ⟨some firstManifest, sampleFiles⟩⟩, firstManifest, secondManifest) := by
  have hfirst : sampleStore.held ⟨.snapshots, "first"⟩ =
      .ok ⟨0, ⟨some firstManifest, sampleFiles⟩⟩ := rfl
  have hsecond : sampleStore.held ⟨.snapshots, "second"⟩ =
      .ok ⟨1, ⟨some secondManifest, sampleFiles⟩⟩ := rfl
  have hapart : rejectNestedRetentionPaths (sampleLayout.path ⟨.snapshots, "first"⟩)
      (sampleLayout.path ⟨.snapshots, "second"⟩) sampleLayout.quarantine = .ok () := by
    decide
  have hvalid : validManifest sampleEnvironment ⟨some firstManifest, sampleFiles⟩ =
      .ok firstManifest := validManifest_of rfl firstManifest_contract
  rcases validManifest_of_words second_verifies with ⟨manifest, hmanifest⟩
  obtain rfl : secondManifest = manifest := Option.some.inj (validManifest_ok hmanifest).1
  have hlinked : secondManifest.linked firstManifest = true := by
    rw [RecoverableSnapshotManifest.linked, Bool.or_eq_true]
    exact .inr rfl
  have hfree : sampleStore.taken sampleLayout (QuarantineRequest.destination firstManifest) =
      false := by
    have hnone : sampleStore.generations (QuarantineRequest.destination firstManifest) = none := by
      rw [sampleStore, SnapshotStore.place_of_ne, SnapshotStore.place_of_ne]
      · rfl
      · exact fun hsame => by cases congrArg Place.directory hsame
      · exact fun hsame => by cases congrArg Place.directory hsame
    rw [SnapshotStore.taken, hnone]
    rfl
  have hnewer : decide (secondManifest.createdAtUnixMilliseconds ≤
      firstManifest.createdAtUnixMilliseconds) = false := rfl
  have hretired : verifyRecoverableSnapshot sampleEnvironment ⟨some firstManifest, sampleFiles⟩
      sampleQuarantine.retiringSnapshotKey = .ok (firstManifest.report 2) :=
    sample_verifies firstManifest_contract rfl _
  refine bind_ok.mpr ⟨_, hfirst, bind_ok.mpr ⟨_, hsecond, check_bind_ok.mpr ⟨hapart,
    bind_ok.mpr ⟨_, hretired, bind_ok.mpr ⟨_, second_verifies, bind_ok.mpr ⟨_, hvalid,
      bind_ok.mpr ⟨_, hmanifest, ?_⟩⟩⟩⟩⟩⟩⟩
  refine check_bind_ok.mpr ⟨refuseIf_ok.mpr ?_, check_bind_ok.mpr ⟨refuseIf_ok.mpr rfl,
    check_bind_ok.mpr ⟨refuseIf_ok.mpr rfl, check_bind_ok.mpr ⟨refuseIf_ok.mpr hfree, rfl⟩⟩⟩⟩
  rw [hlinked, hnewer]
  rfl

/-- The directory was renamed and then not synchronised: the generation is gone from its place
although the call ended in an error. -/
theorem sampleQuarantine_loses : ¬ Keeps sampleEnvironment sampleLayout
    {List.replicate 32 1, List.replicate 32 2} ∅
    (execute (SnapshotStore.step sampleEnvironment sampleLayout) .empty sampleOperations)
    (.quarantine sampleQuarantine ⟨none, none, some (.io "sync"), none, false, false⟩) := by
  intro hkeeps
  have hperformed : perform sampleEnvironment sampleLayout sampleStore
      (.quarantine sampleQuarantine ⟨none, none, some (.io "sync"), none, false, false⟩) =
      (sampleStore.move ⟨.snapshots, "first"⟩ (QuarantineRequest.destination firstManifest),
        .error (.io "sync")) := by
    simp only [perform, quarantineRecoverableSnapshotGeneration, attempt, sampleQuarantine_checks]
    rfl
  have hfailed := hkeeps.failed
  rw [sampleOperations_store] at hfailed
  have hstays := hfailed (.io "sync") (by rw [hperformed]) ⟨.snapshots, "first"⟩ _ rfl
  rw [SnapshotStore.step, hperformed] at hstays
  have hfree : sampleStore.generations (QuarantineRequest.destination firstManifest) = none :=
    (QuarantineRequest.admits sampleQuarantine_checks).free
  rw [SnapshotStore.move_generations hfree, Equiv.swap_apply_left, hfree] at hstays
  cases hstays

end GreenBubbles.Snapshot
