import GreenBubbles.Library.Ordered
import GreenBubbles.Snapshot.Fingerprint

/-! # What an accepted snapshot says of its inventory

The evidence of an accepted manifest divides the inventory, and the entries are
the files of the selected sets. The source fingerprint determines the inventory
among texts that contain none of its terminators, and only there.
-/
namespace GreenBubbles.Snapshot

open Library Library.Bytes Library.Framing

/-- The manifest is loaded, and this is its evidence. -/
structure Accepted (manifest : SnapshotManifest) (evidence : SnapshotAcquisitionEvidence) :
    Prop where
  loaded : manifest.load = .ok manifest
  acquisition : manifest.acquisition = some evidence

theorem forM_option_ok {α : Type} {value : Option α} {check : α → Except RestoreError Unit} :
    value.forM check = .ok () ↔ ∀ a ∈ value, check a = .ok () := by
  cases value <;> simp [Option.forM, pure, Except.pure]

section Accepted

variable {manifest : SnapshotManifest} {evidence : SnapshotAcquisitionEvidence}

theorem Accepted.binding (h : Accepted manifest evidence) :
    ∀ binding ∈ manifest.accountBinding, binding.validate = .ok () := by
  have hload := h.loaded
  simp only [SnapshotManifest.load, check_bind_ok, requireManifest_ok, forM_option_ok] at hload
  exact hload.2.2.2.2.2.2.1

theorem Accepted.valid (h : Accepted manifest evidence) : evidence.validate manifest = .ok () := by
  have hload := h.loaded
  simp only [SnapshotManifest.load, check_bind_ok, requireManifest_ok, forM_option_ok] at hload
  exact hload.2.2.2.2.2.2.2.2.2.1 evidence h.acquisition

/-- What the evidence was checked for. -/
structure SnapshotAcquisitionEvidence.Valid (evidence : SnapshotAcquisitionEvidence)
    (manifest : SnapshotManifest) : Prop where
  overlap : disjointMembers evidence.changedSourceSetIds evidence.reconciliationSourceSetIds = true
  identified : evidence.currentIds.Nodup
  wellFormed : ∀ sourceSet ∈ evidence.sourceSets, sourceSet.WellFormed
  deleted : disjointMembers evidence.currentIds evidence.deletedSourceSetIds = true
  selected : evidence.selectedSourceSetIds.all (· ∈ evidence.currentIds) = true
  mode : evidence.checkMode = .ok ()
  entries : evidence.checkEntries [] manifest.entries = .ok ()
  complete : sameMembers (manifest.entries.map (·.key)) evidence.expectedKeys = true
  fingerprint : eqIgnoreAsciiCase
    (Sha256.hexDigest (fingerprintBytes evidence.sourceSets manifest.accountBinding))
    manifest.sourceFingerprint = true

theorem valid_of_validate (h : evidence.validate manifest = .ok ()) : evidence.Valid manifest := by
  simp only [SnapshotAcquisitionEvidence.validate, check_bind_ok, requireManifest_ok,
    checkSourceSets_ok] at h
  obtain ⟨-, -, -, -, hoverlap, ⟨hfresh, hsets⟩, hdeleted, hselected, hmode, hentries, hcomplete,
    hfingerprint⟩ := h
  refine ⟨hoverlap, hfresh.1, hsets, hdeleted, hselected, hmode, hentries, hcomplete, ?_⟩
  cases hbinding : manifest.accountBinding with
  | none =>
    rw [hbinding] at hfingerprint
    exact hfingerprint
  | some binding =>
    rw [hbinding] at hfingerprint
    exact hfingerprint

theorem Accepted.facts (h : Accepted manifest evidence) : evidence.Valid manifest :=
  valid_of_validate h.valid

end Accepted

/-! The partition -/

/-- How the evidence divides the inventory, and what the snapshot holds of it. -/
structure Partitioned (manifest : SnapshotManifest) (evidence : SnapshotAcquisitionEvidence) :
    Prop where
  identified : evidence.currentIds.Nodup
  selected : ∀ id ∈ evidence.selectedSourceSetIds,
    id ∈ evidence.currentIds ∧ id ∉ evidence.deletedSourceSetIds
  deleted : ∀ id ∈ evidence.deletedSourceSetIds, id ∉ evidence.currentIds
  once : (manifest.entries.map (·.key)).Nodup
  /-- An entry is a file of a selected set, with its fingerprint and its digest. -/
  copied : ∀ entry ∈ manifest.entries, entry.sourceSetId ∈ evidence.selectedSourceSetIds ∧
    ∃ sourceSet ∈ evidence.sourceSets, ∃ file ∈ sourceSet.files, ∃ digest,
      entry.key = (sourceSet.sourceSetId, file.role) ∧ entry.fingerprint = file.fingerprint ∧
        file.contentSha256 = some digest ∧ eqIgnoreAsciiCase digest entry.sha256 = true
  complete : ∀ sourceSet ∈ evidence.sourceSets,
    sourceSet.sourceSetId ∈ evidence.selectedSourceSetIds → ∀ file ∈ sourceSet.files,
      (sourceSet.sourceSetId, file.role) ∈ manifest.entries.map (·.key)
  full : evidence.isFullScan = true → ∀ id ∈ evidence.currentIds, id ∈ evidence.selectedSourceSetIds

theorem sameMembers_iff {α : Type} [DecidableEq α] {left right : List α} :
    sameMembers left right = true ↔ (∀ a ∈ left, a ∈ right) ∧ ∀ a ∈ right, a ∈ left := by
  simp [sameMembers]

theorem disjointMembers_iff {left right : List String} :
    disjointMembers left right = true ↔ ∀ id ∈ left, id ∉ right := by
  simp [disjointMembers]

theorem full_of_checkMode {evidence : SnapshotAcquisitionEvidence}
    (h : evidence.checkMode = .ok ()) (hfull : evidence.isFullScan = true) :
    ∀ id ∈ evidence.currentIds, id ∈ evidence.selectedSourceSetIds := by
  unfold SnapshotAcquisitionEvidence.checkMode at h
  cases hmode : evidence.mode with
  | bootstrap =>
    rw [hmode, requireManifest_ok, Bool.and_eq_true, Bool.and_eq_true, sameMembers_iff] at h
    exact h.1.2.2
  | integrityScan =>
    rw [hmode, requireManifest_ok, Bool.and_eq_true, sameMembers_iff] at h
    exact h.2.2
  | incremental => simp [SnapshotAcquisitionEvidence.isFullScan, hmode] at hfull

theorem mem_expectedKeys {evidence : SnapshotAcquisitionEvidence}
    {key : String × SnapshotFileRole} :
    key ∈ evidence.expectedKeys ↔ ∃ sourceSet ∈ evidence.sourceSets,
      sourceSet.sourceSetId ∈ evidence.selectedSourceSetIds ∧
        ∃ file ∈ sourceSet.files, (sourceSet.sourceSetId, file.role) = key := by
  simp [SnapshotAcquisitionEvidence.expectedKeys, and_assoc]

theorem inventoried_some {sourceSets : List SnapshotSourceSetInventory} {sourceSetId : String}
    {role : SnapshotFileRole} {file : SnapshotSourceFileInventory}
    (h : inventoried sourceSets sourceSetId role = some file) :
    ∃ sourceSet ∈ sourceSets, sourceSet.sourceSetId = sourceSetId ∧ file ∈ sourceSet.files ∧
      file.role = role := by
  obtain ⟨sourceSet, hset, hfile⟩ := Option.bind_eq_some_iff.mp h
  exact ⟨sourceSet, List.mem_of_find?_eq_some hset, by simpa using List.find?_some hset,
    List.mem_of_find?_eq_some hfile, by simpa using List.find?_some hfile⟩

theorem partitioned_of_accepted {manifest : SnapshotManifest}
    {evidence : SnapshotAcquisitionEvidence} (h : Accepted manifest evidence) :
    Partitioned manifest evidence := by
  have hvalid := h.facts
  have hdisjoint := disjointMembers_iff.mp hvalid.deleted
  have hselected : ∀ id ∈ evidence.selectedSourceSetIds, id ∈ evidence.currentIds := by
    simpa using hvalid.selected
  have hentries := checkEntries_ok.mp hvalid.entries
  have hkeys := sameMembers_iff.mp hvalid.complete
  constructor
  · exact hvalid.identified
  · intro id hid
    exact ⟨hselected id hid, hdisjoint id (hselected id hid)⟩
  · intro id hid hcurrent
    exact hdisjoint id hcurrent hid
  · exact hentries.1.1
  · intro entry hentry
    obtain ⟨hmem, hagrees⟩ := hentries.2 entry hentry
    obtain ⟨file, hfile, hagree⟩ := (Option.any_eq_true _ _).mp hagrees
    obtain ⟨sourceSet, hset, hid, hin, hrole⟩ := inventoried_some hfile
    rw [SnapshotEntry.agrees, Bool.and_eq_true, beq_iff_eq, Option.any_eq_true] at hagree
    obtain ⟨hfingerprint, digest, hdigest, hcase⟩ := hagree
    exact ⟨hmem, sourceSet, hset, file, hin, digest, by rw [hid, hrole]; rfl, hfingerprint.symm,
      hdigest, hcase⟩
  · intro sourceSet hset hid file hfile
    exact hkeys.2 _ (mem_expectedKeys.mpr ⟨sourceSet, hset, hid, file, hfile, rfl⟩)
  · exact full_of_checkMode hvalid.mode

/-! Equal fingerprints -/

/-- What the source fingerprint of an accepted manifest hashes. -/
def hashed (manifest : SnapshotManifest) (evidence : SnapshotAcquisitionEvidence) : List UInt8 :=
  fingerprintBytes evidence.sourceSets manifest.accountBinding

/-- The digest does not collide on two messages. -/
def NoCollision (message message' : List UInt8) : Prop :=
  Sha256.hexDigest message = Sha256.hexDigest message' → message = message'

/-- Two manifests have the same inventory and account binding. -/
def SameInventory (manifest manifest' : SnapshotManifest)
    (evidence evidence' : SnapshotAcquisitionEvidence) : Prop :=
  evidence.sourceSets = evidence'.sourceSets ∧ manifest.accountBinding = manifest'.accountBinding

theorem hashed_eq {manifest manifest' : SnapshotManifest}
    {evidence evidence' : SnapshotAcquisitionEvidence} (h : Accepted manifest evidence)
    (h' : Accepted manifest' evidence')
    (hcollision : NoCollision (hashed manifest evidence) (hashed manifest' evidence'))
    (hsame : manifest.sourceFingerprint = manifest'.sourceFingerprint) :
    inventoryText evidence.sourceSets ++ bindingText manifest.accountBinding =
      inventoryText evidence'.sourceSets ++ bindingText manifest'.accountBinding :=
  text_eq_of_bytes.mp (hcollision
    (hexDigest_eq_of_spelling h.facts.fingerprint (hsame ▸ h'.facts.fingerprint)))

theorem sameInventory_of_plain {manifest manifest' : SnapshotManifest}
    {evidence evidence' : SnapshotAcquisitionEvidence} (h : Accepted manifest evidence)
    (h' : Accepted manifest' evidence') (hplain : ∀ sourceSet ∈ evidence.sourceSets, sourceSet.Plain)
    (hplain' : ∀ sourceSet ∈ evidence'.sourceSets, sourceSet.Plain)
    (hcollision : NoCollision (hashed manifest evidence) (hashed manifest' evidence'))
    (hsame : manifest.sourceFingerprint = manifest'.sourceFingerprint) :
    SameInventory manifest manifest' evidence evidence' :=
  inventoryText_inj
    (fun sourceSet hset => ⟨h.facts.wellFormed sourceSet hset, hplain sourceSet hset⟩)
    (fun sourceSet hset => ⟨h'.facts.wellFormed sourceSet hset, hplain' sourceSet hset⟩)
    h.binding h'.binding (hashed_eq h h' hcollision hsame)

/-! Snapshots of one set -/

namespace SnapshotSourceSetInventory

variable (sourceSet : SnapshotSourceSetInventory)

def firstEvidence : SnapshotAcquisitionEvidence where
  formatVersion := 2
  mode := .bootstrap
  previousSourceFingerprint := none
  reconciliationWindowSeconds := 900
  changedSourceSetIds := [sourceSet.sourceSetId]
  reconciliationSourceSetIds := []
  deletedSourceSetIds := []
  sourceSets := [sourceSet]
  lastIntegrityScanAt := none

def entryOf (file : SnapshotSourceFileInventory) : SnapshotEntry where
  source := { opaqueId := "source", path := none }
  sourceSetId := sourceSet.sourceSetId
  logicalPath := sourceSet.logicalPath
  relativePath := "data"
  role := file.role
  fingerprint := file.fingerprint
  sha256 := file.contentSha256.getD ""

/-- The manifest of a first acquisition of this set. -/
def firstManifest (binding : Option SnapshotAccountBinding) (sourceFingerprint : String) :
    SnapshotManifest where
  manifestFormatVersion := if binding.isSome then 4 else 3
  snapshotId := "first"
  createdAt := "2026-08-27T00:00:00Z"
  sourceFingerprint
  accountBinding := binding
  clientBuild := none
  acquisition := some sourceSet.firstEvidence
  entries := sourceSet.files.map sourceSet.entryOf

variable {sourceSet}

theorem inventoried_firstEvidence (h : sourceSet.WellFormed) {file : SnapshotSourceFileInventory}
    (hfile : file ∈ sourceSet.files) :
    inventoried sourceSet.firstEvidence.sourceSets sourceSet.sourceSetId file.role = some file := by
  have hfound : sourceSet.files.find? (·.role == file.role) = some file :=
    (Ordered.find?_key h.roles).mpr ⟨hfile, rfl⟩
  simp [inventoried, firstEvidence, hfound]

theorem agrees_entryOf (h : sourceSet.WellFormed) {file : SnapshotSourceFileInventory}
    (hfile : file ∈ sourceSet.files) : (sourceSet.entryOf file).agrees file = true := by
  obtain ⟨digest, hdigest, -⟩ := (Option.any_eq_true _ _).mp (h.digests file hfile)
  simp [SnapshotEntry.agrees, entryOf, hdigest, eqIgnoreAsciiCase]

theorem validate_firstEvidence (h : sourceSet.WellFormed)
    {binding : Option SnapshotAccountBinding} {sourceFingerprint : String}
    (hfingerprint : eqIgnoreAsciiCase (Sha256.hexDigest (fingerprintBytes [sourceSet] binding))
      sourceFingerprint = true) :
    sourceSet.firstEvidence.validate (sourceSet.firstManifest binding sourceFingerprint) =
      .ok () := by
  have hkeys : (sourceSet.files.map sourceSet.entryOf).map (·.key) =
      sourceSet.files.map fun file => (sourceSet.sourceSetId, file.role) := by
    rw [List.map_map]
    rfl
  have hentries : sourceSet.firstEvidence.checkEntries []
      (sourceSet.files.map sourceSet.entryOf) = .ok () := by
    rw [checkEntries_ok]
    refine ⟨⟨?_, fun _ _ => List.not_mem_nil⟩, ?_⟩
    · rw [hkeys, ← Function.comp_def (Prod.mk sourceSet.sourceSetId), ← List.map_map]
      exact h.roles.map (Prod.mk_right_injective _)
    · intro entry hentry
      obtain ⟨file, hfile, rfl⟩ := List.mem_map.mp hentry
      refine ⟨List.mem_singleton_self _, ?_⟩
      rw [show (sourceSet.entryOf file).sourceSetId = sourceSet.sourceSetId from rfl,
        show (sourceSet.entryOf file).role = file.role from rfl, inventoried_firstEvidence h hfile]
      exact agrees_entryOf h hfile
  have hsets : checkSourceSets [] [sourceSet] = .ok () := by
    rw [checkSourceSets_ok]
    exact ⟨⟨List.nodup_singleton _, fun _ _ => List.not_mem_nil⟩, by simpa using h⟩
  have hcomplete : sameMembers ((sourceSet.files.map sourceSet.entryOf).map (·.key))
      sourceSet.firstEvidence.expectedKeys = true := by
    have hexpected : sourceSet.firstEvidence.expectedKeys =
        sourceSet.files.map fun file => (sourceSet.sourceSetId, file.role) := by
      simp [SnapshotAcquisitionEvidence.expectedKeys, firstEvidence,
        SnapshotAcquisitionEvidence.selectedSourceSetIds]
    rw [hkeys, hexpected, sameMembers_iff]
    exact ⟨fun _ hkey => hkey, fun _ hkey => hkey⟩
  simp only [SnapshotAcquisitionEvidence.validate, check_bind_ok, requireManifest_ok]
  refine ⟨rfl, ?_, rfl, rfl, ?_, hsets, ?_, ?_, ?_, hentries, hcomplete, ?_⟩
  · simpa [validateUniqueSorted, firstEvidence] using h.named.symm
  · simp [disjointMembers, firstEvidence]
  · simp [disjointMembers, firstEvidence]
  · simp [firstEvidence, SnapshotAcquisitionEvidence.selectedSourceSetIds,
      SnapshotAcquisitionEvidence.currentIds]
  · simp [SnapshotAcquisitionEvidence.checkMode, firstEvidence, sameMembers,
      SnapshotAcquisitionEvidence.selectedSourceSetIds, SnapshotAcquisitionEvidence.currentIds]
  · cases binding <;> exact hfingerprint

/-- A first acquisition of a well-formed set is accepted. -/
theorem accepted_firstManifest (h : sourceSet.WellFormed)
    {binding : Option SnapshotAccountBinding} {sourceFingerprint : String}
    (hbinding : ∀ some ∈ binding, some.validate = .ok ())
    (hfingerprint : eqIgnoreAsciiCase (Sha256.hexDigest (fingerprintBytes [sourceSet] binding))
      sourceFingerprint = true) :
    Accepted (sourceSet.firstManifest binding sourceFingerprint) sourceSet.firstEvidence := by
  refine ⟨?_, rfl⟩
  have hentries : ∀ entry ∈ sourceSet.files.map sourceSet.entryOf,
      entry.resolvedPath = .ok () ∧ validateLogicalPath entry.logicalPath = .ok () := by
    intro entry hentry
    obtain ⟨file, hfile, rfl⟩ := List.mem_map.mp hentry
    have hconfined : isConfined "data" = true := by decide
    exact ⟨if_pos hconfined, validateLogicalPath_ok.mpr h.located⟩
  have hvalid : ∀ evidence ∈ some sourceSet.firstEvidence,
      evidence.validate (sourceSet.firstManifest binding sourceFingerprint) = .ok () := by
    intro evidence hevidence
    cases hevidence
    exact validate_firstEvidence h hfingerprint
  have hbuild : ∀ build ∈ (none : Option ClientBuildFingerprint), build.validate = .ok () :=
    fun build hnone => by cases hnone
  simp only [SnapshotManifest.load, check_bind_ok, requireManifest_ok, forM_option_ok, forM_ok]
  cases binding with
  | none =>
    exact ⟨rfl, rfl, rfl, rfl, rfl, rfl, hbinding, hbuild, hentries, hvalid, rfl⟩
  | some binding =>
    exact ⟨rfl, rfl, rfl, rfl, rfl, rfl, hbinding, hbuild, hentries, hvalid, rfl⟩

end SnapshotSourceSetInventory

/-! Where another inventory has the same text -/

section Absorbing

variable {sourceSet : SnapshotSourceSetInventory}

/-- The last set with all that stands before it for its identifier. -/
def mergedInto (init : List SnapshotSourceSetInventory) (last : SnapshotSourceSetInventory) :
    SnapshotSourceSetInventory :=
  { last with sourceSetId := .ofList (inventoryText init ++ last.sourceSetId.toList) }

theorem text_mergedInto (init : List SnapshotSourceSetInventory)
    (last : SnapshotSourceSetInventory) :
    (mergedInto init last).text = inventoryText (init ++ [last]) := by
  simp [inventoryText, mergedInto, SnapshotSourceSetInventory.text,
    SnapshotSourceSetInventory.located, SnapshotSourceSetInventory.fields]

theorem wellFormed_mergedInto {init : List SnapshotSourceSetInventory}
    {last : SnapshotSourceSetInventory} (h : last.WellFormed) : (mergedInto init last).WellFormed where
  named := by
    intro hempty
    have htext := congrArg String.toList hempty
    simp only [mergedInto, String.toList_ofList, String.toList_empty, List.append_eq_nil_iff] at htext
    exact h.named (String.toList_injective htext.2)
  located := h.located
  roles := h.roles
  digests := h.digests
  database := h.database

/-- The set without its first file, which the path tells of instead. -/
def absorbed (sourceSet : SnapshotSourceSetInventory) (first : SnapshotSourceFileInventory)
    (rest : List SnapshotSourceFileInventory) : SnapshotSourceSetInventory where
  sourceSetId := sourceSet.sourceSetId
  logicalPath := sourceSet.logicalPath ++ String.ofList (fieldText first.fields)
  files := rest

theorem text_absorbed {first : SnapshotSourceFileInventory}
    {rest : List SnapshotSourceFileInventory} (hfiles : sourceSet.files = first :: rest) :
    (absorbed sourceSet first rest).text = sourceSet.text := by
  simp [absorbed, SnapshotSourceSetInventory.text, SnapshotSourceSetInventory.located,
    SnapshotSourceSetInventory.fields, hfiles, fieldText, marked_append]

theorem slash_notMem_natural (n : ℕ) : '/' ∉ (toString n).toList := by
  intro hmem
  rw [Nat.toString_eq_repr, Nat.repr_eq_ofList_toDigits, String.toList_ofList] at hmem
  exact absurd (Nat.isDigit_of_mem_toDigits (by decide) (by decide) hmem) (by decide)

theorem slash_notMem_integer (z : ℤ) : '/' ∉ (toString z).toList := by
  cases z with
  | ofNat n => exact slash_notMem_natural n
  | negSucc n =>
    have htext : (toString (Int.negSucc n)).toList = '-' :: (toString (n + 1)).toList := by
      simp [Int.toString_eq_repr, Int.repr]
    rw [htext, List.mem_cons, not_or]
    exact ⟨by decide, slash_notMem_natural _⟩

theorem slash_notMem_fieldText {file : SnapshotSourceFileInventory}
    (h : file.contentSha256.any isSha256 = true) : '/' ∉ fieldText file.fields := by
  obtain ⟨digest, hdigest, hsha⟩ := (Option.any_eq_true _ _).mp h
  have hrole : '/' ∉ file.role.name.toList := by cases file.role <;> decide
  have hhex : '/' ∉ digest.toList := by
    intro hmem
    rw [isSha256, Bool.and_eq_true, List.all_eq_true] at hsha
    exact absurd (hsha.2 _ hmem) (by decide)
  have hfields : ∀ field ∈ file.fields, '/' ∉ field.toList := by
    simp only [SnapshotSourceFileInventory.fields, hdigest, Option.getD_some,
      List.forall_mem_cons, List.not_mem_nil, false_imp_iff, implies_true, and_true]
    exact ⟨hrole, slash_notMem_natural _, slash_notMem_natural _, slash_notMem_integer _,
      slash_notMem_integer _, slash_notMem_integer _, hhex⟩
  intro hmem
  rw [fieldText, marked, List.mem_flatMap] at hmem
  obtain ⟨text, htext, hmem⟩ := hmem
  obtain ⟨field, hfield, rfl⟩ := List.mem_map.mp htext
  exact hfields field hfield ((List.mem_cons.mp hmem).resolve_left (by decide))

/-- A path stays confined where its last name goes on. -/
theorem isConfined_append {path : String} {more : List Char} (hpath : path ≠ "")
    (hconfined : isConfined path = true) (hslash : '/' ∉ more) (hmark : '\x1f' ∈ more) :
    isConfined (path ++ String.ofList more) = true := by
  have hkept : ∀ c ∈ more, (c == '/') = false :=
    fun c hc => beq_false_of_ne fun h => hslash (h ▸ hc)
  obtain ⟨init, last, hnames, happend⟩ := splitOn_append path.toList hkept
  have hlong : ∀ name : List Char, '\x1f' ∉ name → last ++ more ≠ name := by
    rintro name hname rfl
    exact hname (List.mem_append_right _ hmark)
  have hhead : (path.toList ++ more).head? = path.toList.head? := by
    cases hchars : path.toList with
    | nil => exact absurd (String.toList_injective hchars) hpath
    | cons c rest => rfl
  simp only [isConfined, pathNames, String.toList_append, String.toList_ofList, hnames, happend,
    hhead, Bool.and_eq_true, bne_iff_ne, Bool.not_eq_true', List.contains_eq_mem,
    decide_eq_false_iff_not, List.mem_append, List.mem_singleton, not_or] at hconfined ⊢
  refine ⟨⟨hconfined.1.1, ?_⟩, hconfined.2.1, fun h => hlong ['.', '.'] (by decide) h.symm⟩
  cases init with
  | nil =>
    intro hsame
    exact hlong ['.'] (by decide) (Option.some.inj hsame)
  | cons name init => exact hconfined.1.2

theorem wellFormed_absorbed (h : sourceSet.WellFormed) {first : SnapshotSourceFileInventory}
    {rest : List SnapshotSourceFileInventory} (hfiles : sourceSet.files = first :: rest)
    (hrole : first.role ≠ .database) : (absorbed sourceSet first rest).WellFormed := by
  have hroles := h.roles
  have hdatabase := h.database
  have hdigests := h.digests
  rw [hfiles, List.map_cons, List.nodup_cons] at hroles
  rw [hfiles, List.map_cons, List.mem_cons] at hdatabase
  rw [hfiles, List.forall_mem_cons] at hdigests
  refine ⟨h.named, ⟨?_, ?_⟩, hroles.2, hdigests.2, hdatabase.resolve_left hrole.symm⟩
  · intro hempty
    have htext := congrArg String.toList hempty
    simp only [absorbed, String.toList_append, String.toList_empty, List.append_eq_nil_iff] at htext
    exact h.located.1 (String.toList_injective htext.1)
  · exact isConfined_append h.located.1 h.located.2 (slash_notMem_fieldText hdigests.1)
      (by simp [fieldText, marked, SnapshotSourceFileInventory.fields])

end Absorbing

/-- Every accepted manifest with the same source fingerprint has the same inventory and
account binding, unless the digest collides. -/
def Determined (manifest : SnapshotManifest) (evidence : SnapshotAcquisitionEvidence) : Prop :=
  ∀ manifest' evidence', Accepted manifest' evidence' →
    NoCollision (hashed manifest evidence) (hashed manifest' evidence') →
      manifest.sourceFingerprint = manifest'.sourceFingerprint →
        SameInventory manifest manifest' evidence evidence'

section Determined

variable {manifest : SnapshotManifest} {evidence : SnapshotAcquisitionEvidence}

/-- A set with the text of the whole inventory is another reading of the fingerprint. -/
theorem sourceSets_of_determined (h : Accepted manifest evidence)
    (hdetermined : Determined manifest evidence) {sourceSet : SnapshotSourceSetInventory}
    (hset : sourceSet.WellFormed) (htext : sourceSet.text = inventoryText evidence.sourceSets) :
    evidence.sourceSets = [sourceSet] := by
  have hbytes : fingerprintBytes [sourceSet] manifest.accountBinding = hashed manifest evidence := by
    apply text_eq_of_bytes.mpr
    rw [← htext]
    simp [inventoryText]
  have haccepted : Accepted
      (sourceSet.firstManifest manifest.accountBinding manifest.sourceFingerprint)
      sourceSet.firstEvidence :=
    SnapshotSourceSetInventory.accepted_firstManifest hset h.binding (hbytes ▸ h.facts.fingerprint)
  exact (hdetermined _ _ haccepted (fun _ => hbytes.symm) rfl).1

theorem single_of_determined (h : Accepted manifest evidence)
    (hdetermined : Determined manifest evidence) : evidence.sourceSets.length ≤ 1 := by
  cases hsets : evidence.sourceSets using List.reverseRecOn with
  | nil => exact Nat.zero_le _
  | append_singleton init last =>
    have hlast := h.facts.wellFormed last (by simp [hsets])
    have hmerged : (mergedInto init last).WellFormed := wellFormed_mergedInto hlast
    have hsame := sourceSets_of_determined h hdetermined hmerged (by rw [text_mergedInto, hsets])
    rw [← hsets, hsame]
    exact le_refl _

theorem databaseFirst_of_determined (h : Accepted manifest evidence)
    (hdetermined : Determined manifest evidence) {sourceSet : SnapshotSourceSetInventory}
    (hset : sourceSet ∈ evidence.sourceSets) :
    sourceSet.files.head?.map (·.role) = some .database := by
  have hwell := h.facts.wellFormed sourceSet hset
  have hsets : evidence.sourceSets = [sourceSet] := by
    have hlength := single_of_determined h hdetermined
    cases hsets : evidence.sourceSets with
    | nil => simp [hsets] at hset
    | cons only rest =>
      have hrest : rest = [] := by simpa [hsets] using hlength
      subst hrest
      rw [hsets, List.mem_singleton] at hset
      rw [hset]
  cases hfiles : sourceSet.files with
  | nil =>
    have hdatabase := hwell.database
    simp [hfiles] at hdatabase
  | cons first rest =>
    rw [List.head?_cons, Option.map_some]
    by_contra hrole
    have hsame := sourceSets_of_determined h hdetermined
      (wellFormed_absorbed hwell hfiles fun hdatabase => hrole (congrArg some hdatabase))
      (by rw [text_absorbed hfiles, hsets]; simp [inventoryText])
    rw [hsets] at hsame
    have hrest := congrArg SnapshotSourceSetInventory.files (List.singleton_inj.mp hsame)
    rw [hfiles] at hrest
    exact List.cons_ne_self _ _ hrest

/-- No terminator is in a text that stands before a terminator. -/
structure SnapshotSourceSetInventory.Clear (sourceSet : SnapshotSourceSetInventory) : Prop
    extends sourceSet.Plain where
  unterminated : '\x00' ∉ sourceSet.logicalPath.toList

theorem count_zero_text {sourceSet : SnapshotSourceSetInventory} (h : sourceSet.WellFormed)
    (hclear : sourceSet.Clear) : sourceSet.text.count '\x00' = 1 := by
  have hid := List.count_eq_zero.mpr hclear.sourceSetId
  have hpath := List.count_eq_zero.mpr hclear.unterminated
  have hnotMem : '\x00' ∉ fieldText sourceSet.fields := h.notMem_fieldText (by decide) (by decide)
  have hfields := List.count_eq_zero.mpr hnotMem
  simp [SnapshotSourceSetInventory.text, SnapshotSourceSetInventory.located, hid, hpath, hfields]

theorem length_le_count (sourceSets : List SnapshotSourceSetInventory) :
    sourceSets.length ≤ (inventoryText sourceSets).count '\x00' := by
  induction sourceSets with
  | nil => simp
  | cons sourceSet sourceSets ih =>
    have hzero : 0 < sourceSet.text.count '\x00' := List.count_pos_iff.mpr (zero_mem_text sourceSet)
    rw [inventoryText, List.flatMap_cons, List.count_append, List.length_cons]
    change sourceSets.length + 1 ≤ _ + (inventoryText sourceSets).count '\x00'
    omega

/-- A set that begins with its database has no other reading, if no terminator is in its
identifier and its path. -/
theorem only_reading {sourceSet sourceSet' : SnapshotSourceSetInventory}
    (h : sourceSet.WellFormed) (h' : sourceSet'.WellFormed) (hclear : sourceSet.Clear)
    (hfirst : sourceSet.files.head?.map (·.role) = some .database) {rest rest' : List Char}
    (hend : '\x1e' ∉ rest) (hend' : '\x1e' ∉ rest') (hzero : '\x00' ∉ rest)
    (htext : sourceSet.text ++ rest = sourceSet'.text ++ rest') :
    sourceSet = sourceSet' ∧ rest = rest' := by
  have hcount := congrArg (List.count '\x00') htext
  rw [List.count_append, List.count_append, count_zero_text h hclear,
    List.count_eq_zero.mpr hzero] at hcount
  have hid' : '\x00' ∉ sourceSet'.sourceSetId.toList := by
    intro hmem
    have hpositive := List.count_pos_iff.mpr hmem
    simp only [SnapshotSourceSetInventory.text, List.count_append, List.count_cons_self] at hcount
    omega
  simp only [SnapshotSourceSetInventory.text, List.append_assoc, List.cons_append,
    List.nil_append] at htext
  have hid := cut_at_first hclear.sourceSetId hid' htext
  have hlocated := cut_at_last hend hend' hid.2
  obtain ⟨extra, hextra, hpath⟩ := marked_suffix hclear.logicalPath (h.unmarked (by decide))
    (h'.unmarked (by decide)) hlocated.1
  obtain ⟨front, hfront⟩ : ∃ front, sourceSet.files = front ++ sourceSet'.files := by
    have hflat : ∀ files : List SnapshotSourceFileInventory,
        (files.flatMap (·.fields)).map String.toList =
          files.flatMap fun file => file.fields.map String.toList :=
      fun files => List.map_flatMap
    rw [SnapshotSourceSetInventory.fields, SnapshotSourceSetInventory.fields, hflat, hflat] at hextra
    have hlength : ∀ file : SnapshotSourceFileInventory,
        (file.fields.map String.toList).length = 6 + 1 :=
      fun file => by rw [List.length_map, length_fields]
    refine flatMap_suffix hlength ?_ hextra
    intro file hfile file' hfile' hsame
    exact fields_inj (h.digests file hfile) (h'.digests file' hfile')
      (List.map_injective_iff.mpr (fun _ _ hchars => String.toList_injective hchars) hsame)
  have hfiles : sourceSet.files = sourceSet'.files := by
    cases front with
    | nil => exact hfront
    | cons first front =>
      have hroles := h.roles
      rw [hfront, List.head?_append, List.head?_cons, Option.some_or, Option.map_some,
        Option.some_inj] at hfirst
      rw [hfront, List.cons_append, List.map_cons, List.nodup_cons, hfirst, List.map_append] at hroles
      exact absurd (List.mem_append_right _ h'.database) hroles.1
  have hnone : extra = [] := by
    have hlength := congrArg List.length hextra
    simp only [SnapshotSourceSetInventory.fields, hfiles, List.length_append] at hlength
    exact List.length_eq_zero_iff.mp (by omega)
  rw [hnone, show marked '\x1f' [] = ([] : List Char) from rfl, List.append_nil] at hpath
  refine ⟨?_, hlocated.2⟩
  rw [show sourceSet = ⟨_, _, _⟩ from rfl, String.toList_injective hid.1,
    ← String.toList_injective hpath, hfiles]

theorem determined_of_single (h : Accepted manifest evidence)
    (hclear : ∀ sourceSet ∈ evidence.sourceSets, sourceSet.Clear)
    (hsingle : evidence.sourceSets.length ≤ 1)
    (hfirst : ∀ sourceSet ∈ evidence.sourceSets,
      sourceSet.files.head?.map (·.role) = some .database) : Determined manifest evidence := by
  intro manifest' evidence' h' hcollision hsame
  have htext := hashed_eq h h' hcollision hsame
  have hcounts := congrArg (List.count '\x00') htext
  rw [List.count_append, List.count_append, List.count_eq_zero.mpr (zero_notMem_bindingText h.binding),
    List.count_eq_zero.mpr (zero_notMem_bindingText h'.binding)] at hcounts
  have hfewer := length_le_count evidence'.sourceSets
  cases hsets : evidence.sourceSets with
  | nil =>
    rw [hsets] at htext hcounts
    have hnone : evidence'.sourceSets = [] := by
      apply List.length_eq_zero_iff.mp
      simp only [inventoryText, List.flatMap_nil, List.count_nil] at hcounts hfewer
      omega
    rw [hnone] at htext
    exact ⟨by rw [hsets, hnone], bindingText_inj h.binding h'.binding htext⟩
  | cons sourceSet rest =>
    have hrest : rest = [] := by simpa [hsets] using hsingle
    subst hrest
    have hset : sourceSet ∈ evidence.sourceSets := by simp [hsets]
    have hwell := h.facts.wellFormed sourceSet hset
    have hone : (inventoryText [sourceSet]).count '\x00' = 1 := by
      simpa [inventoryText] using count_zero_text hwell (hclear sourceSet hset)
    rw [hsets, hone] at hcounts
    rw [hsets] at htext
    cases hsets' : evidence'.sourceSets with
    | nil => simp [hsets', inventoryText] at hcounts
    | cons sourceSet' rest' =>
      have hrest' : rest' = [] := by
        rw [hsets', List.length_cons] at hfewer
        rw [hsets'] at hcounts
        exact List.length_eq_zero_iff.mp (by omega)
      subst hrest'
      rw [hsets'] at htext
      simp only [inventoryText, List.flatMap_cons, List.flatMap_nil, List.append_nil] at htext
      obtain ⟨hsame, hbindings⟩ := only_reading hwell
        (h'.facts.wellFormed sourceSet' (by simp [hsets'])) (hclear sourceSet hset)
        (hfirst sourceSet hset) (notMem_bindingText h.binding (by decide) (by decide) (by decide))
        (notMem_bindingText h'.binding (by decide) (by decide) (by decide))
        (zero_notMem_bindingText h.binding) htext
      exact ⟨by rw [hsets, hsets', hsame], bindingText_inj h.binding h'.binding hbindings⟩

end Determined

/-- Manifests with one source fingerprint have one inventory and one account binding if no
source-set identifier contains a zero and no logical path a unit separator. Against every
other manifest, whatever its texts, this holds just for inventories of one set at most that
begins with its database. What a manifest says is copied is always partitioned. -/
theorem fingerprint_determines_plain_inventories {manifest : SnapshotManifest}
    {evidence : SnapshotAcquisitionEvidence} (h : Accepted manifest evidence) :
    (∀ manifest' evidence', Accepted manifest' evidence' →
      (∀ sourceSet ∈ evidence.sourceSets, sourceSet.Plain) →
        (∀ sourceSet ∈ evidence'.sourceSets, sourceSet.Plain) →
          NoCollision (hashed manifest evidence) (hashed manifest' evidence') →
            manifest.sourceFingerprint = manifest'.sourceFingerprint →
              SameInventory manifest manifest' evidence evidence') ∧
    ((∀ sourceSet ∈ evidence.sourceSets, sourceSet.Clear) →
      (Determined manifest evidence ↔ evidence.sourceSets.length ≤ 1 ∧
        ∀ sourceSet ∈ evidence.sourceSets,
          sourceSet.files.head?.map (·.role) = some .database)) ∧
    Partitioned manifest evidence := by
  refine ⟨?_, ?_, partitioned_of_accepted h⟩
  · intro manifest' evidence' h' hplain hplain' hcollision hsame
    exact sameInventory_of_plain h h' hplain hplain' hcollision hsame
  · intro hclear
    constructor
    · intro hdetermined
      exact ⟨single_of_determined h hdetermined,
        fun sourceSet hset => databaseFirst_of_determined h hdetermined hset⟩
    · intro hsingle
      exact determined_of_single h hclear hsingle.1 hsingle.2

/-! A set whose log can be read as part of its path -/

def sampleFile (role : SnapshotFileRole) : SnapshotSourceFileInventory where
  role
  fingerprint := ⟨1, 2, 3, 4, 5⟩
  contentSha256 := some (.ofList (List.replicate 64 'a'))

def sampleSet (files : List SnapshotSourceFileInventory) : SnapshotSourceSetInventory where
  sourceSetId := "set"
  logicalPath := "message/message_0.db"
  files

theorem wellFormed_sampleSet {files : List SnapshotFileRole} (hnodup : files.Nodup)
    (hdatabase : .database ∈ files) : (sampleSet (files.map sampleFile)).WellFormed := by
  have hroles : (files.map sampleFile).map (·.role) = files := by
    rw [List.map_map]
    exact List.map_id files
  have hnamed : "set" ≠ "" := by decide
  have hlocated : "message/message_0.db" ≠ "" ∧ isConfined "message/message_0.db" = true := by
    decide
  refine ⟨hnamed, hlocated, hroles.symm ▸ hnodup, ?_, hroles.symm ▸ hdatabase⟩
  intro file hfile
  obtain ⟨role, -, rfl⟩ := List.mem_map.mp hfile
  rw [sampleFile, Option.any_some]
  exact isSha256_replicate (by decide) (by decide)

def sampleFingerprint (files : List SnapshotFileRole) : String :=
  Sha256.hexDigest (fingerprintBytes [sampleSet (files.map sampleFile)] none)

theorem accepted_sampleSet {files : List SnapshotFileRole} (hnodup : files.Nodup)
    (hdatabase : .database ∈ files) :
    Accepted ((sampleSet (files.map sampleFile)).firstManifest none (sampleFingerprint files))
      (sampleSet (files.map sampleFile)).firstEvidence :=
  SnapshotSourceSetInventory.accepted_firstManifest (wellFormed_sampleSet hnodup hdatabase)
    (fun _ hnone => by cases hnone)
    (by rw [eqIgnoreAsciiCase, sampleFingerprint, beq_self_eq_true])

def databaseManifest : SnapshotManifest :=
  (sampleSet [sampleFile .database]).firstManifest none (sampleFingerprint [.database])

def databaseEvidence : SnapshotAcquisitionEvidence := (sampleSet [sampleFile .database]).firstEvidence

theorem sample_inventory_determined : Determined databaseManifest databaseEvidence ∧
    SameInventory databaseManifest databaseManifest databaseEvidence databaseEvidence ∧
      Partitioned databaseManifest databaseEvidence := by
  have haccepted : Accepted databaseManifest databaseEvidence :=
    @accepted_sampleSet [.database] (by decide) (by decide)
  have hclear : ∀ sourceSet ∈ databaseEvidence.sourceSets, sourceSet.Clear := by
    intro sourceSet hset
    rw [List.mem_singleton.mp hset]
    exact ⟨⟨by decide, by decide⟩, by decide⟩
  have hplain : ∀ sourceSet ∈ databaseEvidence.sourceSets, sourceSet.Plain :=
    fun sourceSet hset => (hclear sourceSet hset).toPlain
  have hdetermines := fingerprint_determines_plain_inventories haccepted
  refine ⟨(hdetermines.2.1 hclear).mpr ⟨le_refl 1, ?_⟩, ?_, hdetermines.2.2⟩
  · intro sourceSet hset
    rw [List.mem_singleton.mp hset]
    rfl
  · exact hdetermines.1 _ _ haccepted hplain hplain (fun _ => rfl) rfl

/-- The set of a log and its database. -/
def loggedSet : SnapshotSourceSetInventory :=
  sampleSet ([.writeAheadLog, .database].map sampleFile)

/-- The database alone, below a path that ends in what the fingerprint hashes of the log. -/
def bareSet : SnapshotSourceSetInventory :=
  absorbed loggedSet (sampleFile .writeAheadLog) [sampleFile .database]

/-- Both sets are accepted with the same fingerprint, and no digest collides. -/
theorem fingerprint_absorbs_log :
    Accepted (loggedSet.firstManifest none (sampleFingerprint [.writeAheadLog, .database]))
      loggedSet.firstEvidence ∧
    Accepted (bareSet.firstManifest none (sampleFingerprint [.writeAheadLog, .database]))
      bareSet.firstEvidence ∧
    fingerprintBytes [loggedSet] none = fingerprintBytes [bareSet] none ∧
    loggedSet.firstEvidence.sourceSets ≠ bareSet.firstEvidence.sourceSets := by
  have hlogged : loggedSet.WellFormed := wellFormed_sampleSet (by decide) (by decide)
  have hbare : bareSet.WellFormed := wellFormed_absorbed hlogged rfl (by decide)
  have hbytes : fingerprintBytes [loggedSet] none = fingerprintBytes [bareSet] none := by
    have htext : bareSet.text = loggedSet.text := text_absorbed rfl
    rw [text_eq_of_bytes, inventoryText, inventoryText, List.flatMap_cons, List.flatMap_cons, htext]
  refine ⟨accepted_sampleSet (by decide) (by decide), ?_, hbytes, ?_⟩
  · apply SnapshotSourceSetInventory.accepted_firstManifest hbare (fun _ hnone => by cases hnone)
    rw [← hbytes, eqIgnoreAsciiCase, sampleFingerprint, ← loggedSet, beq_self_eq_true]
  · intro hsame
    have hfiles := congrArg (fun sets => sets.map fun set => set.files.length) hsame
    exact absurd hfiles (by decide)

end GreenBubbles.Snapshot
