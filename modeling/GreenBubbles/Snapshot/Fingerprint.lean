import GreenBubbles.Library.Json
import GreenBubbles.Snapshot.Acquisition

/-! # What a source fingerprint determines

The text behind a source fingerprint is read back as long as no identifier
contains the zero that ends it and no path the mark that ends it. Where a path
may contain marks, it can absorb whole files and sets.
-/
namespace GreenBubbles.Snapshot

open Library Library.Bytes Library.Framing

/-- A text without control characters. -/
def Printable (text : String) : Prop := ∀ c ∈ text.toList, 32 ≤ c.toNat

theorem Printable.notMem {text : String} (h : Printable text) {c : Char} (hc : c.toNat < 32) :
    c ∉ text.toList := fun hmem => Nat.not_le_of_lt hc (h c hmem)

theorem printable_natural (n : ℕ) : Printable (toString n) := by
  intro c hc
  rw [Nat.toString_eq_repr, Nat.repr_eq_ofList_toDigits, String.toList_ofList] at hc
  exact Json.printable_digit hc

theorem printable_integer (z : ℤ) : Printable (toString z) := by
  intro c hc
  apply Json.printable_render (.int z) c
  cases z with
  | ofNat n => simpa [Json.render, Json.renderInt, Int.toString_eq_repr, Int.repr] using hc
  | negSucc n => simpa [Json.render, Json.renderInt, Int.toString_eq_repr, Int.repr] using hc

theorem hexDigit_printable {c : Char} (h : isAsciiHexDigit c = true) : 32 ≤ c.toNat := by
  simp only [isAsciiHexDigit, Bool.or_eq_true, Bool.and_eq_true, decide_eq_true_eq, Char.le_def,
    UInt32.le_iff_toNat_le] at h
  change 32 ≤ c.val.toNat
  rcases h with (⟨hlow, -⟩ | ⟨hlow, -⟩) | ⟨hlow, -⟩ <;> exact Nat.le_trans (by decide) hlow

theorem printable_digest {value : String} (h : isSha256 value = true) : Printable value := by
  intro c hc
  rw [isSha256, Bool.and_eq_true, List.all_eq_true] at h
  exact hexDigit_printable (h.2 c hc)

theorem printable_lowerHex {value : String} {length : ℕ} (h : isLowerHex value length = true) :
    Printable value := by
  intro c hc
  rw [isLowerHex, Bool.and_eq_true, List.all_eq_true] at h
  apply hexDigit_printable
  have hdigit := h.2 c hc
  simp only [isAsciiHexDigit, Bool.or_eq_true] at hdigit ⊢
  exact .inl hdigit

theorem SnapshotFileRole.name_injective : Function.Injective SnapshotFileRole.name := by
  intro role role' h
  cases role <;> cases role' <;> first | rfl | exact absurd h (by decide)

theorem printable_name (role : SnapshotFileRole) : Printable role.name := by
  cases role <;> simp [Printable, SnapshotFileRole.name]

/-! The text that is hashed -/

def fieldText (fields : List String) : List Char := marked '\x1f' (fields.map String.toList)

theorem fieldBytes_eq (fields : List String) :
    fieldBytes fields = utf8 (String.ofList (fieldText fields)) := by
  induction fields with
  | nil => rfl
  | cons field fields ih =>
    have hmark : utf8 (String.ofList ['\x1f']) = [0x1f] := by decide
    have htext : String.ofList (fieldText (field :: fields)) =
        String.ofList ['\x1f'] ++ field ++ String.ofList (fieldText fields) := by
      apply String.toList_injective
      simp [fieldText, marked]
    rw [htext, utf8_append, utf8_append, hmark, ← ih]
    simp [fieldBytes]

namespace SnapshotSourceSetInventory

variable (sourceSet : SnapshotSourceSetInventory)

def fields : List String := sourceSet.files.flatMap (·.fields)

/-- The path and the files, up to the end of the set. -/
def located : List Char := sourceSet.logicalPath.toList ++ fieldText sourceSet.fields

def text : List Char := sourceSet.sourceSetId.toList ++ '\x00' :: (sourceSet.located ++ ['\x1e'])

theorem bytes_eq : sourceSet.bytes = utf8 (String.ofList sourceSet.text) := by
  have hzero : utf8 (String.ofList ['\x00']) = [0] := by decide
  have hend : utf8 (String.ofList ['\x1e']) = [0x1e] := by decide
  have htext : String.ofList sourceSet.text = sourceSet.sourceSetId ++ String.ofList ['\x00'] ++
      (sourceSet.logicalPath ++ String.ofList (fieldText sourceSet.fields)) ++
        String.ofList ['\x1e'] := by
    apply String.toList_injective
    simp [text, located]
  have hfiles : sourceSet.files.flatMap (fieldBytes ·.fields) = fieldBytes sourceSet.fields := by
    rw [fieldBytes, fields, List.flatMap_assoc]
    rfl
  rw [htext]
  simp only [utf8_append, hzero, hend, ← fieldBytes_eq, bytes, hfiles, List.append_assoc,
    List.cons_append, List.nil_append]

end SnapshotSourceSetInventory

def inventoryText (sourceSets : List SnapshotSourceSetInventory) : List Char :=
  sourceSets.flatMap (·.text)

def bindingText : Option SnapshotAccountBinding → List Char
  | none => []
  | some binding => '\x1d' :: fieldText binding.fields

theorem fingerprintBytes_eq (sourceSets : List SnapshotSourceSetInventory)
    (binding : Option SnapshotAccountBinding) :
    fingerprintBytes sourceSets binding =
      utf8 (String.ofList (inventoryText sourceSets ++ bindingText binding)) := by
  have hsets : sourceInventoryBytes sourceSets = utf8 (String.ofList (inventoryText sourceSets)) := by
    induction sourceSets with
    | nil => rfl
    | cons sourceSet sourceSets ih =>
      have htext : String.ofList (inventoryText (sourceSet :: sourceSets)) =
          String.ofList sourceSet.text ++ String.ofList (inventoryText sourceSets) := by
        apply String.toList_injective
        simp [inventoryText]
      rw [htext, utf8_append, ← ih, ← sourceSet.bytes_eq]
      rfl
  have hmark : utf8 (String.ofList ['\x1d']) = [0x1d] := by decide
  cases binding with
  | none => simp [fingerprintBytes, bindingText, hsets]
  | some binding =>
    have htext : String.ofList (inventoryText sourceSets ++ bindingText (some binding)) =
        String.ofList (inventoryText sourceSets) ++ (String.ofList ['\x1d'] ++
          String.ofList (fieldText binding.fields)) := by
      apply String.toList_injective
      simp [bindingText]
    rw [htext, utf8_append, utf8_append, hmark, ← hsets, ← fieldBytes_eq]
    rfl

theorem text_eq_of_bytes {sourceSets sourceSets' : List SnapshotSourceSetInventory}
    {binding binding' : Option SnapshotAccountBinding} :
    fingerprintBytes sourceSets binding = fingerprintBytes sourceSets' binding' ↔
      inventoryText sourceSets ++ bindingText binding =
        inventoryText sourceSets' ++ bindingText binding' := by
  rw [fingerprintBytes_eq, fingerprintBytes_eq, utf8_injective.eq_iff]
  exact ⟨fun h => String.ofList_injective h, congrArg String.ofList⟩

/-! Files are read back -/

theorem length_fields (file : SnapshotSourceFileInventory) : file.fields.length = 6 + 1 := rfl

theorem printable_fields {file : SnapshotSourceFileInventory}
    (h : file.contentSha256.any isSha256 = true) : ∀ field ∈ file.fields, Printable field := by
  obtain ⟨digest, hdigest, hsha⟩ := (Option.any_eq_true _ _).mp h
  simp only [SnapshotSourceFileInventory.fields, hdigest, Option.getD_some, List.forall_mem_cons,
    List.not_mem_nil, false_imp_iff, implies_true, and_true]
  exact ⟨printable_name _, printable_natural _, printable_natural _, printable_integer _,
    printable_integer _, printable_integer _, printable_digest hsha⟩

theorem fields_inj {file file' : SnapshotSourceFileInventory}
    (h : file.contentSha256.any isSha256 = true) (h' : file'.contentSha256.any isSha256 = true)
    (hfields : file.fields = file'.fields) : file = file' := by
  obtain ⟨digest, hdigest, -⟩ := (Option.any_eq_true _ _).mp h
  obtain ⟨digest', hdigest', -⟩ := (Option.any_eq_true _ _).mp h'
  simp only [SnapshotSourceFileInventory.fields, hdigest, hdigest', Option.getD_some,
    List.cons.injEq, and_true, decimal_inj, integer_inj] at hfields
  obtain ⟨hrole, hdevice, hfile, hsize, hseconds, hnanoseconds, hsame⟩ := hfields
  cases file with
  | mk role fingerprint contentSha256 =>
    cases file' with
    | mk role' fingerprint' contentSha256' =>
      cases fingerprint
      cases fingerprint'
      obtain rfl := SnapshotFileRole.name_injective hrole
      simp_all

namespace SnapshotSourceSetInventory

variable {sourceSet sourceSet' : SnapshotSourceSetInventory}

namespace WellFormed

theorem printable (h : sourceSet.WellFormed) : ∀ field ∈ sourceSet.fields, Printable field := by
  intro field hfield
  obtain ⟨file, hfile, hmem⟩ := List.mem_flatMap.mp hfield
  exact printable_fields (h.digests file hfile) field hmem

theorem unmarked (h : sourceSet.WellFormed) {mark : Char} (hmark : mark.toNat < 32) :
    ∀ field ∈ sourceSet.fields.map String.toList, mark ∉ field := by
  intro field hfield
  obtain ⟨text, htext, rfl⟩ := List.mem_map.mp hfield
  exact (h.printable text htext).notMem hmark

theorem notMem_fieldText (h : sourceSet.WellFormed) {mark : Char} (hmark : mark.toNat < 32)
    (hother : mark ≠ '\x1f') : mark ∉ fieldText sourceSet.fields := by
  intro hmem
  rw [fieldText, marked, List.mem_flatMap] at hmem
  obtain ⟨field, hfield, hmem⟩ := hmem
  exact h.unmarked hmark field hfield ((List.mem_cons.mp hmem).resolve_left hother)

theorem files_inj (h : sourceSet.WellFormed) (h' : sourceSet'.WellFormed)
    (hfields : sourceSet.fields = sourceSet'.fields) : sourceSet.files = sourceSet'.files :=
  flatMap_injOn length_fields
    (fun file hfile file' hfile' => fields_inj (h.digests file hfile) (h'.digests file' hfile'))
    hfields

/-- A set has a file, so a mark follows the path. -/
theorem located_eq (h : sourceSet.WellFormed) :
    ∃ rest, sourceSet.located = sourceSet.logicalPath.toList ++ '\x1f' :: rest ∧
      fieldText sourceSet.fields = '\x1f' :: rest := by
  obtain ⟨file, hfile, -⟩ := List.mem_map.mp h.database
  cases hfiles : sourceSet.files with
  | nil =>
    rw [hfiles] at hfile
    exact absurd hfile List.not_mem_nil
  | cons first others =>
    have hfields : fieldText sourceSet.fields = '\x1f' ::
        (first.role.name.toList ++ fieldText (first.fields.tail ++ others.flatMap (·.fields))) := by
      simp [SnapshotSourceSetInventory.fields, hfiles, fieldText, marked,
        SnapshotSourceFileInventory.fields]
    exact ⟨_, by rw [SnapshotSourceSetInventory.located, hfields], hfields⟩

end WellFormed

/-- No terminator is in the text that it ends. -/
structure Plain (sourceSet : SnapshotSourceSetInventory) : Prop where
  sourceSetId : '\x00' ∉ sourceSet.sourceSetId.toList
  logicalPath : '\x1f' ∉ sourceSet.logicalPath.toList

/-- The first set of a text is read back, whatever follows it. -/
theorem text_cut (h : sourceSet.WellFormed) (h' : sourceSet'.WellFormed) (hplain : sourceSet.Plain)
    (hplain' : sourceSet'.Plain) {rest rest' : List Char}
    (htext : sourceSet.text ++ rest = sourceSet'.text ++ rest') :
    sourceSet = sourceSet' ∧ rest = rest' := by
  simp only [text, List.append_assoc, List.cons_append, List.nil_append] at htext
  have hid := cut_at_first hplain.sourceSetId hplain'.sourceSetId htext
  obtain ⟨more, hmore, hfields⟩ := h.located_eq
  obtain ⟨more', hmore', hfields'⟩ := h'.located_eq
  have hlocated := hid.2
  rw [hmore, hmore', List.append_assoc, List.append_assoc] at hlocated
  have hpath := cut_at_first hplain.logicalPath hplain'.logicalPath hlocated
  have hnotMem : '\x1e' ∉ fieldText sourceSet.fields := h.notMem_fieldText (by decide) (by decide)
  have hnotMem' : '\x1e' ∉ fieldText sourceSet'.fields :=
    h'.notMem_fieldText (by decide) (by decide)
  rw [hfields, List.mem_cons, not_or] at hnotMem
  rw [hfields', List.mem_cons, not_or] at hnotMem'
  have hend := cut_at_first hnotMem.2 hnotMem'.2 hpath.2
  have htexts : fieldText sourceSet.fields = fieldText sourceSet'.fields := by
    rw [hfields, hfields', hend.1]
  have hmarked := marked_inj (h.unmarked (by decide)) (h'.unmarked (by decide)) htexts
  have hfiles := h.files_inj h' (List.map_injective_iff.mpr (fun _ _ h => String.toList_injective h) hmarked)
  have hsame : sourceSet.sourceSetId = sourceSet'.sourceSetId := String.toList_injective hid.1
  have hpaths : sourceSet.logicalPath = sourceSet'.logicalPath := String.toList_injective hpath.1
  refine ⟨?_, hend.2⟩
  rw [show sourceSet = ⟨_, _, _⟩ from rfl, hsame, hpaths, hfiles]

end SnapshotSourceSetInventory

/-! Bindings and whole inventories are read back -/

theorem printable_binding {binding : SnapshotAccountBinding} (h : binding.validate = .ok ()) :
    ∀ field ∈ binding.fields, Printable field := by
  rw [SnapshotAccountBinding.validate, requireManifest_ok, Bool.and_eq_true, Bool.and_eq_true] at h
  obtain ⟨bytes, hbytes, -⟩ := (Option.any_eq_true _ _).mp h.2
  simp only [SnapshotAccountBinding.fields, List.forall_mem_cons, List.not_mem_nil, false_imp_iff,
    implies_true, and_true]
  refine ⟨by simp [Printable], printable_natural _, printable_lowerHex h.1.2,
    fun c hc => Base64.printable_of_decodeStandard hbytes hc, ?_⟩
  cases binding.evidence
  simp [Printable, SnapshotAccountBindingEvidence.name]

theorem notMem_bindingText {binding : Option SnapshotAccountBinding}
    (h : ∀ some ∈ binding, some.validate = .ok ()) {mark : Char} (hmark : mark.toNat < 32)
    (hfirst : mark ≠ '\x1d') (hother : mark ≠ '\x1f') : mark ∉ bindingText binding := by
  cases binding with
  | none => exact List.not_mem_nil
  | some binding =>
    intro hmem
    rw [bindingText, List.mem_cons, fieldText, marked, List.mem_flatMap] at hmem
    obtain ⟨field, hfield, hmem⟩ := hmem.resolve_left hfirst
    obtain ⟨text, htext, rfl⟩ := List.mem_map.mp hfield
    exact (printable_binding (h binding rfl) text htext).notMem hmark
      ((List.mem_cons.mp hmem).resolve_left hother)

theorem zero_notMem_bindingText {binding : Option SnapshotAccountBinding}
    (h : ∀ some ∈ binding, some.validate = .ok ()) : '\x00' ∉ bindingText binding :=
  notMem_bindingText h (by decide) (by decide) (by decide)

theorem bindingText_inj {binding binding' : Option SnapshotAccountBinding}
    (h : ∀ some ∈ binding, some.validate = .ok ()) (h' : ∀ some ∈ binding', some.validate = .ok ())
    (htext : bindingText binding = bindingText binding') : binding = binding' := by
  cases binding with
  | none =>
    cases binding' with
    | none => rfl
    | some binding' => exact absurd htext (List.cons_ne_nil _ _).symm
  | some binding =>
    cases binding' with
    | none => exact absurd htext (List.cons_ne_nil _ _)
    | some binding' =>
      have htexts : marked '\x1f' (binding.fields.map String.toList) =
          marked '\x1f' (binding'.fields.map String.toList) := (List.cons.inj htext).2
      have hmarked := marked_inj
        (fun field hfield => by
          obtain ⟨text, hmem, rfl⟩ := List.mem_map.mp hfield
          exact (printable_binding (h binding rfl) text hmem).notMem (by decide))
        (fun field hfield => by
          obtain ⟨text, hmem, rfl⟩ := List.mem_map.mp hfield
          exact (printable_binding (h' binding' rfl) text hmem).notMem (by decide))
        htexts
      have hfields : binding.fields = binding'.fields :=
        List.map_injective_iff.mpr (fun _ _ h => String.toList_injective h) hmarked
      simp only [SnapshotAccountBinding.fields, List.cons.injEq, decimal_inj, true_and] at hfields
      have hevidence : binding.evidence = binding'.evidence := by
        cases binding.evidence
        cases binding'.evidence
        rfl
      rw [show binding = ⟨_, _, _, _⟩ from rfl, hfields.1, hfields.2.1, hfields.2.2.1, hevidence]

theorem zero_mem_text (sourceSet : SnapshotSourceSetInventory) : '\x00' ∈ sourceSet.text := by
  simp [SnapshotSourceSetInventory.text]

/-- The text of plain sets and of a valid binding is read back. -/
theorem inventoryText_inj {sourceSets sourceSets' : List SnapshotSourceSetInventory}
    {binding binding' : Option SnapshotAccountBinding}
    (hsets : ∀ sourceSet ∈ sourceSets, sourceSet.WellFormed ∧ sourceSet.Plain)
    (hsets' : ∀ sourceSet ∈ sourceSets', sourceSet.WellFormed ∧ sourceSet.Plain)
    (hbinding : ∀ some ∈ binding, some.validate = .ok ())
    (hbinding' : ∀ some ∈ binding', some.validate = .ok ())
    (h : inventoryText sourceSets ++ bindingText binding =
      inventoryText sourceSets' ++ bindingText binding') :
    sourceSets = sourceSets' ∧ binding = binding' := by
  induction sourceSets generalizing sourceSets' with
  | nil =>
    cases sourceSets' with
    | nil => exact ⟨rfl, bindingText_inj hbinding hbinding' h⟩
    | cons sourceSet' sourceSets' =>
      refine absurd ?_ (zero_notMem_bindingText hbinding)
      rw [show bindingText binding = inventoryText [] ++ bindingText binding from rfl, h]
      simp [inventoryText, zero_mem_text]
  | cons sourceSet sourceSets ih =>
    cases sourceSets' with
    | nil =>
      refine absurd ?_ (zero_notMem_bindingText hbinding')
      rw [show bindingText binding' = inventoryText [] ++ bindingText binding' from rfl, ← h]
      simp [inventoryText, zero_mem_text]
    | cons sourceSet' sourceSets' =>
      rw [List.forall_mem_cons] at hsets hsets'
      simp only [inventoryText, List.flatMap_cons, List.append_assoc] at h
      obtain ⟨hfirst, hrest⟩ := SnapshotSourceSetInventory.text_cut hsets.1.1 hsets'.1.1
        hsets.1.2 hsets'.1.2 h
      obtain ⟨hothers, hsame⟩ := ih hsets.2 hsets'.2 hrest
      exact ⟨by rw [hfirst, hothers], hsame⟩

/-! Digests in either case -/

theorem lowercase_hexDigest (message : List UInt8) :
    (Sha256.hexDigest message).toList.map toAsciiLowercase = (Sha256.hexDigest message).toList := by
  have hfixed : ∀ c ∈ (Sha256.hexDigest message).toList, toAsciiLowercase c = id c := by
    intro c hc
    obtain ⟨value, hvalue, rfl⟩ := hexDigits_encode hc
    exact toAsciiLowercase_hexDigit value hvalue
  rw [List.map_congr_left hfixed, List.map_id]

/-- A digest is known from its spelling in any case. -/
theorem hexDigest_eq_of_spelling {message message' : List UInt8} {spelling : String}
    (h : eqIgnoreAsciiCase (Sha256.hexDigest message) spelling = true)
    (h' : eqIgnoreAsciiCase (Sha256.hexDigest message') spelling = true) :
    Sha256.hexDigest message = Sha256.hexDigest message' := by
  rw [eqIgnoreAsciiCase, beq_iff_eq, lowercase_hexDigest] at h h'
  exact String.toList_injective (h.trans h'.symm)

end GreenBubbles.Snapshot
