import GreenBubbles.Library.Json
import GreenBubbles.Send.Config
import GreenBubbles.Snapshot.Acquisition
import GreenBubbles.Snapshot.Sealing

/-! # Recovery kits and credential files

The texts a secret is written to and read from. The word list and the checksum
of the recovery words are a parameter. Every text that is read spells the
secret it is read as, up to the case of the credential, the spaces between the
words and the ends of the lines.
-/
namespace GreenBubbles.Snapshot

open Library Library.Bytes Library.Framing
open Send (isWhiteSpace)

inductive SecretFileError where
  | invalidRecoveryKit (reason : String)
  | invalidLocalCredential (reason : String)
  deriving DecidableEq

/-! Lines -/

def stripReturn (line : List Char) : List Char :=
  if line.getLast? = some '\r' then line.dropLast else line

/-- Every line ends in a newline, which a return may stand before. The last one may be open. -/
def lines (text : String) : List String :=
  let rows := text.toList.splitOn '\n'
  ((rows.dropLast.map stripReturn) ++ rows.getLast?.toList.filter (· ≠ [])).map String.ofList

/-- Rows as they are written. -/
def writeLines (rows : List String) : String :=
  String.ofList (terminated '\n' (rows.map String.toList))

theorem splitOn_terminated {rows : List (List Char)} (h : ∀ row ∈ rows, '\n' ∉ row) :
    (terminated '\n' rows).splitOn '\n' = rows ++ [[]] := by
  induction rows with
  | nil => rfl
  | cons row rows ih =>
    rw [List.forall_mem_cons] at h
    rw [terminated, List.flatMap_cons, List.append_assoc, List.singleton_append,
      List.splitOn_append_cons_self_of_not_mem h.1, ← terminated, ih h.2]
    rfl

theorem lines_writeLines {rows : List String}
    (h : ∀ row ∈ rows, '\n' ∉ row.toList ∧ row.toList.getLast? ≠ some '\r') :
    lines (writeLines rows) = rows := by
  have hsplit : (writeLines rows).toList.splitOn '\n' = rows.map String.toList ++ [[]] := by
    rw [writeLines, String.toList_ofList]
    apply splitOn_terminated
    intro row hrow
    obtain ⟨text, htext, rfl⟩ := List.mem_map.mp hrow
    exact (h text htext).1
  have hstrip : ∀ row ∈ rows, String.ofList (stripReturn row.toList) = id row := by
    intro row hrow
    rw [stripReturn, if_neg (h row hrow).2, String.ofList_toList, id]
  simp only [lines, hsplit, List.dropLast_concat, List.getLast?_concat, Option.toList_some,
    List.map_append, List.map_map]
  simpa [Function.comp_def] using List.map_congr_left hstrip

/-- What follows these first characters. -/
def stripStart (start text : String) : Option String :=
  if text.toList.take start.toList.length = start.toList then
    some (.ofList (text.toList.drop start.toList.length))
  else none

theorem stripStart_some {start text rest : String} :
    stripStart start text = some rest ↔ text = start ++ rest := by
  unfold stripStart
  constructor
  · intro h
    split at h
    · next hstart =>
      cases h
      apply String.toList_injective
      rw [String.toList_append, String.toList_ofList]
      conv_lhs => rw [← List.take_append_drop start.toList.length text.toList, hstart]
    · cases h
  · rintro rfl
    simp

/-! Recovery words -/

/-- The standard encoding of entropy in words. -/
structure Bip39 where
  mnemonic : List UInt8 → List String
  entropy : List String → Option (List UInt8)

def isLowercaseWord (word : List Char) : Bool :=
  word != [] && word.all fun c => 'a' ≤ c && c ≤ 'z'

/-- Thirty-two bytes are spelled in twenty-four words of at most eight letters, and no other
words spell them. -/
structure Bip39.Standard (bip39 : Bip39) : Prop where
  count : ∀ entropy : List UInt8, entropy.length = 32 → (bip39.mnemonic entropy).length = 24
  spelled : ∀ entropy : List UInt8, entropy.length = 32 → ∀ word ∈ bip39.mnemonic entropy,
    isLowercaseWord word.toList = true ∧ word.toList.length ≤ 8
  reads : ∀ entropy : List UInt8, entropy.length = 32 → ∀ words,
    bip39.entropy words = some entropy ↔ words = bip39.mnemonic entropy

def splitWhitespace (text : String) : List (List Char) :=
  (text.toList.splitOnP isWhiteSpace).filter (· ≠ [])

def maximumRecoveryKitBytes : ℕ := 2 * 1024
def maximumLocalCredentialBytes : ℕ := 1024
def recoveryKitHeader : String := "GREENBUBBLES RECOVERY KIT"
def localCredentialHeader : String := "GREENBUBBLES LOCAL UNLOCK CREDENTIAL"

section Words

variable (bip39 : Bip39)

def SnapshotRecoveryWords.parse (words : String) :
    Except SecretFileError SnapshotRecoveryWords :=
  let normalized := splitWhitespace words
  if normalized.length ≠ 24 ∨ !normalized.all isLowercaseWord then
    .error (.invalidRecoveryKit "expected exactly 24 lowercase English BIP-39 words")
  else
    match bip39.entropy (normalized.map String.ofList) with
    | none => .error (.invalidRecoveryKit "BIP-39 checksum validation failed")
    | some entropy =>
      if size : entropy.length = 32 then .ok ⟨entropy, size⟩
      else .error (.invalidRecoveryKit "mnemonic does not encode 256 bits of recovery entropy")

def parseRecoveryKitText (text : String) : Except SecretFileError SnapshotRecoveryWords :=
  match lines text with
  | [header, format, language, words] =>
    if header = recoveryKitHeader ∧ format = "format: 1" ∧ language = "language: english" then
      match stripStart "words: " words with
      | none => .error (.invalidRecoveryKit "word record is missing")
      | some words => SnapshotRecoveryWords.parse bip39 words
    else .error (.invalidRecoveryKit "header or format is invalid")
  | _ => .error (.invalidRecoveryKit "header or format is invalid")

def readRecoveryKit (text : String) : Except SecretFileError SnapshotRecoveryWords :=
  if text.utf8ByteSize = 0 ∨ maximumRecoveryKitBytes < text.utf8ByteSize then
    .error (.invalidRecoveryKit "file size is outside safe limits")
  else parseRecoveryKitText bip39 text

/-- What the writer writes. -/
def SnapshotRecoveryWords.kitText (words : SnapshotRecoveryWords) : String :=
  writeLines [recoveryKitHeader, "format: 1", "language: english",
    "words: " ++ " ".intercalate (bip39.mnemonic words.entropy)]

end Words

/-! Local credentials -/

def hexValueOf (c : Char) : Option ℕ :=
  let value := Json.hexValue (toAsciiLowercase c)
  if value < 16 then some value else none

def decodeHex : List Char → Option (List UInt8)
  | high :: low :: rest => do
    let high ← hexValueOf high
    let low ← hexValueOf low
    let bytes ← decodeHex rest
    return .ofNat (16 * high + low) :: bytes
  | [_] => none
  | [] => some []

def parseLocalCredentialText (text : String) : Except SecretFileError SnapshotLocalCredential :=
  match lines text with
  | [header, format, credentialId, secret] =>
    if header = localCredentialHeader ∧ format = "format: 1" then
      match stripStart "credential-id: " credentialId with
      | none => .error (.invalidLocalCredential "credential identity is missing")
      | some credentialId =>
        if !isHexadecimal 32 credentialId then
          .error (.invalidLocalCredential "credential identity is malformed")
        else
          match stripStart "secret: " secret with
          | none => .error (.invalidLocalCredential "credential secret is missing")
          | some secret =>
            match decodeHex credentialId.toList, Base64.decode secret with
            | none, _ => .error (.invalidLocalCredential "credential identity is malformed")
            | _, none => .error (.invalidLocalCredential "credential secret is malformed")
            | some credentialId, some secret =>
              if sizes : credentialId.length = 16 ∧ secret.length = 32 then
                .ok ⟨credentialId, secret, sizes⟩
              else .error (.invalidLocalCredential "credential fields have invalid lengths")
    else .error (.invalidLocalCredential "header or format is invalid")
  | _ => .error (.invalidLocalCredential "header or format is invalid")

def readLocalCredential (text : String) : Except SecretFileError SnapshotLocalCredential :=
  if text.utf8ByteSize = 0 ∨ maximumLocalCredentialBytes < text.utf8ByteSize then
    .error (.invalidLocalCredential "file size is outside safe limits")
  else parseLocalCredentialText text

def SnapshotLocalCredential.fileText (credential : SnapshotLocalCredential) : String :=
  writeLines [localCredentialHeader, "format: 1", "credential-id: " ++ encode credential.credentialId,
    "secret: " ++ Base64.encode credential.secret]

/-! What the parsers accept -/

theorem hexValueOf_some {c : Char} {value : ℕ} :
    hexValueOf c = some value ↔ value < 16 ∧ toAsciiLowercase c = hexDigit value := by
  have hdigits : "0123456789abcdef".toList.length = 16 := by decide
  unfold hexValueOf
  constructor
  · intro h
    simp only [Option.ite_none_right_eq_some, Option.some.injEq] at h
    obtain ⟨hlt, rfl⟩ := h
    refine ⟨hlt, ?_⟩
    have hmem : toAsciiLowercase c ∈ "0123456789abcdef".toList := by
      rw [← List.idxOf_lt_length_iff, hdigits]
      exact hlt
    rw [hexDigit, List.getD_eq_getElem?_getD, Json.hexValue, List.getElem?_idxOf hmem]
    rfl
  · rintro ⟨hlt, hdigit⟩
    rw [hdigit, Json.hexValue_hexDigit value hlt]
    exact if_pos hlt

theorem toList_encode_cons (byte : UInt8) (bytes : List UInt8) :
    (encode (byte :: bytes)).toList = hexDigit (byte.toNat / 16) :: hexDigit (byte.toNat % 16) ::
      (encode bytes).toList := by
  simp [encode]

/-- Hexadecimal digits are read in either case. -/
theorem decodeHex_eq_some {text : List Char} {bytes : List UInt8} :
    decodeHex text = some bytes ↔ text.map toAsciiLowercase = (encode bytes).toList := by
  induction text using decodeHex.induct generalizing bytes with
  | case1 high low rest ih =>
    have hcases : decodeHex (high :: low :: rest) = some bytes ↔ ∃ a b others,
        hexValueOf high = some a ∧ hexValueOf low = some b ∧ decodeHex rest = some others ∧
          .ofNat (16 * a + b) :: others = bytes := by
      simp only [decodeHex, Option.bind_eq_bind, Option.bind_eq_some_iff, Option.pure_def,
        Option.some_inj]
      constructor
      · rintro ⟨a, ha, b, hb, others, hothers, hsame⟩
        exact ⟨a, b, others, ha, hb, hothers, hsame⟩
      · rintro ⟨a, b, others, ha, hb, hothers, hsame⟩
        exact ⟨a, ha, b, hb, others, hothers, hsame⟩
    rw [hcases]
    simp only [hexValueOf_some, ih, List.map_cons]
    constructor
    · rintro ⟨a, b, others, ⟨ha, hhigh⟩, ⟨hb, hlow⟩, hothers, rfl⟩
      have hbyte : (UInt8.ofNat (16 * a + b)).toNat = 16 * a + b := by
        rw [UInt8.toNat_ofNat', Nat.mod_eq_of_lt (by omega)]
      rw [toList_encode_cons, hbyte, hhigh, hlow, hothers, show (16 * a + b) / 16 = a by omega,
        show (16 * a + b) % 16 = b by omega]
    · intro h
      cases bytes with
      | nil => simp [encode] at h
      | cons byte others =>
        rw [toList_encode_cons, List.cons.injEq, List.cons.injEq] at h
        have hbyte := byte.toNat_lt
        refine ⟨byte.toNat / 16, byte.toNat % 16, others, ⟨by omega, h.1⟩, ⟨by omega, h.2.1⟩,
          h.2.2, ?_⟩
        rw [show 16 * (byte.toNat / 16) + byte.toNat % 16 = byte.toNat by omega, UInt8.ofNat_toNat]
  | case2 c =>
    simp only [decodeHex, reduceCtorEq, List.map_cons, List.map_nil, false_iff]
    intro h
    cases bytes with
    | nil => simp [encode] at h
    | cons byte others => simp [toList_encode_cons] at h
  | case3 =>
    simp only [decodeHex, Option.some_inj, List.map_nil]
    constructor
    · rintro rfl
      rfl
    · intro h
      cases bytes with
      | nil => rfl
      | cons byte others => simp [toList_encode_cons] at h

theorem hexDigit_of_uppercase : ∀ n < 26, ∀ value < 16,
    toAsciiLowercase (Char.ofNat (65 + n)) = hexDigit value →
      isAsciiHexDigit (Char.ofNat (65 + n)) = true ∧ (Char.ofNat (65 + n)).utf8Size = 1 := by
  decide

theorem isAsciiHexDigit_of_lowercase {c : Char} {value : ℕ} (hvalue : value < 16)
    (h : toAsciiLowercase c = hexDigit value) : isAsciiHexDigit c = true ∧ c.utf8Size = 1 := by
  by_cases hupper : 'A' ≤ c ∧ c ≤ 'Z'
  · have hlow : 65 ≤ c.toNat := hupper.1
    have hhigh : c.toNat ≤ 90 := hupper.2
    have hdigit := hexDigit_of_uppercase (c.toNat - 65) (by omega) value hvalue
    rw [show 65 + (c.toNat - 65) = c.toNat by omega, Char.ofNat_toNat] at hdigit
    exact hdigit h
  · rw [toAsciiLowercase, if_neg hupper] at h
    rw [h]
    exact ⟨isAsciiHexDigit_hexDigit value hvalue, utf8Size_hexDigit value hvalue⟩

theorem isHexadecimal_of_lowercase {text : String} {bytes : List UInt8}
    (h : text.toList.map toAsciiLowercase = (encode bytes).toList) :
    isHexadecimal (2 * bytes.length) text = true := by
  have hdigits : ∀ c ∈ text.toList, isAsciiHexDigit c = true ∧ c.utf8Size = 1 := by
    intro c hc
    have hmem : toAsciiLowercase c ∈ (encode bytes).toList := h ▸ List.mem_map_of_mem hc
    obtain ⟨value, hvalue, hdigit⟩ := hexDigits_encode hmem
    exact isAsciiHexDigit_of_lowercase hvalue hdigit
  have hlength := congrArg List.length h
  have hencoded := utf8ByteSize_encode bytes
  rw [← String.ofList_toList (s := encode bytes), utf8ByteSize_ofList] at hencoded
  · rw [List.length_map, hencoded] at hlength
    rw [isHexadecimal, Bool.and_eq_true, beq_iff_eq, List.all_eq_true,
      ← String.ofList_toList (s := text), utf8ByteSize_ofList fun c hc => (hdigits c hc).2,
      String.toList_ofList]
    exact ⟨hlength, fun c hc => (hdigits c hc).1⟩
  · intro c hc
    obtain ⟨value, hvalue, rfl⟩ := hexDigits_encode hc
    exact utf8Size_hexDigit value hvalue

/-- A credential file is read as the credential that its lines spell, in either case. -/
theorem parseLocalCredentialText_ok {text : String} {credential : SnapshotLocalCredential} :
    parseLocalCredentialText text = .ok credential ↔ ∃ credentialId : String,
      credentialId.toList.map toAsciiLowercase = (encode credential.credentialId).toList ∧
        lines text = [localCredentialHeader, "format: 1", "credential-id: " ++ credentialId,
          "secret: " ++ Base64.encode credential.secret] := by
  constructor
  · intro h
    unfold parseLocalCredentialText at h
    split at h
    · next header format credentialId secret hlines =>
      split_ifs at h with hheader
      split at h
      · cases h
      · next idText hid =>
        split_ifs at h with hhex
        split at h
        · cases h
        · next secretText hsecret =>
          split at h
          · cases h
          · cases h
          · next idBytes secretBytes hidBytes hsecretBytes =>
            split_ifs at h with hsizes
            cases h
            rw [stripStart_some] at hid hsecret
            rw [Base64.decode_eq_some] at hsecretBytes
            rw [decodeHex_eq_some] at hidBytes
            refine ⟨idText, hidBytes, ?_⟩
            rw [hlines, hheader.1, hheader.2, hid, hsecret, hsecretBytes]
    · cases h
  · rintro ⟨idText, hid, hlines⟩
    have hhex := isHexadecimal_of_lowercase hid
    rw [credential.sizes.1] at hhex
    have hstripId : stripStart "credential-id: " ("credential-id: " ++ idText) = some idText :=
      stripStart_some.mpr rfl
    have hstripSecret : stripStart "secret: " ("secret: " ++ Base64.encode credential.secret) =
        some (Base64.encode credential.secret) := stripStart_some.mpr rfl
    have hdecodeId := decodeHex_eq_some.mpr hid
    simp only [parseLocalCredentialText, hlines, and_self, if_true, hstripId, hstripSecret, hhex,
      Bool.not_true, Bool.false_eq_true, if_false, hdecodeId, Base64.decode_encode,
      credential.sizes, dif_pos]

/-- A recovery kit is read as the words that its last line spells. -/
theorem parseRecoveryKitText_ok {bip39 : Bip39} (hbip39 : bip39.Standard) {text : String}
    {recoveryWords : SnapshotRecoveryWords} :
    parseRecoveryKitText bip39 text = .ok recoveryWords ↔ ∃ words : String,
      (splitWhitespace words).map String.ofList = bip39.mnemonic recoveryWords.entropy ∧
        lines text = [recoveryKitHeader, "format: 1", "language: english", "words: " ++ words] := by
  constructor
  · intro h
    unfold parseRecoveryKitText at h
    split at h
    · next header format language words hlines =>
      split_ifs at h with hheader
      split at h
      · cases h
      · next wordText hwords =>
        unfold SnapshotRecoveryWords.parse at h
        dsimp only at h
        split_ifs at h with hform
        split at h
        · cases h
        · next entropy hentropy =>
          split_ifs at h with hsize
          cases h
          rw [stripStart_some] at hwords
          refine ⟨wordText, (hbip39.reads entropy hsize _).mp hentropy, ?_⟩
          rw [hlines, hheader.1, hheader.2.1, hheader.2.2, hwords]
    · cases h
  · rintro ⟨wordText, hwords, hlines⟩
    have hstrip : stripStart "words: " ("words: " ++ wordText) = some wordText :=
      stripStart_some.mpr rfl
    have hentropy := (hbip39.reads recoveryWords.entropy recoveryWords.size _).mpr hwords
    have hcount := hbip39.count recoveryWords.entropy recoveryWords.size
    rw [← hwords, List.length_map] at hcount
    have hlower : (splitWhitespace wordText).all isLowercaseWord = true := by
      rw [List.all_eq_true]
      intro word hword
      have hspelled := (hbip39.spelled recoveryWords.entropy recoveryWords.size
        (String.ofList word) (hwords ▸ List.mem_map_of_mem hword)).1
      rwa [String.toList_ofList] at hspelled
    simp only [parseRecoveryKitText, hlines, and_self, if_true, hstrip,
      SnapshotRecoveryWords.parse, hcount, hlower, ne_eq, not_true_eq_false, Bool.not_true,
      Bool.false_eq_true, or_self, if_false, hentropy, recoveryWords.size, dif_pos]

/-! What the writers write -/

theorem lowercase_range {c : Char} (h : ('a' ≤ c && c ≤ 'z') = true) :
    97 ≤ c.toNat ∧ c.toNat ≤ 122 := by
  rw [Bool.and_eq_true, decide_eq_true_eq, decide_eq_true_eq] at h
  exact h

theorem isWhiteSpace_lowercase {c : Char} (h : ('a' ≤ c && c ≤ 'z') = true) :
    isWhiteSpace c = false := by
  obtain ⟨hlow, hhigh⟩ := lowercase_range h
  simp only [isWhiteSpace, Bool.or_eq_false_iff, Bool.and_eq_false_iff, decide_eq_false_iff_not,
    beq_eq_false_iff_ne]
  omega

theorem utf8Size_lowercase {c : Char} (h : ('a' ≤ c && c ≤ 'z') = true) : c.utf8Size = 1 := by
  have hhigh := (lowercase_range h).2
  have hval : c.val ≤ 0x7f := UInt32.le_iff_toNat_le.mpr (Nat.le_trans hhigh (by decide))
  simp [Char.utf8Size, hval]

/-- Words with single spaces between them are split into the words. -/
theorem splitWhitespace_intercalate {words : List String}
    (h : ∀ word ∈ words, isLowercaseWord word.toList = true) :
    splitWhitespace (" ".intercalate words) = words.map String.toList := by
  have hplain : ∀ word ∈ words, ∀ c ∈ word.toList, isWhiteSpace c = false := by
    intro word hword c hc
    have hlower := h word hword
    rw [isLowercaseWord, Bool.and_eq_true, List.all_eq_true] at hlower
    exact isWhiteSpace_lowercase (hlower.2 c hc)
  have hsplit : words ≠ [] → ([' '].intercalate (words.map String.toList)).splitOnP isWhiteSpace =
      words.map String.toList := by
    intro hne
    clear h
    induction words with
    | nil => exact absurd rfl hne
    | cons word words ih =>
      rw [List.forall_mem_cons] at hplain
      cases words with
      | nil => simpa using List.splitOnP_eq_singleton hplain.1
      | cons next words =>
        rw [List.map_cons, List.map_cons, List.intercalate_cons_cons, List.append_assoc,
          List.singleton_append, List.splitOnP_append_cons_of_forall_mem hplain.1 _ (by decide),
          ← List.map_cons, ih hplain.2 (List.cons_ne_nil _ _)]
  rw [splitWhitespace, String.toList_intercalate]
  change (([' '].intercalate (words.map String.toList)).splitOnP isWhiteSpace).filter _ = _
  cases hwords : words with
  | nil => rfl
  | cons word rest =>
    rw [← hwords, hsplit (by rw [hwords]; exact List.cons_ne_nil _ _), List.filter_eq_self]
    intro chars hchars
    obtain ⟨other, hother, rfl⟩ := List.mem_map.mp hchars
    have hlower := h other hother
    rw [isLowercaseWord, Bool.and_eq_true] at hlower
    simpa using hlower.1

/-- A row of ASCII characters that is one line. -/
def isRow (row : List Char) : Bool :=
  row.all fun c => c.utf8Size == 1 && c != '\n' && c != '\r'

theorem isRow_append {row row' : List Char} :
    isRow (row ++ row') = true ↔ isRow row = true ∧ isRow row' = true := by
  rw [isRow, List.all_append, Bool.and_eq_true]
  rfl

theorem lines_of_isRow {rows : List String} (h : ∀ row ∈ rows, isRow row.toList = true) :
    lines (writeLines rows) = rows := by
  apply lines_writeLines
  intro row hrow
  have hchars := List.all_eq_true.mp (h row hrow)
  constructor
  · intro hmem
    exact absurd (hchars _ hmem) (by decide)
  · intro hlast
    exact absurd (hchars _ (List.mem_of_getLast? hlast)) (by decide)

theorem size_writeLines {rows : List String} (h : ∀ row ∈ rows, isRow row.toList = true) :
    (writeLines rows).utf8ByteSize = (rows.map fun row => row.toList.length + 1).sum := by
  rw [writeLines, utf8ByteSize_ofList]
  · induction rows with
    | nil => rfl
    | cons row rows ih =>
      have hrest := ih fun other hother => h other (List.mem_cons_of_mem _ hother)
      simp only [terminated, List.map_cons, List.flatMap_cons, List.length_append, List.sum_cons,
        List.length_singleton] at hrest ⊢
      rw [hrest]
  · intro c hc
    rw [terminated, List.mem_flatMap] at hc
    obtain ⟨text, htext, hc⟩ := hc
    obtain ⟨row, hrow, rfl⟩ := List.mem_map.mp htext
    rcases List.mem_append.mp hc with hc | hc
    · have hchar := List.all_eq_true.mp (h row hrow) c hc
      rw [Bool.and_eq_true, Bool.and_eq_true, beq_iff_eq] at hchar
      exact hchar.1.1
    · rw [List.mem_singleton.mp hc]
      decide

theorem isRow_encode (bytes : List UInt8) : isRow (encode bytes).toList = true := by
  have hdigits : ∀ value < 16, isRow [hexDigit value] = true := by decide
  rw [isRow, List.all_eq_true]
  intro c hc
  obtain ⟨value, hvalue, rfl⟩ := hexDigits_encode hc
  simpa [isRow] using hdigits value hvalue

theorem isRow_base64 (bytes : List UInt8) : isRow (Base64.encode bytes).toList = true := by
  have hsymbols : ∀ value < 64, isRow [Base64.symbol value] = true := by decide +kernel
  rw [isRow, List.all_eq_true]
  intro c hc
  rw [Base64.encode, String.toList_ofList, List.mem_map] at hc
  obtain ⟨value, hvalue, rfl⟩ := hc
  simpa [isRow] using hsymbols value (Base64.sextets_lt bytes value hvalue)

theorem length_toList_encode (bytes : List UInt8) : (encode bytes).toList.length = 2 * bytes.length := by
  simp [encode, Nat.mul_comm]

/-- A credential file is read as the credential it was written for. -/
theorem readLocalCredential_fileText (credential : SnapshotLocalCredential) :
    readLocalCredential credential.fileText = .ok credential := by
  have hrows : ∀ row ∈ [localCredentialHeader, "format: 1",
      "credential-id: " ++ encode credential.credentialId,
      "secret: " ++ Base64.encode credential.secret], isRow row.toList = true := by
    simp only [List.forall_mem_cons, List.not_mem_nil, false_imp_iff, implies_true, and_true,
      String.toList_append, isRow_append, isRow_encode, isRow_base64]
    decide
  have hsize : credential.fileText.utf8ByteSize = 147 := by
    rw [SnapshotLocalCredential.fileText, size_writeLines hrows]
    simp only [List.map_cons, List.map_nil, String.toList_append, List.length_append,
      length_toList_encode, Base64.length_encode, credential.sizes]
    decide
  rw [readLocalCredential, hsize, if_neg (by decide), parseLocalCredentialText_ok]
  refine ⟨encode credential.credentialId, ?_, lines_of_isRow hrows⟩
  have hfixed : ∀ c ∈ (encode credential.credentialId).toList, toAsciiLowercase c = id c := by
    intro c hc
    obtain ⟨value, hvalue, rfl⟩ := hexDigits_encode hc
    exact toAsciiLowercase_hexDigit value hvalue
  rw [List.map_congr_left hfixed, List.map_id]

theorem length_intercalate_le (words : List (List Char)) (h : ∀ word ∈ words, word.length ≤ 8) :
    ([' '].intercalate words).length ≤ 9 * words.length := by
  induction words with
  | nil => simp
  | cons word words ih =>
    rw [List.forall_mem_cons] at h
    have hrest := ih h.2
    cases words with
    | nil =>
      simp only [List.intercalate_singleton, List.length_cons, List.length_nil]
      omega
    | cons next words =>
      rw [List.intercalate_cons_cons, List.length_append, List.length_append, List.length_singleton,
        List.length_cons]
      omega

/-- A recovery kit is read as the words it was written for. -/
theorem readRecoveryKit_kitText {bip39 : Bip39} (hbip39 : bip39.Standard)
    (words : SnapshotRecoveryWords) : readRecoveryKit bip39 (words.kitText bip39) = .ok words := by
  have hspelled := hbip39.spelled words.entropy words.size
  have hjoined : (" ".intercalate (bip39.mnemonic words.entropy)).toList =
      [' '].intercalate ((bip39.mnemonic words.entropy).map String.toList) :=
    String.toList_intercalate
  have hwordRow : isRow (" ".intercalate (bip39.mnemonic words.entropy)).toList = true := by
    rw [hjoined]
    have hall : ∀ word ∈ (bip39.mnemonic words.entropy).map String.toList, isRow word = true := by
      intro word hword
      obtain ⟨text, htext, rfl⟩ := List.mem_map.mp hword
      have hlower := (hspelled text htext).1
      rw [isLowercaseWord, Bool.and_eq_true, List.all_eq_true] at hlower
      rw [isRow, List.all_eq_true]
      intro c hc
      have hrange := lowercase_range (hlower.2 c hc)
      have hsize := utf8Size_lowercase (hlower.2 c hc)
      have hnewline : c ≠ '\n' := fun h => by rw [h] at hrange; exact absurd hrange (by decide)
      have hreturn : c ≠ '\r' := fun h => by rw [h] at hrange; exact absurd hrange (by decide)
      simp [hsize, hnewline, hreturn]
    generalize (bip39.mnemonic words.entropy).map String.toList = chars at hall
    induction chars with
    | nil => rfl
    | cons word chars ih =>
      rw [List.forall_mem_cons] at hall
      cases chars with
      | nil => simpa using hall.1
      | cons next chars =>
        rw [List.intercalate_cons_cons, isRow_append, isRow_append]
        exact ⟨⟨hall.1, by decide⟩, ih hall.2⟩
  have hrows : ∀ row ∈ [recoveryKitHeader, "format: 1", "language: english",
      "words: " ++ " ".intercalate (bip39.mnemonic words.entropy)], isRow row.toList = true := by
    simp only [List.forall_mem_cons, List.not_mem_nil, false_imp_iff, implies_true, and_true,
      String.toList_append, isRow_append, hwordRow]
    decide
  have hlength := length_intercalate_le ((bip39.mnemonic words.entropy).map String.toList)
    (fun word hword => by
      obtain ⟨text, htext, rfl⟩ := List.mem_map.mp hword
      exact (hspelled text htext).2)
  rw [List.length_map, hbip39.count words.entropy words.size, ← hjoined] at hlength
  have hsize : (words.kitText bip39).utf8ByteSize =
      62 + (" ".intercalate (bip39.mnemonic words.entropy)).toList.length := by
    rw [SnapshotRecoveryWords.kitText, size_writeLines hrows]
    simp only [List.map_cons, List.map_nil, String.toList_append, List.length_append,
      List.sum_cons, List.sum_nil]
    have hfixed : recoveryKitHeader.toList.length = 25 ∧ "format: 1".toList.length = 9 ∧
        "language: english".toList.length = 17 ∧ "words: ".toList.length = 7 := by decide
    omega
  rw [readRecoveryKit, hsize, if_neg (by rw [maximumRecoveryKitBytes]; omega),
    parseRecoveryKitText_ok hbip39]
  refine ⟨_, ?_, lines_of_isRow hrows⟩
  rw [splitWhitespace_intercalate fun word hword => (hspelled word hword).1, List.map_map]
  simp [Function.comp_def]

/-! The whole life of a wrapped key -/

/-- Every wrapping is opened by its own secret, and whatever is opened was wrapped by this
secret, for this snapshot and in this document. -/
def OpensWhatWasSealed (crypto : Cryptography) (wrappings : Set Wrapping) : Prop :=
  (∀ wrapping ∈ wrappings,
    wrapping.secret.wrap crypto wrapping.snapshotId (some wrapping.draw) wrapping.databaseKey =
        .ok (wrapping.document crypto) ∧
      wrapping.secret.unwrap crypto wrapping.snapshotId (wrapping.document crypto) =
        .ok wrapping.databaseKey) ∧
  ∀ (secret : SnapshotSecret) snapshotId protector databaseKey,
    secret.unwrap crypto snapshotId protector = .ok databaseKey →
      ∃ wrapping ∈ wrappings, wrapping.secret = secret ∧ wrapping.snapshotId = snapshotId ∧
        wrapping.databaseKey = databaseKey ∧ wrapping.document crypto = protector

/-- Equal associated data have equal kinds and equal parts, and equal derivations have equal
secrets and equal parts. -/
def ContextsTellApart (crypto : Cryptography) : Prop :=
  ∀ (secret secret' : SnapshotSecret) (snapshotId snapshotId' protectorId protectorId' : String),
    Short snapshotId → Short snapshotId' → Short protectorId → Short protectorId' →
    (∀ salt salt' nonce nonce', Short salt → Short salt' → Short nonce → Short nonce' →
      (secret.scheme crypto).associated snapshotId protectorId salt nonce =
          (secret'.scheme crypto).associated snapshotId' protectorId' salt' nonce' →
        secret.binding = secret'.binding ∧ snapshotId = snapshotId' ∧ protectorId = protectorId' ∧
          salt = salt' ∧ nonce = nonce') ∧
    ∀ salt salt', secret.derivation snapshotId protectorId salt =
        secret'.derivation snapshotId' protectorId' salt' →
      secret = secret' ∧ salt = salt' ∧
        (secret.binding ≠ .passphrase → snapshotId = snapshotId' ∧ protectorId = protectorId')

/-- The lines of a text spell these words. -/
def SpellsKit (bip39 : Bip39) (words : SnapshotRecoveryWords) (text : String) : Prop :=
  ∃ spelled : String,
    (splitWhitespace spelled).map String.ofList = bip39.mnemonic words.entropy ∧
      lines text = [recoveryKitHeader, "format: 1", "language: english", "words: " ++ spelled]

/-- The lines of a text spell this credential. -/
def SpellsCredential (credential : SnapshotLocalCredential) (text : String) : Prop :=
  ∃ credentialId : String,
    credentialId.toList.map toAsciiLowercase = (encode credential.credentialId).toList ∧
      lines text = [localCredentialHeader, "format: 1", "credential-id: " ++ credentialId,
        "secret: " ++ Base64.encode credential.secret]

theorem opensWhatWasSealed {crypto : Cryptography} {wrappings : Set Wrapping}
    (hideal : crypto.Ideal wrappings) : OpensWhatWasSealed crypto wrappings :=
  ⟨fun wrapping hwrapping => ⟨wrapping.wrap_eq crypto, unwrap_document hideal hwrapping⟩,
    fun _ _ _ _ h => (unwrap_eq_ok hideal).mp h⟩

theorem contextsTellApart (crypto : Cryptography) : ContextsTellApart crypto := by
  intro secret secret' snapshotId snapshotId' protectorId protectorId' hsnapshot hsnapshot'
    hprotector hprotector'
  constructor
  · intro salt salt' nonce nonce' hsalt hsalt' hnonce hnonce' h
    rw [SnapshotSecret.associated_eq, SnapshotSecret.associated_eq] at h
    exact SnapshotSecret.associatedFields_inj (aadFields_inj
      (SnapshotSecret.short_associatedFields hsnapshot hprotector hsalt hnonce)
      (SnapshotSecret.short_associatedFields hsnapshot' hprotector' hsalt' hnonce') h)
  · intro salt salt' h
    exact SnapshotSecret.derivation_inj hsnapshot hprotector hsnapshot' hprotector' h

/-- A wrapped key opens only where it was sealed, the contexts of the kinds are told apart,
and every text that spells a secret is read as the secret and opens what it wrapped. -/
theorem wrapped_key_opens_where_sealed :
    (∀ crypto wrappings, Cryptography.Ideal crypto wrappings →
      OpensWhatWasSealed crypto wrappings) ∧
    (∀ crypto wrapping, Cryptography.Ideal crypto {wrapping} →
      ∀ (secret : SnapshotSecret) snapshotId protector,
        ¬(secret = wrapping.secret ∧ snapshotId = wrapping.snapshotId ∧
            protector = wrapping.document crypto) →
          ∃ error, secret.unwrap crypto snapshotId protector = .error error) ∧
    (∀ crypto, ContextsTellApart crypto) ∧
    (∀ bip39 : Bip39, bip39.Standard →
      (∀ words : SnapshotRecoveryWords, readRecoveryKit bip39 (words.kitText bip39) = .ok words) ∧
      (∀ text words, parseRecoveryKitText bip39 text = .ok words ↔ SpellsKit bip39 words text) ∧
      ∀ text words, SpellsKit bip39 words text → ∀ crypto wrappings,
        Cryptography.Ideal crypto wrappings → ∀ wrapping ∈ wrappings,
          wrapping.secret = .recoveryWords words →
            ∃ read, parseRecoveryKitText bip39 text = .ok read ∧
              unwrapSnapshotDatabaseKey crypto wrapping.snapshotId (wrapping.document crypto) read =
                .ok wrapping.databaseKey) ∧
    (∀ credential : SnapshotLocalCredential,
      readLocalCredential credential.fileText = .ok credential) ∧
    (∀ text credential,
      parseLocalCredentialText text = .ok credential ↔ SpellsCredential credential text) ∧
    ∀ text credential, SpellsCredential credential text → ∀ crypto wrappings,
      Cryptography.Ideal crypto wrappings → ∀ wrapping ∈ wrappings,
        wrapping.secret = .localCredential credential →
          ∃ read, parseLocalCredentialText text = .ok read ∧
            unwrapSnapshotDatabaseKeyWithLocalCredential crypto wrapping.snapshotId
              (wrapping.document crypto) read = .ok wrapping.databaseKey := by
  refine ⟨fun _ _ => opensWhatWasSealed, ?_, contextsTellApart, ?_,
    readLocalCredential_fileText, fun _ _ => parseLocalCredentialText_ok, ?_⟩
  · intro crypto wrapping hideal secret snapshotId protector hother
    cases hunwrap : secret.unwrap crypto snapshotId protector with
    | error error => exact ⟨error, rfl⟩
    | ok databaseKey =>
      obtain ⟨found, hfound, hsecret, hsnapshot, -, hdocument⟩ := (unwrap_eq_ok hideal).mp hunwrap
      rw [Set.mem_singleton_iff] at hfound
      subst hfound
      exact absurd ⟨hsecret.symm, hsnapshot.symm, hdocument.symm⟩ hother
  · intro bip39 hbip39
    refine ⟨readRecoveryKit_kitText hbip39, fun _ _ => parseRecoveryKitText_ok hbip39, ?_⟩
    intro text words hspells crypto wrappings hideal wrapping hwrapping hsecret
    refine ⟨words, (parseRecoveryKitText_ok hbip39).mpr hspells, ?_⟩
    have hopens := unwrap_document hideal hwrapping
    rw [hsecret] at hopens
    exact hopens
  · intro text credential hspells crypto wrappings hideal wrapping hwrapping hsecret
    refine ⟨credential, parseLocalCredentialText_ok.mpr hspells, ?_⟩
    have hopens := unwrap_document hideal hwrapping
    rw [hsecret] at hopens
    exact hopens

/-! Cryptography that is ideal for one wrapping, and an encoding in words -/

/-- Two byte strings in one, the first with a mark before each byte. -/
def paired (first second : List UInt8) : List UInt8 :=
  first.flatMap (fun byte => [1, byte]) ++ 0 :: second

theorem paired_inj {first first' second second' : List UInt8}
    (h : paired first second = paired first' second') : first = first' ∧ second = second' := by
  induction first generalizing first' with
  | nil =>
    cases first' with
    | nil => exact ⟨rfl, by simpa [paired] using h⟩
    | cons byte' first' => simp [paired] at h
  | cons byte first ih =>
    cases first' with
    | nil => simp [paired] at h
    | cons byte' first' =>
      simp only [paired, List.flatMap_cons, List.cons_append, List.nil_append,
        List.cons.injEq, true_and] at h
      obtain ⟨hfirst, hsecond⟩ := ih h.2
      exact ⟨by rw [h.1, hfirst], hsecond⟩

def plainKey : KeyDerivation → List UInt8
  | .hkdf salt secret info => 0 :: paired salt (paired secret info)
  | .argon2 password salt => 1 :: paired password salt

theorem plainKey_injective : Function.Injective plainKey := by
  intro derivation derivation' h
  cases derivation with
  | hkdf salt secret info =>
    cases derivation' with
    | hkdf salt' secret' info' =>
      obtain ⟨hsalt, hrest⟩ := paired_inj (List.cons.inj h).2
      obtain ⟨hsecret, hinfo⟩ := paired_inj hrest
      rw [hsalt, hsecret, hinfo]
    | argon2 password' salt' => exact absurd (List.cons.inj h).1 (by decide)
  | argon2 password salt =>
    cases derivation' with
    | hkdf salt' secret' info' => exact absurd (List.cons.inj h).1 (by decide)
    | argon2 password' salt' =>
      obtain ⟨hpassword, hsalt⟩ := paired_inj (List.cons.inj h).2
      rw [hpassword, hsalt]

/-- Opens what this wrapping sealed. -/
def idealFor (wrapping : Wrapping) : Cryptography where
  hkdf salt secret info := plainKey (.hkdf salt secret info)
  argon2 password salt := plainKey (.argon2 password salt)
  encrypt _ _ _ message := message ++ List.replicate 16 0
  decrypt key nonce associated ciphertext :=
    if key = plainKey (wrapping.secret.derivation wrapping.snapshotId wrapping.protectorId
        wrapping.draw.salt) ∧ nonce = wrapping.draw.nonce ∧
        associated = (wrapping.secret.associatedFields wrapping.snapshotId wrapping.protectorId
          (Base64.encode wrapping.draw.salt) (Base64.encode wrapping.draw.nonce)).flatMap aadField ∧
        ciphertext = wrapping.databaseKey.bytes ++ List.replicate 16 0 then
      some wrapping.databaseKey.bytes
    else none

theorem key_idealFor (wrapping : Wrapping) (derivation : KeyDerivation) :
    derivation.key (idealFor wrapping) = plainKey derivation := by
  cases derivation <;> rfl

theorem ideal_idealFor (wrapping : Wrapping) : (idealFor wrapping).Ideal {wrapping} where
  derives := by
    intro derivation derivation' h
    rw [key_idealFor, key_idealFor] at h
    exact plainKey_injective h
  seals := by
    rw [Set.image_singleton]
    constructor
    · intro box hbox
      rw [Set.mem_singleton_iff] at hbox
      subst hbox
      exact if_pos ⟨key_idealFor _ _, rfl, SnapshotSecret.associated_eq .., rfl⟩
    · intro key nonce associated ciphertext message h
      simp only [idealFor, Option.ite_none_right_eq_some, Option.some.injEq] at h
      obtain ⟨⟨rfl, rfl, rfl, rfl⟩, rfl⟩ := h
      refine ⟨?_, rfl⟩
      rw [Set.mem_singleton_iff, Wrapping.box, key_idealFor, Wrapping.associated,
        SnapshotSecret.associated_eq]
  tagged _ _ _ message := by simp [idealFor]

def letter (value : ℕ) : Char := Char.ofNat (97 + value)

/-- Two letters for a byte. -/
def spell (bytes : List UInt8) : List Char :=
  bytes.flatMap fun byte => [letter (byte.toNat / 16), letter (byte.toNat % 16)]

def unspell : List Char → List UInt8
  | high :: low :: rest => .ofNat (16 * (high.toNat - 97) + (low.toNat - 97)) :: unspell rest
  | _ => []

theorem toNat_letter : ∀ value < 16, (letter value).toNat = 97 + value ∧
    isLowercaseWord [letter value] = true := by
  decide

theorem unspell_spell (bytes : List UInt8) : unspell (spell bytes) = bytes := by
  induction bytes with
  | nil => rfl
  | cons byte bytes ih =>
    have hbyte := byte.toNat_lt
    have hhigh := (toNat_letter (byte.toNat / 16) (by omega)).1
    have hlow := (toNat_letter (byte.toNat % 16) (by omega)).1
    rw [spell, List.flatMap_cons, List.cons_append, List.cons_append, List.nil_append, ← spell,
      unspell, ih, hhigh, hlow,
      show 16 * (97 + byte.toNat / 16 - 97) + (97 + byte.toNat % 16 - 97) = byte.toNat by omega,
      UInt8.ofNat_toNat]

/-- Some words of two bytes, and one byte a word for the rest. -/
def spellWords : ℕ → List UInt8 → List (List Char)
  | doubles + 1, first :: second :: rest => spell [first, second] :: spellWords doubles rest
  | _, first :: rest => spell [first] :: spellWords 0 rest
  | _, [] => []

theorem flatten_spellWords (doubles : ℕ) (bytes : List UInt8) :
    (spellWords doubles bytes).flatten = spell bytes := by
  fun_induction spellWords doubles bytes with
  | case1 doubles first second rest ih => simp [ih, spell]
  | case2 doubles first rest _ ih => simp [ih, spell]
  | case3 => rfl

theorem length_spellWords (doubles singles : ℕ) (bytes : List UInt8)
    (h : bytes.length = 2 * doubles + singles) :
    (spellWords doubles bytes).length = doubles + singles := by
  fun_induction spellWords doubles bytes generalizing singles with
  | case1 doubles first second rest ih =>
    rw [List.length_cons, List.length_cons] at h
    rw [List.length_cons, ih singles (by omega)]
    omega
  | case2 doubles first rest hshort ih =>
    rw [List.length_cons] at h
    cases doubles with
    | zero => rw [List.length_cons, ih (singles - 1) (by omega)]; omega
    | succ doubles =>
      cases rest with
      | nil => simp only [List.length_nil] at h; omega
      | cons second rest => exact absurd rfl (hshort doubles second rest rfl)
  | case3 =>
    rw [List.length_nil] at h ⊢
    omega

theorem spelled_spellWords (doubles : ℕ) (bytes : List UInt8) :
    ∀ word ∈ spellWords doubles bytes, isLowercaseWord word = true ∧ word.length ≤ 8 := by
  have hbyte : ∀ byte : UInt8, (∀ c ∈ spell [byte], ('a' ≤ c && c ≤ 'z') = true) := by
    intro byte c hc
    have hlt := byte.toNat_lt
    simp only [spell, List.flatMap_cons, List.flatMap_nil, List.append_nil, List.mem_cons,
      List.not_mem_nil, or_false] at hc
    rcases hc with rfl | rfl
    · simpa [isLowercaseWord] using (toNat_letter (byte.toNat / 16) (by omega)).2
    · simpa [isLowercaseWord] using (toNat_letter (byte.toNat % 16) (by omega)).2
  fun_induction spellWords doubles bytes with
  | case1 doubles first second rest ih =>
    refine List.forall_mem_cons.mpr ⟨⟨?_, by simp [spell]⟩, ih⟩
    rw [isLowercaseWord, Bool.and_eq_true, List.all_eq_true]
    refine ⟨by simp [spell], fun c hc => ?_⟩
    rw [show spell [first, second] = spell [first] ++ spell [second] by simp [spell],
      List.mem_append] at hc
    exact hc.elim (hbyte first c) (hbyte second c)
  | case2 doubles first rest _ ih =>
    refine List.forall_mem_cons.mpr ⟨⟨?_, by simp [spell]⟩, ih⟩
    rw [isLowercaseWord, Bool.and_eq_true, List.all_eq_true]
    exact ⟨by simp [spell], hbyte first⟩
  | case3 => exact fun word hword => absurd hword List.not_mem_nil

/-- Eight words of two bytes and sixteen of one. -/
def plainWords : Bip39 where
  mnemonic entropy := (spellWords 8 entropy).map String.ofList
  entropy words :=
    let entropy := unspell (words.map String.toList).flatten
    if (spellWords 8 entropy).map String.ofList = words then some entropy else none

theorem standard_plainWords : plainWords.Standard where
  count entropy hsize := by
    rw [plainWords, List.length_map, length_spellWords 8 16 entropy (by omega)]
  spelled entropy _ word hword := by
    obtain ⟨chars, hchars, rfl⟩ := List.mem_map.mp hword
    rw [String.toList_ofList]
    exact spelled_spellWords 8 entropy chars hchars
  reads entropy _ words := by
    simp only [plainWords, Option.ite_none_right_eq_some, Option.some.injEq]
    constructor
    · rintro ⟨hwords, rfl⟩
      exact hwords.symm
    · rintro rfl
      have hread : unspell (((spellWords 8 entropy).map String.ofList).map String.toList).flatten =
          entropy := by
        rw [List.map_map, show String.toList ∘ String.ofList = id from
          funext fun _ => String.toList_ofList, List.map_id, flatten_spellWords, unspell_spell]
      rw [hread]
      exact ⟨rfl, rfl⟩

theorem length_kitEntropy : (List.replicate 32 (7 : UInt8)).length = 32 := rfl

def kitWords : SnapshotRecoveryWords := ⟨List.replicate 32 7, length_kitEntropy⟩

def kitWrapping : Wrapping where
  secret := .recoveryWords kitWords
  snapshotId := String.ofList (List.replicate 64 'a')
  databaseKey := ⟨List.replicate 32 9, rfl⟩
  draw := ⟨List.replicate 16 1, List.replicate 32 2, List.replicate 24 3, rfl, rfl, rfl⟩
  identity := isSha256_replicate (by decide) (by decide)

theorem sample_opens_where_sealed :
    OpensWhatWasSealed (idealFor kitWrapping) {kitWrapping} ∧
    (∃ error, SnapshotSecret.unwrap (idealFor kitWrapping)
      (String.ofList (List.replicate 64 'b')) (kitWrapping.document (idealFor kitWrapping))
      kitWrapping.secret = .error error) ∧
    ∃ read, parseRecoveryKitText plainWords (kitWords.kitText plainWords) = .ok read ∧
      unwrapSnapshotDatabaseKey (idealFor kitWrapping) kitWrapping.snapshotId
        (kitWrapping.document (idealFor kitWrapping)) read = .ok kitWrapping.databaseKey := by
  have hideal := ideal_idealFor kitWrapping
  have hkit := wrapped_key_opens_where_sealed.2.2.2.1 plainWords standard_plainWords
  have hparsed : parseRecoveryKitText plainWords (kitWords.kitText plainWords) =
      .ok kitWords := by
    have hread := hkit.1 kitWords
    unfold readRecoveryKit at hread
    split at hread
    · cases hread
    · exact hread
  refine ⟨wrapped_key_opens_where_sealed.1 _ _ hideal, ?_, ?_⟩
  · apply wrapped_key_opens_where_sealed.2.1 _ _ hideal
    rintro ⟨-, hsnapshot, -⟩
    exact absurd (String.ofList_injective hsnapshot) (by decide)
  · exact hkit.2.2 _ kitWords ((hkit.2.1 _ _).mp hparsed) _ _ hideal kitWrapping
      (Set.mem_singleton _) rfl

end GreenBubbles.Snapshot
