import GuestVault.Archive.Metadata
import GuestVault.Proofs.Json.ReadBack
import GuestVault.Proofs.Stream.Delivery
import GuestVault.Proofs.Time.Rfc3339

/-!
# Metadata read back

An object whose members are the fields of a record that are present gives these fields back
(`record?_present`), and what is left out when a record is written comes back as the value that was
left out. So metadata reads back as it was written, if its numbers fit into 64 bits and its tags are
proper (`decode_encode`), and it can be written unless its time has no RFC 3339 text.
-/

namespace GuestVault

open GuestVault.Text GuestVault.Time

namespace Json

/-! ## Fields that are present -/

/-- The members for the fields that are present. -/
def present (fields : List (String × Option Json)) : List (String × Json) :=
  fields.flatMap fun (key, value?) => value?.toList.map (key, ·)

variable {fields : List (String × Option Json)} {key : String} {value? : Option Json}

theorem present_nil : present [] = [] :=
  rfl

theorem present_cons (key : String) (value? : Option Json) (rest : List (String × Option Json)) :
    present ((key, value?) :: rest) = value?.toList.map (key, ·) ++ present rest :=
  rfl

theorem valuesAt_present_cons (name key : String) (value? : Option Json)
    (rest : List (String × Option Json)) :
    valuesAt name (keyed (present ((key, value?) :: rest))) =
      (if key = name then value?.toList else []) ++ valuesAt name (keyed (present rest)) := by
  rw [present_cons]
  unfold valuesAt keyed
  rw [List.map_append, List.filterMap_append]
  congr 1
  cases value? with
  | none => split <;> rfl
  | some value =>
    by_cases h : key = name
    · simp [h]
    · simp [h]

theorem valuesAt_of_notMem {name : String} (hname : name ∉ fields.map (·.1)) :
    valuesAt name (keyed (present fields)) = [] := by
  induction fields with
  | nil => rfl
  | cons field rest ih =>
    rw [List.map_cons, List.mem_cons, not_or] at hname
    rw [valuesAt_present_cons, if_neg (Ne.symm hname.1), ih hname.2]
    rfl

theorem valuesAt_present (hnodup : (fields.map (·.1)).Nodup) {field : String × Option Json}
    (hmem : field ∈ fields) : valuesAt field.1 (keyed (present fields)) = field.2.toList := by
  induction fields with
  | nil => cases hmem
  | cons first rest ih =>
    rw [List.map_cons, List.nodup_cons] at hnodup
    rw [valuesAt_present_cons]
    rcases List.mem_cons.mp hmem with rfl | hmem
    · rw [if_pos rfl, valuesAt_of_notMem hnodup.1, List.append_nil]
    · have hne : first.1 ≠ field.1 := fun h => hnodup.1 (h ▸ List.mem_map_of_mem hmem)
      rw [if_neg hne, ih hnodup.2 hmem]
      rfl

/-- What gives the value of each field gives the values of all. -/
theorem mapM_eq_some {f : String → Option (Option Json)}
    (hf : ∀ field ∈ fields, f field.1 = some field.2) :
    (fields.map (·.1)).mapM f = some (fields.map (·.2)) := by
  induction fields with
  | nil => rfl
  | cons field rest ih =>
    obtain ⟨hfield, hrest⟩ := List.forall_mem_cons.mp hf
    rw [List.map_cons, List.mapM_cons, ih hrest, hfield]
    rfl

/-- **A record gives the fields back that its object was made from.** -/
theorem record?_present (hnodup : (fields.map (·.1)).Nodup) :
    (ofMembers (present fields)).record? (fields.map (·.1)) = some (fields.map (·.2)) := by
  have hobject : ofMembers (present fields) = .object (keyed (present fields)) := rfl
  rw [hobject, record?, if_pos (by simp [keyed])]
  refine mapM_eq_some fun field hfield => ?_
  rw [valuesAt_present hnodup hfield]
  cases field.2 with
  | none => rfl
  | some value => rfl

end Json

namespace Metadata

/-! ## Records of metadata -/

/-- The numbers of a record fit into 64 bits, and its time exists. -/
structure Sized (m : Metadata) : Prop where
  version_le : m.version ≤ maxWord64
  le_vmid : -(Int.pow 2 63) ≤ m.vmid
  vmid_lt : m.vmid < Int.pow 2 63
  archiveSize_le : m.archiveSize ≤ maxWord64
  nanos_le : ∀ moment, m.createdAt = some moment → moment.nanos ≤ 999999999

/-- A text field is present unless it is empty. -/
def textField (value : String) : Option Json :=
  if value = "" then none else some (.ofText value)

/-- The fields of a record, with the text of its time. -/
def fields (m : Metadata) (created? : Option String) : List (String × Option Json) :=
  [("format", some (.ofText m.format)), ("version", some (.ofInt m.version)),
    ("vmid", some (.ofInt m.vmid)), ("vm_type", textField m.vmType), ("node", textField m.node),
    ("backup_mode", textField m.backupMode),
    ("backup_compression", textField m.backupCompression),
    ("archive_name", some (.ofText m.archiveName)),
    ("archive_size", if m.archiveSize = 0 then none else some (.ofInt m.archiveSize)),
    ("created_at", created?.map Json.ofText), ("origin", textField m.origin)]

theorem textMember_eq (key value : String) :
    textMember key value = (textField value).toList.map (key, ·) := by
  unfold textMember textField
  split <;> rfl

/-- The text of a time that is known. -/
def createdText : Option Moment → Except Rfc3339Fault (Option String)
  | none => .ok none
  | some moment => moment.toRfc3339.map some

theorem createdMember_eq (created : Option Moment) :
    createdMember created =
      (createdText created).map fun text => (text.map Json.ofText).toList.map ("created_at", ·) := by
  cases created with
  | none => rfl
  | some moment =>
    show moment.toRfc3339.map _ = (moment.toRfc3339.map some).map _
    cases moment.toRfc3339 with
    | error fault => rfl
    | ok text => rfl

theorem toJson_eq (m : Metadata) :
    m.toJson = (createdText m.createdAt).map fun created? =>
      .ofMembers (Json.present (m.fields created?)) := by
  have hsize : (if m.archiveSize = 0 then [] else [("archive_size", Json.ofInt m.archiveSize)]) =
      (if m.archiveSize = 0 then none else some (Json.ofInt m.archiveSize)).toList.map
        ("archive_size", ·) := by
    split <;> rfl
  unfold toJson
  rw [createdMember_eq]
  cases createdText m.createdAt with
  | error fault => rfl
  | ok created? =>
    simp only [textMember_eq, hsize, fields, Json.present_cons, Json.present_nil, List.append_assoc,
      List.append_nil]
    rfl

/-! ## Fields of a record -/

theorem fieldOr_textField (value : String) :
    Json.fieldOr "" Json.text? (textField value) = some value := by
  unfold textField
  split
  · rename_i hempty
    rw [hempty]
    rfl
  · rfl

theorem fieldOr_size {size : Nat} (hsize : size ≤ maxWord64) :
    Json.fieldOr 0 (Json.nat? maxWord64) (if size = 0 then none else some (.ofInt size)) =
      some size := by
  split
  · rename_i hzero
    rw [hzero]
    rfl
  · exact Json.nat?_ofInt hsize

theorem fieldOr_created {created : Option Moment} {created? : Option String}
    (hnanos : ∀ moment, created = some moment → moment.nanos ≤ 999999999)
    (h : createdText created = .ok created?) :
    Json.fieldOr none (Json.optional? moment?) (created?.map Json.ofText) = some created := by
  cases created with
  | none =>
    obtain rfl := Except.ok.inj h
    rfl
  | some moment =>
    change moment.toRfc3339.map some = .ok created? at h
    cases htext : moment.toRfc3339 with
    | error fault => rw [htext] at h; cases h
    | ok text =>
      rw [htext] at h
      obtain rfl := Except.ok.inj h
      show (Moment.ofRfc3339? text).map some = _
      rw [ofRfc3339?_of_toRfc3339 (hnanos moment rfl) htext]
      rfl

theorem plain_of_mem_fields (m : Metadata) (created? : Option String) :
    ∀ field ∈ m.fields created?, ∀ value, field.2 = some value → value.Plain := by
  have htext (text : String) : ∀ value, some (Json.ofText text) = some value → value.Plain :=
    fun value h => Option.some.inj h ▸ .text text
  have hint (n : Int) : ∀ value, some (Json.ofInt n) = some value → value.Plain :=
    fun value h => Option.some.inj h ▸ .int n
  have hoptional (text : String) : ∀ value, textField text = some value → value.Plain := by
    unfold textField
    split
    · nofun
    · exact htext text
  simp only [fields, List.forall_mem_cons]
  refine ⟨htext _, hint _, hint _, hoptional _, hoptional _, hoptional _, hoptional _, htext _,
    ?_, ?_, hoptional _, nofun⟩
  · split
    · nofun
    · exact hint _
  · cases created? with
    | none => nofun
    | some text => exact htext text

/-! ## Reading back -/

theorem ofJson?_present {m : Metadata} (hm : m.Sized) {created? : Option String}
    (hcreated : createdText m.createdAt = .ok created?) :
    ofJson? (.ofMembers (Json.present (m.fields created?))) = some m := by
  have hnames : (m.fields created?).map (·.1) = memberNames := rfl
  have hnodup : ((m.fields created?).map (·.1)).Nodup := by
    rw [hnames]
    decide
  have hrecord := Json.record?_present hnodup
  have htext (value : String) : Json.fieldOr "" Json.text? (some (.ofText value)) = some value :=
    rfl
  have hversion : Json.fieldOr 0 (Json.nat? maxWord64) (some (.ofInt m.version)) =
      some m.version := Json.nat?_ofInt hm.version_le
  have hvmid : Json.fieldOr 0 Json.int64? (some (.ofInt m.vmid)) = some m.vmid :=
    Json.int64?_ofInt hm.le_vmid hm.vmid_lt
  rw [hnames] at hrecord
  unfold ofJson?
  rw [hrecord]
  simp only [fields, List.map_cons, List.map_nil, htext, hversion, hvmid, fieldOr_textField,
    fieldOr_size hm.archiveSize_le, fieldOr_created hm.nanos_le hcreated, Option.bind_eq_bind,
    Option.bind_some]

theorem ofBytes_encode {m : Metadata} (hm : m.Sized) {text : String} (h : m.encode = .ok text) :
    ofBytes (utf8 text) = m.checkTags := by
  unfold encode at h
  rw [toJson_eq] at h
  cases hcreated : createdText m.createdAt with
  | error fault => rw [hcreated] at h; cases h
  | ok created? =>
    rw [hcreated] at h
    obtain rfl := Except.ok.inj h
    have hplain : ∀ member ∈ Json.present (m.fields created?), member.2.Plain := by
      intro member hmem
      obtain ⟨field, hfield, hmem⟩ := List.mem_flatMap.mp hmem
      obtain ⟨value, hvalue, rfl⟩ := List.mem_map.mp hmem
      exact plain_of_mem_fields m created? field hfield value (Option.mem_toList.mp hvalue)
    have hne : Json.present (m.fields created?) ≠ [] := List.cons_ne_nil _ _
    unfold ofBytes
    dsimp only
    rw [Json.parse?_render hne hplain, Option.bind_some, ofJson?_present hm hcreated]

theorem exists_encode_iff (m : Metadata) :
    (∃ text, m.encode = .ok text) ↔
      ∀ moment, m.createdAt = some moment → ∃ text, moment.toRfc3339 = .ok text := by
  unfold encode
  rw [toJson_eq]
  cases m.createdAt with
  | none => exact iff_of_true ⟨_, rfl⟩ nofun
  | some moment =>
    simp only [createdText, Option.some.injEq, forall_eq']
    cases moment.toRfc3339 with
    | error fault => exact iff_of_false (fun ⟨_, h⟩ => nomatch h) fun ⟨_, h⟩ => nomatch h
    | ok text => exact iff_of_true ⟨_, rfl⟩ ⟨text, rfl⟩

/-- What a reader delivers is read as one text, whatever the pieces and interruptions. -/
theorem decode_script {reader : Script} (hfault : reader.fault? = none) :
    decode reader = ofBytes reader.deliveredUntilFault := by
  obtain ⟨hbytes, hresult⟩ := reader.readToEnd_script
  rw [hfault] at hresult
  unfold decode
  generalize readToEnd reader = result at hbytes hresult
  obtain ⟨_, _, _⟩ := result
  obtain rfl := hbytes
  obtain rfl := hresult
  rfl

/-! ## Tags -/

/-- The format tag is the right one or absent. -/
def FormatKnown (m : Metadata) : Prop :=
  m.format = "" ∨ m.format = formatTag

/-- The version is the right one or absent. -/
def VersionKnown (m : Metadata) : Prop :=
  m.version = 0 ∨ m.version = formatVersion

variable {m : Metadata}

theorem checkTags_of_known (hformat : m.FormatKnown) (hversion : m.VersionKnown) :
    m.checkTags = .ok m := by
  unfold checkTags
  rw [if_neg (not_and_or.mpr (hformat.imp not_not_intro not_not_intro)),
    if_neg (not_and_or.mpr (hversion.imp not_not_intro not_not_intro))]

theorem checkTags_of_format (hformat : ¬ m.FormatKnown) :
    m.checkTags = .error (.parse ("unsupported metadata format: " ++ m.format)) :=
  if_pos (not_or.mp hformat)

theorem checkTags_of_version (hformat : m.FormatKnown) (hversion : ¬ m.VersionKnown) :
    m.checkTags = .error (.unsupportedVersion .metadata m.version) := by
  unfold checkTags
  rw [if_neg (not_and_or.mpr (hformat.imp not_not_intro not_not_intro)),
    if_pos (not_or.mp hversion)]

/-- **Reading a record undoes writing it.** Every record whose time has an RFC 3339 text is written,
and no other. However its bytes are delivered, they are read as the very record if its tags are known.
A foreign format is refused first, then a foreign version. -/
theorem decode_encode (hm : m.Sized) :
    ((∃ text, m.encode = .ok text) ↔ ∀ moment, m.createdAt = some moment →
      0 ≤ moment.date.year ∧ moment.date.year ≤ 9999 ∧ moment.offset.natAbs / 3600 ≤ 23 ∧
        moment.offset.natAbs % 60 = 0) ∧
    ∀ (text : String) (reader : Script), m.encode = .ok text → reader.fault? = none →
      reader.deliveredUntilFault = utf8 text →
      (m.FormatKnown → m.VersionKnown → decode reader = .ok m) ∧
      (¬ m.FormatKnown →
        decode reader = .error (.parse ("unsupported metadata format: " ++ m.format))) ∧
      (m.FormatKnown → ¬ m.VersionKnown →
        decode reader = .error (.unsupportedVersion .metadata m.version)) := by
  refine ⟨?_, fun text reader htext hfault hbytes => ?_⟩
  · rw [exists_encode_iff]
    exact forall₂_congr fun moment _ => exists_toRfc3339_iff moment
  · have hdecode : decode reader = m.checkTags := by
      rw [decode_script hfault, hbytes, ofBytes_encode hm htext]
    rw [hdecode]
    exact ⟨checkTags_of_known, checkTags_of_format, checkTags_of_version⟩

/-- A record of a moment east of UTC, with texts that have to be escaped. -/
def quotedRecord : Metadata :=
  { version := 1
    vmid := -7
    node := "a\"b\\c\n\u0001"
    archiveSize := 18446744073709551615
    createdAt := some { unix := 1700000000, nanos := 120, offset := 19800 } }

/-- Its text. -/
def quotedText : String :=
  "\x7b\"format\":\"\",\"version\":1,\"vmid\":-7,\"node\":\"a\\\"b\\\\c\\n\\u0001\"," ++
    "\"archive_name\":\"\",\"archive_size\":18446744073709551615," ++
    "\"created_at\":\"2023-11-15T03:43:20.00000012+05:30\"\x7d"

/-- A reader of the text that delivers one byte at a time after an interruption. -/
def quotedReader : Script :=
  .fail (.plain .interrupted) :: (utf8 quotedText).map fun b => .data [b]

theorem decode_encode_quotedRecord :
    quotedRecord.Sized ∧ quotedRecord.encode = .ok quotedText ∧
      decode quotedReader = .ok quotedRecord := by
  have hsized : quotedRecord.Sized :=
    ⟨by decide, by decide, by decide, by decide, fun moment h => by
      obtain rfl := Option.some.inj h
      decide⟩
  have htext : quotedRecord.encode = .ok quotedText := by decide +kernel
  have hread := (decode_encode hsized).2 quotedText quotedReader htext (by decide +kernel)
    (by decide +kernel)
  exact ⟨hsized, htext, hread.1 (Or.inl rfl) (Or.inr rfl)⟩

end Metadata

end GuestVault
