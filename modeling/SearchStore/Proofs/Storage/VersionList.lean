import SearchStore.Proofs.Json.Record
import SearchStore.Proofs.Time.RoundTrip
import SearchStore.Storage.VersionList

/-!
# Lists of versions that are stored and read again

A version is read back from the record that is written of it (`StructureVersion.decode_toJson`), and so is a list
(`VersionList.decode_toJson`), with its moments as clocks show them. `version_list_stored` says what this means for
the documents of a storage.
-/

namespace SearchStore

/-! ### Versions -/

theorem Moment.decode_zuluText (m : Moment) : Moment.decode (.string m.zuluText) = .ok m.settled := by
  unfold Moment.decode
  simp only [Time.relaxed_zuluText]

namespace StructureVersion

/-- The version with its moment as clocks show it. -/
def settled (v : StructureVersion) : StructureVersion := { v with createdDate := v.createdDate.settled }

/-- Two versions say the same of a migration, and that it was applied at the same instant. -/
def Same (v w : StructureVersion) : Prop :=
  v.targetName = w.targetName ∧ v.version = w.version ∧ v.createdDate.SameInstant w.createdDate

theorem same_settled (v : StructureVersion) : v.settled.Same v := ⟨rfl, rfl, v.createdDate.sameInstant_settled⟩

theorem settled_of_isProper {v : StructureVersion} (h : v.createdDate.IsProper) : v.settled = v := by
  unfold settled
  rw [Moment.settled_of_isProper h]

/-- The entries of a version as it is written. -/
def written (v : StructureVersion) : Fields :=
  [("target_name", .string v.targetName), ("version", .string v.version),
    ("created_date", .string v.createdDate.zuluText)]

theorem toJson_eq (v : StructureVersion) : v.toJson = .object v.written := rfl

theorem decode_toJson (v : StructureVersion) : decode v.toJson = .ok v.settled := by
  have htarget : (textField "target_name").decode (.string v.targetName) = .ok v.targetName := rfl
  have hversion : (textField "version").decode (.string v.version) = .ok v.version := rfl
  have hdate : dateField.decode (.string v.createdDate.zuluText) = .ok v.createdDate.settled := by
    simp only [dateField, Moment.decode_zuluText]
  have hentries : shape.entries (.object v.written) = .ok v.written := by
    refine Json.RecordShape.entries_object (by decide) ?_
    exact .cons ((textField "target_name").isFor htarget)
      (.cons ((textField "version").isFor hversion) (.cons (dateField.isFor hdate) .nil))
  simp only [toJson_eq, decode, hentries, (textField "target_name").read_eq_ok v.written rfl htarget,
    (textField "version").read_eq_ok v.written rfl hversion, dateField.read_eq_ok v.written rfl hdate, bind,
    Except.bind]
  rfl

end StructureVersion

/-! ### Lists -/

namespace VersionList

/-- The list with its moments as clocks show them. -/
def settled (list : VersionList) : VersionList :=
  { list with versions := list.versions.map StructureVersion.settled }

theorem settled_of_isProper {list : VersionList} (h : ∀ v ∈ list.versions, v.createdDate.IsProper) :
    list.settled = list := by
  have hversions : list.versions.map StructureVersion.settled = list.versions := by
    rw [List.map_congr_left fun v hv => StructureVersion.settled_of_isProper (h v hv)]
    exact List.map_id' list.versions
  unfold settled
  rw [hversions]

/-- The entries of a list as it is written. -/
def written (list : VersionList) : Fields :=
  [("identifier", .string list.identifier), ("versions", .array (list.versions.map StructureVersion.toJson))]

theorem toJson_eq (list : VersionList) : list.toJson = .object list.written := rfl

theorem decode_toJson (list : VersionList) : decode list.toJson = .ok list.settled := by
  have hidentifier : (StructureVersion.textField "identifier").decode (.string list.identifier) =
      .ok list.identifier := rfl
  have hversions : versionsField.decode (.array (list.versions.map StructureVersion.toJson)) =
      .ok (list.versions.map StructureVersion.settled) :=
    Json.Decoder.list_map fun v _ => v.decode_toJson
  have hentries : shape.entries (.object list.written) = .ok list.written := by
    refine Json.RecordShape.entries_object (by decide) ?_
    exact .cons ((StructureVersion.textField "identifier").isFor hidentifier)
      (.cons (versionsField.isFor hversions) .nil)
  simp only [toJson_eq, decode, hentries,
    (StructureVersion.textField "identifier").read_eq_ok list.written rfl hidentifier,
    versionsField.read_eq_ok list.written rfl hversions, bind, Except.bind]
  rfl

end VersionList

/-- **Lists of versions are read back.** Every list can be stored, under its own identifier. From every document
with the stored body as its source, a list is read with the same identifier and the same versions in the same order,
applied at the same instants. It is the same list if leap seconds stand at the end of a minute only, as they do on
all clocks. -/
theorem version_list_stored (list : VersionList) :
    ∃ body, list.document = { identifier := list.identifier, body := .ok body } ∧
      ∀ document : Json, document.get? "_source" = some body →
        ∃ read, VersionList.mapper.document document = .ok read ∧
          read.identifier = list.identifier ∧
          List.Forall₂ StructureVersion.Same read.versions list.versions ∧
          ((∀ v ∈ list.versions, v.createdDate.IsProper) → read = list) := by
  refine ⟨list.toJson, rfl, fun document hsource => ⟨list.settled, ?_, rfl, ?_, ?_⟩⟩
  · simp only [VersionList.mapper, hsource, Option.getD_some, list.decode_toJson]
    rfl
  · unfold VersionList.settled
    rw [List.forall₂_map_left_iff, List.forall₂_same]
    exact fun v _ => v.same_settled
  · exact VersionList.settled_of_isProper

/-- A list with a leap second, and with the last microsecond of the year 9999. -/
theorem version_list_stored_leap_second :
    let leap : Moment :=
      { date := ⟨2016, 12, 31, by decide⟩, second := 86399, nano := 1_500_000_000
        second_lt := by decide, nano_lt := by decide }
    let last : Moment :=
      { date := ⟨9999, 12, 31, by decide⟩, second := 86399, nano := 999_999_000
        second_lt := by decide, nano_lt := by decide }
    let list : VersionList := ⟨"library", [⟨"library", "1", leap⟩, ⟨"books", "", last⟩]⟩
    let document : Json := .object [("_id", .string "library"), ("_source", list.toJson)]
    (leap.zuluText = "2016-12-31T23:59:60.500Z" ∧ last.zuluText = "9999-12-31T23:59:59.999999Z") ∧
      VersionList.mapper.document document = .ok list := by
  intro leap last list document
  have hproper : ∀ v ∈ list.versions, v.createdDate.IsProper := by
    rw [List.forall_mem_cons, List.forall_mem_singleton]
    exact ⟨fun _ => show 86399 % 60 = 59 from rfl, fun _ => show 86399 % 60 = 59 from rfl⟩
  obtain ⟨body, hbody, hread⟩ := version_list_stored list
  obtain rfl : list.toJson = body := Except.ok.inj (congrArg Document.body hbody)
  obtain ⟨read, hdocument, -, -, hsame⟩ := hread document rfl
  refine ⟨by decide +kernel, ?_⟩
  rw [hdocument, hsame hproper]

end SearchStore
