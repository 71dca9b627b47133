import SearchStore.Config.Connector
import SearchStore.Config.Query
import SearchStore.Config.Storage
import SearchStore.Proofs.Config.Selection
import SearchStore.Proofs.Duration.RoundTrip

/-!
# Configurations that are written and read again

Most values that a configuration holds are read as they were written. Durations have to fit, selections have to be
read from something, and maps in key order have to be in that order: `IsReadable` says so for each configuration. It
holds of whatever is read (`isReadable_of_decode`) and is all that reading again needs (`decode_toJson`). So every
configuration that is read survives a round trip (`configurations_survive`).
-/

namespace SearchStore

/-! ### Values of fields -/

theorem Auth.decode_toJson (auth : Auth) : decode auth.toJson = .ok auth := by
  cases auth with
  | basic username password =>
    have hentries : basicShape.entries (.object [("username", .string username), ("password", .string password)]) =
        .ok [("username", .string username), ("password", .string password)] := by
      refine Json.RecordShape.entries_object (by decide) ?_
      exact .cons ((textField "username").isFor rfl) (.cons ((textField "password").isFor rfl) .nil)
    simp only [toJson, decode, Json.Decoder.tagged, credentials, bind, Except.bind, if_pos, hentries]
    rfl
  | bearer token =>
    have hentries : bearerShape.entries (.object [("token", .string token)]) = .ok [("token", .string token)] := by
      refine Json.RecordShape.entries_object (by decide) ?_
      exact .cons ((textField "token").isFor rfl) .nil
    have hkind : ¬ "bearer" = "basic" := by decide
    simp only [toJson, decode, Json.Decoder.tagged, credentials, bind, Except.bind, if_neg hkind, if_pos, hentries]
    rfl

theorem ConnectorState.decode_name (state : ConnectorState) : decode (.string state.name) = .ok state := by
  cases state <;> rfl

theorem TemplateSource.decode_name (source : TemplateSource) : decode (.string source.name) = .ok source := by
  cases source <;> rfl

theorem MethodParameters.decode_toJson (p : MethodParameters) : decode p.toJson = .ok p := by
  have hparameters : ∀ fields : Fields, Json.Decoder.object (.object fields) = .ok fields := fun _ => rfl
  rw [toJson, decode, Json.Decoder.map_mapValues hparameters]
  rfl

namespace Duration

theorem decode_render {d : Duration} (h : d.IsValid) : decode (.string d.render) = .ok d := by
  rw [decode, Json.Decoder.string]
  simp only [parse_render h, bind, Except.bind]

theorem isValid_of_decode {value : Json} {d : Duration} (h : decode value = .ok d) : d.IsValid := by
  obtain ⟨text, -, hparse⟩ := exists_of_bind_eq_ok h
  split at hparse
  · rename_i hd
    cases hparse
    exact valid_of_parse hd
  · cases hparse

end Duration

/-! ### Connectors -/

namespace ConnectorConfig

/-- The timeout fits, and the selections were read. -/
structure IsReadable (c : ConnectorConfig) : Prop where
  timeout : c.requestTimeout.IsValid
  index : ∀ s ∈ c.index, s.IsRead
  docType : ∀ s ∈ c.docType, s.IsRead

theorem isReadable_of_decode {value : Json} {c : ConnectorConfig} (h : decode value = .ok c) : c.IsReadable := by
  obtain ⟨entries, -, h⟩ := exists_of_bind_eq_ok h
  obtain ⟨nodes, -, h⟩ := exists_of_bind_eq_ok h
  obtain ⟨timeout, htimeout, h⟩ := exists_of_bind_eq_ok h
  obtain ⟨auth, -, h⟩ := exists_of_bind_eq_ok h
  obtain ⟨certificate, -, h⟩ := exists_of_bind_eq_ok h
  obtain ⟨index, hindex, h⟩ := exists_of_bind_eq_ok h
  obtain ⟨docType, htype, h⟩ := exists_of_bind_eq_ok h
  obtain ⟨fakeStatus, -, h⟩ := exists_of_bind_eq_ok h
  cases h
  have hdefault : Duration.IsValid ⟨30, 0⟩ := ⟨by decide, by decide⟩
  have hvalid : timeout.IsValid := by
    rcases Json.Field.of_read_eq_ok htimeout with ⟨value, hvalue⟩ | hfallback
    · exact Duration.isValid_of_decode hvalue
    · cases hfallback
      exact hdefault
  exact ⟨hvalid, Selection.isRead_of_field hindex, Selection.isRead_of_field htype⟩

/-- The entries of a configuration as it is written. -/
def written (c : ConnectorConfig) : Fields :=
  [("nodes", Json.strings c.nodes), ("request_timeout", .string c.requestTimeout.render),
    ("auth", Json.ofOption Auth.toJson c.auth),
    ("disable_certificate_validation", .bool c.disableCertificateValidation),
    ("index", Json.ofOption Selection.toJson c.index), ("type", Json.ofOption Selection.toJson c.docType),
    ("fake_status", Json.ofOption (fun state => .string state.name) c.fakeStatus)]

theorem toJson_eq (c : ConnectorConfig) : c.toJson = .object c.written := rfl

theorem decode_toJson {c : ConnectorConfig} (h : c.IsReadable) : decode c.toJson = .ok c := by
  have hnodes : nodesField.decode (Json.strings c.nodes) = .ok c.nodes := Json.Decoder.list_strings c.nodes
  have htimeout : timeoutField.decode (.string c.requestTimeout.render) = .ok c.requestTimeout :=
    Duration.decode_render h.timeout
  have hauth : authField.decode (Json.ofOption Auth.toJson c.auth) = .ok c.auth :=
    Json.Decoder.optional_ofOption (fun auth _ => auth.decode_toJson) (by rintro (_ | _) <;> nofun)
  have hcertificate : certificateField.decode (.bool c.disableCertificateValidation) =
      .ok c.disableCertificateValidation := rfl
  have hindex := Selection.field_toJson "index" h.index
  have htype := Selection.field_toJson "type" h.docType
  have hstatus : fakeStatusField.decode (Json.ofOption (fun state => .string state.name) c.fakeStatus) =
      .ok c.fakeStatus := Json.Decoder.optional_ofOption (fun state _ => state.decode_name) nofun
  have hentries : shape.entries (.object c.written) = .ok c.written := by
    refine Json.RecordShape.entries_object (by decide) ?_
    exact .cons (nodesField.isFor hnodes) (.cons (timeoutField.isFor htimeout) (.cons (authField.isFor hauth)
      (.cons (certificateField.isFor hcertificate) (.cons ((Selection.field "index").isFor hindex)
        (.cons ((Selection.field "type").isFor htype) (.cons (fakeStatusField.isFor hstatus) .nil))))))
  simp only [toJson_eq, decode, hentries, nodesField.read_eq_ok c.written rfl hnodes,
    timeoutField.read_eq_ok c.written rfl htimeout, authField.read_eq_ok c.written rfl hauth,
    certificateField.read_eq_ok c.written rfl hcertificate,
    (Selection.field "index").read_eq_ok c.written rfl hindex,
    (Selection.field "type").read_eq_ok c.written rfl htype, fakeStatusField.read_eq_ok c.written rfl hstatus, bind,
    Except.bind]

end ConnectorConfig

/-! ### Finders -/

namespace FinderConfig

/-- The selections were read. -/
structure IsReadable (c : FinderConfig) : Prop where
  index : ∀ s ∈ c.index, s.IsRead
  docType : ∀ s ∈ c.docType, s.IsRead

theorem isReadable_of_decode {value : Json} {c : FinderConfig} (h : decode value = .ok c) : c.IsReadable := by
  obtain ⟨entries, -, h⟩ := exists_of_bind_eq_ok h
  obtain ⟨index, hindex, h⟩ := exists_of_bind_eq_ok h
  obtain ⟨docType, htype, h⟩ := exists_of_bind_eq_ok h
  obtain ⟨parameters, -, h⟩ := exists_of_bind_eq_ok h
  obtain ⟨logGet, -, h⟩ := exists_of_bind_eq_ok h
  obtain ⟨logMget, -, h⟩ := exists_of_bind_eq_ok h
  obtain ⟨logSearch, -, h⟩ := exists_of_bind_eq_ok h
  obtain ⟨logData, -, h⟩ := exists_of_bind_eq_ok h
  obtain ⟨timeout, -, h⟩ := exists_of_bind_eq_ok h
  cases h
  exact ⟨Selection.isRead_of_field hindex, Selection.isRead_of_field htype⟩

/-- The entries of a configuration as it is written. -/
def written (c : FinderConfig) : Fields :=
  [("index", Json.ofOption Selection.toJson c.index), ("type", Json.ofOption Selection.toJson c.docType),
    ("parameters", c.parameters.toJson), ("log_get_query", .bool c.logGetQuery),
    ("log_mget_query", .bool c.logMgetQuery), ("log_search_query", .bool c.logSearchQuery),
    ("log_result_data", .bool c.logResultData), ("scroll_timeout", .string c.scrollTimeout)]

theorem toJson_eq (c : FinderConfig) : c.toJson = .object c.written := rfl

theorem decode_toJson {c : FinderConfig} (h : c.IsReadable) : decode c.toJson = .ok c := by
  have hindex := Selection.field_toJson "index" h.index
  have htype := Selection.field_toJson "type" h.docType
  have hparameters : MethodParameters.field.decode c.parameters.toJson = .ok c.parameters :=
    c.parameters.decode_toJson
  have hswitch : ∀ name on, (switchField name).decode (.bool on) = .ok on := fun _ _ => rfl
  have htimeout : scrollTimeoutField.decode (.string c.scrollTimeout) = .ok c.scrollTimeout := rfl
  have hentries : shape.entries (.object c.written) = .ok c.written := by
    refine Json.RecordShape.entries_object (by decide) ?_
    exact .cons ((Selection.field "index").isFor hindex) (.cons ((Selection.field "type").isFor htype)
      (.cons (MethodParameters.field.isFor hparameters)
        (.cons ((switchField "log_get_query").isFor (hswitch _ c.logGetQuery))
          (.cons ((switchField "log_mget_query").isFor (hswitch _ c.logMgetQuery))
            (.cons ((switchField "log_search_query").isFor (hswitch _ c.logSearchQuery))
              (.cons ((switchField "log_result_data").isFor (hswitch _ c.logResultData))
                (.cons (scrollTimeoutField.isFor htimeout) .nil)))))))
  simp only [toJson_eq, decode, hentries, (Selection.field "index").read_eq_ok c.written rfl hindex,
    (Selection.field "type").read_eq_ok c.written rfl htype,
    MethodParameters.field.read_eq_ok c.written rfl hparameters,
    (switchField "log_get_query").read_eq_ok c.written rfl (hswitch _ c.logGetQuery),
    (switchField "log_mget_query").read_eq_ok c.written rfl (hswitch _ c.logMgetQuery),
    (switchField "log_search_query").read_eq_ok c.written rfl (hswitch _ c.logSearchQuery),
    (switchField "log_result_data").read_eq_ok c.written rfl (hswitch _ c.logResultData),
    scrollTimeoutField.read_eq_ok c.written rfl htimeout, bind, Except.bind]

end FinderConfig

/-! ### Queries -/

namespace CriteriaConfig

/-- The types for sorting are in key order. -/
structure IsReadable (c : CriteriaConfig) : Prop where
  dynamicMappings : Assoc.Ascending c.dynamicMappings

theorem isReadable_of_decode {value : Json} {c : CriteriaConfig} (h : decode value = .ok c) : c.IsReadable := by
  obtain ⟨entries, -, h⟩ := exists_of_bind_eq_ok h
  obtain ⟨filters, -, h⟩ := exists_of_bind_eq_ok h
  obtain ⟨multiFields, -, h⟩ := exists_of_bind_eq_ok h
  obtain ⟨mappings, hmappings, h⟩ := exists_of_bind_eq_ok h
  obtain ⟨settings, -, h⟩ := exists_of_bind_eq_ok h
  obtain ⟨pattern, -, h⟩ := exists_of_bind_eq_ok h
  cases h
  refine ⟨?_⟩
  rcases Json.Field.of_read_eq_ok hmappings with ⟨value, hvalue⟩ | hfallback
  · obtain ⟨entries, -, rfl⟩ := exists_of_map_eq_ok hvalue
    exact Assoc.ascending_sorted entries
  · cases hfallback
    exact List.Pairwise.nil

/-- The entries of a configuration as it is written. -/
def written (c : CriteriaConfig) : Fields :=
  [("query_filters", .object c.queryFilters), ("multi_fields", Json.strings c.multiFields),
    ("dynamic_mappings", .object (Assoc.mapValues .string c.dynamicMappings)),
    ("search_query_settings", .object c.searchQuerySettings), ("suggest_pattern", .string c.suggestPattern)]

theorem toJson_eq (c : CriteriaConfig) : c.toJson = .object c.written := rfl

theorem decode_toJson {c : CriteriaConfig} (h : c.IsReadable) : decode c.toJson = .ok c := by
  have hfilters : queryFiltersField.decode (.object c.queryFilters) = .ok c.queryFilters := rfl
  have hfields : multiFieldsField.decode (Json.strings c.multiFields) = .ok c.multiFields :=
    Json.Decoder.list_strings c.multiFields
  have hmappings : dynamicMappingsField.decode (.object (Assoc.mapValues .string c.dynamicMappings)) =
      .ok c.dynamicMappings := by
    have hstring : ∀ type, Json.Decoder.string (.string type) = .ok type := fun _ => rfl
    simp only [dynamicMappingsField, Json.Decoder.map_mapValues hstring, Except.map,
      Assoc.sorted_of_ascending h.dynamicMappings]
  have hsettings : searchQuerySettingsField.decode (.object c.searchQuerySettings) = .ok c.searchQuerySettings := rfl
  have hpattern : suggestPatternField.decode (.string c.suggestPattern) = .ok c.suggestPattern := rfl
  have hentries : shape.entries (.object c.written) = .ok c.written := by
    refine Json.RecordShape.entries_object (by decide) ?_
    exact .cons (queryFiltersField.isFor hfilters) (.cons (multiFieldsField.isFor hfields)
      (.cons (dynamicMappingsField.isFor hmappings) (.cons (searchQuerySettingsField.isFor hsettings)
        (.cons (suggestPatternField.isFor hpattern) .nil))))
  simp only [toJson_eq, decode, hentries, queryFiltersField.read_eq_ok c.written rfl hfilters,
    multiFieldsField.read_eq_ok c.written rfl hfields, dynamicMappingsField.read_eq_ok c.written rfl hmappings,
    searchQuerySettingsField.read_eq_ok c.written rfl hsettings,
    suggestPatternField.read_eq_ok c.written rfl hpattern, bind, Except.bind]

end CriteriaConfig

namespace TemplateConfig

theorem decode_toJson (c : TemplateConfig) : decode c.toJson = .ok c := by
  have hmethod : methodField.decode (.string c.method.name) = .ok c.method := c.method.decode_name
  have hentries : shape.entries c.toJson = .ok [("method", .string c.method.name)] := by
    refine Json.RecordShape.entries_object (by decide) ?_
    exact .cons (methodField.isFor hmethod) .nil
  simp only [decode, hentries, methodField.read_eq_ok [("method", .string c.method.name)] rfl hmethod, bind,
    Except.bind]

end TemplateConfig

/-! ### Storage -/

namespace StorageConfig

/-- The selections were read. -/
structure IsReadable (c : StorageConfig) : Prop where
  index : ∀ s ∈ c.index, s.IsRead
  docType : ∀ s ∈ c.docType, s.IsRead

theorem isReadable_of_decode {value : Json} {c : StorageConfig} (h : decode value = .ok c) : c.IsReadable := by
  obtain ⟨entries, -, h⟩ := exists_of_bind_eq_ok h
  obtain ⟨index, hindex, h⟩ := exists_of_bind_eq_ok h
  obtain ⟨docType, htype, h⟩ := exists_of_bind_eq_ok h
  obtain ⟨parameters, -, h⟩ := exists_of_bind_eq_ok h
  obtain ⟨limit, -, h⟩ := exists_of_bind_eq_ok h
  cases h
  exact ⟨Selection.isRead_of_field hindex, Selection.isRead_of_field htype⟩

/-- The entries of a configuration as it is written. -/
def written (c : StorageConfig) : Fields :=
  [("index", Json.ofOption Selection.toJson c.index), ("type", Json.ofOption Selection.toJson c.docType),
    ("parameters", c.parameters.toJson), ("limit", .natural c.limit)]

theorem toJson_eq (c : StorageConfig) : c.toJson = .object c.written := rfl

theorem decode_toJson {c : StorageConfig} (h : c.IsReadable) : decode c.toJson = .ok c := by
  have hindex := Selection.field_toJson "index" h.index
  have htype := Selection.field_toJson "type" h.docType
  have hparameters : MethodParameters.field.decode c.parameters.toJson = .ok c.parameters :=
    c.parameters.decode_toJson
  have hlimit : limitField.decode (.natural c.limit) = .ok c.limit := rfl
  have hentries : shape.entries (.object c.written) = .ok c.written := by
    refine Json.RecordShape.entries_object (by decide) ?_
    exact .cons ((Selection.field "index").isFor hindex) (.cons ((Selection.field "type").isFor htype)
      (.cons (MethodParameters.field.isFor hparameters) (.cons (limitField.isFor hlimit) .nil)))
  simp only [toJson_eq, decode, hentries, (Selection.field "index").read_eq_ok c.written rfl hindex,
    (Selection.field "type").read_eq_ok c.written rfl htype,
    MethodParameters.field.read_eq_ok c.written rfl hparameters, limitField.read_eq_ok c.written rfl hlimit, bind,
    Except.bind]

end StorageConfig

/-! ### All configurations -/

/-- **Configurations survive a round trip.** Whatever configuration is read, from an object or an array, with fields
left out or with selections in text, is read again from the form in which it is written. -/
theorem configurations_survive (value : Json) :
    (∀ c, ConnectorConfig.decode value = .ok c → ConnectorConfig.decode c.toJson = .ok c) ∧
      (∀ c, FinderConfig.decode value = .ok c → FinderConfig.decode c.toJson = .ok c) ∧
      (∀ c, CriteriaConfig.decode value = .ok c → CriteriaConfig.decode c.toJson = .ok c) ∧
      (∀ c, TemplateConfig.decode value = .ok c → TemplateConfig.decode c.toJson = .ok c) ∧
      (∀ c, StorageConfig.decode value = .ok c → StorageConfig.decode c.toJson = .ok c) := by
  refine ⟨?_, ?_, ?_, ?_, ?_⟩
  · intro c h
    exact ConnectorConfig.decode_toJson (ConnectorConfig.isReadable_of_decode h)
  · intro c h
    exact FinderConfig.decode_toJson (FinderConfig.isReadable_of_decode h)
  · intro c h
    exact CriteriaConfig.decode_toJson (CriteriaConfig.isReadable_of_decode h)
  · intro c _
    exact c.decode_toJson
  · intro c h
    exact StorageConfig.decode_toJson (StorageConfig.isReadable_of_decode h)

/-- Selections in text with blank names, a duration in units that carry over, keys out of order, and a record as an
array. -/
theorem configurations_survive_forms :
    let connector : ConnectorConfig :=
      { requestTimeout := ⟨2637218, 2_000_007⟩
        auth := some (.basic "reader" "")
        index := some ⟨["books", "authors"]⟩
        fakeStatus := some .failing }
    let finder : FinderConfig := { docType := some ⟨[]⟩, parameters := ⟨[("search", [("size", .null)])]⟩ }
    let criteria : CriteriaConfig := { dynamicMappings := [("price", "double"), ("title", "keyword")] }
    let template : TemplateConfig := { method := .file }
    let storage : StorageConfig := { index := some ⟨["books"]⟩, limit := 25 }
    (ConnectorConfig.decode connector.toJson = .ok connector ∧
        connector.requestTimeout.render = "1month 2h 2s 2ms 7ns") ∧
      FinderConfig.decode finder.toJson = .ok finder ∧
      CriteriaConfig.decode criteria.toJson = .ok criteria ∧
      TemplateConfig.decode template.toJson = .ok template ∧
      StorageConfig.decode storage.toJson = .ok storage := by
  intro connector finder criteria template storage
  have hconnector := (configurations_survive (.object
    [("request_timeout", .string "1M120m 1999ms 3000000 ns7ns"),
      ("auth", .object [("basic", .object [("password", .string ""), ("username", .string "reader")])]),
      ("index", .string " books,, authors "), ("fake_status", .object [("failing", .null)])])).1 connector
  have hfinder := (configurations_survive (.object
    [("unknown", .null), ("type", .string ", "),
      ("parameters", .object [("search", .object [("size", .null)])])])).2.1 finder
  have hcriteria := (configurations_survive (.object
    [("dynamic_mappings", .object [("title", .string "keyword"), ("price", .string "double")])])).2.2.1 criteria
  have htemplate := (configurations_survive (.array [.string "file"])).2.2.2.1 template
  have hstorage := (configurations_survive (.array
    [.array [.string "books", .string " "], .null, .object [], .natural 25])).2.2.2.2 storage
  exact ⟨⟨hconnector (by decide +kernel), by decide +kernel⟩, hfinder (by decide +kernel),
    hcriteria (by decide +kernel), htemplate (by decide +kernel), hstorage (by decide +kernel)⟩

end SearchStore
