import ClientOrigin.Proofs.Settings.Written
import ClientOrigin.Proofs.Toml.Entries

/-!
# The fields of the settings

Each field has a section, a name and a position there, a kind of value that is written for it
(`Field.Writes`), and a default (`Field.fallback`).

* **one by one** — settings are what the fields are read as, each from its own section
  (`ofFields?_eq_some_iff`);
* **given** — a field is read as the value that is written for it in the tree of a document, or has
  its default (`ofFields?_eq_some_iff_filled`), so that the documents of the right types are those
  that have settings (`isSome_ofFields?_iff`);
* **alike** — nothing but what is given for the fields matters (`Alike.ofFields?_eq`).
-/

namespace ClientOrigin.Settings

open Toml

/-! ## Names -/

/-- The sections of the settings. -/
inductive Section where
  | listener
  | resolution
  | limit
  | timeouts
  | report
  deriving DecidableEq, Repr

namespace Section

/-- The name of the section in a document. -/
def name : Section → String
  | .listener => "listener"
  | .resolution => "client_ip"
  | .limit => "rate_limit"
  | .timeouts => "timeouts"
  | .report => "observability"

/-- The key of the section in a document. -/
def key (part : Section) : Text := part.name.toList

/-- The names of the fields of the section, in order. -/
def fieldNames : Section → List String
  | .listener => ["bind_address"]
  | .resolution => ["behind_proxy", "forwarded_header", "trusted_prefixes"]
  | .limit => ["enabled", "requests_per_second", "burst_size"]
  | .timeouts => ["request_secs"]
  | .report => ["log_level", "log_format", "metrics_enabled", "metrics_address"]

/-- The keys of the fields of the section, in order. -/
def fieldKeys (part : Section) : List Text := part.fieldNames.map String.toList

end Section

/-- The fields of the settings, by the type of their values. -/
inductive Field : Type → Type where
  | bindAddress : Field Text
  | behindProxy : Field Bool
  | forwardedHeader : Field Text
  | trustedNetworks : Field (List Network)
  | enabled : Field Bool
  | requestsPerSecond : Field UInt32
  | burst : Field UInt32
  | requestSecs : Field UInt64
  | logLevel : Field Text
  | logFormat : Field LogFormat
  | metricsEnabled : Field Bool
  | metricsAddress : Field Text

namespace Field

/-- The section of the field. -/
def owner {α : Type} : Field α → Section
  | .bindAddress => .listener
  | .behindProxy => .resolution
  | .forwardedHeader => .resolution
  | .trustedNetworks => .resolution
  | .enabled => .limit
  | .requestsPerSecond => .limit
  | .burst => .limit
  | .requestSecs => .timeouts
  | .logLevel => .report
  | .logFormat => .report
  | .metricsEnabled => .report
  | .metricsAddress => .report

/-- The position of the field in its section. -/
def position {α : Type} : Field α → Nat
  | .bindAddress => 0
  | .behindProxy => 0
  | .forwardedHeader => 1
  | .trustedNetworks => 2
  | .enabled => 0
  | .requestsPerSecond => 1
  | .burst => 2
  | .requestSecs => 0
  | .logLevel => 0
  | .logFormat => 1
  | .metricsEnabled => 2
  | .metricsAddress => 3

/-- The name of the field in its section. -/
def name {α : Type} (field : Field α) : String := field.owner.fieldNames.getD field.position ""

/-- The key of the field in its section. -/
def key {α : Type} (field : Field α) : Text := field.name.toList

/-- The reader of the values of the field. -/
def decode {α : Type} : Field α → Node → Option α
  | .bindAddress => Node.string?
  | .behindProxy => Node.boolean?
  | .forwardedHeader => Node.string?
  | .trustedNetworks => Node.networks?
  | .enabled => Node.boolean?
  | .requestsPerSecond => Node.word32?
  | .burst => Node.word32?
  | .requestSecs => Node.word64?
  | .logLevel => Node.string?
  | .logFormat => Node.logFormat?
  | .metricsEnabled => Node.boolean?
  | .metricsAddress => Node.string?

/-- The value of the field in the settings. -/
def get {α : Type} : Field α → Settings → α
  | .bindAddress, s => s.listener.bindAddress
  | .behindProxy, s => s.resolution.behindProxy
  | .forwardedHeader, s => s.resolution.forwardedHeader
  | .trustedNetworks, s => s.resolution.trustedNetworks
  | .enabled, s => s.limit.enabled
  | .requestsPerSecond, s => s.limit.requestsPerSecond
  | .burst, s => s.limit.burst
  | .requestSecs, s => s.timeouts.requestSecs
  | .logLevel, s => s.report.logLevel
  | .logFormat, s => s.report.logFormat
  | .metricsEnabled, s => s.report.metricsEnabled
  | .metricsAddress, s => s.report.metricsAddress

/-- The value of the field that nobody has set. -/
def fallback {α : Type} : Field α → α
  | .bindAddress => "0.0.0.0:8080".toList
  | .behindProxy => false
  | .forwardedHeader => []
  | .trustedNetworks => []
  | .enabled => false
  | .requestsPerSecond => 100
  | .burst => 50
  | .requestSecs => 30
  | .logLevel => "info".toList
  | .logFormat => .pretty
  | .metricsEnabled => false
  | .metricsAddress => "0.0.0.0:9090".toList

/-- The node writes the value of the field. -/
def Writes {α : Type} : Field α → Node → α → Prop
  | .bindAddress, node, value => node.WritesText value
  | .behindProxy, node, value => node.WritesFlag value
  | .forwardedHeader, node, value => node.WritesText value
  | .trustedNetworks, node, value => node.WritesNetworks value
  | .enabled, node, value => node.WritesFlag value
  | .requestsPerSecond, node, value => node.WritesNumber value.toNat
  | .burst, node, value => node.WritesNumber value.toNat
  | .requestSecs, node, value => node.WritesNumber value.toNat
  | .logLevel, node, value => node.WritesText value
  | .logFormat, node, value => node.WritesFormat value
  | .metricsEnabled, node, value => node.WritesFlag value
  | .metricsAddress, node, value => node.WritesText value

/-- The value is read that the node writes. -/
theorem decode_eq_some_iff {α : Type} (field : Field α) {node : Node} {value : α} :
    field.decode node = some value ↔ field.Writes node value := by
  cases field with
  | bindAddress => exact Node.string?_eq_some_iff
  | behindProxy => exact Node.boolean?_eq_some_iff
  | forwardedHeader => exact Node.string?_eq_some_iff
  | trustedNetworks => exact Node.networks?_eq_some_iff
  | enabled => exact Node.boolean?_eq_some_iff
  | requestsPerSecond => exact Node.word32?_eq_some_iff
  | burst => exact Node.word32?_eq_some_iff
  | requestSecs => exact Node.word64?_eq_some_iff
  | logLevel => exact Node.string?_eq_some_iff
  | logFormat => exact Node.logFormat?_eq_some_iff
  | metricsEnabled => exact Node.boolean?_eq_some_iff
  | metricsAddress => exact Node.string?_eq_some_iff

theorem fieldKeys_position {α : Type} (field : Field α) :
    field.owner.fieldKeys[field.position]? = some field.key := by
  cases field <;> rfl

end Field

theorem nodup_fieldKeys (part : Section) : part.fieldKeys.Nodup := by
  cases part <;> decide

/-- Any values of the fields are those of some settings. -/
theorem exists_get (value : ∀ {α : Type}, Field α → α) :
    ∃ s : Settings, ∀ {α : Type} (field : Field α), field.get s = value field := by
  let s : Settings :=
    { listener := { bindAddress := value .bindAddress }
      resolution :=
        { behindProxy := value .behindProxy
          forwardedHeader := value .forwardedHeader
          trustedNetworks := value .trustedNetworks }
      limit :=
        { enabled := value .enabled
          requestsPerSecond := value .requestsPerSecond
          burst := value .burst }
      timeouts := { requestSecs := value .requestSecs }
      report :=
        { logLevel := value .logLevel
          logFormat := value .logFormat
          metricsEnabled := value .metricsEnabled
          metricsAddress := value .metricsAddress } }
  exact ⟨s, fun field => by cases field <;> rfl⟩

/-! ## One by one -/

/-- What the tree of a document has for a section: no fields if it has no such section, nothing if
it has something else there. -/
def sectionFields? (entries : Entries) (part : Section) : Option Fields :=
  match entries.get? part.key with
  | none => some (.named [])
  | some node => Fields.ofNode? node

/-- The field as it is read among the fields of its section. -/
def Field.read {α : Type} (field : Field α) (fields : Fields) : Option α :=
  fields.read field.position field.name field.decode field.fallback

/-- The field as it is read in the tree of a document. -/
def Field.readFrom {α : Type} (field : Field α) (entries : Entries) : Option α :=
  (sectionFields? entries field.owner).bind field.read

theorem read_section {α : Type} (decode : Fields → Option α) {fallback : α}
    (empty : decode (.named []) = some fallback) (entries : Entries) (part : Section)
    (position : Nat) :
    (Fields.named entries).read position part.name (sectionOf? decode) fallback =
      (sectionFields? entries part).bind decode := by
  have byName : (Fields.named entries).get? position part.name = entries.get? part.key := rfl
  unfold Fields.read sectionFields?
  rw [byName]
  cases entries.get? part.key with
  | none => exact empty.symm
  | some node => rfl

section Sections

variable (fields : Option Fields)

theorem listener_eq_some_iff {s : ListenerSettings} :
    fields.bind ListenerSettings.ofFields? = some s ↔
      fields.bind Field.bindAddress.read = some s.bindAddress := by
  cases fields with
  | none => simp
  | some fields =>
      obtain ⟨bindAddress⟩ := s
      show (do return (⟨← Field.bindAddress.read fields⟩ : ListenerSettings)) = _ ↔
        Field.bindAddress.read fields = _
      cases Field.bindAddress.read fields <;> simp

theorem resolution_eq_some_iff {s : ResolutionSettings} :
    fields.bind ResolutionSettings.ofFields? = some s ↔
      fields.bind Field.behindProxy.read = some s.behindProxy ∧
        fields.bind Field.forwardedHeader.read = some s.forwardedHeader ∧
        fields.bind Field.trustedNetworks.read = some s.trustedNetworks := by
  cases fields with
  | none => simp
  | some fields =>
      obtain ⟨behindProxy, forwardedHeader, trustedNetworks⟩ := s
      show (do
        let behindProxy ← Field.behindProxy.read fields
        let forwardedHeader ← Field.forwardedHeader.read fields
        let trustedNetworks ← Field.trustedNetworks.read fields
        return (⟨behindProxy, forwardedHeader, trustedNetworks⟩ : ResolutionSettings)) = _ ↔
        Field.behindProxy.read fields = _ ∧ Field.forwardedHeader.read fields = _ ∧
          Field.trustedNetworks.read fields = _
      cases Field.behindProxy.read fields <;> cases Field.forwardedHeader.read fields <;>
        cases Field.trustedNetworks.read fields <;> simp

theorem limit_eq_some_iff {s : LimitSettings} :
    fields.bind LimitSettings.ofFields? = some s ↔
      fields.bind Field.enabled.read = some s.enabled ∧
        fields.bind Field.requestsPerSecond.read = some s.requestsPerSecond ∧
        fields.bind Field.burst.read = some s.burst := by
  cases fields with
  | none => simp
  | some fields =>
      obtain ⟨enabled, requestsPerSecond, burst⟩ := s
      show (do
        let enabled ← Field.enabled.read fields
        let requestsPerSecond ← Field.requestsPerSecond.read fields
        let burst ← Field.burst.read fields
        return (⟨enabled, requestsPerSecond, burst⟩ : LimitSettings)) = _ ↔
        Field.enabled.read fields = _ ∧ Field.requestsPerSecond.read fields = _ ∧
          Field.burst.read fields = _
      cases Field.enabled.read fields <;> cases Field.requestsPerSecond.read fields <;>
        cases Field.burst.read fields <;> simp

theorem timeouts_eq_some_iff {s : TimeoutSettings} :
    fields.bind TimeoutSettings.ofFields? = some s ↔
      fields.bind Field.requestSecs.read = some s.requestSecs := by
  cases fields with
  | none => simp
  | some fields =>
      obtain ⟨requestSecs⟩ := s
      show (do return (⟨← Field.requestSecs.read fields⟩ : TimeoutSettings)) = _ ↔
        Field.requestSecs.read fields = _
      cases Field.requestSecs.read fields <;> simp

theorem report_eq_some_iff {s : ReportSettings} :
    fields.bind ReportSettings.ofFields? = some s ↔
      fields.bind Field.logLevel.read = some s.logLevel ∧
        fields.bind Field.logFormat.read = some s.logFormat ∧
        fields.bind Field.metricsEnabled.read = some s.metricsEnabled ∧
        fields.bind Field.metricsAddress.read = some s.metricsAddress := by
  cases fields with
  | none => simp
  | some fields =>
      obtain ⟨logLevel, logFormat, metricsEnabled, metricsAddress⟩ := s
      show (do
        let logLevel ← Field.logLevel.read fields
        let logFormat ← Field.logFormat.read fields
        let metricsEnabled ← Field.metricsEnabled.read fields
        let metricsAddress ← Field.metricsAddress.read fields
        return (⟨logLevel, logFormat, metricsEnabled, metricsAddress⟩ : ReportSettings)) = _ ↔
        Field.logLevel.read fields = _ ∧ Field.logFormat.read fields = _ ∧
          Field.metricsEnabled.read fields = _ ∧ Field.metricsAddress.read fields = _
      cases Field.logLevel.read fields <;> cases Field.logFormat.read fields <;>
        cases Field.metricsEnabled.read fields <;> cases Field.metricsAddress.read fields <;> simp

end Sections

theorem sections_bind_eq_some_iff {listener : Option ListenerSettings}
    {resolution : Option ResolutionSettings} {limit : Option LimitSettings}
    {timeouts : Option TimeoutSettings} {report : Option ReportSettings} {s : Settings} :
    (do
      let listener ← listener
      let resolution ← resolution
      let limit ← limit
      let timeouts ← timeouts
      let report ← report
      return ({ listener, resolution, limit, timeouts, report } : Settings)) = some s ↔
      listener = some s.listener ∧ resolution = some s.resolution ∧ limit = some s.limit ∧
        timeouts = some s.timeouts ∧ report = some s.report := by
  obtain ⟨_, _, _, _, _⟩ := s
  cases listener <;> cases resolution <;> cases limit <;> cases timeouts <;> cases report <;> simp

/-- The settings are read section by section. -/
theorem sections_eq_some_iff {entries : Entries} {s : Settings} :
    ofFields? (.named entries) = some s ↔
      (sectionFields? entries .listener).bind ListenerSettings.ofFields? = some s.listener ∧
        (sectionFields? entries .resolution).bind ResolutionSettings.ofFields? =
          some s.resolution ∧
        (sectionFields? entries .limit).bind LimitSettings.ofFields? = some s.limit ∧
        (sectionFields? entries .timeouts).bind TimeoutSettings.ofFields? = some s.timeouts ∧
        (sectionFields? entries .report).bind ReportSettings.ofFields? = some s.report := by
  have listener := read_section ListenerSettings.ofFields? rfl entries .listener 0
  have resolution := read_section ResolutionSettings.ofFields? rfl entries .resolution 1
  have limit := read_section LimitSettings.ofFields? rfl entries .limit 2
  have timeouts := read_section TimeoutSettings.ofFields? rfl entries .timeouts 3
  have report := read_section ReportSettings.ofFields? rfl entries .report 4
  rw [← listener, ← resolution, ← limit, ← timeouts, ← report]
  exact sections_bind_eq_some_iff

/-- **One by one.**  Settings are read exactly if each of their fields is. -/
theorem ofFields?_eq_some_iff {entries : Entries} {s : Settings} :
    ofFields? (.named entries) = some s ↔
      ∀ {α : Type} (field : Field α), field.readFrom entries = some (field.get s) := by
  rw [sections_eq_some_iff, listener_eq_some_iff, resolution_eq_some_iff, limit_eq_some_iff,
    timeouts_eq_some_iff, report_eq_some_iff]
  constructor
  · rintro ⟨listener, ⟨proxy, header, networks⟩, ⟨enabled, rate, burst⟩, timeouts, level, format,
      metrics, address⟩ α field
    cases field with
    | bindAddress => exact listener
    | behindProxy => exact proxy
    | forwardedHeader => exact header
    | trustedNetworks => exact networks
    | enabled => exact enabled
    | requestsPerSecond => exact rate
    | burst => exact burst
    | requestSecs => exact timeouts
    | logLevel => exact level
    | logFormat => exact format
    | metricsEnabled => exact metrics
    | metricsAddress => exact address
  · intro all
    exact ⟨all .bindAddress, ⟨all .behindProxy, all .forwardedHeader, all .trustedNetworks⟩,
      ⟨all .enabled, all .requestsPerSecond, all .burst⟩, all .requestSecs, all .logLevel,
      all .logFormat, all .metricsEnabled, all .metricsAddress⟩

/-! ## Given -/

/-- The node may stand for a section. -/
def IsSection : Node → Prop
  | .table _ _ => True
  | .array _ => True
  | .tables _ => True
  | .dateTime => True
  | _ => False

/-- The node of a section has a value for a field: under its key in a table, or at its position in
an array. -/
def Has (node : Node) (position : Nat) (key : Text) (value : Node) : Prop :=
  match node with
  | .table _ entries => (key, value) ∈ entries
  | .array items => items[position]? = some value
  | .tables items => items[position]? = some value
  | _ => False

theorem isSome_ofNode?_iff {node : Node} : (Fields.ofNode? node).isSome ↔ IsSection node := by
  cases node <;> simp [Fields.ofNode?, IsSection]

/-- The value is given for the field in the tree of a document. -/
def Given {α : Type} (entries : Entries) (field : Field α) (value : Node) : Prop :=
  ∃ node, (field.owner.key, node) ∈ entries ∧ Has node field.position field.key value

/-- Every node that stands for a section may do so. -/
def HasSections (entries : Entries) : Prop :=
  ∀ (part : Section) (node : Node), (part.key, node) ∈ entries → IsSection node

/-- The sections, and the values given for the fields, have the right types. -/
structure TypeCorrect (entries : Entries) : Prop where
  sections : HasSections entries
  fields : ∀ {α : Type} (field : Field α) (node : Node), Given entries field node →
    ∃ value, field.Writes node value

/-- Each field of the settings has the value that is written for it, and its default if nothing is
given for it. -/
def Filled (entries : Entries) (s : Settings) : Prop :=
  ∀ {α : Type} (field : Field α),
    (∀ node, Given entries field node → field.Writes node (field.get s)) ∧
      ((∀ node, ¬ Given entries field node) → field.get s = field.fallback)

section Given

variable {entries : Entries} (well : entries.WellKeyed) {α : Type} {field : Field α}

include well

theorem given_iff_get? {value : Node} :
    Given entries field value ↔
      ∃ node, entries.get? field.owner.key = some node ∧
        Has node field.position field.key value := by
  unfold Given
  simp only [Entries.mem_iff_get? well.1]

theorem not_given_of_absent (absent : entries.get? field.owner.key = none) (value : Node) :
    ¬ Given entries field value := by
  rw [given_iff_get? well, absent]
  rintro ⟨node, found, _⟩
  cases found

/-- What is given for a field is what its section has for it. -/
theorem given_iff {node : Node} (found : entries.get? field.owner.key = some node) {fields : Fields}
    (isSection : Fields.ofNode? node = some fields) (value : Node) :
    Given entries field value ↔ fields.get? field.position field.name = some value := by
  have only : Given entries field value ↔ Has node field.position field.key value := by
    rw [given_iff_get? well, found]
    simp
  rw [only]
  cases node with
  | table kind below =>
      obtain rfl := Option.some.inj isSection
      have distinct : Entries.Distinct below :=
        well.2 _ ((Entries.mem_iff_get? well.1).mpr found)
      exact Entries.mem_iff_get? distinct
  | array items =>
      obtain rfl := Option.some.inj isSection
      exact Iff.rfl
  | tables items =>
      obtain rfl := Option.some.inj isSection
      exact Iff.rfl
  | dateTime =>
      obtain rfl := Option.some.inj isSection
      exact ⟨fun has => has.elim, fun has => nomatch has⟩
  | _ => cases isSection

/-- At most one value is given for a field. -/
theorem Given.unique {value other : Node} (given : Given entries field value)
    (again : Given entries field other) : value = other := by
  obtain ⟨node, mem, has⟩ := given
  obtain ⟨same, found, hasOther⟩ := again
  have distinct := well.2 _ mem
  rw [Entries.mem_iff_get? well.1] at mem found
  obtain rfl := Option.some.inj (mem.symm.trans found)
  cases node with
  | table kind below =>
      have looked := (Entries.mem_iff_get? distinct).mp has
      exact Option.some.inj (looked.symm.trans ((Entries.mem_iff_get? distinct).mp hasOther))
  | array items => exact Option.some.inj (has.symm.trans hasOther)
  | tables items => exact Option.some.inj (has.symm.trans hasOther)
  | _ => exact has.elim

/-- A field is read as the value that is given for it, or as its default, in a section that may be
one. -/
theorem readFrom_eq_some_iff {value : α} :
    field.readFrom entries = some value ↔
      (∀ node, (field.owner.key, node) ∈ entries → IsSection node) ∧
        (∀ node, Given entries field node → field.Writes node value) ∧
        ((∀ node, ¬ Given entries field node) → value = field.fallback) := by
  unfold Field.readFrom sectionFields?
  have standing : ∀ node, (field.owner.key, node) ∈ entries ↔
      entries.get? field.owner.key = some node := fun node => Entries.mem_iff_get? well.1
  cases found : entries.get? field.owner.key with
  | none =>
      have unset : ∀ node, ¬ Given entries field node := not_given_of_absent well found
      have absent : ∀ node, (field.owner.key, node) ∉ entries := by simp [standing, found]
      show some field.fallback = some value ↔ _
      constructor
      · intro same
        exact ⟨fun node mem => absurd mem (absent node),
          fun node given => absurd given (unset node), fun _ => (Option.some.inj same).symm⟩
      · rintro ⟨_, _, default⟩
        rw [default unset]
  | some node =>
      have only : (∀ node, (field.owner.key, node) ∈ entries → IsSection node) ↔
          IsSection node := by
        constructor
        · exact fun all => all node ((standing node).mpr found)
        · intro isSection other mem
          rw [standing, found] at mem
          exact Option.some.inj mem ▸ isSection
      rw [only, ← isSome_ofNode?_iff]
      cases isSection : Fields.ofNode? node with
      | none => simp [isSection]
      | some fields =>
          have given : ∀ value, Given entries field value ↔
              fields.get? field.position field.name = some value :=
            given_iff well found isSection
          simp only [isSection, Option.bind_some, Option.isSome_some, true_and, given,
            ← field.decode_eq_some_iff]
          unfold Field.read Fields.read
          cases fields.get? field.position field.name with
          | none => simp [eq_comm]
          | some value => simp

end Given

theorem exists_field (part : Section) : ∃ (α : Type) (field : Field α), field.owner = part := by
  cases part with
  | listener => exact ⟨_, .bindAddress, rfl⟩
  | resolution => exact ⟨_, .behindProxy, rfl⟩
  | limit => exact ⟨_, .enabled, rfl⟩
  | timeouts => exact ⟨_, .requestSecs, rfl⟩
  | report => exact ⟨_, .logLevel, rfl⟩

/-- **Given.**  Settings are read exactly if every section may be one and they are filled with what
is given. -/
theorem ofFields?_eq_some_iff_filled {entries : Entries} (well : entries.WellKeyed) {s : Settings} :
    ofFields? (.named entries) = some s ↔ HasSections entries ∧ Filled entries s := by
  rw [ofFields?_eq_some_iff]
  simp only [readFrom_eq_some_iff well]
  constructor
  · intro all
    refine ⟨fun part => ?_, fun field => (all field).2⟩
    obtain ⟨_, field, rfl⟩ := exists_field part
    exact (all field).1
  · rintro ⟨sections, filled⟩ α field
    exact ⟨sections field.owner, filled field⟩

/-- A document of the right types has settings, and no other has. -/
theorem isSome_ofFields?_iff {entries : Entries} (well : entries.WellKeyed) :
    (ofFields? (.named entries)).isSome ↔ TypeCorrect entries := by
  constructor
  · intro read
    obtain ⟨s, read⟩ := Option.isSome_iff_exists.mp read
    obtain ⟨sections, filled⟩ := (ofFields?_eq_some_iff_filled well).mp read
    exact ⟨sections, fun field node given => ⟨_, (filled field).1 node given⟩⟩
  · intro correct
    have each : ∀ {α : Type} (field : Field α), (field.readFrom entries).isSome := by
      intro α field
      rw [Option.isSome_iff_exists]
      simp only [readFrom_eq_some_iff well]
      by_cases given : ∃ node, Given entries field node
      · obtain ⟨node, given⟩ := given
        obtain ⟨value, written⟩ := correct.fields field node given
        refine ⟨value, correct.sections field.owner, fun other again => ?_,
          fun unset => absurd given (unset node)⟩
        rw [← given.unique well again]
        exact written
      · exact ⟨field.fallback, correct.sections field.owner,
          fun node again => absurd ⟨node, again⟩ given, fun _ => rfl⟩
    obtain ⟨s, values⟩ := exists_get fun field => (field.readFrom entries).get (each field)
    have read : ofFields? (.named entries) = some s := by
      rw [ofFields?_eq_some_iff]
      intro α field
      rw [values, Option.some_get]
    rw [read]
    rfl

/-! ## Alike -/

/-- Two trees of documents have the same values for the fields, and both have sections only where
sections are to be. -/
structure Alike (entries others : Entries) : Prop where
  sections : HasSections entries ↔ HasSections others
  given : ∀ {α : Type} (field : Field α) (node : Node),
    Given entries field node ↔ Given others field node

/-- **Alike.**  What is not given for a field makes no difference to the settings. -/
theorem Alike.ofFields?_eq {entries others : Entries} (alike : Alike entries others)
    (well : entries.WellKeyed) (wellOther : others.WellKeyed) :
    ofFields? (.named others) = ofFields? (.named entries) := by
  apply Option.ext
  intro s
  have filled : Filled entries s ↔ Filled others s := by
    unfold Filled
    simp only [alike.given]
  rw [ofFields?_eq_some_iff_filled well, ofFields?_eq_some_iff_filled wellOther, filled,
    alike.sections]

end ClientOrigin.Settings
