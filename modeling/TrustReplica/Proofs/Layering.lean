import TrustReplica.Proofs.FileLayer

/-! How the layers of the settings lie over each other. A `Member` is one place of the settings, with the
    variable that sets it, the texts that this variable may have, and what the command line says of it.
    Setting one member leaves the others as they were (`Member.get_set_of_ne`), so a run over all variables
    gives each member what its own variable says, or leaves it (`Settings.get_withEnvironment`). From there
    on everything is told member by member, over the settings that stand in the file (`Settings.IsGivenBy`).
    The two validations look at the base address again, and at nothing else that the command line can set
    (`Settings.fault?_apply`). -/

namespace TrustReplica

namespace Settings

/-! ### Members -/

/-- One place of the settings. -/
inductive Member where
  | baseUrl | pushUrl | requestTimeout | fullResync
  | maxRetries | baseDelay | maxDelay | multiplier | jitterFactor
  | initialReconnectDelay | maxReconnectDelay
  | logCapacity
  | serverEnabled | host | portNumber
  | logLevel | logModules | logJson
deriving DecidableEq

namespace Member

/-- What stands in a place of the settings. -/
@[reducible] def Value : Member → Type
  | baseUrl | pushUrl | host | logLevel => String
  | fullResync | serverEnabled | logJson => Bool
  | requestTimeout | baseDelay | maxDelay | initialReconnectDelay | maxReconnectDelay | logCapacity => UInt64
  | maxRetries => UInt32
  | portNumber => UInt16
  | multiplier | jitterFactor => Float
  | logModules => NameMap String

/-- The member of settings. -/
def get : (m : Member) → Settings → m.Value
  | baseUrl, s => s.assessor.baseUrl
  | pushUrl, s => s.assessor.pushUrl
  | requestTimeout, s => s.assessor.requestTimeout
  | fullResync, s => s.assessor.fullResync
  | maxRetries, s => s.retry.maxRetries
  | baseDelay, s => s.retry.baseDelay
  | maxDelay, s => s.retry.maxDelay
  | multiplier, s => s.retry.multiplier
  | jitterFactor, s => s.retry.jitterFactor
  | initialReconnectDelay, s => s.reconnect.initialDelay
  | maxReconnectDelay, s => s.reconnect.maxDelay
  | logCapacity, s => s.logCapacity
  | serverEnabled, s => s.server.enabled
  | host, s => s.server.host
  | portNumber, s => s.server.portNumber
  | logLevel, s => s.logging.level
  | logModules, s => s.logging.modules
  | logJson, s => s.logging.json

/-- Settings with another value for the member. -/
def set : (m : Member) → m.Value → Settings → Settings
  | baseUrl, v, s => { s with assessor := { s.assessor with baseUrl := v } }
  | pushUrl, v, s => { s with assessor := { s.assessor with pushUrl := v } }
  | requestTimeout, v, s => { s with assessor := { s.assessor with requestTimeout := v } }
  | fullResync, v, s => { s with assessor := { s.assessor with fullResync := v } }
  | maxRetries, v, s => { s with retry := { s.retry with maxRetries := v } }
  | baseDelay, v, s => { s with retry := { s.retry with baseDelay := v } }
  | maxDelay, v, s => { s with retry := { s.retry with maxDelay := v } }
  | multiplier, v, s => { s with retry := { s.retry with multiplier := v } }
  | jitterFactor, v, s => { s with retry := { s.retry with jitterFactor := v } }
  | initialReconnectDelay, v, s => { s with reconnect := { s.reconnect with initialDelay := v } }
  | maxReconnectDelay, v, s => { s with reconnect := { s.reconnect with maxDelay := v } }
  | logCapacity, v, s => { s with logCapacity := v }
  | serverEnabled, v, s => { s with server := { s.server with enabled := v } }
  | host, v, s => { s with server := { s.server with host := v } }
  | portNumber, v, s => { s with server := { s.server with portNumber := v } }
  | logLevel, v, s => { s with logging := { s.logging with level := v } }
  | logModules, v, s => { s with logging := { s.logging with modules := v } }
  | logJson, v, s => { s with logging := { s.logging with json := v } }

/-- All members, those with a variable first. -/
def all : List Member :=
  [baseUrl, pushUrl, requestTimeout, fullResync, maxRetries, maxReconnectDelay, logCapacity, serverEnabled,
    host, portNumber, logLevel, logJson, baseDelay, maxDelay, multiplier, jitterFactor,
    initialReconnectDelay, logModules]

theorem mem_all (m : Member) : m ∈ all := by cases m <;> decide

theorem nodup_all : all.Nodup := by decide

variable {m m' : Member} {s s' : Settings}

theorem get_set (m : Member) (v : m.Value) (s : Settings) : m.get (m.set v s) = v := by cases m <;> rfl

/-- A member that is set leaves every other one as it was. -/
theorem get_set_of_ne (h : m' ≠ m) (v : m'.Value) (s : Settings) : m.get (m'.set v s) = m.get s := by
  cases m' <;> cases m <;> first | rfl | exact absurd rfl h

/-- Settings are the same if all their members are. -/
theorem ext_get (h : ∀ m : Member, m.get s = m.get s') : s = s' := by
  obtain ⟨⟨_, _, _, _⟩, ⟨_, _, _, _, _⟩, ⟨_, _⟩, _, ⟨_, _, _⟩, ⟨_, _, _⟩⟩ := s
  obtain ⟨⟨_, _, _, _⟩, ⟨_, _, _, _, _⟩, ⟨_, _⟩, _, ⟨_, _, _⟩, ⟨_, _, _⟩⟩ := s'
  simp only [Settings.mk.injEq, AssessorSettings.mk.injEq, RetryPolicy.mk.injEq, ReconnectSettings.mk.injEq,
    ServerSettings.mk.injEq, LoggingSettings.mk.injEq]
  exact ⟨⟨h baseUrl, h pushUrl, h requestTimeout, h fullResync⟩,
    ⟨h maxRetries, h baseDelay, h maxDelay, h multiplier, h jitterFactor⟩,
    ⟨h initialReconnectDelay, h maxReconnectDelay⟩, h logCapacity,
    ⟨h serverEnabled, h host, h portNumber⟩, h logLevel, h logModules, h logJson⟩

/-! ### Variables -/

/-- The variable that sets the member, if there is one. -/
def envName? : Member → Option String
  | baseUrl => some "TAFWATCH_UPSTREAM_URL"
  | pushUrl => some "TAFWATCH_UPSTREAM_WS_URL"
  | requestTimeout => some "TAFWATCH_REQUEST_TIMEOUT_MS"
  | fullResync => some "TAFWATCH_HYDRATE"
  | maxRetries => some "TAFWATCH_MAX_RETRIES"
  | maxReconnectDelay => some "TAFWATCH_RECONNECT_MAX_MS"
  | logCapacity => some "TAFWATCH_EVENT_LOG_CAPACITY"
  | serverEnabled => some "TAFWATCH_SERVER_ENABLED"
  | host => some "TAFWATCH_HOST"
  | portNumber => some "TAFWATCH_PORT"
  | logLevel => some "TAFWATCH_LOG_LEVEL"
  | logJson => some "TAFWATCH_LOG_JSON"
  | baseDelay | maxDelay | multiplier | jitterFactor | initialReconnectDelay | logModules => none

/-- A text is a word for a truth value, in any case of its letters. -/
def IsWordFor (b : Bool) (text : String) : Prop :=
  String.ofList (text.toList.map Char.toLower) ∈
    if b then ["true", "1", "yes", "on"] else ["false", "0", "no", "off"]

/-- A text writes a whole number within a range. -/
def WritesWithin (least most : Nat) (text : String) (n : Nat) : Prop :=
  Decimal.Writes text n ∧ least ≤ n ∧ n ≤ most

/-- The variable of the member may have a text, and means a value by it. -/
def Accepts : (m : Member) → String → m.Value → Prop
  | baseUrl, text, v => text ≠ "" ∧ v = text
  | pushUrl, text, v => text ≠ "" ∧ v = text
  | host, text, v => text ≠ "" ∧ v = text
  | logLevel, text, v => text ≠ "" ∧ v = text
  | fullResync, text, v => IsWordFor v text
  | serverEnabled, text, v => IsWordFor v text
  | logJson, text, v => IsWordFor v text
  | requestTimeout, text, v => WritesWithin 100 600000 text v.toNat
  | maxRetries, text, v => WritesWithin 0 100 text v.toNat
  | maxReconnectDelay, text, v => WritesWithin 100 3600000 text v.toNat
  | logCapacity, text, v => WritesWithin 0 1000000 text v.toNat
  | portNumber, text, v => WritesWithin 0 65535 text v.toNat
  | baseDelay, _, _ | maxDelay, _, _ | multiplier, _, _ | jitterFactor, _, _ => False
  | initialReconnectDelay, _, _ | logModules, _, _ => False

/-- Reads a text of the variable of the member. -/
def read? : (m : Member) → String → Option m.Value
  | baseUrl | pushUrl | host | logLevel => nonEmpty?
  | fullResync | serverEnabled | logJson => parseFlag?
  | requestTimeout => fun text => (Decimal.parseWithin? 100 600000 text).map UInt64.ofNat
  | maxRetries => fun text => (Decimal.parseWithin? 0 100 text).map UInt32.ofNat
  | maxReconnectDelay => fun text => (Decimal.parseWithin? 100 3600000 text).map UInt64.ofNat
  | logCapacity => fun text => (Decimal.parseWithin? 0 1000000 text).map UInt64.ofNat
  | portNumber => fun text => (Decimal.parseWithin? 0 65535 text).map UInt16.ofNat
  | baseDelay | maxDelay | multiplier | jitterFactor | initialReconnectDelay | logModules => fun _ => none

theorem nonEmpty?_eq_some_iff {text v : String} : nonEmpty? text = some v ↔ text ≠ "" ∧ v = text := by
  rw [nonEmpty?]
  split_ifs with h
  · exact iff_of_false not_false fun hv => hv.1 (String.isEmpty_iff.mp h)
  · rw [Option.some.injEq, eq_comm]
    exact ⟨fun hv => ⟨fun ht => h (String.isEmpty_iff.mpr ht), hv⟩, And.right⟩

theorem parseFlag?_eq_some_iff {text : String} {b : Bool} :
    parseFlag? text = some b ↔ IsWordFor b text := by
  rw [parseFlag?, IsWordFor]
  generalize String.ofList (text.toList.map Char.toLower) = word
  split
  case h_9 htrue hone hyes hon hfalse hzero hno hoff =>
    refine iff_of_false (Option.some_ne_none b).symm ?_
    cases b with
    | false => simpa using ⟨hfalse, hzero, hno, hoff⟩
    | true => simpa using ⟨htrue, hone, hyes, hon⟩
  all_goals cases b <;> decide

/-- A number that is read within a range fits the type of its member. -/
theorem map_parseWithin?_eq_some_iff {α : Type} {ofNat : Nat → α} {toNat : α → Nat} {least most : Nat}
    (hof : ∀ a, ofNat (toNat a) = a) (hto : ∀ n ≤ most, toNat (ofNat n) = n) {text : String} {v : α} :
    (Decimal.parseWithin? least most text).map ofNat = some v ↔ WritesWithin least most text (toNat v) := by
  simp only [Option.map_eq_some_iff, Decimal.parseWithin?_eq_some_iff, WritesWithin]
  constructor
  · rintro ⟨n, ⟨hwrites, hleast, hmost⟩, rfl⟩
    rw [hto n hmost]
    exact ⟨hwrites, hleast, hmost⟩
  · exact fun h => ⟨toNat v, h, hof v⟩

/-- The reader of a variable reads just the texts that it accepts. -/
theorem read?_eq_some_iff (m : Member) (text : String) (v : m.Value) :
    m.read? text = some v ↔ m.Accepts text v := by
  have word {least most : Nat} (h : most < UInt64.size) (v : UInt64) :
      (Decimal.parseWithin? least most text).map UInt64.ofNat = some v ↔
        WritesWithin least most text v.toNat :=
    map_parseWithin?_eq_some_iff (fun _ => UInt64.ofNat_toNat) fun n hn =>
      UInt64.toNat_ofNat_of_lt' (by omega)
  cases m with
  | baseUrl | pushUrl | host | logLevel => exact nonEmpty?_eq_some_iff
  | fullResync | serverEnabled | logJson => exact parseFlag?_eq_some_iff
  | requestTimeout => exact word (by decide) v
  | maxReconnectDelay => exact word (by decide) v
  | logCapacity => exact word (by decide) v
  | maxRetries =>
    exact map_parseWithin?_eq_some_iff (fun _ => UInt32.ofNat_toNat) fun n hn =>
      UInt32.toNat_ofNat_of_lt' (Nat.lt_of_le_of_lt hn (by decide))
  | portNumber =>
    exact map_parseWithin?_eq_some_iff (fun _ => UInt16.ofNat_toNat) fun n hn =>
      UInt16.toNat_ofNat_of_lt' (Nat.lt_of_le_of_lt hn (by decide))
  | baseDelay | maxDelay | multiplier | jitterFactor | initialReconnectDelay | logModules =>
    exact ⟨fun h => absurd h (Option.some_ne_none v).symm, False.elim⟩

/-- What the environment says of the member, if its variable is there with a text that it accepts. -/
def inEnvironment? (m : Member) (lookup : String → Option String) : Option m.Value :=
  m.envName?.bind fun name => (lookup name).bind m.read?

/-- Settings with what the environment says of the member. -/
def takeFrom (lookup : String → Option String) (s : Settings) (m : Member) : Settings :=
  match m.inEnvironment? lookup with
  | some v => m.set v s
  | none => s

variable (lookup : String → Option String)

theorem get_takeFrom (m : Member) (s : Settings) :
    m.get (takeFrom lookup s m) = (m.inEnvironment? lookup).getD (m.get s) := by
  rw [takeFrom]
  cases m.inEnvironment? lookup with
  | some v => exact m.get_set v s
  | none => rfl

theorem get_takeFrom_of_ne (h : m' ≠ m) (s : Settings) : m.get (takeFrom lookup s m') = m.get s := by
  rw [takeFrom]
  cases m'.inEnvironment? lookup with
  | some v => exact get_set_of_ne h v s
  | none => rfl

/-- After a run over different members, each of them has what the environment says of it, and every other
    member is as it was. -/
theorem get_foldl_takeFrom {members : List Member} (hnodup : members.Nodup) (m : Member) (s : Settings) :
    m.get (members.foldl (takeFrom lookup) s) =
      if m ∈ members then (m.inEnvironment? lookup).getD (m.get s) else m.get s := by
  induction members generalizing s with
  | nil => rfl
  | cons m' rest ih =>
    obtain ⟨hout, hrest⟩ := List.nodup_cons.mp hnodup
    rw [List.foldl_cons, ih hrest]
    by_cases hm : m' = m
    · subst hm
      rw [if_neg hout, if_pos (List.mem_cons_self ..), get_takeFrom]
    · rw [get_takeFrom_of_ne lookup hm]
      simp [Ne.symm hm]

/-- The override that sets the member by its variable. -/
def override? (m : Member) : Option Override :=
  m.envName?.map fun name => Override.setting name m.read? m.set

theorem apply_override? (m : Member) (s : Settings) :
    (m.override?.elim s fun o => o.apply lookup s) = takeFrom lookup s m := by
  rw [override?, takeFrom, inEnvironment?]
  cases m.envName? with
  | none => rfl
  | some name =>
    simp only [Option.map_some, Option.elim_some, Option.bind_some, Override.apply, Override.setting]
    cases lookup name with
    | none => rfl
    | some text => cases h : m.read? text <;> simp [h]

end Member

end Settings

namespace Override

open Settings Member

/-- What is read may be turned into the value of a member before it is set. -/
theorem setting_map {α β : Type} (name : String) (read? : String → Option α) (f : α → β)
    (set : β → Settings → Settings) :
    setting name read? (fun a => set (f a)) = setting name (fun text => (read? text).map f) set := by
  simp only [setting, Option.map_map]
  rfl

/-- The overrides are those of the members that have a variable. -/
theorem all_eq : Override.all = Member.all.filterMap override? := by
  have hmembers : Member.all.filterMap override? =
      [setting "TAFWATCH_UPSTREAM_URL" baseUrl.read? baseUrl.set,
        setting "TAFWATCH_UPSTREAM_WS_URL" pushUrl.read? pushUrl.set,
        setting "TAFWATCH_REQUEST_TIMEOUT_MS" requestTimeout.read? requestTimeout.set,
        setting "TAFWATCH_HYDRATE" fullResync.read? fullResync.set,
        setting "TAFWATCH_MAX_RETRIES" maxRetries.read? maxRetries.set,
        setting "TAFWATCH_RECONNECT_MAX_MS" maxReconnectDelay.read? maxReconnectDelay.set,
        setting "TAFWATCH_EVENT_LOG_CAPACITY" logCapacity.read? logCapacity.set,
        setting "TAFWATCH_SERVER_ENABLED" serverEnabled.read? serverEnabled.set,
        setting "TAFWATCH_HOST" host.read? host.set,
        setting "TAFWATCH_PORT" portNumber.read? portNumber.set,
        setting "TAFWATCH_LOG_LEVEL" logLevel.read? logLevel.set,
        setting "TAFWATCH_LOG_JSON" logJson.read? logJson.set] := rfl
  rw [hmembers, Override.all]
  simp only [List.cons.injEq, and_true]
  exact ⟨rfl, rfl, setting_map _ _ UInt64.ofNat requestTimeout.set, rfl,
    setting_map _ _ UInt32.ofNat maxRetries.set, setting_map _ _ UInt64.ofNat maxReconnectDelay.set,
    setting_map _ _ UInt64.ofNat logCapacity.set, rfl, rfl, setting_map _ _ UInt16.ofNat portNumber.set,
    rfl, rfl⟩

end Override

namespace Settings

open Member

/-- Under an environment each member has what its own variable says, or stays as it is. -/
theorem get_withEnvironment (s : Settings) (lookup : String → Option String) (m : Member) :
    m.get (s.withEnvironment lookup) = (m.inEnvironment? lookup).getD (m.get s) := by
  have hfold : s.withEnvironment lookup = Member.all.foldl (takeFrom lookup) s := by
    rw [withEnvironment, Override.all_eq, List.foldl_filterMap]
    congr
    funext s m
    rw [← apply_override?]
    cases m.override? <;> rfl
  rw [hfold, get_foldl_takeFrom lookup nodup_all, if_pos m.mem_all]

/-- Environments that say the same of every member are the same to settings. -/
theorem withEnvironment_congr {lookup lookup' : String → Option String}
    (h : ∀ m : Member, m.inEnvironment? lookup = m.inEnvironment? lookup') (s : Settings) :
    s.withEnvironment lookup = s.withEnvironment lookup' := by
  refine ext_get fun m => ?_
  rw [get_withEnvironment, get_withEnvironment, h]

theorem withEnvironment_twice (s : Settings) (lookup : String → Option String) :
    (s.withEnvironment lookup).withEnvironment lookup = s.withEnvironment lookup := by
  refine ext_get fun m => ?_
  rw [get_withEnvironment, get_withEnvironment]
  cases m.inEnvironment? lookup <;> rfl

/-! ### The command line and the validations -/

/-- What a command line says of the member. -/
def Member.onCommandLine? : (m : Member) → CommandLine → Option m.Value
  | baseUrl, c => c.baseUrl
  | portNumber, c => c.portNumber
  | serverEnabled, c => if c.noServer then some false else none
  | _, _ => none

theorem Member.get_apply (m : Member) (c : CommandLine) (s : Settings) :
    m.get (c.apply s) = (m.onCommandLine? c).getD (m.get s) := by
  cases m with
  | serverEnabled =>
    simp only [get, onCommandLine?, CommandLine.apply]
    cases c.noServer <;> simp
  | _ => rfl

/-- Of settings without a fault a command line can only spoil the base address, by a blank one. -/
theorem fault?_apply {s : Settings} (h : s.fault? = none) (c : CommandLine) :
    (c.apply s).fault? = (c.baseUrl.filter Text.allBlank).map fun _ => .emptyBaseUrl := by
  rw [fault?] at h ⊢
  split_ifs at h with hbase hpush hmultiplier hjitter hreconnect
  cases hc : c.baseUrl with
  | none => simp [CommandLine.apply, hc, hbase, hpush, hmultiplier, hjitter, hreconnect]
  | some url =>
    by_cases hblank : Text.allBlank url = true <;>
      simp [CommandLine.apply, hc, hblank, hpush, hmultiplier, hjitter, hreconnect, Option.filter]

theorem validate_eq_ok_iff {s s' : Settings} : s.validate = .ok s' ↔ s.fault? = none ∧ s = s' := by
  rw [validate]
  cases s.fault? <;> simp

theorem exists_validate_eq_error_iff {s : Settings} :
    (∃ e, s.validate = .error e) ↔ ∃ fault, s.fault? = some fault := by
  rw [validate]
  cases s.fault? <;> simp

/-! ### The file -/

/-- What is found in the place of a file gives settings: the defaults if there is nothing, and otherwise what
    is read of the value in it without nulls. -/
def IsGivenBy (s : Settings) : FileContent → Prop
  | .missing => s = default
  | .unreadable => False
  | .text content => ∃ v, Json.parse content = .ok v ∧ read v.withoutNulls = some s

variable {file : FileContent} {lookup lookup' : String → Option String} {c : CommandLine} {s : Settings}

/-- The layer of the file is the settings that it gives. -/
theorem ofFile_eq_ok_iff : ofFile file = .ok s ↔ s.IsGivenBy file := by
  cases file with
  | missing =>
    rw [ofFile_missing, Except.ok.injEq]
    exact eq_comm
  | unreadable => exact iff_of_false (by simp [ofFile]) not_false
  | text content =>
    rw [ofFile_text, IsGivenBy]
    cases Json.parse content with
    | error fault => simp
    | ok v =>
      simp only [ofJson, Except.ok.injEq, exists_eq_left']
      cases read v.withoutNulls <;> simp

theorem exists_ofFile_eq_error_iff : (∃ e, ofFile file = .error e) ↔ ∀ s : Settings, ¬s.IsGivenBy file := by
  simp only [← ofFile_eq_ok_iff]
  cases ofFile file <;> simp

theorem load_eq_ok_iff : load file lookup = .ok s ↔
    ∃ fromFile : Settings, fromFile.IsGivenBy file ∧ (fromFile.withEnvironment lookup).fault? = none ∧
      fromFile.withEnvironment lookup = s := by
  simp only [← ofFile_eq_ok_iff]
  rw [load]
  cases ofFile file with
  | error e => exact iff_of_false (by simp [bind, Except.bind]) (by simp)
  | ok fromFile => simp [bind, Except.bind, validate_eq_ok_iff]

theorem exists_load_eq_error_iff : (∃ e, load file lookup = .error e) ↔
    (∀ fromFile : Settings, ¬fromFile.IsGivenBy file) ∨
      ∃ fromFile : Settings, fromFile.IsGivenBy file ∧
        ∃ e, (fromFile.withEnvironment lookup).validate = .error e := by
  rw [← exists_ofFile_eq_error_iff]
  simp only [← ofFile_eq_ok_iff]
  rw [load]
  cases ofFile file <;> simp [bind, Except.bind]

theorem ofLayers_eq_ok_iff : ofLayers file lookup c = .ok s ↔
    ∃ loaded, load file lookup = .ok loaded ∧ (c.apply loaded).fault? = none ∧ c.apply loaded = s := by
  rw [ofLayers]
  cases load file lookup with
  | error e => simp
  | ok loaded =>
    simp only [Except.ok.injEq, exists_eq_left']
    rw [← validate_eq_ok_iff]
    cases (c.apply loaded).validate <;> simp

/-! ### All layers -/

/-- A member of the settings that are started with is taken from the topmost layer that sets it. -/
structure Member.IsLayered (m : Member) (c : CommandLine) (lookup : String → Option String)
    (fromFile s : Settings) : Prop where
  commandLine : ∀ v, m.onCommandLine? c = some v → m.get s = v
  environment : m.onCommandLine? c = none → ∀ name text v, m.envName? = some name →
    lookup name = some text → m.Accepts text v → m.get s = v
  file : m.onCommandLine? c = none → (∀ name text v, m.envName? = some name →
    lookup name = some text → ¬ m.Accepts text v) → m.get s = m.get fromFile

/-- How the layers lie over what is in the place of the file. -/
structure IsLayered (file : FileContent) : Prop where
  /-- Every member of the settings is taken from the topmost layer that sets it. -/
  members : ∀ lookup c s, ofLayers file lookup c = .ok s →
    ∃ fromFile : Settings, fromFile.IsGivenBy file ∧ ∀ m : Member, m.IsLayered c lookup fromFile s
  /-- A variable with a text that no member accepts might as well not be there. -/
  rejected : ∀ lookup c name text, lookup name = some text →
    (∀ m : Member, m.envName? = some name → ∀ v, ¬ m.Accepts text v) →
    ofLayers file lookup c = ofLayers file (fun n => if n = name then none else lookup n) c
  /-- A variable leaves every member alone but its own. -/
  own : ∀ lookup lookup' name, (∀ n, n ≠ name → lookup n = lookup' n) → ∀ m : Member,
    m.envName? ≠ some name → ∀ s : Settings,
      m.get (s.withEnvironment lookup) = m.get (s.withEnvironment lookup')
  twice : ∀ (s : Settings) lookup,
    (s.withEnvironment lookup).withEnvironment lookup = s.withEnvironment lookup
  /-- The command line has no part in the first stage. -/
  load : ∀ lookup c, (∃ e, ofLayers file lookup c = .error (.load e)) ↔
    (∀ fromFile : Settings, ¬fromFile.IsGivenBy file) ∨
      ∃ fromFile : Settings, fromFile.IsGivenBy file ∧
        ∃ e, (fromFile.withEnvironment lookup).validate = .error e
  /-- Once loaded, settings are refused for a blank base address on the command line, and for nothing else. -/
  validate : ∀ lookup c s, Settings.load file lookup = .ok s →
    ((∃ e, ofLayers file lookup c = .error (.validate e)) ↔
      ∃ url, c.baseUrl = some url ∧ Text.allBlank url = true)

theorem Member.isLayered_apply (m : Member) (c : CommandLine) (lookup : String → Option String)
    (fromFile : Settings) : m.IsLayered c lookup fromFile (c.apply (fromFile.withEnvironment lookup)) := by
  have hget := m.get_apply c (fromFile.withEnvironment lookup)
  rw [get_withEnvironment] at hget
  refine ⟨fun v hv => ?_, fun hc name text v hname htext hv => ?_, fun hc hno => ?_⟩
  · rw [hget, hv]
    rfl
  · have hread : m.inEnvironment? lookup = some v := by
      rw [inEnvironment?, hname, Option.bind_some, htext, Option.bind_some]
      exact (m.read?_eq_some_iff text v).mpr hv
    rw [hget, hc, hread]
    rfl
  · have hread : m.inEnvironment? lookup = none := by
      rw [Option.eq_none_iff_forall_ne_some]
      intro v hv
      obtain ⟨name, hname, hv⟩ := Option.bind_eq_some_iff.mp hv
      obtain ⟨text, htext, hv⟩ := Option.bind_eq_some_iff.mp hv
      exact hno name text v hname htext ((m.read?_eq_some_iff text v).mp hv)
    rw [hget, hc, hread]
    rfl

/-- What the environment says of a member hangs on the variable of the member alone. -/
theorem Member.inEnvironment?_congr {m : Member}
    (h : ∀ name, m.envName? = some name → lookup name = lookup' name) :
    m.inEnvironment? lookup = m.inEnvironment? lookup' := by
  rw [inEnvironment?, inEnvironment?]
  cases hname : m.envName? with
  | none => rfl
  | some name => rw [Option.bind_some, Option.bind_some, h name hname]

theorem ofLayers_congr (h : ∀ m : Member, m.inEnvironment? lookup = m.inEnvironment? lookup') :
    ofLayers file lookup c = ofLayers file lookup' c := by
  have hload : load file lookup = load file lookup' := by
    rw [load, load]
    cases ofFile file with
    | error e => rfl
    | ok s => exact congrArg Settings.validate (withEnvironment_congr h s)
  rw [ofLayers, ofLayers, hload]

/-- The layers of the settings: the command line over the environment over the file. -/
theorem isLayered (file : FileContent) : IsLayered file where
  members := by
    intro lookup c s hs
    obtain ⟨loaded, hload, -, rfl⟩ := ofLayers_eq_ok_iff.mp hs
    obtain ⟨fromFile, hfile, -, rfl⟩ := load_eq_ok_iff.mp hload
    exact ⟨fromFile, hfile, fun m => m.isLayered_apply c lookup fromFile⟩
  rejected := by
    intro lookup c name text htext hrejected
    refine ofLayers_congr fun m => ?_
    by_cases hname : m.envName? = some name
    · have hnone : m.read? text = none := by
        rw [Option.eq_none_iff_forall_ne_some]
        exact fun v hv => hrejected m hname v ((m.read?_eq_some_iff text v).mp hv)
      simp [inEnvironment?, hname, htext, hnone]
    · refine inEnvironment?_congr fun n hn => (if_neg ?_).symm
      rintro rfl
      exact hname hn
  own := by
    intro lookup lookup' name hsame m hname s
    rw [get_withEnvironment, get_withEnvironment, inEnvironment?_congr fun n hn => hsame n ?_]
    rintro rfl
    exact hname hn
  twice := withEnvironment_twice
  load := by
    intro lookup c
    rw [← exists_load_eq_error_iff, ofLayers]
    cases Settings.load file lookup with
    | error e => simp
    | ok s => cases h : (c.apply s).validate <;> simp [h]
  validate := by
    intro lookup c s hload
    have hfault : s.fault? = none := by
      obtain ⟨_, -, hfault, rfl⟩ := load_eq_ok_iff.mp hload
      exact hfault
    have hstage : (∃ e, ofLayers file lookup c = .error (.validate e)) ↔
        ∃ e, (c.apply s).validate = .error e := by
      rw [ofLayers, hload]
      cases h : (c.apply s).validate <;> simp [h]
    rw [hstage, exists_validate_eq_error_iff, fault?_apply hfault]
    simp [Option.filter_eq_some_iff]

/-- An environment with a host, a port, and more retries than there may be. -/
def manyRetries : String → Option String
  | "TAFWATCH_HOST" => some "h"
  | "TAFWATCH_PORT" => some "8080"
  | "TAFWATCH_MAX_RETRIES" => some "101"
  | _ => none

/-- A file with a host, retries, and a level of the log. -/
def fileWithHost : FileContent :=
  .text ("\x7b\"server\":\x7b\"host\":\"f\"\x7d,\"retry\":\x7b\"maxRetries\":9\x7d," ++
    "\"logging\":\x7b\"level\":\"warn\"\x7d\x7d")

/-- The port of the command line stands over the one of the environment, and the host of the environment over
    the one of the file. The file gives the level, and the retries too, since those of the environment are
    passed over; and a blank base address is refused at the second stage. -/
theorem isLayered_manyRetries :
    (∃ s, ofLayers fileWithHost manyRetries ⟨none, none, some 7, false⟩ = .ok s ∧
      s.server.portNumber = 7 ∧ s.server.host = "h" ∧ s.logging.level = "warn" ∧ s.retry.maxRetries = 9) ∧
    ofLayers fileWithHost manyRetries ⟨none, none, some 7, false⟩ = ofLayers fileWithHost
      (fun n => if n = "TAFWATCH_MAX_RETRIES" then none else manyRetries n) ⟨none, none, some 7, false⟩ ∧
    ∃ e, ofLayers .missing manyRetries ⟨none, some " ", none, false⟩ = .error (.validate e) := by
  have hlayers := isLayered fileWithHost
  have hrefused (v : maxRetries.Value) : ¬maxRetries.Accepts "101" v := by
    have hread : maxRetries.read? "101" = none := by decide +kernel
    rw [← read?_eq_some_iff, hread]
    exact (Option.some_ne_none v).symm
  have hstarts : (ofLayers fileWithHost manyRetries ⟨none, none, some 7, false⟩).isOk = true := by
    decide +kernel
  obtain ⟨s, hs⟩ : ∃ s, ofLayers fileWithHost manyRetries ⟨none, none, some 7, false⟩ = .ok s := by
    cases h : ofLayers fileWithHost manyRetries ⟨none, none, some 7, false⟩ with
    | error e => rw [h] at hstarts; cases hstarts
    | ok s => exact ⟨s, rfl⟩
  obtain ⟨loaded, hload⟩ : ∃ s, load .missing manyRetries = .ok s := ⟨_, rfl⟩
  obtain ⟨fromFile, hgiven, hmembers⟩ := hlayers.members _ _ s hs
  have hfile : (ofFile fileWithHost).toOption.map (fun s => (s.logging.level, s.retry.maxRetries)) =
      some ("warn", 9) := by decide +kernel
  rw [ofFile_eq_ok_iff.mpr hgiven] at hfile
  obtain ⟨hlevel, hretries⟩ := Prod.mk.inj (Option.some_inj.mp hfile)
  refine ⟨⟨s, hs, (hmembers .portNumber).commandLine 7 rfl, ?_, ?_, ?_⟩, ?_, ?_⟩
  · exact (hmembers .host).environment rfl _ "h" "h" rfl rfl ⟨by decide, rfl⟩
  · refine Eq.trans ((hmembers .logLevel).file rfl fun name text v hname htext => ?_) hlevel
    obtain rfl := Option.some_inj.mp hname
    exact absurd htext (Option.some_ne_none text).symm
  · refine Eq.trans ((hmembers .maxRetries).file rfl fun name text v hname htext => ?_) hretries
    obtain rfl := Option.some_inj.mp hname
    obtain rfl := Option.some_inj.mp htext
    exact hrefused v
  · refine hlayers.rejected _ _ _ "101" rfl fun m hname v hv => ?_
    cases m with
    | maxRetries => exact hrefused v hv
    | _ => exact absurd hname (by decide)
  · exact ((isLayered .missing).validate _ _ loaded hload).mpr ⟨" ", rfl, by decide⟩

end Settings

end TrustReplica
