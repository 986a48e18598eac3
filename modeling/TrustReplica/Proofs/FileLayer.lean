import TrustReplica.Proofs.JsonMembers
import TrustReplica.Settings.Startup

/-! The layer of a settings file. The defaults are written as a value, the file is merged over it, and the
    result is read by readers that have defaults of their own. Both ways of taking a default come to the
    same, section by section: a reader takes what is merged over its written default as it takes the same
    value without nulls (`TakesMerged`), and a record does so if its members do. So a file is read as if it
    stood alone, with its nulls left out (`Settings.overDefaults_eq_withoutNulls`). -/

namespace TrustReplica

namespace Json

/-! ### Values without nulls -/

mutual

/-- A value without its null members, and without those of the objects that are its members. -/
def withoutNulls : Json → Json
  | object members => object (membersWithoutNulls members)
  | v => v

/-- The members that are not null, each of them without null members. -/
def membersWithoutNulls : List (String × Json) → List (String × Json)
  | [] => []
  | (name, v) :: rest =>
    if v.isNull then membersWithoutNulls rest else (name, v.withoutNulls) :: membersWithoutNulls rest

end

variable {members : List (String × Json)}

theorem withoutNulls_object (members : List (String × Json)) :
    (object members).withoutNulls = object (membersWithoutNulls members) := by rw [withoutNulls]

theorem membersWithoutNulls_eq (members : List (String × Json)) : membersWithoutNulls members =
    (members.filter fun m => !m.2.isNull).map fun m => (m.1, m.2.withoutNulls) := by
  induction members with
  | nil => rw [membersWithoutNulls]; rfl
  | cons m rest ih =>
    rw [membersWithoutNulls, ih, List.filter_cons]
    cases m.2.isNull <;> rfl

theorem lookup_membersWithoutNulls (h : Ascends members) (name : String) :
    lookup name (membersWithoutNulls members) = (told? name members).map withoutNulls := by
  induction members with
  | nil => rw [membersWithoutNulls]; rfl
  | cons m rest ih =>
    obtain ⟨key, value⟩ := m
    obtain ⟨hfirst, hrest⟩ := List.pairwise_cons.mp h
    rw [membersWithoutNulls, told?_cons]
    by_cases hname : key = name
    · subst hname
      rw [if_pos rfl]
      cases hnull : value.isNull with
      | true => simp [Option.filter, hnull, ih hrest, told?_of_forall_lt hfirst]
      | false => simp [Option.filter, hnull, lookup_cons]
    · rw [if_neg hname, ← ih hrest]
      split_ifs
      · rfl
      · rw [lookup_cons, if_neg hname]

end Json

open Json

/-! ### Readers with a default -/

section Readers

variable {α : Type} {read : Json → Option α} {default : α} {written : Json}
  {members source : List (String × Json)} {name : String}

/-- A reader takes a value merged over its written default as it takes the value without nulls. -/
structure TakesMerged (read : Json → Option α) (default : α) (written : Json) : Prop where
  readsDefault : read written = some default
  readsMerged : ∀ v : Json, v.Canonical → read (mergeOver written v) = read v.withoutNulls

/-- Over a default that is no object nothing is merged: the value takes its place. -/
theorem takesMerged_of_plain (hplain : ∀ members, read (.object members) = none)
    (hwritten : read written = some default) : TakesMerged read default written := by
  refine ⟨hwritten, fun v _ => ?_⟩
  cases v with
  | object source =>
    have hplace : mergeOver written (.object source) = .object source := by
      cases written with
      | object members => exact absurd (hwritten.symm.trans (hplain members)) (Option.some_ne_none default)
      | null | flag | number | text | array => rfl
    rw [hplace, withoutNulls_object, hplain, hplain]
  | null | flag | number | text | array => rfl

/-- A record that takes each of its members from the default when it is missing. -/
theorem takesMerged_of_record (hempty : read (.object []) = some default)
    (hmembers : ∀ source, (object source).Canonical →
      read (.object (mergeMembers members source)) = read (.object (membersWithoutNulls source))) :
    TakesMerged read default (.object members) := by
  constructor
  · have hnothing := hmembers [] ⟨List.Pairwise.nil, trivial⟩
    rw [mergeMembers, membersWithoutNulls, hempty] at hnothing
    exact hnothing
  · intro v hv
    cases v with
    | object source => rw [mergeOver_object, withoutNulls_object, hmembers source hv]
    | null | flag | number | text | array => rfl

/-- A member of a merged record is taken as that of the record without nulls. -/
theorem TakesMerged.defaulted (h : TakesMerged read default written)
    (hmember : lookup name members = some written) (hsource : (object source).Canonical) :
    Json.defaulted default read (lookup name (mergeMembers members source)) =
      Json.defaulted default read (lookup name (membersWithoutNulls source)) := by
  obtain ⟨hascends, hvalues⟩ := canonical_object.mp hsource
  rw [lookup_mergeMembers hascends, lookup_membersWithoutNulls hascends, hmember]
  cases htold : told? name source with
  | none => exact h.readsDefault
  | some v =>
    have hv : v.Canonical := by
      obtain ⟨hlookup, _⟩ := Option.filter_eq_some_iff.mp htold
      obtain ⟨m, hm, rfl⟩ := Option.map_eq_some_iff.mp hlookup
      exact hvalues m (List.mem_of_find?_eq_some hm)
    exact h.readsMerged v hv

end Readers

theorem takesMerged_text (s : String) : TakesMerged readText s (.text s) :=
  takesMerged_of_plain (fun _ => rfl) rfl

theorem takesMerged_flag (b : Bool) : TakesMerged readFlag b (.flag b) :=
  takesMerged_of_plain (fun _ => rfl) rfl

theorem takesMerged_natural (n : UInt64) : TakesMerged readNatural n (.natural n) :=
  takesMerged_of_plain (fun _ => rfl) rfl

theorem takesMerged_float {x : Float} (h : x.isFinite = true) : TakesMerged readFloat x (.ofFloat x) :=
  takesMerged_of_plain (fun _ => rfl) (readFloat_ofFloat h)

/-- Texts by name over an empty map: the texts are those of the members that are not null. -/
theorem takesMerged_texts : TakesMerged (readNames readText) ∅ (ofNames .text ∅) := by
  refine takesMerged_of_record rfl fun source hsource => ?_
  obtain ⟨hascends, _⟩ := canonical_object.mp hsource
  have hentries : readEntries some readText (.object (mergeMembers [] source)) =
      readEntries some readText (.object (membersWithoutNulls source)) := by
    have hkept : mergeMembers [] source = [] ++ source.filter fun m => !m.2.isNull :=
      mergeMembers_of_ascends hascends
    have hsame : ∀ v : Json, readText v.withoutNulls = readText v := by
      intro v
      cases v with
      | object members => rw [withoutNulls_object]; rfl
      | null | flag | number | text | array => rfl
    rw [hkept, List.nil_append, membersWithoutNulls_eq, readEntries, readEntries, List.mapM_map]
    simp only [Function.comp_def, hsame]
  exact congrArg (Option.map fun entries => Std.ExtTreeMap.ofList entries) hentries

theorem readUpTo_natural {limit : Nat} {n : UInt64} (h : n.toNat ≤ limit) :
    readUpTo limit (.natural n) = some n.toNat := by
  have hread : readNatural (.natural n) = some n := rfl
  rw [readUpTo, hread, Option.map_some]
  exact Option.filter_some_pos (decide_eq_true h)

/-! ### Sections -/

theorem AssessorSettings.takesMerged_read : TakesMerged read default default.toJson := by
  refine takesMerged_of_record rfl fun source hsource => ?_
  simp only [read, isRecord, member, if_true]
  rw [(takesMerged_text default.baseUrl).defaulted rfl hsource,
    (takesMerged_text default.pushUrl).defaulted rfl hsource,
    (takesMerged_natural default.requestTimeout).defaulted rfl hsource,
    (takesMerged_flag default.fullResync).defaulted rfl hsource]

theorem RetryPolicy.takesMerged_readCount (n : UInt32) : TakesMerged readCount n (.natural n.toUInt64) := by
  refine takesMerged_of_plain (fun _ => rfl) ?_
  have hn : n.toUInt64.toNat ≤ UInt32.size - 1 := Nat.le_sub_one_of_lt n.toNat_lt
  rw [readCount, readUpTo_natural hn, Option.map_some, UInt32.toNat_toUInt64, UInt32.ofNat_toNat]

theorem RetryPolicy.takesMerged_read : TakesMerged read default default.toJson := by
  refine takesMerged_of_record rfl fun source hsource => ?_
  have hmultiplier : default.multiplier.isFinite = true := by decide
  have hjitterFactor : default.jitterFactor.isFinite = true := by decide
  simp only [read, isRecord, member, if_true]
  rw [(takesMerged_readCount default.maxRetries).defaulted rfl hsource,
    (takesMerged_natural default.baseDelay).defaulted rfl hsource,
    (takesMerged_natural default.maxDelay).defaulted rfl hsource,
    (takesMerged_float hmultiplier).defaulted rfl hsource,
    (takesMerged_float hjitterFactor).defaulted rfl hsource]

theorem ReconnectSettings.takesMerged_read : TakesMerged read default default.toJson := by
  refine takesMerged_of_record rfl fun source hsource => ?_
  simp only [read, isRecord, member, if_true]
  rw [(takesMerged_natural default.initialDelay).defaulted rfl hsource,
    (takesMerged_natural default.maxDelay).defaulted rfl hsource]

theorem ServerSettings.takesMerged_readPort (n : UInt16) : TakesMerged readPort n (.natural n.toUInt64) := by
  refine takesMerged_of_plain (fun _ => rfl) ?_
  have hn : n.toUInt64.toNat ≤ UInt16.size - 1 := Nat.le_sub_one_of_lt n.toNat_lt
  rw [readPort, readUpTo_natural hn, Option.map_some, UInt16.toNat_toUInt64, UInt16.ofNat_toNat]

theorem ServerSettings.takesMerged_read : TakesMerged read default default.toJson := by
  refine takesMerged_of_record rfl fun source hsource => ?_
  simp only [read, isRecord, member, if_true]
  rw [(takesMerged_flag default.enabled).defaulted rfl hsource,
    (takesMerged_text default.host).defaulted rfl hsource,
    (takesMerged_readPort default.portNumber).defaulted rfl hsource]

theorem LoggingSettings.takesMerged_read : TakesMerged read default default.toJson := by
  refine takesMerged_of_record rfl fun source hsource => ?_
  have hmodules : TakesMerged (readNames readText) default.modules (ofNames .text default.modules) :=
    takesMerged_texts
  simp only [read, isRecord, member, if_true]
  rw [(takesMerged_text default.level).defaulted rfl hsource, hmodules.defaulted rfl hsource,
    (takesMerged_flag default.json).defaulted rfl hsource]

namespace Settings

theorem takesMerged_readReplica :
    TakesMerged readReplica defaultLogCapacity (replicaToJson defaultLogCapacity) := by
  refine takesMerged_of_record rfl fun source hsource => ?_
  simp only [readReplica, isRecord, member, if_true]
  rw [(takesMerged_natural defaultLogCapacity).defaulted rfl hsource]

theorem takesMerged_read : TakesMerged read default default.toJson := by
  refine takesMerged_of_record rfl fun source hsource => ?_
  have hassessor : TakesMerged AssessorSettings.read default.assessor default.assessor.toJson :=
    AssessorSettings.takesMerged_read
  have hretry : TakesMerged RetryPolicy.read default.retry default.retry.toJson :=
    RetryPolicy.takesMerged_read
  have hreconnect : TakesMerged ReconnectSettings.read default.reconnect default.reconnect.toJson :=
    ReconnectSettings.takesMerged_read
  have hreplica : TakesMerged readReplica default.logCapacity (replicaToJson default.logCapacity) :=
    takesMerged_readReplica
  have hserver : TakesMerged ServerSettings.read default.server default.server.toJson :=
    ServerSettings.takesMerged_read
  have hlogging : TakesMerged LoggingSettings.read default.logging default.logging.toJson :=
    LoggingSettings.takesMerged_read
  simp only [read, isRecord, member, if_true]
  rw [hassessor.defaulted rfl hsource, hretry.defaulted rfl hsource, hreconnect.defaulted rfl hsource,
    hreplica.defaulted rfl hsource, hserver.defaulted rfl hsource, hlogging.defaulted rfl hsource]

theorem overDefaults_of_canonical {v : Json} (hv : v.Canonical) :
    overDefaults v = ofJson v.withoutNulls := by
  rw [overDefaults, ofJson, ofJson, takesMerged_read.readsMerged v hv]

theorem ofFile_text (s : String) : ofFile (.text s) =
    match Json.parse s with
    | .ok v => ofJson v.withoutNulls
    | .error fault => .error (.json fault) := by
  cases hparse : Json.parse s with
  | error fault => simp only [ofFile, hparse]
  | ok v => simp only [ofFile, hparse, overDefaults_of_canonical (canonical_of_parse hparse)]

theorem ofFile_missing : ofFile .missing = .ok default := by
  rw [ofFile, ofJson, takesMerged_read.readsDefault]

/-- A file over the defaults is read as the file alone without its nulls: what the reader puts in the place
    of a missing member is what is written of the defaults, and a null stands for a missing member. This
    holds of every value, and so of every text; and a missing file leaves the defaults. -/
theorem overDefaults_eq_withoutNulls :
    (∀ v : Json, v.Canonical → overDefaults v = ofJson v.withoutNulls) ∧
      (∀ s : String, ofFile (.text s) =
        match Json.parse s with
        | .ok v => ofJson v.withoutNulls
        | .error fault => .error (.json fault)) ∧
      ofFile .missing = .ok default :=
  ⟨fun _ => overDefaults_of_canonical, ofFile_text, ofFile_missing⟩

/-- A file with nulls in a section, among the modules and for a section, with one section as an array, and
    with an unknown member that holds a null. -/
def sparseFile : Json :=
  .object [
    ("logging", .object [("json", .null), ("level", .text "warn"),
      ("modules", .object [("store", .null), ("stream", .text "debug")])]),
    ("retry", .array [.natural 5]),
    ("server", .null),
    ("theme", .object [("dark", .null)])]

/-- A sparse file sets what it tells and nothing else. -/
theorem overDefaults_sparseFile :
    sparseFile.Canonical ∧ ∃ s, overDefaults sparseFile = .ok s ∧ s.logging.level = "warn" ∧
      s.logging.modules["stream"]? = some "debug" ∧ s.logging.modules["store"]? = none ∧
      s.logging.json = false ∧ s.retry.maxRetries = 5 ∧ s.retry.baseDelay = 500 ∧
      s.server.portNumber = 8090 := by
  have hcanonical : sparseFile.Canonical := by
    simp only [sparseFile, Canonical, CanonicalItems, CanonicalMembers, Json.natural]
    decide
  obtain ⟨s, hs⟩ : ∃ s, ofJson sparseFile.withoutNulls = .ok s := ⟨_, rfl⟩
  refine ⟨hcanonical, s, (overDefaults_eq_withoutNulls.1 sparseFile hcanonical).trans hs, ?_⟩
  obtain rfl := Except.ok.inj hs
  exact ⟨rfl, rfl, rfl, rfl, rfl, rfl, rfl⟩

end Settings

end TrustReplica
